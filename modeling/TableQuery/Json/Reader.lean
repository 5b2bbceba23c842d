import TableQuery.Json.Token

/-! Data documents read from their tokens. The containers that are still open stand on a stack, and
what may come next is part of the state, so one pass over the tokens reads the document. At most
127 containers are open at once. Read verbatim, an object shows a repeated key as often as it came
and a number may be too large; a document has neither. A reader may pass over values that it has no
use for: inside them containers nest without end, and a text may hold half of a pair. -/

namespace TableQuery.Json

/-- An open container: the items so far with the last one first, or the members so far and the key
that waits for its value. -/
inductive Frame
  | array (items : List Json)
  | object (members : Record) (key : String)

inductive State
  | value (frames : List Frame)
  | firstItem (frames : List Frame)
  | firstKey (frames : List Frame)
  | nextKey (members : Record) (frames : List Frame)
  | colon (members : Record) (key : String) (frames : List Frame)
  | afterItem (items : List Json) (frames : List Frame)
  | afterMember (members : Record) (frames : List Frame)
  | finished (document : Json)

def nestingLimit : Nat := 127

def complete (value : Json) : List Frame → State
  | [] => .finished value
  | .array items :: outer => .afterItem (value :: items) outer
  | .object members key :: outer => .afterMember (members ++ [(key, value)]) outer

/-- Begins or completes a value inside the open containers; `passes` tells whether it is passed
over there. -/
def openValue (passes : List Frame → Bool) (token : Token) (frames : List Frame) :
    Option State :=
  let mayNest := frames.length < nestingLimit || passes frames
  match token with
  | .scalar value => some (complete value frames)
  | .unpaired => if passes frames then some (complete .null frames) else none
  | .openArray => if mayNest then some (.firstItem frames) else none
  | .openObject => if mayNest then some (.firstKey frames) else none
  | _ => none

def key? (passes : List Frame → Bool) (frames : List Frame) : Token → Option String
  | .scalar (.text key) => some key
  | .unpaired => if passes frames then some "" else none
  | _ => none

def step (passes : List Frame → Bool) : State → Token → Option State
  | .value frames, token => openValue passes token frames
  | .firstItem frames, .closeArray => some (complete (.array []) frames)
  | .firstItem frames, token => openValue passes token (.array [] :: frames)
  | .firstKey frames, .closeObject => some (complete (.object []) frames)
  | .firstKey frames, token => (key? passes frames token).map fun key => .colon [] key frames
  | .nextKey members frames, token =>
    (key? passes frames token).map fun key => .colon members key frames
  | .colon members key frames, .colon => some (.value (.object members key :: frames))
  | .afterItem items frames, .comma => some (.value (.array items :: frames))
  | .afterItem items frames, .closeArray => some (complete (.array items.reverse) frames)
  | .afterMember members frames, .comma => some (.nextKey members frames)
  | .afterMember members frames, .closeObject => some (complete (.object members) frames)
  | _, _ => none

def documentOf? (passes : List Frame → Bool) (tokens : List Token) : Option Json :=
  match tokens.foldlM (step passes) (.value []) with
  | some (.finished document) => some document
  | _ => none

def readVerbatim? (passes : List Frame → Bool) (text : String) : Option Json :=
  (tokens? text.toList).bind (documentOf? passes)

mutual

def allFinite : Json → Bool
  | .double x => x.isFinite
  | .array items => allFiniteItems items
  | .object members => allFiniteMembers members
  | _ => true

def allFiniteItems : List Json → Bool
  | [] => true
  | item :: rest => allFinite item && allFiniteItems rest

def allFiniteMembers : List (String × Json) → Bool
  | [] => true
  | (_, value) :: rest => allFinite value && allFiniteMembers rest

end

mutual

/-- Joins repeated keys: the first place and the last value stay. -/
def joinKeys : Json → Json
  | .array items => .array (joinKeysItems items)
  | .object members => .object (joinKeysMembers [] members)
  | scalar => scalar

def joinKeysItems : List Json → List Json
  | [] => []
  | item :: rest => joinKeys item :: joinKeysItems rest

def joinKeysMembers (done : Record) : List (String × Json) → Record
  | [] => done
  | (key, value) :: rest => joinKeysMembers (done.insert key (joinKeys value)) rest

end

def read? (text : String) : Option Json :=
  ((readVerbatim? (fun _ => false) text).filter allFinite).map joinKeys

end TableQuery.Json
