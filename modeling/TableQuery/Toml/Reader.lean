import TableQuery.Toml.Scalar

/-! Settings documents read line by line. A header chooses the table that the following lines add
to. Any departure from the rules makes the whole document unreadable. -/

namespace TableQuery.Toml

def isBareChar (c : Char) : Bool := c.isAlphanum || c == '_' || c == '-'

def keyPart? (input : List Char) : Option (String × List Char) :=
  match input with
  | '"' :: rest =>
    (basicBody rest.length rest).map fun (body, after) => (String.ofList body, after)
  | '\'' :: rest => (literalBody rest).map fun (body, after) => (String.ofList body, after)
  | _ =>
    let word := input.takeWhile isBareChar
    if word.isEmpty then none else some (String.ofList word, input.dropWhile isBareChar)

/-- How deep arrays and inline tables may nest, and how many parts a key may have. -/
def nestingLimit : Nat := 79

/-- The parts of a dotted key, all but the last and the last, and what follows. The measure bounds
the number of parts. -/
def key? : Nat → List Char → Option ((List String × String) × List Char)
  | 0, _ => none
  | steps + 1, input =>
    match keyPart? (skipSpaces input) with
    | none => none
    | some (part, rest) =>
      match skipSpaces rest with
      | '.' :: rest =>
        (key? steps rest).map fun ((path, last), after) => ((part :: path, last), after)
      | rest => some (([], part), rest)

def skipComment? (input : List Char) : Option (List Char) :=
  match input with
  | '#' :: rest =>
    let after := rest.dropWhile isPrintable
    if after.isEmpty || isNewline after then some after else none
  | _ => some input

def skipLines : Nat → List Char → Option (List Char)
  | 0, input => some input
  | steps + 1, input =>
    match skipComment? (skipSpaces input) with
    | none => none
    | some rest =>
      match cutNewline rest with
      | some rest => skipLines steps rest
      | none => some rest

mutual

/-- A value and what follows; `depth` is how deep arrays and inline tables may still nest. -/
def value? (depth : Nat) : Nat → List Char → Option (Toml × List Char)
  | 0, _ => none
  | steps + 1, input =>
    match input with
    | '[' :: rest =>
      if depth = 0 then none
      else (items? (depth - 1) steps rest).map fun (items, after) => (.array items, after)
    | '{' :: rest =>
      if depth = 0 then none
      else
        match skipSpaces rest with
        | '}' :: after => some (.table .inline [], after)
        | rest =>
          (pairs? (depth - 1) steps [] rest).map fun (members, after) =>
            (.table .inline members, after)
    | '"' :: _ => (text? input).map fun (body, after) => (.text (.ofList body), after)
    | '\'' :: _ => (text? input).map fun (body, after) => (.text (.ofList body), after)
    | _ => scalar? input

def items? (depth : Nat) : Nat → List Char → Option (List Toml × List Char)
  | 0, _ => none
  | steps + 1, input =>
    match skipLines input.length input with
    | none => none
    | some (']' :: after) => some ([], after)
    | some rest =>
      match value? depth steps rest with
      | none => none
      | some (item, rest) =>
        match skipLines rest.length rest with
        | some (',' :: rest) =>
          (items? depth steps rest).map fun (items, after) => (item :: items, after)
        | some (']' :: after) => some ([item], after)
        | _ => none

def pairs? (depth : Nat) : Nat → Members → List Char → Option (Members × List Char)
  | 0, _, _ => none
  | steps + 1, members, input =>
    match key? nestingLimit input with
    | some ((path, last), '=' :: rest) =>
      match value? depth steps (skipSpaces rest) with
      | none => none
      | some (value, rest) =>
        match addKeyed path last value .opened members with
        | none => none
        | some members =>
          match skipSpaces rest with
          | ',' :: rest => pairs? depth steps members rest
          | '}' :: after => some (members, after)
          | _ => none
    | _ => none

end

structure Draft where
  members : Members := []
  header : List String := []

def header? (draft : Draft) (input : List Char) : Option (Draft × List Char) :=
  match input with
  | '[' :: '[' :: rest =>
    match key? nestingLimit rest with
    | some ((path, last), ']' :: ']' :: after) =>
      (descend false (openNext last) path .opened draft.members).map fun members =>
        ({ members := members, header := path ++ [last] }, after)
    | _ => none
  | '[' :: rest =>
    match key? nestingLimit rest with
    | some ((path, last), ']' :: after) =>
      (descend false (openTable last) path .opened draft.members).map fun members =>
        ({ members := members, header := path ++ [last] }, after)
    | _ => none
  | _ => none

def keyed? (draft : Draft) (input : List Char) : Option (Draft × List Char) :=
  match key? nestingLimit input with
  | some ((path, last), '=' :: rest) =>
    match value? nestingLimit (rest.length + 1) (skipSpaces rest) with
    | none => none
    | some (value, after) =>
      (descend false (addKeyed path last value) draft.header .opened draft.members).map
        fun members => ({ draft with members := members }, after)
  | _ => none

def line? (draft : Draft) (input : List Char) : Option (Draft × List Char) :=
  match skipSpaces input with
  | [] => some (draft, [])
  | '#' :: rest => some (draft, '#' :: rest)
  | '[' :: rest => header? draft ('[' :: rest)
  | rest => if isNewline rest then some (draft, rest) else keyed? draft rest

def lines? : Nat → Draft → List Char → Option Draft
  | 0, draft, input => if input.isEmpty then some draft else none
  | steps + 1, draft, input =>
    match line? draft input with
    | none => none
    | some (draft, rest) =>
      match skipComment? (skipSpaces rest) with
      | none => none
      | some [] => some draft
      | some rest =>
        match cutNewline rest with
        | some rest => lines? steps draft rest
        | none => none

def withoutMark : List Char → List Char
  | '\ufeff' :: rest => rest
  | input => input

/-- The members of a document. Every line ends with at least one character, so as many steps as
there are characters are enough. -/
def read? (input : String) : Option Members :=
  let chars := withoutMark input.toList
  (lines? (chars.length + 1) {} chars).map Draft.members

end TableQuery.Toml
