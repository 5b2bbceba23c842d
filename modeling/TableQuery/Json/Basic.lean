import TableQuery.Binary64.Basic

/-! Data documents. The members of an object keep the order in which their keys first came, and a
key that comes again takes its new value at its old place. -/

namespace TableQuery

inductive Json
  | null
  | boolean (value : Bool)
  | integer (value : Int)
  | double (value : Binary64)
  | text (value : String)
  | array (items : List Json)
  | object (members : List (String × Json))
deriving Inhabited

abbrev Record := List (String × Json)

namespace Record

def insert (key : String) (value : Json) : Record → Record
  | [] => [(key, value)]
  | (other, old) :: rest =>
    if other = key then (other, value) :: rest else (other, old) :: insert key value rest

def keys (record : Record) : List String := record.map Prod.fst

def get? (record : Record) (key : String) : Option Json := record.lookup key

end Record

namespace Json

def items? : Json → Option (List Json)
  | .array items => some items
  | _ => none

def members? : Json → Option Record
  | .object members => some members
  | _ => none

end Json

end TableQuery
