/-! Settings documents: tables of keyed values. A table remembers how it came to be, because that
decides whether it may be added to later. -/

namespace TableQuery

inductive TableForm
  /-- Named only as a part of a longer header. -/
  | implied
  | opened
  | dotted
  | inline
deriving DecidableEq

inductive Toml
  | text (value : String)
  | boolean (value : Bool)
  | number (digits : String)
  | moment (written : String)
  | array (items : List Toml)
  | table (form : TableForm) (members : List (String × Toml))
  /-- The tables of repeated headers in double brackets, the latest first. -/
  | tables (members : List (List (String × Toml)))
deriving Inhabited

namespace Toml

abbrev Members := List (String × Toml)

def put (key : String) (value : Toml) : Members → Members
  | [] => [(key, value)]
  | (other, old) :: rest =>
    if other = key then (other, value) :: rest else (other, old) :: put key value rest

/-- Changes the table that a path leads to. Tables missing on the way are made, dotted or implied.
A dotted key passes through no table that a header opened, and nothing passes through a complete
value. -/
def descend (dotted : Bool) (change : TableForm → Members → Option Members) :
    List String → TableForm → Members → Option Members
  | [], form, members => change form members
  | key :: path, _, members =>
    match members.lookup key with
    | none =>
      let form : TableForm := if dotted then .dotted else .implied
      (descend dotted change path form []).map fun inner => put key (.table form inner) members
    | some (.table form inner) =>
      if form = .inline ∨ dotted ∧ form = .opened then none
      else (descend dotted change path form inner).map fun inner =>
        put key (.table form inner) members
    | some (.tables (latest :: earlier)) =>
      (descend dotted change path .opened latest).map fun latest =>
        put key (.tables (latest :: earlier)) members
    | some _ => none

/-- A new member; a key stands once in a table, and a dotted key adds to dotted tables only. -/
def addNew (dottedKey : Bool) (key : String) (value : Toml) (form : TableForm)
    (members : Members) : Option Members :=
  if dottedKey ∧ form ≠ .dotted ∨ !dottedKey ∧ form = .dotted then none
  else if (members.lookup key).isSome then none
  else some (members ++ [(key, value)])

def addKeyed (path : List String) (key : String) (value : Toml) (form : TableForm)
    (members : Members) : Option Members :=
  descend true (addNew (!path.isEmpty) key value) path form members

def openTable (key : String) (_ : TableForm) (members : Members) : Option Members :=
  match members.lookup key with
  | none => some (members ++ [(key, .table .opened [])])
  | some (.table .implied inner) => some (put key (.table .opened inner) members)
  | some _ => none

def openNext (key : String) (_ : TableForm) (members : Members) : Option Members :=
  match members.lookup key with
  | none => some (members ++ [(key, .tables [[]])])
  | some (.tables earlier) => some (put key (.tables ([] :: earlier)) members)
  | some _ => none

end Toml

end TableQuery
