import TableQuery.Cell.Basic
import TableQuery.Text.Quoted

/-! Functions by name. A predicate decides whether a cell fits its arguments, and a setter computes
a new cell. Registering a name again replaces the function. -/

namespace TableQuery

abbrev Predicate := Cell → List String → Bool

abbrev Setter := Cell → List String → Cell

structure Registry where
  predicates : List (String × Predicate) := []
  setters : List (String × Setter) := []
deriving Inhabited

namespace Registry

def predicate? (registry : Registry) (name : String) : Option Predicate :=
  registry.predicates.lookup name

def setter? (registry : Registry) (name : String) : Option Setter :=
  registry.setters.lookup name

def replace {α : Type} (entries : List (String × α)) (name : String) (value : α) :
    List (String × α) :=
  (name, value) :: entries.filter fun entry => entry.1 != name

def registerPredicate (registry : Registry) (name : String) (predicate : Predicate) : Registry :=
  { registry with predicates := replace registry.predicates name predicate }

def registerSetter (registry : Registry) (name : String) (setter : Setter) : Registry :=
  { registry with setters := replace registry.setters name setter }

def sortedNames {α : Type} (entries : List (String × α)) : List String :=
  (entries.map Prod.fst).mergeSort fun a b => a ≤ b

def predicateNames (registry : Registry) : List String := sortedNames registry.predicates

def setterNames (registry : Registry) : List String := sortedNames registry.setters

def nameList (names : List String) : String :=
  "[" ++ String.intercalate ", " (names.map Text.quoted) ++ "]"

def describe (registry : Registry) : String :=
  "FunctionRegistry \x7b predicates: " ++ nameList registry.predicateNames ++ ", setters: " ++
    nameList registry.setterNames ++ " \x7d"

end Registry

end TableQuery
