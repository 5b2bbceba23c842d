/-! Case mappings as tables of runs. A run covers every code point from its first to its last in
equal steps, and moves each of them by the same distance. -/

namespace TableQuery.Text

structure Run where
  first : Nat
  last : Nat
  step : Nat
  shift : Int

def Run.covers (run : Run) (code : Nat) : Bool :=
  run.first ≤ code && code ≤ run.last && (code - run.first) % run.step == 0

def moveBy (runs : List Run) (c : Char) : Char :=
  match runs.find? fun run => run.covers c.toNat with
  | some run => Char.ofNat (c.toNat + run.shift).toNat
  | none => c

end TableQuery.Text
