/-! Options of delimited text. A mark is a nonempty piece of text that divides cells or rows. -/

namespace TableQuery.Delimited

structure Mark where
  head : Char
  tail : List Char
deriving DecidableEq

namespace Mark

def chars (mark : Mark) : List Char := mark.head :: mark.tail

def cut? (mark : Mark) : List Char → Option (List Char)
  | [] => none
  | c :: rest =>
    if c = mark.head ∧ mark.tail.isPrefixOf rest then some (rest.drop mark.tail.length) else none

theorem cut?_shorter {mark : Mark} {text after : List Char} (found : mark.cut? text = some after) :
    after.length < text.length := by
  cases text with
  | nil => simp [cut?] at found
  | cons c rest =>
    simp only [cut?, Option.ite_none_right_eq_some, Option.some.injEq] at found
    rw [← found.2, List.length_drop, List.length_cons]
    omega

theorem cut?_eq_some_iff {mark : Mark} {text after : List Char} :
    mark.cut? text = some after ↔ text = mark.chars ++ after := by
  cases text with
  | nil => simp [cut?, chars]
  | cons c rest =>
    simp only [cut?, Option.ite_none_right_eq_some, Option.some.injEq, chars, List.cons_append,
      List.cons.injEq, List.isPrefixOf_iff_prefix, and_assoc]
    constructor
    · rintro ⟨same, ⟨rest', rfl⟩, rfl⟩
      simp [same]
    · rintro ⟨same, rfl⟩
      simp [same]

def ofChars (chars : List Char) (otherwise : Mark) : Mark :=
  match chars with
  | [] => otherwise
  | head :: tail => ⟨head, tail⟩

theorem chars_ofChars {text : List Char} (present : text ≠ []) (otherwise : Mark) :
    (ofChars text otherwise).chars = text := by
  cases text with
  | nil => exact absurd rfl present
  | cons c rest => rfl

theorem head_eq_iff {mark : Mark} {text : List Char} (written : mark.chars = text) (c : Char) :
    mark.head = c ↔ text.head? = some c := by
  rw [← written, chars, List.head?_cons, Option.some.injEq]

end Mark

structure Options where
  separator : String := ","
  newline : String := "\r\n"
  stripNewlines : Bool := false
  inferTypes : Bool := false
  header : Bool := true
deriving DecidableEq, Inhabited

namespace Options

def tabbed : Options := { separator := "\t" }

/-- Cells are divided by the first two characters of the separator. -/
def separatorMark (options : Options) : Mark :=
  .ofChars (options.separator.toList.take 2) ⟨',', []⟩

def newlineMark (options : Options) : Mark := .ofChars options.newline.toList ⟨'\r', ['\n']⟩

theorem chars_separatorMark {options : Options} (least : 1 ≤ options.separator.toList.length)
    (most : options.separator.toList.length ≤ 2) :
    options.separatorMark.chars = options.separator.toList := by
  rw [separatorMark, List.take_of_length_le most]
  exact Mark.chars_ofChars (List.length_pos_iff.mp least) _

theorem chars_newlineMark {options : Options} (present : options.newline.toList ≠ []) :
    options.newlineMark.chars = options.newline.toList :=
  Mark.chars_ofChars present _

end Options

end TableQuery.Delimited
