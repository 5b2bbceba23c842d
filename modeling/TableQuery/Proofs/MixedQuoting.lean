import Mathlib.Data.List.Infix
import TableQuery.Proofs.DelimitedScanning

/-! Delimited text whose cells are quoted or not, as their writer liked. A cell may stand bare when
no mark stands in it and no quote at its start, and quotes later in it are plain text. Quoted cells
and whole rows are read as in text that is quoted throughout. Bare cells bring two things of their
own: a mark must not begin in one and end after it, and an empty one is not seen at all where
nothing else is left of its row. -/

namespace TableQuery.Delimited

namespace Options

def starts (options : Options) : List Char :=
  [options.separatorMark.head, options.newlineMark.head]

/-- Marks that are told apart, and told from the text before them, by their first characters. -/
structure Apart (options : Options) : Prop where
  plain : '"' ∉ options.starts
  differ : options.separatorMark.head ≠ options.newlineMark.head
  once : ∀ c ∈ options.starts, c ∉ options.separatorMark.tail ∧ c ∉ options.newlineMark.tail

def Follows (options : Options) (rest : List Char) : Prop := ∀ c ∈ rest.head?, c ∈ options.starts

end Options

/-- A cell as it stands in a text: in quotes, with each quote of its own doubled, or bare. -/
inductive WrittenCell (options : Options)
  | quoted (cell : List Char)
  | bare (cell : List Char) (unquoted : cell.head? ≠ some '"')
      (whole : ¬options.separatorMark.chars <:+: cell)
      (unbroken : ¬options.newlineMark.chars <:+: cell)

namespace WrittenCell

variable {options : Options}

def cell : WrittenCell options → List Char
  | quoted cell => cell
  | bare cell _ _ _ => cell

def chars : WrittenCell options → List Char
  | quoted cell => '"' :: doubleQuotes cell ++ ['"']
  | bare cell _ _ _ => cell

end WrittenCell

section

variable {options : Options}

end

theorem cut?_append {mark : Mark} {text rest : List Char} (present : text ≠ [])
    (fresh : ∀ d ∈ rest.head?, d ∉ mark.tail) :
    mark.cut? (text ++ rest) = (mark.cut? text).map (· ++ rest) := by
  cases found : mark.cut? text with
  | some after =>
    rw [Option.map_some, Mark.cut?_eq_some_iff, ← List.append_assoc,
      ← Mark.cut?_eq_some_iff.mp found]
  | none =>
    have absent : ¬mark.chars <+: text := by
      rintro ⟨after, same⟩
      rw [Mark.cut?_eq_some_iff.mpr same.symm] at found
      contradiction
    rw [Option.map_none, Option.eq_none_iff_forall_ne_some]
    intro after marked
    have same : text ++ rest = mark.chars ++ after := Mark.cut?_eq_some_iff.mp marked
    rcases List.prefix_or_prefix_of_prefix ⟨after, same.symm⟩ (List.prefix_append text rest) with
      shorter | ⟨overhang, longer⟩
    · exact absent shorter
    · obtain ⟨c, text, rfl⟩ := List.exists_cons_of_ne_nil present
      cases overhang with
      | nil =>
        rw [List.append_nil] at longer
        exact absent (longer ▸ List.prefix_rfl)
      | cons d overhang =>
        have later : mark.tail = text ++ d :: overhang := (List.cons.inj longer).2.symm
        have next : rest = d :: overhang ++ after := by
          rw [← longer, List.append_assoc] at same
          exact List.append_cancel_left same
        exact fresh d (by rw [next]; rfl) (by rw [later]; simp)

section Written

variable {options : Options} {rest : List Char}

theorem follows_newline (options : Options) (rest : List Char) :
    options.Follows (options.newlineMark.chars ++ rest) := by
  rintro c ⟨⟩
  exact List.mem_cons_of_mem _ List.mem_cons_self

variable (apart : options.Apart)
include apart

end Written

section Reading

variable {options : Options} {rows : List (List (WrittenCell options))}

variable (apart : options.Apart) (filled : ∀ row ∈ rows, row ≠ [])
include apart filled

end Reading

theorem apart_of_single {options : Options} {separator : Char}
    (single : options.separator.toList = [separator]) (plain : separator ∉ ['"', '\r', '\n'])
    (lines : options.newline = "\n" ∨ options.newline = "\r\n") : options.Apart := by
  have mark : options.separatorMark = ⟨separator, []⟩ := by
    rw [Options.separatorMark, single]
    rfl
  have newline : options.newlineMark = ⟨'\n', []⟩ ∨ options.newlineMark = ⟨'\r', ['\n']⟩ := by
    rcases lines with feed | both
    · exact .inl (by rw [Options.newlineMark, feed]; rfl)
    · exact .inr (by rw [Options.newlineMark, both]; rfl)
  simp only [List.mem_cons, List.not_mem_nil, or_false, not_or] at plain
  obtain ⟨quote, carriage, feed⟩ := plain
  rcases newline with newline | newline
  · constructor <;> simp [Options.starts, mark, newline, Ne.symm quote, feed]
  · constructor <;> simp [Options.starts, mark, newline, Ne.symm quote, carriage, feed]

end TableQuery.Delimited
