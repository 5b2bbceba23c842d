import TableQuery.Text.Blank

/-! Text cut at a character, and texts put together. -/

namespace TableQuery.Text

def splitAt (c : Char) : List Char → List (List Char)
  | [] => [[]]
  | x :: rest =>
    if x = c then [] :: splitAt c rest
    else
      match splitAt c rest with
      | [] => [[x]]
      | piece :: pieces => (x :: piece) :: pieces

def cutAt (c : Char) : List Char → Option (List Char × List Char)
  | [] => none
  | x :: rest =>
    if x = c then some ([], rest)
    else (cutAt c rest).map fun (before, after) => (x :: before, after)

/-- The lines of a text without their ends. A carriage return before the end of a line belongs to
the end, and no empty line follows the last end. -/
def lines (text : List Char) : List (List Char) :=
  let pieces := splitAt '\n' text
  let ended := pieces.dropLast.map fun line =>
    if line.getLast? = some '\r' then line.dropLast else line
  match pieces.getLast? with
  | some [] => ended
  | some last => ended ++ [last]
  | none => ended

theorem splitAt_ne_nil (c : Char) (text : List Char) : splitAt c text ≠ [] := by
  cases text with
  | nil => exact List.cons_ne_nil _ _
  | cons x rest =>
    rw [splitAt]
    split
    · exact List.cons_ne_nil _ _
    · split <;> exact List.cons_ne_nil _ _

theorem splitAt_append (c : Char) (before after : List Char) :
    splitAt c (before ++ c :: after) = splitAt c before ++ splitAt c after := by
  induction before with
  | nil =>
    rw [List.nil_append, splitAt.eq_2, if_pos rfl]
    rfl
  | cons x before ih =>
    rw [List.cons_append, splitAt.eq_2, splitAt.eq_2, ih]
    by_cases here : x = c
    · rw [if_pos here, if_pos here, List.cons_append]
    · rw [if_neg here, if_neg here]
      cases found : splitAt c before with
      | nil => exact absurd found (splitAt_ne_nil c before)
      | cons piece pieces => rfl

theorem splitAt_of_not_mem {c : Char} {text : List Char} (absent : c ∉ text) :
    splitAt c text = [text] := by
  induction text with
  | nil => rfl
  | cons x text ih =>
    rw [List.mem_cons, not_or] at absent
    rw [splitAt, if_neg (Ne.symm absent.1), ih absent.2]

theorem map_trim_splitAt_blank (c blank : Char) (gap : isBlank blank = true) (other : blank ≠ c)
    (text : List Char) :
    (splitAt c (blank :: text)).map trim = (splitAt c text).map trim := by
  rw [splitAt, if_neg other]
  cases found : splitAt c text with
  | nil => exact absurd found (splitAt_ne_nil c text)
  | cons piece pieces =>
    rw [List.map_cons, List.map_cons, trim_cons gap]

theorem map_trim_splitAt_intercalate (c blank : Char) (gap : isBlank blank = true)
    (other : blank ≠ c) (first : List Char) (others : List (List Char))
    (whole : ∀ piece ∈ first :: others, c ∉ piece) :
    (splitAt c ([c, blank].intercalate (first :: others))).map trim =
      (first :: others).map trim := by
  induction others generalizing first with
  | nil =>
    rw [List.intercalate_singleton, splitAt_of_not_mem (whole first List.mem_cons_self)]
  | cons next others ih =>
    obtain ⟨here, later⟩ := List.forall_mem_cons.mp whole
    rw [List.intercalate_cons_cons, List.append_assoc, List.cons_append, List.singleton_append,
      splitAt_append, splitAt_of_not_mem here, List.map_append,
      map_trim_splitAt_blank c blank gap other, ih next later]
    rfl

theorem mem_of_mem_splitAt {c x : Char} {text piece : List Char} (listed : piece ∈ splitAt c text)
    (member : x ∈ piece) : x ∈ text ∧ x ≠ c := by
  induction text generalizing piece with
  | nil =>
    rw [splitAt, List.mem_singleton] at listed
    subst listed
    cases member
  | cons y text ih =>
    rw [splitAt] at listed
    split at listed
    next =>
      rcases List.mem_cons.mp listed with rfl | later
      · cases member
      · exact (ih later member).imp_left (List.mem_cons_of_mem y)
    next other =>
      cases parts : splitAt c text with
      | nil => exact absurd parts (splitAt_ne_nil c text)
      | cons first others =>
        rw [parts] at listed ih
        rcases List.mem_cons.mp listed with rfl | later
        · rcases List.mem_cons.mp member with rfl | inside
          · exact ⟨List.mem_cons_self, other⟩
          · exact (ih List.mem_cons_self inside).imp_left (List.mem_cons_of_mem y)
        · exact (ih (List.mem_cons_of_mem _ later) member).imp_left (List.mem_cons_of_mem y)

theorem eq_of_splitAt_eq_singleton {c : Char} {text piece : List Char}
    (alone : splitAt c text = [piece]) : piece = text := by
  by_cases divided : c ∈ text
  · obtain ⟨before, after, rfl⟩ := List.append_of_mem divided
    have count := congrArg List.length alone
    have front := List.length_pos_iff.mpr (splitAt_ne_nil c before)
    have back := List.length_pos_iff.mpr (splitAt_ne_nil c after)
    rw [splitAt_append, List.length_append, List.length_singleton] at count
    omega
  · rw [splitAt_of_not_mem divided] at alone
    exact (List.singleton_inj.mp alone).symm

theorem cutAt_eq_some_iff {c : Char} {text before after : List Char} :
    cutAt c text = some (before, after) ↔ text = before ++ c :: after ∧ c ∉ before := by
  induction text generalizing before with
  | nil => simp [cutAt]
  | cons x rest ih =>
    by_cases here : x = c
    · rw [cutAt, if_pos here]
      constructor
      · intro found
        cases found
        exact ⟨by rw [here, List.nil_append], List.not_mem_nil⟩
      · rintro ⟨whole, absent⟩
        cases before with
        | nil => simp_all
        | cons first before =>
          have same : x = first := (List.cons.inj whole).1
          exact absurd (same ▸ here ▸ List.mem_cons_self) absent
    · rw [cutAt, if_neg here]
      constructor
      · intro found
        obtain ⟨⟨before', after'⟩, inner, same⟩ := Option.map_eq_some_iff.mp found
        cases same
        obtain ⟨whole, absent⟩ := ih.mp inner
        refine ⟨by rw [whole, List.cons_append], ?_⟩
        simp only [List.mem_cons, not_or]
        exact ⟨fun same => here same.symm, absent⟩
      · rintro ⟨whole, absent⟩
        cases before with
        | nil => exact absurd (List.cons.inj whole).1 here
        | cons first before =>
          obtain ⟨same, inner⟩ := List.cons.inj whole
          have found := ih.mpr ⟨inner, fun member => absent (List.mem_cons_of_mem _ member)⟩
          rw [found, same]
          rfl

theorem not_mem_intercalate {c : Char} {between : List Char} {parts : List (List Char)}
    (outside : c ∉ between) (absent : ∀ part ∈ parts, c ∉ part) :
    c ∉ between.intercalate parts := by
  induction parts with
  | nil => exact List.not_mem_nil
  | cons first others ih =>
    obtain ⟨here, later⟩ := List.forall_mem_cons.mp absent
    cases others with
    | nil => rwa [List.intercalate_singleton]
    | cons next others =>
      rw [List.intercalate_cons_cons]
      simp only [List.mem_append, not_or]
      exact ⟨⟨here, outside⟩, ih later⟩

theorem toList_intercalate_ofList {α : Type} (chars : α → List Char) (between : String)
    (items : List α) :
    (String.intercalate between (items.map fun item => String.ofList (chars item))).toList =
      between.toList.intercalate (items.map chars) := by
  rw [String.toList_intercalate, List.map_map]
  simp only [Function.comp_def, String.toList_ofList]

end TableQuery.Text
