import TableQuery.Text.Range

/-! Blank characters, and text with the blanks at its ends removed. "Blank" is the property
White_Space, so no-break spaces and the line separators count. -/

namespace TableQuery.Text

/-- Code points with the property White_Space. -/
def blankRanges : List (Nat × Nat) :=
  [
    (0x9, 0xd), (0x20, 0x20), (0x85, 0x85), (0xa0, 0xa0), (0x1680, 0x1680), (0x2000, 0x200a),
    (0x2028, 0x2029), (0x202f, 0x202f), (0x205f, 0x205f), (0x3000, 0x3000)
  ]

def isBlank (c : Char) : Bool := within blankRanges c

def trimStart (text : List Char) : List Char := text.dropWhile isBlank

def trimEnd (text : List Char) : List Char := (text.reverse.dropWhile isBlank).reverse

def trim (text : List Char) : List Char := trimEnd (trimStart text)

def cutAtBlank : List Char → Option (List Char × List Char)
  | [] => none
  | c :: rest =>
    if isBlank c then some ([], rest)
    else (cutAtBlank rest).map fun (before, after) => (c :: before, after)

def cutAtLastBlank : List Char → Option (List Char × List Char)
  | [] => none
  | c :: rest =>
    match cutAtLastBlank rest with
    | some (before, after) => some (c :: before, after)
    | none => if isBlank c then some ([], rest) else none

def wordsFrom : List Char → List Char → List (List Char)
  | word, [] => if word.isEmpty then [] else [word.reverse]
  | word, c :: rest =>
    if isBlank c then
      if word.isEmpty then wordsFrom [] rest else word.reverse :: wordsFrom [] rest
    else wordsFrom (c :: word) rest

def words (text : List Char) : List (List Char) := wordsFrom [] text

def trimmed (text : String) : String := String.ofList (trim text.toList)

theorem dropWhile_isBlank {text : List Char} (first : ∀ c ∈ text.head?, isBlank c = false) :
    text.dropWhile isBlank = text := by
  cases text with
  | nil => rfl
  | cons c rest =>
    have plain : isBlank c = false := first c rfl
    exact List.dropWhile_cons_of_neg (by simp [plain])

theorem trim_of_ends {text : List Char} (first : ∀ c ∈ text.head?, isBlank c = false)
    (last : ∀ c ∈ text.getLast?, isBlank c = false) : trim text = text := by
  have back : text.reverse.dropWhile isBlank = text.reverse := by
    apply dropWhile_isBlank
    rwa [List.head?_reverse]
  rw [trim, trimStart, dropWhile_isBlank first, trimEnd, back, List.reverse_reverse]

theorem trimStart_cons {blank : Char} (gap : isBlank blank = true) (text : List Char) :
    trimStart (blank :: text) = trimStart text :=
  List.dropWhile_cons_of_pos gap

theorem trimStart_of_solid {c : Char} (solid : isBlank c = false) (rest : List Char) :
    trimStart (c :: rest) = c :: rest := List.dropWhile_cons_of_neg (by simp [solid])

theorem trimStart_append {gap : List Char} (blank : ∀ c ∈ gap, isBlank c = true)
    (text : List Char) : trimStart (gap ++ text) = trimStart text :=
  List.dropWhile_append_of_pos blank

theorem trim_cons {blank : Char} (gap : isBlank blank = true) (text : List Char) :
    trim (blank :: text) = trim text := by
  rw [trim, trim, trimStart_cons gap]

theorem trim_concat {blank : Char} (gap : isBlank blank = true) (text : List Char) :
    trim (text ++ [blank]) = trim text := by
  rw [trim, trim, trimStart, trimStart, List.dropWhile_append]
  split
  next nothing =>
    rw [List.isEmpty_iff.mp nothing, List.dropWhile_cons_of_pos gap, List.dropWhile_nil]
  next => rw [trimEnd, List.reverse_concat, List.dropWhile_cons_of_pos gap, trimEnd]

theorem trim_isPrefix_trimStart (text : List Char) : trim text <+: trimStart text := by
  have ended := List.dropWhile_suffix isBlank (l := (trimStart text).reverse)
  rw [← List.reverse_prefix, List.reverse_reverse] at ended
  exact ended

theorem trim_sublist (text : List Char) : (trim text).Sublist text :=
  (trim_isPrefix_trimStart text).sublist.trans (List.dropWhile_sublist isBlank)

theorem first_of_trim (text : List Char) : ∀ c ∈ (trim text).head?, isBlank c = false := by
  intro c first
  obtain ⟨rest, whole⟩ := trim_isPrefix_trimStart text
  have solid := List.head?_dropWhile_not isBlank text
  rw [← trimStart, ← whole, List.head?_append, first] at solid
  exact solid

theorem last_of_trim (text : List Char) : ∀ c ∈ (trim text).getLast?, isBlank c = false := by
  intro c last
  rw [trim, trimEnd, List.getLast?_reverse] at last
  have solid := List.head?_dropWhile_not isBlank (trimStart text).reverse
  rw [last] at solid
  exact solid

theorem trim_trim (text : List Char) : trim (trim text) = trim text :=
  trim_of_ends (first_of_trim text) (last_of_trim text)

theorem not_blank_of_trim {c : Char} {rest : List Char} (trimmed : trim (c :: rest) = c :: rest) :
    isBlank c = false := by
  have first := first_of_trim (c :: rest)
  rw [trimmed] at first
  exact first c rfl

theorem any_trim (text : List Char) :
    ((trim text).any fun c => !isBlank c) = text.any fun c => !isBlank c := by
  rw [trim, trimEnd, List.any_reverse, List.any_dropWhile, List.not_all_eq_any_not,
    List.any_reverse, trimStart, List.any_dropWhile, List.not_all_eq_any_not]

theorem trim_ne_nil {c : Char} {text : List Char} (member : c ∈ text)
    (solid : isBlank c = false) : trim text ≠ [] := by
  intro none
  have found : (text.any fun c => !isBlank c) = true :=
    List.any_eq_true.mpr ⟨c, member, by rw [solid]; rfl⟩
  rw [← any_trim, none] at found
  cases found

theorem no_blank_of_any {word : List Char} (computed : word.any isBlank = false) :
    ∀ c ∈ word, isBlank c = false :=
  fun c member => Bool.eq_false_iff.mpr (List.any_eq_false.mp computed c member)

section Solid

variable {word : List Char} (solid : ∀ c ∈ word, isBlank c = false)
include solid

theorem not_mem_of_no_blank {blank : Char} (gap : isBlank blank = true) : blank ∉ word := by
  intro member
  have plain : isBlank blank = false := solid blank member
  rw [gap] at plain
  cases plain

theorem trim_of_no_blank : trim word = word :=
  trim_of_ends (fun c first => solid c (List.mem_of_head? first))
    (fun c last => solid c (List.mem_of_getLast? last))

theorem cutAtBlank_of_no_blank : cutAtBlank word = none := by
  induction word with
  | nil => rfl
  | cons c word ih =>
    have plain : isBlank c = false := solid c List.mem_cons_self
    rw [cutAtBlank, plain, if_neg Bool.false_ne_true,
      ih fun c member => solid c (List.mem_cons_of_mem _ member), Option.map_none]

theorem cutAtBlank_append {blank : Char} (gap : isBlank blank = true) (rest : List Char) :
    cutAtBlank (word ++ blank :: rest) = some (word, rest) := by
  induction word with
  | nil => rw [List.nil_append, cutAtBlank, if_pos gap]
  | cons c word ih =>
    have plain : isBlank c = false := solid c List.mem_cons_self
    rw [List.cons_append, cutAtBlank, plain, if_neg Bool.false_ne_true,
      ih fun c member => solid c (List.mem_cons_of_mem _ member)]
    rfl

theorem wordsFrom_append (started rest : List Char) :
    wordsFrom started (word ++ rest) = wordsFrom (word.reverse ++ started) rest := by
  induction word generalizing started with
  | nil => rfl
  | cons c word ih =>
    have plain : isBlank c = false := solid c List.mem_cons_self
    rw [List.cons_append, wordsFrom, plain, if_neg Bool.false_ne_true,
      ih fun c member => solid c (List.mem_cons_of_mem _ member), List.reverse_cons,
      List.append_assoc, List.singleton_append]

theorem words_of_no_blank (present : word ≠ []) : words word = [word] := by
  have whole := wordsFrom_append solid [] []
  rw [List.append_nil, List.append_nil] at whole
  rw [words, whole, wordsFrom, if_neg (by simpa using present), List.reverse_reverse]

theorem words_append (present : word ≠ []) {blank : Char} (gap : isBlank blank = true)
    (rest : List Char) : words (word ++ blank :: rest) = word :: words rest := by
  rw [words, wordsFrom_append solid, List.append_nil, wordsFrom, if_pos gap,
    if_neg (by simpa using present), List.reverse_reverse, words]

end Solid

end TableQuery.Text
