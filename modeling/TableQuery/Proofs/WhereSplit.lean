import TableQuery.Proofs.ConditionText
import TableQuery.Proofs.LowerCase

/-! The `where` of a command line. It is found by its byte offset in the lower-case text, and the
line itself is cut at that offset. So the line is cut where the word is written exactly when the
text before it has as many bytes in lower case as it has itself. Otherwise the cuts lie as many
bytes beside the word as the lower-case text is longer or shorter. -/

namespace TableQuery

namespace Command

def WhereAt (text : List Char) (place : Nat) : Prop :=
  whereWord <+: (text.drop place).map Char.toLower

instance (text : List Char) (place : Nat) : Decidable (WhereAt text place) :=
  inferInstanceAs (Decidable (whereWord <+: (text.drop place).map Char.toLower))

theorem byteOffset?_of_prefix {piece text : List Char} (starts : piece <+: text) :
    byteOffset? piece text = some 0 := by
  cases text with
  | nil =>
    rw [List.prefix_nil.mp starts]
    rfl
  | cons c rest => rw [byteOffset?, if_pos (List.isPrefixOf_iff_prefix.mpr starts)]

theorem byteOffset?_cons {piece : List Char} {c : Char} {rest : List Char}
    (other : ¬piece <+: c :: rest) :
    byteOffset? piece (c :: rest) = (byteOffset? piece rest).map (· + c.utf8Size) := by
  rw [byteOffset?, if_neg (mt List.isPrefixOf_iff_prefix.mp other)]

theorem byteOffset?_lowerFrom_cons {before : List Char} {c : Char} {rest : List Char}
    (other : ¬whereWord <+: Text.lowerFrom before (c :: rest)) :
    byteOffset? whereWord (Text.lowerFrom before (c :: rest)) =
      (byteOffset? whereWord (Text.lowerFrom (c :: before) rest)).map
        (· + String.utf8Len (Text.lowerAt before rest c)) := by
  rw [Text.lowerFrom] at other ⊢
  obtain ⟨x, single⟩ | dotted : (∃ x, Text.lowerAt before rest c = [x]) ∨
      Text.lowerAt before rest c = ['i', '\u0307'] := by
    rw [Text.lowerAt]
    repeat' split
    all_goals simp
  · rw [single] at other ⊢
    rw [List.singleton_append] at other ⊢
    rw [byteOffset?_cons other, String.utf8Len_cons, String.utf8Len_nil, Nat.zero_add]
  · have dot : ¬whereWord <+: '\u0307' :: Text.lowerFrom (c :: before) rest := by
      rw [whereWord, List.cons_prefix_cons]
      exact fun starts => absurd starts.1 (by decide)
    rw [dotted] at other ⊢
    rw [List.cons_append, List.singleton_append] at other ⊢
    rw [byteOffset?_cons other, byteOffset?_cons dot, Option.map_map]
    rfl

theorem byteOffset?_lowerFrom {front rest : List Char}
    (first : ∀ place < front.length, ¬WhereAt (front ++ rest) place) (here : WhereAt rest 0)
    (before : List Char) :
    byteOffset? whereWord (Text.lowerFrom before (front ++ rest)) =
      some (String.utf8Len (Text.lower front)) := by
  induction front generalizing before with
  | nil =>
    apply byteOffset?_of_prefix
    exact (Text.prefix_lowerFrom_iff (fun _ member => member) before rest).mpr here
  | cons c front ih =>
    have other : ¬whereWord <+: Text.lowerFrom before (c :: (front ++ rest)) := by
      rw [Text.prefix_lowerFrom_iff fun _ member => member]
      exact first 0 (Nat.zero_lt_succ _)
    have later := ih (fun place within => first (place + 1) (Nat.succ_lt_succ within)) (c :: before)
    rw [List.cons_append, byteOffset?_lowerFrom_cons other, later, Option.map_some,
      Text.utf8Len_lower_cons before (front ++ rest)]

theorem cutBytes_append (front rest : List Char) :
    cutBytes (String.utf8Len front) (front ++ rest) = some (front, rest) := by
  induction front with
  | nil => cases rest <;> rfl
  | cons c front ih =>
    have pos := c.utf8Size_pos
    obtain ⟨bytes, counted⟩ : ∃ bytes, String.utf8Len (c :: front) = bytes + 1 :=
      ⟨_, (Nat.succ_pred (by rw [String.utf8Len_cons]; omega)).symm⟩
    have sum : String.utf8Len front + c.utf8Size = bytes + 1 := counted
    have left : bytes + 1 - c.utf8Size = String.utf8Len front := by omega
    rw [counted, List.cons_append, cutBytes, if_pos (by omega), left, ih]
    rfl

theorem of_cutBytes {bytes : Nat} {text front rest : List Char}
    (cut : cutBytes bytes text = some (front, rest)) :
    text = front ++ rest ∧ String.utf8Len front = bytes := by
  induction text generalizing bytes front rest with
  | nil =>
    cases bytes with
    | zero =>
      cases cut
      exact ⟨rfl, rfl⟩
    | succ bytes => cases cut
  | cons c text ih =>
    cases bytes with
    | zero =>
      cases cut
      exact ⟨rfl, rfl⟩
    | succ bytes =>
      rw [cutBytes] at cut
      split at cut
      next fits =>
        obtain ⟨⟨front, rest⟩, later, made⟩ := Option.map_eq_some_iff.mp cut
        obtain ⟨rfl, counted⟩ := ih later
        cases made
        refine ⟨rfl, ?_⟩
        rw [String.utf8Len_cons, counted]
        omega
      next => cases cut

end Command

namespace Text

theorem utf8Len_trim_le (text : List Char) : String.utf8Len (trim text) ≤ String.utf8Len text :=
  String.utf8Len_le_of_sublist (trim_sublist text)

theorem utf8Len_of_spelled {mark : List Char}
    (plain : ∀ sign ∈ mark.map Char.toLower, sign ∈ Command.whereWord) :
    String.utf8Len mark = mark.length := by
  induction mark with
  | nil => rfl
  | cons c rest ih =>
    have near : c.toNat < 128 := by
      by_contra far
      have self := toLower_of_not_ascii (Nat.not_lt.mp far)
      have member := plain c.toLower List.mem_cons_self
      rw [self] at member
      exact far (whereWord_ascii member).2
    have single : c.utf8Size = 1 := Char.utf8Size_eq_one_iff.mpr (Nat.le_of_lt_succ near)
    rw [String.utf8Len_cons, single, List.length_cons,
      ih fun sign member => plain sign (List.mem_cons_of_mem _ member)]

end Text

namespace Command

/-- A text is split where both cuts, at the offset of the word and behind its bytes, fall between
characters. -/
theorem splitWhere_eq_some_iff {text left right : List Char} :
    splitWhere text = (left, some right) ↔ ∃ offset before rest behind after,
      byteOffset? whereWord (Text.lower text) = some offset ∧
      cutBytes offset text = some (before, rest) ∧
      cutBytes (offset + whereWord.length) text = some (behind, after) ∧
      Text.trim before = left ∧ Text.trim after = right := by
  simp only [splitWhere, Option.getD_eq_iff, Option.bind_eq_bind, Option.bind_eq_some_iff,
    Option.pure_def, Option.some.injEq, Prod.mk.injEq, reduceCtorEq, and_false, or_false,
    Prod.exists]
  constructor
  · rintro ⟨offset, found, before, rest, cut, behind, after, cutBehind, same⟩
    exact ⟨offset, before, rest, behind, after, found, cut, cutBehind, same⟩
  · rintro ⟨offset, before, rest, behind, after, found, cut, cutBehind, same⟩
    exact ⟨offset, found, before, rest, cut, behind, after, cutBehind, same⟩

theorem readUpdate_eq_iff {rest front back : List Char} (filled : front ≠ [])
    (filledAfter : back ≠ []) :
    readUpdate rest = .ok (.update (String.ofList front) (String.ofList back)) ↔
      splitWhere rest = (front, some back) := by
  rw [readUpdate]
  constructor
  · intro read
    split at read
    next assignments clause parted =>
      split at read
      next => cases read
      next =>
        simp only [Except.ok.injEq, update.injEq, String.ofList_inj] at read
        rw [parted, read.1, read.2]
    next => cases read
  · intro parted
    simp [parted, filled, filledAfter]

theorem readSelect_eq_iff {rest front back : List Char} :
    readSelect rest = .select (String.ofList front) (some (String.ofList back)) ↔
      splitWhere rest = (front, some back) := by
  rw [readSelect]
  simp only [select.injEq, String.ofList_inj, Option.map_eq_some_iff, Prod.ext_iff,
    exists_eq_right]

theorem readVerb_update {rest : List Char} (filled : rest ≠ []) :
    readVerb "update".toList rest = readUpdate rest := by
  have read : readVerb "update".toList rest =
      (required "update" "<field=\"value\", ...> where <clause>" rest).bind readUpdate := rfl
  rw [read, required, List.isEmpty_eq_false_iff.mpr filled, if_neg Bool.false_ne_true]
  rfl

theorem readVerb_select {rest : List Char} (filled : rest ≠ []) :
    readVerb "select".toList rest = .ok (readSelect rest) := by
  have read : readVerb "select".toList rest =
      (required "select" "<fields> [where <clause>]" rest).map readSelect := rfl
  rw [read, required, List.isEmpty_eq_false_iff.mpr filled, if_neg Bool.false_ne_true]
  rfl

section Split

variable {front mark back : List Char} (spelled : mark.map Char.toLower = whereWord)
  (first : ∀ place < front.length, ¬WhereAt (front ++ (mark ++ back)) place)
  (frontTrimmed : Text.trim front = front) (backTrimmed : Text.trim back = back)

section Place

include spelled first frontTrimmed backTrimmed

theorem splitWhere_eq_iff : splitWhere (front ++ (mark ++ back)) = (front, some back) ↔
    String.utf8Len (Text.lower front) = String.utf8Len front := by
  have here : WhereAt (mark ++ back) 0 := by
    rw [WhereAt, List.drop_zero, List.map_append, spelled]
    exact List.prefix_append _ _
  have found : byteOffset? whereWord (Text.lower (front ++ (mark ++ back))) =
      some (String.utf8Len (Text.lower front)) := byteOffset?_lowerFrom first here []
  have bytes : String.utf8Len mark = whereWord.length := by
    rw [Text.utf8Len_of_spelled fun sign member => spelled ▸ member, ← spelled, List.length_map]
  rw [splitWhere_eq_some_iff]
  constructor
  · rintro ⟨offset, before, rest, behind, after, placed, cut, cutBehind, left, right⟩
    obtain rfl : offset = String.utf8Len (Text.lower front) :=
      Option.some.inj (placed.symm.trans found)
    obtain ⟨-, countedBefore⟩ := of_cutBytes cut
    obtain ⟨whole, countedBehind⟩ := of_cutBytes cutBehind
    -- Neither side can have more bytes than it is cut with, and together they have them all.
    have shortBefore := Text.utf8Len_trim_le before
    have shortAfter := Text.utf8Len_trim_le after
    have total := congrArg String.utf8Len whole
    rw [String.utf8Len_append, String.utf8Len_append, String.utf8Len_append] at total
    rw [left] at shortBefore
    rw [right] at shortAfter
    omega
  · intro same
    have cut := cutBytes_append front (mark ++ back)
    have cutBehind := cutBytes_append (front ++ mark) back
    rw [String.utf8Len_append, bytes, List.append_assoc, ← same] at cutBehind
    rw [← same] at cut
    exact ⟨_, front, mark ++ back, front ++ mark, back, found, cut, cutBehind, frontTrimmed,
      backTrimmed⟩

end Place

section Line

variable (filled : front ≠ []) (filledAfter : back ≠ [])
include filled filledAfter frontTrimmed backTrimmed

theorem read_parts {verb : List Char} (present : verb ≠ [])
    (solid : ∀ c ∈ verb, Text.isBlank c = false) :
    read (String.ofList (verb ++ ' ' :: (front ++ (mark ++ back)))) =
      readVerb verb (front ++ (mark ++ back)) := by
  rw [read_line present solid (by decide), Text.trim_of_ends]
  · obtain ⟨c, rest, rfl⟩ := List.exists_cons_of_ne_nil filled
    rintro c ⟨⟩
    exact Text.not_blank_of_trim frontTrimmed
  · have last := Text.last_of_trim back
    rw [backTrimmed] at last
    rwa [List.getLast?_append_of_ne_nil _ (List.append_ne_nil_of_right_ne_nil _ filledAfter),
      List.getLast?_append_of_ne_nil _ filledAfter]

include spelled first

theorem read_update_eq_iff :
    read (String.ofList ("update".toList ++ ' ' :: (front ++ (mark ++ back)))) =
        .ok (.update (String.ofList front) (String.ofList back)) ↔
      String.utf8Len (Text.lower front) = String.utf8Len front := by
  rw [read_parts frontTrimmed backTrimmed filled filledAfter (by decide)
      (Text.no_blank_of_any (by decide)),
    readVerb_update (List.append_ne_nil_of_left_ne_nil filled _),
    readUpdate_eq_iff filled filledAfter, splitWhere_eq_iff spelled first frontTrimmed backTrimmed]

theorem read_select_eq_iff :
    read (String.ofList ("select".toList ++ ' ' :: (front ++ (mark ++ back)))) =
        .ok (.select (String.ofList front) (some (String.ofList back))) ↔
      String.utf8Len (Text.lower front) = String.utf8Len front := by
  rw [read_parts frontTrimmed backTrimmed filled filledAfter (by decide)
      (Text.no_blank_of_any (by decide)),
    readVerb_select (List.append_ne_nil_of_left_ne_nil filled _), Except.ok.injEq,
    readSelect_eq_iff, splitWhere_eq_iff spelled first frontTrimmed backTrimmed]

end Line

end Split

/-- The texts of a command that parts them by a `where` are trimmed and not empty, the word is
spelled in any case, and no other place comes before it. -/
structure PartedByWhere (before word after : String) : Prop where
  filled : before ≠ ""
  filledAfter : after ≠ ""
  trimmed : Text.trimmed before = before
  trimmedAfter : Text.trimmed after = after
  spelled : word.toList.map Char.toLower = "where".toList
  first : ∀ place < before.length,
    ¬WhereAt (before ++ " " ++ word ++ " " ++ after).toList place

theorem trim_toList {text : String} (trimmed : Text.trimmed text = text) :
    Text.trim text.toList = text.toList := by
  conv_rhs => rw [← trimmed, Text.trimmed, String.toList_ofList]

/-- A command is parted where its `where` is written exactly when the text before the word has as
many bytes in lower case as it has itself. -/
theorem where_parts_by_bytes (before word after : String)
    (parted : PartedByWhere before word after) :
    (read ("update " ++ before ++ " " ++ word ++ " " ++ after) = .ok (.update before after) ↔
      (Text.lowercase before).utf8ByteSize = before.utf8ByteSize) ∧
    (read ("select " ++ before ++ " " ++ word ++ " " ++ after) =
        .ok (.select before (some after)) ↔
      (Text.lowercase before).utf8ByteSize = before.utf8ByteSize) := by
  have spelled : (' ' :: word.toList ++ [' ']).map Char.toLower = whereWord := by
    rw [List.map_append, List.map_cons, parted.spelled]
    rfl
  have whole : (before ++ " " ++ word ++ " " ++ after).toList =
      before.toList ++ ((' ' :: word.toList ++ [' ']) ++ after.toList) := by simp
  have first := parted.first
  rw [whole, ← String.length_toList] at first
  have filled : before.toList ≠ [] := by simpa using parted.filled
  have filledAfter : after.toList ≠ [] := by simpa using parted.filledAfter
  have bytes : (Text.lowercase before).utf8ByteSize = before.utf8ByteSize ↔
      String.utf8Len (Text.lower before.toList) = String.utf8Len before.toList := by
    rw [Text.lowercase, String.utf8ByteSize_ofList, String.utf8Len_toList]
  have update := read_update_eq_iff spelled first (trim_toList parted.trimmed)
    (trim_toList parted.trimmedAfter) filled filledAfter
  have select := read_select_eq_iff spelled first (trim_toList parted.trimmed)
    (trim_toList parted.trimmedAfter) filled filledAfter
  have line (verb : String) : verb ++ " " ++ before ++ " " ++ word ++ " " ++ after =
      String.ofList (verb.toList ++
        ' ' :: (before.toList ++ ((' ' :: word.toList ++ [' ']) ++ after.toList))) := by
    rw [← String.toList_inj]
    simp
  rw [← line, String.ofList_toList, String.ofList_toList, ← bytes] at update select
  exact ⟨update, select⟩

theorem where_parts_by_bytes_capitals :
    PartedByWhere "name='Σ', \"É where\"=x" "wHeRe" "İ='1' where x" ∧
      read "update name='Σ', \"É where\"=x wHeRe İ='1' where x" =
        .ok (.update "name='Σ', \"É where\"=x" "İ='1' where x") ∧
      read "select name='Σ', \"É where\"=x wHeRe İ='1' where x" =
        .ok (.select "name='Σ', \"É where\"=x" (some "İ='1' where x")) := by
  have parted : PartedByWhere "name='Σ', \"É where\"=x" "wHeRe" "İ='1' where x" := by
    constructor <;> decide +kernel
  obtain ⟨update, select⟩ := where_parts_by_bytes _ _ _ parted
  have bytes : (Text.lowercase "name='Σ', \"É where\"=x").utf8ByteSize =
      "name='Σ', \"É where\"=x".utf8ByteSize := by decide +kernel
  exact ⟨parted, update.mpr bytes, select.mpr bytes⟩

/-- The dotted capital has a byte more in lower case, so the clause loses its first character; the
capital sharp s has one less, so the assignments lose their last. -/
theorem where_beside_word :
    PartedByWhere "name='İ'" "where" "id='1'" ∧ PartedByWhere "name='ẞ'" "where" "id='1'" ∧
      read "update name='İ' where id='1'" = .ok (.update "name='İ'" "d='1'") ∧
      read "update name='ẞ' where id='1'" = .ok (.update "name='ẞ" "id='1'") ∧
      read "select İ where id='1'" = .ok (.select "İ" (some "d='1'")) ∧
      read "update name='İ' where id='1'" ≠ .ok (.update "name='İ'" "id='1'") := by
  refine ⟨?_, ?_, ?_, ?_, ?_, ?_⟩
  · constructor <;> decide +kernel
  · constructor <;> decide +kernel
  all_goals decide +kernel

end Command

end TableQuery
