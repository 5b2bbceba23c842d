import TableQuery.Proofs.LowerCase
import TableQuery.Proofs.SortComposition

/-! Order clauses read back. A key is written as its name, bare or in quotes, and its direction in
any case. The direction is what stands behind the last blank, so a name may have blanks of its own,
and only a bare name that ends with a direction word needs its direction written. Quotes are taken
off at both ends of the name, where it has none itself. -/

namespace TableQuery

namespace Text

theorem toLower_of_isBlank {c : Char} (blank : isBlank c = true) : c.toLower = c := by
  apply Char.toLower_eq_of_not_isUpper
  intro upper
  have bounds : 65 ≤ c.toNat ∧ c.toNat ≤ 90 := of_decide_eq_true upper
  simp only [isBlank, blankRanges, within_cons, within_nil, Bool.or_eq_true, Bool.and_eq_true,
    decide_eq_true_eq, Bool.false_eq_true, or_false] at blank
  omega

theorem cutAtLastBlank_of_no_blank {word : List Char} (solid : ∀ c ∈ word, isBlank c = false) :
    cutAtLastBlank word = none := by
  induction word with
  | nil => rfl
  | cons c word ih =>
    rw [cutAtLastBlank, ih fun d member => solid d (List.mem_cons_of_mem _ member)]
    exact if_neg (by simp [solid c List.mem_cons_self])

theorem cutAtLastBlank_append {word : List Char} (solid : ∀ c ∈ word, isBlank c = false)
    {blank : Char} (gap : isBlank blank = true) (front : List Char) :
    cutAtLastBlank (front ++ blank :: word) = some (front, word) := by
  induction front with
  | nil =>
    rw [List.nil_append, cutAtLastBlank, cutAtLastBlank_of_no_blank solid]
    exact if_pos gap
  | cons c front ih => rw [List.cons_append, cutAtLastBlank, ih]

theorem parts_of_cutAtLastBlank {text front word : List Char}
    (cut : cutAtLastBlank text = some (front, word)) :
    ∃ blank, isBlank blank = true ∧ text = front ++ blank :: word := by
  induction text generalizing front with
  | nil => cases cut
  | cons c text ih =>
    rw [cutAtLastBlank] at cut
    split at cut
    next before after found =>
      cases cut
      obtain ⟨blank, gap, rfl⟩ := ih found
      exact ⟨blank, gap, rfl⟩
    next =>
      obtain ⟨gap, same⟩ := Option.ite_none_right_eq_some.mp cut
      cases same
      exact ⟨c, gap, rfl⟩

end Text

namespace OrderClause

def directionWord (descending : Bool) : List Char :=
  if descending then ['d', 'e', 's', 'c'] else ['a', 's', 'c']

/-- Whether a name ends with a direction word, behind a blank and in any case. -/
def EndsInDirection (name : List Char) : Prop :=
  ∃ front blank word descending, name = front ++ blank :: word ∧ Text.isBlank blank = true ∧
    word.map Char.toLower = directionWord descending

structure IsName (name : List Char) : Prop where
  present : name ≠ []
  single : ',' ∉ name
  first : ∀ c ∈ name.head?, Text.isBlank c = false ∧ isQuote c = false
  last : ∀ c ∈ name.getLast?, Text.isBlank c = false ∧ isQuote c = false

theorem direction?_eq_some_iff {word : List Char} {descending : Bool} :
    direction? word = some descending ↔ word.map Char.toLower = directionWord descending := by
  unfold direction?
  split
  next same => rw [same]; cases descending <;> decide
  next same => rw [same]; cases descending <;> decide
  next down up =>
    refine iff_of_false (Option.some_ne_none descending).symm fun same => ?_
    cases descending with
    | true => exact down same
    | false => exact up same

section Spelled

variable {word : List Char} {descending : Bool}
  (spelled : word.map Char.toLower = directionWord descending)
include spelled

theorem ne_nil_of_direction : word ≠ [] := by
  rintro rfl
  cases descending <;> cases spelled

theorem toLower_mem_of_direction {c : Char} (member : c ∈ word) :
    c.toLower ∈ directionWord descending := spelled ▸ List.mem_map_of_mem member

theorem no_blank_of_direction : ∀ c ∈ word, Text.isBlank c = false := by
  intro c member
  rw [Bool.eq_false_iff]
  intro blank
  have inside := toLower_mem_of_direction spelled member
  rw [Text.toLower_of_isBlank blank] at inside
  have letters : (directionWord descending).any Text.isBlank = false := by
    cases descending <;> decide
  rw [Text.no_blank_of_any letters c inside] at blank
  contradiction

theorem no_sign_of_direction {c : Char} (sign : c ∈ ['"', '\'', ',']) : c ∉ word := by
  have letters : ['"', '\'', ','].all (fun c => c.toLower ∉ directionWord descending) = true := by
    cases descending <;> decide
  intro member
  have other := of_decide_eq_true (List.all_eq_true.mp letters c sign)
  exact other (toLower_mem_of_direction spelled member)

end Spelled

theorem endsInDirection_iff {name : List Char} :
    EndsInDirection name ↔ ∃ front word descending,
      Text.cutAtLastBlank name = some (front, word) ∧ direction? word = some descending := by
  simp only [direction?_eq_some_iff]
  constructor
  · rintro ⟨front, blank, word, descending, rfl, gap, spelled⟩
    exact ⟨front, word, descending,
      Text.cutAtLastBlank_append (no_blank_of_direction spelled) gap front, spelled⟩
  · rintro ⟨front, word, descending, cut, spelled⟩
    obtain ⟨blank, gap, parted⟩ := Text.parts_of_cutAtLastBlank cut
    exact ⟨front, blank, word, descending, parted, gap, spelled⟩

instance (name : List Char) : Decidable (EndsInDirection name) :=
  decidable_of_iff
    (((Text.cutAtLastBlank name).any fun parts => (direction? parts.2).isSome) = true) (by
      simp [endsInDirection_iff, Option.any_eq_true, Option.isSome_iff_exists])

theorem IsName.of_all {name : List Char} (present : name ≠ [])
    (computed : (!name.contains ',' && (name.head?.toList ++ name.getLast?.toList).all fun c =>
      !Text.isBlank c && !isQuote c) = true) : IsName name := by
  rw [Bool.and_eq_true, List.all_eq_true] at computed
  obtain ⟨single, ends⟩ := computed
  simp only [List.mem_append, Option.mem_toList, Bool.and_eq_true, Bool.not_eq_true'] at ends
  exact ⟨present, by simpa using single, fun c first => ends c (.inl first),
    fun c last => ends c (.inr last)⟩

theorem dropWhile_isQuote {quotes text : List Char} (marks : ∀ c ∈ quotes, isQuote c = true)
    (plain : ∀ c ∈ text.head?, isQuote c = false) :
    (quotes ++ text).dropWhile isQuote = text := by
  rw [List.dropWhile_append_of_pos marks]
  cases text with
  | nil => rfl
  | cons c text => exact List.dropWhile_cons_of_neg (by simp [plain c rfl])

theorem stripQuotes_around {quotes name : List Char} (marks : ∀ c ∈ quotes, isQuote c = true)
    (named : IsName name) : stripQuotes (quotes ++ name ++ quotes) = name := by
  have front : (quotes ++ (name ++ quotes)).dropWhile isQuote = name ++ quotes := by
    apply dropWhile_isQuote marks
    rw [List.head?_append_of_ne_nil _ named.present]
    exact fun c first => (named.first c first).2
  have back : (quotes.reverse ++ name.reverse).dropWhile isQuote = name.reverse := by
    apply dropWhile_isQuote fun c member => marks c (List.mem_reverse.mp member)
    rw [List.head?_reverse]
    exact fun c last => (named.last c last).2
  rw [stripQuotes, List.append_assoc, front, List.reverse_append, back, List.reverse_reverse]

theorem key_directed {word : List Char} {descending : Bool}
    (spelled : word.map Char.toLower = directionWord descending) {blank : Char}
    (gap : Text.isBlank blank = true) (front : List Char) :
    key (front ++ blank :: word) = (stripQuotes (Text.trim front), descending) := by
  rw [key, Text.cutAtLastBlank_append (no_blank_of_direction spelled) gap]
  dsimp only
  rw [direction?_eq_some_iff.mpr spelled]

theorem key_undirected {part : List Char} (clear : ¬EndsInDirection part) :
    key part = (stripQuotes part, false) := by
  rw [endsInDirection_iff] at clear
  unfold key
  split
  next front word cut =>
    split
    next descending directs => exact absurd ⟨front, word, descending, cut, directs⟩ clear
    next => rfl
  next => rfl

structure WrittenName where
  name : String
  quotes : List Char
  named : IsName name.toList
  plain : quotes = [] ∨ quotes = ['"'] ∨ quotes = ['\'']

namespace WrittenName

def chars (written : WrittenName) : List Char :=
  written.quotes ++ written.name.toList ++ written.quotes

variable (written : WrittenName)

theorem quotes_cases {c : Char} (member : c ∈ written.quotes) :
    isQuote c = true ∧ Text.isBlank c = false ∧ c ≠ ',' := by
  rcases written.plain with none | double | single
  · rw [none] at member
    cases member
  · rw [double, List.mem_singleton] at member
    subst member
    decide
  · rw [single, List.mem_singleton] at member
    subst member
    decide

theorem stripQuotes_chars : stripQuotes written.chars = written.name.toList :=
  stripQuotes_around (fun _ member => (written.quotes_cases member).1) written.named

theorem chars_ne_nil : written.chars ≠ [] :=
  List.append_ne_nil_of_left_ne_nil
    (List.append_ne_nil_of_right_ne_nil _ written.named.present) _

theorem comma_not_mem_chars : ',' ∉ written.chars := by
  intro member
  rcases List.mem_append.mp member with front | back
  · rcases List.mem_append.mp front with quote | inside
    · exact (written.quotes_cases quote).2.2 rfl
    · exact written.named.single inside
  · exact (written.quotes_cases back).2.2 rfl

theorem first_chars : ∀ c ∈ written.chars.head?, Text.isBlank c = false := by
  intro c first
  rw [chars, List.append_assoc, List.head?_append, Option.mem_def, Option.or_eq_some_iff] at first
  rcases first with quote | ⟨-, inside⟩
  · exact (written.quotes_cases (List.mem_of_head? quote)).2.1
  · rw [List.head?_append_of_ne_nil _ written.named.present] at inside
    exact (written.named.first c inside).1

theorem last_chars : ∀ c ∈ written.chars.getLast?, Text.isBlank c = false := by
  intro c last
  rw [chars, List.getLast?_append, Option.mem_def, Option.or_eq_some_iff] at last
  rcases last with quote | ⟨unquoted, inside⟩
  · exact (written.quotes_cases (List.mem_of_getLast? quote)).2.1
  · rw [List.getLast?_append_of_ne_nil _ written.named.present] at inside
    exact (written.named.last c inside).1

theorem trim_chars : Text.trim written.chars = written.chars :=
  Text.trim_of_ends written.first_chars written.last_chars

theorem not_endsInDirection_of_quoted (quoted : written.quotes ≠ []) :
    ¬EndsInDirection written.chars := by
  rintro ⟨front, blank, word, descending, parted, -, spelled⟩
  have last : word.getLast? = written.quotes.getLast? := by
    have whole := congrArg List.getLast? parted
    rw [chars, List.getLast?_append_of_ne_nil _ quoted, List.append_cons,
      List.getLast?_append_of_ne_nil _ (ne_nil_of_direction spelled)] at whole
    exact whole.symm
  have absent {c : Char} (sign : c ∈ ['"', '\'', ',']) : written.quotes.getLast? ≠ some c := by
    intro found
    exact no_sign_of_direction spelled sign (List.mem_of_getLast? (last.trans found))
  rcases written.plain with none | double | single
  · exact quoted none
  · exact absent (by decide) (congrArg List.getLast? double)
  · exact absent (by decide) (congrArg List.getLast? single)

end WrittenName

/-- A key as it is written in a clause. A bare name may leave out its direction, which is then
ascending, unless its own last word would be taken for one. -/
inductive WrittenKey
  | directed (written : WrittenName) (word : String) (descending : Bool)
      (spelled : word.toList.map Char.toLower = directionWord descending)
  | undirected (written : WrittenName)
      (clear : written.quotes = [] → ¬EndsInDirection written.name.toList)

namespace WrittenKey

def chars : WrittenKey → List Char
  | directed written word _ _ => written.chars ++ ' ' :: word.toList
  | undirected written _ => written.chars

def text (key : WrittenKey) : String := String.ofList key.chars

def name : WrittenKey → String
  | directed written _ _ _ => written.name
  | undirected written _ => written.name

def descending : WrittenKey → Bool
  | directed _ _ descending _ => descending
  | undirected _ _ => false

def sortKey (key : WrittenKey) : SortKey :=
  { field := .name key.name, descending := key.descending }

def listText (keys : List WrittenKey) : String := String.intercalate ", " (keys.map text)

theorem toList_listText (keys : List WrittenKey) :
    (listText keys).toList = [',', ' '].intercalate (keys.map chars) :=
  Text.toList_intercalate_ofList chars ", " keys

variable (key : WrittenKey)

theorem comma_not_mem_chars : ',' ∉ key.chars := by
  cases key with
  | directed written word descending spelled =>
    intro member
    rcases List.mem_append.mp member with front | back
    · exact written.comma_not_mem_chars front
    · have inside : ',' ∈ word.toList := (List.mem_cons.mp back).resolve_left (by decide)
      exact no_sign_of_direction spelled (by decide) inside
  | undirected written => exact written.comma_not_mem_chars

theorem trim_chars : Text.trim key.chars = key.chars := by
  cases key with
  | directed written word descending spelled =>
    apply Text.trim_of_ends
    · rw [chars, List.head?_append_of_ne_nil _ written.chars_ne_nil]
      exact written.first_chars
    · rw [chars, List.append_cons,
        List.getLast?_append_of_ne_nil _ (ne_nil_of_direction spelled)]
      exact fun c last => no_blank_of_direction spelled c (List.mem_of_getLast? last)
  | undirected written => exact written.trim_chars

theorem chars_ne_nil : key.chars ≠ [] := by
  cases key with
  | directed written => exact List.append_ne_nil_of_left_ne_nil written.chars_ne_nil _
  | undirected written => exact written.chars_ne_nil

theorem key_chars : OrderClause.key key.chars = (key.name.toList, key.descending) := by
  cases key with
  | directed written word descending spelled =>
    rw [chars, key_directed spelled (by decide), written.trim_chars, written.stripQuotes_chars]
    rfl
  | undirected written clear =>
    have bare : ¬EndsInDirection written.chars := by
      by_cases quoted : written.quotes = []
      · rw [WrittenName.chars, quoted, List.nil_append, List.append_nil]
        exact clear quoted
      · exact written.not_endsInDirection_of_quoted quoted
    rw [chars, key_undirected bare, written.stripQuotes_chars]
    rfl

theorem ofClause_text : SortKey.ofClause key.text = [key.sortKey] := by
  have present : key.chars.isEmpty = false := List.isEmpty_eq_false_iff.mpr key.chars_ne_nil
  rw [SortKey.ofClause, text, String.toList_ofList,
    Text.splitAt_of_not_mem key.comma_not_mem_chars, List.map_singleton, key.trim_chars,
    List.filter_cons_of_pos (by rw [present]; rfl), List.filter_nil, List.map_singleton,
    key.key_chars]
  simp only [String.ofList_toList]
  rfl

/-- Order clauses read back. A list of keys written with commas between them, each name bare or in
quotes and each direction in any case or, where it may be, left out, is read as these keys in their
order: their names without the quotes, as names of fields, with their directions. -/
theorem order_keys_read_back (keys : List WrittenKey) :
    SortKey.ofClause (listText keys) = keys.map sortKey := by
  induction keys with
  | nil => rfl
  | cons key others ih =>
    cases others with
    | nil =>
      have alone : listText [key] = key.text := String.intercalate_singleton
      rw [alone, key.ofClause_text]
      rfl
    | cons next others =>
      have joined : listText (key :: next :: others) =
          joinedOrders key.text (listText (next :: others)) := String.intercalate_cons_cons
      rw [joined, SortKey.ofClause_joinedOrders, key.ofClause_text, ih]
      rfl

/-- Names may have blanks and quotes inside and direction words anywhere. -/
theorem order_keys_read_back_words :
    ∃ keys : List WrittenKey,
      listText keys = "\"first desc\" asc, sort\u00a0desc dEsC, 'it's \"x\" asc', desc, a  b" ∧
        SortKey.ofClause (listText keys) =
          [{ field := .name "first desc" }, { field := .name "sort\u00a0desc", descending := true },
            { field := .name "it's \"x\" asc" }, { field := .name "desc" },
            { field := .name "a  b" }] := by
  have named {name : String} := @IsName.of_all name.toList
  have plain : ¬EndsInDirection "desc".toList ∧ ¬EndsInDirection "a  b".toList := by decide
  refine ⟨[.directed ⟨"first desc", ['"'], ?first, .inr (.inl rfl)⟩ "asc" false (by decide),
    .directed ⟨"sort\u00a0desc", [], ?sort, .inl rfl⟩ "dEsC" true (by decide),
    .undirected ⟨"it's \"x\" asc", ['\''], ?its, .inr (.inr rfl)⟩ ?quoted,
    .undirected ⟨"desc", [], ?desc, .inl rfl⟩ ?word,
    .undirected ⟨"a  b", [], ?gap, .inl rfl⟩ ?words], ?text, ?read⟩
  case first | sort | its | desc | gap => exact named (by decide) (by decide)
  case quoted => exact fun bare => absurd bare (List.cons_ne_nil _ _)
  case word => exact fun _ => plain.1
  case words => exact fun _ => plain.2
  case text =>
    rw [← String.toList_inj, toList_listText]
    simp only [List.map_cons, List.map_nil, chars, WrittenName.chars]
    decide
  case read =>
    rw [order_keys_read_back]
    rfl

end WrittenKey

end OrderClause

end TableQuery
