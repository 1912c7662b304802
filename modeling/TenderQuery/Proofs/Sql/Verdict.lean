import TenderQuery.Proofs.Sql.ReadOnly
import TenderQuery.Proofs.Text.Spelling

/-!
# The verdict of the read-only gate

The gate has three rules on the trimmed text: it begins a query (`BeginsQuery`), it holds no blocked keyword as a
whole word (`HoldsKeyword`), and behind every semicolon of its upper case something stands that is no statement
and no comment (`ChainsNothing`). `details_iff` says which rule is named for every text, and which keyword.
-/
set_option autoImplicit false
namespace TenderQuery.Sql
open TenderQuery.Text

/-! ## The rules -/

/-- The text begins with a spelling of SELECT or WITH, and no word character follows. -/
def BeginsQuery (s : List Char) : Prop :=
  ∃ piece rest, s = piece ++ rest ∧ (Spells "SELECT" piece ∨ Spells "WITH" piece) ∧ startsWord rest = false

/-- A maximal run of word characters spells the keyword. -/
def HoldsKeyword (keyword : String) (s : List Char) : Prop :=
  ∃ a w b, s = a ++ w ++ b ∧ IsWordAt a w b ∧ Spells keyword w

def HoldsNoBlocked (s : List Char) : Prop := ∀ keyword ∈ blockedKeywords, ¬ HoldsKeyword keyword s

/-- The keyword is the first one of the list that the text holds. -/
def HoldsFirst (keyword : String) (s : List Char) : Prop :=
  ∃ before after, blockedKeywords = before ++ keyword :: after ∧ HoldsKeyword keyword s ∧
    ∀ earlier ∈ before, ¬ HoldsKeyword earlier s

/-- The text is not empty and begins neither with a letter from A to Z nor with a comment. -/
def BeginsNothing (s : List Char) : Prop :=
  ∃ c r, s = c :: r ∧ ¬ ('A' ≤ c ∧ c ≤ 'Z') ∧ ¬ ['-', '-'] <+: s ∧ ¬ ['/', '*'] <+: s

/-- No semicolon of the upper case has a statement, a comment or nothing behind it and its blanks. -/
def ChainsNothing (s : List Char) : Prop := ∀ a b, upper s = a ++ ';' :: b → BeginsNothing (trimStart b)

/-! ## One rule at a time -/

theorem isCapitals_of_mem_blockedKeywords : ∀ keyword ∈ blockedKeywords, IsCapitals keyword := by decide

theorem word_isSome_iff_spells {keyword : String} (h : IsCapitals keyword) (s : List Char) :
    (word keyword s).isSome = true ↔
      ∃ piece rest, s = piece ++ rest ∧ Spells keyword piece ∧ startsWord rest = false := by
  rw [Option.isSome_iff_exists, exists_comm]
  refine exists_congr fun rest => ?_
  rw [word_eq_some_iff]
  exact exists_congr fun piece => and_congr_right fun _ => and_congr_left fun _ => fits_iff_spells h piece

theorem startsReadOnly_iff_beginsQuery (s : List Char) : startsReadOnly s = true ↔ BeginsQuery s := by
  unfold startsReadOnly BeginsQuery
  rw [oneOfWords_isSome_iff]
  simp only [List.mem_cons, List.not_mem_nil, or_false, exists_eq_or_imp, exists_eq_left]
  rw [word_isSome_iff_spells (by decide), word_isSome_iff_spells (by decide)]
  constructor
  · rintro (⟨piece, rest, heq, hspells, hrest⟩ | ⟨piece, rest, heq, hspells, hrest⟩)
    · exact ⟨piece, rest, heq, .inl hspells, hrest⟩
    · exact ⟨piece, rest, heq, .inr hspells, hrest⟩
  · rintro ⟨piece, rest, heq, hspells | hspells, hrest⟩
    · exact .inl ⟨piece, rest, heq, hspells, hrest⟩
    · exact .inr ⟨piece, rest, heq, hspells, hrest⟩

theorem occurs_iff_holdsKeyword {keyword : String} (h : keyword ∈ blockedKeywords) (s : List Char) :
    occurs (word keyword) s = true ↔ HoldsKeyword keyword s :=
  occurs_word_iff_spells (isCapitals_of_mem_blockedKeywords keyword h) s

theorem blockedKeyword?_eq_none_iff (s : List Char) : blockedKeyword? s = none ↔ HoldsNoBlocked s := by
  unfold blockedKeyword?
  rw [List.find?_eq_none]
  exact forall₂_congr fun keyword h => not_congr (occurs_iff_holdsKeyword h s)

theorem blockedKeyword?_eq_some_iff (s : List Char) (keyword : String) :
    blockedKeyword? s = some keyword ↔ HoldsFirst keyword s := by
  unfold blockedKeyword? HoldsFirst
  rw [List.find?_eq_some_iff_append, ← exists_and_left]
  refine exists_congr fun before => ?_
  rw [← exists_and_left]
  refine exists_congr fun after => ?_
  rw [and_left_comm]
  refine and_congr_right fun heq => ?_
  have hmem : ∀ k ∈ before ++ keyword :: after, k ∈ blockedKeywords := fun k hk => heq ▸ hk
  rw [occurs_iff_holdsKeyword (hmem _ (List.mem_append_right _ List.mem_cons_self))]
  refine and_congr_right fun _ => forall₂_congr fun earlier he => ?_
  rw [← occurs_iff_holdsKeyword (hmem _ (List.mem_append_left _ he)), Bool.not_eq_true, Bool.not_eq_true']

/-- A text that no kind of chaining applies to begins nothing. -/
theorem beginsNothing_iff (s : List Char) :
    BeginsNothing s ↔ ∀ kind ∈ Chaining.all, kind.appliesTo s = false := by
  simp only [Chaining.all, List.mem_cons, List.not_mem_nil, or_false, forall_eq_or_imp, forall_eq,
    ← Bool.not_eq_true]
  simp only [Chaining.appliesTo, List.isPrefixOf_iff_prefix]
  cases s with
  | nil => simp [BeginsNothing]
  | cons c r => simp [BeginsNothing, and_comm, and_assoc]

theorem chaining?_eq_none_iff (s : List Char) : chaining? s = none ↔ ChainsNothing s := by
  unfold chaining? ChainsNothing
  simp only [List.find?_eq_none, List.any_eq_true, mem_afterSemicolons_iff, beginsNothing_iff]
  constructor
  · intro h a b heq kind hk
    rw [← Bool.not_eq_true]
    exact fun happlies => h kind hk ⟨_, ⟨a, b, heq, rfl⟩, happlies⟩
  · rintro h kind hk ⟨_, ⟨a, b, heq, rfl⟩, happlies⟩
    rw [h a b heq kind hk] at happlies
    cases happlies

theorem chainsNothing_iff_isUnchained (s : List Char) : ChainsNothing s ↔ IsUnchained s := by
  rw [← chaining?_eq_none_iff, chaining_eq_none_iff]

/-! ## The verdict -/

/-- What is reported of a broken rule: its name and, for a keyword, which one. -/
def Violation.details (v : Violation) : String × Option String := (v.rule, v.keyword?)

theorem details_eq (sql : String) :
    (violation? sql).map Violation.details =
      if startsReadOnly (trim sql.toList) = true then
        match blockedKeyword? (trim sql.toList) with
        | some keyword => some ("blocked_keyword", some keyword)
        | none => (chaining? (trim sql.toList)).map fun _ => ("statement_chaining", none)
      else some ("allowed_prefix", none) := by
  unfold violation?
  by_cases hempty : sql.isEmpty = true
  · have hnil : sql.toList = [] := by rw [String.isEmpty_iff.mp hempty]; rfl
    rw [if_pos hempty, hnil]
    rfl
  · rw [if_neg hempty]
    dsimp only
    cases startsReadOnly (trim sql.toList) with
    | false => rfl
    | true =>
      rw [if_neg (by decide), if_pos rfl]
      cases blockedKeyword? (trim sql.toList) with
      | some keyword => rfl
      | none => cases chaining? (trim sql.toList) <;> rfl

/-- A text passes when it keeps the three rules. Else the first broken rule is named, in this order, and for the
keyword rule the first keyword of the list that the text holds. -/
theorem details_iff (sql : String) :
    (isReadOnly sql = true ↔
      BeginsQuery (trim sql.toList) ∧ HoldsNoBlocked (trim sql.toList) ∧ ChainsNothing (trim sql.toList)) ∧
    ((violation? sql).map Violation.details = some ("allowed_prefix", none) ↔
      ¬ BeginsQuery (trim sql.toList)) ∧
    (∀ keyword, (violation? sql).map Violation.details = some ("blocked_keyword", some keyword) ↔
      BeginsQuery (trim sql.toList) ∧ HoldsFirst keyword (trim sql.toList)) ∧
    ((violation? sql).map Violation.details = some ("statement_chaining", none) ↔
      BeginsQuery (trim sql.toList) ∧ HoldsNoBlocked (trim sql.toList) ∧ ¬ ChainsNothing (trim sql.toList)) := by
  have hreadOnly : isReadOnly sql = true ↔ (violation? sql).map Violation.details = none := by
    rw [Option.map_eq_none_iff]
    exact Option.isNone_iff_eq_none
  rw [hreadOnly, details_eq]
  simp only [← startsReadOnly_iff_beginsQuery, ← blockedKeyword?_eq_none_iff, ← blockedKeyword?_eq_some_iff,
    ← chaining?_eq_none_iff]
  cases startsReadOnly (trim sql.toList) with
  | false => simp
  | true =>
    cases blockedKeyword? (trim sql.toList) with
    | some keyword => simp
    | none => cases chaining? (trim sql.toList) <;> simp

end TenderQuery.Sql
