import Mathlib.Data.List.Chain
import TenderQuery.Proofs.Sql.Masking
import TenderQuery.Proofs.Sql.ReadOnly
import TenderQuery.Proofs.Sql.Shape

/-!
# Plain statements

A statement without semicolons passes both checks when it opens a query, has none of the words that the checks
look for, and balances its parentheses (`IsPlain`). A statement that is cut between words may have a word put
into each gap: `PlainPieces.isPlain` judges the pieces once for every such word.
-/
set_option autoImplicit false
namespace TenderQuery.Sql
open TenderQuery.Text

/-! ## Words that the checks look for -/

/-- The words that leftover prose begins with. -/
def proseWords : List String := ["this", "the", "explanation"]

/-- Neither check looks for the word. -/
def IsQuiet (w : List Char) : Prop :=
  (∀ keyword ∈ blockedKeywords, ¬ Fits keyword.toList w) ∧ ∀ keyword ∈ proseWords, ¬ Fits keyword.toList w

instance (w : List Char) : Decidable (IsQuiet w) := inferInstanceAs (Decidable (_ ∧ _))

theorem isKeyword_of_mem_proseWords : ∀ keyword ∈ proseWords, IsKeyword keyword.toList := by decide

theorem isQuiet_of_isDigit {c : Char} (h : c.isDigit = true) (r : List Char) : IsQuiet (c :: r) := by
  have hfits : ∀ keyword : String, IsKeyword keyword.toList → ¬ Fits keyword.toList (c :: r) := by
    rintro keyword ⟨hne, halpha⟩ hfits
    obtain ⟨p, pattern, hpattern⟩ := List.exists_cons_of_ne_nil hne
    rw [hpattern] at hfits halpha
    obtain ⟨d, t, heq, hsame, -⟩ := (fits_cons_iff p pattern _).mp hfits
    cases heq
    rw [sameLetter_of_isDigit (halpha p List.mem_cons_self) h] at hsame
    cases hsame
  exact ⟨fun k hk => hfits k (isKeyword_of_mem_blockedKeywords k hk),
    fun k hk => hfits k (isKeyword_of_mem_proseWords k hk)⟩

/-- Prose occurs only where one of those words does. -/
theorem mem_words_of_leftoverProse {s : List Char} (h : occurs leftoverProse s = true) :
    ∃ w ∈ words s, ∃ keyword ∈ proseWords, Fits keyword.toList w := by
  have hquery : IsCapitals "QUERY" := by decide
  have hfits : ∀ {capitals : String} (keyword : String), IsCapitals capitals → keyword ∈ proseWords →
      keyword.toList = small capitals → (∃ w ∈ words s, Spells capitals w) →
      ∃ w ∈ words s, ∃ keyword ∈ proseWords, Fits keyword.toList w := by
    rintro _ keyword hcapitals hkeyword hsmall ⟨w, hw, hspells⟩
    exact ⟨w, hw, keyword, hkeyword, hsmall ▸ (fits_small_iff hcapitals w).mpr hspells⟩
  obtain hpair | hpair | hword := (occurs_leftoverProse_iff s).mp h
  · have hthis : IsCapitals "THIS" := by decide
    exact hfits "this" hthis (by decide) (by decide) (hpair.mem_words hthis hquery).1
  · have hthe : IsCapitals "THE" := by decide
    exact hfits "the" hthe (by decide) (by decide) (hpair.mem_words hthe hquery).1
  · exact hfits "explanation" (by decide) (by decide) (by decide) ((holdsKeyword_iff_words "EXPLANATION" s).mp hword)

/-! ## Plain statements -/

structure IsPlain (s : List Char) : Prop where
  opens : OpensQuery s
  quiet : ∀ w ∈ words s, IsQuiet w
  semicolon : ';' ∉ s
  balanced : parenthesesBalanced s = true

namespace IsPlain
variable {s : List Char}

theorem passesGate (h : IsPlain s) : PassesGate s := by
  refine ⟨h.opens, fun w hw => (h.quiet w hw).1, ?_⟩
  have hunchained := isUnchained_append_of_not_mem h.semicolon []
  rw [List.append_nil] at hunchained
  exact hunchained.mpr fun t ht => by cases ht

theorem hasGoodShape (h : IsPlain s) : HasGoodShape s := by
  refine ⟨h.passesGate.unchained.occurs_joinedClauses,
    fun _ _ heq => h.passesGate.unchained.semicolonBeforeClause_eq_none heq, ?_, h.balanced⟩
  · rw [← Bool.not_eq_true]
    intro hprose
    obtain ⟨w, hw, keyword, hkeyword, hfits⟩ := mem_words_of_leftoverProse hprose
    exact (h.quiet w hw).2 keyword hkeyword hfits

end IsPlain

theorem accepted_of_isPlain {sql : String} (h : IsPlain sql.toList) :
    isReadOnly sql = true ∧ isWellShaped sql = true :=
  ⟨(isReadOnly_iff sql).mpr h.passesGate, (isWellShaped_iff sql).mpr h.hasGoodShape⟩

/-! ## Statements in pieces -/

/-- Between the two texts a word can stand alone. -/
def Parted (p q : List Char) : Prop := endsWord p = false ∧ q ≠ [] ∧ startsWord q = false

instance (p q : List Char) : Decidable (Parted p q) := inferInstanceAs (Decidable (_ ∧ _ ∧ _))

/-- A word that can stand in any gap. -/
structure IsFiller (w : List Char) : Prop where
  ne_nil : w ≠ []
  isWord : ∀ c ∈ w, Text.isWord c = true
  quiet : IsQuiet w

theorem IsFiller.not_mem {w : List Char} (h : IsFiller w) {c : Char} (hc : Text.isWord c = false) : c ∉ w :=
  fun hmem => Bool.false_ne_true (hc.symm.trans (h.isWord c hmem))

/-- Pieces of a statement that is plain whatever word is put into the gaps. -/
structure PlainPieces (pieces : List (List Char)) : Prop where
  opens : OpensQuery (pieces.headD [])
  parted : pieces.IsChain Parted
  quiet : ∀ p ∈ pieces, ∀ w ∈ words p, IsQuiet w
  semicolon : ∀ p ∈ pieces, ';' ∉ p
  quote : ∀ p ∈ pieces.tail, '\'' ∉ p
  balanced : parenthesesBalanced pieces.flatten = true

theorem intercalate_cons (word p : List Char) (rest : List (List Char)) :
    word.intercalate (p :: rest) = p ++ rest.flatMap (word ++ ·) := by
  induction rest generalizing p with
  | nil => rw [List.intercalate_singleton, List.flatMap_nil, List.append_nil]
  | cons q rest ih =>
    rw [List.intercalate_cons_cons, ih, List.flatMap_cons]
    simp only [List.append_assoc]

instance (pieces : List (List Char)) : Decidable (PlainPieces pieces) :=
  decidable_of_iff
    (OpensQuery (pieces.headD []) ∧ pieces.IsChain Parted ∧
      (∀ p ∈ pieces, ∀ w ∈ words p, IsQuiet w) ∧ (∀ p ∈ pieces, ';' ∉ p) ∧
      (∀ p ∈ pieces.tail, '\'' ∉ p) ∧
      parenthesesBalanced pieces.flatten = true)
    ⟨fun ⟨h₁, h₂, h₃, h₄, h₅, h₆⟩ => ⟨h₁, h₂, h₃, h₄, h₅, h₆⟩,
      fun ⟨h₁, h₂, h₃, h₄, h₅, h₆⟩ => ⟨h₁, h₂, h₃, h₄, h₅, h₆⟩⟩

/-- A word in every gap is a word of the whole. -/
theorem words_append_flatMap {word : List Char} (hword : IsFiller word) {p : List Char}
    {rest : List (List Char)}
    (h : (p :: rest).IsChain Parted) :
    words (p ++ rest.flatMap (word ++ ·)) = words p ++ rest.flatMap fun q => word :: words q := by
  induction rest generalizing p with
  | nil => rw [List.flatMap_nil, List.append_nil, List.flatMap_nil, List.append_nil]
  | cons q rest ih =>
    obtain ⟨⟨hp, hne, hq⟩, hrest⟩ := List.isChain_cons_cons.mp h
    have hstart : startsWord (q ++ rest.flatMap (word ++ ·)) = false := (startsWord_append hne).trans hq
    have hat : IsWordAt p word (q ++ rest.flatMap (word ++ ·)) := ⟨hword.ne_nil, hword.isWord, hp, hstart⟩
    rw [List.flatMap_cons, List.flatMap_cons, List.append_assoc, ← List.append_assoc, hat.words_eq, ih hrest,
      List.cons_append]

theorem filter_flatMap_append {word : List Char} (hword : word.filter isParenthesis = [])
    (rest : List (List Char)) :
    (rest.flatMap (word ++ ·)).filter isParenthesis = rest.flatten.filter isParenthesis := by
  induction rest with
  | nil => rfl
  | cons q rest ih =>
    simp only [List.flatMap_cons, List.flatten_cons, List.filter_append]
    rw [hword, List.nil_append, ih]

namespace PlainPieces
variable {p : List Char} {rest : List (List Char)}

theorem not_mem_flatMap {word : List Char} {c : Char} (hword : c ∉ word) (h : ∀ q ∈ rest, c ∉ q) :
    c ∉ rest.flatMap (word ++ ·) := by
  intro hmem
  obtain ⟨q, hq, hc⟩ := List.mem_flatMap.mp hmem
  obtain hc | hc := List.mem_append.mp hc
  · exact hword hc
  · exact h q hq hc

theorem balanced_intercalate (h : PlainPieces (p :: rest)) {word : List Char} (hword : IsFiller word) :
    parenthesesBalanced (word.intercalate (p :: rest)) = true := by
  have hnone : word.filter isParenthesis = [] := by
    rw [List.filter_eq_nil_iff]
    intro c hc hpar
    unfold isParenthesis at hpar
    rw [Bool.or_eq_true, beq_iff_eq, beq_iff_eq] at hpar
    obtain rfl | rfl := hpar
    · exact hword.not_mem (by decide) hc
    · exact hword.not_mem (by decide) hc
  have hflat : '\'' ∉ rest.flatten := by
    intro hc
    obtain ⟨q, hq, hc⟩ := List.mem_flatten.mp hc
    exact h.quote q hq hc
  have hgaps : '\'' ∉ rest.flatMap (word ++ ·) := not_mem_flatMap (hword.not_mem (by decide)) h.quote
  have hbalanced := h.balanced
  rw [List.flatten_cons, parenthesesBalanced_append hflat] at hbalanced
  rw [intercalate_cons, parenthesesBalanced_append hgaps, filter_flatMap_append hnone]
  exact hbalanced

theorem isPlain {pieces : List (List Char)} (h : PlainPieces pieces) {word : List Char}
    (hword : IsFiller word) :
    IsPlain (word.intercalate pieces) := by
  have hopens := h.opens
  cases pieces with
  | nil => exact absurd rfl hopens.ne_nil
  | cons p rest =>
    have hwords := words_append_flatMap hword h.parted
    refine ⟨?_, ?_, ?_, h.balanced_intercalate hword⟩
    · rw [intercalate_cons]
      exact (opensQuery_append_iff hopens.words_ne_nil hwords).mpr hopens
    · intro w hw
      rw [intercalate_cons, hwords, List.mem_append, List.mem_flatMap] at hw
      obtain hw | ⟨q, hq, hw⟩ := hw
      · exact h.quiet p List.mem_cons_self w hw
      · obtain rfl | hw := List.mem_cons.mp hw
        · exact hword.quiet
        · exact h.quiet q (List.mem_cons_of_mem _ hq) w hw
    · rw [intercalate_cons, List.mem_append, not_or]
      refine ⟨h.semicolon p List.mem_cons_self, not_mem_flatMap (hword.not_mem (by decide)) fun q hq => ?_⟩
      exact h.semicolon q (List.mem_cons_of_mem _ hq)

end PlainPieces

end TenderQuery.Sql
