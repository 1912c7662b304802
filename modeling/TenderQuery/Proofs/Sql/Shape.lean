import TenderQuery.Proofs.Sql.Verdict
import TenderQuery.Sql.Shape

/-!
# What the shape check lets through

`isWellShaped_iff` takes the four signs of a bad shape apart. `HoldsProse` says in words which texts hold prose. Two
of the signs need a clause behind a semicolon, and a text that chains nothing has none: the gate takes the keyword
of a clause for a statement in every spelling (`appliesTo_statement_of_spells`).
-/
set_option autoImplicit false
namespace TenderQuery.Sql
open TenderQuery.Text

/-- The texts without a sign of a bad shape. -/
structure HasGoodShape (s : List Char) : Prop where
  unjoined : occurs joinedClauses s = false
  clauses : ∀ a b, s = a ++ b → semicolonBeforeClause b = none
  prose : occurs leftoverProse s = false
  balanced : parenthesesBalanced s = true

theorem scan_everywhere_isSome_iff {α : Type} (p : List Char → Option α) (s : List Char) :
    (scan (fun _ _ => ()) (fun _ => p) () s).isSome = true ↔ ∃ a b, s = a ++ b ∧ (p b).isSome = true :=
  scan_isSome_iff

theorem scan_everywhere_eq_none_iff {α : Type} (p : List Char → Option α) (s : List Char) :
    scan (fun _ _ => ()) (fun _ => p) () s = none ↔ ∀ a b, s = a ++ b → p b = none := by
  rw [← Option.not_isSome_iff_eq_none, scan_everywhere_isSome_iff]
  constructor
  · intro h a b heq
    rw [← Option.not_isSome_iff_eq_none]
    exact fun hsome => h ⟨a, b, heq, hsome⟩
  · rintro h ⟨a, b, heq, hsome⟩
    rw [h a b heq] at hsome
    cases hsome

theorem occurs_eq_false_iff {α : Type} (p : List Char → Option α) (s : List Char) :
    occurs p s = false ↔ search p s = none := by
  unfold occurs
  rw [Option.isSome_eq_false_iff, Option.isNone_iff_eq_none]

theorem isWellShaped_iff (sql : String) : isWellShaped sql = true ↔ HasGoodShape sql.toList := by
  have hshape : HasGoodShape sql.toList ↔ search joinedClauses sql.toList = none ∧
      scan (fun _ _ => ()) (fun _ => semicolonBeforeClause) () sql.toList = none ∧
      search leftoverProse sql.toList = none ∧ parenthesesBalanced sql.toList = true := by
    rw [scan_everywhere_eq_none_iff, ← occurs_eq_false_iff, ← occurs_eq_false_iff]
    exact ⟨fun h => ⟨h.unjoined, h.clauses, h.prose, h.balanced⟩, fun h => ⟨h.1, h.2.1, h.2.2.1, h.2.2.2⟩⟩
  rw [hshape]
  unfold isWellShaped defect?
  simp only
  cases search joinedClauses sql.toList with
  | some found => simp
  | none =>
    cases scan (fun _ _ => ()) (fun _ => semicolonBeforeClause) () sql.toList with
    | some found => simp
    | none =>
      cases search leftoverProse sql.toList with
      | some found => simp
      | none => cases parenthesesBalanced sql.toList <;> simp

/-! ## Prose -/

/-- Two whole words stand next to each other, with one space between them. -/
def HoldsPair (first second : String) (s : List Char) : Prop :=
  ∃ a x y b, s = a ++ (x ++ ' ' :: (y ++ b)) ∧ endsWord a = false ∧ Spells first x ∧ Spells second y ∧
    startsWord b = false

/-- One of the three phrases stands in the text in whole words, without regard to case. -/
def HoldsProse (s : List Char) : Prop :=
  HoldsPair "THIS" "QUERY" s ∨ HoldsPair "THE" "QUERY" s ∨ HoldsKeyword "EXPLANATION" s

/-- The word in small letters. -/
def small (word : String) : List Char := word.toList.map Char.toLower

theorem fits_small_iff {word : String} (h : IsCapitals word) (piece : List Char) :
    Fits (small word) piece ↔ Spells word piece :=
  (fits_map_toLower h.2 piece).trans (fits_iff_spells h piece)

theorem fits_pair_iff {first second : String} (hfirst : IsCapitals first) (hsecond : IsCapitals second)
    (piece : List Char) : Fits (small first ++ ' ' :: small second) piece ↔
      ∃ x y, piece = x ++ ' ' :: y ∧ Spells first x ∧ Spells second y := by
  have hspace : ∀ c, sameLetter ' ' c = true ↔ ' ' = c := sameLetter_iff_eq (by decide)
  simp only [fits_append_iff, fits_cons_iff, hspace, fits_small_iff hfirst, fits_small_iff hsecond]
  constructor
  · rintro ⟨x, _, rfl, hx, _, y, rfl, rfl, hy⟩
    exact ⟨x, y, rfl, hx, hy⟩
  · rintro ⟨x, y, rfl, hx, hy⟩
    exact ⟨x, _, rfl, hx, ' ', y, rfl, rfl, hy⟩

theorem occurs_phrase_iff {phrase first second : String} (hphrase : phrase.toList = small first ++ ' ' :: small second)
    (hfirst : IsCapitals first) (hsecond : IsCapitals second) (s : List Char) :
    occurs (word phrase) s = true ↔ HoldsPair first second s := by
  rw [occurs_iff]
  simp only [Option.isSome_iff_exists, word_eq_some_iff, hphrase, fits_pair_iff hfirst hsecond]
  constructor
  · rintro ⟨a, _, rfl, ha, b, _, rfl, ⟨x, y, rfl, hx, hy⟩, hb⟩
    exact ⟨a, x, y, b, by rw [List.append_assoc, List.cons_append], ha, hx, hy, hb⟩
  · rintro ⟨a, x, y, b, rfl, ha, hx, hy, hb⟩
    refine ⟨a, _, rfl, ha, b, x ++ ' ' :: y, ?_, ⟨x, y, rfl, hx, hy⟩, hb⟩
    rw [List.append_assoc, List.cons_append]

theorem holdsKeyword_iff_words (keyword : String) (s : List Char) :
    HoldsKeyword keyword s ↔ ∃ w ∈ words s, Spells keyword w := by
  simp only [mem_words_iff]
  constructor
  · rintro ⟨a, w, b, heq, hat, hspells⟩
    exact ⟨w, ⟨a, b, heq, hat⟩, hspells⟩
  · rintro ⟨w, ⟨a, b, heq, hat⟩, hspells⟩
    exact ⟨a, w, b, heq, hat, hspells⟩

theorem occurs_small_iff {phrase keyword : String} (hphrase : phrase.toList = small keyword)
    (hkeyword : IsCapitals keyword) (hletters : IsKeyword phrase.toList) (s : List Char) :
    occurs (word phrase) s = true ↔ HoldsKeyword keyword s := by
  rw [occurs_word_iff hletters, holdsKeyword_iff_words]
  simp only [hphrase, fits_small_iff hkeyword]

theorem occurs_leftoverProse_iff (s : List Char) : occurs leftoverProse s = true ↔ HoldsProse s := by
  have hany : occurs leftoverProse s = true ↔
      ∃ p ∈ ["this query", "the query", "explanation"], occurs (word p) s = true := by
    unfold leftoverProse
    simp only [occurs_iff, oneOfWords_isSome_iff]
    constructor
    · rintro ⟨a, b, heq, ha, p, hp, hb⟩
      exact ⟨p, hp, a, b, heq, ha, hb⟩
    · rintro ⟨p, hp, a, b, heq, ha, hb⟩
      exact ⟨a, b, heq, ha, p, hp, hb⟩
  have hthis := @occurs_phrase_iff "this query" "THIS" "QUERY" (by decide) (by decide) (by decide) s
  have hthe := @occurs_phrase_iff "the query" "THE" "QUERY" (by decide) (by decide) (by decide) s
  have hword := @occurs_small_iff "explanation" "EXPLANATION" (by decide) (by decide) (by decide) s
  rw [hany]
  simp only [List.mem_cons, List.not_mem_nil, or_false, exists_eq_or_imp, exists_eq_left, hthis, hthe, hword]
  exact Iff.rfl

/-- Both words of a pair are words of the text. -/
theorem HoldsPair.mem_words {first second : String} (hfirst : IsCapitals first) (hsecond : IsCapitals second)
    {s : List Char} (h : HoldsPair first second s) :
    (∃ x ∈ words s, Spells first x) ∧ ∃ y ∈ words s, Spells second y := by
  obtain ⟨a, x, y, b, rfl, ha, hx, hy, hb⟩ := h
  have hspace : isWord ' ' = false := by decide
  have hat : IsWordAt a x (' ' :: (y ++ b)) := ⟨hfirst.ne_nil hx, hfirst.isWord hx, ha, hspace⟩
  have hend : endsWord (a ++ (x ++ [' '])) = false := by
    rw [← List.append_assoc, endsWord_concat]
    exact hspace
  have hat' : IsWordAt (a ++ (x ++ [' '])) y b := ⟨hsecond.ne_nil hy, hsecond.isWord hy, hend, hb⟩
  exact ⟨⟨x, mem_words_iff.mpr ⟨a, _, by simp, hat⟩, hx⟩,
    ⟨y, mem_words_iff.mpr ⟨_, b, by simp, hat'⟩, hy⟩⟩

/-! ## Clauses behind a semicolon -/

/-- A word of capitals counts as a statement behind a semicolon, whatever its spelling. -/
theorem appliesTo_statement_of_spells {keyword : String} (hkeyword : IsCapitals keyword)
    (hkelvin : keyword.toList.head? ≠ some 'K') {piece : List Char} (hpiece : Spells keyword piece)
    (hdotted : keyword.toList.head? = some 'I' → '\u0130' ∉ piece) (rest : List Char) :
    Chaining.statement.appliesTo (upper (piece ++ rest)) = true := by
  obtain ⟨p, pattern, hp⟩ := List.exists_cons_of_ne_nil hkeyword.1
  have hupper : p.isUpper = true := hkeyword.2 p (by rw [hp]; exact List.mem_cons_self)
  rw [hp, List.head?_cons] at hkelvin hdotted
  unfold Spells at hpiece
  rw [hp, List.forall₂_cons_left_iff] at hpiece
  obtain ⟨c, r, hc, -, rfl⟩ := hpiece
  have hne : p = 'I' → c ≠ '\u0130' := fun heq hc => hdotted (congrArg some heq) (hc ▸ List.mem_cons_self)
  rw [List.cons_append, upper_cons, upperChar_of_isFormOf hupper (fun heq => hkelvin (congrArg some heq)) hne hc]
  obtain ⟨hfirst, hlast⟩ : 65 ≤ p.val ∧ p.val ≤ 90 := of_decide_eq_true hupper
  exact Bool.and_eq_true_iff.mpr ⟨decide_eq_true hfirst, decide_eq_true hlast⟩

theorem suffix_of_word {pattern : String} {s rest : List Char} (h : word pattern s = some rest) :
    rest <:+ s := by
  obtain ⟨piece, rfl, -, -⟩ := word_eq_some_iff.mp h
  exact List.suffix_append _ _

theorem suffix_of_oneOfWords {patterns : List String} {s rest : List Char}
    (h : oneOfWords patterns s = some rest) : rest <:+ s := by
  obtain ⟨pattern, -, hword⟩ := List.exists_of_findSome?_eq_some h
  exact suffix_of_word hword

theorem suffix_of_wordPair {first second : String} {s rest : List Char}
    (h : wordPair first second s = some rest) : rest <:+ s := by
  obtain ⟨x, gap, y, rfl, -⟩ := wordPair_eq_some h
  exact ⟨x ++ (gap ++ y), by simp only [List.append_assoc]⟩

theorem suffix_of_clause {s rest : List Char} (h : clause s = some rest) : rest <:+ s := by
  unfold clause at h
  obtain h | h := eq_some_of_orElse h
  · exact suffix_of_oneOfWords h
  obtain h | h := eq_some_of_orElse h
  · exact suffix_of_wordPair h
  · exact suffix_of_wordPair h

theorem exists_append_of_afterSemicolon {s rest : List Char} (h : afterSemicolon s = some rest) :
    ∃ front, s = front ++ ';' :: rest := by
  induction s with
  | nil => cases h
  | cons c r ih =>
    rw [afterSemicolon] at h
    split at h
    · rename_i hc
      cases h
      exact ⟨[], by rw [hc, List.nil_append]⟩
    · obtain ⟨front, rfl⟩ := ih h
      exact ⟨c :: front, rfl⟩

/-- Words that the shape check looks for behind a semicolon. -/
def openers : List String := ["SELECT", "FROM", "WHERE", "ORDER", "GROUP", "HAVING"]

section Unchained
variable {s : List Char} (h : IsUnchained s)
include h

theorem IsUnchained.clauseStart_eq_none {keywords : List String} (hkeywords : keywords ⊆ openers) {x y : List Char}
    (heq : s = x ++ ';' :: y) : clauseStart keywords y = none := by
  have hopeners : ∀ k ∈ openers, IsCapitals k ∧ k.toList.head? ≠ some 'K' ∧ k.toList.head? ≠ some 'I' := by
    decide
  have hnone := (isUnchained_iff s).mp h x y heq .statement (by decide)
  rw [← Option.not_isSome_iff_eq_none]
  unfold clauseStart
  rw [oneOfWords_isSome_iff]
  rintro ⟨k, hk, hword⟩
  obtain ⟨hcapitals, hkelvin, hdotted⟩ := hopeners k (hkeywords hk)
  obtain ⟨piece, rest, hstart, hpiece, -⟩ := (word_isSome_iff_spells hcapitals _).mp hword
  rw [hstart, appliesTo_statement_of_spells hcapitals hkelvin hpiece (absurd · hdotted)] at hnone
  cases hnone

theorem IsUnchained.semicolonBeforeClause_eq_none {a b : List Char} (heq : s = a ++ b) :
    semicolonBeforeClause b = none := by
  cases b with
  | nil => rfl
  | cons c r =>
    rw [semicolonBeforeClause]
    split
    · rename_i hc
      subst hc
      exact h.clauseStart_eq_none (by decide) heq
    · rfl

theorem IsUnchained.occurs_joinedClauses : occurs joinedClauses s = false := by
  rw [← Bool.not_eq_true, occurs_iff]
  rintro ⟨a, b, rfl, -, hsome⟩
  obtain ⟨rest, hrest⟩ := Option.isSome_iff_exists.mp hsome
  unfold joinedClauses at hrest
  obtain ⟨t, ht, hbehind⟩ := Option.bind_eq_some_iff.mp hrest
  obtain ⟨u, hu, hfound⟩ := Option.bind_eq_some_iff.mp hbehind
  obtain ⟨v, rfl⟩ := suffix_of_clause ht
  obtain ⟨w, rfl⟩ := exists_append_of_afterSemicolon hu
  have hnone : clauseStart ["SELECT", "FROM", "WHERE", "ORDER", "GROUP", "HAVING"] u = none :=
    h.clauseStart_eq_none (x := a ++ (v ++ w)) (by decide) (by simp only [List.append_assoc])
  rw [hnone] at hfound
  cases hfound

end Unchained

end TenderQuery.Sql
