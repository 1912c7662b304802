import TenderQuery.Proofs.Text.Searching
import TenderQuery.Sql.SoftDelete

/-!
# Comparisons of a column

`IsComparison column piece` spells out what counts as a comparison of a column with 0 or NULL, and
`comparison_eq_some_iff` says that the search for the filter looks for just that. So whether a piece of text is
one depends on nothing but the piece, and on no word going on behind it.
-/
set_option autoImplicit false
namespace TenderQuery.Sql
open TenderQuery.Text

/-! ## The test behind the column -/

def IsZeroTest (test : List Char) : Prop := ∃ gap, test = '=' :: (gap ++ ['0']) ∧ IsBlanks gap

def IsNullTest (test : List Char) : Prop :=
  ∃ x gap y, test = x ++ (gap ++ y) ∧ Fits "IS".toList x ∧ gap ≠ [] ∧ IsBlanks gap ∧ Fits "NULL".toList y

theorem isKeyword_is : IsKeyword "IS".toList := by decide

theorem isKeyword_null : IsKeyword "NULL".toList := by decide

def valueTest : Matcher := fun s =>
  (match s with
    | '=' :: r => word "0" (trimStart r)
    | _ => none) <|> wordPair "IS" "NULL" s

theorem fits_zero_iff (piece : List Char) : Fits "0".toList piece ↔ piece = ['0'] := by
  have hzero : "0".toList = ['0'] := by decide
  rw [hzero, fits_cons_iff]
  constructor
  · rintro ⟨c, r, rfl, hc, hr⟩
    rw [sameLetter_iff_eq (by decide)] at hc
    rw [(fits_nil_iff r).mp hr, ← hc]
  · rintro rfl
    exact ⟨'0', [], rfl, by decide, (fits_nil_iff []).mpr rfl⟩

theorem valueTest_sound {s rest : List Char} (h : valueTest s = some rest) :
    ∃ test, s = test ++ rest ∧ (IsZeroTest test ∨ IsNullTest test) ∧ startsWord rest = false := by
  unfold valueTest at h
  have hcases := eq_some_of_orElse h
  clear h
  obtain h | h := hcases
  · split at h
    · rename_i r
      obtain ⟨gap, hgap, hr⟩ := exists_front r
      obtain ⟨zero, hzero, hfits, hrest⟩ := word_eq_some_iff.mp h
      rw [(fits_zero_iff zero).mp hfits] at hzero
      rw [hzero] at hr
      refine ⟨'=' :: (gap ++ ['0']), ?_, .inl ⟨gap, rfl, hgap⟩, hrest⟩
      rw [hr]
      simp only [List.cons_append, List.append_assoc, List.nil_append]
    · cases h
  · obtain ⟨x, gap, y, rfl, hx, hne, hgap, hy, hrest⟩ := wordPair_eq_some h
    refine ⟨x ++ (gap ++ y), ?_, .inr ⟨x, gap, y, rfl, hx, hne, hgap, hy⟩, hrest⟩
    simp only [List.append_assoc]

theorem valueTest_zero {test : List Char} (h : IsZeroTest test) {rest : List Char}
    (hrest : startsWord rest = false) :
    valueTest (test ++ rest) = some rest := by
  obtain ⟨gap, rfl, hgap⟩ := h
  have htrim : trimStart (gap ++ (['0'] ++ rest)) = ['0'] ++ rest := by
    rw [trimStart_append_blanks hgap]
    exact trimStart_of_startsWord (by decide : isWord '0' = true)
  have hword : word "0" (trimStart (gap ++ (['0'] ++ rest))) = some rest := by
    rw [htrim]
    exact word_eq_some_iff.mpr ⟨['0'], rfl, (fits_zero_iff _).mpr rfl, hrest⟩
  unfold valueTest
  rw [List.cons_append, List.append_assoc]
  simp only [hword]
  rfl

theorem valueTest_null {test : List Char} (h : IsNullTest test) {rest : List Char}
    (hrest : startsWord rest = false) :
    valueTest (test ++ rest) = some rest := by
  obtain ⟨x, gap, y, rfl, hx, hne, hgap, hy⟩ := h
  have hpair := wordPair_append hx hne hgap isKeyword_null hy hrest
  obtain ⟨c, r, rfl⟩ := List.exists_cons_of_ne_nil (hx.ne_nil isKeyword_is.1)
  have hc := hx.isWord isKeyword_is.2 c List.mem_cons_self
  unfold valueTest
  rw [List.append_assoc, List.append_assoc, hpair]
  split
  · rename_i heq
    rw [List.cons_append, List.cons.injEq] at heq
    rw [heq.1] at hc
    exact absurd hc (by decide)
  · rfl

theorem exists_head_of_test {test : List Char} (h : IsZeroTest test ∨ IsNullTest test) :
    ∃ c r, test = c :: r ∧ isBlank c = false ∧ c ≠ ']' := by
  obtain ⟨gap, rfl, -⟩ | ⟨x, gap, y, rfl, hx, -⟩ := h
  · exact ⟨'=', _, rfl, by decide, by decide⟩
  · obtain ⟨c, r, rfl⟩ := List.exists_cons_of_ne_nil (hx.ne_nil isKeyword_is.1)
    have hc := hx.isWord isKeyword_is.2 c List.mem_cons_self
    refine ⟨c, _, rfl, ?_, ?_⟩
    · rw [← Bool.not_eq_true]
      intro hblank
      rw [isWord_of_isBlank hblank] at hc
      cases hc
    · rintro rfl
      exact absurd hc (by decide)

/-! ## Comparisons -/

/-- The column, perhaps the bracket that closes its name, blanks and a test for 0 or NULL. -/
def IsComparison (column piece : List Char) : Prop :=
  ∃ name close gap test, piece = name ++ (close ++ (gap ++ test)) ∧ Fits column name ∧
    (close = [] ∨ close = [']']) ∧ IsBlanks gap ∧ (IsZeroTest test ∨ IsNullTest test)

def withoutBracket : List Char → List Char
  | ']' :: r => r
  | s => s

theorem withoutBracket_cons_of_ne {c : Char} (hc : c ≠ ']') (r :
    List Char) : withoutBracket (c :: r) = c :: r := by
  unfold withoutBracket
  split
  · rename_i heq
    cases heq
    exact absurd rfl hc
  · rfl

theorem exists_bracket (s : List Char) :
    ∃ close, (close = [] ∨ close = [']']) ∧ s = close ++ withoutBracket s := by
  unfold withoutBracket
  split
  · exact ⟨[']'], .inr rfl, rfl⟩
  · exact ⟨[], .inl rfl, rfl⟩

theorem comparison_eq (policy : SoftDelete) (s : List Char) :
    policy.comparison s =
      (dropFold policy.column.toList s).bind fun t => valueTest (trimStart (withoutBracket t)) := rfl

theorem comparison_sound {policy : SoftDelete} {s rest : List Char} (h : policy.comparison s = some rest) :
    ∃ piece, s = piece ++ rest ∧ IsComparison policy.column.toList piece ∧ startsWord rest = false := by
  rw [comparison_eq] at h
  obtain ⟨t, ht, hvalue⟩ := Option.bind_eq_some_iff.mp h
  obtain ⟨name, rfl, hname⟩ := dropFold_eq_some_iff.mp ht
  obtain ⟨close, hclose, hbracket⟩ := exists_bracket t
  obtain ⟨gap, hgap, hfront⟩ := exists_front (withoutBracket t)
  obtain ⟨test, htest, hkind, hrest⟩ := valueTest_sound hvalue
  refine ⟨name ++ (close ++ (gap ++ test)), ?_,
    ⟨name, close, gap, test, rfl, hname, hclose, hgap, hkind⟩, hrest⟩
  rw [hbracket, hfront, htest]
  simp only [List.append_assoc]

theorem comparison_complete {policy : SoftDelete} {piece rest : List Char}
    (h : IsComparison policy.column.toList piece) (hrest : startsWord rest = false) :
    policy.comparison (piece ++ rest) = some rest := by
  obtain ⟨name, close, gap, test, rfl, hname, hclose, hgap, hkind⟩ := h
  obtain ⟨c, r, rfl, hblank, hc⟩ := exists_head_of_test hkind
  have hvalue : valueTest (c :: r ++ rest) = some rest := by
    obtain hzero | hnull := hkind
    · exact valueTest_zero hzero hrest
    · exact valueTest_null hnull hrest
  have htrim : trimStart (gap ++ (c :: r ++ rest)) = c :: r ++ rest := by
    rw [trimStart_append_blanks hgap, List.cons_append, trimStart_cons_of_not_isBlank hblank]
  have hbracket : withoutBracket (close ++ (gap ++ (c :: r ++ rest))) = gap ++ (c :: r ++ rest) := by
    obtain rfl | rfl := hclose
    · cases gap with
      | nil => exact withoutBracket_cons_of_ne hc _
      | cons d gap =>
        refine withoutBracket_cons_of_ne ?_ _
        rintro rfl
        exact absurd (hgap ']' List.mem_cons_self) (by decide)
    · rfl
  have hdrop : dropFold policy.column.toList (name ++ (close ++ (gap ++ (c :: r ++ rest)))) =
      some (close ++ (gap ++ (c :: r ++ rest))) :=
    dropFold_eq_some_iff.mpr ⟨name, rfl, hname⟩
  rw [comparison_eq]
  simp only [List.append_assoc]
  rw [hdrop, Option.bind_some, hbracket, htrim]
  exact hvalue

theorem comparison_eq_some_iff {policy : SoftDelete} {s rest : List Char} :
    policy.comparison s = some rest ↔
      ∃ piece, s = piece ++ rest ∧ IsComparison policy.column.toList piece ∧ startsWord rest = false := by
  constructor
  · exact comparison_sound
  · rintro ⟨piece, rfl, hpiece, hrest⟩
    exact comparison_complete hpiece hrest

theorem isPresent_iff (policy : SoftDelete) (sql : String) :
    policy.isPresent sql = true ↔ ∃ a piece b, sql.toList = a ++ (piece ++ b) ∧ endsWord a = false ∧
      IsComparison policy.column.toList piece ∧ startsWord b = false := by
  unfold SoftDelete.isPresent
  rw [occurs_iff]
  constructor
  · rintro ⟨a, t, heq, ha, hsome⟩
    obtain ⟨b, hb⟩ := Option.isSome_iff_exists.mp hsome
    obtain ⟨piece, rfl, hpiece, hend⟩ := comparison_eq_some_iff.mp hb
    exact ⟨a, piece, b, heq, ha, hpiece, hend⟩
  · rintro ⟨a, piece, b, heq, ha, hpiece, hend⟩
    refine ⟨a, piece ++ b, heq, ha, ?_⟩
    rw [comparison_eq_some_iff.mpr ⟨piece, rfl, hpiece, hend⟩]
    rfl

/-! ## The characters of a comparison -/

namespace IsComparison
variable {column piece : List Char}

theorem startsWord (h : IsComparison column piece) (hcolumn : IsKeyword column) :
    startsWord piece = true := by
  obtain ⟨name, close, gap, test, rfl, hname, -⟩ := h
  obtain ⟨c, r, rfl⟩ := List.exists_cons_of_ne_nil (hname.ne_nil hcolumn.1)
  exact hname.isWord hcolumn.2 c List.mem_cons_self

theorem endsWord (h : IsComparison column piece) : endsWord piece = true := by
  obtain ⟨name, close, gap, test, rfl, -, -, -, ⟨gap', rfl, -⟩ | ⟨x, gap', y, rfl, -, -, -, hy⟩⟩ := h
  · have hconcat : name ++ (close ++ (gap ++ '=' :: (gap' ++ ['0']))) =
        name ++ (close ++ (gap ++ '=' :: gap')) ++ ['0'] := by
      simp only [List.append_assoc, List.cons_append]
    rw [hconcat, endsWord_concat]
    decide
  · have hne := hy.ne_nil isKeyword_null.1
    have hconcat : name ++ (close ++ (gap ++ (x ++ (gap' ++ y)))) =
        name ++ (close ++ (gap ++ (x ++ gap'))) ++ y := by
      simp only [List.append_assoc]
    rw [hconcat, endsWord_append hne]
    obtain ⟨t, c, rfl⟩ := (List.eq_nil_or_concat y).resolve_left hne
    rw [List.concat_eq_append] at hy ⊢
    rw [endsWord_concat]
    exact hy.isWord isKeyword_null.2 c (List.mem_append_right _ List.mem_cons_self)

/-- A character that spells no letter of a comparison is in none. -/
theorem not_mem (h : IsComparison column piece) {c : Char} (hblank : isBlank c = false)
    (hmarks : c ∉ [']', '=', '0']) (hcolumn : ∀ p ∈ column, sameLetter p c = false)
    (hletters : ∀ p ∈ "IS".toList ++ "NULL".toList, sameLetter p c = false) : c ∉ piece := by
  have hfits : ∀ {pattern part : List Char}, Fits pattern part → (∀ p ∈ pattern, sameLetter p c = false) →
      c ∉ part := by
    intro pattern part hpart hpattern hmem
    obtain ⟨p, hp, hsame⟩ := exists_sameLetter hpart hmem
    rw [hpattern p hp] at hsame
    cases hsame
  have hgaps : ∀ {gap : List Char}, IsBlanks gap → c ∉ gap := by
    intro gap hgap hmem
    rw [hgap c hmem] at hblank
    cases hblank
  simp only [List.mem_cons, List.not_mem_nil, or_false, not_or] at hmarks
  rw [List.forall_mem_append] at hletters
  obtain ⟨name, close, gap, test, rfl, hname, hclose, hgap, hkind⟩ := h
  have hcloses : c ∉ close := by
    obtain rfl | rfl := hclose
    · exact List.not_mem_nil
    · exact mt List.mem_singleton.mp hmarks.1
  simp only [List.mem_append, not_or]
  refine ⟨hfits hname hcolumn, hcloses, hgaps hgap, ?_⟩
  obtain ⟨gap', rfl, hgap'⟩ | ⟨x, gap', y, rfl, hx, -, hgap', hy⟩ := hkind
  · simp only [List.mem_cons, List.mem_append, List.not_mem_nil, or_false, not_or]
    exact ⟨hmarks.2.1, hgaps hgap', hmarks.2.2⟩
  · simp only [List.mem_append, not_or]
    exact ⟨hfits hx hletters.1, hgaps hgap', hfits hy hletters.2⟩

end IsComparison

end TenderQuery.Sql
