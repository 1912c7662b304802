import Mathlib.Logic.Function.Iterate
import TenderQuery.Proofs.Sql.NormalForm

/-!
# Rounds of cleaning

Cleaning goes on, round after round, until a round changes nothing. The first round may change a text and leave its
length, but what it leaves is cleared, and from then on a round only cuts off: it gives back its text or a shorter
one. So the rounds end after two more than the text has characters (`rounds_end`), and of a text without backticks
they leave a piece of it as it is with single spaces (`isInfix_normalize`).
-/
set_option autoImplicit false
namespace TenderQuery.Sql
open TenderQuery.Text

/-- The rounds that are made on a text until one changes nothing, that one counted, and the text that is left. -/
inductive Rounds : List Char → Nat → List Char → Prop where
  | last {s : List Char} (hsame : tidy s = s) : Rounds s 1 s
  | more {s t : List Char} {count : Nat} (hchanged : tidy s ≠ s) (hrest : Rounds (tidy s) count t) :
      Rounds s (count + 1) t

/-- There is one way only in which the rounds can go. -/
theorem Rounds.unique {s t u : List Char} {m n : Nat} (h : Rounds s m t) (h' : Rounds s n u) : m = n ∧ t = u := by
  induction h generalizing n with
  | last hsame =>
    cases h' with
    | last _ => exact ⟨rfl, rfl⟩
    | more hchanged _ => exact absurd hsame hchanged
  | more hchanged _ ih =>
    cases h' with
    | last hsame => exact absurd hsame hchanged
    | more _ hrest =>
      obtain ⟨rfl, rfl⟩ := ih hrest
      exact ⟨rfl, rfl⟩

/-! ## How long a round leaves a text -/

theorem length_dropFences_le (s : List Char) : (dropFences s).length ≤ s.length := by
  induction s using dropFences.induct with
  | case1 r ih =>
    have hrest := afterFence_length_le r
    rw [dropFences]
    simp only [List.length_cons]
    omega
  | case2 c r hfence ih =>
    rw [dropFences]
    · simp only [List.length_cons]
      omega
    · exact hfence
  | case3 => rw [dropFences]

theorem length_cleared_le (s : List Char) : (cleared s).length ≤ s.length :=
  calc (cleared s).length
      = (trim (squeeze (dropBackticks (dropFences s)))).length := by rw [cleared, collapse_eq_trim_squeeze]
    _ ≤ (squeeze (dropBackticks (dropFences s))).length := (isInfix_trim _).length_le
    _ ≤ (dropBackticks (dropFences s)).length := length_squeeze_le _
    _ ≤ (dropFences s).length := List.length_filter_le ..
    _ ≤ s.length := length_dropFences_le s

theorem length_tidy_le (s : List Char) : (tidy s).length ≤ s.length :=
  (isInfix_stripped (cleared s)).length_le.trans (length_cleared_le s)

/-- A round keeps a cleared text or makes it shorter. -/
theorem tidy_eq_or_length_lt {s : List Char} (h : IsCleared s) : tidy s = s ∨ (tidy s).length < s.length := by
  obtain hlt | hge := Nat.lt_or_ge (tidy s).length s.length
  · exact .inr hlt
  · exact .inl ((isInfix_tidy h).eq_of_length_le hge)

theorem isCleared_iterate_tidy (n : Nat) (s : List Char) : IsCleared (tidy^[n + 1] s) := by
  rw [Function.iterate_succ_apply']
  exact isCleared_tidy _

/-! ## Where the rounds end -/

theorem exists_rounds_settle {s : List Char} (h : IsCleared s) :
    ∃ count ≤ s.length + 1, Rounds s count (settle s) := by
  induction s using settle.induct with
  | case1 s t hshorter ih =>
    obtain ⟨count, hcount, hrounds⟩ := ih (isCleared_tidy s)
    have hchanged : tidy s ≠ s := fun hsame => Nat.ne_of_lt hshorter (congrArg List.length hsame)
    rw [settle, if_pos hshorter]
    exact ⟨count + 1, by omega, .more hchanged hrounds⟩
  | case2 s t hkept =>
    have hsame : tidy s = s := (tidy_eq_or_length_lt h).resolve_right hkept
    rw [settle, if_neg hkept, hsame]
    exact ⟨1, Nat.le_add_left 1 _, .last hsame⟩

theorem exists_rounds (s : List Char) : ∃ count ≤ s.length + 2, Rounds s count (normalizeChars s) := by
  by_cases hsame : tidy s = s
  · have hnormal := (tidy_eq_self_iff s).mp hsame
    rw [normalizeChars_of_isNormal hnormal]
    exact ⟨1, by omega, .last hsame⟩
  · obtain ⟨count, hcount, hrounds⟩ := exists_rounds_settle (isCleared_tidy s)
    have hlength := length_tidy_le s
    exact ⟨count + 1, by omega, .more hsame hrounds⟩

/-- Cleaning ends on every text. From the second round on a round gives back its text or a shorter one, so there are
at most two rounds more than characters, and what they leave is the cleaned text. -/
theorem rounds_end (raw : String) :
    (∀ n, tidy (tidy^[n + 1] raw.toList) = tidy^[n + 1] raw.toList ∨
      (tidy (tidy^[n + 1] raw.toList)).length < (tidy^[n + 1] raw.toList).length) ∧
    ∃ count ≤ raw.length + 2, Rounds raw.toList count (normalize raw).toList ∧
      ∀ m t, Rounds raw.toList m t → m = count ∧ t = (normalize raw).toList := by
  obtain ⟨count, hcount, hrounds⟩ := exists_rounds raw.toList
  rw [← toList_normalize] at hrounds
  rw [String.length_toList] at hcount
  exact ⟨fun n => tidy_eq_or_length_lt (isCleared_iterate_tidy n _), count, hcount, hrounds,
    fun m t h => h.unique hrounds⟩

/-! ## What the rounds leave -/

theorem isInfix_settle {s : List Char} (h : IsCleared s) : settle s <:+: s := by
  induction s using settle.induct with
  | case1 s t hshorter ih =>
    rw [settle, if_pos hshorter]
    exact (ih (isCleared_tidy s)).trans (isInfix_tidy h)
  | case2 s t hkept =>
    rw [settle, if_neg hkept]
    exact isInfix_tidy h

/-- A text without backticks is only cut at its ends, once each run of blanks is one space. -/
theorem isInfix_normalize {raw : String} (h : '\x60' ∉ raw.toList) :
    (normalize raw).toList <:+: squeeze raw.toList := by
  have hround : tidy raw.toList <:+: trim (squeeze raw.toList) := by
    rw [tidy_eq, cleared_of_not_mem h, collapse_eq_trim_squeeze]
    exact isInfix_stripped _
  rw [toList_normalize]
  exact (isInfix_settle (isCleared_tidy _)).trans (hround.trans (isInfix_trim _))

/-- An answer with a lead-in, blanks of all kinds and an explanation over two lines, and without a fence. -/
def plainAnswer : String :=
  "Here is the query:\r\n\tSELECT  Name \u00a0FROM\ttenderTender \nExplanation: all\n of  them"

theorem isInfix_normalize_plainAnswer : '\x60' ∉ plainAnswer.toList ∧
    normalize plainAnswer = "SELECT Name FROM tenderTender" ∧
    (normalize plainAnswer).toList <:+: squeeze plainAnswer.toList := by
  have hplain : '\x60' ∉ plainAnswer.toList := by decide +kernel
  have hnormalized : normalize plainAnswer = "SELECT Name FROM tenderTender" := by decide +kernel
  exact ⟨hplain, hnormalized, isInfix_normalize hplain⟩

end TenderQuery.Sql
