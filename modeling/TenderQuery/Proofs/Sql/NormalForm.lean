import TenderQuery.Proofs.Sql.Stripping

/-!
# The normal form of a statement

A text is normal if it is cleared and bare: no backtick, single spaces only, no lead-in in front and no explanation
anywhere. A round of cleaning keeps exactly the normal texts (`tidy_eq_self_iff`). From the second round on a round
only cuts something off, so the rounds end in a normal text.
-/
set_option autoImplicit false
namespace TenderQuery.Sql
open TenderQuery.Text

/-- The form of a clean statement. Phrases are recognised without regard to case. -/
structure IsNormal (s : List Char) : Prop extends IsCleared s, IsBare s

instance (s : List Char) : Decidable (IsNormal s) :=
  decidable_of_iff (IsCleared s ∧ IsBare s)
    ⟨fun ⟨hcleared, hbare⟩ => ⟨hcleared, hbare⟩, fun h => ⟨h.toIsCleared, h.toIsBare⟩⟩

theorem isCleared_of_infix {part s : List Char} (h : IsCleared s) (hpart : part <:+: s) (hends : IsUnpadded part) :
    IsCleared part :=
  ⟨fun hmem => h.backtick (hpart.subset hmem), h.even.of_infix hpart, hends⟩

theorem isCleared_tidy (s : List Char) : IsCleared (tidy s) :=
  isCleared_of_infix (isCleared_cleared s) (isInfix_stripped (cleared s)) (isUnpadded_trim _)

/-- A round cuts something off a text that is cleared, or keeps it. -/
theorem isInfix_tidy {s : List Char} (h : IsCleared s) : tidy s <:+: s := by
  rw [tidy_eq, (cleared_eq_self_iff s).mpr h]
  exact isInfix_stripped s

theorem tidy_eq_self_iff (s : List Char) : tidy s = s ↔ IsNormal s := by
  constructor
  · intro h
    have hcleared : IsCleared s := h ▸ isCleared_tidy s
    rw [tidy_eq, (cleared_eq_self_iff s).mpr hcleared, stripped_eq_self_iff hcleared.ends] at h
    exact ⟨hcleared, h⟩
  · intro h
    rw [tidy_eq, (cleared_eq_self_iff s).mpr h.toIsCleared]
    exact (stripped_eq_self_iff h.ends).mpr h.toIsBare

/-- The rounds end where a further one would change nothing. -/
theorem isNormal_settle {s : List Char} (h : IsCleared s) : IsNormal (settle s) := by
  induction s using settle.induct with
  | case1 s t hshorter ih =>
    rw [settle, if_pos hshorter]
    exact ih (isCleared_tidy s)
  | case2 s t hkept =>
    have hsame : tidy s = s := (isInfix_tidy h).eq_of_length_le (Nat.le_of_not_lt hkept)
    rw [settle, if_neg hkept, hsame]
    exact (tidy_eq_self_iff s).mp hsame

theorem isNormal_normalizeChars (raw : List Char) : IsNormal (normalizeChars raw) :=
  isNormal_settle (isCleared_tidy raw)

theorem settle_of_isNormal {s : List Char} (h : IsNormal s) : settle s = s := by
  have hsame := (tidy_eq_self_iff s).mpr h
  rw [settle]
  simp [hsame]

theorem normalizeChars_of_isNormal {s : List Char} (h : IsNormal s) : normalizeChars s = s := by
  unfold normalizeChars
  rw [(tidy_eq_self_iff s).mpr h, settle_of_isNormal h]

theorem normalize_of_isNormal {s : String} (h : IsNormal s.toList) : normalize s = s := by
  unfold normalize
  rw [normalizeChars_of_isNormal h, String.ofList_toList]

theorem toList_normalize (raw : String) : (normalize raw).toList = normalizeChars raw.toList := String.toList_ofList

/-- Cleaning gives the normal form of every text, and the normal texts are exactly those that it keeps. So a second
cleaning changes nothing, and a clean statement is never altered. -/
theorem normalize_fixes_normal :
    (∀ raw, IsNormal (normalize raw).toList) ∧ (∀ s, normalize s = s ↔ IsNormal s.toList) ∧
      ∀ raw, normalize (normalize raw) = normalize raw := by
  have hnormal : ∀ raw, IsNormal (normalize raw).toList := by
    intro raw
    rw [toList_normalize]
    exact isNormal_normalizeChars raw.toList
  refine ⟨hnormal, ?_, fun raw => normalize_of_isNormal (hnormal raw)⟩
  intro s
  constructor
  · intro h
    exact h ▸ hnormal s
  · exact normalize_of_isNormal

end TenderQuery.Sql
