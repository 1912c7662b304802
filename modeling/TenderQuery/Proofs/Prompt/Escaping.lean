import Mathlib.Data.List.Induction
import TenderQuery.Prompt.Escape
import TenderQuery.Proofs.Text.Letters

/-!
# What escaping leaves

A quote is escaped by an odd number of backslashes right before it (`IsEscaped`). Escaped text has no line feed, no
carriage return and no tab, all its quotes are escaped (`isEscaped_of_escapeChars`), and it does not escape what
comes behind it (`not_isEscaped_escapeChars`), so a quote put behind it closes it.
-/
set_option autoImplicit false
namespace TenderQuery.Prompt

def backslashesAtEnd (s : List Char) : Nat := (s.reverse.takeWhile (· == '\\')).length

/-- What comes behind the text is escaped. -/
def IsEscaped (s : List Char) : Prop := backslashesAtEnd s % 2 = 1

theorem backslashesAtEnd_concat (s : List Char) (c : Char) :
    backslashesAtEnd (s ++ [c]) = if c = '\\' then backslashesAtEnd s + 1 else 0 := by
  unfold backslashesAtEnd
  rw [List.reverse_concat, List.takeWhile_cons]
  by_cases hc : c = '\\' <;> simp [hc]

theorem not_isEscaped_nil : ¬ IsEscaped [] := fun h => Nat.zero_ne_one h

/-- A backslash escapes what comes next unless it is escaped itself; other characters do not escape. -/
theorem isEscaped_concat_iff (s : List Char) (c : Char) : IsEscaped (s ++ [c]) ↔ c = '\\' ∧ ¬ IsEscaped s := by
  unfold IsEscaped
  rw [backslashesAtEnd_concat]
  by_cases hc : c = '\\'
  · rw [if_pos hc, and_iff_right hc]
    omega
  · simp [hc]

/-! ## One character -/

/-- Characters that are written with a backslash. -/
def escapable : List Char := ['\\', '"', '\'', '\n', '\r', '\t']

/-- A character is written with a backslash in front of a mark, or as itself. -/
theorem escapeChar_cases (c : Char) :
    (∃ mark ∈ ['\\', '"', '\'', 'n', 'r', 't'], escapeChar c = ['\\', mark]) ∨
      c ∉ escapable ∧ escapeChar c = [c] := by
  unfold escapeChar
  split
  case h_7 h₁ h₂ h₃ h₄ h₅ h₆ =>
    refine .inr ⟨?_, rfl⟩
    simp only [escapable, List.mem_cons, List.not_mem_nil, or_false, not_or]
    exact ⟨h₁, h₂, h₃, h₄, h₅, h₆⟩
  all_goals exact .inl ⟨_, by decide, rfl⟩

/-- A line feed, a carriage return or a tab is not in escaped text. -/
theorem not_mem_escapeChar {c : Char} (h : c ∈ ['\n', '\r', '\t']) (d : Char) : c ∉ escapeChar d := by
  obtain ⟨mark, hmark, heq⟩ | ⟨hd, heq⟩ := escapeChar_cases d
  · have hmarks : ∀ c ∈ ['\n', '\r', '\t'], ∀ mark ∈ ['\\', '"', '\'', 'n', 'r', 't'],
        c ∉ ['\\', mark] := by decide
    rw [heq]
    exact hmarks c h mark hmark
  · have hescapable : ∀ c ∈ ['\n', '\r', '\t'], c ∈ escapable := by decide
    rw [heq, List.mem_singleton]
    rintro rfl
    exact hd (hescapable c h)

theorem not_isEscaped_append_escapeChar {s : List Char} (h : ¬ IsEscaped s) (c : Char) :
    ¬ IsEscaped (s ++ escapeChar c) := by
  obtain ⟨mark, -, heq⟩ | ⟨hc, heq⟩ := escapeChar_cases c
  · have hsplit : s ++ ['\\', mark] = s ++ ['\\'] ++ [mark] := by rw [List.append_assoc]; rfl
    rw [heq, hsplit, isEscaped_concat_iff, isEscaped_concat_iff]
    exact fun hmark => hmark.2 ⟨rfl, h⟩
  · rw [heq, isEscaped_concat_iff]
    rintro ⟨rfl, -⟩
    exact hc (by decide)

/-- The quote in the writing of a character stands behind a backslash. -/
theorem eq_of_escapeChar {quote c : Char} (hquote : quote ∈ ['"', '\'']) {x y : List Char}
    (h : escapeChar c = x ++ quote :: y) : x = ['\\'] := by
  have hescapable : ∀ quote ∈ ['"', '\''], quote ∈ escapable ∧ quote ≠ '\\' := by decide
  obtain ⟨hmem, hne⟩ := hescapable quote hquote
  obtain ⟨mark, -, heq⟩ | ⟨hc, heq⟩ := escapeChar_cases c
  · rw [heq] at h
    cases x with
    | nil => exact absurd (List.cons.inj h).1.symm hne
    | cons d x =>
      obtain ⟨rfl, h⟩ := List.cons.inj h
      cases x with
      | nil => rfl
      | cons e x => simp at h
  · have hin : quote ∈ escapeChar c := h ▸ List.mem_append_right _ List.mem_cons_self
    rw [heq, List.mem_singleton] at hin
    exact absurd (hin ▸ hmem) hc

/-! ## Whole texts -/

theorem escapeChars_concat (s : List Char) (c : Char) : escapeChars (s ++ [c]) = escapeChars s ++ escapeChar c := by
  unfold escapeChars
  rw [List.flatMap_append, List.flatMap_singleton]

theorem not_mem_escapeChars {c : Char} (h : c ∈ ['\n', '\r', '\t']) (s : List Char) : c ∉ escapeChars s := by
  intro hmem
  obtain ⟨d, -, hd⟩ := List.mem_flatMap.mp hmem
  exact not_mem_escapeChar h d hd

theorem not_isEscaped_escapeChars (s : List Char) : ¬ IsEscaped (escapeChars s) := by
  induction s using List.reverseRecOn with
  | nil => exact not_isEscaped_nil
  | append_singleton s c ih =>
    rw [escapeChars_concat]
    exact not_isEscaped_append_escapeChar ih c

/-- Every quote in escaped text is escaped. -/
theorem isEscaped_of_escapeChars {quote : Char} (hquote : quote ∈ ['"', '\'']) {s x y : List Char}
    (h : escapeChars s = x ++ quote :: y) : IsEscaped x := by
  induction s using List.reverseRecOn generalizing y with
  | nil => exact absurd h.symm (List.append_ne_nil_of_right_ne_nil _ (List.cons_ne_nil _ _))
  | append_singleton s c ih =>
    rw [escapeChars_concat] at h
    obtain ⟨inner, rfl, hinner⟩ | ⟨outer, hs, houter⟩ := List.append_eq_append_iff.mp h
    · rw [eq_of_escapeChar hquote hinner, isEscaped_concat_iff]
      exact ⟨rfl, not_isEscaped_escapeChars s⟩
    · cases outer with
      | nil =>
        rw [List.nil_append] at houter
        have hfirst := eq_of_escapeChar (x := []) hquote houter.symm
        exact absurd hfirst.symm (List.cons_ne_nil _ _)
      | cons d outer =>
        obtain ⟨rfl, -⟩ := List.cons.inj houter
        exact ih hs

end TenderQuery.Prompt
