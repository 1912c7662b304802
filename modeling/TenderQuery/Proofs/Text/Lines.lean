import TenderQuery.Text.Line

/-!
# Cutting a text at its line feeds

Texts that are joined by line feeds are cut into the lines of each (`splitAtNewlines_intercalate`); a text without
a line feed is one line.
-/
set_option autoImplicit false
namespace TenderQuery.Text

theorem splitAtNewlines_newline (s : List Char) : splitAtNewlines ('\n' :: s) = [] :: splitAtNewlines s :=
  if_pos rfl

theorem splitAtNewlines_cons {c : Char} (h : c ≠ '\n') (s : List Char) :
    splitAtNewlines (c :: s) = addToFirstLine c (splitAtNewlines s) :=
  if_neg h

theorem splitAtNewlines_ne_nil (s : List Char) : splitAtNewlines s ≠ [] := by
  cases s with
  | nil => exact List.cons_ne_nil _ _
  | cons c s =>
    by_cases hc : c = '\n'
    · rw [hc, splitAtNewlines_newline]
      exact List.cons_ne_nil _ _
    · rw [splitAtNewlines_cons hc]
      cases splitAtNewlines s <;> exact List.cons_ne_nil _ _

theorem addToFirstLine_append {lines : List (List Char)} (h : lines ≠ []) (c : Char) (more : List (List Char)) :
    addToFirstLine c (lines ++ more) = addToFirstLine c lines ++ more := by
  obtain ⟨line, rest, rfl⟩ := List.exists_cons_of_ne_nil h
  rfl

theorem splitAtNewlines_of_not_mem {s : List Char} (h : '\n' ∉ s) : splitAtNewlines s = [s] := by
  induction s with
  | nil => rfl
  | cons c s ih =>
    rw [List.mem_cons, not_or] at h
    rw [splitAtNewlines_cons (Ne.symm h.1), ih h.2]
    rfl

theorem splitAtNewlines_append (a b : List Char) :
    splitAtNewlines (a ++ '\n' :: b) = splitAtNewlines a ++ splitAtNewlines b := by
  induction a with
  | nil => exact splitAtNewlines_newline b
  | cons c a ih =>
    rw [List.cons_append]
    by_cases hc : c = '\n'
    · rw [hc, splitAtNewlines_newline, splitAtNewlines_newline, ih, List.cons_append]
    · rw [splitAtNewlines_cons hc, splitAtNewlines_cons hc, ih,
        addToFirstLine_append (splitAtNewlines_ne_nil a)]

theorem splitAtNewlines_intercalate {texts : List (List Char)} (h : texts ≠ []) :
    splitAtNewlines (['\n'].intercalate texts) = texts.flatMap splitAtNewlines := by
  induction texts with
  | nil => exact absurd rfl h
  | cons text texts ih =>
    cases texts with
    | nil => rw [List.intercalate_singleton, List.flatMap_singleton]
    | cons next texts =>
      rw [List.intercalate_cons_cons, List.append_assoc, List.singleton_append, splitAtNewlines_append,
        List.flatMap_cons, ih (List.cons_ne_nil next texts)]

end TenderQuery.Text
