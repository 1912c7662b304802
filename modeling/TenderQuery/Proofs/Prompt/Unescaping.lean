import TenderQuery.Proofs.Prompt.Escaping

/-!
# Escaped text is read back

`unescape` reads a backslash together with the mark behind it, and every other character as itself. It gives back any
text that was escaped (`unescape_escapeChars`), so escaping loses nothing.

Escaping can be done in whole passes over the text, one for each character that is written with a backslash
(`replaceEach_escapeSteps`). A pass also works on what the passes before it wrote; because the one for backslashes
comes first, and no mark is a character of a later pass, none of them changes what an earlier one produced.
-/
set_option autoImplicit false
namespace TenderQuery.Prompt

/-! ## Reading -/

/-- The character that a mark behind a backslash stands for. -/
def readMark? (mark : Char) : Option Char :=
  match mark with
  | '\\' => some '\\'
  | '"' => some '"'
  | '\'' => some '\''
  | 'n' => some '\n'
  | 'r' => some '\r'
  | 't' => some '\t'
  | _ => none

/-- Reads escaped text; a backslash in front of anything but a mark stands for itself. -/
def unescape : List Char → List Char
  | [] => []
  | [c] => [c]
  | c :: mark :: r =>
    if c = '\\' then
      match readMark? mark with
      | some d => d :: unescape r
      | none => c :: unescape (mark :: r)
    else c :: unescape (mark :: r)

def unescapeString (s : String) : String := String.ofList (unescape s.toList)

theorem unescape_mark {mark d : Char} (h : readMark? mark = some d) (s : List Char) :
    unescape ('\\' :: mark :: s) = d :: unescape s := by
  rw [unescape, if_pos rfl, h]

theorem unescape_cons_of_ne {c : Char} (h : c ≠ '\\') (s : List Char) : unescape (c :: s) = c :: unescape s := by
  cases s with
  | nil => rfl
  | cons d r => rw [unescape, if_neg h]

/-- What is written for a character is read as that character, whatever follows. -/
theorem unescape_escapeChar_append (c : Char) (s : List Char) : unescape (escapeChar c ++ s) = c :: unescape s := by
  unfold escapeChar
  split
  case h_7 hbackslash _ _ _ _ _ => exact unescape_cons_of_ne hbackslash s
  all_goals exact unescape_mark (by decide) s

theorem unescape_escapeChars (s : List Char) : unescape (escapeChars s) = s := by
  induction s with
  | nil => rfl
  | cons c s ih =>
    have hcons : escapeChars (c :: s) = escapeChar c ++ escapeChars s := List.flatMap_cons
    rw [hcons, unescape_escapeChar_append, ih]

/-! ## Replacing in whole passes -/

/-- Writes the new text for every occurrence of the old one, from left to right and without overlaps; `skipped`
characters belong to an occurrence that is replaced already. -/
def replaceFrom (old new : List Char) : Nat → List Char → List Char
  | _, [] => []
  | skipped + 1, _ :: r => replaceFrom old new skipped r
  | 0, c :: r =>
    if old.isPrefixOf (c :: r) then new ++ replaceFrom old new (old.length - 1) r
    else c :: replaceFrom old new 0 r

def replaceAll (old new s : List Char) : List Char := replaceFrom old new 0 s

/-- Replacements of single characters, each done on the whole result of the one before. -/
def replaceEach (steps : List (Char × List Char)) (s : List Char) : List Char :=
  steps.foldl (fun t step => replaceAll [step.1] step.2 t) s

/-- The passes that escape a text, the one for backslashes first. -/
def escapeSteps : List (Char × List Char) :=
  [('\\', ['\\', '\\']), ('"', ['\\', '"']), ('\'', ['\\', '\'']), ('\n', ['\\', 'n']), ('\r', ['\\', 'r']),
   ('\t', ['\\', 't'])]

/-- A single character is replaced wherever it stands. -/
theorem replaceAll_singleton (d : Char) (new s : List Char) :
    replaceAll [d] new s = s.flatMap fun c => if c = d then new else [c] := by
  unfold replaceAll
  induction s with
  | nil => rfl
  | cons c s ih =>
    rw [replaceFrom, List.flatMap_cons]
    by_cases hc : c = d
    · simp [ih, hc]
    · simp [ih, hc, Ne.symm hc]

theorem replaceAll_of_not_mem {d : Char} {s : List Char} (h : d ∉ s) (new : List Char) :
    replaceAll [d] new s = s := by
  rw [replaceAll_singleton]
  induction s with
  | nil => rfl
  | cons c s ih =>
    rw [List.mem_cons, not_or] at h
    rw [List.flatMap_cons, if_neg (Ne.symm h.1), ih h.2]
    rfl

theorem replaceEach_cons (step : Char × List Char) (steps : List (Char × List Char)) (s : List Char) :
    replaceEach (step :: steps) s = replaceEach steps (replaceAll [step.1] step.2 s) := rfl

/-- Passes for single characters rewrite each character of the text on its own. -/
theorem replaceEach_eq_flatMap (steps : List (Char × List Char)) (s : List Char) :
    replaceEach steps s = s.flatMap fun c => replaceEach steps [c] := by
  induction steps generalizing s with
  | nil => exact (List.flatMap_singleton' s).symm
  | cons step steps ih =>
    simp only [replaceEach_cons, replaceAll_singleton]
    rw [ih, List.flatMap_assoc]
    congr 1
    funext c
    rw [← ih, List.flatMap_singleton]

theorem replaceEach_of_not_mem {steps : List (Char × List Char)} {s : List Char}
    (h : ∀ c ∈ s, c ∉ steps.map Prod.fst) : replaceEach steps s = s := by
  induction steps with
  | nil => rfl
  | cons step steps ih =>
    have habsent : step.1 ∉ s := fun hmem => h step.1 hmem List.mem_cons_self
    rw [replaceEach_cons, replaceAll_of_not_mem habsent]
    exact ih fun c hc hmem => h c hc (List.mem_cons_of_mem _ hmem)

/-- If no pass replaces what an earlier one wrote, a character is written as the pass for it says. -/
theorem replaceEach_eq_lookup {steps : List (Char × List Char)}
    (h : steps.Pairwise fun earlier later => later.1 ∉ earlier.2) (c : Char) :
    replaceEach steps [c] = (steps.lookup c).getD [c] := by
  induction steps with
  | nil => rfl
  | cons step steps ih =>
    obtain ⟨key, new⟩ := step
    obtain ⟨hlater, hrest⟩ := List.pairwise_cons.mp h
    rw [replaceEach_cons, replaceAll_singleton, List.flatMap_singleton, List.lookup_cons]
    by_cases hc : c = key
    · have hkept : ∀ d ∈ new, d ∉ steps.map Prod.fst := by
        intro d hd hmem
        obtain ⟨later, hin, rfl⟩ := List.mem_map.mp hmem
        exact hlater later hin hd
      subst hc
      rw [if_pos rfl, replaceEach_of_not_mem hkept, beq_self_eq_true]
      rfl
    · rw [if_neg hc, ih hrest, beq_false_of_ne hc]

theorem escapeChar_eq_lookup (c : Char) : escapeChar c = (escapeSteps.lookup c).getD [c] := by
  unfold escapeChar escapeSteps
  split
  case h_7 h₁ h₂ h₃ h₄ h₅ h₆ =>
    simp only [List.lookup_cons, beq_false_of_ne h₁, beq_false_of_ne h₂, beq_false_of_ne h₃, beq_false_of_ne h₄,
      beq_false_of_ne h₅, beq_false_of_ne h₆]
    rfl
  all_goals rfl

/-- The passes, one after the other, come to one rewriting of each character. -/
theorem replaceEach_escapeSteps (s : List Char) : replaceEach escapeSteps s = escapeChars s := by
  have hone : ∀ c, replaceEach escapeSteps [c] = escapeChar c := by
    intro c
    rw [replaceEach_eq_lookup (by decide), escapeChar_eq_lookup]
  rw [replaceEach_eq_flatMap, funext hone, escapeChars]

/-! ## Escaping a text -/

theorem escape_append (a b : String) : escape (a ++ b) = escape a ++ escape b := by
  unfold escape escapeChars
  rw [String.toList_append, List.flatMap_append, String.ofList_append]

/-- Escaping loses nothing, comes to the passes in their order, treats the parts of a text on their own, and leaves
no line feed, no carriage return, no tab and no quote that is not escaped. -/
theorem escape_reversible (s : String) :
    unescapeString (escape s) = s ∧
    escape s = String.ofList (replaceEach escapeSteps s.toList) ∧
    (∀ t, escape (s ++ t) = escape s ++ escape t) ∧
    (∀ c ∈ ['\n', '\r', '\t'], c ∉ (escape s).toList) ∧
    ∀ quote ∈ ['"', '\''], ∀ before after, (escape s).toList = before ++ quote :: after → IsEscaped before := by
  have htext : (escape s).toList = escapeChars s.toList := String.toList_ofList
  refine ⟨?_, ?_, escape_append s, fun c hc => ?_, fun quote hquote before after heq => ?_⟩
  · rw [unescapeString, htext, unescape_escapeChars, String.ofList_toList]
  · rw [replaceEach_escapeSteps, escape]
  · rw [htext]
    exact not_mem_escapeChars hc s.toList
  · exact isEscaped_of_escapeChars hquote (htext.symm.trans heq)

example : unescapeString (escape "a \\n 'b'\n") = "a \\n 'b'\n" := by decide

end TenderQuery.Prompt
