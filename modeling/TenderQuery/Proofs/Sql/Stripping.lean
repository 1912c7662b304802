import Mathlib.Data.List.Infix
import TenderQuery.Proofs.Text.Phrases
import TenderQuery.Sql.Normal

/-!
# One round of cleaning

A round first clears a text of fences, backticks and superfluous blanks (`cleared`) and then strips it of the
phrases around the statement (`stripped`). A cleared text is never changed by the first half again
(`cleared_eq_self_iff`), and the second half only cuts something off at its ends (`isInfix_stripped`). So it leaves
a text alone exactly if there is nothing to cut off (`stripped_eq_self_iff`).
-/
set_option autoImplicit false
namespace TenderQuery.Sql
open TenderQuery.Text

/-! ## Fences and backticks -/

theorem dropFences_cons {c : Char} (hc : c ≠ '\x60') (s : List Char) : dropFences (c :: s) = c :: dropFences s := by
  rw [dropFences]
  rintro r rfl
  exact absurd rfl hc

theorem dropFences_nil : dropFences [] = [] := by rw [dropFences]

theorem dropFences_append {a : List Char} (ha : '\x60' ∉ a) (s : List Char) :
    dropFences (a ++ s) = a ++ dropFences s := by
  induction a with
  | nil => rfl
  | cons c a ih =>
    rw [List.mem_cons, not_or] at ha
    rw [List.cons_append, dropFences_cons (Ne.symm ha.1), ih ha.2, List.cons_append]

theorem dropFences_of_not_mem {s : List Char} (hs : '\x60' ∉ s) : dropFences s = s := by
  have happend := dropFences_append hs []
  rwa [List.append_nil, dropFences_nil, List.append_nil] at happend

theorem dropBackticks_append (a s : List Char) : dropBackticks (a ++ s) = dropBackticks a ++ dropBackticks s :=
  List.filter_append a s

theorem not_mem_dropBackticks (s : List Char) : '\x60' ∉ dropBackticks s := by
  simp [dropBackticks, isBacktick]

theorem dropBackticks_of_not_mem {s : List Char} (hs : '\x60' ∉ s) : dropBackticks s = s := by
  unfold dropBackticks
  rw [List.filter_eq_self]
  intro c hc
  have hne : c ≠ '\x60' := fun heq => hs (heq ▸ hc)
  simp [isBacktick, hne]

/-- The first half of a round: without fences and backticks, and with single spaces between the words. -/
def cleared (s : List Char) : List Char := collapse (dropBackticks (dropFences s))

/-- There is no backtick in the text, and blanks are single spaces between words. -/
structure IsCleared (s : List Char) : Prop where
  backtick : '\x60' ∉ s
  even : IsEvenlySpaced s
  ends : IsUnpadded s

instance (s : List Char) : Decidable (IsCleared s) :=
  decidable_of_iff ('\x60' ∉ s ∧ IsEvenlySpaced s ∧ IsUnpadded s)
    ⟨fun ⟨h₁, h₂, h₃⟩ => ⟨h₁, h₂, h₃⟩, fun ⟨h₁, h₂, h₃⟩ => ⟨h₁, h₂, h₃⟩⟩

theorem isCleared_cleared (s : List Char) : IsCleared (cleared s) := by
  refine ⟨?_, isEvenlySpaced_collapse _, isUnpadded_collapse _⟩
  intro hmem
  obtain hmem | hspace := mem_collapse hmem
  · exact not_mem_dropBackticks _ hmem
  · exact absurd hspace (by decide)

theorem cleared_of_not_mem {s : List Char} (hs : '\x60' ∉ s) : cleared s = collapse s := by
  unfold cleared
  rw [dropFences_of_not_mem hs, dropBackticks_of_not_mem hs]

theorem cleared_eq_self_iff (s : List Char) : cleared s = s ↔ IsCleared s := by
  constructor
  · intro h
    exact h ▸ isCleared_cleared s
  · intro h
    rw [cleared_of_not_mem h.backtick]
    exact collapse_eq_self h.even h.ends

/-! ## Lead-ins and explanations -/

theorem dropLeadIn_of_not_opens {spellings : List String} {s : List Char}
    (h : ∀ p ∈ spellings, ¬ Opens p.toList s) : dropLeadIn spellings s = s := by
  have hnone : (spellings.findSome? fun p => dropFold p.toList s) = none := by
    rw [List.findSome?_eq_none_iff]
    intro p hp
    exact dropFold_eq_none_iff.mpr (h p hp)
  unfold dropLeadIn
  rw [hnone]

/-- A lead-in that is there goes, and the blanks behind it as well. -/
theorem exists_leadIn {spellings : List String} {s : List Char} {p : String} (hp : p ∈ spellings)
    (h : Opens p.toList s) :
    ∃ q ∈ spellings, ∃ piece rest, s = piece ++ rest ∧ Fits q.toList piece ∧
      dropLeadIn spellings s = trimStart rest := by
  have hsome : (spellings.findSome? fun p => dropFold p.toList s).isSome = true :=
    List.findSome?_isSome_iff.mpr ⟨p, hp, dropFold_isSome_iff.mpr h⟩
  obtain ⟨rest, hrest⟩ := Option.isSome_iff_exists.mp hsome
  obtain ⟨q, hq, hdrop⟩ := List.exists_of_findSome?_eq_some hrest
  obtain ⟨piece, rfl, hfits⟩ := dropFold_eq_some_iff.mp hdrop
  refine ⟨q, hq, piece, rest, rfl, hfits, ?_⟩
  unfold dropLeadIn
  rw [hrest]

theorem dropLeadIn_suffix (spellings : List String) (s : List Char) : dropLeadIn spellings s <:+ s := by
  by_cases h : ∃ p ∈ spellings, Opens p.toList s
  · obtain ⟨p, hp, hopens⟩ := h
    obtain ⟨q, -, piece, rest, rfl, -, hdrop⟩ := exists_leadIn hp hopens
    rw [hdrop]
    exact (List.dropWhile_suffix isBlank).trans (List.suffix_append piece rest)
  · exact ⟨[], dropLeadIn_of_not_opens fun p hp hopens => h ⟨p, hp, hopens⟩⟩

theorem dropLeadIn_eq_self_iff {spellings : List String} (hne : ∀ p ∈ spellings, p.toList ≠ []) (s : List Char) :
    dropLeadIn spellings s = s ↔ ∀ p ∈ spellings, ¬ Opens p.toList s := by
  constructor
  · intro h p hp hopens
    obtain ⟨q, hq, piece, rest, rfl, hfits, hdrop⟩ := exists_leadIn hp hopens
    have hpos := List.length_pos_iff.mpr (hfits.ne_nil (hne q hq))
    have hle := trimStart_length_le rest
    have hlength := congrArg List.length (hdrop.symm.trans h)
    rw [List.length_append] at hlength
    omega
  · exact dropLeadIn_of_not_opens

theorem cutTrailer_of_not_holds {phrase : String} {s : List Char} (h : ¬ Holds phrase.toList s) :
    cutTrailer phrase s = s := by
  unfold cutTrailer
  rw [searchPhrase_eq_none_iff.mpr h]

/-- An explanation that is there goes, with the blanks before it. -/
theorem exists_trailer {phrase : String} {s : List Char} (h : Holds phrase.toList s) :
    ∃ before piece after, s = before ++ (piece ++ after) ∧ Fits phrase.toList piece ∧
      cutTrailer phrase s = trimEnd before := by
  cases hsearch : searchPhrase phrase.toList s with
  | none => exact absurd h (searchPhrase_eq_none_iff.mp hsearch)
  | some found =>
    obtain ⟨before, after⟩ := found
    obtain ⟨piece, rfl, hfits⟩ := searchPhrase_eq_some hsearch
    refine ⟨before, piece, after, rfl, hfits, ?_⟩
    unfold cutTrailer
    rw [hsearch]

theorem isPrefix_trimEnd (s : List Char) : trimEnd s <+: s := by
  obtain ⟨back, -, hback⟩ := exists_back s
  exact ⟨back, hback.symm⟩

theorem isPrefix_cutTrailer (phrase : String) (s : List Char) : cutTrailer phrase s <+: s := by
  by_cases h : Holds phrase.toList s
  · obtain ⟨before, piece, after, rfl, -, hcut⟩ := exists_trailer h
    rw [hcut]
    exact (isPrefix_trimEnd before).trans (List.prefix_append before _)
  · exact ⟨[], by rw [List.append_nil, cutTrailer_of_not_holds h]⟩

theorem cutTrailer_eq_self_iff {phrase : String} (hne : phrase.toList ≠ []) (s : List Char) :
    cutTrailer phrase s = s ↔ ¬ Holds phrase.toList s := by
  constructor
  · intro h hholds
    obtain ⟨before, piece, after, rfl, hfits, hcut⟩ := exists_trailer hholds
    have hpos := List.length_pos_iff.mpr (hfits.ne_nil hne)
    have hle := (isPrefix_trimEnd before).length_le
    have hlength := congrArg List.length (hcut.symm.trans h)
    simp only [List.length_append] at hlength
    omega
  · exact cutTrailer_of_not_holds

/-! ## Both in a row -/

section Cutting
variable {β : Type} {cut : List Char → β → List Char} (hcut : ∀ s x, cut s x <:+: s)
include hcut

theorem isInfix_foldl (xs : List β) (s : List Char) : xs.foldl cut s <:+: s := by
  induction xs generalizing s with
  | nil => exact List.infix_refl s
  | cons x xs ih => exact (ih (cut s x)).trans (hcut s x)

/-- Cuts in a row keep a text exactly if each of them does. -/
theorem foldl_eq_self_iff (xs : List β) (s : List Char) : xs.foldl cut s = s ↔ ∀ x ∈ xs, cut s x = s := by
  induction xs with
  | nil => simp
  | cons x xs ih =>
    rw [List.foldl_cons, List.forall_mem_cons]
    constructor
    · intro h
      have hrest := isInfix_foldl hcut xs (cut s x)
      rw [h] at hrest
      have hfirst := List.infix_antisymm (hcut s x) hrest
      rw [hfirst] at h
      exact ⟨hfirst, ih.mp h⟩
    · rintro ⟨hfirst, hrest⟩
      rw [hfirst]
      exact ih.mpr hrest

end Cutting

def withoutLeadIns (s : List Char) : List Char := leadIns.foldl (fun t spellings => dropLeadIn spellings t) s

def withoutTrailers (s : List Char) : List Char := trailers.foldl (fun t phrase => cutTrailer phrase t) s

/-- The second half of a round: without the phrases around the statement. -/
def stripped (s : List Char) : List Char := trim (withoutTrailers (withoutLeadIns s))

theorem tidy_eq (s : List Char) : tidy s = stripped (cleared s) := rfl

theorem isInfix_withoutLeadIns (s : List Char) : withoutLeadIns s <:+: s :=
  isInfix_foldl (fun s spellings => (dropLeadIn_suffix spellings s).isInfix) leadIns s

theorem isInfix_withoutTrailers (s : List Char) : withoutTrailers s <:+: s :=
  isInfix_foldl (fun s phrase => (isPrefix_cutTrailer phrase s).isInfix) trailers s

theorem isInfix_trim (s : List Char) : trim s <:+: s :=
  (isPrefix_trimEnd (trimStart s)).isInfix.trans (List.dropWhile_suffix isBlank).isInfix

theorem isInfix_stripped (s : List Char) : stripped s <:+: s :=
  (isInfix_trim _).trans ((isInfix_withoutTrailers _).trans (isInfix_withoutLeadIns s))

/-- No lead-in opens the text, and no explanation begins in it. -/
structure IsBare (s : List Char) : Prop where
  leadIn : ∀ phrase ∈ leadIns.flatten, ¬ Opens phrase.toList s
  explanation : ∀ phrase ∈ trailers, ¬ Holds phrase.toList s

instance (s : List Char) : Decidable (IsBare s) :=
  decidable_of_iff
    ((∀ phrase ∈ leadIns.flatten, ¬ Opens phrase.toList s) ∧ ∀ phrase ∈ trailers, ¬ Holds phrase.toList s)
    ⟨fun ⟨h₁, h₂⟩ => ⟨h₁, h₂⟩, fun ⟨h₁, h₂⟩ => ⟨h₁, h₂⟩⟩

theorem leadIn_ne_nil : ∀ phrase ∈ leadIns.flatten, phrase.toList ≠ [] := by decide

theorem trailer_ne_nil : ∀ phrase ∈ trailers, phrase.toList ≠ [] := by decide

theorem withoutLeadIns_eq_self_iff (s : List Char) :
    withoutLeadIns s = s ↔ ∀ phrase ∈ leadIns.flatten, ¬ Opens phrase.toList s := by
  unfold withoutLeadIns
  rw [foldl_eq_self_iff fun s spellings => (dropLeadIn_suffix spellings s).isInfix]
  constructor
  · intro h phrase hphrase
    obtain ⟨spellings, hspellings, hmem⟩ := List.mem_flatten.mp hphrase
    have hne : ∀ p ∈ spellings, p.toList ≠ [] :=
      fun p hp => leadIn_ne_nil p (List.mem_flatten.mpr ⟨spellings, hspellings, hp⟩)
    exact (dropLeadIn_eq_self_iff hne s).mp (h spellings hspellings) phrase hmem
  · intro h spellings hspellings
    exact dropLeadIn_of_not_opens fun p hp => h p (List.mem_flatten.mpr ⟨spellings, hspellings, hp⟩)

theorem withoutTrailers_eq_self_iff (s : List Char) :
    withoutTrailers s = s ↔ ∀ phrase ∈ trailers, ¬ Holds phrase.toList s := by
  unfold withoutTrailers
  rw [foldl_eq_self_iff fun s phrase => (isPrefix_cutTrailer phrase s).isInfix]
  exact forall₂_congr fun phrase hphrase => cutTrailer_eq_self_iff (trailer_ne_nil phrase hphrase) s

theorem stripped_eq_self_iff {s : List Char} (hends : IsUnpadded s) : stripped s = s ↔ IsBare s := by
  constructor
  · intro h
    -- Every step only cuts, so a text that is whole at the end was whole all the time.
    have hlast := isInfix_trim (withoutTrailers (withoutLeadIns s))
    rw [show trim (withoutTrailers (withoutLeadIns s)) = s from h] at hlast
    have hleadIns : withoutLeadIns s = s :=
      List.infix_antisymm (isInfix_withoutLeadIns s) (hlast.trans (isInfix_withoutTrailers _))
    rw [hleadIns] at hlast
    have htrailers : withoutTrailers s = s := List.infix_antisymm (isInfix_withoutTrailers s) hlast
    exact ⟨(withoutLeadIns_eq_self_iff s).mp hleadIns, (withoutTrailers_eq_self_iff s).mp htrailers⟩
  · intro h
    unfold stripped
    rw [(withoutLeadIns_eq_self_iff s).mpr h.leadIn, (withoutTrailers_eq_self_iff s).mpr h.explanation]
    exact (trim_eq_self_iff s).mpr hends

end TenderQuery.Sql
