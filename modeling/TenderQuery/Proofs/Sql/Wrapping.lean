import TenderQuery.Proofs.Sql.Fences
import TenderQuery.Proofs.Sql.NormalForm

/-!
# What models write around a statement

Cleaning gives back the statement that a model puts into a code fence, with a lead-in before it and an explanation
behind (`normalize_around`). The phrases do not get in each other's way: no lead-in and no explanation is spelled
partly by the statement and partly by the explanation that follows (`leadIns_apart`, `trailers_apart`), so each of
them is found where it stands.
-/
set_option autoImplicit false
namespace TenderQuery.Sql
open TenderQuery.Text

/-! ## The phrases -/

theorem phrases_cleared : ∀ phrase ∈ leadIns.flatten ++ trailers,
    IsPhrase phrase.toList ∧ IsCleared phrase.toList := by
  decide +kernel

theorem leadIns_differ : ∀ phrase ∈ leadIns.flatten, ∀ other ∈ leadIns.flatten,
    phrase ≠ other → meets phrase.toList other.toList = false := by
  decide +kernel

theorem leadIns_apart : ∀ phrase ∈ leadIns.flatten, ∀ other ∈ trailers,
    endsApart phrase.toList (' ' :: other.toList) = true := by
  decide +kernel

theorem trailers_apart : ∀ phrase ∈ trailers, ∀ other ∈ trailers,
    endsApart phrase.toList (' ' :: other.toList) = true ∧
      (phrase ≠ other → endsApart (' ' :: phrase.toList) other.toList = true) := by
  decide +kernel

theorem isNoTag_of_mem_trailers : ∀ phrase ∈ trailers, IsNoTag phrase.toList := by
  have hmarks : ∀ phrase ∈ trailers, ('\r' ∉ phrase.toList ∧ '\n' ∉ phrase.toList) ∧
      (phrase.toList.any fun p => !isCased p && !isTagChar p) = true ∧
      ∀ tag ∈ sqlTags, meets tag.toList phrase.toList = false := by
    decide +kernel
  intro phrase hmem
  obtain ⟨hletters, hcleared⟩ := phrases_cleared phrase (List.mem_append_right _ hmem)
  obtain ⟨hends, hmark, hdialect⟩ := hmarks phrase hmem
  obtain ⟨p, hp, hcase⟩ := List.any_eq_true.mp hmark
  rw [Bool.and_eq_true, Bool.not_eq_true', Bool.not_eq_true'] at hcase
  exact ⟨hletters, hcleared.ends, hends, ⟨p, hp, hcase⟩, hdialect⟩

theorem isCleared_of_fits {phrase piece : List Char} (hletters : IsPhrase phrase) (hcleared : IsCleared phrase)
    (h : Fits phrase piece) : IsCleared piece :=
  ⟨not_mem_of_fits h hletters (by decide) hcleared.backtick, isEvenlySpaced_of_fits h hletters hcleared.even,
    isUnpadded_of_fits h hletters hcleared.ends⟩

/-! ## Lead-ins -/

section LeadIn
variable {phrase : String} (hphrase : phrase ∈ leadIns.flatten) {piece : List Char} (hfits : Fits phrase.toList piece)
include hphrase hfits

/-- A lead-in is removed with the other spellings of its kind, and left alone with those of other kinds. -/
theorem dropLeadIn_append {spellings : List String} (hkind : spellings ∈ leadIns) (s : List Char) :
    dropLeadIn spellings (piece ++ s) = if phrase ∈ spellings then trimStart s else piece ++ s := by
  have hsame : ∀ q ∈ spellings, Opens q.toList (piece ++ s) → q = phrase := by
    rintro q hq ⟨found, rest, heq, hfound⟩
    apply Decidable.not_not.mp
    intro hne
    have hmeets := meets_of_fits hfound hfits heq.symm
    rw [leadIns_differ q (List.mem_flatten.mpr ⟨spellings, hkind, hq⟩) phrase hphrase hne] at hmeets
    cases hmeets
  split
  · rename_i hmem
    obtain ⟨q, hq, found, rest, heq, hfound, hdrop⟩ := exists_leadIn hmem ⟨piece, s, rfl, hfits⟩
    obtain rfl := hsame q hq ⟨found, rest, heq, hfound⟩
    have hlength : piece.length = found.length := (length_of_fits hfits).trans (length_of_fits hfound).symm
    rw [hdrop, (List.append_inj heq hlength).2]
  · rename_i hmem
    apply dropLeadIn_of_not_opens
    intro q hq hopens
    exact hmem (hsame q hq hopens ▸ hq)

theorem foldl_leadIns {kinds : List (List String)} (hkinds : ∀ spellings ∈ kinds, spellings ∈ leadIns)
    (hmem : phrase ∈ kinds.flatten) {s : List Char} (hs : ∀ q ∈ leadIns.flatten, ¬ Opens q.toList s)
    (hblank : trimStart s = s) :
    kinds.foldl (fun t spellings => dropLeadIn spellings t) (piece ++ ' ' :: s) = s := by
  induction kinds with
  | nil => cases hmem
  | cons kind kinds ih =>
    rw [List.foldl_cons, dropLeadIn_append hphrase hfits (hkinds kind List.mem_cons_self)]
    split
    · -- Nothing else opens the rest.
      have hstart : trimStart (' ' :: s) = s := (trimStart_append_blanks isBlanks_space s).trans hblank
      rw [hstart, foldl_eq_self_iff fun s spellings => (dropLeadIn_suffix spellings s).isInfix]
      intro spellings hspellings
      apply dropLeadIn_of_not_opens
      intro q hq
      exact hs q (List.mem_flatten.mpr ⟨spellings, hkinds spellings (List.mem_cons_of_mem kind hspellings), hq⟩)
    · rename_i hnot
      rw [List.flatten_cons, List.mem_append] at hmem
      exact ih (fun spellings hspellings => hkinds spellings (List.mem_cons_of_mem kind hspellings))
        (hmem.resolve_left hnot)

end LeadIn

/-! ## Explanations -/

theorem fits_space {phrase piece : List Char} (h : Fits phrase piece) : Fits (' ' :: phrase) (' ' :: piece) :=
  (fits_cons_iff ' ' _ _).mpr ⟨' ', piece, rfl, sameLetter_self ' ', h⟩

section Explanation
variable {phrase : String} (hphrase : phrase ∈ trailers) {piece : List Char} (hfits : Fits phrase.toList piece)
  {s : List Char}
include hphrase hfits

/-- No blanks are cut off behind an explanation. -/
theorem exists_trimEnd_explanation (rest : List Char) :
    ∃ rest', trimEnd (s ++ (' ' :: piece ++ rest)) = s ++ (' ' :: piece ++ rest') := by
  obtain ⟨hletters, hcleared⟩ := phrases_cleared phrase (List.mem_append_right _ hphrase)
  have hlast : ∀ c ∈ (s ++ [' '] ++ piece).getLast?, isBlank c = false := by
    have hpiece := hfits.ne_nil (trailer_ne_nil phrase hphrase)
    rw [List.getLast?_append, List.getLast?_eq_some_getLast hpiece, Option.some_or,
      ← List.getLast?_eq_some_getLast hpiece]
    exact (isCleared_of_fits hletters hcleared hfits).ends.back
  obtain ⟨rest', hrest'⟩ := exists_trimEnd_append hlast rest
  exact ⟨rest', by simpa using hrest'⟩

variable (hs : IsNormal s)
include hs

theorem cutTrailer_own (rest : List Char) : cutTrailer phrase (s ++ (' ' :: piece ++ rest)) = s := by
  have hsearch : searchPhrase phrase.toList (s ++ [' '] ++ (piece ++ rest)) = some (s ++ [' '], rest) := by
    apply searchPhrase_append hfits
    intro x y heq hy hopens
    -- The phrase would begin in the statement and go on in the explanation.
    obtain ⟨y, c, rfl⟩ := (List.eq_nil_or_concat y).resolve_left hy
    rw [List.concat_eq_append, ← List.append_assoc] at heq
    obtain ⟨hfront, hspace⟩ := List.append_inj' heq rfl
    cases hspace
    rw [List.concat_eq_append, List.append_assoc] at hopens
    have hapart := (trailers_apart phrase hphrase phrase hphrase).1
    exact hs.explanation phrase hphrase (holds_of_opens_append (fits_space hfits) hapart hfront hopens)
  have htext : s ++ (' ' :: piece ++ rest) = s ++ [' '] ++ (piece ++ rest) := by simp
  unfold cutTrailer
  rw [htext, hsearch]
  exact (trimEnd_append_blanks isBlanks_space s).trans (trimEnd_eq_self hs.ends.back)

theorem cutTrailer_other {other : String} (hother : other ∈ trailers) (hdiffer : other ≠ phrase)
    (rest : List Char) :
    ∃ rest', cutTrailer other (s ++ (' ' :: piece ++ rest)) = s ++ (' ' :: piece ++ rest') := by
  by_cases hholds : Holds other.toList (s ++ (' ' :: piece ++ rest))
  · obtain ⟨before, found, after, heq, hfound, hcut⟩ := exists_trailer hholds
    have hspaced := fits_space hfits
    rw [hcut]
    obtain ⟨a, rfl, ha⟩ | ⟨b, rfl, hb⟩ := List.append_eq_append_iff.mp heq
    · -- The other phrase does not begin in the explanation either, so it stands behind it.
      have hapart := (trailers_apart phrase hphrase other hother).2 (Ne.symm hdiffer)
      obtain ⟨a', rfl⟩ := exists_gap_of_endsApart hfound hapart hspaced ha
      exact exists_trimEnd_explanation hphrase hfits a'
    · have hapart := (trailers_apart other hother phrase hphrase).1
      have hopens : Opens other.toList (b ++ (' ' :: piece ++ rest)) := ⟨found, after, hb.symm, hfound⟩
      exact absurd (holds_of_opens_append hspaced hapart rfl hopens) (hs.explanation other hother)
  · exact ⟨rest, cutTrailer_of_not_holds hholds⟩

theorem foldl_trailers {others : List String} (hothers : ∀ other ∈ others, other ∈ trailers)
    (hmem : phrase ∈ others) (rest : List Char) :
    others.foldl (fun t other => cutTrailer other t) (s ++ (' ' :: piece ++ rest)) = s := by
  induction others generalizing rest with
  | nil => cases hmem
  | cons other others ih =>
    have htail : ∀ other ∈ others, other ∈ trailers := fun q hq => hothers q (List.mem_cons_of_mem other hq)
    rw [List.foldl_cons]
    by_cases hsame : other = phrase
    · subst hsame
      rw [cutTrailer_own hphrase hfits hs, foldl_eq_self_iff fun s phrase => (isPrefix_cutTrailer phrase s).isInfix]
      intro q hq
      exact cutTrailer_of_not_holds (hs.explanation q (htail q hq))
    · obtain ⟨rest', hrest'⟩ := cutTrailer_other hphrase hfits hs (hothers other List.mem_cons_self) hsame rest
      rw [hrest']
      exact ih htail ((List.mem_cons.mp hmem).resolve_left (Ne.symm hsame)) rest'

end Explanation

/-! ## The whole answer -/

/-- An answer: a lead-in, a fence for the statement, and an explanation with anything behind it. -/
structure Answer where
  fence : Fence
  leadIn : List Char
  before : List Char
  behind : List Char
  explanation : List Char
  more : List Char
  isLeadIn : ∃ phrase ∈ leadIns.flatten, Fits phrase.toList leadIn
  isBefore : IsBlanks before
  isBehind : IsBlanks behind
  isExplanation : ∃ phrase ∈ trailers, Fits phrase.toList explanation

namespace Answer

/-- The answer with the statement in its fence. -/
def around (answer : Answer) (s : List Char) : List Char :=
  answer.leadIn ++ (answer.before ++ (answer.fence.around s ++ (answer.behind ++ (answer.explanation ++ answer.more))))

variable (answer : Answer)

theorem isCleared_leadIn : IsCleared answer.leadIn ∧ answer.leadIn ≠ [] := by
  obtain ⟨phrase, hphrase, hfits⟩ := answer.isLeadIn
  obtain ⟨hletters, hcleared⟩ := phrases_cleared phrase (List.mem_append_left _ hphrase)
  exact ⟨isCleared_of_fits hletters hcleared hfits, hfits.ne_nil (leadIn_ne_nil phrase hphrase)⟩

theorem isCleared_explanation : IsCleared answer.explanation ∧ answer.explanation ≠ [] := by
  obtain ⟨phrase, hphrase, hfits⟩ := answer.isExplanation
  obtain ⟨hletters, hcleared⟩ := phrases_cleared phrase (List.mem_append_right _ hphrase)
  exact ⟨isCleared_of_fits hletters hcleared hfits, hfits.ne_nil (trailer_ne_nil phrase hphrase)⟩

theorem dropFences_around {s : List Char} (hs : '\x60' ∉ s) :
    dropFences (answer.around s) =
      answer.leadIn ++ (answer.before ++ ' ' :: (answer.fence.opening ++ (s ++ (answer.fence.closing ++
        ' ' :: (answer.behind ++ (answer.explanation ++ dropFences answer.more)))))) := by
  obtain ⟨phrase, hphrase, hfits⟩ := answer.isExplanation
  unfold around
  rw [dropFences_append answer.isCleared_leadIn.1.backtick,
    dropFences_append (backtick_not_mem_of_isBlanks answer.isBefore), Sql.dropFences_around answer.fence hs,
    afterFence_phrase (isNoTag_of_mem_trailers phrase hphrase) hfits answer.isBehind,
    dropFences_append (backtick_not_mem_of_isBlanks answer.isBehind),
    dropFences_append answer.isCleared_explanation.1.backtick]

theorem dropBackticks_around {s : List Char} (hs : '\x60' ∉ s) :
    dropBackticks (dropFences (answer.around s)) =
      answer.leadIn ++ (answer.before ++ ' ' :: answer.fence.opening ++ (s ++ (answer.fence.closing ++
        ' ' :: answer.behind ++ (answer.explanation ++ dropBackticks (dropFences answer.more))))) := by
  have hfront : '\x60' ∉ answer.leadIn ++ (answer.before ++ ' ' :: answer.fence.opening ++ (s ++
      (answer.fence.closing ++ ' ' :: answer.behind ++ answer.explanation))) := by
    simp only [List.mem_append, List.mem_cons, not_or]
    exact ⟨answer.isCleared_leadIn.1.backtick, ⟨backtick_not_mem_of_isBlanks answer.isBefore, by decide,
      backtick_not_mem_of_isBlanks (isBlanks_of_isNewline answer.fence.isOpening)⟩, hs,
      ⟨backtick_not_mem_of_isBlanks (isBlanks_of_isNewline answer.fence.isClosing), by decide,
        backtick_not_mem_of_isBlanks answer.isBehind⟩, answer.isCleared_explanation.1.backtick⟩
  have hkept := (dropBackticks_append _ (dropFences answer.more)).trans
    (congrArg (· ++ dropBackticks (dropFences answer.more)) (dropBackticks_of_not_mem hfront))
  rw [answer.dropFences_around hs]
  simpa using hkept

/-- Without fences and superfluous blanks the statement stands between the two phrases. -/
theorem exists_cleared_around {s : List Char} (hs : IsCleared s) (hne : s ≠ []) :
    ∃ rest, cleared (answer.around s) = answer.leadIn ++ ' ' :: (s ++ (' ' :: answer.explanation ++ rest)) := by
  obtain ⟨hleadIn, hleadIn'⟩ := answer.isCleared_leadIn
  obtain ⟨hexplanation, hexplanation'⟩ := answer.isCleared_explanation
  have hgap : ∀ {a b : List Char}, IsBlanks a → IsBlanks b → IsBlanks (a ++ ' ' :: b) := fun ha hb =>
    List.forall_mem_append.mpr ⟨ha, List.forall_mem_cons.mpr ⟨by decide, hb⟩⟩
  have hopening := hgap answer.isBefore (isBlanks_of_isNewline answer.fence.isOpening)
  have hclosing := hgap (isBlanks_of_isNewline answer.fence.isClosing) answer.isBehind
  have hmore := trimStart_append_of_isUnpadded hexplanation.ends hexplanation'
    (dropBackticks (dropFences answer.more))
  refine ⟨spaced false (dropBackticks (dropFences answer.more)), ?_⟩
  unfold cleared
  rw [answer.dropBackticks_around hs.backtick,
    collapse_append_gap hleadIn.even hleadIn.ends hleadIn' hopening (by simp),
    collapse_append_gap hs.even hs.ends hne hclosing (by simp),
    collapse_append hexplanation.even hexplanation.ends hexplanation', List.cons_append]
  · rw [hmore]
    simp [hexplanation']
  · rw [trimStart_append_of_isUnpadded hs.ends hne]
    simp [hne]

theorem tidy_around {s : List Char} (hs : IsNormal s) (hne : s ≠ []) : tidy (answer.around s) = s := by
  obtain ⟨phrase, hphrase, hleadIn⟩ := answer.isLeadIn
  obtain ⟨other, hother, hexplanation⟩ := answer.isExplanation
  obtain ⟨rest, hcleared⟩ := answer.exists_cleared_around hs.toIsCleared hne
  have hopens : ∀ q ∈ leadIns.flatten, ¬ Opens q.toList (s ++ (' ' :: answer.explanation ++ rest)) := by
    intro q hq hopens
    exact hs.leadIn q hq (opens_of_opens_append (fits_space hexplanation) (leadIns_apart q hq other hother) hopens)
  have hstart := trimStart_append_of_isUnpadded hs.ends hne (' ' :: answer.explanation ++ rest)
  have hleadIns : withoutLeadIns (cleared (answer.around s)) = s ++ (' ' :: answer.explanation ++ rest) := by
    rw [hcleared]
    exact foldl_leadIns hphrase hleadIn (fun _ h => h) hphrase hopens hstart
  have htrailers : withoutTrailers (s ++ (' ' :: answer.explanation ++ rest)) = s :=
    foldl_trailers hother hexplanation hs (fun _ h => h) hother rest
  rw [tidy_eq, stripped, hleadIns, htrailers]
  exact (trim_eq_self_iff s).mpr hs.ends

end Answer

theorem tidy_fence (fence : Fence) {s : List Char} (hs : '\x60' ∉ s) : tidy (fence.around s) = tidy s := by
  have hopening := isBlanks_of_isNewline fence.isOpening
  have hclosing := isBlanks_of_isNewline fence.isClosing
  have hdrop := dropFences_around fence hs []
  have hafter : afterFence [] = [] := by decide
  rw [List.append_nil, hafter, dropFences_nil] at hdrop
  have hfront : '\x60' ∉ ' ' :: (fence.opening ++ (s ++ (fence.closing ++ [' ']))) := by
    simp only [List.mem_append, List.mem_cons, List.not_mem_nil, or_false, not_or]
    exact ⟨by decide, backtick_not_mem_of_isBlanks hopening, hs, backtick_not_mem_of_isBlanks hclosing, by decide⟩
  have hgap : IsBlanks (' ' :: fence.opening) := List.forall_mem_cons.mpr ⟨by decide, hopening⟩
  have hgap' : IsBlanks (fence.closing ++ [' ']) := List.forall_mem_append.mpr ⟨hclosing, isBlanks_space⟩
  rw [tidy_eq, tidy_eq, cleared_of_not_mem hs, cleared, hdrop, dropBackticks_of_not_mem hfront, ← List.cons_append,
    collapse_append_front hgap, collapse_append_back hgap']

/-- Cleaning undoes what models write around a statement. A fence alone makes no difference to any text without
backticks. With a lead-in, a fence and an explanation around it, whatever follows, a statement in normal form comes
back as it was. -/
theorem normalize_around :
    (∀ (fence : Fence) (s : String), '\x60' ∉ s.toList →
      normalize (String.ofList (fence.around s.toList)) = normalize s) ∧
    (∀ (answer : Answer) (s : String), IsNormal s.toList → s ≠ "" →
      normalize (String.ofList (answer.around s.toList)) = s) := by
  constructor
  · intro fence s hs
    unfold normalize normalizeChars
    rw [String.toList_ofList, tidy_fence fence hs]
  · intro answer s hs hne
    have hne' : s.toList ≠ [] := fun hnil => hne (String.toList_eq_nil_iff.mp hnil)
    unfold normalize normalizeChars
    rw [String.toList_ofList, answer.tidy_around hs hne', settle_of_isNormal hs, String.ofList_toList]

def companies : String := "SELECT Name FROM tenderCompany"

def companiesFence : Fence where
  tag := ['s', 'q', 'l']
  opening := ['\r', '\n']
  closing := ['\n']
  isTag := by decide
  isOpening := .inr rfl
  isClosing := .inl rfl

theorem isLeadIn_capitals : ∃ phrase ∈ leadIns.flatten, Fits phrase.toList "HERE'S THE QUERY:".toList :=
  ⟨"here's the query:", by decide, by decide +kernel⟩

theorem isExplanation_capitals : ∃ phrase ∈ trailers, Fits phrase.toList "This SQL".toList :=
  ⟨"this sql", by decide, by decide +kernel⟩

/-- An answer with phrases in capitals, an explanation right behind the fence, and further fences and phrases. -/
def companiesAnswer : Answer where
  fence := companiesFence
  leadIn := "HERE'S THE QUERY:".toList
  before := ['\r', '\n']
  behind := []
  explanation := "This SQL".toList
  more := " lists:\n\x60\x60\x60 Explanation: this query will\x60".toList
  isLeadIn := isLeadIn_capitals
  isBefore := isBlanks_of_isNewline (.inr rfl)
  isBehind := List.forall_mem_nil _
  isExplanation := isExplanation_capitals

theorem normalize_around_companies :
    ('\x60' ∉ companies.toList ∧ IsNormal companies.toList ∧ companies ≠ "") ∧
      normalize (String.ofList (companiesFence.around companies.toList)) = normalize companies ∧
      normalize (String.ofList (companiesAnswer.around companies.toList)) = companies := by
  have hnormal : IsNormal companies.toList := by decide +kernel
  have hne : companies ≠ "" := by decide
  exact ⟨⟨hnormal.backtick, hnormal, hne⟩, normalize_around.1 companiesFence companies hnormal.backtick,
    normalize_around.2 companiesAnswer companies hnormal hne⟩

end TenderQuery.Sql
