import TenderQuery.Proofs.Text.Words

/-!
# Blanks at the ends of a text

A text is blanks, its trimmed form and blanks; blanks have no words, so trimming keeps the words.
-/
set_option autoImplicit false
namespace TenderQuery.Text

def IsBlanks (s : List Char) : Prop := ∀ c ∈ s, isBlank c = true

theorem IsBlanks.words_eq {s : List Char} (h : IsBlanks s) : words s = [] :=
  words_eq_nil fun c hc => isWord_of_isBlank (h c hc)

theorem IsBlanks.endsWord {s : List Char} (h : IsBlanks s) : endsWord s = false := by
  obtain rfl | ⟨r, c, rfl⟩ := List.eq_nil_or_concat s
  · rfl
  · rw [List.concat_eq_append] at h ⊢
    rw [endsWord_concat]
    exact isWord_of_isBlank (h c (List.mem_append_right _ List.mem_cons_self))

theorem IsBlanks.startsWord {s : List Char} (h : IsBlanks s) : startsWord s = false := by
  cases s with
  | nil => rfl
  | cons c r => exact isWord_of_isBlank (h c List.mem_cons_self)

theorem isBlanks_space : IsBlanks [' '] := fun c hc => by rw [List.mem_singleton.mp hc]; decide

/-! ## The front -/

theorem exists_front (s : List Char) : ∃ front, IsBlanks front ∧ s = front ++ trimStart s := by
  refine ⟨s.takeWhile isBlank, ?_, List.takeWhile_append_dropWhile.symm⟩
  exact List.all_eq_true.mp List.all_takeWhile

theorem someBlanks_eq_some {s rest : List Char} (h : someBlanks s = some rest) :
    ∃ gap, gap ≠ [] ∧ IsBlanks gap ∧ s = gap ++ rest := by
  cases s with
  | nil => cases h
  | cons c r =>
    rw [someBlanks] at h
    split at h
    · rename_i hc
      cases h
      obtain ⟨front, hfront, heq⟩ := exists_front r
      refine ⟨c :: front, List.cons_ne_nil _ _, ?_, by rw [List.cons_append, ← heq]⟩
      intro d hd
      obtain rfl | hd := List.mem_cons.mp hd
      · exact hc
      · exact hfront d hd
    · cases h

theorem not_isBlank_of_trimStart {s r : List Char} {c : Char} (h : trimStart s = c :: r) :
    isBlank c = false := by
  have hhead := List.head?_dropWhile_not isBlank s
  unfold trimStart at h
  rw [h] at hhead
  exact hhead

theorem trimStart_cons_of_not_isBlank {c : Char} (h : isBlank c = false) (s : List Char) :
    trimStart (c :: s) = c :: s := by
  rw [trimStart, List.dropWhile_cons_of_neg (by rw [h]; exact Bool.false_ne_true)]

theorem trimStart_append_blanks {front : List Char} (h : IsBlanks front) (s : List Char) :
    trimStart (front ++ s) = trimStart s :=
  List.dropWhile_append_of_pos h

theorem trimStart_eq_nil_iff (s : List Char) : trimStart s = [] ↔ IsBlanks s := by
  constructor
  · intro h
    obtain ⟨front, hfront, heq⟩ := exists_front s
    rw [h, List.append_nil] at heq
    exact heq ▸ hfront
  · intro h
    have hblanks := trimStart_append_blanks h []
    rwa [List.append_nil] at hblanks

/-- What is trimmed does not depend on what follows, once there is more than blanks. -/
theorem trimStart_append {a : List Char} (h : trimStart a ≠ []) (b : List Char) :
    trimStart (a ++ b) = trimStart a ++ b := by
  unfold trimStart at h ⊢
  rw [List.dropWhile_append, if_neg]
  rwa [List.isEmpty_iff]

theorem trimStart_of_startsWord {s : List Char} (h : startsWord s = true) : trimStart s = s := by
  cases s with
  | nil => rfl
  | cons c r =>
    refine trimStart_cons_of_not_isBlank ?_ r
    have hc : isWord c = true := h
    rw [← Bool.not_eq_true]
    intro hblank
    rw [isWord_of_isBlank hblank] at hc
    cases hc

theorem someBlanks_append {gap s : List Char} (hne : gap ≠ []) (hgap : IsBlanks gap)
    (hs : startsWord s = true) :
    someBlanks (gap ++ s) = some s := by
  obtain ⟨c, r, rfl⟩ := List.exists_cons_of_ne_nil hne
  rw [List.cons_append, someBlanks, if_pos (hgap c List.mem_cons_self),
    trimStart_append_blanks fun d hd => hgap d (List.mem_cons_of_mem _ hd), trimStart_of_startsWord hs]

@[simp] theorem words_trimStart (s : List Char) : words (trimStart s) = words s := by
  obtain ⟨front, hfront, heq⟩ := exists_front s
  have hcut : words (front ++ trimStart s) = words front ++ words (trimStart s) :=
    words_append fun hend => absurd hend (by simp [hfront.endsWord])
  rw [← heq, hfront.words_eq] at hcut
  exact hcut.symm

/-! ## The back -/

theorem exists_back (s : List Char) : ∃ back, IsBlanks back ∧ s = trimEnd s ++ back := by
  obtain ⟨front, hfront, heq⟩ := exists_front s.reverse
  refine ⟨front.reverse, fun c hc => hfront c (List.mem_reverse.mp hc), ?_⟩
  have hrev := congrArg List.reverse heq
  rw [List.reverse_reverse, List.reverse_append] at hrev
  exact hrev

theorem not_isBlank_of_trimEnd {s r : List Char} {c : Char} (h : trimEnd s = r ++ [c]) :
    isBlank c = false := by
  have hrev := congrArg List.reverse h
  unfold trimEnd at hrev
  rw [List.reverse_reverse, List.reverse_append] at hrev
  exact not_isBlank_of_trimStart hrev

theorem trimEnd_append_blanks {back : List Char} (h : IsBlanks back) (s : List Char) :
    trimEnd (s ++ back) = trimEnd s := by
  unfold trimEnd
  rw [List.reverse_append, List.dropWhile_append_of_pos]
  exact fun c hc => h c (List.mem_reverse.mp hc)

theorem trimEnd_eq_self {s : List Char} (h : ∀ c ∈ s.getLast?, isBlank c = false) : trimEnd s = s := by
  unfold trimEnd
  cases hrev : s.reverse with
  | nil => rw [List.dropWhile_nil, ← hrev, List.reverse_reverse]
  | cons c r =>
    have hlast : c ∈ s.getLast? := by
      rw [List.getLast?_eq_head?_reverse, hrev]
      rfl
    rw [List.dropWhile_cons_of_neg (by simp [h c hlast]), ← hrev, List.reverse_reverse]

/-- What does not end in a blank stays whole, whatever follows. -/
theorem exists_trimEnd_append {a : List Char} (ha : ∀ c ∈ a.getLast?, isBlank c = false) (s : List Char) :
    ∃ rest, trimEnd (a ++ s) = a ++ rest := by
  have hkept := trimEnd_eq_self ha
  unfold trimEnd at hkept ⊢
  rw [List.reverse_append, List.dropWhile_append]
  split
  · exact ⟨[], by rw [hkept, List.append_nil]⟩
  · exact ⟨(s.reverse.dropWhile isBlank).reverse, by rw [List.reverse_append, List.reverse_reverse]⟩

@[simp] theorem words_trimEnd (s : List Char) : words (trimEnd s) = words s := by
  obtain ⟨back, hback, heq⟩ := exists_back s
  have hcut : words (trimEnd s ++ back) = words (trimEnd s) ++ words back :=
    words_append fun _ => hback.startsWord
  rw [← heq, hback.words_eq, List.append_nil] at hcut
  exact hcut.symm

theorem startsWord_trimEnd (s : List Char) : startsWord (trimEnd s) = startsWord s := by
  obtain ⟨back, hback, heq⟩ := exists_back s
  generalize hkept : trimEnd s = kept at heq
  subst heq
  cases kept with
  | nil => exact hback.startsWord.symm
  | cons c r => rfl

/-! ## Both ends -/

theorem words_trim (s : List Char) : words (trim s) = words s := by
  unfold trim
  rw [words_trimEnd, words_trimStart]

/-- No blank stands at either end. -/
structure IsUnpadded (s : List Char) : Prop where
  front : ∀ c ∈ s.head?, isBlank c = false
  back : ∀ c ∈ s.getLast?, isBlank c = false

theorem isUnpadded_trim (s : List Char) : IsUnpadded (trim s) := by
  constructor
  · intro c hc
    obtain ⟨back, -, hcut⟩ := exists_back (trimStart s)
    obtain ⟨r, hr⟩ := List.head?_eq_some_iff.mp hc
    have hstart : trimStart s = c :: (r ++ back) := by
      rw [hcut]
      exact congrArg (· ++ back) hr
    exact not_isBlank_of_trimStart hstart
  · intro c hc
    obtain ⟨r, hr⟩ := List.getLast?_eq_some_iff.mp hc
    exact not_isBlank_of_trimEnd hr

/-- Trimming keeps exactly the texts that have no blank at either end. -/
theorem trim_eq_self_iff (s : List Char) : trim s = s ↔ IsUnpadded s := by
  constructor
  · intro h
    exact h ▸ isUnpadded_trim s
  · rintro ⟨hfront, hback⟩
    have hstart : trimStart s = s := by
      cases s with
      | nil => rfl
      | cons c r => exact trimStart_cons_of_not_isBlank (hfront c rfl) r
    unfold trim
    rw [hstart, trimEnd_eq_self hback]

instance (s : List Char) : Decidable (IsUnpadded s) := decidable_of_iff (trim s = s) (trim_eq_self_iff s)

theorem trimString_trimString (s : String) : trimString (trimString s) = trimString s := by
  unfold trimString
  rw [String.toList_ofList, (trim_eq_self_iff _).mpr (isUnpadded_trim _)]

theorem trimString_eq_self_iff (s : String) : trimString s = s ↔ IsUnpadded s.toList := by
  rw [← trim_eq_self_iff, ← String.toList_inj]
  unfold trimString
  rw [String.toList_ofList]

end TenderQuery.Text
