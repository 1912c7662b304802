import TenderQuery.Proofs.Text.Searching
import TenderQuery.Sql.Safety

/-!
# What the read-only gate lets through

`isReadOnly_iff` says which texts pass the gate in terms of their words and of what follows their semicolons:
the first word opens a query, no word is blocked, and nothing is chained (`IsUnchained`). None of the three
depends on the blanks around the text.
-/
set_option autoImplicit false
namespace TenderQuery.Sql
open TenderQuery.Text

/-! ## The opening word -/

/-- The text begins, blanks apart, with a word that opens a query. -/
def OpensQuery (s : List Char) : Prop :=
  startsWord (trimStart s) = true ∧
    ∃ w, (words s).head? = some w ∧ (Fits "SELECT".toList w ∨ Fits "WITH".toList w)

theorem OpensQuery.words_ne_nil {s : List Char} (h : OpensQuery s) : words s ≠ [] := by
  obtain ⟨-, w, hhead, -⟩ := h
  intro hnil
  rw [hnil] at hhead
  cases hhead

/-- Whether a text opens a query is settled by a front that holds a whole word. -/
theorem opensQuery_append_iff {a b : List Char} {ws : List (List Char)} (hne : words a ≠ [])
    (hwords : words (a ++ b) = words a ++ ws) : OpensQuery (a ++ b) ↔ OpensQuery a := by
  have hkept : trimStart a ≠ [] := fun hnil => hne ((trimStart_eq_nil_iff _).mp hnil).words_eq
  have hfront : (words (a ++ b)).head? = (words a).head? := by
    obtain ⟨v, vs, hv⟩ := List.exists_cons_of_ne_nil hne
    rw [hwords, hv]
    rfl
  unfold OpensQuery
  rw [trimStart_append hkept, startsWord_append hkept, hfront]

theorem oneOfWords_isSome_iff (patterns : List String) (s : List Char) :
    (oneOfWords patterns s).isSome = true ↔ ∃ p ∈ patterns, (word p s).isSome = true := by
  unfold oneOfWords
  rw [List.findSome?_isSome_iff]

/-- A keyword stands at the front of a text when the first word of the text fits it. -/
theorem word_isSome_iff {pattern : String} (hp : IsKeyword pattern.toList) (s : List Char) :
    (word pattern s).isSome = true ↔
      startsWord s = true ∧ ∃ w, (words s).head? = some w ∧ Fits pattern.toList w := by
  constructor
  · intro h
    obtain ⟨rest, hrest⟩ := Option.isSome_iff_exists.mp h
    obtain ⟨piece, rfl, hfits, hstart⟩ := word_eq_some_iff.mp hrest
    have hat : IsWordAt [] piece rest := ⟨hfits.ne_nil hp.1, hfits.isWord hp.2, rfl, hstart⟩
    have hwords : words (piece ++ rest) = piece :: words rest := hat.words_eq
    refine ⟨?_, piece, by rw [hwords]; rfl, hfits⟩
    rw [startsWord_append hat.ne_nil]
    obtain ⟨c, r, rfl⟩ := List.exists_cons_of_ne_nil hat.ne_nil
    exact hat.all c List.mem_cons_self
  · rintro ⟨hstart, w, hhead, hfits⟩
    obtain ⟨first, rest, rfl, hat⟩ := exists_first_word hstart
    have hwords : words (first ++ rest) = first :: words rest := hat.words_eq
    rw [hwords, List.head?_cons, Option.some.injEq] at hhead
    subst hhead
    rw [word_eq_some_iff.mpr ⟨first, rfl, hfits, hat.after⟩]
    rfl

theorem startsReadOnly_iff (s : List Char) :
    startsReadOnly s = true ↔ startsWord s = true ∧
      ∃ w, (words s).head? = some w ∧ (Fits "SELECT".toList w ∨ Fits "WITH".toList w) := by
  unfold startsReadOnly
  rw [oneOfWords_isSome_iff]
  simp only [List.mem_cons, List.not_mem_nil, or_false, exists_eq_or_imp, exists_eq_left]
  rw [word_isSome_iff (by decide), word_isSome_iff (by decide)]
  constructor
  · rintro (⟨hstart, w, hhead, hfits⟩ | ⟨hstart, w, hhead, hfits⟩)
    · exact ⟨hstart, w, hhead, .inl hfits⟩
    · exact ⟨hstart, w, hhead, .inr hfits⟩
  · rintro ⟨hstart, w, hhead, hfits | hfits⟩
    · exact .inl ⟨hstart, w, hhead, hfits⟩
    · exact .inr ⟨hstart, w, hhead, hfits⟩

theorem startsReadOnly_trim_iff (s : List Char) : startsReadOnly (trim s) = true ↔ OpensQuery s := by
  rw [startsReadOnly_iff, words_trim]
  unfold trim OpensQuery
  rw [startsWord_trimEnd]

instance (s : List Char) : Decidable (OpensQuery s) := decidable_of_iff _ (startsReadOnly_trim_iff s)

/-! ## Blocked words -/

theorem isKeyword_of_mem_blockedKeywords : ∀ keyword ∈ blockedKeywords, IsKeyword keyword.toList := by
  decide

/-- None of the words fits a blocked keyword. -/
def HasNoBlocked (ws : List (List Char)) : Prop :=
  ∀ w ∈ ws, ∀ keyword ∈ blockedKeywords, ¬ Fits keyword.toList w

instance (ws : List (List Char)) : Decidable (HasNoBlocked ws) :=
  inferInstanceAs (Decidable (∀ w ∈ ws, ∀ keyword ∈ blockedKeywords, ¬ Fits keyword.toList w))

theorem blockedKeyword_eq_none_iff (s : List Char) : blockedKeyword? s = none ↔ HasNoBlocked (words s) := by
  unfold blockedKeyword?
  rw [List.find?_eq_none]
  constructor
  · intro h w hw keyword hk hfits
    exact h keyword hk ((occurs_word_iff (isKeyword_of_mem_blockedKeywords keyword hk) s).mpr ⟨w, hw, hfits⟩)
  · intro h keyword hk hoccurs
    obtain ⟨w, hw, hfits⟩ := (occurs_word_iff (isKeyword_of_mem_blockedKeywords keyword hk) s).mp hoccurs
    exact h w hw keyword hk hfits

/-! ## Semicolons -/

theorem afterSemicolons_append_of_not_mem {a : List Char} (h : ';' ∉ a) (b : List Char) :
    afterSemicolons (a ++ b) = afterSemicolons b := by
  induction a with
  | nil => rfl
  | cons c r ih =>
    have hc : c ≠ ';' := fun hc => h (hc ▸ List.mem_cons_self)
    rw [List.cons_append, afterSemicolons, if_neg hc]
    exact ih fun hr => h (List.mem_cons_of_mem _ hr)

theorem mem_afterSemicolons_append {a b t : List Char} :
    t ∈ afterSemicolons (a ++ b) ↔
      (∃ x y, a = x ++ ';' :: y ∧ t = trimStart (y ++ b)) ∨ t ∈ afterSemicolons b := by
  induction a with
  | nil =>
    refine ⟨.inr, ?_⟩
    rintro (⟨x, y, h, -⟩ | h)
    · exact absurd h (by simp)
    · exact h
  | cons c r ih =>
    have hsplit : (∃ x y, c :: r = x ++ ';' :: y ∧ t = trimStart (y ++ b)) ↔
        (c = ';' ∧ t = trimStart (r ++ b)) ∨ ∃ x y, r = x ++ ';' :: y ∧ t = trimStart (y ++ b) := by
      constructor
      · rintro ⟨x, y, heq, ht⟩
        cases x with
        | nil =>
          cases heq
          exact .inl ⟨rfl, ht⟩
        | cons d x =>
          cases heq
          exact .inr ⟨x, y, rfl, ht⟩
      · rintro (⟨rfl, ht⟩ | ⟨x, y, rfl, ht⟩)
        · exact ⟨[], r, rfl, ht⟩
        · exact ⟨c :: x, y, rfl, ht⟩
    rw [hsplit, List.cons_append, afterSemicolons]
    by_cases hc : c = ';'
    · rw [if_pos hc, List.mem_cons, ih]
      simp only [hc, true_and, or_assoc]
    · rw [if_neg hc, ih]
      simp only [hc, false_and, false_or]

theorem mem_afterSemicolons_iff {s t : List Char} :
    t ∈ afterSemicolons s ↔ ∃ x y, s = x ++ ';' :: y ∧ t = trimStart y := by
  have happend := @mem_afterSemicolons_append s [] t
  rw [List.append_nil] at happend
  rw [happend]
  simp only [List.append_nil, afterSemicolons, List.not_mem_nil, or_false]

theorem upper_cons (c : Char) (s : List Char) : upper (c :: s) = upperChar c ++ upper s := List.flatMap_cons

theorem upper_append (a b : List Char) : upper (a ++ b) = upper a ++ upper b := List.flatMap_append

theorem upper_eq_nil_iff (s : List Char) : upper s = [] ↔ s = [] := by
  cases s with
  | nil => exact ⟨fun _ => rfl, fun _ => rfl⟩
  | cons c r =>
    rw [upper_cons, List.append_eq_nil_iff]
    exact ⟨fun h => absurd h.1 (upperChar_ne_nil c), fun h => by cases h⟩

theorem upperChar_of_isBlank {c : Char} (h : isBlank c = true) : upperChar c = [c] :=
  upperChar_of_edge (List.mem_cons_of_mem _ ((isBlank_iff c).mp h))

theorem trimStart_upper (s : List Char) : trimStart (upper s) = upper (trimStart s) := by
  induction s with
  | nil => rfl
  | cons c r ih =>
    by_cases hc : isBlank c = true
    · have hfront : IsBlanks [c] := fun d hd => List.mem_singleton.mp hd ▸ hc
      rw [upper_cons, upperChar_of_isBlank hc, trimStart_append_blanks hfront, ih]
      exact (congrArg upper (trimStart_append_blanks hfront r)).symm
    · rw [Bool.not_eq_true] at hc
      obtain ⟨d, ds, hd⟩ := List.exists_cons_of_ne_nil (upperChar_ne_nil c)
      have hdblank : isBlank d = false := by
        rw [← Bool.not_eq_true]
        intro hblank
        have hmem : d ∈ upperChar c := hd ▸ List.mem_cons_self
        have heq := eq_of_mem_upperChar hmem (List.mem_cons_of_mem _ ((isBlank_iff d).mp hblank))
        rw [heq, hblank] at hc
        cases hc
      rw [trimStart_cons_of_not_isBlank hc, upper_cons, hd]
      exact trimStart_cons_of_not_isBlank hdblank _

theorem afterSemicolons_upper (s : List Char) :
    afterSemicolons (upper s) = (afterSemicolons s).map upper := by
  induction s with
  | nil => rfl
  | cons c r ih =>
    rw [upper_cons, afterSemicolons]
    by_cases hc : c = ';'
    · have hself : upperChar ';' = [';'] := by decide
      rw [if_pos hc, hc, hself, List.map_cons, ← ih, ← trimStart_upper]
      rfl
    · rw [if_neg hc, ← ih]
      refine afterSemicolons_append_of_not_mem ?_ _
      intro hmem
      exact hc (eq_of_mem_upperChar hmem List.mem_cons_self)

/-- No semicolon of the text has anything chained behind it. -/
def IsUnchained (s : List Char) : Prop :=
  ∀ t ∈ afterSemicolons s, ∀ kind ∈ Chaining.all, kind.appliesTo (upper t) = false

theorem chaining_eq_none_iff (s : List Char) : chaining? s = none ↔ IsUnchained s := by
  unfold chaining? IsUnchained
  simp only [afterSemicolons_upper, List.find?_eq_none, List.any_eq_true, not_exists, not_and,
    List.mem_map, forall_exists_index, and_imp, forall_apply_eq_imp_iff₂, Bool.not_eq_true]
  constructor
  · intro h t ht kind hk
    exact h kind hk t ht
  · intro h kind hk t ht
    exact h t ht kind hk

theorem IsUnchained.of_append {a b : List Char} (h : IsUnchained (a ++ b)) : IsUnchained b :=
  fun t ht => h t (mem_afterSemicolons_append.mpr (.inr ht))

theorem prefix_pair_append_iff {x y : Char} {u v : List Char} (hu : u ≠ []) (hv : v.head? ≠ some y) :
    [x, y] <+: u ++ v ↔ [x, y] <+: u := by
  obtain ⟨a, u, rfl⟩ := List.exists_cons_of_ne_nil hu
  cases u with
  | nil =>
    cases v with
    | nil => exact Iff.rfl
    | cons b v =>
      have hb : y ≠ b := fun h => hv (congrArg some h.symm)
      simp [List.cons_prefix_cons, hb]
  | cons b u => simp [List.cons_prefix_cons]

/-- What is chained behind a semicolon does not change by a text behind it that completes no mark of a comment. -/
theorem appliesTo_append_of_head {t b : List Char} (ht : t ≠ []) (hdash : (upper b).head? ≠ some '-')
    (hstar : (upper b).head? ≠ some '*') (kind : Chaining) :
    kind.appliesTo (upper (t ++ b)) = kind.appliesTo (upper t) := by
  have hne := mt (upper_eq_nil_iff t).mp ht
  obtain ⟨d, ds, hd⟩ := List.exists_cons_of_ne_nil hne
  rw [upper_append]
  cases kind with
  | nothing =>
    rw [hd]
    rfl
  | lineComment =>
    unfold Chaining.appliesTo
    rw [Bool.eq_iff_iff, List.isPrefixOf_iff_prefix, List.isPrefixOf_iff_prefix]
    exact prefix_pair_append_iff hne hdash
  | blockComment =>
    unfold Chaining.appliesTo
    rw [Bool.eq_iff_iff, List.isPrefixOf_iff_prefix, List.isPrefixOf_iff_prefix]
    exact prefix_pair_append_iff hne hstar
  | statement =>
    rw [hd]
    rfl

/-- What is chained behind a semicolon is told by what stands there up to the next blank. -/
theorem appliesTo_append_blank {t b : List Char} (ht : t ≠ []) (hb : ∀ c ∈ b.head?, isBlank c = true)
    (kind : Chaining) : kind.appliesTo (upper (t ++ b)) = kind.appliesTo (upper t) := by
  have hhead : ∀ y, isBlank y = false → (upper b).head? ≠ some y := by
    intro y hy hhead
    cases b with
    | nil => cases hhead
    | cons c r =>
      have hc := hb c rfl
      rw [upper_cons, upperChar_of_isBlank hc] at hhead
      cases hhead
      rw [hc] at hy
      cases hy
  exact appliesTo_append_of_head ht (hhead '-' (by decide)) (hhead '*' (by decide)) kind

/-- Once something stands behind a semicolon, more text behind it does not undo a chaining. -/
theorem appliesTo_append {t : List Char} (ht : t ≠ []) (b : List Char) {kind : Chaining}
    (h : kind.appliesTo (upper t) = true) : kind.appliesTo (upper (t ++ b)) = true := by
  obtain ⟨d, ds, hd⟩ := List.exists_cons_of_ne_nil (mt (upper_eq_nil_iff t).mp ht)
  rw [upper_append]
  cases kind with
  | nothing =>
    rw [hd] at h
    cases h
  | lineComment =>
    unfold Chaining.appliesTo at h ⊢
    rw [List.isPrefixOf_iff_prefix] at h ⊢
    exact h.trans (List.prefix_append _ _)
  | blockComment =>
    unfold Chaining.appliesTo at h ⊢
    rw [List.isPrefixOf_iff_prefix] at h ⊢
    exact h.trans (List.prefix_append _ _)
  | statement =>
    rw [hd] at h ⊢
    exact h

theorem isUnchained_iff (s : List Char) :
    IsUnchained s ↔ ∀ x y, s = x ++ ';' :: y →
      ∀ kind ∈ Chaining.all, kind.appliesTo (upper (trimStart y)) = false := by
  unfold IsUnchained
  constructor
  · intro h x y heq
    exact h _ (mem_afterSemicolons_iff.mpr ⟨x, y, heq, rfl⟩)
  · intro h t ht
    obtain ⟨x, y, heq, rfl⟩ := mem_afterSemicolons_iff.mp ht
    exact h x y heq

theorem not_mem_of_isBlanks {s : List Char} (h : IsBlanks s) : ';' ∉ s :=
  fun hmem => absurd (h ';' hmem) (by decide)

theorem isUnchained_append_of_not_mem {front : List Char} (h : ';' ∉ front) (s : List Char) :
    IsUnchained (front ++ s) ↔ IsUnchained s := by
  unfold IsUnchained
  rw [afterSemicolons_append_of_not_mem h]

theorem isUnchained_append_blanks {back : List Char} (h : IsBlanks back) (s : List Char) :
    IsUnchained (s ++ back) ↔ IsUnchained s := by
  have hhead : ∀ c ∈ back.head?, isBlank c = true := fun c hc => h c (List.mem_of_mem_head? hc)
  have htail : ∀ y kind, Chaining.appliesTo kind (upper (trimStart (y ++ back))) =
      kind.appliesTo (upper (trimStart y)) := by
    intro y kind
    by_cases hy : trimStart y = []
    · rw [trimStart_append_blanks ((trimStart_eq_nil_iff y).mp hy), hy, (trimStart_eq_nil_iff back).mpr h]
    · rw [trimStart_append hy, appliesTo_append_blank hy hhead]
  have hback : afterSemicolons back = [] := by
    have := afterSemicolons_append_of_not_mem (not_mem_of_isBlanks h) []
    rw [List.append_nil] at this
    exact this
  rw [isUnchained_iff s]
  unfold IsUnchained
  constructor
  · intro hall x y heq kind hk
    rw [← htail]
    exact hall _ (mem_afterSemicolons_append.mpr (.inl ⟨x, y, heq, rfl⟩)) kind hk
  · intro hall t ht kind hk
    obtain ⟨x, y, heq, rfl⟩ | ht := mem_afterSemicolons_append.mp ht
    · rw [htail]
      exact hall x y heq kind hk
    · rw [hback] at ht
      cases ht

theorem isUnchained_trim_iff (s : List Char) : IsUnchained (trim s) ↔ IsUnchained s := by
  obtain ⟨front, hfront, hs⟩ := exists_front s
  obtain ⟨back, hback, hkept⟩ := exists_back (trimStart s)
  have htrim : s = front ++ (trim s ++ back) := hs.trans (congrArg (front ++ ·) hkept)
  calc IsUnchained (trim s) ↔ IsUnchained (trim s ++ back) := (isUnchained_append_blanks hback _).symm
    _ ↔ IsUnchained (front ++ (trim s ++ back)) :=
      (isUnchained_append_of_not_mem (not_mem_of_isBlanks hfront) _).symm
    _ ↔ IsUnchained s := by rw [← htrim]

/-! ## The gate -/

structure PassesGate (s : List Char) : Prop where
  opens : OpensQuery s
  unblocked : HasNoBlocked (words s)
  unchained : IsUnchained s

theorem OpensQuery.ne_nil {s : List Char} (h : OpensQuery s) : s ≠ [] := by
  rintro rfl
  exact Bool.false_ne_true h.1

/-- The gate lets a text through when it opens a query, holds no blocked word and chains nothing. -/
theorem isReadOnly_iff (sql : String) : isReadOnly sql = true ↔ PassesGate sql.toList := by
  have hpasses : PassesGate sql.toList ↔ startsReadOnly (trim sql.toList) = true ∧
      blockedKeyword? (trim sql.toList) = none ∧ chaining? (trim sql.toList) = none := by
    rw [startsReadOnly_trim_iff, blockedKeyword_eq_none_iff, words_trim, chaining_eq_none_iff,
      isUnchained_trim_iff]
    exact ⟨fun h => ⟨h.opens, h.unblocked, h.unchained⟩, fun h => ⟨h.1, h.2.1, h.2.2⟩⟩
  unfold isReadOnly violation?
  by_cases hempty : sql.isEmpty = true
  · rw [if_pos hempty]
    have hnil : sql.toList = [] := by rw [String.isEmpty_iff.mp hempty]; rfl
    exact iff_of_false Bool.false_ne_true fun h => h.opens.ne_nil hnil
  · rw [if_neg hempty, hpasses]
    simp only
    cases hstart : startsReadOnly (trim sql.toList) with
    | false =>
      rw [if_pos (show (!false) = true from rfl)]
      exact iff_of_false Bool.false_ne_true fun h => Bool.false_ne_true h.1
    | true =>
      rw [if_neg (by decide)]
      cases hblocked : blockedKeyword? (trim sql.toList) with
      | some keyword => exact iff_of_false Bool.false_ne_true fun h => by cases h.2.1
      | none => cases chaining? (trim sql.toList) <;> simp

end TenderQuery.Sql
