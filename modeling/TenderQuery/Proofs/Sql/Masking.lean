import TenderQuery.Proofs.Text.Words
import TenderQuery.Sql.Literal

/-!
# Masked literals

`Masked s m` says how a masked text comes about: a character is kept, or a whole literal is blanked. A place
of the masked text in front of a character that is no space is a place of the text itself
(`Masked.exists_split`), and the words of the masked text are words of the text. What stands behind the last
quote is masked nowhere (`maskFrom_append_of_not_mem`).
-/
set_option autoImplicit false
namespace TenderQuery.Sql
open TenderQuery.Text

/-- The second text is the first one with literals blanked. -/
inductive Masked : List Char → List Char → Prop where
  | nil : Masked [] []
  | keep (c : Char) {s m : List Char} (rest : Masked s m) : Masked (c :: s) (c :: m)
  | literal (body : List Char) {s m : List Char} (rest : Masked s m) :
      Masked ('\'' :: body ++ '\'' :: s) (List.replicate (body.length + 2) ' ' ++ m)

/-! ## The mask -/

theorem exists_body_of_afterLiteral {s rest : List Char} (h : afterLiteral s = some rest) :
    ∃ body, s = body ++ '\'' :: rest := by
  fun_induction afterLiteral s with
  | case1 => cases h
  | case2 r t ht ih =>
    cases h
    obtain ⟨body, rfl⟩ := ih ht
    exact ⟨'\'' :: '\'' :: body, rfl⟩
  | case3 r ht ih =>
    cases h
    exact ⟨[], rfl⟩
  | case4 r hr =>
    cases h
    exact ⟨[], rfl⟩
  | case5 c r hr hc ih =>
    obtain ⟨body, rfl⟩ := ih h
    exact ⟨c :: body, rfl⟩

theorem maskFrom_append (blanked s : List Char) :
    maskFrom blanked.length (blanked ++ s) = List.replicate blanked.length ' ' ++ maskFrom 0 s := by
  induction blanked with
  | nil => rfl
  | cons c r ih =>
    rw [List.length_cons, List.cons_append, maskFrom, ih, List.replicate_succ]
    rfl

theorem masked_maskLiterals (s : List Char) : Masked s (maskLiterals s) := by
  induction hn : s.length using Nat.strongRecOn generalizing s with
  | ind n ih =>
    cases s with
    | nil => exact .nil
    | cons c r =>
      have hkeep : Masked (c :: r) (c :: maskFrom 0 r) :=
        .keep c (ih r.length (by rw [← hn]; exact Nat.lt_succ_self _) r rfl)
      unfold maskLiterals
      rw [maskFrom]
      by_cases hc : c = '\''
      · rw [if_pos hc]
        cases hafter : afterLiteral r with
        | none => exact hkeep
        | some rest =>
          obtain ⟨body, rfl⟩ := exists_body_of_afterLiteral hafter
          have hlen : (body ++ '\'' :: rest).length - rest.length = (body ++ ['\'']).length := by
            simp only [List.length_append, List.length_cons, List.length_nil]
            omega
          have hblank := maskFrom_append (body ++ ['\'']) rest
          rw [List.append_assoc, List.singleton_append] at hblank
          simp only
          rw [hlen, hblank, hc]
          have hrest := ih rest.length (by rw [← hn]; simp; omega) rest rfl
          have hmasked := Masked.literal body hrest
          simpa [List.replicate_succ, maskLiterals] using hmasked
      · rw [if_neg hc]
        exact hkeep

namespace Masked
variable {s m : List Char}

theorem length_eq (h : Masked s m) : s.length = m.length := by
  induction h with
  | nil => rfl
  | keep c _ ih => rw [List.length_cons, List.length_cons, ih]
  | literal body _ ih => simp [ih]; omega

theorem startsWord_eq (h : Masked s m) : startsWord s = startsWord m := by
  cases h with
  | nil => rfl
  | keep c _ => rfl
  | literal body _ =>
    rw [List.replicate_succ]
    exact (show isWord '\'' = isWord ' ' by decide)

/-- A place in front of a character that is no space lies in no literal. -/
theorem exists_split {a b : List Char} (h : Masked s (a ++ b)) (hb : ∀ c ∈ b.head?, c ≠ ' ') :
    ∃ x y, s = x ++ y ∧ Masked x a ∧ Masked y b := by
  generalize hm : a ++ b = m at h
  induction h generalizing a with
  | nil =>
    obtain ⟨rfl, rfl⟩ := List.append_eq_nil_iff.mp hm
    exact ⟨[], [], rfl, .nil, .nil⟩
  | @keep c s m rest ih =>
    cases a with
    | nil =>
      rw [List.nil_append] at hm
      exact ⟨[], c :: s, rfl, .nil, hm ▸ .keep c rest⟩
    | cons d a =>
      cases hm
      obtain ⟨x, y, rfl, hx, hy⟩ := ih rfl
      exact ⟨c :: x, y, rfl, .keep c hx, hy⟩
  | @literal body s m rest ih =>
    -- The place lies behind the whole literal: up to its end all is spaces.
    obtain ⟨a', rfl, rfl⟩ : ∃ a', a = List.replicate (body.length + 2) ' ' ++ a' ∧ m = a' ++ b := by
      obtain ⟨c', hspaces, rfl⟩ | ⟨c', rfl, rfl⟩ := List.append_eq_append_iff.mp hm
      · cases c' with
        | nil => exact ⟨[], by rw [hspaces, List.append_nil, List.append_nil], rfl⟩
        | cons d c' =>
          have hd : d ∈ List.replicate (body.length + 2) ' ' := by
            rw [hspaces]
            exact List.mem_append_right _ List.mem_cons_self
          exact absurd (List.eq_of_mem_replicate hd) (hb d rfl)
      · exact ⟨c', rfl, rfl⟩
    obtain ⟨x, y, rfl, hx, hy⟩ := ih rfl
    exact ⟨'\'' :: body ++ '\'' :: x, y, by simp, .literal body hx, hy⟩

theorem endsWord_eq (h : Masked s m) : endsWord s = endsWord m := by
  induction h with
  | nil => rfl
  | @keep c s m rest ih =>
    cases rest with
    | nil => rfl
    | keep d rest => exact ih
    | literal body rest => exact ih
  | @literal body s m rest ih =>
    have hquote : '\'' :: body ++ '\'' :: s = ('\'' :: body ++ ['\'']) ++ s := by simp
    cases hs : s with
    | nil =>
      subst hs
      cases rest
      rw [hquote, List.append_nil, endsWord_concat, List.append_nil, List.replicate_succ', endsWord_concat]
      decide
    | cons d t =>
      have hne : s ≠ [] := hs ▸ List.cons_ne_nil d t
      have hne' : m ≠ [] := by
        intro hnil
        have hlen := rest.length_eq
        rw [hs, hnil] at hlen
        cases hlen
      rw [← hs, hquote, endsWord_append hne, endsWord_append hne']
      exact ih

theorem exists_keep {c : Char} (h : Masked s (c :: m)) (hc : c ≠ ' ') : ∃ r, s = c :: r ∧ Masked r m := by
  generalize hm : c :: m = full at h
  cases h with
  | nil => cases hm
  | keep d rest =>
    cases hm
    exact ⟨_, rfl, rest⟩
  | literal body rest =>
    rw [List.replicate_succ] at hm
    cases hm
    exact absurd rfl hc

theorem exists_keep_append {w : List Char} (h : Masked s (w ++ m)) (hw : ∀ c ∈ w, c ≠ ' ') :
    ∃ r, s = w ++ r ∧ Masked r m := by
  induction w generalizing s with
  | nil => exact ⟨s, rfl, h⟩
  | cons c w ih =>
    obtain ⟨r, rfl, hr⟩ := exists_keep h (hw c List.mem_cons_self)
    obtain ⟨t, rfl, ht⟩ := ih hr fun d hd => hw d (List.mem_cons_of_mem _ hd)
    exact ⟨t, rfl, ht⟩

/-- A word that stands alone in the masked text stands alone in the text. -/
theorem exists_word {a w b : List Char} (h : Masked s (a ++ w ++ b)) (hat : IsWordAt a w b) :
    ∃ x y, s = x ++ w ++ y ∧ IsWordAt x w y ∧ Masked x a ∧ Masked y b := by
  have hspace : ∀ c ∈ w, c ≠ ' ' := by
    rintro c hc rfl
    exact absurd (hat.all ' ' hc) (by decide)
  have hhead : ∀ c ∈ (w ++ b).head?, c ≠ ' ' := by
    intro c hc
    obtain ⟨d, r, heq⟩ := List.exists_cons_of_ne_nil hat.ne_nil
    rw [heq, List.cons_append, List.head?_cons, Option.mem_some_iff] at hc
    exact hspace c (heq ▸ hc ▸ List.mem_cons_self)
  rw [List.append_assoc] at h
  obtain ⟨x, t, rfl, hx, ht⟩ := h.exists_split hhead
  obtain ⟨y, rfl, hy⟩ := ht.exists_keep_append hspace
  refine ⟨x, y, (List.append_assoc _ _ _).symm, ⟨hat.ne_nil, hat.all, ?_, ?_⟩, hx, hy⟩
  · rw [hx.endsWord_eq]
    exact hat.before
  · rw [hy.startsWord_eq]
    exact hat.after

theorem words_subset (h : Masked s m) : words m ⊆ words s := by
  intro w hw
  obtain ⟨a, b, rfl, hat⟩ := mem_words_iff.mp hw
  obtain ⟨x, y, rfl, hxy, -⟩ := h.exists_word hat
  exact mem_words_iff.mpr ⟨x, y, rfl, hxy⟩

end Masked

/-! ## Text behind the last quote -/

theorem afterLiteral_of_not_mem {s : List Char} (h : '\'' ∉ s) : afterLiteral s = none := by
  rw [Option.eq_none_iff_forall_ne_some]
  intro rest hrest
  obtain ⟨body, rfl⟩ := exists_body_of_afterLiteral hrest
  exact h (List.mem_append_right _ List.mem_cons_self)

theorem maskFrom_of_not_mem {s : List Char} (h : '\'' ∉ s) : maskFrom 0 s = s := by
  induction s with
  | nil => rfl
  | cons c r ih =>
    rw [List.mem_cons, not_or] at h
    rw [maskFrom, if_neg (Ne.symm h.1), ih h.2]

theorem afterLiteral_append {b : List Char} (hb : '\'' ∉ b) (a : List Char) :
    afterLiteral (a ++ b) = (afterLiteral a).map (· ++ b) := by
  fun_induction afterLiteral a with
  | case1 => exact afterLiteral_of_not_mem hb
  | case2 r rest hrest ih =>
    rw [List.cons_append, List.cons_append, afterLiteral, ih, hrest]
    rfl
  | case3 r hnone ih =>
    rw [List.cons_append, List.cons_append, afterLiteral, ih, hnone]
    rfl
  | case4 r hr =>
    rw [List.cons_append, afterLiteral.eq_3, if_pos rfl]
    · rfl
    · intro t _ ht
      cases r with
      | nil =>
        rw [List.nil_append] at ht
        exact hb (ht ▸ List.mem_cons_self)
      | cons d u =>
        rw [List.cons_append, List.cons.injEq] at ht
        exact hr u rfl (by rw [ht.1])
  | case5 c r hr hc ih =>
    rw [List.cons_append, afterLiteral.eq_3, if_neg hc]
    · exact ih
    · intro t heq _
      exact hc heq

theorem length_le_of_afterLiteral {s rest : List Char} (h : afterLiteral s = some rest) :
    rest.length ≤ s.length := by
  obtain ⟨body, rfl⟩ := exists_body_of_afterLiteral h
  rw [List.length_append, List.length_cons]
  omega

theorem maskFrom_append_of_not_mem {b : List Char} (hb : '\'' ∉ b) {masked : Nat} {a : List Char}
    (h : masked ≤ a.length) : maskFrom masked (a ++ b) = maskFrom masked a ++ b := by
  induction a generalizing masked with
  | nil =>
    rw [Nat.le_zero.mp h]
    exact maskFrom_of_not_mem hb
  | cons c r ih =>
    cases masked with
    | succ n => rw [List.cons_append, maskFrom, ih (Nat.le_of_succ_le_succ h), maskFrom, List.cons_append]
    | zero =>
      rw [List.cons_append, maskFrom, maskFrom, ih (Nat.zero_le _), afterLiteral_append hb]
      split
      · cases hafter : afterLiteral r with
        | none => rfl
        | some rest =>
          have hlength := length_le_of_afterLiteral hafter
          have hcount : (r ++ b).length - (rest ++ b).length = r.length - rest.length := by
            rw [List.length_append, List.length_append]
            omega
          simp only [Option.map_some]
          rw [hcount, ih (Nat.sub_le _ _), List.cons_append]
      · rfl

def isParenthesis (c : Char) : Bool := c == '(' || c == ')'

theorem isParenthesis_iff (c : Char) : isParenthesis c = true ↔ c = '(' ∨ c = ')' := by
  unfold isParenthesis
  rw [Bool.or_eq_true, beq_iff_eq, beq_iff_eq]

/-- Text of a kind that no parenthesis is has none. -/
theorem filter_isParenthesis_eq_nil {p : Char → Bool} (hp : p '(' = false ∧ p ')' = false) {s : List Char}
    (h : ∀ c ∈ s, p c = true) : s.filter isParenthesis = [] := by
  rw [List.filter_eq_nil_iff]
  intro c hc hparen
  have hkind := h c hc
  obtain rfl | rfl := (isParenthesis_iff c).mp hparen
  · exact Bool.false_ne_true (hp.1.symm.trans hkind)
  · exact Bool.false_ne_true (hp.2.symm.trans hkind)

theorem closesFrom_filter (depth : Nat) (s : List Char) :
    closesFrom depth s = closesFrom depth (s.filter isParenthesis) := by
  induction s generalizing depth with
  | nil => rfl
  | cons c r ih =>
    by_cases hopen : c = '('
    · subst hopen
      rw [List.filter_cons_of_pos (by decide)]
      exact ih (depth + 1)
    by_cases hclose : c = ')'
    · subst hclose
      rw [List.filter_cons_of_pos (by decide)]
      cases depth with
      | zero => rfl
      | succ d => exact ih d
    · rw [List.filter_cons_of_neg (by simp [isParenthesis, hopen, hclose])]
      rw [← ih depth, closesFrom.eq_def]
      simp only [hopen, hclose, if_false]

theorem parenthesesBalanced_append {a b : List Char} (hb : '\'' ∉ b) :
    parenthesesBalanced (a ++ b) =
      closesFrom 0 ((maskLiterals a).filter isParenthesis ++ b.filter isParenthesis) := by
  unfold parenthesesBalanced maskLiterals
  rw [maskFrom_append_of_not_mem hb (Nat.zero_le _), closesFrom_filter, List.filter_append]

end TenderQuery.Sql
