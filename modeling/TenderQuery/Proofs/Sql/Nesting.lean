import TenderQuery.Proofs.Sql.Parity

/-!
# Parentheses that nest

`Nested` is the grammar of parentheses that match, and the count by depth accepts the texts whose parentheses outside
literals it derives (`parenthesesBalanced_iff_nested`).

A text without quotes that is put between two parts of a statement is blanked as a whole or kept as a whole, and the
parts are blanked alike whatever stands between them (`exists_mask`). The parts must not both have a quote at the cut:
one literal with a doubled quote would become two.
-/
set_option autoImplicit false
namespace TenderQuery.Sql

/-! ## The grammar -/

/-- No parentheses, or a pair around some that nest and others that nest behind it. -/
inductive Nested : List Char → Prop where
  | nil : Nested []
  | pair {inner rest : List Char} (hinner : Nested inner) (hrest : Nested rest) :
      Nested ('(' :: (inner ++ ')' :: rest))

/-- The parentheses outside literals. -/
def parentheses (s : List Char) : List Char := (maskLiterals s).filter isParenthesis

/-- What closes so many parentheses, with some that nest before each closing one and behind the last. -/
def Closes : Nat → List Char → Prop
  | 0, s => Nested s
  | depth + 1, s => ∃ inner rest, s = inner ++ ')' :: rest ∧ Nested inner ∧ Closes depth rest

/-- Another pair may come first. -/
theorem Closes.pair {depth : Nat} {inner rest : List Char} (hinner : Nested inner) (hrest : Closes depth rest) :
    Closes depth ('(' :: (inner ++ ')' :: rest)) := by
  cases depth with
  | zero => exact Nested.pair hinner hrest
  | succ depth =>
    obtain ⟨next, behind, rfl, hnext, hbehind⟩ := hrest
    refine ⟨'(' :: (inner ++ ')' :: next), behind, ?_, .pair hinner hnext, hbehind⟩
    simp only [List.append_assoc, List.cons_append]

theorem closes_of_closesFrom {depth : Nat} {s : List Char} (hs : ∀ c ∈ s, isParenthesis c = true)
    (h : closesFrom depth s = true) : Closes depth s := by
  induction s generalizing depth with
  | nil =>
    obtain rfl : depth = 0 := eq_of_beq h
    exact .nil
  | cons c r ih =>
    rw [List.forall_mem_cons] at hs
    obtain rfl | rfl := (isParenthesis_iff c).mp hs.1
    · obtain ⟨inner, rest, rfl, hinner, hrest⟩ : Closes (depth + 1) r := ih hs.2 h
      exact hrest.pair hinner
    · cases depth with
      | zero => cases h
      | succ depth => exact ⟨[], r, rfl, .nil, ih hs.2 h⟩

theorem Nested.closesFrom_append {s : List Char} (h : Nested s) (depth : Nat) (rest : List Char) :
    closesFrom depth (s ++ rest) = closesFrom depth rest := by
  induction h generalizing depth rest with
  | nil => rfl
  | @pair inner behind _ _ hinner hbehind =>
    have hopen : closesFrom depth ('(' :: (inner ++ ')' :: behind) ++ rest) =
        closesFrom (depth + 1) (inner ++ (')' :: (behind ++ rest))) := by
      simp only [List.cons_append, List.append_assoc]
      rfl
    rw [hopen, hinner]
    exact hbehind depth rest

theorem closesFrom_of_closes {depth : Nat} {s : List Char} (h : Closes depth s) : closesFrom depth s = true := by
  induction depth generalizing s with
  | zero =>
    have hs := h.closesFrom_append 0 []
    rw [List.append_nil] at hs
    exact hs
  | succ depth ih =>
    obtain ⟨inner, rest, rfl, hinner, hrest⟩ := h
    rw [hinner.closesFrom_append]
    exact ih hrest

theorem parenthesesBalanced_iff_nested (s : List Char) :
    parenthesesBalanced s = true ↔ Nested (parentheses s) := by
  unfold parenthesesBalanced parentheses
  rw [closesFrom_filter]
  exact ⟨closes_of_closesFrom fun _ hc => (List.mem_filter.mp hc).2, fun h => @closesFrom_of_closes 0 _ h⟩

/-- A pair with nothing in it changes no count. -/
theorem closesFrom_insert_pair (depth : Nat) (a b : List Char) :
    closesFrom depth (a ++ ('(' :: ')' :: b)) = closesFrom depth (a ++ b) := by
  induction a generalizing depth with
  | nil => rfl
  | cons c a ih =>
    rw [List.cons_append, List.cons_append, closesFrom.eq_def, closesFrom.eq_def depth (c :: (a ++ b))]
    simp only [ih]

/-! ## Text between two parts -/

/-- Not both parts have a quote at the cut. -/
def KeepsQuotes (a b : List Char) : Prop := ∀ x y, a = x ++ ['\''] → b ≠ '\'' :: y

theorem KeepsQuotes.of_append {x a b : List Char} (h : KeepsQuotes (x ++ a) b) : KeepsQuotes a b :=
  fun y z ha => h (x ++ y) z (by rw [ha, List.append_assoc])

theorem afterLiteral_cons_of_ne {c : Char} (hc : c ≠ '\'') (s : List Char) :
    afterLiteral (c :: s) = afterLiteral s := by
  rw [afterLiteral.eq_3, if_neg hc]
  intro t heq _
  exact hc heq

theorem afterLiteral_append_left {t : List Char} (ht : '\'' ∉ t) (b : List Char) :
    afterLiteral (t ++ b) = afterLiteral b := by
  induction t with
  | nil => rfl
  | cons c t ih =>
    rw [List.mem_cons, not_or] at ht
    rw [List.cons_append, afterLiteral_cons_of_ne (Ne.symm ht.1)]
    exact ih ht.2

theorem afterLiteral_quote {s : List Char} (hs : ∀ r, s ≠ '\'' :: r) : afterLiteral ('\'' :: s) = some s := by
  rw [afterLiteral.eq_3, if_pos rfl]
  intro r _ heq
  exact hs r heq

theorem afterLiteral_pair (s : List Char) :
    afterLiteral ('\'' :: '\'' :: s) = some ((afterLiteral s).getD ('\'' :: s)) := by
  rw [afterLiteral]
  cases afterLiteral s <;> rfl

theorem ne_quote_of_keepsQuotes {t b : List Char} (ht : '\'' ∉ t) (h : KeepsQuotes ['\''] b) (r : List Char) :
    t ++ b ≠ '\'' :: r := by
  cases t with
  | nil => exact h [] r rfl
  | cons c t =>
    intro heq
    cases heq
    exact ht List.mem_cons_self

/-- A literal that begins before a cut ends before it or behind it or not at all, whatever stands between the
parts. -/
theorem afterLiteral_around {a b : List Char} (h : KeepsQuotes a b) :
    (∃ body rest, a = body ++ '\'' :: rest ∧
      ∀ t, '\'' ∉ t → afterLiteral (a ++ (t ++ b)) = some (rest ++ (t ++ b))) ∨
    (∃ body rest, b = body ++ '\'' :: rest ∧ ∀ t, '\'' ∉ t → afterLiteral (a ++ (t ++ b)) = some rest) ∨
    (∀ t, '\'' ∉ t → afterLiteral (a ++ (t ++ b)) = none) := by
  induction hn : a.length using Nat.strongRecOn generalizing a with
  | ind n ih =>
    match a with
    | [] =>
      cases hafter : afterLiteral b with
      | some rest =>
        obtain ⟨body, rfl⟩ := exists_body_of_afterLiteral hafter
        exact .inr (.inl ⟨body, rest, rfl, fun t ht => (afterLiteral_append_left ht _).trans hafter⟩)
      | none => exact .inr (.inr fun t ht => (afterLiteral_append_left ht _).trans hafter)
    | c :: a =>
      by_cases hc : c = '\''
      · subst hc
        match a with
        | [] => exact .inl ⟨[], [], rfl, fun t ht => @afterLiteral_quote (t ++ b) (ne_quote_of_keepsQuotes ht h)⟩
        | d :: a =>
          by_cases hd : d = '\''
          · subst hd
            -- A doubled quote: the literal goes on if it can, and else ends at the first of the two.
            have hrest : KeepsQuotes a b := h.of_append (x := ['\'', '\''])
            have hpair : ∀ t, afterLiteral ('\'' :: '\'' :: a ++ (t ++ b)) =
                some ((afterLiteral (a ++ (t ++ b))).getD ('\'' :: (a ++ (t ++ b)))) := fun t => afterLiteral_pair _
            obtain ⟨body, rest, rfl, hall⟩ | ⟨body, rest, rfl, hall⟩ | hall :=
              ih a.length (by rw [← hn]; exact Nat.lt_add_of_pos_right Nat.two_pos) hrest rfl
            · refine .inl ⟨'\'' :: '\'' :: body, rest, rfl, fun t ht => ?_⟩
              rw [hpair, hall t ht, Option.getD_some]
            · refine .inr (.inl ⟨body, rest, rfl, fun t ht => ?_⟩)
              rw [hpair, hall t ht, Option.getD_some]
            · refine .inl ⟨[], '\'' :: a, rfl, fun t ht => ?_⟩
              rw [hpair, hall t ht, Option.getD_none]
              rfl
          · refine .inl ⟨[], d :: a, rfl, fun t _ => afterLiteral_quote fun r heq => ?_⟩
            cases heq
            exact hd rfl
      · have hcons : ∀ t, afterLiteral (c :: a ++ (t ++ b)) = afterLiteral (a ++ (t ++ b)) :=
          fun t => afterLiteral_cons_of_ne hc _
        have hrest : KeepsQuotes a b := h.of_append (x := [c])
        simp only [hcons]
        obtain ⟨body, rest, rfl, hall⟩ | hall := ih a.length (by rw [← hn]; simp) hrest rfl
        · exact .inl ⟨c :: body, rest, rfl, hall⟩
        · exact .inr hall

theorem maskLiterals_cons_of_none {s : List Char} (h : afterLiteral s = none) :
    maskLiterals ('\'' :: s) = '\'' :: maskLiterals s := by
  unfold maskLiterals
  rw [maskFrom, if_pos rfl, h]

theorem maskLiterals_append_left {t : List Char} (ht : '\'' ∉ t) (b : List Char) :
    maskLiterals (t ++ b) = t ++ maskLiterals b := by
  induction t with
  | nil => rfl
  | cons c t ih =>
    rw [List.mem_cons, not_or] at ht
    rw [List.cons_append, maskLiterals_cons_of_ne (Ne.symm ht.1), ih ht.2, List.cons_append]

/-- Text between two parts is blanked or kept, and how the parts are blanked does not depend on it. -/
theorem exists_mask {a b : List Char} (h : KeepsQuotes a b) :
    ∃ front back inside, ∀ t, '\'' ∉ t → maskLiterals (a ++ (t ++ b)) =
      front ++ ((if inside = true then List.replicate t.length ' ' else t) ++ back) := by
  induction hn : a.length using Nat.strongRecOn generalizing a with
  | ind n ih =>
    match a with
    | [] => exact ⟨[], maskLiterals b, false, fun t ht => maskLiterals_append_left ht b⟩
    | c :: a =>
      have hrest : KeepsQuotes a b := h.of_append (x := [c])
      by_cases hc : c = '\''
      · subst hc
        obtain ⟨body, rest, rfl, hall⟩ | ⟨body, rest, rfl, hall⟩ | hall := afterLiteral_around hrest
        · rw [List.append_cons] at hrest
          have hbehind : KeepsQuotes rest b := hrest.of_append
          obtain ⟨front, back, inside, hmask⟩ := ih rest.length (by rw [← hn]; simp; omega) hbehind rfl
          refine ⟨List.replicate (body.length + 2) ' ' ++ front, back, inside, fun t ht => ?_⟩
          have hafter := hall t ht
          simp only [List.append_assoc, List.cons_append] at hafter ⊢
          rw [maskLiterals_literal hafter, hmask t ht]
        · refine ⟨List.replicate (a.length + 1) ' ', List.replicate (body.length + 1) ' ' ++ maskLiterals rest, true,
            fun t ht => ?_⟩
          have hafter := hall t ht
          rw [← List.append_assoc t, ← List.append_assoc a] at hafter
          have hmask := maskLiterals_literal hafter
          have hspaces : List.replicate ((a ++ (t ++ body)).length + 2) ' ' = List.replicate (a.length + 1) ' ' ++
              (List.replicate t.length ' ' ++ List.replicate (body.length + 1) ' ') := by
            rw [List.replicate_append_replicate, List.replicate_append_replicate]
            congr 1
            simp only [List.length_append]
            omega
          rw [hspaces] at hmask
          rw [if_pos rfl]
          simpa only [List.append_assoc, List.cons_append] using hmask
        · obtain ⟨front, back, inside, hmask⟩ := ih a.length (by rw [← hn]; simp) hrest rfl
          refine ⟨'\'' :: front, back, inside, fun t ht => ?_⟩
          rw [List.cons_append, maskLiterals_cons_of_none (hall t ht), hmask t ht, List.cons_append]
      · obtain ⟨front, back, inside, hmask⟩ := ih a.length (by rw [← hn]; simp) hrest rfl
        refine ⟨c :: front, back, inside, fun t ht => ?_⟩
        rw [List.cons_append, maskLiterals_cons_of_ne hc, hmask t ht, List.cons_append]

/-- A pair of parentheses may be put in the place of text without any. -/
theorem parenthesesBalanced_insert {a gap inserted b : List Char} (h : KeepsQuotes a b) (hgap : '\'' ∉ gap)
    (hinserted : '\'' ∉ inserted) (hnone : gap.filter isParenthesis = [])
    (hpair : inserted.filter isParenthesis = ['(', ')']) :
    parenthesesBalanced (a ++ (inserted ++ b)) = parenthesesBalanced (a ++ (gap ++ b)) := by
  obtain ⟨front, back, inside, hmask⟩ := exists_mask h
  have hspaces : ∀ n, (List.replicate n ' ').filter isParenthesis = [] := fun n => by
    rw [List.filter_replicate_of_neg (by decide)]
  unfold parenthesesBalanced
  rw [hmask inserted hinserted, hmask gap hgap, closesFrom_filter, closesFrom_filter 0 (front ++ (_ ++ back))]
  simp only [List.filter_append]
  cases inside with
  | true => simp only [if_true, hspaces]
  | false =>
    rw [if_neg Bool.false_ne_true, if_neg Bool.false_ne_true, hpair, hnone, List.nil_append]
    exact closesFrom_insert_pair 0 _ _

end TenderQuery.Sql
