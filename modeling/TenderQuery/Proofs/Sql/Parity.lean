import TenderQuery.Proofs.Sql.Masking

/-!
# Literals told by counting quotes

`maskByParity` blanks the quotes of a text and whatever stands behind an odd number of them, in one pass and without
looking ahead. In a text with an even number of quotes this blanks exactly its literals
(`maskLiterals_eq_maskByParity`): a doubled quote leaves its literal and enters it again at once, and a literal never
has to end at the first quote of a pair, because an odd number of quotes is left when it begins.
-/
set_option autoImplicit false
namespace TenderQuery.Sql

/-- Blanks quotes and the characters that an odd number of quotes stands before; `quotes` came earlier. -/
def maskByParity : Nat → List Char → List Char
  | _, [] => []
  | quotes, c :: r =>
    if c = '\'' then ' ' :: maskByParity (quotes + 1) r
    else (if quotes % 2 = 1 then ' ' else c) :: maskByParity quotes r

variable {quotes : Nat}

theorem maskByParity_quote (quotes : Nat) (s : List Char) :
    maskByParity quotes ('\'' :: s) = ' ' :: maskByParity (quotes + 1) s := by
  rw [maskByParity, if_pos rfl]

theorem maskByParity_cons_of_ne {c : Char} (hc : c ≠ '\'') (quotes : Nat) (s : List Char) :
    maskByParity quotes (c :: s) = (if quotes % 2 = 1 then ' ' else c) :: maskByParity quotes s := by
  rw [maskByParity, if_neg hc]

theorem length_maskByParity (quotes : Nat) (s : List Char) : (maskByParity quotes s).length = s.length := by
  induction s generalizing quotes with
  | nil => rfl
  | cons c s ih =>
    rw [maskByParity]
    split
    · rw [List.length_cons, List.length_cons, ih]
    · rw [List.length_cons, List.length_cons, ih]

theorem maskByParity_append (quotes : Nat) (a b : List Char) :
    maskByParity quotes (a ++ b) = maskByParity quotes a ++ maskByParity (quotes + a.count '\'') b := by
  induction a generalizing quotes with
  | nil => rfl
  | cons c a ih =>
    by_cases hc : c = '\''
    · subst hc
      rw [List.cons_append, maskByParity_quote, maskByParity_quote, ih, List.count_cons_self, List.cons_append]
      congr 3
      omega
    · rw [List.cons_append, maskByParity_cons_of_ne hc, maskByParity_cons_of_ne hc, ih, List.count_cons_of_ne hc,
        List.cons_append]

/-- What is blanked behind a place depends on the text before it by its quotes only. -/
theorem drop_maskByParity (quotes : Nat) (s : List Char) (p : Nat) :
    (maskByParity quotes s).drop p = maskByParity (quotes + (s.take p).count '\'') (s.drop p) := by
  by_cases hp : p ≤ s.length
  · have hcut := maskByParity_append quotes (s.take p) (s.drop p)
    rw [List.take_append_drop] at hcut
    rw [hcut]
    refine List.drop_left' ?_
    rw [length_maskByParity, List.length_take_of_le hp]
  · rw [List.drop_eq_nil_of_le (by rw [length_maskByParity]; omega), List.drop_eq_nil_of_le (by omega)]
    rfl

/-- Only the parity of the quotes before matters. -/
theorem maskByParity_add_two (quotes : Nat) (s : List Char) : maskByParity (quotes + 2) s = maskByParity quotes s := by
  induction s generalizing quotes with
  | nil => rfl
  | cons c s ih =>
    by_cases hc : c = '\''
    · subst hc
      rw [maskByParity_quote, maskByParity_quote, Nat.add_right_comm, ih]
    · rw [maskByParity_cons_of_ne hc, maskByParity_cons_of_ne hc, ih, Nat.add_mod_right]

theorem maskByParity_of_even (h : quotes % 2 = 0) (s : List Char) : maskByParity quotes s = maskByParity 0 s := by
  induction quotes using Nat.strongRecOn with
  | ind n ih =>
    match n with
    | 0 => rfl
    | 1 => cases h
    | n + 2 =>
      rw [maskByParity_add_two]
      exact ih n (by omega) (by omega)

/-! ## One literal -/

/-- Where an odd number of quotes is left, the literal that has begun ends, all of it is blanked, and an even number
of quotes is left behind it. -/
theorem exists_literal_of_odd {s : List Char} (h : s.count '\'' % 2 = 1) :
    ∃ body rest, s = body ++ '\'' :: rest ∧ afterLiteral s = some rest ∧ rest.count '\'' % 2 = 0 ∧
      maskByParity 1 s = List.replicate (body.length + 1) ' ' ++ maskByParity 0 rest := by
  fun_induction afterLiteral s with
  | case1 => cases h
  | case2 r rest hrest ih =>
    rw [List.count_cons_self, List.count_cons_self] at h
    obtain ⟨body, rest', rfl, heq, heven, hmask⟩ := ih (by omega)
    refine ⟨'\'' :: '\'' :: body, rest', rfl, hrest.symm.trans heq, heven, ?_⟩
    rw [maskByParity_quote, maskByParity_quote, maskByParity_add_two, hmask]
    rfl
  | case3 r hnone ih =>
    -- The pair leaves an odd number of quotes, so the literal ends behind it.
    rw [List.count_cons_self, List.count_cons_self] at h
    obtain ⟨_, _, _, heq, _⟩ := ih (by omega)
    rw [hnone] at heq
    cases heq
  | case4 r hr =>
    rw [List.count_cons_self] at h
    refine ⟨[], r, rfl, rfl, by omega, ?_⟩
    rw [maskByParity_quote, maskByParity_of_even rfl]
    rfl
  | case5 c r hr hc ih =>
    rw [List.count_cons_of_ne hc] at h
    obtain ⟨body, rest, rfl, heq, heven, hmask⟩ := ih h
    refine ⟨c :: body, rest, rfl, heq, heven, ?_⟩
    rw [maskByParity_cons_of_ne hc, hmask, if_pos (by decide)]
    rfl

/-! ## Whole texts -/

theorem maskLiterals_cons_of_ne {c : Char} (hc : c ≠ '\'') (s : List Char) :
    maskLiterals (c :: s) = c :: maskLiterals s := by
  unfold maskLiterals
  rw [maskFrom, if_neg hc]

/-- A literal is blanked as a whole, with the quotes at its ends. -/
theorem maskLiterals_literal {body rest : List Char} (h : afterLiteral (body ++ '\'' :: rest) = some rest) :
    maskLiterals ('\'' :: (body ++ '\'' :: rest)) = List.replicate (body.length + 2) ' ' ++ maskLiterals rest := by
  have hlength : (body ++ '\'' :: rest).length - rest.length = (body ++ ['\'']).length := by
    simp only [List.length_append, List.length_cons, List.length_nil]
    omega
  have hblank := maskFrom_append (body ++ ['\'']) rest
  rw [List.append_assoc, List.singleton_append, List.length_append] at hblank
  unfold maskLiterals
  rw [maskFrom, if_pos rfl, h]
  dsimp only
  rw [hlength, List.length_append, hblank]
  rfl

theorem maskLiterals_eq_maskByParity {s : List Char} (h : s.count '\'' % 2 = 0) :
    maskLiterals s = maskByParity 0 s := by
  -- Literal by literal: what is left behind one has an even number of quotes again.
  induction hn : s.length using Nat.strongRecOn generalizing s with
  | ind n ih =>
    cases s with
    | nil => rfl
    | cons c r =>
      by_cases hc : c = '\''
      · subst hc
        rw [List.count_cons_self] at h
        obtain ⟨body, rest, rfl, hafter, heven, hmask⟩ := exists_literal_of_odd (s := r) (by omega)
        have hrest := ih rest.length (by rw [← hn]; simp; omega) heven rfl
        rw [maskLiterals_literal hafter, maskByParity_quote, hmask, hrest]
        rfl
      · rw [List.count_cons_of_ne hc] at h
        have hrest := ih r.length (by rw [← hn]; exact Nat.lt_succ_self _) h rfl
        rw [maskLiterals_cons_of_ne hc, maskByParity_cons_of_ne hc, hrest, if_neg (by decide)]

end TenderQuery.Sql
