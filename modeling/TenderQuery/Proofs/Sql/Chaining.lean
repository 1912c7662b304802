import TenderQuery.Proofs.Sql.Lexis
import TenderQuery.Proofs.Sql.Verdict

/-!
# What can be chained to a statement

The read-only gate judges a semicolon by the first characters behind it, and it lists four ways for them to chain
something. `isReadOnly_and_not_isSingle_iff` says what it misses: a text with a semicolon outside its literals is
let through exactly if the text before the first such semicolon is let through, and the text behind it holds no
blocked keyword and chains nothing in one of the four ways. It can be a statement of its own all the same.
-/
set_option autoImplicit false
namespace TenderQuery.Sql
open TenderQuery.Text

/-- Every semicolon stands in a string literal. -/
def IsSingle (s : List Char) : Prop := ∀ before after, s = before ++ ';' :: after → ¬ IsTerminated before

/-! ## The first semicolon -/

/-- A text that is not single is cut by its first semicolon outside literals. -/
theorem exists_first_semicolon {s : List Char} (h : ¬ IsSingle s) :
    ∃ front rest, s = front ++ ';' :: rest ∧ IsTerminated front ∧ IsSingle front := by
  induction hn : s.length using Nat.strongRecOn generalizing s with
  | ind n ih =>
    unfold IsSingle at h
    push Not at h
    obtain ⟨before, after, rfl, hterminated⟩ := h
    by_cases hsingle : IsSingle before
    · exact ⟨before, after, rfl, hterminated, hsingle⟩
    · have hlt : before.length < n := by
        rw [← hn, List.length_append, List.length_cons]
        omega
      obtain ⟨front, rest, rfl, hfront⟩ := ih before.length hlt hsingle rfl
      exact ⟨front, rest ++ ';' :: after, by rw [List.append_assoc, List.cons_append], hfront⟩

theorem Lexer.region_foldl_literal {l : Lexer} {t : List Char} (h : l.region = .literal) (ht : '\'' ∉ t) :
    (t.foldl step l).region = .literal := by
  induction t generalizing l with
  | nil => exact h
  | cons c t ih =>
    rw [List.mem_cons, not_or] at ht
    refine ih ?_ ht.2
    unfold step
    rw [h]
    dsimp only
    rw [if_neg (Ne.symm ht.1)]

/-- A literal that holds a semicolon is not ended by blanks. -/
theorem IsSingle.not_isBlanks {s : List Char} (hsingle : IsSingle s) (hterminated : IsTerminated s)
    (x y : List Char) (heq : s = x ++ ';' :: y) : ¬ IsBlanks y := by
  intro hblanks
  have hliteral : (lex x).region = .literal := not_not.mp (hsingle x y heq)
  refine hterminated ?_
  rw [heq, lex_append]
  refine Lexer.region_foldl_literal hliteral fun hmem => ?_
  obtain hquote | hmem := List.mem_cons.mp hmem
  · exact absurd hquote (by decide)
  · exact absurd (hblanks _ hmem) (by decide)

/-! ## The gate on both parts -/

section
variable {front rest : List Char}

theorem startsWord_semicolon (rest : List Char) : startsWord (';' :: rest) = false :=
  (by decide : isWord ';' = false)

theorem words_chained (front rest : List Char) : words (front ++ ';' :: rest) = words front ++ words rest := by
  rw [words_append fun _ => startsWord_semicolon rest, words_cons_of_not_isWord (by decide)]

theorem opensQuery_chained_iff : OpensQuery (front ++ ';' :: rest) ↔ OpensQuery front := by
  by_cases hne : words front = []
  · refine iff_of_false (fun h => ?_) fun h => h.words_ne_nil hne
    -- A front without a word is blank, or something else stands where the word is to begin.
    have hstart := h.1
    by_cases hblank : trimStart front = []
    · rw [trimStart_append_blanks ((trimStart_eq_nil_iff front).mp hblank),
        trimStart_cons_of_not_isBlank (by decide), startsWord_semicolon] at hstart
      exact Bool.false_ne_true hstart
    · rw [trimStart_append hblank, startsWord_append hblank] at hstart
      exact words_ne_nil_of_startsWord hstart ((words_trimStart front).trans hne)
  · exact opensQuery_append_iff hne (words_chained front rest)

theorem hasNoBlocked_chained_iff :
    HasNoBlocked (words (front ++ ';' :: rest)) ↔ HasNoBlocked (words front) ∧ HasNoBlocked (words rest) := by
  unfold HasNoBlocked
  rw [words_chained, List.forall_mem_append]

/-- Chaining is judged on each side of a semicolon alone, if the front does not end in blanks behind a semicolon. -/
theorem isUnchained_chained_iff (hfront : ∀ x y, front = x ++ ';' :: y → ¬ IsBlanks y) :
    IsUnchained (front ++ ';' :: rest) ↔ IsUnchained front ∧ IsUnchained (';' :: rest) := by
  have hsame : ∀ x y, front = x ++ ';' :: y → ∀ kind : Chaining,
      kind.appliesTo (upper (trimStart (y ++ ';' :: rest))) = kind.appliesTo (upper (trimStart y)) := by
    intro x y heq kind
    have hne := mt (trimStart_eq_nil_iff y).mp (hfront x y heq)
    have hself : upperChar ';' = [';'] := by decide
    have hhead : (upper (';' :: rest)).head? = some ';' := by
      rw [upper_cons, hself]
      rfl
    rw [trimStart_append hne]
    exact appliesTo_append_of_head hne (by simp [hhead]) (by simp [hhead]) kind
  constructor
  · intro h
    refine ⟨(isUnchained_iff front).mpr fun x y heq kind hk => ?_, h.of_append⟩
    rw [← hsame x y heq]
    refine (isUnchained_iff _).mp h x (y ++ ';' :: rest) ?_ kind hk
    rw [heq, List.append_assoc, List.cons_append]
  · rintro ⟨hfirst, hsecond⟩ t ht kind hk
    obtain ⟨x, y, heq, rfl⟩ | ht := mem_afterSemicolons_append.mp ht
    · rw [hsame x y heq]
      exact (isUnchained_iff front).mp hfirst x y heq kind hk
    · exact hsecond t ht kind hk

theorem passesGate_chained_iff (hfront : ∀ x y, front = x ++ ';' :: y → ¬ IsBlanks y) :
    PassesGate (front ++ ';' :: rest) ↔
      PassesGate front ∧ HasNoBlocked (words rest) ∧ IsUnchained (';' :: rest) := by
  constructor
  · rintro ⟨hopens, hblocked, hchained⟩
    obtain ⟨hblocked, hrest⟩ := hasNoBlocked_chained_iff.mp hblocked
    obtain ⟨hchained, hbehind⟩ := (isUnchained_chained_iff hfront).mp hchained
    exact ⟨⟨opensQuery_chained_iff.mp hopens, hblocked, hchained⟩, hrest, hbehind⟩
  · rintro ⟨⟨hopens, hblocked, hchained⟩, hrest, hbehind⟩
    exact ⟨opensQuery_chained_iff.mpr hopens, hasNoBlocked_chained_iff.mpr ⟨hblocked, hrest⟩,
      (isUnchained_chained_iff hfront).mpr ⟨hchained, hbehind⟩⟩

end

/-! ## Chained texts -/

theorem holdsNoBlocked_iff (s : List Char) : HoldsNoBlocked s ↔ HasNoBlocked (words s) := by
  rw [← blockedKeyword?_eq_none_iff, blockedKeyword_eq_none_iff]

/-- The texts with a semicolon outside literals that the gate lets through: the front is let through and single,
and what is behind the semicolon holds no blocked keyword and chains nothing in one of the four ways. -/
theorem isReadOnly_and_not_isSingle_iff (sql : String) :
    isReadOnly sql = true ∧ ¬ IsSingle sql.toList ↔
      ∃ front rest, sql.toList = front ++ ';' :: rest ∧ isReadOnly (String.ofList front) = true ∧
        IsTerminated front ∧ IsSingle front ∧ HoldsNoBlocked rest ∧ ChainsNothing (';' :: rest) := by
  simp only [isReadOnly_iff, String.toList_ofList, holdsNoBlocked_iff, chainsNothing_iff_isUnchained]
  constructor
  · rintro ⟨hpasses, hsingle⟩
    obtain ⟨front, rest, heq, hterminated, hfront⟩ := exists_first_semicolon hsingle
    rw [heq, passesGate_chained_iff (hfront.not_isBlanks hterminated)] at hpasses
    exact ⟨front, rest, heq, hpasses.1, hterminated, hfront, hpasses.2⟩
  · rintro ⟨front, rest, heq, hpasses, hterminated, hfront, hrest⟩
    refine ⟨?_, fun hsingle => hsingle front rest heq hterminated⟩
    rw [heq, passesGate_chained_iff (hfront.not_isBlanks hterminated)]
    exact ⟨hpasses, hrest⟩

/-- Two statements, the second with a label that begins with a letter beyond ASCII. -/
def labelled : String := "SELECT Name FROM tenderCompany; étape: SELECT Name FROM tenderContact"

/-- The gate takes them for one. -/
theorem isReadOnly_labelled : isReadOnly labelled = true ∧ IsTerminated labelled.toList ∧
    ¬ IsSingle labelled.toList := by
  refine ⟨by decide +kernel, by decide +kernel, fun hsingle => ?_⟩
  exact hsingle "SELECT Name FROM tenderCompany".toList " étape: SELECT Name FROM tenderContact".toList
    (by decide +kernel) (by decide +kernel)

end TenderQuery.Sql
