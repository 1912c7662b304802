import TenderQuery.Proofs.Sql.Qualifier
import TenderQuery.Proofs.Sql.ReadOnly
import TenderQuery.Sql.Shape

/-!
# Where the filter is inserted

`Slot.Splits` says what the place of the filter promises about the text: it is cut between words, and all
that is dropped there is blank. From it follows that an insertion of harmless words keeps a statement
read-only (`passesGate_insert`), except behind a semicolon at the very end of what stays before the filter,
where the shape check takes over.
-/
set_option autoImplicit false
namespace TenderQuery.Sql
open TenderQuery.Text

namespace Slot

def before : Slot → List Char
  | behindWhere before _ | beforeClause before _ | atEnd before => before

def after : Slot → List Char
  | behindWhere _ after | beforeClause _ after => after
  | atEnd _ => []

/-- The filter with the words and spaces that join it to the statement. -/
def inserted (filter : List Char) : Slot → List Char
  | behindWhere _ _ => ' ' :: filter ++ " AND".toList
  | beforeClause _ _ => " WHERE ".toList ++ filter ++ [' ']
  | atEnd _ => " WHERE ".toList ++ filter

theorem fill_eq (filter : List Char) (slot : Slot) :
    slot.fill filter = slot.before ++ (slot.inserted filter ++ slot.after) := by
  cases slot with
  | behindWhere front rest =>
    unfold fill before after inserted
    generalize " AND".toList = joint
    simp only [List.append_assoc, List.cons_append]
  | beforeClause front rest =>
    unfold fill before after inserted
    generalize " WHERE ".toList = joint
    simp only [List.append_assoc, List.singleton_append]
  | atEnd front =>
    unfold fill before after inserted
    generalize " WHERE ".toList = joint
    simp only [List.append_assoc, List.append_nil]

/-- The slot is a place of the text: it is cut between words, behind the word that opens a query, and only
blanks are dropped. -/
structure Splits (s : List Char) (slot : Slot) : Prop where
  text : ∃ gap, IsBlanks gap ∧ s = slot.before ++ (gap ++ slot.after) ∧
    (endsWord (slot.before ++ gap) = true → startsWord slot.after = false)
  opened : OpensQuery s → words slot.before ≠ []
  last : ∀ r c, slot.before = r ++ [c] → isBlank c = false
  behind : ∀ front rest, slot = .behindWhere front rest → endsWord front = true
  joins : ∀ filter, endsWord (slot.inserted filter) = true → startsWord slot.after = false
  edge : endsWord slot.before = true ∨ slot.after = [] ∨ startsWord slot.after = true

theorem Splits.words_eq {s : List Char} {slot : Slot} (h : slot.Splits s) :
    words s = words slot.before ++ words slot.after := by
  obtain ⟨gap, hgap, htext, hcut⟩ := h.text
  rw [htext, ← List.append_assoc, words_append hcut, words_append fun _ => hgap.startsWord, hgap.words_eq,
    List.append_nil]

end Slot

/-! ## Behind a WHERE -/

theorem consumed_append (piece rest : List Char) : consumed (piece ++ rest) rest = piece := by
  unfold consumed
  rw [List.length_append, Nat.add_sub_cancel, List.take_left]

theorem isKeyword_where : IsKeyword "WHERE".toList := by decide

theorem slot_of_search_where {s front rest : List Char} (h : search (word "WHERE") s = some (front, rest)) :
    ∃ w, s = front ++ (w ++ rest) ∧ Fits "WHERE".toList w ∧ IsWordAt front w rest ∧
      Slot.of s = .behindWhere (front ++ w) rest := by
  obtain ⟨found, rfl, hfront, hword⟩ := search_eq_some h
  obtain ⟨w, rfl, hfits, hrest⟩ := word_eq_some_iff.mp hword
  refine ⟨w, rfl, hfits, ⟨hfits.ne_nil isKeyword_where.1, hfits.isWord isKeyword_where.2, hfront, hrest⟩, ?_⟩
  unfold Slot.of
  simp only [h, List.drop_left, consumed_append]

theorem splits_behindWhere {front w rest : List Char} (hat : IsWordAt front w rest) :
    Slot.Splits (front ++ (w ++ rest)) (.behindWhere (front ++ w) rest) := by
  have hbefore : words (front ++ w) = words front ++ [w] := by
    rw [words_append fun hend => absurd hend (by simp [hat.before]), words_of_all hat.ne_nil hat.all]
  have hlast : endsWord (front ++ w) = true := by
    rw [endsWord_append hat.ne_nil]
    obtain ⟨t, d, rfl⟩ := (List.eq_nil_or_concat w).resolve_left hat.ne_nil
    rw [List.concat_eq_append, endsWord_concat]
    exact hat.all d (by rw [List.concat_eq_append]; exact List.mem_append_right _ List.mem_cons_self)
  refine ⟨⟨[], fun _ hc => (by cases hc), by simp [Slot.before, Slot.after], fun _ => hat.after⟩, ?_, ?_, ?_,
    fun _ _ => hat.after, .inl hlast⟩
  · intro _
    simp only [Slot.before, hbefore]
    exact List.append_ne_nil_of_right_ne_nil _ (List.cons_ne_nil w [])
  · intro r c heq
    rw [show front ++ w = r ++ [c] from heq, endsWord_concat] at hlast
    rw [← Bool.not_eq_true]
    intro hblank
    rw [isWord_of_isBlank hblank] at hlast
    cases hlast
  · intro front' rest' heq
    cases heq
    exact hlast

/-! ## In front of a clause -/

def clauseKeywords : List String :=
  ["HAVING", "LIMIT", "UNION", "EXCEPT", "INTERSECT", "GROUP", "ORDER", "OPTION"]

theorem isKeyword_of_mem_clauseKeywords : ∀ k ∈ clauseKeywords, IsKeyword k.toList := by decide

theorem startsWord_of_isBlanks_append {gap : List Char} (hne : gap ≠ []) (hgap : IsBlanks gap)
    (s : List Char) :
    startsWord (gap ++ s) = false := by
  rw [startsWord_append hne]
  exact hgap.startsWord

theorem exists_word_of_wordPair {first second : String} {s rest : List Char}
    (h : wordPair first second s = some rest) :
    ∃ w t, s = w ++ t ∧ Fits first.toList w ∧ startsWord t = false := by
  obtain ⟨w, gap, y, heq, hfits, hne, hgap, -, -⟩ := wordPair_eq_some h
  exact ⟨w, _, heq, hfits, startsWord_of_isBlanks_append hne hgap _⟩

/-- A clause begins with a whole keyword. -/
theorem exists_word_of_trailingClause {s rest : List Char} (h : trailingClause s = some rest) :
    ∃ k ∈ clauseKeywords, ∃ w t, s = w ++ t ∧ Fits k.toList w ∧ IsWordAt [] w t := by
  have hkeyword : ∀ k ∈ clauseKeywords, (∃ w t, s = w ++ t ∧ Fits k.toList w ∧ startsWord t = false) →
      ∃ k ∈ clauseKeywords, ∃ w t, s = w ++ t ∧ Fits k.toList w ∧ IsWordAt [] w t := by
    rintro k hk ⟨w, t, heq, hfits, ht⟩
    have hkey := isKeyword_of_mem_clauseKeywords k hk
    exact ⟨k, hk, w, t, heq, hfits, hfits.ne_nil hkey.1, hfits.isWord hkey.2, rfl, ht⟩
  unfold trailingClause at h
  obtain h | h := eq_some_of_orElse h
  · obtain ⟨k, hk, hword⟩ := List.exists_of_findSome?_eq_some h
    obtain ⟨w, heq, hfits, hrest⟩ := word_eq_some_iff.mp hword
    have hsub : ["HAVING", "LIMIT", "UNION", "EXCEPT", "INTERSECT"] ⊆ clauseKeywords := by decide
    exact hkeyword k (hsub hk) ⟨w, rest, heq, hfits, hrest⟩
  obtain h | h := eq_some_of_orElse h
  · exact hkeyword "GROUP" (by decide) (exists_word_of_wordPair h)
  obtain h | h := eq_some_of_orElse h
  · exact hkeyword "ORDER" (by decide) (exists_word_of_wordPair h)
  · obtain ⟨t, ht, hopen⟩ := Option.bind_eq_some_iff.mp h
    obtain ⟨w, rfl, hfits⟩ := dropFold_eq_some_iff.mp ht
    refine hkeyword "OPTION" (by decide) ⟨w, t, rfl, hfits, ?_⟩
    -- Behind the keyword come blanks or the parenthesis.
    cases t with
    | nil => rfl
    | cons c r =>
      by_cases hc : isBlank c = true
      · exact isWord_of_isBlank hc
      · rw [trimStart_cons_of_not_isBlank (Bool.not_eq_true _ ▸ hc)] at hopen
        split at hopen
        · rename_i heq
          cases heq
          exact (by decide : isWord '(' = false)
        · cases hopen

theorem not_opens_of_clauseKeyword {k : String} (hk : k ∈ clauseKeywords) {w : List Char}
    (h : Fits k.toList w) :
    ¬ (Fits "SELECT".toList w ∨ Fits "WITH".toList w) := by
  have hfirst : ∀ k ∈ clauseKeywords, firstLettersMeet k.toList "SELECT".toList = false ∧
      firstLettersMeet k.toList "WITH".toList = false := by decide
  obtain ⟨hselect, hwith⟩ := hfirst k hk
  rintro (hfits | hfits)
  · rw [h.firstLettersMeet hfits] at hselect
    cases hselect
  · rw [h.firstLettersMeet hfits] at hwith
    cases hwith

/-- The keyword of a clause that is found in the masked text stands in the text itself. -/
theorem exists_clause_of_search {s front rest : List Char}
    (h : searchTopLevel trailingClause (maskLiterals s) = some (front, rest)) :
    ∃ k ∈ clauseKeywords, ∃ x w y, s = x ++ (w ++ y) ∧ x.length = front.length ∧ Fits k.toList w ∧
      IsWordAt x w y := by
  obtain ⟨clause, hmask, hfront, hclause⟩ := searchTopLevel_eq_some h
  obtain ⟨k, hk, w, t, rfl, hfits, hat⟩ := exists_word_of_trailingClause hclause
  have hmasked := masked_maskLiterals s
  have hplace : IsWordAt front w t := ⟨hat.ne_nil, hat.all, hfront, hat.after⟩
  rw [hmask, ← List.append_assoc] at hmasked
  obtain ⟨x, y, rfl, hxy, hx, -⟩ := hmasked.exists_word hplace
  exact ⟨k, hk, x, w, y, List.append_assoc x w y, hx.length_eq, hfits, hxy⟩

theorem splits_beforeClause {k : String} (hk : k ∈ clauseKeywords) {x w y : List Char} (hfits : Fits k.toList w)
    (hat : IsWordAt x w y) : Slot.Splits (x ++ (w ++ y)) (.beforeClause (trimEnd x) (w ++ y)) := by
  have hwords := hat.words_eq
  rw [List.append_assoc] at hwords
  obtain ⟨gap, hgap, hback⟩ := exists_back x
  have hstart : startsWord (w ++ y) = true := by
    obtain ⟨d, t, rfl⟩ := List.exists_cons_of_ne_nil hat.ne_nil
    exact hat.all d List.mem_cons_self
  refine ⟨⟨gap, hgap, ?_, ?_⟩, ?_, ?_, fun _ _ heq => (by cases heq), ?_, .inr (.inr hstart)⟩
  · simp only [Slot.before, Slot.after]
    rw [← List.append_assoc (trimEnd x), ← hback]
  · intro hend
    simp only [Slot.before] at hend
    rw [← hback, hat.before] at hend
    cases hend
  · rintro ⟨-, first, hhead, hfirst⟩
    simp only [Slot.before]
    rw [words_trimEnd]
    intro hnil
    -- Otherwise the keyword of the clause would be the word that opens the query.
    rw [hwords, hnil, List.nil_append, List.head?_cons, Option.some.injEq] at hhead
    subst hhead
    exact not_opens_of_clauseKeyword hk hfits hfirst
  · intro r c heq
    exact not_isBlank_of_trimEnd heq
  · intro filter hend
    have hspace : endsWord (Slot.inserted filter (.beforeClause (trimEnd x) (w ++ y))) = isWord ' ' :=
      endsWord_concat _ _
    rw [hspace] at hend
    exact absurd hend (by decide)

/-! ## All places -/

theorem splits_atEnd (s : List Char) : Slot.Splits s (.atEnd (trimEnd s)) := by
  obtain ⟨gap, hgap, hback⟩ := exists_back s
  refine ⟨⟨gap, hgap, ?_, fun _ => rfl⟩, ?_, ?_, fun _ _ heq => (by cases heq), fun _ _ => rfl,
    .inr (.inl rfl)⟩
  · simp only [Slot.before, Slot.after, List.append_nil]
    exact hback
  · rintro ⟨-, first, hhead, -⟩
    simp only [Slot.before, words_trimEnd]
    intro hnil
    rw [hnil] at hhead
    cases hhead
  · intro r c heq
    exact not_isBlank_of_trimEnd heq

/-- The slot is behind a WHERE, in front of the keyword of a clause or at the end. -/
inductive Slot.Placed (s : List Char) : Slot → Prop where
  | behindWhere {front w rest : List Char} (htext : s = front ++ (w ++ rest)) (hword : Fits "WHERE".toList w)
      (hat : IsWordAt front w rest) : Placed s (.behindWhere (front ++ w) rest)
  | beforeClause {k : String} {front w rest : List Char} (htext : s = front ++ (w ++ rest))
      (hk : k ∈ clauseKeywords) (hword : Fits k.toList w) (hat : IsWordAt front w rest) :
      Placed s (.beforeClause (trimEnd front) (w ++ rest))
  | atEnd : Placed s (.atEnd (trimEnd s))

theorem placed_of (s : List Char) : (Slot.of s).Placed s := by
  cases hwhere : search (word "WHERE") s with
  | some found =>
    obtain ⟨w, htext, hfits, hat, hslot⟩ := slot_of_search_where hwhere
    exact hslot ▸ .behindWhere htext hfits hat
  | none =>
    unfold Slot.of
    simp only [hwhere]
    cases hclause : searchTopLevel trailingClause (maskLiterals s) with
    | some found =>
      obtain ⟨k, hk, x, w, y, rfl, hlength, hfits, hat⟩ := exists_clause_of_search hclause
      simp only [← hlength, List.take_left, List.drop_left]
      exact .beforeClause rfl hk hfits hat
    | none => exact .atEnd

theorem Slot.Placed.splits {s : List Char} {slot : Slot} (h : slot.Placed s) : slot.Splits s := by
  cases h with
  | behindWhere htext _ hat => exact htext ▸ splits_behindWhere hat
  | beforeClause htext hk hword hat => exact htext ▸ splits_beforeClause hk hword hat
  | atEnd => exact splits_atEnd s

theorem splits_of (s : List Char) : Slot.Splits s (Slot.of s) := (placed_of s).splits

/-! ## Keeping a statement read-only -/

/-- What begins with no word and is inserted at a slot adds its words to those of the text. -/
theorem Slot.Splits.words_fill {s filter : List Char} {slot : Slot} (h : slot.Splits s)
    (hstart : startsWord (slot.inserted filter) = false) (hne : slot.inserted filter ≠ []) :
    words (slot.fill filter) = words slot.before ++ (words (slot.inserted filter) ++ words slot.after) := by
  rw [Slot.fill_eq, words_append fun _ => (startsWord_append hne).trans hstart, words_append (h.joins filter)]

/-- An insertion at a slot keeps a text that passes the gate so, if it begins with a blank, brings no blocked
word and no semicolon, and does not come to stand behind one. -/
theorem PassesGate.insert {s filter : List Char} {slot : Slot} (h : PassesGate s) (hsplits : slot.Splits s)
    (hblank : ∃ r, slot.inserted filter = ' ' :: r) (hwords : HasNoBlocked (words (slot.inserted filter)))
    (hsemicolon : ';' ∉ slot.inserted filter) (hlast : ∀ r, slot.before ≠ r ++ [';']) :
    PassesGate (slot.fill filter) := by
  obtain ⟨gap, -, htext, -⟩ := hsplits.text
  obtain ⟨r, hr⟩ := hblank
  have hne := hsplits.opened h.opens
  have hstart : startsWord (slot.inserted filter) = false := hr ▸ (by decide : isWord ' ' = false)
  have hfill := hsplits.words_fill hstart (hr ▸ List.cons_ne_nil ' ' r)
  refine ⟨?_, ?_, ?_⟩
  · have hopens := h.opens
    have hwords' := hsplits.words_eq
    rw [htext] at hopens hwords'
    rw [Slot.fill_eq] at hfill ⊢
    exact (opensQuery_append_iff hne hfill).mpr ((opensQuery_append_iff hne hwords').mp hopens)
  · intro w hw
    rw [hfill, List.mem_append, List.mem_append] at hw
    have hs := h.unblocked
    rw [hsplits.words_eq] at hs
    obtain hw | hw | hw := hw
    · exact hs w (List.mem_append_left _ hw)
    · exact hwords w hw
    · exact hs w (List.mem_append_right _ hw)
  · intro t ht kind hk
    rw [Slot.fill_eq] at ht
    obtain ⟨x, y, hbefore, rfl⟩ | ht := mem_afterSemicolons_append.mp ht
    · have hy : trimStart y ≠ [] := by
        intro hnil
        have hblanks := (trimStart_eq_nil_iff y).mp hnil
        obtain rfl | ⟨y, c, rfl⟩ := List.eq_nil_or_concat y
        · exact hlast x hbefore
        · rw [List.concat_eq_append] at hbefore hblanks
          have hc := hsplits.last (x ++ ';' :: y) c (by rw [hbefore, List.append_assoc]; rfl)
          rw [hblanks c (List.mem_append_right _ List.mem_cons_self)] at hc
          cases hc
      rw [trimStart_append hy, hr, List.cons_append, appliesTo_append_blank hy (fun c hc => by cases hc; rfl),
        ← Bool.not_eq_true]
      intro happlies
      have hchained := appliesTo_append hy (gap ++ slot.after) happlies
      rw [← trimStart_append hy] at hchained
      have hunchained := h.unchained (trimStart (y ++ (gap ++ slot.after)))
        (by rw [htext]; exact mem_afterSemicolons_append.mpr (.inl ⟨x, y, hbefore, rfl⟩)) kind hk
      rw [hunchained] at hchained
      cases hchained
    · have hafter : IsUnchained slot.after := by
        have hs := h.unchained
        rw [htext] at hs
        exact hs.of_append.of_append
      rw [afterSemicolons_append_of_not_mem hsemicolon] at ht
      exact hafter t ht kind hk

end TenderQuery.Sql
