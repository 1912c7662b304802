import TenderQuery.Proofs.Sql.Filter

/-!
# Prose in a statement

Two signs of prose are pairs of words with one space between them, one is a single word (`HoldsProse`). A pair in a
text that is cut between words is in one of the parts, if the last word before the cut or the first one behind it does
not belong to the pair (`holdsPair_append_iff`). The filter is inserted behind a WHERE, in front of the keyword of a
clause or at the end, so it neither tears such a pair nor completes one (`holdsProse_fill_iff`).
-/
set_option autoImplicit false
namespace TenderQuery.Sql
open TenderQuery.Text

/-! ## Pairs at a cut -/

/-- The last word of the one text or the first of the other is not as in the pair. -/
def Apart (first second : String) (a b : List Char) : Prop :=
  (∀ x, (words a).getLast? = some x → ¬ Spells first x) ∨ ∀ y, (words b).head? = some y → ¬ Spells second y

theorem Apart.of_words {first second : String} {a : List Char} (h : ∀ x ∈ words a, ¬ Spells first x)
    (b : List Char) : Apart first second a b :=
  .inl fun x hx => h x (List.mem_of_getLast? hx)

section Cutting
variable {first second : String} (hfirst : IsCapitals first) (hsecond : IsCapitals second) {a b : List Char}
  (hcut : endsWord a = true → startsWord b = false)

include hfirst hsecond hcut

theorem HoldsPair.append (h : HoldsPair first second a ∨ HoldsPair first second b) :
    HoldsPair first second (a ++ b) := by
  obtain ⟨front, x, y, rest, rfl, hfront, hx, hy, hrest⟩ | ⟨front, x, y, rest, rfl, hfront, hx, hy, hrest⟩ := h
  · refine ⟨front, x, y, rest ++ b, by simp only [List.append_assoc, List.cons_append], hfront, hx, hy, ?_⟩
    cases rest with
    | nil =>
      have hend := hsecond.endsWord hy (front ++ (x ++ [' ']))
      exact hcut (by simpa only [List.append_assoc, List.cons_append, List.append_nil, List.nil_append] using hend)
    | cons c r => exact hrest
  · refine ⟨a ++ front, x, y, rest, (List.append_assoc _ _ _).symm, ?_, hx, hy, hrest⟩
    cases front with
    | nil =>
      rw [List.append_nil, ← Bool.not_eq_true]
      intro hend
      have hstart := hcut hend
      rw [List.nil_append, hfirst.startsWord hx] at hstart
      cases hstart
    | cons c r =>
      rw [endsWord_append (List.cons_ne_nil c r)]
      exact hfront

theorem holdsPair_of_append (hapart : Apart first second a b) (h : HoldsPair first second (a ++ b)) :
    HoldsPair first second a ∨ HoldsPair first second b := by
  obtain ⟨front, x, y, rest, heq, hfront, hx, hy, hrest⟩ := h
  -- The pair is not torn at its space: neither before it nor behind it.
  have htorn : ∀ u v, a = front ++ (x ++ u) → b = v ++ (y ++ rest) → IsBlanks u → IsBlanks v → False := by
    intro u v ha hb hu hv
    obtain hlast | hnext := hapart
    · have hx' : IsWordAt front x u := ⟨hfirst.ne_nil hx, hfirst.isWord hx, hfront, hu.startsWord⟩
      exact hlast x (ha ▸ hx'.getLast?_words hu.words_eq) hx
    · have hy' : IsWordAt v y rest := ⟨hsecond.ne_nil hy, hsecond.isWord hy, hv.endsWord, hrest⟩
      exact hnext y (hb ▸ hy'.head?_words hv.words_eq) hy
  have hnil : IsBlanks [] := fun _ hc => (by cases hc)
  obtain ⟨front', rfl, hb⟩ | ⟨u, rfl, hu⟩ := List.append_eq_append_iff.mp heq
  · exact .inr ⟨front', x, y, rest, hb, endsWord_of_append hfront, hx, hy, hrest⟩
  obtain ⟨x', rfl, hb⟩ | ⟨u', rfl, hu'⟩ := List.append_eq_append_iff.mp hu.symm
  · -- The cut is in the first word, or at its ends.
    rw [hb] at hcut
    obtain rfl | rfl := eq_nil_or_eq_nil_of_cut (hfirst.isWord hx) hcut
    · exact .inr ⟨[], x', y, rest, hb, rfl, hx, hy, hrest⟩
    · exact (htorn [] [' '] (by simp) hb hnil isBlanks_space).elim
  cases u' with
  | nil => exact (htorn [] [' '] rfl hu'.symm hnil isBlanks_space).elim
  | cons c u' =>
    rw [List.cons_append, List.cons.injEq] at hu'
    obtain ⟨rfl, hu'⟩ := hu'
    obtain ⟨rest', rfl, hb⟩ | ⟨y', rfl, hb⟩ := List.append_eq_append_iff.mp hu'
    · exact .inl ⟨front, x, y, rest', rfl, hfront, hx, hy, startsWord_of_append (hb ▸ hrest)⟩
    · -- The cut is in the second word, or at its ends.
      have hcut' : endsWord (front ++ (x ++ [' ']) ++ u') = true → startsWord (y' ++ rest) = false := by
        simpa only [hb, List.append_assoc, List.cons_append, List.nil_append] using hcut
      obtain rfl | rfl := eq_nil_or_eq_nil_of_cut (hsecond.isWord hy) hcut'
      · exact (htorn [' '] [] rfl hb isBlanks_space hnil).elim
      · rw [List.append_nil] at hy
        exact .inl ⟨front, x, u', [], by rw [List.append_nil], hfront, hx, hy, rfl⟩

theorem holdsPair_append_iff (hapart : Apart first second a b) :
    HoldsPair first second (a ++ b) ↔ HoldsPair first second a ∨ HoldsPair first second b :=
  ⟨holdsPair_of_append hfirst hsecond hcut hapart, HoldsPair.append hfirst hsecond hcut⟩

end Cutting

/-! ## The words at the place of the filter -/

theorem isCapitals_query : IsCapitals "QUERY" := by decide

theorem isCapitals_of_mem : ∀ first ∈ ["THIS", "THE"], IsCapitals first := by decide

theorem not_spells_joiningWords :
    ∀ k ∈ ["THIS", "THE", "QUERY", "EXPLANATION"], ∀ w ∈ joiningWords, ¬ Spells k w := by
  have hfits : ∀ k ∈ ["THIS", "THE", "QUERY", "EXPLANATION"],
      IsCapitals k ∧ ∀ w ∈ joiningWords, ¬ Fits k.toList w := by decide
  intro k hk w hw hspells
  exact (hfits k hk).2 w hw ((fits_iff_spells (hfits k hk).1 w).mpr hspells)

theorem not_spells_of_clauseKeyword {k : String} (hk : k ∈ clauseKeywords) {w : List Char} (h : Fits k.toList w) :
    ¬ Spells "QUERY" w := by
  have hmeet : ∀ k ∈ clauseKeywords, firstLettersMeet k.toList "QUERY".toList = false := by decide
  intro hspells
  have := h.firstLettersMeet ((fits_iff_spells isCapitals_query w).mpr hspells)
  rw [hmeet k hk] at this
  cases this

theorem not_spells_of_where {first : String} (hfirst : first ∈ ["THIS", "THE"]) {w : List Char}
    (h : Fits "WHERE".toList w) : ¬ Spells first w := by
  have hmeet : ∀ first ∈ ["THIS", "THE"], firstLettersMeet "WHERE".toList first.toList = false := by decide
  intro hspells
  have := h.firstLettersMeet ((fits_iff_spells (isCapitals_of_mem first hfirst) w).mpr hspells)
  rw [hmeet first hfirst] at this
  cases this

/-! ## The insertion -/

section Insertion
variable {first : String} (hfirst : first ∈ ["THIS", "THE"]) {s : List Char} {slot : Slot}

/-- The filter with what joins it to the statement, around its two columns. -/
theorem exists_inserted_around (slot : Slot) (s : List Char) : ∃ x y,
    slot.inserted (({} : SoftDelete).filterFor s) = x ++ (({} : SoftDelete).columnFor s ++
      (zeroText ++ (({} : SoftDelete).columnFor s ++ (nullText ++ y)))) ∧
    x ∈ [[' ', '('], [' ', 'W', 'H', 'E', 'R', 'E', ' ', '(']] ∧ y ∈ [[' ', 'A', 'N', 'D'], [' '], []] := by
  have hand : " AND".toList = [' ', 'A', 'N', 'D'] := by decide
  cases slot with
  | behindWhere front rest =>
    refine ⟨[' ', '('], [' ', 'A', 'N', 'D'], ?_, by decide, by decide⟩
    unfold Slot.inserted
    rw [hand, filterFor_eq]
    simp only [List.append_assoc, List.cons_append, List.nil_append]
  | beforeClause front rest =>
    refine ⟨[' ', 'W', 'H', 'E', 'R', 'E', ' ', '('], [' '], ?_, by decide, by decide⟩
    unfold Slot.inserted
    rw [whereText_eq, filterFor_eq]
    simp only [List.append_assoc, List.cons_append, List.nil_append]
  | atEnd front =>
    refine ⟨[' ', 'W', 'H', 'E', 'R', 'E', ' ', '('], [], ?_, by decide, by decide⟩
    unfold Slot.inserted
    rw [whereText_eq, filterFor_eq, List.append_nil]
    rfl

theorem not_holdsPair_columnFor (s : List Char) : ¬ HoldsPair first "QUERY" (({} : SoftDelete).columnFor s) := by
  rintro ⟨a, x, y, b, heq, -⟩
  have hspace := isTableChar_of_mem_columnFor s ' ' (by simp [heq])
  exact absurd hspace (by decide)

include hfirst

theorem not_holdsPair_of_joiningWords {t : List Char} (h : ∀ w ∈ words t, w ∈ joiningWords) :
    ¬ HoldsPair first "QUERY" t := by
  intro hpair
  obtain ⟨-, y, hy, hspells⟩ := hpair.mem_words (isCapitals_of_mem first hfirst) isCapitals_query
  exact not_spells_joiningWords "QUERY" (by decide) y (h y hy) hspells

theorem apart_of_joiningWords {t : List Char} (h : ∀ w ∈ words t, w ∈ joiningWords) (rest : List Char) :
    Apart first "QUERY" t rest := by
  have hmem : first ∈ ["THIS", "THE", "QUERY", "EXPLANATION"] := List.mem_append_left ["QUERY", "EXPLANATION"] hfirst
  exact .of_words (fun w hw => not_spells_joiningWords first hmem w (h w hw)) rest

/-- A text of joining words in front adds no pair. -/
theorem holdsPair_joined_iff {t rest : List Char} (h : ∀ w ∈ words t, w ∈ joiningWords)
    (hcut : endsWord t = true → startsWord rest = false) :
    HoldsPair first "QUERY" (t ++ rest) ↔ HoldsPair first "QUERY" rest :=
  (holdsPair_append_iff (isCapitals_of_mem first hfirst) isCapitals_query hcut
    (apart_of_joiningWords hfirst h rest)).trans (or_iff_right (not_holdsPair_of_joiningWords hfirst h))

/-- A column adds no pair in front of a text that begins with a joining word behind a blank or mark. -/
theorem holdsPair_column_iff {gap w rest : List Char} (hat : IsWordAt gap w rest) (hgap : words gap = [])
    (hstart : startsWord gap = false) (hne : gap ≠ []) (hw : w ∈ joiningWords) (s : List Char) :
    HoldsPair first "QUERY" (({} : SoftDelete).columnFor s ++ (gap ++ (w ++ rest))) ↔
      HoldsPair first "QUERY" (gap ++ (w ++ rest)) := by
  have hcut : endsWord (({} : SoftDelete).columnFor s) = true → startsWord (gap ++ (w ++ rest)) = false :=
    fun _ => (startsWord_append hne).trans hstart
  have hapart : Apart first "QUERY" (({} : SoftDelete).columnFor s) (gap ++ (w ++ rest)) := by
    refine .inr fun y hy => ?_
    rw [hat.head?_words hgap, Option.some.injEq] at hy
    exact hy ▸ not_spells_joiningWords "QUERY" (by decide) w hw
  exact (holdsPair_append_iff (isCapitals_of_mem first hfirst) isCapitals_query hcut hapart).trans
    (or_iff_right (not_holdsPair_columnFor s))

/-- Nor does the whole insertion. -/
theorem holdsPair_inserted_append_iff {rest : List Char}
    (hcut : endsWord (slot.inserted (({} : SoftDelete).filterFor s)) = true → startsWord rest = false) :
    HoldsPair first "QUERY" (slot.inserted (({} : SoftDelete).filterFor s) ++ rest) ↔
      HoldsPair first "QUERY" rest := by
  have hfront : ∀ x ∈ [[' ', '('], [' ', 'W', 'H', 'E', 'R', 'E', ' ', '(']],
      endsWord x = false ∧ ∀ w ∈ words x, w ∈ joiningWords := by decide
  have hback : ∀ y ∈ [[' ', 'A', 'N', 'D'], [' '], []], ∀ w ∈ words (nullText ++ y),
      w ∈ joiningWords := by decide
  obtain ⟨x, y, hinserted, hx, hy⟩ := exists_inserted_around slot s
  obtain ⟨hend, hwords⟩ := hfront x hx
  rw [hinserted] at hcut
  have hspace : isWord ' ' = false := by decide
  have hzero : ∀ r, IsWordAt [' ', '=', ' '] ['0'] (' ' :: r) :=
    fun _ => ⟨by decide, by decide, by decide, hspace⟩
  have hnull : ∀ r, IsWordAt [' '] ['I', 'S'] (' ' :: r) :=
    fun _ => ⟨by decide, by decide, by decide, hspace⟩
  have hlast : endsWord (nullText ++ y) = true → startsWord rest = false := by
    intro hword
    have hne : nullText ++ y ≠ [] := List.cons_ne_nil _ _
    refine hcut ?_
    rw [← List.append_assoc, ← List.append_assoc, ← List.append_assoc, endsWord_append hne]
    exact hword
  calc HoldsPair first "QUERY" (slot.inserted (({} : SoftDelete).filterFor s) ++ rest)
      ↔ HoldsPair first "QUERY" (x ++ (({} : SoftDelete).columnFor s ++
          (zeroText ++ (({} : SoftDelete).columnFor s ++ (nullText ++ y ++ rest))))) := by
        rw [hinserted]
        simp only [List.append_assoc]
    _ ↔ HoldsPair first "QUERY" (({} : SoftDelete).columnFor s ++
          (zeroText ++ (({} : SoftDelete).columnFor s ++ (nullText ++ y ++ rest)))) :=
        holdsPair_joined_iff hfirst hwords fun hword => absurd hword (by rw [hend]; exact Bool.false_ne_true)
    _ ↔ HoldsPair first "QUERY" (zeroText ++ (({} : SoftDelete).columnFor s ++ (nullText ++ y ++ rest))) :=
        holdsPair_column_iff hfirst (hzero _) (by decide) hspace (by decide) (by decide) s
    _ ↔ HoldsPair first "QUERY" (({} : SoftDelete).columnFor s ++ (nullText ++ y ++ rest)) :=
        holdsPair_joined_iff hfirst (by decide) fun hword => absurd hword (by decide)
    _ ↔ HoldsPair first "QUERY" (nullText ++ y ++ rest) :=
        holdsPair_column_iff hfirst (hnull _) (by decide) hspace (by decide) (by decide) s
    _ ↔ HoldsPair first "QUERY" rest := holdsPair_joined_iff hfirst (hback y hy) hlast

theorem not_spells_last {front w rest : List Char} (hword : Fits "WHERE".toList w) (hat : IsWordAt front w rest) :
    ∀ x, (words (front ++ w)).getLast? = some x → ¬ Spells first x := by
  intro x hx
  have hlast := @IsWordAt.getLast?_words front w [] ⟨hat.ne_nil, hat.all, hat.before, rfl⟩ rfl
  rw [List.append_nil, hx, Option.some.injEq] at hlast
  exact hlast ▸ not_spells_of_where hfirst hword

/-- The last word before the place or the first one behind it belongs to no pair. -/
theorem Slot.Placed.apart (h : slot.Placed s) {gap : List Char} (hgap : IsBlanks gap) :
    Apart first "QUERY" slot.before (gap ++ slot.after) := by
  cases h with
  | behindWhere _ hword hat => exact .inl (not_spells_last hfirst hword hat)
  | beforeClause _ hk hword hat =>
    refine .inr fun y hy => ?_
    rw [Slot.after, IsWordAt.head?_words ⟨hat.ne_nil, hat.all, hgap.endsWord, hat.after⟩ hgap.words_eq,
      Option.some.injEq] at hy
    exact hy ▸ not_spells_of_clauseKeyword hk hword
  | atEnd =>
    refine .inr fun y hy => ?_
    rw [Slot.after, List.append_nil, hgap.words_eq] at hy
    cases hy

/-- So it is with the first word that is inserted. -/
theorem Slot.Placed.apart_inserted (h : slot.Placed s) (filter rest : List Char) :
    Apart first "QUERY" slot.before (slot.inserted filter ++ rest) := by
  have hwhere : ∀ r, Apart first "QUERY" slot.before (" WHERE ".toList ++ r) := by
    refine fun r => .inr fun y hy => ?_
    have hat : IsWordAt [' '] ['W', 'H', 'E', 'R', 'E'] (' ' :: r) :=
      ⟨by decide, by decide, by decide, (by decide : isWord ' ' = false)⟩
    rw [whereText_eq] at hy
    have hy' := (hat.head?_words (by decide)).symm.trans hy
    rw [Option.some.injEq] at hy'
    exact hy' ▸ not_spells_joiningWords "QUERY" (by decide) _ (by decide)
  cases h with
  | behindWhere _ hword hat => exact .inl (not_spells_last hfirst hword hat)
  | beforeClause _ _ _ _ =>
    unfold inserted
    rw [List.append_assoc, List.append_assoc]
    exact hwhere _
  | atEnd =>
    unfold inserted
    rw [List.append_assoc]
    exact hwhere _

/-- The insertion neither tears a pair nor completes one. -/
theorem holdsPair_fill_iff (h : slot.Placed s) :
    HoldsPair first "QUERY" (slot.fill (({} : SoftDelete).filterFor s)) ↔ HoldsPair first "QUERY" s := by
  have hcapitals := isCapitals_of_mem first hfirst
  have hsplits := h.splits
  obtain ⟨gap, hgap, htext, hcut⟩ := hsplits.text
  obtain ⟨m, r, hinserted, -⟩ := exists_inserted_eq_cons {} slot s
  have hspace : startsWord (slot.inserted (({} : SoftDelete).filterFor s) ++ slot.after) = false := by
    rw [hinserted]
    exact (by decide : isWord ' ' = false)
  have hbefore : endsWord slot.before = true → startsWord (gap ++ slot.after) = false := by
    intro hend
    cases gap with
    | nil => exact hcut (by rwa [List.append_nil])
    | cons c t => exact isWord_of_isBlank (hgap c List.mem_cons_self)
  have hblank : HoldsPair first "QUERY" (gap ++ slot.after) ↔ HoldsPair first "QUERY" slot.after :=
    holdsPair_joined_iff hfirst (by rw [hgap.words_eq]; exact fun _ hw => (by cases hw))
      fun hend => absurd hend (by rw [hgap.endsWord]; exact Bool.false_ne_true)
  have hfill : HoldsPair first "QUERY" (slot.fill (({} : SoftDelete).filterFor s)) ↔
      HoldsPair first "QUERY" slot.before ∨ HoldsPair first "QUERY" slot.after := by
    rw [Slot.fill_eq, holdsPair_append_iff hcapitals isCapitals_query (fun _ => hspace) (h.apart_inserted hfirst _ _),
      holdsPair_inserted_append_iff hfirst (hsplits.joins _)]
  have hs : HoldsPair first "QUERY" s ↔
      HoldsPair first "QUERY" slot.before ∨ HoldsPair first "QUERY" slot.after := by
    rw [htext, holdsPair_append_iff hcapitals isCapitals_query hbefore (h.apart hfirst hgap), hblank]
  rw [hfill, hs]

end Insertion

/-- Nor does it bring or take the single word. -/
theorem holdsKeyword_fill_iff {s : List Char} {slot : Slot} (h : slot.Splits s) :
    HoldsKeyword "EXPLANATION" (slot.fill (({} : SoftDelete).filterFor s)) ↔ HoldsKeyword "EXPLANATION" s := by
  obtain ⟨m, r, hinserted, -⟩ := exists_inserted_eq_cons {} slot s
  have hspace : isWord ' ' = false := by decide
  have hfill := @Slot.Splits.words_fill s _ slot h (hinserted ▸ hspace) (hinserted ▸ List.cons_ne_nil ' ' _)
  simp only [holdsKeyword_iff_words, hfill, List.mem_append]
  constructor
  · rintro ⟨w, hw | hw | hw, hspells⟩
    · exact ⟨w, by rw [h.words_eq]; exact List.mem_append_left _ hw, hspells⟩
    · obtain hw | hw := words_inserted slot s w hw
      · exact ⟨w, hw, hspells⟩
      · exact absurd hspells (not_spells_joiningWords "EXPLANATION" (by decide) w hw)
    · exact ⟨w, by rw [h.words_eq]; exact List.mem_append_right _ hw, hspells⟩
  · rintro ⟨w, hw, hspells⟩
    rw [h.words_eq, List.mem_append] at hw
    exact ⟨w, hw.imp_right .inr, hspells⟩

theorem holdsProse_fill_iff {s : List Char} {slot : Slot} (h : slot.Placed s) :
    HoldsProse (slot.fill (({} : SoftDelete).filterFor s)) ↔ HoldsProse s := by
  unfold HoldsProse
  rw [holdsPair_fill_iff (by decide) h, holdsPair_fill_iff (by decide) h, holdsKeyword_fill_iff h.splits]

end TenderQuery.Sql
