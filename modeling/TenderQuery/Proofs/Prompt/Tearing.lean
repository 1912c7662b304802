import TenderQuery.Model.Canned
import TenderQuery.Proofs.Prompt.Structure
import TenderQuery.Proofs.Text.Boundaries
import TenderQuery.Proofs.Text.Lowering

/-!
# Quoted lines that are torn

Escaping takes the line feeds and the carriage returns out of a text and leaves the other line boundaries in
it (`IsLoose`). Who cuts a prompt at all of them finds pieces of its quoted lines. A piece of an earlier question
begins like the line of a question exactly if the question has a loose boundary right in front of such a beginning
(`marked_turnLine_isSome_iff`), and then its lower case is not that of a whole line of a question
(`lower_ne_of_mem_pieces`).
-/
set_option autoImplicit false
namespace TenderQuery.Prompt
open Text (isLineBoundary IsUnbroken pieces firstPiece lower lowerFrom)
open Model.Canned (questionMark)

/-- A line boundary that escaping leaves as it is: any but the line feed and the carriage return. -/
def IsLoose (c : Char) : Prop := isLineBoundary c = true ∧ c ∉ escapable

instance (c : Char) : Decidable (IsLoose c) := inferInstanceAs (Decidable (_ ∧ _))

/-- A loose boundary stands right in front of the mark of a question. -/
def ForgesQuestion (s : List Char) : Prop := ∃ a c b, IsLoose c ∧ s = a ++ c :: (questionMark.toList ++ b)

/-! ## Plain text in escaped text -/

/-- The character is neither written with a backslash nor used to write one that is. -/
def IsPlain (c : Char) : Prop := c ∉ escapable ∧ c ∉ ['n', 'r', 't']

instance (c : Char) : Decidable (IsPlain c) := inferInstanceAs (Decidable (_ ∧ _))

theorem escapeChar_of_not_mem {c : Char} (h : c ∉ escapable) : escapeChar c = [c] := by
  unfold escapeChar
  split
  case h_7 => rfl
  all_goals exact absurd (by decide) h

theorem not_mem_of_isPlain {c : Char} (h : IsPlain c) : c ∉ ['\\', '"', '\'', 'n', 'r', 't'] := by
  intro hmem
  have hmarks : ∀ mark ∈ ['\\', '"', '\'', 'n', 'r', 't'], ¬ IsPlain mark := by decide
  exact hmarks c hmem h

/-- A plain character begins the writing of itself only. -/
theorem eq_of_escapeChar_append {c d : Char} (hc : IsPlain c) {s rest : List Char}
    (h : escapeChar d ++ s = c :: rest) : d = c ∧ s = rest := by
  obtain ⟨mark, -, heq⟩ | ⟨-, heq⟩ := escapeChar_cases d
  · rw [heq] at h
    obtain ⟨rfl, -⟩ := List.cons.inj h
    exact absurd hc (by decide)
  · rw [heq] at h
    exact List.cons.inj h

theorem escapeChars_append (s t : List Char) : escapeChars (s ++ t) = escapeChars s ++ escapeChars t :=
  List.flatMap_append

theorem escapeChars_of_isPlain {m : List Char} (hm : ∀ c ∈ m, IsPlain c) : escapeChars m = m := by
  induction m with
  | nil => rfl
  | cons c m ih =>
    rw [List.forall_mem_cons] at hm
    unfold escapeChars at ih ⊢
    rw [List.flatMap_cons, escapeChar_of_not_mem hm.1.1, ih hm.2]
    rfl

theorem exists_of_escapeChars_eq_append {m s y : List Char} (hm : ∀ c ∈ m, IsPlain c)
    (h : escapeChars s = m ++ y) : ∃ b, s = m ++ b := by
  induction m generalizing s with
  | nil => exact ⟨s, rfl⟩
  | cons c m ih =>
    rw [List.forall_mem_cons] at hm
    cases s with
    | nil => cases h
    | cons d s =>
      obtain ⟨rfl, htail⟩ := eq_of_escapeChar_append hm.1 h
      obtain ⟨b, rfl⟩ := ih hm.2 htail
      exact ⟨b, rfl⟩

/-- Plain text in escaped text comes from the same text before. -/
theorem exists_of_escapeChars_eq {c : Char} {m s x y : List Char} (hm : ∀ d ∈ c :: m, IsPlain d)
    (h : escapeChars s = x ++ c :: (m ++ y)) : ∃ a b, s = a ++ c :: (m ++ b) := by
  induction s generalizing x with
  | nil => exact absurd h.symm (List.append_ne_nil_of_right_ne_nil _ (List.cons_ne_nil _ _))
  | cons d s ih =>
    have hhere : ∀ z : List Char, escapeChars s = z ++ c :: (m ++ y) → ∃ a b, d :: s = a ++ c :: (m ++ b) := by
      intro z hz
      obtain ⟨a, b, rfl⟩ := ih hz
      exact ⟨d :: a, b, rfl⟩
    unfold escapeChars at h hhere
    rw [List.flatMap_cons] at h
    obtain ⟨mark, hmark, heq⟩ | ⟨-, heq⟩ := escapeChar_cases d
    · have hc := not_mem_of_isPlain (hm c List.mem_cons_self)
      rw [heq] at h
      cases x with
      | nil => exact absurd ((List.cons.inj h).1 ▸ List.mem_cons_self) hc
      | cons e x =>
        have h := (List.cons.inj h).2
        cases x with
        | nil => exact absurd ((List.cons.inj h).1 ▸ hmark) hc
        | cons f x => exact hhere x (List.cons.inj h).2
    · cases x with
      | nil =>
        obtain ⟨b, hb⟩ := exists_of_escapeChars_eq_append (s := d :: s) hm h
        exact ⟨[], b, hb⟩
      | cons e x =>
        rw [heq] at h
        exact hhere x (List.cons.inj h).2

theorem isLoose_of_isLineBoundary {c : Char} (h : isLineBoundary c = true) (hc : c ∉ ['\n', '\r', '\t']) :
    IsLoose c := by
  have hboundaries : ∀ d ∈ escapable, isLineBoundary d = true → d ∈ ['\n', '\r', '\t'] := by decide
  exact ⟨h, fun hmem => hc (hboundaries c hmem h)⟩

theorem isPlain_of_isLoose {c : Char} (h : IsLoose c) : IsPlain c := by
  refine ⟨h.2, fun hmem => ?_⟩
  have hletters : ∀ d ∈ ['n', 'r', 't'], isLineBoundary d = false := by decide
  exact absurd h.1 (by rw [hletters c hmem]; exact Bool.false_ne_true)

theorem mem_escapeChars_iff {c : Char} (h : IsLoose c) (s : List Char) : c ∈ escapeChars s ↔ c ∈ s := by
  constructor
  · intro hmem
    obtain ⟨x, y, hxy⟩ := List.append_of_mem hmem
    obtain ⟨a, b, rfl⟩ := exists_of_escapeChars_eq (m := [])
      (List.forall_mem_singleton.mpr (isPlain_of_isLoose h)) hxy
    exact List.mem_append_right _ List.mem_cons_self
  · intro hmem
    refine List.mem_flatMap.mpr ⟨c, hmem, ?_⟩
    rw [escapeChar_of_not_mem h.2]
    exact List.mem_singleton_self c

/-! ## Places in a text -/

theorem exists_of_append_eq {c : Char} {before s a w : List Char} (hc : c ∉ before)
    (h : before ++ s = a ++ c :: w) : ∃ a', a = before ++ a' ∧ s = a' ++ c :: w := by
  obtain ⟨a', ha, hs⟩ | ⟨inner, rfl, hinner⟩ := List.append_eq_append_iff.mp h
  · exact ⟨a', ha, hs⟩
  · cases inner with
    | nil => exact ⟨[], by simp, hinner.symm⟩
    | cons d inner =>
      obtain ⟨rfl, -⟩ := List.cons.inj hinner
      exact absurd (List.mem_append_right _ List.mem_cons_self) hc

theorem exists_of_append_eq_of_not_mem_behind {c : Char} {s behind a w : List Char} (hc : c ∉ behind)
    (h : s ++ behind = a ++ c :: w) : ∃ w', s = a ++ c :: w' ∧ w = w' ++ behind := by
  obtain ⟨outer, rfl, rfl⟩ | ⟨inner, rfl, hinner⟩ := List.append_eq_append_iff.mp h
  · exact absurd (List.mem_append_right _ List.mem_cons_self) hc
  · cases inner with
    | nil =>
      rw [List.nil_append] at hinner
      exact absurd (hinner ▸ List.mem_cons_self) hc
    | cons d inner =>
      obtain ⟨rfl, hw⟩ := List.cons.inj hinner
      exact ⟨inner, rfl, hw⟩

/-! ## Pieces of an earlier question -/

theorem isUnbroken_questionMark : IsUnbroken questionMark.toList := by decide

theorem isPlain_questionMark : ∀ c ∈ questionMark.toList, IsPlain c := by decide

theorem isPlain_behind {c : Char} (h : IsLoose c) : ∀ d ∈ c :: questionMark.toList, IsPlain d :=
  List.forall_mem_cons.mpr ⟨isPlain_of_isLoose h, isPlain_questionMark⟩

theorem not_isLoose_of_mem_countText {count : Option Int} {c : Char} (h : c ∈ countText count) : ¬ IsLoose c := by
  obtain hdigit | hfixed := mem_countText h
  · have hdigits : ∀ n < 128, (Char.ofNat n).isDigit = true → ¬ IsLoose (Char.ofNat n) := by decide
    exact @Text.of_lt_128 (fun c => c.isDigit = true → ¬ IsLoose c) hdigits c (Text.lt_128_of_isDigit hdigit) hdigit
  · have hothers : ∀ d ∈ " (returned -rows)".toList, ¬ IsLoose d := by decide
    exact hothers c hfixed

/-- A loose boundary in the line of a turn stands in the question. -/
theorem exists_of_turnLine_eq {turn : Turn} {a w : List Char} {c : Char} (hc : IsLoose c)
    (h : (Composer.turnLine turn).toList = a ++ c :: w) :
    ∃ a' w', escapeChars turn.question.toList = a' ++ c :: w' ∧ w = w' ++ '"' :: countText turn.resultCount := by
  have hstart : ∀ d ∈ turnStart ++ ['"'], ¬ IsLoose d := by decide
  have hbehind : c ∉ '"' :: countText turn.resultCount := by
    rw [List.mem_cons, not_or]
    exact ⟨by rintro rfl; exact absurd hc (by decide), fun hmem => not_isLoose_of_mem_countText hmem hc⟩
  rw [(isQuoted_turnLine turn).text, List.append_cons] at h
  obtain ⟨a', -, hquoted⟩ := exists_of_append_eq (fun hmem => hstart c hmem hc) h
  obtain ⟨w', hbody, hw⟩ := exists_of_append_eq_of_not_mem_behind hbehind hquoted
  exact ⟨a', w', hbody, hw⟩

/-- A piece of the line of a turn that begins like the line of a question stands behind a loose boundary, and
begins there within the quotes. -/
theorem exists_of_mem_pieces {turn : Turn} {x : List Char} (hx : x ∈ pieces (Composer.turnLine turn).toList)
    (hmark : questionMark.toList <+: x) :
    ∃ a c body r b, IsLoose c ∧ escapeChars turn.question.toList = a ++ c :: (questionMark.toList ++ body) ∧
      x = questionMark.toList ++ r ∧ r ++ b = body ++ '"' :: countText turn.resultCount := by
  obtain ⟨rest, hpieces, hrest⟩ := Text.exists_pieces (not_mem_turnLine (by decide) turn)
  rw [hpieces, List.mem_cons] at hx
  obtain ⟨r, rfl⟩ := hmark
  obtain hfirst | hx := hx
  · -- The first piece begins like the line of a turn.
    rw [(isQuoted_turnLine turn).text, Text.firstPiece_append (by decide)] at hfirst
    exact absurd (List.cons.inj hfirst).1 (by decide)
  · obtain ⟨a, c, b, hboundary, hline⟩ := hrest _ hx
    have hmem : c ∈ (Composer.turnLine turn).toList := hline ▸ List.mem_append_right _ List.mem_cons_self
    have hloose := isLoose_of_isLineBoundary hboundary fun hin => not_mem_turnLine hin turn hmem
    obtain ⟨a', w', hbody, hw⟩ := exists_of_turnLine_eq hloose hline
    rw [List.append_assoc] at hw
    obtain ⟨body, rfl, hr⟩ := exists_of_append_eq (by decide) hw
    exact ⟨a', c, body, r, b, hloose, hbody, rfl, hr⟩

/-- The first piece of the text that begins like the line of a question. -/
def marked? (s : List Char) : Option (List Char) := (pieces s).find? fun line => questionMark.toList.isPrefixOf line

theorem mem_pieces_of_marked {s x : List Char} (h : marked? s = some x) :
    x ∈ pieces s ∧ questionMark.toList <+: x :=
  ⟨List.mem_of_find?_eq_some h, List.isPrefixOf_iff_prefix.mp (List.find?_some h)⟩

theorem marked_isSome {s x : List Char} (hx : x ∈ pieces s) (hmark : questionMark.toList <+: x) :
    (marked? s).isSome = true :=
  List.find?_isSome.mpr ⟨x, hx, List.isPrefixOf_iff_prefix.mpr hmark⟩

theorem marked_turnLine_isSome_iff (turn : Turn) :
    (marked? (Composer.turnLine turn).toList).isSome = true ↔ ForgesQuestion turn.question.toList := by
  constructor
  · intro h
    obtain ⟨x, hx⟩ := Option.isSome_iff_exists.mp h
    obtain ⟨hpiece, hmark⟩ := mem_pieces_of_marked hx
    obtain ⟨a, c, body, -, -, hloose, hbody, -, -⟩ := exists_of_mem_pieces hpiece hmark
    obtain ⟨a', b', heq⟩ := exists_of_escapeChars_eq (isPlain_behind hloose) hbody
    exact ⟨a', c, b', hloose, heq⟩
  · rintro ⟨a, c, b, hloose, heq⟩
    have hplain := escapeChars_of_isPlain (isPlain_behind hloose)
    have hmiddle : escapeChars (c :: (questionMark.toList ++ b)) = c :: (questionMark.toList ++ escapeChars b) :=
      (escapeChars_append (c :: questionMark.toList) b).trans (congrArg (· ++ escapeChars b) hplain)
    have hline : (Composer.turnLine turn).toList = (turnStart ++ '"' :: escapeChars a) ++
        c :: (questionMark.toList ++ (escapeChars b ++ '"' :: countText turn.resultCount)) := by
      rw [(isQuoted_turnLine turn).text, heq, escapeChars_append, hmiddle]
      simp only [List.append_assoc, List.cons_append]
    have hreturn : c ≠ '\r' := by
      rintro rfl
      exact absurd hloose (by decide)
    have hrest : '\r' ∉ escapeChars b ++ '"' :: countText turn.resultCount := by
      rw [List.mem_append, List.mem_cons, not_or, not_or]
      exact ⟨not_mem_escapeChars (by decide) b, by decide, not_mem_countText (by decide) _⟩
    obtain ⟨x, hx, hmark⟩ := Text.exists_mem_pieces hreturn hloose.1 isUnbroken_questionMark
      (turnStart ++ '"' :: escapeChars a) _ hrest
    rw [← hline] at hx
    exact marked_isSome hx hmark

/-! ## The line of the question -/

theorem questionLine_eq (question : String) :
    (Composer.questionLine (escape question)).toList =
      questionMark.toList ++ ([' ', '"'] ++ (escapeChars question.toList ++ ['"'])) := by
  have hstart : "USER QUESTION: ".toList = questionMark.toList ++ [' '] := by decide
  rw [(Composer.isQuoted_questionLine question).text, hstart, List.append_assoc]
  rfl

theorem marked_questionLine (question : String) :
    marked? (Composer.questionLine (escape question)).toList =
      some (firstPiece (Composer.questionLine (escape question)).toList) := by
  obtain ⟨rest, hpieces, -⟩ := Text.exists_pieces (Composer.not_mem_questionLine (by decide) question)
  unfold marked?
  rw [hpieces]
  refine List.find?_cons_of_pos ?_
  rw [List.isPrefixOf_iff_prefix, questionLine_eq, Text.firstPiece_append isUnbroken_questionMark]
  exact List.prefix_append _ _

/-- The question is in one piece exactly if it has no loose boundary. -/
theorem isUnbroken_questionLine_iff (question : String) :
    IsUnbroken (Composer.questionLine (escape question)).toList ↔ ∀ c ∈ question.toList, ¬ IsLoose c := by
  constructor
  · intro h c hc hloose
    have hline : c ∈ (Composer.questionLine (escape question)).toList := by
      rw [questionLine_eq]
      simp only [List.mem_append]
      exact .inr (.inr (.inl ((mem_escapeChars_iff hloose _).mpr hc)))
    exact Bool.false_ne_true ((h c hline).symm.trans hloose.1)
  · intro h c hc
    rw [← Bool.not_eq_true]
    intro hboundary
    have houtside : ∀ d ∈ questionMark.toList ++ [' ', '"'], isLineBoundary d = false := by decide
    have hloose := isLoose_of_isLineBoundary hboundary fun hin => Composer.not_mem_questionLine hin question hc
    have hbody : c ∈ escapeChars question.toList := by
      rw [questionLine_eq, ← List.append_assoc] at hc
      obtain hc | hc := List.mem_append.mp hc
      · exact absurd hboundary (by rw [houtside c hc]; exact Bool.false_ne_true)
      · obtain hc | hc := List.mem_append.mp hc
        · exact hc
        · rw [List.mem_singleton] at hc
          exact absurd hboundary (by rw [hc]; decide)
    exact h c ((mem_escapeChars_iff hloose _).mp hbody) hloose

/-- Blanks and quotes stand where they stand in lower case, so a line that is a whole line of a question in lower
case has its quotes. -/
theorem exists_of_lower_eq {r : List Char} {question : String}
    (h : lower (questionMark.toList ++ r) = lower (Composer.questionLine (escape question)).toList) :
    ∃ t, r = ' ' :: '"' :: t ∧ '"' ∈ t := by
  have hkept : [' ', '"'].map Char.toLower = [' ', '"'] := by decide
  obtain ⟨after, hascii⟩ := Text.exists_lowerFrom_ascii (a := questionMark.toList) (by decide) false
  obtain ⟨after₁, hopening⟩ := Text.exists_lowerFrom_ascii (a := [' ', '"']) (by decide) after
  unfold lower at h
  rw [questionLine_eq, hascii, hascii, List.append_cancel_left_eq, hopening, hkept] at h
  obtain ⟨after₂, s, rfl, hs⟩ := Text.exists_of_lowerFrom_eq_cons (d := ' ') (by decide) h
  obtain ⟨after₃, t, rfl, ht⟩ := Text.exists_of_lowerFrom_eq_cons (d := '"') (by decide) hs
  refine ⟨t, rfl, ?_⟩
  rw [← Text.mem_lowerFrom_iff (by decide) after₃]
  refine ht ▸ (Text.mem_lowerFrom_iff (by decide) _ _).mpr ?_
  exact List.mem_append_right _ (List.mem_singleton_self _)

/-- A piece of an earlier question is not a whole line of a question, in lower case either: a quote behind a blank is
not escaped, so the first quote of the piece could only be the closing one. -/
theorem lower_ne_of_mem_pieces {turn : Turn} {x : List Char} (hx : x ∈ pieces (Composer.turnLine turn).toList)
    (hmark : questionMark.toList <+: x) (question : String) :
    lower x ≠ lower (Composer.questionLine (escape question)).toList := by
  obtain ⟨a, c, body, r, b, -, hbody, rfl, hr⟩ := exists_of_mem_pieces hx hmark
  intro h
  obtain ⟨t, rfl, hclosing⟩ := exists_of_lower_eq h
  have hcount : '"' ∉ countText turn.resultCount := not_mem_countText (by decide) _
  match body, hr with
  | [], hr => exact absurd (List.cons.inj hr).1 (by decide)
  | [_], hr =>
    have hbehind : t ++ b = countText turn.resultCount := (List.cons.inj (List.cons.inj hr).2).2
    exact hcount (hbehind ▸ List.mem_append_left b hclosing)
  | _ :: _ :: rest, hr =>
    obtain ⟨rfl, htail⟩ := List.cons.inj hr
    obtain ⟨rfl, -⟩ := List.cons.inj htail
    have hquote : escapeChars turn.question.toList =
        (a ++ c :: questionMark.toList ++ [' ']) ++ '"' :: rest := by
      rw [hbody]
      simp only [List.append_assoc, List.cons_append, List.nil_append]
    have hescaped := (isEscaped_concat_iff _ _).mp (isEscaped_of_escapeChars (by decide) hquote)
    exact absurd hescaped.1 (by decide)

end TenderQuery.Prompt
