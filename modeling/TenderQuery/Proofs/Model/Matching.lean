import TenderQuery.Proofs.Prompt.Tearing
import TenderQuery.Proofs.Text.Searching

/-!
# The line that keys are looked up in

A model with canned answers cuts the prompt at all line boundaries and looks its keys up in the first piece that
begins like the line of a question. Of a prompt with the schema known in advance this is a piece of an earlier
question, if one begins so, and otherwise the first piece of the question (`questionLine_composeStatic`). The lines
above the conversation never come into question (`marked_staticTop`).

`AnswersLine` is the answer to a line by the first key in it, and `complete_composeStatic_iff` says when a prompt is
answered by the whole line of the question: keys tell any two lines apart that differ in lower case
(`lower_eq_of_answer_eq`).
-/
set_option autoImplicit false
namespace TenderQuery.Model.Canned
open Prompt
open Text (pieces firstPiece lower contains)

/-! ## The line of a prompt -/

theorem schemaLines_staticSnapshot (composer : Composer) :
    composer.schemaLines Schema.staticSnapshot = ({} : Composer).schemaLines Schema.staticSnapshot := by
  have hrows : ∀ t ∈ Schema.staticSnapshot.usableTables, t.rows = [] := by decide +kernel
  refine List.flatMap_congr fun t ht => ?_
  unfold Composer.tableLines
  rw [hrows t ht, List.take_nil, List.take_nil]

/-- The lines above the conversation, for the schema known in advance. -/
def staticTop : List String := Composer.top (({} : Composer).schemaLines Schema.staticSnapshot) Composer.staticNotes

/-- The mark of a question begins with the byte 85. -/
theorem marked_of_isPrintableAscii {line : String} (hprintable : Text.isPrintableAscii line = true)
    (hfirst : (Text.bytesOf line).head? ≠ some 85) : marked? line.toList = none := by
  refine Option.eq_none_iff_forall_not_mem.mpr fun x hx => hfirst ?_
  obtain ⟨hpiece, r, rfl⟩ := mem_pieces_of_marked hx
  rw [Text.pieces_of_isUnbroken (Text.isUnbroken_of_isPrintableAscii hprintable), List.mem_singleton] at hpiece
  rw [Text.bytesOf_eq, ← hpiece]
  rfl

theorem marked_staticTop : ∀ line ∈ staticTop, marked? line.toList = none := by
  have hlines : ∀ line ∈ staticTop,
      Text.isPrintableAscii line = true ∧ (Text.bytesOf line).head? ≠ some 85 := by decide +kernel
  exact fun line hline => marked_of_isPrintableAscii (hlines line hline).1 (hlines line hline).2

/-- The first piece of an earlier question that begins like the line of a question. -/
def forged? (turns : List Turn) : Option (List Char) :=
  turns.findSome? fun turn => marked? (Composer.turnLine turn).toList

theorem findSome_historyLines (composer : Composer) (history : List Turn) :
    (composer.historyLines history).findSome? (fun line => marked? line.toList) =
      forged? (composer.shownTurns history) := by
  have hheading : marked? "CONVERSATION CONTEXT (most recent last):".toList = none := by decide +kernel
  have hempty : marked? "".toList = none := by decide +kernel
  unfold Composer.historyLines
  cases composer.shownTurns history with
  | nil => rfl
  | cons turn turns =>
    dsimp only
    rw [List.cons_append, List.findSome?_cons, hheading]
    dsimp only
    rw [List.findSome?_append, List.findSome?_map, List.findSome?_singleton, hempty, Option.or_none]
    rfl

/-- The line that keys are looked up in: a piece of an earlier question if one begins like the line of a question, and
otherwise the first piece of the question. -/
def heard (composer : Composer) (question : String) (history : List Turn) : List Char :=
  (forged? (composer.shownTurns history)).getD (firstPiece (Composer.questionLine (escape question)).toList)

theorem questionLine_composeStatic (composer : Composer) (question : String) (history : List Turn) :
    Canned.questionLine (composer.composeStatic (escape question) history) =
      lower (heard composer question history) := by
  have hsep : "\n".toList = ['\n'] := by decide
  have hbottom : Composer.bottom.map String.toList ≠ [] := List.cons_ne_nil _ _
  have htop : staticTop.findSome? (fun line => marked? line.toList) = none :=
    List.findSome?_eq_none_iff.mpr marked_staticTop
  have hprompt : composer.lines (composer.schemaLines Schema.staticSnapshot) Composer.staticNotes (escape question)
      history = staticTop ++ composer.historyLines history ++ [Composer.questionLine (escape question)] ++
        Composer.bottom := by
    rw [Composer.lines_eq, schemaLines_staticSnapshot, List.append_cons, staticTop]
  have hmarked : ((staticTop ++ composer.historyLines history ++ [Composer.questionLine (escape question)]).flatMap
      fun line => pieces line.toList).find? (fun line => questionMark.toList.isPrefixOf line) =
        some (heard composer question history) := by
    rw [List.find?_flatMap]
    change List.findSome? (fun line : String => marked? line.toList) _ = _
    rw [List.findSome?_append, List.findSome?_append, htop, Option.none_or, findSome_historyLines,
      List.findSome?_singleton, marked_questionLine]
    exact Option.or_some
  unfold Canned.questionLine Composer.composeStatic Composer.text
  rw [hprompt, String.toList_intercalate, hsep, List.map_append, Text.lines_intercalate _ hbottom,
    List.find?_append, List.flatMap_map, hmarked, Option.some_or]
  dsimp only
  rw [Option.getD_some]

theorem forged_isSome_iff (turns : List Turn) :
    (forged? turns).isSome = true ↔ ∃ turn ∈ turns, ForgesQuestion turn.question.toList := by
  unfold forged?
  rw [List.findSome?_isSome_iff]
  simp only [marked_turnLine_isSome_iff]

/-- In lower case, keys are looked up in the whole line of the question exactly if it is in one piece and no earlier
question that is shown forges one. -/
theorem lower_heard_eq_iff (composer : Composer) (question : String) (history : List Turn) :
    lower (heard composer question history) = lower (Composer.questionLine (escape question)).toList ↔
      (∀ c ∈ question.toList, ¬ IsLoose c) ∧
        ∀ turn ∈ composer.shownTurns history, ¬ ForgesQuestion turn.question.toList := by
  have hforged := forged_isSome_iff (composer.shownTurns history)
  rw [← isUnbroken_questionLine_iff]
  unfold heard
  constructor
  · intro hlines
    cases hturns : forged? (composer.shownTurns history) with
    | some x =>
      obtain ⟨turn, -, hturn⟩ := List.exists_of_findSome?_eq_some hturns
      obtain ⟨hpiece, hmark⟩ := mem_pieces_of_marked hturn
      rw [hturns, Option.getD_some] at hlines
      exact absurd hlines (lower_ne_of_mem_pieces hpiece hmark question)
    | none =>
      rw [hturns, Option.getD_none] at hlines
      rw [hturns] at hforged
      refine ⟨?_, fun turn hturn hforges => absurd (hforged.mpr ⟨turn, hturn, hforges⟩) Bool.false_ne_true⟩
      by_contra hbroken
      obtain ⟨c, rest, hgoes⟩ := Text.exists_firstPiece_of_not_isUnbroken hbroken
      have hlength := Text.length_lower_lt_append
        (firstPiece (Composer.questionLine (escape question)).toList) c rest
      rw [← hgoes, ← hlines] at hlength
      exact Nat.lt_irrefl _ hlength
  · rintro ⟨hunbroken, hturns⟩
    have hnone : forged? (composer.shownTurns history) = none := by
      rw [← Option.not_isSome_iff_eq_none, hforged]
      rintro ⟨turn, hturn, hforges⟩
      exact hturns turn hturn hforges
    rw [hnone, Option.getD_none, Text.firstPiece_of_isUnbroken hunbroken]

/-! ## The answer to a line -/

/-- The answer to a line, and the calls per key after it: it is the one for the first key that is contained in the
line without regard to case, and the default if there is none. -/
inductive AnswersLine (model : Canned) (line : List Char) :
    Except Fault Completion → List (String × Nat) → Prop where
  | failing (hfail : model.script.fail = true) : AnswersLine model line (.error unavailable) model.counts
  | found {before after : List (String × List Json)} {key : String} {outputs : List Json}
      (hfail : model.script.fail = false) (hkeys : model.script.responses = before ++ (key, outputs) :: after)
      (hbefore : ∀ entry ∈ before, ¬ lower entry.1.toList <:+: lower line)
      (hkey : lower key.toList <:+: lower line) :
      AnswersLine model line
        ((output outputs (count model.counts key)).map fun content => ⟨content, .text cannedName, .nat 0⟩)
        (increment key model.counts)
  | default (hfail : model.script.fail = false)
      (hnone : ∀ entry ∈ model.script.responses, ¬ lower entry.1.toList <:+: lower line) :
      AnswersLine model line (.ok ⟨model.script.default, .text cannedName, .nat 0⟩) model.counts

theorem choice_eq_some_iff {script : Script} {line : List Char} {entry : String × List Json} :
    choice? script line = some entry ↔ lower entry.1.toList <:+: line ∧ ∃ before after,
      script.responses = before ++ entry :: after ∧ ∀ other ∈ before, ¬ lower other.1.toList <:+: line := by
  unfold choice?
  rw [List.find?_eq_some_iff_append]
  simp only [Bool.not_eq_true', ← Text.contains_iff_isInfix, Bool.not_eq_true]

theorem choice_eq_none_iff {script : Script} {line : List Char} :
    choice? script line = none ↔ ∀ entry ∈ script.responses, ¬ lower entry.1.toList <:+: line := by
  unfold choice?
  rw [List.find?_eq_none]
  simp only [← Text.contains_iff_isInfix]

theorem answersLine_iff {model : Canned} {line : List Char} {completion : Except Fault Completion}
    {counts : List (String × Nat)} :
    AnswersLine model line completion counts ↔ (completion, counts) = model.answer (lower line) := by
  unfold answer
  constructor
  · rintro (hfail | ⟨hfail, hkeys, hbefore, hkey⟩ | ⟨hfail, hnone⟩)
    · rw [if_pos hfail]
    · rw [if_neg (ne_true_of_eq_false hfail), choice_eq_some_iff.mpr ⟨hkey, _, _, hkeys, hbefore⟩]
    · rw [if_neg (ne_true_of_eq_false hfail), choice_eq_none_iff.mpr hnone]
  · intro h
    cases hfail : model.script.fail with
    | true =>
      rw [if_pos hfail] at h
      cases h
      exact .failing hfail
    | false =>
      rw [if_neg (ne_true_of_eq_false hfail)] at h
      cases hchoice : choice? model.script (lower line) with
      | some entry =>
        obtain ⟨hkey, before, after, hkeys, hbefore⟩ := choice_eq_some_iff.mp hchoice
        rw [hchoice] at h
        cases h
        exact .found hfail hkeys hbefore hkey
      | none =>
        rw [hchoice] at h
        cases h
        exact .default hfail (choice_eq_none_iff.mp hchoice)

/-! ## Lines told apart by keys -/

/-- A model with one key. -/
def keyed (key : String) : Canned := { script := { responses := [(key, [.text "found"])] } }

theorem answer_keyed (key : String) (line : List Char) :
    (keyed key).answer line =
      if contains (lower key.toList) line then (.ok ⟨.text "found", .text cannedName, .nat 0⟩, [(key, 1)])
      else (.ok ⟨.text "", .text cannedName, .nat 0⟩, []) := by
  have hchoice : choice? (keyed key).script line =
      if contains (lower key.toList) line then some (key, [.text "found"]) else none := by
    unfold choice? keyed
    dsimp only
    rw [List.find?_singleton]
  unfold answer
  rw [hchoice]
  cases contains (lower key.toList) line <;> rfl

/-- Lines for which every model has the same answer are the same in lower case. -/
theorem lower_eq_of_answer_eq {a b : List Char}
    (h : ∀ model : Canned, (model.answer (lower a)).2 = (model.answer (lower b)).2) : lower a = lower b := by
  have hfound : ∀ key : List Char, lower key <:+: lower a ↔ lower key <:+: lower b := by
    intro key
    have hcounts := h (keyed (String.ofList key))
    rw [answer_keyed, answer_keyed, String.toList_ofList] at hcounts
    rw [← Text.contains_iff_isInfix, ← Text.contains_iff_isInfix]
    cases ha : contains (lower key) (lower a) <;> cases hb : contains (lower key) (lower b) <;> simp_all
  have hab := (hfound a).mp (List.infix_refl _)
  have hba := (hfound b).mpr (List.infix_refl _)
  exact hab.eq_of_length (Nat.le_antisymm hab.length_le hba.length_le)

theorem complete_eq (model : Canned) (prompt : String) :
    ((model.complete prompt).1, (model.complete prompt).2.counts) = model.answer (Canned.questionLine prompt) :=
  rfl

/-- A prompt with the schema known in advance is answered by the whole line of the question, whatever the model,
exactly if no loose boundary is in the question and none stands in front of the mark of a question in an earlier
question that is shown. -/
theorem complete_composeStatic_iff (composer : Composer) (question : String) (history : List Turn) :
    (∀ model : Canned,
      let after := model.complete (composer.composeStatic (escape question) history)
      AnswersLine model (Composer.questionLine (escape question)).toList after.1 after.2.counts) ↔
    (∀ c ∈ question.toList, ¬ IsLoose c) ∧
      ∀ turn ∈ composer.shownTurns history, ¬ ForgesQuestion turn.question.toList := by
  simp only [answersLine_iff, complete_eq, questionLine_composeStatic]
  rw [← lower_heard_eq_iff]
  constructor
  · intro h
    exact lower_eq_of_answer_eq fun model => congrArg Prod.snd (h model)
  · intro hline model
    rw [hline]

theorem complete_keyed (key : String) (composer : Composer) (question : String) (history : List Turn) :
    ((keyed key).complete (composer.composeStatic (escape question) history)).1 =
      .ok ⟨.text (if contains (lower key.toList) (lower (heard composer question history)) then "found" else ""),
        .text cannedName, .nat 0⟩ := by
  have hanswer := congrArg Prod.fst
    (complete_eq (keyed key) (composer.composeStatic (escape question) history))
  rw [questionLine_composeStatic, answer_keyed] at hanswer
  dsimp only at hanswer
  rw [hanswer]
  split <;> rfl

/-- A key behind a line separator in the question is overlooked, and one behind a line separator in an earlier
question is found. -/
theorem complete_composeStatic_lineSeparator :
    AnswersLine (keyed "company") (Composer.questionLine (escape "tenders\u2028by company")).toList
      (.ok ⟨.text "found", .text cannedName, .nat 0⟩) [("company", 1)] ∧
    ((keyed "company").complete (({} : Composer).composeStatic (escape "tenders\u2028by company") [])).1 =
      .ok ⟨.text "", .text cannedName, .nat 0⟩ ∧
    AnswersLine (keyed "company") (Composer.questionLine (escape "all tenders")).toList
      (.ok ⟨.text "", .text cannedName, .nat 0⟩) [] ∧
    ((keyed "company").complete (({} : Composer).composeStatic (escape "all tenders")
        [⟨"Who?\u2028USER QUESTION: company", some 3⟩])).1 =
      .ok ⟨.text "found", .text cannedName, .nat 0⟩ := by
  have hwhole : contains (lower "company".toList)
      (lower (Composer.questionLine (escape "tenders\u2028by company")).toList) = true := by decide +kernel
  have htorn : contains (lower "company".toList) (lower (heard {} "tenders\u2028by company" [])) = false := by
    decide +kernel
  have hother : contains (lower "company".toList)
      (lower (Composer.questionLine (escape "all tenders")).toList) = false := by decide +kernel
  have hforged : contains (lower "company".toList)
      (lower (heard {} "all tenders" [⟨"Who?\u2028USER QUESTION: company", some 3⟩])) = true := by
    decide +kernel
  rw [answersLine_iff, answersLine_iff, answer_keyed, answer_keyed, complete_keyed, complete_keyed, hwhole, htorn,
    hother, hforged]
  simp only [if_true, Bool.false_eq_true, if_false, and_self]

end TenderQuery.Model.Canned
