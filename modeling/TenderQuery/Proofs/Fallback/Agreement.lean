import TenderQuery.Proofs.Decimal.Digits
import TenderQuery.Proofs.Fallback.Acceptance
import TenderQuery.Proofs.Fallback.Years

/-!
# One statement for two spellings of a question

The rules are tried on the question in lower case. Its statement is then filled from the question as asked, or from
the question in lower case if the rule is only looked up. `statement_eq_select_iff` says that the two statements
differ exactly if the rule names the year of the question and this year is misread, and that the statement is filled
with a year exactly if the question as asked names one.
-/
set_option autoImplicit false
namespace TenderQuery.Fallback
open TenderQuery.Text

/-! ## Conditions -/

/-- The condition is built from tests that cannot fail. -/
def Condition.neverFails : Condition → Bool
  | always | mentions _ | namesYear => true
  | both first second => first.neverFails && second.neverFails
  | custom _ => false

/-- The condition holds only of questions that name a year. -/
def Condition.needsYear : Condition → Bool
  | namesYear => true
  | both first second => first.needsYear || second.needsYear
  | always | mentions _ | custom _ => false

/-- The template of the rule has a field for the year. -/
def Rule.NamesYear (rule : Rule) : Prop := containsString Template.yearField rule.template = true

namespace Condition
variable {condition : Condition} {question : List Char}

theorem exists_holds (h : condition.neverFails = true) : ∃ b, condition.holds question = .ok b := by
  induction condition with
  | always => exact ⟨_, rfl⟩
  | mentions words => exact ⟨_, rfl⟩
  | namesYear => exact ⟨_, rfl⟩
  | custom test => cases h
  | both first second ihFirst ihSecond =>
    unfold neverFails at h
    rw [Bool.and_eq_true] at h
    obtain ⟨b, hb⟩ := ihFirst h.1
    obtain ⟨b', hb'⟩ := ihSecond h.2
    unfold holds
    rw [hb, hb']
    cases b with
    | true => exact ⟨b', rfl⟩
    | false => exact ⟨false, rfl⟩

theorem year_of_holds (h : condition.needsYear = true) (hholds : condition.holds question = .ok true) :
    (year? question).isSome = true := by
  induction condition with
  | always => cases h
  | mentions words => cases h
  | custom test => cases h
  | namesYear => exact Except.ok.inj hholds
  | both first second ihFirst ihSecond =>
    unfold needsYear at h
    unfold holds at hholds
    cases hfirst : first.holds question with
    | error fault =>
      rw [hfirst] at hholds
      cases hholds
    | ok b =>
      rw [hfirst] at hholds
      cases b with
      | false => cases hholds
      | true =>
        obtain h | h := Bool.or_eq_true_iff.mp h
        · exact ihFirst h hfirst
        · exact ihSecond h hholds

end Condition

theorem holds_of_firstHolding {lowered : List Char} {rules : List Rule} {rule : Rule}
    (h : firstHolding? lowered rules = .ok (some rule)) : rule.condition.holds lowered = .ok true := by
  induction rules with
  | nil => cases h
  | cons first rest ih =>
    rw [firstHolding_cons] at h
    cases hholds : first.condition.holds lowered with
    | error fault =>
      rw [hholds] at h
      cases h
    | ok holds =>
      rw [hholds] at h
      cases holds with
      | true =>
        cases h
        exact hholds
      | false => exact ih h

/-! ## The rules for tenders -/

theorem neverFails_default : ∀ rule ∈ defaultRules, rule.condition.neverFails = true := by decide

theorem exists_matching_default (question : String) : ∃ rule, matching defaultRules question = .ok rule := by
  cases hmatch : matching defaultRules question with
  | ok rule => exact ⟨rule, rfl⟩
  | error fault =>
    obtain ⟨rule, hmem, hrule⟩ := condition_of_matching_error (List.cons_ne_nil _ _) hmatch
    obtain ⟨b, hb⟩ := Condition.exists_holds (neverFails_default rule hmem)
    rw [hb] at hrule
    cases hrule

/-- The templates with a field for the year are those of the rules that need a year, and no piece of a template reads
`None`. -/
theorem templates_default : ∀ rule ∈ defaultRules,
    contains yearMark rule.template.toList = rule.condition.needsYear ∧
      ∀ p ∈ pieces rule.template.toList, contains ['N', 'o', 'n', 'e'] p = false := by
  apply forall_default (P := fun rule template => contains yearMark template = rule.condition.needsYear ∧
    ∀ p ∈ pieces template, contains ['N', 'o', 'n', 'e'] p = false)
  decide +kernel

theorem namesYear_iff_needsYear {rule : Rule} (h : rule ∈ defaultRules) :
    rule.NamesYear ↔ rule.condition.needsYear = true := by
  unfold Rule.NamesYear containsString
  rw [yearField_toList, (templates_default rule h).1]

/-- A rule with a field for the year is found only where the lower case of the question names one. -/
theorem year_lower_of_matching {question : String} {rule : Rule} (h : matching defaultRules question = .ok rule)
    (hyear : rule.NamesYear) : (year? (lower question.toList)).isSome = true := by
  have hneeds := (namesYear_iff_needsYear (mem_of_matching h)).mp hyear
  rw [matching_eq] at h
  split at h
  · rename_i hfound
    cases h
    exact Condition.year_of_holds hneeds (holds_of_firstHolding hfound)
  · cases h
    cases hneeds
  · cases h

/-! ## Texts around a year -/

/-- Years that are written alike are the same. -/
theorem yearText_inj {year other : Option Nat} (h : yearText year = yearText other) : year = other := by
  have hnone : ∀ n, yearText (some n) ≠ yearText none := by
    intro n heq
    have hmem : 'N' ∈ yearText (some n) := by
      rw [heq, yearText_none]
      exact List.mem_cons_self
    exact absurd (isDigit_of_mem_yearText hmem) (by decide)
  cases year with
  | none =>
    cases other with
    | none => rfl
    | some n => exact absurd h.symm (hnone n)
  | some m =>
    cases other with
    | none => exact absurd h (hnone m)
    | some n =>
      rw [yearText_some, yearText_some] at h
      rw [← Decimal.digitsToNat_toDigits m, h, Decimal.digitsToNat_toDigits]

/-- What stands for the year of a question always takes four characters. -/
theorem length_yearText (s : List Char) : (yearText (year? s)).length = 4 := by
  cases hyear : year? s with
  | none => rfl
  | some n =>
    have hlengths : ∀ k < 200, (yearText (some (1900 + k))).length = 4 := by decide +kernel
    obtain ⟨w, -, hw⟩ := isYear_of_year hyear
    obtain ⟨hfirst, hlast⟩ := hw.bounds
    have hlength := hlengths (n - 1900) (by omega)
    rwa [Nat.add_sub_cancel' hfirst] at hlength

section Disjoint
variable {part w : List Char} (hne : part ≠ []) (hdisjoint : ∀ c ∈ w, c ∉ part)
include hne hdisjoint

theorem infix_of_infix_append {b : List Char} (h : part <:+: w ++ b) : part <:+: b := by
  obtain hw | hb | ⟨first, last, rfl, hfirst, hlast⟩ := List.infix_append_iff.mp h
  · obtain ⟨c, r, rfl⟩ := List.exists_cons_of_ne_nil hne
    exact absurd List.mem_cons_self (hdisjoint c (hw.subset List.mem_cons_self))
  · exact hb
  · cases first with
    | nil => exact hlast.isInfix
    | cons c first => exact absurd List.mem_cons_self (hdisjoint c (hfirst.subset List.mem_cons_self))

/-- A text that shares no character with the word between two texts stands in one of them. -/
theorem infix_or_infix_of_word (hword : w ≠ []) {a b : List Char} (h : part <:+: a ++ (w ++ b)) :
    part <:+: a ∨ part <:+: b := by
  obtain ha | hb | ⟨first, last, rfl, hfirst, hlast⟩ := List.infix_append_iff.mp h
  · exact .inl ha
  · exact .inr (infix_of_infix_append hne hdisjoint hb)
  · cases last with
    | nil =>
      rw [List.append_nil]
      exact .inl hfirst.isInfix
    | cons d last =>
      obtain ⟨c, w, rfl⟩ := List.exists_cons_of_ne_nil hword
      rw [List.cons_append, List.cons_prefix_cons] at hlast
      exact absurd (List.mem_append_right _ (hlast.1 ▸ List.mem_cons_self)) (hdisjoint c List.mem_cons_self)

theorem infix_of_infix_intercalate (hword : w ≠ []) {ps : List (List Char)} (h : part <:+: w.intercalate ps) :
    ∃ p ∈ ps, part <:+: p := by
  induction ps with
  | nil => exact absurd (List.infix_nil.mp h) hne
  | cons p rest ih =>
    cases rest with
    | nil =>
      rw [List.intercalate_singleton] at h
      exact ⟨p, List.mem_cons_self, h⟩
    | cons q rest =>
      rw [List.intercalate_cons_cons, List.append_assoc] at h
      obtain hp | hrest := infix_or_infix_of_word hne hdisjoint hword h
      · exact ⟨p, List.mem_cons_self, hp⟩
      · obtain ⟨p', hmem, hp'⟩ := ih hrest
        exact ⟨p', List.mem_cons_of_mem _ hmem, hp'⟩

end Disjoint

/-! ## The statements -/

theorem render_default {rule : Rule} (h : rule ∈ defaultRules) (s : List Char) :
    rule.render s = .ok (String.ofList ((yearText (year? s)).intercalate (pieces rule.template.toList))) :=
  render_eq (plainTemplate_default rule h).braces s

/-- A template has a gap for the year exactly if it has a field for it. -/
theorem namesYear_iff {rule : Rule} (h : rule ∈ defaultRules) :
    rule.NamesYear ↔ ∃ p q rest, pieces rule.template.toList = p :: q :: rest := by
  have htext := intercalate_pieces rule.template.toList
  unfold Rule.NamesYear containsString
  rw [contains_iff_isInfix, yearField_toList]
  constructor
  · intro hfield
    obtain ⟨p, rest, hpieces⟩ := exists_pieces_eq_cons rule.template.toList
    cases rest with
    | cons q rest => exact ⟨p, q, rest, hpieces⟩
    | nil =>
      have hbrace : '\x7b' ∈ p := by
        rw [hpieces, List.intercalate_singleton] at htext
        rw [htext]
        exact hfield.subset List.mem_cons_self
      have hplain := (plainTemplate_default rule h).braces p (hpieces ▸ List.mem_cons_self) _ hbrace
      cases hplain
  · rintro ⟨p, q, rest, hpieces⟩
    rw [hpieces, List.intercalate_cons_cons] at htext
    exact ⟨p, _, htext⟩

/-- The statement is filled with the year that the question names. -/
structure StatesYear (question : List Char) (sql : String) : Prop where
  year : ∃ n, year? question = some n ∧ 1900 ≤ n ∧ n ≤ 2099 ∧ containsString (toString n) sql = true
  plain : containsString "None" sql = false

section Filled
variable {rule : Rule} (h : rule ∈ defaultRules) (hyear : rule.NamesYear) {s : List Char} {sql : String}
  (hsql : rule.render s = .ok sql)
include h hyear hsql

theorem yearText_infix : yearText (year? s) <:+: sql.toList := by
  obtain ⟨p, q, rest, hpieces⟩ := (namesYear_iff h).mp hyear
  rw [render_default h] at hsql
  cases hsql
  rw [String.toList_ofList, hpieces, List.intercalate_cons_cons]
  exact ⟨p, _, rfl⟩

/-- A missing year is written out, and nothing else in the statement reads like it. -/
theorem containsNone_iff : containsString "None" sql = true ↔ year? s = none := by
  have hinfix := yearText_infix h hyear hsql
  unfold containsString
  rw [contains_iff_isInfix, String.toList_ofList]
  constructor
  · rintro hnone
    rw [render_default h] at hsql
    cases hsql
    rw [String.toList_ofList] at hnone
    cases hn : year? s with
    | none => rfl
    | some n =>
      rw [hn] at hnone
      have hletters : ∀ c ∈ ['N', 'o', 'n', 'e'], c.isDigit = false := by decide
      obtain ⟨p, hmem, hp⟩ := infix_of_infix_intercalate (List.cons_ne_nil _ _)
        (fun c hc hletter => Bool.false_ne_true ((hletters c hletter).symm.trans (isDigit_of_mem_yearText hc)))
        (isFiller_yearText _).ne_nil hnone
      rw [← contains_iff_isInfix, (templates_default rule h).2 p hmem] at hp
      cases hp
  · intro hnone
    rwa [hnone, yearText_none] at hinfix

theorem statesYear_iff : StatesYear s sql ↔ year? s ≠ none := by
  constructor
  · intro hstates hnone
    obtain ⟨n, hn, -⟩ := hstates.year
    rw [hnone] at hn
    cases hn
  · intro hsome
    obtain ⟨n, hn⟩ := Option.ne_none_iff_exists'.mp hsome
    obtain ⟨w, -, hw⟩ := isYear_of_year hn
    have hinfix := yearText_infix h hyear hsql
    rw [hn] at hinfix
    refine ⟨⟨n, hn, hw.bounds.1, hw.bounds.2, (contains_iff_isInfix _ _).mpr hinfix⟩, ?_⟩
    exact Bool.eq_false_iff.mpr fun hnone => hsome ((containsNone_iff h hyear hsql).mp hnone)

end Filled

theorem render_eq_render_iff {rule : Rule} (h : rule ∈ defaultRules) (s t : List Char) :
    rule.render s = rule.render t ↔ ¬ (rule.NamesYear ∧ year? s ≠ year? t) := by
  rw [render_default h, render_default h, namesYear_iff h]
  constructor
  · rintro heq ⟨⟨p, q, rest, hpieces⟩, hne⟩
    refine hne (yearText_inj ?_)
    rw [hpieces, Except.ok.injEq, String.ofList_inj, List.intercalate_cons_cons, List.intercalate_cons_cons,
      List.append_assoc, List.append_assoc, List.append_cancel_left_eq] at heq
    exact List.append_inj_left heq ((length_yearText s).trans (length_yearText t).symm)
  · intro hsame
    cases hpieces : pieces rule.template.toList with
    | nil => rfl
    | cons p rest =>
      cases rest with
      | nil => rw [List.intercalate_singleton, List.intercalate_singleton]
      | cons q rest =>
        have hyear : year? s = year? t := Decidable.not_not.mp fun hne => hsame ⟨⟨p, q, rest, hpieces⟩, hne⟩
        rw [hyear]

theorem select_eq {rules : List Rule} {question : String} {rule : Rule} (h : matching rules question = .ok rule) :
    select rules question = rule.render (lower question.toList) := by
  unfold select
  change (matching rules question >>= fun rule => rule.render (lower question.toList)) = _
  rw [h]
  rfl

/-- For every question there is one rule, and its statement for the question as asked, which is always defined, is
the one that is looked up for the question, unless the rule names a year and the question is misread. A statement of
a rule that names a year states the year of the question, unless the question has none and is misread.

A question that is missing counts as an empty one. -/
theorem statement_eq_select_iff (question : Option String) :
    ∃ rule sql, matching defaultRules (question.getD "") = .ok rule ∧
      statement defaultRules (question.getD "") = .ok sql ∧
      (select defaultRules (question.getD "") = .ok sql ↔
        ¬ (rule.NamesYear ∧ Misread (question.getD "").toList)) ∧
      (rule.NamesYear → (StatesYear (question.getD "").toList sql ↔
        ¬ (Misread (question.getD "").toList ∧ year? (question.getD "").toList = none))) := by
  generalize question.getD "" = asked
  obtain ⟨rule, hmatch⟩ := exists_matching_default asked
  have hmem := mem_of_matching hmatch
  obtain ⟨sql, hsql⟩ : ∃ sql, rule.render asked.toList = .ok sql := ⟨_, render_default hmem _⟩
  refine ⟨rule, sql, hmatch, ?_, ?_, fun hyear => ?_⟩
  · rw [statement_eq, hmatch]
    exact hsql
  · rw [← hsql, select_eq hmatch, render_eq_render_iff hmem, year_lower_ne_iff]
  · have hlower := year_lower_of_matching hmatch hyear
    rw [statesYear_iff hmem hyear hsql, ← year_lower_ne_iff]
    constructor
    · rintro hsome ⟨-, hnone⟩
      exact hsome hnone
    · intro hread hnone
      refine hread ⟨fun heq => ?_, hnone⟩
      rw [heq, hnone] at hlower
      cases hlower

/-- The rule is found by the year behind the dotted capital I, but the statement is filled with none. -/
theorem statement_dottedYear :
    ∃ sql, statement defaultRules "biggest \u01302023" = .ok sql ∧
      select defaultRules "biggest \u01302023" ≠ .ok sql ∧ containsString "None" sql = true := by
  have hneeds : (matching defaultRules "biggest \u01302023").toOption.any (fun rule => rule.condition.needsYear) =
      true := by decide +kernel
  have hyears : year? "biggest \u01302023".toList = none ∧
      year? (lower "biggest \u01302023".toList) = some 2023 := by decide +kernel
  obtain ⟨rule, hmatch⟩ := exists_matching_default "biggest \u01302023"
  have hmem := mem_of_matching hmatch
  rw [hmatch] at hneeds
  have hyear : rule.NamesYear := (namesYear_iff_needsYear hmem).mpr hneeds
  obtain ⟨sql, hsql⟩ : ∃ sql, rule.render "biggest \u01302023".toList = .ok sql := ⟨_, render_default hmem _⟩
  refine ⟨sql, ?_, ?_, (containsNone_iff hmem hyear hsql).mpr hyears.1⟩
  · rw [statement_eq, hmatch]
    exact hsql
  · rw [← hsql, select_eq hmatch]
    refine fun heq => (render_eq_render_iff hmem _ _).mp heq ⟨hyear, ?_⟩
    rw [hyears.1, hyears.2]
    exact Option.some_ne_none 2023

end TenderQuery.Fallback
