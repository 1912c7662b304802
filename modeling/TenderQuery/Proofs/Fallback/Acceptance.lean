import TenderQuery.Fallback.Default
import TenderQuery.Proofs.Fallback.Filling
import TenderQuery.Proofs.Fallback.Selection
import TenderQuery.Proofs.Sql.Plain
import TenderQuery.Proofs.Text.Bytes

/-!
# The rules for tenders pass the checks

Fallback statements are sent unchecked. `accepted_of_statement` says that those of the default rules would
pass both checks, whatever the question is and whatever year it names.
-/
set_option autoImplicit false
namespace TenderQuery.Fallback
open TenderQuery.Text TenderQuery.Sql

/-- The year of a question stands as a word that no check looks for. -/
theorem isFiller_yearText (year : Option Nat) : IsFiller (yearText year) := by
  cases year with
  | none =>
    rw [yearText_none]
    exact ⟨by decide, by decide, by decide⟩
  | some n =>
    have hne : yearText (some n) ≠ [] := yearText_some n ▸ Nat.toDigits_ne_nil
    refine ⟨hne, fun c hc => isWord_of_isDigit (isDigit_of_mem_yearText hc), ?_⟩
    obtain ⟨c, r, hcons⟩ := List.exists_cons_of_ne_nil hne
    rw [hcons]
    exact isQuiet_of_isDigit (isDigit_of_mem_yearText (hcons ▸ List.mem_cons_self)) r

/-- A template that is filled piece by piece and is plain in all its pieces. -/
structure PlainTemplate (template : List Char) : Prop where
  braces : ∀ p ∈ pieces template, ∀ c ∈ p, isBrace c = false
  plain : PlainPieces (pieces template)

theorem accepted_of_render {template sql : String} {question : List Char}
    (h : PlainTemplate template.toList)
    (hsql : Template.render template question = .ok sql) :
    isReadOnly sql = true ∧ isWellShaped sql = true := by
  rw [render_eq h.braces] at hsql
  cases hsql
  apply accepted_of_isPlain
  rw [String.toList_ofList]
  exact h.plain.isPlain (isFiller_yearText _)

instance (template : List Char) : Decidable (PlainTemplate template) :=
  decidable_of_iff ((∀ p ∈ pieces template, ∀ c ∈ p, isBrace c = false) ∧ PlainPieces (pieces template))
    ⟨fun ⟨h₁, h₂⟩ => ⟨h₁, h₂⟩, fun ⟨h₁, h₂⟩ => ⟨h₁, h₂⟩⟩

/-- A property of all default templates, decided on their bytes. -/
theorem forall_default {P : Rule → List Char → Prop}
    (h : ∀ rule ∈ defaultRules, P rule (charsOf rule.template)) :
    ∀ rule ∈ defaultRules, P rule rule.template.toList := by
  have hprintable : ∀ rule ∈ defaultRules, isPrintableAscii rule.template = true := by decide +kernel
  intro rule hrule
  rw [toList_eq_charsOf (hprintable rule hrule)]
  exact h rule hrule

theorem plainTemplate_default : ∀ rule ∈ defaultRules, PlainTemplate rule.template.toList :=
  forall_default (P := fun _ template => PlainTemplate template) (by decide +kernel)

theorem accepted_of_statement {question sql : String} (h : statement defaultRules question = .ok sql) :
    isReadOnly sql = true ∧ isWellShaped sql = true := by
  rw [statement_eq] at h
  cases hmatch : matching defaultRules question with
  | error fault =>
    rw [hmatch] at h
    cases h
  | ok rule =>
    rw [hmatch] at h
    exact accepted_of_render (plainTemplate_default rule (mem_of_matching hmatch)) h

end TenderQuery.Fallback
