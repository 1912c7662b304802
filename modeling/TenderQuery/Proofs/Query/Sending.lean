import TenderQuery.Proofs.Fallback.Acceptance
import TenderQuery.Proofs.Query.Events
import TenderQuery.Proofs.Sql.Filter

/-!
# What reaches the database

The model's statement is judged before the filter is put into it, and a fallback statement is not judged at
all; `sent_statements` says that both checks accept whatever is sent, as it is sent.
-/
set_option autoImplicit false
namespace TenderQuery.Query
open TenderQuery.Sql

namespace Pipeline
variable {σ : Type}

/-- An accepted statement is the model's text, normalized and filtered, and both checks let it through. -/
theorem accepted_of_judge {content : Json} {sql : String} (h : judge {} content = .accepted sql) :
    (∃ output, content = .text output ∧ sql = ({} : SoftDelete).inject (normalize output)) ∧
      isReadOnly sql = true ∧ isWellShaped sql = true := by
  unfold judge at h
  simp only at h
  split at h
  · cases h
  · rename_i hempty
    split at h
    · cases h
    · cases h
    · rename_i hviolation hdefect
      cases h
      have hgate : isReadOnly (normalizeContent content) = true := by
        unfold isReadOnly
        rw [hviolation]
        rfl
      have hshape : isWellShaped (({} : SoftDelete).inject (normalizeContent content)) = true := by
        unfold isWellShaped
        rw [hdefect]
        rfl
      refine ⟨?_, isReadOnly_inject hgate hshape, hshape⟩
      unfold normalizeContent at hempty ⊢
      split
      · exact ⟨_, rfl, rfl⟩
      · rename_i hcontent
        split at hempty
        · rename_i output
          exact absurd rfl (hcontent output)
        · exact absurd rfl hempty

/-! ## The end of a request -/

theorem statements_finish (p : Pipeline σ) (started : Number) (run : Run σ) (r : Record)
    (result : Except Fault Reply) :
    statements (p.finish started run r result).events = statements run.events := by
  unfold finish
  rw [statements_append]
  exact List.append_nil _

theorem statements_conclude (p : Pipeline σ) (started : Number) (result : Except Fault Reply)
    (run : Run σ) :
    statements (p.conclude started result run).events = statements run.events := by
  unfold conclude
  cases result with
  | ok reply => exact statements_finish _ _ _ _ _
  | error fault =>
    simp only
    split
    · rfl
    · split
      · exact statements_finish _ _ _ _ _
      · exact statements_finish _ _ _ _ _

/-- At most two statements are sent: one made of the model's output, which holds the filter, and then one of a
fallback rule. Both checks accept each of them as it is sent. -/
theorem sent_statements {p : Pipeline σ} (hpolicy : p.config.policy = {})
    (hrules : p.config.rules = Fallback.defaultRules)
    (timestamp generated : String) (question : Question)
    (cache : Schema.Cache Number Schema.Snapshot) (world : σ) :
    ∃ primary fallback : Option String,
      statements (p.ask timestamp generated question cache world).events = primary.toList ++ fallback.toList ∧
      (∀ sql ∈ statements (p.ask timestamp generated question cache world).events,
        isReadOnly sql = true ∧ isWellShaped sql = true) ∧
      (∀ sql ∈ primary, ∃ output,
        p.modelAnswer? question (p.begun timestamp generated question cache world) = some (.ok (.text output)) ∧
          sql = ({} : SoftDelete).inject (normalize output) ∧ ({} : SoftDelete).isPresent sql = true) ∧
      ∀ sql ∈ fallback, Fallback.statement Fallback.defaultRules (question.text.getD "") = .ok sql := by
  cases hblank : Text.isEmptyOrBlank (question.text.getD "").toList with
  | true =>
    rw [ask_of_blank hblank]
    refine ⟨none, none, rfl, ?_, ?_, ?_⟩
    · intro sql hsql
      cases hsql
    · intro sql hsql
      cases hsql
    · intro sql hsql
      cases hsql
  | false =>
    obtain ⟨n, request, primary, fallback, hevents, hprimary, hfallback⟩ :=
      events_course (course_answer p question (p.begun timestamp generated question cache world))
    have hsent : statements (p.ask timestamp generated question cache world).events =
        primary.toList ++ fallback.toList := by
      rw [ask_of_not_blank hblank, statements_conclude, hevents]
      simp [begun, statements]
    rw [hpolicy] at hprimary
    rw [hrules] at hfallback
    refine ⟨primary, fallback, hsent, ?_, ?_, hfallback⟩
    · intro sql hsql
      rw [hsent, List.mem_append, Option.mem_toList, Option.mem_toList] at hsql
      obtain hsql | hsql := hsql
      · obtain ⟨content, -, hjudge⟩ := hprimary sql hsql
        exact (accepted_of_judge hjudge).2
      · exact Fallback.accepted_of_statement (hfallback sql hsql)
    · intro sql hsql
      obtain ⟨content, hanswer, hjudge⟩ := hprimary sql hsql
      obtain ⟨⟨output, rfl, rfl⟩, -⟩ := accepted_of_judge hjudge
      exact ⟨output, hanswer, rfl, isPresent_inject _ _⟩

/-- A pipeline whose model always gives the same statement and whose database refuses every statement. -/
def refused : Pipeline Unit where
  config := {}
  collaborators :=
    { complete := fun _ world => (.ok (.text "SELECT Name FROM tenderTender"), world)
      fetchAll := fun _ world => (.error ⟨.execution, "refused"⟩, world)
      introspect := none
      now := fun world => (.whole 0, world)
      cacheNow := fun world => (.whole 0, world) }

theorem sent_statements_refused :
    refused.config.policy = {} ∧ refused.config.rules = Fallback.defaultRules ∧
      ∃ primary fallback : Option String,
        statements (refused.ask "t" "id" { text := some "Which tenders closed?" } ⟨none⟩ ()).events =
          primary.toList ++ fallback.toList ∧
        (∀ sql ∈ statements (refused.ask "t" "id" { text := some "Which tenders closed?" } ⟨none⟩ ()).events,
          isReadOnly sql = true ∧ isWellShaped sql = true) ∧
        (∀ sql ∈ primary, ∃ output,
          refused.modelAnswer? { text := some "Which tenders closed?" }
              (refused.begun "t" "id" { text := some "Which tenders closed?" } ⟨none⟩ ()) =
            some (.ok (.text output)) ∧
            sql = ({} : SoftDelete).inject (normalize output) ∧ ({} : SoftDelete).isPresent sql = true) ∧
        ∀ sql ∈ fallback, Fallback.statement Fallback.defaultRules "Which tenders closed?" = .ok sql :=
  ⟨rfl, rfl, sent_statements rfl rfl "t" "id" { text := some "Which tenders closed?" } ⟨none⟩ ()⟩

end Pipeline

end TenderQuery.Query
