import TenderQuery.Audit.Log
import TenderQuery.Audit.Report
import TenderQuery.Database.Pool
import TenderQuery.Digest.Sha256
import TenderQuery.Model.ChatClient
import TenderQuery.Model.Demo
import TenderQuery.Query.Pipeline
import TenderQuery.Schema.CacheSchedule
import TenderQuery.Schema.Introspection
import TenderQuery.Service.Application
import TenderQuery.Service.Assembly
import TenderQuery.Proofs.Json.Delimited
import TenderQuery.Proofs.Audit.Validity
import TenderQuery.Proofs.Audit.Commitment
import TenderQuery.Proofs.Query.Course
import TenderQuery.Proofs.Fallback.Selection
import TenderQuery.Proofs.Query.Events
import TenderQuery.Proofs.Query.Path
import TenderQuery.Proofs.Text.Letters
import TenderQuery.Proofs.Text.Words
import TenderQuery.Proofs.Text.Searching
import TenderQuery.Proofs.Text.Trimming
import TenderQuery.Proofs.Sql.ReadOnly
import TenderQuery.Proofs.Sql.Masking
import TenderQuery.Proofs.Sql.Qualifier
import TenderQuery.Proofs.Sql.Insertion
import TenderQuery.Proofs.Sql.Shape
import TenderQuery.Proofs.Sql.Filter
import TenderQuery.Proofs.Sql.Plain
import TenderQuery.Proofs.Fallback.Filling
import TenderQuery.Proofs.Text.Bytes
import TenderQuery.Proofs.Fallback.Acceptance
import TenderQuery.Proofs.Query.Sending
import TenderQuery.Proofs.Sql.Lexis
import TenderQuery.Proofs.Sql.Comparison
import TenderQuery.Proofs.Sql.Enforcement
import TenderQuery.Proofs.Model.Answers
import TenderQuery.Proofs.Query.Coupling
import TenderQuery.Proofs.Query.Auditing
import TenderQuery.Proofs.Query.Coherence
import TenderQuery.Proofs.Audit.Recording
import TenderQuery.Proofs.Audit.Rearrangement
import TenderQuery.Proofs.Audit.Truncation
import TenderQuery.Proofs.Query.Confidentiality
import TenderQuery.Proofs.Schema.Turns
import TenderQuery.Proofs.Service.Confidentiality
import TenderQuery.Proofs.Schema.Freshness
import TenderQuery.Proofs.Text.Spelling
import TenderQuery.Proofs.Sql.Verdict
import TenderQuery.Proofs.Sql.Chaining
import TenderQuery.Proofs.Text.Lines
import TenderQuery.Proofs.Prompt.Escaping
import TenderQuery.Proofs.Prompt.Structure
import TenderQuery.Proofs.Query.Past
import TenderQuery.Proofs.Query.Degrading
import TenderQuery.Proofs.Query.Independence
import TenderQuery.Proofs.Schema.Isolation
import TenderQuery.Proofs.Text.Boundaries
import TenderQuery.Proofs.Text.Lowering
import TenderQuery.Proofs.Prompt.Tearing
import TenderQuery.Proofs.Model.Matching
import TenderQuery.Proofs.Text.Dotting
import TenderQuery.Proofs.Fallback.Years
import TenderQuery.Proofs.Fallback.Agreement
import TenderQuery.Proofs.Query.Closing
import TenderQuery.Proofs.Service.Visits
import TenderQuery.Proofs.Service.Identification
import TenderQuery.Proofs.Service.Questions
import TenderQuery.Proofs.Service.Exposition
import TenderQuery.Proofs.Service.Books
import TenderQuery.Proofs.Text.Spacing
import TenderQuery.Proofs.Text.Phrases
import TenderQuery.Proofs.Sql.Stripping
import TenderQuery.Proofs.Sql.NormalForm
import TenderQuery.Proofs.Sql.Fences
import TenderQuery.Proofs.Sql.Wrapping
import TenderQuery.Proofs.Sql.Presence
import TenderQuery.Proofs.Fallback.Choice
import TenderQuery.Proofs.Prompt.Unescaping
import TenderQuery.Proofs.Audit.Tampering
import TenderQuery.Proofs.Sql.Parity
import TenderQuery.Proofs.Sql.Placement
import TenderQuery.Proofs.Sql.Nesting
import TenderQuery.Proofs.Sql.Prose
import TenderQuery.Proofs.Sql.Preservation
import TenderQuery.Proofs.Sql.Balance
import TenderQuery.Proofs.Sql.Rounds
import TenderQuery.Proofs.Query.Staging
