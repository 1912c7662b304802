import TenderQuery.Query.Record

/-!
# Metrics

What is measured is kept as it was observed, in order; counts and sums are taken when it is shown.

- `Metrics.track` observes the record of an answered question, `Metrics.trackServed` an HTTP request.
- `Metrics.lines` shows everything, one value a line, in the order of the texts. A histogram shows for each
  bound how many observations are not beyond it; a nan is beyond every bound and so not counted.
-/
set_option autoImplicit false
namespace TenderQuery.Service
open Decimal (Binary64)

/-- An HTTP request that was served. -/
structure Served where
  method : String
  endpoint : String
  status : Nat
  deriving DecidableEq, Repr

structure Metrics where
  outcomes : List Query.Outcome := []
  reasons : List Query.FallbackReason := []
  durations : List Number := []
  resultRows : List Number := []
  served : List Served := []

namespace Metrics

def seconds (milliseconds : Number) : Number := .real (milliseconds.divNat 1000)

/-- Observes how a question was answered. -/
def track (m : Metrics) (r : Query.Record) : Metrics :=
  { m with
    outcomes := m.outcomes ++ [r.outcome]
    reasons := m.reasons ++ r.fallbackReason.toList
    durations := m.durations ++ [seconds r.executionTime]
    resultRows := if r.success then m.resultRows ++ [.whole r.resultCount] else m.resultRows }

def trackServed (m : Metrics) (s : Served) : Metrics := { m with served := m.served ++ [s] }

/-! ## Numbers and labels -/

/-- Drops zeros and points at the end. -/
def dropTrailingZeros (s : List Char) : List Char :=
  (s.reverse.dropWhile fun c => c == '0' || c == '.').reverse

/-- A positive number with more than six whole digits gets an exponent. -/
def valueText (x : Binary64) : String :=
  let s := (x.textWith "NaN" "Inf").toList
  let whole := s.takeWhile (· != '.')
  match s with
  | [] => ""
  | first :: rest =>
    if x == .infinity false then "+Inf"
    else if !x.isNegative && s.contains '.' && 6 < whole.length then
      String.ofList (dropTrailingZeros (first :: '.' :: rest.filter (· != '.')))
        ++ "e+0" ++ toString (whole.length - 1)
    else String.ofList s

def escapeLabel (s : String) : String :=
  String.ofList (s.toList.flatMap fun c =>
    if c = '\\' then ['\\', '\\'] else if c = '\n' then ['\\', 'n'] else if c = '"' then ['\\', '"'] else [c])

def label (name value : String) : String := name ++ "=\"" ++ escapeLabel value ++ "\""

def labelled (name : String) (labels : List String) : String :=
  name ++ "\x7b" ++ ",".intercalate labels ++ "\x7d"

/-! ## Lines -/

def valueLine (name : String) (x : Binary64) : String := name ++ " " ++ valueText x

def countLine (name : String) (n : Nat) : String := valueLine name (.ofInt n)

/-- How often each of the names occurs among the given ones. -/
def counterLines (names : List String) : List String :=
  names.eraseDups.map fun name => countLine name (names.count name)

def sum (observed : List Number) : Binary64 :=
  observed.foldl (fun total n => total.add n.toReal) (.zero false)

/-- How many observations are not beyond a bound. -/
def within (observed : List Number) (bound : Binary64) : Nat :=
  observed.countP fun n => n.le (.real bound)

def histogramLines (name : String) (bounds : List Binary64) (observed : List Number) : List String :=
  let bounds := bounds ++ [.infinity false]
  bounds.map (fun bound =>
      countLine (labelled (name ++ "_bucket") [label "le" (valueText bound)]) (within observed bound))
    ++ [ countLine (name ++ "_count") (within observed (.infinity false)),
         valueLine (name ++ "_sum") (sum observed) ]

def durationName : String := "tender_sql_query_duration_seconds"

def durationBounds : List Binary64 :=
  [ .ofDecimal false 1 (-1), .ofDecimal false 25 (-2), .ofDecimal false 5 (-1), .ofInt 1,
    .ofDecimal false 25 (-1), .ofInt 5, .ofInt 10, .ofInt 30 ]

def rowBounds : List Binary64 := [0, 1, 5, 10, 50, 100, 500, 1000].map Binary64.ofInt

/-- Questions being answered; none is while metrics are shown. -/
def activeLine : String := countLine "tender_sql_active_queries" 0

def servedName (s : Served) : String :=
  labelled "http_requests_total"
    [label "endpoint" s.endpoint, label "method" s.method, label "status" (toString s.status)]

def lines (m : Metrics) : List String :=
  let outcomes := m.outcomes.map fun o => labelled "tender_sql_queries_total" [label "outcome" o.label]
  let reasons := m.reasons.map fun r => labelled "tender_sql_fallbacks_total" [label "reason" r.label]
  (activeLine :: counterLines outcomes ++ counterLines reasons ++ counterLines (m.served.map servedName)
    ++ histogramLines durationName durationBounds m.durations
    ++ histogramLines "tender_sql_result_rows" rowBounds m.resultRows).mergeSort
      fun a b => decide (a ≤ b)

end Metrics

end TenderQuery.Service
