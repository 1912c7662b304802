import Mathlib.Data.List.Count
import Mathlib.Data.List.Nodup
import TenderQuery.Service.Metrics

/-!
# What the metrics show

A sample is a line that begins with its name and a space. The lines stand in blocks that begin differently, so the
samples of a name are found in one of them (`samples_perm`). The counter of an outcome or of a fallback reason has
one sample, which shows how often it was observed, and none before that (`samples_counter`). The histogram of result
rows always has one that shows how many observations are not beyond the last bound, which is infinite
(`samples_rowsName`).
-/
set_option autoImplicit false
namespace TenderQuery.Service.Metrics
open Decimal (Binary64)
open Query (Outcome FallbackReason)

/-- The line shows the sample of this name. -/
def isSampleOf (name line : String) : Bool := (name.toList ++ [' ']).isPrefixOf line.toList

def samples (m : Metrics) (name : String) : List String := m.lines.filter (isSampleOf name)

/-- What a counter shows: nothing before it has counted something. -/
def shown (name : String) (n : Nat) : List String := if n = 0 then [] else [countLine name n]

def outcomeName (o : Outcome) : String := labelled "tender_sql_queries_total" [label "outcome" o.label]

def reasonName (r : FallbackReason) : String := labelled "tender_sql_fallbacks_total" [label "reason" r.label]

def rowsName : String := "tender_sql_result_rows_count"

/-! ## Lines of other samples -/

/-- No sample of the name begins like this. -/
def Apart (name front : String) : Prop :=
  ¬ name.toList ++ [' '] <+: front.toList ∧ ¬ front.toList <+: name.toList ++ [' ']

instance (name front : String) : Decidable (Apart name front) := inferInstanceAs (Decidable (_ ∧ _))

/-- Every line begins like this. -/
def Begin (front : String) (lines : List String) : Prop := ∀ line ∈ lines, front.toList <+: line.toList

theorem Begin.filter_eq_nil {front : String} {lines : List String} (h : Begin front lines) {name : String}
    (hname : Apart name front) : lines.filter (isSampleOf name) = [] := by
  refine List.filter_eq_nil_iff.mpr fun line hline hsample => ?_
  obtain hfront | hfront :=
    List.prefix_or_prefix_of_prefix (List.isPrefixOf_iff_prefix.mp hsample) (h line hline)
  · exact hname.1 hfront
  · exact hname.2 hfront

theorem countLine_toList (name : String) (n : Nat) :
    (countLine name n).toList = name.toList ++ ' ' :: (valueText (.ofInt n)).toList := by
  have hspace : " ".toList = [' '] := by decide
  unfold countLine valueLine
  rw [String.toList_append, String.toList_append, hspace, List.append_assoc]
  rfl

theorem prefix_space_iff {a b rest : List Char} (ha : ' ' ∉ a) (hb : ' ' ∉ b) :
    a ++ [' '] <+: b ++ ' ' :: rest ↔ a = b := by
  have hend : ∀ {x y : List Char}, ' ' ∉ y → x ++ [' '] <+: y ++ [' '] → x = y := by
    intro x y hy h
    obtain heq | hinside := List.prefix_concat_iff.mp h
    · exact List.append_cancel_right heq
    · exact absurd (hinside.subset (List.mem_append_right _ List.mem_cons_self)) hy
  constructor
  · intro h
    have hfront : b ++ [' '] <+: b ++ ' ' :: rest := ⟨rest, List.append_assoc _ _ _⟩
    obtain hab | hba := List.prefix_or_prefix_of_prefix h hfront
    · exact hend hb hab
    · exact (hend ha hba).symm
  · rintro rfl
    exact ⟨rest, List.append_assoc _ _ _⟩

/-- Of counters whose names hold no space, only the one with the name shows a sample of it. -/
theorem isSampleOf_countLine {name other : String} (hname : ' ' ∉ name.toList) (hother : ' ' ∉ other.toList)
    (n : Nat) : isSampleOf name (countLine other n) = (other == name) := by
  unfold isSampleOf
  rw [Bool.eq_iff_iff, List.isPrefixOf_iff_prefix, countLine_toList, prefix_space_iff hname hother, beq_iff_eq,
    String.toList_inj, eq_comm]

/-! ## Counters -/

theorem filter_eraseDups (l : List String) (a : String) :
    l.eraseDups.filter (· == a) = if a ∈ l then [a] else [] := by
  -- What is left to go through is the list without the first name, so the induction is on the length.
  induction hn : l.length using Nat.strongRecOn generalizing l with
  | ind n ih =>
    cases l with
    | nil => rfl
    | cons b l =>
      have hlength := List.length_filter_le (fun x => !x == b) l
      have hrest := ih _ (by rw [← hn, List.length_cons]; omega) (l.filter fun x => !x == b) rfl
      rw [List.eraseDups_cons, List.filter_cons, hrest]
      by_cases hb : b = a
      · subst hb
        simp
      · have hmem : a ∈ l.filter (fun x => !x == b) ↔ a ∈ b :: l := by
          simp [Ne.symm hb]
        rw [if_neg (by simpa using hb)]
        simp only [hmem]

theorem filter_counterLines {name : String} (hname : ' ' ∉ name.toList) {names : List String}
    (hnames : ∀ other ∈ names, ' ' ∉ other.toList) :
    (counterLines names).filter (isSampleOf name) = shown name (names.count name) := by
  unfold counterLines shown
  rw [List.filter_map]
  have hsame : names.eraseDups.filter (isSampleOf name ∘ fun other => countLine other (names.count other)) =
      names.eraseDups.filter (· == name) :=
    List.filter_congr fun other hother =>
      isSampleOf_countLine hname (hnames other (List.mem_eraseDups.mp hother)) _
  rw [hsame, filter_eraseDups]
  by_cases hmem : name ∈ names
  · have hpos := List.count_pos_iff.mpr hmem
    rw [if_pos hmem, if_neg (Nat.ne_of_gt hpos)]
    rfl
  · rw [if_neg hmem, if_pos (List.count_eq_zero.mpr hmem)]
    rfl

/-! ## Fronts -/

theorem prefix_toList_append (a b : String) : a.toList <+: (a ++ b).toList := by
  rw [String.toList_append]
  exact List.prefix_append _ _

theorem prefix_labelled (name : String) (labels : List String) : name.toList <+: (labelled name labels).toList := by
  unfold labelled
  rw [String.append_assoc, String.append_assoc]
  exact prefix_toList_append _ _

theorem prefix_valueLine (name : String) (x : Binary64) : name.toList <+: (valueLine name x).toList := by
  unfold valueLine
  rw [String.append_assoc]
  exact prefix_toList_append _ _

theorem begin_valueLine (name : String) (x : Binary64) : Begin name [valueLine name x] := by
  intro line hline
  rw [List.mem_singleton.mp hline]
  exact prefix_valueLine _ _

theorem begin_counterLines {α : Type} {front : String} {name : α → String}
    (h : ∀ a, front.toList <+: (name a).toList) (as : List α) : Begin front (counterLines (as.map name)) := by
  intro line hline
  obtain ⟨shownName, hmem, rfl⟩ := List.mem_map.mp hline
  obtain ⟨a, -, rfl⟩ := List.mem_map.mp (List.mem_eraseDups.mp hmem)
  exact (h a).trans (prefix_valueLine _ _)

theorem begin_histogramLines (name : String) (bounds : List Binary64) (observed : List Number) :
    Begin name (histogramLines name bounds observed) := by
  intro line hline
  unfold histogramLines at hline
  obtain hbucket | hlast := List.mem_append.mp hline
  · obtain ⟨bound, -, rfl⟩ := List.mem_map.mp hbucket
    exact ((prefix_toList_append _ _).trans (prefix_labelled _ _)).trans (prefix_valueLine _ _)
  · simp only [List.mem_cons, List.not_mem_nil, or_false] at hlast
    obtain rfl | rfl := hlast
    · exact (prefix_toList_append _ _).trans (prefix_valueLine _ _)
    · exact (prefix_toList_append _ _).trans (prefix_valueLine _ _)

/-- The lines in blocks, each with what its lines begin with. -/
def blocks (m : Metrics) : List (String × List String) :=
  [ ("tender_sql_active_queries", [activeLine]),
    ("tender_sql_queries_total", counterLines (m.outcomes.map outcomeName)),
    ("tender_sql_fallbacks_total", counterLines (m.reasons.map reasonName)),
    ("http_requests_total", counterLines (m.served.map servedName)),
    ("tender_sql_query_duration_seconds", histogramLines durationName durationBounds m.durations),
    ("tender_sql_result_rows", histogramLines "tender_sql_result_rows" rowBounds m.resultRows) ]

def fronts : List String := ({} : Metrics).blocks.map Prod.fst

theorem map_fst_blocks (m : Metrics) : m.blocks.map Prod.fst = fronts := by
  simp only [fronts, blocks, List.map_cons, List.map_nil]

theorem begin_of_mem_blocks {m : Metrics} : ∀ block ∈ m.blocks, Begin block.1 block.2 := by
  unfold blocks
  simp only [List.forall_mem_cons]
  exact ⟨begin_valueLine _ _, begin_counterLines (fun _ => prefix_labelled _ _) _,
    begin_counterLines (fun _ => prefix_labelled _ _) _, begin_counterLines (fun _ => prefix_labelled _ _) _,
    begin_histogramLines _ _ _, begin_histogramLines _ _ _, fun _ h => nomatch h⟩

theorem lines_perm (m : Metrics) : m.lines.Perm (m.blocks.flatMap Prod.snd) := by
  refine (List.mergeSort_perm _ _).trans (.of_eq ?_)
  simp only [blocks, List.flatMap_cons, List.flatMap_nil, List.append_nil, List.append_assoc, List.cons_append,
    List.nil_append]
  rfl

/-! ## Samples -/

/-- No two blocks begin alike. -/
theorem front_ne_of_mem_others {m : Metrics} {before after : List (String × List String)}
    {own block : String × List String} (hblocks : m.blocks = before ++ own :: after)
    (h : block ∈ before ++ after) : block ∈ m.blocks ∧ block.1 ≠ own.1 := by
  have hperm : m.blocks.Perm (own :: (before ++ after)) := hblocks ▸ List.perm_middle
  have hnodup : ((own :: (before ++ after)).map Prod.fst).Nodup := by
    rw [← (hperm.map Prod.fst).nodup_iff, map_fst_blocks]
    decide
  refine ⟨hperm.mem_iff.mpr (List.mem_cons_of_mem own h), fun heq => ?_⟩
  exact (List.nodup_cons.mp hnodup).1 (heq ▸ List.mem_map_of_mem h)

/-- The samples of a name are found in one block of the lines if the others begin differently. -/
theorem samples_perm {m : Metrics} {own : String × List String} (hown : own ∈ m.blocks) {name : String}
    (hname : ∀ front ∈ fronts, front ≠ own.1 → Apart name front) :
    (m.samples name).Perm (own.2.filter (isSampleOf name)) := by
  obtain ⟨before, after, hblocks⟩ := List.append_of_mem hown
  have hnone : ∀ part, part ⊆ before ++ after → (part.flatMap Prod.snd).filter (isSampleOf name) = [] := by
    intro part hpart
    rw [List.filter_flatMap, List.flatMap_eq_nil_iff]
    intro block hblock
    obtain ⟨hmem, hne⟩ := front_ne_of_mem_others hblocks (hpart hblock)
    have hfront : block.1 ∈ fronts := map_fst_blocks m ▸ List.mem_map_of_mem hmem
    exact (begin_of_mem_blocks block hmem).filter_eq_nil (hname _ hfront hne)
  have hperm := m.lines_perm.filter (isSampleOf name)
  rw [hblocks, List.flatMap_append, List.flatMap_cons, List.filter_append, List.filter_append,
    hnone before (List.subset_append_left _ _), hnone after (List.subset_append_right _ _), List.nil_append,
    List.append_nil] at hperm
  exact hperm

theorem filter_counterLines_map {α : Type} [DecidableEq α] {name : α → String} (hname : Function.Injective name)
    (hspace : ∀ a, ' ' ∉ (name a).toList) (a : α) (as : List α) :
    (counterLines (as.map name)).filter (isSampleOf (name a)) = shown (name a) (as.count a) := by
  have hnames : ∀ other ∈ as.map name, ' ' ∉ other.toList := by
    intro other hother
    obtain ⟨b, -, rfl⟩ := List.mem_map.mp hother
    exact hspace b
  rw [filter_counterLines (hspace a) hnames, List.count_map_of_injective _ name hname]

theorem eq_shown_of_perm {lines : List String} {name : String} {n : Nat} (h : lines.Perm (shown name n)) :
    lines = shown name n := by
  unfold shown at h ⊢
  split
  · rw [if_pos ‹_›] at h
    exact h.eq_nil
  · rw [if_neg ‹_›] at h
    exact List.perm_singleton.mp h

/-- A counter shows one sample for each of its names that it has counted. -/
theorem samples_counter {α : Type} [DecidableEq α] {m : Metrics} {front : String} {name : α → String}
    {as : List α} (hown : (front, counterLines (as.map name)) ∈ m.blocks) (hinjective : Function.Injective name)
    (hspace : ∀ a, ' ' ∉ (name a).toList)
    (hname : ∀ a, ∀ other ∈ fronts, other ≠ front → Apart (name a) other) (a : α) :
    m.samples (name a) = shown (name a) (as.count a) := by
  have hsamples := samples_perm hown (hname a)
  rw [filter_counterLines_map hinjective hspace] at hsamples
  exact eq_shown_of_perm hsamples

theorem samples_outcomeName (m : Metrics) (o : Outcome) :
    m.samples (outcomeName o) = shown (outcomeName o) (m.outcomes.count o) := by
  have hown : ("tender_sql_queries_total", counterLines (m.outcomes.map outcomeName)) ∈ m.blocks := by
    simp [blocks]
  refine samples_counter hown ?_ ?_ ?_ o
  · intro a b
    cases a <;> cases b <;> decide
  · rintro ⟨⟩ <;> decide
  · rintro ⟨⟩ <;> decide

theorem samples_reasonName (m : Metrics) (r : FallbackReason) :
    m.samples (reasonName r) = shown (reasonName r) (m.reasons.count r) := by
  have hown : ("tender_sql_fallbacks_total", counterLines (m.reasons.map reasonName)) ∈ m.blocks := by
    simp [blocks]
  refine samples_counter hown ?_ ?_ ?_ r
  · intro a b
    cases a <;> cases b <;> decide
  · rintro ⟨⟩ <;> decide
  · rintro ⟨⟩ <;> decide

/-- Of the lines of the histogram of result rows only the last but one is a sample of the number of observations. -/
theorem filter_histogramLines (bounds : List Binary64) (observed : List Number) :
    (histogramLines "tender_sql_result_rows" bounds observed).filter (isSampleOf rowsName) =
      [countLine rowsName (within observed (.infinity false))] := by
  have hbuckets : ∀ ends : List Binary64, Begin ("tender_sql_result_rows" ++ "_bucket") (ends.map fun bound =>
      countLine (labelled ("tender_sql_result_rows" ++ "_bucket") [label "le" (valueText bound)])
        (within observed bound)) := by
    intro ends line hline
    obtain ⟨bound, -, rfl⟩ := List.mem_map.mp hline
    exact (prefix_labelled _ _).trans (prefix_valueLine _ _)
  have hsum := begin_valueLine ("tender_sql_result_rows" ++ "_sum") (sum observed)
  -- The names of the buckets and of the sum only begin as this one does.
  have hcount : "tender_sql_result_rows" ++ "_count" = rowsName := by decide
  have hspace : ' ' ∉ rowsName.toList := by decide
  unfold histogramLines
  rw [List.filter_append, (hbuckets _).filter_eq_nil (by decide), List.nil_append, List.filter_cons, hcount,
    isSampleOf_countLine hspace hspace, beq_self_eq_true, if_pos rfl, hsum.filter_eq_nil (by decide)]

theorem samples_rowsName (m : Metrics) :
    m.samples rowsName = [countLine rowsName (within m.resultRows (.infinity false))] := by
  have hown : ("tender_sql_result_rows", histogramLines "tender_sql_result_rows" rowBounds m.resultRows) ∈
      m.blocks := by
    simp [blocks]
  have hsamples := samples_perm hown (by decide : ∀ front ∈ fronts, front ≠ "tender_sql_result_rows" →
    Apart rowsName front)
  rw [filter_histogramLines] at hsamples
  exact List.perm_singleton.mp hsamples

end TenderQuery.Service.Metrics
