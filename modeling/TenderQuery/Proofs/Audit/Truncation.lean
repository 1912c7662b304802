import TenderQuery.Proofs.Audit.Recording

/-!
# Truncated files

Every act adds at most one line to the audit file and changes none that is there (`lines_after`). So a file whose
last lines are gone is the file of an earlier time (`exists_earlier`), and reading it finds no fault
(`check_truncated`): what has been cut off shows only to one who knows how long the file was or with which hash
it ended.
-/
set_option autoImplicit false
namespace TenderQuery.Audit
variable {hash : Hash} {limit : Json.DigitLimit}

/-- An act leaves the lines as they are or adds one at the end. -/
theorem lines_after {log next : Log} {act : Act} (h : log.after hash limit act = .ok next) :
    next.journal.lines = log.journal.lines ∨ ∃ line, next.journal.lines = log.journal.lines ++ [line] := by
  cases act with
  | reopen =>
    have hreopen : log.reopen limit = .ok next := h
    unfold Log.reopen Journal.openLines at hreopen
    cases hlast : Journal.lastHashOf limit log.journal.lines with
    | error fault =>
      rw [hlast] at hreopen
      cases hreopen
    | ok last =>
      rw [hlast] at hreopen
      cases hreopen
      exact .inl rfl
  | record key r =>
    have hnext : (log.record hash limit key r).2 = next := Except.ok.inj h
    subst hnext
    unfold Log.record Log.recordTimed Journal.write
    split
    · exact .inl rfl
    · rw [toEntryTimed_executionTime]
      dsimp only
      cases (sealed hash log.journal.lastHash r.toEntry).excess? limit with
      | some digits => exact .inl rfl
      | none => exact .inr ⟨_, rfl⟩

/-- The first lines of the file are the file that some first acts leave. -/
theorem exists_earlier {acts : List Act} {log : Log} (h : Log.afterAll hash limit acts = .ok log)
    {kept : List String} (hkept : kept <+: log.journal.lines) :
    ∃ earlier written, earlier <+: acts ∧ Log.afterAll hash limit earlier = .ok written ∧
      written.journal.lines = kept := by
  induction acts using List.reverseRecOn generalizing log with
  | nil =>
    have hempty : ({} : Log) = log := Except.ok.inj h
    subst hempty
    exact ⟨[], {}, List.nil_prefix, rfl, (List.prefix_nil.mp hkept).symm⟩
  | append_singleton acts act ih =>
    have hsteps : Log.afterAll hash limit (acts ++ [act]) =
        (Log.afterAll hash limit acts >>= fun before => before.after hash limit act) := by
      unfold Log.afterAll
      rw [List.foldlM_append]
      simp
    rw [hsteps] at h
    cases hbefore : Log.afterAll hash limit acts with
    | error fault =>
      rw [hbefore] at h
      cases h
    | ok before =>
      rw [hbefore] at h
      have hafter : before.after hash limit act = .ok log := h
      -- Lines that were there before the act are found among the earlier acts, all of them are the file itself.
      have hcases : kept <+: before.journal.lines ∨ kept = log.journal.lines := by
        obtain hlines | ⟨line, hlines⟩ := lines_after hafter
        · exact .inl (hlines ▸ hkept)
        · rw [hlines] at hkept ⊢
          exact (List.prefix_concat_iff.mp hkept).symm
      obtain hbegun | rfl := hcases
      · obtain ⟨earlier, written, hearlier, hwritten⟩ := ih hbefore hbegun
        exact ⟨earlier, written, hearlier.trans (List.prefix_append acts [act]), hwritten⟩
      · exact ⟨acts ++ [act], log, List.prefix_refl _, hsteps.trans (hbefore ▸ hafter), rfl⟩

/-- A file that was cut off at its end has no fault. -/
theorem check_beginning {acts : List Act} (hacts : ∀ act ∈ acts, act.hasUniqueKeys = true) {log : Log}
    (h : Log.afterAll hash limit acts = .ok log) {kept : List String} (hkept : kept <+: log.journal.lines) :
    Journal.check hash limit kept = .ok [] := by
  obtain ⟨earlier, written, hearlier, hwritten, rfl⟩ := exists_earlier h hkept
  obtain ⟨found, hfound, hholds, hkeys⟩ :=
    holds_afterAll hash limit fun act hact => hacts act (hearlier.subset hact)
  have hsame : written = found := Except.ok.inj (hwritten.symm.trans hfound)
  rw [hsame]
  exact (hholds.recorded hkeys).valid

/-- Whatever is recorded and however many lines are then cut off at the end of the file, reading the rest finds no
fault: it is the file as it stood at an earlier time. -/
theorem check_truncated (hash : Hash) (limit : Json.DigitLimit) (acts : List Act)
    (h : ∀ act ∈ acts, act.hasUniqueKeys = true) :
    ∃ log, Log.afterAll hash limit acts = .ok log ∧
      ∀ kept, kept <+: log.journal.lines → Journal.check hash limit kept = .ok [] ∧
        ∃ earlier written, earlier <+: acts ∧ Log.afterAll hash limit earlier = .ok written ∧
          written.journal.lines = kept := by
  obtain ⟨log, hlog, -⟩ := holds_afterAll hash limit h
  exact ⟨log, hlog, fun kept hkept => ⟨check_beginning h hlog hkept, exists_earlier hlog hkept⟩⟩

/-- Two questions, recorded one after the other. -/
def twoRecords : List Act :=
  ["one", "two"].map fun s =>
    .record s
      { timestamp := "2024-01-01T00:00:00+00:00", requestId := some s, question := s, escapedQuestion := s }

theorem check_truncated_twoRecords :
    ∃ log, Log.afterAll Digest.sha256Hex Json.standardLimit twoRecords = .ok log ∧
      ∀ kept, kept <+: log.journal.lines → Journal.check Digest.sha256Hex Json.standardLimit kept = .ok [] ∧
        ∃ earlier written, earlier <+: twoRecords ∧
          Log.afterAll Digest.sha256Hex Json.standardLimit earlier = .ok written ∧
          written.journal.lines = kept :=
  check_truncated _ _ _ (by decide)

/-- Without its last line, a file of two lines has no fault. -/
theorem check_dropLast_twoRecords :
    ∃ log, Log.afterAll Digest.sha256Hex Json.standardLimit twoRecords = .ok log ∧
      log.journal.lines.length = 2 ∧
      Journal.check Digest.sha256Hex Json.standardLimit log.journal.lines.dropLast = .ok [] := by
  have hacts : ∀ act ∈ twoRecords, act.hasUniqueKeys = true := by decide
  obtain ⟨log, hlog, hholds, -⟩ := holds_afterAll Digest.sha256Hex Json.standardLimit hacts
  have hkept : log.journal.lines.dropLast <+: log.journal.lines := List.dropLast_prefix _
  refine ⟨log, hlog, ?_, check_beginning hacts hlog hkept⟩
  rw [hholds.lines, List.length_map, chainOf, length_sealAll, List.length_map]
  decide +kernel

end TenderQuery.Audit
