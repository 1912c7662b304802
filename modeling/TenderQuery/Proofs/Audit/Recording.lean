import Mathlib.Algebra.Group.Int.Defs
import Mathlib.Algebra.Group.Nat.Defs
import Mathlib.Data.List.Induction
import TenderQuery.Audit.Log
import TenderQuery.Digest.Sha256
import TenderQuery.Proofs.Audit.Sealing
import TenderQuery.Proofs.Json.Lines

/-!
# Recording

A log that starts empty is recorded to and opened again, in any order. `Holds` is the invariant: file, memory
and last hash are what the records make them whose keys have come so far; every act keeps it (`holds_after`),
and so every run of acts does. `recorded_afterAll` says what that means for the file and for the next act: there
is a line for every record that can be written, and some cannot (`lines_missing`).
-/
set_option autoImplicit false
namespace TenderQuery.Audit
open Query (Record)

/-! ## Acts -/

/-- What is done to a log. -/
inductive Act where
  | record (key : String) (r : Record)
  | reopen

namespace Act

def key? : Act → Option String
  | record key _ => some key
  | reopen => none

/-- Every object in the record has each key once. -/
def hasUniqueKeys : Act → Bool
  | record _ r => r.generatedSql.hasUniqueKeys
  | reopen => true

end Act

namespace Log

def after (hash : Hash) (limit : Json.DigitLimit) (log : Log) : Act → Except LineFault Log
  | .record key r => .ok (log.record hash limit key r).2
  | .reopen => log.reopen limit

/-- The log after the acts, done in order to one without a file; opening it again can fail. -/
def afterAll (hash : Hash) (limit : Json.DigitLimit) (acts : List Act) : Except LineFault Log :=
  acts.foldlM (after hash limit) {}

end Log

/-- The record of an act comes last, unless its key is there. -/
def heldAfter (held : List (String × Record)) : Act → List (String × Record)
  | .record key r => if (held.map Prod.fst).contains key then held else held ++ [(key, r)]
  | .reopen => held

/-- The records of the acts, the first one for each key, in the order of the acts. -/
def heldOf (acts : List Act) : List (String × Record) := acts.foldl heldAfter []

theorem heldAfter_of_mem {held : List (String × Record)} {key : String} (h : key ∈ held.map Prod.fst)
    (r : Record) : heldAfter held (.record key r) = held :=
  if_pos (List.contains_iff_mem.mpr h)

theorem heldAfter_of_not_mem {held : List (String × Record)} {key : String} (h : key ∉ held.map Prod.fst)
    (r : Record) : heldAfter held (.record key r) = held ++ [(key, r)] :=
  if_neg fun hc => h (List.contains_iff_mem.mp hc)

theorem eraseDups_concat (keys : List String) (key : String) :
    (keys ++ [key]).eraseDups =
      if key ∈ keys.eraseDups then keys.eraseDups else keys.eraseDups ++ [key] := by
  by_cases h : key ∈ keys
  · simp [List.eraseDups_append, List.cons_removeAll, h]
  · simp [List.eraseDups_append, List.cons_removeAll, List.eraseDups_cons, h]

/-- Every key that was recorded is held once, where it first came. -/
theorem keys_heldOf (acts : List Act) : (heldOf acts).map Prod.fst = (acts.filterMap Act.key?).eraseDups := by
  induction acts using List.reverseRecOn with
  | nil => rfl
  | append_singleton acts act ih =>
    have hheld : heldOf (acts ++ [act]) = heldAfter (heldOf acts) act := List.foldl_concat _ _ _ _
    rw [hheld, List.filterMap_append]
    cases act with
    | reopen =>
      have hnone : [Act.reopen].filterMap Act.key? = [] := rfl
      rw [hnone, List.append_nil, ← ih]
      rfl
    | record key r =>
      have hone : [Act.record key r].filterMap Act.key? = [key] := rfl
      rw [hone, eraseDups_concat, ← ih]
      by_cases hmem : key ∈ (heldOf acts).map Prod.fst
      · rw [heldAfter_of_mem hmem r, if_pos hmem]
      · rw [heldAfter_of_not_mem hmem r, if_neg hmem, List.map_append]
        rfl

/-- The entry of the record can be written. -/
def isWritable (limit : Json.DigitLimit) (r : Record) : Bool := (r.toEntry.excess? limit).isNone

/-- The chain of the entries that can be written. -/
def chainOf (hash : Hash) (limit : Json.DigitLimit) (held : List (String × Record)) : List Json :=
  sealAll hash .null ((held.filter fun m => isWritable limit m.2).map fun m => m.2.toEntry)

/-! ## Entries of records -/

/-- The keys of an entry, in order. -/
def entryKeys : List String :=
  ["timestamp", "request_id", "question", "escaped_question", "generated_sql", "cleaned_sql", "final_sql",
   "result_count", "fallback_used", "fallback_reason", "success", "error", "recovered_errors",
   "execution_time_ms", "states"]

theorem isEntry_toEntry (r : Record) : IsEntry r.toEntry := by
  refine ⟨_, rfl, ?_, ?_⟩
  · exact (by decide : previousKey ∉ entryKeys)
  · exact (by decide : recordKey ∉ entryKeys)

theorem hasUniqueKeys_optionalText (s : Option String) : (Json.optionalText s).hasUniqueKeys = true := by
  cases s <;> rfl

theorem itemsHaveUniqueKeys_texts {α : Type} (f : α → String) (l : List α) :
    Json.itemsHaveUniqueKeys (l.map fun a => .text (f a)) = true := by
  induction l with
  | nil => rfl
  | cons a l ih => exact ih

theorem hasUniqueKeys_toEntry {r : Record} (h : r.generatedSql.hasUniqueKeys = true) :
    r.toEntry.hasUniqueKeys = true := by
  have hnodup : decide entryKeys.Nodup = true := by decide
  have herrors : Json.itemsHaveUniqueKeys (r.recoveredErrors.map Json.text) = true :=
    itemsHaveUniqueKeys_texts id r.recoveredErrors
  have hmembers : Json.hasUniqueKeys r.toEntry = (decide entryKeys.Nodup && Json.membersHaveUniqueKeys _) := rfl
  rw [hmembers, hnodup, Bool.true_and]
  simp only [Json.membersHaveUniqueKeys, hasUniqueKeys_optionalText, h, Json.hasUniqueKeys, Json.int,
    herrors, itemsHaveUniqueKeys_texts, Bool.and_self]

theorem toEntryTimed_executionTime (r : Record) : r.toEntryTimed (.number r.executionTime) = .ok r.toEntry := rfl

/-! ## The lines of a chain -/

section
variable {hash : Hash} {limit : Json.DigitLimit} {held : List (String × Record)} {log : Log}

theorem isEntry_written :
    ∀ e ∈ (held.filter fun m => isWritable limit m.2).map fun m => m.2.toEntry, IsEntry e := by
  intro e he
  obtain ⟨m, -, rfl⟩ := List.mem_map.mp he
  exact isEntry_toEntry m.2

/-- Every entry of the chain is an object that is read back from its line. -/
theorem readable_of_mem_chainOf (hkeys : ∀ m ∈ held, m.2.generatedSql.hasUniqueKeys = true) {e : Json}
    (he : e ∈ chainOf hash limit held) :
    Json.readWithin? limit e.line = some e ∧ ∃ members, e = .object members := by
  obtain ⟨before, entry, hbefore, hmem, rfl⟩ := exists_sealed_of_mem isEntry_written (.inl rfl) he
  obtain ⟨m, hm, rfl⟩ := List.mem_map.mp hmem
  rw [List.mem_filter, isWritable, Option.isNone_iff_eq_none] at hm
  have hentry := isEntry_toEntry m.2
  refine ⟨Json.readWithin_line ?_ ?_, (carriesHash_sealed hentry).exists_members⟩
  · exact hasUniqueKeys_sealed hentry (hasUniqueKeys_toEntry (hkeys m hm.1)) hbefore
  · exact Json.excess_eq_none_iff.mp ((excess_sealed hentry hbefore limit).trans hm.2)

theorem isBlankLine_line (members : List (String × Json)) :
    Journal.isBlankLine (Json.object members).line = false := by
  unfold Journal.isBlankLine Json.line
  rw [String.toList_ofList]
  rfl

theorem writtenLines_chainOf (hkeys : ∀ m ∈ held, m.2.generatedSql.hasUniqueKeys = true) :
    Journal.writtenLines ((chainOf hash limit held).map Json.line) = (chainOf hash limit held).map Json.line := by
  refine List.filter_eq_self.mpr fun line hline => ?_
  obtain ⟨e, he, rfl⟩ := List.mem_map.mp hline
  obtain ⟨-, members, rfl⟩ := readable_of_mem_chainOf hkeys he
  rw [isBlankLine_line]
  rfl

theorem mapM_eq_some {α β : Type} {f : β → α} {read : α → Option β} {l : List β}
    (h : ∀ b ∈ l, read (f b) = some b) : (l.map f).mapM read = some l := by
  induction l with
  | nil => rfl
  | cons b l ih =>
    rw [List.map_cons, List.mapM_cons, h b List.mem_cons_self, ih fun x hx => h x (List.mem_cons_of_mem b hx)]
    rfl

theorem entries_chainOf (hkeys : ∀ m ∈ held, m.2.generatedSql.hasUniqueKeys = true) :
    Journal.entries? limit ((chainOf hash limit held).map Json.line) = some (chainOf hash limit held) := by
  unfold Journal.entries?
  rw [writtenLines_chainOf hkeys]
  exact mapM_eq_some fun e he => (readable_of_mem_chainOf hkeys he).1

theorem check_chainOf (hkeys : ∀ m ∈ held, m.2.generatedSql.hasUniqueKeys = true) :
    Journal.check hash limit ((chainOf hash limit held).map Json.line) = .ok [] := by
  have hobjects : ((chainOf hash limit held).all fun e => e.members?.isSome) = true := by
    refine List.all_eq_true.mpr fun e he => ?_
    obtain ⟨-, members, rfl⟩ := readable_of_mem_chainOf hkeys he
    rfl
  unfold Journal.check
  rw [entries_chainOf hkeys]
  dsimp only
  unfold Journal.checkEntries
  rw [if_pos hobjects, chainOf, chainErrors_sealAll isEntry_written]

theorem lastHashOf_chainOf (hkeys : ∀ m ∈ held, m.2.generatedSql.hasUniqueKeys = true) :
    Journal.lastHashOf limit ((chainOf hash limit held).map Json.line) =
      .ok (lastWritten .null (chainOf hash limit held)) := by
  unfold Journal.lastHashOf lastWritten
  rw [writtenLines_chainOf hkeys, List.getLast?_map]
  cases hlast : (chainOf hash limit held).getLast? with
  | none => rfl
  | some e =>
    obtain ⟨hread, members, rfl⟩ := readable_of_mem_chainOf hkeys (List.mem_of_getLast? hlast)
    simp only [Option.map_some, hread]
    rfl

/-- A record whose time cannot be rounded counts as persisted, and nothing else changes. -/
theorem recordTimed_of_toNumber_eq_none {key : String} (hkey : key ∉ log.persisted) (r : Record) {time : Json}
    (htime : time.toNumber? = none) :
    log.recordTimed hash limit key r time =
      (.error (Record.notRounded time), { log with persisted := log.persisted ++ [key] }) := by
  unfold Log.recordTimed Record.toEntryTimed
  rw [if_neg fun hc => hkey (List.contains_iff_mem.mp hc), htime]

/-! ## The invariant -/

/-- What a log has to do with the records whose keys have come so far. -/
structure Holds (hash : Hash) (limit : Json.DigitLimit) (held : List (String × Record)) (log : Log) : Prop where
  lines : log.journal.lines = (chainOf hash limit held).map Json.line
  lastHash : log.journal.lastHash = lastWritten .null (chainOf hash limit held)
  memory : log.memory = held.map fun m => m.2.toEntry
  persisted : log.persisted = held.map Prod.fst

theorem holds_empty : Holds hash limit [] {} := ⟨rfl, rfl, rfl, rfl⟩

theorem chainOf_concat {r : Record} (h : r.toEntry.excess? limit = none) (key : String) :
    chainOf hash limit (held ++ [(key, r)]) =
      chainOf hash limit held ++ [sealed hash (lastWritten .null (chainOf hash limit held)) r.toEntry] := by
  have hone : [(key, r)].filter (fun m => isWritable limit m.2) = [(key, r)] := by simp [isWritable, h]
  unfold chainOf
  rw [List.filter_append, hone, List.map_append]
  exact sealAll_concat hash .null _ _

/-- A record that cannot be written leaves the chain as it is. -/
theorem chainOf_concat_of_excess {r : Record} {digits : Nat} (h : r.toEntry.excess? limit = some digits)
    (key : String) : chainOf hash limit (held ++ [(key, r)]) = chainOf hash limit held := by
  have hnone : [(key, r)].filter (fun m => isWritable limit m.2) = [] := by simp [isWritable, h]
  unfold chainOf
  rw [List.filter_append, hnone, List.append_nil]

theorem isLink_last : IsLink (lastWritten .null (chainOf hash limit held)) := isLink_lastWritten isEntry_written

namespace Holds

/-- The number that keeps a record's entry from being written is one of the entry's own. -/
theorem excess_eq (h : Holds hash limit held log) (r : Record) :
    (sealed hash log.journal.lastHash r.toEntry).excess? limit = r.toEntry.excess? limit := by
  rw [h.lastHash]
  exact excess_sealed (isEntry_toEntry r) isLink_last limit

theorem record_of_mem (h : Holds hash limit held log) {key : String} (hmem : key ∈ held.map Prod.fst) (r : Record) :
    log.record hash limit key r = (.error (Log.alreadyPersisted r), log) := by
  have hcontains : log.persisted.contains key = true := by
    rw [h.persisted]
    exact List.contains_iff_mem.mpr hmem
  unfold Log.record Log.recordTimed
  rw [if_pos hcontains]

theorem record_of_not_mem (h : Holds hash limit held log) {key : String} (hmem : key ∉ held.map Prod.fst)
    (r : Record) :
    log.record hash limit key r =
      match r.toEntry.excess? limit with
      | some digits =>
        (.error (Journal.tooLong digits), ⟨log.journal, log.memory ++ [r.toEntry], log.persisted ++ [key]⟩)
      | none =>
        (.ok r.toEntry,
          ⟨⟨log.journal.lines ++ [(sealed hash log.journal.lastHash r.toEntry).line],
            (sealed hash log.journal.lastHash r.toEntry).getD recordKey⟩,
            log.memory ++ [r.toEntry], log.persisted ++ [key]⟩) := by
  have hcontains : ¬log.persisted.contains key = true := by
    rw [h.persisted]
    exact fun hc => hmem (List.contains_iff_mem.mp hc)
  unfold Log.record Log.recordTimed Journal.write
  rw [if_neg hcontains, toEntryTimed_executionTime]
  dsimp only
  rw [h.excess_eq r]
  cases r.toEntry.excess? limit <;> rfl

/-- A record is held from then on, if its key is new. -/
theorem record (h : Holds hash limit held log) (key : String) (r : Record) :
    Holds hash limit (heldAfter held (.record key r)) (log.record hash limit key r).2 := by
  by_cases hmem : key ∈ held.map Prod.fst
  · rw [heldAfter_of_mem hmem r, h.record_of_mem hmem r]
    exact h
  · have hmemory : log.memory ++ [r.toEntry] = (held ++ [(key, r)]).map fun m => m.2.toEntry := by
      rw [h.memory, List.map_append]
      rfl
    have hpersisted : log.persisted ++ [key] = (held ++ [(key, r)]).map Prod.fst := by
      rw [h.persisted, List.map_append]
      rfl
    rw [heldAfter_of_not_mem hmem r, h.record_of_not_mem hmem r]
    cases hexcess : r.toEntry.excess? limit with
    | some digits =>
      refine ⟨?_, ?_, hmemory, hpersisted⟩
      · rw [chainOf_concat_of_excess hexcess]
        exact h.lines
      · rw [chainOf_concat_of_excess hexcess]
        exact h.lastHash
    | none =>
      have hchain : chainOf hash limit (held ++ [(key, r)]) =
          chainOf hash limit held ++ [sealed hash log.journal.lastHash r.toEntry] := by
        rw [h.lastHash]
        exact chainOf_concat hexcess key
      refine ⟨?_, ?_, hmemory, hpersisted⟩
      · rw [hchain, List.map_append, ← h.lines]
        rfl
      · rw [hchain, lastWritten_concat]

/-- Opening the journal again leaves a log as it is. -/
theorem reopen (h : Holds hash limit held log) (hkeys : ∀ m ∈ held, m.2.generatedSql.hasUniqueKeys = true) :
    log.reopen limit = .ok log := by
  unfold Log.reopen Journal.openLines
  rw [h.lines, lastHashOf_chainOf hkeys, ← h.lastHash, ← h.lines]
  rfl

end Holds

theorem hasUniqueKeys_heldAfter {act : Act} (hact : act.hasUniqueKeys = true)
    (hkeys : ∀ m ∈ held, m.2.generatedSql.hasUniqueKeys = true) :
    ∀ m ∈ heldAfter held act, m.2.generatedSql.hasUniqueKeys = true := by
  cases act with
  | reopen => exact hkeys
  | record key r =>
    by_cases hmem : key ∈ held.map Prod.fst
    · rw [heldAfter_of_mem hmem r]
      exact hkeys
    · rw [heldAfter_of_not_mem hmem r]
      intro m hm
      obtain hm | hm := List.mem_append.mp hm
      · exact hkeys m hm
      · rw [List.mem_singleton.mp hm]
        exact hact

theorem holds_after (h : Holds hash limit held log) (hkeys : ∀ m ∈ held, m.2.generatedSql.hasUniqueKeys = true)
    (act : Act) : ∃ next, log.after hash limit act = .ok next ∧ Holds hash limit (heldAfter held act) next := by
  cases act with
  | record key r => exact ⟨_, rfl, h.record key r⟩
  | reopen => exact ⟨log, h.reopen hkeys, h⟩

/-- Acts done to a log that holds records succeed, and what they leave holds theirs as well. -/
theorem holds_foldlM {acts : List Act} (hacts : ∀ act ∈ acts, act.hasUniqueKeys = true)
    (h : Holds hash limit held log) (hkeys : ∀ m ∈ held, m.2.generatedSql.hasUniqueKeys = true) :
    ∃ final, acts.foldlM (Log.after hash limit) log = .ok final ∧
      Holds hash limit (acts.foldl heldAfter held) final ∧
      ∀ m ∈ acts.foldl heldAfter held, m.2.generatedSql.hasUniqueKeys = true := by
  induction acts generalizing held log with
  | nil => exact ⟨log, rfl, h, hkeys⟩
  | cons act rest ih =>
    obtain ⟨next, hnext, hheld⟩ := holds_after h hkeys act
    have hkept := hasUniqueKeys_heldAfter (hacts act List.mem_cons_self) hkeys
    obtain ⟨final, hfinal, hholds⟩ := ih (fun a ha => hacts a (List.mem_cons_of_mem act ha)) hheld hkept
    refine ⟨final, ?_, hholds⟩
    rw [List.foldlM_cons, hnext]
    exact hfinal

/-- Acts done to a new log leave one that holds the records that have come. -/
theorem holds_afterAll (hash : Hash) (limit : Json.DigitLimit) {acts : List Act}
    (hacts : ∀ act ∈ acts, act.hasUniqueKeys = true) :
    ∃ log, Log.afterAll hash limit acts = .ok log ∧ Holds hash limit (heldOf acts) log ∧
      ∀ m ∈ heldOf acts, m.2.generatedSql.hasUniqueKeys = true :=
  holds_foldlM hacts holds_empty fun m hm => by cases hm

/-! ## What a log holds -/

/-- What a log says of the records whose keys have come so far, and what the next act does to it. -/
structure Recorded (hash : Hash) (limit : Json.DigitLimit) (held : List (String × Record)) (log : Log) : Prop where
  memory : log.memory = held.map fun m => m.2.toEntry
  /-- There is one line for every record that can be written, in order. -/
  entries : ∃ entries, Journal.entries? limit log.journal.lines = some entries ∧
    log.journal.lines = entries.map Json.line ∧
    entries.map unchained = (held.filter fun m => isWritable limit m.2).map fun m => m.2.toEntry
  /-- No record is missing in the file if all of them can be written. -/
  complete : (∀ m ∈ held, isWritable limit m.2 = true) → log.journal.lines.length = held.length
  /-- No line goes on in the next one. -/
  visible : ∀ line ∈ log.journal.lines, ∀ c ∈ line.toList, Json.isVisible c = true
  valid : Journal.check hash limit log.journal.lines = .ok []
  again : ∀ key r, key ∈ held.map Prod.fst →
    log.record hash limit key r = (.error (Log.alreadyPersisted r), log)
  fresh : ∀ key r, key ∉ held.map Prod.fst →
    (log.record hash limit key r).1 =
      match r.toEntry.excess? limit with
      | some digits => .error (Journal.tooLong digits)
      | none => .ok r.toEntry
  untimed : ∀ key r time, key ∉ held.map Prod.fst → time.toNumber? = none →
    log.recordTimed hash limit key r time =
      (.error (Record.notRounded time), { log with persisted := log.persisted ++ [key] })
  reopen : log.reopen limit = .ok log

theorem Holds.recorded (h : Holds hash limit held log)
    (hkeys : ∀ m ∈ held, m.2.generatedSql.hasUniqueKeys = true) : Recorded hash limit held log where
  memory := h.memory
  entries := by
    refine ⟨chainOf hash limit held, ?_, h.lines, ?_⟩
    · rw [h.lines]
      exact entries_chainOf hkeys
    · exact map_unchained_sealAll isEntry_written .null
  complete := by
    intro hall
    rw [h.lines, List.length_map, chainOf, length_sealAll, List.length_map, List.filter_eq_self.mpr hall]
  visible := by
    rw [h.lines]
    intro line hline c hc
    obtain ⟨e, -, rfl⟩ := List.mem_map.mp hline
    exact Json.isVisible_line e c hc
  valid := by
    rw [h.lines]
    exact check_chainOf hkeys
  again := fun key r hmem => h.record_of_mem hmem r
  fresh := by
    intro key r hmem
    rw [h.record_of_not_mem hmem r]
    cases r.toEntry.excess? limit <;> rfl
  untimed := fun key r time hmem htime =>
    recordTimed_of_toNumber_eq_none (fun hin => hmem (h.persisted ▸ hin)) r htime
  reopen := h.reopen hkeys

end

/-- Whatever is recorded and however often the file is opened again, every key is held once, where it first came;
the file holds one line for each record whose whole numbers can be written, and its chain is valid. A record comes
once: the second attempt fails and changes nothing. -/
theorem recorded_afterAll (hash : Hash) (limit : Json.DigitLimit) (acts : List Act)
    (h : ∀ act ∈ acts, act.hasUniqueKeys = true) :
    ∃ log, Log.afterAll hash limit acts = .ok log ∧
      (heldOf acts).map Prod.fst = (acts.filterMap Act.key?).eraseDups ∧
      Recorded hash limit (heldOf acts) log := by
  obtain ⟨log, hlog, hholds, hkeys⟩ := holds_afterAll hash limit h
  exact ⟨log, hlog, keys_heldOf acts, hholds.recorded hkeys⟩

/-- Two records, one of them tried again and the file opened again between them. -/
def twiceAndReopened : List Act :=
  [ .record "a" { timestamp := "09:00", question := "How many?", executionTime := .real .nan },
    .record "a" { timestamp := "09:01", question := "How many?" },
    .reopen,
    .record "b" { timestamp := "09:02", question := "Which?\nAll.", generatedSql := .object [("é", .list [])] } ]

theorem recorded_twiceAndReopened :
    ∃ log, Log.afterAll Digest.sha256Hex Json.standardLimit twiceAndReopened = .ok log ∧
      (heldOf twiceAndReopened).map Prod.fst = (twiceAndReopened.filterMap Act.key?).eraseDups ∧
      Recorded Digest.sha256Hex Json.standardLimit (heldOf twiceAndReopened) log :=
  recorded_afterAll _ _ _ (by decide)

example : (heldOf twiceAndReopened).map Prod.fst = ["a", "b"] := by decide

/-! ## Records without a line -/

theorem excess_toEntry_of_resultCount {digits : Nat} (hdigits : 0 < digits) {r : Record}
    (h : 10 ^ digits ≤ r.resultCount.natAbs) : r.toEntry.excess? (some digits) = some digits := by
  have hlong : ¬(Nat.toDigits 10 r.resultCount.natAbs).length ≤ digits := by
    rw [Nat.length_toDigits_le_iff (by decide) hdigits]
    exact Nat.not_lt.mpr h
  have hfits : r.toEntry.fits digits = false := by
    rw [← Bool.not_eq_true]
    intro h
    have hcount := Json.fits_of_mem h (List.mem_of_getElem? (i := 7) rfl)
    exact hlong (of_decide_eq_true hcount)
  rw [Json.excess?, Option.filter_some, hfits]
  rfl

/-- A question, its text being the key as well. -/
def asked (s : String) : Record :=
  { timestamp := "2024-01-01T00:00:00+00:00", requestId := some s, question := s, escapedQuestion := s }

/-- A count of five thousand digits. -/
def longCount : Record := { asked "long" with resultCount := 10 ^ 4999 }

theorem excess_longCount : longCount.toEntry.excess? Json.standardLimit = some 4300 := by
  have hpowers : ∀ m n : Nat, m ≤ n → 10 ^ m ≤ ((10 : Int) ^ n).natAbs := by
    intro m n h
    rw [Int.natAbs_pow]
    exact Nat.pow_le_pow_right (by decide) h
  exact excess_toEntry_of_resultCount (by decide) (hpowers 4300 4999 (by decide))

/-- Not every record has a line: one with a count that is too long is in memory only, and one whose time is a text
is not even there. Both count as persisted. -/
theorem lines_missing :
    (∃ log, Log.afterAll Digest.sha256Hex Json.standardLimit [.record "long" longCount] = .ok log ∧
      log.persisted = ["long"] ∧ log.memory = [longCount.toEntry] ∧ log.journal.lines = []) ∧
    ∃ log, Log.afterAll Digest.sha256Hex Json.standardLimit [.record "one" (asked "one")] = .ok log ∧
      log.memory.length = 1 ∧ log.journal.lines.length = 1 ∧
      log.recordTimed Digest.sha256Hex Json.standardLimit "two" (asked "two") (.text "12 ms") =
        (.error (Record.notRounded (.text "12 ms")), { log with persisted := ["one", "two"] }) := by
  constructor
  · have hacts : ∀ act ∈ [Act.record "long" longCount], act.hasUniqueKeys = true := by
      intro act hact
      rw [List.mem_singleton.mp hact]
      rfl
    obtain ⟨log, hlog, hholds, -⟩ := holds_afterAll Digest.sha256Hex Json.standardLimit hacts
    have hchain : chainOf Digest.sha256Hex Json.standardLimit (heldOf [.record "long" longCount]) = [] :=
      @chainOf_concat_of_excess _ _ [] _ _ excess_longCount "long"
    refine ⟨log, hlog, hholds.persisted, hholds.memory, ?_⟩
    rw [hholds.lines, hchain]
    rfl
  · obtain ⟨log, hlog, hholds, -⟩ :=
      @holds_afterAll Digest.sha256Hex Json.standardLimit [.record "one" (asked "one")] (by decide)
    have hpersisted : log.persisted = ["one"] := hholds.persisted
    have hkey : "two" ∉ log.persisted := by
      rw [hpersisted]
      decide
    refine ⟨log, hlog, ?_, ?_, ?_⟩
    · rw [hholds.memory]
      rfl
    · rw [hholds.lines, List.length_map, chainOf, length_sealAll, List.length_map]
      decide +kernel
    · rw [recordTimed_of_toNumber_eq_none hkey (asked "two") rfl, hpersisted]
      rfl

end TenderQuery.Audit
