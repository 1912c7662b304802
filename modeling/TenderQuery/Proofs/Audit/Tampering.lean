import TenderQuery.Proofs.Audit.Rearrangement

/-!
# One edit of a chain

A single edit of a valid chain is reported once, at its place, if the hash has no collision among the texts involved
(`chainErrors_edited`): an entry in which a member is set to something else no longer carries its hash, and where an
entry is missing the next one does not link to the one before it. All other entries are clean: the check of an entry
looks only at the entry itself and at the hash written in the one before it, and a set member changes no hash that is
written.
-/
set_option autoImplicit false
namespace TenderQuery.Json

/-! ## A member that is set -/

section
variable {key : String} {value : Json} {members : List (String × Json)}

theorem lookup_putMember_self (key : String) (value : Json) (members : List (String × Json)) :
    (putMember key value members).lookup key = some value := by
  induction members with
  | nil => simp [putMember]
  | cons m rest ih =>
    obtain ⟨k, v⟩ := m
    by_cases hk : k = key
    · simp [putMember, hk]
    · simp [putMember, hk, List.lookup_cons, beq_false_of_ne (Ne.symm hk), ih]

theorem lookup_putMember_of_ne {other : String} (h : other ≠ key) (value : Json) (members : List (String × Json)) :
    (putMember key value members).lookup other = members.lookup other := by
  induction members with
  | nil => simp [putMember, List.lookup_cons, beq_false_of_ne h]
  | cons m rest ih =>
    obtain ⟨k, v⟩ := m
    by_cases hk : k = key
    · subst hk
      simp [putMember, List.lookup_cons, beq_false_of_ne h]
    · simp only [putMember, if_neg hk, List.lookup_cons, ih]

theorem getD_put_of_ne {other : String} (h : other ≠ key) (entry value : Json) :
    (entry.put key value).getD other = entry.getD other := by
  cases entry with
  | object members => exact congrArg (·.getD null) (lookup_putMember_of_ne h value members)
  | _ => rfl

/-- A value that is written as the one before leaves all members as they are written. -/
theorem writeMembers_putMember {arrange : WrittenMembers → WrittenMembers}
    (h : (members.lookup key).map (write arrange) = some (write arrange value)) :
    writeMembers arrange (putMember key value members) = writeMembers arrange members := by
  induction members with
  | nil => cases h
  | cons m rest ih =>
    obtain ⟨k, v⟩ := m
    by_cases hk : k = key
    · subst hk
      rw [List.lookup_cons_self, Option.map_some, Option.some.injEq] at h
      rw [putMember, if_pos rfl, writeMembers, writeMembers, h]
    · rw [List.lookup_cons, beq_false_of_ne (Ne.symm hk)] at h
      rw [putMember, if_neg hk, writeMembers, writeMembers, ih h]

/-- Setting a member keeps the canonical text exactly if the key had a value of the same canonical text. -/
theorem canonical_put_eq_iff : ((object members).put key value).canonical = (object members).canonical ↔
    (members.lookup key).map (write sortByKey) = some (write sortByKey value) := by
  constructor
  · intro h
    have hmember := written_member_eq h key
    rw [lookup_putMember_self] at hmember
    exact hmember.symm
  · intro h
    have hwritten := congrArg (fun ms => writeObject (sortByKey ms)) (writeMembers_putMember h)
    exact congrArg String.ofList hwritten

end

end TenderQuery.Json

namespace TenderQuery.Audit
variable {hash : Hash} {entries before after : List Json} {entry next : Json}

/-! ## Around the place of an edit -/

/-- Whether entries have a fault does not depend on their place. -/
theorem chainErrorsFrom_eq_nil_iff (hash : Hash) (i j : Nat) (previous : Json) (entries : List Json) :
    chainErrorsFrom hash i previous entries = [] ↔ chainErrorsFrom hash j previous entries = [] := by
  induction entries generalizing i j previous with
  | nil => exact Iff.rfl
  | cons entry rest ih =>
    simp only [chainErrorsFrom, List.append_eq_nil_iff, linkErrors_eq_nil_iff, hashErrors_eq_nil_iff]
    rw [ih (i + 1) (j + 1)]

theorem isValidChain_split_iff : isValidChain hash (before ++ entry :: after) = true ↔
    isValidChain hash before = true ∧ linkErrors before.length (lastWritten .null before) entry = [] ∧
      hashErrors hash before.length entry = [] ∧
        chainErrorsFrom hash (before.length + 1) (entry.getD recordKey) after = [] := by
  rw [isValidChain_iff, isValidChain_iff, chainErrors, chainErrors, chainErrorsFrom_append, Nat.zero_add]
  simp only [chainErrorsFrom, List.append_eq_nil_iff, and_assoc]

/-! ## A changed entry -/

/-- An entry that is replaced by one of the same link and the same hash has at most the fault of not carrying it. -/
theorem chainErrors_replaced {other : Json} (hvalid : isValidChain hash (before ++ entry :: after) = true)
    (hlink : other.getD previousKey = entry.getD previousKey) (hrecord : other.getD recordKey = entry.getD recordKey) :
    chainErrors hash (before ++ other :: after) = hashErrors hash before.length other := by
  obtain ⟨hbefore, hlinked, -, hafter⟩ := isValidChain_split_iff.mp hvalid
  have hother : linkErrors before.length (lastWritten .null before) other = [] := by
    rw [linkErrors_eq_nil_iff, hlink]
    exact (linkErrors_eq_nil_iff _ _ _).mp hlinked
  have hfront : chainErrorsFrom hash 0 .null before = [] := (isValidChain_iff hash before).mp hbefore
  rw [chainErrors, chainErrorsFrom_append, hfront, Nat.zero_add, chainErrorsFrom, hother, hrecord, hafter,
    List.append_nil, List.nil_append, List.nil_append]

theorem unsealed_put_ne {key : String} {value : Json} (hentry : CarriesHash hash entry) (hkey : key ≠ recordKey)
    (hchanged : (entry.put key value).canonical ≠ entry.canonical) :
    unsealed (entry.put key value) ≠ unsealed entry := by
  obtain ⟨members, rfl⟩ := hentry.exists_members
  intro heq
  have hmember := Json.written_member_eq heq key
  rw [lookup_filter_ne hkey, lookup_filter_ne hkey, Json.lookup_putMember_self] at hmember
  exact hchanged (Json.canonical_put_eq_iff.mpr hmember.symm)

theorem hashErrors_put {key : String} {value : Json} (hentry : CarriesHash hash entry) (hkey : key ≠ recordKey)
    (hchanged : (entry.put key value).canonical ≠ entry.canonical)
    (hcol : NoCollision hash [unsealed entry, unsealed (entry.put key value)]) (i : Nat) :
    hashErrors hash i (entry.put key value) = [.mismatch i] := by
  have hfault : ¬ CarriesHash hash (entry.put key value) := by
    intro hcarries
    have hsame : hash (unsealed (entry.put key value)) = hash (unsealed entry) := by
      refine Json.text.inj (hcarries.symm.trans ?_)
      rw [Json.getD_put_of_ne (Ne.symm hkey)]
      exact hentry
    exact unsealed_put_ne hentry hkey hchanged (hcol _ (by simp) _ (by simp) hsame)
  rw [← hashErrors_eq_nil_iff hash i] at hfault
  unfold hashErrors at hfault ⊢
  dsimp only at hfault ⊢
  split
  · rename_i hequal
    rw [if_pos hequal] at hfault
    exact absurd rfl hfault
  · rfl

/-! ## A missing entry -/

/-- No entry of a valid chain carries the hash written before it. -/
theorem lastWritten_ne_of_isValidChain (hvalid : isValidChain hash (before ++ entry :: after) = true)
    (hcol : NoCollision hash ((before ++ entry :: after).map unsealed)) :
    lastWritten .null before ≠ entry.getD recordKey := by
  intro hwritten
  have hplace : before ++ [entry] <+: before ++ entry :: after := ⟨after, by rw [List.append_assoc]; rfl⟩
  rw [← lastWritten_concat .null entry before] at hwritten
  have hsame : before = before ++ [entry] :=
    beginning_eq_of_written_eq hvalid hcol (List.prefix_append before (entry :: after)) hplace hwritten
  simpa using congrArg List.length hsame

theorem linkErrors_of_ne {previous : Json} (hlink : IsLink previous) (h : previous ≠ entry.getD previousKey)
    (i : Nat) : linkErrors i previous entry = [.broken i previous (entry.getD previousKey)] := by
  have hunequal : ¬ (entry.getD previousKey).equal previous = true := by
    intro hequal
    obtain rfl | ⟨s, rfl⟩ := hlink
    · exact h ((equal_null_iff _).mp hequal).symm
    · exact h ((equal_text_iff _ _).mp hequal).symm
  unfold linkErrors
  dsimp only
  rw [if_neg hunequal]

/-- The entry behind a missing one has a broken link, and no other entry has a fault. -/
theorem chainErrors_dropped (hvalid : isValidChain hash (before ++ entry :: next :: after) = true)
    (hcol : NoCollision hash ((before ++ entry :: next :: after).map unsealed)) :
    chainErrors hash (before ++ next :: after) =
      [.broken before.length (lastWritten .null before) (entry.getD recordKey)] := by
  have hne := lastWritten_ne_of_isValidChain hvalid hcol
  have hplace : before ++ [entry] ++ [next] <+: before ++ entry :: next :: after := ⟨after, by simp⟩
  have hnext := isValidChain_beginning hvalid hplace
  obtain ⟨hfirst, -, hcarries⟩ := (isValidChain_concat _ _ _).mp hnext
  have hlink : next.getD previousKey = entry.getD recordKey := by
    rw [(link_last hnext).1, lastWritten_concat]
  have hbroken : linkErrors before.length (lastWritten .null before) next =
      [.broken before.length (lastWritten .null before) (entry.getD recordKey)] := by
    rw [← hlink] at hne ⊢
    exact linkErrors_of_ne ((link_last hfirst).1 ▸ (link_last hfirst).2) hne _
  have hhash : hashErrors hash before.length next = [] := (hashErrors_eq_nil_iff _ _ _).mpr hcarries
  have hsplit : before ++ entry :: next :: after = before ++ [entry] ++ next :: after := by simp
  obtain ⟨-, -, -, hafter⟩ := isValidChain_split_iff.mp (hsplit ▸ hvalid)
  have hrest := (chainErrorsFrom_eq_nil_iff hash _ (before.length + 1) _ _).mp hafter
  have hfront : chainErrorsFrom hash 0 .null before = [] :=
    (isValidChain_iff hash before).mp ((isValidChain_concat _ _ _).mp hfirst).1
  rw [chainErrors, chainErrorsFrom_append, hfront, Nat.zero_add, chainErrorsFrom, hbroken, hhash, hrest,
    List.append_nil, List.append_nil, List.nil_append]

/-! ## One edit -/

/-- In a valid chain, a member other than the two hashes that is set to something of another canonical text gives one
fault, the hash of that entry; an entry that is taken out, but not at the end, gives one fault, the link of the entry
that comes to stand in its place. -/
theorem chainErrors_edited (hvalid : isValidChain hash entries = true) {i : Nat} (hi : i < entries.length) :
    (∀ key value, key ≠ recordKey → key ≠ previousKey →
      (entries[i].put key value).canonical ≠ entries[i].canonical →
      NoCollision hash [unsealed entries[i], unsealed (entries[i].put key value)] →
        chainErrors hash (entries.set i (entries[i].put key value)) = [.mismatch i]) ∧
    (i + 1 < entries.length → NoCollision hash (entries.map unsealed) →
      chainErrors hash (entries.eraseIdx i) =
        [.broken i (lastWritten .null (entries.take i)) (entries[i].getD recordKey)]) := by
  have hlength : (entries.take i).length = i := List.length_take_of_le (Nat.le_of_lt hi)
  have hsplit : entries = entries.take i ++ entries[i] :: entries.drop (i + 1) := by
    rw [← List.drop_eq_getElem_cons hi, List.take_append_drop]
  refine ⟨fun key value hrecord hprevious hchanged hcol => ?_, fun hnext hcol => ?_⟩
  · have hentry : CarriesHash hash entries[i] := by
      rw [hsplit] at hvalid
      exact (hashErrors_eq_nil_iff _ _ _).mp (isValidChain_split_iff.mp hvalid).2.2.1
    have hset : entries.set i (entries[i].put key value) =
        entries.take i ++ entries[i].put key value :: entries.drop (i + 1) := by
      rw [List.set_eq_take_append_cons_drop, if_pos hi]
    have hreplaced := chainErrors_replaced (hsplit ▸ hvalid)
      (Json.getD_put_of_ne (Ne.symm hprevious) entries[i] value)
      (Json.getD_put_of_ne (Ne.symm hrecord) entries[i] value)
    rw [hset, hreplaced, hlength]
    exact hashErrors_put hentry hrecord hchanged hcol i
  · have hdrop : entries.drop (i + 1) = entries[i + 1] :: entries.drop (i + 2) := List.drop_eq_getElem_cons hnext
    have herase : entries.eraseIdx i = entries.take i ++ entries[i + 1] :: entries.drop (i + 2) := by
      rw [List.eraseIdx_eq_take_drop_succ, hdrop]
    rw [hdrop] at hsplit
    have hdropped := chainErrors_dropped (hsplit ▸ hvalid) (hsplit ▸ hcol)
    rw [herase, hdropped, hlength]

/-- Three entries in a chain. -/
def answeredEntries : List Json :=
  sealAll lengthHash .null <| ["", "?", "??"].map fun s => .object [("error", .text s)]

/-- A member changed in the first entry, a member added to the last one, and the entry between them taken out. -/
theorem chainErrors_edited_answered :
    isValidChain lengthHash answeredEntries = true ∧
    (∃ h : 0 < answeredEntries.length,
      chainErrors lengthHash (answeredEntries.set 0 (answeredEntries[0].put "error" .null)) = [.mismatch 0]) ∧
    (∃ h : 2 < answeredEntries.length,
      chainErrors lengthHash (answeredEntries.set 2 (answeredEntries[2].put "note" .null)) = [.mismatch 2]) ∧
    ∃ expected found, chainErrors lengthHash (answeredEntries.eraseIdx 1) = [.broken 1 expected found] := by
  have hvalid : isValidChain lengthHash answeredEntries = true := by decide +kernel
  have hlength : answeredEntries.length = 3 := by decide +kernel
  have hfirst : 0 < answeredEntries.length := by rw [hlength]; decide
  have hmiddle : 1 < answeredEntries.length := by rw [hlength]; decide
  have hlast : 2 < answeredEntries.length := by rw [hlength]; decide
  have hcol : NoCollision lengthHash (answeredEntries.map unsealed) := by
    unfold NoCollision
    decide +kernel
  refine ⟨hvalid, ⟨hfirst, ?_⟩, ⟨hlast, ?_⟩, ?_⟩
  · refine (chainErrors_edited hvalid hfirst).1 "error" .null (by decide) (by decide) ?_ ?_
    · decide +kernel +revert
    · unfold NoCollision
      decide +kernel +revert
  · refine (chainErrors_edited hvalid hlast).1 "note" .null (by decide) (by decide) ?_ ?_
    · decide +kernel +revert
    · unfold NoCollision
      decide +kernel +revert
  · exact ⟨_, _, (chainErrors_edited hvalid hmiddle).2 hlast hcol⟩

end TenderQuery.Audit
