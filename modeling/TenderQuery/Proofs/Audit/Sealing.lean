import TenderQuery.Proofs.Audit.Validity
import TenderQuery.Proofs.Json.RoundTrip

/-!
# Sealed entries

An entry is an object without the members of the chain, which sealing adds at its end. Sealed one after the
other, entries form a valid chain (`chainErrors_sealAll`), whatever the hash is.
-/
set_option autoImplicit false
namespace TenderQuery.Audit

/-! ## One entry -/

/-- An object that has no member of the chain yet. -/
def IsEntry (entry : Json) : Prop :=
  ∃ members, entry = .object members ∧ previousKey ∉ members.map Prod.fst ∧ recordKey ∉ members.map Prod.fst

/-- The entry without the members of the chain. -/
def unchained (entry : Json) : Json := (entry.erase recordKey).erase previousKey

section
variable {hash : Hash} {previous entry : Json} {members : List (String × Json)}

theorem recordKey_not_mem_chained (h : recordKey ∉ members.map Prod.fst) (previous : Json) :
    recordKey ∉ (members ++ [(previousKey, previous)]).map Prod.fst := by
  have hne : recordKey ≠ previousKey := by decide
  rw [List.map_append, List.mem_append, not_or]
  exact ⟨h, fun hmem => hne (List.mem_singleton.mp hmem)⟩

/-- Sealing adds the link and the hash at the end. -/
theorem sealed_object (hash : Hash) (previous : Json) (hprevious : previousKey ∉ members.map Prod.fst)
    (hrecord : recordKey ∉ members.map Prod.fst) :
    sealed hash previous (.object members) =
      .object (members ++ [(previousKey, previous)] ++
        [(recordKey, .text (hash (Json.object (members ++ [(previousKey, previous)])).canonical))]) := by
  unfold sealed
  simp only [Json.put, Json.putMember_of_not_mem hprevious,
    Json.putMember_of_not_mem (recordKey_not_mem_chained hrecord previous)]
  rfl

theorem lookup_append_of_not_mem {key : String} (h : key ∉ members.map Prod.fst) (rest : List (String × Json)) :
    (members ++ rest).lookup key = rest.lookup key := by
  induction members with
  | nil => rfl
  | cons m members ih =>
    obtain ⟨k, v⟩ := m
    rw [List.map_cons, List.mem_cons, not_or] at h
    have hne : (key == k) = false := beq_eq_false_iff_ne.mpr h.1
    rw [List.cons_append, List.lookup_cons, hne]
    exact ih h.2

theorem getD_previousKey_sealed (h : IsEntry entry) : (sealed hash previous entry).getD previousKey = previous := by
  obtain ⟨members, rfl, hprevious, hrecord⟩ := h
  rw [sealed_object hash previous hprevious hrecord]
  simp only [Json.getD, Json.get?]
  rw [List.append_assoc, lookup_append_of_not_mem hprevious]
  rfl

theorem erase_last {key : String} (h : key ∉ members.map Prod.fst) (value : Json) :
    (Json.object (members ++ [(key, value)])).erase key = .object members := by
  have hkeep : members.filter (fun m => m.1 != key) = members := by
    refine List.filter_eq_self.mpr fun m hm => ?_
    exact bne_iff_ne.mpr fun heq => h (heq ▸ List.mem_map_of_mem hm)
  change Json.object ((members ++ [(key, value)]).filter fun m => m.1 != key) = .object members
  rw [List.filter_append, hkeep]
  simp

theorem unchained_sealed (h : IsEntry entry) : unchained (sealed hash previous entry) = entry := by
  obtain ⟨members, rfl, hprevious, hrecord⟩ := h
  unfold unchained
  rw [sealed_object hash previous hprevious hrecord, erase_last (recordKey_not_mem_chained hrecord previous),
    erase_last hprevious]

theorem carriesHash_sealed (h : IsEntry entry) : CarriesHash hash (sealed hash previous entry) := by
  obtain ⟨members, rfl, hprevious, hrecord⟩ := h
  have hchained := recordKey_not_mem_chained hrecord previous
  unfold CarriesHash unsealed
  rw [sealed_object hash previous hprevious hrecord, erase_last hchained]
  simp only [Json.getD, Json.get?]
  rw [lookup_append_of_not_mem hchained]
  simp

theorem isLink_sealed (h : IsEntry entry) : IsLink ((sealed hash previous entry).getD recordKey) :=
  .inr ⟨_, carriesHash_sealed h⟩

theorem nodup_concat_member {key : String} (hkeys : (members.map Prod.fst).Nodup) (h : key ∉ members.map Prod.fst)
    (value : Json) : ((members ++ [(key, value)]).map Prod.fst).Nodup := by
  rw [List.map_append, List.nodup_append]
  refine ⟨hkeys, List.pairwise_singleton _ _, ?_⟩
  rintro k hk l hl rfl
  have heq : k = key := List.mem_singleton.mp hl
  exact h (heq ▸ hk)

/-- Sealing keeps the keys of an entry different. -/
theorem hasUniqueKeys_sealed (h : IsEntry entry) (hkeys : entry.hasUniqueKeys = true) (hlink : IsLink previous) :
    (sealed hash previous entry).hasUniqueKeys = true := by
  obtain ⟨members, rfl, hprevious, hrecord⟩ := h
  have hchained := recordKey_not_mem_chained hrecord previous
  have hvalue : previous.hasUniqueKeys = true := by
    obtain rfl | ⟨s, rfl⟩ := hlink <;> rfl
  simp only [Json.hasUniqueKeys, Bool.and_eq_true, decide_eq_true_eq] at hkeys
  rw [sealed_object hash previous hprevious hrecord]
  simp only [Json.hasUniqueKeys, Json.membersHaveUniqueKeys_append, Json.membersHaveUniqueKeys, hvalue, hkeys.2,
    Bool.and_true, decide_eq_true_eq]
  exact nodup_concat_member (nodup_concat_member hkeys.1 hprevious previous) hchained _

/-- Sealing adds no whole numbers. -/
theorem excess_sealed (h : IsEntry entry) (hlink : IsLink previous) (limit : Json.DigitLimit) :
    (sealed hash previous entry).excess? limit = entry.excess? limit := by
  have hfits : ∀ digits, (sealed hash previous entry).fits digits = entry.fits digits := by
    intro digits
    obtain ⟨members, rfl, hprevious, hrecord⟩ := h
    have hvalue : previous.fits digits = true := by
      obtain rfl | ⟨s, rfl⟩ := hlink <;> rfl
    rw [sealed_object hash previous hprevious hrecord]
    simp only [Json.fits, Json.fitsMembers_append, Json.fitsMembers, hvalue, Bool.and_true]
  simp only [Json.excess?, hfits]

theorem IsLink.equal_self {j : Json} (h : IsLink j) : j.equal j = true := by
  obtain rfl | ⟨s, rfl⟩ := h
  · rfl
  · exact (equal_text_iff _ _).mpr rfl

end

/-! ## Many entries -/

/-- The entries, each sealed after the one before it. -/
def sealAll (hash : Hash) (previous : Json) : List Json → List Json
  | [] => []
  | entry :: rest =>
    sealed hash previous entry :: sealAll hash ((sealed hash previous entry).getD recordKey) rest

theorem sealAll_concat (hash : Hash) (previous : Json) (entries : List Json) (entry : Json) :
    sealAll hash previous (entries ++ [entry]) =
      sealAll hash previous entries ++
        [sealed hash (lastWritten previous (sealAll hash previous entries)) entry] := by
  induction entries generalizing previous with
  | nil => rfl
  | cons e rest ih => rw [List.cons_append, sealAll, sealAll, lastWritten_cons, ih, List.cons_append]

theorem length_sealAll (hash : Hash) (previous : Json) (entries : List Json) :
    (sealAll hash previous entries).length = entries.length := by
  induction entries generalizing previous with
  | nil => rfl
  | cons e rest ih => rw [sealAll, List.length_cons, List.length_cons, ih]

theorem map_unchained_sealAll {hash : Hash} {entries : List Json} (h : ∀ e ∈ entries, IsEntry e)
    (previous : Json) : (sealAll hash previous entries).map unchained = entries := by
  induction entries generalizing previous with
  | nil => rfl
  | cons e rest ih =>
    rw [sealAll, List.map_cons, unchained_sealed (h e List.mem_cons_self),
      ih fun x hx => h x (List.mem_cons_of_mem e hx)]

/-- What was sealed in order is an entry each, sealed behind another one or behind none. -/
theorem exists_sealed_of_mem {hash : Hash} {entries : List Json} (h : ∀ e ∈ entries, IsEntry e) {previous : Json}
    (hlink : IsLink previous) {e : Json} (he : e ∈ sealAll hash previous entries) :
    ∃ before entry, IsLink before ∧ entry ∈ entries ∧ e = sealed hash before entry := by
  induction entries generalizing previous with
  | nil => cases he
  | cons entry rest ih =>
    rw [sealAll, List.mem_cons] at he
    obtain rfl | he := he
    · exact ⟨previous, entry, hlink, List.mem_cons_self, rfl⟩
    · have hnext : IsLink ((sealed hash previous entry).getD recordKey) := isLink_sealed (h entry List.mem_cons_self)
      obtain ⟨before, found, hbefore, hmem, heq⟩ := ih (fun x hx => h x (List.mem_cons_of_mem entry hx)) hnext he
      exact ⟨before, found, hbefore, List.mem_cons_of_mem entry hmem, heq⟩

theorem isLink_lastWritten {hash : Hash} {entries : List Json} (h : ∀ e ∈ entries, IsEntry e) :
    IsLink (lastWritten .null (sealAll hash .null entries)) := by
  obtain rfl | ⟨before, entry, rfl⟩ := List.eq_nil_or_concat entries
  · exact .inl rfl
  · rw [List.concat_eq_append] at h ⊢
    rw [sealAll_concat, lastWritten_concat]
    exact isLink_sealed (h entry (List.mem_append_right _ List.mem_cons_self))

/-- Entries that were sealed in order have no fault. -/
theorem chainErrorsFrom_sealAll {hash : Hash} {entries : List Json} (h : ∀ e ∈ entries, IsEntry e) (index : Nat)
    {previous : Json} (hlink : IsLink previous) :
    chainErrorsFrom hash index previous (sealAll hash previous entries) = [] := by
  induction entries generalizing index previous with
  | nil => rfl
  | cons e rest ih =>
    have he : IsEntry e := h e List.mem_cons_self
    have hlinked : linkErrors index previous (sealed hash previous e) = [] := by
      rw [linkErrors_eq_nil_iff, getD_previousKey_sealed he]
      exact hlink.equal_self
    have hhashed : hashErrors hash index (sealed hash previous e) = [] :=
      (hashErrors_eq_nil_iff hash index _).mpr (carriesHash_sealed he)
    have hnext : IsLink ((sealed hash previous e).getD recordKey) := isLink_sealed he
    have hrest := ih (fun x hx => h x (List.mem_cons_of_mem e hx)) (index + 1) hnext
    rw [sealAll, chainErrorsFrom, hlinked, hhashed, hrest]
    rfl

theorem chainErrors_sealAll {hash : Hash} {entries : List Json} (h : ∀ e ∈ entries, IsEntry e) :
    chainErrors hash (sealAll hash .null entries) = [] :=
  chainErrorsFrom_sealAll h 0 (.inl rfl)

end TenderQuery.Audit
