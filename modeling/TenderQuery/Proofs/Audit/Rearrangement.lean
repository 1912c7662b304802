import Mathlib.Data.List.Induction
import TenderQuery.Proofs.Audit.Commitment
import TenderQuery.Proofs.Audit.Sealing

/-!
# Rearranged chains

What is left of a valid chain is valid if entries are dropped at its end, and in no other case: whatever else is
done with its entries alone, in any order and any number, gives a chain with a fault
(`isValidChain_rearranged_iff`). Every hash in a valid chain commits to the entries up to it, so that no two
places of the chain carry the same one (`beginning_eq_of_written_eq`), and an entry fits behind no other entry
than the one before it.
-/
set_option autoImplicit false
namespace TenderQuery.Audit
variable {hash : Hash} {entries : List Json}

/-- A chain stays valid when its end is cut off. -/
theorem isValidChain_beginning {before : List Json} (hvalid : isValidChain hash entries = true)
    (hbefore : before <+: entries) : isValidChain hash before = true := by
  obtain ⟨after, rfl⟩ := hbefore
  rw [isValidChain_iff, chainErrors, chainErrorsFrom_append, List.append_eq_nil_iff] at hvalid
  exact (isValidChain_iff hash before).mpr hvalid.1

/-- Two beginnings of a valid chain that end with the same hash are the same. -/
theorem beginning_eq_of_written_eq {as bs : List Json} (hvalid : isValidChain hash entries = true)
    (hcol : NoCollision hash (entries.map unsealed)) (has : as <+: entries) (hbs : bs <+: entries)
    (hwritten : lastWritten .null as = lastWritten .null bs) : as = bs := by
  have htexts : (as ++ bs).map unsealed ⊆ entries.map unsealed := by
    refine List.map_subset _ fun entry hentry => ?_
    obtain hentry | hentry := List.mem_append.mp hentry
    · exact has.subset hentry
    · exact hbs.subset hentry
  have hmap : as.map unsealed = bs.map unsealed :=
    unsealed_eq_of_last_eq as bs (isValidChain_beginning hvalid has) (isValidChain_beginning hvalid hbs)
      (hcol.subset htexts) hwritten
  have hlength : as.length = bs.length := by simpa using congrArg List.length hmap
  rw [List.prefix_iff_eq_take.mp has, List.prefix_iff_eq_take.mp hbs, hlength]

/-- A valid chain of entries of a valid chain is a beginning of it. -/
theorem beginning_of_isValidChain {chosen : List Json} (hvalid : isValidChain hash entries = true)
    (hcol : NoCollision hash (entries.map unsealed)) (hmem : ∀ entry ∈ chosen, entry ∈ entries)
    (hchosen : isValidChain hash chosen = true) : chosen <+: entries := by
  -- From the end: the entry that comes last links to the hash before it, which stands in one place only.
  induction chosen using List.reverseRecOn with
  | nil => exact List.nil_prefix
  | append_singleton chosen entry ih =>
    have hbegun : chosen <+: entries :=
      ih (fun e he => hmem e (List.mem_append_left _ he))
        (isValidChain_beginning hchosen (List.prefix_append chosen [entry]))
    obtain ⟨before, after, rfl⟩ := List.append_of_mem (hmem entry (List.mem_append_right _ List.mem_cons_self))
    have hplace : before ++ [entry] <+: before ++ entry :: after := ⟨after, by rw [List.append_assoc]; rfl⟩
    have hlink : lastWritten .null chosen = lastWritten .null before :=
      (link_last hchosen).1.symm.trans (link_last (isValidChain_beginning hvalid hplace)).1
    have hsame : chosen = before :=
      beginning_eq_of_written_eq hvalid hcol hbegun (List.prefix_append before (entry :: after)) hlink
    rw [hsame]
    exact hplace

/-- Entries taken from a valid chain, in any order and any number, form a valid chain just in case they are its
first entries in their order, if the hash has no collision among the texts of the chain. -/
theorem isValidChain_rearranged_iff {chosen : List Json} (hvalid : isValidChain hash entries = true)
    (hcol : NoCollision hash (entries.map unsealed)) (hmem : ∀ entry ∈ chosen, entry ∈ entries) :
    isValidChain hash chosen = true ↔ chosen <+: entries :=
  ⟨beginning_of_isValidChain hvalid hcol hmem, isValidChain_beginning hvalid⟩

/-- Tells texts of different lengths apart. -/
def lengthHash : Hash := fun text => toString text.length

/-- Three entries that are not chained yet. -/
def threeQuestions : List Json := ["How many?", "Which?", "Since when?"].map fun s => .object [("question", .text s)]

/-- The chain of the three entries. -/
def threeEntries : List Json := sealAll lengthHash .null threeQuestions

/-- The entries of the chain at the given places. -/
def chosenEntries (places : List Nat) : List Json := places.filterMap fun i => threeEntries[i]?

theorem isValidChain_chosenEntries :
    isValidChain lengthHash (chosenEntries [0, 1]) = true ∧
      isValidChain lengthHash (chosenEntries [0, 2]) = false ∧
      isValidChain lengthHash (chosenEntries [1, 0, 2]) = false ∧
      isValidChain lengthHash (chosenEntries [0, 0, 1]) = false := by
  have hentries : ∀ e ∈ threeQuestions, IsEntry e := by
    intro e he
    obtain ⟨s, -, rfl⟩ := List.mem_map.mp he
    have hprevious : previousKey ∉ ["question"] := by decide
    have hrecord : recordKey ∉ ["question"] := by decide
    exact ⟨_, rfl, hprevious, hrecord⟩
  have hvalid : isValidChain lengthHash threeEntries = true :=
    (isValidChain_iff _ _).mpr (chainErrors_sealAll hentries)
  have hcol : NoCollision lengthHash (threeEntries.map unsealed) := by
    unfold NoCollision
    decide +kernel
  have hiff : ∀ places,
      isValidChain lengthHash (chosenEntries places) = true ↔ chosenEntries places <+: threeEntries := by
    intro places
    refine isValidChain_rearranged_iff hvalid hcol fun entry hentry => ?_
    obtain ⟨i, -, hi⟩ := List.mem_filterMap.mp hentry
    exact List.mem_of_getElem? hi
  have hfault : ∀ places, ¬(chosenEntries places).map unsealed <+: threeEntries.map unsealed →
      isValidChain lengthHash (chosenEntries places) = false := by
    intro places hplaces
    rw [Bool.eq_false_iff]
    exact fun hchosen => hplaces (((hiff places).mp hchosen).map unsealed)
  refine ⟨(hiff [0, 1]).mpr ⟨threeEntries.drop 2, rfl⟩, hfault _ ?_, hfault _ ?_, hfault _ ?_⟩
  · decide +kernel
  · decide +kernel
  · decide +kernel

end TenderQuery.Audit
