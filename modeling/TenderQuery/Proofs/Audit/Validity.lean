import TenderQuery.Audit.Chain
import TenderQuery.Proofs.Json.Canonical

/-!
# Valid chains

A chain is valid entry by entry: each entry links to the hash written in the one before it, the first one to
none, and carries the hash of its own unsealed text. `isValidChain_concat` says so for the entry at the end,
from which inductions over a chain go backward.

The member that links an entry to its predecessor is covered by the entry's own hash: entries of one unsealed
text have the same link (`link_eq_of_unsealed_eq`).
-/
set_option autoImplicit false
namespace TenderQuery.Audit

/-- The canonical text of an entry without its own hash, which is what the hash is taken of. -/
def unsealed (entry : Json) : String := (entry.erase recordKey).canonical

/-- The entry carries the hash of its own text. -/
def CarriesHash (hash : Hash) (entry : Json) : Prop := entry.getD recordKey = .text (hash (unsealed entry))

/-- The hash written in the last of the entries, `previous` if there are none. -/
def lastWritten (previous : Json) (entries : List Json) : Json :=
  (entries.getLast?.map fun entry => entry.getD recordKey).getD previous

/-- No two of the texts share a hash. -/
def NoCollision (hash : Hash) (texts : List String) : Prop :=
  ∀ a ∈ texts, ∀ b ∈ texts, hash a = hash b → a = b

theorem lastWritten_concat (previous entry : Json) (entries : List Json) :
    lastWritten previous (entries ++ [entry]) = entry.getD recordKey := by
  simp [lastWritten]

theorem lastWritten_cons (previous entry : Json) (entries : List Json) :
    lastWritten previous (entry :: entries) = lastWritten (entry.getD recordKey) entries := by
  cases entries with
  | nil => rfl
  | cons e rest =>
    simp only [lastWritten, List.getLast?_cons_cons, List.getLast?_eq_some_getLast (List.cons_ne_nil e rest),
      Option.map_some, Option.getD_some]

/-! ## Equality by meaning with texts and null -/

theorem equal_text_iff (j : Json) (s : String) : j.equal (.text s) = true ↔ j = .text s := by
  cases j <;> simp [Json.equal, Json.toNumber?]

theorem equal_null_iff (j : Json) : j.equal .null = true ↔ j = .null := by
  cases j <;> simp [Json.equal, Json.toNumber?]

/-! ## The faults of one entry -/

theorem linkErrors_eq_nil_iff (index : Nat) (previous entry : Json) :
    linkErrors index previous entry = [] ↔ (entry.getD previousKey).equal previous = true := by
  unfold linkErrors
  dsimp only
  split
  · rename_i h; simp [h]
  · rename_i h; simp [h]

theorem hashErrors_eq_nil_iff (hash : Hash) (index : Nat) (entry : Json) :
    hashErrors hash index entry = [] ↔ CarriesHash hash entry := by
  have e : CarriesHash hash entry ↔
      (entry.getD recordKey).equal (.text (entryHash hash (entry.erase recordKey))) = true :=
    (equal_text_iff _ _).symm
  rw [e]
  unfold hashErrors
  dsimp only
  split
  · rename_i h; simp [h]
  · rename_i h; simp [h]

/-! ## Whole chains -/

theorem chainErrorsFrom_append (hash : Hash) (as bs : List Json) (index : Nat) (previous : Json) :
    chainErrorsFrom hash index previous (as ++ bs) =
      chainErrorsFrom hash index previous as ++
        chainErrorsFrom hash (index + as.length) (lastWritten previous as) bs := by
  induction as generalizing index previous with
  | nil => rfl
  | cons a as ih =>
    rw [lastWritten_cons, List.length_cons, Nat.add_comm as.length 1, ← Nat.add_assoc]
    simp only [List.cons_append, chainErrorsFrom, ih, List.append_assoc]

theorem isValidChain_iff (hash : Hash) (entries : List Json) :
    isValidChain hash entries = true ↔ chainErrors hash entries = [] := by
  simp [isValidChain]

theorem isValidChain_concat (hash : Hash) (entries : List Json) (entry : Json) :
    isValidChain hash (entries ++ [entry]) = true ↔
      isValidChain hash entries = true ∧
        (entry.getD previousKey).equal (lastWritten .null entries) = true ∧ CarriesHash hash entry := by
  rw [isValidChain_iff, isValidChain_iff, chainErrors, chainErrors, chainErrorsFrom_append]
  simp only [chainErrorsFrom, List.append_nil, List.append_eq_nil_iff, linkErrors_eq_nil_iff,
    hashErrors_eq_nil_iff]

/-! ## What the hash covers -/

theorem CarriesHash.exists_members {hash : Hash} {entry : Json} (h : CarriesHash hash entry) :
    ∃ members, entry = .object members := by
  cases entry with
  | object members => exact ⟨members, rfl⟩
  | null => exact Json.noConfusion h
  | bool b => exact Json.noConfusion h
  | number n => exact Json.noConfusion h
  | text s => exact Json.noConfusion h
  | list items => exact Json.noConfusion h

theorem lookup_filter_ne {α : Type} {key erased : String} (h : key ≠ erased) (members : List (String × α)) :
    (members.filter fun (k, _) => k != erased).lookup key = members.lookup key := by
  induction members with
  | nil => rfl
  | cons m rest ih =>
    obtain ⟨k, v⟩ := m
    by_cases hk : k = erased
    · subst hk
      have hne : (key == k) = false := by rw [beq_eq_false_iff_ne]; exact h
      simp [List.lookup_cons, hne, ih]
    · have hkeep : (k != erased) = true := by simpa using hk
      simp only [List.filter_cons, hkeep, if_true, List.lookup_cons, ih]

/-- A link is a hash or, in front of the first entry, null. -/
def IsLink (j : Json) : Prop := j = .null ∨ ∃ s, j = .text s

theorem link_eq_of_written_eq {a b : Option Json} (ha : IsLink (a.getD .null)) (hb : IsLink (b.getD .null))
    (h : a.map (Json.write Json.sortByKey) = b.map (Json.write Json.sortByKey)) :
    a.getD .null = b.getD .null := by
  have htext : ∀ (x y : Option Json) (s : String), x = some (.text s) →
      x.map (Json.write Json.sortByKey) = y.map (Json.write Json.sortByKey) → x.getD .null = y.getD .null := by
    intro x y s hx hxy
    subst hx
    obtain ⟨j, rfl, hj⟩ := Option.map_eq_some_iff.mp hxy.symm
    rw [Json.write_eq_writeText hj]
  have hsome : ∀ (x : Option Json) (s : String), x.getD .null = .text s → x = some (.text s) := by
    intro x s hx
    cases x with
    | none => cases hx
    | some j => exact congrArg some hx
  obtain ha | ⟨s, ha⟩ := ha
  · obtain hb | ⟨t, hb⟩ := hb
    · rw [ha, hb]
    · exact (htext b a t (hsome b t hb) h.symm).symm
  · exact htext a b s (hsome a s ha) h

theorem link_eq_of_unsealed_eq {hash : Hash} {a b : Json} (ha : CarriesHash hash a)
    (hb : CarriesHash hash b) (hla : IsLink (a.getD previousKey)) (hlb : IsLink (b.getD previousKey))
    (h : unsealed a = unsealed b) : a.getD previousKey = b.getD previousKey := by
  obtain ⟨as, rfl⟩ := ha.exists_members
  obtain ⟨bs, rfl⟩ := hb.exists_members
  have hw := Json.written_member_eq h previousKey
  rw [lookup_filter_ne (by decide), lookup_filter_ne (by decide)] at hw
  exact link_eq_of_written_eq hla hlb hw

end TenderQuery.Audit
