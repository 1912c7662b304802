import TenderQuery.Proofs.Audit.Validity

/-!
# The last hash commits to the whole chain

If the hash has no collision among the texts of two valid chains that end with the same hash, the chains have
the same length and, place by place, entries of the same text. The proof goes backward: equal hashes give
equal texts, equal texts give equal links, and the links are the hashes of the entries before.
-/
set_option autoImplicit false
namespace TenderQuery.Audit

theorem carriesHash_last {hash : Hash} {entries : List Json} {entry : Json}
    (h : isValidChain hash (entries ++ [entry]) = true) : CarriesHash hash entry :=
  ((isValidChain_concat hash entries entry).mp h).2.2

/-- The link of the last entry of a valid chain is exactly the hash before it. -/
theorem link_last {hash : Hash} {entries : List Json} {entry : Json}
    (h : isValidChain hash (entries ++ [entry]) = true) :
    entry.getD previousKey = lastWritten .null entries ∧ IsLink (entry.getD previousKey) := by
  obtain ⟨hvalid, hlink, -⟩ := (isValidChain_concat hash entries entry).mp h
  obtain rfl | ⟨before, last, rfl⟩ := List.eq_nil_or_concat entries
  · have hnull := (equal_null_iff _).mp hlink
    exact ⟨hnull, .inl hnull⟩
  · rw [List.concat_eq_append] at hvalid hlink ⊢
    have hlast := carriesHash_last hvalid
    rw [lastWritten_concat] at hlink ⊢
    rw [hlast] at hlink ⊢
    have htext := (equal_text_iff _ _).mp hlink
    exact ⟨htext, .inr ⟨_, htext⟩⟩

theorem lastWritten_eq_null_iff {hash : Hash} {entries : List Json} (h : isValidChain hash entries = true) :
    lastWritten .null entries = .null ↔ entries = [] := by
  refine ⟨fun hnull => ?_, fun hnil => hnil ▸ rfl⟩
  obtain rfl | ⟨before, last, rfl⟩ := List.eq_nil_or_concat entries
  · rfl
  · rw [List.concat_eq_append] at h hnull
    rw [lastWritten_concat, carriesHash_last h] at hnull
    cases hnull

theorem NoCollision.subset {hash : Hash} {texts fewer : List String} (h : NoCollision hash texts)
    (hsub : fewer ⊆ texts) : NoCollision hash fewer :=
  fun a ha b hb => h a (hsub ha) b (hsub hb)

/-- Two valid chains that end with the same hash end with entries of the same text, and the hashes before
them are the same too. -/
theorem last_eq_of_hash_eq {hash : Hash} {as bs : List Json} {a b : Json}
    (hva : isValidChain hash (as ++ [a]) = true) (hvb : isValidChain hash (bs ++ [b]) = true)
    (hcol : NoCollision hash [unsealed a, unsealed b])
    (hlast : lastWritten .null (as ++ [a]) = lastWritten .null (bs ++ [b])) :
    unsealed a = unsealed b ∧ lastWritten .null as = lastWritten .null bs := by
  have ha := carriesHash_last hva
  have hb := carriesHash_last hvb
  rw [lastWritten_concat, lastWritten_concat, ha, hb] at hlast
  have htext : unsealed a = unsealed b := by
    refine hcol _ ?_ _ ?_ (Json.text.inj hlast)
    · exact List.mem_cons_self
    · exact List.mem_cons_of_mem _ List.mem_cons_self
  have hlink := link_eq_of_unsealed_eq ha hb (link_last hva).2 (link_last hvb).2 htext
  rw [(link_last hva).1, (link_last hvb).1] at hlink
  exact ⟨htext, hlink⟩

theorem unsealed_eq_of_last_eq {hash : Hash} (as bs : List Json) (hva : isValidChain hash as = true)
    (hvb : isValidChain hash bs = true) (hcol : NoCollision hash ((as ++ bs).map unsealed))
    (hlast : lastWritten .null as = lastWritten .null bs) : as.map unsealed = bs.map unsealed := by
  -- Backward along the first chain: its last entry determines the last entry of the second one.
  induction h : as.length generalizing as bs with
  | zero =>
    rw [List.length_eq_zero_iff] at h
    subst h
    rw [(lastWritten_eq_null_iff hvb).mp hlast.symm]
  | succ n ih =>
    obtain rfl | ⟨as, a, rfl⟩ := List.eq_nil_or_concat as
    · exact absurd h (by simp)
    rw [List.concat_eq_append] at h hva hcol hlast ⊢
    obtain rfl | ⟨bs, b, rfl⟩ := List.eq_nil_or_concat bs
    · have hnil := (lastWritten_eq_null_iff hva).mp hlast
      exact absurd hnil (by simp)
    rw [List.concat_eq_append] at hvb hcol hlast ⊢
    obtain ⟨htext, hbefore⟩ := last_eq_of_hash_eq hva hvb (hcol.subset (by simp)) hlast
    have hrest : as.map unsealed = bs.map unsealed := by
      refine ih as bs ((isValidChain_concat _ _ _).mp hva).1 ((isValidChain_concat _ _ _).mp hvb).1 ?_
        hbefore (by simpa using h)
      refine hcol.subset (List.map_subset _ ?_)
      intro entry hentry
      rw [List.mem_append] at hentry ⊢
      exact hentry.imp (List.mem_append_left _) (List.mem_append_left _)
    rw [List.map_append, List.map_append, hrest]
    simp only [List.map_cons, List.map_nil, htext]

/-- Two valid chains that are not empty and end with the same hash have the same length and, place by place,
entries of the same text, if the hash has no collision among these texts. -/
theorem same_history_of_same_last_hash {hash : Hash} {as bs : List Json}
    (hva : isValidChain hash as = true) (hvb : isValidChain hash bs = true) (has : as ≠ []) (hbs : bs ≠ [])
    (hcol : NoCollision hash ((as ++ bs).map unsealed))
    (hlast : (as.getLast has).getD recordKey = (bs.getLast hbs).getD recordKey) :
    as.length = bs.length ∧
      ∀ (i : Nat) (hi : i < as.length) (hj : i < bs.length), unsealed as[i] = unsealed bs[i] := by
  have hwritten : lastWritten .null as = lastWritten .null bs := by
    rw [lastWritten, lastWritten, List.getLast?_eq_some_getLast has, List.getLast?_eq_some_getLast hbs]
    exact hlast
  have hmap := unsealed_eq_of_last_eq as bs hva hvb hcol hwritten
  refine ⟨by simpa using congrArg List.length hmap, ?_⟩
  intro i hi hj
  have hget := congrArg (·[i]?) hmap
  simpa [List.getElem?_map, List.getElem?_eq_getElem hi, List.getElem?_eq_getElem hj] using hget

/-- Two entries in a chain, each with its members in the given order. -/
def twoEntries (arrange : List (String × Json) → List (String × Json)) : List Json :=
  let first := sealed id .null (.object (arrange [("question", .text "é?"), ("success", .bool true)]))
  let second := sealed id (first.getD recordKey) (.object (arrange [("question", .null), ("error", .text "")]))
  [first, second]

theorem same_history_of_reordered_members :
    isValidChain id (twoEntries id) = true ∧ isValidChain id (twoEntries List.reverse) = true ∧
      (twoEntries id).length = (twoEntries List.reverse).length ∧
      ∀ (i : Nat) (_hi : i < (twoEntries id).length) (hj : i < (twoEntries List.reverse).length),
        unsealed (twoEntries id)[i] = unsealed (twoEntries List.reverse)[i] := by
  have hva : isValidChain id (twoEntries id) = true := by decide +kernel
  have hvb : isValidChain id (twoEntries List.reverse) = true := by decide +kernel
  refine ⟨hva, hvb, ?_⟩
  refine same_history_of_same_last_hash hva hvb (List.cons_ne_nil _ _) (List.cons_ne_nil _ _) ?_ ?_
  · intro a _ b _ h
    exact h
  · have ha := @carriesHash_last id [(twoEntries id)[0]] _ hva
    have hb := @carriesHash_last id [(twoEntries List.reverse)[0]] _ hvb
    have htext : unsealed (twoEntries id)[1] = unsealed (twoEntries List.reverse)[1] := by decide +kernel
    exact ha.trans ((congrArg Json.text htext).trans hb.symm)

end TenderQuery.Audit
