import TenderQuery.Proofs.Json.Delimited

/-!
# What a canonical text determines

- Every written value is closed, whatever its numbers, texts and nested values are (`closed_write`).
- An object's text determines its members as written, in the order in which they are written
  (`writeObject_inj`).
- The order by key is stable, so a look-up among sorted members is a look-up among the members
  (`lookup_sortByKey`).

Together: if two objects have one canonical text, then under every key they have values of one canonical
text, or both have none (`written_member_eq`).
-/
set_option autoImplicit false
namespace TenderQuery.Json
open TenderQuery.Decimal TenderQuery.Text

/-! ## Characters of numbers -/

/-- The characters that numbers and their names are written with, and the other letters. -/
def isNumeral (c : Char) : Bool := c.isAlphanum || c == '.' || c == '+' || c == '-'

theorem isNumeral_of_isDigit {c : Char} (h : c.isDigit = true) : isNumeral c = true := by
  simp [isNumeral, Char.isAlphanum, h]

theorem isNumeral_toDigits {n : Nat} {c : Char} (h : c ∈ Nat.toDigits 10 n) : isNumeral c = true :=
  isNumeral_of_isDigit (Nat.isDigit_of_mem_toDigits (by decide) (by decide) h)

theorem isNumeral_zeros {n : Nat} {c : Char} (h : c ∈ zeros n) : isNumeral c = true := by
  rw [List.eq_of_mem_replicate h]
  decide

theorem isNumeral_positional {digits : List Char} (hd : ∀ c ∈ digits, isNumeral c = true) (whole : Int) :
    ∀ c ∈ positional digits whole, isNumeral c = true := by
  have hpoint : isNumeral '.' = true := by decide
  have hzero : isNumeral '0' = true := by decide
  intro c hc
  unfold positional at hc
  split at hc
  · simp only [List.cons_append, List.mem_cons, List.mem_append] at hc
    obtain rfl | rfl | hc | hc := hc
    · exact hzero
    · exact hpoint
    · exact isNumeral_zeros hc
    · exact hd c hc
  · dsimp only at hc
    split at hc
    · simp only [List.mem_append, List.mem_cons, List.not_mem_nil, or_false] at hc
      obtain (hc | hc) | rfl | rfl := hc
      · exact hd c hc
      · exact isNumeral_zeros hc
      · exact hpoint
      · exact hzero
    · simp only [List.mem_append, List.mem_cons] at hc
      obtain hc | rfl | hc := hc
      · exact hd c (List.mem_of_mem_take hc)
      · exact hpoint
      · exact hd c (List.mem_of_mem_drop hc)

theorem isNumeral_exponentText (exponent : Int) : ∀ c ∈ exponentText exponent, isNumeral c = true := by
  intro c hc
  simp only [exponentText, List.cons_append, List.mem_cons, List.mem_append] at hc
  obtain rfl | rfl | hc | hc := hc
  · decide
  · split <;> decide
  · exact isNumeral_zeros hc
  · exact isNumeral_toDigits hc

theorem isNumeral_exponential {digits : List Char} (hd : ∀ c ∈ digits, isNumeral c = true) (exponent : Int) :
    ∀ c ∈ exponential digits exponent, isNumeral c = true := by
  intro c hc
  unfold exponential at hc
  split at hc
  · cases hc
  · simp only [List.mem_cons] at hc
    obtain rfl | hc := hc
    · exact hd c (List.mem_singleton_self c)
    · exact isNumeral_exponentText exponent c hc
  · simp only [List.cons_append, List.mem_cons, List.mem_append] at hc
    obtain rfl | rfl | hc | hc := hc
    · exact hd _ (List.mem_cons_self ..)
    · decide
    · exact hd c (List.mem_cons_of_mem _ hc)
    · exact isNumeral_exponentText exponent c hc

theorem isNumeral_scaledText (s : Scaled) : ∀ c ∈ s.text, isNumeral c = true := by
  have hd : ∀ c ∈ dropTrailingZeros (Nat.toDigits 10 s.digits), isNumeral c = true := by
    intro c hc
    rw [dropTrailingZeros, List.mem_reverse] at hc
    exact isNumeral_toDigits (List.mem_reverse.mp ((List.dropWhile_suffix _).subset hc))
  intro c hc
  unfold Scaled.text at hc
  dsimp only at hc
  split at hc
  · exact isNumeral_positional hd _ c hc
  · exact isNumeral_exponential hd _ c hc

theorem writeNumber_whole (n : Int) :
    writeNumber (.whole n) = (if n < 0 then ['-'] else []) ++ Nat.toDigits 10 n.natAbs := by
  cases n with
  | ofNat m =>
    have hrepr : writeNumber (.whole (Int.ofNat m)) = m.repr.toList := rfl
    rw [hrepr, Nat.toList_repr]
    rfl
  | negSucc m =>
    have hrepr : writeNumber (.whole (Int.negSucc m)) = ("-" ++ (m + 1).repr).toList := rfl
    rw [hrepr, String.toList_append, Nat.toList_repr, if_pos (Int.negSucc_lt_zero m)]
    rfl

theorem writeNumber_finite {x : Binary64} (h : x.isFinite = true) :
    writeNumber (.real x) = (if x.isNegative then ['-'] else []) ++ (shortestDigits x).text := by
  cases x with
  | nan => cases h
  | infinity negative => cases h
  | finite negative significand scale hcanonical => exact String.toList_ofList

theorem isNumeral_writeNumber (n : Number) : ∀ c ∈ writeNumber n, isNumeral c = true := by
  have hsign : ∀ (p : Prop) [Decidable p] (c : Char), c ∈ (if p then ['-'] else []) → isNumeral c = true := by
    intro p _ c hc
    split at hc
    · rw [List.mem_singleton.mp hc]
      decide
    · cases hc
  intro c hc
  cases n with
  | whole n =>
    rw [writeNumber_whole, List.mem_append] at hc
    exact hc.elim (hsign _ c) isNumeral_toDigits
  | real x =>
    cases x with
    | nan =>
      have hname : ∀ c ∈ "NaN".toList, isNumeral c = true := List.all_eq_true.mp (by decide)
      exact hname c hc
    | infinity negative =>
      have hname : ∀ c ∈ "Infinity".toList, isNumeral c = true := List.all_eq_true.mp (by decide)
      have htext : writeNumber (.real (.infinity negative)) =
          (if negative then ['-'] else []) ++ "Infinity".toList := String.toList_ofList
      rw [htext, List.mem_append] at hc
      exact hc.elim (hsign _ c) (hname c)
    | finite negative significand scale hcanonical =>
      rw [writeNumber_finite rfl, List.mem_append] at hc
      exact hc.elim (hsign _ c) (isNumeral_scaledText _ c)

theorem ne_of_isNumeral {c d : Char} (h : isNumeral c = true) (hd : isNumeral d = false) : c ≠ d := by
  rintro rfl
  rw [h] at hd
  cases hd

theorem isPlain_of_isNumeral {c : Char} (h : isNumeral c = true) : isPlain c = true := by
  have hne : ∀ d : Char, isNumeral d = false → (c == d) = false :=
    fun d hd => beq_eq_false_iff_ne.mpr (ne_of_isNumeral h hd)
  simp [isPlain, isOpening, isClosing, isSeparator, hne '"' rfl, hne '[' rfl, hne '\x7b' rfl, hne ']' rfl,
    hne '\x7d' rfl, hne ',' rfl, hne ':' rfl]

theorem isPlain_writeNumber (n : Number) : ∀ c ∈ writeNumber n, isPlain c = true :=
  fun c hc => isPlain_of_isNumeral (isNumeral_writeNumber n c hc)

/-! ## Values are closed -/

section
variable {arrange : WrittenMembers → WrittenMembers}

theorem passed_separated {d : Nat} {texts : List (List Char)} (h : ∀ t ∈ texts, Passed (d + 1) t) :
    Passed (d + 1) (separated texts) := by
  have hcomma : Passed (d + 1) [',', ' '] :=
    Passed.cons (passed_separator rfl d) (passed_of_isPlain (by decide) (d + 1))
  induction texts with
  | nil => exact Passed.nil _
  | cons t rest ih =>
    have ht := h t (List.mem_cons_self ..)
    have hrest := ih fun u hu => h u (List.mem_cons_of_mem _ hu)
    cases rest with
    | nil => exact ht
    | cons u rest => exact ht.append (hcomma.append hrest)

theorem passed_writeMember {d : Nat} {key : String} {value : List Char} (h : Closed value) :
    Passed (d + 1) (writeMember key value) := by
  have hcolon : Passed (d + 1) [':', ' '] :=
    Passed.cons (passed_separator rfl d) (passed_of_isPlain (by decide) (d + 1))
  exact (closed_writeText key (d + 1)).append (hcolon.append (h (d + 1)))

theorem closed_writeObject {members : WrittenMembers} (h : ∀ m ∈ members, Closed m.2) :
    Closed (writeObject members) := by
  refine closed_brackets rfl rfl fun d => passed_separated ?_
  intro t ht
  obtain ⟨m, hm, rfl⟩ := List.mem_map.mp ht
  exact passed_writeMember (h m hm)

/-- An order of members that adds none. -/
def Rearranges (arrange : WrittenMembers → WrittenMembers) : Prop :=
  ∀ members, ∀ m ∈ arrange members, m ∈ members

mutual

theorem closed_write (harrange : Rearranges arrange) : ∀ j : Json, Closed (write arrange j)
  | null => show Closed ['n', 'u', 'l', 'l'] from closed_of_plain (List.all_eq_true.mp (by decide))
  | bool true => show Closed ['t', 'r', 'u', 'e'] from closed_of_plain (List.all_eq_true.mp (by decide))
  | bool false => show Closed ['f', 'a', 'l', 's', 'e'] from closed_of_plain (List.all_eq_true.mp (by decide))
  | number n => closed_of_plain (isPlain_writeNumber n)
  | text s => closed_writeText s
  | list items => closed_brackets rfl rfl fun _ =>
      passed_separated fun t ht => closed_writeItems harrange items t ht _
  | object members => closed_writeObject fun m hm =>
      closed_writeMembers harrange members m (harrange _ m hm)

theorem closed_writeItems (harrange : Rearranges arrange) :
    ∀ items : List Json, ∀ t ∈ writeItems arrange items, Closed t
  | [], _, ht => by cases ht
  | v :: rest, t, ht => by
    obtain rfl | ht := List.mem_cons.mp ht
    · exact closed_write harrange v
    · exact closed_writeItems harrange rest t ht

theorem closed_writeMembers (harrange : Rearranges arrange) :
    ∀ members : List (String × Json), ∀ m ∈ writeMembers arrange members, Closed m.2
  | [], _, hm => by cases hm
  | (_, v) :: rest, m, hm => by
    obtain rfl | hm := List.mem_cons.mp hm
    · exact closed_write harrange v
    · exact closed_writeMembers harrange rest m hm

end

end

/-! ## Members of a written object -/

theorem separated_cons (t : List Char) (rest : List (List Char)) (x : List Char) :
    separated (t :: rest) ++ x =
      t ++ (match rest with | [] => x | u :: us => ',' :: ' ' :: (separated (u :: us) ++ x)) := by
  cases rest with
  | nil => rfl
  | cons u us => simp [separated]

theorem writeMember_append (key : String) (value x : List Char) :
    writeMember key value ++ x = writeText key ++ ':' :: ' ' :: (value ++ x) := by
  simp [writeMember]

theorem separated_members_inj : ∀ as bs : WrittenMembers,
    (∀ m ∈ as, Closed m.2) → (∀ m ∈ bs, Closed m.2) →
    separated (as.map fun (k, v) => writeMember k v) ++ ['\x7d'] =
      separated (bs.map fun (k, v) => writeMember k v) ++ ['\x7d'] → as = bs
  | [], [], _, _, _ => rfl
  | [], (k, v) :: bs, _, _, h => by
    rw [List.map_cons, separated_cons] at h
    exact absurd (List.cons.inj h).1 (by decide)
  | (k, v) :: as, [], _, _, h => by
    rw [List.map_cons, separated_cons] at h
    exact absurd (List.cons.inj h).1 (by decide)
  | (k, v) :: as, (k', v') :: bs, ha, hb, h => by
    have hv := ha (k, v) (List.mem_cons_self ..)
    have hv' := hb (k', v') (List.mem_cons_self ..)
    rw [List.map_cons, List.map_cons, separated_cons, separated_cons, writeMember_append,
      writeMember_append] at h
    obtain ⟨rfl, htail⟩ := writeText_append_inj h
    have h := (List.cons.inj (List.cons.inj htail).2).2
    cases as with
    | nil =>
      cases bs with
      | nil =>
        obtain ⟨rfl, -⟩ := hv.append_inj hv' (by decide) (by decide) h
        rfl
      | cons b bs =>
        obtain ⟨-, h⟩ := hv.append_inj hv' (by decide) (by decide) h
        exact absurd (List.cons.inj h).1 (by decide)
    | cons a as =>
      cases bs with
      | nil =>
        obtain ⟨-, h⟩ := hv.append_inj hv' (by decide) (by decide) h
        exact absurd (List.cons.inj h).1 (by decide)
      | cons b bs =>
        obtain ⟨rfl, hnext⟩ := hv.append_inj hv' (by decide) (by decide) h
        have hrest := separated_members_inj (a :: as) (b :: bs)
          (fun m hm => ha m (List.mem_cons_of_mem _ hm)) (fun m hm => hb m (List.mem_cons_of_mem _ hm))
          (List.cons.inj (List.cons.inj hnext).2).2
        rw [hrest]

theorem writeObject_inj {as bs : WrittenMembers} (ha : ∀ m ∈ as, Closed m.2) (hb : ∀ m ∈ bs, Closed m.2)
    (h : writeObject as = writeObject bs) : as = bs :=
  separated_members_inj as bs ha hb (List.cons.inj h).2

/-! ## The order by key -/

section
variable {α : Type}

theorem lookup_insertByKey (k : String) (m : String × α) (members : List (String × α)) :
    (insertByKey m members).lookup k = (m :: members).lookup k := by
  obtain ⟨key, value⟩ := m
  induction members with
  | nil => rfl
  | cons n rest ih =>
    obtain ⟨key', value'⟩ := n
    unfold insertByKey
    split
    · rename_i hlt
      have hne : key' ≠ key := fun e => String.lt_irrefl key (e ▸ hlt)
      simp only [List.lookup_cons, ih]
      by_cases hk : k = key
      · subst hk
        have hn : (k == key') = false := by rw [beq_eq_false_iff_ne]; exact hne.symm
        simp [hn]
      · have hk' : (k == key) = false := by rw [beq_eq_false_iff_ne]; exact hk
        simp [hk']
    · rfl

/-- Sorting is stable: the first value of a key stays the first. -/
theorem lookup_sortByKey (k : String) (members : List (String × α)) :
    (sortByKey members).lookup k = members.lookup k := by
  induction members with
  | nil => rfl
  | cons m rest ih =>
    obtain ⟨key, value⟩ := m
    have e : sortByKey ((key, value) :: rest) = insertByKey (key, value) (sortByKey rest) := rfl
    rw [e, lookup_insertByKey, List.lookup_cons, List.lookup_cons, ih]

theorem mem_insertByKey {m n : String × α} {members : List (String × α)}
    (h : n ∈ insertByKey m members) : n = m ∨ n ∈ members := by
  induction members with
  | nil => exact .inl (List.mem_singleton.mp h)
  | cons a rest ih =>
    unfold insertByKey at h
    split at h
    · obtain rfl | h := List.mem_cons.mp h
      · exact .inr (List.mem_cons_self ..)
      · exact (ih h).imp id (List.mem_cons_of_mem _)
    · exact List.mem_cons.mp h

theorem mem_of_mem_sortByKey (members : List (String × α)) : ∀ m ∈ sortByKey members, m ∈ members := by
  induction members with
  | nil => intro m hm; cases hm
  | cons a rest ih =>
    intro m hm
    obtain rfl | hm := mem_insertByKey hm
    · exact List.mem_cons_self ..
    · exact List.mem_cons_of_mem _ (ih m hm)

end

theorem lookup_writeMembers (arrange : WrittenMembers → WrittenMembers) (k : String)
    (members : List (String × Json)) :
    (writeMembers arrange members).lookup k = (members.lookup k).map (write arrange) := by
  induction members with
  | nil => rfl
  | cons m rest ih =>
    obtain ⟨key, value⟩ := m
    simp only [writeMembers, List.lookup_cons, ih]
    cases k == key <;> rfl

/-! ## Canonical texts -/

theorem canonical_inj {a b : Json} (h : a.canonical = b.canonical) :
    a.write sortByKey = b.write sortByKey := by
  have h' := congrArg String.toList h
  simpa only [canonical, String.toList_ofList] using h'

/-- Objects of one canonical text agree on the text of every member. -/
theorem written_member_eq {as bs : List (String × Json)}
    (h : (object as).canonical = (object bs).canonical) (k : String) :
    (as.lookup k).map (write sortByKey) = (bs.lookup k).map (write sortByKey) := by
  have hclosed : ∀ members : List (String × Json),
      ∀ m ∈ sortByKey (writeMembers sortByKey members), Closed m.2 := fun members m hm =>
    closed_writeMembers mem_of_mem_sortByKey members m (mem_of_mem_sortByKey _ m hm)
  have h' := writeObject_inj (hclosed as) (hclosed bs) (canonical_inj h)
  rw [← lookup_writeMembers, ← lookup_writeMembers, ← lookup_sortByKey, h', lookup_sortByKey]

/-- Of the written values only texts begin with a quote. -/
theorem write_eq_writeText {arrange : WrittenMembers → WrittenMembers} {j : Json} {s : String}
    (h : j.write arrange = writeText s) : j = text s := by
  have hquote : (j.write arrange).head? = some '"' := by rw [h]; rfl
  cases j with
  | null => exact absurd hquote (by simp [write])
  | bool b => cases b <;> exact absurd hquote (by simp [write])
  | number n =>
    have hmem : '"' ∈ writeNumber n := List.mem_of_head? hquote
    exact absurd (isPlain_writeNumber n _ hmem) (by decide)
  | text t =>
    have h' : writeText t ++ [] = writeText s ++ [] := by
      rw [List.append_nil, List.append_nil]
      exact h
    rw [(writeText_append_inj h').1]
  | list items => exact absurd hquote (by simp [write])
  | object members => exact absurd hquote (by simp [write, writeObject])

end TenderQuery.Json
