import TenderQuery.Proofs.Json.Numbers

/-!
# Values are read back

A line is read back to the value that it was written from (`readWithin_line`), if the members of every object in
the value have different keys and no whole number in it is too long. The proof goes along the value: each kind
of value is read back wherever its text ends, given that its parts are.
-/
set_option autoImplicit false
namespace TenderQuery.Json
open TenderQuery.Decimal TenderQuery.Text

/-! ## Well-formed values -/

mutual

/-- The members of every object in the value have different keys. -/
def hasUniqueKeys : Json → Bool
  | list items => itemsHaveUniqueKeys items
  | object members => (members.map Prod.fst).Nodup && membersHaveUniqueKeys members
  | _ => true

def itemsHaveUniqueKeys : List Json → Bool
  | [] => true
  | v :: rest => hasUniqueKeys v && itemsHaveUniqueKeys rest

def membersHaveUniqueKeys : List (String × Json) → Bool
  | [] => true
  | (_, v) :: rest => hasUniqueKeys v && membersHaveUniqueKeys rest

end

theorem membersHaveUniqueKeys_append (as bs : List (String × Json)) :
    membersHaveUniqueKeys (as ++ bs) = (membersHaveUniqueKeys as && membersHaveUniqueKeys bs) := by
  induction as with
  | nil => rfl
  | cons m rest ih => rw [List.cons_append, membersHaveUniqueKeys, membersHaveUniqueKeys, ih, Bool.and_assoc]

theorem fitsMembers_append (digits : Nat) (as bs : List (String × Json)) :
    fitsMembers digits (as ++ bs) = (fitsMembers digits as && fitsMembers digits bs) := by
  induction as with
  | nil => rfl
  | cons m rest ih => rw [List.cons_append, fitsMembers, fitsMembers, ih, Bool.and_assoc]

theorem fits_of_mem {digits : Nat} {members : List (String × Json)} (h : fitsMembers digits members = true)
    {m : String × Json} (hm : m ∈ members) : m.2.fits digits = true := by
  induction members with
  | nil => cases hm
  | cons first rest ih =>
    rw [fitsMembers, Bool.and_eq_true] at h
    obtain rfl | hm := List.mem_cons.mp hm
    · exact h.1
    · exact ih h.2 hm

theorem excess_eq_none_iff {limit : DigitLimit} {j : Json} :
    j.excess? limit = none ↔ ∀ digits ∈ limit, j.fits digits = true := by
  simp [excess?, Option.filter_eq_none_iff]

theorem putMember_of_not_mem {key : String} {members : List (String × Json)} (h : key ∉ members.map Prod.fst)
    (value : Json) : putMember key value members = members ++ [(key, value)] := by
  induction members with
  | nil => rfl
  | cons m rest ih =>
    obtain ⟨k, v⟩ := m
    rw [List.map_cons, List.mem_cons, not_or] at h
    rw [putMember, if_neg (Ne.symm h.1), ih h.2, List.cons_append]

/-- Pairs of different keys are members as they stand. -/
theorem ofPairs_of_nodup {pairs : List (String × Json)} (h : (pairs.map Prod.fst).Nodup) :
    ofPairs pairs = pairs := by
  have hfold : ∀ members : List (String × Json), ((members ++ pairs).map Prod.fst).Nodup →
      pairs.foldl (fun members m => putMember m.1 m.2 members) members = members ++ pairs := by
    clear h
    induction pairs with
    | nil => exact fun members _ => (List.append_nil members).symm
    | cons m rest ih =>
      intro members hnodup
      obtain ⟨k, v⟩ := m
      have hnot : k ∉ members.map Prod.fst := by
        rw [List.map_append, List.nodup_append] at hnodup
        exact fun hmem => hnodup.2.2 k hmem k List.mem_cons_self rfl
      have hmoved : members ++ (k, v) :: rest = members ++ [(k, v)] ++ rest := by
        rw [List.append_assoc, List.singleton_append]
      rw [List.foldl_cons]
      dsimp only
      rw [putMember_of_not_mem hnot, ih _ (hmoved ▸ hnodup), hmoved]
  exact hfold [] h

/-! ## Where a value starts -/

/-- The text begins with what may be a value. -/
def StartsValue (s : List Char) : Prop := ∃ c tail, s = c :: tail ∧ isSpace c = false ∧ isClosing c = false

theorem StartsValue.append {s : List Char} (h : StartsValue s) (rest : List Char) : StartsValue (s ++ rest) := by
  obtain ⟨c, tail, rfl, hc⟩ := h
  exact ⟨c, tail ++ rest, rfl, hc⟩

theorem skipSpace_cons {c : Char} (h : isSpace c = false) (rest : List Char) : skipSpace (c :: rest) = c :: rest :=
  List.dropWhile_cons_of_neg (by rw [h]; exact Bool.false_ne_true)

theorem isSpace_of_isNumeral {c : Char} (h : isNumeral c = true) : isSpace c = false := by
  simp [isSpace, ne_of_isNumeral h (rfl : isNumeral ' ' = false), ne_of_isNumeral h (rfl : isNumeral '\t' = false),
    ne_of_isNumeral h (rfl : isNumeral '\n' = false), ne_of_isNumeral h (rfl : isNumeral '\r' = false)]

theorem isClosing_of_isNumeral {c : Char} (h : isNumeral c = true) : isClosing c = false := by
  simp [isClosing, ne_of_isNumeral h (rfl : isNumeral ']' = false),
    ne_of_isNumeral h (rfl : isNumeral '\x7d' = false)]

/-- Null, truth values and numbers. -/
def isScalar : Json → Bool
  | null | bool _ | number _ => true
  | _ => false

theorem writeNumber_ne_nil (n : Number) : writeNumber n ≠ [] := by
  cases n with
  | whole n =>
    rw [writeNumber_whole]
    exact List.append_ne_nil_of_right_ne_nil _ Nat.toDigits_ne_nil
  | real x =>
    cases x with
    | nan => exact List.cons_ne_nil _ _
    | infinity negative => cases negative <;> exact List.cons_ne_nil _ _
    | finite negative significand scale hcanonical =>
      obtain ⟨w, hproper, hchars, -⟩ :=
        writes_shortestDigits (rfl : (Binary64.finite negative significand scale hcanonical).isFinite = true)
      obtain ⟨c, tail, hcons, -⟩ := beginsWithDigit_chars hproper
      rw [writeNumber_finite rfl, hchars, hcons]
      exact List.append_ne_nil_of_right_ne_nil _ (List.cons_ne_nil _ _)

theorem isNumeral_write {j : Json} (h : j.isScalar = true) : ∀ c ∈ write id j, isNumeral c = true := by
  cases j with
  | null => exact List.all_eq_true.mp (by decide)
  | bool b => cases b <;> exact List.all_eq_true.mp (by decide)
  | number n => exact isNumeral_writeNumber n
  | text s => cases h
  | list items => cases h
  | object members => cases h

theorem write_ne_nil (j : Json) : write id j ≠ [] := by
  cases j with
  | bool b => cases b <;> exact List.cons_ne_nil _ _
  | number n => exact writeNumber_ne_nil n
  | _ => exact List.cons_ne_nil _ _

theorem startsValue_write (j : Json) : StartsValue (write id j) := by
  cases hscalar : j.isScalar with
  | true =>
    cases hcons : write id j with
    | nil => exact absurd hcons (write_ne_nil j)
    | cons c tail =>
      have hc : isNumeral c = true := isNumeral_write hscalar c (hcons ▸ List.mem_cons_self)
      exact ⟨c, tail, rfl, isSpace_of_isNumeral hc, isClosing_of_isNumeral hc⟩
  | false =>
    cases j with
    | text s => exact ⟨'"', _, rfl, rfl, rfl⟩
    | list items => exact ⟨'[', _, rfl, rfl, rfl⟩
    | object members => exact ⟨'\x7b', _, rfl, rfl, rfl⟩
    | _ => cases hscalar

/-! ## Reading step by step -/

section
variable {limit : DigitLimit} {fuel : Nat}

theorem readValue_space (s : List Char) : readValue limit fuel (' ' :: s) = readValue limit fuel s := by
  cases fuel with
  | zero => rfl
  | succ fuel => rw [readValue, readValue]; rfl

theorem readItems_space (s : List Char) : readItems limit fuel (' ' :: s) = readItems limit fuel s := by
  cases fuel with
  | zero => rfl
  | succ fuel => rw [readItems, readItems, readValue_space]

theorem readMembers_space (s : List Char) : readMembers limit fuel (' ' :: s) = readMembers limit fuel s := by
  cases fuel with
  | zero => rfl
  | succ fuel => rw [readMembers, readMembers]; rfl

theorem readValue_scalar {c : Char} (h : isNumeral c = true) (tail : List Char) :
    readValue limit (fuel + 1) (c :: tail) = readScalar limit (c :: tail) := by
  have hquote : c ≠ '"' := ne_of_isNumeral h rfl
  have hbracket : c ≠ '[' := ne_of_isNumeral h rfl
  have hbrace : c ≠ '\x7b' := ne_of_isNumeral h rfl
  rw [readValue, skipSpace_cons (isSpace_of_isNumeral h)]
  split
  · rename_i hcons
    exact absurd (List.cons.inj hcons).1 hquote
  · rename_i hcons
    exact absurd (List.cons.inj hcons).1 hbracket
  · rename_i hcons
    exact absurd (List.cons.inj hcons).1 hbrace
  · rfl

theorem readValue_text (s : String) (rest : List Char) :
    readValue limit (fuel + 1) (writeText s ++ rest) = some (text s, rest) := by
  have hquote : writeText s ++ rest = '"' :: ((writeText s).tail ++ rest) := rfl
  rw [hquote, readValue, skipSpace_cons rfl]
  simp only [readText_writeText, Option.map_some]

theorem readValue_list {s rest : List Char} {items : List Json} (hs : StartsValue s)
    (h : readItems limit fuel s = some (items, rest)) :
    readValue limit (fuel + 1) ('[' :: s) = some (list items, rest) := by
  obtain ⟨c, tail, rfl, hspace, hclosing⟩ := hs
  have hbracket : c ≠ ']' := by
    rintro rfl
    cases hclosing
  rw [readValue, skipSpace_cons rfl]
  simp only [skipSpace_cons hspace]
  split
  · rename_i hcons
    exact absurd (List.cons.inj hcons).1 hbracket
  · rw [h]
    rfl

theorem readValue_object {s rest : List Char} {pairs : List (String × Json)} (hs : StartsValue s)
    (hpairs : (pairs.map Prod.fst).Nodup) (h : readMembers limit fuel s = some (pairs, rest)) :
    readValue limit (fuel + 1) ('\x7b' :: s) = some (object pairs, rest) := by
  obtain ⟨c, tail, rfl, hspace, hclosing⟩ := hs
  have hbrace : c ≠ '\x7d' := by
    rintro rfl
    cases hclosing
  rw [readValue, skipSpace_cons rfl]
  simp only [skipSpace_cons hspace]
  split
  · rename_i hcons
    exact absurd (List.cons.inj hcons).1 hbrace
  · rw [h, Option.map_some, ofPairs_of_nodup hpairs]

theorem readItems_last {s rest : List Char} {v : Json} (h : readValue limit fuel s = some (v, ']' :: rest)) :
    readItems limit (fuel + 1) s = some ([v], rest) := by
  rw [readItems, h]
  rfl

theorem readItems_more {s rest rest' : List Char} {v : Json} {items : List Json}
    (h : readValue limit fuel s = some (v, ',' :: ' ' :: rest))
    (hrest : readItems limit fuel rest = some (items, rest')) :
    readItems limit (fuel + 1) s = some (v :: items, rest') := by
  rw [← readItems_space] at hrest
  rw [readItems, h]
  simp only [Option.bind_eq_bind, Option.bind_some, skipSpace_cons (rfl : isSpace ',' = false), hrest]
  rfl

theorem readMembers_last {key : String} {value rest : List Char} {v : Json}
    (h : readValue limit fuel (value ++ '\x7d' :: rest) = some (v, '\x7d' :: rest)) :
    readMembers limit (fuel + 1) (writeMember key value ++ '\x7d' :: rest) = some ([(key, v)], rest) := by
  rw [← readValue_space] at h
  rw [writeMember_append]
  have hquote : writeText key ++ ':' :: ' ' :: (value ++ '\x7d' :: rest) =
    '"' :: ((writeText key).tail ++ ':' :: ' ' :: (value ++ '\x7d' :: rest)) := rfl
  rw [hquote, readMembers, skipSpace_cons rfl]
  simp only [readText_writeText, Option.bind_eq_bind, Option.bind_some, skipSpace_cons (rfl : isSpace ':' = false), h]
  rfl

theorem readMembers_more {key : String} {value rest rest' : List Char} {v : Json} {members : List (String × Json)}
    (h : readValue limit fuel (value ++ ',' :: ' ' :: rest) = some (v, ',' :: ' ' :: rest))
    (hrest : readMembers limit fuel rest = some (members, rest')) :
    readMembers limit (fuel + 1) (writeMember key value ++ ',' :: ' ' :: rest) =
      some ((key, v) :: members, rest') := by
  rw [← readValue_space] at h
  rw [← readMembers_space] at hrest
  rw [writeMember_append]
  have hquote : writeText key ++ ':' :: ' ' :: (value ++ ',' :: ' ' :: rest) =
    '"' :: ((writeText key).tail ++ ':' :: ' ' :: (value ++ ',' :: ' ' :: rest)) := rfl
  rw [hquote, readMembers, skipSpace_cons rfl]
  simp only [readText_writeText, Option.bind_eq_bind, Option.bind_some, skipSpace_cons (rfl : isSpace ':' = false), h,
    skipSpace_cons (rfl : isSpace ',' = false), hrest]
  rfl

theorem endsValue_cons {c : Char} (h : (isClosing c || isSeparator c) = true) (rest : List Char) :
    EndsValue (c :: rest) := by
  intro d hd
  cases hd
  exact h

theorem startsValue_separated (texts : List (List Char)) {t : List Char} (h : StartsValue t) (rest : List Char) :
    StartsValue (separated (t :: texts) ++ rest) := by
  rw [separated_cons]
  exact h.append _

/-! ## Whole values -/

theorem readScalar_write {j : Json} (h : j.isScalar = true) (hfits : ∀ digits ∈ limit, j.fits digits = true)
    {rest : List Char} (hrest : EndsValue rest) : readScalar limit (write id j ++ rest) = some (j, rest) := by
  cases j with
  | null => rfl
  | bool b => cases b <;> rfl
  | number n => exact readScalar_writeNumber hfits hrest
  | text s => cases h
  | list items => cases h
  | object members => cases h

theorem readValue_write_scalar {j : Json} (h : j.isScalar = true) (hfits : ∀ digits ∈ limit, j.fits digits = true)
    {rest : List Char} (hrest : EndsValue rest) :
    readValue limit (fuel + 1) (write id j ++ rest) = some (j, rest) := by
  have hread := readScalar_write h hfits hrest
  cases hcons : write id j with
  | nil => exact absurd hcons (write_ne_nil j)
  | cons c tail =>
    have hc : isNumeral c = true := isNumeral_write h c (hcons ▸ List.mem_cons_self)
    rw [hcons] at hread
    exact (readValue_scalar hc _).trans hread

/-- The texts of the members of an object, in their order. -/
def memberTexts (members : List (String × Json)) : List (List Char) :=
  (writeMembers id members).map fun (k, v) => writeMember k v

theorem write_object (members : List (String × Json)) (rest : List Char) :
    write id (object members) ++ rest = '\x7b' :: (separated (memberTexts members) ++ '\x7d' :: rest) := by
  simp only [write, writeObject, id_eq, memberTexts, List.cons_append, List.append_assoc, List.nil_append]

theorem startsValue_writeMember (key : String) (value : List Char) : StartsValue (writeMember key value) :=
  ⟨'"', _, rfl, rfl, rfl⟩

theorem length_writeMember (key : String) (value : List Char) : value.length ≤ (writeMember key value).length := by
  simp only [writeMember, List.length_append, List.length_cons]
  omega

theorem fits_of_items {v : Json} {items : List Json} (h : ∀ digits ∈ limit, fitsItems digits (v :: items) = true) :
    (∀ digits ∈ limit, v.fits digits = true) ∧ ∀ digits ∈ limit, fitsItems digits items = true := by
  simp only [fitsItems, Bool.and_eq_true] at h
  exact ⟨fun digits hdigits => (h digits hdigits).1, fun digits hdigits => (h digits hdigits).2⟩

theorem fits_of_members {k : String} {v : Json} {members : List (String × Json)}
    (h : ∀ digits ∈ limit, fitsMembers digits ((k, v) :: members) = true) :
    (∀ digits ∈ limit, v.fits digits = true) ∧ ∀ digits ∈ limit, fitsMembers digits members = true := by
  simp only [fitsMembers, Bool.and_eq_true] at h
  exact ⟨fun digits hdigits => (h digits hdigits).1, fun digits hdigits => (h digits hdigits).2⟩

mutual

theorem readValue_write : ∀ (j : Json) (fuel : Nat) (rest : List Char), j.hasUniqueKeys = true →
    (∀ digits ∈ limit, j.fits digits = true) → EndsValue rest → 2 * (write id j).length ≤ fuel →
    readValue limit fuel (write id j ++ rest) = some (j, rest)
  | j, 0, _, _, _, _, hfuel => by
    have hpositive := List.length_pos_of_ne_nil (write_ne_nil j)
    omega
  | null, _ + 1, _, _, hfits, hrest, _ => readValue_write_scalar rfl hfits hrest
  | bool _, _ + 1, _, _, hfits, hrest, _ => readValue_write_scalar rfl hfits hrest
  | number _, _ + 1, _, _, hfits, hrest, _ => readValue_write_scalar rfl hfits hrest
  | text s, _ + 1, rest, _, _, _, _ => readValue_text s rest
  | list [], _ + 1, _, _, _, _, _ => rfl
  | list (v :: items), fuel + 1, rest, hkeys, hfits, _, hfuel => by
    have hlength : 2 * (separated (writeItems id (v :: items))).length + 1 ≤ fuel := by
      simp only [write, List.length_cons, List.length_append] at hfuel
      omega
    have hread := readItems_write (v :: items) fuel rest (List.cons_ne_nil _ _) hkeys hfits hlength
    have hstart := startsValue_separated (writeItems id items) (startsValue_write v) (']' :: rest)
    have htext : write id (list (v :: items)) ++ rest =
        '[' :: (separated (writeItems id (v :: items)) ++ ']' :: rest) := by
      simp only [write, List.cons_append, List.append_assoc, List.nil_append]
    rw [htext]
    exact readValue_list hstart hread
  | object [], _ + 1, _, _, _, _, _ => rfl
  | object ((k, v) :: members), fuel + 1, rest, hkeys, hfits, _, hfuel => by
    simp only [hasUniqueKeys, Bool.and_eq_true, decide_eq_true_eq] at hkeys
    have htext := write_object ((k, v) :: members) rest
    have hlength : 2 * (separated (memberTexts ((k, v) :: members))).length + 1 ≤ fuel := by
      have hlengths := congrArg List.length (write_object ((k, v) :: members) [])
      simp only [List.append_nil, List.length_cons, List.length_append, List.length_nil] at hlengths
      omega
    have hread := readMembers_write ((k, v) :: members) fuel rest (List.cons_ne_nil _ _) hkeys.2 hfits hlength
    have hstart := startsValue_separated (memberTexts members) (startsValue_writeMember k (write id v))
      ('\x7d' :: rest)
    rw [htext]
    exact readValue_object hstart hkeys.1 hread

theorem readItems_write : ∀ (items : List Json) (fuel : Nat) (rest : List Char), items ≠ [] →
    itemsHaveUniqueKeys items = true → (∀ digits ∈ limit, fitsItems digits items = true) →
    2 * (separated (writeItems id items)).length + 1 ≤ fuel →
    readItems limit fuel (separated (writeItems id items) ++ ']' :: rest) = some (items, rest)
  | [], _, _, hne, _, _, _ => absurd rfl hne
  | _, 0, _, _, _, _, hfuel => by omega
  | [v], fuel + 1, rest, _, hkeys, hfits, hfuel => by
    simp only [itemsHaveUniqueKeys, Bool.and_true] at hkeys
    have hlength : 2 * (write id v).length ≤ fuel := by
      simp only [writeItems, separated] at hfuel
      omega
    exact readItems_last
      (readValue_write v fuel (']' :: rest) hkeys (fits_of_items hfits).1 (endsValue_cons rfl rest) hlength)
  | v :: w :: items, fuel + 1, rest, _, hkeys, hfits, hfuel => by
    rw [itemsHaveUniqueKeys, Bool.and_eq_true] at hkeys
    have htext : separated (writeItems id (v :: w :: items)) ++ ']' :: rest =
        write id v ++ ',' :: ' ' :: (separated (writeItems id (w :: items)) ++ ']' :: rest) := separated_cons _ _ _
    have hlengths := congrArg List.length htext
    simp only [List.length_append, List.length_cons] at hlengths
    rw [htext]
    exact readItems_more
      (readValue_write v fuel _ hkeys.1 (fits_of_items hfits).1 (endsValue_cons rfl _) (by omega))
      (readItems_write (w :: items) fuel rest (List.cons_ne_nil _ _) hkeys.2 (fits_of_items hfits).2 (by omega))

theorem readMembers_write : ∀ (members : List (String × Json)) (fuel : Nat) (rest : List Char), members ≠ [] →
    membersHaveUniqueKeys members = true → (∀ digits ∈ limit, fitsMembers digits members = true) →
    2 * (separated (memberTexts members)).length + 1 ≤ fuel →
    readMembers limit fuel (separated (memberTexts members) ++ '\x7d' :: rest) = some (members, rest)
  | [], _, _, hne, _, _, _ => absurd rfl hne
  | _, 0, _, _, _, _, hfuel => by omega
  | [(k, v)], fuel + 1, rest, _, hkeys, hfits, hfuel => by
    simp only [membersHaveUniqueKeys, Bool.and_true] at hkeys
    have hlength : 2 * (write id v).length ≤ fuel := by
      have hvalue := length_writeMember k (write id v)
      simp only [memberTexts, writeMembers, List.map_cons, List.map_nil, separated] at hfuel
      omega
    exact readMembers_last
      (readValue_write v fuel ('\x7d' :: rest) hkeys (fits_of_members hfits).1 (endsValue_cons rfl rest) hlength)
  | (k, v) :: m :: members, fuel + 1, rest, _, hkeys, hfits, hfuel => by
    rw [membersHaveUniqueKeys, Bool.and_eq_true] at hkeys
    have htext : separated (memberTexts ((k, v) :: m :: members)) ++ '\x7d' :: rest =
        writeMember k (write id v) ++ ',' :: ' ' :: (separated (memberTexts (m :: members)) ++ '\x7d' :: rest) :=
      separated_cons _ _ _
    have hvalue := length_writeMember k (write id v)
    have hlengths := congrArg List.length htext
    simp only [List.length_append, List.length_cons] at hlengths
    rw [htext]
    exact readMembers_more
      (readValue_write v fuel _ hkeys.1 (fits_of_members hfits).1 (endsValue_cons rfl _) (by omega))
      (readMembers_write (m :: members) fuel rest (List.cons_ne_nil _ _) hkeys.2 (fits_of_members hfits).2
        (by omega))

end

end

/-- A line is read back to the value that it was written from. -/
theorem readWithin_line {limit : DigitLimit} {j : Json} (hkeys : j.hasUniqueKeys = true)
    (hfits : ∀ digits ∈ limit, j.fits digits = true) : readWithin? limit j.line = some j := by
  have hread := readValue_write j (2 * (write id j).length + 2) [] hkeys hfits (fun _ hmem => nomatch hmem)
    (by omega)
  rw [List.append_nil] at hread
  unfold readWithin? readCharsWithin? line
  rw [String.toList_ofList, hread]
  rfl

end TenderQuery.Json
