import TenderQuery.Proofs.Json.Canonical

/-!
# Written values are single lines

Whatever is in a value, its text consists of visible ASCII characters and spaces (`isVisible_write`), so that it
takes exactly one line of a file.
-/
set_option autoImplicit false
namespace TenderQuery.Json
open TenderQuery.Text

/-- The ASCII characters that are no controls. -/
def isVisible (c : Char) : Bool := 32 ≤ c.toNat && c.toNat < 127

theorem isVisible_of_isNumeral {c : Char} (h : isNumeral c = true) : isVisible c = true := by
  unfold isNumeral Char.isAlphanum Char.isAlpha Char.isUpper Char.isLower Char.isDigit at h
  simp only [Bool.or_eq_true, Bool.and_eq_true, decide_eq_true_eq, beq_iff_eq, ge_iff_le,
    UInt32.le_iff_toNat_le] at h
  change (((((65 ≤ c.toNat ∧ c.toNat ≤ 90) ∨ (97 ≤ c.toNat ∧ c.toNat ≤ 122)) ∨
    (48 ≤ c.toNat ∧ c.toNat ≤ 57)) ∨ c = '.') ∨ c = '+') ∨ c = '-' at h
  obtain ((((h | h) | h) | rfl) | rfl) | rfl := h
  · simp [isVisible]; omega
  · simp [isVisible]; omega
  · simp [isVisible]; omega
  · decide
  · decide
  · decide

/-! ## Texts -/

theorem isVisible_hexDigit : ∀ d < 16, isVisible (hexDigit d) = true := by decide

theorem isVisible_escapeUnit (n : Nat) : ∀ d ∈ escapeUnit n, isVisible d = true := by
  have hdigit : ∀ m, isVisible (hexDigit (m % 16)) = true :=
    fun m => isVisible_hexDigit _ (Nat.mod_lt m (by decide))
  rw [escapeUnit, hexDigits_four]
  simp only [List.forall_mem_cons, hdigit, true_and]
  exact ⟨by decide, by decide, fun d hd => absurd hd List.not_mem_nil⟩

theorem isVisible_writeChar (c : Char) : ∀ d ∈ writeChar c, isVisible d = true := by
  unfold writeChar
  split
  · exact List.all_eq_true.mp (by decide)
  split
  · exact List.all_eq_true.mp (by decide)
  split
  · rename_i h
    intro d hd
    rw [List.mem_singleton.mp hd]
    exact h
  split
  · exact List.all_eq_true.mp (by decide)
  split
  · exact List.all_eq_true.mp (by decide)
  split
  · exact List.all_eq_true.mp (by decide)
  split
  · exact List.all_eq_true.mp (by decide)
  split
  · exact List.all_eq_true.mp (by decide)
  · intro d hd
    obtain ⟨n, -, hn⟩ := List.mem_flatMap.mp hd
    exact isVisible_escapeUnit n d hn

theorem isVisible_writeText (s : String) : ∀ d ∈ writeText s, isVisible d = true := by
  intro d hd
  simp only [writeText, List.cons_append, List.mem_cons, List.mem_append, List.not_mem_nil, or_false] at hd
  obtain rfl | hd | rfl := hd
  · decide
  · obtain ⟨c, -, hc⟩ := List.mem_flatMap.mp hd
    exact isVisible_writeChar c d hc
  · decide

/-! ## Values -/

theorem isVisible_separated : ∀ {texts : List (List Char)}, (∀ t ∈ texts, ∀ d ∈ t, isVisible d = true) →
    ∀ d ∈ separated texts, isVisible d = true
  | [], _, _, hd => nomatch hd
  | [t], h, d, hd => h t List.mem_cons_self d hd
  | t :: u :: rest, h, d, hd => by
    simp only [separated, List.mem_append, List.mem_cons] at hd
    obtain hd | rfl | rfl | hd := hd
    · exact h t List.mem_cons_self d hd
    · decide
    · decide
    · exact isVisible_separated (fun v hv => h v (List.mem_cons_of_mem t hv)) d hd

/-- What stands between two visible characters is as visible. -/
theorem isVisible_enclosed {first last : Char} {s : List Char} (hfirst : isVisible first = true)
    (hlast : isVisible last = true) (h : ∀ d ∈ s, isVisible d = true) :
    ∀ d ∈ first :: s ++ [last], isVisible d = true := by
  intro d hd
  simp only [List.cons_append, List.mem_cons, List.mem_append, List.not_mem_nil, or_false] at hd
  obtain rfl | hd | rfl := hd
  · exact hfirst
  · exact h d hd
  · exact hlast

theorem isVisible_writeMember {key : String} {value : List Char} (h : ∀ d ∈ value, isVisible d = true) :
    ∀ d ∈ writeMember key value, isVisible d = true := by
  intro d hd
  simp only [writeMember, List.mem_append, List.mem_cons] at hd
  obtain hd | rfl | rfl | hd := hd
  · exact isVisible_writeText key d hd
  · decide
  · decide
  · exact h d hd

section
variable {arrange : WrittenMembers → WrittenMembers}

mutual

theorem isVisible_write (harrange : Rearranges arrange) : ∀ j : Json, ∀ d ∈ write arrange j, isVisible d = true
  | null => List.all_eq_true.mp rfl
  | bool true => List.all_eq_true.mp rfl
  | bool false => List.all_eq_true.mp rfl
  | number n => fun d hd => isVisible_of_isNumeral (isNumeral_writeNumber n d hd)
  | text s => isVisible_writeText s
  | list items => isVisible_enclosed rfl rfl (isVisible_separated (isVisible_writeItems harrange items))
  | object members => isVisible_enclosed rfl rfl (isVisible_separated fun t ht => by
      obtain ⟨m, hm, rfl⟩ := List.mem_map.mp ht
      exact isVisible_writeMember (isVisible_writeMembers harrange members m (harrange _ m hm)))

theorem isVisible_writeItems (harrange : Rearranges arrange) :
    ∀ items : List Json, ∀ t ∈ writeItems arrange items, ∀ d ∈ t, isVisible d = true
  | [], _, ht => nomatch ht
  | v :: rest, t, ht => by
    obtain rfl | ht := List.mem_cons.mp ht
    · exact isVisible_write harrange v
    · exact isVisible_writeItems harrange rest t ht

theorem isVisible_writeMembers (harrange : Rearranges arrange) :
    ∀ members : List (String × Json), ∀ m ∈ writeMembers arrange members, ∀ d ∈ m.2, isVisible d = true
  | [], _, hm => nomatch hm
  | (_, v) :: rest, m, hm => by
    obtain rfl | hm := List.mem_cons.mp hm
    · exact isVisible_write harrange v
    · exact isVisible_writeMembers harrange rest m hm

end

end

/-- A line consists of visible characters, so there is no line break in it. -/
theorem isVisible_line (j : Json) : ∀ d ∈ j.line.toList, isVisible d = true := by
  rw [line, String.toList_ofList]
  exact isVisible_write (fun _ _ hm => hm) j

end TenderQuery.Json
