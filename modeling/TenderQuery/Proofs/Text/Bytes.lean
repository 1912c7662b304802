import Mathlib.Data.List.Basic

/-!
# Bytes of fixed texts

Facts about a long fixed text are decided on its bytes, which are computed much faster than its characters. A text of
printable ASCII is the text of its bytes (`toList_eq_charsOf`).
-/
set_option autoImplicit false
namespace TenderQuery.Text

def bytesOf (s : String) : List UInt8 := s.toByteArray.data.toList

def isPrintableAscii (s : String) : Bool := (bytesOf s).all fun b => 32 ≤ b && b < 127

/-- Every byte read as a character. -/
def charsOf (s : String) : List Char := (bytesOf s).map fun b => Char.ofNat b.toNat

theorem bytesOf_eq (s : String) : bytesOf s = s.toList.flatMap String.utf8EncodeChar := by
  obtain ⟨l, rfl⟩ : ∃ l, s = String.ofList l := ⟨s.toList, String.ofList_toList.symm⟩
  unfold bytesOf
  rw [String.toByteArray_ofList, List.utf8Encode, List.data_toByteArray, String.toList_ofList]

theorem bytesOf_inj {s t : String} (h : bytesOf s = bytesOf t) : s = t :=
  String.toByteArray_inj.mp (ByteArray.ext (Array.toList_inj.mp h))

theorem utf8EncodeChar_of_mem {s : String} (h : isPrintableAscii s = true) {b : UInt8} (hb : b ∈ bytesOf s) :
    String.utf8EncodeChar (Char.ofNat b.toNat) = [b] := by
  have hcodes : ∀ n < 127, String.utf8EncodeChar (Char.ofNat n) = [UInt8.ofNat n] := by decide +kernel
  have hbounds := List.all_eq_true.mp h b hb
  rw [Bool.and_eq_true, decide_eq_true_iff, decide_eq_true_iff] at hbounds
  rw [hcodes b.toNat (UInt8.lt_iff_toNat_lt.mp hbounds.2), UInt8.ofNat_toNat]

theorem toList_eq_charsOf {s : String} (h : isPrintableAscii s = true) : s.toList = charsOf s := by
  have hbytes : bytesOf (String.ofList (charsOf s)) = bytesOf s := by
    rw [bytesOf_eq, String.toList_ofList, charsOf, List.flatMap_map,
      List.flatMap_congr fun b hb => utf8EncodeChar_of_mem h hb, List.flatMap_singleton']
  calc s.toList = (String.ofList (charsOf s)).toList := by rw [bytesOf_inj hbytes]
    _ = charsOf s := String.toList_ofList

end TenderQuery.Text
