import TenderQuery.Fallback.Template
import TenderQuery.Proofs.Text.Searching

/-!
# The filling of plain templates

Most templates hold no braces but those of plain year fields. `pieces` cuts a template at these fields, and
`render_eq` says that rendering writes the year into each cut.
-/
set_option autoImplicit false
namespace TenderQuery.Fallback
open TenderQuery.Text

/-! ## Pieces -/

def yearMark : List Char := ['\x7b', 'y', 'e', 'a', 'r', '\x7d']

theorem yearField_toList : Template.yearField.toList = yearMark := by decide

/-- The texts between the plain year fields, once `skipped` characters are passed over. -/
def piecesFrom : Nat → List Char → List (List Char)
  | _, [] => [[]]
  | skipped + 1, _ :: r => piecesFrom skipped r
  | 0, c :: r =>
    if yearMark.isPrefixOf (c :: r) then [] :: piecesFrom 5 r else (piecesFrom 0 r).modifyHead (c :: ·)

def pieces (template : List Char) : List (List Char) := piecesFrom 0 template

theorem piecesFrom_ne_nil (skipped : Nat) (s : List Char) : piecesFrom skipped s ≠ [] := by
  induction s generalizing skipped with
  | nil =>
    rw [piecesFrom]
    exact List.cons_ne_nil _ _
  | cons c r ih =>
    cases skipped with
    | succ n => exact ih n
    | zero =>
      rw [piecesFrom]
      split
      · exact List.cons_ne_nil _ _
      · obtain ⟨p, rest, hp⟩ := List.exists_cons_of_ne_nil (ih 0)
        rw [hp]
        exact List.cons_ne_nil _ _

theorem intercalate_piecesFrom (skipped : Nat) (s : List Char) :
    yearMark.intercalate (piecesFrom skipped s) = s.drop skipped := by
  induction s generalizing skipped with
  | nil => rw [piecesFrom, List.intercalate_singleton, List.drop_nil]
  | cons c r ih =>
    cases skipped with
    | succ n => rw [piecesFrom, ih, List.drop_succ_cons]
    | zero =>
      rw [piecesFrom]
      split
      · rename_i hmark
        obtain ⟨t, ht⟩ := List.isPrefixOf_iff_prefix.mp hmark
        obtain ⟨p, rest, hp⟩ := List.exists_cons_of_ne_nil (piecesFrom_ne_nil 5 r)
        have hrest := ih 5
        rw [hp] at hrest ⊢
        rw [List.intercalate_cons_cons, hrest, List.drop_zero, ← ht]
        have hr : r = ['y', 'e', 'a', 'r', '\x7d'] ++ t := (List.cons.inj ht).2.symm
        rw [hr]
        rfl
      · obtain ⟨p, rest, hp⟩ := List.exists_cons_of_ne_nil (piecesFrom_ne_nil 0 r)
        have hrest := ih 0
        rw [hp] at hrest ⊢
        rw [List.modifyHead_cons, List.intercalate_cons_cons_left, hrest]
        rfl

theorem exists_pieces_eq_cons (template : List Char) : ∃ p rest, pieces template = p :: rest :=
  List.exists_cons_of_ne_nil (piecesFrom_ne_nil 0 template)

theorem intercalate_pieces (template : List Char) : yearMark.intercalate (pieces template) = template :=
  intercalate_piecesFrom 0 template

/-! ## Filling -/

def isBrace (c : Char) : Bool := c == '\x7b' || c == '\x7d'

/-- The text that stands for the year of a question. -/
def yearText (year : Option Nat) : List Char := (FieldValue.ofYear year).shown.toList

theorem yearText_some (n : Nat) : yearText (some n) = Nat.toDigits 10 n := Nat.toList_repr

theorem yearText_none : yearText none = ['N', 'o', 'n', 'e'] := by decide

theorem isDigit_of_mem_yearText {n : Nat} {c : Char} (h : c ∈ yearText (some n)) : c.isDigit = true := by
  rw [yearText_some] at h
  exact Nat.isDigit_of_mem_toDigits (by decide) (by decide) h

namespace Template

theorem laidOut_empty (year : Option Nat) :
    (FieldValue.ofYear year).laidOut (String.ofList []) = .ok (FieldValue.ofYear year).shown := by
  cases year with
  | none => rfl
  | some n => rfl

theorem lookUp_year (value : FieldValue) : lookUp value ['y', 'e', 'a', 'r'] = .ok value := by
  have hfirst : ['y', 'e', 'a', 'r'].takeWhile (fun c => !isAccess c) = ['y', 'e', 'a', 'r'] := by decide
  have hdigits : digitsValue? ['y', 'e', 'a', 'r'] = none := by decide
  have hindex : index? ['y', 'e', 'a', 'r'] = .ok none := by
    unfold index?
    rw [hdigits]
  have hyear : "year".toList = ['y', 'e', 'a', 'r'] := by decide
  unfold lookUp
  simp only [hfirst, hindex, hyear]
  rfl

theorem readField_year (t : List Char) :
    readField ('y' :: 'e' :: 'a' :: 'r' :: '\x7d' :: t) =
      .ok (⟨['y', 'e', 'a', 'r'], none, [], false⟩, t) := rfl

theorem fillFrom_field (year : Option Nat) (depth fuel : Nat) (t : List Char) :
    fillFrom (.ofYear year) depth (fuel + 1) (yearMark ++ t) =
      (fillFrom (.ofYear year) depth fuel t).map (yearText year ++ ·) := by
  have hmark : yearMark ++ t = '\x7b' :: 'y' :: 'e' :: 'a' :: 'r' :: '\x7d' :: t := rfl
  rw [hmark, fillFrom.eq_def]
  simp only [readField_year]
  rw [if_pos (by decide), if_neg (by decide), if_neg (by decide)]
  change (lookUp (.ofYear year) ['y', 'e', 'a', 'r'] >>= fun value =>
    value.laidOut (String.ofList []) >>= fun shown =>
    fillFrom (.ofYear year) depth fuel t >>= fun rest => pure (shown.toList ++ rest)) = _
  rw [lookUp_year]
  change ((FieldValue.ofYear year).laidOut (String.ofList []) >>= fun shown =>
    fillFrom (.ofYear year) depth fuel t >>= fun rest => pure (shown.toList ++ rest)) = _
  rw [laidOut_empty]
  cases fillFrom (.ofYear year) depth fuel t <;> rfl

theorem fillFrom_cons (value : FieldValue) (depth fuel : Nat) {c : Char} (hc : isBrace c = false)
    (t : List Char) :
    fillFrom value depth (fuel + 1) (c :: t) = (fillFrom value depth fuel t).map (c :: ·) := by
  unfold isBrace at hc
  rw [Bool.or_eq_false_iff, beq_eq_false_iff_ne, beq_eq_false_iff_ne] at hc
  rw [fillFrom.eq_def]
  simp only
  rw [if_neg (by simp [hc.1, hc.2])]
  cases fillFrom value depth fuel t <;> rfl

theorem fillFrom_append (value : FieldValue) (depth fuel : Nat) {p : List Char}
    (hp : ∀ c ∈ p, isBrace c = false)
    (t : List Char) :
    fillFrom value depth (p.length + fuel) (p ++ t) = (fillFrom value depth fuel t).map (p ++ ·) := by
  induction p with
  | nil =>
    rw [List.length_nil, Nat.zero_add, List.nil_append]
    cases fillFrom value depth fuel t <;> rfl
  | cons c p ih =>
    rw [List.length_cons, Nat.succ_add, List.cons_append, fillFrom_cons _ _ _ (hp c List.mem_cons_self),
      ih fun d hd => hp d (List.mem_cons_of_mem _ hd)]
    cases fillFrom value depth fuel t <;> rfl

theorem fillFrom_nil (value : FieldValue) (depth fuel : Nat) : fillFrom value depth fuel [] = .ok [] := by
  rw [fillFrom.eq_def]

theorem fillFrom_intercalate (year : Option Nat) (depth : Nat) {ps : List (List Char)}
    (hps : ∀ p ∈ ps, ∀ c ∈ p, isBrace c = false) {fuel : Nat}
    (hfuel : (yearMark.intercalate ps).length ≤ fuel) :
    fillFrom (.ofYear year) depth fuel (yearMark.intercalate ps) = .ok ((yearText year).intercalate ps) := by
  induction ps generalizing fuel with
  | nil => exact fillFrom_nil _ _ _
  | cons p rest ih =>
    have hp := hps p List.mem_cons_self
    cases rest with
    | nil =>
      rw [List.intercalate_singleton] at hfuel
      obtain ⟨k, rfl⟩ := Nat.exists_eq_add_of_le hfuel
      have happend := fillFrom_append (.ofYear year) depth k hp []
      rw [List.append_nil, fillFrom_nil] at happend
      rw [List.intercalate_singleton, List.intercalate_singleton, happend]
      exact congrArg Except.ok (List.append_nil p)
    | cons q rest =>
      rw [List.intercalate_cons_cons, List.append_assoc] at hfuel ⊢
      rw [List.length_append, List.length_append, show yearMark.length = 6 from rfl] at hfuel
      obtain ⟨k, rfl⟩ : ∃ k, fuel = p.length + (k + 1) := ⟨fuel - p.length - 1, by omega⟩
      have hrest := @ih (fun q' hq' => hps q' (List.mem_cons_of_mem _ hq')) k (by omega)
      rw [fillFrom_append _ _ _ hp, fillFrom_field, hrest, List.intercalate_cons_cons, List.append_assoc]
      rfl

end Template

/-! ## Rendering -/

/-- The statement of a template whose only braces are those of plain year fields. -/
theorem render_eq {template : String} (h : ∀ p ∈ pieces template.toList, ∀ c ∈ p, isBrace c = false)
    (question : List Char) :
    Template.render template question =
      .ok (String.ofList ((yearText (year? question)).intercalate (pieces template.toList))) := by
  have htext := intercalate_pieces template.toList
  unfold Template.render
  split
  · have hfill := Template.fillFrom_intercalate (year? question) 1 h (Nat.le_refl _)
    rw [htext] at hfill
    unfold Template.fill
    simp only [hfill]
    rfl
  · rename_i habsent
    unfold containsString at habsent
    rw [contains_iff_isInfix, yearField_toList] at habsent
    obtain ⟨p, rest, hpieces⟩ := exists_pieces_eq_cons template.toList
    cases rest with
    | nil =>
      rw [hpieces, List.intercalate_singleton] at htext
      rw [hpieces, List.intercalate_singleton, htext, String.ofList_toList]
    | cons q rest =>
      rw [hpieces, List.intercalate_cons_cons] at htext
      exact absurd ⟨p, _, htext⟩ habsent

end TenderQuery.Fallback
