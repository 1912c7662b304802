import Mathlib.Data.List.Infix
import TenderQuery.Proofs.Text.Bytes
import TenderQuery.Proofs.Text.Lines

/-!
# Cutting a text at its line boundaries

`lines` knows more boundaries than the line feeds that texts are joined by. Of texts that are joined by line feeds it
makes the pieces of each, in order (`lines_intercalate`). The first piece of a text ends at its first boundary and the
others stand behind boundaries (`exists_pieces`); what stands behind a boundary begins a piece
(`exists_mem_pieces`).
-/
set_option autoImplicit false
namespace TenderQuery.Text

/-- No line ends within the text. -/
def IsUnbroken (s : List Char) : Prop := ∀ c ∈ s, isLineBoundary c = false

instance (s : List Char) : Decidable (IsUnbroken s) := List.decidableBAll _ s

/-- The text in front of the first boundary. -/
def firstPiece (s : List Char) : List Char := s.takeWhile fun c => !isLineBoundary c

/-- The lines of a text that is ended by a line feed. -/
def pieces (s : List Char) : List (List Char) := lines (s ++ ['\n'])

/-! ## One character -/

theorem lines_cons_of_boundary {c : Char} (hc : c ≠ '\r') (h : isLineBoundary c = true) (s : List Char) :
    lines (c :: s) = [] :: lines s := by
  rw [lines.eq_3 c s (fun _ hcr _ => hc hcr), if_pos h]

theorem lines_cons_of_not_boundary {c : Char} (h : isLineBoundary c = false) (s : List Char) :
    lines (c :: s) = addToFirstLine c (lines s) := by
  have hc : c ≠ '\r' := by
    rintro rfl
    exact absurd h (by decide)
  rw [lines.eq_3 c s (fun _ hcr _ => hc hcr), h, if_neg Bool.false_ne_true]

theorem addToFirstLine_ne_nil (c : Char) (s : List (List Char)) : addToFirstLine c s ≠ [] := by
  cases s <;> exact List.cons_ne_nil _ _

theorem lines_ne_nil {s : List Char} (h : s ≠ []) : lines s ≠ [] := by
  cases s using lines.induct with
  | case1 => exact absurd rfl h
  | case2 s =>
    rw [lines]
    exact List.cons_ne_nil _ _
  | case3 c s hpair hc =>
    rw [lines.eq_3 c s hpair, if_pos hc]
    exact List.cons_ne_nil _ _
  | case4 c s hpair hc =>
    rw [lines.eq_3 c s hpair, if_neg hc]
    exact addToFirstLine_ne_nil _ _

/-! ## Texts behind each other -/

/-- A boundary other than a carriage return, which a line feed may follow, is one whatever follows. -/
theorem lines_append {c : Char} (hc : c ≠ '\r') (h : isLineBoundary c = true) (a b : List Char) :
    lines (a ++ c :: b) = lines (a ++ [c]) ++ lines b := by
  induction a using lines.induct with
  | case1 =>
    rw [List.nil_append, List.nil_append, lines_cons_of_boundary hc h, lines_cons_of_boundary hc h]
    rfl
  | case2 a ih =>
    rw [List.cons_append, List.cons_append, List.cons_append, List.cons_append, lines, lines, ih]
    rfl
  | case3 d a hpair hd ih =>
    by_cases hfeed : d = '\r' ∧ a = [] ∧ c = '\n'
    · obtain ⟨rfl, rfl, rfl⟩ := hfeed
      rfl
    · have hapart : ∀ s rest, d = '\r' → a ++ c :: s = '\n' :: rest → False := by
        intro s rest hcr heq
        cases a with
        | nil => exact hfeed ⟨hcr, rfl, (List.cons.inj heq).1⟩
        | cons e a => exact hpair a hcr (by rw [(List.cons.inj heq).1])
      rw [List.cons_append, List.cons_append, lines.eq_3 _ _ (hapart b), lines.eq_3 _ _ (hapart []), if_pos hd,
        if_pos hd, ih]
      rfl
  | case4 d a _ hd ih =>
    have hlines : lines (a ++ [c]) ≠ [] := lines_ne_nil (List.append_ne_nil_of_right_ne_nil _ (List.cons_ne_nil _ _))
    rw [List.cons_append, List.cons_append, lines_cons_of_not_boundary (eq_false_of_ne_true hd),
      lines_cons_of_not_boundary (eq_false_of_ne_true hd), ih, addToFirstLine_append hlines]

theorem pieces_append {c : Char} (hc : c ≠ '\r') (h : isLineBoundary c = true) (a b : List Char) :
    pieces (a ++ c :: b) = lines (a ++ [c]) ++ pieces b := by
  unfold pieces
  rw [List.append_assoc, List.cons_append, lines_append hc h]

/-- Texts that are joined by line feeds are cut into the pieces of each, the last of them into its lines. -/
theorem lines_intercalate (texts : List (List Char)) {more : List (List Char)} (hmore : more ≠ []) :
    lines (['\n'].intercalate (texts ++ more)) = texts.flatMap pieces ++ lines (['\n'].intercalate more) := by
  induction texts with
  | nil => rfl
  | cons text texts ih =>
    rw [List.cons_append, List.intercalate_cons_of_ne_nil (List.append_ne_nil_of_right_ne_nil _ hmore),
      List.append_assoc, List.singleton_append, lines_append (by decide) (by decide), ih, List.flatMap_cons,
      List.append_assoc]
    rfl

/-! ## The pieces of one text -/

theorem pieces_cons_of_boundary {c : Char} (hc : c ≠ '\r') (h : isLineBoundary c = true) (s : List Char) :
    pieces (c :: s) = [] :: pieces s :=
  lines_cons_of_boundary hc h _

theorem pieces_cons_of_not_boundary {c : Char} (h : isLineBoundary c = false) (s : List Char) :
    pieces (c :: s) = addToFirstLine c (pieces s) :=
  lines_cons_of_not_boundary h _

theorem firstPiece_cons_of_boundary {c : Char} (h : isLineBoundary c = true) (s : List Char) :
    firstPiece (c :: s) = [] :=
  List.takeWhile_cons_of_neg (by rw [h]; decide)

theorem firstPiece_cons_of_not_boundary {c : Char} (h : isLineBoundary c = false) (s : List Char) :
    firstPiece (c :: s) = c :: firstPiece s :=
  List.takeWhile_cons_of_pos (by rw [h]; rfl)

/-- The pieces are the text in front of the first boundary and texts behind boundaries. -/
theorem exists_pieces {s : List Char} (hs : '\r' ∉ s) :
    ∃ rest, pieces s = firstPiece s :: rest ∧
      ∀ x ∈ rest, ∃ a c b, isLineBoundary c = true ∧ s = a ++ c :: (x ++ b) := by
  induction s with
  | nil => exact ⟨[], rfl, fun _ hx => absurd hx List.not_mem_nil⟩
  | cons c s ih =>
    rw [List.mem_cons, not_or] at hs
    obtain ⟨rest, hpieces, hrest⟩ := ih hs.2
    have hbehind : ∀ x ∈ rest, ∃ a d b, isLineBoundary d = true ∧ c :: s = a ++ d :: (x ++ b) := by
      intro x hx
      obtain ⟨a, d, b, hd, heq⟩ := hrest x hx
      exact ⟨c :: a, d, b, hd, congrArg (List.cons c) heq⟩
    cases hc : isLineBoundary c with
    | true =>
      refine ⟨firstPiece s :: rest, ?_, ?_⟩
      · rw [pieces_cons_of_boundary (Ne.symm hs.1) hc, hpieces, firstPiece_cons_of_boundary hc]
      · rw [List.forall_mem_cons]
        refine ⟨?_, hbehind⟩
        obtain ⟨b, hb⟩ := List.takeWhile_prefix (p := fun c => !isLineBoundary c) (l := s)
        exact ⟨[], c, b, hc, congrArg (List.cons c) hb.symm⟩
    | false =>
      refine ⟨rest, ?_, hbehind⟩
      rw [pieces_cons_of_not_boundary hc, hpieces, firstPiece_cons_of_not_boundary hc]
      rfl

theorem firstPiece_append {s : List Char} (hs : IsUnbroken s) (more : List Char) :
    firstPiece (s ++ more) = s ++ firstPiece more :=
  List.takeWhile_append_of_pos fun c hc => by rw [hs c hc]; rfl

theorem firstPiece_of_isUnbroken {s : List Char} (hs : IsUnbroken s) : firstPiece s = s := by
  have hnil : firstPiece [] = [] := rfl
  have happend := firstPiece_append hs []
  rwa [List.append_nil, hnil, List.append_nil] at happend

theorem carriageReturn_not_mem {s : List Char} (hs : IsUnbroken s) : '\r' ∉ s :=
  fun hmem => absurd (hs _ hmem) (by decide)

theorem pieces_of_isUnbroken {s : List Char} (hs : IsUnbroken s) : pieces s = [s] := by
  obtain ⟨rest, hpieces, hrest⟩ := exists_pieces (carriageReturn_not_mem hs)
  have hnil : rest = [] := by
    refine List.eq_nil_iff_forall_not_mem.mpr fun x hx => ?_
    obtain ⟨a, c, b, hc, rfl⟩ := hrest x hx
    exact Bool.false_ne_true ((hs c (List.mem_append_right _ List.mem_cons_self)).symm.trans hc)
  rw [hpieces, hnil, firstPiece_of_isUnbroken hs]

/-- A text that is broken goes on behind its first piece. -/
theorem exists_firstPiece_of_not_isUnbroken {s : List Char} (hs : ¬ IsUnbroken s) :
    ∃ c b, s = firstPiece s ++ c :: b := by
  induction s with
  | nil => exact absurd (fun c hc => absurd hc List.not_mem_nil) hs
  | cons d s ih =>
    cases hd : isLineBoundary d with
    | true => exact ⟨d, s, by rw [firstPiece_cons_of_boundary hd]; rfl⟩
    | false =>
      obtain ⟨c, b, heq⟩ := ih fun hunbroken => hs (List.forall_mem_cons.mpr ⟨hd, hunbroken⟩)
      refine ⟨c, b, ?_⟩
      rw [firstPiece_cons_of_not_boundary hd, List.cons_append, ← heq]

/-- What stands behind a boundary begins a piece. -/
theorem exists_mem_pieces {c : Char} (hc : c ≠ '\r') (h : isLineBoundary c = true) {m : List Char}
    (hm : IsUnbroken m) (a b : List Char) (hb : '\r' ∉ b) :
    ∃ x ∈ pieces (a ++ c :: (m ++ b)), m <+: x := by
  have hmb : '\r' ∉ m ++ b := by
    rw [List.mem_append, not_or]
    exact ⟨carriageReturn_not_mem hm, hb⟩
  obtain ⟨rest, hpieces, -⟩ := exists_pieces hmb
  refine ⟨firstPiece (m ++ b), ?_, ?_⟩
  · rw [pieces_append hc h, hpieces]
    exact List.mem_append_right _ List.mem_cons_self
  · rw [firstPiece_append hm]
    exact List.prefix_append _ _

/-! ## Printable texts -/

def boundaryCodes : List Nat := [10, 11, 12, 13, 28, 29, 30, 133, 8232, 8233]

theorem toNat_mem_boundaryCodes {c : Char} (h : isLineBoundary c = true) : c.toNat ∈ boundaryCodes := by
  simp only [isLineBoundary, boundaryCodes, Bool.or_eq_true, Bool.and_eq_true, decide_eq_true_eq, beq_iff_eq,
    List.mem_cons, List.not_mem_nil, or_false] at h ⊢
  omega

theorem isUnbroken_of_isPrintableAscii {s : String} (h : isPrintableAscii s = true) : IsUnbroken s.toList := by
  have hcodes : ∀ n ∈ boundaryCodes,
      ∃ b ∈ String.utf8EncodeChar (Char.ofNat n), (32 ≤ b && b < 127) = false := by decide
  intro c hc
  rw [← Bool.not_eq_true]
  intro hboundary
  obtain ⟨b, hb, hout⟩ := hcodes _ (toNat_mem_boundaryCodes hboundary)
  rw [Char.ofNat_toNat] at hb
  have hmem : b ∈ bytesOf s := bytesOf_eq s ▸ List.mem_flatMap.mpr ⟨c, hc, hb⟩
  exact Bool.false_ne_true (hout.symm.trans (List.all_eq_true.mp h b hmem))

end TenderQuery.Text
