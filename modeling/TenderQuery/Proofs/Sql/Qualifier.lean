import TenderQuery.Proofs.Sql.Masking
import TenderQuery.Proofs.Text.Searching
import TenderQuery.Sql.SoftDelete

/-!
# The qualifier of the filter

The qualifier is cut out of the statement: it is a name that stands outside literals, between places where no
word goes on. So it brings no word into the filter that the statement does not hold itself
(`words_qualifier_subset`), and none of its characters is a quote, a parenthesis, a semicolon or a blank
(`isTableChar_of_mem_qualifier`).
-/
set_option autoImplicit false
namespace TenderQuery.Sql
open TenderQuery.Text

def isTableChar (c : Char) : Bool := isNameChar c || c == '.'

theorem isTableChar_of_isWord {c : Char} (h : isWord c = true) : isTableChar c = true := by
  unfold isTableChar isNameChar
  rw [h]
  rfl

/-- A name in a text, with no word going on at its ends. -/
structure IsNameIn (s name : List Char) : Prop where
  chars : ∀ c ∈ name, isTableChar c = true
  place : ∃ x z, s = x ++ name ++ z ∧ x ≠ [] ∧ endsWord x = false ∧ startsWord z = false

theorem IsNameIn.words_subset {s name : List Char} (h : IsNameIn s name) : words name ⊆ words s := by
  obtain ⟨x, z, rfl, -, hx, hz⟩ := h.place
  have hafter : words (x ++ name ++ z) = words (x ++ name) ++ words z := words_append fun _ => hz
  have hbefore : words (x ++ name) = words x ++ words name :=
    words_append fun hend => absurd hend (by simp [hx])
  intro w hw
  rw [hafter, hbefore]
  exact List.mem_append_left _ (List.mem_append_right _ hw)

theorem IsNameIn.append_left {s name : List Char} (h : IsNameIn s name) (front : List Char) :
    IsNameIn (front ++ s) name := by
  obtain ⟨x, z, rfl, hne, hx, hz⟩ := h.place
  refine ⟨h.chars, front ++ x, z, by simp only [List.append_assoc], ?_, ?_, hz⟩
  · exact List.append_ne_nil_of_right_ne_nil _ hne
  · rw [endsWord_append hne]
    exact hx

/-! ## Reading a row source -/

theorem startsWord_dropWhile_of_imp {p : Char → Bool} (hp : ∀ c, isWord c = true → p c = true)
    (s : List Char) : startsWord (s.dropWhile p) = false := by
  have hhead := List.head?_dropWhile_not p s
  generalize s.dropWhile p = rest at hhead
  cases rest with
  | nil => rfl
  | cons c r =>
    rw [startsWord, ← Bool.not_eq_true]
    intro hc
    have hpc : p c = false := hhead
    rw [hp c hc] at hpc
    cases hpc

/-- The run of name characters behind blanks. -/
theorem isNameIn_takeWhile {p : Char → Bool} (hword : ∀ c, isWord c = true → p c = true)
    (htable : ∀ c, p c = true → isTableChar c = true) {gap : List Char} (hne : gap ≠ []) (hgap : IsBlanks gap)
    (s : List Char) : IsNameIn (gap ++ s) (s.takeWhile p) := by
  refine ⟨fun c hc => htable c (List.all_eq_true.mp List.all_takeWhile c hc), gap, s.dropWhile p, ?_, hne,
    hgap.endsWord, startsWord_dropWhile_of_imp hword s⟩
  rw [List.append_assoc, List.takeWhile_append_dropWhile]

theorem isNameChar_of_isWord (c : Char) (h : isWord c = true) : isNameChar c = true := by
  unfold isNameChar
  rw [h]
  rfl

theorem isTableChar_of_isNameChar (c : Char) (h : isNameChar c = true) : isTableChar c = true := by
  unfold isTableChar
  rw [h]
  rfl

theorem nonEmpty_eq_some {s t : List Char} (h : nonEmpty s = some t) : t = s := by
  unfold nonEmpty at h
  split at h
  · cases h
  · cases h
    rfl

theorem isNameIn_alias {s name : List Char} (h : readAlias s = some name) : IsNameIn s name := by
  have hrun : ∀ {gap rest found : List Char}, gap ≠ [] → IsBlanks gap →
      nonEmpty (rest.takeWhile isNameChar) = some found → IsNameIn (gap ++ rest) found := by
    intro gap rest found hne hgap hfound
    rw [nonEmpty_eq_some hfound]
    exact isNameIn_takeWhile isNameChar_of_isWord isTableChar_of_isNameChar hne hgap rest
  unfold readAlias at h
  obtain ⟨t, ht, hfound⟩ := Option.bind_eq_some_iff.mp h
  clear h
  obtain ⟨gap, hne, hgap, rfl⟩ := someBlanks_eq_some ht
  obtain hfound | hfound := eq_some_of_orElse hfound
  · obtain ⟨u, hu, hrest⟩ := Option.bind_eq_some_iff.mp hfound
    obtain ⟨v, hv, hname⟩ := Option.bind_eq_some_iff.mp hrest
    clear hfound hrest
    obtain ⟨as, rfl, -⟩ := dropFold_eq_some_iff.mp hu
    obtain ⟨gap', hne', hgap', rfl⟩ := someBlanks_eq_some hv
    have hplace := (hrun hne' hgap' hname).append_left (gap ++ as)
    rwa [List.append_assoc] at hplace
  · exact hrun hne hgap hfound

theorem isNameIn_qualifier_of_source {s : List Char} {source : RowSource}
    (h : readRowSource s = some source) :
    IsNameIn s source.qualifier := by
  unfold readRowSource at h
  obtain ⟨t, ht, h₁⟩ := Option.bind_eq_some_iff.mp h
  obtain ⟨u, hu, h₂⟩ := Option.bind_eq_some_iff.mp h₁
  obtain ⟨table, htable, hsource⟩ := Option.bind_eq_some_iff.mp h₂
  clear h h₁ h₂
  cases hsource
  obtain ⟨kw, rfl, -⟩ := dropFold_eq_some_iff.mp ht
  obtain ⟨gap, hne, hgap, rfl⟩ := someBlanks_eq_some hu
  have hfrom : IsNameIn (kw ++ (gap ++ u)) table := by
    rw [nonEmpty_eq_some htable]
    exact (isNameIn_takeWhile (fun c => isTableChar_of_isWord) (fun _ hc => hc) hne hgap u).append_left kw
  unfold RowSource.qualifier
  simp only
  split
  · rename_i name hname
    split
    · exact hfrom
    · have halias := (isNameIn_alias hname).append_left (kw ++ (gap ++ u.takeWhile isTableChar))
      have hu' : u = u.takeWhile isTableChar ++ u.dropWhile isTableChar :=
        List.takeWhile_append_dropWhile.symm
      rw [List.append_assoc, List.append_assoc] at halias
      rw [hu']
      exact halias
  · exact hfrom

theorem isNameIn_qualifier {s q : List Char} (h : qualifier? s = some q) : IsNameIn (maskLiterals s) q := by
  unfold qualifier? at h
  split at h
  · obtain ⟨⟨before, source⟩, hsearch, rfl⟩ := Option.map_eq_some_iff.mp h
    obtain ⟨after, heq, -, hsource⟩ := searchTopLevel_eq_some hsearch
    rw [heq]
    exact (isNameIn_qualifier_of_source hsource).append_left before
  · cases h

theorem words_qualifier_subset {s q : List Char} (h : qualifier? s = some q) : words q ⊆ words s :=
  fun _ hw => (masked_maskLiterals s).words_subset ((isNameIn_qualifier h).words_subset hw)

theorem isTableChar_of_mem_qualifier {s q : List Char} (h : qualifier? s = some q) :
    ∀ c ∈ q, isTableChar c = true :=
  (isNameIn_qualifier h).chars

end TenderQuery.Sql
