import TenderQuery.Proofs.Text.Letters

/-!
# Literals and comments

A lexer reads a statement from left to right and tells code from string literals, line comments and block
comments. A quote in a literal ends it unless a second quote follows at once; inside comments quotes mean
nothing, and block comments do not nest.

- `lex s` is the lexer behind the text `s`, and `literals s` lists the literals that end in `s`.
- Characters that begin neither a literal nor a comment lead from code to code (`foldl_step_of_isInert`) and,
  newlines apart, do not lead out of a literal or a comment (`inCode_foldl_of_not_inCode`).
-/
set_option autoImplicit false
namespace TenderQuery.Sql
open TenderQuery.Text

/-- Where a place of a statement lies. Behind a dash, a slash, a quote that may be doubled or a star that may
end a comment, the next character decides. -/
inductive Region where
  | code
  | dash
  | slash
  | literal
  | quote
  | lineComment
  | blockComment
  | star
  deriving DecidableEq, Repr

structure Lexer where
  region : Region := .code
  body : List Char := []
  closed : List (List Char) := []
  deriving DecidableEq, Repr

namespace Lexer

def inCode (l : Lexer) : Bool :=
  match l.region with
  | .code | .dash | .slash | .quote => true
  | .literal | .lineComment | .blockComment | .star => false

/-- Takes the place for plain code; a quote that was not doubled has ended its literal. -/
def settled (l : Lexer) : Lexer :=
  match l.region with
  | .quote => ⟨.code, [], l.closed ++ [l.body]⟩
  | _ => { l with region := .code }

def enter (l : Lexer) (c : Char) : Lexer :=
  if c = '\'' then { l with region := .literal, body := [] }
  else if c = '-' then { l with region := .dash }
  else if c = '/' then { l with region := .slash }
  else l

def step (l : Lexer) (c : Char) : Lexer :=
  match l.region with
  | .code => l.enter c
  | .dash => if c = '-' then { l with region := .lineComment } else l.settled.enter c
  | .slash => if c = '*' then { l with region := .blockComment } else l.settled.enter c
  | .literal => if c = '\'' then { l with region := .quote } else { l with body := l.body ++ [c] }
  | .quote =>
    if c = '\'' then { l with region := .literal, body := l.body ++ ['\'', '\''] } else l.settled.enter c
  | .lineComment => if c = '\n' then { l with region := .code } else l
  | .blockComment => if c = '*' then { l with region := .star } else l
  | .star =>
    if c = '/' then { l with region := .code }
    else if c = '*' then l
    else { l with region := .blockComment }

/-- The literals that have ended. -/
def literals (l : Lexer) : List (List Char) :=
  match l.region with
  | .quote => l.closed ++ [l.body]
  | _ => l.closed

end Lexer

def lex (s : List Char) : Lexer := s.foldl Lexer.step {}

def literals (s : List Char) : List (List Char) := (lex s).literals

/-- No literal is left open at the end. -/
def IsTerminated (s : List Char) : Prop := (lex s).region ≠ .literal

instance (s : List Char) : Decidable (IsTerminated s) := inferInstanceAs (Decidable (_ ≠ _))

theorem lex_append (a b : List Char) : lex (a ++ b) = b.foldl Lexer.step (lex a) := List.foldl_append

/-! ## Inert characters -/

/-- The character begins and ends neither a literal nor a block comment, and begins no line comment. -/
def isInert (c : Char) : Bool := c != '\'' && c != '-' && c != '/' && c != '*'

theorem isInert_iff (c : Char) : isInert c = true ↔ c ≠ '\'' ∧ c ≠ '-' ∧ c ≠ '/' ∧ c ≠ '*' := by
  unfold isInert
  simp only [Bool.and_eq_true, bne_iff_ne, and_assoc]

theorem isInert_of_isBlank {c : Char} (h : isBlank c = true) : isInert c = true := by
  rw [isInert_iff]
  refine ⟨?_, ?_, ?_, ?_⟩
  all_goals
    rintro rfl
    exact absurd h (by decide)

theorem isInert_of_isWord {c : Char} (h : isWord c = true) : isInert c = true := by
  rw [isInert_iff]
  refine ⟨?_, ?_, ?_, ?_⟩
  all_goals
    rintro rfl
    exact absurd h (by decide)

namespace Lexer
variable {l : Lexer} {c : Char} {t : List Char}

theorem inCode_settled (l : Lexer) : l.settled.inCode = true := by
  obtain ⟨region, body, closed⟩ := l
  cases region <;> rfl

@[simp] theorem settled_settled (l : Lexer) : l.settled.settled = l.settled := by
  obtain ⟨region, body, closed⟩ := l
  cases region <;> rfl

theorem literals_settled (l : Lexer) : l.settled.literals = l.literals := by
  obtain ⟨region, body, closed⟩ := l
  cases region <;> rfl

theorem enter_of_isInert (l : Lexer) (hc : isInert c = true) : l.enter c = l := by
  obtain ⟨hquote, hdash, hslash, -⟩ := (isInert_iff c).mp hc
  unfold enter
  rw [if_neg hquote, if_neg hdash, if_neg hslash]

/-- In code an inert character settles what the one before it left open. -/
theorem step_of_isInert (h : l.inCode = true) (hc : isInert c = true) : l.step c = l.settled := by
  obtain ⟨hquote, hdash, hslash, hstar⟩ := (isInert_iff c).mp hc
  have henter := enter_of_isInert l.settled hc
  obtain ⟨region, body, closed⟩ := l
  cases region with
  | code => exact henter
  | dash => exact (if_neg hdash).trans henter
  | slash => exact (if_neg hstar).trans henter
  | quote => exact (if_neg hquote).trans henter
  | literal => cases h
  | lineComment => cases h
  | blockComment => cases h
  | star => cases h

theorem foldl_step_settled (l : Lexer) (ht : ∀ c ∈ t, isInert c = true) :
    t.foldl step l.settled = l.settled := by
  induction t with
  | nil => rfl
  | cons c t ih =>
    rw [List.foldl_cons, step_of_isInert (inCode_settled l) (ht c List.mem_cons_self), settled_settled]
    exact ih fun d hd => ht d (List.mem_cons_of_mem _ hd)

theorem foldl_step_of_isInert (h : l.inCode = true) (ht : ∀ c ∈ t, isInert c = true) (hne : t ≠ []) :
    t.foldl step l = l.settled := by
  obtain ⟨c, r, rfl⟩ := List.exists_cons_of_ne_nil hne
  rw [List.foldl_cons, step_of_isInert h (ht c List.mem_cons_self)]
  exact foldl_step_settled l fun d hd => ht d (List.mem_cons_of_mem _ hd)

theorem inCode_foldl (h : l.inCode = true) (ht : ∀ c ∈ t, isInert c = true) :
    (t.foldl step l).inCode = true := by
  cases t with
  | nil => exact h
  | cons c t =>
    rw [foldl_step_of_isInert h ht (List.cons_ne_nil c t)]
    exact inCode_settled l

theorem step_of_not_inCode (h : l.inCode = false) (hc : isInert c = true) (hline : c ≠ '\n') :
    (l.step c).inCode = false := by
  obtain ⟨hquote, -, hslash, hstar⟩ := (isInert_iff c).mp hc
  obtain ⟨region, body, closed⟩ := l
  cases region with
  | code => cases h
  | dash => cases h
  | slash => cases h
  | quote => cases h
  | literal => exact congrArg inCode (if_neg hquote)
  | lineComment => exact congrArg inCode (if_neg hline)
  | blockComment => exact congrArg inCode (if_neg hstar)
  | star => exact congrArg inCode ((if_neg hslash).trans (if_neg hstar))

theorem inCode_foldl_of_not_inCode (h : l.inCode = false) (ht : ∀ c ∈ t, isInert c = true)
    (hline : '\n' ∉ t) :
    (t.foldl step l).inCode = false := by
  induction t generalizing l with
  | nil => exact h
  | cons c t ih =>
    rw [List.mem_cons, not_or] at hline
    refine ih ?_ (fun d hd => ht d (List.mem_cons_of_mem _ hd)) hline.2
    exact step_of_not_inCode h (ht c List.mem_cons_self) (Ne.symm hline.1)

theorem settled_step (hc : isInert c = true) (hline : c ≠ '\n') (h : (l.step c).inCode = true) :
    (l.step c).settled = l.step c := by
  cases hcode : l.inCode with
  | true => rw [step_of_isInert hcode hc, settled_settled]
  | false =>
    rw [step_of_not_inCode hcode hc hline] at h
    cases h

/-- What is read from code on gives the same literals if the place is settled first, unless the first
character could double a quote or complete the mark of a comment. -/
theorem literals_foldl_settled (h : l.inCode = true) (ht : ∀ c ∈ t.head?, isInert c = true) :
    (t.foldl step l.settled).literals = (t.foldl step l).literals := by
  cases t with
  | nil => exact literals_settled l
  | cons c t =>
    have hc : isInert c = true := ht c rfl
    rw [List.foldl_cons, List.foldl_cons, step_of_isInert h hc, step_of_isInert (inCode_settled l) hc,
      settled_settled]

end Lexer

end TenderQuery.Sql
