import TenderQuery.Schema.Cache

/-!
# Concurrent use of the cache

Callers that come at the same time are run by turns, in the order in which they became ready. A caller that
finds no fresh snapshot takes a lock, looks again and runs its loader, which gives up the turn once. A
caller that finds the lock taken waits; when the lock is released the longest waiting caller becomes ready.

- `Schedule.step` runs the first ready caller until it gives up its turn.
- `Schedule.getAll` runs a batch of callers to the end.
-/
set_option autoImplicit false
namespace TenderQuery.Schema

/-- Where a ready caller goes on. -/
inductive Phase where
  | arriving
  | woken
  | loading
  deriving DecidableEq, Repr

structure Caller (τ α : Type) where
  index : Nat
  loader : Loader τ α

structure Schedule (τ α : Type) where
  session : Session τ α
  ready : List (Caller τ α × Phase)
  waiting : List (Caller τ α) := []
  locked : Bool := false
  results : List (Nat × Except Fault α) := []

namespace Schedule
variable {τ α : Type} [Add τ] [Sub τ] [LT τ] [DecidableLT τ]

def answer (s : Schedule τ α) (caller : Caller τ α) (result : Except Fault α) : Schedule τ α :=
  { s with results := s.results ++ [(caller.index, result)] }

/-- Gives the lock back and wakes the caller that has waited longest. -/
def release (s : Schedule τ α) : Schedule τ α :=
  match s.waiting with
  | [] => { s with locked := false }
  | caller :: _ => { s with locked := false, ready := s.ready ++ [(caller, .woken)] }

/-- The caller holds the lock: it looks again and begins to load if it has to. -/
def enter (ttl : τ) (s : Schedule τ α) (caller : Caller τ α) : Schedule τ α :=
  let s := { s with locked := true }
  match s.session.fresh? ttl with
  | some snapshot => s.release.answer caller (.ok snapshot)
  | none =>
    { s with session := s.session.began caller.loader, ready := s.ready ++ [(caller, .loading)] }

def runCaller (ttl : τ) (s : Schedule τ α) (caller : Caller τ α) : Phase → Schedule τ α
  | .arriving =>
    match s.session.fresh? ttl with
    | some snapshot => s.answer caller (.ok snapshot)
    | none =>
      if s.locked || !s.waiting.isEmpty then { s with waiting := s.waiting ++ [caller] }
      else s.enter ttl caller
  | .woken => { s with waiting := s.waiting.drop 1 }.enter ttl caller
  | .loading =>
    { s with session := s.session.ended caller.loader }.release.answer caller caller.loader.result

def step (ttl : τ) (s : Schedule τ α) : Schedule τ α :=
  match s.ready with
  | [] => s
  | (caller, phase) :: rest => { s with ready := rest }.runCaller ttl caller phase

def run (ttl : τ) : Nat → Schedule τ α → Schedule τ α
  | 0, s => s
  | turns + 1, s => run ttl turns (s.step ttl)

def start (session : Session τ α) (loaders : List (Loader τ α)) : Schedule τ α where
  session := session
  ready := loaders.mapIdx fun i loader => (⟨i, loader⟩, .arriving)

/-- Every caller has at most three turns. -/
def getAll (ttl : τ) (session : Session τ α) (loaders : List (Loader τ α)) :
    List (Except Fault α) × Session τ α :=
  let s := run ttl (3 * loaders.length) (start session loaders)
  ((List.range loaders.length).filterMap fun i => s.results.lookup i, s.session)

end Schedule

end TenderQuery.Schema
