import TenderQuery.Fault

/-!
# The snapshot cache

A cache holds at most one snapshot with the time at which its load was completed. The snapshot is fresh for
less than the time to live. Times can be of any type with a difference and an order.

- `Cache.fresh?` is the snapshot if it is fresh at a time.
- `Session.get` answers one caller: with the fresh snapshot, or by running the caller's loader. A failed
  load leaves the snapshot as it was.
-/
set_option autoImplicit false
namespace TenderQuery.Schema

structure Cache (τ α : Type) where
  stored : Option (α × τ) := none

/-- A way to get a snapshot: it takes some time and then succeeds or fails. -/
structure Loader (τ α : Type) where
  name : String
  takes : τ
  result : Except Fault α

/-- A cache with the clock it is used under and the names of the loaders that have run. -/
structure Session (τ α : Type) where
  cache : Cache τ α := {}
  clock : τ
  loads : List String := []

section
variable {τ α : Type} [Add τ] [Sub τ] [LT τ] [DecidableLT τ]

def Cache.fresh? (ttl : τ) (cache : Cache τ α) (now : τ) : Option α :=
  match cache.stored with
  | some (snapshot, loadedAt) => if now - loadedAt < ttl then some snapshot else none
  | none => none

namespace Session

def fresh? (ttl : τ) (s : Session τ α) : Option α := s.cache.fresh? ttl s.clock

/-- A loader begins to run. -/
def began (s : Session τ α) (loader : Loader τ α) : Session τ α :=
  { s with loads := s.loads ++ [loader.name] }

/-- A loader has run; its snapshot is stored if it has one. -/
def ended (s : Session τ α) (loader : Loader τ α) : Session τ α :=
  let clock := s.clock + loader.takes
  match loader.result with
  | .ok snapshot => { s with clock := clock, cache := ⟨some (snapshot, clock)⟩ }
  | .error _ => { s with clock := clock }

def get (ttl : τ) (s : Session τ α) (loader : Loader τ α) : Except Fault α × Session τ α :=
  match s.fresh? ttl with
  | some snapshot => (.ok snapshot, s)
  | none => (loader.result, (s.began loader).ended loader)

/-- Answers callers one after another. -/
def getAll (ttl : τ) : Session τ α → List (Loader τ α) → List (Except Fault α) × Session τ α
  | s, [] => ([], s)
  | s, loader :: rest =>
    let (result, s) := s.get ttl loader
    let (results, s) := getAll ttl s rest
    (result :: results, s)

def invalidate (s : Session τ α) : Session τ α := { s with cache := {} }

end Session

end

end TenderQuery.Schema
