import Mathlib.Data.List.Induction
import TenderQuery.Proofs.Schema.Turns

/-!
# Fresh snapshots

A cache is used by one caller after another, while the clock is set and the cache is invalidated in between.
`Session.history` lists what an observer sees of these acts: who was answered without a load, which loads
succeeded, and when they began and ended.

- `IsCurrent events snapshot ended` says by the events alone that the snapshot is the last one loaded, at
  `ended`, and that it has not been invalidated since.
- `holds_afterAll` is the invariant: the cache stores the current snapshot with the time of its load.
- `get_afterAll` says from the events whom the cache answers without a load, and how far two loads lie apart.
-/
set_option autoImplicit false
namespace TenderQuery.Schema

/-! ## Acts and events -/

/-- What is done to a cache. -/
inductive Act (τ α : Type) where
  | setClock (time : τ)
  | invalidate
  | get (loader : Loader τ α)

/-- What is seen of an act. -/
inductive Event (τ α : Type) where
  | clockSet
  | invalidated
  /-- A caller was answered, and no loader ran. -/
  | served (answer : Except Fault α)
  | loaded (snapshot : α) (began ended : τ)
  | failed (fault : Fault)

/-- The event neither brings a snapshot nor takes one away. -/
def Event.Keeps {τ α : Type} : Event τ α → Prop
  | .clockSet | .served _ | .failed _ => True
  | .invalidated | .loaded .. => False

section
variable {τ α : Type}

/-- The snapshot is the last one loaded, and it was not invalidated since. -/
def IsCurrent (events : List (Event τ α)) (snapshot : α) (ended : τ) : Prop :=
  ∃ before began since, events = before ++ .loaded snapshot began ended :: since ∧ ∀ e ∈ since, e.Keeps

/-- The current snapshot is younger than the time to live. -/
def IsFresh [Sub τ] [LT τ] (ttl : τ) (events : List (Event τ α)) (now : τ) (snapshot : α) : Prop :=
  ∃ ended, IsCurrent events snapshot ended ∧ now - ended < ttl

variable {events : List (Event τ α)} {e : Event τ α} {snapshot : α} {ended : τ}

theorem not_isCurrent_nil : ¬ IsCurrent ([] : List (Event τ α)) snapshot ended := by
  rintro ⟨before, began, since, heq, -⟩
  exact absurd heq.symm (List.append_ne_nil_of_right_ne_nil _ (List.cons_ne_nil _ _))

theorem isCurrent_concat_of_keeps (he : e.Keeps) :
    IsCurrent (events ++ [e]) snapshot ended ↔ IsCurrent events snapshot ended := by
  constructor
  · rintro ⟨before, began, since, heq, hsince⟩
    obtain rfl | ⟨since, last, rfl⟩ := List.eq_nil_or_concat' since
    · obtain ⟨-, rfl⟩ := List.append_inj' heq rfl |>.imp_right List.singleton_inj.mp
      exact he.elim
    · rw [← List.cons_append, ← List.append_assoc] at heq
      obtain ⟨rfl, -⟩ := List.append_inj' heq rfl
      exact ⟨before, began, since, rfl, fun d hd => hsince d (List.mem_append_left _ hd)⟩
  · rintro ⟨before, began, since, rfl, hsince⟩
    refine ⟨before, began, since ++ [e], by rw [List.append_assoc, List.cons_append], ?_⟩
    simp only [List.forall_mem_append, List.forall_mem_singleton]
    exact ⟨hsince, he⟩

/-- An event that does not keep the current snapshot is the last one that counts. -/
theorem isCurrent_concat_of_not_keeps (he : ¬ e.Keeps) :
    IsCurrent (events ++ [e]) snapshot ended ↔ ∃ began, e = .loaded snapshot began ended := by
  constructor
  · rintro ⟨before, began, since, heq, hsince⟩
    obtain rfl | ⟨since, last, rfl⟩ := List.eq_nil_or_concat' since
    · obtain ⟨-, heq⟩ := List.append_inj' heq rfl
      exact ⟨began, List.singleton_inj.mp heq⟩
    · rw [← List.cons_append, ← List.append_assoc] at heq
      obtain ⟨-, heq⟩ := List.append_inj' heq rfl
      rw [List.singleton_inj.mp heq] at he
      exact absurd (hsince last (List.mem_append_right _ List.mem_cons_self)) he
  · rintro ⟨began, rfl⟩
    exact ⟨events, began, [], rfl, fun d hd => by cases hd⟩

end

namespace Session

/-! ## A load -/

section
variable {τ α : Type} [Add τ] {loader : Loader τ α}

theorem loads_ended (s : Session τ α) (loader : Loader τ α) :
    ((s.began loader).ended loader).loads = s.loads ++ [loader.name] := by
  unfold ended began
  cases loader.result <;> rfl

theorem clock_ended (s : Session τ α) (loader : Loader τ α) :
    ((s.began loader).ended loader).clock = s.clock + loader.takes := by
  unfold ended began
  cases loader.result <;> rfl

theorem cache_ended_of_ok {snapshot : α} (h : loader.result = .ok snapshot) (s : Session τ α) :
    ((s.began loader).ended loader).cache = ⟨some (snapshot, s.clock + loader.takes)⟩ := by
  unfold ended began
  rw [h]

theorem cache_ended_of_error {fault : Fault} (h : loader.result = .error fault) (s : Session τ α) :
    ((s.began loader).ended loader).cache = s.cache := by
  unfold ended began
  rw [h]

end

/-! ## What is stored -/

/-- The cache stores what is current by the events. -/
def Holds {τ α : Type} (s : Session τ α) (events : List (Event τ α)) : Prop :=
  ∀ snapshot ended, s.cache.stored = some (snapshot, ended) ↔ IsCurrent events snapshot ended

theorem Holds.keep {τ α : Type} {s left : Session τ α} {events : List (Event τ α)} {e : Event τ α}
    (h : s.Holds events) (hcache : left.cache = s.cache) (he : e.Keeps) : left.Holds (events ++ [e]) := by
  intro snapshot ended
  rw [hcache, isCurrent_concat_of_keeps he]
  exact h snapshot ended

section
variable {τ α : Type} [Sub τ] [LT τ] [DecidableLT τ] {ttl : τ} {s : Session τ α} {events : List (Event τ α)}

theorem fresh?_eq_some_iff {snapshot : α} :
    s.fresh? ttl = some snapshot ↔ ∃ ended, s.cache.stored = some (snapshot, ended) ∧ s.clock - ended < ttl := by
  unfold fresh? Cache.fresh?
  cases hstored : s.cache.stored with
  | none => simp
  | some stored =>
    obtain ⟨found, ended⟩ := stored
    simp only [Option.ite_none_right_eq_some, Option.some.injEq, Prod.mk.injEq]
    constructor
    · rintro ⟨hage, rfl⟩
      exact ⟨ended, ⟨rfl, rfl⟩, hage⟩
    · rintro ⟨time, ⟨rfl, rfl⟩, hage⟩
      exact ⟨hage, rfl⟩

theorem Holds.fresh?_eq_some_iff (h : s.Holds events) {snapshot : α} :
    s.fresh? ttl = some snapshot ↔ IsFresh ttl events s.clock snapshot := by
  rw [Session.fresh?_eq_some_iff]
  exact exists_congr fun ended => and_congr_left fun _ => h snapshot ended

theorem Holds.fresh?_eq_none_iff (h : s.Holds events) :
    s.fresh? ttl = none ↔ ¬ ∃ snapshot, IsFresh ttl events s.clock snapshot := by
  rw [Option.eq_none_iff_forall_ne_some, not_exists]
  exact forall_congr' fun snapshot => not_congr h.fresh?_eq_some_iff

end

/-! ## What is seen of the acts -/

section
variable {τ α : Type} [Add τ] [Sub τ] [LT τ] [DecidableLT τ] {ttl : τ} {s : Session τ α}
  {events : List (Event τ α)}

def after (ttl : τ) (s : Session τ α) : Act τ α → Session τ α
  | .setClock time => { s with clock := time }
  | .invalidate => s.invalidate
  | .get loader => (s.get ttl loader).2

def afterAll (ttl : τ) (s : Session τ α) (acts : List (Act τ α)) : Session τ α := acts.foldl (after ttl) s

/-- What is seen of a caller: whether a loader has run is told by the record of loads. -/
def eventOf (ttl : τ) (s : Session τ α) (loader : Loader τ α) : Event τ α :=
  let (answer, left) := s.get ttl loader
  if left.loads.length = s.loads.length then .served answer
  else match answer with
    | .ok snapshot => .loaded snapshot s.clock left.clock
    | .error fault => .failed fault

def event (ttl : τ) (s : Session τ α) : Act τ α → Event τ α
  | .setClock _ => .clockSet
  | .invalidate => .invalidated
  | .get loader => s.eventOf ttl loader

def history (ttl : τ) : Session τ α → List (Act τ α) → List (Event τ α)
  | _, [] => []
  | s, act :: acts => s.event ttl act :: history ttl (s.after ttl act) acts

theorem afterAll_concat (ttl : τ) (s : Session τ α) (acts : List (Act τ α)) (act : Act τ α) :
    s.afterAll ttl (acts ++ [act]) = (s.afterAll ttl acts).after ttl act := List.foldl_concat _ _ _ _

theorem history_concat (ttl : τ) (s : Session τ α) (acts : List (Act τ α)) (act : Act τ α) :
    s.history ttl (acts ++ [act]) = s.history ttl acts ++ [(s.afterAll ttl acts).event ttl act] := by
  induction acts generalizing s with
  | nil => rfl
  | cons first acts ih =>
    rw [List.cons_append, history, ih]
    rfl

/-- What is seen at some time is seen of an act done after those before it. -/
theorem exists_act_of_history {acts : List (Act τ α)} {before after : List (Event τ α)} {e : Event τ α}
    (h : s.history ttl acts = before ++ e :: after) :
    ∃ earlier act later, acts = earlier ++ act :: later ∧ before = s.history ttl earlier ∧
      e = (s.afterAll ttl earlier).event ttl act := by
  induction acts generalizing s before with
  | nil => exact absurd h.symm (List.append_ne_nil_of_right_ne_nil _ (List.cons_ne_nil _ _))
  | cons act acts ih =>
    rw [history] at h
    cases before with
    | nil =>
      obtain ⟨rfl, -⟩ := List.cons.inj h
      exact ⟨[], act, acts, rfl, rfl, rfl⟩
    | cons first before =>
      obtain ⟨rfl, hrest⟩ := List.cons.inj h
      obtain ⟨earlier, next, later, rfl, rfl, rfl⟩ := ih hrest
      exact ⟨act :: earlier, next, later, rfl, rfl, rfl⟩

theorem eventOf_of_fresh {snapshot : α} (h : s.fresh? ttl = some snapshot) (loader : Loader τ α) :
    s.eventOf ttl loader = .served (.ok snapshot) := by
  unfold eventOf
  rw [get_of_fresh h]
  exact if_pos rfl

theorem eventOf_of_stale (h : s.fresh? ttl = none) (loader : Loader τ α) :
    s.eventOf ttl loader = match loader.result with
      | .ok snapshot => .loaded snapshot s.clock (s.clock + loader.takes)
      | .error fault => .failed fault := by
  unfold eventOf
  rw [get_of_stale h]
  dsimp only
  rw [loads_ended, clock_ended, if_neg (by simp)]

/-- A load is seen only of a caller who found nothing fresh. -/
theorem load_of_event {act : Act τ α} {snapshot : α} {began ended : τ}
    (h : s.event ttl act = .loaded snapshot began ended) :
    ∃ loader, act = .get loader ∧ s.fresh? ttl = none ∧ began = s.clock ∧ ended = s.clock + loader.takes := by
  cases act with
  | setClock time => cases h
  | invalidate => cases h
  | get loader =>
    have hevent : s.eventOf ttl loader = .loaded snapshot began ended := h
    cases hfresh : s.fresh? ttl with
    | some found =>
      rw [eventOf_of_fresh hfresh] at hevent
      cases hevent
    | none =>
      rw [eventOf_of_stale hfresh] at hevent
      cases hresult : loader.result with
      | ok found =>
        rw [hresult] at hevent
        cases hevent
        exact ⟨loader, rfl, rfl, rfl, rfl⟩
      | error fault =>
        rw [hresult] at hevent
        cases hevent

/-! ## The invariant -/

/-- An act and what is seen of it keep the invariant. -/
theorem holds_after (h : s.Holds events) (act : Act τ α) :
    (s.after ttl act).Holds (events ++ [s.event ttl act]) := by
  cases act with
  | setClock time => exact h.keep rfl trivial
  | invalidate =>
    intro snapshot ended
    refine Iff.trans ?_ (isCurrent_concat_of_not_keeps (e := .invalidated) id).symm
    constructor
    · intro hstored
      cases hstored
    · rintro ⟨began, heq⟩
      cases heq
  | get loader =>
    dsimp only [after, event]
    cases hfresh : s.fresh? ttl with
    | some found =>
      rw [get_of_fresh hfresh, eventOf_of_fresh hfresh]
      exact h.keep rfl trivial
    | none =>
      rw [get_of_stale hfresh, eventOf_of_stale hfresh]
      cases hresult : loader.result with
      | error fault => exact h.keep (cache_ended_of_error hresult s) trivial
      | ok found =>
        intro snapshot ended
        rw [cache_ended_of_ok hresult, isCurrent_concat_of_not_keeps id]
        constructor
        · intro hstored
          cases hstored
          exact ⟨s.clock, rfl⟩
        · rintro ⟨began, heq⟩
          cases heq
          rfl

/-- After any acts, what is stored is current, and nothing else is. -/
theorem holds_afterAll (ttl start : τ) (acts : List (Act τ α)) :
    (afterAll ttl { clock := start } acts).Holds (history ttl { clock := start } acts) := by
  induction acts using List.reverseRecOn with
  | nil =>
    intro snapshot ended
    exact iff_of_false (fun hstored => by cases hstored) not_isCurrent_nil
  | append_singleton acts act ih =>
    rw [afterAll_concat, history_concat]
    exact holds_after ih act

end

end Session

/-! ## Callers -/

/-- After any acts, a caller is answered with the current snapshot if that is younger than the time to live, and
nothing else changes. Otherwise the caller's loader runs: its fault is passed on and leaves what is stored, or its
snapshot is stored with the time at which the load ended. A load that follows another one with no invalidation
between them begins no sooner than the time to live after the end of the other. -/
theorem get_afterAll {τ α : Type} [AddCommGroup τ] [LinearOrder τ] [IsOrderedAddMonoid τ] (ttl start : τ)
    (acts : List (Act τ α)) (s : Session τ α) (events : List (Event τ α))
    (hs : s = Session.afterAll ttl { clock := start } acts)
    (hevents : events = Session.history ttl { clock := start } acts) :
    (∀ loader snapshot, IsFresh ttl events s.clock snapshot → s.get ttl loader = (.ok snapshot, s)) ∧
    (∀ loader, (¬ ∃ snapshot, IsFresh ttl events s.clock snapshot) →
      (s.get ttl loader).1 = loader.result ∧ (s.get ttl loader).2.loads = s.loads ++ [loader.name] ∧
      (∀ fault, loader.result = .error fault → (s.get ttl loader).2.cache = s.cache) ∧
      ∀ snapshot, loader.result = .ok snapshot →
        (s.get ttl loader).2.cache.stored = some (snapshot, (s.get ttl loader).2.clock)) ∧
    ∀ before snapshot began ended after, events = before ++ .loaded snapshot began ended :: after →
      (∀ earlier previous, IsCurrent before earlier previous → previous + ttl ≤ began) ∧
      ((∀ loader, .get loader ∈ acts → 0 ≤ loader.takes) → began ≤ ended) := by
  have hholds : s.Holds events := hs ▸ hevents ▸ Session.holds_afterAll ttl start acts
  refine ⟨fun loader snapshot hfresh => ?_, fun loader hstale => ?_, ?_⟩
  · exact Session.get_of_fresh (hholds.fresh?_eq_some_iff.mpr hfresh) loader
  · rw [Session.get_of_stale (hholds.fresh?_eq_none_iff.mpr hstale)]
    refine ⟨rfl, Session.loads_ended s loader, fun fault h => Session.cache_ended_of_error h s,
      fun snapshot h => ?_⟩
    rw [Session.cache_ended_of_ok h, Session.clock_ended]
  · intro before snapshot began ended after heq
    obtain ⟨earlier, act, later, rfl, rfl, hevent⟩ := Session.exists_act_of_history (hevents.symm.trans heq)
    have hbefore := Session.holds_afterAll ttl start earlier
    obtain ⟨loader, rfl, hstale, rfl, rfl⟩ := Session.load_of_event hevent.symm
    refine ⟨fun found previous hcurrent => ?_, fun htakes => ?_⟩
    · rw [hbefore.fresh?_eq_none_iff] at hstale
      have hage := fun hlt => hstale ⟨found, previous, hcurrent, hlt⟩
      exact le_sub_iff_add_le'.mp (not_lt.mp hage)
    · exact le_add_of_nonneg_right (htakes loader (List.mem_append_right _ List.mem_cons_self))

/-- A load, a caller who comes before it expires, and two who come when it has just expired. -/
def fourCallers : List (Act Int String) :=
  [.get ⟨"a", 2, .ok "A"⟩, .setClock 7, .get ⟨"b", 1, .ok "B"⟩, .setClock 8,
    .get ⟨"c", 1, .error ⟨.introspection, "gone"⟩⟩, .get ⟨"d", 3, .ok "D"⟩]

/-- What is seen of them up to the last one. -/
def beforeLast : List (Event Int String) :=
  [.loaded "A" 1 3, .clockSet, .served (.ok "A"), .clockSet, .failed ⟨.introspection, "gone"⟩]

theorem get_afterAll_fourCallers :
    Session.history (5 : Int) { clock := 1 } fourCallers = beforeLast ++ [.loaded "D" 9 12] ∧
    (Session.afterAll (5 : Int) { clock := 1 } fourCallers).get 5 ⟨"e", 1, .ok "E"⟩ =
      (.ok "D", Session.afterAll (5 : Int) { clock := 1 } fourCallers) ∧
    (3 : Int) + 5 ≤ 9 ∧ (9 : Int) ≤ 12 := by
  obtain ⟨hserved, -, hloaded⟩ := get_afterAll (5 : Int) 1 fourCallers _ _ rfl rfl
  obtain ⟨hapart, hended⟩ := hloaded beforeLast "D" 9 12 [] rfl
  have hfirst : IsCurrent beforeLast "A" 3 :=
    ⟨[], 1, beforeLast.tail, rfl, by simp [beforeLast, Event.Keeps]⟩
  have hlast : IsFresh 5 (beforeLast ++ [.loaded "D" 9 12]) 12 "D" :=
    ⟨12, ⟨beforeLast, 9, [], rfl, fun e he => by cases he⟩, by decide⟩
  refine ⟨rfl, hserved _ "D" hlast, hapart "A" 3 hfirst, hended ?_⟩
  simp [fourCallers]

end TenderQuery.Schema
