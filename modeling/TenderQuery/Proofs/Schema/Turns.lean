import Mathlib.Algebra.BigOperators.Group.List.Basic
import Mathlib.Algebra.Order.Group.Defs
import Mathlib.Algebra.Order.Group.Int
import TenderQuery.Schema.CacheSchedule

/-!
# Callers by turns

Callers that come at the same time and are run by turns get what they would get one after another, and leave the
same behind: `getAll_eq_inTurn`. A `Stage` says how a batch stands between two turns: some first callers have been
answered as if they had come alone, one of the others may hold the lock, and behind it the rest wait or arrive in
their order. Every turn leads from a stage to a stage with fewer turns to come (`Stage.step`).
-/
set_option autoImplicit false
namespace TenderQuery.Schema

section
variable {τ α : Type} [Add τ] [Sub τ] [LT τ] [DecidableLT τ]

/-! ## One caller after another -/

namespace Session

theorem get_of_fresh {ttl : τ} {s : Session τ α} {snapshot : α} (h : s.fresh? ttl = some snapshot)
    (loader : Loader τ α) : s.get ttl loader = (.ok snapshot, s) := by
  unfold get
  rw [h]

theorem get_of_stale {ttl : τ} {s : Session τ α} (h : s.fresh? ttl = none) (loader : Loader τ α) :
    s.get ttl loader = (loader.result, (s.began loader).ended loader) := by
  unfold get
  rw [h]

theorem getAll_cons (ttl : τ) (s : Session τ α) (loader : Loader τ α) (loaders : List (Loader τ α)) :
    s.getAll ttl (loader :: loaders) =
      ((s.get ttl loader).1 :: ((s.get ttl loader).2.getAll ttl loaders).1,
        ((s.get ttl loader).2.getAll ttl loaders).2) :=
  rfl

theorem getAll_append (ttl : τ) (s : Session τ α) (first second : List (Loader τ α)) :
    s.getAll ttl (first ++ second) =
      ((s.getAll ttl first).1 ++ ((s.getAll ttl first).2.getAll ttl second).1,
        ((s.getAll ttl first).2.getAll ttl second).2) := by
  induction first generalizing s with
  | nil => rfl
  | cons loader first ih =>
    rw [List.cons_append, getAll_cons, getAll_cons, ih]
    rfl

theorem length_getAll (ttl : τ) (s : Session τ α) (loaders : List (Loader τ α)) :
    (s.getAll ttl loaders).1.length = loaders.length := by
  induction loaders generalizing s with
  | nil => rfl
  | cons loader loaders ih =>
    rw [getAll_cons, List.length_cons, List.length_cons, ih]

theorem getAll_of_fresh {ttl : τ} {s : Session τ α} {snapshot : α} (h : s.fresh? ttl = some snapshot)
    (loaders : List (Loader τ α)) : s.getAll ttl loaders = (loaders.map fun _ => .ok snapshot, s) := by
  induction loaders with
  | nil => rfl
  | cons loader loaders ih =>
    rw [getAll_cons, get_of_fresh h, ih]
    rfl

end Session

/-! ## How a batch stands -/

namespace Schedule
variable {ttl : τ} {session : Session τ α} {callers answered : List (Caller τ α)} {caller : Caller τ α}

/-- The session that callers leave who come one after another. -/
def sessionAfter (ttl : τ) (session : Session τ α) (callers : List (Caller τ α)) : Session τ α :=
  (session.getAll ttl (callers.map (·.loader))).2

/-- The answers to callers who come one after another. -/
def answersTo (ttl : τ) (session : Session τ α) (callers : List (Caller τ α)) : List (Nat × Except Fault α) :=
  (callers.map (·.index)).zip (session.getAll ttl (callers.map (·.loader))).1

theorem sessionAfter_concat (ttl : τ) (session : Session τ α) (callers : List (Caller τ α))
    (caller : Caller τ α) :
    sessionAfter ttl session (callers ++ [caller]) =
      ((sessionAfter ttl session callers).get ttl caller.loader).2 := by
  unfold sessionAfter
  rw [List.map_append, Session.getAll_append]
  rfl

theorem answersTo_concat (ttl : τ) (session : Session τ α) (callers : List (Caller τ α)) (caller : Caller τ α) :
    answersTo ttl session (callers ++ [caller]) =
      answersTo ttl session callers ++
        [(caller.index, ((sessionAfter ttl session callers).get ttl caller.loader).1)] := by
  unfold answersTo sessionAfter
  rw [List.map_append, List.map_append, Session.getAll_append, List.zip_append]
  · rfl
  · rw [Session.length_getAll, List.length_map, List.length_map]

/-- The loaders that run. -/
def loading (s : Schedule τ α) : List (Loader τ α) :=
  s.ready.filterMap fun (caller, phase) => if phase = .loading then some caller.loader else none

/-- How a batch of callers stands between two turns, with a bound on the number of turns to come. -/
inductive Stage (ttl : τ) (session : Session τ α) (callers : List (Caller τ α)) :
    Nat → Schedule τ α → Prop where
  /-- The lock is free and nobody waits for it. -/
  | free {answered arriving : List (Caller τ α)} (order : callers = answered ++ arriving) :
      Stage ttl session callers (3 * arriving.length)
        ⟨sessionAfter ttl session answered, arriving.map (·, .arriving), [], false,
          answersTo ttl session answered⟩
  /-- A caller loads, the others wait or have not come yet. -/
  | held {answered waiting arriving : List (Caller τ α)} {caller : Caller τ α}
      (order : callers = answered ++ caller :: (waiting ++ arriving))
      (stale : (sessionAfter ttl session answered).fresh? ttl = none) :
      Stage ttl session callers (3 * arriving.length + 2 * waiting.length + 1)
        ⟨(sessionAfter ttl session answered).began caller.loader,
          arriving.map (·, .arriving) ++ [(caller, .loading)], waiting, true, answersTo ttl session answered⟩
  /-- The lock was given back, and the caller that has waited longest is to take it. -/
  | handed {answered waiting : List (Caller τ α)} {caller : Caller τ α}
      (order : callers = answered ++ caller :: waiting) :
      Stage ttl session callers (2 * waiting.length + 2)
        ⟨sessionAfter ttl session answered, [(caller, .woken)], caller :: waiting, false,
          answersTo ttl session answered⟩

namespace Stage

/-- A caller that holds the lock while others wait is answered and gives the lock back. -/
theorem release {waiting : List (Caller τ α)} (order : callers = answered ++ caller :: waiting) :
    Stage ttl session callers (2 * waiting.length)
      ((Schedule.mk ((sessionAfter ttl session answered).get ttl caller.loader).2 [] waiting true
        (answersTo ttl session answered)).release.answer caller
          ((sessionAfter ttl session answered).get ttl caller.loader).1) := by
  cases waiting with
  | nil =>
    have h : Stage ttl session callers _ _ :=
      .free (show callers = (answered ++ [caller]) ++ [] by rw [order, List.append_nil])
    rw [sessionAfter_concat, answersTo_concat] at h
    exact h
  | cons next waiting =>
    have h : Stage ttl session callers _ _ :=
      .handed (show callers = (answered ++ [caller]) ++ next :: waiting by rw [order, List.append_assoc]; rfl)
    rw [sessionAfter_concat, answersTo_concat] at h
    exact h

/-- A turn leads from a stage to a stage, and there are fewer turns to come. -/
theorem step {turns : Nat} {s : Schedule τ α} (h : Stage ttl session callers turns s) :
    ∃ fewer, fewer ≤ turns - 1 ∧ Stage ttl session callers fewer (s.step ttl) := by
  cases h with
  | @free answered arriving order =>
    cases arriving with
    | nil => exact ⟨0, Nat.zero_le _, .free order⟩
    | cons caller arriving =>
      cases hfresh : (sessionAfter ttl session answered).fresh? ttl with
      | some snapshot =>
        refine ⟨3 * arriving.length, by rw [List.length_cons]; omega, ?_⟩
        have h : Stage ttl session callers _ _ :=
          .free (show callers = (answered ++ [caller]) ++ arriving by rw [order, List.append_assoc]; rfl)
        rw [sessionAfter_concat, answersTo_concat, Session.get_of_fresh hfresh] at h
        simpa only [Schedule.step, List.map_cons, runCaller, hfresh, answer] using h
      | none =>
        refine ⟨3 * arriving.length + 2 * 0 + 1, by rw [List.length_cons]; omega, ?_⟩
        have h : Stage ttl session callers _ _ :=
          .held (show callers = answered ++ caller :: ([] ++ arriving) from order) hfresh
        simpa [Schedule.step, runCaller, enter, hfresh] using h
  | @held answered waiting arriving caller order stale =>
    cases arriving with
    | nil =>
      refine ⟨2 * waiting.length, by simp, ?_⟩
      rw [List.append_nil] at order
      have h : Stage ttl session callers _ _ := release order
      rw [Session.get_of_stale stale] at h
      exact h
    | cons next arriving =>
      refine ⟨3 * arriving.length + 2 * (waiting ++ [next]).length + 1, ?_, ?_⟩
      · rw [List.length_append, List.length_cons, List.length_cons, List.length_nil]
        omega
      · have horder : callers = answered ++ caller :: ((waiting ++ [next]) ++ arriving) := by
          rw [order, List.append_assoc]
          rfl
        have h : Stage ttl session callers _ _ := .held horder stale
        have hstale : ((sessionAfter ttl session answered).began caller.loader).fresh? ttl = none := stale
        simpa [Schedule.step, runCaller, hstale] using h
  | @handed answered waiting caller order =>
    cases hfresh : (sessionAfter ttl session answered).fresh? ttl with
    | some snapshot =>
      refine ⟨2 * waiting.length, by omega, ?_⟩
      have h : Stage ttl session callers _ _ := release order
      rw [Session.get_of_fresh hfresh] at h
      simpa [Schedule.step, runCaller, enter, hfresh] using h
    | none =>
      refine ⟨3 * 0 + 2 * waiting.length + 1, by omega, ?_⟩
      have horder : callers = answered ++ caller :: (waiting ++ []) := by rw [List.append_nil, order]
      have h : Stage ttl session callers _ _ := .held horder hfresh
      simpa [Schedule.step, runCaller, enter, hfresh] using h

theorem run {turns : Nat} {s : Schedule τ α} (h : Stage ttl session callers turns s) (n : Nat) :
    ∃ fewer, fewer ≤ turns - n ∧ Stage ttl session callers fewer (Schedule.run ttl n s) := by
  induction n generalizing turns s with
  | zero => exact ⟨turns, Nat.le_refl _, h⟩
  | succ n ih =>
    obtain ⟨fewer, hfewer, hstep⟩ := h.step
    obtain ⟨left, hleft, hrun⟩ := ih hstep
    exact ⟨left, by omega, hrun⟩

/-- When no turns are to come, everyone has been answered. -/
theorem eq_of_zero {s : Schedule τ α} (h : Stage ttl session callers 0 s) :
    s = ⟨sessionAfter ttl session callers, [], [], false, answersTo ttl session callers⟩ := by
  generalize hturns : 0 = turns at h
  cases h with
  | @free answered arriving order =>
    have hnil : arriving = [] := List.length_eq_zero_iff.mp (by omega)
    subst hnil
    rw [List.append_nil] at order
    rw [order]
    rfl
  | held order stale => exact absurd hturns (by omega)
  | handed order => exact absurd hturns (by omega)

theorem length_loading_le {turns : Nat} {s : Schedule τ α} (h : Stage ttl session callers turns s) :
    s.loading.length ≤ 1 := by
  cases h with
  | free order => simp [loading]
  | held order stale => simp [loading, List.filterMap_map]
  | handed order => simp [loading]

end Stage

/-! ## Whole batches -/

theorem stage_start (ttl : τ) (session : Session τ α) (loaders : List (Loader τ α)) :
    Stage ttl session (loaders.mapIdx Caller.mk) (3 * loaders.length) (start session loaders) := by
  have h : Stage ttl session (loaders.mapIdx Caller.mk) _ _ := .free (List.nil_append _).symm
  have hready : (loaders.mapIdx Caller.mk).map (fun caller => (caller, Phase.arriving)) =
      loaders.mapIdx fun i loader => (⟨i, loader⟩, .arriving) :=
    List.ext_getElem (by simp) (by simp)
  rw [List.length_mapIdx, hready] at h
  exact h

/-- After three turns for every caller, everyone has been answered. -/
theorem run_start (ttl : τ) (session : Session τ α) (loaders : List (Loader τ α)) :
    run ttl (3 * loaders.length) (start session loaders) =
      ⟨sessionAfter ttl session (loaders.mapIdx Caller.mk), [], [], false,
        answersTo ttl session (loaders.mapIdx Caller.mk)⟩ := by
  obtain ⟨left, hleft, h⟩ := (stage_start ttl session loaders).run (3 * loaders.length)
  rw [Nat.sub_self, Nat.le_zero] at hleft
  subst hleft
  exact h.eq_of_zero

theorem length_loading_run (ttl : τ) (session : Session τ α) (loaders : List (Loader τ α)) (turns : Nat) :
    (run ttl turns (start session loaders)).loading.length ≤ 1 := by
  obtain ⟨left, -, h⟩ := (stage_start ttl session loaders).run turns
  exact h.length_loading_le

/-- Results that are filed under different numbers are found under them. -/
theorem filterMap_lookup_zip {β : Type} {keys : List Nat} {values : List β} (hkeys : keys.Nodup)
    (hlength : values.length = keys.length) : keys.filterMap (fun k => (keys.zip values).lookup k) = values := by
  induction keys generalizing values with
  | nil => exact (List.length_eq_zero_iff.mp hlength).symm
  | cons key keys ih =>
    cases values with
    | nil => cases hlength
    | cons value values =>
      obtain ⟨hkey, hrest⟩ := List.nodup_cons.mp hkeys
      have hfound : ∀ k ∈ keys, ((key, value) :: keys.zip values).lookup k = (keys.zip values).lookup k := by
        intro k hk
        have hne : (k == key) = false := beq_eq_false_iff_ne.mpr fun heq => hkey (heq ▸ hk)
        rw [List.lookup_cons, hne]
      rw [List.zip_cons_cons, List.filterMap_cons, List.lookup_cons_self, List.filterMap_congr hfound,
        ih hrest (Nat.succ.inj hlength)]

/-- Callers who come at the same time are answered as if they had come one after another. -/
theorem getAll_eq_inTurn (ttl : τ) (session : Session τ α) (loaders : List (Loader τ α)) :
    getAll ttl session loaders = session.getAll ttl loaders := by
  have hloaders : (loaders.mapIdx Caller.mk).map (·.loader) = loaders :=
    List.ext_getElem (by simp) (by simp)
  have hindices : (loaders.mapIdx Caller.mk).map (·.index) = List.range loaders.length :=
    List.ext_getElem (by simp) (by simp)
  have hresults : (session.getAll ttl loaders).1.length = (List.range loaders.length).length := by
    rw [Session.length_getAll, List.length_range]
  unfold getAll
  rw [run_start]
  unfold answersTo sessionAfter
  dsimp only
  rw [hloaders, hindices, filterMap_lookup_zip List.nodup_range hresults]

end Schedule
end

/-! ## Until the first success -/

/-- The loader does not get a snapshot. -/
def Loader.Fails {τ α : Type} (loader : Loader τ α) : Prop := ∃ fault, loader.result = .error fault

/-- The loaders have run one after another, and nothing was stored. -/
def Session.spent {τ α : Type} [AddMonoid τ] (s : Session τ α) (loaders : List (Loader τ α)) : Session τ α :=
  { s with
    clock := s.clock + (loaders.map (·.takes)).sum
    loads := s.loads ++ loaders.map (·.name) }

/-- The snapshot has just been stored. -/
def Session.storing {τ α : Type} (s : Session τ α) (snapshot : α) : Session τ α :=
  { s with cache := ⟨some (snapshot, s.clock)⟩ }

namespace Session

section
variable {τ α : Type} [AddMonoid τ] {s : Session τ α}

theorem spent_nil (s : Session τ α) : s.spent [] = s := by
  unfold spent
  simp

theorem spent_append (s : Session τ α) (first second : List (Loader τ α)) :
    s.spent (first ++ second) = (s.spent first).spent second := by
  unfold spent
  simp [add_assoc]

theorem ended_of_fails {loader : Loader τ α} (h : loader.Fails) :
    (s.began loader).ended loader = s.spent [loader] := by
  obtain ⟨fault, hfault⟩ := h
  unfold ended began spent
  simp [hfault]

theorem ended_of_ok {loader : Loader τ α} {snapshot : α} (h : loader.result = .ok snapshot) :
    (s.began loader).ended loader = (s.spent [loader]).storing snapshot := by
  unfold ended began spent storing
  simp [h]

end

section
variable {τ α : Type} [AddCommGroup τ] [LinearOrder τ] {ttl : τ} {s : Session τ α}

/-- A snapshot that was just stored is fresh. -/
theorem fresh_storing (httl : 0 < ttl) (s : Session τ α) (snapshot : α) :
    (s.storing snapshot).fresh? ttl = some snapshot := by
  unfold fresh? Cache.fresh? storing
  simp [httl]

variable [IsOrderedAddMonoid τ]

/-- What is not fresh does not become so by waiting. -/
theorem stale_spent (h : s.fresh? ttl = none) {loader : Loader τ α} (htakes : 0 ≤ loader.takes) :
    (s.spent [loader]).fresh? ttl = none := by
  unfold fresh? Cache.fresh? spent at *
  dsimp only at *
  cases hstored : s.cache.stored with
  | none => rfl
  | some stored =>
    obtain ⟨snapshot, loadedAt⟩ := stored
    rw [hstored] at h
    have hage : ¬s.clock - loadedAt < ttl := by
      intro hlt
      simp [hlt] at h
    have hlater : ¬s.clock + loader.takes - loadedAt < ttl := by
      rw [not_lt] at hage ⊢
      exact hage.trans (sub_le_sub_right (le_add_of_nonneg_right htakes) loadedAt)
    simpa using hlater

theorem getAll_of_fails (h : s.fresh? ttl = none) {loaders : List (Loader τ α)}
    (hfails : ∀ loader ∈ loaders, loader.Fails) (htakes : ∀ loader ∈ loaders, 0 ≤ loader.takes) :
    s.getAll ttl loaders = (loaders.map (·.result), s.spent loaders) ∧
      (s.spent loaders).fresh? ttl = none := by
  induction loaders generalizing s with
  | nil =>
    rw [spent_nil]
    exact ⟨rfl, h⟩
  | cons loader loaders ih =>
    obtain ⟨hrest, hstale⟩ := ih (stale_spent h (htakes loader List.mem_cons_self))
      (fun l hl => hfails l (List.mem_cons_of_mem loader hl)) (fun l hl => htakes l (List.mem_cons_of_mem loader hl))
    have hspent : s.spent (loader :: loaders) = (s.spent [loader]).spent loaders := spent_append s [loader] loaders
    rw [hspent]
    refine ⟨?_, hstale⟩
    rw [getAll_cons, get_of_stale h, ended_of_fails (hfails loader List.mem_cons_self), hrest]
    rfl

theorem getAll_of_success (httl : 0 < ttl) (h : s.fresh? ttl = none) {failing later : List (Loader τ α)}
    {good : Loader τ α} {snapshot : α} (hfails : ∀ loader ∈ failing, loader.Fails)
    (htakes : ∀ loader ∈ failing, 0 ≤ loader.takes) (hgood : good.result = .ok snapshot) :
    s.getAll ttl (failing ++ good :: later) =
      (failing.map (·.result) ++ .ok snapshot :: later.map fun _ => .ok snapshot,
        (s.spent (failing ++ [good])).storing snapshot) := by
  obtain ⟨hfailing, hstale⟩ := getAll_of_fails h hfails htakes
  rw [getAll_append, hfailing]
  dsimp only
  rw [getAll_cons, get_of_stale hstale, ended_of_ok hgood, getAll_of_fresh (fresh_storing httl _ snapshot), hgood,
    spent_append]

end

end Session

/-- Callers who come at the same time get what they would get one after another, and leave the same cache, clock
and record of loads; at no time do two loaders run, and in the end nobody is left and the lock is free. If nothing
fresh is stored and time passes, the loaders run in order up to the first that succeeds: those before it get their
own faults, those behind it its snapshot. -/
theorem getAll_at_once {τ α : Type} [AddCommGroup τ] [LinearOrder τ] [IsOrderedAddMonoid τ] (ttl : τ)
    (session : Session τ α) (loaders : List (Loader τ α)) :
    (∀ turns, (Schedule.run ttl turns (Schedule.start session loaders)).loading.length ≤ 1) ∧
    ((Schedule.run ttl (3 * loaders.length) (Schedule.start session loaders)).ready = [] ∧
      (Schedule.run ttl (3 * loaders.length) (Schedule.start session loaders)).waiting = [] ∧
      (Schedule.run ttl (3 * loaders.length) (Schedule.start session loaders)).locked = false) ∧
    Schedule.getAll ttl session loaders = session.getAll ttl loaders ∧
    (0 < ttl → session.fresh? ttl = none → (∀ loader ∈ loaders, 0 ≤ loader.takes) →
      (∀ failing good snapshot later, loaders = failing ++ good :: later →
        (∀ loader ∈ failing, loader.Fails) → good.result = .ok snapshot →
        Schedule.getAll ttl session loaders =
          (failing.map (·.result) ++ .ok snapshot :: later.map fun _ => .ok snapshot,
            (session.spent (failing ++ [good])).storing snapshot)) ∧
      ((∀ loader ∈ loaders, loader.Fails) →
        Schedule.getAll ttl session loaders = (loaders.map (·.result), session.spent loaders))) := by
  have hsame := Schedule.getAll_eq_inTurn ttl session loaders
  refine ⟨Schedule.length_loading_run ttl session loaders, ?_, hsame,
    fun httl hstale htakes => ⟨?_, fun hfails => ?_⟩⟩
  · rw [Schedule.run_start]
    exact ⟨rfl, rfl, rfl⟩
  · rintro failing good snapshot later rfl hfails hgood
    rw [hsame]
    exact Session.getAll_of_success httl hstale hfails (fun l hl => htakes l (List.mem_append_left _ hl)) hgood
  · rw [hsame]
    exact (Session.getAll_of_fails hstale hfails htakes).1

/-- Three callers, of whom the first fails. -/
def threeCallers : List (Loader Int String) :=
  [⟨"a", 2, .error ⟨.introspection, "gone"⟩⟩, ⟨"b", 3, .ok "B"⟩, ⟨"c", 1, .ok "C"⟩]

theorem getAll_at_once_threeCallers :
    Schedule.getAll (5 : Int) { clock := 1 } threeCallers =
      ([.error ⟨.introspection, "gone"⟩, .ok "B", .ok "B"], ⟨⟨some ("B", 6)⟩, 6, ["a", "b"]⟩) := by
  have htakes : ∀ loader ∈ threeCallers, 0 ≤ loader.takes := by decide
  have hfails : ∀ loader ∈ threeCallers.take 1, loader.Fails := by
    intro loader hloader
    rw [List.mem_singleton.mp hloader]
    exact ⟨_, rfl⟩
  exact ((getAll_at_once (5 : Int) { clock := 1 } threeCallers).2.2.2 (by decide) rfl htakes).1 _ _ _
    (threeCallers.drop 2) rfl hfails rfl

end TenderQuery.Schema
