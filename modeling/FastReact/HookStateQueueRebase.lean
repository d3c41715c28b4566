import FastReact.HookStateQueuePass

namespace FastReact

open EStateM.Result ErrorState HookQueueStore HookRevertLane HookUpdateDispatchMetadata LinkChain LinkedArena List RebaseQueue

/-!
# Rebasing hook updates over whole runs

A slot is created, updates are appended and render passes run in any order.
Whatever lanes a pass renders, replaying the actions of the remaining base ring
on the base state gives the state of all actions appended so far in their order.
The invariant ties base state and the two rings to that history; eager states
stay harmless because only the first waiting update can carry one.
-/

variable {State Action ReducerId DispatchId : Type}

/-- Create an update and append it to the queue of the held slot. -/
def appendFreshUpdate (metadata : HookUpdateDispatchMetadata Action State) :
    HookSlotM State Action ReducerId DispatchId Unit := do
  let (_, slot) ← get
  let id ← onStore (createUpdateFromDispatchMetadata metadata)
  onStore (appendPendingUpdate slot.queue id)

structure SlotView (store : HookQueueStore State Action ReducerId DispatchId)
    (slot : HookStateSlot State) (entry : HookQueue State ReducerId DispatchId)
    (baseIds pendingIds : List HookUpdateId)
    (base pending : List (HookUpdateDispatchMetadata Action State)) : Prop where
  found : store.queues.get? slot.queue = some entry
  baseRing : store.updates.HoldsRing slot.baseQueue baseIds base
  pendingRing : store.updates.HoldsRing entry.pending pendingIds pending
  disjoint : baseIds.Disjoint pendingIds

namespace SlotView

variable {store : HookQueueStore State Action ReducerId DispatchId} {slot : HookStateSlot State}
  {entry : HookQueue State ReducerId DispatchId} {baseIds pendingIds : List HookUpdateId}
  {base pending : List (HookUpdateDispatchMetadata Action State)}

theorem run_createStateSlot (store : HookQueueStore State Action ReducerId DispatchId)
    (initialState : State) :
    ∃ queue after,
      (createStateSlot initialState).run store = .ok (HookStateSlot.new initialState queue) after ∧
      SlotView after (HookStateSlot.new initialState queue)
        (HookQueue.new initialState) [] [] [] [] := by
  refine ⟨(store.queues.insert (HookQueue.new initialState)).1,
    { store with queues := (store.queues.insert (HookQueue.new initialState)).2 },
    rfl, ?_, ⟨rfl, rfl⟩, ⟨rfl, rfl⟩, by simp⟩
  exact SlotArena.get?_insert_self _ _

section

variable (view : SlotView store slot entry baseIds pendingIds base pending)
include view

theorem run_appendFreshUpdate (metadata : HookUpdateDispatchMetadata Action State) :
    ∃ after id,
      (appendFreshUpdate metadata).run (store, slot) = .ok () (after, slot) ∧
      SlotView after slot { entry with pending := some id }
        baseIds (pendingIds ++ [id]) base (pending ++ [metadata]) := by
  obtain ⟨id, allocated, inserted, idNew, idFound, sameQueues, allocatedKept⟩ :=
    run_insertUpdate store (HookUpdate.fromMetadata metadata)
  have allocatedQueue : allocated.queues.get? slot.queue = some entry := by
    rw [sameQueues]
    exact view.found
  have allocatedPending := view.pendingRing.of_extends allocatedKept (disjoint_nil_right _)
  obtain ⟨after, appended, afterFound, -, afterKept, afterPending⟩ :=
    run_appendPendingUpdate allocatedQueue allocatedPending idFound rfl
  have idNotBase : id ∉ baseIds := view.baseRing.holds.not_mem_of_new idNew
  have disjointAfter : baseIds.Disjoint (pendingIds ++ [id]) := by
    rw [disjoint_append_right]
    exact ⟨view.disjoint, by simpa using idNotBase⟩
  refine ⟨after, id, ?_, afterFound, ?_, afterPending, disjointAfter⟩
  · simp only [appendFreshUpdate, createUpdateFromDispatchMetadata, run_bind,
      run_get, onStore, run_focus, inserted, appended]
  · exact (view.baseRing.of_extends allocatedKept (disjoint_nil_right _)).of_extends
      afterKept disjointAfter

/-- A pass leaves exactly the retained updates in the base ring. -/
theorem run_pass (renderLanes rootRenderLanes : Lanes) (reducer : State → Action → State)
    {outcome : HookPassOutcome Action State}
    (shape : outcome = hookPassOutcome renderLanes rootRenderLanes reducer
      slot.baseState (base ++ pending)) :
    ∃ after tail retainedIds,
      (processUpdateQueue renderLanes rootRenderLanes reducer).run (store, slot) =
        .ok (outcome.result tail) (after, outcome.slot slot tail) ∧
      SlotView after (outcome.slot slot tail) (outcome.queue entry (base ++ pending))
        retainedIds [] outcome.retained [] := by
  obtain ⟨after, tail, retainedIds, ran, refines⟩ :=
    run_processUpdateQueue view.found view.baseRing view.pendingRing view.disjoint shape
  refine ⟨after, tail, retainedIds, ran, refines.queue, refines.ring, ?_, by simp⟩
  have noPending : (outcome.queue entry (base ++ pending)).pending = none := by
    unfold HookPassOutcome.queue
    split
    · rename_i noUpdates
      rw [List.isEmpty_iff, List.append_eq_nil_iff] at noUpdates
      exact view.pendingRing.eq_none_iff.mpr noUpdates.2
    · rfl
  rw [noPending]
  exact ⟨rfl, rfl⟩

end

end SlotView

/-- The effect of replaying an action. -/
def replay (reducer : State → Action → State) (state : State)
    (update : HookUpdateDispatchMetadata Action State) : State :=
  reducer state update.action

def NothingWaits (held : HookQueueStore State Action ReducerId DispatchId × HookStateSlot State) :
    Prop :=
  held.2.baseQueue = none ∧
    ∃ entry, held.1.queues.get? held.2.queue = some entry ∧ entry.pending = none

/-- The runs of one slot: it is created in any store, fresh updates without revert
lane are appended, and passes run with equal render lanes and root render lanes.
An eager state is absent or was computed while nothing waited.  The list holds
the actions appended so far. -/
inductive SlotRun (reducer : State → Action → State) (initialState : State) :
    List Action →
    HookQueueStore State Action ReducerId DispatchId × HookStateSlot State → Prop where
  | create {store after : HookQueueStore State Action ReducerId DispatchId}
      {slot : HookStateSlot State}
      (ran : (createStateSlot initialState).run store = .ok slot after) :
      SlotRun reducer initialState [] (after, slot)
  | append {history : List Action}
      {held after : HookQueueStore State Action ReducerId DispatchId × HookStateSlot State}
      (lane : HookUpdateLane) (action : Action) (eagerState : Option State)
      (earlier : SlotRun reducer initialState history held)
      (eager : eagerState = none ∨
        NothingWaits held ∧ eagerState = some (reducer held.2.memoizedState action))
      (ran : (appendFreshUpdate ⟨lane, HookRevertLane.no, action, eagerState⟩).run held =
        .ok () after) :
      SlotRun reducer initialState (history ++ [action]) after
  | pass {history : List Action}
      {held after : HookQueueStore State Action ReducerId DispatchId × HookStateSlot State}
      {result : ProcessHookQueueResult State} (renderLanes : Lanes)
      (earlier : SlotRun reducer initialState history held)
      (ran : (processUpdateQueue renderLanes renderLanes reducer).run held =
        .ok result after) :
      SlotRun reducer initialState history after

/-- Updates without revert lane of which only the first may have an eager state,
and that one is what the reducer gives on the base state. -/
structure Replayable (reducer : State → Action → State) (baseState : State)
    (updates : List (HookUpdateDispatchMetadata Action State)) : Prop where
  noRevert : ∀ update ∈ updates, update.revertLane = HookRevertLane.no
  eagerHead :
    ∀ update rest, updates = update :: rest →
      ∀ eagerState, update.eagerState = some eagerState →
        eagerState = reducer baseState update.action
  noEagerTail :
    ∀ update rest, updates = update :: rest →
      ∀ later ∈ rest, later.eagerState = none

section Replay

variable {renderLanes rootRenderLanes : Lanes} {reducer : State → Action → State}
  {baseState : State} {update : HookUpdateDispatchMetadata Action State}
  {updates : List (HookUpdateDispatchMetadata Action State)}

theorem isDeferred_eq_of_noRevert (noRevert : update.revertLane = no) :
    (update.isDeferred renderLanes rootRenderLanes = true ∧
      update.fate renderLanes rootRenderLanes = .skipped) ∨
    (update.isDeferred renderLanes rootRenderLanes = false ∧
      update.fate renderLanes rootRenderLanes = .applied) := by
  have empty : update.revertLane.isEmpty = true := by
    rw [noRevert]
    rfl
  unfold isDeferred fate
  rw [empty]
  cases update.lane.priorityLanes.isSubsetOf (update.laneScope renderLanes rootRenderLanes) <;> simp

/-- The copy of an update without revert lane keeps its action, its eager state
and its missing revert lane. -/
theorem exists_retain?_of_noRevert (noRevert : update.revertLane = no) :
    ∃ copy, update.retain? renderLanes rootRenderLanes = some copy ∧
      copy.action = update.action ∧
      copy.eagerState = update.eagerState ∧
      copy.revertLane = no := by
  unfold retain?
  rcases isDeferred_eq_of_noRevert noRevert with ⟨-, shape⟩ | ⟨-, shape⟩
  · rw [shape]
    exact ⟨_, rfl, rfl, rfl, noRevert⟩
  · rw [shape]
    exact ⟨_, rfl, rfl, rfl, rfl⟩

theorem foldl_effect_of_noEager (noRevert : ∀ update ∈ updates, update.revertLane = no)
    (noEager : ∀ update ∈ updates, update.eagerState = none)
    (inScope : ∀ update ∈ updates, update.isDeferred renderLanes rootRenderLanes = false) :
    updates.foldl (effect renderLanes rootRenderLanes reducer) baseState =
      updates.foldl (replay reducer) baseState := by
  induction updates generalizing baseState with
  | nil => rfl
  | cons head rest ih =>
    have headEffect : head.effect renderLanes rootRenderLanes reducer baseState =
        replay reducer baseState head := by
      rcases isDeferred_eq_of_noRevert (noRevert head (by simp)) with
        ⟨deferred, -⟩ | ⟨-, shape⟩
      · rw [inScope head (by simp)] at deferred
        exact absurd deferred Bool.false_ne_true
      · simp [effect, shape, replay, noEager head (by simp)]
    rw [foldl_cons, foldl_cons, headEffect]
    exact ih
      (fun update member => noRevert update (by simp [member]))
      (fun update member => noEager update (by simp [member]))
      (fun update member => inScope update (by simp [member]))

theorem Replayable.foldl_effect (replayable : Replayable reducer baseState updates)
    {applied rest : List (HookUpdateDispatchMetadata Action State)}
    (shape : updates = applied ++ rest)
    (inScope : ∀ update ∈ applied, update.isDeferred renderLanes rootRenderLanes = false) :
    applied.foldl (effect renderLanes rootRenderLanes reducer) baseState =
      applied.foldl (replay reducer) baseState := by
  cases applied with
  | nil => rfl
  | cons head others =>
    have headEffect : head.effect renderLanes rootRenderLanes reducer baseState =
        replay reducer baseState head := by
      rcases isDeferred_eq_of_noRevert
          (replayable.noRevert head (by simp [shape])) with
        ⟨deferred, -⟩ | ⟨-, fateShape⟩
      · rw [inScope head (by simp)] at deferred
        exact absurd deferred Bool.false_ne_true
      · simp only [effect, fateShape, replay]
        cases eagerShape : head.eagerState with
        | none => rfl
        | some eagerState =>
          exact replayable.eagerHead head (others ++ rest) (by simp [shape]) eagerState eagerShape
    rw [foldl_cons, foldl_cons, headEffect]
    refine foldl_effect_of_noEager ?_ ?_ ?_
    · exact fun update member => replayable.noRevert update (by simp [shape, member])
    · exact fun update member =>
        replayable.noEagerTail head (others ++ rest) (by simp [shape]) update (by simp [member])
    · exact fun update member => inScope update (by simp [member])

/-- The copy a pass keeps of an update. -/
def retainedCopy (renderLanes rootRenderLanes : Lanes)
    (update : HookUpdateDispatchMetadata Action State) : HookUpdateDispatchMetadata Action State :=
  (update.retain? renderLanes rootRenderLanes).getD update

section

variable (update : HookUpdateDispatchMetadata Action State)

theorem retainedCopy_action :
    (retainedCopy renderLanes rootRenderLanes update).action = update.action := by
  unfold retainedCopy retain?
  cases update.fate renderLanes rootRenderLanes <;> rfl

theorem retainedCopy_eagerState :
    (retainedCopy renderLanes rootRenderLanes update).eagerState = update.eagerState := by
  unfold retainedCopy retain?
  cases update.fate renderLanes rootRenderLanes <;> rfl

end

theorem retainedCopy_revertLane (noRevert : update.revertLane = no) :
    (retainedCopy renderLanes rootRenderLanes update).revertLane = no := by
  obtain ⟨copy, retained, -, -, copyNoRevert⟩ := exists_retain?_of_noRevert noRevert
  rw [retainedCopy, retained]
  exact copyNoRevert

theorem retainedUpdates_eq_map (renderLanes rootRenderLanes : Lanes)
    (noRevert : ∀ update ∈ updates, update.revertLane = no) :
    retainedUpdates renderLanes rootRenderLanes updates =
      (postponed (isDeferred renderLanes rootRenderLanes) updates).map
        (retainedCopy renderLanes rootRenderLanes) := by
  have copied : ∀ update ∈ postponed (isDeferred renderLanes rootRenderLanes) updates,
      update.retain? renderLanes rootRenderLanes =
        some (retainedCopy renderLanes rootRenderLanes update) := by
    intro update member
    have present : update ∈ updates := by
      rw [← settled_append_postponed (isDeferred renderLanes rootRenderLanes) updates]
      exact mem_append_right _ member
    obtain ⟨copy, copied, -⟩ := exists_retain?_of_noRevert (noRevert update present)
    rw [retainedCopy, copied]
    rfl
  unfold retainedUpdates
  rw [filterMap_congr copied]
  exact congrFun filterMap_eq_map _

theorem Replayable.postponed_copies (replayable : Replayable reducer baseState updates) :
    Replayable reducer
      ((settled (isDeferred renderLanes rootRenderLanes) updates).foldl (replay reducer) baseState)
      ((postponed (isDeferred renderLanes rootRenderLanes) updates).map
        (retainedCopy renderLanes rootRenderLanes)) := by
  have parts := settled_append_postponed (isDeferred renderLanes rootRenderLanes) updates
  generalize settled (isDeferred renderLanes rootRenderLanes) updates = before at parts ⊢
  generalize postponed (isDeferred renderLanes rootRenderLanes) updates = behind at parts ⊢
  -- Behind a settled update nothing has an eager state.
  have noEagerBehind : before ≠ [] → ∀ update ∈ behind, update.eagerState = none := by
    intro someSettled update member
    obtain ⟨head, rest, rfl⟩ := exists_cons_of_ne_nil someSettled
    exact replayable.noEagerTail head (rest ++ behind) (by simp [← parts]) update (by simp [member])
  refine ⟨?_, ?_, ?_⟩
  · intro update member
    obtain ⟨original, present, rfl⟩ := mem_map.mp member
    exact retainedCopy_revertLane (replayable.noRevert original (by simp [← parts, present]))
  · intro update rest shape eagerState eagerShape
    obtain ⟨original, others, rfl, rfl, -⟩ := map_eq_cons_iff.mp shape
    rw [retainedCopy_eagerState] at eagerShape
    rw [retainedCopy_action]
    by_cases someSettled : before = []
    · subst before
      exact replayable.eagerHead original others (by simpa using parts.symm) eagerState eagerShape
    · rw [noEagerBehind someSettled original (by simp)] at eagerShape
      exact absurd eagerShape.symm (Option.some_ne_none eagerState)
  · intro update rest shape later member
    obtain ⟨original, others, rfl, rfl, rfl⟩ := map_eq_cons_iff.mp shape
    obtain ⟨laterOriginal, present, rfl⟩ := mem_map.mp member
    rw [retainedCopy_eagerState]
    by_cases someSettled : before = []
    · subst before
      exact replayable.noEagerTail original others (by simpa using parts.symm) laterOriginal present
    · exact noEagerBehind someSettled laterOriginal (by simp [present])

theorem Replayable.outcome (replayable : Replayable reducer baseState updates)
    {outcome : HookPassOutcome Action State}
    (shape : outcome = hookPassOutcome renderLanes rootRenderLanes reducer baseState updates) :
    Replayable reducer outcome.baseState outcome.retained ∧
      outcome.retained.foldl (replay reducer) outcome.baseState =
        updates.foldl (replay reducer) baseState ∧
      (outcome.retained = [] → outcome.state = outcome.baseState) := by
  subst outcome
  have parts := settled_append_postponed (isDeferred renderLanes rootRenderLanes) updates
  have retainedShape := retainedUpdates_eq_map renderLanes rootRenderLanes replayable.noRevert
  have baseStateShape :
      (hookPassOutcome renderLanes rootRenderLanes reducer baseState updates).baseState =
        (settled (isDeferred renderLanes rootRenderLanes) updates).foldl
          (replay reducer) baseState :=
    replayable.foldl_effect parts.symm fun update member => not_deferred_of_mem_settled member
  have keepsReplayable : Replayable reducer
      (hookPassOutcome renderLanes rootRenderLanes reducer baseState updates).baseState
      (retainedUpdates renderLanes rootRenderLanes updates) := by
    rw [baseStateShape, retainedShape]
    exact replayable.postponed_copies
  refine ⟨keepsReplayable, ?_, ?_⟩
  · rw [baseStateShape]
    change (retainedUpdates renderLanes rootRenderLanes updates).foldl _ _ = _
    rw [retainedShape]
    refine foldl_replay ?_ baseState updates
    intro state update
    simp only [replay, retainedCopy_action]
  · intro nothing
    have nothingPostponed := retainedUpdates_eq_nil_iff.mp nothing
    simp only [hookPassOutcome, settled_eq_self nothingPostponed]

end Replay

/-- What relates a slot to the actions appended to it: replaying what waits on the
base state gives the state of the whole history. -/
structure RebaseInvariant (reducer : State → Action → State) (initialState : State)
    (history : List Action) (slot : HookStateSlot State)
    (base pending : List (HookUpdateDispatchMetadata Action State)) : Prop where
  replayable : Replayable reducer slot.baseState (base ++ pending)
  replayed :
    (base ++ pending).foldl (replay reducer) slot.baseState =
      history.foldl reducer initialState
  idle : base = [] → slot.memoizedState = slot.baseState

namespace RebaseInvariant

variable {reducer : State → Action → State} {initialState : State} {history : List Action}
  {slot : HookStateSlot State} {base pending : List (HookUpdateDispatchMetadata Action State)}

theorem append (invariant : RebaseInvariant reducer initialState history slot base pending)
    (lane : HookUpdateLane) (action : Action) {eagerState : Option State}
    (eager : eagerState = none ∨
      base = [] ∧ pending = [] ∧ eagerState = some (reducer slot.memoizedState action)) :
    RebaseInvariant reducer initialState (history ++ [action]) slot base
      (pending ++ [⟨lane, no, action, eagerState⟩]) where
  replayable := by
    rw [← append_assoc]
    have replayable := invariant.replayable
    refine ⟨?_, ?_, ?_⟩
    · intro update member
      rcases mem_append.mp member with old | new
      · exact replayable.noRevert update old
      · rw [mem_singleton.mp new]
    · intro update rest shape value valueShape
      cases waiting : base ++ pending with
      | nil =>
        rw [waiting] at shape
        obtain ⟨rfl, -⟩ := List.cons.inj shape
        rcases eager with absent | ⟨noBase, -, computed⟩
        · exact absurd (absent.symm.trans valueShape) (Option.some_ne_none value).symm
        · rw [← invariant.idle noBase]
          exact (Option.some.inj (computed.symm.trans valueShape)).symm
      | cons head others =>
        rw [waiting] at shape
        obtain ⟨rfl, -⟩ := List.cons.inj shape
        exact replayable.eagerHead head others waiting value valueShape
    · intro update rest shape later member
      cases waiting : base ++ pending with
      | nil =>
        rw [waiting] at shape
        obtain ⟨-, rfl⟩ := List.cons.inj shape
        exact absurd member not_mem_nil
      | cons head others =>
        rw [waiting] at shape
        obtain ⟨-, rfl⟩ := List.cons.inj shape
        rcases mem_append.mp member with old | new
        · exact replayable.noEagerTail head others waiting later old
        · rw [mem_singleton.mp new]
          rcases eager with absent | ⟨noBase, noPending, -⟩
          · exact absent
          · simp [noBase, noPending] at waiting
  replayed := by
    rw [← append_assoc, foldl_append, invariant.replayed]
    simp [replay]
  idle := invariant.idle

theorem pass (invariant : RebaseInvariant reducer initialState history slot base pending)
    (renderLanes rootRenderLanes : Lanes) (tail : Option HookUpdateId)
    {outcome : HookPassOutcome Action State}
    (shape : outcome = hookPassOutcome renderLanes rootRenderLanes reducer
      slot.baseState (base ++ pending)) :
    RebaseInvariant reducer initialState history (outcome.slot slot tail) outcome.retained [] := by
  obtain ⟨replayable, sameEffect, idle⟩ := invariant.replayable.outcome shape
  refine ⟨?_, ?_, idle⟩
  · rw [append_nil]
    exact replayable
  · rw [append_nil]
    exact sameEffect.trans invariant.replayed

end RebaseInvariant

theorem SlotRun.invariant {reducer : State → Action → State} {initialState : State}
    {history : List Action}
    {held : HookQueueStore State Action ReducerId DispatchId × HookStateSlot State}
    (run : SlotRun reducer initialState history held) :
    ∃ entry baseIds pendingIds base pending,
      SlotView held.1 held.2 entry baseIds pendingIds base pending ∧
      RebaseInvariant reducer initialState history held.2 base pending := by
  induction run with
  | @create store after slot ran =>
    obtain ⟨queue, created, ranCreate, view⟩ := SlotView.run_createStateSlot store initialState
    obtain ⟨rfl, rfl⟩ := ok.inj (ran.symm.trans ranCreate)
    refine ⟨_, _, _, _, _, view, ⟨⟨by simp, by simp, by simp⟩, rfl, fun _ => rfl⟩⟩
  | @append history held after lane action eagerState earlier eager ran
      ih =>
      obtain ⟨entry, baseIds, pendingIds, base, pending, view, invariant⟩ := ih
      obtain ⟨appended, id, ranAppend, viewAfter⟩ :=
        view.run_appendFreshUpdate ⟨lane, no, action, eagerState⟩
      obtain ⟨-, rfl⟩ := ok.inj (ran.symm.trans ranAppend)
      refine ⟨_, _, _, _, _, viewAfter, invariant.append lane action ?_⟩
      rcases eager with absent | ⟨⟨noBase, entry', found, noPending⟩, computed⟩
      · exact .inl absent
      · obtain rfl := Option.some.inj (view.found.symm.trans found)
        exact .inr ⟨view.baseRing.eq_none_iff.mp noBase,
          view.pendingRing.eq_none_iff.mp noPending, computed⟩
  | @pass history held after result renderLanes earlier ran ih =>
    obtain ⟨entry, baseIds, pendingIds, base, pending, view, invariant⟩ := ih
    obtain ⟨swept, tail, retainedIds, ranPass, viewAfter⟩ :=
      view.run_pass renderLanes renderLanes reducer rfl
    obtain ⟨-, rfl⟩ := ok.inj (ran.symm.trans ranPass)
    exact ⟨_, _, _, _, _, viewAfter, invariant.pass renderLanes renderLanes tail rfl⟩

/-- In every run, appending succeeds, and a pass succeeds and leaves a base ring
whose actions, replayed on the base state, give the state of all actions appended
before the pass; without a base ring that is the memoized state. -/
theorem SlotRun.rebase
    (reducer : State → Action → State)
    (initialState : State)
    (history : List Action)
    (held : HookQueueStore State Action ReducerId DispatchId × HookStateSlot State)
    (run : SlotRun reducer initialState history held) :
    (∀ metadata, ∃ after, (appendFreshUpdate metadata).run held = .ok () after) ∧
    ∀ renderLanes, ∃ result store slot ids updates,
      (processUpdateQueue renderLanes renderLanes reducer).run held =
        .ok result (store, slot) ∧
      store.updateRing slot.baseQueue = .ok ids ∧
      store.updates.Holds ids updates ∧
      (updates.map (·.action)).foldl reducer slot.baseState =
        history.foldl reducer initialState ∧
      (slot.baseQueue = none →
        slot.memoizedState = history.foldl reducer initialState) := by
  obtain ⟨entry, baseIds, pendingIds, base, pending, view, invariant⟩ := run.invariant
  constructor
  · intro metadata
    obtain ⟨after, id, ran, -⟩ := view.run_appendFreshUpdate metadata
    exact ⟨(after, held.2), ran⟩
  · intro renderLanes
    obtain ⟨after, tail, retainedIds, ran, viewAfter⟩ :=
      view.run_pass renderLanes renderLanes reducer rfl
    have invariantAfter := invariant.pass renderLanes renderLanes tail rfl
    have replayed := invariantAfter.replayed
    rw [append_nil] at replayed
    refine ⟨_, after, _, retainedIds, _, ran, updateRing_eq_ok viewAfter.baseRing,
      viewAfter.baseRing.holds, ?_, ?_⟩
    · rw [foldl_map]
      exact replayed
    · intro noBase
      have nothing := viewAfter.baseRing.eq_none_iff.mp noBase
      rw [invariantAfter.idle nothing, ← replayed, nothing]
      rfl

/-- A run with one eager update of a single lane. -/
theorem SlotRun.rebase_sample :
    ∃ held : HookQueueStore Nat Nat Unit Unit × HookStateSlot Nat,
      SlotRun (· + ·) 1 [4] held ∧
      (∀ metadata, ∃ after, (appendFreshUpdate metadata).run held = .ok () after) ∧
      ∀ renderLanes, ∃ result store slot ids updates,
        (processUpdateQueue renderLanes renderLanes (· + ·)).run held =
          .ok result (store, slot) ∧
        store.updateRing slot.baseQueue = .ok ids ∧
        store.updates.Holds ids updates ∧
        (updates.map (·.action)).foldl (· + ·) slot.baseState = 5 ∧
        (slot.baseQueue = none → slot.memoizedState = 5) := by
  obtain ⟨queue, store, ranCreate, view⟩ :=
    SlotView.run_createStateSlot
      (HookQueueStore.new : HookQueueStore Nat Nat Unit Unit) 1
  have created : SlotRun (· + ·) 1 ([] : List Nat) (store, HookStateSlot.new 1 queue) :=
    .create ranCreate
  obtain ⟨after, id, ranAppend, -⟩ := view.run_appendFreshUpdate
    ⟨⟨Lanes.sync, HookUpdateLane.accepts_sync⟩, no, 4, some 5⟩
  have appended : SlotRun (· + ·) 1 [4] (after, HookStateSlot.new 1 queue) :=
    .append _ 4 (some 5) created (.inr ⟨⟨rfl, _, view.found, rfl⟩, rfl⟩) ranAppend
  exact ⟨_, appended, SlotRun.rebase (· + ·) 1 [4] _ appended⟩

end FastReact
