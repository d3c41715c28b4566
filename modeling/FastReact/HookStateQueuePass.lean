import FastReact.HookStateQueueRings
import FastReact.RebaseQueue

namespace FastReact

open ErrorState HookQueuePass HookUpdateLane Lanes LinkChain LinkedArena List RebaseQueue

/-!
# What a render pass does to a list of updates

The pass is described on lists first: every update has a fate that depends on
its lanes and the render lanes only, and state, base state, retained updates,
remaining lanes and counts are closed expressions in the fates.  The pass over
the arena is then shown to compute exactly these and to leave a ring that holds
exactly the retained updates.
-/

variable {State Action ReducerId DispatchId : Type}

inductive HookUpdateFate where
  /-- Out of scope: kept for a later pass. -/
  | skipped
  /-- In scope and without a revert lane. -/
  | applied
  /-- In scope with a revert lane that is rendered now. -/
  | reverted
  /-- In scope with a revert lane that is not rendered yet. -/
  | optimistic
deriving Repr, DecidableEq

namespace HookUpdateLane

theorem accepts_priorityLanes (lane : HookUpdateLane) : accepts lane.priorityLanes = true := by
  obtain ⟨lanes, accepted⟩ := lane
  have idempotent : (lanes.removeLane Lane.offscreen).removeLane Lane.offscreen =
      lanes.removeLane Lane.offscreen := by
    apply ext_index
    intro index
    simp
  have noOffscreen :
      (lanes.removeLane Lane.offscreen).containsLane Lane.offscreen = false := by
    simp [containsLane, removeLane, BitVec.and_assoc]
  unfold priorityLanes accepts at *
  simp only [idempotent, noOffscreen] at accepted ⊢
  cases empty : (lanes.removeLane Lane.offscreen).isEmpty with
  | true => rfl
  | false =>
    rw [empty] at accepted
    exact accepted

def priority (lane : HookUpdateLane) : HookUpdateLane where
  lanes := lane.priorityLanes
  accepted := lane.accepts_priorityLanes

theorem fromLanes_priorityLanes (lane : HookUpdateLane) :
    fromLanes lane.priorityLanes = .ok lane.priority := by
  simp [fromLanes, new, lane.accepts_priorityLanes, priority]

end HookUpdateLane

namespace HookUpdateDispatchMetadata

def laneScope (renderLanes rootRenderLanes : Lanes)
    (update : HookUpdateDispatchMetadata Action State) : Lanes :=
  if update.lane.isHidden then rootRenderLanes else renderLanes

def fate (renderLanes rootRenderLanes : Lanes)
    (update : HookUpdateDispatchMetadata Action State) : HookUpdateFate :=
  if !update.lane.priorityLanes.isSubsetOf
      (update.laneScope renderLanes rootRenderLanes) then
    .skipped
  else if update.revertLane.isEmpty then
    .applied
  else if renderLanes.containsLane update.revertLane.lane then
    .reverted
  else
    .optimistic

/-- Skipped and optimistic updates start the retained part. -/
def isDeferred (renderLanes rootRenderLanes : Lanes)
    (update : HookUpdateDispatchMetadata Action State) : Bool :=
  match update.fate renderLanes rootRenderLanes with
  | .skipped | .optimistic => true
  | .applied | .reverted => false

def effect (renderLanes rootRenderLanes : Lanes) (reducer : State → Action → State) (state : State)
    (update : HookUpdateDispatchMetadata Action State) : State :=
  match update.fate renderLanes rootRenderLanes with
  | .skipped | .reverted => state
  | .applied => update.eagerState.getD (reducer state update.action)
  | .optimistic => reducer state update.action

/-- The copy of an update that is kept in the retained part. -/
def retain? (renderLanes rootRenderLanes : Lanes)
    (update : HookUpdateDispatchMetadata Action State) :
    Option (HookUpdateDispatchMetadata Action State) :=
  match update.fate renderLanes rootRenderLanes with
  | .skipped => some { update with lane := update.lane.priority }
  | .applied => some { update with
      lane := HookUpdateLane.no, revertLane := HookRevertLane.no }
  | .reverted => none
  | .optimistic => some { update with lane := HookUpdateLane.no }

/-- The lanes an update leaves to later passes. -/
def leftover (renderLanes rootRenderLanes : Lanes)
    (update : HookUpdateDispatchMetadata Action State) : Lanes :=
  match update.fate renderLanes rootRenderLanes with
  | .skipped => update.lane.priorityLanes
  | .optimistic => update.revertLane.lanes
  | .applied | .reverted => Lanes.no

/-- The test behind each fate, in the order the source makes them. -/
theorem fate_cases (renderLanes rootRenderLanes : Lanes)
    (update : HookUpdateDispatchMetadata Action State) :
    match update.fate renderLanes rootRenderLanes with
    | .skipped =>
      update.lane.priorityLanes.isSubsetOf (update.laneScope renderLanes rootRenderLanes) = false
    | .applied =>
      update.lane.priorityLanes.isSubsetOf (update.laneScope renderLanes rootRenderLanes) = true ∧
      update.revertLane.isEmpty = true
    | .reverted =>
      update.lane.priorityLanes.isSubsetOf (update.laneScope renderLanes rootRenderLanes) = true ∧
      update.revertLane.isEmpty = false ∧
      renderLanes.containsLane update.revertLane.lane = true
    | .optimistic =>
      update.lane.priorityLanes.isSubsetOf (update.laneScope renderLanes rootRenderLanes) = true ∧
      update.revertLane.isEmpty = false ∧
      renderLanes.containsLane update.revertLane.lane = false := by
  unfold fate
  cases inScope : update.lane.priorityLanes.isSubsetOf
    (update.laneScope renderLanes rootRenderLanes) with
  | false => simp
  | true =>
    cases noRevert : update.revertLane.isEmpty with
    | true => simp
    | false =>
      cases rendered : renderLanes.containsLane update.revertLane.lane <;> simp

end HookUpdateDispatchMetadata

open HookUpdateDispatchMetadata

/-- The outcome of a pass over a list of updates. -/
structure HookPassOutcome (Action State : Type) where
  state : State
  baseState : State
  retained : List (HookUpdateDispatchMetadata Action State)
  remainingLanes : Lanes
  appliedUpdateCount : Nat
  skippedUpdateCount : Nat
  revertedUpdateCount : Nat
  eagerUpdateCount : Nat

section Lists

variable (renderLanes rootRenderLanes : Lanes) (reducer : State → Action → State)

/-- The retained updates: copies of everything from the first deferred update
on, reverted updates left out. -/
def retainedUpdates (updates : List (HookUpdateDispatchMetadata Action State)) :
    List (HookUpdateDispatchMetadata Action State) :=
  (postponed (isDeferred renderLanes rootRenderLanes) updates).filterMap
    (retain? renderLanes rootRenderLanes)

/-- The union of what the updates leave to later passes. -/
def leftoverLanes (updates : List (HookUpdateDispatchMetadata Action State)) : Lanes :=
  updates.foldl
    (fun lanes update => lanes.merge (update.leftover renderLanes rootRenderLanes))
    Lanes.no

/-- Whether a pass applies an update. -/
def isApplied (update : HookUpdateDispatchMetadata Action State) : Bool :=
  match update.fate renderLanes rootRenderLanes with
  | .applied | .optimistic => true
  | .skipped | .reverted => false

def isAppliedEagerly (update : HookUpdateDispatchMetadata Action State) : Bool :=
  update.fate renderLanes rootRenderLanes = .applied && update.eagerState.isSome

/-- The list-level specification of a pass. -/
def hookPassOutcome (baseState : State) (updates : List (HookUpdateDispatchMetadata Action State)) :
    HookPassOutcome Action State where
  state := updates.foldl (effect renderLanes rootRenderLanes reducer) baseState
  baseState :=
    (settled (isDeferred renderLanes rootRenderLanes) updates).foldl
      (effect renderLanes rootRenderLanes reducer) baseState
  retained := retainedUpdates renderLanes rootRenderLanes updates
  remainingLanes := leftoverLanes renderLanes rootRenderLanes updates
  appliedUpdateCount := updates.countP (isApplied renderLanes rootRenderLanes)
  skippedUpdateCount := updates.countP fun update =>
    update.fate renderLanes rootRenderLanes = .skipped
  revertedUpdateCount := updates.countP fun update =>
    update.fate renderLanes rootRenderLanes = .reverted
  eagerUpdateCount := updates.countP (isAppliedEagerly renderLanes rootRenderLanes)

variable {renderLanes rootRenderLanes reducer}
variable {updates : List (HookUpdateDispatchMetadata Action State)}
variable {update : HookUpdateDispatchMetadata Action State}

theorem exists_retain?_of_isDeferred
    (deferred : update.isDeferred renderLanes rootRenderLanes = true) :
    ∃ copy, update.retain? renderLanes rootRenderLanes = some copy := by
  unfold isDeferred at deferred
  unfold retain?
  cases fateShape : update.fate renderLanes rootRenderLanes <;> simp_all

theorem retainedUpdates_eq_nil_iff :
    retainedUpdates renderLanes rootRenderLanes updates = [] ↔
      postponed (isDeferred renderLanes rootRenderLanes) updates = [] := by
  unfold retainedUpdates
  constructor
  · intro nothing
    cases shape : postponed (isDeferred renderLanes rootRenderLanes) updates with
    | nil => rfl
    | cons head rest =>
      obtain ⟨copy, retained⟩ := exists_retain?_of_isDeferred (deferred_of_postponed_cons shape)
      simp [shape, retained] at nothing
  · intro nothing
    rw [nothing]
    rfl

theorem retainedUpdates_append_deferred {copy : HookUpdateDispatchMetadata Action State}
    (deferred : update.isDeferred renderLanes rootRenderLanes = true)
    (retained : update.retain? renderLanes rootRenderLanes = some copy) :
    retainedUpdates renderLanes rootRenderLanes (updates ++ [update]) =
      retainedUpdates renderLanes rootRenderLanes updates ++ [copy] := by
  unfold retainedUpdates
  by_cases nothing : postponed (isDeferred renderLanes rootRenderLanes) updates = []
  · rw [postponed_append_of_eq_nil nothing, nothing]
    simp [postponed, deferred, retained]
  · rw [postponed_append_of_ne_nil nothing, filterMap_append]
    simp [retained]

theorem retainedUpdates_append_of_not_deferred
    (inScope : update.isDeferred renderLanes rootRenderLanes = false) :
    retainedUpdates renderLanes rootRenderLanes (updates ++ [update]) =
      if retainedUpdates renderLanes rootRenderLanes updates = [] then
        []
      else
        retainedUpdates renderLanes rootRenderLanes updates ++
          (update.retain? renderLanes rootRenderLanes).toList := by
  by_cases nothing : postponed (isDeferred renderLanes rootRenderLanes) updates = []
  · rw [if_pos (retainedUpdates_eq_nil_iff.mpr nothing), retainedUpdates,
      postponed_append_of_eq_nil nothing]
    simp [postponed, inScope]
  · rw [if_neg (retainedUpdates_eq_nil_iff.not.mpr nothing), retainedUpdates,
      postponed_append_of_ne_nil nothing, filterMap_append]
    cases shape : update.retain? renderLanes rootRenderLanes <;> simp [retainedUpdates, shape]

/-- The base state of a list with something retained, unset otherwise. -/
def retainedBaseState? (renderLanes rootRenderLanes : Lanes) (reducer : State → Action → State)
    (baseState : State)
    (updates : List (HookUpdateDispatchMetadata Action State)) : Option State :=
  if retainedUpdates renderLanes rootRenderLanes updates = [] then
    none
  else
    some (hookPassOutcome renderLanes rootRenderLanes reducer baseState updates).baseState

variable (baseState : State)

theorem retainedBaseState?_append_deferred
    (deferred : update.isDeferred renderLanes rootRenderLanes = true) :
    retainedBaseState? renderLanes rootRenderLanes reducer baseState
        (updates ++ [update]) =
      if retainedUpdates renderLanes rootRenderLanes updates = [] then
        some (hookPassOutcome renderLanes rootRenderLanes reducer baseState updates).state
      else
        retainedBaseState? renderLanes rootRenderLanes reducer baseState updates := by
  obtain ⟨copy, retained⟩ := exists_retain?_of_isDeferred deferred
  unfold retainedBaseState?
  rw [retainedUpdates_append_deferred deferred retained, if_neg (by simp)]
  by_cases nothing : retainedUpdates renderLanes rootRenderLanes updates = []
  · have nothingPostponed := retainedUpdates_eq_nil_iff.mp nothing
    simp only [if_pos nothing, hookPassOutcome]
    rw [settled_append_of_eq_nil nothingPostponed]
    simp [settled, deferred]
  · have something := retainedUpdates_eq_nil_iff.not.mp nothing
    simp only [if_neg nothing, hookPassOutcome]
    rw [settled_append_of_ne_nil something]

theorem retainedBaseState?_append_of_not_deferred
    (inScope : update.isDeferred renderLanes rootRenderLanes = false) :
    retainedBaseState? renderLanes rootRenderLanes reducer baseState
        (updates ++ [update]) =
      retainedBaseState? renderLanes rootRenderLanes reducer baseState updates := by
  unfold retainedBaseState?
  rw [retainedUpdates_append_of_not_deferred inScope]
  by_cases nothing : retainedUpdates renderLanes rootRenderLanes updates = []
  · simp [nothing]
  · have something := retainedUpdates_eq_nil_iff.not.mp nothing
    simp only [if_neg nothing, hookPassOutcome]
    rw [settled_append_of_ne_nil something, if_neg (by simp [nothing])]

theorem hookPassOutcome_baseState :
    (hookPassOutcome renderLanes rootRenderLanes reducer baseState updates).baseState =
      (retainedBaseState? renderLanes rootRenderLanes reducer baseState updates).getD
        (hookPassOutcome renderLanes rootRenderLanes reducer baseState updates).state := by
  unfold retainedBaseState?
  by_cases nothing : retainedUpdates renderLanes rootRenderLanes updates = []
  · have nothingPostponed := retainedUpdates_eq_nil_iff.mp nothing
    simp only [if_pos nothing, Option.getD_none, hookPassOutcome]
    rw [settled_eq_self nothingPostponed]
  · simp [nothing]

end Lists

open HookQueueStore

theorem run_insertUpdate (store : HookQueueStore State Action ReducerId DispatchId)
    (update : HookUpdate Action State) :
    ∃ id after,
      (insertUpdate update).run store = .ok id after ∧
      store.updates.data? id = none ∧
      after.updates.get? id = some update ∧
      after.queues = store.queues ∧
      Extends [] store.updates after.updates := by
  obtain ⟨isNew, found, extension⟩ := insert_spec store.updates update
  exact ⟨_, _, rfl, isNew, found, rfl, extension⟩

theorem growsBy_insertUpdate {store after : HookQueueStore State Action ReducerId DispatchId}
    {update : HookUpdate Action State} {id : HookUpdateId}
    (ran : (insertUpdate update).run store = .ok id after) :
    GrowsBy [id] store.updates after.updates := by
  cases ran
  exact growsBy_insert store.updates update

/-- The loop variables after linking a clone behind the retained updates. -/
def HookQueuePass.linkClone (pass : HookQueuePass State) (id : HookUpdateId) :
    HookQueuePass State :=
  { pass with
    newBaseQueueFirst := pass.newBaseQueueFirst.or (some id)
    newBaseQueueLast := some id }

/-- The updates retained so far, as a path of new nodes beside an old store. -/
structure RetainedChain (start store : HookQueueStore State Action ReducerId DispatchId)
    (first last : Option HookUpdateId) (clones : List HookUpdateId)
    (retained : List (HookUpdateDispatchMetadata Action State)) : Prop where
  queues : store.queues = start.queues
  path : NewPath start.updates store.updates first last clones retained

theorem RetainedChain.run_retain {start store : HookQueueStore State Action ReducerId DispatchId}
    {pass : HookQueuePass State} {clones : List HookUpdateId}
    {retained : List (HookUpdateDispatchMetadata Action State)}
    (chain : RetainedChain start store pass.newBaseQueueFirst pass.newBaseQueueLast clones retained)
    (clone : HookUpdate Action State) :
    ∃ id allocated after,
      (insertUpdate clone).run store = .ok id allocated ∧
      (appendToNewBaseQueue pass id).run allocated = .ok (pass.linkClone id) after ∧
      RetainedChain start after (pass.newBaseQueueFirst.or (some id)) (some id)
        (clones ++ [id]) (retained ++ [clone.data]) ∧
      GrowsBy [id] store.updates after.updates := by
  obtain ⟨id, allocated, inserted, isNew, found, sameQueues, keptStore⟩ :=
    run_insertUpdate store clone
  have grows := growsBy_insertUpdate inserted
  have live : allocated.updates.data? id = some clone.data := by simp [data?, found]
  have unlinkedLive : (allocated.withNext id none).updates.data? id = some clone.data := by
    simpa using live
  have unlinked : (allocated.withNext id none).updates.next? id = none := by
    simp [next?_withNext live]
  have extension : Extends [id] store.updates (allocated.withNext id none).updates :=
    keptStore.trans (extends_withNext live none)
  have path := chain.path
  cases lastShape : pass.newBaseQueueLast with
  | none =>
    rw [lastShape] at path
    have firstNone : pass.newBaseQueueFirst = none := path.holds.path.1
    refine ⟨id, allocated, allocated.withNext id none, inserted, ?_,
      ⟨sameQueues.trans chain.queues, ?_⟩, ?_⟩
    · simp only [appendToNewBaseQueue, run_bind, run_setNext live, lastShape,
        firstNone, run_pure, Option.none_or, linkClone]
    · rw [firstNone]
      exact path.push_first isNew unlinkedLive unlinked extension
    · intro other data isLive
      apply grows other data
      simpa using isLive
  | some tail =>
    rw [lastShape] at path
    have tailMember : tail ∈ clones := path.holds.path.1.tail_mem
    obtain ⟨tailData, -, tailLive⟩ := path.holds.holds.live tailMember
    have tailLiveAfter :
        (allocated.withNext id none).updates.data? tail = some tailData :=
      extension.data tail tailData tailLive
    obtain ⟨head, headShape, -⟩ := path.holds.path.1.exists_head
    have firstShape : pass.newBaseQueueFirst = some head := path.holds.path.2.1.trans headShape
    refine ⟨id, allocated, (allocated.withNext id none).withNext tail (some id),
      inserted, ?_, ⟨sameQueues.trans chain.queues, ?_⟩, ?_⟩
    · simp only [appendToNewBaseQueue, run_bind, run_setNext live, lastShape, firstShape,
        run_setNext tailLiveAfter, run_pure, Option.some_or, linkClone]
    · rw [firstShape] at path ⊢
      exact path.push_behind isNew unlinkedLive unlinked extension
    · intro other data isLive
      apply grows other data
      simpa using isLive

theorem HookQueuePass.noteBaseState_eq (pass : HookQueuePass State) :
    pass.noteBaseState =
      { pass with
        newBaseState :=
          if pass.newBaseQueueLast = none then some pass.newState
          else pass.newBaseState } := by
  unfold noteBaseState
  cases lastShape : pass.newBaseQueueLast with
  | none => rfl
  | some last =>
    cases pass
    simp at lastShape ⊢
    exact lastShape

section

variable (pass : HookQueuePass State) (original : HookUpdate Action State)
  (reducer : State → Action → State)

theorem HookQueuePass.reduce_true :
    pass.reduce original reducer true =
      { pass with
        newState := original.data.eagerState.getD (reducer pass.newState original.data.action)
        appliedUpdateCount := pass.appliedUpdateCount + 1
        eagerUpdateCount := pass.eagerUpdateCount +
          if original.data.eagerState.isSome = true then 1 else 0 } := by
  unfold reduce reduceHookUpdate
  cases original.data.eagerState <;> rfl

theorem HookQueuePass.reduce_false :
    pass.reduce original reducer false =
      { pass with
        newState := reducer pass.newState original.data.action
        appliedUpdateCount := pass.appliedUpdateCount + 1 } := by
  unfold reduce reduceHookUpdate
  cases original.data.eagerState <;> rfl

end

section Pass

variable {renderLanes rootRenderLanes : Lanes} {reducer : State → Action → State}

/-- The local variables of the loop after a list of handled updates. -/
structure PassTracks (renderLanes rootRenderLanes : Lanes) (reducer : State → Action → State)
    (baseState : State) (handled : List (HookUpdateDispatchMetadata Action State))
    (pass : HookQueuePass State) : Prop where
  state :
    pass.newState =
      (hookPassOutcome renderLanes rootRenderLanes reducer baseState handled).state
  baseState :
    pass.newBaseState =
      retainedBaseState? renderLanes rootRenderLanes reducer baseState handled
  remainingLanes :
    pass.remainingLanes = leftoverLanes renderLanes rootRenderLanes handled
  applied :
    pass.appliedUpdateCount = handled.countP (isApplied renderLanes rootRenderLanes)
  skipped :
    pass.skippedUpdateCount = handled.countP fun update =>
      update.fate renderLanes rootRenderLanes = .skipped
  reverted :
    pass.revertedUpdateCount = handled.countP fun update =>
      update.fate renderLanes rootRenderLanes = .reverted
  eager :
    pass.eagerUpdateCount =
      handled.countP (isAppliedEagerly renderLanes rootRenderLanes)

variable {start store : HookQueueStore State Action ReducerId DispatchId}
  {handled : List (HookUpdateDispatchMetadata Action State)}
  {update : HookUpdateDispatchMetadata Action State} {pass : HookQueuePass State}
  {clones : List HookUpdateId} {baseState : State}

/-- The loop variables after one more update, by its fate. -/
theorem PassTracks.append {pass pass' : HookQueuePass State}
    (tracks : PassTracks renderLanes rootRenderLanes reducer baseState handled pass)
    (state : pass'.newState = update.effect renderLanes rootRenderLanes reducer pass.newState)
    (baseStateShape :
      pass'.newBaseState =
        if update.isDeferred renderLanes rootRenderLanes = true ∧
            retainedUpdates renderLanes rootRenderLanes handled = [] then
          some pass.newState
        else
          pass.newBaseState)
    (remainingLanes :
      pass'.remainingLanes =
        pass.remainingLanes.merge (update.leftover renderLanes rootRenderLanes))
    (applied :
      pass'.appliedUpdateCount = pass.appliedUpdateCount +
        if isApplied renderLanes rootRenderLanes update = true then 1 else 0)
    (skipped :
      pass'.skippedUpdateCount = pass.skippedUpdateCount +
        if update.fate renderLanes rootRenderLanes = .skipped then 1 else 0)
    (reverted :
      pass'.revertedUpdateCount = pass.revertedUpdateCount +
        if update.fate renderLanes rootRenderLanes = .reverted then 1 else 0)
    (eager :
      pass'.eagerUpdateCount = pass.eagerUpdateCount +
        if isAppliedEagerly renderLanes rootRenderLanes update = true then 1 else 0) :
    PassTracks renderLanes rootRenderLanes reducer baseState (handled ++ [update]) pass' where
  state := by
    rw [state, tracks.state]
    simp [hookPassOutcome]
  baseState := by
    rw [baseStateShape]
    cases deferred : update.isDeferred renderLanes rootRenderLanes with
    | true =>
      rw [retainedBaseState?_append_deferred baseState deferred, tracks.baseState, tracks.state]
      simp
    | false =>
      rw [retainedBaseState?_append_of_not_deferred baseState deferred, tracks.baseState]
      simp
  remainingLanes := by
    rw [remainingLanes, tracks.remainingLanes]
    simp [leftoverLanes]
  applied := by rw [applied, tracks.applied, countP_append, countP_singleton]
  skipped := by
    rw [skipped, tracks.skipped, countP_append, countP_singleton]
    simp
  reverted := by
    rw [reverted, tracks.reverted, countP_append, countP_singleton]
    simp
  eager := by rw [eager, tracks.eager, countP_append, countP_singleton]

/-- One round of the loop handles one more update as the specification says. -/
theorem run_processUpdate {id : HookUpdateId}
    (tracks : PassTracks renderLanes rootRenderLanes reducer baseState handled pass)
    (chain : RetainedChain start store pass.newBaseQueueFirst pass.newBaseQueueLast
      clones (retainedUpdates renderLanes rootRenderLanes handled))
    (live : start.updates.data? id = some update) :
    ∃ pass' after clones',
      (processUpdate renderLanes rootRenderLanes reducer pass id).run store = .ok pass' after ∧
      PassTracks renderLanes rootRenderLanes reducer baseState (handled ++ [update]) pass' ∧
      RetainedChain start after pass'.newBaseQueueFirst pass'.newBaseQueueLast clones'
        (retainedUpdates renderLanes rootRenderLanes (handled ++ [update])) ∧
      clones ⊆ clones' ∧ GrowsBy clones' store.updates after.updates := by
  obtain ⟨original, found, rfl⟩ := exists_node_of_data? (chain.path.kept.data id update live)
  have resolved := update_eq_ok found
  have tests := fate_cases renderLanes rootRenderLanes original.data
  unfold laneScope at tests
  -- The base state is noted exactly while nothing is retained.
  have lastNone : pass.newBaseQueueLast = none ↔
      retainedUpdates renderLanes rootRenderLanes handled = [] :=
    chain.path.last_eq_none_iff
  have noted : RetainedChain start store pass.noteBaseState.newBaseQueueFirst
      pass.noteBaseState.newBaseQueueLast clones
      (retainedUpdates renderLanes rootRenderLanes handled) := by
    rw [noteBaseState_eq]
    exact chain
  cases fateShape : original.data.fate renderLanes rootRenderLanes with
  | skipped =>
    rw [fateShape] at tests
    have deferred : original.data.isDeferred renderLanes rootRenderLanes = true := by
      simp [isDeferred, fateShape]
    obtain ⟨cloneId, allocated, after, inserted, appended, chainAfter, grows⟩ :=
      noted.run_retain (HookUpdate.cloneForRebase original original.data.lane.priority
        original.data.revertLane)
    refine ⟨{ pass.noteBaseState.linkClone cloneId with
        remainingLanes := pass.noteBaseState.remainingLanes.merge original.data.lane.priorityLanes
        skippedUpdateCount := pass.noteBaseState.skippedUpdateCount + 1 },
      after, clones ++ [cloneId], ?_, ?_, ?_, subset_append_left clones [cloneId],
      grows.mono (subset_append_right clones [cloneId])⟩
    · simp only [processUpdate, run_bind, run_query, resolved, tests,
        Bool.not_false, ite_true, fromLanes_priorityLanes, inserted,
        appended, run_pure]
      rfl
    · apply tracks.append <;>
        simp [noteBaseState_eq, linkClone, effect,
          leftover, isApplied, isAppliedEagerly, fateShape, deferred, lastNone]
    · rw [retainedUpdates_append_deferred deferred (by rw [retain?, fateShape])]
      exact chainAfter
  | applied =>
    rw [fateShape] at tests
    have inScope : original.data.isDeferred renderLanes rootRenderLanes = false := by
      simp [isDeferred, fateShape]
    cases lastShape : pass.newBaseQueueLast with
    | none =>
      have nothing := lastNone.mp lastShape
      refine ⟨pass.reduce original reducer true, store, clones, ?_, ?_, ?_, List.Subset.refl clones,
        GrowsBy.of_data fun _ => rfl⟩
      · simp [processUpdate, resolved, tests, lastShape]
      · apply tracks.append <;>
          simp [reduce_true, effect, leftover, isApplied, isAppliedEagerly, fateShape, inScope]
      · rw [retainedUpdates_append_of_not_deferred inScope, if_pos nothing, ← nothing]
        exact chain
    | some last =>
        have something : retainedUpdates renderLanes rootRenderLanes handled ≠ [] := by
          simp [← lastNone, lastShape]
        obtain ⟨cloneId, allocated, after, inserted, appended, chainAfter, grows⟩ :=
          chain.run_retain (HookUpdate.cloneForRebase original no HookRevertLane.no)
        refine ⟨(pass.linkClone cloneId).reduce original reducer true,
          after, clones ++ [cloneId], ?_, ?_, ?_, subset_append_left clones [cloneId],
      grows.mono (subset_append_right clones [cloneId])⟩
        · simp only [processUpdate, run_bind, run_query, resolved, tests,
            Bool.not_true, Bool.false_eq_true, ite_false, ite_true, lastShape,
            Option.isSome_some, inserted, appended, run_pure]
        · apply tracks.append <;>
            simp [reduce_true, linkClone, effect, leftover,
              isApplied, isAppliedEagerly, fateShape, inScope]
        · rw [retainedUpdates_append_of_not_deferred inScope, if_neg something, retain?, fateShape]
          exact chainAfter
  | reverted =>
    rw [fateShape] at tests
    have inScope : original.data.isDeferred renderLanes rootRenderLanes = false := by
      simp [isDeferred, fateShape]
    refine ⟨{ pass with revertedUpdateCount := pass.revertedUpdateCount + 1 },
      store, clones, ?_, ?_, ?_, List.Subset.refl clones, GrowsBy.of_data fun _ => rfl⟩
    · simp [processUpdate, resolved, tests]
    · apply tracks.append <;>
        simp [effect, leftover, isApplied, isAppliedEagerly, fateShape, inScope]
    · have unchanged :
          retainedUpdates renderLanes rootRenderLanes
              (handled ++ [original.data]) =
            retainedUpdates renderLanes rootRenderLanes handled := by
        rw [retainedUpdates_append_of_not_deferred inScope, retain?, fateShape]
        split <;> simp_all
      rw [unchanged]
      exact chain
  | optimistic =>
    rw [fateShape] at tests
    have deferred : original.data.isDeferred renderLanes rootRenderLanes = true := by
      simp [isDeferred, fateShape]
    obtain ⟨cloneId, allocated, after, inserted, appended, chainAfter, grows⟩ :=
      noted.run_retain (HookUpdate.cloneForRebase original no original.data.revertLane)
    refine ⟨{ pass.noteBaseState.linkClone cloneId with
        remainingLanes := pass.noteBaseState.remainingLanes.merge
          original.data.revertLane.lanes }.reduce original reducer false,
      after, clones ++ [cloneId], ?_, ?_, ?_, subset_append_left clones [cloneId],
      grows.mono (subset_append_right clones [cloneId])⟩
    · simp only [processUpdate, run_bind, run_query, resolved, tests,
        Bool.not_true, Bool.false_eq_true, ite_false, inserted, appended,
        run_pure]
      rfl
    · apply tracks.append <;>
        simp [reduce_false, noteBaseState_eq, linkClone, effect, leftover, isApplied,
          isAppliedEagerly, fateShape, deferred, lastNone]
    · rw [retainedUpdates_append_deferred deferred (by rw [retain?, fateShape])]
      exact chainAfter

/-- What holds after the loop has handled a list of identities. -/
def PassInvariant (renderLanes rootRenderLanes : Lanes) (reducer : State → Action → State)
    (baseState : State) (start : HookQueueStore State Action ReducerId DispatchId)
    (handledIds : List HookUpdateId) (pass : HookQueuePass State)
    (store : HookQueueStore State Action ReducerId DispatchId) : Prop :=
  ∃ handled clones,
    start.updates.Holds handledIds handled ∧
    PassTracks renderLanes rootRenderLanes reducer baseState handled pass ∧
    RetainedChain start store pass.newBaseQueueFirst pass.newBaseQueueLast clones
      (retainedUpdates renderLanes rootRenderLanes handled) ∧
    GrowsBy clones start.updates store.updates

/-- The loop over a list of live updates computes the specified outcome and leaves
the retained updates as a chain of new nodes. -/
theorem run_processUpdates (renderLanes rootRenderLanes : Lanes) (reducer : State → Action → State)
    {start : HookQueueStore State Action ReducerId DispatchId} (baseState : State)
    {ids : List HookUpdateId} {updates : List (HookUpdateDispatchMetadata Action State)}
    (holds : start.updates.Holds ids updates) :
    ∃ pass after clones,
      (ids.foldlM (processUpdate renderLanes rootRenderLanes reducer)
        (HookQueuePass.start baseState)).run start = .ok pass after ∧
      PassTracks renderLanes rootRenderLanes reducer baseState updates pass ∧
      RetainedChain start after pass.newBaseQueueFirst pass.newBaseQueueLast clones
        (retainedUpdates renderLanes rootRenderLanes updates) ∧
      GrowsBy clones start.updates after.updates := by
  have looped : ∃ pass after,
      (ids.foldlM (processUpdate renderLanes rootRenderLanes reducer)
        (HookQueuePass.start baseState)).run start = .ok pass after ∧
      PassInvariant renderLanes rootRenderLanes reducer baseState start ids pass after := by
    refine foldlM_run_of_invariant
      (PassInvariant renderLanes rootRenderLanes reducer baseState start) ?_ ?_
    · rintro handledIds id rest pass store shape ⟨handled, clones, held, tracks, chain, grown⟩
      obtain ⟨update, -, live⟩ := holds.live (show id ∈ ids by simp [shape])
      obtain ⟨pass', after, clones', stepped, tracks', chain', included, grows⟩ :=
        run_processUpdate tracks chain live
      refine ⟨pass', after, stepped, handled ++ [update], clones',
        held.append (.singleton live), tracks', chain', ?_⟩
      exact (grown.trans grows).mono (append_subset.mpr ⟨included, List.Subset.refl clones'⟩)
    · exact ⟨[], [], rfl, ⟨rfl, rfl, rfl, rfl, rfl, rfl, rfl⟩,
        ⟨rfl, .nil start.updates⟩, GrowsBy.of_data fun _ => rfl⟩
  obtain ⟨pass, after, ran, handled, clones, held, tracks, chain, grown⟩ := looped
  obtain rfl := held.unique holds
  exact ⟨pass, after, clones, ran, tracks, chain, grown⟩

theorem RetainedChain.run_closeNewBaseQueue
    {retained : List (HookUpdateDispatchMetadata Action State)}
    (chain : RetainedChain start store pass.newBaseQueueFirst pass.newBaseQueueLast
      clones retained) :
    ∃ closed,
      (closeNewBaseQueue pass).run store = .ok () closed ∧
      closed.queues = start.queues ∧
      Extends [] start.updates closed.updates ∧
      closed.updates.HoldsRing pass.newBaseQueueLast clones retained ∧
      ∀ id, closed.updates.data? id = store.updates.data? id := by
  have path := chain.path
  cases lastShape : pass.newBaseQueueLast with
  | none =>
    rw [lastShape] at path
    exact ⟨store, by simp [closeNewBaseQueue, lastShape], chain.queues, path.kept,
      ⟨path.holds.path.2, path.holds.holds⟩, fun _ => rfl⟩
  | some last =>
    rw [lastShape] at path
    obtain ⟨metadata, -, live⟩ := path.holds.holds.live path.holds.path.1.tail_mem
    obtain ⟨kept, ring⟩ := path.close
    refine ⟨store.withNext last pass.newBaseQueueFirst, ?_, chain.queues, kept, ring,
      data?_withNext store.updates last pass.newBaseQueueFirst⟩
    simpa only [closeNewBaseQueue, lastShape] using run_setNext live _

/-- What a pass reports for a list-level outcome and a new base tail. -/
def HookPassOutcome.result (outcome : HookPassOutcome Action State)
    (baseQueue : Option HookUpdateId) : ProcessHookQueueResult State where
  memoizedState := outcome.state
  baseState := outcome.baseState
  baseQueue := baseQueue
  remainingLanes := outcome.remainingLanes
  appliedUpdateCount := outcome.appliedUpdateCount
  skippedUpdateCount := outcome.skippedUpdateCount
  revertedUpdateCount := outcome.revertedUpdateCount
  eagerUpdateCount := outcome.eagerUpdateCount

/-- The slot after a pass with a list-level outcome and a new base tail. -/
def HookPassOutcome.slot (outcome : HookPassOutcome Action State) (slot : HookStateSlot State)
    (baseQueue : Option HookUpdateId) : HookStateSlot State where
  memoizedState := outcome.state
  baseState := outcome.baseState
  baseQueue := baseQueue
  queue := slot.queue

/-- The queue after a pass; without updates only its lanes are cleared. -/
def HookPassOutcome.queue (outcome : HookPassOutcome Action State)
    (entry : HookQueue State ReducerId DispatchId)
    (updates : List (HookUpdateDispatchMetadata Action State)) :
    HookQueue State ReducerId DispatchId :=
  if updates.isEmpty then
    { entry with lanes := Lanes.no }
  else
    { entry with pending := none, lastRenderedState := outcome.state }

/-- What a pass over a slot with its two rings leaves behind. -/
structure PassRefines (outcome : HookPassOutcome Action State)
    (updates : List (HookUpdateDispatchMetadata Action State)) (merged : List HookUpdateId)
    (entry : HookQueue State ReducerId DispatchId) (queue : HookQueueId)
    (store after : HookQueueStore State Action ReducerId DispatchId) (tail : Option HookUpdateId)
    (retainedIds : List HookUpdateId) : Prop where
  ring : after.updates.HoldsRing tail retainedIds outcome.retained
  isNew : ∀ id ∈ retainedIds, store.updates.data? id = none
  kept : Extends merged store.updates after.updates
  onlyQueue : OnlyQueue queue store after
  queue : after.queues.get? queue = some (outcome.queue entry updates)
  spliced : ∃ mergedTail, after.updates.HoldsRing mergedTail merged updates

/-- A pass over a slot whose base ring and pending ring are disjoint computes the
list-level outcome of the base updates followed by the pending updates. -/
theorem run_processUpdateQueue {store : HookQueueStore State Action ReducerId DispatchId}
    {entry : HookQueue State ReducerId DispatchId} {slot : HookStateSlot State}
    {baseIds pendingIds : List HookUpdateId}
    {baseUpdates pendingUpdates : List (HookUpdateDispatchMetadata Action State)}
    (found : store.queues.get? slot.queue = some entry)
    (base : store.updates.HoldsRing slot.baseQueue baseIds baseUpdates)
    (pending : store.updates.HoldsRing entry.pending pendingIds pendingUpdates)
    (disjoint : baseIds.Disjoint pendingIds) {outcome : HookPassOutcome Action State}
    (outcomeShape : outcome = hookPassOutcome renderLanes rootRenderLanes reducer
      slot.baseState (baseUpdates ++ pendingUpdates)) :
    ∃ after tail retainedIds,
      (processUpdateQueue renderLanes rootRenderLanes reducer).run (store, slot) =
        .ok (outcome.result tail) (after, outcome.slot slot tail) ∧
      PassRefines outcome (baseUpdates ++ pendingUpdates) (baseIds ++ pendingIds)
        entry slot.queue store after tail retainedIds := by
  obtain ⟨merged, mergedTail, ranMerge, mergedFound, mergedOnly, mergedKept, mergedRing⟩ :=
    run_mergePendingIntoBaseQueue found base pending disjoint
  cases tailShape : mergedTail with
  | none =>
    subst mergedTail
    have noUpdates := mergedRing.eq_none_iff.mp rfl
    have noPending : entry.pending = none := by
      rw [pending.eq_none_iff]
      exact (append_eq_nil_iff.mp noUpdates).2
    have clearedShape :
        ({ { entry with pending := none } with lanes := no } :
          HookQueue State ReducerId DispatchId) = { entry with lanes := no } := by
      rw [← noPending]
    rw [noUpdates] at outcomeShape
    subst outcome
    refine ⟨merged.changeQueue slot.queue (fun entry => { entry with lanes := no }),
      none, [], ?_, ⟨rfl, rfl⟩, by simp, ?_, ?_, ?_, none, mergedRing⟩
    · simp only [processUpdateQueue, run_bind, ranMerge, run_get,
        modifySlot, run_modify, onStore, run_focus,
        run_modifyQueue mergedFound, run_pure]
      rfl
    · exact mergedKept
    · intro other different
      rw [onlyQueue_changeQueue _ _ _ other different]
      exact mergedOnly other different
    · rw [get?_changeQueue_self mergedFound, noUpdates]
      exact congrArg some clearedShape
  | some baseTail =>
    subst mergedTail
    have someUpdates : baseUpdates ++ pendingUpdates ≠ [] := by
      simpa using mergedRing.eq_none_iff.not
    have collected := collectRingIds_eq_ok mergedRing
    obtain ⟨pass, swept, clones, ranLoop, tracks, chain, -⟩ :=
      run_processUpdates renderLanes rootRenderLanes reducer slot.baseState mergedRing.holds
    subst outcome
    have stateShape := tracks.state
    have baseStateShape : pass.newBaseState.getD pass.newState =
        (hookPassOutcome renderLanes rootRenderLanes reducer slot.baseState
          (baseUpdates ++ pendingUpdates)).baseState := by
      rw [hookPassOutcome_baseState, tracks.baseState, tracks.state]
    obtain ⟨closed, ranClose, closedQueues, closedKept, closedRing, -⟩ :=
      chain.run_closeNewBaseQueue
    have closedFound : closed.queues.get? slot.queue =
        some { entry with pending := none } := by
      rw [closedQueues, mergedFound]
    have newIds : ∀ id ∈ clones, store.updates.data? id = none := by
      intro id member
      exact mergedKept.data?_eq_none (chain.path.isNew id member)
    refine ⟨closed.changeQueue slot.queue
      (fun entry => { entry with lastRenderedState := pass.newState }),
      pass.newBaseQueueLast, clones, ?_, ?_, newIds, ?_, ?_, ?_, some baseTail,
      mergedRing.of_extends closedKept (disjoint_nil_right _)⟩
    · simp only [processUpdateQueue, run_bind, ranMerge, run_get,
        onStore, run_focus, run_query, collected, ranLoop, ranClose, modifySlot,
        run_modify, run_modifyQueue closedFound, run_pure,
        baseStateShape]
      simp only [HookPassOutcome.result, HookPassOutcome.slot, tracks.state, tracks.remainingLanes,
        tracks.applied, tracks.skipped, tracks.reverted, tracks.eager]
      rfl
    · exact closedRing
    · simpa using mergedKept.trans closedKept
    · intro other different
      rw [onlyQueue_changeQueue _ _ _ other different, closedQueues]
      exact mergedOnly other different
    · rw [get?_changeQueue_self closedFound, stateShape, HookPassOutcome.queue,
        if_neg (by simpa using someUpdates)]

end Pass

/-- One pass over any slot whose queue exists and whose base and pending rings are
disjoint is the list-level pass over the base updates followed by the pending ones. -/
theorem processUpdateQueue_refines_list
    (renderLanes rootRenderLanes : Lanes)
    (reducer : State → Action → State)
    (store : HookQueueStore State Action ReducerId DispatchId)
    (slot : HookStateSlot State)
    (entry : HookQueue State ReducerId DispatchId)
    (baseIds pendingIds : List HookUpdateId)
    (baseUpdates pendingUpdates : List (HookUpdateDispatchMetadata Action State))
    (found : store.queues.get? slot.queue = some entry)
    (base : store.updates.HoldsRing slot.baseQueue baseIds baseUpdates)
    (pending : store.updates.HoldsRing entry.pending pendingIds pendingUpdates)
    (disjoint : baseIds.Disjoint pendingIds) :
    ∃ after tail retainedIds,
      (processUpdateQueue renderLanes rootRenderLanes reducer).run (store, slot) =
        .ok ((hookPassOutcome renderLanes rootRenderLanes reducer slot.baseState
            (baseUpdates ++ pendingUpdates)).result tail)
          (after, (hookPassOutcome renderLanes rootRenderLanes reducer slot.baseState
            (baseUpdates ++ pendingUpdates)).slot slot tail) ∧
      PassRefines
        (hookPassOutcome renderLanes rootRenderLanes reducer slot.baseState
          (baseUpdates ++ pendingUpdates))
        (baseUpdates ++ pendingUpdates) (baseIds ++ pendingIds)
        entry slot.queue store after tail retainedIds :=
  run_processUpdateQueue found base pending disjoint rfl

section Sample

/-- A hidden update of one lane. -/
def sampleBase : HookUpdateDispatchMetadata Nat Nat where
  lane := ⟨Lane.default.toLanes.mergeLane Lane.offscreen, by decide⟩
  revertLane := HookRevertLane.no
  action := 3
  eagerState := none

/-- An optimistic update. -/
def samplePending : HookUpdateDispatchMetadata Nat Nat where
  lane := ⟨Lanes.sync, HookUpdateLane.accepts_sync⟩
  revertLane := ⟨Lane.transition1⟩
  action := 4
  eagerState := some 9

def sampleQueueId : HookQueueId := ⟨0, 0⟩
def sampleBaseId : HookUpdateId := ⟨0, 0⟩
def samplePendingId : HookUpdateId := ⟨1, 0⟩

def sampleEntry : HookQueue Nat Unit Unit :=
  { (HookQueue.new 1 : HookQueue Nat Unit Unit) with pending := some samplePendingId }

/-- A store with one base update and one pending update. -/
def sampleStore : HookQueueStore Nat Nat Unit Unit where
  queues := ⟨[⟨0, some sampleEntry⟩], [], by simp, by simp⟩
  updates :=
    ⟨[⟨0, some ⟨sampleBase, some sampleBaseId⟩⟩,
      ⟨0, some ⟨samplePending, some samplePendingId⟩⟩], [], by simp, by simp⟩

def sampleSlot : HookStateSlot Nat :=
  { (HookStateSlot.new 1 sampleQueueId) with baseQueue := some sampleBaseId }

/-- The refinement applies to a store with a hidden and an optimistic update. -/
theorem processUpdateQueue_refines_list_sample :
    sampleStore.queues.get? sampleSlot.queue = some sampleEntry ∧
      sampleStore.updates.HoldsRing sampleSlot.baseQueue [sampleBaseId] [sampleBase] ∧
      sampleStore.updates.HoldsRing sampleEntry.pending [samplePendingId] [samplePending] ∧
      ∃ after tail retainedIds,
        (processUpdateQueue Lanes.sync Lanes.default (· + ·)).run
            (sampleStore, sampleSlot) =
          .ok ((hookPassOutcome Lanes.sync Lanes.default (· + ·) 1
              [sampleBase, samplePending]).result tail)
            (after, (hookPassOutcome Lanes.sync Lanes.default (· + ·) 1
              [sampleBase, samplePending]).slot sampleSlot tail) ∧
        PassRefines
          (hookPassOutcome Lanes.sync Lanes.default (· + ·) 1
            [sampleBase, samplePending])
          [sampleBase, samplePending] [sampleBaseId, samplePendingId]
          sampleEntry sampleQueueId sampleStore after tail retainedIds := by
  have found : sampleStore.queues.get? sampleSlot.queue = some sampleEntry := by decide
  have base : sampleStore.updates.HoldsRing sampleSlot.baseQueue [sampleBaseId] [sampleBase] :=
    ⟨⟨⟨by decide, by decide, by decide⟩, by decide⟩, by unfold Holds; decide⟩
  have pending :
      sampleStore.updates.HoldsRing sampleEntry.pending [samplePendingId] [samplePending] :=
    ⟨⟨⟨by decide, by decide, by decide⟩, by decide⟩, by unfold Holds; decide⟩
  exact ⟨found, base, pending,
    processUpdateQueue_refines_list Lanes.sync Lanes.default (· + ·) sampleStore
      sampleSlot sampleEntry [sampleBaseId] [samplePendingId] [sampleBase]
      [samplePending] found base pending (by simp [sampleBaseId, samplePendingId])⟩

end Sample

end FastReact
