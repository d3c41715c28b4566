import FastReact.ConcurrentUpdates
import FastReact.RootWorkLoop

namespace FastReact

open ErrorState

/-!
# What work on a root leaves alone

Staging, draining and rendering change fibers, states and lanes in many places, also
when they fail.  A relation of stores that does not look at the fibers holds across all
of this once it allows the few other changes that are made.
-/

variable {relation : FiberRootStore → FiberRootStore → Prop}

/-- A relation of stores that does not look at the fibers. -/
def IgnoresFibers (relation : FiberRootStore → FiberRootStore → Prop) : Prop :=
  ∀ arena (store : FiberRootStore), relation store { store with fiberArena := arena }

section Queries

variable [IsPreorder _ relation]

theorem within_walkToHostRoot {visit : FiberId → ConcurrentUpdateM Unit}
    (visits : ∀ fiber, Within relation (visit fiber)) (rounds : Nat) (fiber : FiberId) :
    Within relation (walkToHostRoot visit rounds fiber) := by
  induction rounds generalizing fiber with
  | zero => exact .throw _
  | succ rounds ih =>
    refine .bind (within_getFiber _ _) fun node => ?_
    cases node.returnFiber with
    | none => exact .pure _
    | some parent => exact .bind (visits _) fun _ => ih _

theorem within_hostRootIdForFiber (fiber : FiberId) :
    Within relation (hostRootIdForFiber fiber) := by
  refine .bind (within_getFiber _ _) fun node => ?_
  by_cases isHostRoot : node.tag ≠ .hostRoot
  · rw [if_pos isHostRoot]
    exact .throw _
  · rw [if_neg isHostRoot]
    cases node.stateNode with
    | none => exact .throw _
    | some root => exact .pure _

theorem within_hostRootForUpdatedFiber (fiber : FiberId) :
    Within relation (hostRootForUpdatedFiber fiber) :=
  .bind .get fun _ => .bind (within_walkToHostRoot (fun _ => .pure _) _ _) fun _ =>
  .bind (within_hostRootIdForFiber _) fun _ => .pure _

theorem within_rootForUpdatedFiber (fiber : FiberId) :
    Within relation (rootForUpdatedFiber fiber) :=
  .bind (within_hostRootForUpdatedFiber fiber) fun _ => .pure _

theorem within_validateStagedUpdate (seenUpdates : List UpdateId) (entry : StagedConcurrentUpdate) :
    Within relation (validateStagedUpdate seenUpdates entry) := by
  obtain ⟨fiber, queue, update, lane⟩ := entry
  rcases queue with - | queue <;> rcases update with - | update
  · exact .pure _
  · exact .throw _
  · exact .throw _
  · refine .bind (.query _) fun _ => .bind (.query _) fun record => .guard fun _ => ?_
    cases record.next with
    | some linkedNext =>
      exact .bind (.throw _) fun _ => .guard fun _ => .bind (.query _) fun _ => .pure _
    | none => exact .bind (.pure _) fun _ => .guard fun _ => .bind (.query _) fun _ => .pure _

theorem within_validateStagedEntry (validation : DrainValidation) (entry : StagedConcurrentUpdate) :
    Within relation (validateStagedEntry validation entry) := by
  refine .bind (within_validateStagedUpdate _ _) fun seen =>
    .bind (within_getFiber _ _) fun source => ?_
  have placed : Within relation (do
      let found ← hostRootForUpdatedFiber entry.fiber
      let rootCurrent := (← getRoot .fiberRootStore found.1).current
      if rootCurrent ≠ found.2 then
        throw (.stagedRootCurrentMismatch found.1 rootCurrent found.2)
      return {
        computedLanes := validation.computedLanes.mergeLane entry.lane
        seenUpdates := seen
        roots := validation.roots ++ [found.1] } : ConcurrentUpdateM DrainValidation) :=
    .bind (within_hostRootForUpdatedFiber _) fun found =>
    .bind (within_getRoot _ _) fun _ => .guard fun _ => .pure _
  cases entry.queue with
  | some queue => exact .guard fun _ => .guard fun _ => placed
  | none => exact .bind (.pure _) fun _ => .guard fun _ => placed

theorem within_validateStagedConcurrentUpdatesForDrain :
    Within relation validateStagedConcurrentUpdatesForDrain :=
  .bind .get fun _ => .bind (.foldlM within_validateStagedEntry _ _) fun _ =>
  .guard fun _ => .pure _

end Queries

namespace IgnoresFibers

variable [IsPreorder _ relation] (ignores : IgnoresFibers relation)
include ignores

theorem within_markSourceFiberLanes (fiber : FiberId) (lanes : Lanes) :
    Within relation (markSourceFiberLanes fiber lanes) := by
  refine .bind (within_onFibers _ _ ignores) fun _ => .bind (within_getFiber _ _) fun node => ?_
  cases node.alternate with
  | none => exact .pure _
  | some alternate => exact within_onFibers _ _ ignores

theorem within_markChildLanes (fiber : FiberId) (lanes : Lanes) :
    Within relation (markChildLanes fiber lanes) := by
  refine .bind (within_onFibers _ _ ignores) fun _ => .bind (within_getFiber _ _) fun node => ?_
  cases node.alternate with
  | none => exact .pure _
  | some alternate => exact within_onFibers _ _ ignores

theorem within_markUpdateLanesFromFiberToRoot
    (marked : ∀ root lane (store : FiberRootStore), relation store
      { store with roots := store.roots.modify root (FiberRoot.onLanes (·.markUpdated lane)) })
    (fiber : FiberId)
    (lanes : Lanes) : Within relation (markUpdateLanesFromFiberToRoot fiber lanes) := by
  refine .bind (ignores.within_markSourceFiberLanes _ _) fun _ => .bind .get fun _ =>
    .bind (within_walkToHostRoot (ignores.within_markChildLanes · lanes) _ _) fun _ =>
    .bind (within_hostRootIdForFiber _) fun root => .bind ?_ fun _ => .pure _
  have marks : ∀ index : LaneIndex, Within relation
      (modifyRoot ConcurrentUpdateError.fiberRootStore root
        (FiberRoot.onLanes (·.markUpdated index.lane))) :=
    fun index => within_modifyRoot _ (marked root index.lane)
  exact .forM marks lanes.indices

theorem within_enqueueConcurrentHostRootUpdate
    (staging : ∀ staged (store : FiberRootStore),
      relation store { store with concurrentUpdates := staged })
    (fiber : FiberId) (queue : UpdateQueueHandle) (update : UpdateId)
    (lane : Lane) : Within relation (enqueueConcurrentHostRootUpdate fiber queue update lane) :=
  .bind (ignores.within_markSourceFiberLanes _ _) fun _ =>
  .bind (.modify fun store => staging _ store) fun _ => within_rootForUpdatedFiber fiber

theorem within_createHostRootWorkInProgress (rootId : FiberRootId) (pendingProps : PropsHandle) :
    Within relation (createHostRootWorkInProgress rootId pendingProps) :=
  .bind (within_getRoot _ _) fun _ => .bind (within_getFiber _ _) fun _ => .guard fun _ =>
  .bind (within_onFibers _ _ ignores) fun _ => .bind (within_getFiber _ _) fun _ =>
  .guard fun _ => .pure _

theorem within_createClientRoot
    (states : ∀ states (store : FiberRootStore),
      relation store { store with hostRootStates := states })
    (inserted : ∀ root (store : FiberRootStore),
      relation store { store with roots := (store.roots.insert root).2 })
    (formState : RootFormStateHandle)
    (mode : FiberMode) : Within relation (createClientRoot formState mode) :=
  .bind (.modifyGet fun store => states _ store) fun _ =>
  .bind (within_onFibers _ _ ignores) fun _ =>
  .bind (.modifyGet fun store => inserted _ store) fun _ =>
  .bind (within_onFibers _ _ ignores) fun _ => .pure _

end IgnoresFibers

end FastReact
