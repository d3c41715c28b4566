import FastReact.RootScheduler
import Mathlib.Data.List.Sort

namespace FastReact

open ErrorState

/-!
# Flushing passive effects

A commit leaves the passive effects of its fibers with the root.  Their flush checks them
against the handoff of the commit, takes them from the root, calls the destroys of the
unmounts and then the creates of the mounts, and reports failed calls to the root.
-/

namespace PassiveEffects

inductive HookEffectTag
inductive HookEffectInstanceTag
inductive HookEffectCallbackTag
inductive PassiveEffectDestroyCallbackErrorTag
inductive PassiveEffectMountCreateCallbackErrorTag

abbrev HookEffectId := OpaqueHandle HookEffectTag
abbrev HookEffectCallbackHandle := OpaqueHandle HookEffectCallbackTag
abbrev PassiveEffectDestroyCallbackErrorHandle :=
  OpaqueHandle PassiveEffectDestroyCallbackErrorTag
abbrev PassiveEffectMountCreateCallbackErrorHandle :=
  OpaqueHandle PassiveEffectMountCreateCallbackErrorTag

structure HookEffectArenaId where
  raw : Nat
deriving DecidableEq

structure HookEffectInstanceId where
  arenaId : HookEffectArenaId
  handle : Handle HookEffectInstanceTag
deriving DecidableEq

/-- The destroy that the last create of an effect returned. -/
structure HookEffectInstance where
  destroy : Option HookEffectCallbackHandle
deriving DecidableEq

inductive HookEffectArenaError where
  | wrongArena (expected actual : HookEffectArenaId)
  | invalidEffectInstanceSlot (arenaId : HookEffectArenaId) (slot : Nat)
  | staleEffectInstanceGeneration (id : HookEffectInstanceId) (currentGeneration : Nat)
  | vacantEffectInstanceSlot (id : HookEffectInstanceId)
deriving DecidableEq

/-- The error of an instance that does not resolve. -/
def HookEffectArenaError.ofLookup (id : HookEffectInstanceId) :
    LookupError → HookEffectArenaError
  | .outOfRange => .invalidEffectInstanceSlot id.arenaId id.handle.slot
  | .stale currentGeneration => .staleEffectInstanceGeneration id currentGeneration
  | .vacant => .vacantEffectInstanceSlot id

/-- The instances of an arena; its effect nodes are not read here. -/
structure HookEffectArena where
  arenaId : HookEffectArenaId
  instances : SlotArena HookEffectInstanceTag HookEffectInstance

namespace HookEffectArena

def getInstance (arena : HookEffectArena) (id : HookEffectInstanceId) :
    Except HookEffectArenaError HookEffectInstance :=
  if id.arenaId ≠ arena.arenaId then
    .error (.wrongArena arena.arenaId id.arenaId)
  else
    (arena.instances.find id.handle).mapError (.ofLookup id)

def takeDestroy (arena : HookEffectArena) (id : HookEffectInstanceId) : HookEffectArena :=
  { arena with instances := arena.instances.modify id.handle fun _ => { destroy := none } }

end HookEffectArena

structure FunctionComponentPendingPassiveEffectPhaseCommitRecord where
  fiber : FiberId
  effectIndex : Nat
  effect : HookEffectId
  previousEffect : Option HookEffectId
  effectInstance : HookEffectInstanceId
  create : Option HookEffectCallbackHandle
  destroy : Option HookEffectCallbackHandle
  lanes : Lanes
  phase : PendingPassiveEffectPhase
  order : PendingPassiveEffectOrder

structure FunctionComponentPendingPassiveEffectCommitRecord where
  fiber : FiberId
  effectIndex : Nat
  effect : HookEffectId
  previousEffect : Option HookEffectId
  effectInstance : HookEffectInstanceId
  create : HookEffectCallbackHandle
  destroy : Option HookEffectCallbackHandle
  lanes : Lanes
  unmountOrder : Option PendingPassiveEffectOrder
  mountOrder : PendingPassiveEffectOrder

namespace FunctionComponentPendingPassiveEffectCommitRecord

def unmountPhaseRecord (record : FunctionComponentPendingPassiveEffectCommitRecord) :
    Option FunctionComponentPendingPassiveEffectPhaseCommitRecord :=
  record.unmountOrder.map fun order => {
    fiber := record.fiber
    effectIndex := record.effectIndex
    effect := record.effect
    previousEffect := record.previousEffect
    effectInstance := record.effectInstance
    create := none
    destroy := record.destroy
    lanes := record.lanes
    phase := .unmount
    order := order }

def mountPhaseRecord (record : FunctionComponentPendingPassiveEffectCommitRecord) :
    FunctionComponentPendingPassiveEffectPhaseCommitRecord where
  fiber := record.fiber
  effectIndex := record.effectIndex
  effect := record.effect
  previousEffect := record.previousEffect
  effectInstance := record.effectInstance
  create := some record.create
  destroy := none
  lanes := record.lanes
  phase := .mount
  order := record.mountOrder

end FunctionComponentPendingPassiveEffectCommitRecord

structure FunctionComponentPendingPassiveCommitHandoff where
  root : FiberRootId
  lanes : Lanes
  records : List FunctionComponentPendingPassiveEffectCommitRecord

namespace FunctionComponentPendingPassiveCommitHandoff

def queuedUnmountCount (handoff : FunctionComponentPendingPassiveCommitHandoff) : Nat :=
  handoff.records.countP (·.unmountOrder.isSome)

def queuedMountCount (handoff : FunctionComponentPendingPassiveCommitHandoff) : Nat :=
  handoff.records.length

def effectPhaseRecords (handoff : FunctionComponentPendingPassiveCommitHandoff) :
    List FunctionComponentPendingPassiveEffectPhaseCommitRecord :=
  handoff.records.filterMap (·.unmountPhaseRecord) ++ handoff.records.map (·.mountPhaseRecord)

end FunctionComponentPendingPassiveCommitHandoff

structure FunctionComponentCommittedPassiveEffectFiberRecord where
  fiber : FiberId
  lanes : Lanes
  records : List FunctionComponentPendingPassiveEffectPhaseCommitRecord

structure FunctionComponentCommittedPassiveEffectsSnapshot where
  fibers : List FunctionComponentCommittedPassiveEffectFiberRecord

namespace FunctionComponentCommittedPassiveEffectsSnapshot

def phaseRecords (snapshot : FunctionComponentCommittedPassiveEffectsSnapshot) :
    List FunctionComponentPendingPassiveEffectPhaseCommitRecord :=
  snapshot.fibers.flatMap (·.records)

def queuedUnmountCount (snapshot : FunctionComponentCommittedPassiveEffectsSnapshot) : Nat :=
  snapshot.phaseRecords.countP (·.phase = .unmount)

def queuedMountCount (snapshot : FunctionComponentCommittedPassiveEffectsSnapshot) : Nat :=
  snapshot.phaseRecords.countP (·.phase = .mount)

end FunctionComponentCommittedPassiveEffectsSnapshot

structure FunctionComponentDeletedSubtreePendingPassiveEffectCommitRecord where
  root : FiberRootId
  nearestMountedAncestor : FiberId
  fiber : FiberId
  effectIndex : Nat
  effect : HookEffectId
  effectInstance : HookEffectInstanceId
  destroy : Option HookEffectCallbackHandle
  lanes : Lanes
  unmountOrder : PendingPassiveEffectOrder

namespace FunctionComponentDeletedSubtreePendingPassiveEffectCommitRecord

def unmountPhaseRecord (record : FunctionComponentDeletedSubtreePendingPassiveEffectCommitRecord) :
    FunctionComponentPendingPassiveEffectPhaseCommitRecord where
  fiber := record.fiber
  effectIndex := record.effectIndex
  effect := record.effect
  previousEffect := none
  effectInstance := record.effectInstance
  create := none
  destroy := record.destroy
  lanes := record.lanes
  phase := .unmount
  order := record.unmountOrder

end FunctionComponentDeletedSubtreePendingPassiveEffectCommitRecord

structure FunctionComponentDeletedSubtreePassiveEffectsSnapshot where
  records : List FunctionComponentDeletedSubtreePendingPassiveEffectCommitRecord

structure PassiveEffectsCommit where
  record : HostRootCommitRecord
  functionComponentCommittedPassiveEffects : FunctionComponentCommittedPassiveEffectsSnapshot
  functionComponentDeletedSubtreePassiveEffects :
    FunctionComponentDeletedSubtreePassiveEffectsSnapshot

/-- Where the callbacks of the pending effects are looked up. -/
inductive PassiveEffectRecordSource where
  | none
  | functionComponentHandoffs (handoffs : List FunctionComponentPendingPassiveCommitHandoff)
  | committedFiberEffects
  | committedDeletedSubtreeEffects

inductive PassiveEffectsFlushError where
  | fiberRootStore (error : FiberRootStoreError)
  | rootScheduler (error : RootSchedulerError)
  | pendingPassiveRootMismatch (commitRoot : FiberRootId) (pendingRoot : Option FiberRootId)
  | pendingPassiveFinishedWorkMismatch (root : FiberRootId) (expected : FiberId)
      (actual : Option FiberId)
  | pendingPassiveLanesMismatch (root : FiberRootId) (expected actual : Lanes)
  | pendingPassiveRecordCountMismatch (root : FiberRootId)
      (expectedUnmounts actualUnmounts expectedMounts actualMounts : Nat)
  | pendingPassiveEffectHandoffRootMismatch (commitRoot handoffRoot : FiberRootId)
  | pendingPassiveEffectHandoffLanesMismatch (root : FiberRootId) (expected actual : Lanes)
  | pendingPassiveEffectHandoffRecordCountMismatch (root : FiberRootId)
      (expectedUnmounts actualUnmounts expectedMounts actualMounts : Nat)
  | pendingPassiveEffectHandoffDuplicateOrder (root : FiberRootId)
      (order : PendingPassiveEffectOrder)
  | pendingPassiveEffectHandoffRecordMismatch (root : FiberRootId) (fiber : FiberId)
      (phase : PendingPassiveEffectPhase) (order : PendingPassiveEffectOrder)
  | committedPassiveEffectRecordCountMismatch (root : FiberRootId)
      (expectedUnmounts actualUnmounts expectedMounts actualMounts : Nat)
  | committedPassiveEffectDuplicateOrder (root : FiberRootId) (order : PendingPassiveEffectOrder)
  | committedPassiveEffectRecordMismatch (root : FiberRootId) (fiber : FiberId)
      (phase : PendingPassiveEffectPhase) (order : PendingPassiveEffectOrder)
  | passiveDestroyHandleClearMissingEffectInstance (root : FiberRootId) (fiber : FiberId)
      (phase : PendingPassiveEffectPhase) (order : PendingPassiveEffectOrder)
      (destroy : HookEffectCallbackHandle)
  | passiveDestroyHandleClearHookEffectArena (root : FiberRootId) (fiber : FiberId)
      (order : PendingPassiveEffectOrder) (effectInstance : HookEffectInstanceId)
      (source : HookEffectArenaError)
  | passiveDestroyHandleClearStoredDestroyMismatch (root : FiberRootId) (fiber : FiberId)
      (order : PendingPassiveEffectOrder) (effectInstance : HookEffectInstanceId)
      (expected actual : Option HookEffectCallbackHandle)
deriving DecidableEq

/-- The callbacks of a pending effect and whether they were called. -/
structure PassiveEffectFlushEffectRecord where
  effectIndex : Nat
  effect : HookEffectId
  effectInstance : HookEffectInstanceId
  create : Option HookEffectCallbackHandle
  destroy : Option HookEffectCallbackHandle
  createInvoked : Bool
  destroyInvoked : Bool

structure PassiveEffectFlushRecord where
  flushIndex : Nat
  root : FiberRootId
  finishedWork : FiberId
  committedLanes : Lanes
  fiber : FiberId
  effectLanes : Lanes
  phase : PendingPassiveEffectPhase
  pendingOrder : PendingPassiveEffectOrder
  unmountOrigin : Option PendingPassiveUnmountOrigin
  effect : Option PassiveEffectFlushEffectRecord

namespace PassiveEffectFlushRecord

def effectInstance (record : PassiveEffectFlushRecord) : Option HookEffectInstanceId :=
  record.effect.map (·.effectInstance)

def createCallback (record : PassiveEffectFlushRecord) : Option HookEffectCallbackHandle :=
  record.effect.bind (·.create)

def destroyCallback (record : PassiveEffectFlushRecord) : Option HookEffectCallbackHandle :=
  record.effect.bind (·.destroy)

def markDestroyCallbackInvoked (record : PassiveEffectFlushRecord) : PassiveEffectFlushRecord :=
  { record with effect := record.effect.map fun effect => { effect with destroyInvoked := true } }

def markCreateCallbackInvoked (record : PassiveEffectFlushRecord) : PassiveEffectFlushRecord :=
  { record with effect := record.effect.map fun effect => { effect with createInvoked := true } }

end PassiveEffectFlushRecord

/-- The derived order of the source. -/
def leOrder (first second : PendingPassiveEffectOrder) : Bool :=
  first.phase.flushRank < second.phase.flushRank ||
    first.phase = second.phase && first.sequence ≤ second.sequence

def sortByOrder {Record : Type} (order : Record → PendingPassiveEffectOrder)
    (records : List Record) : List Record :=
  records.insertionSort fun first second => leOrder (order first) (order second)

/-- A stable sort by the pending orders and then by the positions in the flush. -/
def sortByFlushOrder {Record : Type} (flushRecord : Record → PassiveEffectFlushRecord)
    (records : List Record) : List Record :=
  records.insertionSort fun first second =>
    if (flushRecord first).pendingOrder = (flushRecord second).pendingOrder then
      (flushRecord first).flushIndex ≤ (flushRecord second).flushIndex
    else leOrder (flushRecord first).pendingOrder (flushRecord second).pendingOrder

section Checks

def requireFlush (condition : Prop) [Decidable condition] (error : PassiveEffectsFlushError) :
    Except PassiveEffectsFlushError Unit :=
  if condition then .ok () else .error error

def validatePendingPassiveHandoff (handoff : PendingPassiveCommitHandoff)
    (pendingPassive : PendingPassiveState) : Except PassiveEffectsFlushError Unit := do
  requireFlush (pendingPassive.root = some handoff.root)
    (.pendingPassiveRootMismatch handoff.root pendingPassive.root)
  requireFlush (pendingPassive.finishedWork = some handoff.finishedWork)
    (.pendingPassiveFinishedWorkMismatch handoff.root handoff.finishedWork
      pendingPassive.finishedWork)
  requireFlush (pendingPassive.lanes = handoff.lanes)
    (.pendingPassiveLanesMismatch handoff.root handoff.lanes pendingPassive.lanes)
  requireFlush (pendingPassive.passiveUnmounts.length = handoff.pendingUnmountCount ∧
      pendingPassive.passiveMounts.length = handoff.pendingMountCount)
    (.pendingPassiveRecordCountMismatch handoff.root
      handoff.pendingUnmountCount pendingPassive.passiveUnmounts.length
      handoff.pendingMountCount pendingPassive.passiveMounts.length)

/-- Fail with the first of two equal neighbours. -/
def requireDistinctNeighbours (duplicate : PendingPassiveEffectOrder → PassiveEffectsFlushError) :
    List PendingPassiveEffectOrder → Except PassiveEffectsFlushError Unit
  | first :: second :: rest => do
      requireFlush (first ≠ second) (duplicate first)
      requireDistinctNeighbours duplicate (second :: rest)
  | _ => .ok ()

/-- Fail with the first pending effect whose record is missing or does not match. -/
def requireEffectRecords {Record : Type} (order : Record → PendingPassiveEffectOrder)
    (isMatching : Record → PendingPassiveEffectRecord → Bool)
    (mismatch : PendingPassiveEffectRecord → PassiveEffectsFlushError) (records : List Record)
    (pendingPassive : PendingPassiveState) : Except PassiveEffectsFlushError Unit :=
  pendingPassive.flushOrderedRecords.forM fun pending =>
    match records.find? fun record => order record = pending.order with
    | none => .error (mismatch pending)
    | some record => requireFlush (isMatching record pending) (mismatch pending)

def FunctionComponentPendingPassiveEffectPhaseCommitRecord.isMatching
    (record : FunctionComponentPendingPassiveEffectPhaseCommitRecord)
    (pending : PendingPassiveEffectRecord) : Bool :=
  record.fiber = pending.fiber && record.phase = pending.order.phase &&
    record.lanes = pending.lanes

def validateFunctionComponentPassiveHandoffs (handoff : PendingPassiveCommitHandoff)
    (pendingPassive : PendingPassiveState)
    (functionComponentHandoffs : List FunctionComponentPendingPassiveCommitHandoff) :
    Except PassiveEffectsFlushError
      (List FunctionComponentPendingPassiveEffectPhaseCommitRecord) := do
  functionComponentHandoffs.forM fun functionComponentHandoff => do
    requireFlush (functionComponentHandoff.root = handoff.root)
      (.pendingPassiveEffectHandoffRootMismatch handoff.root functionComponentHandoff.root)
    requireFlush (functionComponentHandoff.lanes = handoff.lanes)
      (.pendingPassiveEffectHandoffLanesMismatch handoff.root handoff.lanes
        functionComponentHandoff.lanes)
  let actualUnmounts := (functionComponentHandoffs.map (·.queuedUnmountCount)).sum
  let actualMounts := (functionComponentHandoffs.map (·.queuedMountCount)).sum
  requireFlush (actualUnmounts = handoff.pendingUnmountCount ∧
      actualMounts = handoff.pendingMountCount)
    (.pendingPassiveEffectHandoffRecordCountMismatch handoff.root
      handoff.pendingUnmountCount actualUnmounts handoff.pendingMountCount actualMounts)
  let phaseRecords :=
    sortByOrder (·.order) (functionComponentHandoffs.flatMap (·.effectPhaseRecords))
  requireDistinctNeighbours (.pendingPassiveEffectHandoffDuplicateOrder handoff.root)
    (phaseRecords.map (·.order))
  requireEffectRecords (·.order) (·.isMatching)
    (fun pending => .pendingPassiveEffectHandoffRecordMismatch handoff.root pending.fiber
      pending.order.phase pending.order)
    phaseRecords pendingPassive
  return phaseRecords

def validateCommittedFunctionComponentPassiveEffects (handoff : PendingPassiveCommitHandoff)
    (pendingPassive : PendingPassiveState)
    (committedEffects : FunctionComponentCommittedPassiveEffectsSnapshot) :
    Except PassiveEffectsFlushError
      (List FunctionComponentPendingPassiveEffectPhaseCommitRecord) := do
  let actualUnmounts := committedEffects.queuedUnmountCount
  let actualMounts := committedEffects.queuedMountCount
  requireFlush (actualUnmounts = handoff.pendingUnmountCount ∧
      actualMounts = handoff.pendingMountCount)
    (.committedPassiveEffectRecordCountMismatch handoff.root
      handoff.pendingUnmountCount actualUnmounts handoff.pendingMountCount actualMounts)
  let phaseRecords := sortByOrder (·.order) committedEffects.phaseRecords
  requireDistinctNeighbours (.committedPassiveEffectDuplicateOrder handoff.root)
    (phaseRecords.map (·.order))
  requireEffectRecords (·.order) (·.isMatching)
    (fun pending => .committedPassiveEffectRecordMismatch handoff.root pending.fiber
      pending.order.phase pending.order)
    phaseRecords pendingPassive
  return phaseRecords

def validateCommittedDeletedSubtreePassiveEffects (handoff : PendingPassiveCommitHandoff)
    (pendingPassive : PendingPassiveState)
    (committedEffects : FunctionComponentDeletedSubtreePassiveEffectsSnapshot) :
    Except PassiveEffectsFlushError
      (List FunctionComponentPendingPassiveEffectPhaseCommitRecord) := do
  let actualUnmounts := committedEffects.records.length
  requireFlush (actualUnmounts = handoff.pendingUnmountCount ∧ 0 = handoff.pendingMountCount)
    (.committedPassiveEffectRecordCountMismatch handoff.root
      handoff.pendingUnmountCount actualUnmounts handoff.pendingMountCount 0)
  let deletedRecords := sortByOrder (·.unmountOrder) committedEffects.records
  requireDistinctNeighbours (.committedPassiveEffectDuplicateOrder handoff.root)
    (deletedRecords.map (·.unmountOrder))
  requireEffectRecords (·.unmountOrder)
    (fun record pending =>
      record.root = handoff.root && record.lanes = pending.lanes &&
        record.fiber = pending.fiber && pending.order.phase = .unmount &&
        pending.unmountOrigin = some (.deletedSubtree record.nearestMountedAncestor))
    (fun pending => .committedPassiveEffectRecordMismatch handoff.root pending.fiber
      pending.order.phase pending.order)
    deletedRecords pendingPassive
  return sortByOrder (·.order) (committedEffects.records.map (·.unmountPhaseRecord))

/-- The records of the source a flush was given, checked against the pending effects. -/
def validateEffectRecords (commit : PassiveEffectsCommit) (handoff : PendingPassiveCommitHandoff)
    (pendingPassive : PendingPassiveState) :
    PassiveEffectRecordSource →
      Except PassiveEffectsFlushError
        (List FunctionComponentPendingPassiveEffectPhaseCommitRecord)
  | .none => .ok []
  | .functionComponentHandoffs handoffs =>
      validateFunctionComponentPassiveHandoffs handoff pendingPassive handoffs
  | .committedFiberEffects =>
      validateCommittedFunctionComponentPassiveEffects handoff pendingPassive
        commit.functionComponentCommittedPassiveEffects
  | .committedDeletedSubtreeEffects =>
      validateCommittedDeletedSubtreePassiveEffects handoff pendingPassive
        commit.functionComponentDeletedSubtreePassiveEffects

def buildPassiveFlushRecords (handoff : PendingPassiveCommitHandoff)
    (pendingPassive : PendingPassiveState)
    (effectRecords : List FunctionComponentPendingPassiveEffectPhaseCommitRecord) :
    List PassiveEffectFlushRecord :=
  pendingPassive.flushOrderedRecords.mapIdx fun flushIndex pending => {
    flushIndex := flushIndex
    root := handoff.root
    finishedWork := handoff.finishedWork
    committedLanes := handoff.lanes
    fiber := pending.fiber
    effectLanes := pending.lanes
    phase := pending.order.phase
    pendingOrder := pending.order
    unmountOrigin := pending.unmountOrigin
    effect := (effectRecords.find? fun record => record.order = pending.order).map fun record => {
      effectIndex := record.effectIndex
      effect := record.effect
      effectInstance := record.effectInstance
      create := record.create
      destroy := record.destroy
      createInvoked := false
      destroyInvoked := false } }

/-- The checks of a flush, which lead to the records it will go through. -/
def checkedFlushRecords (commit : PassiveEffectsCommit) (handoff : PendingPassiveCommitHandoff)
    (effectRecordSource : PassiveEffectRecordSource) (store : FiberRootStore) :
    Except PassiveEffectsFlushError (List PassiveEffectFlushRecord) := do
  let pendingPassive :=
    (← (store.root commit.record.root).mapError .fiberRootStore).scheduling.pendingPassive
  validatePendingPassiveHandoff handoff pendingPassive
  let effectRecords ← validateEffectRecords commit handoff pendingPassive effectRecordSource
  return buildPassiveFlushRecords handoff pendingPassive effectRecords

end Checks

/-- What was done to the stored destroy of an effect before its call. -/
structure PassiveEffectDestroyHandleClearBeforeExecutionRecord where
  clearOrder : Nat
  flushRecord : PassiveEffectFlushRecord
  effectInstance : HookEffectInstanceId
  destroy : HookEffectCallbackHandle
  storedDestroyBeforeClear : Option HookEffectCallbackHandle
  storedDestroyAfterClear : Option HookEffectCallbackHandle

structure PassiveEffectDestroyCallbackExecutionRequest where
  executionOrder : Nat
  flushRecord : PassiveEffectFlushRecord
  destroy : HookEffectCallbackHandle
  destroyHandleClearBeforeExecution :
    Option PassiveEffectDestroyHandleClearBeforeExecutionRecord

structure PassiveEffectDestroyCallbackExecutionRecord where
  request : PassiveEffectDestroyCallbackExecutionRequest

structure PassiveEffectDestroyCallbackErrorRecord where
  execution : PassiveEffectDestroyCallbackExecutionRecord
  error : PassiveEffectDestroyCallbackErrorHandle

structure PassiveEffectMountCreateCallbackExecutionRequest where
  executionOrder : Nat
  flushRecord : PassiveEffectFlushRecord
  create : HookEffectCallbackHandle

structure PassiveEffectMountCreateCallbackExecutionRecord where
  request : PassiveEffectMountCreateCallbackExecutionRequest
  returnedDestroy : Option HookEffectCallbackHandle

structure PassiveEffectMountCreateCallbackErrorRecord where
  execution : PassiveEffectMountCreateCallbackExecutionRecord
  error : PassiveEffectMountCreateCallbackErrorHandle

inductive PassiveEffectCallbackExecutionErrorKind where
  | destroy
  | mountCreate
deriving DecidableEq

inductive PassiveEffectCallbackExecutionErrorHandle where
  | destroy (error : PassiveEffectDestroyCallbackErrorHandle)
  | mountCreate (error : PassiveEffectMountCreateCallbackErrorHandle)
deriving DecidableEq

/-- A failed call of a callback. -/
structure PassiveEffectCallbackExecutionErrorMetadata where
  kind : PassiveEffectCallbackExecutionErrorKind
  flushRecord : PassiveEffectFlushRecord
  callback : HookEffectCallbackHandle
  error : PassiveEffectCallbackExecutionErrorHandle

inductive RootErrorCaptureSource where
  | passiveEffectDestroy
  | passiveEffectMountCreate
deriving DecidableEq

structure RootErrorCaptureScheduleRecord where
  source : RootErrorCaptureSource
  root : FiberRootId
  rootFiber : FiberId
  sourceFiber : FiberId
  lane : Lane
  pendingLanesBefore : Lanes
  pendingLanesAfter : Lanes
  scheduledRoot : ScheduledRootUpdateResult
deriving DecidableEq

structure PassiveEffectRootErrorCaptureRecord where
  captureOrder : Nat
  metadata : PassiveEffectCallbackExecutionErrorMetadata
  schedule : RootErrorCaptureScheduleRecord

inductive PassiveEffectsFlushStatus where
  | noPendingPassive
  | flushed
deriving DecidableEq

structure PassiveEffectsFlushResult where
  root : FiberRootId
  finishedWork : Option FiberId
  lanes : Lanes
  status : PassiveEffectsFlushStatus
  records : List PassiveEffectFlushRecord
  destroyHandleClears : List PassiveEffectDestroyHandleClearBeforeExecutionRecord
  destroyCallbackExecutions : List PassiveEffectDestroyCallbackExecutionRecord
  destroyCallbackErrors : List PassiveEffectDestroyCallbackErrorRecord
  mountCreateCallbackExecutions : List PassiveEffectMountCreateCallbackExecutionRecord
  mountCreateCallbackErrors : List PassiveEffectMountCreateCallbackErrorRecord
  rootErrorCaptures : List PassiveEffectRootErrorCaptureRecord

/-- Calls destroys; what the calls do is kept in a state of its own. -/
abbrev PassiveEffectDestroyCallbackExecutor (σ : Type) :=
  PassiveEffectDestroyCallbackExecutionRequest →
    EStateM PassiveEffectDestroyCallbackErrorHandle σ Unit

/-- Calls creates, which may return a destroy. -/
abbrev PassiveEffectMountCreateCallbackExecutor (τ : Type) :=
  PassiveEffectMountCreateCallbackExecutionRequest →
    EStateM PassiveEffectMountCreateCallbackErrorHandle τ (Option HookEffectCallbackHandle)

/-- All that a flush may change: the store, the hook effects it was given to clear
destroys in, and what the executors keep. -/
structure PassiveFlushWorld (σ τ : Type) where
  store : FiberRootStore
  destroyHandleClearStore : Option HookEffectArena
  destroyExecutorState : σ
  mountCreateExecutorState : τ

abbrev PassiveFlushM (σ τ : Type) := EStateM PassiveEffectsFlushError (PassiveFlushWorld σ τ)

section Executions

variable {σ τ α : Type}

def onRootStore (body : RootStoreM PassiveEffectsFlushError α) : PassiveFlushM σ τ α :=
  focus (·.store) (fun store world => { world with store := store }) body

def callDestroy (destroyExecutor : PassiveEffectDestroyCallbackExecutor σ)
    (request : PassiveEffectDestroyCallbackExecutionRequest) :
    PassiveFlushM σ τ (Except PassiveEffectDestroyCallbackErrorHandle Unit) := fun world =>
  match (destroyExecutor request).run world.destroyExecutorState with
  | .ok _ called => .ok (.ok ()) { world with destroyExecutorState := called }
  | .error error called => .ok (.error error) { world with destroyExecutorState := called }

def callMountCreate (mountCreateExecutor : PassiveEffectMountCreateCallbackExecutor τ)
    (request : PassiveEffectMountCreateCallbackExecutionRequest) :
    PassiveFlushM σ τ
      (Except PassiveEffectMountCreateCallbackErrorHandle (Option HookEffectCallbackHandle)) :=
  fun world =>
  match (mountCreateExecutor request).run world.mountCreateExecutorState with
  | .ok returned called => .ok (.ok returned) { world with mountCreateExecutorState := called }
  | .error error called => .ok (.error error) { world with mountCreateExecutorState := called }

/-- The instance whose stored destroy is cleared for a record, once it is checked. -/
def checkedDestroyHandle (hookStore : HookEffectArena) (record : PassiveEffectFlushRecord)
    (destroy : HookEffectCallbackHandle) :
    Except PassiveEffectsFlushError HookEffectInstanceId := do
  match record.effectInstance with
  | none =>
      .error (.passiveDestroyHandleClearMissingEffectInstance record.root record.fiber record.phase
        record.pendingOrder destroy)
  | some effectInstance =>
      let instanceRecord ← (hookStore.getInstance effectInstance).mapError
        (.passiveDestroyHandleClearHookEffectArena record.root record.fiber record.pendingOrder
          effectInstance)
      requireFlush (instanceRecord.destroy = some destroy)
        (.passiveDestroyHandleClearStoredDestroyMismatch record.root record.fiber
          record.pendingOrder effectInstance (some destroy) instanceRecord.destroy)
      return effectInstance

/-- Take the stored destroy of a record, if the flush was given a store to take it from. -/
def clearPassiveDestroyHandleBeforeExecution (record : PassiveEffectFlushRecord) (clearOrder : Nat)
    (destroy : HookEffectCallbackHandle) :
    PassiveFlushM σ τ (Option PassiveEffectDestroyHandleClearBeforeExecutionRecord) := do
  match (← get).destroyHandleClearStore with
  | none => return none
  | some hookStore =>
      let effectInstance ← query fun _ => checkedDestroyHandle hookStore record destroy
      modify fun world =>
        { world with destroyHandleClearStore := some (hookStore.takeDestroy effectInstance) }
      return some {
        clearOrder := clearOrder
        flushRecord := record
        effectInstance := effectInstance
        destroy := destroy
        storedDestroyBeforeClear := some destroy
        storedDestroyAfterClear := none }

/-- The records of a flush with what its destroys have left so far. -/
structure PassiveDestroyRun where
  records : List PassiveEffectFlushRecord
  destroyHandleClears : List PassiveEffectDestroyHandleClearBeforeExecutionRecord
  executions : List PassiveEffectDestroyCallbackExecutionRecord
  errors : List PassiveEffectDestroyCallbackErrorRecord

def PassiveDestroyRun.start (records : List PassiveEffectFlushRecord) : PassiveDestroyRun where
  records := records
  destroyHandleClears := []
  executions := []
  errors := []

def isEligibleUnmount (record : PassiveEffectFlushRecord) : Bool :=
  record.phase = .unmount && record.destroyCallback.any (·.isSome)

/-- The positions of the eligible unmounts, in the order of their flush. -/
def eligibleUnmounts (records : List PassiveEffectFlushRecord) : List Nat :=
  (sortByFlushOrder Prod.fst (records.zipIdx.filter (isEligibleUnmount ·.1))).map Prod.snd

/-- Call the destroy of the record at a position. -/
def executePassiveDestroyCallback (destroyExecutor : PassiveEffectDestroyCallbackExecutor σ)
    (run : PassiveDestroyRun) (recordIndex : Nat) : PassiveFlushM σ τ PassiveDestroyRun := do
  -- The source panics without a record or a destroy there, which no eligible position lacks.
  match run.records[recordIndex]? with
  | none => return run
  | some record =>
      match record.destroyCallback with
      | none => return run
      | some destroy =>
          let destroyHandleClear ← clearPassiveDestroyHandleBeforeExecution record
            run.destroyHandleClears.length destroy
          let request : PassiveEffectDestroyCallbackExecutionRequest := {
            executionOrder := run.executions.length
            flushRecord := record
            destroy := destroy
            destroyHandleClearBeforeExecution := destroyHandleClear }
          let outcome ← callDestroy destroyExecutor request
          return {
            records := run.records.set recordIndex record.markDestroyCallbackInvoked
            destroyHandleClears := run.destroyHandleClears ++ destroyHandleClear.toList
            executions := run.executions ++ [⟨request⟩]
            errors :=
              match outcome with
              | .ok _ => run.errors
              | .error error => run.errors ++ [⟨⟨request⟩, error⟩] }

def executePassiveDestroyCallbacks (destroyExecutor : PassiveEffectDestroyCallbackExecutor σ)
    (records : List PassiveEffectFlushRecord) : PassiveFlushM σ τ PassiveDestroyRun :=
  (eligibleUnmounts records).foldlM (executePassiveDestroyCallback destroyExecutor) (.start records)

/-- The records gone through with what their creates have left. -/
structure PassiveMountCreateRun where
  records : List PassiveEffectFlushRecord
  executions : List PassiveEffectMountCreateCallbackExecutionRecord
  errors : List PassiveEffectMountCreateCallbackErrorRecord

def PassiveMountCreateRun.start : PassiveMountCreateRun where
  records := []
  executions := []
  errors := []

def eligibleMountCreate (record : PassiveEffectFlushRecord) : Option HookEffectCallbackHandle :=
  if record.phase = .mount then record.createCallback.filter (·.isSome) else none

/-- Go on to a record and call its create, if it has one to call. -/
def executePassiveMountCreateCallback
    (mountCreateExecutor : PassiveEffectMountCreateCallbackExecutor τ)
    (run : PassiveMountCreateRun) (record : PassiveEffectFlushRecord) :
    PassiveFlushM σ τ PassiveMountCreateRun := do
  match eligibleMountCreate record with
  | none => return { run with records := run.records ++ [record] }
  | some create =>
      let request : PassiveEffectMountCreateCallbackExecutionRequest := {
        executionOrder := run.executions.length
        flushRecord := record
        create := create }
      match ← callMountCreate mountCreateExecutor request with
      | .ok returned =>
          return {
            records := run.records ++ [record.markCreateCallbackInvoked]
            executions := run.executions ++ [⟨request, returned.filter (·.isSome)⟩]
            errors := run.errors }
      | .error error =>
          return {
            records := run.records ++ [record.markCreateCallbackInvoked]
            executions := run.executions ++ [⟨request, none⟩]
            errors := run.errors ++ [⟨⟨request, none⟩, error⟩] }

def executePassiveMountCreateCallbacks
    (mountCreateExecutor : PassiveEffectMountCreateCallbackExecutor τ)
    (records : List PassiveEffectFlushRecord) : PassiveFlushM σ τ PassiveMountCreateRun :=
  records.foldlM (executePassiveMountCreateCallback mountCreateExecutor) .start

end Executions

/-- The failed calls, in the order of the flush. -/
def collectPassiveCallbackExecutionErrorMetadata
    (destroyErrors : List PassiveEffectDestroyCallbackErrorRecord)
    (mountCreateErrors : List PassiveEffectMountCreateCallbackErrorRecord) :
    List PassiveEffectCallbackExecutionErrorMetadata :=
  let ofDestroys := destroyErrors.map fun error => {
    kind := .destroy
    flushRecord := error.execution.request.flushRecord
    callback := error.execution.request.destroy
    error := .destroy error.error }
  let ofMountCreates := mountCreateErrors.map fun error => {
    kind := .mountCreate
    flushRecord := error.execution.request.flushRecord
    callback := error.execution.request.create
    error := .mountCreate error.error }
  sortByFlushOrder (·.flushRecord) (ofDestroys ++ ofMountCreates)

def capturePassiveEffectRootError (rootId : FiberRootId) (sourceFiber : FiberId)
    (source : RootErrorCaptureSource) : RootSchedulerM RootErrorCaptureScheduleRecord := do
  let root ← getRoot .fiberRootStore rootId
  let lane := Lane.sync
  let markedRoot ← mapError .concurrentUpdate (markUpdateLaneFromFiberToRoot sourceFiber lane)
  if markedRoot ≠ rootId then
    throw (.rescheduleRecordWrongRoot rootId markedRoot sourceFiber)
  let scheduledRoot ← ensureRootScheduleEntry rootId
  let after ← getRoot .fiberRootStore rootId
  return {
    source := source
    root := rootId
    rootFiber := root.current
    sourceFiber := sourceFiber
    lane := lane
    pendingLanesBefore := root.lanes.pendingLanes
    pendingLanesAfter := after.lanes.pendingLanes
    scheduledRoot := scheduledRoot }

def PassiveEffectCallbackExecutionErrorKind.captureSource :
    PassiveEffectCallbackExecutionErrorKind → RootErrorCaptureSource
  | .destroy => .passiveEffectDestroy
  | .mountCreate => .passiveEffectMountCreate

/-- Capture the failed calls with their roots, one after another. -/
def schedulePassiveCallbackExecutionRootErrorCaptures
    (metadata : List PassiveEffectCallbackExecutionErrorMetadata) :
    RootSchedulerM (List PassiveEffectRootErrorCaptureRecord) :=
  metadata.foldlM
    (fun captures error => do
      let schedule ← capturePassiveEffectRootError error.flushRecord.root error.flushRecord.fiber
        error.kind.captureSource
      return captures ++ [⟨captures.length, error, schedule⟩])
    []

def executeGivenDestroyCallbacks {σ τ : Type}
    (destroyExecutor : Option (PassiveEffectDestroyCallbackExecutor σ))
    (records : List PassiveEffectFlushRecord) : PassiveFlushM σ τ PassiveDestroyRun :=
  match destroyExecutor with
  | some destroyExecutor => executePassiveDestroyCallbacks destroyExecutor records
  | none => pure (.start records)

/-- The creates of a flush, which are called only with an executor for them. -/
def executeGivenMountCreateCallbacks {σ τ : Type}
    (mountCreateExecutor : Option (PassiveEffectMountCreateCallbackExecutor τ))
    (records : List PassiveEffectFlushRecord) : PassiveFlushM σ τ PassiveMountCreateRun :=
  match mountCreateExecutor with
  | some mountCreateExecutor => executePassiveMountCreateCallbacks mountCreateExecutor records
  | none => pure { PassiveMountCreateRun.start with records := records }

def flushPassiveEffectsAfterCommitInner {σ τ : Type} (commit : PassiveEffectsCommit)
    (effectRecordSource : PassiveEffectRecordSource)
    (destroyExecutor : Option (PassiveEffectDestroyCallbackExecutor σ))
    (mountCreateExecutor : Option (PassiveEffectMountCreateCallbackExecutor τ)) :
    PassiveFlushM σ τ PassiveEffectsFlushResult := do
  match commit.record.pendingPassiveHandoff with
  | none =>
      return {
        root := commit.record.root
        finishedWork := none
        lanes := Lanes.no
        status := .noPendingPassive
        records := []
        destroyHandleClears := []
        destroyCallbackExecutions := []
        destroyCallbackErrors := []
        mountCreateCallbackExecutions := []
        mountCreateCallbackErrors := []
        rootErrorCaptures := [] }
  | some handoff =>
      let records ← onRootStore (query (checkedFlushRecords commit handoff effectRecordSource))
      onRootStore (modifyRoot .fiberRootStore commit.record.root
        (FiberRoot.onScheduling (·.clearPendingPassive)))
      let destroyed ← executeGivenDestroyCallbacks destroyExecutor records
      let created ← executeGivenMountCreateCallbacks mountCreateExecutor destroyed.records
      let metadata := collectPassiveCallbackExecutionErrorMetadata destroyed.errors created.errors
      let rootErrorCaptures ← onRootStore (mapError .rootScheduler
        (schedulePassiveCallbackExecutionRootErrorCaptures metadata))
      return {
        root := commit.record.root
        finishedWork := some handoff.finishedWork
        lanes := handoff.lanes
        status := .flushed
        records := created.records
        destroyHandleClears := destroyed.destroyHandleClears
        destroyCallbackExecutions := destroyed.executions
        destroyCallbackErrors := destroyed.errors
        mountCreateCallbackExecutions := created.executions
        mountCreateCallbackErrors := created.errors
        rootErrorCaptures := rootErrorCaptures }

end PassiveEffects

end FastReact
