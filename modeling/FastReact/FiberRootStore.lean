import FastReact.FiberTopology
import FastReact.RootConfig
import FastReact.RootLanes
import FastReact.UpdateQueue

namespace FastReact

open ErrorState

/-!
# The store of roots

The store keeps the roots, their fibers, states and update queues, the updates that
are staged for them, and the state of the root scheduler.  The scheduled roots form
an intrusive list: the scheduler names its ends, each root its successor.
-/

/-- What a root knows about its own scheduling. -/
structure RootSchedulingState where
  nextScheduledRoot : Option FiberRootId
  callbackNode : RootSchedulerCallbackHandle
  callbackPriority : RootCallbackPriority
  timeoutHandle : Option TimeoutHandle
  cancelPendingCommit : PendingCommitCancelHandle
  workInProgress : Option FiberId
  workInProgressRootRenderLanes : Lanes
  renderExitStatus : RootRenderExitStatus
  pendingPassive : PendingPassiveState

namespace RootSchedulingState

def new : RootSchedulingState where
  nextScheduledRoot := none
  callbackNode := .none
  callbackPriority := .no
  timeoutHandle := none
  cancelPendingCommit := .none
  workInProgress := none
  workInProgressRootRenderLanes := Lanes.no
  renderExitStatus := .noWork
  pendingPassive := .none

def setNextScheduledRoot (scheduling : RootSchedulingState) (next : Option FiberRootId) :
    RootSchedulingState :=
  { scheduling with nextScheduledRoot := next }

def setCallback (scheduling : RootSchedulingState) (node : RootSchedulerCallbackHandle)
    (priority : RootCallbackPriority) : RootSchedulingState :=
  { scheduling with
    callbackNode := node
    callbackPriority := priority }

def clearCallback (scheduling : RootSchedulingState) : RootSchedulingState :=
  scheduling.setCallback .none .no

def recordRenderPhaseWork (scheduling : RootSchedulingState) (workInProgress : FiberId)
    (renderLanes : Lanes) (renderExitStatus : RootRenderExitStatus) : RootSchedulingState :=
  { scheduling with
    workInProgress := some workInProgress
    workInProgressRootRenderLanes := renderLanes
    renderExitStatus := renderExitStatus }

def clearRenderPhaseWork (scheduling : RootSchedulingState) : RootSchedulingState :=
  { scheduling with
    workInProgress := none
    workInProgressRootRenderLanes := Lanes.no
    renderExitStatus := .noWork }

def clearPendingPassive (scheduling : RootSchedulingState) : RootSchedulingState :=
  { scheduling with pendingPassive := .none }

end RootSchedulingState

structure FiberRoot where
  current : FiberId
  lanes : RootLaneState
  scheduling : RootSchedulingState
  finishedWork : Option FiberId
  finishedLanes : Lanes
  pendingCommit : PendingCommitHandle

namespace FiberRoot

def newClient (current : FiberId) : FiberRoot where
  current := current
  lanes := RootLaneState.new
  scheduling := RootSchedulingState.new
  finishedWork := none
  finishedLanes := Lanes.no
  pendingCommit := .none

def setCurrent (root : FiberRoot) (current : FiberId) : FiberRoot :=
  { root with current := current }

def clearFinishedWork (root : FiberRoot) : FiberRoot :=
  { root with
    finishedWork := none
    finishedLanes := Lanes.no }

def onLanes (change : RootLaneState → RootLaneState) (root : FiberRoot) : FiberRoot :=
  { root with lanes := change root.lanes }

def onScheduling (change : RootSchedulingState → RootSchedulingState) (root : FiberRoot) :
    FiberRoot :=
  { root with scheduling := change root.scheduling }

end FiberRoot

inductive HostRootStateStoreError where
  | emptyHandle
  | invalidHandle (handle : StateHandle)
deriving DecidableEq

inductive FiberRootStoreError where
  | invalidRootId (id : FiberRootId)
  | vacantRoot (id : FiberRootId)
  | staleRootId (id : FiberRootId) (currentGeneration : Nat)
  | fiberTopology (error : FiberTopologyError)
  | hostRootState (error : HostRootStateStoreError)
deriving DecidableEq

/-- The error of a root that does not resolve. -/
def FiberRootStoreError.ofLookup (id : FiberRootId) : LookupError → FiberRootStoreError
  | .outOfRange => .invalidRootId id
  | .stale currentGeneration => .staleRootId id currentGeneration
  | .vacant => .vacantRoot id

structure StagedConcurrentUpdate where
  fiber : FiberId
  queue : Option UpdateQueueHandle
  update : Option UpdateId
  lane : Lane
deriving DecidableEq

structure ConcurrentUpdateStaging where
  staged : List StagedConcurrentUpdate
  concurrentlyUpdatedLanes : Lanes
deriving DecidableEq

namespace ConcurrentUpdateStaging

def new : ConcurrentUpdateStaging where
  staged := []
  concurrentlyUpdatedLanes := Lanes.no

def push (staging : ConcurrentUpdateStaging) (entry : StagedConcurrentUpdate) :
    ConcurrentUpdateStaging where
  staged := staging.staged ++ [entry]
  concurrentlyUpdatedLanes := staging.concurrentlyUpdatedLanes.mergeLane entry.lane

end ConcurrentUpdateStaging

structure RootSchedulerState where
  firstScheduledRoot : Option FiberRootId
  lastScheduledRoot : Option FiberRootId
  didScheduleMicrotask : Bool
  didScheduleMicrotaskAct : Bool
  mightHavePendingSyncWork : Bool
  isFlushingWork : Bool
deriving DecidableEq

def RootSchedulerState.new : RootSchedulerState where
  firstScheduledRoot := none
  lastScheduledRoot := none
  didScheduleMicrotask := false
  didScheduleMicrotaskAct := false
  mightHavePendingSyncWork := false
  isFlushingWork := false

inductive SchedulerPriority where
  | immediate
  | userBlocking
  | normal
  | low
  | idle
deriving DecidableEq

/-- A callback asked of the host scheduler. -/
structure SchedulerCallbackRequest where
  node : RootSchedulerCallbackHandle
  root : FiberRootId
  schedulerPriority : SchedulerPriority
  callbackPriority : RootCallbackPriority
deriving DecidableEq

inductive SchedulerActQueueTaskKind where
  | rootSchedule
  | renderCallback
deriving DecidableEq

structure SchedulerActQueueRequest where
  queueOrder : Nat
  kind : SchedulerActQueueTaskKind
  node : RootSchedulerCallbackHandle
  root : Option FiberRootId
  schedulerPriority : Option SchedulerPriority
  callbackPriority : RootCallbackPriority
deriving DecidableEq

/-- What was asked of the host scheduler. -/
structure SchedulerBridge where
  actQueueActive : Bool
  nextCallbackHandle : Nat
  nextMicrotaskHandle : Nat
  actQueueRequests : List SchedulerActQueueRequest
  callbackRequests : List SchedulerCallbackRequest
  cancellationRecords : List RootSchedulerCallbackHandle
deriving DecidableEq

namespace SchedulerBridge

def new : SchedulerBridge where
  actQueueActive := false
  nextCallbackHandle := 1
  nextMicrotaskHandle := 1
  actQueueRequests := []
  callbackRequests := []
  cancellationRecords := []

/-- The node that stands for a callback in the act queue: all bits of a `u64`. -/
def fakeActCallbackNode : RootSchedulerCallbackHandle := ⟨2 ^ 64 - 1⟩

def isFakeActCallbackNode (node : RootSchedulerCallbackHandle) : Bool :=
  node = fakeActCallbackNode

def requestMicrotask (bridge : SchedulerBridge) : SchedulerBridge :=
  { bridge with nextMicrotaskHandle := bridge.nextMicrotaskHandle + 1 }

def requestActRootScheduleTask (bridge : SchedulerBridge) : SchedulerBridge :=
  { bridge with
    actQueueRequests := bridge.actQueueRequests ++
      [{ queueOrder := bridge.actQueueRequests.length
         kind := .rootSchedule
         node := .none
         root := none
         schedulerPriority := none
         callbackPriority := .no }] }

def scheduleActCallback (bridge : SchedulerBridge) (root : FiberRootId)
    (schedulerPriority : SchedulerPriority) (callbackPriority : RootCallbackPriority) :
    SchedulerBridge :=
  { bridge with
    actQueueRequests := bridge.actQueueRequests ++
      [{ queueOrder := bridge.actQueueRequests.length
         kind := .renderCallback
         node := fakeActCallbackNode
         root := some root
         schedulerPriority := some schedulerPriority
         callbackPriority := callbackPriority }] }

def scheduleCallback (bridge : SchedulerBridge) (root : FiberRootId)
    (schedulerPriority : SchedulerPriority) (callbackPriority : RootCallbackPriority) :
    SchedulerCallbackRequest × SchedulerBridge :=
  let request : SchedulerCallbackRequest :=
    { node := ⟨bridge.nextCallbackHandle⟩
      root := root
      schedulerPriority := schedulerPriority
      callbackPriority := callbackPriority }
  (request,
    { bridge with
      nextCallbackHandle := bridge.nextCallbackHandle + 1
      callbackRequests := bridge.callbackRequests ++ [request] })

def cancelCallback (bridge : SchedulerBridge) (node : RootSchedulerCallbackHandle) :
    SchedulerBridge :=
  if node.isNone || isFakeActCallbackNode node then
    bridge
  else
    { bridge with cancellationRecords := bridge.cancellationRecords ++ [node] }

end SchedulerBridge

structure FiberRootStore where
  roots : SlotArena FiberRootTag FiberRoot
  fiberArena : FiberArena
  hostRootStates : List HostRootState
  updateQueues : UpdateQueueStore
  concurrentUpdates : ConcurrentUpdateStaging
  rootScheduler : RootSchedulerState
  schedulerBridge : SchedulerBridge

abbrev RootStoreM (ε : Type) := EStateM ε FiberRootStore

namespace FiberRootStore

def new : FiberRootStore where
  roots := SlotArena.empty
  fiberArena := FiberArena.new
  hostRootStates := []
  updateQueues := UpdateQueueStore.new
  concurrentUpdates := ConcurrentUpdateStaging.new
  rootScheduler := RootSchedulerState.new
  schedulerBridge := SchedulerBridge.new

def root (store : FiberRootStore) (id : FiberRootId) : Except FiberRootStoreError FiberRoot :=
  (store.roots.find id).mapError (FiberRootStoreError.ofLookup id)

/-- Resolve a state. -/
def hostRootState (store : FiberRootStore) (handle : StateHandle) :
    Except HostRootStateStoreError HostRootState :=
  if handle.isNone then
    .error .emptyHandle
  else
    match store.hostRootStates[handle.raw - 1]? with
    | some state => .ok state
    | none => .error (.invalidHandle handle)

end FiberRootStore

variable {ε α : Type}

def onFibers (wrap : FiberTopologyError → ε) (body : FiberArenaM α) : RootStoreM ε α :=
  mapError wrap <|
    focus (·.fiberArena) (fun arena store => { store with fiberArena := arena }) body

def onUpdateQueues (wrap : UpdateQueueError → ε) (body : UpdateQueueM α) : RootStoreM ε α :=
  mapError wrap <|
    focus (·.updateQueues) (fun queues store => { store with updateQueues := queues }) body

def getRoot (wrap : FiberRootStoreError → ε) (id : FiberRootId) : RootStoreM ε FiberRoot :=
  query fun store => (store.root id).mapError wrap

def getFiber (wrap : FiberTopologyError → ε) (id : FiberId) : RootStoreM ε FiberNode :=
  query fun store => (store.fiberArena.get id).mapError wrap

/-- Change a resolvable root in place. -/
def modifyRoot (wrap : FiberRootStoreError → ε) (id : FiberRootId)
    (change : FiberRoot → FiberRoot) : RootStoreM ε Unit := do
  let _ ← getRoot wrap id
  modify fun store => { store with roots := store.roots.modify id change }

def modifyScheduler (change : RootSchedulerState → RootSchedulerState) : RootStoreM ε Unit :=
  modify fun store => { store with rootScheduler := change store.rootScheduler }

def modifyBridge (change : SchedulerBridge → SchedulerBridge) : RootStoreM ε Unit :=
  modify fun store => { store with schedulerBridge := change store.schedulerBridge }

def insertHostRootState (state : HostRootState) : RootStoreM ε StateHandle :=
  modifyGet fun store =>
    (⟨store.hostRootStates.length + 1⟩,
      { store with hostRootStates := store.hostRootStates ++ [state] })

section Runs

variable {store : FiberRootStore}

theorem FiberRootStore.root_eq_ok_iff {id : FiberRootId} {root : FiberRoot} :
    store.root id = .ok root ↔ store.roots.get? id = some root := by
  rw [← SlotArena.find_eq_ok_iff, FiberRootStore.root]
  cases store.roots.find id <;> simp [Except.mapError]

theorem run_getRoot {id : FiberRootId} {root : FiberRoot} (live : store.roots.get? id = some root)
    (wrap : FiberRootStoreError → ε) : (getRoot wrap id).run store = .ok root store := by
  simp only [getRoot, run_query, FiberRootStore.root_eq_ok_iff.mpr live, Except.mapError]

theorem run_getFiber {id : FiberId} {node : FiberNode} (live : store.fiberArena.get? id = some node)
    (wrap : FiberTopologyError → ε) : (getFiber wrap id).run store = .ok node store := by
  simp only [getFiber, run_query, FiberArena.get_eq_ok_iff.mpr live, Except.mapError]

theorem run_modifyRoot {id : FiberRootId} {root : FiberRoot}
    (live : store.roots.get? id = some root) (wrap : FiberRootStoreError → ε)
    (change : FiberRoot → FiberRoot) :
    (modifyRoot wrap id change).run store =
      .ok () { store with roots := store.roots.modify id change } := by
  simp only [modifyRoot, run_bind, run_getRoot live, run_modify]

theorem run_onFibers {body : FiberArenaM α} {value : α} {after : FiberArena}
    (ran : body.run store.fiberArena = .ok value after) (wrap : FiberTopologyError → ε) :
    (onFibers wrap body).run store = .ok value { store with fiberArena := after } := by
  simp only [onFibers, run_mapError, run_focus, ran]

theorem run_onUpdateQueues {body : UpdateQueueM α} {value : α} {after : UpdateQueueStore}
    (ran : body.run store.updateQueues = .ok value after) (wrap : UpdateQueueError → ε) :
    (onUpdateQueues wrap body).run store = .ok value { store with updateQueues := after } := by
  simp only [onUpdateQueues, run_mapError, run_focus, ran]

end Runs

section Frames

variable {relation : FiberRootStore → FiberRootStore → Prop} [IsPreorder _ relation]

theorem within_getRoot (wrap : FiberRootStoreError → ε) (id : FiberRootId) :
    Within relation (getRoot wrap id) :=
  .query _

theorem within_getFiber (wrap : FiberTopologyError → ε) (id : FiberId) :
    Within relation (getFiber wrap id) :=
  .query _

theorem within_modifyRoot {change : FiberRoot → FiberRoot} {id : FiberRootId}
    (wrap : FiberRootStoreError → ε)
    (related : ∀ store : FiberRootStore,
      relation store { store with roots := store.roots.modify id change }) :
    Within relation (modifyRoot wrap id change) :=
  .bind (within_getRoot wrap id) fun _ => .modify related

omit [IsPreorder _ relation] in
theorem within_onFibers (wrap : FiberTopologyError → ε) (body : FiberArenaM α)
    (related : ∀ arena (store : FiberRootStore),
      relation store { store with fiberArena := arena }) : Within relation (onFibers wrap body) :=
  .mapError wrap (.focus related)

omit [IsPreorder _ relation] in
theorem within_onUpdateQueues (wrap : UpdateQueueError → ε) (body : UpdateQueueM α)
    (related : ∀ queues (store : FiberRootStore),
      relation store { store with updateQueues := queues }) :
    Within relation (onUpdateQueues wrap body) :=
  .mapError wrap (.focus related)

end Frames

/-- Create a root with its HostRoot fiber and its first state.  The mode is the one the
options give to a concurrent root. -/
def createClientRoot (formState : RootFormStateHandle) (mode : FiberMode) :
    RootStoreM FiberRootStoreError FiberRootId := do
  let state ← insertHostRootState (HostRootState.client .none formState)
  let current ← onFibers .fiberTopology (createFiber .hostRoot none .none mode)
  let id ← modifyGet fun (store : FiberRootStore) =>
    let (id, roots) := store.roots.insert (FiberRoot.newClient current)
    (id, { store with roots := roots })
  onFibers .fiberTopology <| modifyFiber current fun node =>
    { node with
      stateNode := some id
      memoizedState := state }
  return id

/-- The update queue of the current fiber of a root, created when there is none. -/
def ensureHostRootUpdateQueue (rootId : FiberRootId) :
    RootStoreM FiberRootStoreError UpdateQueueHandle := do
  let current := (← getRoot id rootId).current
  let currentNode ← getFiber .fiberTopology current
  if currentNode.updateQueue.isSome then
    return currentNode.updateQueue
  let state ← query fun store =>
    (store.hostRootState currentNode.memoizedState).mapError .hostRootState
  let queue ← modifyGet fun (store : FiberRootStore) =>
    (⟨store.updateQueues.queues.length + 1⟩,
      { store with
        updateQueues :=
          { store.updateQueues with
            queues := store.updateQueues.queues ++ [UpdateQueue.new state] } })
  onFibers .fiberTopology <| modifyFiber current fun node => { node with updateQueue := queue }
  match (← getFiber .fiberTopology current).alternate with
  | some alternate =>
      onFibers .fiberTopology <| modifyFiber alternate fun node =>
        { node with updateQueue := queue }
  | none => pure ()
  return queue

end FastReact
