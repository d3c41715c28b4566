import FastReact.ConcurrentUpdates
import FastReact.RootCommit

namespace FastReact

open ErrorState

/-!
# The root scheduler

Roots with work are kept in the list of scheduled roots.  A microtask goes through the
list, drops the roots without work and asks the host scheduler for callbacks of the
others; synchronous work has no callback and is left to the flush.
-/

/-- Errors of the scheduler.  The source has no `endlessSchedule`: it stands for a loop
over the scheduled roots that has not ended within its rounds. -/
inductive RootSchedulerError where
  | fiberRootStore (error : FiberRootStoreError)
  | concurrentUpdate (error : ConcurrentUpdateError)
  | rootWorkLoop (error : RootWorkLoopError)
  | scheduleRecordWrongFiber (root : FiberRootId) (expected actual : FiberId)
  | rescheduleRecordWrongRoot (expected actual : FiberRootId) (fiber : FiberId)
  | rescheduleRecordMissingLane (root : FiberRootId) (fiber : FiberId) (lane : Lane)
      (pendingLanes : Lanes)
  | endlessSchedule
deriving DecidableEq

abbrev RootSchedulerM := RootStoreM RootSchedulerError

structure RootScheduleUpdateRecord where
  root : FiberRootId
  fiber : FiberId
  lane : Lane
deriving DecidableEq

structure RootRescheduleRequestRecord where
  root : FiberRootId
  fiber : FiberId
  lane : Lane
deriving DecidableEq

structure ScheduledRootUpdateResult where
  root : FiberRootId
  inserted : Bool
  mightHavePendingSyncWork : Bool
deriving DecidableEq

structure RootLaneSelection where
  priorityLanes : Lanes
  renderLanes : Lanes
deriving DecidableEq

def RootLaneSelection.noWork : RootLaneSelection := ⟨Lanes.no, Lanes.no⟩

inductive RootTaskScheduleOutcome where
  | noWork
  | sync
  | reused
  | scheduled
deriving DecidableEq

structure RootTaskScheduleRecord where
  root : FiberRootId
  nextLanes : Lanes
  outcome : RootTaskScheduleOutcome
  callbackPriority : RootCallbackPriority
  callbackNode : RootSchedulerCallbackHandle
deriving DecidableEq

def syncFlushLanes : Lanes := Lanes.syncHydration.merge Lanes.sync

/-- The priority of the callback for a set of lanes. -/
def schedulerPriorityForLanes (lanes : Lanes) : SchedulerPriority :=
  let lane := lanes.highestPriorityLane
  if lane.bits.toNat ≤ Lane.inputContinuous.bits.toNat then .userBlocking
  else if (lane.toLanes.intersect Lanes.nonIdle).isNonEmpty then .normal
  else .idle

namespace FiberRoot

def hasPendingCommit (root : FiberRoot) : Bool :=
  root.pendingCommit.isSome || root.scheduling.cancelPendingCommit.isSome ||
    root.scheduling.timeoutHandle.isSome

/-- The lanes a scheduled task of the root would render. -/
def selectLanes (root : FiberRoot) : RootLaneSelection :=
  let wipLanes :=
    if root.scheduling.workInProgress.isSome then
      root.scheduling.workInProgressRootRenderLanes
    else Lanes.no
  let priorityLanes := root.lanes.getNextLanes wipLanes root.hasPendingCommit
  if priorityLanes.isEmpty then
    .noWork
  else
    { priorityLanes := priorityLanes
      renderLanes := root.lanes.entangledLanesFor priorityLanes }

/-- The most urgent pending lanes with what is entangled with them. -/
def nextLanes (root : FiberRoot) : Lanes :=
  root.lanes.entangledLanesFor root.lanes.highestPriorityPendingLanes

def syncFlushLanes (root : FiberRoot) : Lanes :=
  root.nextLanes.intersect FastReact.syncFlushLanes

end FiberRoot

namespace FiberRootStore

def selectLanesForScheduledTask (store : FiberRootStore) (rootId : FiberRootId) :
    Except RootSchedulerError RootLaneSelection := do
  return (← (store.root rootId).mapError .fiberRootStore).selectLanes

def syncFlushLanesForRoot (store : FiberRootStore) (rootId : FiberRootId) :
    Except RootSchedulerError Lanes := do
  return (← (store.root rootId).mapError .fiberRootStore).syncFlushLanes

def followScheduledRoots (store : FiberRootStore) :
    Nat → Option FiberRootId → List FiberRootId → Except RootSchedulerError (List FiberRootId)
  | _, none, roots => .ok roots
  | 0, some _, _ => .error .endlessSchedule
  | rounds + 1, some rootId, roots => do
      let root ← (store.root rootId).mapError .fiberRootStore
      store.followScheduledRoots rounds root.scheduling.nextScheduledRoot
        (roots ++ [rootId])

def scheduledRoots (store : FiberRootStore) : Except RootSchedulerError (List FiberRootId) :=
  store.followScheduledRoots (store.roots.slots.length + 1)
    store.rootScheduler.firstScheduledRoot []

end FiberRootStore

def appendScheduledRoot (rootId : FiberRootId) : RootSchedulerM Unit := do
  match (← get).rootScheduler.lastScheduledRoot with
  | some lastRoot =>
      modifyRoot .fiberRootStore lastRoot
        (FiberRoot.onScheduling (·.setNextScheduledRoot (some rootId)))
      modifyScheduler fun scheduler => { scheduler with lastScheduledRoot := some rootId }
  | none =>
      modifyScheduler fun scheduler => { scheduler with firstScheduledRoot := some rootId }
      modifyScheduler fun scheduler => { scheduler with lastScheduledRoot := some rootId }

/-- Ask for the microtask that goes through the scheduled roots, once. -/
def ensureScheduleMicrotaskIsScheduled : RootSchedulerM Unit := do
  let store ← get
  if store.schedulerBridge.actQueueActive then
    if !store.rootScheduler.didScheduleMicrotaskAct then
      modifyScheduler fun scheduler => { scheduler with didScheduleMicrotaskAct := true }
      modifyBridge (·.requestActRootScheduleTask)
  else if !store.rootScheduler.didScheduleMicrotask then
    modifyScheduler fun scheduler => { scheduler with didScheduleMicrotask := true }
    modifyBridge (·.requestMicrotask)

def ensureRootScheduleEntry (rootId : FiberRootId) : RootSchedulerM ScheduledRootUpdateResult := do
  let lastScheduledRoot := (← get).rootScheduler.lastScheduledRoot
  let alreadyScheduled ←
    if lastScheduledRoot = some rootId then
      pure true
    else do
      let root ← getRoot .fiberRootStore rootId
      pure root.scheduling.nextScheduledRoot.isSome
  if !alreadyScheduled then
    appendScheduledRoot rootId
  modifyScheduler fun scheduler => { scheduler with mightHavePendingSyncWork := true }
  ensureScheduleMicrotaskIsScheduled
  return {
    root := rootId
    inserted := !alreadyScheduled
    mightHavePendingSyncWork := (← get).rootScheduler.mightHavePendingSyncWork }

def validateScheduleRecord (record : RootScheduleUpdateRecord) : RootSchedulerM Unit := do
  let current := (← getRoot .fiberRootStore record.root).current
  if record.fiber ≠ current then
    throw (.scheduleRecordWrongFiber record.root current record.fiber)

def ensureRootIsScheduled (record : RootScheduleUpdateRecord) :
    RootSchedulerM ScheduledRootUpdateResult := do
  validateScheduleRecord record
  ensureRootScheduleEntry record.root

def validateRescheduleRecord (record : RootRescheduleRequestRecord) : RootSchedulerM Unit := do
  let actualRoot ← mapError .concurrentUpdate (rootForUpdatedFiber record.fiber)
  if actualRoot ≠ record.root then
    throw (.rescheduleRecordWrongRoot record.root actualRoot record.fiber)
  let pendingLanes := (← getRoot .fiberRootStore record.root).lanes.pendingLanes
  if !pendingLanes.containsLane record.lane then
    throw (.rescheduleRecordMissingLane record.root record.fiber record.lane pendingLanes)

def ensureRootIsRescheduled (record : RootRescheduleRequestRecord) :
    RootSchedulerM ScheduledRootUpdateResult := do
  validateRescheduleRecord record
  ensureRootScheduleEntry record.root

/-- Cancel the callback of a root and note another one. -/
def replaceCallback (rootId : FiberRootId) (existing node : RootSchedulerCallbackHandle)
    (priority : RootCallbackPriority) : RootSchedulerM Unit := do
  modifyBridge (·.cancelCallback existing)
  modifyRoot .fiberRootStore rootId (FiberRoot.onScheduling (·.setCallback node priority))

def scheduleTaskForRootDuringMicrotask (rootId : FiberRootId) :
    RootSchedulerM RootTaskScheduleRecord := do
  let selection ← query (·.selectLanesForScheduledTask rootId)
  let root ← getRoot .fiberRootStore rootId
  let existingNode := root.scheduling.callbackNode
  if selection.renderLanes.isEmpty then
    replaceCallback rootId existingNode .none .no
    return {
      root := rootId
      nextLanes := selection.renderLanes
      outcome := .noWork
      callbackPriority := .no
      callbackNode := .none }
  if selection.priorityLanes.includesSyncLane &&
      !root.lanes.checkIfRootIsPrerendering selection.priorityLanes then
    replaceCallback rootId existingNode .none ⟨Lane.sync⟩
    return {
      root := rootId
      nextLanes := selection.renderLanes
      outcome := .sync
      callbackPriority := ⟨Lane.sync⟩
      callbackNode := .none }
  let newPriority : RootCallbackPriority := ⟨selection.priorityLanes.highestPriorityLane⟩
  let actQueueActive := (← get).schedulerBridge.actQueueActive
  if newPriority = root.scheduling.callbackPriority && existingNode.isSome &&
      (!actQueueActive || SchedulerBridge.isFakeActCallbackNode existingNode) then
    return {
      root := rootId
      nextLanes := selection.renderLanes
      outcome := .reused
      callbackPriority := newPriority
      callbackNode := existingNode }
  let schedulerPriority := schedulerPriorityForLanes selection.priorityLanes
  modifyBridge (·.cancelCallback existingNode)
  let node ←
    if actQueueActive then do
      modifyBridge (·.scheduleActCallback rootId schedulerPriority newPriority)
      pure SchedulerBridge.fakeActCallbackNode
    else
      modifyGet fun (store : FiberRootStore) =>
        let (request, bridge) :=
          store.schedulerBridge.scheduleCallback rootId schedulerPriority newPriority
        (request.node, { store with schedulerBridge := bridge })
  modifyRoot .fiberRootStore rootId
    (FiberRoot.onScheduling (·.setCallback node newPriority))
  return {
    root := rootId
    nextLanes := selection.renderLanes
    outcome := .scheduled
    callbackPriority := newPriority
    callbackNode := node }

/-- Take a root out of the list behind the one kept before it. -/
def removeScheduledRoot (previousRoot : Option FiberRootId) (rootId : FiberRootId)
    (nextRoot : Option FiberRootId) : RootSchedulerM Unit := do
  modifyRoot .fiberRootStore rootId (FiberRoot.onScheduling (·.setNextScheduledRoot none))
  match previousRoot with
  | some previous =>
      modifyRoot .fiberRootStore previous
        (FiberRoot.onScheduling (·.setNextScheduledRoot nextRoot))
  | none => modifyScheduler fun scheduler => { scheduler with firstScheduledRoot := nextRoot }
  if nextRoot.isNone then
    modifyScheduler fun scheduler => { scheduler with lastScheduledRoot := previousRoot }

/-- Handle one scheduled root; returns the root kept last and the record of the task. -/
def processScheduledRoot (previousRoot : Option FiberRootId) (rootId : FiberRootId)
    (nextRoot : Option FiberRootId) :
    RootSchedulerM (Option FiberRootId × RootTaskScheduleRecord) := do
  let record ← scheduleTaskForRootDuringMicrotask rootId
  if record.nextLanes.isEmpty then
    removeScheduledRoot previousRoot rootId nextRoot
    return (previousRoot, record)
  else
    if record.nextLanes.includesSyncLane then
      modifyScheduler fun scheduler => { scheduler with mightHavePendingSyncWork := true }
    return (some rootId, record)

/-- The loop over the scheduled roots, for a number of rounds. -/
def processScheduledRoots :
    Nat → Option FiberRootId → Option FiberRootId → List RootTaskScheduleRecord →
      RootSchedulerM (List RootTaskScheduleRecord)
  | _, _, none, records => pure records
  | 0, _, some _, _ => throw .endlessSchedule
  | rounds + 1, previousRoot, some rootId, records => do
      let nextRoot := (← getRoot .fiberRootStore rootId).scheduling.nextScheduledRoot
      let (previousRoot, record) ← processScheduledRoot previousRoot rootId nextRoot
      processScheduledRoots rounds previousRoot nextRoot (records ++ [record])

/-- The microtask, with a number of rounds for its loop. -/
def processRootScheduleInMicrotask (rounds : Nat) :
    RootSchedulerM (List RootTaskScheduleRecord) := do
  modifyScheduler fun scheduler =>
    { scheduler with
      didScheduleMicrotask := false
      didScheduleMicrotaskAct := false }
  modifyScheduler fun scheduler => { scheduler with mightHavePendingSyncWork := false }
  processScheduledRoots rounds none (← get).rootScheduler.firstScheduledRoot []

inductive RootSchedulerCallbackExecutionStatus where
  | staleCallback
  | noWork
  | rendered
deriving DecidableEq

structure RootSchedulerCallbackExecutionRecord where
  callback : SchedulerCallbackRequest
  selectedLanes : Lanes
  status : RootSchedulerCallbackExecutionStatus
  renderPhase : Option HostRootRenderPhaseRecord
deriving DecidableEq

def executeScheduledRootCallback (callback : SchedulerCallbackRequest) :
    RootSchedulerM RootSchedulerCallbackExecutionRecord := do
  let validation ← mapError .rootWorkLoop
    (validateScheduledHostRootCallback callback.root callback.node)
  if validation.stale then
    return {
      callback := callback
      selectedLanes := Lanes.no
      status := .staleCallback
      renderPhase := none }
  let selectedLanes :=
    (← query (·.selectLanesForScheduledTask callback.root)).renderLanes
  if selectedLanes.isEmpty then
    modifyRoot .fiberRootStore callback.root (FiberRoot.onScheduling (·.clearCallback))
    return {
      callback := callback
      selectedLanes := selectedLanes
      status := .noWork
      renderPhase := none }
  let (_, renderPhase) ← mapError .rootWorkLoop
    (renderHostRootViaSchedulerCallback callback.root callback.node selectedLanes)
  return {
    callback := callback
    selectedLanes := selectedLanes
    status := if renderPhase.isSome then .rendered else .staleCallback
    renderPhase := renderPhase }

def FiberRootStore.hasPendingSyncWork (store : FiberRootStore) :
    Nat → Option FiberRootId → Except RootSchedulerError Bool
  | _, none => .ok false
  | 0, some _ => .error .endlessSchedule
  | rounds + 1, some rootId => do
      if (← store.syncFlushLanesForRoot rootId).isNonEmpty then
        return true
      let root ← (store.root rootId).mapError .fiberRootStore
      store.hasPendingSyncWork rounds root.scheduling.nextScheduledRoot

def recomputeMightHavePendingSyncWork : RootSchedulerM Bool := do
  let hasPendingSyncWork ← query fun store =>
    store.hasPendingSyncWork (store.roots.slots.length + 1)
      store.rootScheduler.firstScheduledRoot
  modifyScheduler fun scheduler => { scheduler with mightHavePendingSyncWork := hasPendingSyncWork }
  return hasPendingSyncWork

end FastReact
