import FastReact.FiberRootStore

namespace FastReact

open ErrorState

/-!
# Rendering a HostRoot

A render works on the alternate of the current fiber.  The alternate gets a copy of
the current update queue, which shares the updates of the current queue; the pass over
the copy leaves its base list to the alternate only.
-/

inductive WorkInProgressError where
  | rootStore (error : FiberRootStoreError)
  | fiberTopology (error : FiberTopologyError)
  | expectedHostRoot (fiber : FiberId) (tag : FiberTag)
deriving DecidableEq

inductive RootWorkLoopError where
  | fiberRootStore (error : FiberRootStoreError)
  | fiberTopology (error : FiberTopologyError)
  | updateQueue (error : UpdateQueueError)
  | workInProgress (error : WorkInProgressError)
  | missingHostRootUpdateQueue (root : FiberRootId) (fiber : FiberId)
deriving DecidableEq

/-- What a render reports; a commit takes it back. -/
structure HostRootRenderPhaseRecord where
  root : FiberRootId
  current : FiberId
  workInProgress : FiberId
  currentUpdateQueue : UpdateQueueHandle
  workInProgressUpdateQueue : UpdateQueueHandle
  renderLanes : Lanes
  memoizedState : StateHandle
  resultingElement : RootElementHandle
  appliedUpdateCount : Nat
  skippedUpdateCount : Nat
  remainingLanes : Lanes
deriving DecidableEq

/-- Whether a scheduled callback is still the one of its root. -/
structure SchedulerCallbackValidationRecord where
  root : FiberRootId
  requestedCallbackNode : RootSchedulerCallbackHandle
  currentCallbackNode : RootSchedulerCallbackHandle
  stale : Bool
deriving DecidableEq

abbrev RootWorkLoopM := RootStoreM RootWorkLoopError

def createHostRootWorkInProgress (rootId : FiberRootId) (pendingProps : PropsHandle) :
    RootStoreM WorkInProgressError FiberId := do
  let current := (← getRoot .rootStore rootId).current
  let currentTag := (← getFiber .fiberTopology current).tag
  if currentTag ≠ .hostRoot then
    throw (.expectedHostRoot current currentTag)
  let workInProgress ← onFibers .fiberTopology (createWorkInProgress current pendingProps)
  let workTag := (← getFiber .fiberTopology workInProgress).tag
  if workTag ≠ .hostRoot then
    throw (.expectedHostRoot workInProgress workTag)
  return workInProgress

def refreshUpdateQueueForWorkInProgress (rootId : FiberRootId) (current workInProgress : FiberId)
    (currentUpdateQueue : UpdateQueueHandle) : RootWorkLoopM UpdateQueueHandle := do
  if currentUpdateQueue.isNone then
    throw (.missingHostRootUpdateQueue rootId current)
  let clonedQueue ← onUpdateQueues .updateQueue
    (cloneHostRootUpdateQueue currentUpdateQueue)
  onFibers .fiberTopology <| modifyFiber workInProgress fun node =>
    { node with updateQueue := clonedQueue }
  return clonedQueue

def renderHostRootForLanes (rootId : FiberRootId) (renderLanes : Lanes) :
    RootWorkLoopM HostRootRenderPhaseRecord := do
  let current := (← getRoot .fiberRootStore rootId).current
  let currentUpdateQueue ← mapError .fiberRootStore (ensureHostRootUpdateQueue rootId)
  let workInProgress ← mapError .workInProgress (createHostRootWorkInProgress rootId .none)
  let workInProgressUpdateQueue ←
    refreshUpdateQueueForWorkInProgress rootId current workInProgress currentUpdateQueue
  let result ← onUpdateQueues .updateQueue <|
    processHostRootUpdateQueue workInProgressUpdateQueue (some currentUpdateQueue)
      renderLanes renderLanes
  let memoizedState ← insertHostRootState result.memoizedState
  onFibers .fiberTopology <| modifyFiber workInProgress fun node =>
    { node with
      memoizedState := memoizedState
      lanes := result.remainingLanes }
  modifyRoot .fiberRootStore rootId <| FiberRoot.onScheduling
    (·.recordRenderPhaseWork workInProgress renderLanes .completed)
  return {
    root := rootId
    current := current
    workInProgress := workInProgress
    currentUpdateQueue := currentUpdateQueue
    workInProgressUpdateQueue := workInProgressUpdateQueue
    renderLanes := renderLanes
    memoizedState := memoizedState
    resultingElement := result.memoizedState.element
    appliedUpdateCount := result.appliedUpdateCount
    skippedUpdateCount := result.skippedUpdateCount
    remainingLanes := result.remainingLanes }

def validateScheduledHostRootCallback (rootId : FiberRootId)
    (scheduledCallbackNode : RootSchedulerCallbackHandle) :
    RootWorkLoopM SchedulerCallbackValidationRecord := do
  let currentCallbackNode := (← getRoot .fiberRootStore rootId).scheduling.callbackNode
  return {
    root := rootId
    requestedCallbackNode := scheduledCallbackNode
    currentCallbackNode := currentCallbackNode
    stale := scheduledCallbackNode.isNone || currentCallbackNode ≠ scheduledCallbackNode }

/-- Render unless the callback is stale. -/
def renderHostRootViaSchedulerCallback (rootId : FiberRootId)
    (scheduledCallbackNode : RootSchedulerCallbackHandle) (renderLanes : Lanes) :
    RootWorkLoopM
      (SchedulerCallbackValidationRecord × Option HostRootRenderPhaseRecord) := do
  let validation ← validateScheduledHostRootCallback rootId scheduledCallbackNode
  if validation.stale then
    return (validation, none)
  let renderPhase ← renderHostRootForLanes rootId renderLanes
  return (validation, some renderPhase)

end FastReact
