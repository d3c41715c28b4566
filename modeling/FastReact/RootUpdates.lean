import FastReact.RootScheduler

namespace FastReact

open ErrorState

/-!
# Updates of a root

Every update of a root goes through one function: it creates the update, stages and
drains it at once, and entangles the lane of a transition with the transitions that
still wait in the queue.
-/

structure EventPriority where
  lane : Lane
deriving DecidableEq

namespace EventPriority

def no : EventPriority := ⟨Lane.no⟩
def discrete : EventPriority := ⟨Lane.sync⟩
def continuous : EventPriority := ⟨Lane.inputContinuous⟩
def default : EventPriority := ⟨Lane.default⟩
def idle : EventPriority := ⟨Lane.idle⟩

def fromLane (lane : Lane) : Option EventPriority :=
  if lane = no.lane ∨ lane = discrete.lane ∨ lane = continuous.lane ∨
      lane = default.lane ∨ lane = idle.lane then
    some ⟨lane⟩
  else none

def isNo (priority : EventPriority) : Bool := priority.lane.bits == no.lane.bits

def isHigher (priority other : EventPriority) : Bool :=
  priority.lane.bits != Lane.no.bits &&
    priority.lane.bits.toNat < other.lane.bits.toNat

/-- The priority of the most urgent lane of a set. -/
def ofLanes (lanes : Lanes) : EventPriority :=
  let lane : EventPriority := ⟨lanes.highestPriorityLane⟩
  if !discrete.isHigher lane then discrete
  else if !continuous.isHigher lane then continuous
  else if (lane.lane.toLanes.intersect Lanes.nonIdle).isNonEmpty then default
  else idle

end EventPriority

structure UpdatePriorityState where
  currentUpdateLane : Lane
  defaultUpdateLane : Lane
deriving DecidableEq

def UpdatePriorityState.new : UpdatePriorityState where
  currentUpdateLane := Lane.no
  defaultUpdateLane := Lane.default

def requestUpdateLane (fiber : FiberNode) (priority : UpdatePriorityState) : Lane :=
  if priority.currentUpdateLane.isNonEmpty then priority.currentUpdateLane
  else if fiber.mode.containsAny FiberMode.concurrent then priority.defaultUpdateLane
  else Lane.sync

inductive RootUpdateLaneSourcePriority where
  | defaultEventPriority
  | legacyRootSync
  | explicitSync
  | transitionLane
deriving DecidableEq

structure RootUpdateLaneChoiceRecord where
  lane : Lane
  eventPriority : EventPriority
  sourcePriority : RootUpdateLaneSourcePriority
deriving DecidableEq

structure RootTransitionEntanglementRecord where
  root : FiberRootId
  queue : UpdateQueueHandle
  lane : Lane
  entangledLanes : Lanes
deriving DecidableEq

structure UpdateContainerResult where
  lane : Lane
  laneChoice : RootUpdateLaneChoiceRecord
  update : UpdateId
  queue : UpdateQueueHandle
  schedule : RootScheduleUpdateRecord
  entanglement : Option RootTransitionEntanglementRecord
  pendingLanesBeforeEnqueue : Lanes
  pendingLanesAfterEnqueue : Lanes
  selectedNextLanes : Lanes
deriving DecidableEq

inductive RootUpdateError where
  | fiberRootStore (error : FiberRootStoreError)
  | fiberTopology (error : FiberTopologyError)
  | updateQueue (error : UpdateQueueError)
  | concurrentUpdate (error : ConcurrentUpdateError)
  | unsupportedTransitionLane (lane : Lane)
  | unknownPriorityLane (lane : Lane) (sourcePriority : RootUpdateLaneSourcePriority)
  | emptyRoot (root : FiberRootId)
  | enqueuedWrongRoot (expected actual : FiberRootId)
deriving DecidableEq

abbrev RootUpdateM := RootStoreM RootUpdateError

def rootUpdateLaneChoiceFromSourceLane (lane : Lane)
    (sourcePriority : RootUpdateLaneSourcePriority) :
    Except RootUpdateError RootUpdateLaneChoiceRecord :=
  match EventPriority.fromLane lane with
  | none => .error (.unknownPriorityLane lane sourcePriority)
  | some eventPriority =>
      if eventPriority.isNo then
        .error (.unknownPriorityLane lane sourcePriority)
      else
        .ok ⟨lane, eventPriority, sourcePriority⟩

/-- Remember the lane of a transition with those of the queue that are still pending. -/
def entangleTransitionUpdate (queue : UpdateQueueHandle) (rootPendingLanes : Lanes) (lane : Lane) :
    UpdateQueueM (Option Lanes) := do
  if !lane.isTransition then
    return none
  let queueLanes := (← query (·.queue queue)).shared.lanes.intersect rootPendingLanes
  let newQueueLanes := queueLanes.mergeLane lane
  modifyUpdateQueue queue fun queue =>
    { queue with shared := { queue.shared with lanes := newQueueLanes } }
  return some newQueueLanes

/-- The lanes that would be rendered next. -/
def rootSelectedNextLanes (rootId : FiberRootId) : RootUpdateM Lanes := do
  let root ← getRoot .fiberRootStore rootId
  if root.lanes.pendingLanes.isEmpty then
    throw (.emptyRoot rootId)
  return root.selectLanes.renderLanes

def updateContainerImpl (rootId : FiberRootId) (rootFiber : FiberId)
    (laneChoice : RootUpdateLaneChoiceRecord) (element : RootElementHandle)
    (callback : Option RootUpdateCallbackHandle) : RootUpdateM UpdateContainerResult := do
  let lane := laneChoice.lane
  let pendingLanesBeforeEnqueue := (← getRoot .fiberRootStore rootId).lanes.pendingLanes
  let queue ← mapError .fiberRootStore (ensureHostRootUpdateQueue rootId)
  let update ← onUpdateQueues .updateQueue (createRootUpdate lane)
  onUpdateQueues .updateQueue (modifyRootUpdate update (·.setPayload ⟨element⟩))
  match callback with
  | some callback =>
      if callback.isSome then
        onUpdateQueues .updateQueue (modifyRootUpdate update (·.setCallback callback))
  | none => pure ()
  let enqueuedRoot ← mapError .concurrentUpdate
    (enqueueConcurrentHostRootUpdate rootFiber queue update lane)
  if enqueuedRoot ≠ rootId then
    throw (.enqueuedWrongRoot rootId enqueuedRoot)
  let _ ← mapError .concurrentUpdate finishQueueingConcurrentUpdates
  let pendingLanesAfterEnqueue := (← getRoot .fiberRootStore rootId).lanes.pendingLanes
  let selectedNextLanes ← rootSelectedNextLanes rootId
  let rootPendingLanes := (← getRoot .fiberRootStore rootId).lanes.pendingLanes
  let entanglement ←
    match ← onUpdateQueues .updateQueue
        (entangleTransitionUpdate queue rootPendingLanes lane) with
    | some entangledLanes => do
        modifyRoot .fiberRootStore rootId (FiberRoot.onLanes (·.markEntangled entangledLanes))
        pure (some
          { root := rootId, queue := queue, lane := lane, entangledLanes := entangledLanes })
    | none => pure none
  return {
    lane := lane
    laneChoice := laneChoice
    update := update
    queue := queue
    schedule := { root := rootId, fiber := rootFiber, lane := lane }
    entanglement := entanglement
    pendingLanesBeforeEnqueue := pendingLanesBeforeEnqueue
    pendingLanesAfterEnqueue := pendingLanesAfterEnqueue
    selectedNextLanes := selectedNextLanes }

/-- Render an element into a root with the priority of its mode. -/
def updateContainer (rootId : FiberRootId) (element : RootElementHandle)
    (callback : Option RootUpdateCallbackHandle) : RootUpdateM UpdateContainerResult := do
  let current := (← getRoot .fiberRootStore rootId).current
  let lane := requestUpdateLane (← getFiber .fiberTopology current) UpdatePriorityState.new
  let sourcePriority :=
    if lane = Lane.sync then .legacyRootSync else .defaultEventPriority
  let laneChoice ← query fun _ => rootUpdateLaneChoiceFromSourceLane lane sourcePriority
  updateContainerImpl rootId current laneChoice element callback

def updateContainerSync (rootId : FiberRootId) (element : RootElementHandle)
    (callback : Option RootUpdateCallbackHandle) : RootUpdateM UpdateContainerResult := do
  let current := (← getRoot .fiberRootStore rootId).current
  let laneChoice ← query fun _ => rootUpdateLaneChoiceFromSourceLane Lane.sync .explicitSync
  updateContainerImpl rootId current laneChoice element callback

def updateContainerTransition (rootId : FiberRootId) (lane : Lane) (element : RootElementHandle)
    (callback : Option RootUpdateCallbackHandle) : RootUpdateM UpdateContainerResult := do
  if !lane.isTransition then
    throw (.unsupportedTransitionLane lane)
  let current := (← getRoot .fiberRootStore rootId).current
  updateContainerImpl rootId current
    ⟨lane, EventPriority.ofLanes lane.toLanes, .transitionLane⟩ element callback

end FastReact
