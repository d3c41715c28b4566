import FastReact.RootWorkLoop

namespace FastReact

open ErrorState

/-!
# Committing a HostRoot

A commit checks the record of a render against the store and then makes the fiber that
was worked on the current one.  The logs that the source gathers from the tree below
that fiber are left out: a HostRoot fiber is rendered without children, flags or
deletions here, so that they are empty.  The commit of a tree gathers them.
-/

inductive RootCommitError where
  | fiberRootStore (error : FiberRootStoreError)
  | fiberTopology (error : FiberTopologyError)
  | hostRootState (error : HostRootStateStoreError)
  | updateQueue (error : UpdateQueueError)
  | emptyFinishedLanes (root : FiberRootId)
  | currentMismatch (root : FiberRootId) (expected actual : FiberId)
  | finishedWorkIsCurrent (root : FiberRootId) (current : FiberId)
  | renderPhaseWorkMismatch (root : FiberRootId) (expected : Option FiberId) (actual : FiberId)
  | renderPhaseLanesMismatch (root : FiberRootId) (expected actual : Lanes)
  | renderPhaseNotCompleted (root : FiberRootId) (status : RootRenderExitStatus)
  | expectedHostRoot (root : FiberRootId) (fiber : FiberId) (tag : FiberTag)
  | hostRootStateNodeMismatch (root : FiberRootId) (fiber : FiberId) (actual : Option FiberRootId)
  | finishedWorkNotAlternate (root : FiberRootId) (current finishedWork : FiberId)
  | memoizedStateMismatch (root : FiberRootId) (expected actual : StateHandle)
  | updateQueueMismatch (root : FiberRootId) (expected actual : UpdateQueueHandle)
  | remainingLanesMismatch (root : FiberRootId) (expected actual : Lanes)
  | pendingPassiveRootMismatch (root pendingRoot : FiberRootId)
deriving DecidableEq

/-- The passive effects a commit leaves for its flush. -/
structure PendingPassiveCommitHandoff where
  root : FiberRootId
  finishedWork : FiberId
  lanes : Lanes
  pendingUnmountCount : Nat
  pendingMountCount : Nat
deriving DecidableEq

/-- What a commit reports. -/
structure HostRootCommitRecord where
  root : FiberRootId
  previousCurrent : FiberId
  current : FiberId
  finishedLanes : Lanes
  remainingLanes : Lanes
  pendingLanes : Lanes
  rootUpdateCallbacks : RootUpdateCallbackSnapshot
  pendingPassiveHandoff : Option PendingPassiveCommitHandoff
deriving DecidableEq

abbrev RootCommitM := RootStoreM RootCommitError

def requireCommit (condition : Prop) [Decidable condition] (error : RootCommitError) :
    Except RootCommitError Unit :=
  if condition then .ok () else .error error

/-- The checks of a render record that concern the scheduling of its root. -/
def validateRenderPhaseWork (root : FiberRoot) (render : HostRootRenderPhaseRecord) :
    Except RootCommitError Unit := do
  requireCommit (¬ render.renderLanes.isEmpty) (.emptyFinishedLanes render.root)
  requireCommit (root.current = render.current)
    (.currentMismatch render.root render.current root.current)
  requireCommit (render.workInProgress ≠ root.current)
    (.finishedWorkIsCurrent render.root root.current)
  requireCommit (root.scheduling.workInProgress = some render.workInProgress)
    (.renderPhaseWorkMismatch render.root root.scheduling.workInProgress
      render.workInProgress)
  requireCommit (root.scheduling.workInProgressRootRenderLanes = render.renderLanes)
    (.renderPhaseLanesMismatch render.root root.scheduling.workInProgressRootRenderLanes
      render.renderLanes)
  requireCommit (root.scheduling.renderExitStatus = .completed)
    (.renderPhaseNotCompleted render.root root.scheduling.renderExitStatus)

/-- The checks of a render record that concern its two fibers. -/
def validateRenderPhaseFibers (store : FiberRootStore) (current : FiberId)
    (currentNode finishedNode : FiberNode) (render : HostRootRenderPhaseRecord) :
    Except RootCommitError Unit := do
  requireCommit (currentNode.tag = .hostRoot)
    (.expectedHostRoot render.root current currentNode.tag)
  requireCommit (finishedNode.tag = .hostRoot)
    (.expectedHostRoot render.root render.workInProgress finishedNode.tag)
  requireCommit (currentNode.stateNode = some render.root)
    (.hostRootStateNodeMismatch render.root current currentNode.stateNode)
  requireCommit (finishedNode.stateNode = some render.root)
    (.hostRootStateNodeMismatch render.root render.workInProgress finishedNode.stateNode)
  requireCommit (currentNode.alternate = some render.workInProgress ∧
      finishedNode.alternate = some current)
    (.finishedWorkNotAlternate render.root current render.workInProgress)
  (store.fiberArena.validateAlternatePair current render.workInProgress).mapError
    .fiberTopology

/-- The checks of a render record that concern states, queues and lanes. -/
def validateRenderPhaseResult (store : FiberRootStore) (currentNode finishedNode : FiberNode)
    (render : HostRootRenderPhaseRecord) : Except RootCommitError Unit := do
  requireCommit (finishedNode.memoizedState = render.memoizedState)
    (.memoizedStateMismatch render.root render.memoizedState finishedNode.memoizedState)
  let _ ← (store.hostRootState finishedNode.memoizedState).mapError .hostRootState
  requireCommit (currentNode.updateQueue = render.currentUpdateQueue)
    (.updateQueueMismatch render.root render.currentUpdateQueue currentNode.updateQueue)
  requireCommit (finishedNode.updateQueue = render.workInProgressUpdateQueue)
    (.updateQueueMismatch render.root render.workInProgressUpdateQueue
      finishedNode.updateQueue)
  let _ ← (store.updateQueues.queue render.currentUpdateQueue).mapError .updateQueue
  let _ ← (store.updateQueues.queue render.workInProgressUpdateQueue).mapError .updateQueue
  let actualRemainingLanes := finishedNode.lanes.merge finishedNode.childLanes
  requireCommit (actualRemainingLanes = render.remainingLanes)
    (.remainingLanesMismatch render.root render.remainingLanes actualRemainingLanes)

def validateFinishedHostRoot (store : FiberRootStore) (render : HostRootRenderPhaseRecord) :
    Except RootCommitError Unit := do
  let root ← (store.root render.root).mapError .fiberRootStore
  validateRenderPhaseWork root render
  let currentNode ← (store.fiberArena.get root.current).mapError .fiberTopology
  let finishedNode ← (store.fiberArena.get render.workInProgress).mapError .fiberTopology
  validateRenderPhaseFibers store root.current currentNode finishedNode render
  validateRenderPhaseResult store currentNode finishedNode render

/-- Note the finished work with the passive effects of the root, if it has any. -/
def recordPendingPassiveCommitHandoff (pending : PendingPassiveState) (root : FiberRootId)
    (finishedWork : FiberId) (lanes : Lanes) :
    Except RootCommitError (Option PendingPassiveCommitHandoff × PendingPassiveState) :=
  match pending.root with
  | none => .ok (none, pending)
  | some pendingRoot =>
      if pendingRoot ≠ root then
        .error (.pendingPassiveRootMismatch root pendingRoot)
      else
        match pending.recordCommitHandoff root finishedWork lanes with
        | none => .error (.emptyFinishedLanes root)
        | some recorded =>
            .ok (some {
              root := root
              finishedWork := finishedWork
              lanes := lanes
              pendingUnmountCount := recorded.passiveUnmounts.length
              pendingMountCount := recorded.passiveMounts.length }, recorded)

/-- The root after a commit. -/
def FiberRoot.committed (root : FiberRoot) (finishedWork : FiberId)
    (finishedLanes remainingLanes : Lanes)
    (pendingPassive : PendingPassiveState) : FiberRoot :=
  let root := root.onScheduling fun scheduling =>
    { scheduling with pendingPassive := pendingPassive }
  let root := root.onLanes
    (·.markFinished (RootFinishedLanes.new finishedLanes remainingLanes))
  let root := (root.setCurrent finishedWork).clearFinishedWork
  root.onScheduling fun scheduling => scheduling.clearRenderPhaseWork.clearCallback

/-- What a commit does to its root once the record of the render is accepted. -/
def switchToFinishedWork (render : HostRootRenderPhaseRecord) :
    RootCommitM HostRootCommitRecord := do
  let root ← getRoot .fiberRootStore render.root
  let (handoff, pendingPassive) ← query fun _ =>
    recordPendingPassiveCommitHandoff root.scheduling.pendingPassive render.root
      render.workInProgress render.renderLanes
  modifyRoot .fiberRootStore render.root
    (·.committed render.workInProgress render.renderLanes render.remainingLanes
      pendingPassive)
  let pendingLanes := (← getRoot .fiberRootStore render.root).lanes.pendingLanes
  let rootUpdateCallbacks ← onUpdateQueues .updateQueue
    (takeRootUpdateCallbackRecords render.workInProgressUpdateQueue)
  return {
    root := render.root
    previousCurrent := render.current
    current := render.workInProgress
    finishedLanes := render.renderLanes
    remainingLanes := render.remainingLanes
    pendingLanes := pendingLanes
    rootUpdateCallbacks := rootUpdateCallbacks
    pendingPassiveHandoff := handoff }

def commitFinishedHostRoot (render : HostRootRenderPhaseRecord) :
    RootCommitM HostRootCommitRecord := do
  query (validateFinishedHostRoot · render)
  switchToFinishedWork render

end FastReact
