import FastReact.RefCommitMetadata

namespace FastReact

open ErrorState

/-!
# Committing a finished tree

The whole commit of a HostRoot.  It checks the record of the render and gathers its logs from
the finished tree, switches the root over, and then issues tokens for the host nodes and the
refs it has found.
-/

/-- What a commit reads of fibers beside their links. -/
structure HostFiberData where
  stateNode : FiberId → StateNodeHandle
  subtreeFlags : FiberId → FiberFlags
  memoizedProps : FiberId → PropsHandle
  refHandle : FiberId → FiberRefHandle

structure HostCommitStore where
  rootStore : FiberRootStore
  hostData : HostFiberData
  hostTokens : HostFiberTokenStore

namespace HostCommitStore

def fibers (store : HostCommitStore) : RefFibers where
  arena := store.rootStore.fiberArena
  stateNode := store.hostData.stateNode
  subtreeFlags := store.hostData.subtreeFlags
  memoizedProps := store.hostData.memoizedProps
  refHandle := store.hostData.refHandle

end HostCommitStore

abbrev HostCommitM := EStateM HostCommitError HostCommitStore

/-- What a commit has gathered before it changes anything. -/
structure HostRootCommitLogs where
  hydrationState : HostRootHydrationState
  mutationLog : List HostRootMutationPhaseRecord
  deletionLists : List HostRootDeletionListRecord
  mutationApplyLog : List HostRootMutationApplyRecord
  deletionSubtreeTraversalGate : List HostRootDeletionSubtreeTraversalGateRecord
  pendingHostNodeDeletionCleanup : List PendingHostRootDeletionCleanupRecord
  pendingRefCommitMetadata : PendingRefCommitSnapshot
deriving DecidableEq

structure HostRootDeletionCleanupRecord extends PendingHostRootDeletionCleanupRecord where
  sequence : Nat
  token : HostFiberTokenId
  tokenPhase : HostFiberTokenPhase
deriving DecidableEq

structure HostTreeCommitRecord extends HostRootCommitRecord where
  hydrationState : HostRootHydrationState
  mutationLog : List HostRootMutationPhaseRecord
  mutationApplyLog : List HostRootMutationApplyRecord
  deletionLists : List HostRootDeletionListRecord
  deletionSubtreeTraversalGate : List HostRootDeletionSubtreeTraversalGateRecord
  hostNodeDeletionCleanupLog : List HostRootDeletionCleanupRecord
  refCommitMetadata : HostRootRefCommitSnapshot
  domRefCallbackCommitGate : List HostRootDomRefCallbackCommitGateRecord
  refCallbackExecutionHandoff : HostRootRefCallbackExecutionHandoffSnapshot
  refCleanupReturnExecutionGate : HostRootRefCleanupReturnExecutionGateSnapshot
deriving DecidableEq

def hostRootHydrationStateForFinishedWork (store : FiberRootStore) (finishedWork : FiberId) :
    Except RootCommitError HostRootHydrationState := do
  let node ← (store.fiberArena.get finishedWork).mapError .fiberTopology
  let state ← (store.hostRootState node.memoizedState).mapError .hostRootState
  return state.hydration

namespace HostCommitStore

variable (store : HostCommitStore) (render : HostRootRenderPhaseRecord)

/-- Gather the logs of a commit from the finished tree. -/
def collectHostRootCommitLogs : Except HostCommitError HostRootCommitLogs := do
  let hydrationState ← (hostRootHydrationStateForFinishedWork store.rootStore
    render.workInProgress).mapError fun error => .mutation (.commit error)
  let mutationLog ← (store.fibers.collectHostRootMutationPhaseLog render.root
    render.workInProgress render.renderLanes).mapError .mutation
  let deletionLists ← (store.fibers.collectDeletionListMetadata
    render.workInProgress).mapError .mutation
  let mutationApplyLog ← (store.fibers.collectHostRootMutationApplyLog render.root
    render.workInProgress render.renderLanes mutationLog deletionLists).mapError .mutation
  let deletionSubtreeTraversalGate ← (store.fibers.materializeDeletionSubtreeTraversalGate
    render.root render.workInProgress deletionLists).mapError .mutation
  let pendingHostNodeDeletionCleanup ← (store.fibers.collectPendingHostNodeDeletionCleanup
    render.root render.workInProgress deletionLists).mapError .mutation
  let pendingRefCommitMetadata ← store.fibers.collectPendingRefCommitMetadata render.root
    render.workInProgress
  return {
    hydrationState := hydrationState
    mutationLog := mutationLog
    deletionLists := deletionLists
    mutationApplyLog := mutationApplyLog
    deletionSubtreeTraversalGate := deletionSubtreeTraversalGate
    pendingHostNodeDeletionCleanup := pendingHostNodeDeletionCleanup
    pendingRefCommitMetadata := pendingRefCommitMetadata }

end HostCommitStore

def deletionCleanupTokenOwner (arena : FiberArena)
    (pending : PendingHostRootDeletionCleanupRecord) : Except FiberTopologyError FiberId :=
  if pending.stateNode.isNone then
    .ok pending.fiber
  else do
    let node ← arena.get pending.fiber
    node.alternate.elim (.ok pending.fiber) fun owner => do
      arena.validateAlternatePair owner pending.fiber
      return owner

/-- Issue the token of one cleanup behind those before it. -/
def materializeHostNodeDeletionCleanup (arena : FiberArena)
    (log : List HostRootDeletionCleanupRecord) (pending : PendingHostRootDeletionCleanupRecord) :
    HostTokenM (List HostRootDeletionCleanupRecord) := do
  let tokenOwner ← query fun _ =>
    (deletionCleanupTokenOwner arena pending).mapError fun error =>
      .mutation (.commit (.fiberTopology error))
  let token ← issueValidToken pending.root tokenOwner .deletion pending.tokenTarget
  return log ++ [{
    toPendingHostRootDeletionCleanupRecord := pending
    sequence := log.length
    token := token
    tokenPhase := .deletion }]

def materializeHostNodeDeletionCleanupLog (arena : FiberArena)
    (pendingRecords : List PendingHostRootDeletionCleanupRecord) :
    HostTokenM (List HostRootDeletionCleanupRecord) :=
  pendingRecords.foldlM (materializeHostNodeDeletionCleanup arena) []

def onCommitRootStore {α : Type} (body : RootCommitM α) : HostCommitM α :=
  mapError (fun error => .mutation (.commit error)) <|
    focus HostCommitStore.rootStore (fun rootStore store => { store with rootStore := rootStore }) body

def onHostTokens {α : Type} (body : HostTokenM α) : HostCommitM α :=
  focus HostCommitStore.hostTokens (fun tokens store => { store with hostTokens := tokens }) body

/-- What a commit does once its root is switched over. -/
def materializeHostTreeCommit (logs : HostRootCommitLogs) (record : HostRootCommitRecord) :
    HostCommitM HostTreeCommitRecord := do
  let arena := (← get).rootStore.fiberArena
  let hostNodeDeletionCleanupLog ← onHostTokens <|
    materializeHostNodeDeletionCleanupLog arena logs.pendingHostNodeDeletionCleanup
  let refCommitMetadata ← onHostTokens <|
    materializeRefCommitMetadata logs.pendingRefCommitMetadata
  let domRefCallbackCommitGate ← onHostTokens <| query fun tokens =>
    tokens.materializeDomRefCallbackCommitGate refCommitMetadata
  let refCallbackExecutionHandoff ← onHostTokens <| query fun tokens =>
    tokens.materializeRefCallbackExecutionHandoff domRefCallbackCommitGate
  let refCleanupReturnExecutionGate ← onHostTokens <| query fun tokens =>
    tokens.materializeRefCleanupReturnExecutionGate refCallbackExecutionHandoff
  return {
    toHostRootCommitRecord := record
    hydrationState := logs.hydrationState
    mutationLog := logs.mutationLog
    mutationApplyLog := logs.mutationApplyLog
    deletionLists := logs.deletionLists
    deletionSubtreeTraversalGate := logs.deletionSubtreeTraversalGate
    hostNodeDeletionCleanupLog := hostNodeDeletionCleanupLog
    refCommitMetadata := refCommitMetadata
    domRefCallbackCommitGate := domRefCallbackCommitGate
    refCallbackExecutionHandoff := refCallbackExecutionHandoff
    refCleanupReturnExecutionGate := refCleanupReturnExecutionGate }

/-- The whole commit. -/
def commitFinishedHostTree (render : HostRootRenderPhaseRecord) :
    HostCommitM HostTreeCommitRecord := do
  onCommitRootStore <| query (validateFinishedHostRoot · render)
  let logs ← query (·.collectHostRootCommitLogs render)
  let record ← onCommitRootStore <| switchToFinishedWork render
  materializeHostTreeCommit logs record

end FastReact
