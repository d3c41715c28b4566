import FastReact.FiberRootStore

namespace FastReact

open ErrorState

/-!
# Concurrent updates

Updates are staged with the fiber and the queue they belong to.  Draining first
checks every staged entry and only then links the updates into the pending rings of
their queues and marks their lanes up to the root.
-/

inductive ConcurrentUpdateError where
  | fiberTopology (error : FiberTopologyError)
  | fiberRootStore (error : FiberRootStoreError)
  | updateQueue (error : UpdateQueueError)
  | missingRootForFiber (fiber : FiberId)
  | invalidHostRootStateNode (fiber : FiberId)
  | invalidStagedTupleShape (fiber : FiberId) (queue : Option UpdateQueueHandle)
      (update : Option UpdateId)
  | stagingLanesMismatch (computed recorded : Lanes)
  | duplicateStagedUpdate (update : UpdateId)
  | stagedUpdateAlreadyLinked (update linkedNext : UpdateId)
  | stagedQueueFiberMismatch (fiber : FiberId) (fiberQueue stagedQueue : UpdateQueueHandle)
  | stagedUpdateLaneMismatch (update : UpdateId) (expected actual : Lanes)
  | stagedSourceLaneMissing (fiber : FiberId) (lane : Lane) (sourceLanes : Lanes)
  | stagedRootCurrentMismatch (root : FiberRootId) (current stagedHostRoot : FiberId)
  | drainedWrongRoot (fiber : FiberId) (expected actual : FiberRootId)
deriving DecidableEq

abbrev ConcurrentUpdateM := RootStoreM ConcurrentUpdateError

/-- Add lanes to a fiber and to its alternate. -/
def markSourceFiberLanes (sourceFiber : FiberId) (lanes : Lanes) : ConcurrentUpdateM Unit := do
  onFibers .fiberTopology <| modifyFiber sourceFiber (·.mergeLanes lanes)
  match (← getFiber .fiberTopology sourceFiber).alternate with
  | some alternate => onFibers .fiberTopology <| modifyFiber alternate (·.mergeLanes lanes)
  | none => pure ()

/-- Add lanes to the children's lanes of a fiber and of its alternate. -/
def markChildLanes (fiber : FiberId) (lanes : Lanes) : ConcurrentUpdateM Unit := do
  let merge (node : FiberNode) : FiberNode :=
    { node with childLanes := node.childLanes.merge lanes }
  onFibers .fiberTopology <| modifyFiber fiber merge
  match (← getFiber .fiberTopology fiber).alternate with
  | some alternate => onFibers .fiberTopology <| modifyFiber alternate merge
  | none => pure ()

/-- Visit the parents of a fiber up to the last, for a number of rounds. -/
def walkToHostRoot (visit : FiberId → ConcurrentUpdateM Unit) :
    Nat → FiberId → ConcurrentUpdateM FiberId
  | 0, _ => throw (.fiberTopology .endlessReturnPath)
  | rounds + 1, node => do
      match (← getFiber .fiberTopology node).returnFiber with
      | none => return node
      | some parent =>
          visit parent
          walkToHostRoot visit rounds parent

/-- The root of the last fiber of a walk. -/
def hostRootIdForFiber (fiber : FiberId) : ConcurrentUpdateM FiberRootId := do
  let node ← getFiber .fiberTopology fiber
  if node.tag ≠ .hostRoot then
    throw (.missingRootForFiber fiber)
  match node.stateNode with
  | some root => return root
  | none => throw (.invalidHostRootStateNode fiber)

def hostRootForUpdatedFiber (sourceFiber : FiberId) :
    ConcurrentUpdateM (FiberRootId × FiberId) := do
  let rounds := (← get).fiberArena.nodes.slots.length + 1
  let node ← walkToHostRoot (fun _ => pure ()) rounds sourceFiber
  return (← hostRootIdForFiber node, node)

def rootForUpdatedFiber (sourceFiber : FiberId) : ConcurrentUpdateM FiberRootId := do
  return (← hostRootForUpdatedFiber sourceFiber).1

def markUpdateLanesFromFiberToRoot (sourceFiber : FiberId) (lanes : Lanes) :
    ConcurrentUpdateM FiberRootId := do
  markSourceFiberLanes sourceFiber lanes
  let rounds := (← get).fiberArena.nodes.slots.length + 1
  let node ← walkToHostRoot (markChildLanes · lanes) rounds sourceFiber
  let root ← hostRootIdForFiber node
  lanes.indices.forM fun index =>
    modifyRoot .fiberRootStore root (FiberRoot.onLanes (·.markUpdated index.lane))
  return root

def markUpdateLaneFromFiberToRoot (sourceFiber : FiberId) (lane : Lane) :
    ConcurrentUpdateM FiberRootId :=
  markUpdateLanesFromFiberToRoot sourceFiber lane.toLanes

def enqueueConcurrentHostRootUpdate (fiber : FiberId) (queue : UpdateQueueHandle)
    (update : UpdateId) (lane : Lane) : ConcurrentUpdateM FiberRootId := do
  markSourceFiberLanes fiber lane.toLanes
  modify fun store =>
    { store with
      concurrentUpdates := store.concurrentUpdates.push
        { fiber := fiber, queue := some queue, update := some update, lane := lane } }
  rootForUpdatedFiber fiber

/-- What the checks have gathered so far: the lanes, the updates and the roots of the
entries. -/
structure DrainValidation where
  computedLanes : Lanes
  seenUpdates : List UpdateId
  roots : List FiberRootId

def DrainValidation.start : DrainValidation where
  computedLanes := Lanes.no
  seenUpdates := []
  roots := []

def validateStagedUpdate (seenUpdates : List UpdateId) (entry : StagedConcurrentUpdate) :
    ConcurrentUpdateM (List UpdateId) := do
  match entry.queue, entry.update with
  | some queue, some update =>
      let _ ← query fun store => (store.updateQueues.queue queue).mapError .updateQueue
      let record ← query fun store => (store.updateQueues.update update).mapError .updateQueue
      if record.data.lane.removeLane Lane.offscreen ≠ entry.lane.toLanes then
        throw (.stagedUpdateLaneMismatch update entry.lane.toLanes record.data.lane)
      match record.next with
      | some linkedNext => throw (.stagedUpdateAlreadyLinked update linkedNext)
      | none => pure ()
      if update ∈ seenUpdates then
        throw (.duplicateStagedUpdate update)
      let _ ← query fun store => (store.updateQueues.pendingUpdates queue).mapError .updateQueue
      return update :: seenUpdates
  | none, none => return seenUpdates
  | queue, update => throw (.invalidStagedTupleShape entry.fiber queue update)

def validateStagedEntry (validation : DrainValidation) (entry : StagedConcurrentUpdate) :
    ConcurrentUpdateM DrainValidation := do
  let seenUpdates ← validateStagedUpdate validation.seenUpdates entry
  let source ← getFiber .fiberTopology entry.fiber
  match entry.queue with
  | some queue =>
      if source.updateQueue ≠ queue then
        throw (.stagedQueueFiberMismatch entry.fiber source.updateQueue queue)
  | none => pure ()
  if entry.lane ≠ Lane.no ∧ !source.lanes.containsLane entry.lane then
    throw (.stagedSourceLaneMissing entry.fiber entry.lane source.lanes)
  let (root, stagedHostRoot) ← hostRootForUpdatedFiber entry.fiber
  let rootCurrent := (← getRoot .fiberRootStore root).current
  if rootCurrent ≠ stagedHostRoot then
    throw (.stagedRootCurrentMismatch root rootCurrent stagedHostRoot)
  return {
    computedLanes := validation.computedLanes.mergeLane entry.lane
    seenUpdates := seenUpdates
    roots := validation.roots ++ [root] }

/-- Check all staged entries and the lanes recorded with them; returns their roots. -/
def validateStagedConcurrentUpdatesForDrain : ConcurrentUpdateM (List FiberRootId) := do
  let staging := (← get).concurrentUpdates
  let validation ← staging.staged.foldlM validateStagedEntry DrainValidation.start
  if validation.computedLanes ≠ staging.concurrentlyUpdatedLanes then
    throw (.stagingLanesMismatch validation.computedLanes staging.concurrentlyUpdatedLanes)
  return validation.roots

/-- Link a checked entry into its queue and mark its lane; returns the marked roots. -/
def drainStagedEntry (roots : List FiberRootId) (entry : StagedConcurrentUpdate × FiberRootId) :
    ConcurrentUpdateM (List FiberRootId) := do
  let (staged, expected) := entry
  match staged.queue, staged.update with
  | some queue, some update => onUpdateQueues .updateQueue (appendPendingRootUpdate queue update)
  | _, _ => pure ()
  let roots ←
    if staged.lane ≠ Lane.no then do
      let root ← markUpdateLaneFromFiberToRoot staged.fiber staged.lane
      if root ≠ expected then
        throw (.drainedWrongRoot staged.fiber expected root)
      pure (if root ∈ roots then roots else roots ++ [root])
    else
      pure roots
  match staged.queue with
  | some queue =>
      let _ ← query fun store => (store.updateQueues.queue queue).mapError .updateQueue
  | none => pure ()
  let _ ← getFiber .fiberTopology staged.fiber
  let _ ← getRoot .fiberRootStore expected
  return roots

/-- Check and drain the staged updates; returns the marked roots. -/
def finishQueueingConcurrentUpdates : ConcurrentUpdateM (List FiberRootId) := do
  let validated ← validateStagedConcurrentUpdatesForDrain
  let staged ← modifyGet fun (store : FiberRootStore) =>
    (store.concurrentUpdates.staged,
      { store with concurrentUpdates := ConcurrentUpdateStaging.new })
  (staged.zip validated).foldlM drainStagedEntry []

end FastReact
