import FastReact.HostFiberTokens
import FastReact.HostMutationLog

namespace FastReact

/-!
# The traversals of deleted subtrees

A commit goes over the subtrees of the deleted fibers twice.  The gate records everything it
meets there: the host nodes to clean up, fragments and portals, and the fibers at which it
stops.  The cleanup keeps the host nodes only.  Both go into the children of host
components, function components, fragments and portals.
-/

inductive HostRootDeletionSubtreeTraversalGateStatus where
  | fragmentDeletedSubtreeDiagnostic
  | portalDeletedSubtreeDiagnostic
  | hostNodeCleanupMetadata
  | unsupportedSuspenseTraversalBlocked
  | unsupportedOffscreenTraversalBlocked
  | broadDeletionTraversalBlocked
deriving DecidableEq

def deletionSubtreeBoundaryStatus (tag : FiberTag) :
    Option HostRootDeletionSubtreeTraversalGateStatus :=
  match tag with
  | .fragment => some .fragmentDeletedSubtreeDiagnostic
  | .portal => some .portalDeletedSubtreeDiagnostic
  | .suspense => some .unsupportedSuspenseTraversalBlocked
  | .offscreen => some .unsupportedOffscreenTraversalBlocked
  | .hostComponent | .hostText | .functionComponent => none
  | _ => some .broadDeletionTraversalBlocked

def deletionSubtreeShouldTraverseChildren (tag : FiberTag) : Bool :=
  tag = .hostComponent || tag = .functionComponent || tag = .fragment || tag = .portal

def deletionSubtreeTraversalBlocksChildren (tag : FiberTag) : Bool :=
  deletionSubtreeBoundaryStatus tag = some .unsupportedSuspenseTraversalBlocked ||
    deletionSubtreeBoundaryStatus tag = some .unsupportedOffscreenTraversalBlocked ||
    deletionSubtreeBoundaryStatus tag = some .broadDeletionTraversalBlocked

def hostNodeCleanupTokenTarget (tag : FiberTag) : Option HostFiberTokenTarget :=
  if tag = .hostComponent then some .hostInstance
  else if tag = .hostText then some .textInstance
  else none

def unsupportedReconcilerFeatureForFiberTag (tag : FiberTag) : Option String :=
  if tag = .suspense then some "Reconciler.fiber.Suspense"
  else if tag = .suspenseList then some "Reconciler.fiber.SuspenseList"
  else if tag = .offscreen then some "Reconciler.fiber.Offscreen"
  else if tag = .activity then some "Reconciler.fiber.Activity"
  else if tag = .viewTransition then some "Reconciler.fiber.ViewTransition"
  else none

structure DeletedSubtreeRequest where
  root : FiberRootId
  hostRoot : FiberId
  deletionList : DeletionListId
  deletionListIndex : Nat
  deletedIndex : Nat
  parent : FiberId
  parentTag : FiberTag
  hostParent : Option HostRootDeletionHostParentRecord
  deletedRoot : FiberId
deriving DecidableEq

structure HostRootDeletionSubtreeTraversalGateRecord extends DeletedSubtreeRequest where
  sequence : Nat
  deletedRootTag : FiberTag
  fiber : FiberId
  tag : FiberTag
  traversalDepth : Nat
  stateNode : StateNodeHandle
  portalContainerStateNode : StateNodeHandle
  unsupportedFeature : Option String
  status : HostRootDeletionSubtreeTraversalGateStatus
deriving DecidableEq

structure PendingHostRootDeletionCleanupRecord extends DeletedSubtreeRequest where
  subtreeIndex : Nat
  fiber : FiberId
  tag : FiberTag
  stateNode : StateNodeHandle
  tokenTarget : HostFiberTokenTarget
deriving DecidableEq

namespace HostFibers

variable (fibers : HostFibers)

/-- The children a traversal goes into. -/
def deletionSubtreeChildren (fiber : FiberId) (tag : FiberTag) :
    Except HostMutationError (List FiberId) :=
  if deletionSubtreeShouldTraverseChildren tag then fibers.childIds fiber else .ok []

/-- Add what a traversal sees of a fiber under some status. -/
def pushDeletionSubtreeTraversalGateRecord (request : DeletedSubtreeRequest)
    (deletedRootTag : FiberTag) (fiber : FiberId) (tag : FiberTag) (traversalDepth : Nat)
    (portalContainerStateNode : StateNodeHandle)
    (status : HostRootDeletionSubtreeTraversalGateStatus)
    (records : List HostRootDeletionSubtreeTraversalGateRecord) :
    List HostRootDeletionSubtreeTraversalGateRecord :=
  records ++ [{
    toDeletedSubtreeRequest := request
    sequence := records.length
    deletedRootTag := deletedRootTag
    fiber := fiber
    tag := tag
    traversalDepth := traversalDepth
    stateNode := fibers.stateNode fiber
    portalContainerStateNode := portalContainerStateNode
    unsupportedFeature :=
      if deletionSubtreeTraversalBlocksChildren tag then
        unsupportedReconcilerFeatureForFiberTag tag
      else
        none
    status := status }]

/-- Go over one subtree: what stops the traversal and what is only noted comes before the
children, host nodes come behind them. -/
def collectDeletionSubtreeTraversalGateRecords (request : DeletedSubtreeRequest)
    (deletedRootTag : FiberTag) :
    Nat → FiberId → Nat → StateNodeHandle → List HostRootDeletionSubtreeTraversalGateRecord →
      Except HostMutationError (List HostRootDeletionSubtreeTraversalGateRecord)
  | 0, _, _, _, _ => .error .endlessWalk
  | rounds + 1, fiber, traversalDepth, portalContainerStateNode, records => do
      let node ← fibers.get fiber
      let portalContainerStateNode :=
        if node.tag = .portal then fibers.stateNode fiber else portalContainerStateNode
      let push := fibers.pushDeletionSubtreeTraversalGateRecord request deletedRootTag fiber node.tag
        traversalDepth portalContainerStateNode
      let noted := (deletionSubtreeBoundaryStatus node.tag).elim records fun status =>
        push status records
      if deletionSubtreeTraversalBlocksChildren node.tag then
        return noted
      else
        let children ← fibers.deletionSubtreeChildren fiber node.tag
        let below ← children.foldlM
          (fun records child =>
            collectDeletionSubtreeTraversalGateRecords request deletedRootTag rounds child
              (traversalDepth + 1) portalContainerStateNode records)
          noted
        return if (hostNodeCleanupTokenTarget node.tag).isSome then
          push .hostNodeCleanupMetadata below
        else
          below

/-- Go over one subtree and add its host nodes, numbered from the given index on. -/
def collectPendingDeletedSubtreeHostNodeCleanup (request : DeletedSubtreeRequest) :
    Nat → FiberId → Nat × List PendingHostRootDeletionCleanupRecord →
      Except HostMutationError (Nat × List PendingHostRootDeletionCleanupRecord)
  | 0, _, _ => .error .endlessWalk
  | rounds + 1, fiber, collected => do
      let node ← fibers.get fiber
      if deletionSubtreeTraversalBlocksChildren node.tag then
        return collected
      else
        let children ← fibers.deletionSubtreeChildren fiber node.tag
        let below ← children.foldlM
          (fun collected child =>
            collectPendingDeletedSubtreeHostNodeCleanup request rounds child collected)
          collected
        return (hostNodeCleanupTokenTarget node.tag).elim below fun tokenTarget =>
          (below.1 + 1, below.2 ++ [{
            toDeletedSubtreeRequest := request
            subtreeIndex := below.1
            fiber := fiber
            tag := node.tag
            stateNode := fibers.stateNode fiber
            tokenTarget := tokenTarget }])

def forEachDeletedSubtree {Collected : Type} (root : FiberRootId) (finishedWork : FiberId)
    (visit : DeletedSubtreeRequest → Collected → Except HostMutationError Collected)
    (deletionLists : List HostRootDeletionListRecord) (collected : Collected) :
    Except HostMutationError Collected :=
  deletionLists.zipIdx.foldlM
    (fun collected entry => do
      let parent ← fibers.get entry.1.parent
      let hostParent ← fibers.findNearestHostParentForDeletion entry.1.parent
      entry.1.deleted.zipIdx.foldlM
        (fun collected deleted =>
          visit
            { root := root
              hostRoot := finishedWork
              deletionList := entry.1.list
              deletionListIndex := entry.2
              deletedIndex := deleted.2
              parent := entry.1.parent
              parentTag := parent.tag
              hostParent := hostParent
              deletedRoot := deleted.1 }
            collected)
        collected)
    collected

def materializeDeletionSubtreeTraversalGate (root : FiberRootId) (finishedWork : FiberId)
    (deletionLists : List HostRootDeletionListRecord) :
    Except HostMutationError (List HostRootDeletionSubtreeTraversalGateRecord) :=
  fibers.forEachDeletedSubtree root finishedWork
    (fun request records => do
      let deletedRoot ← fibers.get request.deletedRoot
      fibers.collectDeletionSubtreeTraversalGateRecords request deletedRoot.tag fibers.rounds
        request.deletedRoot 0 .none records)
    deletionLists []

def collectPendingHostNodeDeletionCleanup (root : FiberRootId) (finishedWork : FiberId)
    (deletionLists : List HostRootDeletionListRecord) :
    Except HostMutationError (List PendingHostRootDeletionCleanupRecord) :=
  fibers.forEachDeletedSubtree root finishedWork
    (fun request records => do
      let collected ← fibers.collectPendingDeletedSubtreeHostNodeCleanup request fibers.rounds
        request.deletedRoot (0, records)
      return collected.2)
    deletionLists []

end HostFibers

end FastReact
