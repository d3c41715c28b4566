import FastReact.ChildPlacement
import FastReact.RootCommit

namespace FastReact

/-!
# The host mutations of a commit

A commit goes over the finished tree of a HostRoot and logs what is to be done to the
host children: which deleted children are removed, which placed children are appended or
put before a sibling that stays, and which host fibers are updated.  The search for
placed and updated fibers is cut off below fixed depths.
-/

inductive StateNodeTag

abbrev StateNodeHandle := OpaqueHandle StateNodeTag

namespace FiberFlags

def placement : FiberFlags := ⟨1 <<< 1⟩
def cloned : FiberFlags := ⟨1 <<< 3⟩
def contentReset : FiberFlags := ⟨1 <<< 5⟩
def ref : FiberFlags := ⟨1 <<< 9⟩
def snapshot : FiberFlags := ⟨1 <<< 10⟩
def hydrating : FiberFlags := ⟨1 <<< 12⟩
def visibility : FiberFlags := ⟨1 <<< 13⟩
def formReset : FiberFlags := snapshot

def mutationMask : FiberFlags :=
  placement.merge (update.merge (childDeletion.merge (contentReset.merge (ref.merge
    (hydrating.merge (visibility.merge formReset))))))

def containsAny (flags other : FiberFlags) : Bool :=
  flags.bits &&& other.bits != 0

def hasMutationEffects (flags : FiberFlags) : Bool :=
  flags.containsAny mutationMask

end FiberFlags

/-- The fibers with what a commit reads of them beside their links. -/
structure HostFibers where
  arena : FiberArena
  stateNode : FiberId → StateNodeHandle
  subtreeFlags : FiberId → FiberFlags
  memoizedProps : FiberId → PropsHandle

/-- Errors of the logs.  The source has no `endlessWalk`: it stands for a loop over fibers
that has not ended within its rounds. -/
inductive HostMutationError where
  | commit (error : RootCommitError)
  | endlessWalk
deriving DecidableEq

inductive HostRootMutationPhaseRecordKind where
  | placement
  | update
deriving DecidableEq

inductive HostRootPlacementSiblingStatus where
  | append
  | insertBefore
  | blockedUnsupportedTag
  | blockedMissingStateNode
deriving DecidableEq

/-- Where a placed fiber goes among the children of its host parent. -/
structure HostRootPlacementSiblingRecord where
  status : HostRootPlacementSiblingStatus
  sibling : Option FiberId
  siblingTag : Option FiberTag
  siblingStateNode : StateNodeHandle
  skippedPendingSiblingCount : Nat
deriving DecidableEq

namespace HostRootPlacementSiblingRecord

def appendAfterSkippingPendingSiblings (skippedPendingSiblingCount : Nat) :
    HostRootPlacementSiblingRecord where
  status := .append
  sibling := none
  siblingTag := none
  siblingStateNode := .none
  skippedPendingSiblingCount := skippedPendingSiblingCount

def append : HostRootPlacementSiblingRecord :=
  appendAfterSkippingPendingSiblings 0

end HostRootPlacementSiblingRecord

/-- A fiber that is placed or updated. -/
structure HostRootMutationPhaseRecord where
  root : FiberRootId
  hostRoot : FiberId
  parent : FiberId
  parentTag : FiberTag
  parentStateNode : StateNodeHandle
  parentFlags : FiberFlags
  fiber : FiberId
  alternateFiber : Option FiberId
  tag : FiberTag
  kind : HostRootMutationPhaseRecordKind
  placementSibling : Option HostRootPlacementSiblingRecord
  lanes : Lanes
  effectFlag : FiberFlags
  stateNode : StateNodeHandle
  pendingProps : PropsHandle
  memoizedProps : PropsHandle
  alternateMemoizedProps : Option PropsHandle
deriving DecidableEq

/-- The deleted children of a fiber in the finished tree. -/
structure HostRootDeletionListRecord where
  parent : FiberId
  list : DeletionListId
  deleted : List FiberId
deriving DecidableEq

structure HostRootDeletionHostParentRecord where
  fiber : FiberId
  tag : FiberTag
  stateNode : StateNodeHandle
  traversalDepth : Nat
deriving DecidableEq

inductive HostRootMutationApplyRecordSource where
  | mutationPhase (kind : HostRootMutationPhaseRecordKind)
  | deletionList (list : DeletionListId)
deriving DecidableEq

inductive HostRootMutationApplyRecordKind where
  | appendPlacementToContainer
  | appendPlacementToHostParent
  | insertPlacementInContainerBefore
  | insertPlacementInHostParentBefore
  | recordPlacementInsertionBlocked
  | commitHostComponentUpdate
  | commitHostTextUpdate
  | removeDeletedFromContainer
  | removeDeletedFromHostParent
  | skipUnsupportedNestedPlacement
  | skipDeletedNonHostFiber
deriving DecidableEq

structure HostRootMutationApplyRecord where
  root : FiberRootId
  hostRoot : FiberId
  source : HostRootMutationApplyRecordSource
  parent : FiberId
  parentTag : FiberTag
  parentStateNode : StateNodeHandle
  fiber : FiberId
  alternateFiber : Option FiberId
  tag : FiberTag
  kind : HostRootMutationApplyRecordKind
  placementSibling : Option HostRootPlacementSiblingRecord
  lanes : Lanes
  effectFlag : FiberFlags
  stateNode : StateNodeHandle
  pendingProps : PropsHandle
  memoizedProps : PropsHandle
  alternateMemoizedProps : Option PropsHandle
deriving DecidableEq

def isSupportedHostRootMutationChild (tag : FiberTag) : Bool :=
  tag = .hostComponent || tag = .hostText

def HostRootMutationPhaseRecordKind.flag : HostRootMutationPhaseRecordKind → FiberFlags
  | .placement => FiberFlags.placement
  | .update => FiberFlags.update

def FiberNode.isPlaced (node : FiberNode) : Bool :=
  node.flags.containsAll FiberFlags.placement

def hostParentPlacementCanaryMaxHostComponentDepth : Nat := 2
def hostComponentUpdateCanaryMaxFiberDepth : Nat := 6
def hostComponentUpdateCanaryMaxHostComponentDepth : Nat := 4

namespace HostFibers

variable (fibers : HostFibers)

/-- One round more than there are slots ends every walk that does not repeat itself. -/
def rounds : Nat :=
  fibers.arena.nodes.slots.length + 1

def get (id : FiberId) : Except HostMutationError FiberNode :=
  (fibers.arena.get id).mapError fun error => .commit (.fiberTopology error)

def collectSiblings {Record : Type} (visit : FiberId → Except HostMutationError (List Record)) :
    Nat → Option FiberId → Except HostMutationError (List Record)
  | _, none => .ok []
  | 0, some _ => .error .endlessWalk
  | rounds + 1, some child => do
      let node ← fibers.get child
      let records ← visit child
      let later ← collectSiblings visit rounds node.sibling
      return records ++ later

/-- The sibling a placed fiber goes before: the next one that is not placed itself. -/
def findPlacementSibling (hostParent : FiberId) :
    Nat → Option FiberId → Nat → Except HostMutationError HostRootPlacementSiblingRecord
  | _, none, skipped => .ok (.appendAfterSkippingPendingSiblings skipped)
  | 0, some _, _ => .error .endlessWalk
  | rounds + 1, some sibling, skipped => do
      let siblingNode ← fibers.get sibling
      if siblingNode.returnFiber ≠ some hostParent then
        .error (.commit (.fiberTopology
          (.mixedParentSiblingChain hostParent sibling siblingNode.returnFiber)))
      else if isSupportedHostRootMutationChild siblingNode.tag && siblingNode.isPlaced then
        findPlacementSibling hostParent rounds siblingNode.sibling (skipped + 1)
      else
        .ok {
          status :=
            if !isSupportedHostRootMutationChild siblingNode.tag then .blockedUnsupportedTag
            else if (fibers.stateNode sibling).isNone then .blockedMissingStateNode
            else .insertBefore
          sibling := some sibling
          siblingTag := some siblingNode.tag
          siblingStateNode := fibers.stateNode sibling
          skippedPendingSiblingCount := skipped }

def hostParentPlacementSiblingRecord (hostParent : FiberId) (sibling : Option FiberId) :
    Except HostMutationError HostRootPlacementSiblingRecord :=
  fibers.findPlacementSibling hostParent fibers.rounds sibling 0

/-- The place of a fiber that is placed below a parent of some kind. -/
def placementSibling (parent : FiberId) (parentTag : FiberTag) (sibling : Option FiberId) :
    HostRootMutationPhaseRecordKind →
      Except HostMutationError (Option HostRootPlacementSiblingRecord)
  | .placement =>
      if parentTag = .hostRoot ∨ parentTag = .hostComponent then
        some <$> fibers.hostParentPlacementSiblingRecord parent sibling
      else
        .ok (some .append)
  | .update => .ok none

def alternateMemoizedProps (alternate : Option FiberId) :
    Except HostMutationError (Option PropsHandle) :=
  match alternate with
  | some alternate => do
      let _ ← fibers.get alternate
      return some (fibers.memoizedProps alternate)
  | none => .ok none

def hostRootMutationPhaseRecord (root : FiberRootId) (hostRoot parent fiber : FiberId)
    (kind : HostRootMutationPhaseRecordKind) (lanes : Lanes) :
    Except HostMutationError HostRootMutationPhaseRecord := do
  let node ← fibers.get fiber
  let parentNode ← fibers.get parent
  let alternateMemoizedProps ← fibers.alternateMemoizedProps node.alternate
  let placementSibling ← fibers.placementSibling parent parentNode.tag node.sibling kind
  return {
    root := root
    hostRoot := hostRoot
    parent := parent
    parentTag := parentNode.tag
    parentStateNode := if parentNode.tag = .hostRoot then .none else fibers.stateNode parent
    parentFlags := parentNode.flags
    fiber := fiber
    alternateFiber := node.alternate
    tag := node.tag
    kind := kind
    placementSibling := placementSibling
    lanes := lanes
    effectFlag := kind.flag
    stateNode := fibers.stateNode fiber
    pendingProps := node.pendingProps
    memoizedProps := fibers.memoizedProps fiber
    alternateMemoizedProps := alternateMemoizedProps }

section PhaseLog

variable (root : FiberRootId) (hostRoot : FiberId) (lanes : Lanes)

/-- The record of a host child that is placed below a parent, if it is. -/
def placementPhaseRecord (parent child : FiberId) :
    Except HostMutationError (List HostRootMutationPhaseRecord) := do
  let node ← fibers.get child
  if isSupportedHostRootMutationChild node.tag && node.isPlaced then
    return [← fibers.hostRootMutationPhaseRecord root hostRoot parent child .placement lanes]
  else
    return []

/-- A function component with a single placed host child: the child is placed below the
root, behind the siblings it has itself. -/
def collectFunctionComponentSingleHostChildPlacementPhaseRecord (functionComponent : FiberId) :
    Except HostMutationError (List HostRootMutationPhaseRecord) := do
  let functionNode ← fibers.get functionComponent
  if functionNode.tag ≠ .functionComponent ||
      !(fibers.subtreeFlags functionComponent).containsAll FiberFlags.placement then
    return []
  match functionNode.child with
  | none => return []
  | some child =>
      let childNode ← fibers.get child
      if childNode.sibling.isSome || !isSupportedHostRootMutationChild childNode.tag ||
          !childNode.isPlaced then
        return []
      return [← fibers.hostRootMutationPhaseRecord root hostRoot hostRoot child .placement lanes]

/-- The placed children of a host component, and of the host components among its children
that stay as it does, down to a number of levels. -/
def collectHostComponentChildPlacementPhaseRecords :
    Nat → FiberId → Except HostMutationError (List HostRootMutationPhaseRecord)
  | levels, parent => do
      let parentNode ← fibers.get parent
      if parentNode.tag ≠ .hostComponent then
        return []
      fibers.collectSiblings
        (fun child => do
          let own ← fibers.placementPhaseRecord root hostRoot lanes parent child
          let node ← fibers.get child
          match levels with
          | 0 => return own
          | levels + 1 =>
              if !parentNode.isPlaced && node.tag = .hostComponent && !node.isPlaced then
                return own ++ (← collectHostComponentChildPlacementPhaseRecords levels child)
              else
                return own)
        fibers.rounds parentNode.child

/-- Whether the search for updates goes on below a fiber. -/
def shouldDescendHostComponentUpdateTraversal (tag : FiberTag) (flags : FiberFlags)
    (levels hostComponentDepth : Nat)
    (subtreeFlags : FiberFlags) : Bool :=
  levels ≠ 0 && hostComponentDepth < hostComponentUpdateCanaryMaxHostComponentDepth &&
    subtreeFlags.containsAny (FiberFlags.mutationMask.merge FiberFlags.cloned) &&
    !flags.containsAll FiberFlags.placement &&
    (tag = .hostComponent || tag = .functionComponent || tag = .fragment)

/-- The updated host fibers below a fiber, down to a number of levels, and then itself. -/
def collectHostComponentUpdateTraversalPhaseRecords :
    Nat → Nat → FiberId → FiberId → Except HostMutationError (List HostRootMutationPhaseRecord)
  | levels, hostComponentDepth, parent, fiber => do
      let node ← fibers.get fiber
      let nextHostComponentDepth :=
        hostComponentDepth + if node.tag = .hostComponent then 1 else 0
      let below ←
        match levels with
        | 0 => pure []
        | levels + 1 =>
            if shouldDescendHostComponentUpdateTraversal node.tag node.flags (levels + 1)
                nextHostComponentDepth (fibers.subtreeFlags fiber) then
              fibers.collectSiblings
                (fun child => collectHostComponentUpdateTraversalPhaseRecords levels
                  nextHostComponentDepth fiber child)
                fibers.rounds node.child
            else
              pure []
      if isSupportedHostRootMutationChild node.tag &&
          node.flags.containsAll FiberFlags.update then
        return below ++
          [← fibers.hostRootMutationPhaseRecord root hostRoot parent fiber .update lanes]
      else
        return below

def collectRootChildPhaseRecords (child : FiberId) :
    Except HostMutationError (List HostRootMutationPhaseRecord) := do
  let own ← fibers.placementPhaseRecord root hostRoot lanes hostRoot child
  let functionComponentChild ←
    fibers.collectFunctionComponentSingleHostChildPlacementPhaseRecord root hostRoot lanes child
  let placements ← fibers.collectHostComponentChildPlacementPhaseRecords root hostRoot lanes
    (hostParentPlacementCanaryMaxHostComponentDepth - 1) child
  let updates ← fibers.collectHostComponentUpdateTraversalPhaseRecords root hostRoot lanes
    (hostComponentUpdateCanaryMaxFiberDepth - 1) 0 hostRoot child
  return own ++ functionComponentChild ++ placements ++ updates

def collectHostRootMutationPhaseLog :
    Except HostMutationError (List HostRootMutationPhaseRecord) := do
  let finishedRoot ← fibers.get hostRoot
  if !(fibers.subtreeFlags hostRoot).hasMutationEffects then
    return []
  fibers.collectSiblings (fibers.collectRootChildPhaseRecords root hostRoot lanes)
    fibers.rounds finishedRoot.child

end PhaseLog

section DeletionLists

def childIds (parent : FiberId) : Except HostMutationError (List FiberId) :=
  (fibers.arena.childIds parent).mapError fun error => .commit (.fiberTopology error)

def checkedDeletionList (parent : FiberId) (flags : FiberFlags) (childIds : List FiberId)
    (listId : DeletionListId) : Except HostMutationError (List FiberId) :=
  match fibers.arena.deletionList listId with
  | none => .error (.commit (.fiberTopology (.invalidDeletionList listId)))
  | some list => do
      if list.parent ≠ parent then
        .error (.commit (.fiberTopology (.invalidDeletionList listId)))
      else if !list.deleted.isEmpty && !flags.containsAll FiberFlags.childDeletion then
        .error (.commit (.fiberTopology (.deletionListMissingFlag parent listId)))
      else
        list.deleted.forM fun deleted => do
          let _ ← fibers.get deleted
          if childIds.any fun child => decide (child = deleted) then
            .error (.commit (.fiberTopology (.deletedChildStillInFinishedChain parent deleted)))
          else
            .ok ()
        return list.deleted

/-- The deletion list of a fiber, unless it is empty, and the children of the fiber. -/
def deletionListRecord (parent : FiberId) :
    Except HostMutationError (List HostRootDeletionListRecord × List FiberId) := do
  let node ← fibers.get parent
  let childIds ← fibers.childIds parent
  match node.deletions with
  | none => return ([], childIds)
  | some listId =>
      let deleted ← fibers.checkedDeletionList parent node.flags childIds listId
      if deleted.isEmpty then
        return ([], childIds)
      else
        return ([⟨parent, listId, deleted⟩], childIds)

/-- The loop over the fibers of the finished tree; the top of the stack comes first. -/
def collectDeletionLists :
    Nat → List FiberId → Except HostMutationError (List HostRootDeletionListRecord)
  | _, [] => .ok []
  | 0, _ :: _ => .error .endlessWalk
  | rounds + 1, parent :: stack => do
      let (own, childIds) ← fibers.deletionListRecord parent
      let later ← collectDeletionLists rounds (childIds ++ stack)
      return own ++ later

def collectDeletionListMetadata (finishedWork : FiberId) :
    Except HostMutationError (List HostRootDeletionListRecord) :=
  fibers.collectDeletionLists fibers.rounds [finishedWork]

/-- The loop to the nearest host parent, through function components only. -/
def findHostParentForDeletion :
    Nat → FiberId → Nat → Except HostMutationError (Option HostRootDeletionHostParentRecord)
  | 0, _, _ => .error .endlessWalk
  | rounds + 1, candidate, traversalDepth => do
      let node ← fibers.get candidate
      if node.tag = .hostRoot ∨ node.tag = .hostComponent then
        return some {
          fiber := candidate
          tag := node.tag
          stateNode := fibers.stateNode candidate
          traversalDepth := traversalDepth }
      else if node.tag = .functionComponent then
        match node.returnFiber with
        | none => return none
        | some parent => findHostParentForDeletion rounds parent (traversalDepth + 1)
      else
        return none

def findNearestHostParentForDeletion (deletionParent : FiberId) :
    Except HostMutationError (Option HostRootDeletionHostParentRecord) :=
  fibers.findHostParentForDeletion fibers.rounds deletionParent 0

end DeletionLists

section ApplyLog

variable (root : FiberRootId) (hostRoot : FiberId) (lanes : Lanes)

def hostRootDeletionApplyRecord (list : DeletionListId) (parent : FiberId) (parentTag : FiberTag)
    (parentStateNode : StateNodeHandle) (deleted : FiberId) :
    Except HostMutationError HostRootMutationApplyRecord := do
  let node ← fibers.get deleted
  return {
    root := root
    hostRoot := hostRoot
    source := .deletionList list
    parent := parent
    parentTag := parentTag
    parentStateNode := parentStateNode
    fiber := deleted
    alternateFiber := none
    tag := node.tag
    kind :=
      if !isSupportedHostRootMutationChild node.tag then .skipDeletedNonHostFiber
      else if parentTag = .hostRoot then .removeDeletedFromContainer
      else if parentTag = .hostComponent then .removeDeletedFromHostParent
      else .skipDeletedNonHostFiber
    placementSibling := none
    lanes := lanes
    effectFlag := FiberFlags.childDeletion
    stateNode := fibers.stateNode deleted
    pendingProps := node.pendingProps
    memoizedProps := fibers.memoizedProps deleted
    alternateMemoizedProps := none }

def deletionApplyRecords (deletionList : HostRootDeletionListRecord) :
    Except HostMutationError (List HostRootMutationApplyRecord) := do
  let deletionParent ← fibers.get deletionList.parent
  let hostParent ← fibers.findNearestHostParentForDeletion deletionList.parent
  deletionList.deleted.mapM fun deleted =>
    match hostParent with
    | some record =>
        fibers.hostRootDeletionApplyRecord root hostRoot lanes deletionList.list record.fiber
          record.tag record.stateNode deleted
    | none =>
        fibers.hostRootDeletionApplyRecord root hostRoot lanes deletionList.list
          deletionList.parent deletionParent.tag (fibers.stateNode deletionList.parent) deleted

end ApplyLog

end HostFibers

/-- What is done with a placed child, given the kinds of record for its parent. -/
def HostRootPlacementSiblingRecord.applyKind (record : HostRootPlacementSiblingRecord)
    (append insertBefore : HostRootMutationApplyRecordKind) : HostRootMutationApplyRecordKind :=
  match record.status with
  | .append => append
  | .insertBefore => insertBefore
  | .blockedUnsupportedTag | .blockedMissingStateNode => .recordPlacementInsertionBlocked

def HostRootMutationPhaseRecord.applyKind (record : HostRootMutationPhaseRecord) :
    Except HostMutationError HostRootMutationApplyRecordKind :=
  match record.kind with
  | .placement =>
      let sibling := record.placementSibling.getD .append
      if record.parentTag = .hostRoot then
        .ok (sibling.applyKind .appendPlacementToContainer .insertPlacementInContainerBefore)
      else if record.parentTag = .hostComponent ∧
          ¬ record.parentFlags.containsAll FiberFlags.placement then
        .ok (sibling.applyKind .appendPlacementToHostParent .insertPlacementInHostParentBefore)
      else
        .ok .skipUnsupportedNestedPlacement
  | .update =>
      if record.tag = .hostComponent then .ok .commitHostComponentUpdate
      else if record.tag = .hostText then .ok .commitHostTextUpdate
      else .error (.commit (.expectedHostRoot record.root record.fiber record.tag))

def hostRootMutationPhaseApplyRecord (record : HostRootMutationPhaseRecord) :
    Except HostMutationError HostRootMutationApplyRecord := do
  let kind ← record.applyKind
  return {
    root := record.root
    hostRoot := record.hostRoot
    source := .mutationPhase record.kind
    parent := record.parent
    parentTag := record.parentTag
    parentStateNode := record.parentStateNode
    fiber := record.fiber
    alternateFiber := record.alternateFiber
    tag := record.tag
    kind := kind
    placementSibling := record.placementSibling
    lanes := record.lanes
    effectFlag := record.effectFlag
    stateNode := record.stateNode
    pendingProps := record.pendingProps
    memoizedProps := record.memoizedProps
    alternateMemoizedProps := record.alternateMemoizedProps }

namespace HostFibers

variable (fibers : HostFibers)

/-- The deletions first, then the placements and updates. -/
def collectHostRootMutationApplyLog (root : FiberRootId) (finishedWork : FiberId) (lanes : Lanes)
    (mutationLog : List HostRootMutationPhaseRecord)
    (deletionLists : List HostRootDeletionListRecord) :
    Except HostMutationError (List HostRootMutationApplyRecord) := do
  let deletions ← deletionLists.mapM (fibers.deletionApplyRecords root finishedWork lanes)
  let mutations ← mutationLog.mapM hostRootMutationPhaseApplyRecord
  return deletions.flatten ++ mutations

def hostRootMutations (root : FiberRootId) (finishedWork : FiberId) (lanes : Lanes) :
    Except HostMutationError (List HostRootMutationApplyRecord) := do
  let mutationLog ← fibers.collectHostRootMutationPhaseLog root finishedWork lanes
  let deletionLists ← fibers.collectDeletionListMetadata finishedWork
  fibers.collectHostRootMutationApplyLog root finishedWork lanes mutationLog deletionLists

end HostFibers

open ChildPlacement in
def HostRootMutationApplyRecord.applyTo (record : HostRootMutationApplyRecord)
    (children : List StateNodeHandle) : Option (List StateNodeHandle) :=
  match record.kind with
  | .appendPlacementToContainer | .appendPlacementToHostParent =>
      some (append record.stateNode children)
  | .insertPlacementInContainerBefore | .insertPlacementInHostParentBefore =>
      record.placementSibling.bind fun sibling =>
        insertBefore record.stateNode sibling.siblingStateNode children
  | .removeDeletedFromContainer | .removeDeletedFromHostParent =>
      some (children.erase record.stateNode)
  | .recordPlacementInsertionBlocked | .commitHostComponentUpdate | .commitHostTextUpdate
  | .skipUnsupportedNestedPlacement | .skipDeletedNonHostFiber => some children

def applyHostMutations (parent : FiberId) (log : List HostRootMutationApplyRecord)
    (children : List StateNodeHandle) : Option (List StateNodeHandle) :=
  (log.filter (·.parent = parent)).foldlM (fun children record => record.applyTo children) children

end FastReact
