import FastReact.Fiber

namespace FastReact

open ErrorState

/-!
# Operations on the fiber arena

Children are linked by rewriting the whole chain of a parent: the old children that are
left out are detached, the new ones get their parent, sibling and index.  Alternates are
linked in pairs.  A deleted child moves from the chain of its parent into the parent's
deletion list.
-/

namespace FiberArena

def returnFiber? (arena : FiberArena) (id : FiberId) : Option FiberId :=
  (arena.get? id).bind FiberNode.returnFiber

def child? (arena : FiberArena) (id : FiberId) : Option FiberId :=
  (arena.get? id).bind FiberNode.child

def sibling? (arena : FiberArena) (id : FiberId) : Option FiberId :=
  (arena.get? id).bind FiberNode.sibling

def alternate? (arena : FiberArena) (id : FiberId) : Option FiberId :=
  (arena.get? id).bind FiberNode.alternate

def deletions? (arena : FiberArena) (id : FiberId) : Option DeletionListId :=
  (arena.get? id).bind FiberNode.deletions

def rejectSelfLink (id target : FiberId) (field : String) : Except FiberTopologyError Unit :=
  if id = target then .error (.selfLink id field) else .ok ()

/-- Follow the siblings; each round meets a live fiber that was not met before, so one
round more than there are slots always ends the loop. -/
def childIdsLoop (arena : FiberArena) (start : FiberId) :
    Nat → Option FiberId → List FiberId → Except FiberTopologyError (List FiberId)
  | _, none, children => .ok children
  | 0, some child, _ => .error (.siblingCycle start child)
  | rounds + 1, some child, children => do
      let node ← arena.get child
      if child ∈ children then
        .error (.siblingCycle start child)
      else
        childIdsLoop arena start rounds node.sibling (children ++ [child])

/-- The children of a fiber, the first one first. -/
def childIds (arena : FiberArena) (parent : FiberId) :
    Except FiberTopologyError (List FiberId) := do
  let node ← arena.get parent
  arena.childIdsLoop parent (arena.nodes.slots.length + 1) node.child []

def containsInChildChain (arena : FiberArena) (parent target : FiberId) :
    Except FiberTopologyError Bool := do
  return target ∈ (← arena.childIds parent)

/-- Follow the parents up to the ancestor, with one round more than there are slots. -/
def isAncestorLoop (arena : FiberArena) (ancestor start : FiberId) :
    Nat → Option FiberId → List FiberId → Except FiberTopologyError Bool
  | _, none, _ => .ok false
  | 0, some id, _ => .error (.returnCycle start id)
  | rounds + 1, some id, seen => do
      if id = ancestor then
        .ok true
      else if id ∈ seen then
        .error (.returnCycle start id)
      else
        let node ← arena.get id
        isAncestorLoop arena ancestor start rounds node.returnFiber (seen ++ [id])

def isAncestor (arena : FiberArena) (ancestor child : FiberId) :
    Except FiberTopologyError Bool := do
  arena.validateFiberId ancestor
  arena.validateFiberId child
  arena.isAncestorLoop ancestor child (arena.nodes.slots.length + 1) (some child) []

/-- Check one new child of a parent against those before it. -/
def validateNewChild (arena : FiberArena) (parent : FiberId) (seen : List FiberId)
    (child : FiberId) : Except FiberTopologyError (List FiberId) := do
  let node ← arena.get child
  rejectSelfLink parent child "child"
  if child ∈ seen then
    .error (.duplicateChild parent child)
  else if ← arena.isAncestor child parent then
    .error (.parentCycle parent child)
  else
    match node.returnFiber with
    | some currentParent =>
        if currentParent ≠ parent then
          .error (.alreadyHasParent child currentParent parent)
        else
          .ok (seen ++ [child])
    | none => .ok (seen ++ [child])

/-- The deletion list at a position, unless it was cleared. -/
def deletionList (arena : FiberArena) (id : DeletionListId) : Option DeletionList :=
  (arena.deletionLists[id.index]?).join

def validateDeletionListId (arena : FiberArena) (id : DeletionListId) :
    Except FiberTopologyError Unit :=
  if (arena.deletionList id).isSome then .ok () else .error (.invalidDeletionList id)

def isRetainedByDeletionList (arena : FiberArena) (id : FiberId) : Option DeletionListId :=
  (arena.deletionLists.findIdx? fun list => list.any fun list => id ∈ list.deleted).map
    DeletionListId.mk

def validateAlternateStableIdentity (arena : FiberArena) (first second : FiberId) :
    Except FiberTopologyError Unit := do
  let firstNode ← arena.get first
  let secondNode ← arena.get second
  if firstNode.tag ≠ secondNode.tag ∨ firstNode.key ≠ secondNode.key then
    .error (.alternateStableIdentityMismatch first second)
  else
    .ok ()

def validateAlternatePair (arena : FiberArena) (first second : FiberId) :
    Except FiberTopologyError Unit := do
  let firstNode ← arena.get first
  let secondNode ← arena.get second
  rejectSelfLink first second "alternate"
  arena.validateAlternateStableIdentity first second
  if firstNode.alternate ≠ some second then
    .error (.nonReciprocalAlternate first second)
  else if secondNode.alternate ≠ some first then
    .error (.nonReciprocalAlternate second first)
  else
    .ok ()

end FiberArena

namespace FiberNode

/-- A fiber out of every chain. -/
def detached (node : FiberNode) : FiberNode :=
  { node with
    returnFiber := none
    sibling := none
    index := 0 }

def attached (node : FiberNode) (parent : FiberId) (sibling : Option FiberId)
    (index : Nat) : FiberNode :=
  { node with
    returnFiber := some parent
    sibling := sibling
    index := index }

def setChild (node : FiberNode) (child : Option FiberId) : FiberNode :=
  { node with child := child }

def setSibling (node : FiberNode) (sibling : Option FiberId) : FiberNode :=
  { node with sibling := sibling }

def setReturnFiber (node : FiberNode) (returnFiber : Option FiberId) : FiberNode :=
  { node with returnFiber := returnFiber }

def setAlternate (node : FiberNode) (alternate : Option FiberId) : FiberNode :=
  { node with alternate := alternate }

def setDeletions (node : FiberNode) (deletions : Option DeletionListId) : FiberNode :=
  { node with deletions := deletions }

def mergeFlags (node : FiberNode) (flags : FiberFlags) : FiberNode :=
  { node with flags := node.flags.merge flags }

def removeFlags (node : FiberNode) (flags : FiberFlags) : FiberNode :=
  { node with flags := node.flags.remove flags }

end FiberNode

def setChildren (parent : FiberId) (children : List FiberId) : FiberArenaM Unit := do
  query (·.validateFiberId parent)
  let _ ← query fun arena => children.foldlM (arena.validateNewChild parent) []
  let oldChildren ← query (·.childIds parent)
  (oldChildren.filter fun oldChild => oldChild ∉ children).forM fun oldChild =>
    modifyFiber oldChild (·.detached)
  modifyFiber parent (·.setChild children.head?)
  children.zipIdx.forM fun (child, index) =>
    modifyFiber child (·.attached parent children[index + 1]? index)

def appendChild (parent child : FiberId) : FiberArenaM Unit := do
  let children ← query (·.childIds parent)
  setChildren parent (children ++ [child])

/-- Take a child out of a chain; reports whether it was in it. -/
def removeChildFromChain (parent child : FiberId) : FiberArenaM Bool := do
  let children ← query (·.childIds parent)
  let kept := children.filter (· ≠ child)
  if kept.length = children.length then
    return false
  setChildren parent kept
  modifyFiber child (·.setSibling none)
  return true

def fiberGenerationBound : Nat := 2 ^ 64

def reclaimFiberAfterCleanup (id : FiberId) : FiberArenaM Unit := do
  let node ← query (·.get id)
  if node.returnFiber.isSome || node.child.isSome || node.sibling.isSome ||
      node.alternate.isSome || node.deletions.isSome then
    throw (.linkedFiberCannotBeReclaimed id)
  match (← get).isRetainedByDeletionList id with
  | some list => throw (.deletionListRetainsFiber id list)
  | none => pure ()
  if fiberGenerationBound ≤ id.generation + 1 then
    throw (.generationOverflow id)
  modify fun arena => { arena with nodes := arena.nodes.remove id }

def linkAlternates (first second : FiberId) : FiberArenaM Unit := do
  query (·.validateFiberId first)
  query (·.validateFiberId second)
  query fun _ => FiberArena.rejectSelfLink first second "alternate"
  query (·.validateAlternateStableIdentity first second)
  modifyFiber first (·.setAlternate (some second))
  modifyFiber second (·.setAlternate (some first))

/-- Rewrite the alternate of a fiber from the fiber, or create it. -/
def createWorkInProgress (current : FiberId) (pendingProps : PropsHandle) :
    FiberArenaM FiberId := do
  let currentNode ← query (·.get current)
  match currentNode.alternate with
  | some existing =>
      query (·.validateAlternatePair current existing)
      modifyFiber existing fun _ => currentNode.cloneForAlternate current pendingProps
      modifyFiber current (·.setAlternate (some existing))
      return existing
  | none =>
      let workInProgress ←
        createFiber currentNode.tag currentNode.key pendingProps currentNode.mode
      modifyFiber workInProgress fun _ => currentNode.cloneForAlternate current pendingProps
      modifyFiber current (·.setAlternate (some workInProgress))
      return workInProgress

def ensureDeletionList (parent : FiberId) : FiberArenaM DeletionListId := do
  match (← query (·.get parent)).deletions with
  | some id =>
      query (·.validateDeletionListId id)
      return id
  | none =>
      let id ← modifyGet fun (arena : FiberArena) =>
        (⟨arena.deletionLists.length⟩,
          { arena with
            deletionLists := arena.deletionLists ++ [some (DeletionList.new parent)] })
      modifyFiber parent (·.setDeletions (some id))
      return id

def pushDeletion (id : DeletionListId) (deleted : FiberId) : FiberArenaM Unit := do
  query (·.validateDeletionListId id)
  modify fun arena =>
    { arena with
      deletionLists := arena.deletionLists.modify id.index
        (·.map (·.pushUnique deleted)) }

def markChildForDeletion (parent deleted : FiberId) : FiberArenaM DeletionListId := do
  query (·.validateFiberId parent)
  query (·.validateFiberId deleted)
  query fun _ => FiberArena.rejectSelfLink parent deleted "deletion"
  if ← query (·.containsInChildChain parent deleted) then
    let _ ← removeChildFromChain parent deleted
  let list ← ensureDeletionList parent
  pushDeletion list deleted
  modifyFiber parent (·.mergeFlags FiberFlags.childDeletion)
  modifyFiber deleted fun node => (node.setReturnFiber (some parent)).setSibling none
  return list

def clearDeletionsAfterCleanup (parent : FiberId) : FiberArenaM Unit := do
  match (← query (·.get parent)).deletions with
  | some id =>
      query (·.validateDeletionListId id)
      modify fun arena => { arena with deletionLists := arena.deletionLists.set id.index none }
      modifyFiber parent fun node => (node.setDeletions none).removeFlags FiberFlags.childDeletion
  | none => pure ()

namespace FiberArena

/-- What a valid arena holds. -/
structure FiberArenaValidation where
  liveFibers : Nat
  deletionLists : Nat
deriving DecidableEq

def validateLink (arena : FiberArena) (id : FiberId) (field : String)
    (link : Option FiberId) : Except FiberTopologyError Unit :=
  match link with
  | some target => do
      rejectSelfLink id target field
      arena.validateFiberId target
  | none => .ok ()

/-- Check that the alternate of a fiber is its pair. -/
def validateAlternate (arena : FiberArena) (id : FiberId) (node : FiberNode) :
    Except FiberTopologyError Unit :=
  match node.alternate with
  | some alternate => do
      let alternateNode ← arena.get alternate
      if alternateNode.alternate ≠ some id then
        .error (.nonReciprocalAlternate id alternate)
      else if node.tag ≠ alternateNode.tag ∨ node.key ≠ alternateNode.key then
        .error (.alternateStableIdentityMismatch id alternate)
      else
        .ok ()
  | none => .ok ()

/-- Check that a deleted fiber resolves and left the chain of its parent. -/
def validateDeleted (arena : FiberArena) (id deleted : FiberId) :
    Except FiberTopologyError Unit := do
  arena.validateFiberId deleted
  if ← arena.containsInChildChain id deleted then
    .error (.deletedChildStillInFinishedChain id deleted)
  else
    .ok ()

/-- Check the deletion list of a fiber. -/
def validateDeletions (arena : FiberArena) (id : FiberId) (node : FiberNode) :
    Except FiberTopologyError Unit :=
  match node.deletions with
  | some listId => do
      arena.validateDeletionListId listId
      match arena.deletionList listId with
      | some list =>
          if list.parent ≠ id then
            .error (.invalidDeletionList listId)
          else if !list.deleted.isEmpty &&
              !node.flags.containsAll FiberFlags.childDeletion then
            .error (.deletionListMissingFlag id listId)
          else
            list.deleted.forM (arena.validateDeleted id)
      | none => .error (.invalidDeletionList listId)
  | none => .ok ()

/-- Check one child of a chain; gathers the children with their parents. -/
def validateChild (arena : FiberArena) (id : FiberId)
    (ownedChildren : List (FiberId × FiberId)) (entry : FiberId × Nat) :
    Except FiberTopologyError (List (FiberId × FiberId)) := do
  let (child, expectedIndex) := entry
  let childNode ← arena.get child
  if childNode.returnFiber ≠ some id then
    .error (.mixedParentSiblingChain id child childNode.returnFiber)
  else if childNode.index ≠ expectedIndex then
    .error (.invalidIndex id child expectedIndex childNode.index)
  else
    match ownedChildren.lookup child with
    | some previousParent => .error (.duplicateChildOwnership child previousParent id)
    | none => .ok ((child, id) :: ownedChildren)

/-- Check one fiber. -/
def validateFiber (arena : FiberArena) (ownedChildren : List (FiberId × FiberId))
    (id : FiberId) : Except FiberTopologyError (List (FiberId × FiberId)) := do
  let node ← arena.get id
  arena.validateLink id "return" node.returnFiber
  arena.validateLink id "child" node.child
  arena.validateLink id "sibling" node.sibling
  arena.validateLink id "alternate" node.alternate
  arena.validateAlternate id node
  arena.validateDeletions id node
  let children ← arena.childIds id
  children.zipIdx.foldlM (arena.validateChild id) ownedChildren

/-- Check all live fibers. -/
def validateTopology (arena : FiberArena) : Except FiberTopologyError FiberArenaValidation := do
  let _ ← arena.nodes.handles.foldlM arena.validateFiber []
  return {
    liveFibers := arena.nodes.handles.length
    deletionLists := (arena.deletionLists.filter Option.isSome).length }

end FiberArena

end FastReact
