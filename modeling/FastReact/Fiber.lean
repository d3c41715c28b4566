import FastReact.ErrorState
import FastReact.Lane
import FastReact.SlotArena

namespace FastReact

open ErrorState List

/-!
# Fibers

Fibers live in a slot arena and form trees: a fiber names its parent, its first child
and its next sibling.  A HostRoot fiber names the root it belongs to and carries the
handles of its state and its update queue.  Deleted children are kept in lists beside
the fibers until their cleanup, each list named by its parent.
-/

/-- An opaque handle; zero stands for none. -/
structure OpaqueHandle (Tag : Type) where
  raw : Nat

/-- Opaque handles are compared by their raw value. -/
instance (Tag : Type) : DecidableEq (OpaqueHandle Tag) := fun first second =>
  decidable_of_iff (first.raw = second.raw) (by cases first; cases second; simp)

namespace OpaqueHandle

variable {Tag : Type}

def none : OpaqueHandle Tag := ⟨0⟩
def isNone (handle : OpaqueHandle Tag) : Bool := handle.raw == 0
def isSome (handle : OpaqueHandle Tag) : Bool := handle.raw != 0

end OpaqueHandle

inductive FiberNodeTag
inductive FiberRootTag
inductive StateTag
inductive UpdateQueueTag
inductive PropsTag

abbrev FiberId := Handle FiberNodeTag

abbrev FiberRootId := Handle FiberRootTag

abbrev StateHandle := OpaqueHandle StateTag
abbrev UpdateQueueHandle := OpaqueHandle UpdateQueueTag
abbrev PropsHandle := OpaqueHandle PropsTag

/-- The kinds of fibers. -/
inductive FiberTag where
  | functionComponent
  | classComponent
  | hostRoot
  | portal
  | hostComponent
  | hostText
  | fragment
  | mode
  | contextConsumer
  | contextProvider
  | forwardRef
  | profiler
  | suspense
  | memoComponent
  | simpleMemoComponent
  | lazyComponent
  | incompleteClassComponent
  | dehydratedFragment
  | suspenseList
  | scope
  | offscreen
  | legacyHidden
  | cache
  | tracingMarker
  | hostHoistable
  | hostSingleton
  | incompleteFunctionComponent
  | throw
  | viewTransition
  | activity
  | reserved (tag : Nat)
deriving DecidableEq

structure FiberMode where
  bits : BitVec 32
deriving DecidableEq

namespace FiberMode

def no : FiberMode := ⟨0⟩
def concurrent : FiberMode := ⟨1⟩
def containsAny (mode other : FiberMode) : Bool := mode.bits &&& other.bits != 0

end FiberMode

/-- What a fiber asks of the commit. -/
structure FiberFlags where
  bits : BitVec 32
deriving DecidableEq

namespace FiberFlags

def no : FiberFlags := ⟨0⟩
def update : FiberFlags := ⟨1 <<< 2⟩
def childDeletion : FiberFlags := ⟨16⟩
def merge (flags other : FiberFlags) : FiberFlags := ⟨flags.bits ||| other.bits⟩
def remove (flags subset : FiberFlags) : FiberFlags := ⟨flags.bits &&& ~~~subset.bits⟩
def containsAll (flags subset : FiberFlags) : Bool :=
  flags.bits &&& subset.bits == subset.bits

end FiberFlags

structure DeletionListId where
  index : Nat
deriving DecidableEq

structure DeletionList where
  parent : FiberId
  deleted : List FiberId
  noDuplicates : deleted.Nodup
deriving DecidableEq

namespace DeletionList

def new (parent : FiberId) : DeletionList where
  parent := parent
  deleted := []
  noDuplicates := nodup_nil

def pushUnique (list : DeletionList) (id : FiberId) : DeletionList :=
  if absent : id ∉ list.deleted then
    { list with
      deleted := list.deleted ++ [id]
      noDuplicates := by
        refine nodup_append.mpr ⟨list.noDuplicates, nodup_singleton id, ?_⟩
        intro other member pushed isPushed same
        rw [mem_singleton] at isPushed
        exact absent (isPushed ▸ same ▸ member) }
  else
    list

@[simp] theorem mem_pushUnique {list : DeletionList} {id other : FiberId} :
    other ∈ (list.pushUnique id).deleted ↔ other ∈ list.deleted ∨ other = id := by
  unfold pushUnique
  split
  · simp
  · rename_i present
    rw [Classical.not_not] at present
    constructor
    · exact .inl
    · rintro (listed | rfl)
      · exact listed
      · exact present

@[simp] theorem parent_pushUnique (list : DeletionList) (id : FiberId) :
    (list.pushUnique id).parent = list.parent := by
  unfold pushUnique
  split <;> rfl

end DeletionList

/-- Errors of the arena.  The source has no `endlessReturnPath`: it stands for a walk
over parents that does not return because they form a cycle. -/
inductive FiberTopologyError where
  | invalidSlot (id : FiberId)
  | staleGeneration (id : FiberId) (currentGeneration : Nat)
  | vacantSlot (id : FiberId)
  | selfLink (id : FiberId) (field : String)
  | duplicateChild (parent child : FiberId)
  | alreadyHasParent (child currentParent newParent : FiberId)
  | parentCycle (parent child : FiberId)
  | returnCycle (start repeated : FiberId)
  | siblingCycle (start repeated : FiberId)
  | mixedParentSiblingChain (parent child : FiberId) (actualParent : Option FiberId)
  | duplicateChildOwnership (child firstParent secondParent : FiberId)
  | nonReciprocalAlternate (fiber alternate : FiberId)
  | alternateStableIdentityMismatch (fiber alternate : FiberId)
  | invalidDeletionList (id : DeletionListId)
  | deletionListMissingFlag (parent : FiberId) (list : DeletionListId)
  | deletedChildStillInFinishedChain (parent deleted : FiberId)
  | invalidIndex (parent child : FiberId) (expected actual : Nat)
  | linkedFiberCannotBeReclaimed (id : FiberId)
  | deletionListRetainsFiber (id : FiberId) (list : DeletionListId)
  | generationOverflow (id : FiberId)
  | endlessReturnPath
deriving DecidableEq

/-- The error of a fiber that does not resolve. -/
def FiberTopologyError.ofLookup (id : FiberId) : LookupError → FiberTopologyError
  | .outOfRange => .invalidSlot id
  | .stale currentGeneration => .staleGeneration id currentGeneration
  | .vacant => .vacantSlot id

/-- A fiber.  The source packs the root of a HostRoot fiber into its state node. -/
structure FiberNode where
  tag : FiberTag
  key : Option String
  mode : FiberMode
  stateNode : Option FiberRootId
  returnFiber : Option FiberId
  child : Option FiberId
  sibling : Option FiberId
  index : Nat
  alternate : Option FiberId
  pendingProps : PropsHandle
  memoizedState : StateHandle
  updateQueue : UpdateQueueHandle
  lanes : Lanes
  childLanes : Lanes
  flags : FiberFlags
  deletions : Option DeletionListId
deriving DecidableEq

namespace FiberNode

def new (tag : FiberTag) (key : Option String) (pendingProps : PropsHandle)
    (mode : FiberMode) : FiberNode where
  tag := tag
  key := key
  mode := mode
  stateNode := none
  returnFiber := none
  child := none
  sibling := none
  index := 0
  alternate := none
  pendingProps := pendingProps
  memoizedState := .none
  updateQueue := .none
  lanes := Lanes.no
  childLanes := Lanes.no
  flags := FiberFlags.no
  deletions := none

def mergeLanes (node : FiberNode) (lanes : Lanes) : FiberNode :=
  { node with lanes := node.lanes.merge lanes }

/-- What the alternate of a fiber starts from: the same, out of every tree. -/
def cloneForAlternate (node : FiberNode) (self : FiberId) (pendingProps : PropsHandle) :
    FiberNode :=
  { node with
    pendingProps := pendingProps
    returnFiber := none
    child := none
    sibling := none
    alternate := some self
    flags := FiberFlags.no
    deletions := none }

end FiberNode

structure FiberArena where
  nodes : SlotArena FiberNodeTag FiberNode
  deletionLists : List (Option DeletionList)
deriving DecidableEq

abbrev FiberArenaM := EStateM FiberTopologyError FiberArena

namespace FiberArena

def new : FiberArena where
  nodes := SlotArena.empty
  deletionLists := []

def get (arena : FiberArena) (id : FiberId) : Except FiberTopologyError FiberNode :=
  (arena.nodes.find id).mapError (FiberTopologyError.ofLookup id)

def get? (arena : FiberArena) (id : FiberId) : Option FiberNode :=
  arena.nodes.get? id

def validateFiberId (arena : FiberArena) (id : FiberId) : Except FiberTopologyError Unit := do
  let _ ← arena.get id

def changeFiber (arena : FiberArena) (id : FiberId) (change : FiberNode → FiberNode) : FiberArena :=
  { arena with nodes := arena.nodes.modify id change }

variable {arena : FiberArena} {id : FiberId}

theorem get_eq_ok_iff {node : FiberNode} : arena.get id = .ok node ↔ arena.get? id = some node := by
  rw [get?, ← SlotArena.find_eq_ok_iff, get]
  cases arena.nodes.find id <;> simp [Except.mapError]

theorem validateFiberId_eq_ok {node : FiberNode} (live : arena.get? id = some node) :
    arena.validateFiberId id = .ok () := by
  rw [validateFiberId, get_eq_ok_iff.mpr live]
  rfl

theorem exists_of_validateFiberId (valid : arena.validateFiberId id = .ok ()) :
    ∃ node, arena.get? id = some node := by
  cases found : arena.get id with
  | ok node => exact ⟨node, get_eq_ok_iff.mp found⟩
  | error error =>
    rw [validateFiberId, found] at valid
    cases valid

theorem get?_changeFiber (arena : FiberArena) (id other : FiberId)
    (change : FiberNode → FiberNode) :
    (arena.changeFiber id change).get? other =
      if other = id then (arena.get? other).map change else arena.get? other :=
  SlotArena.get?_modify arena.nodes id other change

@[simp] theorem deletionLists_changeFiber (arena : FiberArena) (id : FiberId)
    (change : FiberNode → FiberNode) :
    (arena.changeFiber id change).deletionLists = arena.deletionLists :=
  rfl

end FiberArena

def modifyFiber (id : FiberId) (change : FiberNode → FiberNode) : FiberArenaM Unit := do
  let _ ← query (·.get id)
  modify (·.changeFiber id change)

def createFiber (tag : FiberTag) (key : Option String) (pendingProps : PropsHandle)
    (mode : FiberMode) : FiberArenaM FiberId :=
  modifyGet fun arena =>
    let (id, nodes) := arena.nodes.insert (FiberNode.new tag key pendingProps mode)
    (id, { arena with nodes := nodes })

theorem run_modifyFiber {arena : FiberArena} {id : FiberId} {node : FiberNode}
    (live : arena.get? id = some node) (change : FiberNode → FiberNode) :
    (modifyFiber id change).run arena = .ok () (arena.changeFiber id change) := by
  simp only [modifyFiber, run_bind, run_query, FiberArena.get_eq_ok_iff.mpr live, run_modify]

end FastReact
