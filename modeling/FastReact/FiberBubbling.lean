import FastReact.DeletedHostNodes

namespace FastReact

open ErrorState FiberArena List

/-!
# Bubbling lanes and flags

A completed fiber takes over the lanes and the flags of its children and of all that is below
them.  Only the children are read.  When every fiber is bubbled once and behind its children,
each flag has reached all fibers above it in the end.
-/

namespace FiberFlags

variable {flags other mask : FiberFlags}

@[simp] theorem containsAny_no : no.containsAny mask = false := by
  have empty : (0#32 &&& mask.bits) = 0#32 := BitVec.zero_and
  simp [containsAny, no, empty]

@[simp] theorem containsAny_merge :
    (flags.merge other).containsAny mask = (flags.containsAny mask || other.containsAny mask) := by
  have isZero : ((flags.bits &&& mask.bits) ||| (other.bits &&& mask.bits)) = 0#32 ↔
      (flags.bits &&& mask.bits) = 0#32 ∧ (other.bits &&& mask.bits) = 0#32 :=
    BitVec.or_eq_zero_iff
  rw [containsAny, containsAny, containsAny, merge, BitVec.and_or_distrib_right, Bool.eq_iff_iff,
    Bool.or_eq_true, bne_iff_ne, bne_iff_ne, bne_iff_ne]
  exact (not_congr isZero).trans not_and_or

theorem containsAny_of_containsAll (contains : flags.containsAll other = true)
    (inMask : other.containsAny mask = true) : flags.containsAny mask = true := by
  have merged : flags.merge other = flags := by
    obtain ⟨bits⟩ := flags
    obtain ⟨otherBits⟩ := other
    have absorbed : bits &&& otherBits = otherBits := beq_iff_eq.mp contains
    change FiberFlags.mk (bits ||| otherBits) = ⟨bits⟩
    rw [← absorbed]
    congr 1
    ext index
    simp only [BitVec.getElem_or, BitVec.getElem_and, Bool.or_eq_left_iff_imp, Bool.and_eq_true]
    exact fun both => both.1
  rw [← merged, containsAny_merge, inMask, Bool.or_true]

end FiberFlags

structure FiberBubbledProperties where
  childLanes : Lanes
  subtreeFlags : FiberFlags
deriving DecidableEq

def FiberNode.setChildLanes (node : FiberNode) (childLanes : Lanes) : FiberNode :=
  { node with childLanes := childLanes }

namespace HostFibers

variable (fibers : HostFibers)

def bubbleChildLanes (parent : FiberId) : Except FiberTopologyError Lanes := do
  let children ← fibers.arena.childIds parent
  children.foldlM
    (fun childLanes child => do
      let childNode ← fibers.arena.get child
      return (childLanes.merge childNode.lanes).merge childNode.childLanes)
    Lanes.no

def mergeSubtreeFlags (subtreeFlags : FiberFlags) (child : FiberId) :
    Except FiberTopologyError FiberFlags := do
  let childNode ← fibers.arena.get child
  return subtreeFlags.merge (childNode.flags.merge (fibers.subtreeFlags child))

def bubbleSubtreeFlags (parent : FiberId) : Except FiberTopologyError FiberFlags := do
  let children ← fibers.arena.childIds parent
  children.foldlM fibers.mergeSubtreeFlags FiberFlags.no

def bubbleProperties (parent : FiberId) : Except FiberTopologyError FiberBubbledProperties := do
  let childLanes ← fibers.bubbleChildLanes parent
  let subtreeFlags ← fibers.bubbleSubtreeFlags parent
  return ⟨childLanes, subtreeFlags⟩

/-- Set what a fiber gets from its children. -/
def setBubbledProperties (parent : FiberId) : Except FiberTopologyError HostFibers := do
  let bubbled ← fibers.bubbleProperties parent
  return { fibers with
    arena := fibers.arena.changeFiber parent (·.setChildLanes bubbled.childLanes)
    subtreeFlags := Function.update fibers.subtreeFlags parent bubbled.subtreeFlags }

def bubbleAll (order : List FiberId) : Except FiberTopologyError HostFibers :=
  order.foldlM HostFibers.setBubbledProperties fibers

end HostFibers

/-- Every fiber comes once and behind its children. -/
def ChildrenFirst (children : FiberId → List FiberId) (order : List FiberId) : Prop :=
  ∀ earlier parent later, order = earlier ++ parent :: later →
    parent ∉ earlier ∧ ∀ child ∈ children parent, child ∈ earlier

namespace HostFibers

/-- Both are the same apart from what bubbling writes to one fiber. -/
structure BubbledAt (parent : FiberId) (before after : HostFibers) : Prop where
  childIds : ∀ parent children,
    after.arena.childIds parent = .ok children ↔ before.arena.childIds parent = .ok children
  flags : ∀ fiber,
    (after.arena.get? fiber).map FiberNode.flags = (before.arena.get? fiber).map FiberNode.flags
  subtreeFlags : ∀ fiber, fiber ≠ parent → after.subtreeFlags fiber = before.subtreeFlags fiber
  own : before.bubbleSubtreeFlags parent = .ok (after.subtreeFlags parent)

variable {fibers before after : HostFibers} {parent child : FiberId} {flags mask : FiberFlags}
  {children order : List FiberId}

theorem bubbleSubtreeFlags_eq_ok_iff :
    fibers.bubbleSubtreeFlags parent = .ok flags ↔
      ∃ children, fibers.arena.childIds parent = .ok children ∧
        children.foldlM fibers.mergeSubtreeFlags FiberFlags.no = .ok flags := by
  rw [bubbleSubtreeFlags, bind_eq_ok_iff]

theorem mergeSubtreeFlags_eq_ok_iff {start : FiberFlags} :
    fibers.mergeSubtreeFlags start child = .ok flags ↔
      ∃ own, (fibers.arena.get? child).map FiberNode.flags = some own ∧
        start.merge (own.merge (fibers.subtreeFlags child)) = flags := by
  rw [mergeSubtreeFlags, bind_eq_ok_iff]
  constructor
  · rintro ⟨node, resolved, finished⟩
    cases finished
    exact ⟨node.flags, by rw [get_eq_ok_iff.mp resolved, Option.map_some], rfl⟩
  · rintro ⟨own, isOwn, rfl⟩
    obtain ⟨node, live, rfl⟩ := Option.map_eq_some_iff.mp isOwn
    exact ⟨node, get_eq_ok_iff.mpr live, rfl⟩

theorem containsAny_foldlM_mergeSubtreeFlags {start : FiberFlags}
    (ran : children.foldlM fibers.mergeSubtreeFlags start = .ok flags) :
    flags.containsAny mask = true ↔
      start.containsAny mask = true ∨
        ∃ child ∈ children,
          ((fibers.arena.get? child).map FiberNode.flags).any (·.containsAny mask) = true ∨
            (fibers.subtreeFlags child).containsAny mask = true := by
  induction children generalizing start with
  | nil =>
    cases ran
    simp
  | cons child rest ih =>
    rw [foldlM_cons] at ran
    obtain ⟨next, merged, ranRest⟩ := bind_eq_ok_iff.mp ran
    obtain ⟨own, isOwn, rfl⟩ := mergeSubtreeFlags_eq_ok_iff.mp merged
    rw [ih ranRest, exists_mem_cons_iff, isOwn]
    simp only [FiberFlags.containsAny_merge, Bool.or_eq_true, Option.any_some, or_assoc]

theorem containsAny_of_bubbleSubtreeFlags (bubbled : fibers.bubbleSubtreeFlags parent = .ok flags) :
    flags.containsAny mask = true ↔
      ∃ child ∈ fibers.finishedChildren parent,
        ((fibers.arena.get? child).map FiberNode.flags).any (·.containsAny mask) = true ∨
          (fibers.subtreeFlags child).containsAny mask = true := by
  obtain ⟨children, collected, ran⟩ := bubbleSubtreeFlags_eq_ok_iff.mp bubbled
  have gathered : fibers.childIds parent = .ok children := mapError_eq_ok_iff.mpr collected
  rw [containsAny_foldlM_mergeSubtreeFlags ran, finishedChildren_of_childIds gathered]
  simp

theorem bubbledAt_of_setBubbledProperties (ran : before.setBubbledProperties parent = .ok after) :
    BubbledAt parent before after := by
  obtain ⟨bubbled, ranBubbled, finished⟩ := bind_eq_ok_iff.mp ran
  obtain ⟨childLanes, -, ranFlags⟩ := bind_eq_ok_iff.mp ranBubbled
  obtain ⟨subtreeFlags, bubbledFlags, finishedBubbled⟩ := bind_eq_ok_iff.mp ranFlags
  cases finishedBubbled
  cases finished
  constructor
  · intro other children
    have sameChild : ∀ id,
        (before.arena.changeFiber parent (·.setChildLanes childLanes)).child? id =
          before.arena.child? id :=
      bind_get?_changeFiber (fun node => by rfl) parent
    have sameSibling :
        (before.arena.changeFiber parent (·.setChildLanes childLanes)).sibling? =
          before.arena.sibling? :=
      funext (bind_get?_changeFiber (fun node => by rfl) parent)
    simp only [childIds_eq_ok_iff, isLive_changeFiber, sameChild, sameSibling]
  · intro fiber
    simp only [get?_changeFiber]
    split
    · rw [Option.map_map]
      rfl
    · rfl
  · intro fiber different
    exact Function.update_of_ne different _ _
  · simp only [Function.update_self]
    exact bubbledFlags

theorem BubbledAt.finishedChildren_eq (bubbledAt : BubbledAt parent before after) :
    after.finishedChildren = before.finishedChildren := by
  funext fiber
  unfold finishedChildren HostFibers.childIds
  cases collected : before.arena.childIds fiber with
  | ok children => rw [(bubbledAt.childIds fiber children).mpr collected]
  | error error =>
    cases collectedAfter : after.arena.childIds fiber with
    | ok children =>
      rw [(bubbledAt.childIds fiber children).mp collectedAfter] at collected
      cases collected
    | error other => rfl

theorem BubbledAt.bubbleSubtreeFlags {fiber : FiberId} (bubbledAt : BubbledAt parent before after)
    (bubbled : before.bubbleSubtreeFlags fiber = .ok flags)
    (noChild : parent ∉ before.finishedChildren fiber) :
    after.bubbleSubtreeFlags fiber = .ok flags := by
  obtain ⟨children, collected, ran⟩ := bubbleSubtreeFlags_eq_ok_iff.mp bubbled
  have gathered : before.childIds fiber = .ok children := mapError_eq_ok_iff.mpr collected
  rw [finishedChildren_of_childIds gathered] at noChild
  refine bubbleSubtreeFlags_eq_ok_iff.mpr
    ⟨children, (bubbledAt.childIds fiber children).mpr collected, ?_⟩
  have sameFold : ∀ start, children.foldlM before.mergeSubtreeFlags start = .ok flags →
      children.foldlM after.mergeSubtreeFlags start = .ok flags := by
    clear collected gathered ran
    induction children with
    | nil => exact fun _ finished => finished
    | cons child rest ih =>
      intro start ranFold
      rw [mem_cons, not_or] at noChild
      rw [foldlM_cons] at ranFold ⊢
      obtain ⟨next, merged, ranRest⟩ := bind_eq_ok_iff.mp ranFold
      refine bind_eq_ok_iff.mpr ⟨next, ?_, ih noChild.2 next ranRest⟩
      obtain ⟨own, isOwn, isNext⟩ := mergeSubtreeFlags_eq_ok_iff.mp merged
      refine mergeSubtreeFlags_eq_ok_iff.mpr ⟨own, (bubbledAt.flags child).trans isOwn, ?_⟩
      rw [bubbledAt.subtreeFlags child (Ne.symm noChild.1)]
      exact isNext
  exact sameFold _ ran

/-- After bubbling children first every fiber has what it gets from its children. -/
theorem bubbled_of_bubbleAll (ran : before.bubbleAll order = .ok after)
    (childrenFirst : ChildrenFirst before.finishedChildren order) :
    after.finishedChildren = before.finishedChildren ∧
      ∀ fiber ∈ order, after.bubbleSubtreeFlags fiber = .ok (after.subtreeFlags fiber) := by
  induction order using List.reverseRecOn generalizing after with
  | nil =>
    cases ran
    exact ⟨rfl, forall_mem_nil _⟩
  | append_singleton earlier parent ih =>
    rw [bubbleAll, foldlM_append] at ran
    obtain ⟨between, ranEarlier, ranLast⟩ := bind_eq_ok_iff.mp ran
    rw [foldlM_cons] at ranLast
    obtain ⟨last, ranParent, finished⟩ := bind_eq_ok_iff.mp ranLast
    cases finished
    have bubbledAt := bubbledAt_of_setBubbledProperties ranParent
    have earlierFirst : ChildrenFirst before.finishedChildren earlier := by
      intro front fiber back shape
      exact childrenFirst front fiber (back ++ [parent]) (by rw [shape]; simp)
    obtain ⟨sameChildren, bubbledEarlier⟩ := ih ranEarlier earlierFirst
    obtain ⟨parentNew, ownChildren⟩ := childrenFirst earlier parent [] rfl
    refine ⟨bubbledAt.finishedChildren_eq.trans sameChildren, ?_⟩
    intro fiber member
    rcases mem_append.mp member with inEarlier | isParent
    · -- An earlier fiber has only children that come before it.
      have different : fiber ≠ parent := fun same => parentNew (same ▸ inEarlier)
      rw [bubbledAt.subtreeFlags fiber different]
      refine bubbledAt.bubbleSubtreeFlags (bubbledEarlier fiber inEarlier) ?_
      intro isChild
      obtain ⟨front, back, shape⟩ := append_of_mem inEarlier
      rw [sameChildren] at isChild
      have inFront := (earlierFirst front fiber back shape).2 parent isChild
      exact parentNew (shape ▸ mem_append_left _ inFront)
    · rw [mem_singleton.mp isParent]
      refine bubbledAt.bubbleSubtreeFlags bubbledAt.own ?_
      rw [sameChildren]
      exact fun isChild => parentNew (ownChildren parent isChild)

/-- A flag of a fiber has reached every fiber above it. -/
theorem subtreeFlags_containsAny_of_below {fiber : FiberId}
    (bubbled : ∀ other, PostOrder.Below fibers.finishedChildren parent other →
      fibers.bubbleSubtreeFlags other = .ok (fibers.subtreeFlags other))
    (isChild : child ∈ fibers.finishedChildren parent)
    (isBelow : PostOrder.Below fibers.finishedChildren child fiber)
    (flagged : ((fibers.arena.get? fiber).map FiberNode.flags).any (·.containsAny mask) = true) :
    (fibers.subtreeFlags parent).containsAny mask = true := by
  obtain ⟨place, reached⟩ := isBelow
  induction place generalizing parent child with
  | nil =>
    cases reached
    exact (containsAny_of_bubbleSubtreeFlags (bubbled parent (.refl parent))).mpr
      ⟨fiber, isChild, .inl flagged⟩
  | cons index rest ih =>
    obtain ⟨inner, found, reachedInner⟩ := Option.bind_eq_some_iff.mp reached
    have below := ih
      (fun other isOther => bubbled other
        (((PostOrder.Below.refl parent).step isChild).trans isOther))
      (mem_of_getElem? found) reachedInner
    exact (containsAny_of_bubbleSubtreeFlags (bubbled parent (.refl parent))).mpr
      ⟨child, isChild, .inr below⟩

end HostFibers

end FastReact
