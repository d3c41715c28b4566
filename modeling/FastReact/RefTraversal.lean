import FastReact.FiberBubbling
import FastReact.RefCommitMetadata

namespace FastReact

open ErrorState FiberArena FiberFlags HostFibers List List.Perm PostOrder SlotArena

/-!
# The refs of a finished tree

The traversals for refs go into the children of a fiber only when something below it carries
a flag of their masks.  Where the flags have been bubbled they find the same refs as
traversals that visit every fiber.
-/

namespace FiberArena

/-- The alternate of a fiber, if any, names the fiber. -/
def IsPaired (arena : FiberArena) (fiber : FiberId) : Prop :=
  ∀ alternate, arena.alternate? fiber = some alternate →
    arena.IsLive alternate ∧ arena.alternate? alternate = some fiber

def OwnsFlaggedDeletions (arena : FiberArena) (fiber : FiberId) : Prop :=
  ∀ node listId, arena.get? fiber = some node → node.deletions = some listId →
    ∃ list, arena.deletionList listId = some list ∧ list.parent = fiber ∧
      (list.deleted ≠ [] → node.flags.containsAll FiberFlags.childDeletion = true)

end FiberArena

/-- A fiber that a commit meets in the finished tree or below a deleted fiber. -/
inductive CommittedFiber where
  | finished (fiber : FiberId)
  | deleted (fiber : FiberId)
deriving DecidableEq

namespace CommittedFiber

def fiber : CommittedFiber → FiberId
  | .finished fiber => fiber
  | .deleted fiber => fiber

end CommittedFiber

namespace HostFibers

/-- What a commit meets next: deleted children count at finished fibers only. -/
def committedChildren (fibers : HostFibers) : CommittedFiber → List CommittedFiber
  | .finished fiber =>
      (fibers.deletedChildren fiber).map .deleted ++ (fibers.finishedChildren fiber).map .finished
  | .deleted fiber => (fibers.finishedChildren fiber).map .deleted

/-- What a commit meets is a tree, and the fibers of the finished tree have passed the checks of
their alternates and deletions. -/
structure CommittedTree (fibers : HostFibers) (finishedWork : FiberId) : Prop where
  tree : IsTree fibers.committedChildren (.finished finishedWork)
  resolves : ∀ committed,
    Below fibers.committedChildren (.finished finishedWork) committed →
    ∃ children, fibers.arena.childIds committed.fiber = .ok children
  isPaired : ∀ fiber, Below fibers.finishedChildren finishedWork fiber →
    fibers.arena.IsPaired fiber
  ownsFlaggedDeletions : ∀ fiber, Below fibers.finishedChildren finishedWork fiber →
    fibers.arena.OwnsFlaggedDeletions fiber

end HostFibers

namespace RefFibers

section Definitions

variable (fibers : RefFibers) (root : FiberRootId)

/-- The refs to detach, where a choice says which children are visited. -/
def refDetachesBelow (childrenOf : FiberId → Except HostCommitError (List FiberId)) :
    Nat → FiberId → Except HostCommitError (List PendingRefCommitRecord)
  | 0, _ => .error (.mutation .endlessWalk)
  | rounds + 1, finishedWork => do
      let node ← fibers.get finishedWork
      let deletions ← node.deletions.elim (.ok [])
        (fibers.collectDeletionsRefDetachMetadata root finishedWork)
      let children ← childrenOf finishedWork
      let below ← children.mapM (refDetachesBelow childrenOf rounds)
      let own ← fibers.collectChangedRefDetachMetadata root node
      return deletions ++ below.flatten ++ own

/-- The refs to attach, where a choice says which children are visited. -/
def refAttachesBelow (childrenOf : FiberId → Except HostCommitError (List FiberId)) :
    Nat → FiberId → Except HostCommitError (List PendingRefCommitRecord)
  | 0, _ => .error (.mutation .endlessWalk)
  | rounds + 1, finishedWork => do
      let node ← fibers.get finishedWork
      let children ← childrenOf finishedWork
      let below ← children.mapM (refAttachesBelow childrenOf rounds)
      let own ← fibers.collectFiberRefAttachMetadata root finishedWork node
      return below.flatten ++ own

def visitEveryFiber (finishedWork : FiberId) : Except HostCommitError PendingRefCommitSnapshot := do
  let detach ← fibers.refDetachesBelow root fibers.childIds fibers.rounds finishedWork
  let attach ← fibers.refAttachesBelow root fibers.childIds fibers.rounds finishedWork
  return ⟨detach, attach⟩

/-- A host component that is to lose its ref with its subtree. -/
def hasDeletedRef (fiber : FiberId) : Bool :=
  (fibers.arena.get? fiber).any fun node =>
    node.tag = .hostComponent && (fibers.refHandle fiber).isSome

/-- The fiber whose ref is replaced by that of a finished fiber. -/
def changedRef? (fiber : FiberId) : Option FiberId :=
  (fibers.arena.get? fiber).bind fun node =>
    if node.tag = .hostComponent ∧ node.flags.containsAll FiberFlags.ref then
      node.alternate.filter fun current => (fibers.refHandle current).isSome
    else
      none

/-- A host component whose ref is to be attached. -/
def hasAttachedRef (fiber : FiberId) : Bool :=
  (fibers.arena.get? fiber).any fun node =>
    node.tag = .hostComponent && node.flags.containsAll FiberFlags.ref &&
      (fibers.refHandle fiber).isSome

def detachRequest? : CommittedFiber → Option (FiberId × HostRootRefDetachReason)
  | .finished fiber => (fibers.changedRef? fiber).map fun current => (current, .refChanged)
  | .deleted fiber => if fibers.hasDeletedRef fiber then some (fiber, .deleted) else none

def detachRecord (request : FiberId × HostRootRefDetachReason) : PendingRefCommitRecord where
  root := root
  fiber := request.1
  stateNode := fibers.stateNode request.1
  refHandle := fibers.refHandle request.1
  action := .detach
  detachReason := some request.2

def attachRecord (fiber : FiberId) : PendingRefCommitRecord where
  root := root
  fiber := fiber
  stateNode := fibers.stateNode fiber
  refHandle := fibers.refHandle fiber
  action := .attach
  detachReason := none

/-- What is met below a deleted fiber, parents first. -/
def deletedItems : Nat → FiberId → List CommittedFiber
  | 0, _ => []
  | rounds + 1, deleted =>
      .deleted deleted :: (fibers.finishedChildren deleted).flatMap (deletedItems rounds)

/-- What is met below a fiber of the finished tree: first what was deleted. -/
def finishedItems : Nat → FiberId → List CommittedFiber
  | 0, _ => []
  | rounds + 1, fiber =>
      (fibers.deletedChildren fiber).flatMap (fibers.deletedItems fibers.rounds) ++
        (fibers.finishedChildren fiber).flatMap (finishedItems rounds) ++ [.finished fiber]

end Definitions

variable {fibers : RefFibers} {root : FiberRootId} {fiber deleted : FiberId} {node : FiberNode}
  {rounds : Nat}

theorem get_of_live (live : fibers.arena.get? fiber = some node) : fibers.get fiber = .ok node :=
  mapError_eq_ok_iff.mpr (mapError_eq_ok_iff.mpr (get_eq_ok_iff.mpr live))

section

variable (resolves : ∃ children, fibers.arena.childIds fiber = .ok children)
include resolves

theorem live_of_childIds : ∃ node, fibers.arena.get? fiber = some node := by
  obtain ⟨children, collected⟩ := resolves
  exact (childIds_eq_ok_iff.mp collected).1

theorem childIds_of_resolves : fibers.childIds fiber = .ok (fibers.finishedChildren fiber) := by
  obtain ⟨children, collected⟩ := resolves
  have gathered : fibers.toHostFibers.childIds fiber = .ok children :=
    mapError_eq_ok_iff.mpr collected
  rw [finishedChildren_of_childIds gathered]
  exact mapError_eq_ok_iff.mpr gathered

end

variable {block : List PendingRefCommitRecord}

theorem refDetach_eq_ok_iff {request : FiberId × HostRootRefDetachReason} :
    fibers.refDetach root request.1 request.2 = .ok block ↔
      (fibers.stateNode request.1).isNone = false ∧ block = [fibers.detachRecord root request] := by
  rw [refDetach, refHostStateNode, bind_eq_ok_iff]
  by_cases missing : (fibers.stateNode request.1).isNone = true
  · simp [missing]
  · rw [if_neg missing]
    constructor
    · rintro ⟨stateNode, same, finished⟩
      cases same
      cases finished
      exact ⟨Bool.eq_false_iff.mpr missing, rfl⟩
    · rintro ⟨-, rfl⟩
      exact ⟨_, rfl, rfl⟩

def gatherDetach (fibers : RefFibers) (root : FiberRootId) (items : List CommittedFiber) :
    Except HostCommitError (List PendingRefCommitRecord) :=
  gather (fun request => fibers.refDetach root request.1 request.2)
    (items.filterMap fibers.detachRequest?)

theorem gatherDetach_append (items more : List CommittedFiber) :
    fibers.gatherDetach root (items ++ more) =
      fibers.gatherDetach root items >>= fun block =>
        fibers.gatherDetach root more >>= fun later => .ok (block ++ later) := by
  rw [gatherDetach, filterMap_append, gather_append]
  rfl

theorem gatherDetach_flatMap {α : Type} (items : α → List CommittedFiber) (keys : List α) :
    fibers.gatherDetach root (keys.flatMap items) =
      gather (fun key => fibers.gatherDetach root (items key)) keys := by
  rw [gatherDetach, filterMap_flatMap, gather_flatMap]
  rfl

theorem collectDeletedFiber_eq (live : fibers.arena.get? deleted = some node) :
    fibers.collectDeletedFiberRefDetachMetadata root deleted node =
      fibers.gatherDetach root [.deleted deleted] := by
  unfold collectDeletedFiberRefDetachMetadata gatherDetach
  by_cases hasRef : node.tag = .hostComponent ∧ (fibers.refHandle deleted).isSome = true
  · have isRequest : fibers.detachRequest? (.deleted deleted) = some (deleted, .deleted) := by
      simp [detachRequest?, hasDeletedRef, live, hasRef]
    rw [if_pos hasRef, filterMap_cons_some isRequest, filterMap_nil, gather_singleton]
  · have noRequest : fibers.detachRequest? (.deleted deleted) = none := by
      simpa [detachRequest?, hasDeletedRef, live] using hasRef
    rw [if_neg hasRef, filterMap_cons_none noRequest, filterMap_nil, gather_nil]

theorem collectDeleted_eq (shallow : ShallowerThan fibers.finishedChildren rounds deleted)
    (resolves : ∀ fiber, Below fibers.finishedChildren deleted fiber →
      ∃ children, fibers.arena.childIds fiber = .ok children) :
    fibers.collectDeletedRefDetachMetadata root rounds deleted =
      fibers.gatherDetach root (fibers.deletedItems rounds deleted) := by
  refine shallow.descend ?_
  intro rounds fiber isBelow ih
  obtain ⟨node, live⟩ := live_of_childIds (resolves fiber isBelow)
  have below : gather (fibers.collectDeletedRefDetachMetadata root rounds)
      (fibers.finishedChildren fiber) =
      fibers.gatherDetach root
        ((fibers.finishedChildren fiber).flatMap (fibers.deletedItems rounds)) := by
    rw [gatherDetach_flatMap]
    exact gather_congr ih
  rw [collectDeletedRefDetachMetadata, get_of_live live,
    childIds_of_resolves (resolves fiber isBelow), deletedItems,
    ← singleton_append, gatherDetach_append, ← below, ← collectDeletedFiber_eq live]
  simp only [bind, Except.bind, gather]
  cases fibers.collectDeletedFiberRefDetachMetadata root fiber node with
  | error error => rfl
  | ok own =>
    cases (fibers.finishedChildren fiber).mapM
      (fibers.collectDeletedRefDetachMetadata root rounds) <;> rfl

theorem collectDeletions_eq (live : fibers.arena.get? fiber = some node)
    (owns : fibers.arena.OwnsFlaggedDeletions fiber)
    (shallow : ∀ deleted ∈ fibers.deletedChildren fiber,
      ShallowerThan fibers.finishedChildren fibers.rounds deleted)
    (resolves : ∀ deleted ∈ fibers.deletedChildren fiber, ∀ other,
      Below fibers.finishedChildren deleted other →
      ∃ children, fibers.arena.childIds other = .ok children) :
    node.deletions.elim (.ok []) (fibers.collectDeletionsRefDetachMetadata root fiber) =
      fibers.gatherDetach root
        ((fibers.deletedChildren fiber).flatMap (fibers.deletedItems fibers.rounds)) := by
  have resolved : fibers.toHostFibers.get fiber = .ok node :=
    mapError_eq_ok_iff.mpr (get_eq_ok_iff.mpr live)
  cases linked : node.deletions with
  | none =>
    have noChildren : fibers.deletedChildren fiber = [] := by
      rw [deletedChildren, resolved]
      simp [Except.toOption, linked]
    rw [noChildren]
    rfl
  | some listId =>
    obtain ⟨list, found, isParent, -⟩ := owns node listId live linked
    have isChildren : fibers.deletedChildren fiber = list.deleted := by
      rw [deletedChildren, resolved]
      simp [Except.toOption, linked, found]
    rw [isChildren] at shallow resolves ⊢
    rw [Option.elim_some, collectDeletionsRefDetachMetadata, found, Option.elim_some,
      if_neg (not_not.mpr isParent), gatherDetach_flatMap]
    exact gather_congr fun deleted isDeleted =>
      collectDeleted_eq (shallow deleted isDeleted) (resolves deleted isDeleted)

theorem collectChanged_eq (live : fibers.arena.get? fiber = some node)
    (isPaired : fibers.arena.IsPaired fiber) :
    fibers.collectChangedRefDetachMetadata root node =
      fibers.gatherDetach root [.finished fiber] := by
  have isChanged : fibers.changedRef? fiber =
      if node.tag = .hostComponent ∧ node.flags.containsAll ref then
        node.alternate.filter fun current => (fibers.refHandle current).isSome
      else
        none := by
    rw [changedRef?, live, Option.bind_some]
  unfold collectChangedRefDetachMetadata gatherDetach
  by_cases flagged : node.tag = .hostComponent ∧ node.flags.containsAll ref = true
  · rw [if_pos flagged]
    rw [if_pos flagged] at isChanged
    cases linked : node.alternate with
    | none =>
      rw [linked] at isChanged
      have noRequest : fibers.detachRequest? (.finished fiber) = none := by
        rw [detachRequest?, isChanged]
        rfl
      rw [filterMap_cons_none noRequest, filterMap_nil, gather_nil]
      rfl
    | some current =>
      rw [linked] at isChanged
      obtain ⟨⟨currentNode, currentLive⟩, -⟩ := isPaired current
        ((alternate?_of_get? live).trans linked)
      rw [Option.elim_some, get_of_live currentLive]
      by_cases hasRef : (fibers.refHandle current).isSome = true
      · have isRequest : fibers.detachRequest? (.finished fiber) = some (current, .refChanged) := by
          rw [detachRequest?, isChanged]
          simp [hasRef]
        rw [filterMap_cons_some isRequest, filterMap_nil, gather_singleton]
        exact if_pos hasRef
      · have noRequest : fibers.detachRequest? (.finished fiber) = none := by
          rw [detachRequest?, isChanged]
          simp [hasRef]
        rw [filterMap_cons_none noRequest, filterMap_nil, gather_nil]
        exact if_neg hasRef
  · rw [if_neg flagged] at isChanged ⊢
    have noRequest : fibers.detachRequest? (.finished fiber) = none := by
      rw [detachRequest?, isChanged]
      rfl
    rw [filterMap_cons_none noRequest, filterMap_nil, gather_nil]

def DetachesNothing (fibers : RefFibers) (fiber : FiberId) : Prop :=
  fibers.deletedChildren fiber = [] ∧ fibers.changedRef? fiber = none

theorem finishedItems_detach_nothing
    (nothing : ∀ other, Below fibers.finishedChildren fiber other → fibers.DetachesNothing other) :
    (fibers.finishedItems rounds fiber).filterMap fibers.detachRequest? = [] := by
  induction rounds generalizing fiber with
  | zero => rfl
  | succ rounds ih =>
    obtain ⟨noDeleted, noChanged⟩ := nothing fiber (.refl fiber)
    have below : ((fibers.finishedChildren fiber).flatMap
        (fibers.finishedItems rounds)).filterMap fibers.detachRequest? = [] := by
      rw [filterMap_flatMap, flatMap_eq_nil_iff]
      intro child isChild
      exact ih fun other isBelow =>
        nothing other (((Below.refl fiber).step isChild).trans isBelow)
    have own : fibers.detachRequest? (.finished fiber) = none := by
      rw [detachRequest?, noChanged]
      rfl
    rw [finishedItems, noDeleted, filterMap_append, filterMap_append, below,
      filterMap_cons_none own]
    rfl

/-- A choice of children visits all children, or none where nothing below them counts. -/
def VisitsWhatCounts (fibers : RefFibers)
    (childrenOf : FiberId → Except HostCommitError (List FiberId)) (countsNot : FiberId → Prop)
    (fiber : FiberId) : Prop :=
  childrenOf fiber = .ok (fibers.finishedChildren fiber) ∨
    childrenOf fiber = .ok [] ∧ ∀ child ∈ fibers.finishedChildren fiber, ∀ other,
      Below fibers.finishedChildren child other → countsNot other

variable {childrenOf : FiberId → Except HostCommitError (List FiberId)}

/-- Whatever children are visited, what is met below a fiber is gathered. -/
theorem refDetachesBelow_eq (shallow : ShallowerThan fibers.finishedChildren rounds fiber)
    (resolves : ∀ other, Below fibers.finishedChildren fiber other →
      ∃ children, fibers.arena.childIds other = .ok children)
    (isPaired : ∀ other, Below fibers.finishedChildren fiber other → fibers.arena.IsPaired other)
    (deletions : ∀ other node, Below fibers.finishedChildren fiber other →
      fibers.arena.get? other = some node →
      node.deletions.elim (.ok []) (fibers.collectDeletionsRefDetachMetadata root other) =
        fibers.gatherDetach root
          ((fibers.deletedChildren other).flatMap (fibers.deletedItems fibers.rounds)))
    (visits : ∀ other, Below fibers.finishedChildren fiber other →
      fibers.VisitsWhatCounts childrenOf fibers.DetachesNothing other) :
    fibers.refDetachesBelow root childrenOf rounds fiber =
      fibers.gatherDetach root (fibers.finishedItems rounds fiber) := by
  refine shallow.descend ?_
  intro rounds item isBelow ih
  obtain ⟨node, live⟩ := live_of_childIds (resolves item isBelow)
  have below : ∃ children, childrenOf item = .ok children ∧
      gather (fibers.refDetachesBelow root childrenOf rounds) children =
        fibers.gatherDetach root
          ((fibers.finishedChildren item).flatMap (fibers.finishedItems rounds)) := by
    rcases visits item isBelow with all | ⟨none, nothing⟩
    · refine ⟨_, all, ?_⟩
      rw [gatherDetach_flatMap]
      exact gather_congr ih
    · refine ⟨_, none, ?_⟩
      have noRequests : ((fibers.finishedChildren item).flatMap
          (fibers.finishedItems rounds)).filterMap fibers.detachRequest? = [] := by
        rw [filterMap_flatMap, flatMap_eq_nil_iff]
        exact fun child isChild => finishedItems_detach_nothing (nothing child isChild)
      rw [gather_nil, gatherDetach, noRequests, gather_nil]
  obtain ⟨children, chosen, gathered⟩ := below
  rw [refDetachesBelow, get_of_live live, chosen, finishedItems, gatherDetach_append,
    gatherDetach_append, ← gathered, ← deletions item node isBelow live,
    ← collectChanged_eq live (isPaired item isBelow)]
  simp only [bind, Except.bind, gather]
  cases node.deletions.elim (.ok []) (fibers.collectDeletionsRefDetachMetadata root item) with
  | error error => rfl
  | ok deleted =>
    cases children.mapM (fibers.refDetachesBelow root childrenOf rounds) with
    | error error => rfl
    | ok found =>
      cases fibers.collectChangedRefDetachMetadata root node <;> rfl

theorem refAttach_eq_ok_iff :
    fibers.refAttach root fiber = .ok block ↔
      (fibers.stateNode fiber).isNone = false ∧ block = [fibers.attachRecord root fiber] := by
  rw [refAttach, refHostStateNode, bind_eq_ok_iff]
  by_cases missing : (fibers.stateNode fiber).isNone = true
  · simp [missing]
  · rw [if_neg missing]
    constructor
    · rintro ⟨stateNode, same, finished⟩
      cases same
      cases finished
      exact ⟨Bool.eq_false_iff.mpr missing, rfl⟩
    · rintro ⟨-, rfl⟩
      exact ⟨_, rfl, rfl⟩

/-- Gather the refs to attach at fibers of the finished tree. -/
def gatherAttach (fibers : RefFibers) (root : FiberRootId) (items : List FiberId) :
    Except HostCommitError (List PendingRefCommitRecord) :=
  gather (fibers.refAttach root) (items.filter fibers.hasAttachedRef)

theorem collectFiberRefAttach_eq (live : fibers.arena.get? fiber = some node) :
    fibers.collectFiberRefAttachMetadata root fiber node = fibers.gatherAttach root [fiber] := by
  unfold collectFiberRefAttachMetadata gatherAttach
  have attached : fibers.hasAttachedRef fiber = true ↔
      node.tag = .hostComponent ∧ node.flags.containsAll ref ∧ (fibers.refHandle fiber).isSome := by
    simp [hasAttachedRef, live, and_assoc]
  by_cases hasRef : node.tag = .hostComponent ∧ node.flags.containsAll ref = true ∧
      (fibers.refHandle fiber).isSome = true
  · rw [if_pos hasRef, filter_cons_of_pos (attached.mpr hasRef), filter_nil, gather_singleton]
  · rw [if_neg hasRef, filter_cons_of_neg (fun isAttached => hasRef (attached.mp isAttached)),
      filter_nil, gather_nil]

theorem postOrder_attach_nothing
    (nothing : ∀ other, Below fibers.finishedChildren fiber other →
      fibers.hasAttachedRef other = false) :
    (postOrder fibers.finishedChildren rounds fiber).filter fibers.hasAttachedRef = [] := by
  induction rounds generalizing fiber with
  | zero => rfl
  | succ rounds ih =>
    rw [postOrder, filter_append, filter_flatMap,
      filter_cons_of_neg (Bool.eq_false_iff.mp (nothing fiber (.refl fiber))), filter_nil,
      append_nil, flatMap_eq_nil_iff]
    intro child isChild
    exact ih fun other isBelow =>
      nothing other (((Below.refl fiber).step isChild).trans isBelow)

/-- Whatever children are visited, the fibers below a fiber are met in post-order. -/
theorem refAttachesBelow_eq (shallow : ShallowerThan fibers.finishedChildren rounds fiber)
    (resolves : ∀ other, Below fibers.finishedChildren fiber other →
      ∃ children, fibers.arena.childIds other = .ok children)
    (visits : ∀ other, Below fibers.finishedChildren fiber other →
      fibers.VisitsWhatCounts childrenOf (fun below => fibers.hasAttachedRef below = false) other) :
    fibers.refAttachesBelow root childrenOf rounds fiber =
      fibers.gatherAttach root (postOrder fibers.finishedChildren rounds fiber) := by
  refine shallow.descend ?_
  intro rounds item isBelow ih
  obtain ⟨node, live⟩ := live_of_childIds (resolves item isBelow)
  have below : ∃ children, childrenOf item = .ok children ∧
      gather (fibers.refAttachesBelow root childrenOf rounds) children =
        fibers.gatherAttach root ((fibers.finishedChildren item).flatMap
          (postOrder fibers.finishedChildren rounds)) := by
    rw [gatherAttach, filter_flatMap]
    rcases visits item isBelow with all | ⟨none, nothing⟩
    · refine ⟨_, all, ?_⟩
      rw [gather_flatMap]
      exact gather_congr ih
    · refine ⟨_, none, ?_⟩
      have noRequests : ((fibers.finishedChildren item).flatMap fun child =>
          (postOrder fibers.finishedChildren rounds child).filter fibers.hasAttachedRef) = [] := by
        rw [flatMap_eq_nil_iff]
        exact fun child isChild => postOrder_attach_nothing (nothing child isChild)
      rw [gather_nil, noRequests, gather_nil]
  obtain ⟨children, chosen, gathered⟩ := below
  rw [refAttachesBelow, get_of_live live, chosen, postOrder, gatherAttach, filter_append,
    gather_append, ← gatherAttach, ← gatherAttach, ← gathered, ← collectFiberRefAttach_eq live]
  simp only [bind, Except.bind, gather]
  cases children.mapM (fibers.refAttachesBelow root childrenOf rounds) with
  | error error => rfl
  | ok found =>
    cases fibers.collectFiberRefAttachMetadata root item node <;> rfl

theorem collectRefDetachMetadata_eq :
    fibers.collectRefDetachMetadata root rounds =
      fibers.refDetachesBelow root (fun parent =>
        fibers.flaggedChildIds parent (mutationMask.merge cloned)) rounds := by
  induction rounds with
  | zero => rfl
  | succ rounds ih =>
    funext fiber
    rw [collectRefDetachMetadata, refDetachesBelow, ih]

theorem collectRefAttachMetadata_eq :
    fibers.collectRefAttachMetadata root rounds =
      fibers.refAttachesBelow root (fun parent =>
        fibers.flaggedChildIds parent layoutMask) rounds := by
  induction rounds with
  | zero => rfl
  | succ rounds ih =>
    funext fiber
    rw [collectRefAttachMetadata, refAttachesBelow, ih]

/-- Below a fiber without a bubbled flag of the mask nothing carries one. -/
theorem visits_flagged {mask : FiberFlags} {countsNot : FiberId → Prop}
    (bubbled : ∀ other, Below fibers.finishedChildren fiber other →
      fibers.bubbleSubtreeFlags other = .ok (fibers.subtreeFlags other))
    (resolves : ∃ children, fibers.arena.childIds fiber = .ok children)
    (flagged : ∀ other, Below fibers.finishedChildren fiber other → ¬ countsNot other →
      ((fibers.arena.get? other).map FiberNode.flags).any (·.containsAny mask) = true) :
    fibers.VisitsWhatCounts (fun parent => fibers.flaggedChildIds parent mask) countsNot fiber := by
  unfold VisitsWhatCounts flaggedChildIds
  dsimp only
  by_cases meets : (fibers.subtreeFlags fiber).containsAny mask = true
  · rw [if_pos meets]
    exact .inl (childIds_of_resolves resolves)
  · rw [if_neg meets]
    refine .inr ⟨rfl, ?_⟩
    intro child isChild other isBelow
    by_contra counts
    have isInner := ((Below.refl fiber).step isChild).trans isBelow
    exact meets (subtreeFlags_containsAny_of_below bubbled isChild isBelow
      (flagged other isInner counts))

/-- A fiber with something to detach has a flag of the mask. -/
theorem flagged_of_detaches (resolves : ∃ children, fibers.arena.childIds fiber = .ok children)
    (owns : fibers.arena.OwnsFlaggedDeletions fiber) (detaches : ¬ fibers.DetachesNothing fiber) :
    ((fibers.arena.get? fiber).map FiberNode.flags).any
      (·.containsAny (mutationMask.merge cloned)) = true := by
  obtain ⟨node, live⟩ := live_of_childIds resolves
  rw [live, Option.map_some, Option.any_some]
  rw [DetachesNothing, not_and_or] at detaches
  rcases detaches with deletes | changes
  · have resolved : fibers.toHostFibers.get fiber = .ok node :=
      mapError_eq_ok_iff.mpr (get_eq_ok_iff.mpr live)
    rw [deletedChildren, resolved] at deletes
    cases linked : node.deletions with
    | none => exact absurd (by simp [Except.toOption, linked]) deletes
    | some listId =>
      obtain ⟨list, found, -, isFlagged⟩ := owns node listId live linked
      have notEmpty : list.deleted ≠ [] := by simpa [Except.toOption, linked, found] using deletes
      exact containsAny_of_containsAll (isFlagged notEmpty) (by decide)
  · rw [changedRef?, live, Option.bind_some] at changes
    have isFlagged : node.tag = .hostComponent ∧
        node.flags.containsAll ref = true := by
      by_contra unflagged
      exact changes (if_neg unflagged)
    exact containsAny_of_containsAll isFlagged.2 (by decide)

theorem flagged_of_attaches (attaches : ¬ fibers.hasAttachedRef fiber = false) :
    ((fibers.arena.get? fiber).map FiberNode.flags).any (·.containsAny layoutMask) = true := by
  rw [Bool.not_eq_false, hasAttachedRef, Option.any_eq_true] at attaches
  obtain ⟨node, live, attached⟩ := attaches
  rw [Bool.and_eq_true, Bool.and_eq_true] at attached
  rw [live, Option.map_some, Option.any_some]
  exact containsAny_of_containsAll attached.1.2 (by decide)

theorem deletedItems_perm :
    (fibers.deletedItems rounds deleted).Perm
      (postOrder fibers.committedChildren rounds (.deleted deleted)) := by
  induction rounds generalizing deleted with
  | zero => exact .refl _
  | succ rounds ih =>
    rw [deletedItems, postOrder, committedChildren, flatMap_map]
    refine (perm_append_singleton _ _).symm.trans (append_right _ ?_)
    exact flatMap_left _ fun child _ => ih

/-- What is met are the items of the post-order, each as often. -/
theorem finishedItems_perm (shallow : ShallowerThan fibers.finishedChildren rounds fiber)
    (shallowDeleted : ∀ other, Below fibers.finishedChildren fiber other →
      ∀ deleted ∈ fibers.deletedChildren other,
        ShallowerThan fibers.finishedChildren fibers.rounds deleted) :
    (fibers.finishedItems rounds fiber).Perm
      (postOrder fibers.committedChildren (rounds + fibers.rounds) (.finished fiber)) := by
  refine shallow.descend ?_
  intro rounds fiber isBelow ih
  rw [finishedItems, Nat.succ_add, postOrder, committedChildren,
    flatMap_append, flatMap_map, flatMap_map]
  refine ((flatMap_left _ ?_).append (flatMap_left _ ih)).append_right _
  intro other isDeleted
  have isShallow : ShallowerThan fibers.committedChildren fibers.rounds
      (.deleted other) := by
    have embedded : ∀ item, fibers.committedChildren (.deleted item) =
        (fibers.finishedChildren item).map .deleted :=
      fun _ => rfl
    intro place item reached
    rw [at?_of_embedding embedded] at reached
    obtain ⟨inner, reachedInner, -⟩ := Option.map_eq_some_iff.mp reached
    exact shallowDeleted fiber isBelow other isDeleted place inner reachedInner
  rw [postOrder_eq_of_shallow (isShallow.mono (Nat.le_add_left _ rounds)) isShallow]
  exact deletedItems_perm

/-- The ref of a fiber that a changed host component of the finished tree replaces. -/
def IsChangedRef (fibers : RefFibers) (finishedWork current : FiberId) : Prop :=
  ∃ fiber node, Below fibers.finishedChildren finishedWork fiber ∧
    fibers.arena.get? fiber = some node ∧ node.tag = .hostComponent ∧
    node.flags.containsAll FiberFlags.ref = true ∧ node.alternate = some current ∧
    (fibers.refHandle current).isSome = true

/-- The ref of a host component below a fiber that was deleted somewhere in the finished tree. -/
def IsDeletedRef (fibers : RefFibers) (finishedWork fiber : FiberId) : Prop :=
  ∃ deleted node, fibers.DeletedInTree finishedWork deleted ∧
    Below fibers.finishedChildren deleted fiber ∧
    fibers.arena.get? fiber = some node ∧ node.tag = .hostComponent ∧
    (fibers.refHandle fiber).isSome = true

/-- The ref of a changed host component of the finished tree. -/
def IsAttachedRef (fibers : RefFibers) (finishedWork fiber : FiberId) : Prop :=
  ∃ node, Below fibers.finishedChildren finishedWork fiber ∧
    fibers.arena.get? fiber = some node ∧ node.tag = .hostComponent ∧
    node.flags.containsAll FiberFlags.ref = true ∧ (fibers.refHandle fiber).isSome = true

variable {finishedWork : FiberId}

theorem changedRef?_eq_some_iff {current : FiberId} :
    fibers.changedRef? fiber = some current ↔
      ∃ node, fibers.arena.get? fiber = some node ∧ node.tag = .hostComponent ∧
        node.flags.containsAll ref = true ∧ node.alternate = some current ∧
        (fibers.refHandle current).isSome = true := by
  rw [changedRef?, Option.bind_eq_some_iff]
  refine exists_congr fun node => and_congr_right fun _ => ?_
  by_cases flagged : node.tag = .hostComponent ∧ node.flags.containsAll ref = true
  · rw [if_pos flagged, Option.filter_eq_some_iff]
    simp only [flagged.1, flagged.2, true_and]
  · rw [if_neg flagged]
    constructor
    · intro impossible
      cases impossible
    · rintro ⟨isHost, isFlagged, -⟩
      exact absurd ⟨isHost, isFlagged⟩ flagged

theorem hasDeletedRef_iff :
    fibers.hasDeletedRef fiber = true ↔
      ∃ node, fibers.arena.get? fiber = some node ∧ node.tag = .hostComponent ∧
        (fibers.refHandle fiber).isSome = true := by
  simp [hasDeletedRef, Option.any_eq_true]

theorem hasAttachedRef_iff :
    fibers.hasAttachedRef fiber = true ↔
      ∃ node, fibers.arena.get? fiber = some node ∧ node.tag = .hostComponent ∧
        node.flags.containsAll ref = true ∧ (fibers.refHandle fiber).isSome = true := by
  simp [hasAttachedRef, Option.any_eq_true, and_assoc]

theorem committed_of_finished (isBelow : Below fibers.finishedChildren finishedWork fiber) :
    Below fibers.committedChildren (.finished finishedWork) (.finished fiber) :=
  isBelow.of_embedding fun _ => sublist_append_right _ _

theorem committed_of_deleted {parent : FiberId}
    (isBelow : Below fibers.finishedChildren finishedWork parent)
    (isDeleted : deleted ∈ fibers.deletedChildren parent)
    (isInner : Below fibers.finishedChildren deleted fiber) :
    Below fibers.committedChildren (.finished finishedWork) (.deleted fiber) := by
  have start := (committed_of_finished isBelow).step
    (mem_append_left _ (mem_map_of_mem isDeleted) :
      .deleted deleted ∈ fibers.committedChildren (.finished parent))
  exact start.trans (isInner.of_embedding fun _ => .refl _)

def IsMet (fibers : RefFibers) (finishedWork : FiberId) : CommittedFiber → Prop
  | .finished fiber => Below fibers.finishedChildren finishedWork fiber
  | .deleted fiber => ∃ deleted, fibers.DeletedInTree finishedWork deleted ∧
      Below fibers.finishedChildren deleted fiber

theorem committed_iff {item : CommittedFiber} :
    Below fibers.committedChildren (.finished finishedWork) item ↔
      fibers.IsMet finishedWork item := by
  constructor
  · intro isBelow
    refine isBelow.of_step (Below.refl finishedWork) ?_
    intro parent child _ isChild isMet
    cases parent with
    | finished fiber =>
      rcases mem_append.mp isChild with isDeleted | isNext
      · obtain ⟨deleted, member, rfl⟩ := mem_map.mp isDeleted
        exact ⟨deleted, ⟨fiber, isMet, member⟩, .refl _⟩
      · obtain ⟨next, member, rfl⟩ := mem_map.mp isNext
        exact Below.step isMet member
    | deleted fiber =>
      obtain ⟨next, member, rfl⟩ := mem_map.mp isChild
      obtain ⟨deleted, inTree, isInner⟩ := isMet
      exact ⟨deleted, inTree, isInner.step member⟩
  · intro isMet
    cases item with
    | finished fiber => exact committed_of_finished isMet
    | deleted fiber =>
      obtain ⟨deleted, ⟨parent, isBelow, isDeleted⟩, isInner⟩ := isMet
      exact committed_of_deleted isBelow isDeleted isInner

theorem shallowerThan_rounds (tree : IsTree fibers.finishedChildren fiber)
    (resolves : ∀ other, Below fibers.finishedChildren fiber other →
      ∃ children, fibers.arena.childIds other = .ok children) :
    ShallowerThan fibers.finishedChildren fibers.rounds fiber := by
  have within : ∀ other, Below fibers.finishedChildren fiber other →
      other ∈ fibers.arena.nodes.handles := by
    intro other isBelow
    exact mem_handles.mpr (live_of_childIds (resolves other isBelow))
  refine (tree.shallowerThan within).mono ?_
  have bound := length_le_of_nodup fibers.arena.nodes.nodup_handles
    fun handle member => mem_handles.mp member
  exact Nat.le_succ_of_le bound

section Tree

variable (isTree : fibers.CommittedTree finishedWork)
include isTree

theorem resolves_of_finished (isBelow : Below fibers.finishedChildren finishedWork fiber) :
    ∃ children, fibers.arena.childIds fiber = .ok children :=
  isTree.resolves _ (committed_of_finished isBelow)

theorem resolves_of_deleted (inTree : fibers.DeletedInTree finishedWork deleted)
    (isInner : Below fibers.finishedChildren deleted fiber) :
    ∃ children, fibers.arena.childIds fiber = .ok children := by
  obtain ⟨parent, isBelow, isDeleted⟩ := inTree
  exact isTree.resolves _ (committed_of_deleted isBelow isDeleted isInner)

theorem isTree_finished : PostOrder.IsTree fibers.finishedChildren finishedWork :=
  isTree.tree.of_embedding (fun _ _ same => CommittedFiber.finished.inj same)
    (fun _ => sublist_append_right _ _) (.refl _)

theorem isTree_deleted (inTree : fibers.DeletedInTree finishedWork deleted) :
    IsTree fibers.finishedChildren deleted := by
  obtain ⟨parent, isBelow, isDeleted⟩ := inTree
  exact isTree.tree.of_embedding (fun _ _ same => CommittedFiber.deleted.inj same)
    (fun _ => .refl _) (committed_of_deleted isBelow isDeleted (.refl deleted))

theorem shallow_finished : ShallowerThan fibers.finishedChildren fibers.rounds finishedWork :=
  shallowerThan_rounds (isTree_finished isTree) fun _ isBelow => resolves_of_finished isTree isBelow

theorem shallow_deleted (inTree : fibers.DeletedInTree finishedWork deleted) :
    ShallowerThan fibers.finishedChildren fibers.rounds deleted :=
  shallowerThan_rounds (isTree_deleted isTree inTree) fun _ isInner =>
    resolves_of_deleted isTree inTree isInner

/-- Each fiber may be met as finished and as deleted. -/
theorem shallow_committed :
    ShallowerThan fibers.committedChildren (fibers.rounds + fibers.rounds)
      (.finished finishedWork) := by
  have within : ∀ item, Below fibers.committedChildren (.finished finishedWork) item →
      item ∈ fibers.arena.nodes.handles.map CommittedFiber.finished ++
        fibers.arena.nodes.handles.map CommittedFiber.deleted := by
    intro item isBelow
    have live := mem_handles.mpr (live_of_childIds (isTree.resolves item isBelow))
    cases item with
    | finished fiber => exact mem_append_left _ (mem_map_of_mem live)
    | deleted fiber => exact mem_append_right _ (mem_map_of_mem live)
  refine (isTree.tree.shallowerThan within).mono ?_
  have bound := length_le_of_nodup fibers.arena.nodes.nodup_handles
    fun handle member => mem_handles.mp member
  rw [length_append, length_map, length_map]
  exact Nat.add_le_add (Nat.le_succ_of_le bound) (Nat.le_succ_of_le bound)

theorem items_perm :
    (fibers.finishedItems fibers.rounds finishedWork).Perm
      (postOrder fibers.committedChildren (fibers.rounds + fibers.rounds)
        (.finished finishedWork)) :=
  finishedItems_perm (shallow_finished isTree) fun _ isBelow _ isDeleted =>
    shallow_deleted isTree ⟨_, isBelow, isDeleted⟩

theorem items_nodup : (fibers.finishedItems fibers.rounds finishedWork).Nodup := by
  have lists := lists_postOrder (shallow_committed isTree) fun _ => true
  rw [filter_true] at lists
  exact (items_perm isTree).nodup_iff.mpr (lists.nodup_listed isTree.tree.onePlace)

theorem mem_items_iff {item : CommittedFiber} :
    item ∈ fibers.finishedItems fibers.rounds finishedWork ↔ fibers.IsMet finishedWork item := by
  have lists := lists_postOrder (shallow_committed isTree) fun _ => true
  rw [filter_true] at lists
  rw [(items_perm isTree).mem_iff, lists.mem_listed_iff, and_iff_left rfl]
  exact committed_iff

theorem mem_requests_iff {request : FiberId × HostRootRefDetachReason} :
    request ∈ (fibers.finishedItems fibers.rounds finishedWork).filterMap fibers.detachRequest? ↔
      (∃ current, fibers.IsChangedRef finishedWork current ∧ request = (current, .refChanged)) ∨
      ∃ fiber, fibers.IsDeletedRef finishedWork fiber ∧ request = (fiber, .deleted) := by
  rw [mem_filterMap]
  constructor
  · rintro ⟨item, member, isRequest⟩
    have isMet := (mem_items_iff isTree).mp member
    cases item with
    | finished fiber =>
      obtain ⟨current, changed, rfl⟩ := Option.map_eq_some_iff.mp isRequest
      obtain ⟨node, live⟩ := changedRef?_eq_some_iff.mp changed
      exact .inl ⟨current, ⟨fiber, node, isMet, live⟩, rfl⟩
    | deleted fiber =>
      rw [detachRequest?, Option.ite_none_right_eq_some, hasDeletedRef_iff] at isRequest
      obtain ⟨⟨node, live⟩, same⟩ := isRequest
      obtain ⟨deleted, inTree, isInner⟩ := isMet
      exact .inr ⟨fiber, ⟨deleted, node, inTree, isInner, live⟩, (Option.some.inj same).symm⟩
  · rintro (⟨current, ⟨fiber, node, isBelow, live⟩, rfl⟩ |
      ⟨fiber, ⟨deleted, node, inTree, isInner, live⟩, rfl⟩)
    · refine ⟨.finished fiber, (mem_items_iff isTree).mpr isBelow, ?_⟩
      rw [detachRequest?, changedRef?_eq_some_iff.mpr ⟨node, live⟩, Option.map_some]
    · refine ⟨.deleted fiber, (mem_items_iff isTree).mpr ⟨deleted, inTree, isInner⟩, ?_⟩
      rw [detachRequest?, if_pos (hasDeletedRef_iff.mpr ⟨node, live⟩)]

/-- What is to be detached at different fibers that are met is different. -/
theorem requests_nodup :
    ((fibers.finishedItems fibers.rounds finishedWork).filterMap fibers.detachRequest?).Nodup := by
  rw [List.Nodup, pairwise_filterMap]
  refine (items_nodup isTree).imp_of_mem ?_
  intro first second isFirst isSecond different request isRequest other isOther same
  apply different
  subst same
  have firstMet := (mem_items_iff isTree).mp isFirst
  have secondMet := (mem_items_iff isTree).mp isSecond
  cases first with
  | finished fiber =>
    obtain ⟨current, changed, rfl⟩ := Option.map_eq_some_iff.mp isRequest
    cases second with
    | finished otherFiber =>
      obtain ⟨otherCurrent, otherChanged, same⟩ := Option.map_eq_some_iff.mp isOther
      cases same
      obtain ⟨node, live, -, -, linked, -⟩ := changedRef?_eq_some_iff.mp changed
      obtain ⟨otherNode, otherLive, -, -, otherLinked, -⟩ := changedRef?_eq_some_iff.mp otherChanged
      have back := (isTree.isPaired fiber firstMet current
        ((alternate?_of_get? live).trans linked)).2
      have otherBack := (isTree.isPaired otherFiber secondMet current
        ((alternate?_of_get? otherLive).trans otherLinked)).2
      rw [back] at otherBack
      rw [Option.some.inj otherBack]
    | deleted otherFiber =>
      rw [detachRequest?, Option.ite_none_right_eq_some] at isOther
      cases isOther.2
  | deleted fiber =>
    rw [detachRequest?, Option.ite_none_right_eq_some] at isRequest
    cases second with
    | finished otherFiber =>
      obtain ⟨otherCurrent, -, same⟩ := Option.map_eq_some_iff.mp isOther
      cases same
      cases isRequest.2
    | deleted otherFiber =>
      rw [detachRequest?, Option.ite_none_right_eq_some] at isOther
      have same := Option.some.inj (isRequest.2.trans isOther.2.symm)
      rw [(Prod.mk.inj same).1]

theorem refDetaches_eq
    (visits : ∀ fiber, Below fibers.finishedChildren finishedWork fiber →
      fibers.VisitsWhatCounts childrenOf fibers.DetachesNothing fiber) :
    fibers.refDetachesBelow root childrenOf fibers.rounds finishedWork =
      fibers.gatherDetach root (fibers.finishedItems fibers.rounds finishedWork) := by
  refine refDetachesBelow_eq (shallow_finished isTree)
    (fun _ isBelow => resolves_of_finished isTree isBelow) isTree.isPaired ?_ visits
  intro other node isBelow live
  exact collectDeletions_eq live (isTree.ownsFlaggedDeletions other isBelow)
    (fun deleted isDeleted => shallow_deleted isTree ⟨other, isBelow, isDeleted⟩)
    (fun deleted isDeleted inner isInner =>
      resolves_of_deleted isTree ⟨other, isBelow, isDeleted⟩ isInner)

theorem refAttaches_eq
    (visits : ∀ fiber, Below fibers.finishedChildren finishedWork fiber →
      fibers.VisitsWhatCounts childrenOf (fun below => fibers.hasAttachedRef below = false) fiber) :
    fibers.refAttachesBelow root childrenOf fibers.rounds finishedWork =
      fibers.gatherAttach root (postOrder fibers.finishedChildren fibers.rounds finishedWork) :=
  refAttachesBelow_eq (shallow_finished isTree)
    (fun _ isBelow => resolves_of_finished isTree isBelow) visits

theorem visitEveryFiber_eq :
    fibers.visitEveryFiber root finishedWork =
      fibers.gatherDetach root (fibers.finishedItems fibers.rounds finishedWork) >>= fun detach =>
        fibers.gatherAttach root
          (postOrder fibers.finishedChildren fibers.rounds finishedWork) >>= fun attach =>
            .ok ⟨detach, attach⟩ := by
  rw [visitEveryFiber,
    refDetaches_eq isTree fun fiber isBelow =>
      .inl (childIds_of_resolves (resolves_of_finished isTree isBelow)),
    refAttaches_eq isTree fun fiber isBelow =>
      .inl (childIds_of_resolves (resolves_of_finished isTree isBelow))]
  rfl

/-- The pruned traversals find what visiting every fiber finds. -/
theorem collectPending_eq
    (bubbled : ∀ fiber, Below fibers.finishedChildren finishedWork fiber →
      fibers.bubbleSubtreeFlags fiber = .ok (fibers.subtreeFlags fiber)) :
    fibers.collectPendingRefCommitMetadata root finishedWork =
      fibers.visitEveryFiber root finishedWork := by
  rw [visitEveryFiber_eq isTree, collectPendingRefCommitMetadata, collectRefDetachMetadata_eq,
    collectRefAttachMetadata_eq, refDetaches_eq isTree, refAttaches_eq isTree]
  · rfl
  · intro fiber isBelow
    refine visits_flagged (fun other isInner => bubbled other (isBelow.trans isInner))
      (resolves_of_finished isTree isBelow) ?_
    exact fun other _ attaches => flagged_of_attaches attaches
  · intro fiber isBelow
    refine visits_flagged (fun other isInner => bubbled other (isBelow.trans isInner))
      (resolves_of_finished isTree isBelow) ?_
    intro other isInner detaches
    have inTree := isBelow.trans isInner
    exact flagged_of_detaches (resolves_of_finished isTree inTree)
      (isTree.ownsFlaggedDeletions other inTree) detaches

theorem visitEveryFiber_eq_ok_iff {metadata : PendingRefCommitSnapshot} :
    fibers.visitEveryFiber root finishedWork = .ok metadata ↔
      ((∀ request ∈ (fibers.finishedItems fibers.rounds finishedWork).filterMap fibers.detachRequest?,
        (fibers.stateNode request.1).isNone = false) ∧
        metadata.detach = ((fibers.finishedItems fibers.rounds finishedWork).filterMap
          fibers.detachRequest?).map (fibers.detachRecord root)) ∧
      (∀ fiber ∈ (postOrder fibers.finishedChildren fibers.rounds finishedWork).filter
        fibers.hasAttachedRef, (fibers.stateNode fiber).isNone = false) ∧
        metadata.attach = ((postOrder fibers.finishedChildren fibers.rounds
          finishedWork).filter fibers.hasAttachedRef).map (fibers.attachRecord root) := by
  rw [visitEveryFiber_eq isTree, bind_eq_ok_iff,
    ← gather_eq_ok_iff fun request _ block => refDetach_eq_ok_iff,
    ← gather_eq_ok_iff fun fiber _ block => refAttach_eq_ok_iff]
  constructor
  · rintro ⟨detach, detached, ran⟩
    obtain ⟨attach, attached, finished⟩ := bind_eq_ok_iff.mp ran
    cases finished
    exact ⟨detached, attached⟩
  · rintro ⟨detached, attached⟩
    exact ⟨_, detached, bind_eq_ok_iff.mpr ⟨_, attached, rfl⟩⟩

theorem attachLists :
    Lists fibers.finishedChildren fibers.hasAttachedRef finishedWork
      ((postOrder fibers.finishedChildren fibers.rounds finishedWork).filter fibers.hasAttachedRef)
      ((places fibers.finishedChildren fibers.rounds finishedWork).filter fun place =>
        (at? fibers.finishedChildren finishedWork place).any fibers.hasAttachedRef) :=
  lists_postOrder (shallow_finished isTree) fibers.hasAttachedRef

theorem mem_attached_iff :
    fiber ∈ (postOrder fibers.finishedChildren fibers.rounds finishedWork).filter
        fibers.hasAttachedRef ↔
      fibers.IsAttachedRef finishedWork fiber := by
  rw [(attachLists isTree).mem_listed_iff, hasAttachedRef_iff]
  constructor
  · rintro ⟨isBelow, node, live⟩
    exact ⟨node, isBelow, live⟩
  · rintro ⟨node, isBelow, live⟩
    exact ⟨isBelow, node, live⟩

end Tree

end RefFibers

open RefFibers in
/-- Where the flags of a finished tree were bubbled children first, the pruned traversals for refs
find what visiting every fiber finds, and fail only where a host component has no instance: the
refs that are replaced and those below deleted fibers, and the refs to attach, each once and
children before parents. -/
theorem pruned_ref_traversal
    {before : HostFibers}
    {fibers : RefFibers}
    {order : List FiberId}
    {finishedWork : FiberId}
    (root : FiberRootId)
    (ran : before.bubbleAll order = .ok fibers.toHostFibers)
    (childrenFirst : ChildrenFirst before.finishedChildren order)
    (covers : ∀ fiber, Below before.finishedChildren finishedWork fiber → fiber ∈ order)
    (isTree : fibers.CommittedTree finishedWork) :
    fibers.collectPendingRefCommitMetadata root finishedWork =
        fibers.visitEveryFiber root finishedWork ∧
      ((∀ fiber, fibers.IsChangedRef finishedWork fiber ∨ fibers.IsDeletedRef finishedWork fiber ∨
          fibers.IsAttachedRef finishedWork fiber → (fibers.stateNode fiber).isNone = false) →
        ∃ metadata, fibers.collectPendingRefCommitMetadata root finishedWork = .ok metadata) ∧
      ∀ metadata, fibers.collectPendingRefCommitMetadata root finishedWork = .ok metadata →
        metadata.detach.Nodup ∧ metadata.attach.Nodup ∧
        (∀ record, record ∈ metadata.detach ↔
          (∃ current, fibers.IsChangedRef finishedWork current ∧
            record = fibers.detachRecord root (current, .refChanged)) ∨
          ∃ fiber, fibers.IsDeletedRef finishedWork fiber ∧
            record = fibers.detachRecord root (fiber, .deleted)) ∧
        (∀ record, record ∈ metadata.attach ↔
          ∃ fiber, fibers.IsAttachedRef finishedWork fiber ∧
            record = fibers.attachRecord root fiber) ∧
        ∀ above fiber place, place ≠ [] →
          at? fibers.finishedChildren above place = some fiber →
          fibers.IsAttachedRef finishedWork above → fibers.IsAttachedRef finishedWork fiber →
          [fibers.attachRecord root fiber, fibers.attachRecord root above].Sublist
            metadata.attach := by
  obtain ⟨sameChildren, bubbledOrder⟩ := bubbled_of_bubbleAll ran childrenFirst
  have bubbled : ∀ fiber, Below fibers.finishedChildren finishedWork fiber →
      fibers.bubbleSubtreeFlags fiber = .ok (fibers.subtreeFlags fiber) := by
    intro fiber isBelow
    rw [sameChildren] at isBelow
    exact bubbledOrder fiber (covers fiber isBelow)
  have same := @collectPending_eq fibers root finishedWork isTree bubbled
  refine ⟨same, ?_, ?_⟩
  · intro hasInstance
    rw [same]
    refine ⟨⟨_, _⟩, (visitEveryFiber_eq_ok_iff isTree).mpr ⟨⟨?_, rfl⟩, ?_, rfl⟩⟩
    · intro request isRequest
      rcases (mem_requests_iff isTree).mp isRequest with ⟨current, changed, rfl⟩ | ⟨fiber, deleted, rfl⟩
      · exact hasInstance current (.inl changed)
      · exact hasInstance fiber (.inr (.inl deleted))
    · intro fiber isAttached
      exact hasInstance fiber (.inr (.inr ((mem_attached_iff isTree).mp isAttached)))
  · intro metadata collected
    rw [same] at collected
    obtain ⟨⟨-, isDetach⟩, -, isAttach⟩ := (visitEveryFiber_eq_ok_iff isTree).mp collected
    refine ⟨?_, ?_, ?_, ?_, ?_⟩
    · rw [isDetach]
      refine (requests_nodup isTree).map ?_
      intro first second sameRecord
      have sameFiber := congrArg PendingRefCommitRecord.fiber sameRecord
      have sameReason := congrArg PendingRefCommitRecord.detachReason sameRecord
      exact Prod.ext sameFiber (Option.some.inj sameReason)
    · rw [isAttach]
      refine ((attachLists isTree).nodup_listed (isTree_finished isTree).onePlace).map ?_
      intro first second sameRecord
      exact congrArg PendingRefCommitRecord.fiber sameRecord
    · intro record
      rw [isDetach, mem_map]
      constructor
      · rintro ⟨request, isRequest, rfl⟩
        rcases (mem_requests_iff isTree).mp isRequest with
          ⟨current, changed, rfl⟩ | ⟨fiber, deleted, rfl⟩
        · exact .inl ⟨current, changed, rfl⟩
        · exact .inr ⟨fiber, deleted, rfl⟩
      · rintro (⟨current, changed, rfl⟩ | ⟨fiber, deleted, rfl⟩)
        · exact ⟨_, (mem_requests_iff isTree).mpr (.inl ⟨current, changed, rfl⟩), rfl⟩
        · exact ⟨_, (mem_requests_iff isTree).mpr (.inr ⟨fiber, deleted, rfl⟩), rfl⟩
    · intro record
      rw [isAttach, mem_map]
      constructor
      · rintro ⟨fiber, isAttached, rfl⟩
        exact ⟨fiber, (mem_attached_iff isTree).mp isAttached, rfl⟩
      · rintro ⟨fiber, isAttached, rfl⟩
        exact ⟨fiber, (mem_attached_iff isTree).mpr isAttached, rfl⟩
    · intro above fiber place isBelow reached aboveAttached isAttached
      obtain ⟨⟨abovePlace, aboveReached⟩, aboveWanted⟩ :=
        (attachLists isTree).mem_listed_iff.mp ((mem_attached_iff isTree).mpr aboveAttached)
      have wanted :=
        ((attachLists isTree).mem_listed_iff.mp ((mem_attached_iff isTree).mpr isAttached)).2
      have ordered := (attachLists isTree).sublist_of_below aboveReached reached isBelow aboveWanted
        wanted
      rw [isAttach]
      exact ordered.map (fibers.attachRecord root)

section Sample

/-- A root with a changed host component and a deleted one. -/
def sampleRefArena : FiberArena :=
  stateAfter
    ((do
      let root ← createFiber .hostRoot none .none FiberMode.no
      let kept ← createFiber .hostComponent none .none FiberMode.no
      let current ← createFiber .hostComponent none .none FiberMode.no
      let removed ← createFiber .hostComponent none .none FiberMode.no
      linkAlternates kept current
      setChildren root [kept, removed]
      let _ ← markChildForDeletion root removed
      modifyFiber kept fun node => { node with flags := FiberFlags.ref } : FiberArenaM Unit).run .new)

def sampleRefBefore : HostFibers where
  arena := sampleRefArena
  stateNode := fun fiber => ⟨fiber.slot + 1⟩
  subtreeFlags := fun _ => FiberFlags.no
  memoizedProps := fun _ => .none

def sampleRefOrder : List FiberId :=
  [⟨1, 0⟩, ⟨0, 0⟩]

def sampleRefFibers : RefFibers where
  toHostFibers := (sampleRefBefore.bubbleAll sampleRefOrder).toOption.getD sampleRefBefore
  refHandle := fun fiber => ⟨fiber.slot + 1⟩

theorem sampleRef_ran :
    sampleRefBefore.bubbleAll sampleRefOrder = .ok sampleRefFibers.toHostFibers := by
  have succeeds : (sampleRefBefore.bubbleAll sampleRefOrder).toOption.isSome = true := by
    decide +kernel
  unfold sampleRefFibers
  cases ran : sampleRefBefore.bubbleAll sampleRefOrder with
  | error error =>
    rw [ran] at succeeds
    cases succeeds
  | ok fibers => rfl

theorem sampleRef_childrenFirst :
    ChildrenFirst sampleRefBefore.finishedChildren sampleRefOrder := by
  have childrenOf : sampleRefBefore.finishedChildren ⟨1, 0⟩ = [] ∧
      sampleRefBefore.finishedChildren ⟨0, 0⟩ = [⟨1, 0⟩] := by
    decide +kernel
  intro earlier parent later shape
  rcases earlier with _ | ⟨first, _ | ⟨second, rest⟩⟩
  · cases shape
    rw [childrenOf.1]
    exact ⟨not_mem_nil, forall_mem_nil _⟩
  · cases shape
    rw [childrenOf.2]
    decide
  · cases rest <;> cases shape

theorem sampleRef_covers {fiber : FiberId}
    (isBelow : Below sampleRefBefore.finishedChildren ⟨0, 0⟩ fiber) : fiber ∈ sampleRefOrder := by
  have closed : ∀ parent ∈ sampleRefOrder, ∀ child ∈ sampleRefBefore.finishedChildren parent,
      child ∈ sampleRefOrder := by
    decide +kernel
  exact isBelow.of_step (by decide) fun parent child _ isChild inOrder =>
    closed parent inOrder child isChild

def sampleCommitted : List CommittedFiber :=
  [.finished ⟨0, 0⟩, .finished ⟨1, 0⟩, .deleted ⟨3, 0⟩]

theorem sampleRef_isTree : sampleRefFibers.CommittedTree ⟨0, 0⟩ := by
  have closed : ∀ parent ∈ sampleCommitted, ∀ child ∈ sampleRefFibers.committedChildren parent,
      child ∈ sampleCommitted := by
    decide +kernel
  have resolves : ∀ committed ∈ sampleCommitted,
      (sampleRefFibers.arena.childIds committed.fiber).toOption.isSome = true := by
    decide +kernel
  have finished : ∀ {fiber}, Below sampleRefFibers.finishedChildren ⟨0, 0⟩ fiber →
      fiber ∈ sampleRefOrder := by
    intro fiber isBelow
    have sameChildren := (bubbled_of_bubbleAll sampleRef_ran sampleRef_childrenFirst).1
    exact sampleRef_covers (sameChildren ▸ isBelow)
  have paired : ∀ fiber ∈ sampleRefOrder, (sampleRefFibers.arena.alternate? fiber).all
      (fun alternate => (sampleRefFibers.arena.get? alternate).isSome &&
        sampleRefFibers.arena.alternate? alternate = some fiber) = true := by
    decide +kernel
  have flagged : ∀ fiber ∈ sampleRefOrder, (sampleRefFibers.arena.get? fiber).all (fun node =>
      node.deletions.all fun listId => (sampleRefFibers.arena.deletionList listId).any fun list =>
        list.parent = fiber && node.flags.containsAll childDeletion) = true := by
    decide +kernel
  refine ⟨?_, ?_, ?_, ?_⟩
  · exact @IsTree.of_closed _ _ _ sampleCommitted (by decide) closed (by decide +kernel)
      (by decide +kernel) (by decide +kernel)
  · intro committed isBelow
    have member : committed ∈ sampleCommitted :=
      isBelow.of_step (by decide) fun parent child _ isChild isMet =>
        closed parent isMet child isChild
    have succeeds := resolves committed member
    cases collected : sampleRefFibers.arena.childIds committed.fiber with
    | error error =>
      rw [collected] at succeeds
      cases succeeds
    | ok children => exact ⟨children, rfl⟩
  · intro fiber isBelow alternate linked
    have isPaired := paired fiber (finished isBelow)
    rw [linked, Option.all_some, Bool.and_eq_true, decide_eq_true_iff] at isPaired
    exact ⟨Option.isSome_iff_exists.mp isPaired.1, isPaired.2⟩
  · intro fiber isBelow node listId live linked
    have isFlagged := flagged fiber (finished isBelow)
    rw [live, Option.all_some, linked, Option.all_some, Option.any_eq_true] at isFlagged
    obtain ⟨list, found, owned⟩ := isFlagged
    rw [Bool.and_eq_true, decide_eq_true_iff] at owned
    exact ⟨list, found, owned.1, fun _ => owned.2⟩

/-- The replaced ref and the one of the deleted component are detached, the new one is attached. -/
theorem pruned_ref_traversal_sample :
    (sampleRefFibers.collectPendingRefCommitMetadata ⟨0, 0⟩ ⟨0, 0⟩).map (fun metadata =>
        (metadata.detach.map (·.fiber), metadata.attach.map (·.fiber))) =
      .ok ([⟨3, 0⟩, ⟨2, 0⟩], [⟨1, 0⟩]) ∧
      sampleRefFibers.collectPendingRefCommitMetadata ⟨0, 0⟩ ⟨0, 0⟩ =
        sampleRefFibers.visitEveryFiber ⟨0, 0⟩ ⟨0, 0⟩ :=
  ⟨by decide +kernel, (pruned_ref_traversal ⟨0, 0⟩ sampleRef_ran sampleRef_childrenFirst
    (fun _ => sampleRef_covers) sampleRef_isTree).1⟩

end Sample

end FastReact
