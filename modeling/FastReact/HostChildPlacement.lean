import FastReact.HostPlacementRecords

namespace FastReact

open ChildPlacement ErrorState HostFibers HostRootMutationApplyRecord HostRootMutationPhaseRecord LinkWalk PostOrder

/-!
# Host children in their finished order

The mutations of a commit first remove the deleted children of a host parent and then place
the others one after another, each before the next sibling that stays.  This turns the old
host children into the state nodes of the finished children, in their order.
-/

def HostRootMutationApplyRecord.removes (record : HostRootMutationApplyRecord) : Bool :=
  record.kind = .removeDeletedFromContainer || record.kind = .removeDeletedFromHostParent

def HostRootMutationPhaseRecord.applyPlacement (record : HostRootMutationPhaseRecord)
    (children : List StateNodeHandle) : Option (List StateNodeHandle) :=
  (hostRootMutationPhaseApplyRecord record).toOption.bind fun record => record.applyTo children

namespace HostFibers

variable {fibers : HostFibers} {root : FiberRootId} {hostRoot parent child : FiberId}
  {lanes : Lanes}

def removedNodes (fibers : HostFibers) (parent : FiberId) : List StateNodeHandle :=
  ((fibers.deletedChildren parent).filter fibers.isHostChild).map fibers.stateNode

def placedNodes (fibers : HostFibers) (parent : FiberId) : List StateNodeHandle :=
  ((fibers.finishedChildren parent).filter fibers.isPlaced).map fibers.stateNode

/-- The host nodes below a parent that stay where they are. -/
def stableNodes (fibers : HostFibers) (parent : FiberId) : List StateNodeHandle :=
  ((fibers.finishedChildren parent).filter fun child => !fibers.isPlaced child).map fibers.stateNode

/-- The children of a parent are host fibers with their own state nodes, and of the old host
children those that are neither deleted nor placed are the ones that stay, in their order. -/
structure PlacesHostChildren (fibers : HostFibers) (parent : FiberId)
    (old : List StateNodeHandle) : Prop where
  hosts : ∀ child ∈ fibers.finishedChildren parent, fibers.isHostChild child = true
  named : ∀ child ∈ fibers.finishedChildren parent, (fibers.stateNode child).isNone = false
  distinct : ((fibers.finishedChildren parent).map fibers.stateNode).Nodup
  oldDistinct : old.Nodup
  surviving : old.filter (fun node => node ∉ fibers.removedNodes parent ∧
    node ∉ fibers.placedNodes parent) = fibers.stableNodes parent

section

variable (tree : fibers.FinishedTree hostRoot) (isParent : fibers.PlacementParent hostRoot parent)
include tree isParent

theorem PlacementParent.tag :
    fibers.tag? parent = some .hostRoot ∨ fibers.IsUnmovedComponent parent := by
  cases isParent with
  | hostRoot => exact .inl tree.isHostRoot
  | child _ unmoved => exact .inr unmoved
  | grandchild _ _ _ unmoved => exact .inr unmoved

theorem PlacementParent.isHostParent :
    ∃ node, fibers.arena.get? parent = some node ∧
      (node.tag = .hostRoot ∨ node.tag = .hostComponent) := by
  rcases isParent.tag tree with isHostRoot | unmoved
  · obtain ⟨node, resolved, isTag⟩ := Option.map_eq_some_iff.mp isHostRoot
    exact ⟨node, resolved, .inl isTag⟩
  · obtain ⟨node, resolved, isTag⟩ := Option.map_eq_some_iff.mp unmoved.isComponent
    exact ⟨node, resolved, .inr isTag⟩

end

section Deletions

variable {records : List HostRootMutationApplyRecord} {record : HostRootMutationApplyRecord}

theorem foldlM_of_deletions {old : List StateNodeHandle} (distinct : old.Nodup)
    (deletions : ∀ record ∈ records, ∀ children : List StateNodeHandle, children.Nodup →
      record.applyTo children =
        some (children.filter fun node => !(record.removes && record.stateNode = node))) :
    records.foldlM (fun children record => record.applyTo children) old =
      some (old.filter fun node =>
        !records.any fun record => record.removes && record.stateNode = node) := by
  induction records generalizing old with
  | nil => simp
  | cons record rest ih =>
    rw [List.foldlM_cons, deletions record List.mem_cons_self old distinct]
    refine (ih (distinct.filter _) fun other member =>
      deletions other (List.mem_cons_of_mem record member)).trans ?_
    rw [List.filter_filter]
    congr 2
    funext node
    rw [List.any_cons, Bool.not_or, Bool.and_comm]

theorem applyTo_of_kind
    (kinds : record.kind = .removeDeletedFromContainer ∨ record.kind = .removeDeletedFromHostParent ∨
      record.kind = .skipDeletedNonHostFiber)
    {children : List StateNodeHandle}
    (distinct : children.Nodup) :
    record.applyTo children =
      some (children.filter fun node => !(record.removes && record.stateNode = node)) := by
  have erased : some (children.erase record.stateNode) =
      some (children.filter fun node => !decide (record.stateNode = node)) := by
    rw [distinct.erase_eq_filter]
    congr 2
    funext node
    rw [bne, beq_eq_decide, decide_eq_decide.mpr eq_comm]
  rcases kinds with isKind | isKind | isKind
  · simpa [applyTo, removes, isKind] using erased
  · simpa [applyTo, removes, isKind] using erased
  · simp [applyTo, removes, isKind]

theorem hostRootDeletionApplyRecord_eq_ok {list : DeletionListId} {parentTag : FiberTag}
    {parentStateNode : StateNodeHandle} {deleted : FiberId}
    (ran : fibers.hostRootDeletionApplyRecord root hostRoot lanes list parent parentTag
      parentStateNode deleted = .ok record) :
    record.parent = parent ∧ record.stateNode = fibers.stateNode deleted ∧
      (record.removes = true ↔ fibers.isHostChild deleted = true ∧
        (parentTag = .hostRoot ∨ parentTag = .hostComponent)) ∧
      ∀ children : List StateNodeHandle, children.Nodup → record.applyTo children =
        some (children.filter fun node => !(record.removes && record.stateNode = node)) := by
  obtain ⟨node, got, finished⟩ := bind_eq_ok_iff.mp ran
  have resolved := get_eq_ok_iff.mp got
  cases finished
  rw [isHostChild, resolved, Option.any_some]
  refine ⟨rfl, rfl, ?_⟩
  by_cases isHost : isSupportedHostRootMutationChild node.tag = true
  · by_cases inContainer : parentTag = .hostRoot
    · refine ⟨?_, fun children distinct => applyTo_of_kind (.inl ?_) distinct⟩
      · simp [removes, isHost, inContainer]
      · simp [isHost, inContainer]
    · by_cases inComponent : parentTag = .hostComponent
      · refine ⟨?_, fun children distinct => applyTo_of_kind (.inr (.inl ?_)) distinct⟩
        · simp [removes, isHost, inComponent]
        · simp [isHost, inComponent]
      · refine ⟨?_, fun children distinct => applyTo_of_kind (.inr (.inr ?_)) distinct⟩
        · simp [removes, isHost, inContainer, inComponent]
        · simp [isHost, inContainer, inComponent]
  · refine ⟨?_, fun children distinct => applyTo_of_kind (.inr (.inr ?_)) distinct⟩
    · simp [removes, isHost]
    · simp [isHost]

structure DeletionOwners (fibers : HostFibers) (hostRoot parent : FiberId)
    (owners : List FiberId) : Prop where
  self : parent ∈ owners
  below : ∀ owner ∈ owners, Below fibers.finishedChildren hostRoot owner
  finds : ∀ owner ∈ owners, ∃ found,
    fibers.findNearestHostParentForDeletion owner = .ok (some found) ∧ found.fiber = parent ∧
      (found.tag = .hostRoot ∨ found.tag = .hostComponent)
  passesOn : ∀ owner ∈ owners, ∀ child ∈ fibers.finishedChildren owner,
    fibers.tag? child = some .functionComponent → child ∈ owners

variable {rounds traversalDepth : Nat}

/-- Only these fibers find the host parent. -/
theorem DeletionOwners.of_found {owners : List FiberId} {candidate : FiberId}
    {found : HostRootDeletionHostParentRecord} (tree : fibers.FinishedTree hostRoot)
    (isOwners : fibers.DeletionOwners hostRoot parent owners)
    (isBelow : Below fibers.finishedChildren hostRoot candidate)
    (ran : fibers.findHostParentForDeletion rounds candidate traversalDepth = .ok (some found))
    (isParent : found.fiber = parent) : candidate ∈ owners := by
  induction rounds generalizing candidate traversalDepth with
  | zero =>
    cases ran
  | succ rounds ih =>
    obtain ⟨node, got, ranSearch⟩ := bind_eq_ok_iff.mp ran
    have resolved := get_eq_ok_iff.mp got
    split at ranSearch
    · cases ranSearch
      cases isParent
      exact isOwners.self
    · split at ranSearch
      · rename_i isFunction
        have isTag : fibers.tag? candidate = some .functionComponent := by
          rw [tag?, resolved, Option.map_some, isFunction]
        cases returns : node.returnFiber with
        | none =>
          rw [returns] at ranSearch
          cases ranSearch
        | some above =>
          rw [returns] at ranSearch
          rcases below_iff_last.mp isBelow with rfl | ⟨last, lastBelow, isChild⟩
          · rw [tree.isHostRoot] at isTag
            cases isTag
          · have isAbove := tree.returns lastBelow isChild
            rw [FiberArena.returnFiber?_of_get? resolved, returns] at isAbove
            cases isAbove
            exact isOwners.passesOn above (ih lastBelow ranSearch) candidate isChild isTag
      · cases ranSearch

theorem findHostParentForDeletion_of_host {node : FiberNode}
    (resolved : fibers.arena.get? parent = some node)
    (isHostParent : node.tag = .hostRoot ∨ node.tag = .hostComponent) :
    fibers.findHostParentForDeletion (rounds + 1) parent traversalDepth =
      .ok (some ⟨parent, node.tag, fibers.stateNode parent, traversalDepth⟩) := by
  rw [findHostParentForDeletion, get_eq_ok_iff.mpr resolved]
  exact if_pos isHostParent

theorem findHostParentForDeletion_of_function {node : FiberNode}
    (resolved : fibers.arena.get? child = some node) (isFunction : node.tag = .functionComponent)
    (returns : node.returnFiber = some parent) :
    fibers.findHostParentForDeletion (rounds + 1) child traversalDepth =
      fibers.findHostParentForDeletion rounds parent (traversalDepth + 1) := by
  rw [findHostParentForDeletion, get_eq_ok_iff.mpr resolved]
  simp [bind, Except.bind, isFunction, returns]

theorem deletionApplyRecords_eq_ok {list : HostRootDeletionListRecord}
    (ran : fibers.deletionApplyRecords root hostRoot lanes list = .ok records) :
    ∃ hostParent owner parentTag parentStateNode,
      fibers.findNearestHostParentForDeletion list.parent = .ok hostParent ∧
      hostParent.elim (list.parent = owner)
        (fun found => found.fiber = owner ∧ found.tag = parentTag) ∧
      list.deleted.mapM (fibers.hostRootDeletionApplyRecord root hostRoot lanes list.list owner
        parentTag parentStateNode) = .ok records := by
  obtain ⟨node, -, ranParent⟩ := bind_eq_ok_iff.mp ran
  obtain ⟨hostParent, found, listed⟩ := bind_eq_ok_iff.mp ranParent
  cases hostParent with
  | none => exact ⟨none, _, _, _, found, rfl, listed⟩
  | some record => exact ⟨some record, _, _, _, found, ⟨rfl, rfl⟩, listed⟩

section Owners

variable {owners : List FiberId} (tree : fibers.FinishedTree hostRoot)
  (isOwners : fibers.DeletionOwners hostRoot parent owners)
include tree isOwners

theorem removed_by_list_iff {list : HostRootDeletionListRecord}
    (isBelow : ∀ deleted ∈ list.deleted, Below fibers.finishedChildren hostRoot list.parent)
    (ran : fibers.deletionApplyRecords root hostRoot lanes list = .ok records)
    (node : StateNodeHandle) :
    (∃ record ∈ records, record.parent = parent ∧ record.removes = true ∧ record.stateNode = node) ↔
      list.parent ∈ owners ∧ ∃ deleted ∈ list.deleted,
        fibers.isHostChild deleted = true ∧ fibers.stateNode deleted = node := by
  obtain ⟨hostParent, owner, parentTag, parentStateNode, found, isOwner, listed⟩ :=
    deletionApplyRecords_eq_ok ran
  have ofOwner : ∀ deleted ∈ list.deleted, owner = parent → list.parent ∈ owners := by
    intro deleted isDeleted same
    cases hostParent with
    | none =>
      rw [show list.parent = owner from isOwner, same]
      exact isOwners.self
    | some record =>
      exact isOwners.of_found tree (isBelow deleted isDeleted) found (isOwner.1.trans same)
  have ofParent : list.parent ∈ owners →
      owner = parent ∧ (parentTag = .hostRoot ∨ parentTag = .hostComponent) := by
    intro member
    obtain ⟨record, isFound, isParent, hasHostTag⟩ := isOwners.finds list.parent member
    rw [isFound] at found
    cases found
    obtain ⟨rfl, rfl⟩ := isOwner
    exact ⟨isParent, hasHostTag⟩
  constructor
  · rintro ⟨record, member, inParent, removes, rfl⟩
    obtain ⟨index, isRecord⟩ := List.mem_iff_getElem?.mp member
    obtain ⟨deleted, isDeleted, ranDeleted⟩ := exists_item_of_mapM_ok listed isRecord
    obtain ⟨isOwned, isNode, removes_iff, -⟩ := hostRootDeletionApplyRecord_eq_ok ranDeleted
    have inList := List.mem_of_getElem? isDeleted
    exact ⟨ofOwner deleted inList (isOwned.symm.trans inParent), deleted, inList,
      (removes_iff.mp removes).1, isNode.symm⟩
  · rintro ⟨member, deleted, isDeleted, isHost, rfl⟩
    obtain ⟨index, isItem⟩ := List.mem_iff_getElem?.mp isDeleted
    obtain ⟨record, isRecord, ranDeleted⟩ := exists_value_of_mapM_ok listed isItem
    obtain ⟨isOwned, isNode, removes_iff, -⟩ := hostRootDeletionApplyRecord_eq_ok ranDeleted
    obtain ⟨isParentOwner, hasHostTag⟩ := ofParent member
    exact ⟨record, List.mem_of_getElem? isRecord, isOwned.trans isParentOwner,
      removes_iff.mpr ⟨isHost, hasHostTag⟩, isNode⟩

theorem foldlM_deletions {lists : List HostRootDeletionListRecord}
    {deletions : List (List HostRootMutationApplyRecord)} {old : List StateNodeHandle}
    (listed : fibers.collectDeletionListMetadata hostRoot = .ok lists)
    (ran : lists.mapM (fibers.deletionApplyRecords root hostRoot lanes) = .ok deletions)
    (distinct : old.Nodup) :
    (deletions.flatten.filter (·.parent = parent)).foldlM
        (fun children record => record.applyTo children) old =
      some (old.filter (· ∉ owners.flatMap fibers.removedNodes)) := by
  have lists_iff := (collectDeletionLists_eq_ok listed).2
  simp only [List.mem_singleton, exists_eq_left] at lists_iff
  have belowRoot : ∀ list ∈ lists, ∀ deleted ∈ list.deleted,
      Below fibers.finishedChildren hostRoot list.parent := by
    intro list isList deleted isDeleted
    exact ((lists_iff _ deleted).mp ⟨list, isList, rfl, isDeleted⟩).1
  have removed_iff : ∀ node, (∃ record ∈ deletions.flatten,
      record.parent = parent ∧ record.removes = true ∧ record.stateNode = node) ↔
        node ∈ owners.flatMap fibers.removedNodes := by
    intro node
    rw [List.mem_flatMap]
    constructor
    · rintro ⟨record, member, removed⟩
      obtain ⟨list, isList, records, ranList, inList⟩ := (mem_flatten_iff_of_mapM_ok ran).mp member
      obtain ⟨isOwner, deleted, isDeleted, isHost, isNode⟩ := (removed_by_list_iff tree isOwners
        (belowRoot list isList) ranList node).mp ⟨record, inList, removed⟩
      have ofOwner := ((lists_iff list.parent deleted).mp ⟨list, isList, rfl, isDeleted⟩).2
      exact ⟨list.parent, isOwner,
        List.mem_map.mpr ⟨deleted, List.mem_filter.mpr ⟨ofOwner, isHost⟩, isNode⟩⟩
    · rintro ⟨owner, isOwner, member⟩
      obtain ⟨deleted, isDeletedHost, isNode⟩ := List.mem_map.mp member
      obtain ⟨ofOwner, isHost⟩ := List.mem_filter.mp isDeletedHost
      obtain ⟨list, isList, rfl, isDeleted⟩ :=
        (lists_iff owner deleted).mpr ⟨isOwners.below owner isOwner, ofOwner⟩
      obtain ⟨index, isItem⟩ := List.mem_iff_getElem?.mp isList
      obtain ⟨records, -, ranList⟩ := exists_value_of_mapM_ok ran isItem
      obtain ⟨record, inList, removed⟩ := (removed_by_list_iff tree isOwners
        (belowRoot list isList) ranList node).mpr ⟨isOwner, deleted, isDeleted, isHost, isNode⟩
      exact ⟨record, (mem_flatten_iff_of_mapM_ok ran).mpr ⟨list, isList, records, ranList, inList⟩,
        removed⟩
  have areDeletions : ∀ record ∈ deletions.flatten, ∀ children : List StateNodeHandle,
      children.Nodup → record.applyTo children =
        some (children.filter fun node => !(record.removes && record.stateNode = node)) := by
    refine forall_mem_flatten_of_mapM_ok ran fun list _ records ranList record member => ?_
    obtain ⟨_, _, _, _, -, -, ranDeleted⟩ := deletionApplyRecords_eq_ok ranList
    obtain ⟨index, isRecord⟩ := List.mem_iff_getElem?.mp member
    obtain ⟨deleted, -, ranRecord⟩ := exists_item_of_mapM_ok ranDeleted isRecord
    exact (hostRootDeletionApplyRecord_eq_ok ranRecord).2.2.2
  rw [foldlM_of_deletions distinct fun record member =>
    areDeletions record (List.mem_of_mem_filter member)]
  congr 2
  funext node
  rw [Bool.eq_iff_iff, decide_eq_true_iff, ← removed_iff node]
  generalize deletions.flatten = all
  simp

end Owners

theorem deletionOwners_of_hosts (tree : fibers.FinishedTree hostRoot)
    (isParent : fibers.PlacementParent hostRoot parent)
    (hosts : ∀ child ∈ fibers.finishedChildren parent, fibers.isHostChild child = true) :
    fibers.DeletionOwners hostRoot parent [parent] where
  self := List.mem_cons_self
  below := List.forall_mem_singleton.mpr isParent.below
  finds := by
    obtain ⟨node, resolved, isHostParent⟩ := isParent.isHostParent tree
    exact List.forall_mem_singleton.mpr
      ⟨_, findHostParentForDeletion_of_host resolved isHostParent, rfl, isHostParent⟩
  passesOn := by
    refine List.forall_mem_singleton.mpr fun child isChild isFunction => ?_
    exact absurd isFunction (tag?_ne_functionComponent (hosts child isChild))

end Deletions

section Placements

variable {record : HostRootMutationPhaseRecord} {old : List StateNodeHandle}

/-- A host fiber that is placed itself: the search for a sibling skips it. -/
def isPlacedHost (fibers : HostFibers) (fiber : FiberId) : Bool :=
  fibers.isHostChild fiber && fibers.isPlaced fiber

theorem findPlacementSibling_eq_ok {rounds skipped : Nat} {first : Option FiberId}
    {behind : List FiberId} {found : HostRootPlacementSiblingRecord}
    (walk : IsWalk fibers.arena.sibling? first behind)
    (ran : fibers.findPlacementSibling parent rounds first skipped = .ok found) :
    (behind.find? fun child => !fibers.isPlacedHost child).elim (found.status = .append)
      (fun sibling => found.siblingStateNode = fibers.stateNode sibling ∧
        (fibers.isHostChild sibling = true → (fibers.stateNode sibling).isNone = false →
          found.status = .insertBefore) ∧
        (fibers.isHostChild sibling = false → found.status = .blockedUnsupportedTag)) := by
  induction behind generalizing rounds first skipped with
  | nil =>
    rw [show first = none from walk] at ran
    cases rounds with
    | zero =>
      cases ran
      rfl
    | succ rounds =>
      cases ran
      rfl
  | cons sibling rest ih =>
    obtain ⟨rfl, walkRest⟩ := walk
    cases rounds with
    | zero =>
      cases ran
    | succ rounds =>
      obtain ⟨node, got, ranCheck⟩ := bind_eq_ok_iff.mp ran
      obtain ⟨-, ranRest⟩ := guard_eq_ok_iff.mp ranCheck
      have resolved := get_eq_ok_iff.mp got
      have isSupported : fibers.isHostChild sibling = isSupportedHostRootMutationChild node.tag := by
        rw [isHostChild, resolved, Option.any_some]
      have skips : fibers.isPlacedHost sibling =
          (isSupportedHostRootMutationChild node.tag && node.isPlaced) := by
        rw [isPlacedHost, isSupported, isPlaced, resolved, Option.any_some]
      rw [FiberArena.sibling?_of_get? resolved] at walkRest
      rw [← skips] at ranRest
      cases placed : fibers.isPlacedHost sibling with
      | true =>
        rw [if_pos placed] at ranRest
        rw [List.find?_cons_of_neg (by rw [placed]; decide)]
        exact ih walkRest ranRest
      | false =>
        rw [if_neg (Bool.eq_false_iff.mp placed)] at ranRest
        cases ranRest
        rw [List.find?_cons_of_pos (by rw [placed]; rfl), Option.elim_some, isSupported]
        refine ⟨rfl, ?_, ?_⟩
        · intro isHost isNamed
          simp [isHost, isNamed]
        · intro isOther
          simp [isOther]

theorem hostRootMutationPhaseApplyRecord_eq_ok {applied : HostRootMutationApplyRecord}
    (ran : hostRootMutationPhaseApplyRecord record = .ok applied) :
    applied.parent = record.parent ∧
      (record.kind = .update → ∀ children, applied.applyTo children = some children) := by
  obtain ⟨kind, isKind, finished⟩ := bind_eq_ok_iff.mp ran
  cases finished
  refine ⟨rfl, ?_⟩
  intro isUpdate children
  rw [applyKind, isUpdate] at isKind
  dsimp only at isKind
  split at isKind
  · cases isKind
    rfl
  · split at isKind
    · cases isKind
      rfl
    · cases isKind

theorem foldlM_placements {mutationLog : List HostRootMutationPhaseRecord}
    {mutations : List HostRootMutationApplyRecord} {children : List StateNodeHandle}
    (ran : mutationLog.mapM hostRootMutationPhaseApplyRecord = .ok mutations) :
    (mutations.filter (·.parent = parent)).foldlM
        (fun children record => record.applyTo children) children =
      (mutationLog.filter (·.places parent)).foldlM
        (fun children record => record.applyPlacement children) children := by
  induction mutationLog generalizing mutations children with
  | nil =>
    cases ran
    rfl
  | cons record rest ih =>
    obtain ⟨first, later, asked, askedLater, rfl⟩ := mapM_cons_eq_ok_iff.mp ran
    obtain ⟨sameParent, ofUpdate⟩ := hostRootMutationPhaseApplyRecord_eq_ok asked
    rw [List.filter_cons, List.filter_cons, HostRootMutationPhaseRecord.places, sameParent]
    by_cases inParent : record.parent = parent
    · rw [if_pos (decide_eq_true inParent), decide_eq_true inParent, Bool.true_and, List.foldlM_cons]
      cases isKind : record.kind with
      | placement =>
        rw [if_pos (by decide), List.foldlM_cons, applyPlacement, asked]
        refine bind_congr fun between => ?_
        exact ih askedLater
      | update =>
        rw [if_neg (by decide), ofUpdate isKind children]
        exact ih askedLater
    · rw [if_neg (by simpa using inParent), decide_eq_false inParent, Bool.false_and,
        if_neg Bool.false_ne_true]
      exact ih askedLater

theorem applyKind_of_placement {sibling : HostRootPlacementSiblingRecord}
    (isPlacement : record.kind = .placement) (hasSibling : record.placementSibling = some sibling)
    (inHostParent : record.parentTag = .hostRoot ∨
      record.parentTag = .hostComponent ∧ record.parentFlags.containsAll FiberFlags.placement = false) :
    record.applyKind =
        .ok (sibling.applyKind .appendPlacementToContainer .insertPlacementInContainerBefore) ∨
      record.applyKind =
        .ok (sibling.applyKind .appendPlacementToHostParent .insertPlacementInHostParentBefore) := by
  rw [applyKind, isPlacement, hasSibling]
  rcases inHostParent with inContainer | ⟨inComponent, stays⟩
  · exact .inl (if_pos inContainer)
  · right
    simp [inComponent, stays]

theorem applyPlacement_of_applyKind {kind : HostRootMutationApplyRecordKind}
    (isKind : record.applyKind = .ok kind) (children : List StateNodeHandle) :
    (kind = .appendPlacementToContainer ∨ kind = .appendPlacementToHostParent →
        record.applyPlacement children = some (append record.stateNode children)) ∧
      (kind = .insertPlacementInContainerBefore ∨ kind = .insertPlacementInHostParentBefore →
        record.applyPlacement children = record.placementSibling.bind fun sibling =>
          insertBefore record.stateNode sibling.siblingStateNode children) := by
  rw [applyPlacement, hostRootMutationPhaseApplyRecord, isKind]
  constructor
  · rintro (rfl | rfl)
    · rfl
    · rfl
  · rintro (rfl | rfl)
    · rfl
    · rfl

theorem applyPlacement_of_blocked (isKind : record.applyKind = .ok .recordPlacementInsertionBlocked)
    (children : List StateNodeHandle) : record.applyPlacement children = some children := by
  rw [applyPlacement, hostRootMutationPhaseApplyRecord, isKind]
  rfl

/-- A record of a placed child appends its node, puts it before that of the first sibling that
is no placed host fiber, or is blocked where this sibling is no host fiber. -/
theorem applyPlacement_eq {behind : List FiberId} (tree : fibers.FinishedTree hostRoot)
    (isParent : fibers.PlacementParent hostRoot parent)
    (walk : IsWalk fibers.arena.sibling? (fibers.arena.sibling? child) behind)
    (ran : fibers.hostRootMutationPhaseRecord root hostRoot parent child .placement lanes = .ok record)
    (children : List StateNodeHandle) :
    (behind.find? fun child => !fibers.isPlacedHost child).elim
      (record.applyPlacement children = some (append (fibers.stateNode child) children))
      (fun sibling =>
        (fibers.isHostChild sibling = true → (fibers.stateNode sibling).isNone = false →
          record.applyPlacement children = insertBefore (fibers.stateNode child)
            (fibers.stateNode sibling) children) ∧
        (fibers.isHostChild sibling = false → record.applyPlacement children = some children)) := by
  obtain ⟨-, -, isPlacement, isNode, node, parentNode, resolved, parentResolved, -, isParentTag,
    areFlags, found⟩ := hostRootMutationPhaseRecord_eq_ok ran
  have inHostParent : parentNode.tag = .hostRoot ∨
      parentNode.tag = .hostComponent ∧
        parentNode.flags.containsAll FiberFlags.placement = false := by
    rcases isParent.tag tree with isHostRoot | ⟨isComponent, unmoved⟩
    · rw [tag?, parentResolved] at isHostRoot
      exact .inl (Option.some.inj isHostRoot)
    · rw [tag?, parentResolved] at isComponent
      rw [isPlaced, parentResolved] at unmoved
      exact .inr ⟨Option.some.inj isComponent, unmoved⟩
  rw [placementSibling, if_pos (inHostParent.imp_right (·.1))] at found
  obtain ⟨sibling, isSibling, hasSibling⟩ : ∃ sibling,
      fibers.hostParentPlacementSiblingRecord parent node.sibling = .ok sibling ∧
        record.placementSibling = some sibling := by
    cases searched : fibers.hostParentPlacementSiblingRecord parent node.sibling with
    | error error =>
      rw [searched] at found
      cases found
    | ok sibling =>
      rw [searched] at found
      exact ⟨sibling, rfl, (Except.ok.inj found).symm⟩
  rw [FiberArena.sibling?_of_get? resolved] at walk
  have isPlace := findPlacementSibling_eq_ok walk isSibling
  have inHostParentRecord : record.parentTag = .hostRoot ∨ record.parentTag = .hostComponent ∧
      record.parentFlags.containsAll FiberFlags.placement = false := by
    rw [isParentTag, areFlags]
    exact inHostParent
  have asked := applyKind_of_placement isPlacement hasSibling inHostParentRecord
  rw [HostRootPlacementSiblingRecord.applyKind, HostRootPlacementSiblingRecord.applyKind] at asked
  rw [← isNode]
  cases first : behind.find? fun child => !fibers.isPlacedHost child with
  | none =>
    rw [first, Option.elim_none] at isPlace
    rw [isPlace] at asked
    rw [Option.elim_none]
    rcases asked with isKind | isKind
    · exact (applyPlacement_of_applyKind isKind children).1 (.inl rfl)
    · exact (applyPlacement_of_applyKind isKind children).1 (.inr rfl)
  | some reference =>
    rw [first, Option.elim_some] at isPlace
    obtain ⟨isReference, ofHost, ofOther⟩ := isPlace
    rw [Option.elim_some, ← isReference]
    constructor
    · intro isHost isNamed
      rw [isReference] at isNamed
      rw [ofHost isHost isNamed] at asked
      rcases asked with isKind | isKind
      · rw [(applyPlacement_of_applyKind isKind children).2 (.inl rfl), hasSibling]
        rfl
      · rw [(applyPlacement_of_applyKind isKind children).2 (.inr rfl), hasSibling]
        rfl
    · intro isOther
      rw [ofOther isOther] at asked
      exact applyPlacement_of_blocked (asked.elim id id) children

/-- Records that do for each fiber what a step does make a run of these steps. -/
theorem foldlM_eq_runSteps
    {visit : FiberId → Except HostMutationError (List HostRootMutationPhaseRecord)}
    {step : FiberId → List FiberId → List StateNodeHandle → Option (List StateNodeHandle)}
    {items : List FiberId} {blocks : List (List HostRootMutationPhaseRecord)}
    (ran : items.mapM visit = .ok blocks)
    (each : ∀ before item behind block, items = before ++ item :: behind →
      visit item = .ok block → ∀ children,
        block.foldlM (fun children record => record.applyPlacement children) children =
          step item behind children)
    (children : List StateNodeHandle) :
    blocks.flatten.foldlM (fun children record => record.applyPlacement children) children =
      runSteps step items children := by
  induction items generalizing blocks children with
  | nil =>
    cases ran
    rfl
  | cons item behind ih =>
    obtain ⟨block, later, listed, listedLater, rfl⟩ := mapM_cons_eq_ok_iff.mp ran
    rw [List.flatten_cons, List.foldlM_append, each [] item behind block rfl listed children,
      runSteps]
    refine bind_congr fun between => ?_
    exact ih listedLater (fun before other rest otherBlock shape =>
      each (item :: before) other rest otherBlock (congrArg (item :: ·) shape)) between

section Parent

variable (tree : fibers.FinishedTree hostRoot) (gathered : fibers.Gathered hostRoot)
  (isParent : fibers.PlacementParent hostRoot parent)
  (places : fibers.PlacesHostChildren parent old)
include places

theorem mem_stableNodes_iff (isChild : child ∈ fibers.finishedChildren parent) :
    fibers.stateNode child ∈ fibers.stableNodes parent ↔ fibers.isPlaced child = false := by
  rw [stableNodes, mem_selected_iff places.distinct isChild, Bool.not_eq_true']

theorem find?_stableNodes {behind : List FiberId}
    (areChildren : ∀ child ∈ behind, child ∈ fibers.finishedChildren parent) :
    (behind.map fibers.stateNode).find? (· ∈ fibers.stableNodes parent) =
      (behind.find? fun child => !fibers.isPlacedHost child).map fibers.stateNode := by
  rw [List.find?_map, ← List.head?_filter, ← List.head?_filter]
  congr 2
  apply List.filter_congr
  intro child member
  have isChild := areChildren child member
  have stays_iff := mem_stableNodes_iff places isChild
  have isHost := places.hosts child isChild
  cases placed : fibers.isPlaced child with
  | true => simp [isPlacedHost, stays_iff, placed, isHost]
  | false => simp [isPlacedHost, stays_iff, placed]

include tree gathered isParent

/-- The placements of a parent go through its children. -/
theorem foldlM_blocks {blocks : List (List HostRootMutationPhaseRecord)}
    (ran : (fibers.finishedChildren parent).mapM
      (fibers.placementPhaseRecord root hostRoot lanes parent) = .ok blocks)
    (children : List StateNodeHandle) :
    blocks.flatten.foldlM (fun children record => record.applyPlacement children) children =
      placeAll (· ∈ fibers.stableNodes parent)
        ((fibers.finishedChildren parent).map fibers.stateNode) children := by
  have each : ∀ before child behind block,
      fibers.finishedChildren parent = before ++ child :: behind →
      fibers.placementPhaseRecord root hostRoot lanes parent child = .ok block → ∀ children,
        block.foldlM (fun children record => record.applyPlacement children) children =
          if fibers.stateNode child ∈ fibers.stableNodes parent then some children
          else place (· ∈ fibers.stableNodes parent) (fibers.stateNode child)
            (behind.map fibers.stateNode) children := by
    intro before child behind block shape listed children
    have isChild : child ∈ fibers.finishedChildren parent := by simp [shape]
    have areChildren : ∀ other ∈ behind, other ∈ fibers.finishedChildren parent := by
      intro other member
      simp [shape, member]
    have stays_iff := mem_stableNodes_iff places isChild
    have recorded := placementPhaseRecord_eq_ok listed
    rw [places.hosts child isChild, Bool.true_and] at recorded
    cases placed : fibers.isPlaced child with
    | false =>
      rw [if_neg (Bool.eq_false_iff.mp placed)] at recorded
      rw [recorded, if_pos (by simp [stays_iff, placed])]
      rfl
    | true =>
      rw [if_pos placed] at recorded
      obtain ⟨record, ranRecord, rfl⟩ := recorded
      obtain ⟨parentNode, parentResolved, -⟩ := isParent.isHostParent tree
      have walk : IsWalk fibers.arena.sibling? (fibers.arena.sibling? child) behind := by
        have all := walk_of_childIds (gathered parent isParent.below) parentResolved
        rw [shape] at all
        exact all.of_append
      have applied := applyPlacement_eq tree isParent walk ranRecord children
      have single : [record].foldlM (fun children record => record.applyPlacement children)
          children = record.applyPlacement children := by
        simp
      rw [single, if_neg (by simp [stays_iff, placed]), place, find?_stableNodes places areChildren]
      cases first : behind.find? fun child => !fibers.isPlacedHost child with
      | none =>
        rw [first, Option.elim_none] at applied
        exact applied
      | some reference =>
        rw [first, Option.elim_some] at applied
        have isReference := areChildren reference (List.mem_of_find?_eq_some first)
        exact applied.1 (places.hosts reference isReference) (places.named reference isReference)
  refine (foldlM_eq_runSteps ran each children).trans ?_
  exact runSteps_eq_placeAll (fun _ _ _ _ _ => by simp) children

end Parent

end Placements

section Remaining

variable {old : List StateNodeHandle} {node : StateNodeHandle}
  (places : fibers.PlacesHostChildren parent old)
include places

theorem notMem_placedNodes (stays : node ∈ fibers.stableNodes parent) :
    node ∉ fibers.placedNodes parent := by
  intro placed
  obtain ⟨child, member, rfl⟩ := List.mem_map.mp placed
  obtain ⟨isChild, isPlaced⟩ := List.mem_filter.mp member
  rw [mem_stableNodes_iff places isChild, isPlaced] at stays
  cases stays

theorem mem_of_remaining (isOld : node ∈ old) (remains : node ∉ fibers.removedNodes parent) :
    node ∈ fibers.placedNodes parent ∨ node ∈ fibers.stableNodes parent := by
  by_cases placed : node ∈ fibers.placedNodes parent
  · exact .inl placed
  · right
    rw [← places.surviving]
    exact List.mem_filter.mpr ⟨isOld, decide_eq_true ⟨remains, placed⟩⟩

/-- Placing the children of a parent among the nodes that were not removed puts all of them
in order. -/
theorem placeAll_remaining :
    placeAll (· ∈ fibers.stableNodes parent)
        ((fibers.finishedChildren parent).map fibers.stateNode)
        (old.filter (· ∉ fibers.removedNodes parent)) =
      some ((fibers.finishedChildren parent).map fibers.stateNode) := by
  have ofStable : ∀ node ∈ fibers.stableNodes parent,
      node ∈ (fibers.finishedChildren parent).map fibers.stateNode := by
    intro node stays
    obtain ⟨child, member, isNode⟩ := List.mem_map.mp stays
    exact List.mem_map.mpr ⟨child, List.mem_of_mem_filter member, isNode⟩
  have ofPlaced : ∀ node ∈ fibers.placedNodes parent,
      node ∈ (fibers.finishedChildren parent).map fibers.stateNode := by
    intro node placed
    obtain ⟨child, member, isNode⟩ := List.mem_map.mp placed
    exact List.mem_map.mpr ⟨child, List.mem_of_mem_filter member, isNode⟩
  have staying : ((old.filter (· ∉ fibers.removedNodes parent)).filter
      (· ∈ (fibers.finishedChildren parent).map fibers.stateNode)).filter
        (· ∈ fibers.stableNodes parent) =
      ((fibers.finishedChildren parent).map fibers.stateNode).filter
        (· ∈ fibers.stableNodes parent) := by
    have ofWanted : ((fibers.finishedChildren parent).map fibers.stateNode).filter
        (· ∈ fibers.stableNodes parent) = fibers.stableNodes parent :=
      filter_selected places.distinct
    rw [ofWanted, List.filter_filter, List.filter_filter]
    refine Eq.trans ?_ places.surviving
    apply List.filter_congr
    intro node isOld
    rw [Bool.eq_iff_iff]
    simp only [Bool.and_eq_true, decide_eq_true_iff]
    constructor
    · rintro ⟨⟨stays, -⟩, remains⟩
      exact ⟨remains, notMem_placedNodes places stays⟩
    · rintro ⟨remains, unplaced⟩
      have stays := (mem_of_remaining places isOld remains).resolve_left unplaced
      exact ⟨⟨stays, ofStable node stays⟩, remains⟩
  obtain ⟨placed, isPlaced, -, inOrder, others⟩ := placeAll_eq places.distinct
    (places.oldDistinct.filter _) staying
  have noOthers : ∀ node ∈ placed, node ∈ (fibers.finishedChildren parent).map fibers.stateNode := by
    intro node member
    by_contra other
    have inOthers : node ∈ placed.filter
        (· ∉ (fibers.finishedChildren parent).map fibers.stateNode) :=
      List.mem_filter.mpr ⟨member, decide_eq_true other⟩
    rw [others, List.mem_filter, List.mem_filter] at inOthers
    obtain ⟨⟨isOld, remains⟩, -⟩ := inOthers
    have isWanted := mem_of_remaining places isOld (of_decide_eq_true remains)
    exact other (isWanted.elim (ofPlaced node) (ofStable node))
  have all : placed.filter (· ∈ (fibers.finishedChildren parent).map fibers.stateNode) = placed :=
    List.filter_eq_self.mpr fun node member => decide_eq_true (noOthers node member)
  rw [isPlaced, ← inOrder, all]

end Remaining

end HostFibers

section Sample

/-- A root whose text is moved before a component while another text is deleted; two
components deeper a text is placed. -/
def sampleHostArena : FiberArena :=
  stateAfter
    ((do
      let root ← createFiber .hostRoot none .none FiberMode.no
      let moved ← createFiber .hostText none .none FiberMode.no
      let stable ← createFiber .hostComponent none .none FiberMode.no
      let deleted ← createFiber .hostText none .none FiberMode.no
      let inner ← createFiber .hostComponent none .none FiberMode.no
      let innermost ← createFiber .hostComponent none .none FiberMode.no
      let placed ← createFiber .hostText none .none FiberMode.no
      setChildren root [moved, stable, deleted]
      setChildren stable [inner]
      setChildren inner [innermost]
      setChildren innermost [placed]
      let _ ← markChildForDeletion root deleted
      modifyFiber moved fun node => { node with flags := FiberFlags.placement }
      modifyFiber placed fun node => { node with flags := FiberFlags.placement } :
        FiberArenaM Unit).run .new)

def sampleHostFibers : HostFibers where
  arena := sampleHostArena
  stateNode := fun fiber => ⟨fiber.slot + 1⟩
  subtreeFlags := fun fiber =>
    if fiber.slot ∈ [0, 2, 4, 5] then FiberFlags.placement else FiberFlags.no
  memoizedProps := fun _ => .none

def sampleHostTree : List FiberId :=
  [⟨0, 0⟩, ⟨1, 0⟩, ⟨2, 0⟩, ⟨4, 0⟩, ⟨5, 0⟩, ⟨6, 0⟩]

theorem mem_sampleHostTree {fiber : FiberId}
    (isBelow : Below sampleHostFibers.finishedChildren ⟨0, 0⟩ fiber) : fiber ∈ sampleHostTree := by
  have closed : ∀ parent ∈ sampleHostTree,
      ∀ child ∈ sampleHostFibers.finishedChildren parent, child ∈ sampleHostTree := by
    decide +kernel
  exact isBelow.of_step (by decide) fun parent child _ isChild inTree =>
    closed parent inTree child isChild

theorem sampleHostTree_finished : sampleHostFibers.FinishedTree ⟨0, 0⟩ where
  isHostRoot := by decide +kernel
  rootless := by decide +kernel
  returns := by
    intro parent child isBelow
    have returns : ∀ parent ∈ sampleHostTree, ∀ child ∈ sampleHostFibers.finishedChildren parent,
        sampleHostFibers.arena.returnFiber? child = some parent := by
      decide +kernel
    exact returns parent (mem_sampleHostTree isBelow) child
  bubbled := by
    intro parent child node isBelow isChild resolved
    have bubbled : ∀ parent ∈ sampleHostTree, ∀ child ∈ sampleHostFibers.finishedChildren parent,
        (sampleHostFibers.arena.get? child).all (fun node =>
          (sampleHostFibers.subtreeFlags parent).containsAll
            (node.flags.merge (sampleHostFibers.subtreeFlags child))) = true := by
      decide +kernel
    have all := bubbled parent (mem_sampleHostTree isBelow) child isChild
    rwa [resolved] at all

def sampleHostMutations : List HostRootMutationApplyRecord :=
  (sampleHostFibers.hostRootMutations ⟨0, 0⟩ ⟨0, 0⟩ Lanes.no).toOption.getD []

theorem sampleHostMutations_ok :
    sampleHostFibers.hostRootMutations ⟨0, 0⟩ ⟨0, 0⟩ Lanes.no = .ok sampleHostMutations := by
  decide +kernel

end Sample

end FastReact
