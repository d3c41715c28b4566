import FastReact.DeletionTraversalAgreement

namespace FastReact

open ErrorState List PostOrder

/-!
# The host nodes of deleted fibers

The deletion lists of a finished tree are those of all fibers in it, and the cleanup finds
the host nodes below each deleted fiber.  So a fiber is cleaned up just when it is a host
node that a traversal reaches from a fiber deleted somewhere in the finished tree.
-/

namespace HostFibers

variable {fibers : HostFibers} {parent finishedWork : FiberId}

def finishedChildren (fibers : HostFibers) (parent : FiberId) : List FiberId :=
  (fibers.childIds parent).toOption.getD []

def deletedChildren (fibers : HostFibers) (parent : FiberId) : List FiberId :=
  (fibers.get parent).toOption.elim [] fun node =>
    node.deletions.elim [] fun listId => (fibers.arena.deletionList listId).elim [] (·.deleted)

def DeletedInTree (fibers : HostFibers) (finishedWork deleted : FiberId) : Prop :=
  ∃ parent, Below fibers.finishedChildren finishedWork parent ∧
    deleted ∈ fibers.deletedChildren parent

def DeletedHostNode (fibers : HostFibers) (finishedWork fiber : FiberId) : Prop :=
  ∃ deleted, fibers.DeletedInTree finishedWork deleted ∧
    Below fibers.cleanupChildren deleted fiber ∧ fibers.isHostNode fiber = true

theorem of_checkedDeletionList {flags : FiberFlags} {children deleted : List FiberId}
    {listId : DeletionListId}
    (ran : fibers.checkedDeletionList parent flags children listId = .ok deleted) :
    (fibers.arena.deletionList listId).elim [] (·.deleted) = deleted := by
  unfold checkedDeletionList at ran
  cases found : fibers.arena.deletionList listId with
  | none =>
    rw [found] at ran
    cases ran
  | some list =>
    rw [found] at ran
    obtain ⟨-, ranFlag⟩ := guard_eq_ok_iff.mp ran
    obtain ⟨-, ranChecks⟩ := guard_eq_ok_iff.mp ranFlag
    obtain ⟨-, -, finished⟩ := bind_eq_ok_iff.mp ranChecks
    cases finished
    rfl

variable {request : DeletedSubtreeRequest} {children : List FiberId} {root : FiberRootId}

theorem of_deletionListRecord {own : List HostRootDeletionListRecord}
    (ran : fibers.deletionListRecord parent = .ok (own, children)) :
    fibers.childIds parent = .ok children ∧
      (∀ list ∈ own, list.parent = parent) ∧
      own.flatMap (·.deleted) = fibers.deletedChildren parent := by
  obtain ⟨node, resolved, ranChildren⟩ := bind_eq_ok_iff.mp ran
  obtain ⟨ids, gathered, ranList⟩ := bind_eq_ok_iff.mp ranChildren
  rw [deletedChildren, resolved, gathered]
  cases listed : node.deletions with
  | none =>
    rw [listed] at ranList
    cases ranList
    simp [Except.toOption, listed]
  | some listId =>
    rw [listed] at ranList
    obtain ⟨deleted, checked, ranRecord⟩ := bind_eq_ok_iff.mp ranList
    have isDeleted := of_checkedDeletionList checked
    simp only [Except.toOption, Option.elim_some, listed, isDeleted]
    by_cases empty : deleted.isEmpty = true
    · rw [if_pos empty] at ranRecord
      cases ranRecord
      exact ⟨rfl, forall_mem_nil _, (isEmpty_iff.mp empty).symm⟩
    · rw [if_neg empty] at ranRecord
      cases ranRecord
      exact ⟨rfl, forall_mem_singleton.mpr rfl, append_nil deleted⟩

theorem finishedChildren_of_childIds (gathered : fibers.childIds parent = .ok children) :
    fibers.finishedChildren parent = children := by
  rw [finishedChildren, gathered]
  rfl

variable {lists : List HostRootDeletionListRecord} {cleanups : List HostNodeCleanup} {rounds : Nat}

/-- The loop over a stack gathers the children of all fibers below those on it, and lists what
was deleted below each of them. -/
theorem collectDeletionLists_eq_ok {stack : List FiberId}
    (ran : fibers.collectDeletionLists rounds stack = .ok lists) :
    (∀ start ∈ stack, ∀ owner, Below fibers.finishedChildren start owner →
        fibers.childIds owner = .ok (fibers.finishedChildren owner)) ∧
      ∀ owner deleted, (∃ list ∈ lists, list.parent = owner ∧ deleted ∈ list.deleted) ↔
        ∃ start ∈ stack, Below fibers.finishedChildren start owner ∧
          deleted ∈ fibers.deletedChildren owner := by
  induction rounds generalizing stack lists with
  | zero =>
    cases stack with
    | nil =>
      cases ran
      simp
    | cons parent rest =>
      cases ran
  | succ rounds ih =>
    cases stack with
    | nil =>
      cases ran
      simp
    | cons parent rest =>
      obtain ⟨entry, ranOwn, ranRest⟩ := bind_eq_ok_iff.mp ran
      obtain ⟨later, ranLater, finished⟩ := bind_eq_ok_iff.mp ranRest
      cases finished
      obtain ⟨gathered, ownParent, isOwn⟩ := of_deletionListRecord ranOwn
      have isChildren := finishedChildren_of_childIds gathered
      obtain ⟨gatheredBehind, listedBehind⟩ := ih ranLater
      constructor
      · intro start isStart owner isBelow
        rcases mem_cons.mp isStart with rfl | behind
        · rcases below_iff.mp isBelow with rfl | ⟨child, isChild, inner⟩
          · rw [isChildren]
            exact gathered
          · rw [isChildren] at isChild
            exact gatheredBehind child (mem_append_left rest isChild) owner inner
        · exact gatheredBehind start (mem_append_right entry.2 behind) owner isBelow
      · intro owner deleted
        have own_iff : (∃ list ∈ entry.1, list.parent = owner ∧ deleted ∈ list.deleted) ↔
            owner = parent ∧ deleted ∈ fibers.deletedChildren parent := by
          rw [← isOwn, mem_flatMap]
          constructor
          · rintro ⟨list, isList, rfl, isDeleted⟩
            exact ⟨ownParent list isList, list, isList, isDeleted⟩
          · rintro ⟨rfl, list, isList, isDeleted⟩
            exact ⟨list, isList, ownParent list isList, isDeleted⟩
        -- Below the fiber is the fiber itself and what is below its children.
        have below_iff : Below fibers.finishedChildren parent owner ↔
            owner = parent ∨ ∃ child ∈ entry.2, Below fibers.finishedChildren child owner := by
          rw [← isChildren]
          exact below_iff
        rw [exists_mem_cons_iff, below_iff]
        simp only [mem_append, or_and_right, exists_or] at listedBehind ⊢
        rw [own_iff, listedBehind, or_assoc]
        constructor
        · rintro (⟨rfl, isDeleted⟩ | ⟨child, isChild, inner, isDeleted⟩ | behind)
          · exact .inl ⟨rfl, isDeleted⟩
          · exact .inr (.inl ⟨⟨child, isChild, inner⟩, isDeleted⟩)
          · exact .inr (.inr behind)
        · rintro (⟨rfl, isDeleted⟩ | ⟨⟨child, isChild, inner⟩, isDeleted⟩ | behind)
          · exact .inl ⟨rfl, isDeleted⟩
          · exact .inr (.inl ⟨child, isChild, inner, isDeleted⟩)
          · exact .inr (.inr behind)

theorem mem_collectDeletionListMetadata_iff
    (ran : fibers.collectDeletionListMetadata finishedWork = .ok lists) (deleted : FiberId) :
    (∃ list ∈ lists, deleted ∈ list.deleted) ↔ fibers.DeletedInTree finishedWork deleted := by
  have listed := (collectDeletionLists_eq_ok ran).2
  simp only [mem_singleton, exists_eq_left] at listed
  constructor
  · rintro ⟨list, isList, isDeleted⟩
    exact ⟨list.parent, (listed _ _).mp ⟨list, isList, rfl, isDeleted⟩⟩
  · rintro ⟨owner, isOwner⟩
    obtain ⟨list, isList, -, isDeleted⟩ := (listed owner deleted).mpr isOwner
    exact ⟨list, isList, isDeleted⟩

theorem stateNode_of_hostNodeCleanups {fiber : FiberId}
    (ran : fibers.hostNodeCleanups request rounds fiber = .ok cleanups) :
    ∀ cleanup ∈ cleanups, cleanup.stateNode = fibers.stateNode cleanup.fiber := by
  induction rounds generalizing fiber cleanups with
  | zero =>
    cases ran
  | succ rounds ih =>
    obtain ⟨node, -, ranBelow⟩ := bind_eq_ok_iff.mp ran
    split at ranBelow
    · cases ranBelow
      exact forall_mem_nil _
    · obtain ⟨children, -, ranChildren⟩ := bind_eq_ok_iff.mp ranBelow
      obtain ⟨below, listed, finished⟩ := bind_eq_ok_iff.mp ranChildren
      cases finished
      refine forall_mem_append.mpr ⟨?_, ?_⟩
      · exact forall_mem_flatten_of_mapM_ok listed fun child _ block ranChild =>
          ih ranChild
      · split
        · exact forall_mem_singleton.mpr rfl
        · exact forall_mem_nil _

theorem mem_hostNodeCleanups_iff {deleted : FiberId}
    (ran : fibers.hostNodeCleanups request rounds deleted = .ok cleanups) (fiber : FiberId) :
    fiber ∈ cleanups.map (·.fiber) ↔
      Below fibers.cleanupChildren deleted fiber ∧ fibers.isHostNode fiber = true := by
  obtain ⟨shallow, items, -⟩ := hostNodeCleanups_eq_ok ran
  rw [items]
  exact (lists_postOrder shallow fibers.isHostNode).mem_listed_iff

theorem mem_deletionListCleanups_iff {entry : HostRootDeletionListRecord × Nat}
    (ran : fibers.deletionListCleanups root finishedWork entry = .ok cleanups) :
    (∀ cleanup ∈ cleanups, cleanup.stateNode = fibers.stateNode cleanup.fiber) ∧
      ∀ fiber, fiber ∈ cleanups.map (·.fiber) ↔ ∃ deleted ∈ entry.1.deleted,
        Below fibers.cleanupChildren deleted fiber ∧ fibers.isHostNode fiber = true := by
  obtain ⟨request, blocks, -, listed, rfl⟩ := deletionListCleanups_eq_ok ran
  constructor
  · exact forall_mem_flatten_of_mapM_ok listed fun deleted _ block ranBlock =>
      stateNode_of_hostNodeCleanups ranBlock
  · intro fiber
    rw [← exists_mem_zipIdx_iff]
    exact mem_map_flatten_iff_of_mapM_ok listed fun deleted block ranBlock =>
      mem_hostNodeCleanups_iff ranBlock fiber

theorem mem_collectPendingHostNodeDeletionCleanup_iff
    {records : List PendingHostRootDeletionCleanupRecord}
    (listed : fibers.collectDeletionListMetadata finishedWork = .ok lists)
    (ran : fibers.collectPendingHostNodeDeletionCleanup root finishedWork lists = .ok records) :
    (∀ record ∈ records, record.stateNode = fibers.stateNode record.fiber) ∧
      ∀ fiber, fiber ∈ records.map (·.fiber) ↔ fibers.DeletedHostNode finishedWork fiber := by
  have collected := @pendingCleanups_collect fibers root finishedWork lists
  rw [ran] at collected
  cases ranLists : lists.zipIdx.mapM (fibers.deletionListCleanups root finishedWork) with
  | error error =>
    rw [ranLists] at collected
    cases collected
  | ok blocks =>
    rw [ranLists] at collected
    have all : pendingCleanups records = blocks.flatten := Except.ok.inj collected
    constructor
    · intro record member
      have isCleanup : record.hostNodeCleanup ∈ blocks.flatten := all ▸ mem_map_of_mem member
      exact forall_mem_flatten_of_mapM_ok ranLists
        (fun entry _ block ranBlock => (mem_deletionListCleanups_iff ranBlock).1) _ isCleanup
    · intro fiber
      have sameFibers : records.map (·.fiber) = blocks.flatten.map (·.fiber) := by
        rw [← all, pendingCleanups, map_map]
        rfl
      have reached := mem_map_flatten_iff_of_mapM_ok ranLists fun entry block ranBlock =>
        (mem_deletionListCleanups_iff ranBlock).2 fiber
      rw [@exists_mem_zipIdx_iff _ lists fun list => ∃ deleted ∈ list.deleted,
        Below fibers.cleanupChildren deleted fiber ∧ fibers.isHostNode fiber = true] at reached
      rw [sameFibers, reached]
      constructor
      · rintro ⟨list, isList, deleted, isDeleted, isReached⟩
        exact ⟨deleted, (mem_collectDeletionListMetadata_iff listed deleted).mp
          ⟨list, isList, isDeleted⟩, isReached⟩
      · rintro ⟨deleted, inTree, isReached⟩
        obtain ⟨list, isList, isDeleted⟩ :=
          (mem_collectDeletionListMetadata_iff listed deleted).mpr inTree
        exact ⟨list, isList, deleted, isDeleted, isReached⟩

end HostFibers

end FastReact
