import FastReact.DeletionTraversals
import FastReact.FiberTopologySteps
import FastReact.PostOrder
import FastReact.SuccessfulRuns

namespace FastReact

open ErrorState Except HostFibers List Nat PostOrder

/-!
# The deletion traversals agree

Both traversals add the same host nodes for a deleted fiber, behind what they have already,
and fail in the same way.  The host nodes of a deleted fiber are those of the post-order of
what is below it, as far as no fiber stops the traversal.
-/

/-- The host nodes a traversal is to clean up, whichever it is. -/
structure HostNodeCleanup extends DeletedSubtreeRequest where
  fiber : FiberId
  tag : FiberTag
  stateNode : StateNodeHandle
deriving DecidableEq

def HostRootDeletionSubtreeTraversalGateRecord.hostNodeCleanup?
    (record : HostRootDeletionSubtreeTraversalGateRecord) : Option HostNodeCleanup :=
  if record.status = .hostNodeCleanupMetadata then
    some {
      toDeletedSubtreeRequest := record.toDeletedSubtreeRequest
      fiber := record.fiber
      tag := record.tag
      stateNode := record.stateNode }
  else
    none

def PendingHostRootDeletionCleanupRecord.hostNodeCleanup
    (record : PendingHostRootDeletionCleanupRecord) : HostNodeCleanup where
  toDeletedSubtreeRequest := record.toDeletedSubtreeRequest
  fiber := record.fiber
  tag := record.tag
  stateNode := record.stateNode

def gateCleanups (records : List HostRootDeletionSubtreeTraversalGateRecord) :
    List HostNodeCleanup :=
  records.filterMap (·.hostNodeCleanup?)

def pendingCleanups (records : List PendingHostRootDeletionCleanupRecord) : List HostNodeCleanup :=
  records.map (·.hostNodeCleanup)

section Folds

variable {ε α β γ : Type}

theorem map_foldlM_of_adds {step : β → α → Except ε β} {seen : β → List γ}
    {list : α → Except ε (List γ)}
    (adds : ∀ value item, (step value item).map seen = (list item).map (seen value ++ ·))
    (items : List α) (value : β) :
    (items.foldlM step value).map seen =
      (items.mapM list).map fun lists => seen value ++ lists.flatten := by
  induction items generalizing value with
  | nil => simp only [foldlM_nil, mapM_nil, pure, Except.pure, Except.map, flatten_nil, append_nil]
  | cons item rest ih =>
    have added := adds value item
    rw [foldlM_cons, mapM_cons]
    cases stepped : step value item with
    | error error =>
      rw [stepped] at added
      cases listed : list item with
      | error other =>
        rw [listed] at added
        cases added
        rfl
      | ok found =>
        rw [listed] at added
        cases added
    | ok next =>
      rw [stepped] at added
      cases listed : list item with
      | error other =>
        rw [listed] at added
        cases added
      | ok found =>
        rw [listed] at added
        have isSeen : seen next = seen value ++ found := ok.inj added
        simp only [bind, Except.bind, pure, Except.pure]
        have later := ih next
        rw [later]
        cases rest.mapM list with
        | error error => rfl
        | ok lists => simp only [Except.map, isSeen, flatten_cons, append_assoc]

theorem map_bind_pure_congr {α' β' γ' : Type} {first : Except ε α} {second : Except ε β}
    {seen : α → γ} {listed : β → γ} (same : first.map seen = second.map listed) {finish : α → α'}
    {finishOther : β → β'} {seenAfter : α' → γ'} {listedAfter : β' → γ'} (change : γ → γ')
    (finishes : ∀ value, seenAfter (finish value) = change (seen value))
    (finishesOther : ∀ value, listedAfter (finishOther value) = change (listed value)) :
    (first >>= fun value => pure (finish value)).map seenAfter =
      (second >>= fun value => pure (finishOther value)).map listedAfter := by
  cases first with
  | error error =>
    cases second with
    | error other =>
      cases same
      rfl
    | ok value =>
      cases same
  | ok value =>
    cases second with
    | error other =>
      cases same
    | ok other =>
      have sameValue : seen value = listed other := ok.inj same
      change ok (seenAfter (finish value)) = ok (listedAfter (finishOther other))
      rw [finishes, finishesOther, sameValue]

theorem map_append_flatten (found : Except ε (List (List γ))) (value : List γ) :
    (found.map fun blocks => value ++ blocks.flatten) =
      (found >>= fun blocks => pure blocks.flatten).map (value ++ ·) := by
  cases found <;> rfl

/-- Entries that carry the position of their block are those of that block. -/
theorem filter_flatten_of_index {key : γ → Nat} {blocks : List (List γ)} (start index : Nat)
    (keyed : ∀ (position : Nat) block, blocks[position]? = some block →
      ∀ entry ∈ block, key entry = start + position) :
    blocks.flatten.filter (fun entry => key entry = start + index) = (blocks[index]?).getD [] := by
  induction blocks generalizing start index with
  | nil => rfl
  | cons block rest ih =>
    have keyedRest : ∀ (position : Nat) other, rest[position]? = some other →
        ∀ entry ∈ other, key entry = start + 1 + position := by
      intro position other found entry member
      rw [keyed (position + 1) other found entry member]
      omega
    have keyedBlock : ∀ entry ∈ block, key entry = start := keyed 0 block rfl
    rw [flatten_cons, filter_append]
    cases index with
    | zero =>
      have own : block.filter (fun entry => key entry = start + 0) = block := by
        rw [filter_eq_self]
        intro entry member
        simpa using keyedBlock entry member
      have others : rest.flatten.filter (fun entry => key entry = start + 0) = [] := by
        rw [filter_eq_nil_iff]
        intro entry member
        obtain ⟨other, isOther, inOther⟩ := mem_flatten.mp member
        obtain ⟨position, found⟩ := mem_iff_getElem?.mp isOther
        have isKey := keyedRest position other found entry inOther
        simp only [decide_eq_true_eq]
        omega
      rw [own, others, append_nil]
      rfl
    | succ index =>
      have own : block.filter (fun entry => key entry = start + (index + 1)) = [] := by
        rw [filter_eq_nil_iff]
        intro entry member
        have isKey := keyedBlock entry member
        simp only [decide_eq_true_eq]
        omega
      have others := ih (start + 1) index keyedRest
      rw [add_assoc, add_comm 1 index] at others
      rw [own, others]
      rfl

end Folds

namespace HostFibers

variable {fibers : HostFibers}

/-- The host nodes below a fiber, behind those of its children. -/
def hostNodeCleanups (fibers : HostFibers) (request : DeletedSubtreeRequest) :
    Nat → FiberId → Except HostMutationError (List HostNodeCleanup)
  | 0, _ => .error .endlessWalk
  | rounds + 1, fiber => do
      let node ← fibers.get fiber
      if deletionSubtreeTraversalBlocksChildren node.tag then
        return []
      else
        let children ← fibers.deletionSubtreeChildren fiber node.tag
        let below ← children.mapM (hostNodeCleanups fibers request rounds)
        return below.flatten ++
          if (hostNodeCleanupTokenTarget node.tag).isSome then
            [{ toDeletedSubtreeRequest := request
               fiber := fiber
               tag := node.tag
               stateNode := fibers.stateNode fiber }]
          else
            []

variable (request : DeletedSubtreeRequest)

theorem gateCleanups_push (deletedRootTag : FiberTag) (fiber : FiberId) (tag : FiberTag)
    (traversalDepth : Nat) (portalContainerStateNode : StateNodeHandle)
    (status : HostRootDeletionSubtreeTraversalGateStatus)
    (records : List HostRootDeletionSubtreeTraversalGateRecord) :
    gateCleanups (fibers.pushDeletionSubtreeTraversalGateRecord request deletedRootTag fiber tag
        traversalDepth portalContainerStateNode status records) =
      gateCleanups records ++
        if status = .hostNodeCleanupMetadata then
          [{ toDeletedSubtreeRequest := request
             fiber := fiber
             tag := tag
             stateNode := fibers.stateNode fiber }]
        else
          [] := by
  rw [pushDeletionSubtreeTraversalGateRecord, gateCleanups, filterMap_append]
  congr 1
  rw [filterMap_cons]
  unfold HostRootDeletionSubtreeTraversalGateRecord.hostNodeCleanup?
  by_cases isHostNode : status = .hostNodeCleanupMetadata
  · simp [isHostNode]
  · simp [isHostNode]

theorem boundaryStatus_ne (tag : FiberTag) :
    deletionSubtreeBoundaryStatus tag ≠ some .hostNodeCleanupMetadata := by
  cases tag <;> simp [deletionSubtreeBoundaryStatus]

theorem gate_adds (deletedRootTag : FiberTag) (rounds : Nat) (fiber : FiberId)
    (traversalDepth : Nat) (portalContainerStateNode : StateNodeHandle)
    (records : List HostRootDeletionSubtreeTraversalGateRecord) :
    (fibers.collectDeletionSubtreeTraversalGateRecords request deletedRootTag rounds fiber
        traversalDepth portalContainerStateNode records).map gateCleanups =
      (fibers.hostNodeCleanups request rounds fiber).map (gateCleanups records ++ ·) := by
  induction rounds generalizing fiber traversalDepth portalContainerStateNode records with
  | zero => rfl
  | succ rounds ih =>
    unfold collectDeletionSubtreeTraversalGateRecords hostNodeCleanups
    cases fibers.get fiber with
    | error error => rfl
    | ok node =>
      simp only [bind, Except.bind]
      generalize (if node.tag = .portal then fibers.stateNode fiber
        else portalContainerStateNode) = container
      -- What is noted before the children is no host node.
      have noted : gateCleanups ((deletionSubtreeBoundaryStatus node.tag).elim records fun status =>
          fibers.pushDeletionSubtreeTraversalGateRecord request deletedRootTag fiber node.tag
            traversalDepth container status records) = gateCleanups records := by
        cases boundary : deletionSubtreeBoundaryStatus node.tag with
        | none => rfl
        | some status =>
          have isBoundary : status ≠ .hostNodeCleanupMetadata := by
            intro isHostNode
            exact boundaryStatus_ne node.tag (isHostNode ▸ boundary)
          rw [Option.elim_some, gateCleanups_push, if_neg isBoundary, append_nil]
      by_cases blocks : deletionSubtreeTraversalBlocksChildren node.tag = true
      · rw [if_pos blocks, if_pos blocks]
        simp only [pure, Except.pure, Except.map, noted, append_nil]
      · rw [if_neg blocks, if_neg blocks]
        cases fibers.deletionSubtreeChildren fiber node.tag with
        | error error => rfl
        | ok children =>
          have folded := map_foldlM_of_adds
            (fun value child => ih child (traversalDepth + 1) container value)
            children ((deletionSubtreeBoundaryStatus node.tag).elim records fun status =>
              fibers.pushDeletionSubtreeTraversalGateRecord request deletedRootTag fiber
                node.tag traversalDepth container status records)
          rw [noted] at folded
          refine map_bind_pure_congr folded (fun cleanups => cleanups ++
            if (hostNodeCleanupTokenTarget node.tag).isSome then
              [{ toDeletedSubtreeRequest := request
                 fiber := fiber
                 tag := node.tag
                 stateNode := fibers.stateNode fiber }]
            else
              []) ?_ ?_
          · intro below
            by_cases isHost : (hostNodeCleanupTokenTarget node.tag).isSome = true
            · rw [if_pos isHost, if_pos isHost, gateCleanups_push, if_pos rfl]
            · rw [if_neg isHost, if_neg isHost, append_nil]
          · intro below
            exact (append_assoc _ _ _).symm

/-- The cleanup adds the host nodes below a fiber. -/
theorem pending_adds (rounds : Nat) (fiber : FiberId)
    (collected : Nat × List PendingHostRootDeletionCleanupRecord) :
    (fibers.collectPendingDeletedSubtreeHostNodeCleanup request rounds fiber collected).map
        (fun after => pendingCleanups after.2) =
      (fibers.hostNodeCleanups request rounds fiber).map (pendingCleanups collected.2 ++ ·) := by
  induction rounds generalizing fiber collected with
  | zero => rfl
  | succ rounds ih =>
    unfold collectPendingDeletedSubtreeHostNodeCleanup hostNodeCleanups
    cases fibers.get fiber with
    | error error => rfl
    | ok node =>
      simp only [bind, Except.bind]
      by_cases blocks : deletionSubtreeTraversalBlocksChildren node.tag = true
      · rw [if_pos blocks, if_pos blocks]
        simp only [pure, Except.pure, Except.map, append_nil]
      · rw [if_neg blocks, if_neg blocks]
        cases fibers.deletionSubtreeChildren fiber node.tag with
        | error error => rfl
        | ok children =>
          have folded := map_foldlM_of_adds (fun value child => ih child value) children collected
          refine map_bind_pure_congr folded (fun cleanups => cleanups ++
            if (hostNodeCleanupTokenTarget node.tag).isSome then
              [{ toDeletedSubtreeRequest := request
                 fiber := fiber
                 tag := node.tag
                 stateNode := fibers.stateNode fiber }]
            else
              []) ?_ ?_
          · intro below
            cases hostNodeCleanupTokenTarget node.tag with
            | none => exact (append_nil _).symm
            | some target => exact map_append
          · intro below
            exact (append_assoc _ _ _).symm

/-- The children that a traversal goes into. -/
def cleanupChildren (fibers : HostFibers) (fiber : FiberId) : List FiberId :=
  ((fibers.get fiber).bind fun node =>
    fibers.deletionSubtreeChildren fiber node.tag).toOption.getD []

def isHostNode (fibers : HostFibers) (fiber : FiberId) : Bool :=
  (fibers.get fiber).toOption.any fun node => (hostNodeCleanupTokenTarget node.tag).isSome

theorem of_blocks {tag : FiberTag} (blocks : deletionSubtreeTraversalBlocksChildren tag = true) :
    deletionSubtreeShouldTraverseChildren tag = false ∧ hostNodeCleanupTokenTarget tag = none := by
  cases tag <;>
    simp_all [deletionSubtreeTraversalBlocksChildren, deletionSubtreeBoundaryStatus,
      deletionSubtreeShouldTraverseChildren, hostNodeCleanupTokenTarget]

variable {cleanups : List HostNodeCleanup} {deletedRoot : FiberId} {fiber : FiberId} {rounds : Nat}

theorem shallowerThan_of_children
    (shallow : ∀ child ∈ fibers.cleanupChildren fiber,
      ShallowerThan fibers.cleanupChildren rounds child) :
    ShallowerThan fibers.cleanupChildren (rounds + 1) fiber := by
  intro place item reached
  cases place with
  | nil => exact succ_pos rounds
  | cons index rest =>
    obtain ⟨child, found, inner⟩ := Option.bind_eq_some_iff.mp reached
    exact succ_lt_succ (shallow child (mem_of_getElem? found) rest item inner)

theorem hostNodeCleanups_eq_ok {request : DeletedSubtreeRequest}
    (ran : fibers.hostNodeCleanups request rounds fiber = .ok cleanups) :
    ShallowerThan fibers.cleanupChildren rounds fiber ∧
      cleanups.map (·.fiber) =
        (postOrder fibers.cleanupChildren rounds fiber).filter fibers.isHostNode ∧
      ∀ cleanup ∈ cleanups, cleanup.toDeletedSubtreeRequest = request := by
  induction rounds generalizing fiber cleanups with
  | zero =>
    cases ran
  | succ rounds ih =>
    obtain ⟨node, resolved, ranBelow⟩ := bind_eq_ok_iff.mp ran
    have isHost : fibers.isHostNode fiber = (hostNodeCleanupTokenTarget node.tag).isSome := by
      rw [isHostNode, resolved]
      rfl
    rw [postOrder, filter_append]
    by_cases blocks : deletionSubtreeTraversalBlocksChildren node.tag = true
    · rw [if_pos blocks] at ranBelow
      cases ranBelow
      obtain ⟨noTraversal, noHost⟩ := of_blocks blocks
      have noChildren : fibers.cleanupChildren fiber = [] := by
        rw [cleanupChildren, resolved]
        change (fibers.deletionSubtreeChildren fiber node.tag).toOption.getD [] = []
        rw [deletionSubtreeChildren, noTraversal]
        rfl
      rw [noHost] at isHost
      refine ⟨shallowerThan_of_children ?_, ?_, ?_⟩
      · rw [noChildren]
        intro child member
        cases member
      · simp [noChildren, isHost]
      · intro cleanup member
        cases member
    · rw [if_neg blocks] at ranBelow
      obtain ⟨children, gathered, ranChildren⟩ := bind_eq_ok_iff.mp ranBelow
      obtain ⟨below, listed, finished⟩ := bind_eq_ok_iff.mp ranChildren
      cases finished
      have isChildren : fibers.cleanupChildren fiber = children := by
        rw [cleanupChildren, resolved]
        change (fibers.deletionSubtreeChildren fiber node.tag).toOption.getD [] = children
        rw [gathered]
        rfl
      refine ⟨shallowerThan_of_children ?_, ?_, ?_⟩
      · rw [isChildren]
        intro child member
        obtain ⟨index, isChild⟩ := mem_iff_getElem?.mp member
        obtain ⟨childCleanups, -, ranChild⟩ := exists_value_of_mapM_ok listed isChild
        exact (ih ranChild).1
      · have items := map_eq_of_mapM_ok listed fun child member childCleanups ranChild =>
          (ih ranChild).2.1
        rw [isChildren, map_append, map_flatten, items, filter_flatMap, flatMap_def]
        congr 1
        by_cases host : (hostNodeCleanupTokenTarget node.tag).isSome = true
        · rw [if_pos host]
          simp [isHost, host]
        · rw [if_neg host]
          simp [isHost, host]
      · intro cleanup member
        rcases mem_append.mp member with inChildren | isOwn
        · obtain ⟨block, isBlock, inBlock⟩ := mem_flatten.mp inChildren
          obtain ⟨index, found⟩ := mem_iff_getElem?.mp isBlock
          obtain ⟨child, -, ranChild⟩ := exists_item_of_mapM_ok listed found
          exact (ih ranChild).2.2 cleanup inBlock
        · by_cases host : (hostNodeCleanupTokenTarget node.tag).isSome = true
          · rw [if_pos host, mem_singleton] at isOwn
            rw [isOwn]
          · rw [if_neg host] at isOwn
            cases isOwn

/-- The host nodes of the deleted fibers of one list. -/
def deletionListCleanups (fibers : HostFibers) (root : FiberRootId) (finishedWork : FiberId)
    (entry : HostRootDeletionListRecord × Nat) :
    Except HostMutationError (List HostNodeCleanup) := do
  let parent ← fibers.get entry.1.parent
  let hostParent ← fibers.findNearestHostParentForDeletion entry.1.parent
  let blocks ← entry.1.deleted.zipIdx.mapM fun deleted =>
    fibers.hostNodeCleanups
      { root := root
        hostRoot := finishedWork
        deletionList := entry.1.list
        deletionListIndex := entry.2
        deletedIndex := deleted.2
        parent := entry.1.parent
        parentTag := parent.tag
        hostParent := hostParent
        deletedRoot := deleted.1 }
      fibers.rounds deleted.1
  return blocks.flatten

variable {finishedWork : FiberId} {root : FiberRootId}

theorem forEachDeletedSubtree_adds {Collected : Type}
    {visit : DeletedSubtreeRequest → Collected → Except HostMutationError Collected}
    {seen : Collected → List HostNodeCleanup}
    (adds : ∀ request collected, (visit request collected).map seen =
      (fibers.hostNodeCleanups request fibers.rounds request.deletedRoot).map (seen collected ++ ·))
    (deletionLists : List HostRootDeletionListRecord)
    (collected : Collected) :
    (fibers.forEachDeletedSubtree root finishedWork visit deletionLists collected).map seen =
      (deletionLists.zipIdx.mapM (fibers.deletionListCleanups root finishedWork)).map fun lists =>
        seen collected ++ lists.flatten := by
  apply map_foldlM_of_adds
  intro value entry
  unfold deletionListCleanups
  cases fibers.get entry.1.parent with
  | error error => rfl
  | ok parent =>
    cases fibers.findNearestHostParentForDeletion entry.1.parent with
    | error error => rfl
    | ok hostParent =>
      have folded := map_foldlM_of_adds (fun value (deleted : FiberId × Nat) => adds
        { root := root
          hostRoot := finishedWork
          deletionList := entry.1.list
          deletionListIndex := entry.2
          deletedIndex := deleted.2
          parent := entry.1.parent
          parentTag := parent.tag
          hostParent := hostParent
          deletedRoot := deleted.1 } value) entry.1.deleted.zipIdx value
      exact folded.trans (map_append_flatten _ _)

theorem gateCleanups_materialize (root : FiberRootId) (finishedWork : FiberId)
    (deletionLists : List HostRootDeletionListRecord) :
    (fibers.materializeDeletionSubtreeTraversalGate root finishedWork deletionLists).map
        gateCleanups =
      (deletionLists.zipIdx.mapM (fibers.deletionListCleanups root finishedWork)).map
        List.flatten := by
  apply forEachDeletedSubtree_adds
  intro request records
  cases resolved : fibers.get request.deletedRoot with
  | error error =>
    have unresolved : fibers.hostNodeCleanups request fibers.rounds request.deletedRoot =
        .error error := by
      rw [rounds, hostNodeCleanups, resolved]
      rfl
    rw [unresolved]
    rfl
  | ok node => exact gate_adds request node.tag fibers.rounds request.deletedRoot 0 .none records

theorem pendingCleanups_collect (root : FiberRootId) (finishedWork : FiberId)
    (deletionLists : List HostRootDeletionListRecord) :
    (fibers.collectPendingHostNodeDeletionCleanup root finishedWork deletionLists).map
        pendingCleanups =
      (deletionLists.zipIdx.mapM (fibers.deletionListCleanups root finishedWork)).map
        List.flatten := by
  apply forEachDeletedSubtree_adds
  intro request records
  have added := @pending_adds fibers request fibers.rounds request.deletedRoot (0, records)
  rw [← added]
  cases fibers.collectPendingDeletedSubtreeHostNodeCleanup request fibers.rounds
      request.deletedRoot (0, records) with
  | error error => rfl
  | ok collected => rfl

theorem deletionListCleanups_eq_ok {entry : HostRootDeletionListRecord × Nat}
    (ran : fibers.deletionListCleanups root finishedWork entry = .ok cleanups) :
    ∃ (request : FiberId × Nat → DeletedSubtreeRequest) (blocks : List (List HostNodeCleanup)),
      (∀ deleted, (request deleted).deletionListIndex = entry.2 ∧
        (request deleted).deletedIndex = deleted.2) ∧
      (entry.1.deleted.zipIdx.mapM fun deleted =>
        fibers.hostNodeCleanups (request deleted) fibers.rounds deleted.1) = .ok blocks ∧
      cleanups = blocks.flatten := by
  obtain ⟨parent, _, ranParent⟩ := bind_eq_ok_iff.mp ran
  obtain ⟨hostParent, _, ranHostParent⟩ := bind_eq_ok_iff.mp ranParent
  obtain ⟨blocks, listed, finished⟩ := bind_eq_ok_iff.mp ranHostParent
  cases finished
  exact ⟨_, blocks, fun _ => ⟨rfl, rfl⟩, listed, rfl⟩

theorem of_getElem?_zipIdx {α : Type} {items : List α} {index : Nat} {entry : α × Nat}
    (found : items.zipIdx[index]? = some entry) :
    items[index]? = some entry.1 ∧ entry.2 = index := by
  rw [getElem?_zipIdx] at found
  obtain ⟨item, isItem, rfl⟩ := Option.map_eq_some_iff.mp found
  exact ⟨isItem, zero_add index⟩

/-- The records of one deleted fiber are the host nodes of its subtree. -/
theorem cleanups_of_deleted {deletionLists : List HostRootDeletionListRecord}
    {records : List PendingHostRootDeletionCleanupRecord}
    (ran : fibers.collectPendingHostNodeDeletionCleanup root finishedWork deletionLists =
      .ok records)
    {listIndex deletedIndex : Nat} {list : HostRootDeletionListRecord}
    (isList : deletionLists[listIndex]? = some list)
    (isDeleted : list.deleted[deletedIndex]? = some deletedRoot) :
    ∃ request cleanups,
      fibers.hostNodeCleanups request fibers.rounds deletedRoot = .ok cleanups ∧
      pendingCleanups (records.filter fun record =>
        record.deletionListIndex = listIndex && record.deletedIndex = deletedIndex) = cleanups := by
  have collected := @pendingCleanups_collect fibers root finishedWork deletionLists
  rw [ran] at collected
  cases listed : deletionLists.zipIdx.mapM (fibers.deletionListCleanups root finishedWork) with
  | error error =>
    rw [listed] at collected
    cases collected
  | ok blocks =>
    rw [listed] at collected
    have all : pendingCleanups records = blocks.flatten := ok.inj collected
    have ofList : ∀ (position : Nat) block, blocks[position]? = some block →
        ∀ cleanup ∈ block, cleanup.deletionListIndex = 0 + position := by
      intro position block isBlock cleanup member
      obtain ⟨entry, isEntry, ranEntry⟩ := exists_item_of_mapM_ok listed isBlock
      obtain ⟨request, inner, indices, listedInner, rfl⟩ := deletionListCleanups_eq_ok ranEntry
      obtain ⟨own, isOwn, inOwn⟩ := mem_flatten.mp member
      obtain ⟨place, isPlace⟩ := mem_iff_getElem?.mp isOwn
      obtain ⟨deleted, -, ranDeleted⟩ := exists_item_of_mapM_ok listedInner isPlace
      rw [(hostNodeCleanups_eq_ok ranDeleted).2.2 cleanup inOwn, (indices deleted).1,
        (of_getElem?_zipIdx isEntry).2, zero_add]
    have isEntry : deletionLists.zipIdx[listIndex]? = some (list, listIndex) := by
      rw [getElem?_zipIdx, isList, Option.map_some, zero_add]
    obtain ⟨block, isBlock, ranBlock⟩ := exists_value_of_mapM_ok listed isEntry
    obtain ⟨request, inner, indices, listedInner, rfl⟩ := deletionListCleanups_eq_ok ranBlock
    have ofDeleted : ∀ (position : Nat) own, inner[position]? = some own →
        ∀ cleanup ∈ own, cleanup.deletedIndex = 0 + position := by
      intro position own isOwn cleanup member
      obtain ⟨deleted, found, ranDeleted⟩ := exists_item_of_mapM_ok listedInner isOwn
      rw [(hostNodeCleanups_eq_ok ranDeleted).2.2 cleanup member, (indices deleted).2,
        (of_getElem?_zipIdx found).2, zero_add]
    have isItem : list.deleted.zipIdx[deletedIndex]? = some (deletedRoot, deletedIndex) := by
      rw [getElem?_zipIdx, isDeleted, Option.map_some, zero_add]
    obtain ⟨own, isOwn, ranOwn⟩ := exists_value_of_mapM_ok listedInner isItem
    refine ⟨_, own, ranOwn, ?_⟩
    -- The records of the list first, and among them those of the deleted fiber.
    have inList := filter_flatten_of_index 0 listIndex ofList
    have inDeleted := filter_flatten_of_index 0 deletedIndex ofDeleted
    rw [isBlock, Option.getD_some, zero_add] at inList
    rw [isOwn, Option.getD_some, zero_add] at inDeleted
    rw [← inDeleted, ← inList, ← all, filter_filter, pendingCleanups, pendingCleanups, filter_map]
    congr 1
    apply filter_congr
    intro record member
    exact Bool.and_comm _ _

theorem cleanupChildren_nodup (fiber : FiberId) : (fibers.cleanupChildren fiber).Nodup := by
  unfold cleanupChildren
  cases gathered : (fibers.get fiber).bind fun node =>
      fibers.deletionSubtreeChildren fiber node.tag with
  | error error => exact nodup_nil
  | ok children =>
    obtain ⟨node, -, ranChildren⟩ := bind_eq_ok_iff.mp gathered
    change children.Nodup
    unfold deletionSubtreeChildren at ranChildren
    by_cases traverses : deletionSubtreeShouldTraverseChildren node.tag = true
    · rw [if_pos traverses, childIds, mapError_eq_ok_iff, FiberArena.childIds_eq_ok_iff]
        at ranChildren
      exact ranChildren.2.1.nodup
    · rw [if_neg traverses] at ranChildren
      cases ranChildren
      exact nodup_nil

/-- Each host node below a deleted fiber is listed once, behind the host nodes below it. -/
structure EachOnceDescendantsFirst (fibers : HostFibers) (deletedRoot : FiberId)
    (cleaned : List FiberId) : Prop where
  nodup : cleaned.Nodup
  mem_iff : ∀ fiber, fiber ∈ cleaned ↔
    Below fibers.cleanupChildren deletedRoot fiber ∧ fibers.isHostNode fiber = true
  descendantsFirst : ∀ above ∈ cleaned, ∀ fiber ∈ cleaned, ∀ place, place ≠ [] →
    at? fibers.cleanupChildren above place = some fiber →
    [fiber, above].Sublist cleaned

theorem eachOnce_of_lists {cleaned : List FiberId} {places : List (List Nat)}
    (lists : Lists fibers.cleanupChildren fibers.isHostNode deletedRoot cleaned places)
    (tree : IsTree fibers.cleanupChildren deletedRoot) :
    fibers.EachOnceDescendantsFirst deletedRoot cleaned where
  nodup := lists.nodup_listed tree.onePlace
  mem_iff _ := lists.mem_listed_iff
  descendantsFirst := by
    intro above aboveListed fiber listed place isBelow reached
    obtain ⟨⟨abovePlace, aboveReached⟩, aboveHost⟩ := lists.mem_listed_iff.mp aboveListed
    exact lists.sublist_of_below aboveReached reached isBelow aboveHost
      (lists.mem_listed_iff.mp listed).2

end HostFibers

def cleanedFibers (records : List PendingHostRootDeletionCleanupRecord)
    (listIndex deletedIndex : Nat) : List FiberId :=
  (records.filter fun record =>
    record.deletionListIndex = listIndex && record.deletedIndex = deletedIndex).map (·.fiber)

/-- Both traversals fail alike or find the same host nodes in the same order.  For each
deleted fiber these are the host nodes at the places below it, each place once and behind the
places below it; where no fiber has two parents below the deleted one, that is each host node
once and behind its descendants. -/
theorem deletion_traversals_agree
    (fibers : HostFibers)
    (root : FiberRootId)
    (finishedWork : FiberId)
    (deletionLists : List HostRootDeletionListRecord) :
    (fibers.materializeDeletionSubtreeTraversalGate root finishedWork deletionLists).map
        gateCleanups =
      (fibers.collectPendingHostNodeDeletionCleanup root finishedWork deletionLists).map
        pendingCleanups ∧
    ∀ records,
      fibers.collectPendingHostNodeDeletionCleanup root finishedWork deletionLists = .ok records →
      ∀ (listIndex deletedIndex : Nat) (list : HostRootDeletionListRecord) (deletedRoot : FiberId),
        deletionLists[listIndex]? = some list →
        list.deleted[deletedIndex]? = some deletedRoot →
        (∃ places, Lists fibers.cleanupChildren fibers.isHostNode deletedRoot
          (cleanedFibers records listIndex deletedIndex) places) ∧
        (OneParentEach fibers.cleanupChildren deletedRoot →
          fibers.EachOnceDescendantsFirst deletedRoot
            (cleanedFibers records listIndex deletedIndex)) := by
  constructor
  · rw [gateCleanups_materialize, pendingCleanups_collect]
  · intro records ran listIndex deletedIndex list deletedRoot isList isDeleted
    obtain ⟨request, cleanups, ranOwn, isOwn⟩ :=
      cleanups_of_deleted ran isList isDeleted
    obtain ⟨shallow, items, -⟩ := hostNodeCleanups_eq_ok ranOwn
    have cleaned : cleanedFibers records listIndex deletedIndex =
        (postOrder fibers.cleanupChildren fibers.rounds deletedRoot).filter
          fibers.isHostNode := by
      rw [← items, ← isOwn, pendingCleanups, map_map]
      rfl
    have lists := lists_postOrder shallow fibers.isHostNode
    rw [cleaned]
    refine ⟨⟨_, lists⟩, ?_⟩
    intro oneParent
    exact eachOnce_of_lists lists
      (.of_shallow shallow cleanupChildren_nodup oneParent)

section Sample

/-- A root whose deletion list has a host component and, when asked for, its child too. -/
def sampleDeletionArena (deletesChild : Bool) : FiberArena :=
  stateAfter
    ((do
      let root ← createFiber .hostRoot none .none FiberMode.no
      let component ← createFiber .hostComponent none .none FiberMode.no
      let text ← createFiber .hostText none .none FiberMode.no
      setChildren root [component]
      setChildren component [text]
      let _ ← markChildForDeletion root component
      if deletesChild then
        let _ ← markChildForDeletion root text : FiberArenaM Unit).run .new)

def sampleDeletionFibers (deletesChild : Bool) : HostFibers where
  arena := sampleDeletionArena deletesChild
  stateNode := fun fiber => ⟨fiber.slot + 1⟩
  subtreeFlags := fun _ => FiberFlags.no
  memoizedProps := fun _ => .none

def sampleCleanup (deletesChild : Bool) :
    Except HostMutationError (List PendingHostRootDeletionCleanupRecord) := do
  let deletionLists ← (sampleDeletionFibers deletesChild).collectDeletionListMetadata ⟨0, 0⟩
  (sampleDeletionFibers deletesChild).collectPendingHostNodeDeletionCleanup ⟨0, 0⟩ ⟨0, 0⟩
    deletionLists

theorem sampleDeletion_oneParent :
    OneParentEach (sampleDeletionFibers false).cleanupChildren ⟨1, 0⟩ := by
  have component : (sampleDeletionFibers false).cleanupChildren ⟨1, 0⟩ = [⟨2, 0⟩] := by
    decide +kernel
  have text : (sampleDeletionFibers false).cleanupChildren ⟨2, 0⟩ = [] := by decide +kernel
  have onlyComponent : ∀ parent child,
      Below (sampleDeletionFibers false).cleanupChildren ⟨1, 0⟩ parent →
      child ∈ (sampleDeletionFibers false).cleanupChildren parent → parent = ⟨1, 0⟩ := by
    intro parent child isBelow isChild
    rw [below_iff, component, exists_mem_cons_iff, below_iff, text] at isBelow
    rcases isBelow with isComponent | (isText | below) | below
    · exact isComponent
    · rw [isText, text] at isChild
      cases isChild
    · obtain ⟨_, impossible, -⟩ := below
      cases impossible
    · obtain ⟨_, impossible, -⟩ := below
      cases impossible
  intro parent other child isParent isOther isChild isOtherChild
  rw [onlyComponent parent child isParent isChild, onlyComponent other child isOther isOtherChild]

def sampleDeletionList : HostRootDeletionListRecord :=
  ⟨⟨0, 0⟩, ⟨0⟩, [⟨1, 0⟩]⟩

def sampleDeletionRecords : List PendingHostRootDeletionCleanupRecord :=
  ((sampleDeletionFibers false).collectPendingHostNodeDeletionCleanup ⟨0, 0⟩ ⟨0, 0⟩
    [sampleDeletionList]).toOption.getD []

theorem sampleDeletionRecords_ok :
    (sampleDeletionFibers false).collectPendingHostNodeDeletionCleanup ⟨0, 0⟩ ⟨0, 0⟩
      [sampleDeletionList] = .ok sampleDeletionRecords := by
  decide +kernel

/-- A deleted host component with its text. -/
theorem deletion_traversals_agree_sample :
    (sampleDeletionFibers false).EachOnceDescendantsFirst ⟨1, 0⟩
      (cleanedFibers sampleDeletionRecords 0 0) :=
  ((deletion_traversals_agree _ ⟨0, 0⟩ ⟨0, 0⟩ [sampleDeletionList]).2 sampleDeletionRecords
    sampleDeletionRecords_ok 0 0 sampleDeletionList ⟨1, 0⟩ rfl rfl).2 sampleDeletion_oneParent

/-- A fiber that is deleted along with its parent is cleaned up twice, once behind the parent. -/
theorem nested_deletion_cleaned_up_twice :
    (sampleCleanup true).map (fun records => records.map (·.fiber)) =
      .ok [⟨2, 0⟩, ⟨1, 0⟩, ⟨2, 0⟩] := by
  decide +kernel

end Sample

end FastReact
