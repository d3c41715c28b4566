import FastReact.HostChildPlacement

namespace FastReact

open ChildPlacement ErrorState HostFibers LinkWalk List PostOrder

/-!
# Function components among the children of a container

A child of the root that is a function component stands for its host child.  Its placement
always goes to the end of the container, and the placement of a host child before a function
component is blocked.  So the container ends up in the order of the finished tree just when
no placement runs into this, and the host nodes of deleted function components stay.
-/

namespace HostFibers

variable {fibers : HostFibers} {root : FiberRootId} {hostRoot child host : FiberId} {lanes : Lanes}

structure HasHostChild (fibers : HostFibers) (component host : FiberId) : Prop where
  isFunction : fibers.tag? component = some .functionComponent
  onlyChild : fibers.finishedChildren component = [host]
  isHost : fibers.isHostChild host = true

/-- The host fibers of a container in depth-first order, those below function components
included. -/
def containerHosts (fibers : HostFibers) (hostRoot : FiberId) : List FiberId :=
  (fibers.finishedChildren hostRoot).flatMap fun child =>
    if fibers.isHostChild child then [child] else fibers.finishedChildren child

def containerNodes (fibers : HostFibers) (hostRoot : FiberId) : List StateNodeHandle :=
  (fibers.containerHosts hostRoot).map fibers.stateNode

def stableContainerNodes (fibers : HostFibers) (hostRoot : FiberId) : List StateNodeHandle :=
  ((fibers.containerHosts hostRoot).filter fun host => !fibers.isPlaced host).map fibers.stateNode

/-- The fibers whose deleted host children are taken out of a container. -/
def containerOwners (fibers : HostFibers) (hostRoot : FiberId) : List FiberId :=
  hostRoot :: (fibers.finishedChildren hostRoot).filter fun child =>
    fibers.tag? child = some .functionComponent

/-- The host nodes that were deleted from a container themselves. -/
def removedContainerNodes (fibers : HostFibers) (hostRoot : FiberId) : List StateNodeHandle :=
  (fibers.containerOwners hostRoot).flatMap fibers.removedNodes

/-- The children of a root are host fibers and function components with a single host child
each; their host nodes differ, and none that stays was deleted. -/
structure ContainerChildren (fibers : HostFibers) (hostRoot : FiberId) : Prop where
  mixed : ∀ child ∈ fibers.finishedChildren hostRoot,
    fibers.isHostChild child = true ∨ ∃ host, fibers.HasHostChild child host
  named : ∀ host ∈ fibers.containerHosts hostRoot, (fibers.stateNode host).isNone = false
  distinct : (fibers.containerNodes hostRoot).Nodup
  kept : ∀ node ∈ fibers.stableContainerNodes hostRoot,
    node ∉ fibers.removedContainerNodes hostRoot

/-- A list of host nodes has those that stay, in the order of the finished tree. -/
structure OldContainer (fibers : HostFibers) (hostRoot : FiberId)
    (old : List StateNodeHandle) : Prop where
  distinct : old.Nodup
  surviving : old.filter (· ∈ fibers.stableContainerNodes hostRoot) =
    fibers.stableContainerNodes hostRoot

def hostFiber (fibers : HostFibers) (child : FiberId) : FiberId :=
  if fibers.isHostChild child then child else (fibers.finishedChildren child).headD child

structure PlacesInOrder (fibers : HostFibers) (hostRoot : FiberId) : Prop where
  unblocked : ∀ before child behind,
    fibers.finishedChildren hostRoot = before ++ child :: behind →
    fibers.isPlacedHost child = true → ∀ sibling,
    behind.find? (fun other => !fibers.isPlacedHost other) = some sibling →
    fibers.isHostChild sibling = true
  appended : ∀ before component behind host,
    fibers.finishedChildren hostRoot = before ++ component :: behind →
    fibers.HasHostChild component host → fibers.isPlaced host = true →
    ∀ other ∈ behind, fibers.isPlaced (fibers.hostFiber other) = true

theorem HasHostChild.isHostChild_eq (has : fibers.HasHostChild child host) :
    fibers.isHostChild child = false := by
  rw [Bool.eq_false_iff]
  intro isHost
  exact tag?_ne_functionComponent isHost has.isFunction

theorem HasHostChild.hostFiber_eq (has : fibers.HasHostChild child host) :
    fibers.hostFiber child = host := by
  rw [hostFiber, has.isHostChild_eq, if_neg Bool.false_ne_true, has.onlyChild]
  rfl

theorem hostFiber_of_host (isHost : fibers.isHostChild child = true) :
    fibers.hostFiber child = child :=
  if_pos isHost

def containerPlacementRecords (fibers : HostFibers) (root : FiberRootId) (hostRoot : FiberId)
    (lanes : Lanes) (child : FiberId) :
    Except HostMutationError (List HostRootMutationPhaseRecord) :=
  if fibers.isHostChild child then
    fibers.placementPhaseRecord root hostRoot lanes hostRoot child
  else
    fibers.collectFunctionComponentSingleHostChildPlacementPhaseRecord root hostRoot lanes child

section Log

variable (tree : fibers.FinishedTree hostRoot) (gathered : fibers.Gathered hostRoot)
include tree gathered

theorem functionComponentPlacement_eq (isBelow : Below fibers.finishedChildren hostRoot child)
    (has : fibers.HasHostChild child host) :
    fibers.collectFunctionComponentSingleHostChildPlacementPhaseRecord root hostRoot lanes child =
      if fibers.isPlaced host then
        (fun record => [record]) <$>
          fibers.hostRootMutationPhaseRecord root hostRoot hostRoot host .placement lanes
      else
        .ok [] := by
  obtain ⟨node, resolved, isTag⟩ := Option.map_eq_some_iff.mp has.isFunction
  have walk := walk_of_childIds (gathered child isBelow) resolved
  have isChild : host ∈ fibers.finishedChildren child := by simp [has.onlyChild]
  rw [has.onlyChild] at walk
  obtain ⟨isFirst, isLast⟩ := walk
  obtain ⟨hostNode, hostResolved⟩ := isLive_of_finishedChildren isChild
  rw [FiberArena.sibling?_of_get? hostResolved] at isLast
  have noSibling : hostNode.sibling = none := isLast
  have isHost := has.isHost
  rw [isHostChild, hostResolved, Option.any_some] at isHost
  have isPlacedHost : fibers.isPlaced host = hostNode.isPlaced := by
    rw [isPlaced, hostResolved, Option.any_some]
  rw [collectFunctionComponentSingleHostChildPlacementPhaseRecord, get_eq_ok_iff.mpr resolved,
    isPlacedHost]
  cases placed : hostNode.isPlaced with
  | true =>
    have asked : (fibers.subtreeFlags child).containsAll FiberFlags.placement = true :=
      FiberFlags.containsAll_placement_of_merge (tree.bubbled isBelow isChild hostResolved)
        (.inl placed)
    simp only [bind, Except.bind, isTag, asked, isFirst, get_eq_ok_iff.mpr hostResolved, noSibling,
      isHost, placed]
    cases fibers.hostRootMutationPhaseRecord root hostRoot hostRoot host .placement lanes with
    | error error => rfl
    | ok record => rfl
  | false =>
    simp only [bind, Except.bind, isFirst, get_eq_ok_iff.mpr hostResolved, noSibling, placed]
    split
    · rfl
    · simp [pure, Except.pure]

theorem filter_rootChildRecords_of_function {records : List HostRootMutationPhaseRecord}
    (isChild : child ∈ fibers.finishedChildren hostRoot) (has : fibers.HasHostChild child host)
    (ran : fibers.collectRootChildPhaseRecords root hostRoot lanes child = .ok records) :
    fibers.collectFunctionComponentSingleHostChildPlacementPhaseRecord root hostRoot lanes child =
      .ok (records.filter (·.places hostRoot)) := by
  obtain ⟨own, functionComponentChild, placements, ranOwn, isFunction, arePlacements, isKept⟩ :=
    filter_rootChildRecords ran
  have isBelow := (Below.refl hostRoot).step isChild
  have noOwn : own = [] := by
    have recorded := placementPhaseRecord_eq_ok ranOwn
    rwa [has.isHostChild_eq, Bool.false_and, if_neg Bool.false_ne_true] at recorded
  have noPlacement : placements = [] := by
    have recorded := componentPlacements_eq_ok (gathered child isBelow) arePlacements
    rwa [has.isFunction, if_neg (by decide)] at recorded
  have ownChild : functionComponentChild.filter (·.places hostRoot) = functionComponentChild := by
    rw [functionComponentPlacement_eq tree gathered isBelow has] at isFunction
    split at isFunction
    · cases recorded : fibers.hostRootMutationPhaseRecord root hostRoot hostRoot host .placement
          lanes with
      | error error =>
        rw [recorded] at isFunction
        cases isFunction
      | ok record =>
        rw [recorded] at isFunction
        cases isFunction
        obtain ⟨isParent, -, isPlacement, -⟩ := hostRootMutationPhaseRecord_eq_ok recorded
        simp [HostRootMutationPhaseRecord.places, isParent, isPlacement]
    · cases isFunction
      rfl
  rw [isKept hostRoot, noOwn, noPlacement, ownChild, filter_nil, nil_append, append_nil]
  exact isFunction

/-- The placements that a commit logs below the root are those of its children. -/
theorem filter_containerLog {log : List HostRootMutationPhaseRecord}
    (mixed : ∀ child ∈ fibers.finishedChildren hostRoot,
      fibers.isHostChild child = true ∨ ∃ host, fibers.HasHostChild child host)
    (ran : fibers.collectHostRootMutationPhaseLog root hostRoot lanes = .ok log) :
    ∃ blocks,
      (fibers.finishedChildren hostRoot).mapM
        (fibers.containerPlacementRecords root hostRoot lanes) = .ok blocks ∧
      log.filter (·.places hostRoot) = blocks.flatten := by
  obtain ⟨finishedRoot, got, ranChildren⟩ := bind_eq_ok_iff.mp ran
  by_cases quiet : (fibers.subtreeFlags hostRoot).hasMutationEffects = true
  · rw [quiet] at ranChildren
    obtain ⟨blocks, visited, rfl⟩ := collectSiblings_eq_ok
      (walk_of_childIds (gathered hostRoot (.refl hostRoot)) (get_eq_ok_iff.mp got)) ranChildren
    apply filter_flatten_of_mapM_ok visited
    intro child isChild block ranChild
    rw [containerPlacementRecords]
    rcases mixed child isChild with isHost | ⟨host, has⟩
    · rw [if_pos isHost]
      exact filter_rootChildRecords_of_host tree gathered isChild isHost ranChild
    · rw [if_neg (by rw [has.isHostChild_eq]; decide)]
      exact filter_rootChildRecords_of_function tree gathered isChild has ranChild
  · rw [Bool.eq_false_of_not_eq_true quiet] at ranChildren
    cases ranChildren
    obtain ⟨blocks, visited, areEmpty⟩ : ∃ blocks, (fibers.finishedChildren hostRoot).mapM
        (fibers.containerPlacementRecords root hostRoot lanes) = .ok blocks ∧
        ∀ block ∈ blocks, block = [] := by
      apply mapM_ok_of_forall
      intro child isChild
      refine ⟨[], ?_, rfl⟩
      have isBelow := (Below.refl hostRoot).step isChild
      rw [containerPlacementRecords]
      rcases mixed child isChild with isHost | ⟨host, has⟩
      · rw [if_pos isHost]
        exact placementPhaseRecord_of_unplaced isChild
          (tree.isPlaced_eq_false quiet (.refl hostRoot) isChild)
      · have unplaced := tree.isPlaced_eq_false quiet isBelow
          (show host ∈ fibers.finishedChildren child by simp [has.onlyChild])
        rw [if_neg (by rw [has.isHostChild_eq]; decide),
          functionComponentPlacement_eq tree gathered isBelow has, unplaced]
        rfl
    exact ⟨blocks, visited, (flatten_eq_nil_iff.mpr areEmpty).symm⟩

end Log

/-- The host node that a child of the root stands for. -/
def containerNode (fibers : HostFibers) (child : FiberId) : StateNodeHandle :=
  fibers.stateNode (fibers.hostFiber child)

/-- What the placements of a child of the root do to the host nodes of the container. -/
def containerStep (fibers : HostFibers) (child : FiberId) (behind : List FiberId)
    (nodes : List StateNodeHandle) : Option (List StateNodeHandle) :=
  if fibers.isPlaced (fibers.hostFiber child) = false then
    some nodes
  else if fibers.isHostChild child = false then
    some (ChildPlacement.append (fibers.containerNode child) nodes)
  else
    (behind.find? fun other => !fibers.isPlacedHost other).elim
      (some (ChildPlacement.append (fibers.containerNode child) nodes))
      fun sibling =>
        if fibers.isHostChild sibling then
          ChildPlacement.insertBefore (fibers.containerNode child) (fibers.containerNode sibling) nodes
        else
          some nodes

section Children

variable (tree : fibers.FinishedTree hostRoot) (gathered : fibers.Gathered hostRoot)
  (children : fibers.ContainerChildren hostRoot)
include children

theorem containerHosts_eq :
    fibers.containerHosts hostRoot = (fibers.finishedChildren hostRoot).map fibers.hostFiber := by
  rw [containerHosts, ← flatMap_singleton' ((fibers.finishedChildren hostRoot).map _), flatMap_map]
  apply flatMap_congr
  intro child isChild
  rcases children.mixed child isChild with isHost | ⟨host, has⟩
  · rw [if_pos isHost, hostFiber_of_host isHost]
  · rw [if_neg (by rw [has.isHostChild_eq]; decide), has.hostFiber_eq, has.onlyChild]

theorem containerNodes_eq :
    fibers.containerNodes hostRoot = (fibers.finishedChildren hostRoot).map fibers.containerNode := by
  rw [containerNodes, containerHosts_eq children, map_map]
  rfl

theorem named_containerNode (isChild : child ∈ fibers.finishedChildren hostRoot) :
    (fibers.containerNode child).isNone = false := by
  apply children.named
  rw [containerHosts_eq children]
  exact mem_map_of_mem isChild

theorem mem_stableContainerNodes_iff (isChild : child ∈ fibers.finishedChildren hostRoot) :
    fibers.containerNode child ∈ fibers.stableContainerNodes hostRoot ↔
      fibers.isPlaced (fibers.hostFiber child) = false := by
  have isHost : fibers.hostFiber child ∈ fibers.containerHosts hostRoot := by
    rw [containerHosts_eq children]
    exact mem_map_of_mem isChild
  rw [containerNode, stableContainerNodes,
    mem_selected_iff children.distinct isHost, Bool.not_eq_true']

include tree gathered

variable {before behind : List FiberId} {nodes after : List StateNodeHandle}

/-- The records of a child of the root do what the step of the child does. -/
theorem foldlM_containerRecords {block : List HostRootMutationPhaseRecord}
    (shape : fibers.finishedChildren hostRoot = before ++ child :: behind)
    (ran : fibers.containerPlacementRecords root hostRoot lanes child = .ok block)
    (nodes : List StateNodeHandle) :
    block.foldlM (fun nodes record => record.applyPlacement nodes) nodes =
      fibers.containerStep child behind nodes := by
  have isChild : child ∈ fibers.finishedChildren hostRoot := by simp [shape]
  have isBelow := (Below.refl hostRoot).step isChild
  have single : ∀ record : HostRootMutationPhaseRecord,
      [record].foldlM (fun nodes record => record.applyPlacement nodes) nodes =
        record.applyPlacement nodes := by
    simp
  rw [containerPlacementRecords] at ran
  rw [containerStep]
  rcases children.mixed child isChild with isHost | ⟨host, has⟩
  · rw [if_pos isHost] at ran
    have recorded := placementPhaseRecord_eq_ok ran
    rw [isHost, Bool.true_and] at recorded
    rw [containerNode, hostFiber_of_host isHost]
    cases placed : fibers.isPlaced child with
    | false =>
      rw [if_neg (Bool.eq_false_iff.mp placed)] at recorded
      rw [recorded, if_pos rfl]
      rfl
    | true =>
      rw [if_pos placed] at recorded
      obtain ⟨record, ranRecord, rfl⟩ := recorded
      obtain ⟨rootNode, rootResolved, -⟩ := Option.map_eq_some_iff.mp tree.isHostRoot
      have walk : IsWalk fibers.arena.sibling? (fibers.arena.sibling? child) behind := by
        have all := walk_of_childIds (gathered hostRoot (.refl hostRoot)) rootResolved
        rw [shape] at all
        exact all.of_append
      have applied := applyPlacement_eq tree .hostRoot walk ranRecord nodes
      rw [single, if_neg (by decide), if_neg (by rw [isHost]; decide)]
      cases first : behind.find? fun other => !fibers.isPlacedHost other with
      | none =>
        rw [first, Option.elim_none] at applied
        exact applied
      | some sibling =>
        rw [first, Option.elim_some] at applied
        have isSibling : sibling ∈ fibers.finishedChildren hostRoot := by
          simp [shape, mem_of_find?_eq_some first]
        have isNamed := named_containerNode children isSibling
        rw [Option.elim_some]
        cases siblingHost : fibers.isHostChild sibling with
        | true =>
          rw [containerNode, hostFiber_of_host siblingHost] at isNamed ⊢
          rw [if_pos rfl]
          exact applied.1 siblingHost isNamed
        | false =>
          rw [if_neg (by decide)]
          exact applied.2 siblingHost
  · rw [if_neg (by rw [has.isHostChild_eq]; decide),
      functionComponentPlacement_eq tree gathered isBelow has] at ran
    rw [containerNode, has.hostFiber_eq]
    cases placed : fibers.isPlaced host with
    | false =>
      rw [placed, if_neg (by decide)] at ran
      cases ran
      rw [if_pos rfl]
      rfl
    | true =>
      rw [placed, if_pos rfl] at ran
      obtain ⟨record, ranRecord, rfl⟩ : ∃ record,
          fibers.hostRootMutationPhaseRecord root hostRoot hostRoot host .placement lanes =
            .ok record ∧ block = [record] := by
        cases recorded : fibers.hostRootMutationPhaseRecord root hostRoot hostRoot host .placement
            lanes with
        | error error =>
          rw [recorded] at ran
          cases ran
        | ok record =>
          rw [recorded] at ran
          exact ⟨record, rfl, (Except.ok.inj ran).symm⟩
      obtain ⟨node, resolved, -⟩ := Option.map_eq_some_iff.mp has.isFunction
      have walk := walk_of_childIds (gathered child isBelow) resolved
      rw [has.onlyChild] at walk
      rw [single, if_neg (by decide), if_pos has.isHostChild_eq]
      exact applyPlacement_eq tree .hostRoot walk.2 ranRecord nodes

omit gathered in
/-- Function components pass the deletions of their host children on to the root. -/
theorem deletionOwners_of_container :
    fibers.DeletionOwners hostRoot hostRoot (fibers.containerOwners hostRoot) where
  self := mem_cons_self
  below := by
    refine forall_mem_cons.mpr ⟨.refl hostRoot, fun owner member => ?_⟩
    exact (Below.refl hostRoot).step (mem_of_mem_filter member)
  finds := by
    obtain ⟨rootNode, rootResolved, isTag⟩ := Option.map_eq_some_iff.mp tree.isHostRoot
    refine forall_mem_cons.mpr ⟨?_, fun owner member => ?_⟩
    · exact ⟨_, findHostParentForDeletion_of_host rootResolved (.inl isTag), rfl, .inl isTag⟩
    · obtain ⟨isChild, isFunction⟩ := mem_filter.mp member
      obtain ⟨node, resolved, isFunctionTag⟩ :=
        Option.map_eq_some_iff.mp (of_decide_eq_true isFunction)
      have returns := tree.returns (.refl hostRoot) isChild
      rw [FiberArena.returnFiber?_of_get? resolved] at returns
      have slots := SlotArena.length_le_of_nodup (nodup_singleton hostRoot)
        (forall_mem_singleton.mpr ⟨rootNode, rootResolved⟩)
      obtain ⟨count, isCount⟩ := Nat.exists_eq_add_of_le' slots
      refine ⟨⟨hostRoot, rootNode.tag, fibers.stateNode hostRoot, 1⟩, ?_, rfl, .inl isTag⟩
      rw [findNearestHostParentForDeletion, rounds, isCount,
        findHostParentForDeletion_of_function resolved isFunctionTag returns]
      exact findHostParentForDeletion_of_host rootResolved (.inl isTag)
  passesOn := by
    refine forall_mem_cons.mpr ⟨fun child isChild isFunction => ?_, fun owner member => ?_⟩
    · exact mem_cons_of_mem _ (mem_filter.mpr ⟨isChild, decide_eq_true isFunction⟩)
    · intro child isChild isFunction
      obtain ⟨isOwner, ownerFunction⟩ := mem_filter.mp member
      rcases children.mixed owner isOwner with isHost | ⟨host, has⟩
      · exact absurd (of_decide_eq_true ownerFunction) (tag?_ne_functionComponent isHost)
      · rw [has.onlyChild, mem_singleton] at isChild
        rw [isChild] at isFunction
        exact absurd isFunction (tag?_ne_functionComponent has.isHost)

omit gathered in
/-- A commit takes the deleted host nodes out of the container and then goes through the
children of the root. -/
theorem applyHostMutations_eq_runSteps {log : List HostRootMutationApplyRecord}
    {old : List StateNodeHandle} (ran : fibers.hostRootMutations root hostRoot lanes = .ok log)
    (distinct : old.Nodup) :
    applyHostMutations hostRoot log old =
      runSteps fibers.containerStep (fibers.finishedChildren hostRoot)
        (old.filter (· ∉ fibers.removedContainerNodes hostRoot)) := by
  obtain ⟨mutationLog, logged, ranLists⟩ := bind_eq_ok_iff.mp ran
  obtain ⟨lists, listed, ranApply⟩ := bind_eq_ok_iff.mp ranLists
  obtain ⟨deletions, ranDeletions, ranMutations⟩ := bind_eq_ok_iff.mp ranApply
  obtain ⟨mutations, asked, finished⟩ := bind_eq_ok_iff.mp ranMutations
  cases finished
  have gathered : fibers.Gathered hostRoot :=
    (collectDeletionLists_eq_ok listed).1 hostRoot mem_cons_self
  obtain ⟨blocks, ranBlocks, arePlacements⟩ :=
    filter_containerLog tree gathered children.mixed logged
  rw [applyHostMutations, filter_append, foldlM_append,
    foldlM_deletions tree (deletionOwners_of_container tree children) listed ranDeletions distinct]
  change (mutations.filter (·.parent = hostRoot)).foldlM _ _ = _
  rw [foldlM_placements asked, arePlacements]
  exact foldlM_eq_runSteps ranBlocks (fun before child behind block shape listed =>
    foldlM_containerRecords tree gathered children shape listed) _

omit tree gathered

theorem placedHost_moves (isChild : child ∈ fibers.finishedChildren hostRoot)
    (placedHost : fibers.isPlacedHost child = true) :
    fibers.containerNode child ∉ fibers.stableContainerNodes hostRoot := by
  obtain ⟨isHost, placed⟩ := Bool.and_eq_true_iff.mp placedHost
  rw [mem_stableContainerNodes_iff children isChild, hostFiber_of_host isHost, placed]
  decide

theorem containerStep_eq_place (inOrder : fibers.PlacesInOrder hostRoot)
    (shape : fibers.finishedChildren hostRoot = before ++ child :: behind)
    (nodes : List StateNodeHandle) :
    fibers.containerStep child behind nodes =
      if fibers.containerNode child ∈ fibers.stableContainerNodes hostRoot then some nodes
      else place (· ∈ fibers.stableContainerNodes hostRoot)
        (fibers.containerNode child) (behind.map fibers.containerNode) nodes := by
  have isChild : child ∈ fibers.finishedChildren hostRoot := by simp [shape]
  have areChildren : ∀ other ∈ behind, other ∈ fibers.finishedChildren hostRoot := by
    intro other member
    simp [shape, member]
  have stays_iff := mem_stableContainerNodes_iff children isChild
  cases placed : fibers.isPlaced (fibers.hostFiber child) with
  | false => rw [containerStep, if_pos placed, if_pos (stays_iff.mpr placed)]
  | true =>
    have moves : fibers.containerNode child ∉ fibers.stableContainerNodes hostRoot := by
      rw [stays_iff, placed]
      decide
    rw [containerStep, placed, if_neg (by decide), if_neg moves, place]
    rcases children.mixed child isChild with isHost | ⟨host, has⟩
    · have placedHost : fibers.isPlacedHost child = true := by
        rw [hostFiber_of_host isHost] at placed
        rw [isPlacedHost, isHost, placed]
        rfl
      rw [if_neg (by rw [isHost]; decide)]
      cases first : behind.find? fun other => !fibers.isPlacedHost other with
      | none =>
        have noneStays : (behind.map fibers.containerNode).find?
            (· ∈ fibers.stableContainerNodes hostRoot) = none := by
          rw [find?_eq_none] at first ⊢
          intro node member
          obtain ⟨other, isBehind, rfl⟩ := mem_map.mp member
          have otherPlaced := first other isBehind
          simpa using placedHost_moves children (areChildren other isBehind) (by simpa using otherPlaced)
        rw [noneStays]
        rfl
      | some sibling =>
        have siblingHost := inOrder.unblocked before child behind shape placedHost sibling first
        obtain ⟨unplaced, skipped, others, split, areSkipped⟩ := find?_eq_some_iff_append.mp first
        have isSibling := areChildren sibling (mem_of_find?_eq_some first)
        have siblingStays : fibers.containerNode sibling ∈
            fibers.stableContainerNodes hostRoot := by
          rw [mem_stableContainerNodes_iff children isSibling, hostFiber_of_host siblingHost]
          simpa [isPlacedHost, siblingHost] using unplaced
        have firstStays : (behind.map fibers.containerNode).find?
            (· ∈ fibers.stableContainerNodes hostRoot) = some (fibers.containerNode sibling) := by
          rw [find?_eq_some_iff_append]
          refine ⟨decide_eq_true siblingStays, skipped.map fibers.containerNode,
            others.map fibers.containerNode, by simp [split], ?_⟩
          intro node member
          obtain ⟨other, isSkipped, rfl⟩ := mem_map.mp member
          have isOther := areChildren other (by simp [split, isSkipped])
          simpa using placedHost_moves children isOther (by simpa using areSkipped other isSkipped)
        rw [firstStays, Option.elim_some, if_pos siblingHost]
    · rw [if_pos has.isHostChild_eq]
      have noneStays : (behind.map fibers.containerNode).find?
          (· ∈ fibers.stableContainerNodes hostRoot) = none := by
        rw [find?_eq_none]
        intro node member
        obtain ⟨other, isBehind, rfl⟩ := mem_map.mp member
        rw [has.hostFiber_eq] at placed
        have otherPlaced := inOrder.appended before child behind host shape has placed other isBehind
        simp [mem_stableContainerNodes_iff children (areChildren other isBehind), otherPlaced]
      rw [noneStays]

theorem filter_stableContainerNodes :
    (fibers.containerNodes hostRoot).filter (· ∈ fibers.stableContainerNodes hostRoot) =
      fibers.stableContainerNodes hostRoot :=
  filter_selected children.distinct

/-- Placing all children of the root among the nodes that were not deleted puts their nodes in
order and leaves the others alone. -/
theorem placeAll_container {old : List StateNodeHandle} (isOld : fibers.OldContainer hostRoot old) :
    ∃ after,
      placeAll (· ∈ fibers.stableContainerNodes hostRoot)
        (fibers.containerNodes hostRoot)
        (old.filter (· ∉ fibers.removedContainerNodes hostRoot)) = some after ∧
      after.filter (· ∈ fibers.containerNodes hostRoot) = fibers.containerNodes hostRoot ∧
      after.filter (· ∉ fibers.containerNodes hostRoot) =
        old.filter fun node => node ∉ fibers.containerNodes hostRoot ∧
          node ∉ fibers.removedContainerNodes hostRoot := by
  have stableIsNode : ∀ node ∈ fibers.stableContainerNodes hostRoot,
      node ∈ fibers.containerNodes hostRoot := by
    intro node stays
    obtain ⟨host, member, isNode⟩ := mem_map.mp stays
    exact mem_map.mpr ⟨host, mem_of_mem_filter member, isNode⟩
  have staying : ((old.filter (· ∉ fibers.removedContainerNodes hostRoot)).filter
      (· ∈ fibers.containerNodes hostRoot)).filter (· ∈ fibers.stableContainerNodes hostRoot) =
      (fibers.containerNodes hostRoot).filter (· ∈ fibers.stableContainerNodes hostRoot) := by
    rw [filter_stableContainerNodes children, ← isOld.surviving, filter_filter, filter_filter]
    apply filter_congr
    intro node _
    rw [isOld.surviving, Bool.eq_iff_iff]
    simp only [Bool.and_eq_true, decide_eq_true_iff]
    exact ⟨fun selected => selected.1.1, fun stays =>
      ⟨⟨stays, stableIsNode node stays⟩, children.kept node stays⟩⟩
  obtain ⟨after, isAfter, -, inOrder, others⟩ := placeAll_eq children.distinct
    (isOld.distinct.filter _) staying
  refine ⟨after, isAfter, inOrder, ?_⟩
  rw [others, filter_filter]
  apply filter_congr
  intro node _
  rw [Bool.eq_iff_iff]
  simp only [Bool.and_eq_true, decide_eq_true_iff]

omit children in
theorem containerStep_cases {behind : List FiberId}
    (stepped : fibers.containerStep child behind nodes = some after) :
    after = nodes ∨ fibers.isPlaced (fibers.hostFiber child) = true ∧
      ChildPlacement.Moves (fibers.containerNode child) nodes after := by
  unfold containerStep at stepped
  split at stepped
  · cases stepped
    exact .inl rfl
  · rename_i placed
    rw [Bool.not_eq_false] at placed
    split at stepped
    · cases stepped
      exact .inr ⟨placed, moves_append⟩
    · cases first : behind.find? fun other => !fibers.isPlacedHost other with
      | none =>
        rw [first, Option.elim_none] at stepped
        cases stepped
        exact .inr ⟨placed, moves_append⟩
      | some sibling =>
        rw [first, Option.elim_some] at stepped
        split at stepped
        · exact .inr ⟨placed, moves_insertBefore stepped⟩
        · cases stepped
          exact .inl rfl

theorem containerNode_inj {other : FiberId} (isChild : child ∈ fibers.finishedChildren hostRoot)
    (isOther : other ∈ fibers.finishedChildren hostRoot)
    (same : fibers.containerNode child = fibers.containerNode other) : child = other := by
  have distinct := children.distinct
  rw [containerNodes_eq children] at distinct
  exact inj_on_of_nodup_map distinct isChild isOther same

/-- A run through some children of the root leaves the nodes of others alone, and of those that
are not placed. -/
theorem frame_of_containerSteps
    {step : FiberId → List FiberId → List StateNodeHandle → Option (List StateNodeHandle)}
    {items : List FiberId} {first second : FiberId}
    (isStep : ∀ item behind nodes, ∃ all, step item behind nodes = fibers.containerStep item all nodes)
    (areChildren : ∀ item ∈ items, item ∈ fibers.finishedChildren hostRoot)
    (isFirst : first ∈ fibers.finishedChildren hostRoot)
    (isSecond : second ∈ fibers.finishedChildren hostRoot)
    (firstStays : first ∈ items → fibers.isPlaced (fibers.hostFiber first) = false)
    (secondStays : second ∈ items → fibers.isPlaced (fibers.hostFiber second) = false)
    (ran : runSteps step items nodes = some after) :
    (fibers.containerNode first ∈ after ↔ fibers.containerNode first ∈ nodes) ∧
      ([fibers.containerNode first, fibers.containerNode second].Sublist nodes →
        [fibers.containerNode first, fibers.containerNode second].Sublist after) := by
  refine runSteps_frame (fun item member behind between moved stepped => ?_) ran
  obtain ⟨all, isContainerStep⟩ := isStep item behind between
  rw [isContainerStep] at stepped
  have other : ∀ {fiber}, fiber ∈ fibers.finishedChildren hostRoot →
      (fiber ∈ items → fibers.isPlaced (fibers.hostFiber fiber) = false) →
      fibers.isPlaced (fibers.hostFiber item) = true →
      fibers.containerNode fiber ≠ fibers.containerNode item := by
    intro fiber isFiber stays placed same
    have isItem := containerNode_inj children isFiber (areChildren item member) same
    rw [← isItem, stays (isItem ▸ member)] at placed
    cases placed
  rcases containerStep_cases stepped with same | ⟨placed, moves⟩
  · exact .inl same
  · exact .inr ⟨_, moves, other isFirst firstStays placed, other isSecond secondStays placed⟩

omit children in
theorem splitRun (shape : fibers.finishedChildren hostRoot = before ++ child :: behind)
    (ran : runSteps fibers.containerStep (fibers.finishedChildren hostRoot) nodes = some after) :
    (runSteps (fun item inner => fibers.containerStep item (inner ++ child :: behind))
      before nodes).bind (runSteps fibers.containerStep (child :: behind)) = some after := by
  rwa [shape, runSteps_append] at ran

omit children in
theorem notMem_of_middle (distinct : (before ++ child :: behind).Nodup) :
    child ∉ before ∧ child ∉ behind := by
  have notMem := (nodup_cons.mp (nodup_middle.mp distinct)).1
  rwa [mem_append, not_or] at notMem

/-- When a run from the nodes that stay ends in order, no placement met a function component. -/
theorem placesInOrder_of_run {after : List StateNodeHandle}
    (ran : runSteps fibers.containerStep (fibers.finishedChildren hostRoot)
      (fibers.stableContainerNodes hostRoot) = some after)
    (ordered : after.filter (· ∈ fibers.containerNodes hostRoot) = fibers.containerNodes hostRoot) :
    fibers.PlacesInOrder hostRoot where
  unblocked := by
    intro before child behind shape placedHost sibling first
    by_contra siblingOther
    have isChild : child ∈ fibers.finishedChildren hostRoot := by simp [shape]
    have distinct : (before ++ child :: behind).Nodup := shape ▸ finishedChildren_nodup hostRoot
    obtain ⟨isHost, placed⟩ := Bool.and_eq_true_iff.mp placedHost
    obtain ⟨notBefore, notBehind⟩ := notMem_of_middle distinct
    obtain ⟨between, ranBefore, ranRest⟩ := Option.bind_eq_some_iff.mp (splitRun shape ran)
    obtain ⟨same, stepped, ranBehind⟩ := Option.bind_eq_some_iff.mp ranRest
    have blocked : same = between := by
      rw [containerStep, hostFiber_of_host isHost, placed, isHost, first, Option.elim_some,
        if_neg siblingOther] at stepped
      exact (Option.some.inj stepped).symm
    rw [blocked] at ranBehind
    -- No step moves the node of the child, so that it is missing in the end.
    have frameBefore := (frame_of_containerSteps children (fun item behind' nodes => ⟨_, rfl⟩)
      (fun item member => by simp [shape, member]) isChild isChild
      (fun member => absurd member notBefore) (fun member => absurd member notBefore) ranBefore).1
    have frameBehind := (frame_of_containerSteps children (fun item behind' nodes => ⟨_, rfl⟩)
      (fun item member => by simp [shape, member]) isChild isChild
      (fun member => absurd member notBehind) (fun member => absurd member notBehind) ranBehind).1
    have isNode : fibers.containerNode child ∈ fibers.containerNodes hostRoot := by
      rw [containerNodes_eq children]
      exact mem_map_of_mem isChild
    rw [← ordered] at isNode
    exact placedHost_moves children isChild placedHost
      (frameBefore.mp (frameBehind.mp (mem_of_mem_filter isNode)))
  appended := by
    intro before component behind host shape has placed other isBehind
    rw [← Bool.not_eq_false]
    intro unplaced
    have isChild : component ∈ fibers.finishedChildren hostRoot := by simp [shape]
    have isOther : other ∈ fibers.finishedChildren hostRoot := by simp [shape, isBehind]
    have distinct : (before ++ component :: behind).Nodup := shape ▸ finishedChildren_nodup hostRoot
    obtain ⟨notBefore, notBehind⟩ := notMem_of_middle distinct
    have different : fibers.containerNode other ≠ fibers.containerNode component := by
      intro same
      rw [containerNode_inj children isOther isChild same] at isBehind
      exact notBehind isBehind
    obtain ⟨between, ranBefore, ranRest⟩ := Option.bind_eq_some_iff.mp (splitRun shape ran)
    obtain ⟨same, stepped, ranBehind⟩ := Option.bind_eq_some_iff.mp ranRest
    have isAppended : same = append (fibers.containerNode component) between := by
      rw [containerStep, has.hostFiber_eq, placed, if_neg (by decide), if_pos has.isHostChild_eq]
        at stepped
      exact (Option.some.inj stepped).symm
    rw [isAppended] at ranBehind
    -- The node of the other child stays, and the appended one ends up behind it.
    have frameBefore := (frame_of_containerSteps children (fun item behind' nodes => ⟨_, rfl⟩)
      (fun item member => by simp [shape, member]) isOther isOther
      (fun _ => unplaced) (fun _ => unplaced) ranBefore).1
    have isThere : fibers.containerNode other ∈ between :=
      frameBefore.mpr ((mem_stableContainerNodes_iff children isOther).mpr unplaced)
    have frameBehind := (frame_of_containerSteps children (fun item behind' nodes => ⟨_, rfl⟩)
      (fun item member => by simp [shape, member]) isOther isChild
      (fun _ => unplaced) (fun member => absurd member notBehind) ranBehind).2
    have inAfter := (frameBehind (sublist_append isThere different)).filter
      (· ∈ fibers.containerNodes hostRoot)
    have areNodes : ∀ {child}, child ∈ fibers.finishedChildren hostRoot →
        fibers.containerNode child ∈ fibers.containerNodes hostRoot := by
      intro child isChild
      rw [containerNodes_eq children]
      exact mem_map_of_mem isChild
    have bothKept : [fibers.containerNode other, fibers.containerNode component].filter
        (· ∈ fibers.containerNodes hostRoot) =
          [fibers.containerNode other, fibers.containerNode component] := by
      simp [areNodes isOther, areNodes isChild]
    rw [ordered, bothKept, containerNodes_eq children, shape, map_append, map_cons] at inAfter
    have nodesDistinct := children.distinct
    rw [containerNodes_eq children, shape, map_append, map_cons] at nodesDistinct
    exact not_sublist_of_behind nodesDistinct (mem_map_of_mem isBehind) inAfter

end Children

end HostFibers

section Sample

/-- A root with a text and a function component whose text is placed, in either order, and a
deleted function component with a text. -/
def sampleContainerArena (placesLast : Bool) : FiberArena :=
  stateAfter
    ((do
      let root ← createFiber .hostRoot none .none FiberMode.no
      let component ← createFiber .functionComponent none .none FiberMode.no
      let placed ← createFiber .hostText none .none FiberMode.no
      let stable ← createFiber .hostText none .none FiberMode.no
      let deleted ← createFiber .functionComponent none .none FiberMode.no
      let deletedText ← createFiber .hostText none .none FiberMode.no
      setChildren component [placed]
      setChildren deleted [deletedText]
      setChildren root (if placesLast then [stable, component, deleted]
        else [component, stable, deleted])
      let _ ← markChildForDeletion root deleted
      modifyFiber placed fun node => { node with flags := FiberFlags.placement } :
        FiberArenaM Unit).run .new)

def sampleContainerFibers (placesLast : Bool) : HostFibers where
  arena := sampleContainerArena placesLast
  stateNode := fun fiber => ⟨fiber.slot + 1⟩
  subtreeFlags := fun fiber =>
    if fiber.slot ∈ [0, 1] then FiberFlags.placement else FiberFlags.no
  memoizedProps := fun _ => .none

def sampleContainerTree : List FiberId :=
  [⟨0, 0⟩, ⟨1, 0⟩, ⟨2, 0⟩, ⟨3, 0⟩]

theorem sampleContainer_finished (placesLast : Bool) :
    (sampleContainerFibers placesLast).FinishedTree ⟨0, 0⟩ := by
  have closed : ∀ placesLast, ∀ parent ∈ sampleContainerTree,
      ∀ child ∈ (sampleContainerFibers placesLast).finishedChildren parent,
        child ∈ sampleContainerTree := by
    decide +kernel
  have inTree : ∀ {fiber : FiberId},
      Below (sampleContainerFibers placesLast).finishedChildren ⟨0, 0⟩ fiber →
        fiber ∈ sampleContainerTree := by
    intro fiber isBelow
    exact isBelow.of_step (by decide) fun parent child _ isChild inTree =>
      closed placesLast parent inTree child isChild
  refine ⟨by cases placesLast <;> decide +kernel, by cases placesLast <;> decide +kernel, ?_, ?_⟩
  · intro parent child isBelow
    have returns : ∀ placesLast, ∀ parent ∈ sampleContainerTree,
        ∀ child ∈ (sampleContainerFibers placesLast).finishedChildren parent,
          (sampleContainerFibers placesLast).arena.returnFiber? child = some parent := by
      decide +kernel
    exact returns placesLast parent (inTree isBelow) child
  · intro parent child node isBelow isChild resolved
    have bubbled : ∀ placesLast, ∀ parent ∈ sampleContainerTree,
        ∀ child ∈ (sampleContainerFibers placesLast).finishedChildren parent,
          ((sampleContainerFibers placesLast).arena.get? child).all (fun node =>
            ((sampleContainerFibers placesLast).subtreeFlags parent).containsAll
              (node.flags.merge ((sampleContainerFibers placesLast).subtreeFlags child))) = true := by
      decide +kernel
    have all := bubbled placesLast parent (inTree isBelow) child isChild
    rwa [resolved] at all

theorem sampleContainer_children (placesLast : Bool) :
    (sampleContainerFibers placesLast).ContainerChildren ⟨0, 0⟩ := by
  have component : ∀ placesLast, (sampleContainerFibers placesLast).HasHostChild ⟨1, 0⟩ ⟨2, 0⟩ :=
    fun placesLast => ⟨by revert placesLast; decide +kernel, by revert placesLast; decide +kernel,
      by revert placesLast; decide +kernel⟩
  have mixed : ∀ placesLast, ∀ child ∈ (sampleContainerFibers placesLast).finishedChildren ⟨0, 0⟩,
      (sampleContainerFibers placesLast).isHostChild child = true ∨ child = ⟨1, 0⟩ := by
    decide +kernel
  refine ⟨fun child isChild => ?_, by revert placesLast; decide +kernel,
    by revert placesLast; decide +kernel, by revert placesLast; decide +kernel⟩
  exact (mixed placesLast child isChild).imp_right fun same => ⟨_, same ▸ component placesLast⟩

def sampleContainerMutations (placesLast : Bool) : List HostRootMutationApplyRecord :=
  ((sampleContainerFibers placesLast).hostRootMutations ⟨0, 0⟩ ⟨0, 0⟩ Lanes.no).toOption.getD []

theorem sampleContainerMutations_ok :
    ∀ placesLast, (sampleContainerFibers placesLast).hostRootMutations ⟨0, 0⟩ ⟨0, 0⟩ Lanes.no =
      .ok (sampleContainerMutations placesLast) := by
  decide +kernel

theorem sampleContainer_inOrder : (sampleContainerFibers true).PlacesInOrder ⟨0, 0⟩ where
  unblocked := by
    intro before child behind shape placedHost
    have noneIsPlacedHost : ∀ child ∈ (sampleContainerFibers true).finishedChildren ⟨0, 0⟩,
        (sampleContainerFibers true).isPlacedHost child = false := by
      decide +kernel
    rw [noneIsPlacedHost child (by simp [shape])] at placedHost
    cases placedHost
  appended := by
    intro before component behind host shape has placed other isBehind
    have isChildren : (sampleContainerFibers true).finishedChildren ⟨0, 0⟩ = [⟨3, 0⟩, ⟨1, 0⟩] := by
      decide +kernel
    rw [isChildren] at shape
    cases before with
    | nil =>
      cases shape
      exact absurd has.isFunction (by decide +kernel)
    | cons first rest =>
      cases rest with
      | nil =>
        cases shape
        cases isBehind
      | cons second rest => simp at shape

end Sample

end FastReact
