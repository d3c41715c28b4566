import FastReact.DeletedHostNodes

namespace FastReact

open ErrorState FiberArena FiberFlags LinkWalk List Option PostOrder

/-!
# The placements below one parent

In a finished tree every child names its parent.  So the placements that a commit logs for a
HostRoot fiber are those of its own children, and so it is for a host component that stays
where it is and is a child or a grandchild of the HostRoot fiber.
-/

namespace FiberFlags

variable {flags first second : FiberFlags}

theorem containsAll_placement : flags.containsAll placement = flags.bits.getLsbD 1 := by
  have isBit : placement.bits = BitVec.twoPow 32 1 := by decide
  rw [containsAll, isBit, BitVec.and_twoPow]
  by_cases set : flags.bits.getLsbD 1 = true
  · rw [if_pos set, set]
    rfl
  · rw [if_neg set, Bool.eq_false_of_not_eq_true set]
    rfl

theorem containsAll_placement_of_merge (covers : flags.containsAll (first.merge second) = true)
    (placed : first.containsAll placement = true ∨ second.containsAll placement = true) :
    flags.containsAll placement = true := by
  have covered := congrArg (·.getLsbD 1) (beq_iff_eq.mp covers)
  rw [containsAll_placement, containsAll_placement, ← Bool.or_eq_true] at placed
  simp only [merge, BitVec.getLsbD_and, BitVec.getLsbD_or, placed, Bool.and_true] at covered
  rw [containsAll_placement, covered]

theorem hasMutationEffects_of_placement (placed : flags.containsAll placement = true) :
    flags.hasMutationEffects = true := by
  rw [containsAll_placement] at placed
  have masked : mutationMask.bits.getLsbD 1 = true := by decide
  rw [hasMutationEffects, containsAny, bne_iff_ne]
  intro empty
  have bit : (flags.bits &&& mutationMask.bits).getLsbD 1 = false := by rw [empty]; decide
  rw [BitVec.getLsbD_and, placed, masked] at bit
  cases bit

end FiberFlags

def HostRootMutationPhaseRecord.places (parent : FiberId) (record : HostRootMutationPhaseRecord) :
    Bool :=
  record.parent = parent && record.kind = .placement

namespace HostFibers

variable {fibers : HostFibers} {root : FiberRootId} {hostRoot parent child component : FiberId}
  {lanes : Lanes}

def tag? (fibers : HostFibers) (fiber : FiberId) : Option FiberTag :=
  (fibers.arena.get? fiber).map (·.tag)

def isPlaced (fibers : HostFibers) (fiber : FiberId) : Bool :=
  (fibers.arena.get? fiber).any (·.isPlaced)

def isHostChild (fibers : HostFibers) (fiber : FiberId) : Bool :=
  (fibers.arena.get? fiber).any fun node => isSupportedHostRootMutationChild node.tag

/-- The finished tree of a HostRoot fiber: every child names its parent, and what a child asks
of the commit has bubbled up to its parent. -/
structure FinishedTree (fibers : HostFibers) (hostRoot : FiberId) : Prop where
  isHostRoot : fibers.tag? hostRoot = some .hostRoot
  rootless : fibers.arena.returnFiber? hostRoot = none
  returns : ∀ {parent child}, Below fibers.finishedChildren hostRoot parent →
    child ∈ fibers.finishedChildren parent → fibers.arena.returnFiber? child = some parent
  bubbled : ∀ {parent child node}, Below fibers.finishedChildren hostRoot parent →
    child ∈ fibers.finishedChildren parent → fibers.arena.get? child = some node →
    (fibers.subtreeFlags parent).containsAll (node.flags.merge (fibers.subtreeFlags child)) = true

structure IsUnmovedComponent (fibers : HostFibers) (component : FiberId) : Prop where
  isComponent : fibers.tag? component = some .hostComponent
  unmoved : fibers.isPlaced component = false

/-- The parents below which a commit places children. -/
inductive PlacementParent (fibers : HostFibers) (hostRoot : FiberId) : FiberId → Prop
  | hostRoot : PlacementParent fibers hostRoot hostRoot
  | child {parent : FiberId} :
      parent ∈ fibers.finishedChildren hostRoot →
      fibers.IsUnmovedComponent parent →
      PlacementParent fibers hostRoot parent
  | grandchild {component parent : FiberId} :
      component ∈ fibers.finishedChildren hostRoot →
      fibers.IsUnmovedComponent component →
      parent ∈ fibers.finishedChildren component →
      fibers.IsUnmovedComponent parent →
      PlacementParent fibers hostRoot parent

theorem get_eq_ok_iff {fiber : FiberId} {node : FiberNode} :
    fibers.get fiber = .ok node ↔ fibers.arena.get? fiber = some node := by
  rw [get, mapError_eq_ok_iff, FiberArena.get_eq_ok_iff]

theorem PlacementParent.below (isParent : fibers.PlacementParent hostRoot parent) :
    Below fibers.finishedChildren hostRoot parent := by
  cases isParent with
  | hostRoot => exact .refl hostRoot
  | child isChild _ => exact (Below.refl hostRoot).step isChild
  | grandchild isComponent _ isChild _ =>
    exact ((Below.refl hostRoot).step isComponent).step isChild

theorem tag?_ne_functionComponent (isHost : fibers.isHostChild child = true) :
    fibers.tag? child ≠ some .functionComponent := by
  intro isFunction
  obtain ⟨node, resolved, isTag⟩ := map_eq_some_iff.mp isFunction
  rw [isHostChild, resolved, any_some, isTag] at isHost
  cases isHost

/-- All children below a fiber were gathered. -/
def Gathered (fibers : HostFibers) (start : FiberId) : Prop :=
  ∀ parent, Below fibers.finishedChildren start parent →
    fibers.childIds parent = .ok (fibers.finishedChildren parent)

theorem Gathered.of_below (gathered : fibers.Gathered parent)
    (isBelow : Below fibers.finishedChildren parent child) : fibers.Gathered child := by
  intro inner isInner
  exact gathered inner (isBelow.trans isInner)

theorem finishedChildren_nodup (parent : FiberId) : (fibers.finishedChildren parent).Nodup := by
  unfold finishedChildren
  cases gathered : fibers.childIds parent with
  | error error => exact nodup_nil
  | ok children =>
    rw [childIds, mapError_eq_ok_iff, childIds_eq_ok_iff] at gathered
    exact gathered.2.1.nodup

theorem isLive_of_finishedChildren (isChild : child ∈ fibers.finishedChildren parent) :
    fibers.arena.IsLive child := by
  unfold finishedChildren at isChild
  cases gathered : fibers.childIds parent with
  | error error =>
    rw [gathered] at isChild
    cases isChild
  | ok children =>
    rw [gathered] at isChild
    rw [childIds, mapError_eq_ok_iff, childIds_eq_ok_iff] at gathered
    exact gathered.2.2 child isChild

namespace FinishedTree

variable (tree : fibers.FinishedTree hostRoot)
include tree

theorem isTree : PostOrder.IsTree fibers.finishedChildren hostRoot where
  childrenNodup parent _ := finishedChildren_nodup parent
  oneParent := by
    intro parent other child isBelow otherBelow isChild otherChild
    have returns := tree.returns isBelow isChild
    rw [tree.returns otherBelow otherChild] at returns
    exact (some.inj returns).symm
  rootNoChild := by
    intro parent isBelow isChild
    have returns := tree.returns isBelow isChild
    rw [tree.rootless] at returns
    cases returns

theorem isPlaced_eq_false (quiet : (fibers.subtreeFlags hostRoot).hasMutationEffects ≠ true)
    (isBelow : Below fibers.finishedChildren hostRoot parent)
    (isChild : child ∈ fibers.finishedChildren parent) : fibers.isPlaced child = false := by
  have unasked : (fibers.subtreeFlags parent).containsAll placement ≠ true := by
    apply isBelow.of_step
    · exact fun placed => quiet (hasMutationEffects_of_placement placed)
    · intro above inner aboveBelow isInner unaskedAbove placed
      obtain ⟨node, resolved⟩ := isLive_of_finishedChildren isInner
      exact unaskedAbove (containsAll_placement_of_merge
        (tree.bubbled aboveBelow isInner resolved) (.inr placed))
  obtain ⟨node, resolved⟩ := isLive_of_finishedChildren isChild
  rw [isPlaced, resolved, any_some, Bool.eq_false_iff]
  intro placed
  exact unasked (containsAll_placement_of_merge
    (tree.bubbled isBelow isChild resolved) (.inl placed))

end FinishedTree

theorem walk_of_childIds {node : FiberNode}
    (gathered : fibers.childIds parent = .ok (fibers.finishedChildren parent))
    (resolved : fibers.arena.get? parent = some node) :
    IsWalk fibers.arena.sibling? node.child (fibers.finishedChildren parent) := by
  obtain ⟨-, walk, -⟩ := childIds_eq_ok_iff.mp (mapError_eq_ok_iff.mp gathered)
  rwa [child?_of_get? resolved] at walk

section Siblings

variable {Record : Type} {visit : FiberId → Except HostMutationError (List Record)} {rounds : Nat}
  {first : Option FiberId} {records : List Record}

theorem collectSiblings_eq_ok {children : List FiberId}
    (walk : IsWalk fibers.arena.sibling? first children)
    (ran : fibers.collectSiblings visit rounds first = .ok records) :
    ∃ blocks, children.mapM visit = .ok blocks ∧ records = blocks.flatten := by
  induction rounds generalizing first children records with
  | zero =>
    cases first with
    | none =>
      cases ran
      rw [IsWalk.none_iff.mp walk]
      exact ⟨[], rfl, rfl⟩
    | some child =>
      cases ran
  | succ rounds ih =>
    cases first with
    | none =>
      cases ran
      rw [IsWalk.none_iff.mp walk]
      exact ⟨[], rfl, rfl⟩
    | some child =>
      obtain ⟨node, resolved, ranVisit⟩ := bind_eq_ok_iff.mp ran
      obtain ⟨block, visited, ranLater⟩ := bind_eq_ok_iff.mp ranVisit
      obtain ⟨later, gathered, finished⟩ := bind_eq_ok_iff.mp ranLater
      cases finished
      cases children with
      | nil =>
        cases walk
      | cons other rest =>
        obtain ⟨same, walkRest⟩ := walk
        cases same
        rw [sibling?_of_get? (get_eq_ok_iff.mp resolved)] at walkRest
        obtain ⟨blocks, visitedRest, rfl⟩ := ih walkRest gathered
        exact ⟨block :: blocks, mapM_cons_eq_ok_iff.mpr ⟨_, _, visited, visitedRest, rfl⟩, rfl⟩

theorem forall_mem_collectSiblings {good : Record → Prop}
    (ran : fibers.collectSiblings visit rounds first = .ok records)
    (visits : ∀ child block, visit child = .ok block → ∀ record ∈ block, good record) :
    ∀ record ∈ records, good record := by
  induction rounds generalizing first records with
  | zero =>
    cases first with
    | none =>
      cases ran
      exact forall_mem_nil _
    | some child =>
      cases ran
  | succ rounds ih =>
    cases first with
    | none =>
      cases ran
      exact forall_mem_nil _
    | some child =>
      obtain ⟨node, -, ranVisit⟩ := bind_eq_ok_iff.mp ran
      obtain ⟨block, visited, ranLater⟩ := bind_eq_ok_iff.mp ranVisit
      obtain ⟨later, gathered, finished⟩ := bind_eq_ok_iff.mp ranLater
      cases finished
      exact forall_mem_append.mpr ⟨visits child block visited, ih gathered⟩

end Siblings

section Records

variable {record : HostRootMutationPhaseRecord} {records : List HostRootMutationPhaseRecord}

theorem hostRootMutationPhaseRecord_eq_ok {fiber : FiberId} {kind : HostRootMutationPhaseRecordKind}
    (ran : fibers.hostRootMutationPhaseRecord root hostRoot parent fiber kind lanes = .ok record) :
    record.parent = parent ∧ record.fiber = fiber ∧ record.kind = kind ∧
      record.stateNode = fibers.stateNode fiber ∧
      ∃ node parentNode,
        fibers.arena.get? fiber = some node ∧ fibers.arena.get? parent = some parentNode ∧
        record.tag = node.tag ∧ record.parentTag = parentNode.tag ∧
        record.parentFlags = parentNode.flags ∧
        fibers.placementSibling parent parentNode.tag node.sibling kind =
          .ok record.placementSibling := by
  obtain ⟨node, resolved, ranParent⟩ := bind_eq_ok_iff.mp ran
  obtain ⟨parentNode, parentResolved, ranAlternate⟩ := bind_eq_ok_iff.mp ranParent
  obtain ⟨_, -, ranSibling⟩ := bind_eq_ok_iff.mp ranAlternate
  obtain ⟨sibling, found, finished⟩ := bind_eq_ok_iff.mp ranSibling
  cases finished
  exact ⟨rfl, rfl, rfl, rfl, node, parentNode, get_eq_ok_iff.mp resolved,
    get_eq_ok_iff.mp parentResolved, rfl, rfl, rfl, found⟩

theorem placementPhaseRecord_eq_ok
    (ran : fibers.placementPhaseRecord root hostRoot lanes parent child = .ok records) :
    if fibers.isHostChild child && fibers.isPlaced child then
      ∃ record,
        fibers.hostRootMutationPhaseRecord root hostRoot parent child .placement lanes =
          .ok record ∧
        records = [record]
    else
      records = [] := by
  obtain ⟨node, resolved, ranRecord⟩ := bind_eq_ok_iff.mp ran
  rw [get_eq_ok_iff] at resolved
  rw [isHostChild, isPlaced, resolved, any_some, any_some]
  by_cases placed : (isSupportedHostRootMutationChild node.tag && node.isPlaced) = true
  · rw [if_pos placed] at ranRecord ⊢
    obtain ⟨record, recorded, finished⟩ := bind_eq_ok_iff.mp ranRecord
    cases finished
    exact ⟨record, recorded, rfl⟩
  · rw [if_neg placed] at ranRecord ⊢
    cases ranRecord
    rfl

theorem placementPhaseRecord_of_unplaced (isChild : child ∈ fibers.finishedChildren parent)
    (unplaced : fibers.isPlaced child = false) :
    fibers.placementPhaseRecord root hostRoot lanes parent child = .ok [] := by
  obtain ⟨node, resolved⟩ := isLive_of_finishedChildren isChild
  rw [isPlaced, resolved, any_some] at unplaced
  rw [placementPhaseRecord, get_eq_ok_iff.mpr resolved]
  change (if isSupportedHostRootMutationChild node.tag && node.isPlaced then _ else _) = _
  rw [unplaced, Bool.and_false]
  rfl

section

variable (ran : fibers.placementPhaseRecord root hostRoot lanes parent child = .ok records)
include ran

theorem filter_placementPhaseRecord : records.filter (·.places parent) = records := by
  have recorded := placementPhaseRecord_eq_ok ran
  split at recorded
  · obtain ⟨record, ranRecord, rfl⟩ := recorded
    obtain ⟨isParent, -, isPlacement, -⟩ := hostRootMutationPhaseRecord_eq_ok ranRecord
    simp [HostRootMutationPhaseRecord.places, isParent, isPlacement]
  · rw [recorded]
    rfl

theorem parent_of_placementPhaseRecord : ∀ record ∈ records, record.parent = parent := by
  have recorded := placementPhaseRecord_eq_ok ran
  split at recorded
  · obtain ⟨record, ranRecord, rfl⟩ := recorded
    exact forall_mem_singleton.mpr (hostRootMutationPhaseRecord_eq_ok ranRecord).1
  · rw [recorded]
    exact forall_mem_nil _

end

theorem filter_places_eq_nil (others : ∀ record ∈ records, record.parent ≠ parent) :
    records.filter (·.places parent) = [] := by
  rw [filter_eq_nil_iff]
  intro record member isPlacement
  simp only [HostRootMutationPhaseRecord.places, Bool.and_eq_true, decide_eq_true_iff] at isPlacement
  exact others record member isPlacement.1

theorem parent_of_functionComponentRecord
    (ran : fibers.collectFunctionComponentSingleHostChildPlacementPhaseRecord root hostRoot lanes
      component = .ok records) :
    ∀ record ∈ records, record.parent = hostRoot ∧
      fibers.tag? component = some .functionComponent := by
  obtain ⟨node, resolved, ranChild⟩ := bind_eq_ok_iff.mp ran
  rw [get_eq_ok_iff] at resolved
  split at ranChild
  · cases ranChild
    exact forall_mem_nil _
  · rename_i searches
    have isFunction : node.tag = .functionComponent := by
      simp only [Bool.or_eq_true, decide_eq_true_iff, not_or, not_not] at searches
      exact searches.1
    split at ranChild
    · cases ranChild
      exact forall_mem_nil _
    · obtain ⟨childNode, -, ranRecord⟩ := bind_eq_ok_iff.mp ranChild
      split at ranRecord
      · cases ranRecord
        exact forall_mem_nil _
      · obtain ⟨record, recorded, finished⟩ := bind_eq_ok_iff.mp ranRecord
        cases finished
        refine forall_mem_singleton.mpr ⟨(hostRootMutationPhaseRecord_eq_ok recorded).1, ?_⟩
        rw [tag?, resolved, map_some, isFunction]

theorem kind_of_updateRecord {updates : Bool} {below : List HostRootMutationPhaseRecord}
    (updatesBelow : ∀ record ∈ below, record.kind = .update)
    (ran : (if updates then do
        let record ← fibers.hostRootMutationPhaseRecord root hostRoot parent child .update lanes
        return below ++ [record]
      else
        return below) = .ok records) : ∀ record ∈ records, record.kind = .update := by
  split at ran
  · obtain ⟨record, recorded, finished⟩ := bind_eq_ok_iff.mp ran
    cases finished
    refine forall_mem_append.mpr ⟨updatesBelow, ?_⟩
    exact forall_mem_singleton.mpr (hostRootMutationPhaseRecord_eq_ok recorded).2.2.1
  · cases ran
    exact updatesBelow

theorem kind_of_updateTraversal {levels hostComponentDepth : Nat}
    (ran : fibers.collectHostComponentUpdateTraversalPhaseRecords root hostRoot lanes levels
      hostComponentDepth parent child = .ok records) :
    ∀ record ∈ records, record.kind = .update := by
  induction levels generalizing hostComponentDepth parent child records with
  | zero =>
    obtain ⟨node, -, ranOwn⟩ := bind_eq_ok_iff.mp ran
    exact kind_of_updateRecord (forall_mem_nil _) ranOwn
  | succ levels ih =>
    obtain ⟨node, -, ranBelow⟩ := bind_eq_ok_iff.mp ran
    generalize (if node.tag = .hostComponent then 1 else 0) = deeper at ranBelow
    dsimp only at ranBelow
    split at ranBelow
    · obtain ⟨below, isBelow, ranOwn⟩ := bind_eq_ok_iff.mp ranBelow
      have updatesBelow := forall_mem_collectSiblings isBelow fun inner block ranInner =>
        ih ranInner
      exact kind_of_updateRecord updatesBelow ranOwn
    · exact kind_of_updateRecord (forall_mem_nil _) ranBelow

def nestedPlacementRecords (fibers : HostFibers) (root : FiberRootId) (hostRoot : FiberId)
    (lanes : Lanes) (component child : FiberId) :
    Nat → Except HostMutationError (List HostRootMutationPhaseRecord)
  | 0 => .ok []
  | levels + 1 =>
      if !fibers.isPlaced component && fibers.tag? child = some .hostComponent &&
          !fibers.isPlaced child then
        fibers.collectHostComponentChildPlacementPhaseRecords root hostRoot lanes levels child
      else
        .ok []

def childPlacementRecords (fibers : HostFibers) (root : FiberRootId) (hostRoot : FiberId)
    (lanes : Lanes) (levels : Nat) (component child : FiberId) :
    Except HostMutationError (List HostRootMutationPhaseRecord) := do
  let own ← fibers.placementPhaseRecord root hostRoot lanes component child
  let nested ← fibers.nestedPlacementRecords root hostRoot lanes component child levels
  return own ++ nested

variable {levels : Nat}

/-- Below a host component each child is recorded before what is below it. -/
theorem componentPlacements_eq_ok
    (gathered : fibers.childIds component = .ok (fibers.finishedChildren component))
    (ran : fibers.collectHostComponentChildPlacementPhaseRecords root hostRoot lanes levels
      component = .ok records) :
    if fibers.tag? component = some .hostComponent then
      ∃ blocks,
        (fibers.finishedChildren component).mapM
          (fibers.childPlacementRecords root hostRoot lanes levels component) = .ok blocks ∧
        records = blocks.flatten
    else
      records = [] := by
  unfold collectHostComponentChildPlacementPhaseRecords at ran
  obtain ⟨node, got, ranSiblings⟩ := bind_eq_ok_iff.mp ran
  have resolved := get_eq_ok_iff.mp got
  rw [tag?, resolved, map_some]
  by_cases isComponent : node.tag = .hostComponent
  · rw [if_neg (not_not.mpr isComponent)] at ranSiblings
    rw [if_pos (congrArg some isComponent)]
    obtain ⟨blocks, visited, rfl⟩ :=
      collectSiblings_eq_ok (walk_of_childIds gathered resolved) ranSiblings
    refine ⟨blocks, ?_, rfl⟩
    rw [← visited]
    congr 1
    funext child
    cases gotChild : fibers.get child with
    | error error =>
      rw [childPlacementRecords, placementPhaseRecord, gotChild]
      rfl
    | ok childNode =>
      rw [childPlacementRecords]
      refine bind_congr fun own => ?_
      cases levels with
      | zero => exact congrArg Except.ok (append_nil own)
      | succ levels =>
        rw [nestedPlacementRecords, isPlaced, isPlaced, tag?, resolved,
          get_eq_ok_iff.mp gotChild, any_some, any_some, map_some]
        simp only [some.injEq]
        by_cases goesOn : (!node.isPlaced && decide (childNode.tag = .hostComponent) &&
            !childNode.isPlaced) = true
        · rw [if_pos goesOn]
          exact (if_pos goesOn).symm
        · rw [if_neg goesOn]
          exact (congrArg Except.ok (append_nil own)).trans (if_neg goesOn).symm
  · rw [if_pos isComponent] at ranSiblings
    rw [if_neg fun same => isComponent (some.inj same)]
    cases ranSiblings
    rfl

theorem nestedPlacementRecords_cases
    (ran : fibers.nestedPlacementRecords root hostRoot lanes component child levels = .ok records) :
    records = [] ∨ ∃ fewer < levels,
      fibers.collectHostComponentChildPlacementPhaseRecords root hostRoot lanes fewer child =
        .ok records := by
  cases levels with
  | zero =>
    cases ran
    exact .inl rfl
  | succ levels =>
    rw [nestedPlacementRecords] at ran
    split at ran
    · exact .inr ⟨levels, Nat.lt_succ_self levels, ran⟩
    · cases ran
      exact .inl rfl

theorem parent_of_componentPlacements (gathered : fibers.Gathered component)
    (ran : fibers.collectHostComponentChildPlacementPhaseRecords root hostRoot lanes levels
      component = .ok records) :
    ∀ record ∈ records, Below fibers.finishedChildren component record.parent := by
  induction levels using Nat.strong_induction_on generalizing component records with
  | h levels ih =>
    have recorded := componentPlacements_eq_ok (gathered component (.refl component)) ran
    split at recorded
    · obtain ⟨blocks, visited, rfl⟩ := recorded
      refine forall_mem_flatten_of_mapM_ok visited fun child isChild block ranChild => ?_
      obtain ⟨own, ranOwn, ranNested⟩ := bind_eq_ok_iff.mp ranChild
      obtain ⟨nested, isNested, finished⟩ := bind_eq_ok_iff.mp ranNested
      cases finished
      refine forall_mem_append.mpr ⟨?_, ?_⟩
      · intro record member
        rw [parent_of_placementPhaseRecord ranOwn record member]
        exact .refl component
      · rcases nestedPlacementRecords_cases isNested with rfl | ⟨fewer, isFewer, ranFewer⟩
        · exact forall_mem_nil _
        · intro record member
          exact below_iff.mpr (.inr ⟨child, isChild,
            ih fewer isFewer (gathered.of_below ((Below.refl _).step isChild))
              ranFewer record member⟩)
    · rw [recorded]
      exact forall_mem_nil _

section

variable (tree : fibers.FinishedTree hostRoot) (gathered : fibers.Gathered hostRoot)
  (isBelow : Below fibers.finishedChildren hostRoot component)
include tree gathered isBelow

theorem filter_componentPlacements (isComponent : fibers.tag? component = some .hostComponent)
    (ran : fibers.collectHostComponentChildPlacementPhaseRecords root hostRoot lanes levels
      component = .ok records) :
    ∃ blocks,
      (fibers.finishedChildren component).mapM
        (fibers.placementPhaseRecord root hostRoot lanes component) = .ok blocks ∧
      records.filter (·.places component) = blocks.flatten := by
  have recorded := componentPlacements_eq_ok (gathered component isBelow) ran
  rw [if_pos isComponent] at recorded
  obtain ⟨blocks, visited, rfl⟩ := recorded
  apply filter_flatten_of_mapM_ok visited
  intro child isChild block ranChild
  obtain ⟨own, ranOwn, ranNested⟩ := bind_eq_ok_iff.mp ranChild
  obtain ⟨nested, isNested, finished⟩ := bind_eq_ok_iff.mp ranNested
  cases finished
  -- What is nested was recorded for fibers below the child, so not for the component.
  have nothingNested : nested.filter (·.places component) = [] := by
    rcases nestedPlacementRecords_cases isNested with rfl | ⟨fewer, -, ranFewer⟩
    · rfl
    · apply filter_places_eq_nil
      intro record member same
      have inner := parent_of_componentPlacements
        (gathered.of_below (isBelow.step isChild)) ranFewer record member
      rw [same] at inner
      exact tree.isTree.not_below_child isBelow isChild inner
  rw [filter_append, filter_placementPhaseRecord ranOwn, nothingNested, append_nil]
  exact ranOwn

/-- The placements below a child of a host component are found with its own. -/
theorem filter_nestedPlacements (unmoved : fibers.IsUnmovedComponent component)
    (isChild : child ∈ fibers.finishedChildren component)
    (childUnmoved : fibers.IsUnmovedComponent child)
    (ran : fibers.collectHostComponentChildPlacementPhaseRecords root hostRoot lanes (levels + 1)
      component = .ok records) :
    ∃ blocks,
      (fibers.finishedChildren child).mapM
        (fibers.placementPhaseRecord root hostRoot lanes child) = .ok blocks ∧
      records.filter (·.places child) = blocks.flatten := by
  have recorded := componentPlacements_eq_ok (gathered component isBelow) ran
  rw [if_pos unmoved.isComponent] at recorded
  obtain ⟨visits, visited, rfl⟩ := recorded
  have ofOwn : ∀ {other own}, fibers.placementPhaseRecord root hostRoot lanes component other =
      .ok own → own.filter (·.places child) = [] := by
    intro other own ranOwn
    apply filter_places_eq_nil
    intro record member same
    rw [parent_of_placementPhaseRecord ranOwn record member] at same
    rw [same] at isChild isBelow
    exact tree.isTree.not_below_child isBelow isChild (.refl child)
  have others : ∀ other ∈ fibers.finishedChildren component, other ≠ child → ∀ block,
      fibers.childPlacementRecords root hostRoot lanes (levels + 1) component other = .ok block →
      block.filter (·.places child) = [] := by
    intro other otherChild different block ranOther
    obtain ⟨own, ranOwn, ranNested⟩ := bind_eq_ok_iff.mp ranOther
    obtain ⟨nested, isNested, finished⟩ := bind_eq_ok_iff.mp ranNested
    cases finished
    rw [filter_append, ofOwn ranOwn, nil_append]
    rcases nestedPlacementRecords_cases isNested with rfl | ⟨fewer, -, ranFewer⟩
    · rfl
    · apply filter_places_eq_nil
      intro record member same
      have inner := parent_of_componentPlacements
        (gathered.of_below (isBelow.step otherChild)) ranFewer record member
      rw [same] at inner
      exact different (tree.isTree.child_unique isBelow otherChild isChild inner (.refl child))
  obtain ⟨block, ranChild, isKept⟩ :=
    filter_flatten_of_single visited (finishedChildren_nodup component) isChild others
  obtain ⟨own, ranOwn, ranNested⟩ := bind_eq_ok_iff.mp ranChild
  obtain ⟨nested, isNested, finished⟩ := bind_eq_ok_iff.mp ranNested
  cases finished
  rw [isKept, filter_append, ofOwn ranOwn, nil_append]
  rw [nestedPlacementRecords, unmoved.unmoved, childUnmoved.unmoved, childUnmoved.isComponent] at isNested
  exact filter_componentPlacements tree gathered (isBelow.step isChild) childUnmoved.isComponent
    isNested

end

theorem filter_rootChildRecords
    (ran : fibers.collectRootChildPhaseRecords root hostRoot lanes child = .ok records) :
    ∃ own functionComponentChild placements,
      fibers.placementPhaseRecord root hostRoot lanes hostRoot child = .ok own ∧
      fibers.collectFunctionComponentSingleHostChildPlacementPhaseRecord root hostRoot lanes child =
        .ok functionComponentChild ∧
      fibers.collectHostComponentChildPlacementPhaseRecords root hostRoot lanes
        (hostParentPlacementCanaryMaxHostComponentDepth - 1) child = .ok placements ∧
      ∀ parent, records.filter (·.places parent) =
        own.filter (·.places parent) ++ functionComponentChild.filter (·.places parent) ++
          placements.filter (·.places parent) := by
  obtain ⟨own, ranOwn, ranFunction⟩ := bind_eq_ok_iff.mp ran
  obtain ⟨functionComponentChild, isFunction, ranPlacements⟩ := bind_eq_ok_iff.mp ranFunction
  obtain ⟨placements, arePlacements, ranUpdates⟩ := bind_eq_ok_iff.mp ranPlacements
  obtain ⟨updates, areUpdates, finished⟩ := bind_eq_ok_iff.mp ranUpdates
  cases finished
  refine ⟨own, functionComponentChild, placements, ranOwn, isFunction, arePlacements, ?_⟩
  intro parent
  have noUpdate : updates.filter (·.places parent) = [] := by
    rw [filter_eq_nil_iff]
    intro record member isPlacement
    rw [HostRootMutationPhaseRecord.places, kind_of_updateTraversal areUpdates record member] at isPlacement
    simp at isPlacement
  rw [filter_append, filter_append, filter_append, noUpdate, append_nil]

theorem filter_rootChildRecords_of_host (tree : fibers.FinishedTree hostRoot)
    (gathered : fibers.Gathered hostRoot) (isChild : child ∈ fibers.finishedChildren hostRoot)
    (isHost : fibers.isHostChild child = true)
    (ran : fibers.collectRootChildPhaseRecords root hostRoot lanes child = .ok records) :
    fibers.placementPhaseRecord root hostRoot lanes hostRoot child =
      .ok (records.filter (·.places hostRoot)) := by
  obtain ⟨own, functionComponentChild, placements, ranOwn, isFunction, arePlacements, isKept⟩ :=
    filter_rootChildRecords ran
  -- A host child is no function component, and what is below it is not the root.
  have noFunction : functionComponentChild = [] := by
    rw [eq_nil_iff_forall_not_mem]
    intro record member
    exact tag?_ne_functionComponent isHost
      (parent_of_functionComponentRecord isFunction record member).2
  have noPlacement : placements.filter (·.places hostRoot) = [] := by
    apply filter_places_eq_nil
    intro record member same
    have inner := parent_of_componentPlacements
      (gathered.of_below ((Below.refl hostRoot).step isChild)) arePlacements record member
    rw [same] at inner
    exact tree.isTree.not_below_child (.refl hostRoot) isChild inner
  rw [isKept hostRoot, noFunction, noPlacement, filter_placementPhaseRecord ranOwn,
    filter_nil, append_nil, append_nil]
  exact ranOwn

section BelowChild

variable (tree : fibers.FinishedTree hostRoot) (isChild : child ∈ fibers.finishedChildren hostRoot)
  (isBelow : Below fibers.finishedChildren child parent)
include tree isChild isBelow

theorem filter_rootChildRecords_of_below {other : FiberId}
    (ran : fibers.collectRootChildPhaseRecords root hostRoot lanes other = .ok records) :
    ∃ placements,
      fibers.collectHostComponentChildPlacementPhaseRecords root hostRoot lanes
        (hostParentPlacementCanaryMaxHostComponentDepth - 1) other = .ok placements ∧
      records.filter (·.places parent) = placements.filter (·.places parent) := by
  have notRoot : hostRoot ≠ parent := by
    rintro rfl
    exact tree.isTree.not_below_child (.refl hostRoot) isChild isBelow
  obtain ⟨own, functionComponentChild, placements, ranOwn, isFunction, arePlacements, isKept⟩ :=
    filter_rootChildRecords ran
  refine ⟨placements, arePlacements, ?_⟩
  have noOwn : own.filter (·.places parent) = [] := by
    apply filter_places_eq_nil
    intro record member
    rw [parent_of_placementPhaseRecord ranOwn record member]
    exact notRoot
  have noFunction : functionComponentChild.filter (·.places parent) = [] := by
    apply filter_places_eq_nil
    intro record member
    rw [(parent_of_functionComponentRecord isFunction record member).1]
    exact notRoot
  rw [isKept parent, noOwn, noFunction, append_nil, nil_append]

theorem filter_rootBlocks_of_below (gathered : fibers.Gathered hostRoot)
    {blocks : List (List HostRootMutationPhaseRecord)}
    (visited : (fibers.finishedChildren hostRoot).mapM
      (fibers.collectRootChildPhaseRecords root hostRoot lanes) = .ok blocks) :
    ∃ placements,
      fibers.collectHostComponentChildPlacementPhaseRecords root hostRoot lanes
        (hostParentPlacementCanaryMaxHostComponentDepth - 1) child = .ok placements ∧
      blocks.flatten.filter (·.places parent) = placements.filter (·.places parent) := by
  have others : ∀ other ∈ fibers.finishedChildren hostRoot, other ≠ child → ∀ block,
      fibers.collectRootChildPhaseRecords root hostRoot lanes other = .ok block →
      block.filter (·.places parent) = [] := by
    intro other otherChild different block ranOther
    obtain ⟨placements, arePlacements, isKept⟩ :=
      filter_rootChildRecords_of_below tree isChild isBelow ranOther
    rw [isKept]
    apply filter_places_eq_nil
    intro record member same
    have inner := parent_of_componentPlacements
      (gathered.of_below ((Below.refl hostRoot).step otherChild)) arePlacements record member
    rw [same] at inner
    exact different (tree.isTree.child_unique (.refl hostRoot) otherChild isChild inner isBelow)
  obtain ⟨block, ranChild, isKept⟩ :=
    filter_flatten_of_single visited (finishedChildren_nodup hostRoot) isChild others
  obtain ⟨placements, arePlacements, isKeptBlock⟩ :=
    filter_rootChildRecords_of_below tree isChild isBelow ranChild
  exact ⟨placements, arePlacements, isKept.trans isKeptBlock⟩

end BelowChild

end Records

/-- The placements that a commit logs below one of its parents are those of the children. -/
theorem filter_collectHostRootMutationPhaseLog {log : List HostRootMutationPhaseRecord}
    (tree : fibers.FinishedTree hostRoot) (gathered : fibers.Gathered hostRoot)
    (isParent : fibers.PlacementParent hostRoot parent)
    (hosts : ∀ child ∈ fibers.finishedChildren parent, fibers.isHostChild child = true)
    (ran : fibers.collectHostRootMutationPhaseLog root hostRoot lanes = .ok log) :
    ∃ blocks,
      (fibers.finishedChildren parent).mapM
        (fibers.placementPhaseRecord root hostRoot lanes parent) = .ok blocks ∧
      log.filter (·.places parent) = blocks.flatten := by
  obtain ⟨finishedRoot, got, ranChildren⟩ := bind_eq_ok_iff.mp ran
  by_cases quiet : (fibers.subtreeFlags hostRoot).hasMutationEffects = true
  · rw [quiet] at ranChildren
    obtain ⟨blocks, visited, rfl⟩ := collectSiblings_eq_ok
      (walk_of_childIds (gathered hostRoot (.refl hostRoot)) (get_eq_ok_iff.mp got)) ranChildren
    cases isParent with
    | hostRoot =>
      apply filter_flatten_of_mapM_ok visited
      intro child isChild block ranChild
      exact filter_rootChildRecords_of_host tree gathered isChild (hosts child isChild) ranChild
    | child isChild unmoved =>
      obtain ⟨placements, arePlacements, isKept⟩ :=
        filter_rootBlocks_of_below tree isChild (.refl parent) gathered visited
      rw [isKept]
      exact filter_componentPlacements tree gathered ((Below.refl hostRoot).step isChild)
        unmoved.isComponent arePlacements
    | grandchild isComponent unmoved isChild childUnmoved =>
      obtain ⟨placements, arePlacements, isKept⟩ := filter_rootBlocks_of_below tree
        isComponent ((Below.refl _).step isChild) gathered visited
      rw [isKept]
      exact filter_nestedPlacements tree gathered ((Below.refl hostRoot).step isComponent)
        unmoved isChild childUnmoved arePlacements
  · rw [Bool.eq_false_of_not_eq_true quiet] at ranChildren
    cases ranChildren
    obtain ⟨blocks, visited, areEmpty⟩ : ∃ blocks, (fibers.finishedChildren parent).mapM
        (fibers.placementPhaseRecord root hostRoot lanes parent) = .ok blocks ∧
        ∀ block ∈ blocks, block = [] := by
      apply mapM_ok_of_forall
      intro child isChild
      have unplaced := tree.isPlaced_eq_false quiet isParent.below isChild
      exact ⟨[], placementPhaseRecord_of_unplaced isChild unplaced, rfl⟩
    exact ⟨blocks, visited, (flatten_eq_nil_iff.mpr areEmpty).symm⟩

end HostFibers

end FastReact
