import FastReact.FiberTopologySteps

namespace FastReact

open ErrorState List

/-!
# What a valid topology is

The arena checks its fibers one after another.  It accepts exactly when every live fiber
passes its own checks: that no two fibers own the same child follows from the parent that
the child names.
-/

namespace FiberArena

def LinkResolves (arena : FiberArena) (id : FiberId) (link : Option FiberId) : Prop :=
  ∀ target, link = some target → id ≠ target ∧ arena.IsLive target

/-- The alternate of a fiber names it and is of the same kind. -/
def AlternateReturns (arena : FiberArena) (id : FiberId) (node : FiberNode) : Prop :=
  ∀ alternate, node.alternate = some alternate →
    ∃ alternateNode, arena.get? alternate = some alternateNode ∧
      alternateNode.alternate = some id ∧
      node.tag = alternateNode.tag ∧ node.key = alternateNode.key

/-- The deletion list of a fiber is its own, is flagged, and holds live fibers that left
the chain. -/
def DeletionsApart (arena : FiberArena) (id : FiberId) (node : FiberNode) : Prop :=
  ∀ listId, node.deletions = some listId →
    ∃ list, arena.deletionList listId = some list ∧ list.parent = id ∧
      (list.deleted ≠ [] → node.flags.containsAll FiberFlags.childDeletion = true) ∧
      ∀ deleted ∈ list.deleted, arena.IsLive deleted ∧
        ∃ children, arena.childIds id = .ok children ∧ deleted ∉ children

/-- The children of a fiber name it and count on from zero. -/
def ChildrenReturn (arena : FiberArena) (id : FiberId) (children : List FiberId) : Prop :=
  ∀ (index : Nat) child, children[index]? = some child →
    ∃ childNode, arena.get? child = some childNode ∧
      childNode.returnFiber = some id ∧ childNode.index = index

structure PassesChecks (arena : FiberArena) (id : FiberId) (node : FiberNode) : Prop where
  returnFiber : arena.LinkResolves id node.returnFiber
  child : arena.LinkResolves id node.child
  sibling : arena.LinkResolves id node.sibling
  alternate : arena.LinkResolves id node.alternate
  alternateReturns : arena.AlternateReturns id node
  deletionsApart : arena.DeletionsApart id node
  children : ∃ children, arena.childIds id = .ok children ∧ arena.ChildrenReturn id children

variable {arena : FiberArena} {id parent : FiberId} {node : FiberNode} {children : List FiberId}

theorem validateLink_eq_ok_iff {field : String} {link : Option FiberId} :
    arena.validateLink id field link = .ok () ↔ arena.LinkResolves id link := by
  cases link with
  | none => exact iff_of_true rfl (by simp [LinkResolves])
  | some target =>
    rw [validateLink, bind_eq_ok_iff]
    by_cases same : id = target
    · simp [rejectSelfLink, LinkResolves, same]
    · simp [rejectSelfLink, LinkResolves, same, validateFiberId_eq_ok_iff]

theorem validateAlternate_eq_ok_iff :
    arena.validateAlternate id node = .ok () ↔ arena.AlternateReturns id node := by
  unfold validateAlternate AlternateReturns
  cases node.alternate with
  | none => simp
  | some alternate =>
    simp only [bind_eq_ok_iff, get_eq_ok_iff]
    constructor
    · rintro ⟨alternateNode, live, checked⟩ other isOther
      cases isOther
      rw [guard_eq_ok_iff, guard_eq_ok_iff, not_not, not_or, not_not, not_not] at checked
      exact ⟨alternateNode, live, checked.1, checked.2.1.1, checked.2.1.2⟩
    · intro returns
      obtain ⟨alternateNode, live, back, sameTag, sameKey⟩ := returns alternate rfl
      refine ⟨alternateNode, live, ?_⟩
      rw [guard_eq_ok_iff, guard_eq_ok_iff, not_not, not_or, not_not, not_not]
      exact ⟨back, ⟨sameTag, sameKey⟩, rfl⟩

theorem validateDeleted_eq_ok_iff {deleted : FiberId} :
    arena.validateDeleted id deleted = .ok () ↔
      arena.IsLive deleted ∧ ∃ children, arena.childIds id = .ok children ∧ deleted ∉ children := by
  simp only [validateDeleted, containsInChildChain, bind_eq_ok_iff]
  constructor
  · rintro ⟨checked, live, contained, ⟨children, collected, isContained⟩, absent⟩
    cases isContained
    refine ⟨validateFiberId_eq_ok_iff.mp live, children, collected, ?_⟩
    intro member
    simp [member] at absent
  · rintro ⟨live, children, collected, absent⟩
    exact ⟨(), validateFiberId_eq_ok_iff.mpr live, false, ⟨children, collected, by simp [absent]; rfl⟩,
      rfl⟩

theorem validateDeletions_eq_ok_iff :
    arena.validateDeletions id node = .ok () ↔ arena.DeletionsApart id node := by
  unfold validateDeletions DeletionsApart
  cases node.deletions with
  | none => simp
  | some listId =>
    simp only [bind_eq_ok_iff, validateDeletionListId]
    cases found : arena.deletionList listId with
    | none => simp [found]
    | some list =>
      simp only [Option.isSome_some, if_true, true_and, exists_const]
      rw [guard_eq_ok_iff, guard_eq_ok_iff, not_not, forM_eq_ok_iff]
      simp only [validateDeleted_eq_ok_iff, Bool.and_eq_true, Bool.not_eq_true',
        isEmpty_eq_false_iff, not_and, Bool.not_eq_false, ne_eq, Option.some.injEq,
        forall_eq', found, exists_eq_left']

/-- Children that were gathered have their parents among the checked fibers. -/
def GatheredFrom (arena : FiberArena) (checked : List FiberId)
    (gathered : List (FiberId × FiberId)) : Prop :=
  ∀ child owner, gathered.lookup child = some owner →
    owner ∈ checked ∧ arena.returnFiber? child = some owner

variable {gathered gatheredAfter : List (FiberId × FiberId)}

theorem of_validateChild {entry : FiberId × Nat}
    (valid : arena.validateChild id gathered entry = .ok gatheredAfter) :
    ∃ childNode, arena.get? entry.1 = some childNode ∧
      childNode.returnFiber = some id ∧ childNode.index = entry.2 := by
  obtain ⟨childNode, found, valid⟩ := bind_eq_ok_iff.mp valid
  obtain ⟨isParent, valid⟩ := guard_eq_ok_iff.mp valid
  obtain ⟨isIndex, -⟩ := guard_eq_ok_iff.mp valid
  exact ⟨childNode, get_eq_ok_iff.mp found, not_not.mp isParent, not_not.mp isIndex⟩

/-- The children of a chain pass their checks when they return to the parent. -/
theorem validateChildren {checked : List FiberId} {gathered : List (FiberId × FiberId)}
    (collected : arena.childIds parent = .ok children)
    (returning : arena.ChildrenReturn parent children) (unchecked : parent ∉ checked)
    (gatheredFrom : arena.GatheredFrom checked gathered) :
    ∃ after, children.zipIdx.foldlM (arena.validateChild parent) gathered = .ok after ∧
      arena.GatheredFrom (checked ++ [parent]) after := by
  have noDuplicates := (childIds_eq_ok_iff.mp collected).2.1.nodup
  have folded := @foldlM_ok_of_invariant _ _ _ (arena.validateChild parent)
    (fun handled value => ∀ child owner, value.lookup child = some owner →
      arena.returnFiber? child = some owner ∧
        (owner ∈ checked ∨ owner = parent ∧ child ∈ handled.map Prod.fst))
    children.zipIdx gathered ?_ ?_
  · obtain ⟨after, ran, holds⟩ := folded
    refine ⟨after, ran, fun child owner found => ?_⟩
    obtain ⟨linked, earlier | ⟨rfl, -⟩⟩ := holds child owner found
    · exact ⟨by simp [earlier], linked⟩
    · exact ⟨by simp, linked⟩
  · rintro handled ⟨child, index⟩ rest value shape holds
    have member : (child, index) ∈ children.zipIdx := by simp [shape]
    have found : children[index]? = some child := mem_zipIdx_iff_getElem?.mp member
    obtain ⟨childNode, live, own, isIndex⟩ := returning index child found
    have fresh : value.lookup child = none := by
      rw [Option.eq_none_iff_forall_ne_some]
      intro owner gatheredBefore
      obtain ⟨linked, place⟩ := holds child owner gatheredBefore
      rw [returnFiber?_of_get? live, own] at linked
      cases linked
      rcases place with isChecked | ⟨-, again⟩
      · exact unchecked isChecked
      · rw [← @zipIdx_map_fst _ 0 children, shape, map_append] at noDuplicates
        exact (nodup_append.mp noDuplicates).2.2 child again child (by simp) rfl
    refine ⟨(child, parent) :: value, ?_, ?_⟩
    · simp only [validateChild, get_eq_ok_iff.mpr live]
      change (if childNode.returnFiber ≠ some parent then _ else
        if childNode.index ≠ index then _ else _) = _
      rw [if_neg (not_not.mpr own), if_neg (not_not.mpr isIndex), fresh]
    · intro other owner gatheredAfter
      rw [lookup_cons] at gatheredAfter
      split at gatheredAfter
      · rename_i isChild
        cases gatheredAfter
        rw [beq_iff_eq.mp isChild, returnFiber?_of_get? live]
        exact ⟨own, .inr ⟨rfl, by simp⟩⟩
      · obtain ⟨linked, place⟩ := holds other owner gatheredAfter
        refine ⟨linked, place.imp_right fun ⟨isParent, inside⟩ => ⟨isParent, ?_⟩⟩
        rw [map_append]
        exact mem_append_left _ inside
  · intro child owner found
    obtain ⟨isChecked, linked⟩ := gatheredFrom child owner found
    exact ⟨linked, .inl isChecked⟩

theorem of_validateFiber (valid : arena.validateFiber gathered id = .ok gatheredAfter)
    (live : arena.get? id = some node) : arena.PassesChecks id node := by
  obtain ⟨found, isFound, valid⟩ := bind_eq_ok_iff.mp valid
  cases live.symm.trans (get_eq_ok_iff.mp isFound)
  obtain ⟨_, returnFiber, valid⟩ := bind_eq_ok_iff.mp valid
  obtain ⟨_, child, valid⟩ := bind_eq_ok_iff.mp valid
  obtain ⟨_, sibling, valid⟩ := bind_eq_ok_iff.mp valid
  obtain ⟨_, alternate, valid⟩ := bind_eq_ok_iff.mp valid
  obtain ⟨_, alternateReturns, valid⟩ := bind_eq_ok_iff.mp valid
  obtain ⟨_, deletionsApart, valid⟩ := bind_eq_ok_iff.mp valid
  obtain ⟨children, collected, valid⟩ := bind_eq_ok_iff.mp valid
  refine ⟨validateLink_eq_ok_iff.mp returnFiber, validateLink_eq_ok_iff.mp child,
    validateLink_eq_ok_iff.mp sibling, validateLink_eq_ok_iff.mp alternate,
    validateAlternate_eq_ok_iff.mp alternateReturns,
    validateDeletions_eq_ok_iff.mp deletionsApart, children, collected, ?_⟩
  intro index child atIndex
  obtain ⟨before, next, checked⟩ := round_ok_of_foldlM_ok valid
    (mem_zipIdx_iff_getElem?.mpr atIndex : (child, index) ∈ children.zipIdx)
  exact of_validateChild checked

theorem PassesChecks.validateFiber {checked : List FiberId} {gathered : List (FiberId × FiberId)}
    (passes : arena.PassesChecks id node) (live : arena.get? id = some node)
    (unchecked : id ∉ checked) (gatheredFrom : arena.GatheredFrom checked gathered) :
    ∃ after, arena.validateFiber gathered id = .ok after ∧
      arena.GatheredFrom (checked ++ [id]) after := by
  obtain ⟨children, collected, returning⟩ := passes.children
  obtain ⟨after, ran, holds⟩ := validateChildren collected returning unchecked gatheredFrom
  refine ⟨after, ?_, holds⟩
  simp only [FiberArena.validateFiber, get_eq_ok_iff.mpr live, bind, Except.bind,
    validateLink_eq_ok_iff.mpr passes.returnFiber, validateLink_eq_ok_iff.mpr passes.child,
    validateLink_eq_ok_iff.mpr passes.sibling, validateLink_eq_ok_iff.mpr passes.alternate,
    validateAlternate_eq_ok_iff.mpr passes.alternateReturns,
    validateDeletions_eq_ok_iff.mpr passes.deletionsApart, collected, ran]

/-- An arena is valid when every live fiber passes its checks. -/
theorem validateTopology_ok_iff :
    (∃ validation, arena.validateTopology = .ok validation) ↔
      ∀ id node, arena.get? id = some node → arena.PassesChecks id node := by
  constructor
  · rintro ⟨validation, valid⟩ id node live
    obtain ⟨gathered, folded, -⟩ := bind_eq_ok_iff.mp valid
    obtain ⟨before, next, checked⟩ := round_ok_of_foldlM_ok folded
      (SlotArena.mem_handles.mpr ⟨node, live⟩)
    exact of_validateFiber checked live
  · intro passes
    have folded := @foldlM_ok_of_invariant _ _ _ arena.validateFiber
      (fun checked gathered => arena.GatheredFrom checked gathered) arena.nodes.handles [] ?_ ?_
    · obtain ⟨gathered, ran, -⟩ := folded
      exact ⟨_, bind_eq_ok_iff.mpr ⟨gathered, ran, rfl⟩⟩
    · intro checked id rest gathered shape gatheredFrom
      have member : id ∈ arena.nodes.handles := by simp [shape]
      have noDuplicates := arena.nodes.nodup_handles
      rw [shape] at noDuplicates
      have unchecked : id ∉ checked := fun again =>
        (nodup_append.mp noDuplicates).2.2 id again id (by simp) rfl
      obtain ⟨node, live⟩ := SlotArena.mem_handles.mp member
      exact (passes id node live).validateFiber live unchecked gatheredFrom
    · intro child owner found
      cases found

theorem eq_of_validateTopology {validation : FiberArenaValidation}
    (valid : arena.validateTopology = .ok validation) :
    validation = ⟨arena.nodes.handles.length,
      (arena.deletionLists.filter Option.isSome).length⟩ := by
  obtain ⟨gathered, -, counted⟩ := bind_eq_ok_iff.mp valid
  cases counted
  rfl

end FiberArena

end FastReact
