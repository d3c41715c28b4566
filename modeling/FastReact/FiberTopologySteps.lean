import FastReact.FiberTopology
import FastReact.LinkWalk

namespace FastReact

open ErrorState LinkWalk List SlotArena

/-!
# What the operations on the fiber arena do

A query of the arena walks along links.  An operation either reports an error before it
changes anything, or it changes few fibers in a known way.  Both are said here once;
nothing later unfolds an operation.
-/

/-- A fiber that no link leaves. -/
structure FiberNode.Unlinked (node : FiberNode) : Prop where
  returnFiber : node.returnFiber = none
  child : node.child = none
  sibling : node.sibling = none
  alternate : node.alternate = none
  deletions : node.deletions = none

namespace FiberArena

variable {arena : FiberArena} {id parent child : FiberId} {node : FiberNode}

def IsLive (arena : FiberArena) (id : FiberId) : Prop :=
  ∃ node, arena.get? id = some node

section

variable (live : arena.get? id = some node)
include live

theorem returnFiber?_of_get? : arena.returnFiber? id = node.returnFiber := by
  simp [returnFiber?, live]

theorem child?_of_get? : arena.child? id = node.child := by
  simp [child?, live]

theorem sibling?_of_get? : arena.sibling? id = node.sibling := by
  simp [sibling?, live]

theorem alternate?_of_get? : arena.alternate? id = node.alternate := by
  simp [alternate?, live]

theorem deletions?_of_get? : arena.deletions? id = node.deletions := by
  simp [deletions?, live]

end

theorem links_none_of_not_isLive (dead : ¬ arena.IsLive id) :
    arena.returnFiber? id = none ∧ arena.child? id = none ∧ arena.sibling? id = none ∧
      arena.alternate? id = none ∧ arena.deletions? id = none := by
  have absent : arena.get? id = none := by
    rw [Option.eq_none_iff_forall_ne_some]
    exact fun node live => dead ⟨node, live⟩
  simp [returnFiber?, child?, sibling?, alternate?, deletions?, absent]

theorem isLive_of_returnFiber? (linked : arena.returnFiber? id = some parent) :
    arena.IsLive id := by
  by_contra dead
  simp [(links_none_of_not_isLive dead).1] at linked

theorem isLive_of_child? (linked : arena.child? id = some child) : arena.IsLive id := by
  by_contra dead
  simp [(links_none_of_not_isLive dead).2.1] at linked

theorem isLive_of_sibling? (linked : arena.sibling? id = some child) : arena.IsLive id := by
  by_contra dead
  simp [(links_none_of_not_isLive dead).2.2.1] at linked

theorem isLive_of_alternate? (linked : arena.alternate? id = some child) : arena.IsLive id := by
  by_contra dead
  simp [(links_none_of_not_isLive dead).2.2.2.1] at linked

theorem isLive_of_deletions? {list : DeletionListId} (linked : arena.deletions? id = some list) :
    arena.IsLive id := by
  by_contra dead
  simp [(links_none_of_not_isLive dead).2.2.2.2] at linked

theorem validateFiberId_eq_ok_iff : arena.validateFiberId id = .ok () ↔ arena.IsLive id := by
  constructor
  · exact exists_of_validateFiberId
  · rintro ⟨node, live⟩
    exact validateFiberId_eq_ok live

variable {next : Option FiberId} {rounds : Nat}

theorem walk_of_childIdsLoop {start : FiberId} {seen children : List FiberId}
    (collected : arena.childIdsLoop start rounds next seen = .ok children) :
    ∃ rest, children = seen ++ rest ∧ IsWalk arena.sibling? next rest ∧
      ∀ id ∈ rest, arena.IsLive id := by
  induction rounds generalizing next seen with
  | zero =>
    cases next with
    | none =>
      cases collected
      exact ⟨[], by simp [IsWalk]⟩
    | some child =>
      cases collected
  | succ rounds ih =>
    cases next with
    | none =>
      cases collected
      exact ⟨[], by simp [IsWalk]⟩
    | some child =>
      rw [childIdsLoop] at collected
      cases found : arena.get child with
      | error error =>
        rw [found] at collected
        cases collected
      | ok node =>
        have live := get_eq_ok_iff.mp found
        rw [found] at collected
        change (if child ∈ seen then _ else _) = _ at collected
        split at collected
        · cases collected
        · obtain ⟨rest, shape, walk, restLive⟩ := ih collected
          refine ⟨child :: rest, by simp [shape], ⟨rfl, ?_⟩, ?_⟩
          · rwa [sibling?_of_get? live]
          · exact forall_mem_cons.mpr ⟨⟨node, live⟩, restLive⟩

theorem childIdsLoop_of_walk {start : FiberId} {seen rest : List FiberId}
    (walk : IsWalk arena.sibling? next rest) (live : ∀ id ∈ rest, arena.IsLive id)
    (unseen : (seen ++ rest).Nodup) (enough : rest.length ≤ rounds) :
    arena.childIdsLoop start rounds next seen = .ok (seen ++ rest) := by
  induction rest generalizing rounds next seen with
  | nil =>
    rw [show next = none from walk, append_nil]
    cases rounds <;> rfl
  | cons child rest ih =>
    obtain ⟨rfl, walkRest⟩ := walk
    obtain ⟨⟨node, childLive⟩, restLive⟩ := forall_mem_cons.mp live
    cases rounds with
    | zero => simp at enough
    | succ rounds =>
      have notSeen : child ∉ seen := fun member =>
        (nodup_append.mp unseen).2.2 child member child (by simp) rfl
      have stillUnseen : ((seen ++ [child]) ++ rest).Nodup := by simpa using unseen
      have continued := ih walkRest restLive stillUnseen (Nat.le_of_succ_le_succ enough)
      rw [sibling?_of_get? childLive, append_assoc] at continued
      rw [childIdsLoop, get_eq_ok_iff.mpr childLive]
      change (if child ∈ seen then _ else _) = _
      rw [if_neg notSeen]
      exact continued

theorem childIds_eq_ok_iff {children : List FiberId} :
    arena.childIds parent = .ok children ↔
      arena.IsLive parent ∧ IsWalk arena.sibling? (arena.child? parent) children ∧
        ∀ id ∈ children, arena.IsLive id := by
  constructor
  · intro collected
    cases found : arena.get parent with
    | error error =>
      rw [childIds, found] at collected
      cases collected
    | ok node =>
      have live := get_eq_ok_iff.mp found
      rw [childIds, found] at collected
      obtain ⟨rest, rfl, walk, restLive⟩ := walk_of_childIdsLoop collected
      refine ⟨⟨node, live⟩, ?_, restLive⟩
      rwa [child?_of_get? live]
  · rintro ⟨⟨node, live⟩, walk, childrenLive⟩
    rw [child?_of_get? live] at walk
    rw [childIds, get_eq_ok_iff.mpr live]
    have short := length_le_of_nodup walk.nodup childrenLive
    exact childIdsLoop_of_walk walk childrenLive (by simpa using walk.nodup)
      (Nat.le_succ_of_le short)

theorem walk_of_isAncestorLoop {ancestor start : FiberId} {seen : List FiberId}
    (searched : arena.isAncestorLoop ancestor start rounds next seen = .ok false) :
    ∃ path, IsWalk arena.returnFiber? next path ∧ ancestor ∉ path := by
  induction rounds generalizing next seen with
  | zero =>
    cases next with
    | none => exact ⟨[], by simp [IsWalk]⟩
    | some id =>
      cases searched
  | succ rounds ih =>
    cases next with
    | none => exact ⟨[], by simp [IsWalk]⟩
    | some id =>
      rw [isAncestorLoop] at searched
      split at searched
      · cases searched
      · rename_i different
        split at searched
        · cases searched
        · cases found : arena.get id with
          | error error =>
            rw [found] at searched
            cases searched
          | ok node =>
            have live := get_eq_ok_iff.mp found
            rw [found] at searched
            obtain ⟨path, walk, absent⟩ := ih searched
            refine ⟨id :: path, ⟨rfl, ?_⟩, ?_⟩
            · rwa [returnFiber?_of_get? live]
            · simp [absent, Ne.symm different]

theorem not_reaches_of_isAncestor {ancestor : FiberId}
    (searched : arena.isAncestor ancestor child = .ok false) :
    ¬ Relation.ReflTransGen (Links arena.returnFiber?) child ancestor := by
  intro reaches
  rw [isAncestor] at searched
  cases first : arena.validateFiberId ancestor with
  | error error =>
    rw [first] at searched
    cases searched
  | ok checkedFirst =>
    cases second : arena.validateFiberId child with
    | error error =>
      rw [first, second] at searched
      cases searched
    | ok checkedSecond =>
      rw [first, second] at searched
      obtain ⟨path, walk, absent⟩ := walk_of_isAncestorLoop searched
      exact absent (walk.mem_of_reaches reaches)

theorem isLive_changeFiber {other : FiberId} {change : FiberNode → FiberNode} :
    (arena.changeFiber other change).IsLive id ↔ arena.IsLive id := by
  rw [IsLive, IsLive, get?_changeFiber]
  split
  · simp
  · rfl

theorem bind_get?_changeFiber {β : Type} {projection : FiberNode → Option β}
    {change : FiberNode → FiberNode}
    (unchanged : ∀ node, projection (change node) = projection node) (changed id : FiberId) :
    ((arena.changeFiber changed change).get? id).bind projection =
      (arena.get? id).bind projection := by
  rw [get?_changeFiber]
  split
  · rw [Option.bind_map]
    congr 1
    funext node
    exact unchanged node
  · rfl

section ChangeAll

variable {Item : Type} {items : List Item} {target : Item → FiberId}
  {change : Item → FiberNode → FiberNode}

def changeAll (arena : FiberArena) (items : List Item) (target : Item → FiberId)
    (change : Item → FiberNode → FiberNode) : FiberArena :=
  items.foldl (fun arena item => arena.changeFiber (target item) (change item)) arena

@[simp] theorem deletionLists_changeAll :
    (arena.changeAll items target change).deletionLists = arena.deletionLists := by
  induction items generalizing arena with
  | nil => rfl
  | cons item rest ih => exact ih

theorem run_forM_modifyFiber (live : ∀ item ∈ items, arena.IsLive (target item)) :
    (items.forM fun item => modifyFiber (target item) (change item)).run arena =
      .ok () (arena.changeAll items target change) := by
  induction items generalizing arena with
  | nil => rfl
  | cons item rest ih =>
    obtain ⟨⟨node, itemLive⟩, restLive⟩ := forall_mem_cons.mp live
    change (modifyFiber (target item) (change item) >>= fun _ =>
      rest.forM fun item => modifyFiber (target item) (change item)).run arena = _
    rw [run_bind, run_modifyFiber itemLive]
    apply ih
    intro other member
    rw [isLive_changeFiber]
    exact restLive other member

theorem get?_changeAll_of_not_mem (untouched : id ∉ items.map target) :
    (arena.changeAll items target change).get? id = arena.get? id := by
  induction items generalizing arena with
  | nil => rfl
  | cons item rest ih =>
    rw [map_cons, mem_cons, not_or] at untouched
    change ((arena.changeFiber (target item) (change item)).changeAll rest target
      change).get? id = _
    rw [ih untouched.2, get?_changeFiber, if_neg untouched.1]

theorem get?_changeAll_of_mem {item : Item} (noDuplicates : (items.map target).Nodup)
    (member : item ∈ items) :
    (arena.changeAll items target change).get? (target item) =
      (arena.get? (target item)).map (change item) := by
  induction items generalizing arena with
  | nil =>
    cases member
  | cons head rest ih =>
    rw [map_cons, nodup_cons] at noDuplicates
    change ((arena.changeFiber (target head) (change head)).changeAll rest target change).get? _ = _
    rcases mem_cons.mp member with rfl | later
    · rw [get?_changeAll_of_not_mem noDuplicates.1, get?_changeFiber, if_pos rfl]
    · have different : target item ≠ target head := fun same =>
        noDuplicates.1 (same ▸ mem_map_of_mem later)
      rw [ih noDuplicates.2 later, get?_changeFiber, if_neg different]

end ChangeAll

theorem run_createFiber (arena : FiberArena) (tag : FiberTag) (key : Option String)
    (pendingProps : PropsHandle) (mode : FiberMode) :
    ∃ id after,
      (createFiber tag key pendingProps mode).run arena = .ok id after ∧
      ¬ arena.IsLive id ∧
      after.deletionLists = arena.deletionLists ∧
      ∀ other, after.get? other =
        if other = id then some (FiberNode.new tag key pendingProps mode)
        else arena.get? other := by
  let inserted := arena.nodes.insert (FiberNode.new tag key pendingProps mode)
  refine ⟨inserted.1, ⟨inserted.2, arena.deletionLists⟩, rfl, ?_, rfl, ?_⟩
  · rintro ⟨node, live⟩
    rw [get?, get?_insert_fresh] at live
    cases live
  · intro other
    exact get?_insert _ _ _

theorem run_reclaimFiberAfterCleanup (arena : FiberArena) (id : FiberId) :
    (∃ error, (reclaimFiberAfterCleanup id).run arena = .error error arena) ∨
    ∃ node after,
      (reclaimFiberAfterCleanup id).run arena = .ok () after ∧
      arena.get? id = some node ∧
      node.Unlinked ∧
      arena.isRetainedByDeletionList id = none ∧
      after.deletionLists = arena.deletionLists ∧
      ∀ other, after.get? other = if other = id then none else arena.get? other := by
  simp only [reclaimFiberAfterCleanup, run_bind, run_query]
  cases found : arena.get id with
  | error error => exact .inl ⟨error, rfl⟩
  | ok node =>
    by_cases linked : (node.returnFiber.isSome || node.child.isSome || node.sibling.isSome ||
        node.alternate.isSome || node.deletions.isSome) = true
    · exact .inl ⟨.linkedFiberCannotBeReclaimed id, by simp [linked]⟩
    · cases retained : arena.isRetainedByDeletionList id with
      | some list => exact .inl ⟨.deletionListRetainsFiber id list, by simp [linked, retained]⟩
      | none =>
        by_cases exhausted : fiberGenerationBound ≤ id.generation + 1
        · exact .inl ⟨.generationOverflow id, by simp [linked, retained, exhausted]⟩
        · right
          refine ⟨node, { arena with nodes := arena.nodes.remove id },
            by simp [linked, retained, exhausted], get_eq_ok_iff.mp found, ?_, rfl, rfl,
            fun other => get?_remove _ _ _⟩
          simp only [Bool.or_eq_true, Option.isSome_iff_ne_none, not_or, not_not] at linked
          obtain ⟨⟨⟨⟨returnFiber, child⟩, sibling⟩, alternate⟩, deletions⟩ := linked
          exact ⟨returnFiber, child, sibling, alternate, deletions⟩

/-- Two fibers that may become alternates of each other. -/
structure AcceptsAlternates (arena : FiberArena) (first second : FiberId) : Prop where
  different : first ≠ second
  stableIdentity : arena.validateAlternateStableIdentity first second = .ok ()

theorem isLive_of_validateAlternateStableIdentity {first second : FiberId}
    (valid : arena.validateAlternateStableIdentity first second = .ok ()) :
    arena.IsLive first ∧ arena.IsLive second := by
  rw [validateAlternateStableIdentity] at valid
  cases firstFound : arena.get first with
  | error error =>
    rw [firstFound] at valid
    cases valid
  | ok firstNode =>
    cases secondFound : arena.get second with
    | error error =>
      rw [firstFound, secondFound] at valid
      cases valid
    | ok secondNode =>
      exact ⟨⟨firstNode, get_eq_ok_iff.mp firstFound⟩, ⟨secondNode, get_eq_ok_iff.mp secondFound⟩⟩

/-- Accepted fibers are linked to each other and keep everything else. -/
theorem run_linkAlternates (arena : FiberArena) (first second : FiberId) :
    (¬ arena.AcceptsAlternates first second ∧
      ∃ error, (linkAlternates first second).run arena = .error error arena) ∨
    (arena.AcceptsAlternates first second ∧
      ∃ after,
        (linkAlternates first second).run arena = .ok () after ∧
        after.deletionLists = arena.deletionLists ∧
        ∀ other, after.get? other =
          if other = second then (arena.get? other).map (·.setAlternate (some first))
          else if other = first then (arena.get? other).map (·.setAlternate (some second))
          else arena.get? other) := by
  by_cases accepted : arena.AcceptsAlternates first second
  · right
    refine ⟨accepted, (arena.changeFiber first (·.setAlternate (some second))).changeFiber second
      (·.setAlternate (some first)), ?_, rfl, ?_⟩
    · obtain ⟨⟨firstNode, firstLive⟩, secondNode, secondLive⟩ :=
        isLive_of_validateAlternateStableIdentity accepted.stableIdentity
      have secondKept : (arena.changeFiber first (·.setAlternate (some second))).get? second =
          some secondNode := by
        rw [get?_changeFiber, if_neg (Ne.symm accepted.different), secondLive]
      simp only [linkAlternates, run_bind, run_query, validateFiberId_eq_ok firstLive,
        validateFiberId_eq_ok secondLive, rejectSelfLink, if_neg accepted.different,
        accepted.stableIdentity, run_modifyFiber firstLive, run_modifyFiber secondKept]
    · intro other
      rw [get?_changeFiber, get?_changeFiber]
      by_cases isSecond : other = second
      · rw [if_pos isSecond, if_pos isSecond, if_neg]
        exact fun isFirst => accepted.different (isFirst.symm.trans isSecond)
      · rw [if_neg isSecond, if_neg isSecond]
  · left
    refine ⟨accepted, ?_⟩
    simp only [linkAlternates, run_bind, run_query]
    cases firstValid : arena.validateFiberId first with
    | error error => exact ⟨error, rfl⟩
    | ok firstLive =>
      cases secondValid : arena.validateFiberId second with
      | error error => exact ⟨error, by simp [secondValid]⟩
      | ok secondLive =>
        by_cases same : first = second
        · exact ⟨.selfLink first "alternate", by simp [rejectSelfLink, secondValid, same]⟩
        · cases identity : arena.validateAlternateStableIdentity first second with
          | error error => exact ⟨error, by simp [rejectSelfLink, secondValid, same, identity]⟩
          | ok valid => exact absurd ⟨same, identity⟩ accepted

theorem of_validateAlternatePair {first second : FiberId}
    (valid : arena.validateAlternatePair first second = .ok ()) :
    first ≠ second ∧ arena.alternate? first = some second ∧
      arena.alternate? second = some first := by
  simp only [validateAlternatePair] at valid
  cases firstFound : arena.get first with
  | error error =>
    rw [firstFound] at valid
    cases valid
  | ok firstNode =>
    cases secondFound : arena.get second with
    | error error =>
      rw [firstFound, secondFound] at valid
      cases valid
    | ok secondNode =>
      rw [firstFound, secondFound, rejectSelfLink] at valid
      by_cases same : first = second
      · rw [if_pos same] at valid
        cases valid
      · rw [if_neg same] at valid
        cases identity : arena.validateAlternateStableIdentity first second with
        | error error =>
          rw [identity] at valid
          cases valid
        | ok identityValid =>
          rw [identity] at valid
          change (if firstNode.alternate ≠ some second then _ else
            if secondNode.alternate ≠ some first then _ else _) = _ at valid
          rw [alternate?_of_get? (get_eq_ok_iff.mp firstFound),
            alternate?_of_get? (get_eq_ok_iff.mp secondFound)]
          split at valid
          · cases valid
          · rename_i forward
            split at valid
            · cases valid
            · rename_i backward
              exact ⟨same, not_not.mp forward, not_not.mp backward⟩

theorem run_rewriteWorkInProgress {current workInProgress : FiberId} {currentNode : FiberNode}
    (live : arena.get? current = some currentNode) (target : arena.IsLive workInProgress)
    (different : current ≠ workInProgress) (pendingProps : PropsHandle) :
    ∃ after,
      (do
        modifyFiber workInProgress fun _ => currentNode.cloneForAlternate current pendingProps
        modifyFiber current (·.setAlternate (some workInProgress))
        return workInProgress : FiberArenaM FiberId).run arena = .ok workInProgress after ∧
      after.deletionLists = arena.deletionLists ∧
      ∀ other, after.get? other =
        if other = workInProgress then
          some (currentNode.cloneForAlternate current pendingProps)
        else if other = current then
          some (currentNode.setAlternate (some workInProgress))
        else arena.get? other := by
  obtain ⟨node, targetLive⟩ := target
  obtain ⟨cloned, isCloned⟩ : ∃ cloned, cloned = arena.changeFiber workInProgress
      fun _ => currentNode.cloneForAlternate current pendingProps := ⟨_, rfl⟩
  have kept : cloned.get? current = some currentNode := by
    rw [isCloned, get?_changeFiber, if_neg different, live]
  refine ⟨cloned.changeFiber current (·.setAlternate (some workInProgress)), ?_, ?_, ?_⟩
  · rw [run_bind, run_modifyFiber targetLive, ← isCloned]
    change (modifyFiber current (·.setAlternate (some workInProgress)) >>= fun _ =>
      pure workInProgress : FiberArenaM FiberId).run cloned = _
    rw [run_bind, run_modifyFiber kept]
    rfl
  · rw [deletionLists_changeFiber, isCloned, deletionLists_changeFiber]
  · intro other
    rw [get?_changeFiber]
    by_cases isTarget : other = workInProgress
    · have notCurrent : other ≠ current := fun isCurrent =>
        different (isCurrent.symm.trans isTarget)
      rw [if_neg notCurrent, if_pos isTarget, isCloned, get?_changeFiber, if_pos isTarget,
        isTarget, targetLive]
      rfl
    · rw [if_neg isTarget]
      split
      · rename_i isCurrent
        rw [isCurrent, kept]
        rfl
      · rw [isCloned, get?_changeFiber, if_neg isTarget]

theorem run_createWorkInProgress (arena : FiberArena) (current : FiberId)
    (pendingProps : PropsHandle) :
    ((∀ existing, arena.alternate? current = some existing →
        arena.validateAlternatePair current existing ≠ .ok ()) ∧
      ∃ error, (createWorkInProgress current pendingProps).run arena = .error error arena) ∨
    ∃ currentNode workInProgress after,
      (createWorkInProgress current pendingProps).run arena = .ok workInProgress after ∧
      arena.get? current = some currentNode ∧
      current ≠ workInProgress ∧
      (arena.alternate? current = some workInProgress ∧
          arena.validateAlternatePair current workInProgress = .ok () ∨
        arena.alternate? current = none ∧ ¬ arena.IsLive workInProgress) ∧
      after.deletionLists = arena.deletionLists ∧
      ∀ other, after.get? other =
        if other = workInProgress then
          some (currentNode.cloneForAlternate current pendingProps)
        else if other = current then
          some (currentNode.setAlternate (some workInProgress))
        else arena.get? other := by
  simp only [createWorkInProgress, run_bind, run_query]
  cases found : arena.get current with
  | error error =>
    refine .inl ⟨fun existing paired _ => ?_, error, rfl⟩
    obtain ⟨node, live⟩ := isLive_of_alternate? paired
    rw [get_eq_ok_iff.mpr live] at found
    cases found
  | ok currentNode =>
    have live := get_eq_ok_iff.mp found
    cases alternate : currentNode.alternate with
    | some existing =>
      cases valid : arena.validateAlternatePair current existing with
      | error error =>
        refine .inl ⟨fun other paired => ?_, error, by simp [alternate, valid]⟩
        rw [alternate?_of_get? live, alternate] at paired
        cases paired
        simp [valid]
      | ok checked =>
        obtain ⟨different, paired, reciprocal⟩ := of_validateAlternatePair valid
        obtain ⟨after, ran, lists, nodes⟩ := run_rewriteWorkInProgress live
          (isLive_of_alternate? reciprocal) different pendingProps
        right
        refine ⟨currentNode, existing, after, ?_, live, different,
          .inl ⟨paired, valid⟩, lists, nodes⟩
        simp only [alternate, run_bind, run_query, valid]
        exact ran
    | none =>
      obtain ⟨fresh, created, ranCreate, dead, listsCreated, nodesCreated⟩ :=
        run_createFiber arena currentNode.tag currentNode.key pendingProps currentNode.mode
      have different : current ≠ fresh := by
        rintro rfl
        exact dead ⟨currentNode, live⟩
      have kept : created.get? current = some currentNode := by
        rw [nodesCreated, if_neg different, live]
      obtain ⟨after, ran, lists, nodes⟩ := run_rewriteWorkInProgress kept
        ⟨_, (nodesCreated fresh).trans (if_pos rfl)⟩ different pendingProps
      right
      refine ⟨currentNode, fresh, after, ?_, live, different,
        .inr ⟨(alternate?_of_get? live).trans alternate, dead⟩,
        lists.trans listsCreated, ?_⟩
      · simp only [alternate, run_bind, ranCreate]
        exact ran
      · intro other
        rw [nodes, nodesCreated]
        split
        · rfl
        · rfl

end FiberArena

end FastReact
