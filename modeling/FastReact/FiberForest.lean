import FastReact.FiberChildSteps
import FastReact.FiberTopologyChecks

namespace FastReact

open ErrorState LinkWalk List Option

/-!
# The forest of fibers

Without alternates and deletions the fibers form a forest: the parent of a fiber is the
one in whose chain it is, at the position that is its index, and parents do not form
cycles.  Every operation keeps the forest or leaves the arena as it was.
-/

/-- The operations on the forest. -/
inductive ForestOperation where
  | createFiber (tag : FiberTag) (key : Option String) (pendingProps : PropsHandle)
      (mode : FiberMode)
  | setChildren (parent : FiberId) (children : List FiberId)
  | appendChild (parent child : FiberId)
  | reclaimFiber (id : FiberId)

def ForestOperation.run : ForestOperation → FiberArenaM Unit
  | .createFiber tag key pendingProps mode => do
      let _ ← FastReact.createFiber tag key pendingProps mode
  | .setChildren parent children => FastReact.setChildren parent children
  | .appendChild parent child => FastReact.appendChild parent child
  | .reclaimFiber id => reclaimFiberAfterCleanup id

namespace FiberArena

def performForest (arena : FiberArena) (operation : ForestOperation) : FiberArena :=
  stateAfter (operation.run.run arena)

structure ForestChain (arena : FiberArena) (parent : FiberId) (children : List FiberId) :
    Prop where
  collected : arena.childIds parent = .ok children
  members : ∀ id, arena.returnFiber? id = some parent ↔ id ∈ children
  indices : ∀ (index : Nat) child, children[index]? = some child →
    ∃ node, arena.get? child = some node ∧ node.index = index

/-- The fibers form a forest without alternates and deletions. -/
structure Forest (arena : FiberArena) : Prop where
  chain : ∀ parent, arena.IsLive parent → ∃ children, arena.ForestChain parent children
  parentLive : ∀ id parent, arena.returnFiber? id = some parent → arena.IsLive parent
  acyclic : Acyclic arena.returnFiber?
  siblingOwned : ∀ id sibling, arena.sibling? id = some sibling →
    ∃ parent, arena.returnFiber? id = some parent
  noAlternate : ∀ id, arena.alternate? id = none
  noDeletions : ∀ id, arena.deletions? id = none
  noLists : arena.deletionLists = []

variable {arena after : FiberArena} {id parent : FiberId} {children oldChildren : List FiberId}

theorem ForestChain.disjoint {other : FiberId} {others : List FiberId}
    (chain : arena.ForestChain parent children) (otherChain : arena.ForestChain other others)
    (different : other ≠ parent) (member : id ∈ others) : id ∉ children := by
  intro isChild
  have own := (chain.members id).mpr isChild
  rw [(otherChain.members id).mpr member] at own
  exact different (some.inj own)

theorem ForestChain.kept (chain : arena.ForestChain parent children) (live : after.IsLive parent)
    (child : after.child? parent = arena.child? parent)
    (places : ∀ id ∈ children, ∀ node, arena.get? id = some node →
      ∃ nodeAfter, after.get? id = some nodeAfter ∧
        nodeAfter.sibling = node.sibling ∧ nodeAfter.index = node.index)
    (members : ∀ id, after.returnFiber? id = some parent ↔
      arena.returnFiber? id = some parent) : after.ForestChain parent children := by
  obtain ⟨-, walk, childrenLive⟩ := childIds_eq_ok_iff.mp chain.collected
  refine ⟨childIds_eq_ok_iff.mpr ⟨live, ?_, ?_⟩, ?_, ?_⟩
  · rw [child]
    refine walk.congr fun id member => ?_
    obtain ⟨node, found⟩ := childrenLive id member
    obtain ⟨nodeAfter, foundAfter, sibling, -⟩ := places id member node found
    rw [sibling?_of_get? foundAfter, sibling?_of_get? found, sibling]
  · intro id member
    obtain ⟨node, found⟩ := childrenLive id member
    obtain ⟨nodeAfter, foundAfter, -⟩ := places id member node found
    exact ⟨nodeAfter, foundAfter⟩
  · exact fun id => (members id).trans (chain.members id)
  · intro index id found
    obtain ⟨node, live, isIndex⟩ := chain.indices index id found
    obtain ⟨nodeAfter, foundAfter, -, sameIndex⟩ := places id (mem_of_getElem? found) node live
    exact ⟨nodeAfter, foundAfter, sameIndex.trans isIndex⟩

namespace Forest

theorem exists_chain_of_returnFiber? (forest : arena.Forest)
    (linked : arena.returnFiber? id = some parent) :
    ∃ children, arena.ForestChain parent children ∧ id ∈ children := by
  obtain ⟨children, chain⟩ := forest.chain parent (forest.parentLive id parent linked)
  exact ⟨children, chain, (chain.members id).mp linked⟩

theorem childLive {child : FiberId} (forest : arena.Forest)
    (linked : arena.child? parent = some child) : arena.IsLive child := by
  obtain ⟨children, chain⟩ := forest.chain parent (isLive_of_child? linked)
  obtain ⟨-, walk, live⟩ := childIds_eq_ok_iff.mp chain.collected
  exact live child (mem_of_mem_head? (walk.first_eq.symm.trans linked))

theorem siblingLive {sibling : FiberId} (forest : arena.Forest)
    (linked : arena.sibling? id = some sibling) : arena.IsLive sibling := by
  obtain ⟨parent, owned⟩ := forest.siblingOwned id sibling linked
  obtain ⟨children, chain, member⟩ := forest.exists_chain_of_returnFiber? owned
  obtain ⟨-, walk, live⟩ := childIds_eq_ok_iff.mp chain.collected
  obtain ⟨before, behind, rfl⟩ := mem_iff_append.mp member
  have isNext := walk.next_eq.symm.trans linked
  exact live sibling (by simp [mem_of_mem_head? isNext])

theorem new : FiberArena.new.Forest := by
  have noFiber : ∀ id, ¬ FiberArena.new.IsLive id := by
    rintro id ⟨node, live⟩
    simp [FiberArena.new, get?] at live
  refine ⟨?_, ?_, ?_, ?_, ?_, ?_, rfl⟩
  · exact fun parent live => absurd live (noFiber parent)
  · exact fun id parent linked => absurd (isLive_of_returnFiber? linked) (noFiber id)
  · intro id cycle
    obtain ⟨target, link, -⟩ := Relation.TransGen.head'_iff.mp cycle
    exact noFiber id (isLive_of_returnFiber? link)
  · exact fun id sibling linked => absurd (isLive_of_sibling? linked) (noFiber id)
  · exact fun id => (links_none_of_not_isLive (noFiber id)).2.2.2.1
  · exact fun id => (links_none_of_not_isLive (noFiber id)).2.2.2.2

/-- What stands at an id without links may come, go or change while it has none. -/
theorem exchange {later : Option FiberNode} (forest : arena.Forest)
    (before : ∀ node, arena.get? id = some node → node.Unlinked)
    (unlinked : ∀ node, later = some node → node.Unlinked)
    (lists : after.deletionLists = arena.deletionLists)
    (nodes : ∀ other, after.get? other = if other = id then later else arena.get? other) :
    after.Forest := by
  have absent : ∀ {β : Type} {projection : FiberNode → Option β} {found : Option FiberNode},
      (∀ node, node.Unlinked → projection node = none) →
      (∀ node, found = some node → node.Unlinked) → found.bind projection = none := by
    rintro β projection (_ | node) noLink own
    · rfl
    · exact noLink node (own node rfl)
  have kept : ∀ {β : Type} {projection : FiberNode → Option β},
      (∀ node, node.Unlinked → projection node = none) →
      ∀ other, (after.get? other).bind projection = (arena.get? other).bind projection := by
    intro β projection noLink other
    rw [nodes]
    split
    · rename_i same
      rw [same, absent noLink before, absent noLink unlinked]
    · rfl
  have returns : ∀ other, after.returnFiber? other = arena.returnFiber? other :=
    kept fun _ unlinked => unlinked.returnFiber
  -- The id has no parent and no children, so that no chain names it.
  have noParent : arena.returnFiber? id = none := absent (fun _ own => own.returnFiber) before
  have noChildren : ∀ other, arena.returnFiber? other ≠ some id := by
    intro other linked
    obtain ⟨children, chain, member⟩ := forest.exists_chain_of_returnFiber? linked
    have walk := (childIds_eq_ok_iff.mp chain.collected).2.1
    have childless : arena.child? id = none := absent (fun _ own => own.child) before
    rw [childless, IsWalk.none_iff] at walk
    simp [walk] at member
  refine ⟨?_, ?_, ?_, ?_, ?_, ?_, lists.trans forest.noLists⟩
  · intro parent live
    by_cases same : parent = id
    · subst same
      refine ⟨[], childIds_eq_ok_iff.mpr ⟨live, ?_, by simp⟩, ?_, by simp⟩
      · have childless : after.child? parent = none :=
          (kept (fun _ own => own.child) parent).trans (absent (fun _ own => own.child) before)
        rw [childless]
        rfl
      · intro other
        rw [returns]
        simp [noChildren other]
    · have liveBefore : arena.IsLive parent := by rwa [IsLive, nodes, if_neg same] at live
      obtain ⟨children, chain⟩ := forest.chain parent liveBefore
      refine ⟨children, chain.kept live (kept (fun _ own => own.child) parent)
        ?_ fun other => by rw [returns]⟩
      intro other member found otherLive
      have different : other ≠ id := by
        rintro rfl
        rw [← chain.members, noParent] at member
        cases member
      exact ⟨found, by rw [nodes, if_neg different, otherLive], rfl, rfl⟩
  · intro other parent linked
    rw [returns] at linked
    obtain ⟨found, live⟩ := forest.parentLive other parent linked
    have different : parent ≠ id := by
      rintro rfl
      exact noChildren other linked
    exact ⟨found, by rw [nodes, if_neg different, live]⟩
  · exact forest.acyclic.mono fun other target linked => (returns other).symm.trans linked
  · intro other sibling linked
    rw [returns]
    exact forest.siblingOwned other sibling
      ((kept (fun _ own => own.sibling) other).symm.trans linked)
  · exact fun other => (kept (fun _ own => own.alternate) other).trans (forest.noAlternate other)
  · exact fun other => (kept (fun _ own => own.deletions) other).trans (forest.noDeletions other)

theorem createFiber {node : FiberNode} (forest : arena.Forest) (dead : ¬ arena.IsLive id)
    (unlinked : node.Unlinked) (lists : after.deletionLists = arena.deletionLists)
    (nodes : ∀ other, after.get? other = if other = id then some node else arena.get? other) :
    after.Forest :=
  forest.exchange (fun found live => absurd ⟨found, live⟩ dead)
    (fun _ same => some.inj same ▸ unlinked) lists nodes

/-- A fiber without links is a tree of its own and may be reclaimed. -/
theorem reclaim {node : FiberNode} (forest : arena.Forest) (live : arena.get? id = some node)
    (unlinked : node.Unlinked) (lists : after.deletionLists = arena.deletionLists)
    (nodes : ∀ other, after.get? other = if other = id then none else arena.get? other) :
    after.Forest :=
  forest.exchange (fun _ found => some.inj (live.symm.trans found) ▸ unlinked) (by simp) lists nodes

/-- Relinking the chain of a parent keeps the forest. -/
theorem relink (forest : arena.Forest) (chain : arena.ForestChain parent oldChildren)
    (valid : arena.ValidatesChildren parent children) :
    (arena.relink parent oldChildren children).Forest := by
  have returns := returnFiber?_relink chain.collected valid
  refine ⟨?_, ?_, ?_, ?_, ?_, ?_, deletionLists_relink.trans forest.noLists⟩
  · intro other live
    rw [isLive_relink] at live
    by_cases isParent : other = parent
    · subst isParent
      refine ⟨children, childIds_relink chain.collected valid, ?_, ?_⟩
      · intro id
        rw [returns]
        split
        · rename_i isNew
          simp [isNew]
        · rename_i notNew
          split
          · simp [notNew]
          · rename_i notOld
            rw [chain.members]
            simp [notOld, notNew]
      · intro index child found
        obtain ⟨node, childLive, -⟩ := (valid.accepts (mem_of_getElem? found)).unowned
        exact ⟨_, by rw [get?_relink_of_getElem? valid found, childLive]; rfl, rfl⟩
    · obtain ⟨others, otherChain⟩ := forest.chain other live
      -- The members of another chain have another parent.
      have notNew : ∀ id, arena.returnFiber? id = some other → id ∉ children := by
        intro id own isNew
        obtain ⟨node, childLive, owner⟩ := (valid.accepts isNew).unowned
        rw [returnFiber?_of_get? childLive] at own
        rcases owner with unowned | owned
        · rw [unowned] at own
          cases own
        · exact isParent (some.inj (own.symm.trans owned))
      have notOld : ∀ id, arena.returnFiber? id = some other → id ∉ oldChildren := by
        intro id own
        exact chain.disjoint otherChain isParent ((otherChain.members id).mp own)
      refine ⟨others, otherChain.kept (isLive_relink.mpr live) ?_ ?_ ?_⟩
      · rw [child?_relink chain.collected valid, if_neg isParent]
      · intro id member node found
        have own := (otherChain.members id).mpr member
        refine ⟨_, by rw [get?_relink_of_not_mem (notOld id own) (notNew id own), found]; rfl, ?_⟩
        split
        · exact ⟨rfl, rfl⟩
        · exact ⟨rfl, rfl⟩
      · intro id
        constructor
        · intro own
          rw [returns] at own
          split at own
          · exact absurd (some.inj own).symm isParent
          · split at own
            · cases own
            · exact own
        · intro own
          rw [returns, if_neg (notNew id own), if_neg (notOld id own), own]
  · intro id owner linked
    rw [isLive_relink]
    rw [returns] at linked
    split at linked
    · cases linked
      exact (childIds_eq_ok_iff.mp chain.collected).1
    · split at linked
      · cases linked
      · exact forest.parentLive id owner linked
  · refine @Acyclic.relink _ _ _ {id | id ∈ children} parent forest.acyclic ?_ ?_
    · intro id linked isLinked
      rw [returns] at isLinked
      split at isLinked
      · rename_i isNew
        exact .inr ⟨isNew, (some.inj isLinked).symm⟩
      · split at isLinked
        · cases isLinked
        · exact .inl isLinked
    · intro id isNew
      exact not_reaches_of_isAncestor (valid.accepts isNew).notAncestor
  · intro id sibling linked
    rw [returns]
    split
    · exact ⟨parent, rfl⟩
    · rename_i notNew
      split
      · rename_i wasOld
        rw [(links_relink_of_left_out chain.collected wasOld notNew).1] at linked
        cases linked
      · rename_i notOld
        rw [(links_relink_of_not_mem notOld notNew).1] at linked
        exact forest.siblingOwned id sibling linked
  · intro id
    rw [alternate?_relink chain.collected valid]
    exact forest.noAlternate id
  · intro id
    rw [deletions?_relink chain.collected valid]
    exact forest.noDeletions id

theorem setChildren (forest : arena.Forest) (parent : FiberId) (children : List FiberId) :
    (stateAfter ((FastReact.setChildren parent children).run arena)).Forest := by
  rcases run_setChildren arena parent children with
    ⟨-, error, refused⟩ | ⟨oldChildren, valid, collected, ran⟩
  · rw [refused, stateAfter]
    exact forest
  · obtain ⟨chained, chain⟩ := forest.chain parent (childIds_eq_ok_iff.mp collected).1
    cases collected.symm.trans chain.collected
    rw [ran, stateAfter]
    exact forest.relink chain valid

theorem performForest (forest : arena.Forest) (operation : ForestOperation) :
    (arena.performForest operation).Forest := by
  cases operation with
  | createFiber tag key pendingProps mode =>
    obtain ⟨id, after, ran, dead, lists, nodes⟩ := run_createFiber arena tag key pendingProps mode
    rw [FiberArena.performForest, ForestOperation.run, run_bind, ran]
    exact forest.createFiber dead ⟨rfl, rfl, rfl, rfl, rfl⟩ lists nodes
  | setChildren parent children => exact forest.setChildren parent children
  | appendChild parent child =>
    rcases run_appendChild arena parent child with
      ⟨error, refused⟩ | ⟨children, collected, ran⟩
    · rw [FiberArena.performForest, ForestOperation.run, refused, stateAfter]
      exact forest
    · rw [FiberArena.performForest, ForestOperation.run, ran]
      exact forest.setChildren parent (children ++ [child])
  | reclaimFiber id =>
    rcases run_reclaimFiberAfterCleanup arena id with
      ⟨error, refused⟩ | ⟨node, after, ran, live, unlinked, -, lists, nodes⟩
    · rw [FiberArena.performForest, ForestOperation.run, refused, stateAfter]
      exact forest
    · rw [FiberArena.performForest, ForestOperation.run, ran, stateAfter]
      exact forest.reclaim live unlinked lists nodes

end Forest

namespace Forest

theorem not_self_linked (forest : arena.Forest) (id : FiberId) :
    arena.returnFiber? id ≠ some id ∧ arena.child? id ≠ some id ∧ arena.sibling? id ≠ some id := by
  have noSelfParent : arena.returnFiber? id ≠ some id :=
    fun linked => forest.acyclic id (.single linked)
  refine ⟨noSelfParent, ?_, ?_⟩
  · intro linked
    obtain ⟨children, chain⟩ := forest.chain id (isLive_of_child? linked)
    have walk := (childIds_eq_ok_iff.mp chain.collected).2.1
    have isHead := mem_of_mem_head? (walk.first_eq.symm.trans linked)
    exact noSelfParent ((chain.members id).mpr isHead)
  · intro linked
    obtain ⟨parent, owned⟩ := forest.siblingOwned id id linked
    obtain ⟨children, chain, member⟩ := forest.exists_chain_of_returnFiber? owned
    have walk := (childIds_eq_ok_iff.mp chain.collected).2.1
    obtain ⟨before, behind, rfl⟩ := mem_iff_append.mp member
    have isNext := mem_of_mem_head? (walk.next_eq.symm.trans linked)
    have onceOnly := (nodup_append.mp walk.nodup).2.1
    exact (nodup_cons.mp onceOnly).1 isNext

theorem passesChecks {node : FiberNode} (forest : arena.Forest) (live : arena.get? id = some node) :
    arena.PassesChecks id node := by
  obtain ⟨children, chain⟩ := forest.chain id ⟨node, live⟩
  obtain ⟨notParent, notChild, notSibling⟩ := forest.not_self_linked id
  have parentLive := forest.parentLive id
  have noAlternate := forest.noAlternate id
  have noDeletions := forest.noDeletions id
  rw [returnFiber?_of_get? live] at notParent parentLive
  rw [child?_of_get? live] at notChild
  rw [sibling?_of_get? live] at notSibling
  rw [alternate?_of_get? live] at noAlternate
  rw [deletions?_of_get? live] at noDeletions
  have resolves : ∀ link : Option FiberId, link ≠ some id →
      (∀ target, link = some target → arena.IsLive target) → arena.LinkResolves id link := by
    rintro link notSelf targetLive target rfl
    exact ⟨fun same => notSelf (congrArg some same.symm), targetLive target rfl⟩
  refine ⟨resolves _ notParent parentLive,
    resolves _ notChild fun target linked => forest.childLive ((child?_of_get? live).trans linked),
    resolves _ notSibling fun target linked =>
      forest.siblingLive ((sibling?_of_get? live).trans linked), ?_, ?_, ?_,
    children, chain.collected, ?_⟩
  · intro target linked
    rw [noAlternate] at linked
    cases linked
  · intro target linked
    rw [noAlternate] at linked
    cases linked
  · intro listId named
    rw [noDeletions] at named
    cases named
  · intro index child atIndex
    obtain ⟨childNode, childFound, isIndex⟩ := chain.indices index child atIndex
    have own := (chain.members child).mpr (mem_of_getElem? atIndex)
    rw [returnFiber?_of_get? childFound] at own
    exact ⟨childNode, childFound, own, isIndex⟩

theorem validateTopology (forest : arena.Forest) :
    arena.validateTopology = .ok ⟨arena.nodes.handles.length, 0⟩ := by
  obtain ⟨validation, valid⟩ :=
    validateTopology_ok_iff.mpr fun id node live => forest.passesChecks live
  rw [valid, eq_of_validateTopology valid, forest.noLists]
  rfl

end Forest

/-- An operation that fails leaves the arena as it was. -/
theorem unchanged_of_error {operation : ForestOperation} {error : FiberTopologyError}
    (failed : operation.run.run arena = .error error after) : after = arena := by
  cases operation with
  | createFiber tag key pendingProps mode =>
    cases failed
  | setChildren parent children =>
    rcases run_setChildren arena parent children with
      ⟨-, otherError, refused⟩ | ⟨oldChildren, valid, collected, ran⟩
    · cases refused.symm.trans failed
      rfl
    · cases ran.symm.trans failed
  | appendChild parent child =>
    rcases run_appendChild arena parent child with
      ⟨otherError, refused⟩ | ⟨children, collected, ran⟩
    · cases refused.symm.trans failed
      rfl
    · rcases run_setChildren arena parent (children ++ [child]) with
        ⟨-, otherError, refused⟩ | ⟨oldChildren, valid, collected, ranSet⟩
      · cases (ran.trans refused).symm.trans failed
        rfl
      · cases (ran.trans ranSet).symm.trans failed
  | reclaimFiber id =>
    rcases run_reclaimFiberAfterCleanup arena id with
      ⟨otherError, refused⟩ | ⟨node, after, ran, live, unlinked, -, lists, nodes⟩
    · cases refused.symm.trans failed
      rfl
    · cases ran.symm.trans failed

/-- What the pointers of the fibers agree on. -/
structure PointersAgree (arena : FiberArena) : Prop where
  valid : ∃ validation, arena.validateTopology = .ok validation
  acyclic : Acyclic arena.returnFiber?
  returns : ∀ id parent, arena.returnFiber? id = some parent ↔
    ∃ children, arena.childIds parent = .ok children ∧ children.count id = 1
  once : ∀ parent children, arena.childIds parent = .ok children → children.Nodup
  live : ∀ id target,
    arena.returnFiber? id = some target ∨ arena.child? id = some target ∨
      arena.sibling? id = some target ∨ arena.alternate? id = some target →
    arena.IsLive target

theorem Forest.pointersAgree (forest : arena.Forest) : arena.PointersAgree where
  valid := ⟨_, forest.validateTopology⟩
  acyclic := forest.acyclic
  returns := by
    intro id parent
    constructor
    · intro linked
      obtain ⟨children, chain, member⟩ := forest.exists_chain_of_returnFiber? linked
      have noDuplicates := (childIds_eq_ok_iff.mp chain.collected).2.1.nodup
      exact ⟨children, chain.collected, count_eq_one_of_mem noDuplicates member⟩
    · rintro ⟨children, collected, once⟩
      obtain ⟨chained, chain⟩ := forest.chain parent (childIds_eq_ok_iff.mp collected).1
      cases collected.symm.trans chain.collected
      exact (chain.members id).mpr (count_pos_iff.mp (by omega))
  once := fun parent children collected => (childIds_eq_ok_iff.mp collected).2.1.nodup
  live := by
    rintro id target (isParent | isChild | isSibling | isAlternate)
    · exact forest.parentLive id target isParent
    · exact forest.childLive isChild
    · exact forest.siblingLive isSibling
    · rw [forest.noAlternate] at isAlternate
      cases isAlternate

/-- After every list of operations on an empty arena the pointers agree, and an
operation that fails there changes nothing. -/
theorem pointersAgree_of_operations (operations : List ForestOperation) :
    (operations.foldl performForest new).PointersAgree ∧
    ∀ (operation : ForestOperation) error after,
      operation.run.run (operations.foldl performForest new) = .error error after →
      after = operations.foldl performForest new := by
  refine ⟨?_, fun operation error after => unchanged_of_error⟩
  suffices forest : (operations.foldl performForest new).Forest from forest.pointersAgree
  induction operations using List.reverseRecOn with
  | nil => exact .new
  | append_singleton earlier operation inductionHypothesis =>
    rw [foldl_append]
    exact inductionHypothesis.performForest operation

end FiberArena

end FastReact
