import FastReact.LaneMarking

namespace FastReact

open ErrorState FiberArena LinkWalk List SlotArena

/-!
# Marks along the path of a fiber

In a forest of fibers with paired alternates every call reaches all of its path: the
fiber, its parents up to the last one and the alternates of these.  Later calls only add
lanes, so that what was once marked stays marked.
-/

structure MarkCall where
  sourceFiber : FiberId
  lanes : Lanes
deriving DecidableEq

namespace FiberArena

variable {arena after : FiberArena} {fiber id last : FiberId} {ancestors : List FiberId}

/-- Parents are live fibers and do not form cycles. -/
structure ParentForest (arena : FiberArena) : Prop where
  parentLive : ∀ id parent, arena.returnFiber? id = some parent → arena.IsLive parent
  acyclic : Acyclic arena.returnFiber?

/-- The parents of a fiber, their parents and so on. -/
def Ancestor (arena : FiberArena) (ancestor fiber : FiberId) : Prop :=
  Relation.TransGen (Links arena.returnFiber?) fiber ancestor

/-- A fiber is on the way up from another, or the alternate of one that is. -/
def OnPath (arena : FiberArena) (fiber other : FiberId) : Prop :=
  ∃ met, (met = fiber ∨ arena.Ancestor met fiber) ∧ arena.InPair met other

theorem ParentForest.exists_walk (forest : arena.ParentForest) (live : arena.IsLive fiber) :
    ∃ ancestors, IsWalk arena.returnFiber? (arena.returnFiber? fiber) ancestors ∧
      (∀ id ∈ fiber :: ancestors, arena.IsLive id) ∧
      ancestors.length ≤ arena.nodes.slots.length := by
  have finite : {id | arena.IsLive id}.Finite := by
    apply (finite_toSet arena.nodes.handles).subset
    exact fun id isLive => mem_handles.mpr isLive
  obtain ⟨ancestors, walk⟩ := forest.acyclic.exists_walk finite
    (fun id parent linked => forest.parentLive id parent linked)
    (fun parent linked => forest.parentLive fiber parent linked)
  have alive : ∀ id ∈ ancestors, arena.IsLive id := by
    intro id member
    obtain ⟨child, -, linked⟩ := Relation.TransGen.tail'_iff.mp (walk.mem_iff_leads.mp member)
    exact forest.parentLive child id linked
  refine ⟨ancestors, walk, forall_mem_cons.mpr ⟨live, alive⟩, ?_⟩
  exact length_le_of_nodup walk.nodup alive

end FiberArena

namespace FiberRootStore

variable {start store reached after : FiberRootStore} {fiber : FiberId} {root : FiberRootId}

/-- The store after a list of calls, whatever their outcomes. -/
def markAll (store : FiberRootStore) (calls : List MarkCall) : FiberRootStore :=
  calls.foldl
    (fun store call =>
      stateAfter ((markUpdateLanesFromFiberToRoot call.sourceFiber call.lanes).run store))
    store

/-- The way up from a fiber ends at the HostRoot fiber of a live root. -/
def WalkEndsAt (store : FiberRootStore) (fiber : FiberId) (root : FiberRootId) : Prop :=
  ∃ last node record, (last = fiber ∨ store.fiberArena.Ancestor last fiber) ∧
    store.fiberArena.get? last = some node ∧ node.returnFiber = none ∧
    node.tag = .hostRoot ∧ node.stateNode = some root ∧ store.roots.get? root = some record

structure PathMarked (start : FiberRootStore) (fiber : FiberId) (index : LaneIndex)
    (store : FiberRootStore) : Prop where
  own : ∀ other, start.fiberArena.InPair fiber other →
    ∃ node, store.fiberArena.get? other = some node ∧ node.lanes.containsIndex index = true
  above : ∀ ancestor, start.fiberArena.Ancestor ancestor fiber →
    ∀ other, start.fiberArena.InPair ancestor other →
    ∃ node, store.fiberArena.get? other = some node ∧ node.childLanes.containsIndex index = true
  root : ∀ root, start.WalkEndsAt fiber root →
    ∃ record, store.roots.get? root = some record ∧
      record.lanes.pendingLanes.containsIndex index = true

theorem PathMarked.later {index : LaneIndex} (marked : start.PathMarked fiber index store)
    (grows : store.GrowsTo after) : start.PathMarked fiber index after where
  own := by
    intro other inPair
    obtain ⟨node, live, contains⟩ := marked.own other inPair
    obtain ⟨nodeAfter, liveAfter, grown⟩ := grows.fibers.kept other node live
    exact ⟨nodeAfter, liveAfter, Lanes.isSubsetOf_iff.mp grown.lanes index contains⟩
  above := by
    intro ancestor isAncestor other inPair
    obtain ⟨node, live, contains⟩ := marked.above ancestor isAncestor other inPair
    obtain ⟨nodeAfter, liveAfter, grown⟩ := grows.fibers.kept other node live
    exact ⟨nodeAfter, liveAfter, Lanes.isSubsetOf_iff.mp grown.childLanes index contains⟩
  root := by
    intro root ends
    obtain ⟨record, live, contains⟩ := marked.root root ends
    obtain ⟨recordAfter, liveAfter, -, pending⟩ := grows.roots root record live
    exact ⟨recordAfter, liveAfter, Lanes.isSubsetOf_iff.mp pending index contains⟩

theorem grows_markAll (store : FiberRootStore) (calls : List MarkCall) :
    store.GrowsTo (store.markAll calls) := by
  induction calls generalizing store with
  | nil => exact refl_of FiberRootStore.GrowsTo store
  | cons call rest ih =>
    have first := grows_markUpdateLanesFromFiberToRoot call.sourceFiber call.lanes store
    exact trans_of FiberRootStore.GrowsTo first (ih _)

def SameFibers (store after : FiberRootStore) : Prop :=
  after.fiberArena = store.fiberArena

instance : IsPreorder FiberRootStore SameFibers where
  refl _ := rfl
  trans _ _ _ first second := second.trans first

theorem sameFibers_markRootOfFiber (last : FiberId) (lanes : Lanes) :
    Within SameFibers (markRootOfFiber last lanes) := by
  refine .bind (within_hostRootIdForFiber last) fun root => .bind (.forM (fun index => ?_) _) fun _ => .pure _
  apply within_modifyRoot
  exact fun _ => rfl

theorem run_markRootOfFiber {last : FiberId} {node : FiberNode} {record : FiberRoot}
    (live : store.fiberArena.get? last = some node) (isHostRoot : node.tag = .hostRoot)
    (stateNode : node.stateNode = some root) (rootLive : store.roots.get? root = some record)
    (lanes : Lanes) :
    ∃ roots recordAfter,
      (markRootOfFiber last lanes).run store = .ok root { store with roots := roots } ∧
      roots.get? root = some recordAfter ∧
      recordAfter.current = record.current ∧
      (∀ index, recordAfter.lanes.pendingLanes.containsIndex index =
        (record.lanes.pendingLanes.containsIndex index || lanes.containsIndex index)) ∧
      ∀ other, other ≠ root → roots.get? other = store.roots.get? other := by
  obtain ⟨roots, recordAfter, ran, liveAfter, current, pending, others⟩ :=
    run_markRoot rootLive lanes.indices
  refine ⟨roots, recordAfter, ?_, liveAfter, current, ?_, others⟩
  · have found : (hostRootIdForFiber last).run store = .ok root store := by
      simp only [hostRootIdForFiber, run_bind, run_getFiber live, isHostRoot, stateNode,
        ne_eq, not_true_eq_false, if_false]
      rfl
    simp only [markRootOfFiber, run_bind, found, ran]
    rfl
  · intro index
    simp [pending]

theorem pathMarked_call (forest : start.fiberArena.ParentForest)
    (alternatesLive : start.fiberArena.AlternatesLive) (grown : start.GrowsTo reached)
    (live : start.fiberArena.IsLive fiber) (lanes : Lanes) :
    let after := stateAfter ((markUpdateLanesFromFiberToRoot fiber lanes).run reached)
    (∀ other, ¬ start.fiberArena.OnPath fiber other →
      after.fiberArena.get? other = reached.fiberArena.get? other) ∧
    ∀ index, lanes.containsIndex index = true → start.PathMarked fiber index after := by
  intro after
  obtain ⟨ancestors, walk, pathLive, short⟩ := forest.exists_walk live
  let between : FiberRootStore :=
    { reached with fiberArena := reached.fiberArena.markPath fiber ancestors lanes }
  have ran : (markUpdateLanesFromFiberToRoot fiber lanes).run reached =
      (markRootOfFiber (ancestors.getLastD fiber) lanes).run between := by
    apply run_markUpdateLanesFromFiberToRoot (grown.fibers.alternatesLive alternatesLive)
    · rw [grown.fibers.returnFiber?]
      exact walk
    · exact fun id member => grown.fibers.isLive_iff.mpr (pathLive id member)
    · rw [grown.fibers.slots]
      exact short
  have samePairs : ∀ first other, reached.fiberArena.InPair first other ↔
      start.fiberArena.InPair first other := by
    intro first other
    rw [FiberArena.InPair, FiberArena.InPair, grown.fibers.alternate?]
  have sameFibers : after.fiberArena = reached.fiberArena.markPath fiber ancestors lanes := by
    have kept := sameFibers_markRootOfFiber (ancestors.getLastD fiber) lanes between
    rwa [← ran] at kept
  have marked := get?_markPath reached.fiberArena fiber ancestors lanes
  rw [← sameFibers] at marked
  have aboveIff : ∀ other, (∃ ancestor ∈ ancestors, reached.fiberArena.InPair ancestor other) ↔
      ∃ ancestor, start.fiberArena.Ancestor ancestor fiber ∧
        start.fiberArena.InPair ancestor other := by
    intro other
    simp only [samePairs, walk.mem_iff_leads]
    rfl
  refine ⟨?_, fun index contains => ⟨?_, ?_, ?_⟩⟩
  · intro other offPath
    have notOwn : ¬ reached.fiberArena.InPair fiber other := by
      rw [samePairs]
      exact fun inPair => offPath ⟨fiber, .inl rfl, inPair⟩
    have notAbove : ¬ ∃ ancestor ∈ ancestors, reached.fiberArena.InPair ancestor other := by
      rw [aboveIff]
      rintro ⟨ancestor, isAncestor, inPair⟩
      exact offPath ⟨ancestor, .inr isAncestor, inPair⟩
    simp [marked, if_neg notOwn, if_neg notAbove]
  · intro other inPair
    have alive : reached.fiberArena.IsLive other := by
      apply grown.fibers.isLive_iff.mpr
      rcases inPair with rfl | linked
      · exact live
      · exact alternatesLive fiber other linked
    obtain ⟨node, found⟩ := alive
    rw [marked, found]
    exact ⟨_, rfl, by simp [if_pos ((samePairs _ _).mpr inPair), contains]⟩
  · intro ancestor isAncestor other inPair
    have alive : reached.fiberArena.IsLive other := by
      apply grown.fibers.isLive_iff.mpr
      rcases inPair with rfl | linked
      · exact pathLive other (mem_cons_of_mem fiber (walk.mem_iff_leads.mpr isAncestor))
      · exact alternatesLive ancestor other linked
    have isAbove := (aboveIff other).mpr ⟨ancestor, isAncestor, inPair⟩
    obtain ⟨node, found⟩ := alive
    rw [marked, found]
    exact ⟨_, rfl, by simp [if_pos isAbove, contains]⟩
  · rintro root ⟨last, node, record, reaches, found, ends, isHostRoot, stateNode, rootLive⟩
    obtain ⟨recordReached, rootReached, -⟩ := grown.roots root record rootLive
    have isLast : ancestors.getLastD fiber = last :=
      walk.getLastD_eq reaches ((returnFiber?_of_get? found).trans ends)
    have toBetween := grown.fibers.trans
      (FiberArena.GrowsTo.markPath reached.fiberArena fiber ancestors lanes)
    obtain ⟨nodeBetween, foundBetween, grownNode⟩ := toBetween.kept last node found
    have sameTag : nodeBetween.tag = node.tag := by rw [grownNode.same]
    have sameStateNode : nodeBetween.stateNode = node.stateNode := by rw [grownNode.same]
    have rootBetween : between.roots.get? root = some recordReached := rootReached
    obtain ⟨roots, recordAfter, marks, rootAfter, -, pending, -⟩ :=
      @run_markRootOfFiber between root last nodeBetween recordReached foundBetween
        (sameTag.trans isHostRoot) (sameStateNode.trans stateNode) rootBetween lanes
    have isAfter : after = { between with roots := roots } := by
      change stateAfter _ = _
      rw [ran, isLast, marks]
      rfl
    rw [isAfter]
    exact ⟨recordAfter, rootAfter, by simp [pending, contains]⟩

/-- In a forest with paired alternates every call of a list leaves what is off its path as it
was, and from then on, whatever is called later, its lanes are on the fiber, among the
children's lanes of its ancestors, on the alternates of all of these and pending on the root
its walk ends at. -/
theorem marked_lanes_reach_path
    (forest : start.fiberArena.ParentForest)
    (paired : start.fiberArena.PairedAlternates)
    (before : List MarkCall)
    (call : MarkCall) :
    (∀ other, ¬ start.fiberArena.OnPath call.sourceFiber other →
      (start.markAll (before ++ [call])).fiberArena.get? other =
        (start.markAll before).fiberArena.get? other) ∧
    (start.fiberArena.IsLive call.sourceFiber →
      ∀ index, call.lanes.containsIndex index = true →
      ∀ later, start.PathMarked call.sourceFiber index
        (start.markAll (before ++ call :: later))) := by
  have grown := grows_markAll start before
  have stepped : ∀ later, start.markAll (before ++ call :: later) =
      (stateAfter ((markUpdateLanesFromFiberToRoot call.sourceFiber call.lanes).run
        (start.markAll before))).markAll later := by
    intro later
    rw [markAll, foldl_append]
    rfl
  constructor
  · intro other offPath
    rw [stepped []]
    by_cases live : start.fiberArena.IsLive call.sourceFiber
    · exact (pathMarked_call forest paired.alternatesLive grown live call.lanes).1 other offPath
    · have deadReached : ¬ (start.markAll before).fiberArena.IsLive call.sourceFiber :=
        fun alive => live (grown.fibers.isLive_iff.mp alive)
      obtain ⟨error, failed⟩ := run_markUpdateLanesFromFiberToRoot_of_dead deadReached call.lanes
      rw [failed]
      rfl
  · intro live index contains later
    rw [stepped later]
    have marked := (pathMarked_call forest paired.alternatesLive grown live call.lanes).2 index contains
    exact marked.later (grows_markAll _ later)

/-- A root with a child, and the work in progress of both. -/
def childWithWorkInProgress : FiberRootStore :=
  stateAfter ((do
    let _ ← createClientRoot .none .concurrent
    let child ← onFibers .fiberTopology (createFiber .functionComponent none .none .concurrent)
    onFibers .fiberTopology (setChildren ⟨0, 0⟩ [child])
    let _ ← onFibers .fiberTopology (createWorkInProgress ⟨0, 0⟩ .none)
    let _ ← onFibers .fiberTopology (createWorkInProgress child .none) :
      RootStoreM FiberRootStoreError Unit).run .new)

theorem parentForest_childWithWorkInProgress : childWithWorkInProgress.fiberArena.ParentForest := by
  have parents : ∀ id ∈ childWithWorkInProgress.fiberArena.nodes.handles,
      ∀ parent ∈ childWithWorkInProgress.fiberArena.returnFiber? id,
      parent ∈ childWithWorkInProgress.fiberArena.nodes.handles ∧ parent.slot < id.slot := by
    decide
  have ofLink : ∀ id parent, childWithWorkInProgress.fiberArena.returnFiber? id = some parent →
      parent ∈ childWithWorkInProgress.fiberArena.nodes.handles ∧ parent.slot < id.slot := by
    intro id parent linked
    exact parents id (mem_handles.mpr (isLive_of_returnFiber? linked)) parent linked
  exact ⟨fun id parent linked => mem_handles.mp (ofLink id parent linked).1,
    .of_rank Handle.slot fun id parent linked => (ofLink id parent linked).2⟩

theorem pairedAlternates_childWithWorkInProgress :
    childWithWorkInProgress.fiberArena.PairedAlternates := by
  have alternates : ∀ id ∈ childWithWorkInProgress.fiberArena.nodes.handles,
      ∀ alternate ∈ childWithWorkInProgress.fiberArena.alternate? id,
      childWithWorkInProgress.fiberArena.alternate? alternate = some id := by
    decide
  apply pairedAlternates_iff.mpr
  intro id alternate linked
  exact alternates id (mem_handles.mpr (isLive_of_alternate? linked)) alternate linked

/-- The lanes marked from the child are still there after a further call. -/
theorem marked_lanes_reach_path_sample :
    childWithWorkInProgress.PathMarked ⟨1, 0⟩ 5
      (childWithWorkInProgress.markAll
        [⟨⟨0, 0⟩, .sync⟩, ⟨⟨1, 0⟩, .default⟩, ⟨⟨3, 0⟩, .transition⟩]) :=
  (marked_lanes_reach_path parentForest_childWithWorkInProgress
    pairedAlternates_childWithWorkInProgress [⟨⟨0, 0⟩, .sync⟩] ⟨⟨1, 0⟩, .default⟩).2
    ⟨_, rfl⟩ 5 (by decide) [⟨⟨3, 0⟩, .transition⟩]

end FiberRootStore

end FastReact
