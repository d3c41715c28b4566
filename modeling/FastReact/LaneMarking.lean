import FastReact.FiberAlternates
import FastReact.RootFrames

namespace FastReact

open ConcurrentUpdateError ErrorState FiberArena FiberNode FiberRoot Lanes LinkWalk Option SlotArena

/-!
# Marking lanes up to the root

An update marks its lanes on its fiber, on every parent up to the last and on the
alternates of all of these.  Marking changes no pointer, so that the parents met are those
of the start, whatever has been marked since.
-/

theorem Lanes.merge_merge (lanes other : Lanes) :
    (lanes.merge other).merge other = lanes.merge other := by
  apply ext_index
  intro index
  simp

namespace FiberNode

def mergeChildLanes (node : FiberNode) (lanes : Lanes) : FiberNode :=
  { node with childLanes := node.childLanes.merge lanes }

structure GrowsTo (node after : FiberNode) : Prop where
  same : after = { node with lanes := after.lanes, childLanes := after.childLanes }
  lanes : node.lanes.isSubsetOf after.lanes = true
  childLanes : node.childLanes.isSubsetOf after.childLanes = true

namespace GrowsTo

variable {node between after : FiberNode}

theorem refl (node : FiberNode) : node.GrowsTo node where
  same := rfl
  lanes := isSubsetOf_refl _
  childLanes := isSubsetOf_refl _

theorem trans (first : node.GrowsTo between) (second : between.GrowsTo after) :
    node.GrowsTo after where
  same := by rw [second.same, first.same]
  lanes := isSubsetOf_trans first.lanes second.lanes
  childLanes := isSubsetOf_trans first.childLanes second.childLanes

theorem mergeLanes (node : FiberNode) (lanes : Lanes) : node.GrowsTo (node.mergeLanes lanes) where
  same := rfl
  lanes := isSubsetOf_merge_left _ _
  childLanes := isSubsetOf_refl _

theorem mergeChildLanes (node : FiberNode) (lanes : Lanes) :
    node.GrowsTo (node.mergeChildLanes lanes) where
  same := rfl
  lanes := isSubsetOf_refl _
  childLanes := isSubsetOf_merge_left _ _

theorem returnFiber (grows : node.GrowsTo after) : after.returnFiber = node.returnFiber := by
  rw [grows.same]

theorem alternate (grows : node.GrowsTo after) : after.alternate = node.alternate := by
  rw [grows.same]

end GrowsTo

end FiberNode

namespace FiberArena

variable {arena between after : FiberArena} {fiber other id : FiberId}

/-- The fibers are the same but for more lanes. -/
structure GrowsTo (arena after : FiberArena) : Prop where
  kept : ∀ id node, arena.get? id = some node →
    ∃ nodeAfter, after.get? id = some nodeAfter ∧ node.GrowsTo nodeAfter
  dead : ∀ id, arena.get? id = none → after.get? id = none
  slots : after.nodes.slots.length = arena.nodes.slots.length
  deletionLists : after.deletionLists = arena.deletionLists

namespace GrowsTo

theorem refl (arena : FiberArena) : arena.GrowsTo arena where
  kept := fun _ node live => ⟨node, live, .refl node⟩
  dead := fun _ absent => absent
  slots := rfl
  deletionLists := rfl

theorem trans (first : arena.GrowsTo between) (second : between.GrowsTo after) :
    arena.GrowsTo after where
  kept := by
    intro id node live
    obtain ⟨nodeBetween, liveBetween, firstGrows⟩ := first.kept id node live
    obtain ⟨nodeAfter, liveAfter, secondGrows⟩ := second.kept id nodeBetween liveBetween
    exact ⟨nodeAfter, liveAfter, firstGrows.trans secondGrows⟩
  dead := fun id absent => second.dead id (first.dead id absent)
  slots := second.slots.trans first.slots
  deletionLists := second.deletionLists.trans first.deletionLists

theorem changeFiber {change : FiberNode → FiberNode}
    (grows : ∀ node : FiberNode, node.GrowsTo (change node)) (arena : FiberArena)
    (fiber : FiberId) : arena.GrowsTo (arena.changeFiber fiber change) where
  kept := by
    intro id node live
    rw [get?_changeFiber, live]
    by_cases isChanged : id = fiber
    · rw [if_pos isChanged]
      exact ⟨change node, rfl, grows node⟩
    · rw [if_neg isChanged]
      exact ⟨node, rfl, .refl node⟩
  dead := by
    intro id absent
    rw [get?_changeFiber, absent, map_none, ite_self]
  slots := List.length_modify _ _ _
  deletionLists := rfl

section

variable (grows : arena.GrowsTo after)
include grows

theorem isLive_iff : after.IsLive id ↔ arena.IsLive id := by
  constructor
  · rintro ⟨nodeAfter, live⟩
    by_contra dead
    have absent : arena.get? id = none := by
      rw [eq_none_iff_forall_ne_some]
      exact fun node found => dead ⟨node, found⟩
    rw [grows.dead id absent] at live
    cases live
  · rintro ⟨node, live⟩
    obtain ⟨nodeAfter, liveAfter, -⟩ := grows.kept id node live
    exact ⟨nodeAfter, liveAfter⟩

theorem links (id : FiberId) :
    after.returnFiber? id = arena.returnFiber? id ∧ after.alternate? id = arena.alternate? id := by
  cases found : arena.get? id with
  | none => simp [returnFiber?, alternate?, found, grows.dead id found]
  | some node =>
    obtain ⟨nodeAfter, foundAfter, grown⟩ := grows.kept id node found
    simp [returnFiber?, alternate?, found, foundAfter, grown.returnFiber, grown.alternate]

theorem returnFiber? : after.returnFiber? = arena.returnFiber? :=
  funext fun id => (grows.links id).1

theorem alternate? : after.alternate? = arena.alternate? :=
  funext fun id => (grows.links id).2

end

end GrowsTo

/-- A fiber is another one or its alternate. -/
def InPair (arena : FiberArena) (fiber other : FiberId) : Prop :=
  other = fiber ∨ arena.alternate? fiber = some other

instance (arena : FiberArena) (fiber other : FiberId) : Decidable (arena.InPair fiber other) :=
  inferInstanceAs (Decidable (_ ∨ _))

def AlternatesLive (arena : FiberArena) : Prop :=
  ∀ fiber alternate, arena.alternate? fiber = some alternate → arena.IsLive alternate

theorem GrowsTo.alternatesLive (grows : arena.GrowsTo after)
    (alternatesLive : arena.AlternatesLive) : after.AlternatesLive := by
  intro fiber alternate linked
  rw [grows.alternate?] at linked
  exact grows.isLive_iff.mpr (alternatesLive fiber alternate linked)

theorem PairedAlternates.alternatesLive (paired : arena.PairedAlternates) :
    arena.AlternatesLive := by
  intro fiber alternate linked
  obtain ⟨node, live, -⟩ := paired.reciprocal fiber alternate linked
  exact ⟨node, live⟩

def changePair (arena : FiberArena) (fiber : FiberId) (change : FiberNode → FiberNode) :
    FiberArena :=
  (arena.alternate? fiber).elim (arena.changeFiber fiber change) fun alternate =>
    (arena.changeFiber fiber change).changeFiber alternate change

variable {change : FiberNode → FiberNode}

theorem GrowsTo.changePair (grows : ∀ node : FiberNode, node.GrowsTo (change node))
    (arena : FiberArena) (fiber : FiberId) : arena.GrowsTo (arena.changePair fiber change) := by
  unfold FiberArena.changePair
  cases arena.alternate? fiber with
  | none => exact .changeFiber grows arena fiber
  | some alternate =>
    exact (GrowsTo.changeFiber grows arena fiber).trans (.changeFiber grows _ alternate)

theorem get?_changePair (idempotent : ∀ node, change (change node) = change node)
    (arena : FiberArena) (fiber other : FiberId) :
    (arena.changePair fiber change).get? other =
      if arena.InPair fiber other then (arena.get? other).map change else arena.get? other := by
  have reaches : arena.InPair fiber other ↔
      other = fiber ∨ arena.alternate? fiber = some other := Iff.rfl
  by_cases inPair : arena.InPair fiber other
  · rw [if_pos inPair, changePair]
    rw [reaches] at inPair
    cases alternative : arena.alternate? fiber with
    | none =>
      have isFiber : other = fiber := inPair.resolve_right (by simp [alternative])
      exact (get?_changeFiber arena fiber other change).trans (if_pos isFiber)
    | some alternate =>
      rw [elim_some, get?_changeFiber, get?_changeFiber]
      by_cases isFiber : other = fiber
      · by_cases isAlternate : other = alternate
        · simp [if_pos isFiber, Function.comp_def, idempotent]
        · rw [if_neg isAlternate, if_pos isFiber]
      · have linked := (inPair.resolve_left isFiber).symm.trans alternative
        rw [if_pos (some.inj linked), if_neg isFiber]
  · rw [if_neg inPair, changePair]
    rw [reaches, not_or] at inPair
    cases alternative : arena.alternate? fiber with
    | none => simp [get?_changeFiber, inPair.1]
    | some alternate =>
      have different : other ≠ alternate := by
        rintro rfl
        exact inPair.2 alternative
      simp [get?_changeFiber, inPair.1, different]

def changePairs (arena : FiberArena) (fibers : List FiberId) (change : FiberNode → FiberNode) :
    FiberArena :=
  fibers.foldl (fun arena fiber => arena.changePair fiber change) arena

section

variable (grows : ∀ node : FiberNode, node.GrowsTo (change node))
include grows

theorem GrowsTo.changePairs (arena : FiberArena) (fibers : List FiberId) :
    arena.GrowsTo (arena.changePairs fibers change) := by
  induction fibers generalizing arena with
  | nil => exact .refl arena
  | cons fiber rest ih =>
    exact (GrowsTo.changePair grows arena fiber).trans (ih _)

theorem get?_changePairs
    (idempotent : ∀ node, change (change node) = change node) (arena : FiberArena)
    (fibers : List FiberId) (other : FiberId) :
    (arena.changePairs fibers change).get? other =
      if ∃ fiber ∈ fibers, arena.InPair fiber other then (arena.get? other).map change
      else arena.get? other := by
  induction fibers generalizing arena with
  | nil => simp [changePairs]
  | cons fiber rest ih =>
    have samePairs : ∀ first, (arena.changePair fiber change).InPair first other ↔
        arena.InPair first other := by
      intro first
      rw [InPair, InPair, (GrowsTo.changePair grows arena fiber).alternate?]
    have later := ih (arena.changePair fiber change)
    simp only [samePairs, get?_changePair idempotent] at later
    rw [show arena.changePairs (fiber :: rest) change =
      (arena.changePair fiber change).changePairs rest change from rfl, later]
    by_cases isFirst : arena.InPair fiber other
    · by_cases isLater : ∃ first ∈ rest, arena.InPair first other
      · simp [isFirst, isLater, Function.comp_def, idempotent]
      · simp [isFirst, isLater]
    · simp [isFirst]

end

/-- The lanes of a pair and the children's lanes of the pairs above it are merged. -/
def markPath (arena : FiberArena) (fiber : FiberId) (ancestors : List FiberId) (lanes : Lanes) :
    FiberArena :=
  (arena.changePair fiber (·.mergeLanes lanes)).changePairs ancestors (·.mergeChildLanes lanes)

section

variable (arena : FiberArena) (fiber : FiberId) (ancestors : List FiberId) (lanes : Lanes)

theorem GrowsTo.markPath : arena.GrowsTo (arena.markPath fiber ancestors lanes) :=
  (changePair (FiberNode.GrowsTo.mergeLanes · lanes) arena fiber).trans
    (changePairs (FiberNode.GrowsTo.mergeChildLanes · lanes) _ ancestors)

theorem get?_markPath (other : FiberId) :
    (arena.markPath fiber ancestors lanes).get? other = (arena.get? other).map fun node =>
      { node with
        lanes := if arena.InPair fiber other then node.lanes.merge lanes else node.lanes
        childLanes :=
          if ∃ ancestor ∈ ancestors, arena.InPair ancestor other then node.childLanes.merge lanes
          else node.childLanes } := by
  have samePairs : ∀ first,
      (arena.changePair fiber (·.mergeLanes lanes)).InPair first other ↔ arena.InPair first other := by
    intro first
    rw [InPair, InPair,
      (GrowsTo.changePair (FiberNode.GrowsTo.mergeLanes · lanes) arena fiber).alternate?]
  rw [markPath, get?_changePairs (FiberNode.GrowsTo.mergeChildLanes · lanes), get?_changePair]
  · simp only [samePairs]
    cases arena.get? other with
    | none => simp
    | some node =>
      by_cases isSource : arena.InPair fiber other <;>
        by_cases isAbove : ∃ ancestor ∈ ancestors, arena.InPair ancestor other <;>
        simp [isSource, isAbove, mergeLanes, mergeChildLanes]
  · simp [mergeLanes, merge_merge]
  · simp [mergeChildLanes, merge_merge]

end

end FiberArena

/-- The roots are there with their current fibers and at least their pending lanes. -/
def RootsGrow (roots after : SlotArena FiberRootTag FiberRoot) : Prop :=
  ∀ root record, roots.get? root = some record →
    ∃ recordAfter, after.get? root = some recordAfter ∧
      recordAfter.current = record.current ∧
      record.lanes.pendingLanes.isSubsetOf recordAfter.lanes.pendingLanes = true

namespace RootsGrow

variable {roots between after : SlotArena FiberRootTag FiberRoot}

theorem refl (roots : SlotArena FiberRootTag FiberRoot) : RootsGrow roots roots :=
  fun _ record live => ⟨record, live, rfl, isSubsetOf_refl _⟩

theorem trans (first : RootsGrow roots between) (second : RootsGrow between after) :
    RootsGrow roots after := by
  intro root record live
  obtain ⟨recordBetween, liveBetween, current, pending⟩ := first root record live
  obtain ⟨recordAfter, liveAfter, currentAfter, pendingAfter⟩ :=
    second root recordBetween liveBetween
  exact ⟨recordAfter, liveAfter, currentAfter.trans current, isSubsetOf_trans pending pendingAfter⟩

theorem markUpdated (roots : SlotArena FiberRootTag FiberRoot) (root : FiberRootId) (lane : Lane) :
    RootsGrow roots (roots.modify root (onLanes (·.markUpdated lane))) := by
  intro id record live
  rw [get?_modify, live]
  by_cases isRoot : id = root
  · rw [if_pos isRoot]
    refine ⟨_, rfl, rfl, ?_⟩
    rw [onLanes, RootLaneState.pendingLanes_markUpdated]
    exact isSubsetOf_merge_left _ _
  · rw [if_neg isRoot]
    exact ⟨record, rfl, rfl, isSubsetOf_refl _⟩

end RootsGrow

/-- The store is the same but for more lanes. -/
structure FiberRootStore.GrowsTo (store after : FiberRootStore) : Prop where
  same : after = { store with fiberArena := after.fiberArena, roots := after.roots }
  fibers : store.fiberArena.GrowsTo after.fiberArena
  roots : RootsGrow store.roots after.roots

instance : IsPreorder FiberRootStore FiberRootStore.GrowsTo where
  refl store := ⟨rfl, .refl _, .refl _⟩
  trans store between after first second :=
    ⟨by rw [second.same, first.same], first.fibers.trans second.fibers,
      first.roots.trans second.roots⟩

/-- Change a fiber and its alternate in the store. -/
def modifyPair (fiber : FiberId) (change : FiberNode → FiberNode) : ConcurrentUpdateM Unit := do
  onFibers .fiberTopology <| modifyFiber fiber change
  match (← getFiber .fiberTopology fiber).alternate with
  | some alternate => onFibers .fiberTopology <| modifyFiber alternate change
  | none => pure ()

theorem markSourceFiberLanes_eq (fiber : FiberId) (lanes : Lanes) :
    markSourceFiberLanes fiber lanes = modifyPair fiber (·.mergeLanes lanes) :=
  rfl

def markRootOfFiber (last : FiberId) (lanes : Lanes) : ConcurrentUpdateM FiberRootId := do
  let root ← hostRootIdForFiber last
  lanes.indices.forM fun index =>
    modifyRoot .fiberRootStore root (FiberRoot.onLanes (·.markUpdated index.lane))
  return root

section Runs

variable {store : FiberRootStore} {fiber : FiberId} {ancestors : List FiberId}
  {change : FiberNode → FiberNode}

theorem get_eq_error_of_dead {arena : FiberArena} (dead : ¬ arena.IsLive fiber) :
    ∃ error, error ≠ .endlessReturnPath ∧ arena.get fiber = .error error := by
  cases found : arena.nodes.find fiber with
  | ok node => exact absurd ⟨node, find_eq_ok_iff.mp found⟩ dead
  | error error =>
    refine ⟨FiberTopologyError.ofLookup fiber error, ?_, ?_⟩
    · cases error <;> simp [FiberTopologyError.ofLookup]
    · rw [FiberArena.get, found]
      rfl

theorem run_onFibers_modifyFiber_of_dead (dead : ¬ store.fiberArena.IsLive fiber)
    (change : FiberNode → FiberNode) :
    ∃ error, error ≠ .endlessReturnPath ∧
      (onFibers fiberTopology (modifyFiber fiber change)).run store =
        .error (.fiberTopology error) store := by
  obtain ⟨error, notEndless, failed⟩ := get_eq_error_of_dead dead
  refine ⟨error, notEndless, ?_⟩
  simp only [onFibers, run_mapError, run_focus, modifyFiber, run_bind, run_query, failed]

theorem run_onFibers_modifyFiber (live : store.fiberArena.IsLive fiber)
    (change : FiberNode → FiberNode) :
    (onFibers fiberTopology (modifyFiber fiber change)).run store =
      .ok () { store with fiberArena := store.fiberArena.changeFiber fiber change } := by
  obtain ⟨node, live⟩ := live
  exact run_onFibers (run_modifyFiber live change) _

theorem run_modifyPair_of_dead (dead : ¬ store.fiberArena.IsLive fiber)
    (change : FiberNode → FiberNode) :
    ∃ error, (modifyPair fiber change).run store = .error error store := by
  obtain ⟨error, -, failed⟩ := run_onFibers_modifyFiber_of_dead dead change
  refine ⟨.fiberTopology error, ?_⟩
  simp only [modifyPair, run_bind, failed]

/-- A change of a pair is made in full, in part when the alternate does not resolve, or not
at all. -/
theorem run_modifyPair_cases (keeps : ∀ node, (change node).alternate = node.alternate)
    (store : FiberRootStore) (fiber : FiberId) :
    (∃ error, ¬ store.fiberArena.IsLive fiber ∧
      (modifyPair fiber change).run store = .error error store) ∨
    (store.fiberArena.IsLive fiber ∧
      (∀ alternate, store.fiberArena.alternate? fiber = some alternate →
        store.fiberArena.IsLive alternate) ∧
      (modifyPair fiber change).run store =
        .ok () { store with fiberArena := store.fiberArena.changePair fiber change }) ∨
    ∃ alternate error, store.fiberArena.IsLive fiber ∧
      store.fiberArena.alternate? fiber = some alternate ∧
      ¬ store.fiberArena.IsLive alternate ∧
      error ≠ .endlessReturnPath ∧
      (modifyPair fiber change).run store =
        .error (.fiberTopology error)
          { store with fiberArena := store.fiberArena.changeFiber fiber change } := by
  by_cases live : store.fiberArena.IsLive fiber
  · obtain ⟨node, found⟩ := live
    have changed := run_onFibers_modifyFiber ⟨node, found⟩ change
    let between : FiberRootStore :=
      { store with fiberArena := store.fiberArena.changeFiber fiber change }
    have foundBetween : between.fiberArena.get? fiber = some (change node) := by
      rw [get?_changeFiber, if_pos rfl, found]
      rfl
    have resolved := run_getFiber foundBetween fiberTopology
    have links := alternate?_of_get? found
    cases alternative : node.alternate with
    | none =>
      refine .inr (.inl ⟨⟨node, found⟩, ?_, ?_⟩)
      · intro alternate linked
        rw [links, alternative] at linked
        cases linked
      · simp only [modifyPair, run_bind, changed]
        rw [show (getFiber fiberTopology fiber).run
          { store with fiberArena := store.fiberArena.changeFiber fiber change } = _ from resolved]
        simp only [keeps, alternative, changePair, links, elim_none]
        rfl
    | some alternate =>
      have rest : (modifyPair fiber change).run store =
          (onFibers fiberTopology (modifyFiber alternate change)).run between := by
        simp only [modifyPair, run_bind, changed]
        rw [show (getFiber fiberTopology fiber).run
          { store with fiberArena := store.fiberArena.changeFiber fiber change } = _ from resolved]
        simp only [keeps, alternative, between]
      rw [rest, links]
      by_cases alternateLive : store.fiberArena.IsLive alternate
      · refine .inr (.inl ⟨⟨node, found⟩, ?_, ?_⟩)
        · intro other linked
          rw [alternative] at linked
          rwa [← some.inj linked]
        · rw [run_onFibers_modifyFiber (isLive_changeFiber.mpr alternateLive)]
          simp only [changePair, links, alternative, elim_some, between]
      · obtain ⟨error, notEndless, failed⟩ := @run_onFibers_modifyFiber_of_dead between
          alternate (fun alive => alternateLive (isLive_changeFiber.mp alive)) change
        exact .inr (.inr
          ⟨alternate, error, ⟨node, found⟩, alternative, alternateLive, notEndless, failed⟩)
  · obtain ⟨error, failed⟩ := run_modifyPair_of_dead live change
    exact .inl ⟨error, live, failed⟩

/-- Where alternates are live, a live fiber and its alternate get their lanes. -/
theorem run_modifyPair (grows : ∀ node : FiberNode, node.GrowsTo (change node))
    (alternatesLive : store.fiberArena.AlternatesLive) (live : store.fiberArena.IsLive fiber) :
    (modifyPair fiber change).run store =
      .ok () { store with fiberArena := store.fiberArena.changePair fiber change } := by
  have keeps : ∀ node, (change node).alternate = node.alternate :=
    fun node => (grows node).alternate
  rcases run_modifyPair_cases keeps store fiber with
    ⟨-, dead, -⟩ | ⟨-, -, ran⟩ | ⟨alternate, -, -, linked, dead, -, -⟩
  · exact absurd live dead
  · exact ran
  · exact absurd (alternatesLive fiber alternate linked) dead

theorem run_walkToHostRoot {visit : FiberId → ConcurrentUpdateM Unit}
    {visited : FiberArena → FiberId → FiberArena} {rounds : Nat}
    (grows : ∀ (arena : FiberArena) id, arena.GrowsTo (visited arena id))
    (visits : ∀ id ∈ ancestors, ∀ reached : FiberRootStore,
      store.fiberArena.GrowsTo reached.fiberArena →
      (visit id).run reached = .ok () { reached with fiberArena := visited reached.fiberArena id })
    (walk : IsWalk store.fiberArena.returnFiber? (store.fiberArena.returnFiber? fiber) ancestors)
    (live : ∀ id ∈ fiber :: ancestors, store.fiberArena.IsLive id)
    (enough : ancestors.length < rounds) :
    (walkToHostRoot visit rounds fiber).run store =
      .ok (ancestors.getLastD fiber)
        { store with fiberArena := ancestors.foldl visited store.fiberArena } := by
  induction ancestors generalizing fiber store rounds with
  | nil =>
    obtain ⟨remaining, rfl⟩ := Nat.exists_eq_succ_of_ne_zero (Nat.ne_of_gt enough)
    obtain ⟨node, found⟩ := live fiber (by simp)
    have ends : node.returnFiber = none := by
      rw [← returnFiber?_of_get? found]
      exact walk
    simp only [walkToHostRoot, run_bind, run_getFiber found, ends]
    rfl
  | cons parent rest ih =>
    obtain ⟨remaining, rfl⟩ := Nat.exists_eq_succ_of_ne_zero (Nat.ne_of_gt (Nat.zero_lt_of_lt enough))
    obtain ⟨node, found⟩ := live fiber (by simp)
    obtain ⟨leads, walkRest⟩ := walk
    have isParent : node.returnFiber = some parent := by
      rw [← returnFiber?_of_get? found]
      exact leads
    have visitedParent := visits parent (by simp) store (.refl _)
    have grown := grows store.fiberArena parent
    simp only [walkToHostRoot, run_bind, run_getFiber found, isParent, visitedParent]
    rw [List.getLastD_cons]
    have walked := @ih { store with fiberArena := visited store.fiberArena parent } parent remaining
    apply walked
    · exact fun id member reached later => visits id (by simp [member]) reached (grown.trans later)
    · rw [grown.returnFiber?]
      exact walkRest
    · intro id member
      exact grown.isLive_iff.mpr (live id (List.mem_cons_of_mem fiber member))
    · simpa using enough

theorem run_markRoot {root : FiberRootId} {record : FiberRoot}
    (live : store.roots.get? root = some record) (indices : List LaneIndex) :
    ∃ roots recordAfter,
      (indices.forM fun index => modifyRoot fiberRootStore root
        (onLanes (·.markUpdated index.lane))).run store = .ok () { store with roots := roots } ∧
      roots.get? root = some recordAfter ∧
      recordAfter.current = record.current ∧
      (∀ index, recordAfter.lanes.pendingLanes.containsIndex index =
        (record.lanes.pendingLanes.containsIndex index || decide (index ∈ indices))) ∧
      ∀ other, other ≠ root → roots.get? other = store.roots.get? other := by
  induction indices generalizing store record with
  | nil => exact ⟨store.roots, record, rfl, live, rfl, by simp, fun _ _ => rfl⟩
  | cons head rest ih =>
    let mark : FiberRoot → FiberRoot := onLanes (·.markUpdated head.lane)
    have marked : (store.roots.modify root mark).get? root = some (mark record) := by
      rw [get?_modify, if_pos rfl, live]
      rfl
    obtain ⟨roots, recordAfter, ran, liveAfter, current, pending, others⟩ :=
      @ih { store with roots := store.roots.modify root mark } _ marked
    refine ⟨roots, recordAfter, ?_, liveAfter, current, ?_, ?_⟩
    · rw [run_forM_cons, run_modifyRoot live]
      exact ran
    · intro index
      rw [pending]
      simp [mark, onLanes, Bool.or_assoc, eq_comm]
    · intro other different
      rw [others other different, get?_modify, if_neg different]

/-- The marks of a call that reaches a live alternate everywhere: the pairs on the way up, and
then the root. -/
theorem run_markUpdateLanesFromFiberToRoot (alternatesLive : store.fiberArena.AlternatesLive)
    (walk : IsWalk store.fiberArena.returnFiber? (store.fiberArena.returnFiber? fiber) ancestors)
    (live : ∀ id ∈ fiber :: ancestors, store.fiberArena.IsLive id)
    (short : ancestors.length ≤ store.fiberArena.nodes.slots.length) (lanes : Lanes) :
    (markUpdateLanesFromFiberToRoot fiber lanes).run store =
      (markRootOfFiber (ancestors.getLastD fiber) lanes).run
        { store with fiberArena := store.fiberArena.markPath fiber ancestors lanes } := by
  have marked := run_modifyPair (FiberNode.GrowsTo.mergeLanes · lanes) alternatesLive
    (live fiber (by simp))
  let between : FiberRootStore :=
    { store with fiberArena := store.fiberArena.changePair fiber (·.mergeLanes lanes) }
  have grown := FiberArena.GrowsTo.changePair (FiberNode.GrowsTo.mergeLanes · lanes)
    store.fiberArena fiber
  have walked : (walkToHostRoot (markChildLanes · lanes)
      (between.fiberArena.nodes.slots.length + 1) fiber).run between =
        .ok (ancestors.getLastD fiber)
          { store with fiberArena := store.fiberArena.markPath fiber ancestors lanes } := by
    apply run_walkToHostRoot (FiberArena.GrowsTo.changePair (FiberNode.GrowsTo.mergeChildLanes · lanes))
    · intro id member reached later
      have further := grown.trans later
      exact run_modifyPair (FiberNode.GrowsTo.mergeChildLanes · lanes)
        (further.alternatesLive alternatesLive) (further.isLive_iff.mpr (live id (by simp [member])))
    · rw [grown.returnFiber?]
      exact walk
    · exact fun id member => grown.isLive_iff.mpr (live id member)
    · rw [grown.slots]
      exact Nat.lt_succ_of_le short
  rw [markUpdateLanesFromFiberToRoot, markSourceFiberLanes_eq, run_bind, marked]
  change (walkToHostRoot (markChildLanes · lanes) (between.fiberArena.nodes.slots.length + 1) fiber >>=
    fun node => markRootOfFiber node lanes).run between = _
  rw [run_bind, walked]

theorem run_markUpdateLanesFromFiberToRoot_of_dead (dead : ¬ store.fiberArena.IsLive fiber)
    (lanes : Lanes) :
    ∃ error, (markUpdateLanesFromFiberToRoot fiber lanes).run store = .error error store := by
  obtain ⟨error, failed⟩ := run_modifyPair_of_dead dead (·.mergeLanes lanes)
  refine ⟨error, ?_⟩
  rw [markUpdateLanesFromFiberToRoot, markSourceFiberLanes_eq, run_bind, failed]

end Runs

section Frames

theorem grows_modifyPair {change : FiberNode → FiberNode}
    (grows : ∀ node : FiberNode, node.GrowsTo (change node)) (fiber : FiberId) :
    Within FiberRootStore.GrowsTo (modifyPair fiber change) := by
  have changes : ∀ id, Within FiberRootStore.GrowsTo
      (onFibers fiberTopology (modifyFiber id change)) := by
    intro id store
    by_cases live : store.fiberArena.IsLive id
    · rw [run_onFibers_modifyFiber live, stateAfter]
      exact ⟨rfl, .changeFiber grows _ id, .refl _⟩
    · obtain ⟨error, -, failed⟩ := run_onFibers_modifyFiber_of_dead live change
      rw [failed, stateAfter]
      exact refl_of FiberRootStore.GrowsTo store
  refine .bind (changes fiber) fun _ => .bind (within_getFiber _ _) fun node => ?_
  cases node.alternate with
  | none => exact .pure _
  | some alternate => exact changes alternate

theorem grows_modifyRoot (root : FiberRootId) (index : LaneIndex) :
    Within FiberRootStore.GrowsTo (modifyRoot fiberRootStore root
      (onLanes (·.markUpdated index.lane))) :=
  within_modifyRoot _ fun store => ⟨rfl, .refl _, .markUpdated store.roots root index.lane⟩

theorem grows_markRootOfFiber (last : FiberId) (lanes : Lanes) :
    Within FiberRootStore.GrowsTo (markRootOfFiber last lanes) :=
  .bind (within_hostRootIdForFiber last) fun root =>
  .bind (.forM (grows_modifyRoot root) _) fun _ => .pure _

theorem grows_markUpdateLanesFromFiberToRoot (fiber : FiberId) (lanes : Lanes) :
    Within FiberRootStore.GrowsTo (markUpdateLanesFromFiberToRoot fiber lanes) := by
  have marksChildren : ∀ id, Within FiberRootStore.GrowsTo (markChildLanes id lanes) :=
    grows_modifyPair (FiberNode.GrowsTo.mergeChildLanes · lanes)
  exact .bind (grows_modifyPair (FiberNode.GrowsTo.mergeLanes · lanes) fiber) fun _ =>
    .bind .get fun _ => .bind (within_walkToHostRoot marksChildren _ _) fun last =>
    grows_markRootOfFiber last lanes

end Frames

end FastReact
