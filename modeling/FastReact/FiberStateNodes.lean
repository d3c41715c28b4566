import FastReact.FiberTopologySteps

namespace FastReact

open ErrorState FiberArena

/-!
# State nodes of fibers

A fiber and its alternate have the same state node, as one is a clone of the other, and no
operation but the creation of a root gives a fiber another one.
-/

namespace FiberArena

/-- The alternate of a fiber is there and has the fiber's state node. -/
def StateNodesAgree (arena : FiberArena) : Prop :=
  ∀ id node alternate, arena.get? id = some node → node.alternate = some alternate →
    ∃ other, arena.get? alternate = some other ∧ other.stateNode = node.stateNode

/-- Alternates still agree, and every fiber is still there with its state node. -/
structure KeepsStateNodes (arena after : FiberArena) : Prop where
  agree : arena.StateNodesAgree → after.StateNodesAgree
  kept : arena.StateNodesAgree → ∀ id node, arena.get? id = some node →
    ∃ nodeAfter, after.get? id = some nodeAfter ∧ nodeAfter.stateNode = node.stateNode

instance : IsPreorder FiberArena KeepsStateNodes where
  refl _ := ⟨fun agree => agree, fun _ _ node found => ⟨node, found, rfl⟩⟩
  trans first second third keeps keepsLater := by
    refine ⟨fun agree => keepsLater.agree (keeps.agree agree), ?_⟩
    intro agree id node found
    obtain ⟨between, foundBetween, same⟩ := keeps.kept agree id node found
    obtain ⟨nodeAfter, foundAfter, sameAfter⟩ :=
      keepsLater.kept (keeps.agree agree) id between foundBetween
    exact ⟨nodeAfter, foundAfter, sameAfter.trans same⟩

theorem keepsStateNodes_changeFiber {arena : FiberArena} {id : FiberId}
    {change : FiberNode → FiberNode}
    (sameStateNode : arena.StateNodesAgree → ∀ node, arena.get? id = some node →
      (change node).stateNode = node.stateNode)
    (agreeing : arena.StateNodesAgree → ∀ node alternate, arena.get? id = some node →
      (change node).alternate = some alternate →
        ∃ other, arena.get? alternate = some other ∧ other.stateNode = node.stateNode) :
    KeepsStateNodes arena (arena.changeFiber id change) := by
  have kept : arena.StateNodesAgree → ∀ other node, arena.get? other = some node →
      ∃ nodeAfter, (arena.changeFiber id change).get? other = some nodeAfter ∧
        nodeAfter.stateNode = node.stateNode := by
    intro agree other node found
    rw [get?_changeFiber]
    by_cases same : other = id
    · subst same
      exact ⟨change node, by simp [found], sameStateNode agree node found⟩
    · exact ⟨node, by simp [same, found], rfl⟩
  refine ⟨fun agree => ?_, kept⟩
  intro other nodeAfter alternate found isAlternate
  rw [get?_changeFiber] at found
  by_cases same : other = id
  · subst same
    rw [if_pos rfl] at found
    obtain ⟨node, foundBefore, rfl⟩ := Option.map_eq_some_iff.mp found
    obtain ⟨partner, partnerFound, partnerSame⟩ :=
      agreeing agree node alternate foundBefore isAlternate
    obtain ⟨partnerAfter, partnerFoundAfter, partnerSameAfter⟩ := kept agree alternate partner partnerFound
    exact ⟨partnerAfter, partnerFoundAfter,
      partnerSameAfter.trans (partnerSame.trans (sameStateNode agree node foundBefore).symm)⟩
  · rw [if_neg same] at found
    obtain ⟨partner, partnerFound, partnerSame⟩ := agree other nodeAfter alternate found isAlternate
    obtain ⟨partnerAfter, partnerFoundAfter, partnerSameAfter⟩ := kept agree alternate partner partnerFound
    exact ⟨partnerAfter, partnerFoundAfter, partnerSameAfter.trans partnerSame⟩

end FiberArena

open FiberArena

theorem keepsStateNodes_modifyFiber {change : FiberNode → FiberNode}
    (sameStateNode : ∀ node, (change node).stateNode = node.stateNode)
    (sameAlternate : ∀ node, (change node).alternate = node.alternate) (id : FiberId) :
    Within KeepsStateNodes (modifyFiber id change) := by
  refine .bind (.query _) fun _ => .modify fun arena => ?_
  apply keepsStateNodes_changeFiber
  · exact fun _ node _ => sameStateNode node
  · intro agree node alternate found isAlternate
    exact agree id node alternate found (sameAlternate node ▸ isAlternate)

theorem keepsStateNodes_insert (arena : FiberArena) (node : FiberNode) (single : node.alternate = none) :
    KeepsStateNodes arena { arena with nodes := (arena.nodes.insert node).2 } := by
  have kept : ∀ id found, arena.get? id = some found →
      get? { arena with nodes := (arena.nodes.insert node).2 } id = some found :=
    fun id found resolved => SlotArena.get?_insert_of_some node resolved
  refine ⟨fun agree => ?_, fun _ id found resolved => ⟨found, kept id found resolved, rfl⟩⟩
  intro id found alternate resolved isAlternate
  rw [get?, SlotArena.get?_insert] at resolved
  by_cases isNew : id = (arena.nodes.insert node).1
  · rw [if_pos isNew] at resolved
    obtain rfl : node = found := Option.some.inj resolved
    rw [single] at isAlternate
    cases isAlternate
  · rw [if_neg isNew] at resolved
    obtain ⟨other, otherFound, same⟩ := agree id found alternate resolved isAlternate
    exact ⟨other, kept alternate other otherFound, same⟩

theorem keepsStateNodes_createFiber (tag : FiberTag) (key : Option String)
    (pendingProps : PropsHandle) (mode : FiberMode) :
    Within KeepsStateNodes (createFiber tag key pendingProps mode) :=
  .modifyGet fun arena => keepsStateNodes_insert arena (FiberNode.new tag key pendingProps mode) rfl

theorem keepsStateNodes_setChildren (parent : FiberId) (children : List FiberId) :
    Within KeepsStateNodes (setChildren parent children) := by
  refine .bind (.query _) fun _ => .bind (.query _) fun _ => .bind (.query _) fun oldChildren =>
    .bind (.forM (fun oldChild => ?_) _) fun _ => .bind ?_ fun _ => .forM (fun entry => ?_) _
  · apply keepsStateNodes_modifyFiber <;> exact fun _ => rfl
  · apply keepsStateNodes_modifyFiber <;> exact fun _ => rfl
  · obtain ⟨child, index⟩ := entry
    apply keepsStateNodes_modifyFiber <;> exact fun _ => rfl

theorem keepsStateNodes_appendChild (parent child : FiberId) :
    Within KeepsStateNodes (appendChild parent child) :=
  .bind (.query _) fun _ => keepsStateNodes_setChildren _ _

theorem keepsStateNodes_createWorkInProgress (current : FiberId) (pendingProps : PropsHandle) :
    Within KeepsStateNodes (createWorkInProgress current pendingProps) := by
  intro arena
  rcases run_createWorkInProgress arena current pendingProps with
    ⟨-, error, ran⟩ | ⟨node, workInProgress, after, ran, live, different, target, -, nodes⟩
  · rw [ran]
    exact refl arena
  rw [ran]
  have kept : arena.StateNodesAgree → ∀ id found, arena.get? id = some found →
      ∃ foundAfter, after.get? id = some foundAfter ∧ foundAfter.stateNode = found.stateNode := by
    intro agree id found resolved
    rw [nodes]
    by_cases isWork : id = workInProgress
    · refine ⟨_, if_pos isWork, ?_⟩
      rcases target with ⟨paired, -⟩ | ⟨-, dead⟩
      · rw [alternate?_of_get? live] at paired
        obtain ⟨other, otherFound, same⟩ := agree current node workInProgress live paired
        rw [isWork, otherFound] at resolved
        cases resolved
        exact same.symm
      · exact absurd ⟨found, isWork ▸ resolved⟩ dead
    · rw [if_neg isWork]
      by_cases isCurrent : id = current
      · rw [isCurrent, live] at resolved
        cases resolved
        exact ⟨_, if_pos isCurrent, rfl⟩
      · exact ⟨found, by rw [if_neg isCurrent, resolved], rfl⟩
  refine ⟨fun agree => ?_, kept⟩
  intro id found alternate resolved isAlternate
  rw [stateAfter, nodes] at resolved
  by_cases isWork : id = workInProgress
  · rw [if_pos isWork] at resolved
    cases resolved
    obtain rfl : current = alternate := Option.some.inj isAlternate
    refine ⟨node.setAlternate (some workInProgress), ?_, rfl⟩
    rw [stateAfter, nodes, if_neg different, if_pos rfl]
  · rw [if_neg isWork] at resolved
    by_cases isCurrent : id = current
    · rw [if_pos isCurrent] at resolved
      cases resolved
      obtain rfl : workInProgress = alternate := Option.some.inj isAlternate
      exact ⟨_, (nodes workInProgress).trans (if_pos rfl), rfl⟩
    · rw [if_neg isCurrent] at resolved
      obtain ⟨other, otherFound, same⟩ := agree id found alternate resolved isAlternate
      obtain ⟨otherAfter, otherFoundAfter, sameAfter⟩ := kept agree alternate other otherFound
      exact ⟨otherAfter, otherFoundAfter, sameAfter.trans same⟩

theorem validateAlternatePair_eq_ok {arena : FiberArena} {first second : FiberId}
    {firstNode secondNode : FiberNode} (firstFound : arena.get? first = some firstNode)
    (secondFound : arena.get? second = some secondNode) (different : first ≠ second)
    (sameTag : firstNode.tag = secondNode.tag) (sameKey : firstNode.key = secondNode.key)
    (forward : firstNode.alternate = some second) (backward : secondNode.alternate = some first) :
    arena.validateAlternatePair first second = .ok () := by
  have stable : arena.validateAlternateStableIdentity first second = .ok () := by
    simp [validateAlternateStableIdentity, get_eq_ok_iff.mpr firstFound,
      get_eq_ok_iff.mpr secondFound, sameTag, sameKey, bind, Except.bind]
  simp [validateAlternatePair, rejectSelfLink, get_eq_ok_iff.mpr firstFound,
    get_eq_ok_iff.mpr secondFound, different, stable, forward, backward, bind, Except.bind]

end FastReact
