import FastReact.FiberTopologySteps

namespace FastReact

open ErrorState

/-!
# What moving children leaves alone

Setting children, taking them out and marking them for deletion change fibers in many
places, also when they fail, but they give no fiber another alternate.  A relation of
arenas that allows such changes holds across all of these operations.
-/

namespace FiberArena

/-- A relation of arenas that allows every change but that of alternates and of the set of
fibers. -/
structure IgnoresPlaces (relation : FiberArena → FiberArena → Prop) : Prop where
  changes : ∀ (arena : FiberArena) id (change : FiberNode → FiberNode),
    (∀ node, (change node).alternate = node.alternate) → relation arena (arena.changeFiber id change)
  lists : ∀ (arena : FiberArena) lists, relation arena { arena with deletionLists := lists }

namespace IgnoresPlaces

variable {relation : FiberArena → FiberArena → Prop} [IsPreorder FiberArena relation]
  (ignores : IgnoresPlaces relation)
include ignores

theorem within_modifyFiber {change : FiberNode → FiberNode}
    (keeps : ∀ node, (change node).alternate = node.alternate) (id : FiberId) :
    Within relation (modifyFiber id change) :=
  .bind (.query _) fun _ => .modify fun arena => ignores.changes arena id change keeps

theorem within_setChildren (parent : FiberId) (children : List FiberId) :
    Within relation (setChildren parent children) :=
  .bind (.query _) fun _ => .bind (.query _) fun _ => .bind (.query _) fun _ =>
  .bind (.forM (fun _ => ignores.within_modifyFiber (fun _ => by rfl) _) _) fun _ =>
  .bind (ignores.within_modifyFiber (fun _ => by rfl) _) fun _ =>
  .forM (fun _ => ignores.within_modifyFiber (fun _ => by rfl) _) _

theorem within_appendChild (parent child : FiberId) : Within relation (appendChild parent child) :=
  .bind (.query _) fun _ => ignores.within_setChildren _ _

theorem within_removeChildFromChain (parent child : FiberId) :
    Within relation (removeChildFromChain parent child) := by
  refine .bind (.query _) fun children => ?_
  exact .ite (.pure _) (.bind (ignores.within_setChildren _ _) fun _ =>
    .bind (ignores.within_modifyFiber (fun _ => by rfl) _) fun _ => .pure _)

theorem within_ensureDeletionList (parent : FiberId) :
    Within relation (ensureDeletionList parent) := by
  refine .bind (.query _) fun node => ?_
  cases node.deletions with
  | some id => exact .bind (.query _) fun _ => .pure _
  | none =>
    exact .bind (.modifyGet fun arena => ignores.lists arena _) fun _ =>
      .bind (ignores.within_modifyFiber (fun _ => by rfl) _) fun _ => .pure _

theorem within_markChildForDeletion (parent deleted : FiberId) :
    Within relation (markChildForDeletion parent deleted) := by
  have marked : Within relation (do
      let list ← ensureDeletionList parent
      pushDeletion list deleted
      modifyFiber parent (·.mergeFlags FiberFlags.childDeletion)
      modifyFiber deleted fun node => (node.setReturnFiber (some parent)).setSibling none
      return list : FiberArenaM DeletionListId) := by
    refine .bind (ignores.within_ensureDeletionList parent) fun list => ?_
    refine .bind (.bind (.query _) fun _ => .modify fun arena => ignores.lists arena _) fun _ => ?_
    exact .bind (ignores.within_modifyFiber (fun _ => by rfl) _) fun _ =>
      .bind (ignores.within_modifyFiber (fun _ => by rfl) _) fun _ => .pure _
  refine .bind (.query _) fun _ => .bind (.query _) fun _ => .bind (.query _) fun _ =>
    .bind (.query _) fun inChain => ?_
  exact .ite (.bind (ignores.within_removeChildFromChain _ _) fun _ => marked) marked

theorem within_clearDeletionsAfterCleanup (parent : FiberId) :
    Within relation (clearDeletionsAfterCleanup parent) := by
  refine .bind (.query _) fun node => ?_
  cases node.deletions with
  | some id =>
    exact .bind (.query _) fun _ => .bind (.modify fun arena => ignores.lists arena _) fun _ =>
      ignores.within_modifyFiber (fun _ => by rfl) _
  | none => exact .pure _

end IgnoresPlaces

end FiberArena

end FastReact
