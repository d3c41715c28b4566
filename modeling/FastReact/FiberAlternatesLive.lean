import FastReact.HandleReuse
import FastReact.LaneMarking

namespace FastReact

open ErrorState

/-!
# Alternates stay live

A fiber that is somebody's alternate has an alternate itself, and a fiber with an
alternate is never reclaimed.  So every alternate resolves, even one that is left behind
when its fiber is linked anew.
-/

namespace FiberArena

variable {arena after : FiberArena}

/-- Every alternate of a fiber has an alternate itself. -/
def AlternatesBacked (arena : FiberArena) : Prop :=
  ∀ fiber alternate, arena.alternate? fiber = some alternate →
    ∃ back, arena.alternate? alternate = some back

theorem AlternatesBacked.alternatesLive (backed : arena.AlternatesBacked) :
    arena.AlternatesLive := by
  intro fiber alternate linked
  obtain ⟨back, linkedBack⟩ := backed fiber alternate linked
  exact isLive_of_alternate? linkedBack

def SameAlternates (arena after : FiberArena) : Prop :=
  ∀ id, after.alternate? id = arena.alternate? id

instance : IsPreorder FiberArena SameAlternates where
  refl _ _ := rfl
  trans _ _ _ first second id := (second id).trans (first id)

theorem ignoresPlaces_sameAlternates : IgnoresPlaces SameAlternates where
  changes _ id _ keeps other := bind_get?_changeFiber keeps id other
  lists _ _ _ := rfl

theorem AlternatesBacked.same (backed : arena.AlternatesBacked)
    (same : SameAlternates arena after) : after.AlternatesBacked := by
  intro fiber alternate linked
  rw [same] at linked
  obtain ⟨back, linkedBack⟩ := backed fiber alternate linked
  exact ⟨back, (same alternate).trans linkedBack⟩

theorem AlternatesBacked.performAlternate (backed : arena.AlternatesBacked)
    (operation : AlternateOperation) : (arena.performAlternate operation).AlternatesBacked := by
  have paired : ∀ first second : FiberId,
      (∀ fiber, (arena.performAlternate operation).alternate? fiber =
        if fiber = second then some first
        else if fiber = first then some second
        else arena.alternate? fiber) →
      (arena.performAlternate operation).AlternatesBacked := by
    intro first second alternates fiber alternate linked
    rw [alternates] at linked ⊢
    by_cases isSecond : alternate = second
    · exact ⟨first, if_pos isSecond⟩
    · rw [if_neg isSecond]
      by_cases isFirst : alternate = first
      · exact ⟨second, if_pos isFirst⟩
      · rw [if_neg isFirst]
        split at linked
        · exact absurd (Option.some.inj linked).symm isFirst
        · split at linked
          · exact absurd (Option.some.inj linked).symm isSecond
          · exact backed fiber alternate linked
  cases alternatesStep arena operation with
  | same unlinked alternates => exact backed.same alternates
  | workInProgress unpaired dead different alternates => exact paired _ _ alternates
  | linked accepted alternates => exact paired _ _ alternates

def KeepsAlternate : FiberArenaCall → Prop
  | .modifyFiber _ change => ∀ node, (change node).alternate = node.alternate
  | _ => True

theorem AlternatesBacked.step {call : FiberArenaCall} (backed : arena.AlternatesBacked)
    (keeps : KeepsAlternate call) : (arena.step call).AlternatesBacked := by
  have ignores := ignoresPlaces_sameAlternates
  cases call with
  | createFiber tag key pendingProps mode =>
    exact backed.performAlternate (.createFiber tag key pendingProps mode)
  | createWorkInProgress current pendingProps =>
    have kept := backed.performAlternate (.createWorkInProgress current pendingProps)
    rwa [FiberArena.performAlternate, ← stateAfter_discard] at kept
  | modifyFiber id change => exact backed.same (ignores.within_modifyFiber keeps id arena)
  | setChildren parent children =>
    exact backed.same (ignores.within_setChildren parent children arena)
  | appendChild parent child => exact backed.same (ignores.within_appendChild parent child arena)
  | removeChildFromChain parent child =>
    have kept := ignores.within_removeChildFromChain parent child arena
    rw [← stateAfter_discard] at kept
    exact backed.same kept
  | linkAlternates first second => exact backed.performAlternate (.linkAlternates first second)
  | markChildForDeletion parent deleted =>
    have kept := ignores.within_markChildForDeletion parent deleted arena
    rw [← stateAfter_discard] at kept
    exact backed.same kept
  | clearDeletionsAfterCleanup parent =>
    exact backed.same (ignores.within_clearDeletionsAfterCleanup parent arena)
  | reclaimFiberAfterCleanup id => exact backed.performAlternate (.reclaimFiber id)

/-- An arena that the operations on fibers have made of an empty one, where no change of a
fiber gives it another alternate. -/
def Built (arena : FiberArena) : Prop :=
  ∃ calls : List FiberArenaCall,
    (∀ call ∈ calls, KeepsAlternate call) ∧ calls.foldl FiberArena.step .new = arena

theorem Built.alternatesLive (built : arena.Built) : arena.AlternatesLive := by
  obtain ⟨calls, keeps, rfl⟩ := built
  apply AlternatesBacked.alternatesLive
  have fromBacked : ∀ start : FiberArena, start.AlternatesBacked →
      (calls.foldl FiberArena.step start).AlternatesBacked := by
    intro start backed
    induction calls generalizing start with
    | nil => exact backed
    | cons call rest ih =>
      obtain ⟨keepsFirst, keepsRest⟩ := List.forall_mem_cons.mp keeps
      exact ih keepsRest (start.step call) (backed.step keepsFirst)
  apply fromBacked
  intro fiber alternate linked
  rw [alternate?_new] at linked
  cases linked

end FiberArena

end FastReact
