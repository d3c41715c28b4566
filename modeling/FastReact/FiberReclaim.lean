import FastReact.ActionRun
import FastReact.FiberChildSteps

namespace FastReact

open ErrorState

/-!
# Reclaiming deleted fibers

Marking a child for deletion makes it name its parent, and clearing the deletion list
leaves that link alone.  A deleted fiber therefore looks attached for as long as it
lives, and reclaiming it is refused in every order of deletions and cleanups.
-/

/-- The calls that delete, clean up and reclaim fibers. -/
inductive CleanupCall where
  | markChildForDeletion (parent deleted : FiberId)
  | clearDeletionsAfterCleanup (parent : FiberId)
  | reclaimFiberAfterCleanup (id : FiberId)

namespace FiberArena

/-- The arena a call leaves behind, also when it fails. -/
def performCleanup (arena : FiberArena) : CleanupCall → FiberArena
  | .markChildForDeletion parent deleted =>
      stateAfter ((markChildForDeletion parent deleted).run arena)
  | .clearDeletionsAfterCleanup parent => stateAfter ((clearDeletionsAfterCleanup parent).run arena)
  | .reclaimFiberAfterCleanup id => stateAfter ((reclaimFiberAfterCleanup id).run arena)

/-- Children are marked for deletion with success; cleanups and reclaims may be refused. -/
def DeletesChildren (arena : FiberArena) : CleanupCall → Prop
  | .markChildForDeletion parent deleted =>
      ∃ listId after, (markChildForDeletion parent deleted).run arena = .ok listId after
  | _ => True

def NamesParent (arena : FiberArena) (id : FiberId) : Prop :=
  ∃ parent, arena.returnFiber? id = some parent

variable {arena after : FiberArena} {parent deleted id : FiberId} {listId : DeletionListId}

theorem ensureDeletionList_refuses (live : arena.IsLive parent)
    (named : arena.deletions? parent = some listId) (gone : arena.deletionList listId = none) :
    (ensureDeletionList parent).run arena = .error (.invalidDeletionList listId) arena := by
  obtain ⟨node, parentLive⟩ := live
  rw [deletions?_of_get? parentLive] at named
  simp only [ensureDeletionList, run_bind, run_query, get_eq_ok_iff.mpr parentLive,
    named, validateDeletionListId, gone]
  rfl

theorem recordDeletion_refuses (live : arena.IsLive parent)
    (named : arena.deletions? parent = some listId) (gone : arena.deletionList listId = none) :
    (recordDeletion parent deleted).run arena = .error (.invalidDeletionList listId) arena := by
  rw [recordDeletion, run_bind, ensureDeletionList_refuses live named gone]

section

variable (marked : (markChildForDeletion parent deleted).run arena = .ok listId after)
include marked

/-- Marking succeeds only where the deletion list of the parent is its own. -/
theorem owned_of_marked (list : DeletionListId) (named : arena.deletions? parent = some list) :
    ∃ deletions, arena.deletionList list = some deletions := by
  cases gone : arena.deletionList list with
  | some deletions => exact ⟨deletions, rfl⟩
  | none =>
    exfalso
    rcases markChildForDeletion_cases arena parent deleted with ⟨error, refused⟩ |
      ⟨children, unlinked, ran, -, parentLive, -, collected, removed⟩
    · cases refused.symm.trans marked
    · rw [ran] at marked
      rcases removed with ⟨-, rfl⟩ | ⟨-, valid, rfl⟩
      · cases (recordDeletion_refuses parentLive named gone).symm.trans marked
      · have stillNamed : ((arena.relink parent children
            (children.filter (· ≠ deleted))).changeFiber deleted
              (·.setSibling none)).deletions? parent = some list := by
          rw [deletions?, bind_get?_changeFiber (by intro node; rfl)]
          exact (deletions?_relink collected valid parent).trans named
        have stillGone : ((arena.relink parent children
            (children.filter (· ≠ deleted))).changeFiber deleted
              (·.setSibling none)).deletionList list = none := by
          rwa [deletionList, deletionLists_changeFiber, deletionLists_relink]
        have refused := @recordDeletion_refuses _ _ deleted _
          (isLive_changeFiber.mpr (isLive_relink.mpr parentLive)) stillNamed stillGone
        cases refused.symm.trans marked

/-- A successful deletion links the deleted fiber to its parent, and it leaves every other
fiber with a parent if it had one. -/
theorem namesParent_of_marked :
    after.NamesParent deleted ∧ ∀ id, arena.NamesParent id → after.NamesParent id := by
  rcases run_markChildForDeletion arena parent deleted (owned_of_marked marked) with
    ⟨error, refused⟩ | ⟨children, unlinked, list, reached, ran, -, -, collected, removed, marks⟩
  · rw [refused] at marked
    cases marked
  · cases ran.symm.trans marked
    have linked : after.NamesParent deleted := ⟨parent, by rw [marks.returnFiber, if_pos rfl]⟩
    refine ⟨linked, ?_⟩
    rintro id ⟨own, named⟩
    by_cases isDeleted : id = deleted
    · rw [isDeleted]
      exact linked
    · rcases removed with ⟨-, rfl⟩ | ⟨-, valid, rfl⟩
      · exact ⟨own, by rw [marks.returnFiber, if_neg isDeleted, named]⟩
      · have kept : (arena.relink parent children
            (children.filter (· ≠ deleted))).NamesParent id := by
          unfold NamesParent
          rw [returnFiber?_relink collected valid]
          split
          · exact ⟨parent, rfl⟩
          · rename_i notKept
            have notChild : id ∉ children := by
              intro member
              exact notKept (List.mem_filter.mpr ⟨member, by simpa using isDeleted⟩)
            rw [if_neg notChild]
            exact ⟨own, named⟩
        obtain ⟨other, keptNamed⟩ := kept
        exact ⟨other, by rw [marks.returnFiber, if_neg isDeleted, keptNamed]⟩

end

theorem reclaim_refused (linked : arena.NamesParent id) :
    (reclaimFiberAfterCleanup id).run arena = .error (.linkedFiberCannotBeReclaimed id) arena := by
  obtain ⟨parent, named⟩ := linked
  obtain ⟨node, live⟩ := isLive_of_returnFiber? named
  rw [returnFiber?_of_get? live] at named
  simp [reclaimFiberAfterCleanup, get_eq_ok_iff.mpr live, named]

theorem NamesParent.performCleanup {call : CleanupCall} (linked : arena.NamesParent id)
    (deletes : arena.DeletesChildren call) : (arena.performCleanup call).NamesParent id := by
  cases call with
  | markChildForDeletion parent deleted =>
    obtain ⟨listId, after, marked⟩ := deletes
    show (stateAfter ((markChildForDeletion parent deleted).run arena)).NamesParent id
    rw [marked]
    exact (namesParent_of_marked marked).2 id linked
  | clearDeletionsAfterCleanup parent =>
    show (stateAfter ((clearDeletionsAfterCleanup parent).run arena)).NamesParent id
    rcases run_clearDeletionsAfterCleanup arena parent with
      ⟨error, refused⟩ | unchanged | ⟨listId, after, ran, -, clears⟩
    · rw [refused]
      exact linked
    · rw [unchanged]
      exact linked
    · rw [ran]
      obtain ⟨own, named⟩ := linked
      exact ⟨own, by rw [stateAfter, clears.returnFiber, named]⟩
  | reclaimFiberAfterCleanup reclaimed =>
    show (stateAfter ((reclaimFiberAfterCleanup reclaimed).run arena)).NamesParent id
    by_cases same : reclaimed = id
    · rw [same, reclaim_refused linked]
      exact linked
    · rcases run_reclaimFiberAfterCleanup arena reclaimed with
        ⟨error, refused⟩ | ⟨node, after, ran, -, -, -, -, nodes⟩
      · rw [refused]
        exact linked
      · rw [ran]
        obtain ⟨own, named⟩ := linked
        refine ⟨own, ?_⟩
        rw [stateAfter, returnFiber?, nodes, if_neg (Ne.symm same)]
        exact named

end FiberArena

open FiberArena

/-- Once a child was marked for deletion, reclaiming it is refused after every run of
deletions, cleanups and reclaims. -/
theorem deleted_child_never_reclaimed
    {arena marked final : FiberArena}
    {parent deleted : FiberId}
    {listId : DeletionListId}
    {calls : List CleanupCall}
    (deletes : (markChildForDeletion parent deleted).run arena = .ok listId marked)
    (run : ActionRun DeletesChildren performCleanup marked calls final) :
    (reclaimFiberAfterCleanup deleted).run final =
      .error (.linkedFiberCannotBeReclaimed deleted) final := by
  have initially : marked.NamesParent deleted := (namesParent_of_marked deletes).1
  have preserved : ∀ (arena : FiberArena) (call : CleanupCall), arena.NamesParent deleted →
      arena.DeletesChildren call → (arena.performCleanup call).NamesParent deleted :=
    fun _ _ linked permitted => linked.performCleanup permitted
  exact reclaim_refused (run.invariant initially preserved)

/-- A host component with a text child. -/
def parentOfLeaf : FiberArena :=
  stateAfter ((do
    let parent ← createFiber .hostComponent none .none .no
    let leaf ← createFiber .hostText none .none .no
    setChildren parent [leaf]
    : FiberArenaM Unit).run new)

theorem deleted_child_never_reclaimed_sample :
    ∃ listId marked,
      (markChildForDeletion ⟨0, 0⟩ ⟨1, 0⟩).run parentOfLeaf = .ok listId marked ∧
      (reclaimFiberAfterCleanup ⟨1, 0⟩).run
          (marked.performCleanup (.clearDeletionsAfterCleanup ⟨0, 0⟩)) =
        .error (.linkedFiberCannotBeReclaimed ⟨1, 0⟩)
          (marked.performCleanup (.clearDeletionsAfterCleanup ⟨0, 0⟩)) := by
  refine ⟨_, _, rfl, ?_⟩
  exact deleted_child_never_reclaimed
    (rfl : (markChildForDeletion ⟨0, 0⟩ ⟨1, 0⟩).run parentOfLeaf = .ok _ _)
    (.of_permitted ⟨trivial, trivial⟩ :
      ActionRun _ _ _ [CleanupCall.clearDeletionsAfterCleanup ⟨0, 0⟩] _)

/-- The text child is out of every chain and list after the cleanup and is not reclaimed. -/
theorem deleted_leaf_stays_linked :
    ∃ listId marked cleared,
      parentOfLeaf.validateTopology = .ok ⟨2, 0⟩ ∧
      parentOfLeaf.childIds ⟨0, 0⟩ = .ok [⟨1, 0⟩] ∧
      parentOfLeaf.child? ⟨1, 0⟩ = none ∧
      parentOfLeaf.alternate? ⟨1, 0⟩ = none ∧
      (markChildForDeletion ⟨0, 0⟩ ⟨1, 0⟩).run parentOfLeaf = .ok listId marked ∧
      (clearDeletionsAfterCleanup ⟨0, 0⟩).run marked = .ok () cleared ∧
      cleared.childIds ⟨0, 0⟩ = .ok [] ∧
      cleared.isRetainedByDeletionList ⟨1, 0⟩ = none ∧
      (reclaimFiberAfterCleanup ⟨1, 0⟩).run cleared =
        .error (.linkedFiberCannotBeReclaimed ⟨1, 0⟩) cleared :=
  ⟨_, _, _, rfl, rfl, rfl, rfl, rfl, rfl, rfl, rfl, rfl⟩

end FastReact
