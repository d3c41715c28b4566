import FastReact.FiberForest

namespace FastReact

open ErrorState LinkWalk List

/-!
# What marking a child for deletion leaves alone

A fiber that is marked is linked to the parent it is deleted from and loses its sibling.
Where it is in the chain of another parent this cuts that chain behind it, and where it
is above the parent it closes a cycle; nowhere else does marking reach further than the
parent.
-/

namespace FiberArena

variable {arena after unlinked : FiberArena} {id parent deleted : FiberId} {listId : DeletionListId}
  {validation : FiberArenaValidation} {children : List FiberId}

/-- In a valid arena every live fiber has a chain of its children, and its list
resolves. -/
theorem of_validateTopology (valid : arena.validateTopology = .ok validation)
    (live : arena.IsLive id) :
    (∃ children, arena.childIds id = .ok children ∧
      ∀ child ∈ children, arena.returnFiber? child = some id) ∧
    ∀ listId, arena.deletions? id = some listId →
      ∃ list, arena.deletionList listId = some list := by
  obtain ⟨node, found⟩ := live
  have passes := validateTopology_ok_iff.mp ⟨validation, valid⟩ id node found
  obtain ⟨children, collected, returning⟩ := passes.children
  constructor
  · refine ⟨children, collected, fun child member => ?_⟩
    obtain ⟨index, atIndex⟩ := mem_iff_getElem?.mp member
    obtain ⟨childNode, childFound, isParent, -⟩ := returning index child atIndex
    exact (returnFiber?_of_get? childFound).trans isParent
  · intro listId named
    rw [deletions?_of_get? found] at named
    obtain ⟨list, isList, -⟩ := passes.deletionsApart listId named
    exact ⟨list, isList⟩

/-- Marking a fiber is local: the other chains stay, the chain of the parent only loses
the fiber, parents form no cycle, and the fiber is recorded once. -/
structure DeletesLocally (arena after : FiberArena) (parent deleted : FiberId) : Prop where
  others : ∀ other children, other ≠ parent → arena.childIds other = .ok children →
    after.childIds other = .ok children
  own : ∀ children, arena.childIds parent = .ok children →
    after.childIds parent = .ok (children.filter (· ≠ deleted))
  acyclic : Acyclic after.returnFiber?
  recorded : ∃ listId list, after.deletions? parent = some listId ∧
    after.deletionList listId = some list ∧ list.deleted.count deleted = 1

/-- The fiber is at most the last one in the chain of another parent, and it is not
above the parent. -/
structure DeletableFrom (arena : FiberArena) (parent deleted : FiberId) : Prop where
  lastElsewhere : ∀ other children, other ≠ parent → arena.childIds other = .ok children →
    deleted ∈ children → children.getLast? = some deleted
  notAbove : ¬ Relation.ReflTransGen (Links arena.returnFiber?) parent deleted

namespace MarksDeletion

section

variable (marks : MarksDeletion arena after parent deleted listId)
include marks

theorem childIds_of_not_mem
    (collected : arena.childIds id = .ok children) (absent : deleted ∉ children) :
    after.childIds id = .ok children := by
  obtain ⟨live, walk, childrenLive⟩ := childIds_eq_ok_iff.mp collected
  refine childIds_eq_ok_iff.mpr ⟨(marks.live id).mpr live, ?_, ?_⟩
  · rw [marks.child]
    refine walk.congr fun other member => ?_
    have different : other ≠ deleted := by
      rintro rfl
      exact absent member
    rw [marks.sibling, if_neg different]
  · exact fun other member => (marks.live other).mpr (childrenLive other member)

theorem childIds_of_mem {before behind : List FiberId}
    (collected : arena.childIds id = .ok (before ++ deleted :: behind)) :
    after.childIds id = .ok (before ++ [deleted]) := by
  obtain ⟨live, walk, childrenLive⟩ := childIds_eq_ok_iff.mp collected
  have noDuplicates := walk.nodup
  refine childIds_eq_ok_iff.mpr ⟨(marks.live id).mpr live, ?_, ?_⟩
  · rw [marks.child]
    refine walk.divert (fun other member => ?_) ?_
    · have different : other ≠ deleted := fun same =>
        (nodup_append.mp noDuplicates).2.2 other member deleted (by simp) same
      rw [marks.sibling, if_neg different]
    · rw [marks.sibling, if_pos rfl]
      rfl
  · intro other member
    refine (marks.live other).mpr (childrenLive other ?_)
    rcases mem_append.mp member with earlier | last
    · simp [earlier]
    · simp [mem_singleton.mp last]

theorem recorded :
    ∃ listId list, after.deletions? parent = some listId ∧
      after.deletionList listId = some list ∧ list.deleted.count deleted = 1 := by
  have named : after.deletions? parent = some listId := by rw [marks.deletions, if_pos rfl]
  have found := marks.lists listId
  rw [if_pos rfl] at found
  exact ⟨listId, _, named, found, count_eq_one_of_mem (DeletionList.noDuplicates _)
    (DeletionList.mem_pushUnique.mpr (.inr rfl))⟩

theorem acyclic_iff (acyclic : Acyclic arena.returnFiber?) :
    Acyclic after.returnFiber? ↔
      ¬ Relation.ReflTransGen (Links arena.returnFiber?) parent deleted := by
  constructor
  · intro acyclicAfter reaches
    have reachesAfter := reaches_of_agree
      (fun id different => (marks.returnFiber id).trans (if_neg different)) reaches
    have back : after.returnFiber? deleted = some parent := by rw [marks.returnFiber, if_pos rfl]
    exact acyclicAfter deleted (.head' back reachesAfter)
  · intro notAbove
    refine @Acyclic.relink _ _ _ {id | id = deleted} parent acyclic ?_ ?_
    · intro id linked isLinked
      rw [marks.returnFiber] at isLinked
      split at isLinked
      · rename_i isDeleted
        exact .inr ⟨isDeleted, (Option.some.inj isLinked).symm⟩
      · exact .inl isLinked
    · rintro id rfl
      exact notAbove

/-- Marking a fiber that is no child of the parent is local exactly when the fiber may
be deleted from it. -/
theorem deletesLocally_iff
    (acyclic : Acyclic arena.returnFiber?) (collected : arena.childIds parent = .ok children)
    (absent : deleted ∉ children) :
    arena.DeletesLocally after parent deleted ↔ arena.DeletableFrom parent deleted := by
  constructor
  · intro isLocal
    refine ⟨?_, (marks.acyclic_iff acyclic).mp isLocal.acyclic⟩
    intro other others different collectedOther member
    obtain ⟨before, behind, rfl⟩ := mem_iff_append.mp member
    have kept := isLocal.others other _ different collectedOther
    have cut := kept.symm.trans (marks.childIds_of_mem collectedOther)
    simp only [Except.ok.injEq, append_cancel_left_eq, List.cons.injEq, true_and] at cut
    simp [cut]
  · intro deletable
    refine ⟨?_, ?_, (marks.acyclic_iff acyclic).mpr deletable.notAbove, marks.recorded⟩
    · intro other others different collectedOther
      by_cases member : deleted ∈ others
      · have isLast := deletable.lastElsewhere other others different collectedOther member
        obtain ⟨before, rfl⟩ := getLast?_eq_some_iff.mp isLast
        exact marks.childIds_of_mem collectedOther
      · exact marks.childIds_of_not_mem collectedOther member
    · intro own collectedOwn
      cases collected.symm.trans collectedOwn
      rw [filter_eq_self.mpr]
      · exact marks.childIds_of_not_mem collected absent
      · intro child member
        rw [decide_eq_true_iff]
        rintro rfl
        exact absent member

end

end MarksDeletion

theorem deletesLocally_of_mem (valid : arena.validateTopology = .ok validation)
    (acyclic : Acyclic arena.returnFiber?) (collected : arena.childIds parent = .ok children)
    (member : deleted ∈ children)
    (kept : arena.ValidatesChildren parent (children.filter (· ≠ deleted)))
    (marks : MarksDeletion (arena.relink parent children (children.filter (· ≠ deleted)))
      after parent deleted listId) :
    arena.DeletesLocally after parent deleted ∧ arena.DeletableFrom parent deleted := by
  have ownedBy : ∀ other others, arena.childIds other = .ok others →
      ∀ child ∈ others, arena.returnFiber? child = some other := by
    intro other others collectedOther child isChild
    obtain ⟨⟨chained, collectedAgain, owned⟩, -⟩ :=
      of_validateTopology valid (childIds_eq_ok_iff.mp collectedOther).1
    cases collectedOther.symm.trans collectedAgain
    exact owned child isChild
  have own := ownedBy parent children collected
  -- The deleted fiber had its parent already.
  have returns : ∀ id, after.returnFiber? id = arena.returnFiber? id := by
    intro id
    rw [marks.returnFiber, returnFiber?_relink collected kept]
    split
    · rename_i isDeleted
      rw [isDeleted, own deleted member]
    · rename_i notDeleted
      split
      · rename_i isKept
        rw [own id (mem_of_mem_filter isKept)]
      · rename_i notKept
        rw [if_neg]
        intro wasChild
        exact notKept (by simp [wasChild, notDeleted])
  have elsewhere : ∀ other others, other ≠ parent → arena.childIds other = .ok others →
      ∀ child ∈ others, child ∉ children := by
    intro other others different collectedOther child isOther isChild
    have linked := ownedBy other others collectedOther child isOther
    rw [own child isChild] at linked
    exact different (Option.some.inj linked).symm
  refine ⟨⟨?_, ?_, ?_, marks.recorded⟩, ?_, ?_⟩
  · intro other others different collectedOther
    have apart := elsewhere other others different collectedOther
    refine marks.childIds_of_not_mem ?_ fun isOther => apart deleted isOther member
    refine childIds_relink_of_clean collected kept different collectedOther fun id isOther => ?_
    exact ⟨apart id isOther, fun isKept => apart id isOther (mem_of_mem_filter isKept)⟩
  · intro again collectedAgain
    cases collected.symm.trans collectedAgain
    exact marks.childIds_of_not_mem (childIds_relink collected kept) (by simp)
  · exact acyclic.mono fun id target linked => (returns id).symm.trans linked
  · intro other others different collectedOther isOther
    exact absurd member (elsewhere other others different collectedOther deleted isOther)
  · intro above
    exact acyclic deleted (.head' (own deleted member) above)

/-- In a valid arena whose parents form no cycle, an accepted call is local exactly when
the fiber may be deleted from the parent. -/
theorem deletesLocally_iff_deletableFrom
    (valid : arena.validateTopology = .ok validation)
    (acyclic : Acyclic arena.returnFiber?)
    (accepted : (markChildForDeletion parent deleted).run arena = .ok listId after) :
    arena.DeletesLocally after parent deleted ↔ arena.DeletableFrom parent deleted := by
  have owned : ∀ list, arena.deletions? parent = some list →
      ∃ deletions, arena.deletionList list = some deletions := by
    intro list named
    exact (of_validateTopology valid (isLive_of_deletions? named)).2 list named
  rcases run_markChildForDeletion arena parent deleted owned with
    ⟨error, refused⟩ |
    ⟨children, unlinked, markedList, marked, ran, -, -, collected, shape, marks⟩
  · cases refused.symm.trans accepted
  · cases ran.symm.trans accepted
    rcases shape with ⟨absent, rfl⟩ | ⟨member, kept, rfl⟩
    · exact marks.deletesLocally_iff acyclic collected absent
    · obtain ⟨isLocal, deletable⟩ :=
        deletesLocally_of_mem valid acyclic collected member kept marks
      exact iff_of_true isLocal deletable

theorem acyclic_of_slots
    (checked : ∀ id ∈ arena.nodes.handles, ∀ target ∈ arena.returnFiber? id,
      target.slot < id.slot) : Acyclic arena.returnFiber? := by
  refine .of_rank Handle.slot fun id target linked => ?_
  exact checked id (SlotArena.mem_handles.mpr (isLive_of_returnFiber? linked)) target linked

/-- A fragment with two children and a work in progress. -/
def doubleBuffered : FiberArena :=
  stateAfter ((do
    let parent ← createFiber .fragment none .none .no
    let first ← createFiber .hostText none .none .no
    let second ← createFiber .hostText none .none .no
    setChildren parent [first, second]
    let _ ← createWorkInProgress parent .none
    : FiberArenaM Unit).run new)

/-- The first child of the fragment is deleted from it locally. -/
theorem deletesLocally_sample :
    ∃ listId after,
      (markChildForDeletion ⟨0, 0⟩ ⟨1, 0⟩).run doubleBuffered = .ok listId after ∧
      doubleBuffered.DeletesLocally after ⟨0, 0⟩ ⟨1, 0⟩ := by
  have valid : doubleBuffered.validateTopology = .ok ⟨4, 0⟩ := by rfl
  have acyclic : Acyclic doubleBuffered.returnFiber? := acyclic_of_slots (by decide)
  refine ⟨_, _, rfl, (deletesLocally_iff_deletableFrom valid acyclic rfl).mpr ⟨?_, ?_⟩⟩
  · intro other children different collected member
    have live : other ∈ [⟨0, 0⟩, ⟨1, 0⟩, ⟨2, 0⟩, ⟨3, 0⟩] :=
      SlotArena.mem_handles.mpr (childIds_eq_ok_iff.mp collected).1
    simp only [mem_cons, not_mem_nil, or_false] at live
    rcases live with rfl | rfl | rfl | rfl
    · exact absurd rfl different
    all_goals
      cases collected
      cases member
  · intro above
    rcases Relation.ReflTransGen.cases_head above with same | ⟨next, link, -⟩
    · exact absurd same (by decide)
    · cases link

/-- Deleting the first child from the work in progress cuts the chain of the fragment. -/
theorem deletion_cuts_current_chain :
    doubleBuffered.validateTopology = .ok ⟨4, 0⟩ ∧
    Acyclic doubleBuffered.returnFiber? ∧
    doubleBuffered.childIds ⟨0, 0⟩ = .ok [⟨1, 0⟩, ⟨2, 0⟩] ∧
    ∃ listId after,
      (markChildForDeletion ⟨3, 0⟩ ⟨1, 0⟩).run doubleBuffered = .ok listId after ∧
      after.childIds ⟨0, 0⟩ = .ok [⟨1, 0⟩] ∧
      ¬ doubleBuffered.DeletesLocally after ⟨3, 0⟩ ⟨1, 0⟩ := by
  refine ⟨rfl, acyclic_of_slots (by decide), rfl, _, _, rfl, rfl, ?_⟩
  intro isLocal
  have kept := isLocal.others ⟨0, 0⟩ [⟨1, 0⟩, ⟨2, 0⟩] (by decide) rfl
  cases kept

end FiberArena

end FastReact
