import FastReact.ActionRun
import FastReact.FiberChildSteps

namespace FastReact

open DeletionList ErrorState LinkWalk List

/-!
# Deletion lists are owned and apart from the children

A deletion list belongs to its parent: the parent names it, and no deleted fiber is in
the chain of the parent.  Rewriting a work in progress that has a list orphans the list,
and children may be set that are still listed; a run goes wrong in no other way.
-/

inductive DeletionOperation where
  | createFiber (tag : FiberTag) (key : Option String) (pendingProps : PropsHandle)
      (mode : FiberMode)
  | createWorkInProgress (current : FiberId) (pendingProps : PropsHandle)
  | setChildren (parent : FiberId) (children : List FiberId)
  | markChildForDeletion (parent deleted : FiberId)
  | clearDeletionsAfterCleanup (parent : FiberId)

namespace FiberArena

/-- The arena an operation on deletion lists leaves behind, also when it fails. -/
def performDeletion (arena : FiberArena) : DeletionOperation → FiberArena
  | .createFiber tag key pendingProps mode =>
      stateAfter ((createFiber tag key pendingProps mode).run arena)
  | .createWorkInProgress current pendingProps =>
      stateAfter ((createWorkInProgress current pendingProps).run arena)
  | .setChildren parent children => stateAfter ((setChildren parent children).run arena)
  | .markChildForDeletion parent deleted =>
      stateAfter ((markChildForDeletion parent deleted).run arena)
  | .clearDeletionsAfterCleanup parent => stateAfter ((clearDeletionsAfterCleanup parent).run arena)

/-- Every deletion list is named by its live parent, and none of its fibers is a child of
the parent. -/
structure OwnsDeletionLists (arena : FiberArena) : Prop where
  owned : ∀ listId list, arena.deletionList listId = some list →
    ∃ node, arena.get? list.parent = some node ∧ node.deletions = some listId
  apart : ∀ listId list, arena.deletionList listId = some list →
    ∃ children, arena.childIds list.parent = .ok children ∧
      ∀ deleted ∈ list.deleted, deleted ∉ children

/-- A reused work in progress has no deletion list.  New children are not listed by
their parent; and where the chain of another parent runs into the new children, the
children from there on are not listed by that parent. -/
def KeepsDeletionLists (arena : FiberArena) : DeletionOperation → Prop
  | .createWorkInProgress current _ =>
      ∀ existing, arena.alternate? current = some existing →
        arena.validateAlternatePair current existing = .ok () →
        arena.deletions? existing = none
  | .setChildren parent children =>
      arena.ValidatesChildren parent children →
      ∀ oldChildren listId list,
        arena.childIds parent = .ok oldChildren →
        arena.deletionList listId = some list →
        (list.parent = parent → ∀ child ∈ children, child ∉ list.deleted) ∧
        (list.parent ≠ parent → ∀ before entry behind front rest,
          arena.childIds list.parent = .ok (before ++ entry :: behind) →
          (∀ id ∈ before, id ∉ oldChildren ∧ id ∉ children) →
          children = front ++ entry :: rest →
          ∀ child ∈ rest, child ∉ list.deleted)
  | _ => True

structure SoundLinks (arena : FiberArena) : Prop where
  siblingsEnd : Acyclic arena.sibling?
  siblingLive : ∀ id sibling, arena.sibling? id = some sibling → arena.IsLive sibling
  childLive : ∀ id child, arena.child? id = some child → arena.IsLive child
  ownList : ∀ id listId, arena.deletions? id = some listId →
    ∃ list, arena.deletionList listId = some list ∧ list.parent = id

/-- Fibers and links among children are only dropped or kept. -/
structure DropsLinks (arena after : FiberArena) : Prop where
  live : ∀ id, arena.IsLive id → after.IsLive id
  child : ∀ id child, after.child? id = some child → arena.child? id = some child
  sibling : ∀ id sibling, after.sibling? id = some sibling → arena.sibling? id = some sibling

variable {arena after : FiberArena} {parent : FiberId} {children oldChildren : List FiberId}

namespace SoundLinks

theorem of_drops (sound : arena.SoundLinks) (drops : arena.DropsLinks after)
    (ownList : ∀ id listId, after.deletions? id = some listId →
      ∃ list, after.deletionList listId = some list ∧ list.parent = id) : after.SoundLinks where
  siblingsEnd := sound.siblingsEnd.mono drops.sibling
  siblingLive := fun id sibling linked =>
    drops.live sibling (sound.siblingLive id sibling (drops.sibling id sibling linked))
  childLive := fun id child linked =>
    drops.live child (sound.childLive id child (drops.child id child linked))
  ownList := ownList

theorem relink (sound : arena.SoundLinks) (collected : arena.childIds parent = .ok oldChildren)
    (valid : arena.ValidatesChildren parent children) :
    (arena.relink parent oldChildren children).SoundLinks := by
  have outside : ∀ id ∉ children, ∀ target,
      (arena.relink parent oldChildren children).sibling? id = some target →
      arena.sibling? id = some target := by
    intro id notNew target linked
    by_cases wasOld : id ∈ oldChildren
    · rw [(links_relink_of_left_out collected wasOld notNew).1] at linked
      cases linked
    · rwa [(links_relink_of_not_mem wasOld notNew).1] at linked
  refine ⟨?_, ?_, ?_, ?_⟩
  · exact sound.siblingsEnd.rechain valid.nodup
      (fun index id found => sibling?_relink_of_getElem? valid found) outside
  · intro id sibling linked
    rw [isLive_relink]
    by_cases isNew : id ∈ children
    · obtain ⟨index, found⟩ := mem_iff_getElem?.mp isNew
      rw [sibling?_relink_of_getElem? valid found] at linked
      exact (valid.accepts (mem_of_getElem? linked)).isLive
    · exact sound.siblingLive id sibling (outside id isNew sibling linked)
  · intro id child linked
    rw [isLive_relink]
    rw [child?_relink collected valid] at linked
    split at linked
    · exact (valid.accepts (mem_of_mem_head? linked)).isLive
    · exact sound.childLive id child linked
  · intro id listId listed
    rw [deletions?_relink collected valid] at listed
    obtain ⟨list, found, own⟩ := sound.ownList id listId listed
    exact ⟨list, by rwa [deletionList, deletionLists_relink], own⟩

end SoundLinks

theorem DropsLinks.childIds (drops : arena.DropsLinks after)
    (collected : arena.childIds parent = .ok children) :
    ∃ met, after.childIds parent = .ok met ∧ met <+: children := by
  obtain ⟨live, walk, childrenLive⟩ := childIds_eq_ok_iff.mp collected
  obtain ⟨met, walkMet, isPrefix⟩ := walk.cut (drops.child parent) drops.sibling
  refine ⟨met, childIds_eq_ok_iff.mpr ⟨drops.live parent live, walkMet, ?_⟩, isPrefix⟩
  exact fun id member => drops.live id (childrenLive id (isPrefix.subset member))

namespace OwnsDeletionLists

variable {listId : DeletionListId} {list : DeletionList}

theorem deletions?_parent (owns : arena.OwnsDeletionLists)
    (found : arena.deletionList listId = some list) :
    arena.deletions? list.parent = some listId := by
  obtain ⟨node, live, own⟩ := owns.owned listId list found
  rw [deletions?_of_get? live, own]

theorem of_links
    (owned : ∀ listId list, arena.deletionList listId = some list →
      arena.deletions? list.parent = some listId)
    (apart : ∀ listId list, arena.deletionList listId = some list →
      ∃ children, arena.childIds list.parent = .ok children ∧
        ∀ deleted ∈ list.deleted, deleted ∉ children) : arena.OwnsDeletionLists where
  owned := by
    intro listId list found
    have own := owned listId list found
    obtain ⟨node, live⟩ := isLive_of_deletions? own
    exact ⟨node, live, (deletions?_of_get? live).symm.trans own⟩
  apart := apart

theorem of_drops (owns : arena.OwnsDeletionLists) (drops : arena.DropsLinks after)
    (lists : ∀ listId list, after.deletionList listId = some list →
      arena.deletionList listId = some list ∧
        after.deletions? list.parent = arena.deletions? list.parent) : after.OwnsDeletionLists := by
  refine .of_links ?_ ?_
  · intro listId list found
    obtain ⟨foundBefore, same⟩ := lists listId list found
    rw [same, owns.deletions?_parent foundBefore]
  · intro listId list found
    obtain ⟨children, collected, apart⟩ := owns.apart listId list (lists listId list found).1
    obtain ⟨met, collectedAfter, isPrefix⟩ := drops.childIds collected
    refine ⟨met, collectedAfter, fun deleted isDeleted member => ?_⟩
    exact apart deleted isDeleted (isPrefix.subset member)

/-- Relinking a chain keeps the lists apart exactly when no listed fiber gets behind a
new child that the chain of its parent runs into. -/
theorem relink_iff (owns : arena.OwnsDeletionLists)
    (collected : arena.childIds parent = .ok oldChildren)
    (valid : arena.ValidatesChildren parent children) :
    (arena.relink parent oldChildren children).OwnsDeletionLists ↔
      ∀ listId list, arena.deletionList listId = some list →
        (list.parent = parent → ∀ child ∈ children, child ∉ list.deleted) ∧
        (list.parent ≠ parent → ∀ before entry behind front rest,
          arena.childIds list.parent = .ok (before ++ entry :: behind) →
          (∀ id ∈ before, id ∉ oldChildren ∧ id ∉ children) →
          children = front ++ entry :: rest →
          ∀ child ∈ rest, child ∉ list.deleted) := by
  have sameLists : ∀ listId, (arena.relink parent oldChildren children).deletionList listId =
      arena.deletionList listId := by
    intro listId
    rw [deletionList, deletionLists_relink, deletionList]
  constructor
  · intro ownsAfter listId list found
    obtain ⟨chain, collectedAfter, apart⟩ :=
      ownsAfter.apart listId list ((sameLists listId).trans found)
    constructor
    · rintro rfl child isNew isDeleted
      cases (childIds_relink collected valid).symm.trans collectedAfter
      exact apart child isDeleted isNew
    · intro different before entry behind front rest members clean shape child isBehind isDeleted
      cases (childIds_relink_of_enter collected valid different members clean shape).symm.trans
        collectedAfter
      exact apart child isDeleted (by simp [isBehind])
  · intro condition
    refine .of_links ?_ ?_
    · intro listId list found
      rw [sameLists] at found
      rw [deletions?_relink collected valid, owns.deletions?_parent found]
    · intro listId list found
      rw [sameLists] at found
      obtain ⟨own, foreign⟩ := condition listId list found
      obtain ⟨members, collectedOther, apart⟩ := owns.apart listId list found
      by_cases isParent : list.parent = parent
      · refine ⟨children, ?_, ?_⟩
        · rw [isParent]
          exact childIds_relink collected valid
        · exact fun deleted isDeleted isNew => own isParent deleted isNew isDeleted
      · rcases childIds_relink_cases collected valid isParent collectedOther with
          same | ⟨before, entry, behind, rfl, ends⟩ |
          ⟨before, entry, behind, front, rest, rfl, clean, shape, enters⟩
        · exact ⟨members, same, apart⟩
        · refine ⟨_, ends, fun deleted isDeleted member => ?_⟩
          apply apart deleted isDeleted
          rcases mem_append.mp member with earlier | last
          · simp [earlier]
          · simp [mem_singleton.mp last]
        · refine ⟨_, enters, fun deleted isDeleted member => ?_⟩
          rcases mem_append.mp member with earlier | later
          · exact apart deleted isDeleted (by simp [earlier])
          · rcases mem_cons.mp later with rfl | inside
            · exact apart deleted isDeleted (by simp)
            · exact foreign isParent before entry behind front rest collectedOther clean shape
                deleted inside isDeleted

end OwnsDeletionLists

theorem ClearsDeletions.drops {listId : DeletionListId}
    (clears : ClearsDeletions arena after parent listId) : arena.DropsLinks after where
  live := fun id live => (clears.live id).mpr live
  child := fun id child linked => by rwa [clears.child] at linked
  sibling := fun id sibling linked => by rwa [clears.sibling] at linked

theorem deletionList_congr (same : after.deletionLists = arena.deletionLists)
    (listId : DeletionListId) : after.deletionList listId = arena.deletionList listId := by
  rw [deletionList, same, deletionList]

theorem drops_of_create {id : FiberId} {node : FiberNode} (unlinked : node.Unlinked)
    (nodes : ∀ other, after.get? other = if other = id then some node else arena.get? other) :
    arena.DropsLinks after ∧
      ∀ other, after.deletions? other = if other = id then none else arena.deletions? other := by
  refine ⟨⟨?_, ?_, ?_⟩, ?_⟩
  · rintro other ⟨otherNode, live⟩
    rw [IsLive, nodes]
    split
    · exact ⟨node, rfl⟩
    · exact ⟨otherNode, live⟩
  · intro other child linked
    rw [child?, nodes] at linked
    split at linked
    · simp [unlinked.child] at linked
    · exact linked
  · intro other sibling linked
    rw [sibling?, nodes] at linked
    split at linked
    · simp [unlinked.sibling] at linked
    · exact linked
  · intro other
    rw [deletions?, nodes]
    split
    · exact unlinked.deletions
    · rfl

theorem drops_of_workInProgress {current workInProgress : FiberId} {currentNode : FiberNode}
    {pendingProps : PropsHandle} (live : arena.get? current = some currentNode)
    (nodes : ∀ other, after.get? other =
      if other = workInProgress then some (currentNode.cloneForAlternate current pendingProps)
      else if other = current then some (currentNode.setAlternate (some workInProgress))
      else arena.get? other) :
    arena.DropsLinks after ∧
      ∀ other, after.deletions? other =
        if other = workInProgress then none else arena.deletions? other := by
  refine ⟨⟨?_, ?_, ?_⟩, ?_⟩
  · rintro other ⟨otherNode, otherLive⟩
    rw [IsLive, nodes]
    split
    · exact ⟨_, rfl⟩
    · split
      · exact ⟨_, rfl⟩
      · exact ⟨otherNode, otherLive⟩
  · intro other child linked
    rw [child?, nodes] at linked
    split at linked
    · cases linked
    · split at linked
      · rename_i isCurrent
        rw [isCurrent, child?_of_get? live]
        exact linked
      · exact linked
  · intro other sibling linked
    rw [sibling?, nodes] at linked
    split at linked
    · cases linked
    · split at linked
      · rename_i isCurrent
        rw [isCurrent, sibling?_of_get? live]
        exact linked
      · exact linked
  · intro other
    rw [deletions?, nodes]
    split
    · rfl
    · split
      · rename_i isCurrent
        rw [isCurrent, deletions?_of_get? live]
        rfl
      · rfl

namespace MarksDeletion

variable {deleted : FiberId} {listId : DeletionListId}

theorem drops (marks : MarksDeletion arena after parent deleted listId) :
    arena.DropsLinks after where
  live := fun id live => (marks.live id).mpr live
  child := fun id child linked => by rwa [marks.child] at linked
  sibling := by
    intro id sibling linked
    rw [marks.sibling] at linked
    split at linked
    · cases linked
    · exact linked

section

variable (marks : MarksDeletion arena after parent deleted listId) (sound : arena.SoundLinks)
include marks sound

theorem parent_list :
    ((arena.deletionList listId).getD (DeletionList.new parent)).parent = parent := by
  rcases marks.list with ⟨own, list, found⟩ | ⟨-, absent⟩
  · obtain ⟨ownList, foundOwn, isParent⟩ := sound.ownList parent listId own
    rw [foundOwn]
    exact isParent
  · rw [absent]
    rfl

theorem eq_parent {id : FiberId}
    (named : arena.deletions? id = some listId) : id = parent := by
  obtain ⟨list, found, own⟩ := sound.ownList id listId named
  have isParent := marks.parent_list sound
  rw [found] at isParent
  exact own.symm.trans isParent

theorem soundLinks : after.SoundLinks := by
  refine sound.of_drops marks.drops ?_
  intro id otherId named
  rw [marks.deletions] at named
  rw [marks.lists]
  split at named
  · rename_i isParent
    cases named
    refine ⟨_, if_pos rfl, ?_⟩
    rw [parent_pushUnique, marks.parent_list sound, isParent]
  · rename_i notParent
    have different : otherId ≠ listId := by
      rintro rfl
      exact notParent (marks.eq_parent sound named)
    rw [if_neg different]
    exact sound.ownList id otherId named

theorem ownsDeletionLists (owns : arena.OwnsDeletionLists)
    (collected : arena.childIds parent = .ok children) (absent : deleted ∉ children) :
    after.OwnsDeletionLists := by
  have isParent := marks.parent_list sound
  refine .of_links ?_ ?_
  · intro otherId list found
    rw [marks.lists] at found
    split at found
    · rename_i isList
      cases found
      rw [marks.deletions, parent_pushUnique, isParent, if_pos rfl, isList]
    · rename_i different
      have own := owns.deletions?_parent found
      have notParent : list.parent ≠ parent := by
        intro same
        rw [same] at own
        rcases marks.list with ⟨named, -⟩ | ⟨unnamed, -⟩
        · exact different (Option.some.inj (own.symm.trans named))
        · rw [unnamed] at own
          cases own
      rw [marks.deletions, if_neg notParent, own]
  · intro otherId list found
    rw [marks.lists] at found
    split at found
    · cases found
      obtain ⟨met, collectedAfter, isPrefix⟩ := marks.drops.childIds collected
      rw [parent_pushUnique, isParent]
      refine ⟨met, collectedAfter, fun listed isListed member => ?_⟩
      have inside := isPrefix.subset member
      rcases mem_pushUnique.mp isListed with wasListed | rfl
      · rcases marks.list with ⟨-, ownList, foundOwn⟩ | ⟨-, unlisted⟩
        · rw [foundOwn] at wasListed isParent
          obtain ⟨members, collectedOwn, apart⟩ := owns.apart listId ownList foundOwn
          rw [show ownList.parent = parent from isParent, collected] at collectedOwn
          cases collectedOwn
          exact apart listed wasListed inside
        · rw [unlisted] at wasListed
          simp [DeletionList.new] at wasListed
      · exact absent inside
    · obtain ⟨members, collectedOther, apart⟩ := owns.apart otherId list found
      obtain ⟨met, collectedAfter, isPrefix⟩ := marks.drops.childIds collectedOther
      exact ⟨met, collectedAfter, fun listed isListed member =>
        apart listed isListed (isPrefix.subset member)⟩

end

end MarksDeletion

theorem OwnsDeletionLists.relink_filter {deleted : FiberId} (owns : arena.OwnsDeletionLists)
    (collected : arena.childIds parent = .ok children)
    (valid : arena.ValidatesChildren parent (children.filter (· ≠ deleted))) :
    (arena.relink parent children (children.filter (· ≠ deleted))).OwnsDeletionLists := by
  refine (owns.relink_iff collected valid).mpr fun listId list found => ?_
  obtain ⟨members, collectedOwn, apart⟩ := owns.apart listId list found
  constructor
  · intro isParent child isKept isDeleted
    rw [isParent, collected] at collectedOwn
    cases collectedOwn
    exact apart child isDeleted (mem_of_mem_filter isKept)
  · intro _ before entry behind front rest collectedOther clean shape child isBehind isDeleted
    cases collectedOther.symm.trans collectedOwn
    have isKept : entry ∈ children.filter (· ≠ deleted) := by
      rw [shape]
      simp
    obtain ⟨earlier, later, rfl⟩ := mem_iff_append.mp (mem_of_mem_filter isKept)
    -- From the entry on both chains are one.
    have sameEnd : later = behind :=
      (childIds_eq_ok_iff.mp collected).2.1.of_append.unique
        (childIds_eq_ok_iff.mp collectedOther).2.1.of_append
    have notDeleted : entry ≠ deleted := by simpa using (mem_filter.mp isKept).2
    have noDuplicates := valid.nodup
    rw [shape] at noDuplicates
    obtain ⟨-, entryOnce, frontApart⟩ := nodup_append.mp noDuplicates
    rw [filter_append, filter_cons_of_pos (by simpa using notDeleted)] at shape
    obtain ⟨-, -, isRest⟩ := (append_cons_inj_of_notMem
      (fun member => frontApart entry member entry (by simp) rfl)
      (nodup_cons.mp entryOnce).1).mp shape.symm
    rw [isRest, sameEnd] at isBehind
    exact apart child isDeleted (by simp [mem_of_mem_filter isBehind])

theorem SoundLinks.performDeletion (sound : arena.SoundLinks) (operation : DeletionOperation) :
    (arena.performDeletion operation).SoundLinks := by
  cases operation with
  | createFiber tag key pendingProps mode =>
    obtain ⟨id, after, ran, dead, lists, nodes⟩ := run_createFiber arena tag key pendingProps mode
    rw [FiberArena.performDeletion, ran, stateAfter]
    obtain ⟨drops, deletions⟩ := drops_of_create ⟨rfl, rfl, rfl, rfl, rfl⟩ nodes
    refine sound.of_drops drops fun other listId named => ?_
    rw [deletions] at named
    rw [deletionList_congr lists]
    split at named
    · cases named
    · exact sound.ownList other listId named
  | createWorkInProgress current pendingProps =>
    rcases run_createWorkInProgress arena current pendingProps with
      ⟨-, error, refused⟩ |
      ⟨currentNode, workInProgress, after, ran, live, -, -, lists, nodes⟩
    · rw [FiberArena.performDeletion, refused, stateAfter]
      exact sound
    · rw [FiberArena.performDeletion, ran, stateAfter]
      obtain ⟨drops, deletions⟩ := drops_of_workInProgress live nodes
      refine sound.of_drops drops fun other listId named => ?_
      rw [deletions] at named
      rw [deletionList_congr lists]
      split at named
      · cases named
      · exact sound.ownList other listId named
  | setChildren parent children =>
    rcases run_setChildren arena parent children with
      ⟨-, error, refused⟩ | ⟨oldChildren, valid, collected, ran⟩
    · rw [FiberArena.performDeletion, refused, stateAfter]
      exact sound
    · rw [FiberArena.performDeletion, ran, stateAfter]
      exact sound.relink collected valid
  | markChildForDeletion parent deleted =>
    have owned : ∀ list, arena.deletions? parent = some list →
        ∃ deletions, arena.deletionList list = some deletions := by
      intro list named
      obtain ⟨deletions, found, -⟩ := sound.ownList parent list named
      exact ⟨deletions, found⟩
    rcases run_markChildForDeletion arena parent deleted owned with
      ⟨error, refused⟩ |
      ⟨children, unlinked, listId, after, ran, -, -, collected, shape, marks⟩
    · rw [FiberArena.performDeletion, refused, stateAfter]
      exact sound
    · rw [FiberArena.performDeletion, ran, stateAfter]
      rcases shape with ⟨-, rfl⟩ | ⟨-, valid, rfl⟩
      · exact marks.soundLinks sound
      · exact marks.soundLinks (sound.relink collected valid)
  | clearDeletionsAfterCleanup parent =>
    rcases run_clearDeletionsAfterCleanup arena parent with
      ⟨error, refused⟩ | ran | ⟨listId, after, ran, named, clears⟩
    · rw [FiberArena.performDeletion, refused, stateAfter]
      exact sound
    · rw [FiberArena.performDeletion, ran, stateAfter]
      exact sound
    · rw [FiberArena.performDeletion, ran, stateAfter]
      refine sound.of_drops clears.drops fun other otherId namedOther => ?_
      rw [clears.deletions] at namedOther
      split at namedOther
      · cases namedOther
      · rename_i notParent
        obtain ⟨list, found, own⟩ := sound.ownList other otherId namedOther
        have different : otherId ≠ listId := by
          rintro rfl
          obtain ⟨ownList, foundOwn, isParent⟩ := sound.ownList parent otherId named
          cases found.symm.trans foundOwn
          exact notParent (own.symm.trans isParent)
        exact ⟨list, by rw [clears.lists, if_neg different, found], own⟩

theorem OwnsDeletionLists.performDeletion_iff (owns : arena.OwnsDeletionLists)
    (sound : arena.SoundLinks) (operation : DeletionOperation) :
    (arena.performDeletion operation).OwnsDeletionLists ↔ arena.KeepsDeletionLists operation := by
  cases operation with
  | createFiber tag key pendingProps mode =>
    obtain ⟨id, after, ran, dead, lists, nodes⟩ := run_createFiber arena tag key pendingProps mode
    rw [performDeletion, ran, stateAfter]
    obtain ⟨drops, deletions⟩ := drops_of_create ⟨rfl, rfl, rfl, rfl, rfl⟩ nodes
    refine iff_of_true (owns.of_drops drops fun listId list found => ?_) trivial
    rw [deletionList_congr lists] at found
    have different : list.parent ≠ id := by
      rintro rfl
      exact dead (isLive_of_deletions? (owns.deletions?_parent found))
    exact ⟨found, by rw [deletions, if_neg different]⟩
  | createWorkInProgress current pendingProps =>
    rcases run_createWorkInProgress arena current pendingProps with
      ⟨unpaired, error, refused⟩ |
      ⟨currentNode, workInProgress, after, ran, live, -, found, lists, nodes⟩
    · rw [performDeletion, refused, stateAfter]
      refine iff_of_true owns fun existing paired valid => ?_
      exact absurd valid (unpaired existing paired)
    · rw [performDeletion, ran, stateAfter]
      obtain ⟨drops, deletions⟩ := drops_of_workInProgress live nodes
      constructor
      · intro ownsAfter existing paired valid
        rcases found with ⟨forward, -⟩ | ⟨unpaired, -⟩
        · obtain rfl := Option.some.inj (paired.symm.trans forward)
          by_contra named
          obtain ⟨listId, named⟩ := Option.ne_none_iff_exists'.mp named
          obtain ⟨list, foundList, own⟩ := sound.ownList existing listId named
          have lost := ownsAfter.deletions?_parent
            ((deletionList_congr lists listId).trans foundList)
          rw [deletions, if_pos own] at lost
          cases lost
        · rw [unpaired] at paired
          cases paired
      · intro condition
        refine owns.of_drops drops fun listId list foundList => ?_
        rw [deletionList_congr lists] at foundList
        have own := owns.deletions?_parent foundList
        have different : list.parent ≠ workInProgress := by
          rintro isWorkInProgress
          rw [isWorkInProgress] at own
          rcases found with ⟨forward, valid⟩ | ⟨-, dead⟩
          · rw [condition workInProgress forward valid] at own
            cases own
          · exact dead (isLive_of_deletions? own)
        exact ⟨foundList, by rw [deletions, if_neg different]⟩
  | setChildren parent children =>
    rcases run_setChildren arena parent children with
      ⟨invalid, error, refused⟩ | ⟨oldChildren, valid, collected, ran⟩
    · rw [performDeletion, refused, stateAfter]
      refine iff_of_true owns fun valid oldChildren listId list collected => ?_
      exact absurd ⟨valid, oldChildren, collected⟩ invalid
    · rw [performDeletion, ran, stateAfter, owns.relink_iff collected valid]
      constructor
      · intro condition _ collectedChildren listId list collectedAgain
        cases collected.symm.trans collectedAgain
        exact condition listId list
      · intro condition listId list
        exact condition valid oldChildren listId list collected
  | markChildForDeletion parent deleted =>
    have owned : ∀ list, arena.deletions? parent = some list →
        ∃ deletions, arena.deletionList list = some deletions := by
      intro list named
      obtain ⟨deletions, found, -⟩ := sound.ownList parent list named
      exact ⟨deletions, found⟩
    rcases run_markChildForDeletion arena parent deleted owned with
      ⟨error, refused⟩ |
      ⟨children, unlinked, listId, after, ran, -, -, collected, shape, marks⟩
    · rw [performDeletion, refused, stateAfter]
      exact iff_of_true owns trivial
    · rw [performDeletion, ran, stateAfter]
      refine iff_of_true ?_ trivial
      rcases shape with ⟨absent, rfl⟩ | ⟨-, valid, rfl⟩
      · exact marks.ownsDeletionLists sound owns collected absent
      · exact marks.ownsDeletionLists (sound.relink collected valid)
          (owns.relink_filter collected valid) (childIds_relink collected valid) (by simp)
  | clearDeletionsAfterCleanup parent =>
    rcases run_clearDeletionsAfterCleanup arena parent with
      ⟨error, refused⟩ | ran | ⟨listId, after, ran, named, clears⟩
    · rw [performDeletion, refused, stateAfter]
      exact iff_of_true owns trivial
    · rw [performDeletion, ran, stateAfter]
      exact iff_of_true owns trivial
    · rw [performDeletion, ran, stateAfter]
      refine iff_of_true (owns.of_drops clears.drops fun otherId list found => ?_) trivial
      rw [clears.lists] at found
      split at found
      · cases found
      · rename_i different
        refine ⟨found, ?_⟩
        have notParent : list.parent ≠ parent := by
          intro isParent
          have own := owns.deletions?_parent found
          rw [isParent, named] at own
          exact different (Option.some.inj own).symm
        rw [clears.deletions, if_neg notParent]

/-- In every arena on the way the lists are owned and apart from the children exactly
when every operation meets the condition. -/
theorem ownsDeletionLists_throughout_iff (operations : List DeletionOperation) :
    (∀ taken, taken <+: operations →
      (taken.foldl performDeletion new).OwnsDeletionLists) ↔
      Permitted KeepsDeletionLists performDeletion new operations := by
  have noFiber : ∀ id, ¬ new.IsLive id := by
    rintro id ⟨node, live⟩
    simp [new, get?] at live
  have noList : ∀ listId, new.deletionList listId = none := by simp [new, deletionList]
  apply @Permitted.iff_everywhere _ _ _ _ OwnsDeletionLists SoundLinks
  · refine .of_links ?_ ?_
    · intro listId list found
      rw [noList] at found
      cases found
    · intro listId list found
      rw [noList] at found
      cases found
  · refine ⟨?_, ?_, ?_, ?_⟩
    · intro id cycle
      obtain ⟨target, link, -⟩ := Relation.TransGen.head'_iff.mp cycle
      exact noFiber id (isLive_of_sibling? link)
    · exact fun id sibling linked => absurd (isLive_of_sibling? linked) (noFiber id)
    · exact fun id child linked => absurd (isLive_of_child? linked) (noFiber id)
    · exact fun id listId named => absurd (isLive_of_deletions? named) (noFiber id)
  · exact fun arena operation sound => sound.performDeletion operation
  · exact fun arena operation sound owns => owns.performDeletion_iff sound operation

/-- A fragment whose work in progress gets a deleted child and is rewritten. -/
def rewrittenWorkInProgress : List DeletionOperation :=
  [.createFiber .fragment none .none .no,
    .createFiber .fragment none .none .no,
    .createWorkInProgress ⟨0, 0⟩ .none,
    .markChildForDeletion ⟨2, 0⟩ ⟨1, 0⟩,
    .createWorkInProgress ⟨0, 0⟩ .none]

/-- A fragment that gets a deleted fiber as its child. -/
def listedChild : List DeletionOperation :=
  [.createFiber .fragment none .none .no,
    .createFiber .fragment none .none .no,
    .markChildForDeletion ⟨0, 0⟩ ⟨1, 0⟩,
    .setChildren ⟨0, 0⟩ [⟨1, 0⟩]]

/-- The work in progress no longer names its list, and the listed fiber is a child. -/
theorem deletion_list_orphaned_or_shared :
    ¬ (rewrittenWorkInProgress.foldl performDeletion new).OwnsDeletionLists ∧
    ¬ (listedChild.foldl performDeletion new).OwnsDeletionLists := by
  constructor
  · intro owns
    have kept : ((rewrittenWorkInProgress.foldl performDeletion new).deletionList ⟨0⟩).map
        parent = some ⟨2, 0⟩ := by decide
    have unnamed :
        (rewrittenWorkInProgress.foldl performDeletion new).deletions? ⟨2, 0⟩ = none := by
      decide
    obtain ⟨list, found, isParent⟩ := Option.map_eq_some_iff.mp kept
    have own := owns.deletions?_parent found
    rw [isParent, unnamed] at own
    cases own
  · intro owns
    have kept : ((listedChild.foldl performDeletion new).deletionList ⟨0⟩).map
        (fun list => (list.parent, list.deleted)) = some (⟨0, 0⟩, [⟨1, 0⟩]) := by decide
    have chain : (listedChild.foldl performDeletion new).childIds ⟨0, 0⟩ = .ok [⟨1, 0⟩] := by rfl
    obtain ⟨list, found, shape⟩ := Option.map_eq_some_iff.mp kept
    obtain ⟨children, collected, apart⟩ := owns.apart ⟨0⟩ list found
    rw [show list.parent = ⟨0, 0⟩ from congrArg Prod.fst shape, chain] at collected
    cases collected
    have listed : list.deleted = [⟨1, 0⟩] := congrArg Prod.snd shape
    exact apart ⟨1, 0⟩ (by simp [listed]) (by simp)

end FiberArena

end FastReact
