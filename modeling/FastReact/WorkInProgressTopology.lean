import FastReact.FiberChildSteps
import FastReact.FiberTopologyChecks

namespace FastReact

open ErrorState LinkWalk List

/-!
# The topology after a work in progress is created

Creating the work in progress of a fiber writes one node that is in no tree.  Where the
node was in a chain, or had children, the fibers around it still point at it; everywhere
else the topology is as it was.
-/

namespace FiberArena

/-- A fiber is in the chain of a parent or in the deletion list of it. -/
def HousedBy (arena : FiberArena) (id parent : FiberId) : Prop :=
  (∃ children, arena.childIds parent = .ok children ∧ id ∈ children) ∨
    ∃ listId list, arena.deletions? parent = some listId ∧
      arena.deletionList listId = some list ∧ id ∈ list.deleted

structure KeepsTopology (arena after : FiberArena) (workInProgress : FiberId) : Prop where
  valid : ∃ validation, after.validateTopology = .ok validation
  chains : ∀ other children, other ≠ workInProgress →
    arena.childIds other = .ok children → after.childIds other = .ok children
  parents : ∀ other, other ≠ workInProgress → after.returnFiber? other = arena.returnFiber? other
  housed : ∀ id parent, after.returnFiber? id = some parent → after.HousedBy id parent

structure ReusesApart (arena : FiberArena) (current : FiberId) : Prop where
  outOfChains : ∀ existing parent children, arena.alternate? current = some existing →
    arena.childIds parent = .ok children → existing ∉ children
  childless : ∀ existing id, arena.alternate? current = some existing →
    arena.returnFiber? id ≠ some existing
  housed : ∀ id parent, arena.alternate? current ≠ some id →
    arena.returnFiber? id = some parent → arena.HousedBy id parent

structure WritesWorkInProgress (arena after : FiberArena) (current workInProgress : FiberId)
    (currentNode : FiberNode) : Prop where
  currentLive : arena.get? current = some currentNode
  different : current ≠ workInProgress
  reuses : arena.alternate? current = some workInProgress ∧
      arena.alternate? workInProgress = some current ∨
    arena.alternate? current = none ∧ ¬ arena.IsLive workInProgress
  lists : after.deletionLists = arena.deletionLists
  written : ∃ pendingProps, after.get? workInProgress =
    some (currentNode.cloneForAlternate current pendingProps)
  others : ∀ other, other ≠ workInProgress → after.get? other =
    (arena.get? other).map fun node =>
      if other = current then node.setAlternate (some workInProgress) else node

variable {arena after : FiberArena} {current workInProgress id parent : FiberId}
  {currentNode node : FiberNode} {children : List FiberId}

theorem validateAlternatePair_of_passes {existing : FiberId} {existingNode : FiberNode}
    (passes : arena.PassesChecks current currentNode) (live : arena.get? current = some currentNode)
    (existingLive : arena.get? existing = some existingNode)
    (paired : currentNode.alternate = some existing) :
    arena.validateAlternatePair current existing = .ok () := by
  obtain ⟨different, -⟩ := passes.alternate existing paired
  obtain ⟨found, isFound, back, sameTag, sameKey⟩ := passes.alternateReturns existing paired
  cases existingLive.symm.trans isFound
  simp only [validateAlternatePair, validateAlternateStableIdentity, rejectSelfLink,
    get_eq_ok_iff.mpr live, get_eq_ok_iff.mpr existingLive, if_neg different, sameTag, sameKey,
    paired, back, bind, Except.bind, ne_eq, not_true_eq_false, or_self, if_false]

theorem exists_workInProgress (valid : ∃ validation, arena.validateTopology = .ok validation)
    (live : arena.IsLive current) (pendingProps : PropsHandle) :
    ∃ workInProgress after currentNode,
      (createWorkInProgress current pendingProps).run arena = .ok workInProgress after ∧
      WritesWorkInProgress arena after current workInProgress currentNode := by
  have passes := validateTopology_ok_iff.mp valid
  rcases run_createWorkInProgress arena current pendingProps with
    ⟨notPaired, error, refused⟩ |
    ⟨currentNode, workInProgress, after, ran, currentLive, different, reuses, lists, nodes⟩
  · exfalso
    obtain ⟨node, found⟩ := live
    cases alternate : node.alternate with
    | some existing =>
      obtain ⟨-, existingNode, existingLive⟩ :=
        (passes current node found).alternate existing alternate
      exact notPaired existing ((alternate?_of_get? found).trans alternate)
        (validateAlternatePair_of_passes (passes current node found) found existingLive alternate)
    | none =>
      obtain ⟨fresh, created, ranCreate, dead, -, nodesCreated⟩ :=
        run_createFiber arena node.tag node.key pendingProps node.mode
      have different : current ≠ fresh := by
        rintro rfl
        exact dead ⟨node, found⟩
      have kept : created.get? current = some node := by rw [nodesCreated, if_neg different, found]
      obtain ⟨after, ran, -⟩ := run_rewriteWorkInProgress kept
        ⟨_, (nodesCreated fresh).trans (if_pos rfl)⟩ different pendingProps
      simp only [createWorkInProgress, run_bind, run_query,
        get_eq_ok_iff.mpr found, alternate, ranCreate] at refused
      cases ran.symm.trans refused
  · refine ⟨workInProgress, after, currentNode, ran, currentLive, different, ?_, lists,
      ⟨pendingProps, by rw [nodes, if_pos rfl]⟩, ?_⟩
    · rcases reuses with ⟨paired, validPair⟩ | fresh
      · exact .inl ⟨paired, (of_validateAlternatePair validPair).2.2⟩
      · exact .inr fresh
    · intro other notWritten
      rw [nodes, if_neg notWritten]
      split
      · rename_i isCurrent
        rw [isCurrent, currentLive, Option.map_some]
      · cases arena.get? other <;> rfl

namespace WritesWorkInProgress

variable (writes : arena.WritesWorkInProgress after current workInProgress currentNode)
include writes

theorem live : after.IsLive id ↔ id = workInProgress ∨ arena.IsLive id := by
  by_cases isWritten : id = workInProgress
  · obtain ⟨pendingProps, written⟩ := writes.written
    rw [isWritten]
    exact iff_of_true ⟨_, written⟩ (.inl rfl)
  · rw [IsLive, writes.others id isWritten]
    simp [isWritten, IsLive]

theorem bind_others {Value : Type} {link : FiberNode → Option Value}
    (unrelated : ∀ node alternate, link (node.setAlternate alternate) = link node)
    (notWritten : id ≠ workInProgress) : (after.get? id).bind link = (arena.get? id).bind link := by
  rw [writes.others id notWritten]
  cases arena.get? id with
  | none => rfl
  | some node =>
    rw [Option.map_some, Option.bind_some, Option.bind_some]
    split
    · exact unrelated node _
    · rfl

section

variable (notWritten : id ≠ workInProgress)
include notWritten

theorem returnFiber?_others : after.returnFiber? id = arena.returnFiber? id :=
  writes.bind_others (fun _ _ => rfl) notWritten

theorem child?_others : after.child? id = arena.child? id :=
  writes.bind_others (fun _ _ => rfl) notWritten

theorem sibling?_others : after.sibling? id = arena.sibling? id :=
  writes.bind_others (fun _ _ => rfl) notWritten

theorem deletions?_others : after.deletions? id = arena.deletions? id :=
  writes.bind_others (fun _ _ => rfl) notWritten

end

theorem deletionList (listId : DeletionListId) :
    after.deletionList listId = arena.deletionList listId := by
  rw [FiberArena.deletionList, writes.lists, FiberArena.deletionList]

theorem unlinked :
    after.returnFiber? workInProgress = none ∧
      after.childIds workInProgress = .ok [] ∧
      after.deletions? workInProgress = none := by
  obtain ⟨pendingProps, written⟩ := writes.written
  refine ⟨returnFiber?_of_get? written, ?_, deletions?_of_get? written⟩
  rw [childIds_eq_ok_iff, child?_of_get? written]
  exact ⟨⟨_, written⟩, rfl, by simp⟩

theorem childIds_others (notWritten : id ≠ workInProgress)
    (collected : arena.childIds id = .ok children) (absent : workInProgress ∉ children) :
    after.childIds id = .ok children := by
  obtain ⟨live, walk, childrenLive⟩ := childIds_eq_ok_iff.mp collected
  rw [childIds_eq_ok_iff, writes.child?_others notWritten]
  refine ⟨writes.live.mpr (.inr live), walk.congr ?_, ?_⟩
  · intro other member
    apply writes.sibling?_others
    rintro rfl
    exact absent member
  · exact fun other member => writes.live.mpr (.inr (childrenLive other member))

theorem linkResolves {link : Option FiberId} (resolves : arena.LinkResolves id link) :
    after.LinkResolves id link := by
  intro target linked
  obtain ⟨different, live⟩ := resolves target linked
  exact ⟨different, writes.live.mpr (.inr live)⟩

theorem passesChecks_written (written : after.get? workInProgress = some node) :
    after.PassesChecks workInProgress node := by
  obtain ⟨pendingProps, isWritten⟩ := writes.written
  cases isWritten.symm.trans written
  have currentAfter := (writes.others current writes.different).trans
    (congrArg _ writes.currentLive)
  rw [Option.map_some, if_pos rfl] at currentAfter
  refine ⟨nofun, nofun, nofun, ?_, ?_, nofun, [], writes.unlinked.2.1, nofun⟩
  · intro target linked
    cases linked
    exact ⟨Ne.symm writes.different, _, currentAfter⟩
  · intro alternate linked
    cases linked
    exact ⟨_, currentAfter, rfl, rfl, rfl⟩

theorem deletionsApart
    (stays : ∀ children, arena.childIds id = .ok children → after.childIds id = .ok children)
    (apart : arena.DeletionsApart id node) : after.DeletionsApart id node := by
  intro listId named
  obtain ⟨list, found, isParent, flagged, left⟩ := apart listId named
  refine ⟨list, (writes.deletionList listId).trans found, isParent, flagged, ?_⟩
  intro deleted member
  obtain ⟨live, children, collected, absent⟩ := left deleted member
  exact ⟨writes.live.mpr (.inr live), children, stays children collected, absent⟩

theorem childrenReturn (absent : workInProgress ∉ children)
    (returning : arena.ChildrenReturn id children) : after.ChildrenReturn id children := by
  intro index child atIndex
  obtain ⟨childNode, live, isParent, isIndex⟩ := returning index child atIndex
  have notWritten : child ≠ workInProgress := by
    rintro rfl
    exact absent (mem_of_getElem? atIndex)
  refine ⟨_, (writes.others child notWritten).trans (congrArg _ live), ?_, ?_⟩
  · split
    · exact isParent
    · exact isParent
  · split
    · exact isIndex
    · exact isIndex

/-- A fiber that is not written passes its checks when the work in progress is none of its
children. -/
theorem passesChecks_others {nodeAfter : FiberNode} (notWritten : id ≠ workInProgress)
    (passes : ∀ node, arena.get? id = some node → arena.PassesChecks id node)
    (outOfChain : ∀ children, arena.childIds id = .ok children → workInProgress ∉ children)
    (liveAfter : after.get? id = some nodeAfter) : after.PassesChecks id nodeAfter := by
  rw [writes.others id notWritten] at liveAfter
  obtain ⟨node, live, isNode⟩ := Option.map_eq_some_iff.mp liveAfter
  have passed := passes node live
  obtain ⟨children, collected, returning⟩ := passed.children
  have stays : ∀ children, arena.childIds id = .ok children →
      after.childIds id = .ok children := fun children collected =>
    writes.childIds_others notWritten collected (outOfChain children collected)
  have childrenKept : ∃ children, after.childIds id = .ok children ∧
      after.ChildrenReturn id children :=
    ⟨children, stays children collected,
      writes.childrenReturn (outOfChain children collected) returning⟩
  obtain ⟨pendingProps, written⟩ := writes.written
  by_cases isCurrent : id = current
  · rw [if_pos isCurrent] at isNode
    rw [isCurrent] at live
    cases live.symm.trans writes.currentLive
    rw [← isNode]
    refine ⟨writes.linkResolves passed.returnFiber, writes.linkResolves passed.child,
      writes.linkResolves passed.sibling, ?_, ?_, writes.deletionsApart stays
        passed.deletionsApart, childrenKept⟩
    · intro target linked
      cases linked
      exact ⟨notWritten, _, written⟩
    · intro alternate linked
      cases linked
      exact ⟨_, written, congrArg some isCurrent.symm, rfl, rfl⟩
  · rw [if_neg isCurrent] at isNode
    rw [← isNode]
    refine ⟨writes.linkResolves passed.returnFiber, writes.linkResolves passed.child,
      writes.linkResolves passed.sibling, writes.linkResolves passed.alternate, ?_,
      writes.deletionsApart stays passed.deletionsApart, childrenKept⟩
    intro alternate linked
    obtain ⟨alternateNode, alternateLive, back, sameTag, sameKey⟩ :=
      passed.alternateReturns alternate linked
    have returns := (alternate?_of_get? alternateLive).trans back
    -- The pair that is written is nobody else's alternate.
    have notTarget : alternate ≠ workInProgress := by
      rintro rfl
      rcases writes.reuses with ⟨-, reciprocal⟩ | ⟨-, dead⟩
      · exact isCurrent (Option.some.inj (returns.symm.trans reciprocal))
      · exact dead ⟨alternateNode, alternateLive⟩
    have notCurrent : alternate ≠ current := by
      rintro rfl
      rcases writes.reuses with ⟨paired, -⟩ | ⟨unpaired, -⟩
      · exact notWritten (Option.some.inj (returns.symm.trans paired))
      · rw [unpaired] at returns
        cases returns
    refine ⟨alternateNode, ?_, back, sameTag, sameKey⟩
    rw [writes.others alternate notTarget, alternateLive, Option.map_some, if_neg notCurrent]

theorem housedBy_others (notWritten : parent ≠ workInProgress)
    (outOfChain : ∀ children, arena.childIds parent = .ok children → workInProgress ∉ children)
    (housed : arena.HousedBy id parent) : after.HousedBy id parent := by
  rcases housed with ⟨children, collected, member⟩ | ⟨listId, list, named, found, member⟩
  · exact .inl ⟨children,
      writes.childIds_others notWritten collected (outOfChain children collected), member⟩
  · exact .inr ⟨listId, list, (writes.deletions?_others notWritten).trans named,
      (writes.deletionList listId).trans found, member⟩

theorem not_housedBy_written : ¬ after.HousedBy id workInProgress := by
  obtain ⟨-, noChildren, noDeletions⟩ := writes.unlinked
  rintro (⟨children, collected, member⟩ | ⟨listId, list, named, -⟩)
  · cases noChildren.symm.trans collected
    cases member
  · rw [noDeletions] at named
    cases named

theorem keepsTopology (valid : ∃ validation, arena.validateTopology = .ok validation)
    (apart : arena.ReusesApart current) : arena.KeepsTopology after workInProgress := by
  have passes := validateTopology_ok_iff.mp valid
  have outOfChains : ∀ parent children, arena.childIds parent = .ok children →
      workInProgress ∉ children := by
    intro parent children collected member
    rcases writes.reuses with ⟨paired, -⟩ | ⟨-, dead⟩
    · exact apart.outOfChains workInProgress parent children paired collected member
    · exact dead ((childIds_eq_ok_iff.mp collected).2.2 workInProgress member)
  refine ⟨validateTopology_ok_iff.mpr ?_, ?_, fun other => writes.returnFiber?_others, ?_⟩
  · intro id node live
    by_cases isWritten : id = workInProgress
    · rw [isWritten] at live ⊢
      exact writes.passesChecks_written live
    · exact writes.passesChecks_others isWritten (passes id) (outOfChains id) live
  · intro other children notWritten collected
    exact writes.childIds_others notWritten collected (outOfChains other children collected)
  · intro id parent linked
    have notWritten : id ≠ workInProgress := by
      rintro rfl
      rw [writes.unlinked.1] at linked
      cases linked
    rw [writes.returnFiber?_others notWritten] at linked
    have notAlternate : arena.alternate? current ≠ some id := by
      intro paired
      rcases writes.reuses with ⟨reused, -⟩ | ⟨unpaired, -⟩
      · exact notWritten (Option.some.inj (paired.symm.trans reused))
      · rw [unpaired] at paired
        cases paired
    have parentNotWritten : parent ≠ workInProgress := by
      rintro rfl
      rcases writes.reuses with ⟨paired, -⟩ | ⟨-, dead⟩
      · exact apart.childless parent id paired linked
      · obtain ⟨node, live⟩ := isLive_of_returnFiber? linked
        rw [returnFiber?_of_get? live] at linked
        exact dead ((passes id node live).returnFiber parent linked).2
    exact writes.housedBy_others parentNotWritten (outOfChains parent)
      (apart.housed id parent notAlternate linked)

theorem outOfChains (passes : ∀ id node, arena.get? id = some node → arena.PassesChecks id node)
    (keeps : arena.KeepsTopology after workInProgress)
    (collected : arena.childIds parent = .ok children) : workInProgress ∉ children := by
  intro member
  obtain ⟨index, atIndex⟩ := mem_iff_getElem?.mp member
  by_cases isWritten : parent = workInProgress
  · obtain ⟨node, live⟩ := (childIds_eq_ok_iff.mp collected).1
    obtain ⟨again, collectedAgain, returning⟩ := (passes parent node live).children
    cases collected.symm.trans collectedAgain
    obtain ⟨childNode, childLive, isParent, -⟩ := returning index workInProgress atIndex
    have own := (passes workInProgress childNode childLive).returnFiber parent isParent
    exact own.1 isWritten.symm
  · have collectedAfter := keeps.chains parent children isWritten collected
    obtain ⟨nodeAfter, liveAfter⟩ := (childIds_eq_ok_iff.mp collectedAfter).1
    obtain ⟨again, collectedAgain, returning⟩ :=
      (validateTopology_ok_iff.mp keeps.valid parent nodeAfter liveAfter).children
    cases collectedAfter.symm.trans collectedAgain
    obtain ⟨childNode, childLive, isParent, -⟩ := returning index workInProgress atIndex
    have noParent := writes.unlinked.1
    rw [returnFiber?_of_get? childLive, isParent] at noParent
    cases noParent

/-- Where the topology is kept, the node was apart. -/
theorem reusesApart (valid : ∃ validation, arena.validateTopology = .ok validation)
    (keeps : arena.KeepsTopology after workInProgress) : arena.ReusesApart current := by
  have passes := validateTopology_ok_iff.mp valid
  have isWritten : ∀ existing, arena.alternate? current = some existing →
      existing = workInProgress := by
    intro existing paired
    rcases writes.reuses with ⟨reused, -⟩ | ⟨unpaired, -⟩
    · exact Option.some.inj (paired.symm.trans reused)
    · rw [unpaired] at paired
      cases paired
  have notSelfParent : ∀ id, arena.returnFiber? id ≠ some id := by
    intro id linked
    obtain ⟨node, live⟩ := isLive_of_returnFiber? linked
    rw [returnFiber?_of_get? live] at linked
    exact ((passes id node live).returnFiber id linked).1 rfl
  have notParent : ∀ id, id ≠ workInProgress → arena.returnFiber? id ≠ some workInProgress := by
    intro id notWritten linked
    rw [← writes.returnFiber?_others notWritten] at linked
    exact writes.not_housedBy_written (keeps.housed id workInProgress linked)
  refine ⟨?_, ?_, ?_⟩
  · intro existing parent children paired collected
    rw [isWritten existing paired]
    exact writes.outOfChains passes keeps collected
  · intro existing id paired
    rw [isWritten existing paired]
    by_cases same : id = workInProgress
    · rw [same]
      exact notSelfParent workInProgress
    · exact notParent id same
  · intro id parent notAlternate linked
    have notWritten : id ≠ workInProgress := by
      rintro rfl
      rcases writes.reuses with ⟨paired, -⟩ | ⟨-, dead⟩
      · exact notAlternate paired
      · exact dead (isLive_of_returnFiber? linked)
    have parentNotWritten : parent ≠ workInProgress := by
      rintro rfl
      exact notParent id notWritten linked
    obtain ⟨node, live⟩ := isLive_of_returnFiber? linked
    rw [← writes.returnFiber?_others notWritten] at linked
    rcases keeps.housed id parent linked with
      ⟨children, collected, member⟩ | ⟨listId, list, named, found, member⟩
    · rw [writes.returnFiber?_others notWritten, returnFiber?_of_get? live] at linked
      obtain ⟨-, parentNode, parentLive⟩ := (passes id node live).returnFiber parent linked
      obtain ⟨before, collectedBefore, -⟩ := (passes parent parentNode parentLive).children
      cases collected.symm.trans (keeps.chains parent before parentNotWritten collectedBefore)
      exact .inl ⟨children, collectedBefore, member⟩
    · exact .inr ⟨listId, list, (writes.deletions?_others parentNotWritten).symm.trans named,
        (writes.deletionList listId).symm.trans found, member⟩

end WritesWorkInProgress

end FiberArena

open FiberArena

/-- Creating the work in progress of a live fiber in a valid arena succeeds, and it keeps
the topology exactly where a reused alternate is in no chain and nobody's parent, and all
other fibers are housed by the parents they name. -/
theorem createWorkInProgress_keeps_topology_iff
    {arena : FiberArena}
    {current : FiberId}
    (valid : ∃ validation, arena.validateTopology = .ok validation)
    (live : arena.IsLive current)
    (pendingProps : PropsHandle) :
    ∃ workInProgress after,
      (createWorkInProgress current pendingProps).run arena = .ok workInProgress after ∧
      (arena.KeepsTopology after workInProgress ↔ arena.ReusesApart current) := by
  obtain ⟨workInProgress, after, currentNode, ran, writes⟩ :=
    exists_workInProgress valid live pendingProps
  exact ⟨workInProgress, after, ran, writes.reusesApart valid, writes.keepsTopology valid⟩

/-- A fragment with a child and an empty work in progress. -/
def renderedFragment : FiberArena :=
  stateAfter ((do
    let current ← createFiber .fragment none .none .no
    let child ← createFiber .hostText none .none .no
    setChildren current [child]
    let _ ← createWorkInProgress current .none
    : FiberArenaM Unit).run new)

/-- The empty work in progress is reused and nothing else changes. -/
theorem createWorkInProgress_keeps_topology_iff_sample :
    ∃ workInProgress after,
      (createWorkInProgress ⟨0, 0⟩ .none).run renderedFragment = .ok workInProgress after ∧
      renderedFragment.KeepsTopology after workInProgress := by
  have live : ∀ id, renderedFragment.IsLive id → id ∈ [⟨0, 0⟩, ⟨1, 0⟩, ⟨2, 0⟩] :=
    fun id live => SlotArena.mem_handles.mpr live
  have parents : ∀ id ∈ [(⟨0, 0⟩ : FiberId), ⟨1, 0⟩, ⟨2, 0⟩], ∀ parent,
      renderedFragment.returnFiber? id = some parent → id = ⟨1, 0⟩ ∧ parent = ⟨0, 0⟩ := by
    intro id member parent linked
    simp only [mem_cons, not_mem_nil, or_false] at member
    rcases member with rfl | rfl | rfl
    · cases linked
    · exact ⟨rfl, (Option.some.inj linked).symm⟩
    · cases linked
  have apart : renderedFragment.ReusesApart ⟨0, 0⟩ := by
    refine ⟨?_, ?_, ?_⟩
    · intro existing parent children paired collected member
      have isParent : parent ∈ [⟨0, 0⟩, ⟨1, 0⟩, ⟨2, 0⟩] :=
        live parent (childIds_eq_ok_iff.mp collected).1
      cases paired
      simp only [mem_cons, not_mem_nil, or_false] at isParent
      rcases isParent with rfl | rfl | rfl
      · cases collected
        revert member
        decide
      · cases collected
        cases member
      · cases collected
        cases member
    · intro existing id paired linked
      cases paired
      have isParent := (parents id (live id (isLive_of_returnFiber? linked)) _ linked).2
      cases isParent
    · intro id parent _ linked
      obtain ⟨rfl, rfl⟩ := parents id (live id (isLive_of_returnFiber? linked)) parent linked
      exact .inl ⟨_, rfl, by decide⟩
  have valid : ∃ validation, renderedFragment.validateTopology = .ok validation := ⟨_, rfl⟩
  have currentLive : renderedFragment.IsLive ⟨0, 0⟩ := ⟨_, rfl⟩
  obtain ⟨workInProgress, after, ran, keeps⟩ :=
    createWorkInProgress_keeps_topology_iff valid currentLive .none
  exact ⟨workInProgress, after, ran, keeps.mpr apart⟩

/-- A fragment whose work in progress has a child of its own. -/
def preparedFragment : FiberArena :=
  stateAfter ((do
    let current ← createFiber .fragment none .none .no
    let workInProgress ← createWorkInProgress current .none
    let child ← createFiber .hostText none .none .no
    setChildren workInProgress [child]
    : FiberArenaM Unit).run new)

/-- Two fragments, one the child of the other, with their works in progress linked. -/
def preparedFragments : FiberArena :=
  stateAfter ((do
    let parent ← createFiber .fragment none .none .no
    let child ← createFiber .fragment none .none .no
    setChildren parent [child]
    let parentInProgress ← createWorkInProgress parent .none
    let childInProgress ← createWorkInProgress child .none
    setChildren parentInProgress [childInProgress]
    : FiberArenaM Unit).run new)

/-- The child of a rewritten work in progress names a parent without children, and a work
in progress that is rewritten in its chain makes the topology invalid. -/
theorem rewritten_alternate_breaks_topology :
    (∃ after, preparedFragment.validateTopology = .ok ⟨3, 0⟩ ∧
      (createWorkInProgress ⟨0, 0⟩ .none).run preparedFragment = .ok ⟨1, 0⟩ after ∧
      after.returnFiber? ⟨2, 0⟩ = some ⟨1, 0⟩ ∧ ¬ after.HousedBy ⟨2, 0⟩ ⟨1, 0⟩) ∧
    ∃ after, preparedFragments.validateTopology = .ok ⟨4, 0⟩ ∧
      (createWorkInProgress ⟨1, 0⟩ .none).run preparedFragments = .ok ⟨3, 0⟩ after ∧
      after.validateTopology = .error (.mixedParentSiblingChain ⟨2, 0⟩ ⟨3, 0⟩ none) := by
  refine ⟨⟨_, rfl, rfl, rfl, ?_⟩, _, rfl, rfl, rfl⟩
  rintro (⟨children, collected, member⟩ | ⟨listId, list, named, -⟩)
  · cases collected
    cases member
  · cases named

end FastReact
