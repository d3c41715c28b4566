import FastReact.HookStateQueueWaiting

namespace FastReact

open ErrorState HookQueueStore HookUpdateDispatchMetadata HookUpdateLane Lanes LinkedArena List Option RebaseQueue

/-!
# Lanes of retained updates

What a pass retains is accounted for by the lanes it reports: an update is retained exactly
if lanes remain, and each retained update has its own lanes or its revert lane among them.
-/

variable {State Action ReducerId DispatchId OwnerId : Type}

section Retained

variable {renderLanes rootRenderLanes : Lanes}
  {updates : List (HookUpdateDispatchMetadata Action State)}
  {update : HookUpdateDispatchMetadata Action State}

theorem leftover_isSubsetOf (member : update ∈ updates) :
    (update.leftover renderLanes rootRenderLanes).isSubsetOf
      (leftoverLanes renderLanes rootRenderLanes updates) = true := by
  induction updates using List.reverseRecOn with
  | nil =>
    cases member
  | append_singleton earlier last ih =>
    have split : leftoverLanes renderLanes rootRenderLanes (earlier ++ [last]) =
        (leftoverLanes renderLanes rootRenderLanes earlier).merge
          (last.leftover renderLanes rootRenderLanes) := by
      simp [leftoverLanes]
    rw [split]
    rcases mem_append.mp member with inside | isLast
    · exact isSubsetOf_trans (ih inside) (isSubsetOf_merge_left _ _)
    · rw [mem_singleton.mp isLast]
      exact isSubsetOf_merge_right _ _

theorem HookUpdateLane.priorityLanes_priority (lane : HookUpdateLane) :
    lane.priority.priorityLanes = lane.priorityLanes := by
  apply ext_index
  intro index
  simp [priority, priorityLanes]

theorem HookUpdateLane.isHidden_priority (lane : HookUpdateLane) :
    lane.priority.isHidden = false := by
  simp [priority, priorityLanes, isHidden, Lanes.containsLane, Lanes.removeLane, BitVec.and_assoc]

theorem HookUpdateLane.isHidden_no : no.isHidden = false := by decide

theorem HookUpdateLane.priorityLanes_no : no.priorityLanes = Lanes.no := by decide

variable {copy : HookUpdateDispatchMetadata Action State}

theorem exists_of_mem_retainedUpdates
    (member : copy ∈ retainedUpdates renderLanes rootRenderLanes updates) :
    ∃ original ∈ updates, original.retain? renderLanes rootRenderLanes = some copy := by
  obtain ⟨original, inPostponed, isCopy⟩ := mem_filterMap.mp member
  refine ⟨original, ?_, isCopy⟩
  rw [← settled_append_postponed (isDeferred renderLanes rootRenderLanes) updates]
  exact mem_append_right _ inPostponed

theorem retainedUpdates_eq_nil_iff_leftoverLanes :
    retainedUpdates renderLanes rootRenderLanes updates = [] ↔
      leftoverLanes renderLanes rootRenderLanes updates = Lanes.no := by
  rw [retainedUpdates_eq_nil_iff, postponed_eq_nil_iff, leftoverLanes_eq_no_iff]

/-- What the lanes of a retained copy are: not hidden, and its priority lanes, or its
revert lane if it has no lanes, among the remaining ones. -/
theorem retained_accounted (member : copy ∈ retainedUpdates renderLanes rootRenderLanes updates) :
    copy.lane.isHidden = false ∧
      copy.lane.priorityLanes.isSubsetOf
        (leftoverLanes renderLanes rootRenderLanes updates) = true ∧
      (copy.lane = HookUpdateLane.no →
        copy.revertLane.lanes.isSubsetOf
          (leftoverLanes renderLanes rootRenderLanes updates) = true) := by
  obtain ⟨original, isOriginal, isCopy⟩ := exists_of_mem_retainedUpdates member
  have inLeftover : (original.leftover renderLanes rootRenderLanes).isSubsetOf
      (leftoverLanes renderLanes rootRenderLanes updates) = true := leftover_isSubsetOf isOriginal
  have tests := fate_cases renderLanes rootRenderLanes original
  rw [leftover] at inLeftover
  rw [retain?] at isCopy
  cases fateShape : original.fate renderLanes rootRenderLanes with
  | skipped =>
    rw [fateShape] at tests inLeftover isCopy
    obtain rfl := some.inj isCopy
    have outside : original.lane.priorityLanes.isSubsetOf
        (original.laneScope renderLanes rootRenderLanes) = false := tests
    refine ⟨isHidden_priority original.lane, ?_, ?_⟩
    · exact (priorityLanes_priority original.lane).symm ▸ inLeftover
    · intro isNo
      -- A skipped update has lanes, as no lanes are in every scope.
      have noLanes : original.lane.priorityLanes = Lanes.no := congrArg lanes isNo
      rw [noLanes, no_isSubsetOf] at outside
      cases outside
  | applied =>
    rw [fateShape] at isCopy
    obtain rfl := some.inj isCopy
    refine ⟨isHidden_no, ?_, fun _ => no_isSubsetOf _⟩
    exact priorityLanes_no.symm ▸ no_isSubsetOf _
  | reverted =>
    rw [fateShape] at isCopy
    cases isCopy
  | optimistic =>
    rw [fateShape] at inLeftover isCopy
    obtain rfl := some.inj isCopy
    refine ⟨isHidden_no, ?_, fun _ => inLeftover⟩
    exact priorityLanes_no.symm ▸ no_isSubsetOf _

theorem revertLane_of_retain? (isCopy : update.retain? renderLanes rootRenderLanes = some copy)
    (noRevert : update.revertLane.isEmpty = true) : copy.revertLane.isEmpty = true := by
  rw [retain?] at isCopy
  cases fateShape : update.fate renderLanes rootRenderLanes with
  | skipped =>
    rw [fateShape] at isCopy
    obtain rfl := some.inj isCopy
    exact noRevert
  | applied =>
    rw [fateShape] at isCopy
    obtain rfl := some.inj isCopy
    rfl
  | reverted =>
    rw [fateShape] at isCopy
    cases isCopy
  | optimistic =>
    rw [fateShape] at isCopy
    obtain rfl := some.inj isCopy
    exact noRevert

theorem isDeferred_eq_false_of_inScope
    (inScope : update.lane.priorityLanes.isSubsetOf
      (update.laneScope renderLanes rootRenderLanes) = true)
    (noRevert : update.revertLane.isEmpty = true) :
    update.isDeferred renderLanes rootRenderLanes = false := by
  have isApplied : update.fate renderLanes rootRenderLanes = .applied := by
    simp [fate, inScope, noRevert]
  rw [isDeferred, isApplied]

/-- After a successful pass over any store the base ring is there exactly if lanes remain,
and they account for every update in it. -/
theorem PassOver.accounted {store after : HookQueueStore State Action ReducerId DispatchId}
    {slot slotAfter : HookStateSlot State} {result : ProcessHookQueueResult State}
    {retainedIds : List HookUpdateId}
    (pass : PassOver store after slot slotAfter renderLanes rootRenderLanes result updates
      retainedIds) :
    (slotAfter.baseQueue.isSome = true ↔ result.remainingLanes.isNonEmpty = true) ∧
      after.updateRing slotAfter.baseQueue = .ok retainedIds ∧
      ∀ id ∈ retainedIds, ∀ copy, after.updates.data? id = some copy →
        copy.lane.priorityLanes.isSubsetOf result.remainingLanes = true ∧
        (copy.lane = HookUpdateLane.no →
          copy.revertLane.lanes.isSubsetOf result.remainingLanes = true) := by
  refine ⟨?_, updateRing_eq_ok pass.ring, ?_⟩
  · have nothing : slotAfter.baseQueue = none ↔ result.remainingLanes = Lanes.no := by
      rw [pass.ring.eq_none_iff, retainedUpdates_eq_nil_iff_leftoverLanes, pass.remainingLanes]
    rw [isNonEmpty_eq, Bool.not_eq_true', ← Bool.not_eq_true, isEmpty_iff_eq_no,
      ← nothing, isSome_iff_ne_none]
  · intro id member copy isCopy
    obtain ⟨other, isRetained, isData⟩ := pass.ring.holds.live member
    cases isData.symm.trans isCopy
    rw [pass.remainingLanes]
    exact (retained_accounted isRetained).2

end Retained

end FastReact
