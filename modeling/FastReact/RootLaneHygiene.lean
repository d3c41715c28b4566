import FastReact.ActionRun
import FastReact.RootLanes

namespace FastReact

open Lanes

/-!
# Hygiene of the lane bookkeeping

A lane that is not pending must have left no trace: it is in none of the subsets of
the pending lanes, and its rows are those of a new root.  Every operation keeps this
as long as it is told about pending lanes.
-/

inductive RootLaneOperation where
  | markUpdated (updateLane : Lane)
  | markSuspended (suspendedLanes : Lanes) (spawnedLane : Lane) (didAttemptEntireTree : Bool)
  | markPinged (pingedLanes : Lanes)
  | markFinished (finished : RootFinishedLanes)
  | markEntangled (entangledLanes : Lanes)
  | upgradePendingLanesToSync (lanesToUpgrade : Lanes)
  | markStarvedLanesAsExpired (currentTime : LaneTimestamp)
  | markExpired (lanes : Lanes)
  | markHiddenUpdate (lane : Lane)
  | clearHiddenUpdatesForLanes (lanes : Lanes)

namespace RootLaneState

def perform (state : RootLaneState) : RootLaneOperation → RootLaneState
  | .markUpdated updateLane => state.markUpdated updateLane
  | .markSuspended suspendedLanes spawnedLane didAttemptEntireTree =>
      state.markSuspended suspendedLanes spawnedLane didAttemptEntireTree
  | .markPinged pingedLanes => state.markPinged pingedLanes
  | .markFinished finished => state.markFinished finished
  | .markEntangled entangledLanes => state.markEntangled entangledLanes
  | .upgradePendingLanesToSync lanesToUpgrade => state.upgradePendingLanesToSync lanesToUpgrade
  | .markStarvedLanesAsExpired currentTime => state.markStarvedLanesAsExpired currentTime
  | .markExpired lanes => state.markExpired lanes
  | .markHiddenUpdate lane => (state.markHiddenUpdate lane).2
  | .clearHiddenUpdatesForLanes lanes => state.clearHiddenUpdatesForLanes lanes

/-- Suspending, entangling, expiring and hiding concern pending lanes, and finishing
leaves some of the pending lanes, the suspended retries among them. -/
def Admits (state : RootLaneState) : RootLaneOperation → Prop
  | .markSuspended suspendedLanes _ _ => suspendedLanes.isSubsetOf state.pendingLanes = true
  | .markEntangled entangledLanes => entangledLanes.isSubsetOf state.pendingLanes = true
  | .markExpired lanes => lanes.isSubsetOf state.pendingLanes = true
  | .markHiddenUpdate lane => lane.toLanes.isSubsetOf state.pendingLanes = true
  | .markFinished finished =>
      finished.suspendedRetryLanes.isSubsetOf finished.remainingLanes = true ∧
      finished.remainingLanes.isSubsetOf state.pendingLanes = true
  | _ => True

/-- The rows of a lane are those of a new root. -/
def CleanAt (state : RootLaneState) (index : LaneIndex) : Prop :=
  state.entanglements index = Lanes.no ∧
  state.expirationTimes index = noTimestamp ∧
  state.hiddenUpdateCounts index = 0

def SameRowsAt (state after : RootLaneState) (index : LaneIndex) : Prop :=
  after.entanglements index = state.entanglements index ∧
  after.expirationTimes index = state.expirationTimes index ∧
  after.hiddenUpdateCounts index = state.hiddenUpdateCounts index

/-- A lane that is not pending has left no trace. -/
structure Hygienic (state : RootLaneState) : Prop where
  entangled : state.entangledLanes.isSubsetOf state.pendingLanes = true
  expired : state.expiredLanes.isSubsetOf state.pendingLanes = true
  suspended : state.suspendedLanes.isSubsetOf state.pendingLanes = true
  pinged : state.pingedLanes.isSubsetOf state.pendingLanes = true
  clean : ∀ index, state.pendingLanes.containsIndex index = false → state.CleanAt index

namespace Hygienic

variable {state after : RootLaneState}

theorem withFeatures (features : RootLaneFeatureFlags) :
    (RootLaneState.withFeatures features).Hygienic where
  entangled := by simp [RootLaneState.withFeatures, new]
  expired := by simp [RootLaneState.withFeatures, new]
  suspended := by simp [RootLaneState.withFeatures, new]
  pinged := by simp [RootLaneState.withFeatures, new]
  clean := fun _ _ => ⟨rfl, rfl, rfl⟩

theorem of_pending_kept (hygienic : state.Hygienic)
    (kept : state.pendingLanes.isSubsetOf after.pendingLanes = true)
    (entangled : after.entangledLanes.isSubsetOf after.pendingLanes = true)
    (expired : after.expiredLanes.isSubsetOf after.pendingLanes = true)
    (suspended : after.suspendedLanes.isSubsetOf after.pendingLanes = true)
    (pinged : after.pingedLanes.isSubsetOf after.pendingLanes = true)
    (rows : ∀ index,
      after.pendingLanes.containsIndex index = false → state.SameRowsAt after index) :
    after.Hygienic where
  entangled := entangled
  expired := expired
  suspended := suspended
  pinged := pinged
  clean := by
    intro index notPending
    obtain ⟨sameEntanglement, sameTime, sameCount⟩ := rows index notPending
    obtain ⟨entanglement, time, count⟩ := hygienic.clean index
      (containsIndex_eq_false_of_isSubsetOf kept notPending)
    exact ⟨sameEntanglement.trans entanglement, sameTime.trans time, sameCount.trans count⟩

theorem markUpdated (hygienic : state.Hygienic) (updateLane : Lane) :
    (state.markUpdated updateLane).Hygienic := by
  have kept : state.pendingLanes.isSubsetOf
      (state.markUpdated updateLane).pendingLanes = true := by
    rw [pendingLanes_markUpdated]
    exact isSubsetOf_merge_left _ _
  refine hygienic.of_pending_kept kept ?_ ?_ ?_ ?_ ?_
  · rw [entangledLanes_markUpdated]
    exact isSubsetOf_trans hygienic.entangled kept
  · rw [expiredLanes_markUpdated]
    exact isSubsetOf_trans hygienic.expired kept
  · rw [suspendedLanes_markUpdated]
    split
    · exact no_isSubsetOf _
    · exact isSubsetOf_trans hygienic.suspended kept
  · rw [pingedLanes_markUpdated]
    split
    · exact no_isSubsetOf _
    · exact isSubsetOf_trans hygienic.pinged kept
  · intro index _
    exact ⟨congrFun (entanglements_markUpdated _ _) index,
      congrFun (expirationTimes_markUpdated _ _) index,
      congrFun (hiddenUpdateCounts_markUpdated _ _) index⟩

theorem isSubsetOf_markSpawnedDeferredLane (state : RootLaneState) (spawnedLane : Lane)
    (entangledLanes : Lanes) :
    state.pendingLanes.isSubsetOf
      (state.markSpawnedDeferredLane spawnedLane entangledLanes).pendingLanes = true := by
  unfold RootLaneState.markSpawnedDeferredLane
  split
  · exact isSubsetOf_refl _
  · exact isSubsetOf_merge_left _ spawnedLane.toLanes

section

variable (hygienic : state.Hygienic)
include hygienic

theorem markSpawnedDeferredLane (spawnedLane : Lane) (entangledLanes : Lanes) :
    (state.markSpawnedDeferredLane spawnedLane entangledLanes).Hygienic := by
  unfold RootLaneState.markSpawnedDeferredLane
  split
  · exact hygienic
  · rename_i index found
    have isLane : spawnedLane = index.lane := Lane.toIndex_eq_some_iff.mp found
    simp only [mergeLane_eq, removeLane_eq]
    have kept : state.pendingLanes.isSubsetOf
        (state.pendingLanes.merge spawnedLane.toLanes) = true :=
      isSubsetOf_merge_left _ _
    refine hygienic.of_pending_kept kept ?_ ?_ ?_ ?_ ?_
    · exact merge_isSubsetOf_iff.mpr
        ⟨isSubsetOf_trans hygienic.entangled kept, isSubsetOf_merge_right _ _⟩
    · exact isSubsetOf_trans hygienic.expired kept
    · exact isSubsetOf_trans (remove_isSubsetOf _ _) (isSubsetOf_trans hygienic.suspended kept)
    · exact isSubsetOf_trans hygienic.pinged kept
    · intro other notPending
      have different : other ≠ index := by
        rintro rfl
        simp [isLane] at notPending
      exact ⟨by simp [different], rfl, rfl⟩

section

variable {suspendedLanes : Lanes} (pending : suspendedLanes.isSubsetOf state.pendingLanes = true)
include pending

theorem holdBack (didAttemptEntireTree : Bool) :
    (state.holdBack suspendedLanes didAttemptEntireTree).Hygienic := by
  refine hygienic.of_pending_kept (isSubsetOf_refl _) hygienic.entangled
    hygienic.expired (merge_isSubsetOf_iff.mpr ⟨hygienic.suspended, pending⟩)
    (isSubsetOf_trans (remove_isSubsetOf _ _) hygienic.pinged) ?_
  intro index notPending
  have notSuspended : suspendedLanes.containsIndex index = false :=
    containsIndex_eq_false_of_isSubsetOf pending notPending
  exact ⟨rfl, by simp [RootLaneState.holdBack, notSuspended], rfl⟩

theorem markSuspended (spawnedLane : Lane) (didAttemptEntireTree : Bool) :
    (state.markSuspended suspendedLanes spawnedLane didAttemptEntireTree).Hygienic := by
  have held := hygienic.holdBack pending didAttemptEntireTree
  rw [markSuspended_eq]
  split
  · exact held.markSpawnedDeferredLane spawnedLane suspendedLanes
  · exact held

end

theorem markPinged (pingedLanes : Lanes) : (state.markPinged pingedLanes).Hygienic :=
  hygienic.of_pending_kept (isSubsetOf_refl _) hygienic.entangled hygienic.expired
    hygienic.suspended
    (merge_isSubsetOf_iff.mpr
      ⟨hygienic.pinged, isSubsetOf_trans (intersect_isSubsetOf_left _ _) hygienic.suspended⟩)
    fun _ _ => ⟨rfl, rfl, rfl⟩

theorem markEntangled {entangledLanes : Lanes}
    (pending : entangledLanes.isSubsetOf state.pendingLanes = true) :
    (state.markEntangled entangledLanes).Hygienic := by
  have allPending :
      (state.entangledLanes.merge entangledLanes).isSubsetOf state.pendingLanes = true :=
    merge_isSubsetOf_iff.mpr ⟨hygienic.entangled, pending⟩
  refine hygienic.of_pending_kept (isSubsetOf_refl _) allPending hygienic.expired
    hygienic.suspended hygienic.pinged ?_
  intro index notPending
  refine ⟨?_, rfl, rfl⟩
  rw [entanglements_markEntangled, containsIndex_eq_false_of_isSubsetOf allPending notPending]
  simp

theorem upgradePendingLanesToSync (lanesToUpgrade : Lanes) :
    (state.upgradePendingLanesToSync lanesToUpgrade).Hygienic := by
  have kept : state.pendingLanes.isSubsetOf
      (state.pendingLanes.merge Lane.sync.toLanes) = true :=
    isSubsetOf_merge_left _ _
  unfold RootLaneState.upgradePendingLanesToSync
  simp only [mergeLane_eq]
  refine hygienic.of_pending_kept kept ?_
    (isSubsetOf_trans hygienic.expired kept) (isSubsetOf_trans hygienic.suspended kept)
    (isSubsetOf_trans hygienic.pinged kept) ?_
  · exact merge_isSubsetOf_iff.mpr
      ⟨isSubsetOf_trans hygienic.entangled kept, isSubsetOf_merge_right _ _⟩
  · intro index notPending
    have notSync : index ≠ 1 := by
      rintro rfl
      simp [Lane.sync] at notPending
    -- Every round of the loop writes the row of the sync lane only.
    have sameRow : ∀ rows : LaneMap Lanes,
        rows index = state.entanglements index → ∀ upgraded : LaneIndex,
        LaneMap.set rows 1 ((rows 1).merge upgraded.lane.toLanes) index =
          state.entanglements index := by
      intro rows same upgraded
      rw [LaneMap.set_apply, if_neg notSync, same]
    refine ⟨?_, rfl, rfl⟩
    exact @forEachLane_invariant _ _
      (fun rows : LaneMap Lanes => rows index = state.entanglements index) _ _ rfl
      fun rows upgraded same _ => sameRow rows same upgraded

theorem markStarvedLanesAsExpired (currentTime : LaneTimestamp) :
    (state.markStarvedLanesAsExpired currentTime).Hygienic := by
  have checkedPending : ∀ index,
      (if state.features.retryLaneExpiration then state.pendingLanes
        else state.pendingLanes.remove Lanes.retry).containsIndex index = true →
      state.pendingLanes.containsIndex index = true := by
    intro index
    split <;> simp +contextual
  suffices marked :
      (state.markStarvedLanesAsExpired currentTime).Hygienic ∧
        (state.markStarvedLanesAsExpired currentTime).pendingLanes = state.pendingLanes from
    marked.1
  refine @forEachLane_invariant _ _
    (fun marked : RootLaneState =>
      marked.Hygienic ∧ marked.pendingLanes = state.pendingLanes) _ _ ⟨hygienic, rfl⟩ ?_
  · rintro marked index ⟨markedHygienic, samePending⟩ member
    have pending : marked.pendingLanes.containsIndex index = true := by
      rw [samePending]
      exact checkedPending index member
    dsimp only
    split
    · split
      · refine ⟨markedHygienic.of_pending_kept (isSubsetOf_refl _)
          markedHygienic.entangled markedHygienic.expired markedHygienic.suspended
          markedHygienic.pinged ?_, samePending⟩
        intro other notPending
        have different : other ≠ index := by
          rintro rfl
          simp [pending] at notPending
        exact ⟨rfl, by simp [different], rfl⟩
      · exact ⟨markedHygienic, samePending⟩
    · split
      · refine ⟨markedHygienic.of_pending_kept (isSubsetOf_refl _)
          markedHygienic.entangled ?_ markedHygienic.suspended
          markedHygienic.pinged fun _ _ => ⟨rfl, rfl, rfl⟩, samePending⟩
        exact merge_isSubsetOf_iff.mpr ⟨markedHygienic.expired, lane_isSubsetOf_iff.mpr pending⟩
      · exact ⟨markedHygienic, samePending⟩

theorem markExpired {lanes : Lanes}
    (pending : lanes.isSubsetOf state.pendingLanes = true) : (state.markExpired lanes).Hygienic :=
  hygienic.of_pending_kept (isSubsetOf_refl _) hygienic.entangled
    (merge_isSubsetOf_iff.mpr ⟨hygienic.expired, pending⟩)
    hygienic.suspended hygienic.pinged fun _ _ => ⟨rfl, rfl, rfl⟩

theorem markHiddenUpdate {lane : Lane}
    (pending : lane.toLanes.isSubsetOf state.pendingLanes = true) :
    (state.markHiddenUpdate lane).2.Hygienic := by
  unfold RootLaneState.markHiddenUpdate
  split
  · exact hygienic
  · rename_i index found
    have isLane : lane = index.lane := Lane.toIndex_eq_some_iff.mp found
    refine hygienic.of_pending_kept (isSubsetOf_refl _) hygienic.entangled
      hygienic.expired hygienic.suspended hygienic.pinged ?_
    intro other notPending
    have different : other ≠ index := by
      rintro rfl
      rw [isLane, lane_isSubsetOf_iff] at pending
      simp [pending] at notPending
    exact ⟨rfl, rfl, by simp [different]⟩

theorem clearHiddenUpdatesForLanes (lanes : Lanes) :
    (state.clearHiddenUpdatesForLanes lanes).Hygienic where
  entangled := hygienic.entangled
  expired := hygienic.expired
  suspended := hygienic.suspended
  pinged := hygienic.pinged
  clean := by
    intro index notPending
    obtain ⟨entanglement, time, count⟩ := hygienic.clean index notPending
    refine ⟨entanglement, time, ?_⟩
    simp [RootLaneState.clearHiddenUpdatesForLanes, count]

theorem leaveRemaining (remainingLanes : Lanes) :
    (state.leaveRemaining remainingLanes).Hygienic := by
  refine ⟨intersect_isSubsetOf_right _ _, intersect_isSubsetOf_right _ _,
    no_isSubsetOf _, no_isSubsetOf _, ?_⟩
  intro index notRemaining
  have notLeft : remainingLanes.containsIndex index = false := notRemaining
  cases wasPending : state.pendingLanes.containsIndex index with
  | true => simp [CleanAt, RootLaneState.leaveRemaining, wasPending, notLeft]
  | false =>
    simpa [CleanAt, RootLaneState.leaveRemaining, wasPending] using hygienic.clean index wasPending

theorem suspendFreshRetries {finished : RootFinishedLanes} (previouslyPendingLanes : Lanes)
    (retries : finished.suspendedRetryLanes.isSubsetOf state.pendingLanes = true) :
    (state.suspendFreshRetries finished previouslyPendingLanes).Hygienic := by
  unfold RootLaneState.suspendFreshRetries
  split
  · refine ⟨hygienic.entangled, hygienic.expired, ?_, hygienic.pinged, hygienic.clean⟩
    exact merge_isSubsetOf_iff.mpr
      ⟨hygienic.suspended, isSubsetOf_trans (remove_isSubsetOf _ _) retries⟩
  · exact hygienic

theorem markFinished {finished : RootFinishedLanes}
    (retries : finished.suspendedRetryLanes.isSubsetOf finished.remainingLanes = true) :
    (state.markFinished finished).Hygienic := by
  rw [markFinished_eq]
  have left := hygienic.leaveRemaining finished.remainingLanes
  split
  · exact (left.markSpawnedDeferredLane _ _).suspendFreshRetries _
      (isSubsetOf_trans retries (isSubsetOf_markSpawnedDeferredLane _ _ _))
  · exact left.suspendFreshRetries _ retries

/-- Every admitted operation keeps the bookkeeping hygienic. -/
theorem perform {operation : RootLaneOperation}
    (admitted : state.Admits operation) : (state.perform operation).Hygienic := by
  cases operation with
  | markUpdated updateLane => exact hygienic.markUpdated updateLane
  | markSuspended suspendedLanes spawnedLane didAttemptEntireTree =>
    exact hygienic.markSuspended admitted spawnedLane didAttemptEntireTree
  | markPinged pingedLanes => exact hygienic.markPinged pingedLanes
  | markFinished finished => exact hygienic.markFinished admitted.1
  | markEntangled entangledLanes => exact hygienic.markEntangled admitted
  | upgradePendingLanesToSync lanesToUpgrade =>
    exact hygienic.upgradePendingLanesToSync lanesToUpgrade
  | markStarvedLanesAsExpired currentTime => exact hygienic.markStarvedLanesAsExpired currentTime
  | markExpired lanes => exact hygienic.markExpired admitted
  | markHiddenUpdate lane => exact hygienic.markHiddenUpdate admitted
  | clearHiddenUpdatesForLanes lanes => exact hygienic.clearHiddenUpdatesForLanes lanes

end

end Hygienic

/-- After every run of admitted operations on a new root, a lane that is not pending has
left no trace. -/
theorem hygienic_of_run
    {features : RootLaneFeatureFlags}
    {operations : List RootLaneOperation}
    {state : RootLaneState}
    (run : ActionRun Admits perform (withFeatures features) operations state) :
    state.Hygienic :=
  run.invariant (.withFeatures features) fun _ _ hygienic admitted => hygienic.perform admitted

/-- A default update that is entangled, hidden once and finished, spawning a retry. -/
def sampleOperations : List RootLaneOperation :=
  [.markUpdated Lane.default,
    .markEntangled Lanes.default,
    .markHiddenUpdate Lane.default,
    .markFinished { RootFinishedLanes.new Lanes.default Lanes.no with
      spawnedLane := Lane.transition1 }]

theorem hygienic_of_run_sample :
    (sampleOperations.foldl perform (withFeatures RootLaneFeatureFlags.new)).Hygienic :=
  hygienic_of_run (.of_permitted ⟨trivial, rfl, rfl, ⟨rfl, rfl⟩, trivial⟩)

end RootLaneState

end FastReact
