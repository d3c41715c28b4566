import FastReact.NextLanes

namespace FastReact

open Lanes List

/-!
# Deadlines of starved lanes

A pending lane that is not held back gets a deadline by the first look at the starved
lanes, and a look at or after the deadline expires it.  Only suspending or finishing the
lane takes the deadline away.
-/

/-- The time a lane may wait. -/
def LaneIndex.expirationDelay (index : LaneIndex) : LaneTimestamp :=
  if index.val ≤ 3 ∨ index.val = 6 then syncLaneExpirationMs
  else if index.val ≤ 21 then transitionLaneExpirationMs
  else retryLaneExpirationMs

/-- A lane belongs to a class that expires. -/
def LaneIndex.Expires (index : LaneIndex) (features : RootLaneFeatureFlags) : Prop :=
  index.val ≤ 21 ∨ (index.val ≤ 25 ∧ features.retryLaneExpiration = true)

def RootLaneMarking.LeavesUnfinished (index : LaneIndex) : RootLaneMarking → Prop
  | .perform (.markFinished finished) => finished.remainingLanes.containsIndex index = true
  | _ => True

def RootLaneMarking.Spares (index : LaneIndex) : RootLaneMarking → Prop
  | .perform (.markSuspended suspendedLanes _ _) => suspendedLanes.containsIndex index = false
  | .perform (.markFinished finished) => finished.remainingLanes.containsIndex index = true
  | _ => True

theorem RootLaneMarking.Spares.leavesUnfinished {index : LaneIndex} {marking : RootLaneMarking}
    (spares : marking.Spares index) : marking.LeavesUnfinished index := by
  cases marking with
  | markErrorRecoveryDisabled lanes => trivial
  | perform operation =>
    cases operation with
    | markFinished finished => exact spares
    | _ => trivial

theorem computeExpirationTime_of_expires {index : LaneIndex} {features : RootLaneFeatureFlags}
    (expires : index.Expires features) (currentTime : LaneTimestamp) :
    computeExpirationTime index currentTime features = currentTime + index.expirationDelay := by
  unfold computeExpirationTime LaneIndex.expirationDelay
  dsimp only
  split
  · rfl
  · split
    · rfl
    · rename_i late
      obtain early | ⟨retried, flag⟩ := expires
      · exact absurd early late
      · rw [if_pos retried, if_pos flag]

namespace RootLaneState

variable {state : RootLaneState} {index : LaneIndex} {currentTime : LaneTimestamp}

section Starving

def lanesToCheck (state : RootLaneState) : Lanes :=
  if state.features.retryLaneExpiration then state.pendingLanes
  else state.pendingLanes.remove Lanes.retry

/-- Looking at one lane. -/
def checkLane (state : RootLaneState) (currentTime : LaneTimestamp) (marked : RootLaneState)
    (index : LaneIndex) : RootLaneState :=
  let expirationTime := marked.expirationTimes index
  if expirationTime = noTimestamp then
    if !state.suspendedLanes.containsIndex index ||
        state.pingedLanes.containsIndex index then
      { marked with
        expirationTimes := LaneMap.set marked.expirationTimes index
          (computeExpirationTime index currentTime state.features) }
    else marked
  else if expirationTime ≤ currentTime then
    { marked with expiredLanes := marked.expiredLanes.mergeLane index.lane }
  else marked

theorem markStarvedLanesAsExpired_eq :
    state.markStarvedLanesAsExpired currentTime =
      state.lanesToCheck.forEachLane (state.checkLane currentTime) state :=
  rfl

/-- The time of a lane after it was looked at. -/
def checkedTime (state : RootLaneState) (currentTime : LaneTimestamp) (index : LaneIndex)
    (expirationTime : LaneTimestamp) : LaneTimestamp :=
  if expirationTime = noTimestamp ∧
      (!state.suspendedLanes.containsIndex index ||
        state.pingedLanes.containsIndex index) = true then
    computeExpirationTime index currentTime state.features
  else expirationTime

section

variable (marked : RootLaneState) (index other : LaneIndex)

theorem expirationTimes_checkLane :
    (state.checkLane currentTime marked index).expirationTimes other =
      if other = index then
        state.checkedTime currentTime index (marked.expirationTimes index)
      else marked.expirationTimes other := by
  unfold checkLane checkedTime
  dsimp only
  by_cases same : other = index
  · subst same
    split
    · rename_i none
      split
      · rename_i free
        simp [none, free]
      · rename_i blocked
        simp [none, blocked]
    · rename_i some
      split
      · simp [some]
      · simp [some]
  · simp only [same, if_false]
    split
    · split
      · simp [same]
      · rfl
    · split
      · rfl
      · rfl

theorem expiredLanes_checkLane :
    (state.checkLane currentTime marked index).expiredLanes.containsIndex other = true ↔
      marked.expiredLanes.containsIndex other = true ∨
        (other = index ∧ marked.expirationTimes index ≠ noTimestamp ∧
          marked.expirationTimes index ≤ currentTime) := by
  unfold checkLane
  dsimp only
  split
  · rename_i none
    split
    · simp [none]
    · simp [none]
  · rename_i some
    split
    · rename_i due
      simp [some, due]
    · rename_i early
      simp [early]

end

theorem checkLanes_of_nodup (visited : List LaneIndex) (distinct : visited.Nodup)
    (marked : RootLaneState) (index : LaneIndex) :
    (visited.foldl (state.checkLane currentTime) marked).expirationTimes index =
        (if index ∈ visited then
          state.checkedTime currentTime index (marked.expirationTimes index)
        else marked.expirationTimes index) ∧
      ((visited.foldl (state.checkLane currentTime) marked).expiredLanes.containsIndex
          index = true ↔
        marked.expiredLanes.containsIndex index = true ∨
          (index ∈ visited ∧ marked.expirationTimes index ≠ noTimestamp ∧
            marked.expirationTimes index ≤ currentTime)) := by
  induction visited generalizing marked with
  | nil => simp
  | cons head rest ih =>
    obtain ⟨headNotLater, restDistinct⟩ := nodup_cons.mp distinct
    obtain ⟨times, expired⟩ := ih restDistinct (state.checkLane currentTime marked head)
    rw [foldl_cons, times, expired, expirationTimes_checkLane, expiredLanes_checkLane]
    by_cases isHead : index = head
    · subst isHead
      simp [headNotLater]
    · simp [isHead]

theorem expirationTimes_markStarvedLanesAsExpired :
    (state.markStarvedLanesAsExpired currentTime).expirationTimes index =
      if state.lanesToCheck.containsIndex index = true then
        state.checkedTime currentTime index (state.expirationTimes index)
      else state.expirationTimes index := by
  rw [markStarvedLanesAsExpired_eq, forEachLane,
    (checkLanes_of_nodup _ state.lanesToCheck.nodup_indices state index).1]
  simp only [mem_indices]

theorem expiredLanes_markStarvedLanesAsExpired :
    (state.markStarvedLanesAsExpired currentTime).expiredLanes.containsIndex index = true ↔
      state.expiredLanes.containsIndex index = true ∨
        (state.lanesToCheck.containsIndex index = true ∧
          state.expirationTimes index ≠ noTimestamp ∧
          state.expirationTimes index ≤ currentTime) := by
  rw [markStarvedLanesAsExpired_eq, forEachLane,
    (checkLanes_of_nodup _ state.lanesToCheck.nodup_indices state index).2]
  simp only [mem_indices]

theorem features_markStarvedLanesAsExpired :
    (state.markStarvedLanesAsExpired currentTime).features = state.features := by
  rw [markStarvedLanesAsExpired_eq]
  refine @forEachLane_invariant _ _
    (fun marked : RootLaneState => marked.features = state.features) _ _ rfl ?_
  intro marked index same _
  unfold checkLane
  dsimp only
  split
  · split
    · exact same
    · exact same
  · split
    · exact same
    · exact same

theorem lanesToCheck_of_expires (expires : index.Expires state.features)
    (pending : state.pendingLanes.containsIndex index = true) :
    state.lanesToCheck.containsIndex index = true := by
  unfold lanesToCheck
  split
  · exact pending
  · rename_i noFlag
    obtain early | ⟨-, flag⟩ := expires
    · have notRetry : ∀ index : LaneIndex, index.val ≤ 21 →
          retry.containsIndex index = false := by
        decide
      rw [containsIndex_remove, pending, notRetry index early]
      rfl
    · exact absurd flag noFlag

end Starving

section Markings

theorem markSpawnedDeferredLane_frame (spawnedLane : Lane) (entangledLanes : Lanes) :
    (state.markSpawnedDeferredLane spawnedLane entangledLanes).features = state.features ∧
      (state.markSpawnedDeferredLane spawnedLane entangledLanes).expirationTimes =
        state.expirationTimes ∧
      (state.markSpawnedDeferredLane spawnedLane entangledLanes).expiredLanes =
        state.expiredLanes := by
  unfold markSpawnedDeferredLane
  split
  · exact ⟨rfl, rfl, rfl⟩
  · exact ⟨rfl, rfl, rfl⟩

theorem suspendFreshRetries_frame (finished : RootFinishedLanes) (previouslyPendingLanes : Lanes) :
    (state.suspendFreshRetries finished previouslyPendingLanes).features = state.features ∧
      (state.suspendFreshRetries finished previouslyPendingLanes).pendingLanes =
        state.pendingLanes ∧
      (state.suspendFreshRetries finished previouslyPendingLanes).expirationTimes =
        state.expirationTimes ∧
      (state.suspendFreshRetries finished previouslyPendingLanes).expiredLanes =
        state.expiredLanes := by
  unfold suspendFreshRetries
  split
  · exact ⟨rfl, rfl, rfl, rfl⟩
  · exact ⟨rfl, rfl, rfl, rfl⟩

theorem markSuspended_frame (suspendedLanes : Lanes) (spawnedLane : Lane)
    (didAttemptEntireTree : Bool) :
    (state.markSuspended suspendedLanes spawnedLane didAttemptEntireTree).features =
        state.features ∧
      state.pendingLanes.isSubsetOf
        (state.markSuspended suspendedLanes spawnedLane didAttemptEntireTree).pendingLanes = true ∧
      (∀ index,
        (state.markSuspended suspendedLanes spawnedLane didAttemptEntireTree).expirationTimes
            index =
          if suspendedLanes.containsIndex index = true then noTimestamp
          else state.expirationTimes index) ∧
      (state.markSuspended suspendedLanes spawnedLane didAttemptEntireTree).expiredLanes =
        state.expiredLanes := by
  have times : ∀ index,
      (state.holdBack suspendedLanes didAttemptEntireTree).expirationTimes index =
        if suspendedLanes.containsIndex index = true then noTimestamp
        else state.expirationTimes index :=
    fun index => forEachLane_set _ _ _ index
  rw [markSuspended_eq]
  split
  · obtain ⟨features, sameTimes, expired⟩ :=
      @markSpawnedDeferredLane_frame (state.holdBack suspendedLanes didAttemptEntireTree)
        spawnedLane suspendedLanes
    rw [features, sameTimes, expired]
    exact ⟨rfl, Hygienic.isSubsetOf_markSpawnedDeferredLane _ _ _, times, rfl⟩
  · exact ⟨rfl, isSubsetOf_refl _, times, rfl⟩

theorem markFinished_frame (finished : RootFinishedLanes) :
    (state.markFinished finished).features = state.features ∧
      finished.remainingLanes.isSubsetOf (state.markFinished finished).pendingLanes = true ∧
      (∀ index, (state.markFinished finished).expirationTimes index =
        if (state.pendingLanes.remove finished.remainingLanes).containsIndex index = true
        then noTimestamp else state.expirationTimes index) ∧
      (state.markFinished finished).expiredLanes =
        state.expiredLanes.intersect finished.remainingLanes := by
  have times : ∀ index,
      (state.leaveRemaining finished.remainingLanes).expirationTimes index =
        if (state.pendingLanes.remove finished.remainingLanes).containsIndex index = true
        then noTimestamp else state.expirationTimes index :=
    fun index => forEachLane_set _ _ _ index
  rw [markFinished_eq]
  split
  · obtain ⟨features, pending, sameTimes, expired⟩ :=
      @suspendFreshRetries_frame
        ((state.leaveRemaining finished.remainingLanes).markSpawnedDeferredLane
          finished.spawnedLane no) finished state.pendingLanes
    obtain ⟨spawnedFeatures, spawnedTimes, spawnedExpired⟩ :=
      @markSpawnedDeferredLane_frame (state.leaveRemaining finished.remainingLanes)
        finished.spawnedLane no
    rw [features, pending, sameTimes, expired, spawnedFeatures, spawnedTimes, spawnedExpired]
    exact ⟨rfl, Hygienic.isSubsetOf_markSpawnedDeferredLane
      (state.leaveRemaining finished.remainingLanes) _ _, times, rfl⟩
  · obtain ⟨features, pending, sameTimes, expired⟩ :=
      @suspendFreshRetries_frame (state.leaveRemaining finished.remainingLanes) finished
        state.pendingLanes
    rw [features, pending, sameTimes, expired]
    exact ⟨rfl, isSubsetOf_refl _, times, rfl⟩

theorem features_markUpdated (updateLane : Lane) :
    (state.markUpdated updateLane).features = state.features := by
  unfold markUpdated
  dsimp only
  split <;> split <;> rfl

theorem markHiddenUpdate_frame (lane : Lane) :
    (state.markHiddenUpdate lane).2.features = state.features ∧
      (state.markHiddenUpdate lane).2.pendingLanes = state.pendingLanes ∧
      (state.markHiddenUpdate lane).2.expirationTimes = state.expirationTimes ∧
      (state.markHiddenUpdate lane).2.expiredLanes = state.expiredLanes := by
  unfold markHiddenUpdate
  split
  · exact ⟨rfl, rfl, rfl, rfl⟩
  · exact ⟨rfl, rfl, rfl, rfl⟩

theorem features_mark (state : RootLaneState) (marking : RootLaneMarking) :
    (state.mark marking).features = state.features := by
  cases marking with
  | markErrorRecoveryDisabled lanes => rfl
  | perform operation =>
    cases operation with
    | markUpdated updateLane => exact features_markUpdated updateLane
    | markSuspended suspendedLanes spawnedLane didAttemptEntireTree =>
      exact (markSuspended_frame _ _ _).1
    | markFinished finished => exact (markFinished_frame finished).1
    | markStarvedLanesAsExpired currentTime => exact features_markStarvedLanesAsExpired
    | markHiddenUpdate lane => exact (markHiddenUpdate_frame lane).1
    | _ => rfl

variable {marking : RootLaneMarking}

theorem pending_mark (pending : state.pendingLanes.containsIndex index = true)
    (unfinished : marking.LeavesUnfinished index) :
    (state.mark marking).pendingLanes.containsIndex index = true := by
  cases marking with
  | markErrorRecoveryDisabled lanes => exact pending
  | perform operation =>
    cases operation with
    | markUpdated updateLane =>
      show (state.markUpdated updateLane).pendingLanes.containsIndex index = true
      rw [pendingLanes_markUpdated, containsIndex_merge, pending, Bool.true_or]
    | markSuspended suspendedLanes spawnedLane didAttemptEntireTree =>
      exact isSubsetOf_iff.mp (markSuspended_frame _ _ _).2.1 index pending
    | markFinished finished =>
      exact isSubsetOf_iff.mp (markFinished_frame finished).2.1 index unfinished
    | upgradePendingLanesToSync lanesToUpgrade =>
      show (state.pendingLanes.merge Lane.sync.toLanes).containsIndex index = true
      rw [containsIndex_merge, pending, Bool.true_or]
    | markStarvedLanesAsExpired currentTime =>
      show (state.markStarvedLanesAsExpired currentTime).pendingLanes.containsIndex index = true
      rw [(sets_markStarvedLanesAsExpired currentTime).2]
      exact pending
    | markHiddenUpdate lane =>
      show (state.markHiddenUpdate lane).2.pendingLanes.containsIndex index = true
      rw [(markHiddenUpdate_frame lane).2.1]
      exact pending
    | _ => exact pending

theorem expired_mark (expired : state.expiredLanes.containsIndex index = true)
    (unfinished : marking.LeavesUnfinished index) :
    (state.mark marking).expiredLanes.containsIndex index = true := by
  cases marking with
  | markErrorRecoveryDisabled lanes => exact expired
  | perform operation =>
    cases operation with
    | markUpdated updateLane =>
      show (state.markUpdated updateLane).expiredLanes.containsIndex index = true
      rw [expiredLanes_markUpdated]
      exact expired
    | markSuspended suspendedLanes spawnedLane didAttemptEntireTree =>
      show (state.markSuspended _ _ _).expiredLanes.containsIndex index = true
      rw [(markSuspended_frame _ _ _).2.2.2]
      exact expired
    | markFinished finished =>
      show (state.markFinished finished).expiredLanes.containsIndex index = true
      have remains : finished.remainingLanes.containsIndex index = true := unfinished
      rw [(markFinished_frame finished).2.2.2, containsIndex_intersect, expired, remains]
      rfl
    | markStarvedLanesAsExpired currentTime =>
      exact expiredLanes_markStarvedLanesAsExpired.mpr (.inl expired)
    | markExpired lanes =>
      show (state.expiredLanes.merge lanes).containsIndex index = true
      rw [containsIndex_merge, expired, Bool.true_or]
    | markHiddenUpdate lane =>
      show (state.markHiddenUpdate lane).2.expiredLanes.containsIndex index = true
      rw [(markHiddenUpdate_frame lane).2.2.2]
      exact expired
    | _ => exact expired

/-- The only marking that sets a deadline looks at the starved lanes; the others keep the
deadline of a lane or erase it, and they erase it by suspending or finishing the lane. -/
theorem expirationTimes_mark (marking : RootLaneMarking) (index : LaneIndex) :
    (∃ currentTime, marking = .perform (.markStarvedLanesAsExpired currentTime)) ∨
      (state.mark marking).expirationTimes index = state.expirationTimes index ∨
      ((state.mark marking).expirationTimes index = noTimestamp ∧ ¬ marking.Spares index) := by
  cases marking with
  | markErrorRecoveryDisabled lanes => exact .inr (.inl rfl)
  | perform operation =>
    cases operation with
    | markStarvedLanesAsExpired currentTime => exact .inl ⟨currentTime, rfl⟩
    | markUpdated updateLane =>
      exact .inr (.inl (congrFun (expirationTimes_markUpdated state updateLane) index))
    | markSuspended suspendedLanes spawnedLane didAttemptEntireTree =>
      right
      have times := (@markSuspended_frame state suspendedLanes spawnedLane
        didAttemptEntireTree).2.2.1 index
      cases member : suspendedLanes.containsIndex index with
      | true =>
        rw [if_pos member] at times
        refine .inr ⟨times, ?_⟩
        intro spares
        have absent : suspendedLanes.containsIndex index = false := spares
        rw [member] at absent
        cases absent
      | false =>
        rw [member, if_neg Bool.false_ne_true] at times
        exact .inl times
    | markFinished finished =>
      right
      have times := (@markFinished_frame state finished).2.2.1 index
      split at times
      · rename_i leaves
        refine .inr ⟨times, ?_⟩
        intro spares
        have remains : finished.remainingLanes.containsIndex index = true := spares
        rw [containsIndex_remove, remains, Bool.not_true, Bool.and_false] at leaves
        cases leaves
      · exact .inl times
    | markHiddenUpdate lane =>
      exact .inr (.inl (congrFun (markHiddenUpdate_frame lane).2.2.1 index))
    | _ => exact .inr (.inl rfl)

theorem deadline_mark
    (deadline : state.expirationTimes index ≠ noTimestamp) (spares : marking.Spares index) :
    (state.mark marking).expirationTimes index = state.expirationTimes index := by
  rcases @expirationTimes_mark state marking index with ⟨currentTime, rfl⟩ | same | ⟨-, taken⟩
  · show (state.markStarvedLanesAsExpired currentTime).expirationTimes index = _
    rw [expirationTimes_markStarvedLanesAsExpired]
    simp [checkedTime, deadline]
  · exact same
  · exact absurd spares taken

theorem noDeadline_of_heldBack (held : state.HeldBack index) (marking : RootLaneMarking) :
    (state.mark marking).expirationTimes index = state.expirationTimes index ∨
      (state.mark marking).expirationTimes index = noTimestamp := by
  rcases @expirationTimes_mark state marking index with ⟨currentTime, rfl⟩ | same | ⟨erased, -⟩
  · left
    show (state.markStarvedLanesAsExpired currentTime).expirationTimes index = _
    rw [expirationTimes_markStarvedLanesAsExpired]
    simp [checkedTime, held.1, held.2]
  · exact .inl same
  · exact .inr erased

end Markings

section Runs

variable {markings : List RootLaneMarking}

theorem features_foldl_mark (state : RootLaneState) (markings : List RootLaneMarking) :
    (markings.foldl mark state).features = state.features := by
  induction markings generalizing state with
  | nil => rfl
  | cons marking rest ih => rw [foldl_cons, ih, features_mark]

theorem deadline_foldl_mark (pending : state.pendingLanes.containsIndex index = true)
    (deadline : state.expirationTimes index ≠ noTimestamp)
    (spared : ∀ marking ∈ markings, marking.Spares index) :
    (markings.foldl mark state).pendingLanes.containsIndex index = true ∧
      (markings.foldl mark state).expirationTimes index = state.expirationTimes index := by
  induction markings generalizing state with
  | nil => exact ⟨pending, rfl⟩
  | cons marking rest ih =>
    have spares := spared marking (by simp)
    have same := deadline_mark deadline spares
    have later := @ih (state.mark marking)
      (pending_mark pending spares.leavesUnfinished) (by rwa [same])
      fun other member => spared other (by simp [member])
    rw [same] at later
    exact later

theorem expired_foldl_mark (expired : state.expiredLanes.containsIndex index = true)
    (unfinished : ∀ marking ∈ markings, marking.LeavesUnfinished index) :
    (markings.foldl mark state).expiredLanes.containsIndex index = true := by
  induction markings generalizing state with
  | nil => exact expired
  | cons marking rest ih =>
    exact @ih (state.mark marking)
      (expired_mark expired (unfinished marking (by simp)))
      fun other member => unfinished other (by simp [member])

end Runs

theorem deadline_markStarvedLanesAsExpired (expires : index.Expires state.features)
    (pending : state.pendingLanes.containsIndex index = true) (ready : ¬ state.HeldBack index) :
    (state.markStarvedLanesAsExpired currentTime).expirationTimes index =
      if state.expirationTimes index = noTimestamp then currentTime + index.expirationDelay
      else state.expirationTimes index := by
  rw [expirationTimes_markStarvedLanesAsExpired,
    if_pos (lanesToCheck_of_expires expires pending), checkedTime]
  have free : (!state.suspendedLanes.containsIndex index ||
      state.pingedLanes.containsIndex index) = true := by
    rw [not_heldBack_iff] at ready
    rcases ready with unsuspended | pinged
    · rw [unsuspended]
      rfl
    · rw [pinged, Bool.or_true]
  simp only [free, and_true, computeExpirationTime_of_expires expires]

end RootLaneState

open RootLaneState

/-- A pending lane of a class that expires and that is not held back has a deadline after
a look at the starved lanes.  While it is spared the deadline stays, and a look at or after
the deadline expires the lane until it finishes.  A lane that is held back is given no
deadline, and suspending lanes erases theirs. -/
theorem starvation_deadline_of_markings
    (state : RootLaneState)
    (index : LaneIndex) :
    (∀ currentTime,
      index.Expires state.features →
      state.pendingLanes.containsIndex index = true →
      ¬ state.HeldBack index →
      (state.expirationTimes index = noTimestamp →
        currentTime + index.expirationDelay ≠ noTimestamp) →
      ∃ deadline, deadline ≠ noTimestamp ∧
        (state.expirationTimes index = noTimestamp →
          deadline = currentTime + index.expirationDelay) ∧
        (state.expirationTimes index ≠ noTimestamp →
          deadline = state.expirationTimes index) ∧
        ∀ later : List RootLaneMarking, (∀ marking ∈ later, marking.Spares index) →
          (later.foldl mark
            (state.markStarvedLanesAsExpired currentTime)).expirationTimes index = deadline ∧
          ∀ laterTime, deadline ≤ laterTime →
            ∀ last : List RootLaneMarking, (∀ marking ∈ last, marking.LeavesUnfinished index) →
              (last.foldl mark ((later.foldl mark
                (state.markStarvedLanesAsExpired currentTime)).markStarvedLanesAsExpired
                  laterTime)).expiredLanes.containsIndex index = true) ∧
      (∀ marking, state.HeldBack index →
        (state.mark marking).expirationTimes index = state.expirationTimes index ∨
          (state.mark marking).expirationTimes index = noTimestamp) ∧
      (∀ suspendedLanes spawnedLane didAttemptEntireTree,
        suspendedLanes.containsIndex index = true →
        (state.markSuspended suspendedLanes spawnedLane didAttemptEntireTree).expirationTimes
          index = noTimestamp) := by
  refine ⟨?_, fun marking held => noDeadline_of_heldBack held marking, ?_⟩
  · intro currentTime expires pending ready distinct
    have given := @deadline_markStarvedLanesAsExpired state index currentTime expires pending ready
    have some : (state.markStarvedLanesAsExpired currentTime).expirationTimes index ≠
        noTimestamp := by
      rw [given]
      split
      · rename_i none
        exact distinct none
      · assumption
    have stillPending : (state.markStarvedLanesAsExpired currentTime).pendingLanes.containsIndex
        index = true := by
      rw [(sets_markStarvedLanesAsExpired currentTime).2]
      exact pending
    refine ⟨_, some, fun none => by rw [given, if_pos none],
      fun known => by rw [given, if_neg known], ?_⟩
    intro later spared
    obtain ⟨laterPending, sameDeadline⟩ := deadline_foldl_mark stillPending some spared
    refine ⟨sameDeadline, ?_⟩
    intro laterTime due last unfinished
    refine expired_foldl_mark ?_ unfinished
    have sameFeatures := features_foldl_mark (state.markStarvedLanesAsExpired currentTime) later
    rw [features_markStarvedLanesAsExpired] at sameFeatures
    have laterExpires : index.Expires (later.foldl mark
        (state.markStarvedLanesAsExpired currentTime)).features := by
      rw [sameFeatures]
      exact expires
    rw [expiredLanes_markStarvedLanesAsExpired, sameDeadline]
    exact .inr ⟨lanesToCheck_of_expires laterExpires laterPending, some, due⟩
  · intro suspendedLanes spawnedLane didAttemptEntireTree member
    rw [(markSuspended_frame _ _ _).2.2.1, if_pos member]

/-- A sync update that is looked at three times while an idle update comes in. -/
theorem starvation_deadline_of_markings_sample :
    ((([RootLaneMarking.perform (.markUpdated Lane.idle)].foldl mark
      (((withFeatures RootLaneFeatureFlags.new).markUpdated
        Lane.sync).markStarvedLanesAsExpired 100)).markStarvedLanesAsExpired
          350).expiredLanes.containsIndex 1) = true := by
  obtain ⟨deadline, -, given, -, kept⟩ :=
    (starvation_deadline_of_markings
      ((withFeatures RootLaneFeatureFlags.new).markUpdated Lane.sync) 1).1 100
      (.inl (by decide)) (by decide) (not_heldBack_iff.mpr (.inl (by decide)))
      (fun _ => by decide)
  refine (kept [.perform (.markUpdated Lane.idle)] ?_).2 350 ?_ [] (by simp)
  · intro marking member
    rw [mem_singleton.mp member]
    trivial
  · rw [given rfl]
    decide

/-- A look before the clock starts can land on the mark for no deadline, and a retry that
a commit suspends keeps its deadline. -/
theorem suspended_retry_keeps_deadline :
    (((withFeatures RootLaneFeatureFlags.new).markUpdated
        Lane.sync).markStarvedLanesAsExpired (-251)).expirationTimes 1 = noTimestamp ∧
      ((((withFeatures ⟨false, true⟩).markUpdated
          (LaneIndex.lane 22)).markStarvedLanesAsExpired 0).markFinished
        { RootFinishedLanes.new (LaneIndex.lane 22).toLanes
            (LaneIndex.lane 22).toLanes with
          suspendedRetryLanes := (LaneIndex.lane 22).toLanes }).suspendedLanes.containsIndex
            22 = true ∧
      ((((withFeatures ⟨false, true⟩).markUpdated
          (LaneIndex.lane 22)).markStarvedLanesAsExpired 0).markFinished
        { RootFinishedLanes.new (LaneIndex.lane 22).toLanes
            (LaneIndex.lane 22).toLanes with
          suspendedRetryLanes := (LaneIndex.lane 22).toLanes }).expirationTimes 22 =
            5000 := by
  decide

end FastReact
