import FastReact.RootLaneHygiene
import FastReact.SyncWork

namespace FastReact

open Lanes RootLaneFeatureFlags

/-!
# Choosing the next lanes

A root picks among its non-idle lanes, or among the idle ones when nothing else is
pending, and prefers what it can finish to what it can only prepare.  What it picks is
pending work as long as only pending lanes are pinged.
-/

inductive RootLaneMarking where
  | perform (operation : RootLaneOperation)
  | markErrorRecoveryDisabled (lanes : Lanes)

namespace Lanes

variable {lanes : Lanes} {index : LaneIndex}

theorem isEmpty_eq_false_iff :
    lanes.isEmpty = false ↔ ∃ index, lanes.containsIndex index = true := by
  rw [← Bool.not_eq_true, isEmpty_iff]
  simp

theorem containsIndex_group (first : LaneIndex) :
    (8 ≤ first.val ∧ first.val ≤ 17 → transitionUpdate.containsIndex first = true) ∧
      (18 ≤ first.val ∧ first.val ≤ 21 → transitionDeferred.containsIndex first = true) ∧
      (22 ≤ first.val ∧ first.val ≤ 25 → retry.containsIndex first = true) := by
  revert first
  decide

theorem isEmpty_highestPriorityLanes (occupied : lanes.isEmpty = false)
    (notDeferred : lanes.containsIndex 30 = false) :
    (highestPriorityLanes lanes).isEmpty = false := by
  cases merged : (lanes.intersect syncUpdate).isEmpty with
  | false =>
    rw [highestPriorityLanes_of_syncUpdate merged]
    exact merged
  | true =>
    obtain ⟨first, leads, member, -⟩ := exists_first occupied
    have position := Lane.toIndex_eq_some_iff.mpr leads
    have last : first.val ≠ 30 := by
      intro same
      have isLast : first = 30 := Fin.ext same
      rw [isLast, notDeferred] at member
      cases member
    obtain ⟨update, deferred, retried⟩ := containsIndex_group first
    rw [isEmpty_eq_false_iff]
    refine ⟨first, ?_⟩
    unfold highestPriorityLanes
    simp only [isNonEmpty_eq, merged, Bool.not_true, Bool.false_eq_true, if_false, position]
    split
    · rename_i inside
      rw [containsIndex_intersect, member, update inside]
      rfl
    · split
      · rename_i inside
        rw [containsIndex_intersect, member, deferred inside]
        rfl
      · split
        · rename_i inside
          rw [containsIndex_intersect, member, retried inside]
          rfl
        · simp

end Lanes

namespace RootLaneState

def mark (state : RootLaneState) : RootLaneMarking → RootLaneState
  | .perform operation => state.perform operation
  | .markErrorRecoveryDisabled lanes => state.markErrorRecoveryDisabled lanes

def PingsPending (state : RootLaneState) : RootLaneMarking → Prop
  | .perform (.markPinged pingedLanes) =>
      (state.suspendedLanes.intersect pingedLanes).isSubsetOf state.pendingLanes = true
  | _ => True

/-- The pending lanes of the class that a root picks from. -/
def consideredLanes (state : RootLaneState) : Lanes :=
  if (state.pendingLanes.intersect Lanes.nonIdle).isNonEmpty then
    state.pendingLanes.intersect Lanes.nonIdle
  else
    state.pendingLanes

/-- A lane is held back when it is suspended and was not pinged. -/
def HeldBack (state : RootLaneState) (index : LaneIndex) : Prop :=
  state.suspendedLanes.containsIndex index = true ∧
    state.pingedLanes.containsIndex index = false

variable {state : RootLaneState} {rootHasPendingCommit : Bool} {index : LaneIndex}

theorem not_heldBack_iff :
    ¬ state.HeldBack index ↔
      state.suspendedLanes.containsIndex index = false ∨
        state.pingedLanes.containsIndex index = true := by
  unfold HeldBack
  cases state.suspendedLanes.containsIndex index <;>
    cases state.pingedLanes.containsIndex index <;> simp

section Pinged

section

variable (pinged : state.pingedLanes.isSubsetOf state.pendingLanes = true)
include pinged

theorem pinged_markSpawnedDeferredLane (spawnedLane : Lane) (entangledLanes : Lanes) :
    (state.markSpawnedDeferredLane spawnedLane entangledLanes).pingedLanes.isSubsetOf
      (state.markSpawnedDeferredLane spawnedLane entangledLanes).pendingLanes = true := by
  have same : (state.markSpawnedDeferredLane spawnedLane entangledLanes).pingedLanes =
      state.pingedLanes := by
    unfold markSpawnedDeferredLane
    split <;> rfl
  rw [same]
  exact isSubsetOf_trans pinged (Hygienic.isSubsetOf_markSpawnedDeferredLane _ _ _)

theorem pinged_markSuspended
    (suspendedLanes : Lanes) (spawnedLane : Lane) (didAttemptEntireTree : Bool) :
    (state.markSuspended suspendedLanes spawnedLane didAttemptEntireTree).pingedLanes.isSubsetOf
      (state.markSuspended suspendedLanes spawnedLane didAttemptEntireTree).pendingLanes =
        true := by
  have held : (state.holdBack suspendedLanes didAttemptEntireTree).pingedLanes.isSubsetOf
      (state.holdBack suspendedLanes didAttemptEntireTree).pendingLanes = true :=
    isSubsetOf_trans (remove_isSubsetOf _ _) pinged
  rw [markSuspended_eq]
  split
  · exact pinged_markSpawnedDeferredLane held _ _
  · exact held

end

theorem pingedLanes_markFinished (finished : RootFinishedLanes) :
    (state.markFinished finished).pingedLanes = no := by
  have spawned : ∀ left : RootLaneState, left.pingedLanes = no →
      (left.markSpawnedDeferredLane finished.spawnedLane no).pingedLanes = no := by
    intro left none
    unfold markSpawnedDeferredLane
    split
    · exact none
    · exact none
  have suspended : ∀ left : RootLaneState, left.pingedLanes = no →
      (left.suspendFreshRetries finished state.pendingLanes).pingedLanes = no := by
    intro left none
    unfold suspendFreshRetries
    split
    · exact none
    · exact none
  rw [markFinished_eq]
  apply suspended
  split
  · exact spawned _ rfl
  · rfl

theorem sets_markStarvedLanesAsExpired (currentTime : LaneTimestamp) :
    (state.markStarvedLanesAsExpired currentTime).pingedLanes = state.pingedLanes ∧
      (state.markStarvedLanesAsExpired currentTime).pendingLanes = state.pendingLanes := by
  refine @forEachLane_invariant _ _
    (fun marked : RootLaneState =>
      marked.pingedLanes = state.pingedLanes ∧ marked.pendingLanes = state.pendingLanes)
    _ _ ⟨rfl, rfl⟩ ?_
  intro marked index same _
  dsimp only
  split
  · split
    · exact same
    · exact same
  · split
    · exact same
    · exact same

theorem pinged_mark {marking : RootLaneMarking}
    (pinged : state.pingedLanes.isSubsetOf state.pendingLanes = true)
    (permitted : state.PingsPending marking) :
    (state.mark marking).pingedLanes.isSubsetOf (state.mark marking).pendingLanes = true := by
  cases marking with
  | markErrorRecoveryDisabled lanes => exact pinged
  | perform operation =>
    cases operation with
    | markUpdated updateLane =>
      show (state.markUpdated updateLane).pingedLanes.isSubsetOf
        (state.markUpdated updateLane).pendingLanes = true
      rw [pingedLanes_markUpdated, pendingLanes_markUpdated]
      split
      · exact no_isSubsetOf _
      · exact isSubsetOf_trans pinged (isSubsetOf_merge_left _ _)
    | markSuspended suspendedLanes spawnedLane didAttemptEntireTree =>
      exact pinged_markSuspended pinged _ _ _
    | markPinged pingedLanes => exact merge_isSubsetOf_iff.mpr ⟨pinged, permitted⟩
    | markFinished finished =>
      show (state.markFinished finished).pingedLanes.isSubsetOf _ = true
      rw [pingedLanes_markFinished]
      exact no_isSubsetOf _
    | markEntangled entangledLanes => exact pinged
    | upgradePendingLanesToSync lanesToUpgrade =>
      exact isSubsetOf_trans pinged (isSubsetOf_merge_left _ Lane.sync.toLanes)
    | markStarvedLanesAsExpired currentTime =>
      obtain ⟨samePinged, samePending⟩ := @sets_markStarvedLanesAsExpired state currentTime
      show (state.markStarvedLanesAsExpired currentTime).pingedLanes.isSubsetOf
        (state.markStarvedLanesAsExpired currentTime).pendingLanes = true
      rw [samePinged, samePending]
      exact pinged
    | markExpired lanes => exact pinged
    | markHiddenUpdate lane =>
      show (state.markHiddenUpdate lane).2.pingedLanes.isSubsetOf
        (state.markHiddenUpdate lane).2.pendingLanes = true
      unfold markHiddenUpdate
      split
      · exact pinged
      · exact pinged
    | clearHiddenUpdatesForLanes lanes => exact pinged

theorem pinged_of_run {features : RootLaneFeatureFlags} {markings : List RootLaneMarking}
    (run : ActionRun PingsPending mark (withFeatures features) markings state) :
    state.pingedLanes.isSubsetOf state.pendingLanes = true :=
  run.invariant (no_isSubsetOf _) fun _ _ pinged permitted => pinged_mark pinged permitted

end Pinged

section Picked

theorem consideredLanes_isSubsetOf :
    state.consideredLanes.isSubsetOf state.pendingLanes = true := by
  unfold consideredLanes
  split
  · exact intersect_isSubsetOf_left _ _
  · exact isSubsetOf_refl _

theorem intersect_eq_of_isSubsetOf {lanes set : Lanes} (subset : lanes.isSubsetOf set = true) :
    set.intersect lanes = lanes := by
  apply ext_index
  intro index
  rw [containsIndex_intersect]
  cases member : lanes.containsIndex index with
  | false => simp
  | true => simp [isSubsetOf_iff.mp subset index member]

/-- A root starts anew on lanes of the class considered. -/
theorem freshLanes_eq (pinged : state.pingedLanes.isSubsetOf state.pendingLanes = true) :
    state.freshLanes rootHasPendingCommit =
      state.candidatePool rootHasPendingCommit state.consideredLanes
        (state.consideredLanes.intersect state.pingedLanes) := by
  cases none : state.pendingLanes.isEmpty with
  | true =>
    have isNo : state.pendingLanes = no := isEmpty_iff_eq_no.mp none
    have vacant : ∀ lanes, no.intersect lanes = no ∧
        no.remove lanes = no := by
      intro lanes
      exact ⟨ext_index (by simp), ext_index (by simp)⟩
    have emptyNo : no.isEmpty = true := rfl
    simp [freshLanes, consideredLanes, candidatePool, isNo, vacant, emptyNo]
  | false =>
    cases idle : (state.pendingLanes.intersect nonIdle).isEmpty with
    | true =>
      have considered : state.consideredLanes = state.pendingLanes := by
        simp [consideredLanes, idle]
      rw [considered, intersect_eq_of_isSubsetOf pinged]
      simp [freshLanes, none, idle]
    | false =>
      have considered :
          state.consideredLanes = state.pendingLanes.intersect nonIdle := by
        simp [consideredLanes, idle]
      rw [considered]
      simp [freshLanes, none, idle]

variable {candidates : Lanes}

theorem candidatePool_isSubsetOf :
    (state.candidatePool rootHasPendingCommit candidates
      (candidates.intersect state.pingedLanes)).isSubsetOf candidates = true := by
  unfold candidatePool
  split
  · exact remove_isSubsetOf _ _
  · split
    · exact intersect_isSubsetOf_left _ _
    · split
      · exact remove_isSubsetOf _ _
      · exact no_isSubsetOf _

/-- A pool holds lanes that are not held back as soon as there are some. -/
theorem candidatePool_of_ready (member : candidates.containsIndex index = true)
    (ready : ¬ state.HeldBack index) :
    (state.candidatePool rootHasPendingCommit candidates
        (candidates.intersect state.pingedLanes)).isEmpty = false ∧
      ∀ other, (state.candidatePool rootHasPendingCommit candidates
        (candidates.intersect state.pingedLanes)).containsIndex other = true →
          ¬ state.HeldBack other := by
  simp only [not_heldBack_iff] at ready ⊢
  unfold candidatePool
  cases unblocked : (candidates.remove state.suspendedLanes).isEmpty with
  | false =>
    simp only [isNonEmpty_eq, unblocked, Bool.not_false, if_true]
    refine ⟨trivial, ?_⟩
    intro other inside
    rw [containsIndex_remove, Bool.and_eq_true, Bool.not_eq_true'] at inside
    exact .inl inside.2
  | true =>
    have suspended : state.suspendedLanes.containsIndex index = true := by
      have absent := isEmpty_iff.mp unblocked index
      rwa [containsIndex_remove, member, Bool.true_and, Bool.not_eq_false'] at absent
    have pinged : state.pingedLanes.containsIndex index = true := by simpa [suspended] using ready
    have occupied : (candidates.intersect state.pingedLanes).isEmpty = false :=
      isEmpty_eq_false_iff.mpr ⟨index, by simp [member, pinged]⟩
    simp only [isNonEmpty_eq, unblocked, occupied, Bool.not_true, Bool.not_false,
      Bool.false_eq_true, if_false, if_true]
    refine ⟨trivial, ?_⟩
    intro other inside
    rw [containsIndex_intersect, Bool.and_eq_true] at inside
    exact .inr inside.2

theorem getNextLanes_no (pinged : state.pingedLanes.isSubsetOf state.pendingLanes = true) :
    state.getNextLanes no rootHasPendingCommit =
      highestPriorityLanes (state.candidatePool rootHasPendingCommit state.consideredLanes
        (state.consideredLanes.intersect state.pingedLanes)) := by
  rw [getNextLanes_eq, ← freshLanes_eq pinged]
  have nothingKept : ∀ next, state.keepsWorkInProgress no next = false := fun _ => rfl
  simp only [nothingKept, Bool.false_eq_true, if_false]
  split
  · rename_i none
    exact (isEmpty_iff_eq_no.mp none).symm
  · rfl

theorem checkIfRootIsPrerendering_iff {renderLanes : Lanes} :
    state.checkIfRootIsPrerendering renderLanes = true ↔
      ∀ index, renderLanes.containsIndex index = true →
        state.pendingLanes.containsIndex index = true → state.HeldBack index := by
  unfold checkIfRootIsPrerendering HeldBack
  dsimp only
  rw [Lanes.isEmpty_iff]
  refine forall_congr' fun index => ?_
  simp only [containsIndex_intersect, containsIndex_remove]
  cases state.pendingLanes.containsIndex index <;>
    cases renderLanes.containsIndex index <;>
    cases state.suspendedLanes.containsIndex index <;>
    cases state.pingedLanes.containsIndex index <;> simp

end Picked

end RootLaneState

open RootLaneState

/-- In every run whose pings reach pending lanes, a root whose deferred lane is not pending
picks pending lanes of the class it considers, some if one of them is not held back, and
prerenders when all of them are held back. -/
theorem next_lanes_of_markings
    {features : RootLaneFeatureFlags}
    {markings : List RootLaneMarking}
    {state : RootLaneState}
    (run : ActionRun PingsPending mark (withFeatures features) markings state)
    (notDeferred : state.pendingLanes.containsIndex 30 = false)
    (rootHasPendingCommit : Bool)
    (next : Lanes)
    (picked : state.getNextLanes Lanes.no rootHasPendingCommit = next) :
    next.isSubsetOf state.pendingLanes = true ∧
      ((∃ index, state.consideredLanes.containsIndex index = true ∧
        ¬ state.HeldBack index) → next.isNonEmpty = true) ∧
      ((state.pendingLanes.intersect Lanes.nonIdle).isNonEmpty = true →
        next.isSubsetOf Lanes.nonIdle = true) ∧
      (next.isNonEmpty = true →
        (state.checkIfRootIsPrerendering next = true ↔
          ∀ index, next.containsIndex index = true → state.HeldBack index) ∧
        (state.checkIfRootIsPrerendering next = true →
          ∀ index, state.consideredLanes.containsIndex index = true →
            state.HeldBack index)) := by
  have pinged := pinged_of_run run
  have considered : next.isSubsetOf state.consideredLanes = true := by
    rw [isSubsetOf_iff, ← picked, getNextLanes_no pinged]
    intro index urgent
    exact isSubsetOf_iff.mp candidatePool_isSubsetOf index
      (containsIndex_of_highestPriorityLanes urgent)
  have pending := isSubsetOf_trans considered consideredLanes_isSubsetOf
  have prerenders : state.checkIfRootIsPrerendering next = true ↔
      ∀ index, next.containsIndex index = true → state.HeldBack index := by
    rw [checkIfRootIsPrerendering_iff]
    constructor
    · intro held index member
      exact held index member (isSubsetOf_iff.mp pending index member)
    · intro held index member _
      exact held index member
  refine ⟨pending, ?_, ?_, ?_⟩
  · rintro ⟨index, member, ready⟩
    obtain ⟨occupied, -⟩ := @candidatePool_of_ready state rootHasPendingCommit _ _ member ready
    have poolNotDeferred := containsIndex_eq_false_of_isSubsetOf
      (isSubsetOf_trans
        (@candidatePool_isSubsetOf state rootHasPendingCommit state.consideredLanes)
        consideredLanes_isSubsetOf) notDeferred
    rw [isNonEmpty_eq, ← picked, getNextLanes_no pinged,
      isEmpty_highestPriorityLanes occupied poolNotDeferred]
    rfl
  · intro nonIdlePending
    have sameClass : state.consideredLanes = state.pendingLanes.intersect Lanes.nonIdle := by
      rw [consideredLanes, if_pos nonIdlePending]
    rw [sameClass] at considered
    exact isSubsetOf_trans considered (intersect_isSubsetOf_right _ _)
  · intro nonEmpty
    refine ⟨prerenders, ?_⟩
    intro prerendering index member
    -- A lane that is not held back would have been picked before those that are.
    by_contra ready
    obtain ⟨-, allReady⟩ := @candidatePool_of_ready state rootHasPendingCommit _ _ member ready
    rw [isNonEmpty_eq, Bool.not_eq_true', isEmpty_eq_false_iff] at nonEmpty
    obtain ⟨other, otherMember⟩ := nonEmpty
    have held := prerenders.mp prerendering other otherMember
    rw [← picked, getNextLanes_no pinged] at otherMember
    exact allReady other (containsIndex_of_highestPriorityLanes otherMember) held

/-- A retry lane that is suspended and pinged while an idle lane is pending. -/
def sampleMarkings : List RootLaneMarking :=
  [.perform (.markUpdated Lane.idle),
    .perform (.markUpdated (LaneIndex.lane 22)),
    .perform (.markSuspended (LaneIndex.lane 22).toLanes Lane.no true),
    .perform (.markPinged (LaneIndex.lane 22).toLanes)]

theorem next_lanes_of_markings_sample :
    (LaneIndex.lane 22).toLanes.isSubsetOf (sampleMarkings.foldl mark
      (withFeatures new)).pendingLanes = true := by
  have run : ActionRun PingsPending mark (withFeatures new)
      sampleMarkings (sampleMarkings.foldl mark (withFeatures new)) :=
    .of_permitted ⟨trivial, trivial, trivial, rfl, trivial⟩
  exact (next_lanes_of_markings run rfl false _ rfl).1

namespace RootLaneState

variable {state : RootLaneState} {wipLanes next : Lanes} {rootHasPendingCommit : Bool}

/-- Lanes in progress are given up for more urgent ones, and transitions never for the
default lane. -/
theorem urgent_of_given_up (inProgress : wipLanes.isEmpty = false)
    (unsuspended : (wipLanes.intersect state.suspendedLanes).isEmpty = true)
    (different : wipLanes ≠ next) (givenUp : state.keepsWorkInProgress wipLanes next = false) :
    next.highestPriorityLane.bits.toNat < wipLanes.highestPriorityLane.bits.toNat ∧
      (wipLanes.highestPriorityLane.isTransition = true →
        next.highestPriorityLane ≠ Lane.default) := by
  have neither : next.highestPriorityLane.bits.toNat <
        wipLanes.highestPriorityLane.bits.toNat ∧
      (next.highestPriorityLane = Lane.default →
        wipLanes.highestPriorityLane.isTransition = false) := by
    unfold keepsWorkInProgress at givenUp
    simpa [inProgress, unsuspended, different] using givenUp
  refine ⟨neither.1, ?_⟩
  intro transition isDefault
  rw [neither.2 isDefault] at transition
  cases transition

section

variable (picked : state.getNextLanes wipLanes rootHasPendingCommit = next)
include picked

theorem getNextLanes_cases :
    (next = no ∧
        (highestPriorityLanes (state.freshLanes rootHasPendingCommit)).isEmpty = true) ∨
      next = wipLanes ∨
      (next.isEmpty = false ∧
        next = highestPriorityLanes (state.freshLanes rootHasPendingCommit) ∧
        state.keepsWorkInProgress wipLanes next = false) := by
  rw [getNextLanes_eq] at picked
  dsimp only at picked
  split at picked
  · rename_i none
    exact .inl ⟨picked.symm, none⟩
  · rename_i some
    split at picked
    · exact .inr (.inl picked.symm)
    · rename_i notKept
      rw [picked, Bool.not_eq_true] at some
      rw [picked, Bool.not_eq_true] at notKept
      exact .inr (.inr ⟨some, picked.symm, notKept⟩)

theorem getNextLanes_again : state.getNextLanes next rootHasPendingCommit = next := by
  rcases getNextLanes_cases picked with ⟨rfl, none⟩ | rfl | ⟨some, fresh, -⟩
  · rw [getNextLanes_eq]
    simp only [none, if_true]
  · exact picked
  · have unchanged : state.keepsWorkInProgress next next = false := by simp [keepsWorkInProgress]
    rw [getNextLanes_eq]
    simp only [← fresh, some, unchanged, Bool.false_eq_true, if_false]

end

end RootLaneState

/-- Lanes in progress that are not suspended are kept, dropped with all work, or given up
for lanes headed by a more urgent one, and the choice is the same when it is repeated. -/
theorem next_lanes_preempt_stably
    {state : RootLaneState}
    {wipLanes next : Lanes}
    (inProgress : wipLanes.isEmpty = false)
    (unsuspended : (wipLanes.intersect state.suspendedLanes).isEmpty = true)
    (rootHasPendingCommit : Bool)
    (picked : state.getNextLanes wipLanes rootHasPendingCommit = next) :
    (next = Lanes.no ∨ next = wipLanes ∨
        (next.isEmpty = false ∧
          next.highestPriorityLane.bits.toNat < wipLanes.highestPriorityLane.bits.toNat)) ∧
      (wipLanes.highestPriorityLane.isTransition = true →
        next.highestPriorityLane ≠ Lane.default) ∧
      state.getNextLanes next rootHasPendingCommit = next := by
  have again := getNextLanes_again picked
  have notDefault : ∀ lanes : Lanes, lanes.highestPriorityLane.isTransition = true →
      lanes.highestPriorityLane ≠ Lane.default := by
    intro lanes transition isDefault
    rw [isDefault] at transition
    cases transition
  rcases getNextLanes_cases picked with ⟨isNo, -⟩ | kept | ⟨some, fresh, givenUp⟩
  · refine ⟨.inl isNo, ?_, again⟩
    rw [isNo]
    intro _
    decide
  · refine ⟨.inr (.inl kept), ?_, again⟩
    rw [kept]
    exact notDefault wipLanes
  · by_cases same : wipLanes = next
    · refine ⟨.inr (.inl same.symm), ?_, again⟩
      rw [← same]
      exact notDefault wipLanes
    · obtain ⟨urgent, spared⟩ := urgent_of_given_up inProgress unsuspended same givenUp
      exact ⟨.inr (.inr ⟨some, urgent⟩), spared, again⟩

/-- A transition in progress is given up for a sync update. -/
theorem next_lanes_preempt_stably_sample :
    (((withFeatures new).markUpdated Lane.transition1).markUpdated
      Lane.sync).getNextLanes Lanes.sync false = Lanes.sync :=
  (next_lanes_preempt_stably
    (rfl : Lane.transition1.toLanes.isEmpty = false)
    (rfl : (Lane.transition1.toLanes.intersect
      (((withFeatures new).markUpdated Lane.transition1).markUpdated
        Lane.sync).suspendedLanes).isEmpty = true)
    false rfl).2.2

end FastReact
