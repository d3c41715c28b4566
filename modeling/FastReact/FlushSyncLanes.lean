import FastReact.NextLanes

namespace FastReact

open Lanes

/-!
# Lanes of a synchronous flush

A flush takes the pending lanes that are not held back and at least as urgent as one of
the lanes it is told to force.  Hydration lanes are flushed on their own.
-/

namespace Lanes

def hydration : Lanes := ⟨0x0c000095⟩

def lowestPriorityLaneIndex (lanes : Lanes) : Nat :=
  lanes.bits.toNat.log2

def lanesOfEqualOrHigherPriority (lanes : Lanes) : Lanes :=
  if lanes.isEmpty then
    no
  else
    ⟨BitVec.ofNat totalLanes (2 ^ (lanes.lowestPriorityLaneIndex + 1) - 1)⟩

end Lanes

namespace RootLaneState

def getNextLanesToFlushSync (state : RootLaneState) (extraLanesToForceSync : Lanes) : Lanes :=
  let lanesToFlush := Lanes.syncUpdate.merge extraLanesToForceSync
  if state.pendingLanes.isEmpty then
    Lanes.no
  else
    let suspendedButNotPinged := state.suspendedLanes.remove state.pingedLanes
    let unblockedLanes := state.pendingLanes.remove suspendedButNotPinged
    let unblockedLanesWithMatchingPriority :=
      unblockedLanes.intersect lanesToFlush.lanesOfEqualOrHigherPriority
    let matchingHydrationLanes :=
      unblockedLanesWithMatchingPriority.intersect Lanes.hydration
    if matchingHydrationLanes.isNonEmpty then
      matchingHydrationLanes.mergeLane Lane.syncHydration
    else if unblockedLanesWithMatchingPriority.isNonEmpty then
      unblockedLanesWithMatchingPriority.mergeLane Lane.sync
    else
      Lanes.no

end RootLaneState

namespace Lanes

variable {lanes : Lanes} {index : LaneIndex}

theorem containsIndex_lanesOfEqualOrHigherPriority :
    lanes.lanesOfEqualOrHigherPriority.containsIndex index = true ↔
      ∃ bound, lanes.containsIndex bound = true ∧ index ≤ bound := by
  unfold lanesOfEqualOrHigherPriority
  split
  · rename_i none
    simp [isEmpty_iff.mp none]
  · rename_i some
    have nonZero : lanes.bits.toNat ≠ 0 := by
      intro zero
      apply some
      have isZero : lanes.bits = 0 := BitVec.eq_of_toNat_eq zero
      rw [isEmpty, isZero]
      rfl
    have mask : (BitVec.ofNat totalLanes
          (2 ^ (lanes.lowestPriorityLaneIndex + 1) - 1)).getLsbD index =
        decide (index.val < lanes.lowestPriorityLaneIndex + 1) := by
      rw [BitVec.getLsbD_ofNat, Nat.testBit_two_pow_sub_one]
      simp [index.isLt]
    rw [containsIndex, mask, decide_eq_true_eq, Nat.lt_succ_iff]
    have last : lanes.lowestPriorityLaneIndex < totalLanes :=
      (Nat.log2_lt nonZero).mpr lanes.bits.isLt
    constructor
    · intro below
      exact ⟨⟨_, last⟩, Nat.testBit_log2 nonZero, below⟩
    · rintro ⟨bound, member, below⟩
      have reached : bound.val ≤ lanes.lowestPriorityLaneIndex :=
        (Nat.le_log2 nonZero).mpr (Nat.ge_two_pow_of_testBit member)
      exact Nat.le_trans below reached

end Lanes

namespace RootLaneState

/-- A pending lane is not held back and at least as urgent as one of the given lanes. -/
def FlushesWith (state : RootLaneState) (lanesToFlush : Lanes) (index : LaneIndex) : Prop :=
  state.pendingLanes.containsIndex index = true ∧
    ¬ state.HeldBack index ∧
    ∃ bound, lanesToFlush.containsIndex bound = true ∧ index ≤ bound

def FlushesHydration (state : RootLaneState) (lanesToFlush : Lanes) : Prop :=
  ∃ index, state.FlushesWith lanesToFlush index ∧
    Lanes.hydration.containsIndex index = true

variable {state : RootLaneState} {extraLanesToForceSync lanesToFlush : Lanes}
  {index : LaneIndex}

/-- The pending lanes that are not held back and as urgent as the given lanes. -/
def unblockedLanesWithin (state : RootLaneState) (lanesToFlush : Lanes) : Lanes :=
  (state.pendingLanes.remove (state.suspendedLanes.remove state.pingedLanes)).intersect
    lanesToFlush.lanesOfEqualOrHigherPriority

/-- Hydration lanes by themselves, or else all lanes, with the synchronous lane. -/
def withSynchronousLane (matching : Lanes) : Lanes :=
  if (matching.intersect Lanes.hydration).isNonEmpty then
    (matching.intersect Lanes.hydration).mergeLane Lane.syncHydration
  else if matching.isNonEmpty then
    matching.mergeLane Lane.sync
  else
    Lanes.no

theorem containsIndex_unblockedLanesWithin :
    (state.unblockedLanesWithin lanesToFlush).containsIndex index = true ↔
      state.FlushesWith lanesToFlush index := by
  unfold unblockedLanesWithin
  rw [containsIndex_intersect, Bool.and_eq_true,
    containsIndex_lanesOfEqualOrHigherPriority, FlushesWith, ← and_assoc]
  refine and_congr_left fun _ => ?_
  unfold HeldBack
  rw [containsIndex_remove, containsIndex_remove]
  cases state.suspendedLanes.containsIndex index <;>
    cases state.pingedLanes.containsIndex index <;> simp

theorem flushesHydration_iff :
    state.FlushesHydration lanesToFlush ↔
      ((state.unblockedLanesWithin lanesToFlush).intersect hydration).isEmpty = false := by
  rw [isEmpty_eq_false_iff]
  refine exists_congr fun other => ?_
  rw [containsIndex_intersect, Bool.and_eq_true, containsIndex_unblockedLanesWithin]

theorem getNextLanesToFlushSync_eq :
    state.getNextLanesToFlushSync extraLanesToForceSync =
      withSynchronousLane
        (state.unblockedLanesWithin (syncUpdate.merge extraLanesToForceSync)) := by
  unfold getNextLanesToFlushSync
  dsimp only
  split
  · rename_i none
    have isNo : state.unblockedLanesWithin
        (syncUpdate.merge extraLanesToForceSync) = no := by
      apply ext_index
      intro index
      simp [unblockedLanesWithin, isEmpty_iff.mp none]
    rw [isNo]
    rfl
  · rfl

theorem containsIndex_withSynchronousLane {matching : Lanes} :
    (withSynchronousLane matching).containsIndex index = true ↔
      ((matching.intersect hydration).isEmpty = false ∧
        (index = 0 ∨ (matching.containsIndex index = true ∧
          hydration.containsIndex index = true))) ∨
      (¬ (matching.intersect hydration).isEmpty = false ∧
        matching.isEmpty = false ∧ (index = 1 ∨ matching.containsIndex index = true)) := by
  unfold withSynchronousLane
  simp only [isNonEmpty_eq, Bool.not_eq_true']
  split
  · rename_i hydrates
    rw [mergeLane_eq, containsIndex_merge, Bool.or_eq_true, containsIndex_intersect,
      Bool.and_eq_true, Lane.syncHydration, containsIndex_lane, decide_eq_true_eq]
    simp only [hydrates, true_and, not_true_eq_false, false_and, or_false]
    exact or_comm
  · rename_i noHydration
    split
    · rename_i some
      rw [mergeLane_eq, containsIndex_merge, Bool.or_eq_true, Lane.sync, containsIndex_lane,
        decide_eq_true_eq]
      simp only [noHydration, some, reduceCtorEq, false_and, false_or, not_false_iff, true_and]
      exact or_comm
    · rename_i nothing
      simp only [containsIndex_no, reduceCtorEq, noHydration, nothing, false_and, and_false,
        or_false]

theorem containsIndex_getNextLanesToFlushSync :
    (state.getNextLanesToFlushSync extraLanesToForceSync).containsIndex index = true ↔
      (state.FlushesHydration (syncUpdate.merge extraLanesToForceSync) ∧
        (index = 0 ∨
          (state.FlushesWith (syncUpdate.merge extraLanesToForceSync) index ∧
            hydration.containsIndex index = true))) ∨
      (¬ state.FlushesHydration (syncUpdate.merge extraLanesToForceSync) ∧
        (∃ other, state.FlushesWith (syncUpdate.merge extraLanesToForceSync) other) ∧
        (index = 1 ∨ state.FlushesWith (syncUpdate.merge extraLanesToForceSync) index)) := by
  rw [getNextLanesToFlushSync_eq, containsIndex_withSynchronousLane, flushesHydration_iff,
    containsIndex_unblockedLanesWithin, isEmpty_eq_false_iff]
  simp only [isEmpty_eq_false_iff, containsIndex_unblockedLanesWithin]

end RootLaneState

open RootLaneState

/-- A flush takes nothing when no pending lane that is not held back is urgent enough, and
otherwise the hydration lanes among those, or all of them if there are none, with the
synchronous lane of their kind. -/
theorem flush_sync_lanes_of_urgent
    (state : RootLaneState)
    (extraLanesToForceSync : Lanes) :
    (state.getNextLanesToFlushSync extraLanesToForceSync = Lanes.no ↔
        ¬ ∃ index, state.FlushesWith
          (Lanes.syncUpdate.merge extraLanesToForceSync) index) ∧
      (∀ index,
        (state.getNextLanesToFlushSync extraLanesToForceSync).containsIndex index = true →
        state.FlushesWith (Lanes.syncUpdate.merge extraLanesToForceSync) index ∨
          (index.lane = Lane.syncHydration ∧
            state.FlushesHydration (Lanes.syncUpdate.merge extraLanesToForceSync)) ∨
          (index.lane = Lane.sync ∧
            ¬ state.FlushesHydration (Lanes.syncUpdate.merge extraLanesToForceSync))) ∧
      ((state.getNextLanesToFlushSync extraLanesToForceSync).isSubsetOf
          Lanes.hydration = true ∨
        ((state.getNextLanesToFlushSync extraLanesToForceSync).intersect
          Lanes.hydration).isEmpty = true) ∧
      (state.FlushesHydration (Lanes.syncUpdate.merge extraLanesToForceSync) →
        ∀ index, state.FlushesWith (Lanes.syncUpdate.merge extraLanesToForceSync) index →
          Lanes.hydration.containsIndex index = true →
          (state.getNextLanesToFlushSync extraLanesToForceSync).containsIndex index = true) ∧
      (¬ state.FlushesHydration (Lanes.syncUpdate.merge extraLanesToForceSync) →
        ∀ index, state.FlushesWith (Lanes.syncUpdate.merge extraLanesToForceSync) index →
          (state.getNextLanesToFlushSync extraLanesToForceSync).containsIndex index =
            true) := by
  have members := @containsIndex_getNextLanesToFlushSync state extraLanesToForceSync
  refine ⟨?_, ?_, ?_, ?_, ?_⟩
  · rw [← isEmpty_iff_eq_no, Lanes.isEmpty_iff]
    constructor
    · rintro vacant ⟨index, flushes⟩
      by_cases hydrates : state.FlushesHydration
          (Lanes.syncUpdate.merge extraLanesToForceSync)
      · have added := members.mpr (.inl ⟨hydrates, .inl rfl⟩)
        rw [vacant] at added
        cases added
      · have added := members.mpr (.inr ⟨hydrates, ⟨index, flushes⟩, .inl rfl⟩)
        rw [vacant] at added
        cases added
    · intro nothing index
      rw [← Bool.not_eq_true, members]
      rintro (⟨⟨other, flushes, -⟩, -⟩ | ⟨-, some, -⟩)
      · exact nothing ⟨other, flushes⟩
      · exact nothing some
  · intro index taken
    rcases members.mp taken with ⟨hydrates, rfl | ⟨flushes, -⟩⟩ | ⟨noHydration, -, rfl | flushes⟩
    · exact .inr (.inl ⟨rfl, hydrates⟩)
    · exact .inl flushes
    · exact .inr (.inr ⟨rfl, noHydration⟩)
    · exact .inl flushes
  · by_cases hydrates : state.FlushesHydration
        (Lanes.syncUpdate.merge extraLanesToForceSync)
    · left
      rw [isSubsetOf_iff]
      intro index taken
      rcases members.mp taken with ⟨-, rfl | ⟨-, kind⟩⟩ | ⟨noHydration, -⟩
      · decide
      · exact kind
      · exact absurd hydrates noHydration
    · right
      rw [Lanes.isEmpty_iff]
      intro index
      rw [containsIndex_intersect, ← Bool.not_eq_true, Bool.and_eq_true]
      rintro ⟨taken, kind⟩
      rcases members.mp taken with ⟨some, -⟩ | ⟨-, -, rfl | flushes⟩
      · exact hydrates some
      · cases kind
      · exact hydrates ⟨index, flushes, kind⟩
  · intro hydrates index flushes kind
    exact members.mpr (.inl ⟨hydrates, .inr ⟨flushes, kind⟩⟩)
  · intro noHydration index flushes
    exact members.mpr (.inr ⟨noHydration, ⟨index, flushes⟩, .inr flushes⟩)

end FastReact
