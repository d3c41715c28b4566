import FastReact.SyncFlush

namespace FastReact

open ErrorState FiberRootStore LaneIndex Lanes RootLaneState

/-!
# What counts as synchronous work

The microtask picks the lanes of a root among those that are ready, while the flush
looks at the pending lanes alone.  This module says lane by lane when each of the two
finds synchronous work, and from it when they agree.
-/

namespace Lanes

variable {lanes : Lanes} {index : LaneIndex}

theorem containsIndex_highestPriorityLane :
    lanes.highestPriorityLane.toLanes.containsIndex index = true ↔
      lanes.containsIndex index = true ∧ ∀ lower < index, lanes.containsIndex lower = false := by
  have noneLower :
      (¬ ∃ lower < index.val, lanes.bits.getLsbD lower = true) ↔
        ∀ lower < index, lanes.containsIndex lower = false := by
    constructor
    · intro vacant lower below
      rw [← Bool.not_eq_true]
      exact fun member => vacant ⟨lower, below, member⟩
    · rintro vacant ⟨lower, below, member⟩
      have absent := vacant ⟨lower, below.trans index.isLt⟩ below
      simp [containsIndex, member] at absent
  rw [← noneLower]
  simp only [containsIndex, Lane.toLanes, highestPriorityLane, BitVec.getLsbD_and,
    BitVec.getLsbD_neg, index.isLt, decide_true, Bool.true_and]
  cases lanes.bits.getLsbD index <;> simp

theorem highestPriorityLane_eq_iff :
    lanes.highestPriorityLane = index.lane ↔
      lanes.containsIndex index = true ∧ ∀ lower < index, lanes.containsIndex lower = false := by
  rw [← containsIndex_highestPriorityLane]
  constructor
  · intro same
    simp [same]
  · intro holds
    rcases lanes.highestPriorityLane.single with empty | ⟨position, shape⟩
    · simp [containsIndex, Lane.toLanes, empty] at holds
    · have isLane : lanes.highestPriorityLane = position.lane :=
        Lane.ext_toLanes (by simp [Lane.toLanes, lane, shape])
      rw [isLane, containsIndex_lane, decide_eq_true_eq] at holds
      rw [isLane, holds]

theorem lane_le_lane_iff {first second : LaneIndex} :
    first.lane.bits.toNat ≤ second.lane.bits.toNat ↔ first ≤ second := by
  have value : ∀ index : LaneIndex, index.lane.bits.toNat = 2 ^ index.val := by
    intro index
    have inside : 2 ^ index.val < 2 ^ totalLanes := Nat.pow_lt_pow_right (by decide) index.isLt
    rw [lane, BitVec.toNat_twoPow, Nat.mod_eq_of_lt inside]
  rw [value, value, Nat.pow_le_pow_iff_right (by decide)]
  exact Iff.rfl

theorem exists_first (nonEmpty : lanes.isEmpty = false) :
    ∃ first, lanes.highestPriorityLane = lane first ∧
      lanes.containsIndex first = true ∧ ∀ lower < first, lanes.containsIndex lower = false := by
  rw [← Bool.not_eq_true, isEmpty_iff] at nonEmpty
  have occupied : ∃ index, lanes.containsIndex index = true := by simpa using nonEmpty
  have least := Fin.find_spec occupied
  have none_lower : ∀ lower < Fin.find _ occupied, lanes.containsIndex lower = false := by
    intro lower below
    simpa using Fin.find_min occupied below
  exact ⟨_, highestPriorityLane_eq_iff.mpr ⟨least, none_lower⟩, least, none_lower⟩

/-- Whether the most urgent group of a set is synchronous.  The sync lane goes first, and
the hydration lane gives way to the lanes that are rendered with the sync lane. -/
def leadsWithSync (lanes : Lanes) : Bool :=
  lanes.containsIndex 1 ||
    (lanes.containsIndex 0 && !lanes.containsIndex 3 && !lanes.containsIndex 5)

@[simp] theorem leadsWithSync_no : no.leadsWithSync = false := by decide

theorem includesSyncLane_iff :
    lanes.includesSyncLane = true ↔
      lanes.containsIndex 0 = true ∨ lanes.containsIndex 1 = true := by
  have overlap : lanes.includesSyncLane =
      lanes.containsAny (Lane.syncHydration.toLanes.merge Lane.sync.toLanes) :=
    rfl
  rw [overlap, containsAny_iff]
  simp [Lane.syncHydration, Lane.sync, and_or_left, exists_or]

theorem containsIndex_syncUpdate :
    syncUpdate.containsIndex index = true ↔ index = 1 ∨ index = 3 ∨ index = 5 := by
  have merged : syncUpdate =
      (Lane.sync.toLanes.merge Lane.inputContinuous.toLanes).merge Lane.default.toLanes :=
    rfl
  rw [merged]
  simp [Lane.sync, Lane.inputContinuous, Lane.default, or_assoc]

end Lanes

open Lanes

section Groups

variable {lanes : Lanes} {index : LaneIndex}

theorem highestPriorityLanes_of_syncUpdate
    (pending : (lanes.intersect syncUpdate).isEmpty = false) :
    highestPriorityLanes lanes = lanes.intersect syncUpdate := by
  simp [highestPriorityLanes, pending]

theorem highestPriorityLanes_no : highestPriorityLanes no = no := by decide

theorem containsIndex_of_highestPriorityLanes
    (urgent : (highestPriorityLanes lanes).containsIndex index = true) :
    lanes.containsIndex index = true := by
  cases merged : (lanes.intersect syncUpdate).isEmpty with
  | false =>
    rw [highestPriorityLanes_of_syncUpdate merged] at urgent
    simp only [containsIndex_intersect, Bool.and_eq_true] at urgent
    exact urgent.1
  | true =>
    unfold highestPriorityLanes at urgent
    simp only [isNonEmpty_eq, merged, Bool.not_true, Bool.false_eq_true, if_false] at urgent
    cases position : lanes.highestPriorityLane.toIndex with
    | none => rwa [position] at urgent
    | some first =>
      rw [position] at urgent
      have isFirst := Lane.toIndex_eq_some_iff.mp position
      have member := (highestPriorityLane_eq_iff.mp isFirst).1
      dsimp only at urgent
      split at urgent
      · simp only [containsIndex_intersect, Bool.and_eq_true] at urgent
        exact urgent.1
      · split at urgent
        · simp only [containsIndex_intersect, Bool.and_eq_true] at urgent
          exact urgent.1
        · split at urgent
          · simp only [containsIndex_intersect, Bool.and_eq_true] at urgent
            exact urgent.1
          · split at urgent
            · simp at urgent
            · simp only [containsIndex_lane, decide_eq_true_eq] at urgent
              rwa [urgent]

theorem highestPriorityLanes_of_hydration (merged : (lanes.intersect syncUpdate).isEmpty = true)
    (hydrates : lanes.containsIndex 0 = true) :
    highestPriorityLanes lanes = Lane.syncHydration.toLanes := by
  have isFirst : lanes.highestPriorityLane = lane 0 :=
    highestPriorityLane_eq_iff.mpr
      ⟨hydrates, fun lower below => absurd below (Fin.not_lt_zero lower)⟩
  have position := Lane.toIndex_eq_some_iff.mpr isFirst
  simp [highestPriorityLanes, merged, position, Lane.syncHydration]

theorem urgent_of_includesSyncLane
    (synchronous : (highestPriorityLanes lanes).includesSyncLane = true)
    (urgent : (highestPriorityLanes lanes).containsIndex index = true) :
    index = 0 ∨ index = 1 ∨ index = 3 ∨ index = 5 := by
  cases merged : (lanes.intersect syncUpdate).isEmpty with
  | false =>
    rw [highestPriorityLanes_of_syncUpdate merged] at urgent
    simp only [containsIndex_intersect, Bool.and_eq_true] at urgent
    exact .inr (containsIndex_syncUpdate.mp urgent.2)
  | true =>
    have hydrates : lanes.containsIndex 0 = true := by
      rcases includesSyncLane_iff.mp synchronous with first | second
      · exact containsIndex_of_highestPriorityLanes first
      · have member := containsIndex_of_highestPriorityLanes second
        have absent := isEmpty_iff.mp merged 1
        simp [member, containsIndex_syncUpdate.mpr (.inl rfl)] at absent
    rw [highestPriorityLanes_of_hydration merged hydrates] at urgent
    simp only [Lane.syncHydration, containsIndex_lane, decide_eq_true_eq] at urgent
    exact .inl urgent

theorem includesSyncLane_highestPriorityLanes :
    (highestPriorityLanes lanes).includesSyncLane = lanes.leadsWithSync := by
  rw [Bool.eq_iff_iff, includesSyncLane_iff]
  cases merged : (lanes.intersect syncUpdate).isEmpty with
  | false =>
    obtain ⟨index, member, -⟩ := exists_first merged |>.imp fun _ found => found.2
    simp only [containsIndex_intersect, Bool.and_eq_true, containsIndex_syncUpdate] at member
    have notHydration : syncUpdate.containsIndex 0 = false := by decide
    have sync : syncUpdate.containsIndex 1 = true := by decide
    rw [highestPriorityLanes_of_syncUpdate merged]
    simp only [containsIndex_intersect, notHydration, sync, leadsWithSync, Bool.and_false,
      Bool.and_true, Bool.false_eq_true, false_or, Bool.or_eq_true, Bool.and_eq_true,
      Bool.not_eq_true']
    constructor
    · exact .inl
    · rintro (own | ⟨⟨-, noInput⟩, noDefault⟩)
      · exact own
      · rcases member with ⟨member, rfl | rfl | rfl⟩
        · exact member
        · rw [member] at noInput
          cases noInput
        · rw [member] at noDefault
          cases noDefault
  | true =>
    have vacant : ∀ index, syncUpdate.containsIndex index = true →
        lanes.containsIndex index = false := by
      intro index member
      have absent := isEmpty_iff.mp merged index
      rwa [containsIndex_intersect, member, Bool.and_true] at absent
    have noSync := vacant 1 (by decide)
    have leads : lanes.leadsWithSync = lanes.containsIndex 0 := by
      simp [leadsWithSync, noSync, vacant 3 (by decide), vacant 5 (by decide)]
    rw [leads]
    constructor
    · rintro (first | second)
      · exact containsIndex_of_highestPriorityLanes first
      · rw [containsIndex_of_highestPriorityLanes second] at noSync
        cases noSync
    · intro hydrates
      left
      rw [highestPriorityLanes_of_hydration merged hydrates]
      decide

end Groups

namespace RootLaneState

variable (state : RootLaneState) (wipLanes : Lanes) (rootHasPendingCommit : Bool)

/-- The candidates that are unblocked, or else the pinged ones, or else, unless a commit
is pending, those that are not yet warm. -/
def candidatePool (candidates pinged : Lanes) : Lanes :=
  if (candidates.remove state.suspendedLanes).isNonEmpty then
    candidates.remove state.suspendedLanes
  else if pinged.isNonEmpty then
    pinged
  else if !rootHasPendingCommit then
    candidates.remove state.warmLanes
  else
    Lanes.no

/-- The lanes among which a root picks when it starts anew. -/
def freshLanes : Lanes :=
  let nonIdlePendingLanes := state.pendingLanes.intersect Lanes.nonIdle
  if state.pendingLanes.isEmpty then
    Lanes.no
  else if nonIdlePendingLanes.isNonEmpty then
    state.candidatePool rootHasPendingCommit nonIdlePendingLanes
      (nonIdlePendingLanes.intersect state.pingedLanes)
  else
    state.candidatePool rootHasPendingCommit state.pendingLanes state.pingedLanes

/-- The pending lanes before the idle ones that are not suspended, or else the pinged
ones. -/
def readyLanes : Lanes :=
  let nonIdlePendingLanes := state.pendingLanes.intersect Lanes.nonIdle
  if (nonIdlePendingLanes.remove state.suspendedLanes).isNonEmpty then
    nonIdlePendingLanes.remove state.suspendedLanes
  else
    nonIdlePendingLanes.intersect state.pingedLanes

/-- Whether the microtask leaves the picked lanes to the flush. -/
def picksSync (lanes : Lanes) : Bool :=
  lanes.includesSyncLane && !state.checkIfRootIsPrerendering lanes

/-- Whether synchronous work in progress is not given up for fresh work. -/
def keepsSyncWork : Bool :=
  let next := highestPriorityLanes (state.freshLanes rootHasPendingCommit)
  wipLanes.includesSyncLane && (wipLanes.intersect state.suspendedLanes).isEmpty &&
    !next.isEmpty && (wipLanes.containsIndex 0 || !next.containsIndex 0)

variable {state wipLanes rootHasPendingCommit}

theorem candidateLanes_eq (candidates pinged : Lanes) :
    state.candidateLanes candidates pinged rootHasPendingCommit =
      highestPriorityLanes (state.candidatePool rootHasPendingCommit candidates pinged) := by
  unfold candidateLanes candidatePool
  dsimp only
  split
  · rfl
  · split
    · rfl
    · split
      · split
        · rfl
        · rename_i noneCold
          have isNo : candidates.remove state.warmLanes = no :=
            isEmpty_iff_eq_no.mp (by simpa using noneCold)
          rw [isNo, highestPriorityLanes_no]
      · rw [highestPriorityLanes_no]

/-- Whether the lanes in progress are kept when fresh ones could be rendered. -/
def keepsWorkInProgress (state : RootLaneState) (wipLanes nextLanes : Lanes) : Bool :=
  wipLanes.isNonEmpty && wipLanes != nextLanes &&
    (wipLanes.intersect state.suspendedLanes).isEmpty &&
    (decide (nextLanes.highestPriorityLane.bits.toNat ≥
        wipLanes.highestPriorityLane.bits.toNat) ||
      (nextLanes.highestPriorityLane = Lane.default &&
        wipLanes.highestPriorityLane.isTransition))

/-- The lanes of a root are those in progress, if they are kept, or fresh ones. -/
theorem getNextLanes_eq :
    state.getNextLanes wipLanes rootHasPendingCommit =
      let next := highestPriorityLanes (state.freshLanes rootHasPendingCommit)
      if next.isEmpty then no
      else if state.keepsWorkInProgress wipLanes next then wipLanes
      else next := by
  have picked : ∀ next : Lanes, (if next.isEmpty then no
        else if wipLanes.isNonEmpty && wipLanes != next &&
            (wipLanes.intersect state.suspendedLanes).isEmpty then
          if next.highestPriorityLane.bits.toNat ≥ wipLanes.highestPriorityLane.bits.toNat ||
              (next.highestPriorityLane = Lane.default &&
                wipLanes.highestPriorityLane.isTransition) then
            wipLanes
          else next
        else next) =
        if next.isEmpty then no
        else if state.keepsWorkInProgress wipLanes next then wipLanes
        else next := by
    intro next
    unfold keepsWorkInProgress
    cases next.isEmpty with
    | true => rfl
    | false =>
      cases wipLanes.isNonEmpty && wipLanes != next &&
          (wipLanes.intersect state.suspendedLanes).isEmpty with
      | true => simp
      | false => simp
  cases none : state.pendingLanes.isEmpty with
  | true =>
    have noFresh : state.freshLanes rootHasPendingCommit = no := by simp [freshLanes, none]
    have isNo : no.isEmpty = true := rfl
    simp [getNextLanes, none, noFresh, highestPriorityLanes_no, isNo]
  | false =>
    have fresh : (if (state.pendingLanes.intersect nonIdle).isNonEmpty then
        state.candidateLanes (state.pendingLanes.intersect nonIdle)
          ((state.pendingLanes.intersect nonIdle).intersect state.pingedLanes)
          rootHasPendingCommit
      else
        state.candidateLanes state.pendingLanes state.pingedLanes rootHasPendingCommit) =
        highestPriorityLanes (state.freshLanes rootHasPendingCommit) := by
      rw [candidateLanes_eq, candidateLanes_eq, ← apply_ite]
      simp only [freshLanes, none, Bool.false_eq_true, if_false]
    unfold getNextLanes
    rw [none]
    dsimp only
    rw [if_neg Bool.false_ne_true, fresh]
    exact picked _

/-- Lanes are picked as synchronous when they include such a lane and some of them are
unblocked. -/
theorem picksSync_iff {lanes : Lanes} :
    state.picksSync lanes = true ↔
      lanes.includesSyncLane = true ∧
        ∃ index, lanes.containsIndex index = true ∧
          state.pendingLanes.containsIndex index = true ∧
          (state.suspendedLanes.containsIndex index = true →
            state.pingedLanes.containsIndex index = true) := by
  unfold picksSync checkIfRootIsPrerendering
  dsimp only
  rw [Bool.and_eq_true, Bool.not_eq_true', ← Bool.not_eq_true, Lanes.isEmpty_iff]
  refine and_congr_right fun _ => ?_
  rw [not_forall]
  refine exists_congr fun index => ?_
  simp only [containsIndex_intersect, containsIndex_remove]
  cases state.suspendedLanes.containsIndex index <;>
    cases state.pingedLanes.containsIndex index <;> simp [and_comm]

variable {nextLanes : Lanes} {lanes : Lanes}

theorem picksSync_of_unblocked
    (unblocked : ∀ index, lanes.containsIndex index = true →
      state.pendingLanes.containsIndex index = true ∧
        (state.suspendedLanes.containsIndex index = true →
          state.pingedLanes.containsIndex index = true)) :
    state.picksSync (highestPriorityLanes lanes) = lanes.leadsWithSync := by
  rw [Bool.eq_iff_iff, picksSync_iff, includesSyncLane_highestPriorityLanes]
  constructor
  · exact And.left
  · intro leads
    refine ⟨leads, ?_⟩
    rw [← includesSyncLane_highestPriorityLanes, includesSyncLane_iff] at leads
    rcases leads with first | second
    · exact ⟨0, first, unblocked 0 (containsIndex_of_highestPriorityLanes first)⟩
    · exact ⟨1, second, unblocked 1 (containsIndex_of_highestPriorityLanes second)⟩

theorem picksSync_freshLanes :
    state.picksSync (highestPriorityLanes (state.freshLanes rootHasPendingCommit)) =
      state.readyLanes.leadsWithSync := by
  have synchronous_nonIdle : ∀ lanes : Lanes,
      state.picksSync (highestPriorityLanes lanes) = true →
      ∃ index, lanes.containsIndex index = true ∧
        (state.pendingLanes.intersect nonIdle).containsIndex index = true ∧
        (state.suspendedLanes.containsIndex index = true →
          state.pingedLanes.containsIndex index = true) := by
    intro lanes picks
    obtain ⟨synchronous, index, urgent, pending, unblocked⟩ := picksSync_iff.mp picks
    have nonIdle : nonIdle.containsIndex index = true := by
      rcases urgent_of_includesSyncLane synchronous urgent with rfl | rfl | rfl | rfl <;> decide
    refine ⟨index, containsIndex_of_highestPriorityLanes urgent, ?_, unblocked⟩
    rw [containsIndex_intersect, pending, nonIdle]
    rfl
  have somePending : ∀ index,
      (state.pendingLanes.intersect nonIdle).containsIndex index = true →
      state.pendingLanes.isEmpty = false ∧
        (state.pendingLanes.intersect nonIdle).isEmpty = false := by
    intro index member
    have pending : state.pendingLanes.containsIndex index = true := by
      rw [containsIndex_intersect, Bool.and_eq_true] at member
      exact member.1
    constructor
    · rw [← Bool.not_eq_true, Lanes.isEmpty_iff]
      exact fun vacant => Bool.noConfusion ((vacant index).symm.trans pending)
    · rw [← Bool.not_eq_true, Lanes.isEmpty_iff]
      exact fun vacant => Bool.noConfusion ((vacant index).symm.trans member)
  unfold readyLanes
  dsimp only
  cases unsuspended : ((state.pendingLanes.intersect nonIdle).remove
      state.suspendedLanes).isEmpty with
  | false =>
    obtain ⟨index, -, member, -⟩ := exists_first unsuspended
    rw [containsIndex_remove, Bool.and_eq_true] at member
    obtain ⟨pending, nonIdle⟩ := somePending index member.1
    have fresh : state.freshLanes rootHasPendingCommit =
        (state.pendingLanes.intersect Lanes.nonIdle).remove state.suspendedLanes := by
      simp [freshLanes, candidatePool, pending, nonIdle, unsuspended]
    rw [fresh, isNonEmpty_eq, unsuspended, if_pos (by rfl)]
    apply picksSync_of_unblocked
    intro other isFresh
    simp only [containsIndex_remove, containsIndex_intersect, Bool.and_eq_true,
      Bool.not_eq_true'] at isFresh
    refine ⟨isFresh.1.1, fun suspended => ?_⟩
    rw [isFresh.2] at suspended
    cases suspended
  | true =>
    rw [isNonEmpty_eq, unsuspended, if_neg (by simp)]
    cases pinged : ((state.pendingLanes.intersect nonIdle).intersect state.pingedLanes).isEmpty with
    | false =>
      obtain ⟨index, -, member, -⟩ := exists_first pinged
      rw [containsIndex_intersect, Bool.and_eq_true] at member
      obtain ⟨pending, nonIdle⟩ := somePending index member.1
      have fresh : state.freshLanes rootHasPendingCommit =
          (state.pendingLanes.intersect Lanes.nonIdle).intersect state.pingedLanes := by
        simp [freshLanes, candidatePool, pending, nonIdle, unsuspended, pinged]
      rw [fresh]
      apply picksSync_of_unblocked
      intro other isFresh
      simp only [containsIndex_intersect, Bool.and_eq_true] at isFresh
      exact ⟨isFresh.1.1, fun _ => isFresh.2⟩
    | true =>
      have noneReady : ∀ index,
          (state.pendingLanes.intersect nonIdle).containsIndex index = true →
          ¬ (state.suspendedLanes.containsIndex index = true →
            state.pingedLanes.containsIndex index = true) := by
        intro index member unblocked
        have suspended := isEmpty_iff.mp unsuspended index
        have notPinged := isEmpty_iff.mp pinged index
        rw [containsIndex_remove, member, Bool.true_and, Bool.not_eq_false'] at suspended
        rw [containsIndex_intersect, member, Bool.true_and, unblocked suspended] at notPinged
        cases notPinged
      rw [isEmpty_iff_eq_no.mp pinged, leadsWithSync_no, ← Bool.not_eq_true]
      intro picks
      obtain ⟨index, -, member, unblocked⟩ := synchronous_nonIdle _ picks
      exact noneReady index member unblocked

theorem picksSync_of_unsuspended (synchronous : wipLanes.includesSyncLane = true)
    (unsuspended : (wipLanes.intersect state.suspendedLanes).isEmpty = true) :
    state.picksSync wipLanes = wipLanes.containsAny state.pendingLanes := by
  rw [Bool.eq_iff_iff, picksSync_iff, containsAny_iff, and_iff_right synchronous]
  refine exists_congr fun index => and_congr_right fun member => ?_
  refine and_iff_left fun suspended => ?_
  have apart := isEmpty_iff.mp unsuspended index
  rw [containsIndex_intersect, member, suspended] at apart
  cases apart

theorem first_of_keepsWorkInProgress (nonEmpty : nextLanes.isEmpty = false)
    (keeps : state.keepsWorkInProgress wipLanes nextLanes = true) :
    ∃ first next, wipLanes.containsIndex first = true ∧
      nextLanes.containsIndex next = true ∧
      (∀ lower < next, nextLanes.containsIndex lower = false) ∧
      (first ≤ next ∨ next = 5) := by
  unfold keepsWorkInProgress at keeps
  simp only [Bool.and_eq_true, Bool.or_eq_true, decide_eq_true_eq] at keeps
  obtain ⟨⟨⟨occupied, -⟩, -⟩, further⟩ := keeps
  rw [isNonEmpty_eq, Bool.not_eq_true'] at occupied
  obtain ⟨first, isFirst, member, -⟩ := exists_first occupied
  obtain ⟨next, isNext, nextMember, noneLower⟩ := exists_first nonEmpty
  refine ⟨first, next, member, nextMember, noneLower, ?_⟩
  rw [isFirst, isNext] at further
  rcases further with behind | ⟨isDefault, -⟩
  · exact .inl (lane_le_lane_iff.mp behind)
  · right
    have same := congrArg Lane.toLanes isDefault
    have found : next.lane.toLanes.containsIndex next = true := by simp
    rw [same] at found
    simpa [Lane.default] using found

theorem first_le {first index : LaneIndex}
    (noneLower : ∀ lower < first, lanes.containsIndex lower = false)
    (member : lanes.containsIndex index = true) : first ≤ index := by
  by_contra below
  rw [noneLower index (not_le.mp below)] at member
  cases member

theorem keepsWorkInProgress_of_synchronous (synchronous : wipLanes.includesSyncLane = true)
    (unsuspended : (wipLanes.intersect state.suspendedLanes).isEmpty = true)
    (nonEmpty : nextLanes.isEmpty = false)
    (urgent : wipLanes.containsIndex 0 = true ∨ nextLanes.containsIndex 0 = false)
    (different : wipLanes ≠ nextLanes) : state.keepsWorkInProgress wipLanes nextLanes = true := by
  have occupied : wipLanes.isEmpty = false := by
    rw [← Bool.not_eq_true, Lanes.isEmpty_iff]
    intro vacant
    rcases includesSyncLane_iff.mp synchronous with own | own <;>
      exact Bool.noConfusion ((vacant _).symm.trans own)
  obtain ⟨first, isFirst, member, noneLower⟩ := exists_first occupied
  obtain ⟨next, isNext, nextMember, -⟩ := exists_first nonEmpty
  have ahead : first ≤ next := by
    rcases urgent with hydrates | noHydration
    · exact (first_le noneLower hydrates).trans (Fin.zero_le next)
    · have later : (1 : LaneIndex) ≤ next := by
        rw [Fin.le_def, Fin.val_one]
        refine Nat.one_le_iff_ne_zero.mpr fun zero => ?_
        have isZero : next = 0 := Fin.ext zero
        rw [isZero, noHydration] at nextMember
        cases nextMember
      rcases includesSyncLane_iff.mp synchronous with own | own
      · exact (first_le noneLower own).trans (Fin.zero_le next)
      · exact (first_le noneLower own).trans later
  unfold keepsWorkInProgress
  simp only [isNonEmpty_eq, occupied, unsuspended, bne_iff_ne.mpr different, isFirst, isNext,
    ge_iff_le, lane_le_lane_iff.mpr ahead, decide_true]
  rfl

theorem not_includesSyncLane_of_keepsWorkInProgress (nonEmpty : nextLanes.isEmpty = false)
    (keeps : state.keepsWorkInProgress wipLanes nextLanes = true)
    (givesUp : wipLanes.includesSyncLane = true →
      wipLanes.containsIndex 0 = false ∧ nextLanes.containsIndex 0 = true) :
    wipLanes.includesSyncLane = false ∧ nextLanes.includesSyncLane = false := by
  obtain ⟨first, next, member, nextMember, noneLower, ahead⟩ :=
    first_of_keepsWorkInProgress nonEmpty keeps
  have before : ∀ index : LaneIndex, index < 5 → nextLanes.containsIndex index = true →
      first ≤ index := by
    intro index early isNext
    rcases ahead with le | isDefault
    · exact le.trans (first_le noneLower isNext)
    · rw [isDefault] at noneLower
      exact absurd (first_le noneLower isNext) (not_le.mpr early)
  have notSync : wipLanes.includesSyncLane = false := by
    rw [← Bool.not_eq_true]
    intro synchronous
    obtain ⟨noHydration, hydrates⟩ := givesUp synchronous
    have isZero : first = 0 := Fin.le_zero_iff.mp (before 0 (by decide) hydrates)
    rw [isZero, noHydration] at member
    cases member
  refine ⟨notSync, ?_⟩
  rw [← Bool.not_eq_true, includesSyncLane_iff] at notSync ⊢
  rintro (hydrates | sync)
  · have isZero : first = 0 := Fin.le_zero_iff.mp (before 0 (by decide) hydrates)
    exact notSync (.inl (isZero ▸ member))
  · have early : first ≤ 1 := before 1 (by decide) sync
    rcases Fin.le_iff_val_le_val.mp early |> Nat.le_one_iff_eq_zero_or_eq_one.mp with
      zero | one
    · have isZero : first = 0 := Fin.ext zero
      exact notSync (.inl (isZero ▸ member))
    · have isOne : first = 1 := Fin.ext one
      exact notSync (.inr (isOne ▸ member))

/-- Whether the lanes of a root are synchronous: kept work has to be pending still, and
fresh work has to be ready. -/
theorem picksSync_getNextLanes :
    state.picksSync (state.getNextLanes wipLanes rootHasPendingCommit) =
      if state.keepsSyncWork wipLanes rootHasPendingCommit then
        wipLanes.containsAny state.pendingLanes
      else state.readyLanes.leadsWithSync := by
  rw [getNextLanes_eq, ← @picksSync_freshLanes state rootHasPendingCommit]
  unfold keepsSyncWork
  dsimp only
  generalize highestPriorityLanes (state.freshLanes rootHasPendingCommit) = next
  by_cases empty : next.isEmpty = true
  · have isNo : next = no := isEmpty_iff_eq_no.mp empty
    subst isNo
    simp [empty]
  · have nonEmpty : next.isEmpty = false := by simpa using empty
    rw [if_neg empty]
    by_cases keepsSync : wipLanes.includesSyncLane = true ∧
        (wipLanes.intersect state.suspendedLanes).isEmpty = true ∧
        (wipLanes.containsIndex 0 = true ∨ next.containsIndex 0 = false)
    · obtain ⟨synchronous, unsuspended, urgent⟩ := keepsSync
      have chosen : (if state.keepsWorkInProgress wipLanes next then wipLanes else next) =
          wipLanes := by
        by_cases same : wipLanes = next
        · rw [same, ite_self]
        · rw [if_pos (keepsWorkInProgress_of_synchronous synchronous unsuspended nonEmpty
            urgent same)]
      rw [chosen, picksSync_of_unsuspended synchronous unsuspended, if_pos]
      simpa [synchronous, unsuspended, nonEmpty] using urgent
    · have freshNow : ¬ (wipLanes.includesSyncLane &&
          (wipLanes.intersect state.suspendedLanes).isEmpty && !next.isEmpty &&
          (wipLanes.containsIndex 0 || !next.containsIndex 0)) = true := by
        simpa [nonEmpty, and_assoc] using keepsSync
      rw [if_neg freshNow]
      split
      · rename_i keeps
        have unsuspended : (wipLanes.intersect state.suspendedLanes).isEmpty = true := by
          unfold keepsWorkInProgress at keeps
          simp only [Bool.and_eq_true] at keeps
          exact keeps.1.2
        obtain ⟨wipNotSync, nextNotSync⟩ :=
          not_includesSyncLane_of_keepsWorkInProgress nonEmpty keeps fun synchronous => by
            simpa [synchronous, unsuspended] using keepsSync
        rw [picksSync, picksSync, wipNotSync, nextNotSync]
        rfl
      · rfl

end RootLaneState

theorem containsIndex_sync_highestPriorityLanes {lanes : Lanes} :
    (highestPriorityLanes lanes).containsIndex 1 = true ↔ lanes.containsIndex 1 = true := by
  constructor
  · exact containsIndex_of_highestPriorityLanes
  · intro member
    have isUpdate : syncUpdate.containsIndex 1 = true := by decide
    have merged : (lanes.intersect syncUpdate).isEmpty = false := by
      rw [← Bool.not_eq_true, Lanes.isEmpty_iff]
      intro vacant
      have absent := vacant 1
      rw [containsIndex_intersect, member, isUpdate] at absent
      cases absent
    rw [highestPriorityLanes_of_syncUpdate merged, containsIndex_intersect, member, isUpdate]
    rfl

namespace FiberRoot

variable (root : FiberRoot)

def lanesInProgress : Lanes :=
  if root.scheduling.workInProgress.isSome then
    root.scheduling.workInProgressRootRenderLanes
  else Lanes.no

/-- A most urgent pending lane is entangled with the lane at a position. -/
def EntanglesUrgently (index : LaneIndex) : Prop :=
  ∃ row, root.lanes.highestPriorityPendingLanes.containsIndex row = true ∧
    root.lanes.entangledLanes.containsIndex row = true ∧
    (root.lanes.entanglements row).containsIndex index = true

/-- The pending lanes lead with a synchronous lane, or entangle one. -/
def HasSyncWork : Prop :=
  root.lanes.pendingLanes.leadsWithSync = true ∨
    root.EntanglesUrgently 0 ∨ root.EntanglesUrgently 1

/-- Synchronous work in progress is kept. -/
def KeepsSyncWork : Prop :=
  root.lanes.keepsSyncWork root.lanesInProgress root.hasPendingCommit = true

/-- When the flush and the microtask agree on the synchronous work of a root. -/
structure SyncWorkAgrees : Prop where
  /-- Kept work in progress is pending still when the pending lanes have such work. -/
  kept : root.KeepsSyncWork →
    (root.lanesInProgress.containsAny root.lanes.pendingLanes = true ↔ root.HasSyncWork)
  /-- The pending lanes that lead are not held back. -/
  ready : ¬ root.KeepsSyncWork → root.HasSyncWork →
    root.lanes.readyLanes.leadsWithSync = true
  /-- The ready lanes that lead are not behind others that are held back. -/
  uncovered : ¬ root.KeepsSyncWork → root.lanes.readyLanes.leadsWithSync = true →
    root.HasSyncWork
  /-- A sync lane that is held back is neither pending nor entangled. -/
  sync : root.lanes.suspendedLanes.containsIndex 1 = true →
    root.lanes.pingedLanes.containsIndex 1 = false →
    root.lanes.pendingLanes.containsIndex 1 = false ∧ ¬ root.EntanglesUrgently 1

variable {root}

theorem containsIndex_nextLanes {index : LaneIndex} :
    root.nextLanes.containsIndex index = true ↔
      root.lanes.highestPriorityPendingLanes.containsIndex index = true ∨
        root.EntanglesUrgently index :=
  containsIndex_entangledLanesFor ..

theorem containsIndex_syncFlushLanes {index : LaneIndex} :
    root.syncFlushLanes.containsIndex index = true ↔
      root.nextLanes.containsIndex index = true ∧ (index = 0 ∨ index = 1) := by
  have masked : root.syncFlushLanes =
      root.nextLanes.intersect (Lane.syncHydration.toLanes.merge Lane.sync.toLanes) :=
    rfl
  rw [masked]
  simp [Lane.syncHydration, Lane.sync]

theorem isNonEmpty_syncFlushLanes : root.syncFlushLanes.isNonEmpty = true ↔ root.HasSyncWork := by
  rw [isNonEmpty_eq, Bool.not_eq_true', ← Bool.not_eq_true, Lanes.isEmpty_iff]
  have found : (¬ ∀ index, root.syncFlushLanes.containsIndex index = false) ↔
      root.nextLanes.containsIndex 0 = true ∨ root.nextLanes.containsIndex 1 = true := by
    simp only [← Bool.not_eq_true, not_forall, not_not, containsIndex_syncFlushLanes]
    constructor
    · rintro ⟨index, member, rfl | rfl⟩
      · exact .inl member
      · exact .inr member
    · rintro (member | member)
      · exact ⟨0, member, .inl rfl⟩
      · exact ⟨1, member, .inr rfl⟩
  rw [found, containsIndex_nextLanes, containsIndex_nextLanes, HasSyncWork,
    ← includesSyncLane_highestPriorityLanes, includesSyncLane_iff]
  exact or_or_or_comm

theorem containsLane_sync_syncFlushLanes :
    root.syncFlushLanes.containsLane Lane.sync = false ↔
      root.lanes.pendingLanes.containsIndex 1 = false ∧ ¬ root.EntanglesUrgently 1 := by
  have asSet : root.syncFlushLanes.containsLane Lane.sync =
      root.syncFlushLanes.containsAny (lane 1).toLanes :=
    rfl
  have member : root.syncFlushLanes.containsLane Lane.sync = true ↔
      root.syncFlushLanes.containsIndex 1 = true := by
    rw [asSet, containsAny_iff]
    simp
  rw [← Bool.not_eq_true, member, containsIndex_syncFlushLanes, containsIndex_nextLanes,
    highestPriorityPendingLanes, containsIndex_sync_highestPriorityLanes]
  simp

theorem selectLanes_eq :
    root.selectLanes =
      let next := root.lanes.getNextLanes root.lanesInProgress root.hasPendingCommit
      if next.isEmpty then .noWork else ⟨next, root.lanes.entangledLanesFor next⟩ :=
  rfl

/-- The microtask leaves a root to the flush when it picks synchronous lanes for it. -/
theorem leftToFlush_iff :
    (root.selectLanes.renderLanes.isEmpty = false ∧
      root.lanes.picksSync root.selectLanes.priorityLanes = true) ↔
      root.lanes.picksSync
        (root.lanes.getNextLanes root.lanesInProgress root.hasPendingCommit) = true := by
  rw [selectLanes_eq]
  generalize root.lanes.getNextLanes root.lanesInProgress root.hasPendingCommit = next
  dsimp only
  cases empty : next.isEmpty with
  | true =>
    have isNo : next = no := isEmpty_iff_eq_no.mp empty
    have noneEmpty : no.isEmpty = true := rfl
    simp [RootLaneSelection.noWork, isNo, noneEmpty, picksSync_iff]
  | false =>
    obtain ⟨index, -, member, -⟩ := exists_first empty
    have rendered : (root.lanes.entangledLanesFor next).isEmpty = false := by
      rw [← Bool.not_eq_true, Lanes.isEmpty_iff]
      intro vacant
      have entangled := (root.lanes.containsIndex_entangledLanesFor next index).mpr (.inl member)
      exact Bool.noConfusion ((vacant index).symm.trans entangled)
    simp [rendered]

/-- The lane sets agree exactly under these conditions. -/
theorem syncWorkAgrees_iff :
    (((root.HasSyncWork ↔
        root.lanes.picksSync
          (root.lanes.getNextLanes root.lanesInProgress root.hasPendingCommit) = true) ∧
      (root.lanes.suspendedLanes.containsIndex 1 = true →
        root.lanes.pingedLanes.containsIndex 1 = false →
        root.syncFlushLanes.containsLane Lane.sync = false)) ↔
      root.SyncWorkAgrees) := by
  rw [picksSync_getNextLanes, containsLane_sync_syncFlushLanes]
  by_cases keeps : root.KeepsSyncWork
  · have kept : root.lanes.keepsSyncWork root.lanesInProgress root.hasPendingCommit = true :=
      keeps
    rw [if_pos kept]
    constructor
    · rintro ⟨agree, sync⟩
      exact ⟨fun _ => agree.symm, fun gives => absurd keeps gives,
        fun gives => absurd keeps gives, sync⟩
    · intro agrees
      exact ⟨(agrees.kept keeps).symm, agrees.sync⟩
  · have fresh : ¬ root.lanes.keepsSyncWork root.lanesInProgress root.hasPendingCommit = true :=
      keeps
    rw [if_neg fresh]
    constructor
    · rintro ⟨agree, sync⟩
      exact ⟨fun keeping => absurd keeping keeps, fun _ => agree.mp, fun _ => agree.mpr, sync⟩
    · intro agrees
      exact ⟨⟨agrees.ready keeps, agrees.uncovered keeps⟩, agrees.sync⟩

end FiberRoot

variable {store : FiberRootStore} {rootId : FiberRootId} {root : FiberRoot}

theorem run_modifyRoot_afterRequest (found : store.roots.get? rootId = some root)
    (bridge : SchedulerBridge) (wrap : FiberRootStoreError → RootSchedulerError)
    (change : FiberRoot → FiberRoot) :
    (modifyRoot wrap rootId change).run { store with schedulerBridge := bridge } =
      .ok ()
        { store with
          schedulerBridge := bridge
          roots := store.roots.modify rootId change } :=
  @run_modifyRoot _ { store with schedulerBridge := bridge } rootId root found wrap change

theorem run_replaceCallback (live : store.root rootId = .ok root)
    (existing node : RootSchedulerCallbackHandle) (priority : RootCallbackPriority) :
    ∃ after, (replaceCallback rootId existing node priority).run store = .ok () after := by
  have found := root_eq_ok_iff.mp live
  unfold replaceCallback modifyBridge
  rw [run_bind, run_modify]
  dsimp only
  rw [run_modifyRoot_afterRequest found]
  exact ⟨_, rfl⟩

theorem run_scheduleTaskForRootDuringMicrotask (live : store.root rootId = .ok root) :
    ∃ record after,
      (scheduleTaskForRootDuringMicrotask rootId).run store = .ok record after ∧
      (record.outcome = .sync ↔
        root.selectLanes.renderLanes.isEmpty = false ∧
          root.lanes.picksSync root.selectLanes.priorityLanes = true) := by
  have found := root_eq_ok_iff.mp live
  have selected : store.selectLanesForScheduledTask rootId = .ok root.selectLanes := by
    simp [selectLanesForScheduledTask, live, Except.mapError, bind, Except.bind, pure, Except.pure]
  unfold scheduleTaskForRootDuringMicrotask
  simp only [run_bind, run_query, selected, run_getRoot found]
  cases empty : root.selectLanes.renderLanes.isEmpty with
  | true =>
    obtain ⟨after, ran⟩ := run_replaceCallback live root.scheduling.callbackNode .none .no
    simp only [if_true, run_bind, ran]
    exact ⟨_, after, rfl, by simp⟩
  | false =>
    simp only [Bool.false_eq_true, if_false, true_and]
    by_cases picks : root.lanes.picksSync root.selectLanes.priorityLanes = true
    · obtain ⟨after, ran⟩ :=
        run_replaceCallback live root.scheduling.callbackNode .none ⟨Lane.sync⟩
      have leaves : (root.selectLanes.priorityLanes.includesSyncLane &&
          !root.lanes.checkIfRootIsPrerendering root.selectLanes.priorityLanes) = true :=
        picks
      rw [if_pos leaves, run_bind, ran]
      exact ⟨_, after, rfl, iff_of_true rfl picks⟩
    · have takes : ¬ (root.selectLanes.priorityLanes.includesSyncLane &&
          !root.lanes.checkIfRootIsPrerendering root.selectLanes.priorityLanes) = true :=
        picks
      rw [if_neg takes]
      simp only [run_bind, run_get]
      split
      · exact ⟨_, _, rfl, iff_of_false (by simp) picks⟩
      · simp only [modifyBridge, run_bind, run_modify]
        split
        · simp only [run_bind, run_modify, run_pure]
          rw [run_modifyRoot_afterRequest found]
          exact ⟨_, _, rfl, iff_of_false (by simp) picks⟩
        · simp only [run_bind, run_modifyGet]
          rw [run_modifyRoot_afterRequest found]
          exact ⟨_, _, rfl, iff_of_false (by simp) picks⟩

/-- The flush and the microtask agree on the synchronous work of a root, and the flush
leaves a sync lane that is held back alone, exactly under these conditions. -/
theorem flush_agrees_with_microtask_iff
    {store : FiberRootStore}
    {rootId : FiberRootId}
    {root : FiberRoot}
    (live : store.root rootId = .ok root) :
    ∃ record after flushLanes,
      (scheduleTaskForRootDuringMicrotask rootId).run store = .ok record after ∧
      store.syncFlushLanesForRoot rootId = .ok flushLanes ∧
      (((flushLanes.isNonEmpty = true ↔ record.outcome = .sync) ∧
        (root.lanes.suspendedLanes.containsIndex 1 = true →
          root.lanes.pingedLanes.containsIndex 1 = false →
          flushLanes.containsLane Lane.sync = false)) ↔
        root.SyncWorkAgrees) := by
  obtain ⟨record, after, ran, outcome⟩ := run_scheduleTaskForRootDuringMicrotask live
  refine ⟨record, after, root.syncFlushLanes, ran, ?_, ?_⟩
  · simp [FiberRootStore.syncFlushLanesForRoot, live, Except.mapError, bind, Except.bind,
      pure, Except.pure]
  · rw [FiberRoot.isNonEmpty_syncFlushLanes, outcome, FiberRoot.leftToFlush_iff]
    exact FiberRoot.syncWorkAgrees_iff

/-- A new root whose sync lane is suspended after an update. -/
def suspendSyncUpdate : RootSchedulerM Unit := do
  let rootId ← mapError .fiberRootStore (createClientRoot .none .concurrent)
  modifyRoot .fiberRootStore rootId fun root =>
    { root with lanes := root.lanes.markUpdated Lane.sync }
  let root ← getRoot .fiberRootStore rootId
  let _ ← ensureRootIsScheduled ⟨rootId, root.current, Lane.sync⟩
  modifyRoot .fiberRootStore rootId fun root =>
    { root with lanes := root.lanes.markSuspended Lanes.sync Lane.no false }

def suspendedSyncStore : FiberRootStore :=
  stateAfter (suspendSyncUpdate.run FiberRootStore.new)

/-- A sync lane that is suspended and not pinged is flushed, while the microtask asks for
a callback. -/
theorem suspended_sync_is_flushed :
    ∃ root record after,
      suspendedSyncStore.root ⟨0, 0⟩ = .ok root ∧
      root.lanes.suspendedLanes.containsIndex 1 = true ∧
      root.lanes.pingedLanes.containsIndex 1 = false ∧
      (scheduleTaskForRootDuringMicrotask ⟨0, 0⟩).run suspendedSyncStore = .ok record after ∧
      suspendedSyncStore.syncFlushLanesForRoot ⟨0, 0⟩ = .ok Lanes.sync ∧
      ¬ (Lanes.sync.isNonEmpty = true ↔ record.outcome = .sync) ∧
      Lanes.sync.containsLane Lane.sync = true := by
  refine ⟨_, _, _, rfl, by decide, by decide, rfl, by decide, ?_, by decide⟩
  decide

/-- The exact condition decides the sample root. -/
theorem flush_agrees_with_microtask_iff_sample :
    ∃ root, suspendedSyncStore.root ⟨0, 0⟩ = .ok root ∧
      ∃ record after flushLanes,
        (scheduleTaskForRootDuringMicrotask ⟨0, 0⟩).run suspendedSyncStore = .ok record after ∧
        suspendedSyncStore.syncFlushLanesForRoot ⟨0, 0⟩ = .ok flushLanes ∧
        (((flushLanes.isNonEmpty = true ↔ record.outcome = .sync) ∧
          (root.lanes.suspendedLanes.containsIndex 1 = true →
            root.lanes.pingedLanes.containsIndex 1 = false →
            flushLanes.containsLane Lane.sync = false)) ↔
          root.SyncWorkAgrees) :=
  ⟨_, rfl, flush_agrees_with_microtask_iff rfl⟩

end FastReact
