import FastReact.Lane

namespace FastReact

open Lanes List

/-!
# Lane bookkeeping of a root

A root keeps the set of pending lanes, the subsets of them that are suspended,
pinged, warm, expired or entangled, and one row of each lane map for every lane.
-/

abbrev LaneMap (α : Type) := LaneIndex → α

def LaneMap.set {α : Type} (map : LaneMap α) (index : LaneIndex) (value : α) : LaneMap α :=
  fun other => if other = index then value else map other

abbrev LaneTimestamp := Int

def noTimestamp : LaneTimestamp := -1
def syncLaneExpirationMs : LaneTimestamp := 250
def transitionLaneExpirationMs : LaneTimestamp := 5000
def retryLaneExpirationMs : LaneTimestamp := 5000

/-- The largest `usize` of a 64-bit target. -/
def usizeMax : Nat := 2 ^ 64 - 1

structure RootLaneFeatureFlags where
  defaultTransitionIndicator : Bool
  retryLaneExpiration : Bool
deriving DecidableEq

def RootLaneFeatureFlags.new : RootLaneFeatureFlags where
  defaultTransitionIndicator := false
  retryLaneExpiration := false

/-- What a commit reports about its lanes. -/
structure RootFinishedLanes where
  finishedLanes : Lanes
  remainingLanes : Lanes
  spawnedLane : Lane
  updatedLanes : Lanes
  suspendedRetryLanes : Lanes

def RootFinishedLanes.new (finishedLanes remainingLanes : Lanes) : RootFinishedLanes where
  finishedLanes := finishedLanes
  remainingLanes := remainingLanes
  spawnedLane := Lane.no
  updatedLanes := Lanes.no
  suspendedRetryLanes := Lanes.no

structure RootLaneState where
  features : RootLaneFeatureFlags
  pendingLanes : Lanes
  suspendedLanes : Lanes
  pingedLanes : Lanes
  warmLanes : Lanes
  expiredLanes : Lanes
  indicatorLanes : Lanes
  errorRecoveryDisabledLanes : Lanes
  entangledLanes : Lanes
  expirationTimes : LaneMap LaneTimestamp
  entanglements : LaneMap Lanes
  hiddenUpdateCounts : LaneMap Nat

namespace Lanes

/-- The positions of a set, the highest priority first. -/
def indices (lanes : Lanes) : List LaneIndex :=
  (List.finRange totalLanes).filter lanes.containsIndex

/-- Visit the lanes of a set, the highest priority first. -/
def forEachLane {State : Type} (lanes : Lanes) (visit : State → LaneIndex → State)
    (state : State) : State :=
  lanes.indices.foldl visit state

end Lanes

/-- The lanes of the most urgent group of a set. -/
def highestPriorityLanes (lanes : Lanes) : Lanes :=
  let pendingSyncLanes := lanes.intersect Lanes.syncUpdate
  if pendingSyncLanes.isNonEmpty then
    pendingSyncLanes
  else
    match lanes.highestPriorityLane.toIndex with
    | none => lanes
    | some index =>
        let position := index.val
        if 8 ≤ position ∧ position ≤ 17 then
          lanes.intersect Lanes.transitionUpdate
        else if 18 ≤ position ∧ position ≤ 21 then
          lanes.intersect Lanes.transitionDeferred
        else if 22 ≤ position ∧ position ≤ 25 then
          lanes.intersect Lanes.retry
        else if position = 30 then
          Lanes.no
        else
          index.lane.toLanes

def computeExpirationTime (index : LaneIndex) (currentTime : LaneTimestamp)
    (features : RootLaneFeatureFlags) : LaneTimestamp :=
  let position := index.val
  if position ≤ 3 ∨ position = 6 then
    currentTime + syncLaneExpirationMs
  else if position ≤ 21 then
    currentTime + transitionLaneExpirationMs
  else if position ≤ 25 then
    if features.retryLaneExpiration then currentTime + retryLaneExpirationMs
    else noTimestamp
  else
    noTimestamp

namespace RootLaneState

def new : RootLaneState where
  features := RootLaneFeatureFlags.new
  pendingLanes := Lanes.no
  suspendedLanes := Lanes.no
  pingedLanes := Lanes.no
  warmLanes := Lanes.no
  expiredLanes := Lanes.no
  indicatorLanes := Lanes.no
  errorRecoveryDisabledLanes := Lanes.no
  entangledLanes := Lanes.no
  expirationTimes := fun _ => noTimestamp
  entanglements := fun _ => Lanes.no
  hiddenUpdateCounts := fun _ => 0

def withFeatures (features : RootLaneFeatureFlags) : RootLaneState :=
  { new with features := features }

variable (state : RootLaneState)

def markUpdated (updateLane : Lane) : RootLaneState :=
  let state := { state with pendingLanes := state.pendingLanes.mergeLane updateLane }
  let state :=
    if state.features.defaultTransitionIndicator then
      { state with
        indicatorLanes := state.indicatorLanes.merge
          (updateLane.toLanes.intersect Lanes.transition) }
    else state
  if updateLane ≠ Lane.idle then
    { state with
      suspendedLanes := Lanes.no
      pingedLanes := Lanes.no
      warmLanes := Lanes.no }
  else state

def markSpawnedDeferredLane (spawnedLane : Lane) (entangledLanes : Lanes) : RootLaneState :=
  match spawnedLane.toIndex with
  | none => state
  | some index =>
      { state with
        pendingLanes := state.pendingLanes.mergeLane spawnedLane
        suspendedLanes := state.suspendedLanes.removeLane spawnedLane
        entangledLanes := state.entangledLanes.mergeLane spawnedLane
        entanglements := LaneMap.set state.entanglements index
          (((state.entanglements index).mergeLane Lane.deferred).merge
            (entangledLanes.intersect Lanes.update)) }

def markSuspended (suspendedLanes : Lanes) (spawnedLane : Lane)
    (didAttemptEntireTree : Bool) : RootLaneState :=
  let state :=
    { state with
      suspendedLanes := state.suspendedLanes.merge suspendedLanes
      pingedLanes := state.pingedLanes.remove suspendedLanes
      warmLanes :=
        if didAttemptEntireTree then state.warmLanes.merge suspendedLanes
        else state.warmLanes
      expirationTimes := suspendedLanes.forEachLane
        (fun times index => LaneMap.set times index noTimestamp) state.expirationTimes }
  if spawnedLane.isNonEmpty then
    state.markSpawnedDeferredLane spawnedLane suspendedLanes
  else state

def markPinged (pingedLanes : Lanes) : RootLaneState :=
  { state with
    pingedLanes := state.pingedLanes.merge (state.suspendedLanes.intersect pingedLanes)
    warmLanes := state.warmLanes.remove pingedLanes }

def markFinished (finished : RootFinishedLanes) : RootLaneState :=
  let previouslyPendingLanes := state.pendingLanes
  let noLongerPendingLanes := previouslyPendingLanes.remove finished.remainingLanes
  let state :=
    { state with
      pendingLanes := finished.remainingLanes
      suspendedLanes := Lanes.no
      pingedLanes := Lanes.no
      warmLanes := Lanes.no
      indicatorLanes :=
        if state.features.defaultTransitionIndicator then
          state.indicatorLanes.intersect finished.remainingLanes
        else state.indicatorLanes
      expiredLanes := state.expiredLanes.intersect finished.remainingLanes
      entangledLanes := state.entangledLanes.intersect finished.remainingLanes
      errorRecoveryDisabledLanes :=
        state.errorRecoveryDisabledLanes.intersect finished.remainingLanes
      entanglements := noLongerPendingLanes.forEachLane
        (fun rows index => LaneMap.set rows index Lanes.no) state.entanglements
      expirationTimes := noLongerPendingLanes.forEachLane
        (fun times index => LaneMap.set times index noTimestamp) state.expirationTimes
      hiddenUpdateCounts := noLongerPendingLanes.forEachLane
        (fun counts index => LaneMap.set counts index 0) state.hiddenUpdateCounts }
  let state :=
    if finished.spawnedLane.isNonEmpty then
      state.markSpawnedDeferredLane finished.spawnedLane Lanes.no
    else state
  if finished.suspendedRetryLanes.isNonEmpty && finished.updatedLanes.isEmpty then
    let alreadyPendingRetryLanes := previouslyPendingLanes.remove finished.finishedLanes
    { state with
      suspendedLanes := state.suspendedLanes.merge
        (finished.suspendedRetryLanes.remove alreadyPendingRetryLanes) }
  else state

def markEntangled (entangledLanes : Lanes) : RootLaneState :=
  let rootEntangledLanes := state.entangledLanes.merge entangledLanes
  { state with
    entangledLanes := rootEntangledLanes
    entanglements := rootEntangledLanes.forEachLane
      (fun rows index =>
        if index.lane.toLanes.containsAny entangledLanes ||
            (rows index).containsAny entangledLanes then
          LaneMap.set rows index ((rows index).merge entangledLanes)
        else rows)
      state.entanglements }

def upgradePendingLanesToSync (lanesToUpgrade : Lanes) : RootLaneState :=
  { state with
    pendingLanes := state.pendingLanes.mergeLane Lane.sync
    entangledLanes := state.entangledLanes.mergeLane Lane.sync
    entanglements := lanesToUpgrade.forEachLane
      (fun rows index => LaneMap.set rows 1 ((rows 1).mergeLane index.lane))
      state.entanglements }

def markStarvedLanesAsExpired (currentTime : LaneTimestamp) : RootLaneState :=
  let lanesToCheck :=
    if state.features.retryLaneExpiration then state.pendingLanes
    else state.pendingLanes.remove Lanes.retry
  lanesToCheck.forEachLane
    (fun marked index =>
      let expirationTime := marked.expirationTimes index
      if expirationTime = noTimestamp then
        if !state.suspendedLanes.containsIndex index ||
            state.pingedLanes.containsIndex index then
          { marked with
            expirationTimes := LaneMap.set marked.expirationTimes index
              (computeExpirationTime index currentTime state.features) }
        else marked
      else if expirationTime ≤ currentTime then
        { marked with expiredLanes := marked.expiredLanes.mergeLane index.lane }
      else marked)
    state

def markExpired (lanes : Lanes) : RootLaneState :=
  { state with expiredLanes := state.expiredLanes.merge lanes }

def markErrorRecoveryDisabled (lanes : Lanes) : RootLaneState :=
  { state with
    errorRecoveryDisabledLanes := state.errorRecoveryDisabledLanes.merge lanes }

def markHiddenUpdate (lane : Lane) : Option Lanes × RootLaneState :=
  match lane.toIndex with
  | none => (none, state)
  | some index =>
      (some (lane.toLanes.mergeLane Lane.offscreen),
        { state with
          hiddenUpdateCounts := LaneMap.set state.hiddenUpdateCounts index
            (min (state.hiddenUpdateCounts index + 1) usizeMax) })

def clearHiddenUpdatesForLanes (lanes : Lanes) : RootLaneState :=
  { state with
    hiddenUpdateCounts := lanes.forEachLane
      (fun counts index => LaneMap.set counts index 0) state.hiddenUpdateCounts }

def highestPriorityPendingLanes : Lanes :=
  highestPriorityLanes state.pendingLanes

/-- The lanes among the candidates of which some are unblocked, pinged or, unless a
commit is pending, not yet warm. -/
def candidateLanes (candidates pinged : Lanes) (rootHasPendingCommit : Bool) : Lanes :=
  let unblockedLanes := candidates.remove state.suspendedLanes
  if unblockedLanes.isNonEmpty then
    highestPriorityLanes unblockedLanes
  else if pinged.isNonEmpty then
    highestPriorityLanes pinged
  else if !rootHasPendingCommit then
    let lanesToPrewarm := candidates.remove state.warmLanes
    if lanesToPrewarm.isNonEmpty then highestPriorityLanes lanesToPrewarm else Lanes.no
  else
    Lanes.no

def getNextLanes (wipLanes : Lanes) (rootHasPendingCommit : Bool) : Lanes :=
  if state.pendingLanes.isEmpty then
    Lanes.no
  else
    let nonIdlePendingLanes := state.pendingLanes.intersect Lanes.nonIdle
    let nextLanes :=
      if nonIdlePendingLanes.isNonEmpty then
        state.candidateLanes nonIdlePendingLanes
          (nonIdlePendingLanes.intersect state.pingedLanes) rootHasPendingCommit
      else
        state.candidateLanes state.pendingLanes state.pingedLanes rootHasPendingCommit
    if nextLanes.isEmpty then
      Lanes.no
    else if wipLanes.isNonEmpty && wipLanes != nextLanes &&
        (wipLanes.intersect state.suspendedLanes).isEmpty then
      let nextLane := nextLanes.highestPriorityLane
      let wipLane := wipLanes.highestPriorityLane
      if nextLane.bits.toNat ≥ wipLane.bits.toNat ||
          (nextLane = Lane.default && wipLane.isTransition) then
        wipLanes
      else
        nextLanes
    else
      nextLanes

def checkIfRootIsPrerendering (renderLanes : Lanes) : Bool :=
  let suspendedButNotPinged := state.suspendedLanes.remove state.pingedLanes
  let unblockedLanes := state.pendingLanes.remove suspendedButNotPinged
  (unblockedLanes.intersect renderLanes).isEmpty

/-- A set of lanes with the rows of its entangled members. -/
def entangledLanesFor (renderLanes : Lanes) : Lanes :=
  let entangledLanes :=
    if renderLanes.containsLane Lane.inputContinuous then
      renderLanes.merge (renderLanes.intersect Lanes.default)
    else renderLanes
  if state.entangledLanes.isNonEmpty then
    (entangledLanes.intersect state.entangledLanes).forEachLane
      (fun lanes index => lanes.merge (state.entanglements index)) entangledLanes
  else entangledLanes

end RootLaneState

section Loops

variable {α State : Type}

@[simp] theorem LaneMap.set_apply (map : LaneMap α) (index other : LaneIndex) (value : α) :
    LaneMap.set map index value other = if other = index then value else map other :=
  rfl

theorem LaneMap.set_self (map : LaneMap α) (index : LaneIndex) :
    LaneMap.set map index (map index) = map := by
  funext other
  by_cases same : other = index <;> simp [same]

namespace Lanes

@[simp] theorem mem_indices {lanes : Lanes} {index : LaneIndex} :
    index ∈ lanes.indices ↔ lanes.containsIndex index = true := by
  simp [indices]

theorem nodup_indices (lanes : Lanes) : lanes.indices.Nodup :=
  (nodup_finRange _).filter _

theorem forEachLane_invariant {visit : State → LaneIndex → State} {property : State → Prop}
    {lanes : Lanes} {state : State} (initially : property state)
    (preserved : ∀ state index,
      property state → lanes.containsIndex index = true → property (visit state index)) :
    property (lanes.forEachLane visit state) :=
  List.foldlRecOn lanes.indices visit initially fun state holds index member =>
    preserved state index holds (mem_indices.mp member)

theorem forEachLane_rows {visit : LaneMap α → LaneIndex → LaneMap α} {change : LaneIndex → α → α}
    (visits : ∀ rows index, visit rows index = LaneMap.set rows index (change index (rows index)))
    (lanes : Lanes) (rows : LaneMap α) (index : LaneIndex) :
    lanes.forEachLane visit rows index =
      if lanes.containsIndex index = true then change index (rows index) else rows index := by
  have overList : ∀ (visited : List LaneIndex) (rows : LaneMap α),
      visited.Nodup →
      visited.foldl visit rows index =
        if index ∈ visited then change index (rows index) else rows index := by
    intro visited
    induction visited with
    | nil =>
      intro rows _
      simp
    | cons head rest ih =>
      intro rows noDuplicates
      obtain ⟨headNotLater, restNodup⟩ := nodup_cons.mp noDuplicates
      rw [foldl_cons, ih _ restNodup, visits]
      by_cases isHead : index = head
      · subst isHead
        simp [headNotLater]
      · simp [isHead]
  rw [forEachLane, overList _ _ lanes.nodup_indices]
  simp only [mem_indices]

@[simp] theorem forEachLane_set (lanes : Lanes) (rows : LaneMap α) (value : α) (index : LaneIndex) :
    lanes.forEachLane (fun rows index => LaneMap.set rows index value) rows index =
      if lanes.containsIndex index = true then value else rows index :=
  @forEachLane_rows α _ (fun _ _ => value) (fun _ _ => rfl) lanes rows index

end Lanes

end Loops

namespace RootLaneState

variable (state : RootLaneState) (updateLane : Lane)

@[simp] theorem pendingLanes_markUpdated :
    (state.markUpdated updateLane).pendingLanes = state.pendingLanes.merge updateLane.toLanes := by
  unfold markUpdated
  dsimp only
  split <;> split <;> rfl

@[simp] theorem entangledLanes_markUpdated :
    (state.markUpdated updateLane).entangledLanes = state.entangledLanes := by
  unfold markUpdated
  dsimp only
  split <;> split <;> rfl

@[simp] theorem expiredLanes_markUpdated :
    (state.markUpdated updateLane).expiredLanes = state.expiredLanes := by
  unfold markUpdated
  dsimp only
  split <;> split <;> rfl

@[simp] theorem entanglements_markUpdated :
    (state.markUpdated updateLane).entanglements = state.entanglements := by
  unfold markUpdated
  dsimp only
  split <;> split <;> rfl

@[simp] theorem expirationTimes_markUpdated :
    (state.markUpdated updateLane).expirationTimes = state.expirationTimes := by
  unfold markUpdated
  dsimp only
  split <;> split <;> rfl

@[simp] theorem hiddenUpdateCounts_markUpdated :
    (state.markUpdated updateLane).hiddenUpdateCounts = state.hiddenUpdateCounts := by
  unfold markUpdated
  dsimp only
  split <;> split <;> rfl

theorem suspendedLanes_markUpdated :
    (state.markUpdated updateLane).suspendedLanes =
      if updateLane ≠ Lane.idle then no else state.suspendedLanes := by
  unfold markUpdated
  dsimp only
  split <;> split <;> rfl

theorem pingedLanes_markUpdated :
    (state.markUpdated updateLane).pingedLanes =
      if updateLane ≠ Lane.idle then no else state.pingedLanes := by
  unfold markUpdated
  dsimp only
  split <;> split <;> rfl

/-- Suspending lanes before any lane is spawned. -/
def holdBack (suspendedLanes : Lanes) (didAttemptEntireTree : Bool) : RootLaneState :=
  { state with
    suspendedLanes := state.suspendedLanes.merge suspendedLanes
    pingedLanes := state.pingedLanes.remove suspendedLanes
    warmLanes :=
      if didAttemptEntireTree then state.warmLanes.merge suspendedLanes
      else state.warmLanes
    expirationTimes := suspendedLanes.forEachLane
      (fun times index => LaneMap.set times index noTimestamp) state.expirationTimes }

theorem markSuspended_eq (suspendedLanes : Lanes) (spawnedLane : Lane)
    (didAttemptEntireTree : Bool) :
    state.markSuspended suspendedLanes spawnedLane didAttemptEntireTree =
      if spawnedLane.isNonEmpty then
        (state.holdBack suspendedLanes didAttemptEntireTree).markSpawnedDeferredLane
          spawnedLane suspendedLanes
      else state.holdBack suspendedLanes didAttemptEntireTree :=
  rfl

/-- Keeping the remaining lanes and clearing those that finished. -/
def leaveRemaining (remainingLanes : Lanes) : RootLaneState :=
  let noLongerPendingLanes := state.pendingLanes.remove remainingLanes
  { state with
    pendingLanes := remainingLanes
    suspendedLanes := Lanes.no
    pingedLanes := Lanes.no
    warmLanes := Lanes.no
    indicatorLanes :=
      if state.features.defaultTransitionIndicator then
        state.indicatorLanes.intersect remainingLanes
      else state.indicatorLanes
    expiredLanes := state.expiredLanes.intersect remainingLanes
    entangledLanes := state.entangledLanes.intersect remainingLanes
    errorRecoveryDisabledLanes :=
      state.errorRecoveryDisabledLanes.intersect remainingLanes
    entanglements := noLongerPendingLanes.forEachLane
      (fun rows index => LaneMap.set rows index Lanes.no) state.entanglements
    expirationTimes := noLongerPendingLanes.forEachLane
      (fun times index => LaneMap.set times index noTimestamp) state.expirationTimes
    hiddenUpdateCounts := noLongerPendingLanes.forEachLane
      (fun counts index => LaneMap.set counts index 0) state.hiddenUpdateCounts }

/-- Suspending the retries that were not pending before, unless there were updates. -/
def suspendFreshRetries (finished : RootFinishedLanes)
    (previouslyPendingLanes : Lanes) : RootLaneState :=
  if finished.suspendedRetryLanes.isNonEmpty && finished.updatedLanes.isEmpty then
    { state with
      suspendedLanes := state.suspendedLanes.merge
        (finished.suspendedRetryLanes.remove
          (previouslyPendingLanes.remove finished.finishedLanes)) }
  else state

theorem markFinished_eq (finished : RootFinishedLanes) :
    state.markFinished finished =
      (if finished.spawnedLane.isNonEmpty then
        (state.leaveRemaining finished.remainingLanes).markSpawnedDeferredLane
          finished.spawnedLane no
      else state.leaveRemaining finished.remainingLanes).suspendFreshRetries
        finished state.pendingLanes :=
  rfl

theorem containsIndex_mergeRows (rows : LaneMap Lanes) (lanes start : Lanes) (index : LaneIndex) :
    (lanes.forEachLane (fun gathered row => gathered.merge (rows row)) start).containsIndex
        index = true ↔
      start.containsIndex index = true ∨
        ∃ row, lanes.containsIndex row = true ∧ (rows row).containsIndex index = true := by
  have overList : ∀ (visited : List LaneIndex) (start : Lanes),
      (visited.foldl (fun gathered row => gathered.merge (rows row)) start).containsIndex
          index = true ↔
        start.containsIndex index = true ∨
          ∃ row ∈ visited, (rows row).containsIndex index = true := by
    intro visited
    induction visited with
    | nil => simp
    | cons head rest ih =>
      intro start
      rw [foldl_cons, ih, containsIndex_merge]
      simp [or_assoc]
  rw [forEachLane, overList]
  simp only [mem_indices]

theorem containsIndex_entangledLanesFor (renderLanes : Lanes) (index : LaneIndex) :
    (state.entangledLanesFor renderLanes).containsIndex index = true ↔
      renderLanes.containsIndex index = true ∨
        ∃ row, renderLanes.containsIndex row = true ∧
          state.entangledLanes.containsIndex row = true ∧
          (state.entanglements row).containsIndex index = true := by
  -- The default lanes it may add are its own.
  have same : (if renderLanes.containsLane Lane.inputContinuous then
      renderLanes.merge (renderLanes.intersect default) else renderLanes) =
      renderLanes := by
    split
    · apply ext_index
      intro other
      rw [containsIndex_merge, containsIndex_intersect]
      cases renderLanes.containsIndex other <;> rfl
    · rfl
  unfold entangledLanesFor
  simp only [same]
  split
  · simp only [containsIndex_mergeRows, Lanes.containsIndex_intersect, Bool.and_eq_true, and_assoc]
  · rename_i noneEntangled
    simp only [Lanes.isNonEmpty_eq, Bool.not_eq_true', Bool.not_eq_false,
      Lanes.isEmpty_iff] at noneEntangled
    simp [noneEntangled]

theorem entanglements_markEntangled (entangledLanes : Lanes) (index : LaneIndex) :
    (state.markEntangled entangledLanes).entanglements index =
      if (state.entangledLanes.merge entangledLanes).containsIndex index = true ∧
          (entangledLanes.containsIndex index = true ∨
            (state.entanglements index).containsAny entangledLanes = true) then
        (state.entanglements index).merge entangledLanes
      else state.entanglements index := by
  let change (index : LaneIndex) (row : Lanes) : Lanes :=
    if entangledLanes.containsIndex index = true ∨ row.containsAny entangledLanes = true then
      row.merge entangledLanes
    else row
  have visits : ∀ (rows : LaneMap Lanes) (index : LaneIndex),
      (if index.lane.toLanes.containsAny entangledLanes ||
          (rows index).containsAny entangledLanes then
        LaneMap.set rows index ((rows index).merge entangledLanes)
      else rows) =
      LaneMap.set rows index (change index (rows index)) := by
    intro rows index
    simp only [containsAny_lane, Bool.or_eq_true, change]
    split
    · rfl
    · exact (LaneMap.set_self rows index).symm
  refine (@forEachLane_rows Lanes _ change visits _ _ index).trans ?_
  by_cases entangled : (state.entangledLanes.merge entangledLanes).containsIndex index = true
  · simp only [entangled, if_true, true_and, change]
  · simp only [entangled, false_and, if_false, Bool.false_eq_true]

end RootLaneState

end FastReact
