import FastReact.RootScheduler

namespace FastReact

open ErrorState

/-!
# The synchronous flush

The flush renders and commits the scheduled roots that have synchronous work, pass
after pass, until a pass finds none.
-/

/-- Errors of the flush.  The source has no `endlessFlush`: it stands for a loop that has
not ended within its rounds. -/
inductive SyncFlushError where
  | fiberRootStore (error : FiberRootStoreError)
  | rootScheduler (error : RootSchedulerError)
  | rootWorkLoop (error : RootWorkLoopError)
  | rootCommit (error : RootCommitError)
  | endlessFlush
deriving DecidableEq

abbrev SyncFlushM := RootStoreM SyncFlushError

structure SyncFlushRootRecord where
  order : Nat
  root : FiberRootId
  renderLanes : Lanes
  renderPhase : HostRootRenderPhaseRecord
  commit : HostRootCommitRecord
deriving DecidableEq

structure SyncFlushResult where
  skippedReentrantFlush : Bool
  skippedNoSyncWork : Bool
  records : List SyncFlushRootRecord
deriving DecidableEq

def commitRenderPhase (order : Nat) (renderPhase : HostRootRenderPhaseRecord) :
    SyncFlushM SyncFlushRootRecord := do
  let commit ← mapError .rootCommit (commitFinishedHostRoot renderPhase)
  return {
    order := order
    root := renderPhase.root
    renderLanes := renderPhase.renderLanes
    renderPhase := renderPhase
    commit := commit }

/-- Render and commit a root if it has synchronous work. -/
def flushSyncWorkOnRoot (rootId : FiberRootId) (records : List SyncFlushRootRecord) :
    SyncFlushM (List SyncFlushRootRecord) := do
  let renderLanes ← query fun store => (store.syncFlushLanesForRoot rootId).mapError .rootScheduler
  if renderLanes.isNonEmpty then
    let renderPhase ← mapError .rootWorkLoop (renderHostRootForLanes rootId renderLanes)
    return records ++ [← commitRenderPhase records.length renderPhase]
  else
    return records

/-- One pass over the scheduled roots, for a number of rounds. -/
def flushSyncWorkPass :
    Nat → Option FiberRootId → List SyncFlushRootRecord →
      SyncFlushM (List SyncFlushRootRecord)
  | _, none, records => pure records
  | 0, some _, _ => throw .endlessFlush
  | rounds + 1, some rootId, records => do
      let nextRoot := (← getRoot .fiberRootStore rootId).scheduling.nextScheduledRoot
      let records ← flushSyncWorkOnRoot rootId records
      flushSyncWorkPass rounds nextRoot records

/-- Passes until one adds no record, up to a number of passes. -/
def flushSyncWorkAcrossScheduledRoots :
    Nat → List SyncFlushRootRecord → SyncFlushM (List SyncFlushRootRecord)
  | 0, _ => throw .endlessFlush
  | passes + 1, records => do
      let store ← get
      let after ← flushSyncWorkPass (store.roots.slots.length + 1)
        store.rootScheduler.firstScheduledRoot records
      if after.length = records.length then
        return after
      else
        flushSyncWorkAcrossScheduledRoots passes after

/-- The flush, with a number of passes for its loop. -/
def flushSyncCommitWorkOnAllRoots (passes : Nat) : SyncFlushM SyncFlushResult := do
  let scheduler := (← get).rootScheduler
  if scheduler.isFlushingWork then
    return {
      skippedReentrantFlush := true
      skippedNoSyncWork := false
      records := [] }
  if !scheduler.mightHavePendingSyncWork then
    return {
      skippedReentrantFlush := false
      skippedNoSyncWork := true
      records := [] }
  modifyScheduler fun scheduler => { scheduler with isFlushingWork := true }
  let store ← get
  match (flushSyncWorkAcrossScheduledRoots passes []).run store with
  | .ok records after =>
      set after
      modifyScheduler fun scheduler => { scheduler with isFlushingWork := false }
      let _ ← mapError .rootScheduler recomputeMightHavePendingSyncWork
      return {
        skippedReentrantFlush := false
        skippedNoSyncWork := false
        records := records }
  | .error error after =>
      set after
      modifyScheduler fun scheduler => { scheduler with isFlushingWork := false }
      throw error

section

variable {rounds passes : Nat} {rootId : FiberRootId} {first : Option FiberRootId}
  {store after : FiberRootStore} {records flushed : List SyncFlushRootRecord}

theorem flushSyncWorkOnRoot_cases
    (ran : (flushSyncWorkOnRoot rootId records).run store = .ok flushed after) :
    records.length < flushed.length ∨
      records = flushed ∧ after = store ∧
        ∃ lanes, store.syncFlushLanesForRoot rootId = .ok lanes ∧ lanes.isNonEmpty = false := by
  obtain ⟨lanes, selected, ran⟩ := run_query_bind_eq_ok_iff.mp ran
  rw [mapError_eq_ok_iff] at selected
  by_cases work : lanes.isNonEmpty = true
  · rw [if_pos work] at ran
    obtain ⟨render, between, -, ran⟩ := run_bind_eq_ok_iff.mp ran
    obtain ⟨record, last, -, ran⟩ := run_bind_eq_ok_iff.mp ran
    cases ran
    simp
  · rw [if_neg work] at ran
    cases ran
    exact .inr ⟨rfl, rfl, lanes, selected, Bool.eq_false_of_not_eq_true work⟩

theorem flushSyncWorkPass_cases
    (ran : (flushSyncWorkPass rounds first records).run store = .ok flushed after) :
    records.length < flushed.length ∨
      records = flushed ∧ after = store ∧ ∀ scheduler,
        { store with rootScheduler := scheduler }.hasPendingSyncWork rounds first = .ok false := by
  fun_induction flushSyncWorkPass rounds first records generalizing store with
  | case1 =>
    cases ran
    simp [FiberRootStore.hasPendingSyncWork]
  | case2 => cases ran
  | case3 rounds rootId records ih =>
    obtain ⟨root, found, ran⟩ := run_query_bind_eq_ok_iff.mp ran
    obtain ⟨middle, between, flushedRoot, ran⟩ := run_bind_eq_ok_iff.mp ran
    have later := ih _ _ ran
    rcases flushSyncWorkOnRoot_cases flushedRoot with more | ⟨rfl, rfl, lanes, selected, noWork⟩
    · exact .inl (later.elim more.trans fun same => same.1 ▸ more)
    · refine later.imp_right fun rest => ⟨rest.1, rest.2.1, fun scheduler => ?_⟩
      rw [mapError_eq_ok_iff] at found
      have sameLanes : { between with rootScheduler := scheduler }.syncFlushLanesForRoot rootId =
        .ok lanes := selected
      have sameRoot : { between with rootScheduler := scheduler }.root rootId = .ok root := found
      simp only [FiberRootStore.hasPendingSyncWork, sameLanes, sameRoot, noWork, bind, Except.bind,
        Except.mapError, Bool.false_eq_true, if_false]
      exact rest.2.2 scheduler

theorem flushSyncWorkAcrossScheduledRoots_drains
    (ran : (flushSyncWorkAcrossScheduledRoots passes records).run store = .ok flushed after)
    (scheduler : RootSchedulerState) :
    { after with rootScheduler := scheduler }.hasPendingSyncWork (after.roots.slots.length + 1)
      after.rootScheduler.firstScheduledRoot = .ok false := by
  induction passes generalizing store records with
  | zero => cases ran
  | succ passes ih =>
    obtain ⟨_, _, got, ran⟩ := run_bind_eq_ok_iff.mp ran
    cases got
    obtain ⟨middle, between, passed, ran⟩ := run_bind_eq_ok_iff.mp ran
    split at ran
    · next same =>
      cases ran
      rcases flushSyncWorkPass_cases passed with more | ⟨-, rfl, noWork⟩
      · exact absurd same more.ne'
      · exact noWork scheduler
    · exact ih ran

end

/-- How a flush of a store may end. -/
def FlushEnds (store : FiberRootStore) :
    EStateM.Result SyncFlushError FiberRootStore SyncFlushResult → Prop
  | .error _ after => after.rootScheduler.isFlushingWork = false
  | .ok result after =>
    if result.skippedReentrantFlush then
      after = store ∧ store.rootScheduler.isFlushingWork = true
    else if result.skippedNoSyncWork then
      after = store ∧ store.rootScheduler.mightHavePendingSyncWork = false
    else
      after.rootScheduler.isFlushingWork = false ∧
        after.rootScheduler.mightHavePendingSyncWork = false ∧
        after.hasPendingSyncWork (after.roots.slots.length + 1)
          after.rootScheduler.firstScheduledRoot = .ok false

end FastReact
