import FastReact.PassiveEffects
import FastReact.RootFrames

namespace FastReact

open ErrorState List

variable {records : List PassiveEffectFlushRecord} {commit : PassiveEffectsCommit}
  {source : PassiveEffectRecordSource} {error : PassiveEffectsFlushError}

namespace PassiveEffects

/-!
# Failed flushes of passive effects

A flush takes the pending effects from their root once its checks are passed, before it
calls any of them.  An error of the checks therefore leaves everything as it was.  A
later error is that of a stored destroy, behind which nothing more is called, or that of
a failed call that its root does not capture, when everything has been called.
-/

section Calls

variable {ρ γ ε σ α : Type}

/-- An executor was called for some items, one after another, and nothing else changed
its state. -/
def CallsMade (call : ρ → EStateM ε σ α) (item : ρ → γ) (items : List γ) (before after : σ) : Prop :=
  ∃ requests : List ρ,
    requests.map item = items ∧
    after = requests.foldl (fun state request => stateAfter ((call request).run state)) before

namespace CallsMade

variable {call : ρ → EStateM ε σ α} {item : ρ → γ} {before between after : σ}

theorem nil : CallsMade call item [] before before :=
  ⟨[], rfl, rfl⟩

theorem append {items later : List γ} (made : CallsMade call item items before between)
    (madeLater : CallsMade call item later between after) :
    CallsMade call item (items ++ later) before after := by
  obtain ⟨requests, ofItems, isBetween⟩ := made
  obtain ⟨laterRequests, ofLater, isAfter⟩ := madeLater
  refine ⟨requests ++ laterRequests, ?_, ?_⟩
  · rw [map_append, ofItems, ofLater]
  · rw [foldl_append, ← isBetween, isAfter]

end CallsMade

end Calls

variable {σ τ : Type}

/-- The destroys of some records were called; the roots and the creates were left alone. -/
structure DestroysCalled (destroyExecutor : PassiveEffectDestroyCallbackExecutor σ)
    (records : List PassiveEffectFlushRecord)
    (before after : PassiveFlushWorld σ τ) : Prop where
  called : CallsMade destroyExecutor (·.flushRecord) records
    before.destroyExecutorState after.destroyExecutorState
  store : after.store = before.store
  mountCreates : after.mountCreateExecutorState = before.mountCreateExecutorState
  clears : after.destroyHandleClearStore.isSome = before.destroyHandleClearStore.isSome

/-- The unmounts with a destroy to call, in the order of their flush. -/
def unmountsToDestroy (records : List PassiveEffectFlushRecord) : List PassiveEffectFlushRecord :=
  sortByFlushOrder id (records.filter isEligibleUnmount)

def mountsToCreate (records : List PassiveEffectFlushRecord) : List PassiveEffectFlushRecord :=
  records.filter fun record => (eligibleMountCreate record).isSome

def pendingPassiveOf (store : FiberRootStore) (root : FiberRootId) : Option PendingPassiveState :=
  (store.roots.get? root).map (·.scheduling.pendingPassive)

/-- The stored destroy of a record is refused: exactly the destroys before it were called,
and no create. -/
def StoppedAtStoredDestroy (destroyExecutor : PassiveEffectDestroyCallbackExecutor σ)
    (records : List PassiveEffectFlushRecord) (error : PassiveEffectsFlushError)
    (before after : PassiveFlushWorld σ τ) : Prop :=
  ∃ called record dropped destroy hookStore,
    unmountsToDestroy records = called ++ record :: dropped ∧
    DestroysCalled destroyExecutor called before { after with store := before.store } ∧
    record.destroyCallback = some destroy ∧
    after.destroyHandleClearStore = some hookStore ∧
    checkedDestroyHandle hookStore record destroy = .error error

def AllCallbacksCalled (destroyExecutor : PassiveEffectDestroyCallbackExecutor σ)
    (mountCreateExecutor : Option (PassiveEffectMountCreateCallbackExecutor τ))
    (records : List PassiveEffectFlushRecord)
    (before after : PassiveFlushWorld σ τ) : Prop :=
  CallsMade destroyExecutor (·.flushRecord) (unmountsToDestroy records)
    before.destroyExecutorState after.destroyExecutorState ∧
  ∀ executor, mountCreateExecutor = some executor →
    CallsMade executor (·.flushRecord) (mountsToCreate records)
      before.mountCreateExecutorState after.mountCreateExecutorState

namespace DestroysCalled

variable {destroyExecutor : PassiveEffectDestroyCallbackExecutor σ}
  {before between after : PassiveFlushWorld σ τ}

theorem nil : DestroysCalled destroyExecutor [] before before where
  called := .nil
  store := rfl
  mountCreates := rfl
  clears := rfl

theorem append {records later : List PassiveEffectFlushRecord}
    (first : DestroysCalled destroyExecutor records before between)
    (second : DestroysCalled destroyExecutor later between after) :
    DestroysCalled destroyExecutor (records ++ later) before after where
  called := first.called.append second.called
  store := second.store.trans first.store
  mountCreates := second.mountCreates.trans first.mountCreates
  clears := second.clears.trans first.clears

end DestroysCalled

section Destroys

variable {destroyExecutor : PassiveEffectDestroyCallbackExecutor σ}

theorem run_callDestroy (destroyExecutor : PassiveEffectDestroyCallbackExecutor σ)
    (request : PassiveEffectDestroyCallbackExecutionRequest) (world : PassiveFlushWorld σ τ) :
    ∃ outcome, (callDestroy destroyExecutor request).run world = .ok outcome
      { world with
        destroyExecutorState :=
          stateAfter ((destroyExecutor request).run world.destroyExecutorState) } := by
  cases called : (destroyExecutor request).run world.destroyExecutorState with
  | ok value state =>
    exact ⟨.ok (), by simp only [callDestroy, EStateM.run, stateAfter] at called ⊢; rw [called]⟩
  | error error state =>
    exact ⟨.error error, by simp only [callDestroy, EStateM.run, stateAfter] at called ⊢; rw [called]⟩

theorem run_clearPassiveDestroyHandleBeforeExecution (record : PassiveEffectFlushRecord)
    (clearOrder : Nat) (destroy : HookEffectCallbackHandle) (world : PassiveFlushWorld σ τ) :
    (∃ cleared hookStore,
      (clearPassiveDestroyHandleBeforeExecution record clearOrder destroy).run world =
        .ok cleared { world with destroyHandleClearStore := hookStore } ∧
      hookStore.isSome = world.destroyHandleClearStore.isSome) ∨
    ∃ error hookStore,
      (clearPassiveDestroyHandleBeforeExecution record clearOrder destroy).run world =
        .error error world ∧
      world.destroyHandleClearStore = some hookStore ∧
      checkedDestroyHandle hookStore record destroy = .error error := by
  obtain ⟨store, stored, destroyState, createState⟩ := world
  cases stored with
  | none => exact .inl ⟨none, none, rfl, rfl⟩
  | some hookStore =>
    cases checked : checkedDestroyHandle hookStore record destroy with
    | ok effectInstance =>
      left
      rw [clearPassiveDestroyHandleBeforeExecution, run_bind, run_get]
      dsimp only
      rw [run_bind, run_query, checked]
      exact ⟨_, _, rfl, rfl⟩
    | error error =>
      refine .inr ⟨error, hookStore, ?_, rfl, checked⟩
      rw [clearPassiveDestroyHandleBeforeExecution, run_bind, run_get]
      dsimp only
      rw [run_bind, run_query, checked]

theorem run_executePassiveDestroyCallback {run : PassiveDestroyRun} {recordIndex : Nat}
    {record : PassiveEffectFlushRecord} {destroy : HookEffectCallbackHandle}
    (found : run.records[recordIndex]? = some record)
    (hasDestroy : record.destroyCallback = some destroy) (world : PassiveFlushWorld σ τ) :
    (∃ after world',
      (executePassiveDestroyCallback destroyExecutor run recordIndex).run world = .ok after world' ∧
      after.records = run.records.set recordIndex record.markDestroyCallbackInvoked ∧
      DestroysCalled destroyExecutor [record] world world') ∨
    ∃ error hookStore,
      (executePassiveDestroyCallback destroyExecutor run recordIndex).run world =
        .error error world ∧
      world.destroyHandleClearStore = some hookStore ∧
      checkedDestroyHandle hookStore record destroy = .error error := by
  simp only [executePassiveDestroyCallback, found, hasDestroy]
  rcases run_clearPassiveDestroyHandleBeforeExecution record run.destroyHandleClears.length destroy
    world with ⟨cleared, hookStore, ran, same⟩ | ⟨error, hookStore, ran, stored, refused⟩
  · obtain ⟨outcome, called⟩ := run_callDestroy destroyExecutor
      ⟨run.executions.length, record, destroy, cleared⟩
      { world with destroyHandleClearStore := hookStore }
    left
    rw [run_bind, ran]
    dsimp only
    rw [run_bind, called]
    refine ⟨_, _, rfl, rfl, ?_⟩
    exact {
      called := ⟨[⟨run.executions.length, record, destroy, cleared⟩], rfl, rfl⟩
      store := rfl
      mountCreates := rfl
      clears := same }
  · refine .inr ⟨error, hookStore, ?_, stored, refused⟩
    rw [run_bind, ran]

end Destroys

section Positions

/-- The eligible positions with their records, in the order of their flush. -/
def eligibleEntries (records : List PassiveEffectFlushRecord) :
    List (PassiveEffectFlushRecord × Nat) :=
  sortByFlushOrder Prod.fst (records.zipIdx.filter (isEligibleUnmount ·.1))

theorem mem_eligibleEntries_iff {entry : PassiveEffectFlushRecord × Nat} :
    entry ∈ eligibleEntries records ↔
      records[entry.2]? = some entry.1 ∧ isEligibleUnmount entry.1 := by
  rw [eligibleEntries, sortByFlushOrder, (perm_insertionSort _ _).mem_iff, mem_filter,
    mem_zipIdx_iff_getElem?]

theorem nodup_eligibleUnmounts : (eligibleUnmounts records).Nodup := by
  have sameMembers : (eligibleUnmounts records).Perm
      ((records.zipIdx.filter (isEligibleUnmount ·.1)).map Prod.snd) :=
    (perm_insertionSort _ _).map _
  apply sameMembers.nodup_iff.mpr
  refine .sublist (filter_sublist.map _) ?_
  rw [zipIdx_map_snd]
  exact nodup_range'

theorem found_of_mem_eligibleUnmounts {position : Nat}
    (eligible : position ∈ eligibleUnmounts records) :
    ∃ record destroy,
      records[position]? = some record ∧ isEligibleUnmount record ∧
      record.destroyCallback = some destroy := by
  obtain ⟨⟨record, index⟩, member, rfl⟩ := mem_map.mp eligible
  obtain ⟨found, isEligible⟩ := mem_eligibleEntries_iff.mp member
  cases hasDestroy : record.destroyCallback with
  | none => simp [isEligibleUnmount, hasDestroy] at isEligible
  | some destroy => exact ⟨record, destroy, found, isEligible, hasDestroy⟩

theorem records_of_eligibleUnmounts :
    (eligibleUnmounts records).filterMap (records[·]?) = unmountsToDestroy records := by
  have ofEntries : (eligibleUnmounts records).filterMap (records[·]?) =
      (eligibleEntries records).map Prod.fst := by
    rw [eligibleUnmounts, filterMap_map, ← filterMap_eq_map]
    apply filterMap_congr
    intro entry member
    exact (mem_eligibleEntries_iff.mp member).1
  have sorted : (eligibleEntries records).map Prod.fst =
      sortByFlushOrder id ((records.zipIdx.filter (isEligibleUnmount ·.1)).map Prod.fst) :=
    map_insertionSort _ _ _ _ fun _ _ _ _ => Iff.rfl
  have filtered : (records.zipIdx.map Prod.fst).filter isEligibleUnmount =
      (records.zipIdx.filter (isEligibleUnmount ·.1)).map Prod.fst :=
    filter_map
  rw [ofEntries, sorted, ← filtered, zipIdx_map_fst, unmountsToDestroy]

end Positions

section Loops

variable {destroyExecutor : PassiveEffectDestroyCallbackExecutor σ}
  {mountCreateExecutor : PassiveEffectMountCreateCallbackExecutor τ}

/-- What holds of the loop over the destroys once some positions are handled. -/
structure DestroysHandled (destroyExecutor : PassiveEffectDestroyCallbackExecutor σ)
    (records : List PassiveEffectFlushRecord) (before : PassiveFlushWorld σ τ) (handled : List Nat)
    (run : PassiveDestroyRun)
    (world : PassiveFlushWorld σ τ) : Prop where
  called : DestroysCalled destroyExecutor (handled.filterMap (records[·]?)) before world
  untouched : ∀ position, position ∉ handled → run.records[position]? = records[position]?
  mounts : mountsToCreate run.records = mountsToCreate records

variable {before world : PassiveFlushWorld σ τ} {position : Nat}

theorem mountsToCreate_set {record marked : PassiveEffectFlushRecord}
    (found : records[position]? = some record) (isUnmount : record.phase = .unmount)
    (isUnmountMarked : marked.phase = .unmount) :
    mountsToCreate (records.set position marked) = mountsToCreate records := by
  obtain ⟨inBounds, isRecord⟩ := List.getElem?_eq_some_iff.mp found
  have split : records = records.take position ++ record :: records.drop (position + 1) := by
    rw [← isRecord, List.getElem_cons_drop, List.take_append_drop]
  have splitMarked : records.set position marked =
      records.take position ++ marked :: records.drop (position + 1) :=
    set_eq_take_append_cons_drop.trans (if_pos inBounds)
  have noMount : ∀ other : PassiveEffectFlushRecord, other.phase = .unmount →
      (eligibleMountCreate other).isSome = false := by
    intro other isUnmountOther
    simp [eligibleMountCreate, isUnmountOther]
  rw [splitMarked]
  conv_rhs => rw [split]
  simp only [mountsToCreate, filter_append, filter_cons, noMount _ isUnmount,
    noMount _ isUnmountMarked, Bool.false_eq_true, if_false]

/-- The destroys at some positions were called, and the one at the next position is refused. -/
def DestroyRefused (destroyExecutor : PassiveEffectDestroyCallbackExecutor σ)
    (records : List PassiveEffectFlushRecord) (before : PassiveFlushWorld σ τ) (handled : List Nat)
    (position : Nat) (error : PassiveEffectsFlushError)
    (after : PassiveFlushWorld σ τ) : Prop :=
  DestroysCalled destroyExecutor (handled.filterMap (records[·]?)) before after ∧
  ∃ record destroy hookStore,
    records[position]? = some record ∧
    record.destroyCallback = some destroy ∧
    after.destroyHandleClearStore = some hookStore ∧
    checkedDestroyHandle hookStore record destroy = .error error

theorem DestroysHandled.round {handled rest : List Nat} {run : PassiveDestroyRun}
    (shape : eligibleUnmounts records = handled ++ position :: rest)
    (handledSoFar : DestroysHandled destroyExecutor records before handled run world) :
    (∃ run' world',
      (executePassiveDestroyCallback destroyExecutor run position).run world = .ok run' world' ∧
      DestroysHandled destroyExecutor records before (handled ++ [position]) run' world') ∨
    ∃ error world',
      (executePassiveDestroyCallback destroyExecutor run position).run world = .error error world' ∧
      DestroyRefused destroyExecutor records before handled position error world' := by
  have eligible : position ∈ eligibleUnmounts records := by simp [shape]
  obtain ⟨record, destroy, found, isEligible, hasDestroy⟩ := found_of_mem_eligibleUnmounts eligible
  have notHandled : position ∉ handled := by
    have distinct : (handled ++ position :: rest).Nodup := shape ▸ nodup_eligibleUnmounts
    exact fun member => (nodup_append.mp distinct).2.2 _ member _ (by simp) rfl
  have foundInRun : run.records[position]? = some record :=
    (handledSoFar.untouched position notHandled).trans found
  rcases run_executePassiveDestroyCallback foundInRun hasDestroy world with
    ⟨run', world', ran, marked, called⟩ | ⟨error, hookStore, ran, stored, refused⟩
  · have isUnmount : record.phase = .unmount := by
      simp only [isEligibleUnmount, Bool.and_eq_true, decide_eq_true_eq] at isEligible
      exact isEligible.1
    have isUnmountMarked : record.markDestroyCallbackInvoked.phase = .unmount := isUnmount
    refine .inl ⟨run', world', ran, ?_, ?_, ?_⟩
    · rw [filterMap_append, filterMap_cons, found]
      exact handledSoFar.called.append called
    · intro other notOther
      simp only [mem_append, mem_singleton, not_or] at notOther
      rw [marked, getElem?_set_ne (Ne.symm notOther.2), handledSoFar.untouched other notOther.1]
    · rw [marked, mountsToCreate_set foundInRun isUnmount isUnmountMarked, handledSoFar.mounts]
  · exact .inr ⟨error, world, ran, handledSoFar.called, record, destroy, hookStore, found,
      hasDestroy, stored, refused⟩

theorem run_executePassiveDestroyCallbacks (world : PassiveFlushWorld σ τ) :
    (∃ run after,
      (executePassiveDestroyCallbacks destroyExecutor records).run world = .ok run after ∧
      DestroysCalled destroyExecutor (unmountsToDestroy records) world after ∧
      mountsToCreate run.records = mountsToCreate records) ∨
    ∃ error after,
      (executePassiveDestroyCallbacks destroyExecutor records).run world = .error error after ∧
      StoppedAtStoredDestroy destroyExecutor records error world after ∧
      after.store = world.store := by
  have initially : DestroysHandled destroyExecutor records world [] (.start records) world :=
    ⟨.nil, fun _ _ => rfl, rfl⟩
  rcases foldlM_run_cases (DestroysHandled destroyExecutor records world)
    (DestroyRefused destroyExecutor records world)
    (fun _ _ _ _ _ shape handledSoFar => handledSoFar.round shape) initially with
    ⟨run, after, ran, handled⟩ | ⟨handled, position, rest, error, after, shape, ran, called, record,
      destroy, hookStore, found, hasDestroy, stored, refused⟩
  · refine .inl ⟨run, after, ran, ?_, handled.mounts⟩
    rw [← records_of_eligibleUnmounts]
    exact handled.called
  · refine .inr ⟨error, after, ran, ⟨handled.filterMap (records[·]?), record,
      rest.filterMap (records[·]?), destroy, hookStore, ?_, ?_, hasDestroy, stored, refused⟩, called.store⟩
    · rw [← records_of_eligibleUnmounts, shape, filterMap_append, filterMap_cons, found]
    · exact { called with store := rfl }

theorem run_callMountCreate (mountCreateExecutor : PassiveEffectMountCreateCallbackExecutor τ)
    (request : PassiveEffectMountCreateCallbackExecutionRequest) (world : PassiveFlushWorld σ τ) :
    ∃ outcome, (callMountCreate mountCreateExecutor request).run world = .ok outcome
      { world with
        mountCreateExecutorState :=
          stateAfter ((mountCreateExecutor request).run world.mountCreateExecutorState) } := by
  cases called : (mountCreateExecutor request).run world.mountCreateExecutorState with
  | ok value state =>
    exact ⟨.ok value, by simp only [callMountCreate, EStateM.run, stateAfter] at called ⊢; rw [called]⟩
  | error error state =>
    exact ⟨.error error, by simp only [callMountCreate, EStateM.run, stateAfter] at called ⊢; rw [called]⟩

/-- What holds of the loop over the creates once some records are handled. -/
def CreatesHandled (mountCreateExecutor : PassiveEffectMountCreateCallbackExecutor τ)
    (before : PassiveFlushWorld σ τ) (handled : List PassiveEffectFlushRecord)
    (_run : PassiveMountCreateRun)
    (world : PassiveFlushWorld σ τ) : Prop :=
  ∃ created,
    world = { before with mountCreateExecutorState := created } ∧
    CallsMade mountCreateExecutor (·.flushRecord) (mountsToCreate handled)
      before.mountCreateExecutorState created

theorem CreatesHandled.round {handled : List PassiveEffectFlushRecord} {run : PassiveMountCreateRun}
    (record : PassiveEffectFlushRecord)
    (handledSoFar : CreatesHandled mountCreateExecutor before handled run world) :
    ∃ run' world',
      (executePassiveMountCreateCallback mountCreateExecutor run record).run world =
        .ok run' world' ∧
      CreatesHandled mountCreateExecutor before (handled ++ [record]) run' world' := by
  obtain ⟨created, rfl, called⟩ := handledSoFar
  simp only [executePassiveMountCreateCallback]
  cases eligible : eligibleMountCreate record with
  | none =>
    refine ⟨_, _, rfl, created, rfl, ?_⟩
    simpa [mountsToCreate, filter_append, eligible] using called
  | some create =>
    obtain ⟨outcome, ran⟩ := run_callMountCreate mountCreateExecutor
      ⟨run.executions.length, record, create⟩
      { before with mountCreateExecutorState := created }
    have calledNext : CallsMade mountCreateExecutor (·.flushRecord)
        (mountsToCreate (handled ++ [record])) before.mountCreateExecutorState
        (stateAfter ((mountCreateExecutor ⟨run.executions.length, record, create⟩).run created)) := by
      have isMount : mountsToCreate (handled ++ [record]) = mountsToCreate handled ++ [record] := by
        simp [mountsToCreate, filter_append, eligible]
      rw [isMount]
      exact called.append ⟨[⟨run.executions.length, record, create⟩], rfl, rfl⟩
    dsimp only
    rw [run_bind, ran]
    cases outcome with
    | ok returned => exact ⟨_, _, rfl, _, rfl, calledNext⟩
    | error error => exact ⟨_, _, rfl, _, rfl, calledNext⟩

theorem run_executePassiveMountCreateCallbacks (world : PassiveFlushWorld σ τ) :
    ∃ run created,
      (executePassiveMountCreateCallbacks mountCreateExecutor records).run world =
        .ok run { world with mountCreateExecutorState := created } ∧
      CallsMade mountCreateExecutor (·.flushRecord) (mountsToCreate records)
        world.mountCreateExecutorState created := by
  have initially : CreatesHandled mountCreateExecutor world [] .start world := ⟨_, rfl, .nil⟩
  obtain ⟨run, after, ran, created, rfl, called⟩ := foldlM_run_of_invariant
    (CreatesHandled mountCreateExecutor world)
    (fun _ record _ _ _ _ handledSoFar => handledSoFar.round record) initially
  exact ⟨run, created, ran, called⟩

end Loops

section Captures

def KeepsPendingPassive (root : FiberRootId) (before after : FiberRootStore) : Prop :=
  pendingPassiveOf after root = pendingPassiveOf before root

instance (root : FiberRootId) : IsPreorder FiberRootStore (KeepsPendingPassive root) where
  refl _ := rfl
  trans _ _ _ kept keptLater := keptLater.trans kept

variable (root : FiberRootId)

theorem keepsPendingPassive_modify {change : FiberRoot → FiberRoot}
    (keeps : ∀ fiberRoot,
      (change fiberRoot).scheduling.pendingPassive = fiberRoot.scheduling.pendingPassive)
    (changed : FiberRootId)
    (store : FiberRootStore) :
    KeepsPendingPassive root store { store with roots := store.roots.modify changed change } := by
  simp only [KeepsPendingPassive, pendingPassiveOf, SlotArena.get?_modify]
  split
  · rw [Option.map_map]
    exact congrArg (fun project => Option.map project (store.roots.get? root)) (funext keeps)
  · rfl

theorem keepsPendingPassive_appendScheduledRoot (appended : FiberRootId) :
    Within (KeepsPendingPassive root) (appendScheduledRoot appended) := by
  refine .bind .get fun store => ?_
  cases store.rootScheduler.lastScheduledRoot with
  | none => exact .bind (.modify fun _ => by rfl) fun _ => .modify fun _ => by rfl
  | some last =>
    refine .bind (within_modifyRoot _ ?_) fun _ => .modify fun _ => by rfl
    exact keepsPendingPassive_modify root (fun _ => by rfl) last

theorem keepsPendingPassive_ensureScheduleMicrotaskIsScheduled :
    Within (KeepsPendingPassive root) ensureScheduleMicrotaskIsScheduled := by
  refine .bind .get fun store => .ite (.ite ?_ (.pure _)) (.ite ?_ (.pure _))
  · exact .bind (.modify fun _ => by rfl) fun _ => .modify fun _ => by rfl
  · exact .bind (.modify fun _ => by rfl) fun _ => .modify fun _ => by rfl

theorem keepsPendingPassive_ensureRootScheduleEntry (scheduled : FiberRootId) :
    Within (KeepsPendingPassive root) (ensureRootScheduleEntry scheduled) := by
  have ends : ∀ inserted : Bool, Within (KeepsPendingPassive root) (do
      modifyScheduler fun scheduler => { scheduler with mightHavePendingSyncWork := true }
      ensureScheduleMicrotaskIsScheduled
      return {
        root := scheduled
        inserted := inserted
        mightHavePendingSyncWork := (← get).rootScheduler.mightHavePendingSyncWork } :
      RootSchedulerM ScheduledRootUpdateResult) := fun inserted =>
    .bind (.modify fun _ => by rfl) fun _ =>
    .bind (keepsPendingPassive_ensureScheduleMicrotaskIsScheduled root) fun _ =>
    .bind .get fun _ => .pure _
  have appends : Within (KeepsPendingPassive root) (appendScheduledRoot scheduled) :=
    keepsPendingPassive_appendScheduledRoot root scheduled
  refine .bind .get fun store => .ite (.bind (.pure _) fun already => ?_)
    (.bind (within_getRoot _ _) fun _ => .bind (.pure _) fun already => ?_)
  all_goals exact .ite (.bind appends fun _ => ends (!already)) (ends (!already))

theorem keepsPendingPassive_capturePassiveEffectRootError (captured : FiberRootId)
    (sourceFiber : FiberId) (source : RootErrorCaptureSource) :
    Within (KeepsPendingPassive root) (capturePassiveEffectRootError captured sourceFiber source) := by
  have ignores : IgnoresFibers (KeepsPendingPassive root) := fun _ _ => rfl
  have marks : Within (KeepsPendingPassive root)
      (markUpdateLaneFromFiberToRoot sourceFiber Lane.sync) :=
    ignores.within_markUpdateLanesFromFiberToRoot
      (fun marked _ => keepsPendingPassive_modify root (fun _ => by rfl) marked) _ _
  exact .bind (within_getRoot _ _) fun _ => .bind (.mapError _ marks) fun _ => .guard fun _ =>
    .bind (keepsPendingPassive_ensureRootScheduleEntry root captured) fun _ =>
    .bind (within_getRoot _ _) fun _ => .pure _

theorem keepsPendingPassive_scheduleCaptures
    (metadata : List PassiveEffectCallbackExecutionErrorMetadata) :
    Within (KeepsPendingPassive root)
      (schedulePassiveCallbackExecutionRootErrorCaptures metadata) :=
  .foldlM (fun _ _ =>
    .bind (keepsPendingPassive_capturePassiveEffectRootError root _ _ _) fun _ => .pure _) _ _

theorem failed_scheduleCaptures {metadata : List PassiveEffectCallbackExecutionErrorMetadata}
    {world after : PassiveFlushWorld σ τ} {error : PassiveEffectsFlushError}
    (failed : (onRootStore (mapError .rootScheduler
      (schedulePassiveCallbackExecutionRootErrorCaptures metadata))).run world = .error error after) :
    ∃ store,
      after = { world with store := store } ∧
      pendingPassiveOf store root = pendingPassiveOf world.store root := by
  have kept : Within (KeepsPendingPassive root) (mapError PassiveEffectsFlushError.rootScheduler
      (schedulePassiveCallbackExecutionRootErrorCaptures metadata)) :=
    .mapError _ (keepsPendingPassive_scheduleCaptures root metadata)
  have keptHere := kept world.store
  rw [onRootStore, run_focus] at failed
  cases ran : (mapError PassiveEffectsFlushError.rootScheduler
      (schedulePassiveCallbackExecutionRootErrorCaptures metadata)).run world.store with
  | ok captures store =>
    rw [ran] at failed
    cases failed
  | error captureError store =>
    rw [ran] at failed keptHere
    cases failed
    exact ⟨store, rfl, keptHere⟩

end Captures

section Flushes

variable {handoff : PendingPassiveCommitHandoff}
  {destroyExecutor : PassiveEffectDestroyCallbackExecutor σ}
  {mountCreateExecutor : Option (PassiveEffectMountCreateCallbackExecutor τ)}
  {world after : PassiveFlushWorld σ τ}

theorem run_clearPendingPassive
    (checked : checkedFlushRecords commit handoff source world.store = .ok records) :
    ∃ store,
      (onRootStore (modifyRoot .fiberRootStore commit.record.root
        (FiberRoot.onScheduling (·.clearPendingPassive)))).run world =
          .ok () { world with store := store } ∧
      pendingPassiveOf store commit.record.root = some .none := by
  obtain ⟨root, found, -⟩ := bind_eq_ok_iff.mp checked
  have live : world.store.roots.get? commit.record.root = some root :=
    FiberRootStore.root_eq_ok_iff.mp (mapError_eq_ok_iff.mp found)
  rw [onRootStore, run_focus, run_modifyRoot live]
  refine ⟨_, rfl, ?_⟩
  rw [pendingPassiveOf, SlotArena.get?_modify, if_pos rfl, live]
  rfl

/-- The store is not looked at while callbacks are called. -/
theorem StoppedAtStoredDestroy.of_store {store : FiberRootStore}
    (stopped : StoppedAtStoredDestroy destroyExecutor records error
      { world with store := store } after) :
    StoppedAtStoredDestroy destroyExecutor records error world after := by
  obtain ⟨called, record, dropped, destroy, hookStore, shape, calls, rest⟩ := stopped
  refine ⟨called, record, dropped, destroy, hookStore, shape, ?_, rest⟩
  exact {
    called := calls.called
    store := rfl
    mountCreates := calls.mountCreates
    clears := calls.clears }

theorem run_executeGivenMountCreateCallbacks (world : PassiveFlushWorld σ τ) :
    ∃ run created,
      (executeGivenMountCreateCallbacks mountCreateExecutor records).run world =
        .ok run { world with mountCreateExecutorState := created } ∧
      ∀ executor, mountCreateExecutor = some executor →
        CallsMade executor (·.flushRecord) (mountsToCreate records)
          world.mountCreateExecutorState created := by
  cases mountCreateExecutor with
  | none =>
    refine ⟨_, _, rfl, ?_⟩
    intro executor impossible
    cases impossible
  | some executor =>
    obtain ⟨run, created, ran, called⟩ := run_executePassiveMountCreateCallbacks world
    refine ⟨run, created, ran, ?_⟩
    intro other same
    cases same
    exact called

end Flushes

end PassiveEffects

open PassiveEffects

section Flushes

variable {σ τ : Type} {destroyExecutor : PassiveEffectDestroyCallbackExecutor σ}
  {mountCreateExecutor : Option (PassiveEffectMountCreateCallbackExecutor τ)}
  {world after : PassiveFlushWorld σ τ}

end Flushes

section Samples

/-- An effect that is unmounted and mounted again. -/
def sampleEffect (index : Nat) : FunctionComponentPendingPassiveEffectCommitRecord where
  fiber := ⟨1, 0⟩
  effectIndex := index
  effect := ⟨index⟩
  previousEffect := none
  effectInstance := ⟨⟨1⟩, ⟨index, 0⟩⟩
  create := ⟨20 + index⟩
  destroy := some ⟨10 + index⟩
  lanes := Lanes.default
  unmountOrder := some ⟨.unmount, 2 * index⟩
  mountOrder := ⟨.mount, 2 * index + 1⟩

def sampleEffects : List FunctionComponentPendingPassiveEffectCommitRecord :=
  [sampleEffect 0, sampleEffect 1, sampleEffect 2]

def samplePendingPassive : PendingPassiveState where
  root := some ⟨0, 0⟩
  finishedWork := some ⟨0, 0⟩
  lanes := Lanes.default
  passiveUnmounts := sampleEffects.map fun effect =>
    ⟨effect.fiber, effect.lanes, ⟨.unmount, 2 * effect.effectIndex⟩, some .updatedFiber⟩
  passiveMounts := sampleEffects.map fun effect =>
    ⟨effect.fiber, effect.lanes, effect.mountOrder, none⟩
  nextSequence := 6

def samplePassiveCommit : PassiveEffectsCommit where
  record := {
    root := ⟨0, 0⟩
    previousCurrent := ⟨0, 0⟩
    current := ⟨0, 0⟩
    finishedLanes := Lanes.default
    remainingLanes := Lanes.no
    pendingLanes := Lanes.no
    rootUpdateCallbacks := ⟨.none, [], [], []⟩
    pendingPassiveHandoff := some {
      root := ⟨0, 0⟩
      finishedWork := ⟨0, 0⟩
      lanes := Lanes.default
      pendingUnmountCount := 3
      pendingMountCount := 3 } }
  functionComponentCommittedPassiveEffects := {
    fibers := [⟨⟨1, 0⟩, Lanes.default,
      sampleEffects.filterMap (·.unmountPhaseRecord) ++ sampleEffects.map (·.mountPhaseRecord)⟩] }
  functionComponentDeletedSubtreePassiveEffects := ⟨[]⟩

/-- The stored destroys of the effects, of which the second one is gone. -/
def sampleHookEffects : HookEffectArena where
  arenaId := ⟨1⟩
  instances := ((SlotArena.empty.insert ⟨some ⟨10⟩⟩).2.insert ⟨none⟩).2.insert ⟨some ⟨12⟩⟩ |>.2

def samplePassiveWorld : PassiveFlushWorld (List HookEffectCallbackHandle) Unit where
  store :=
    stateAfter ((do
      let root ← createClientRoot .none .concurrent
      modifyRoot id root (FiberRoot.onScheduling
        ({ · with pendingPassive := samplePendingPassive })) :
      RootStoreM FiberRootStoreError Unit).run .new)
  destroyHandleClearStore := some sampleHookEffects
  destroyExecutorState := []
  mountCreateExecutorState := ()

def noteDestroys : PassiveEffectDestroyCallbackExecutor (List HookEffectCallbackHandle) :=
  fun request => modify (· ++ [request.destroy])

def flushSampleEffects :
    PassiveFlushM (List HookEffectCallbackHandle) Unit PassiveEffectsFlushResult :=
  flushPassiveEffectsAfterCommitInner samplePassiveCommit .committedFiberEffects
    (some noteDestroys) none

end Samples

end FastReact
