import FastReact.HookStagingChecks

namespace FastReact

open ErrorState HookQueueStore LinkChain LinkedArena List

/-!
# Hook staging all or nothing

Staged updates that pass their checks are appended, all of them and in staging order; when
a check fails nothing has changed.  The pending updates of the queues are the old ones
followed by the staged ones as long as no two queues share an update, and they never do
in the stores that the operations make.
-/

variable {State Action ReducerId DispatchId OwnerId : Type}

/-- The staged updates of one queue, in staging order. -/
def stagedForQueue (staged : List (StagedHookUpdate OwnerId)) (queue : HookQueueId) :
    List HookUpdateId :=
  staged.filterMap fun entry => if entry.queue = queue then some entry.update else none

namespace HookQueueStore

variable {store after : HookQueueStore State Action ReducerId DispatchId}
  {members : HookQueueId → List HookUpdateId} {staged : List (StagedHookUpdate OwnerId)}
  {queue : HookQueueId}

theorem PendingApart.pendingUpdates {entry : HookQueue State ReducerId DispatchId}
    (apart : store.PendingApart members) (found : store.queues.get? queue = some entry) :
    store.pendingUpdates queue = .ok (members queue) := by
  obtain ⟨updates, ring⟩ := apart.holdsRing found
  rw [HookQueueStore.pendingUpdates, queue_eq_ok found]
  exact updateRing_eq_ok ring

theorem exists_queue_of_pendingUpdates {pending : List HookUpdateId}
    (collected : store.pendingUpdates queue = .ok pending) :
    ∃ entry, store.queues.get? queue = some entry := by
  obtain ⟨entry, resolved, -⟩ := bind_eq_ok_iff.mp collected
  exact ⟨entry, get?_of_queue_eq_ok resolved⟩

structure AppendsStaged (store : HookQueueStore State Action ReducerId DispatchId)
    (staged : List (StagedHookUpdate OwnerId))
    (after : HookQueueStore State Action ReducerId DispatchId) : Prop where
  rings : (∃ members, store.PendingApart members) →
    ∀ queue pending, store.pendingUpdates queue = .ok pending →
      after.pendingUpdates queue = .ok (pending ++ stagedForQueue staged queue)
  others : ∀ queue, (∀ entry ∈ staged, entry.queue ≠ queue) →
    after.queues.get? queue = store.queues.get? queue
  apart : KeepsPending store after

/-- Appending checked updates gives every queue its staged updates in staging order. -/
theorem PendingApart.run_appendStaged (apart : store.PendingApart members)
    (queues : ∀ entry ∈ staged, ∃ content, store.queues.get? entry.queue = some content)
    (updates : ∀ entry ∈ staged, ∃ node,
      store.updates.get? entry.update = some node ∧ node.next = none)
    (nodup : (staged.map StagedHookUpdate.update).Nodup) :
    ∃ after,
      (staged.forM fun entry =>
        (appendPendingUpdateUnchecked entry.queue entry.update :
          HookQueueM State Action ReducerId DispatchId Unit)).run store = .ok () after ∧
      after.PendingApart (fun queue => members queue ++ stagedForQueue staged queue) ∧
      ∀ queue content, store.queues.get? queue = some content →
        ∃ contentAfter, after.queues.get? queue = some contentAfter := by
  induction staged generalizing store members with
  | nil =>
    refine ⟨store, rfl, ?_, fun queue content found => ⟨content, found⟩⟩
    simpa [stagedForQueue] using apart
  | cons entry rest ih =>
    obtain ⟨⟨content, found⟩, restQueues⟩ := forall_mem_cons.mp queues
    obtain ⟨⟨node, live, unlinked⟩, restUpdates⟩ := forall_mem_cons.mp updates
    rw [map_cons, nodup_cons] at nodup
    obtain ⟨between, ran, apartBetween, foundBetween, only, keptUnlinked⟩ :=
      apart.run_append found live unlinked
    have queuesBetween : ∀ queue content, store.queues.get? queue = some content →
        ∃ contentBetween, between.queues.get? queue = some contentBetween := by
      intro other otherContent otherFound
      by_cases same : other = entry.queue
      · exact ⟨_, same ▸ foundBetween⟩
      · exact ⟨otherContent, (only other same).trans otherFound⟩
    have stillQueues : ∀ other ∈ rest, ∃ content,
        between.queues.get? other.queue = some content := by
      intro other member
      obtain ⟨otherContent, otherFound⟩ := restQueues other member
      exact queuesBetween other.queue otherContent otherFound
    have stillUpdates : ∀ other ∈ rest, ∃ node,
        between.updates.get? other.update = some node ∧ node.next = none := by
      intro other member
      have different : other.update ≠ entry.update :=
        fun same => nodup.1 (mem_map.mpr ⟨other, member, same⟩)
      obtain ⟨otherNode, otherLive, otherUnlinked⟩ := restUpdates other member
      exact ⟨otherNode, keptUnlinked _ otherNode different otherLive otherUnlinked, otherUnlinked⟩
    obtain ⟨after, ranRest, apartAfter, queuesAfter⟩ :=
      ih apartBetween stillQueues stillUpdates nodup.2
    refine ⟨after, ?_, ?_, ?_⟩
    · rw [run_forM_cons, ran]
      exact ranRest
    · have sameMembers : (fun queue => members queue ++ stagedForQueue (entry :: rest) queue) =
          fun queue => Function.update members entry.queue
            (members entry.queue ++ [entry.update]) queue ++ stagedForQueue rest queue := by
        funext queue
        by_cases same : queue = entry.queue
        · subst same
          simp [stagedForQueue]
        · simp [stagedForQueue, Function.update_of_ne same, Ne.symm same]
      rw [sameMembers]
      exact apartAfter
    · intro queue content isFound
      obtain ⟨contentBetween, isBetween⟩ := queuesBetween queue content isFound
      exact queuesAfter queue contentBetween isBetween

theorem StagedChecked.pendingApart (checked : store.StagedChecked staged)
    (apart : store.PendingApart members)
    (ran : (staged.forM fun entry =>
      (appendPendingUpdateUnchecked entry.queue entry.update :
        HookQueueM State Action ReducerId DispatchId Unit)).run store = .ok () after) :
    after.PendingApart (fun queue => members queue ++ stagedForQueue staged queue) ∧
      ∀ queue content, store.queues.get? queue = some content →
        ∃ contentAfter, after.queues.get? queue = some contentAfter := by
  have queues : ∀ entry ∈ staged, ∃ content, store.queues.get? entry.queue = some content := by
    intro entry member
    obtain ⟨content, found, -⟩ := checked.tails entry member
    exact ⟨content, found⟩
  obtain ⟨reached, ranApart, apartAfter, queuesAfter⟩ :=
    apart.run_appendStaged queues checked.updates checked.nodup
  obtain ⟨-, rfl⟩ := EStateM.Result.ok.inj (ran.symm.trans ranApart)
  exact ⟨apartAfter, queuesAfter⟩

theorem StagedChecked.appendsStaged (checked : store.StagedChecked staged)
    (ran : (staged.forM fun entry =>
      (appendPendingUpdateUnchecked entry.queue entry.update :
        HookQueueM State Action ReducerId DispatchId Unit)).run store = .ok () after) :
    store.AppendsStaged staged after where
  rings := by
    rintro ⟨members, apart⟩ queue pending collected
    obtain ⟨apartAfter, queuesAfter⟩ := checked.pendingApart apart ran
    obtain ⟨content, found⟩ := exists_queue_of_pendingUpdates collected
    obtain ⟨contentAfter, foundAfter⟩ := queuesAfter queue content found
    obtain rfl : members queue = pending :=
      Except.ok.inj ((apart.pendingUpdates found).symm.trans collected)
    exact apartAfter.pendingUpdates foundAfter
  others := by
    obtain ⟨reached, ranChecked, -, others⟩ := checked.run_append
    obtain ⟨-, rfl⟩ := EStateM.Result.ok.inj (ran.symm.trans ranChecked)
    exact others
  apart := by
    rintro ⟨members, apart⟩
    exact ⟨_, (checked.pendingApart apart ran).1⟩

end HookQueueStore

/-- Finishing is refused by the checks and changes nothing, or it appends every staged
update. -/
theorem run_finishQueueing_cases (store : HookQueueStore State Action ReducerId DispatchId)
    (staging : HookUpdateStaging OwnerId) :
    (∃ error, staging.entries.foldlM store.validateStagedUpdate ([], []) = .error error ∧
      finishQueueing.run (store, staging) = .error error (store, staging)) ∨
    ∃ seen after,
      staging.entries.foldlM store.validateStagedUpdate ([], []) = .ok seen ∧
      finishQueueing.run (store, staging) = .ok staging.entries (after, .new) ∧
      store.AppendsStaged staging.entries after := by
  cases checked : staging.entries.foldlM store.validateStagedUpdate ([], []) with
  | error error =>
    refine .inl ⟨error, rfl, ?_⟩
    simp only [finishQueueing, run_bind, run_get, whileHolding, run_focus, run_query, checked]
  | ok seen =>
    have accepts : ∀ seen entry seenLater,
        store.validateStagedUpdate seen entry = .ok seenLater →
        store.StagedAccepted seen (id entry : StagedHookUpdate OwnerId) seenLater :=
      fun _ _ _ => stagedAccepted_of_validateStagedUpdate
    have stagedChecked := (stagedChecked_of_foldlM accepts (by simp) checked).1
    rw [map_id] at stagedChecked
    obtain ⟨after, ran, -⟩ := stagedChecked.run_append
    refine .inr ⟨seen, after, rfl, ?_, stagedChecked.appendsStaged ran⟩
    simp only [finishQueueing, run_bind, run_get, whileHolding, run_focus,
      run_query, checked, ran, run_modify, run_pure]

namespace HookSourceStore

variable {sources : HookSourceStore State Action ReducerId DispatchId}
  {store : HookQueueStore State Action ReducerId DispatchId}
  {entries : List (SourceStagedHookUpdate OwnerId)}

theorem run_appendSourceStaged
    (ran : ((entries.map SourceStagedHookUpdate.toStagedHookUpdate).forM fun entry =>
      (appendPendingUpdateUnchecked entry.queue entry.update :
        HookQueueM State Action ReducerId DispatchId Unit)).run sources.store = .ok () store) :
    (entries.forM fun entry =>
      onHookQueues (appendPendingUpdateUnchecked entry.queue entry.update :
        HookQueueM State Action ReducerId DispatchId Unit)).run sources =
      .ok () { sources with store := store } := by
  induction entries generalizing sources with
  | nil =>
    cases ran
    rfl
  | cons entry rest ih =>
    rw [map_cons, run_forM_cons] at ran
    rw [run_forM_cons, onHookQueues, run_focus, run_mapError]
    cases first : (appendPendingUpdateUnchecked entry.queue entry.update :
      HookQueueM State Action ReducerId DispatchId Unit).run sources.store with
    | error error between =>
      rw [first] at ran
      cases ran
    | ok value between =>
      rw [first] at ran
      exact @ih { sources with store := between } ran

end HookSourceStore

open HookSourceStore

theorem run_finishQueueingWithSourceCurrentness_cases (hookLists : HookListArena)
    (sources : HookSourceStore State Action ReducerId DispatchId)
    (staging : SourceHookUpdateStaging OwnerId) :
    (∃ error,
      staging.entries.foldlM (sources.validateStagedUpdateSource hookLists) ([], []) =
        .error error ∧
      (finishQueueingWithSourceCurrentness hookLists).run (sources, staging) =
        .error error (sources, staging)) ∨
    ∃ seen after,
      staging.entries.foldlM (sources.validateStagedUpdateSource hookLists) ([], []) = .ok seen ∧
      (finishQueueingWithSourceCurrentness hookLists).run (sources, staging) =
        .ok staging.entries (after, .new) ∧
      sources.store.AppendsStaged
        (staging.entries.map SourceStagedHookUpdate.toStagedHookUpdate) after.store := by
  cases checked : staging.entries.foldlM (sources.validateStagedUpdateSource hookLists) ([], []) with
  | error error =>
    refine .inl ⟨error, rfl, ?_⟩
    simp only [finishQueueingWithSourceCurrentness, run_bind, run_get,
      whileStaging, run_focus, run_query, checked]
  | ok seen =>
    obtain ⟨stagedChecked, stored⟩ := stagedChecked_of_sources checked
    obtain ⟨appended, ran, sameData, -⟩ := stagedChecked.run_append
    have lives : ∀ update ∈ staging.entries.map (·.update), ∃ data,
        appended.updates.data? update = some data := by
      intro update member
      obtain ⟨entry, isStaged, rfl⟩ := mem_map.mp member
      obtain ⟨node, live, -⟩ := stagedChecked.updates entry.toStagedHookUpdate
        (mem_map_of_mem isStaged)
      exact ⟨node.data, (sameData entry.update).trans (by simp [data?, live])⟩
    have storedUpdates : ∀ update ∈ staging.entries.map (·.update), ∃ stored,
        sources.pendingSource update = some stored ∧ stored.consumed = false := by
      intro update member
      obtain ⟨entry, isStaged, rfl⟩ := mem_map.mp member
      exact stored entry isStaged
    have nodup : (staging.entries.map (·.update)).Nodup := by
      have distinct := stagedChecked.nodup
      rwa [map_map] at distinct
    obtain ⟨after, consumed, sameStore⟩ := @run_consumePendingUpdateSources _ _ _ _
      { sources with store := appended } _ lives storedUpdates nodup
    have visits : (staging.entries.map (·.update)).forM (consumePendingUpdateSource :
        HookUpdateId → HookSourceM State Action ReducerId DispatchId Unit) =
        staging.entries.forM fun entry => consumePendingUpdateSource entry.update :=
      forM_map
    rw [visits] at consumed
    refine .inr ⟨seen, after, rfl, ?_, sameStore ▸ stagedChecked.appendsStaged ran⟩
    simp only [finishQueueingWithSourceCurrentness, run_bind, run_get, whileStaging, run_focus,
      run_query, checked, run_appendSourceStaged ran, consumed, run_modify, run_pure]

/-- One operation on the store.  Slots, staged updates, recorded queues and sources are
whatever the operation is called with, and it may fail. -/
inductive HookStoreStep (store : HookQueueStore State Action ReducerId DispatchId) :
    HookQueueStore State Action ReducerId DispatchId → Prop where
  | createQueue (initialState : State) :
      HookStoreStep store (stateAfter ((createQueue initialState).run store))
  | createUpdate (lane : HookUpdateLane) (action : Action) :
      HookStoreStep store (stateAfter ((createUpdate lane action).run store))
  | createUpdateFromDispatchMetadata (metadata : HookUpdateDispatchMetadata Action State) :
      HookStoreStep store (stateAfter ((createUpdateFromDispatchMetadata metadata).run store))
  | createSourceOwnedUpdate (pendingSource : HookUpdateId → Option HookPendingUpdateSourceState)
      (hookSource : HookStateQueueSource) (lane : HookUpdateLane)
      (action : Action) :
      HookStoreStep store
        (stateAfter ((createSourceOwnedUpdate hookSource lane action).run
          ⟨store, pendingSource⟩)).store
  /-- The setters of an update keep its link. -/
  | modifyUpdate (id : HookUpdateId) (change : HookUpdate Action State → HookUpdate Action State)
      (sameLink : ∀ update, (change update).next = update.next) :
      HookStoreStep store (stateAfter ((modifyUpdate id change).run store))
  /-- The setters of a queue keep its pending tail. -/
  | modifyQueue (queue : HookQueueId)
      (change : HookQueue State ReducerId DispatchId → HookQueue State ReducerId DispatchId)
      (samePending : ∀ entry, (change entry).pending = entry.pending) :
      HookStoreStep store (stateAfter ((modifyQueue queue change).run store))
  | appendPendingUpdate (queue : HookQueueId) (update : HookUpdateId) :
      HookStoreStep store (stateAfter ((appendPendingUpdate queue update).run store))
  | enqueueRenderPhaseUpdate (queue : HookQueueId) (update : HookUpdateId)
      (recorded : RenderPhaseHookUpdates) :
      HookStoreStep store (stateAfter ((enqueueRenderPhaseUpdate queue update).run
        (store, recorded))).1
  | clearRenderPhaseUpdates (recorded : RenderPhaseHookUpdates) :
      HookStoreStep store (stateAfter (clearRenderPhaseUpdates.run (store, recorded))).1
  | processUpdateQueue (slot : HookStateSlot State) (renderLanes rootRenderLanes : Lanes)
      (reducer : State → Action → State) :
      HookStoreStep store (stateAfter ((processUpdateQueue renderLanes rootRenderLanes reducer).run
        (store, slot))).1
  | processRenderPhaseUpdates (slot : HookStateSlot State)
      (reducer : State → Action → State) :
      HookStoreStep store (stateAfter ((processRenderPhaseUpdates reducer).run (store, slot))).1
  | finishQueueing {OwnerId : Type} (staging : HookUpdateStaging OwnerId) :
      HookStoreStep store (stateAfter (finishQueueing.run (store, staging))).1
  | finishQueueingWithSourceCurrentness {OwnerId : Type} (hookLists : HookListArena)
      (pendingSource : HookUpdateId → Option HookPendingUpdateSourceState)
      (staging : SourceHookUpdateStaging OwnerId) :
      HookStoreStep store
        (stateAfter ((finishQueueingWithSourceCurrentness hookLists).run
          (⟨store, pendingSource⟩, staging))).1.store
  | reclaimUpdate (id : HookUpdateId) :
      HookStoreStep store (stateAfter ((reclaimUpdate id).run store))
  | reclaimQueue (id : HookQueueId) :
      HookStoreStep store (stateAfter ((reclaimQueue id).run store))

variable {store after : HookQueueStore State Action ReducerId DispatchId}

theorem keepsPending_createSourceOwnedUpdate
    (sources : HookSourceStore State Action ReducerId DispatchId)
    (hookSource : HookStateQueueSource) (lane : HookUpdateLane) (action : Action) :
    KeepsPending sources.store
      (stateAfter ((createSourceOwnedUpdate hookSource lane action).run sources)).store := by
  have created : KeepsPending sources.store
      (stateAfter ((createUpdate lane action).run sources.store)) :=
    keepsPending_insertUpdate _ sources.store
  rw [createSourceOwnedUpdate]
  by_cases isSourceOwned : (!hookSource.isSourceOwned) = true
  · rw [if_pos isSourceOwned]
    exact refl_of KeepsPending sources.store
  · rw [if_neg isSourceOwned, run_bind, onHookQueues, run_focus, run_mapError, run_query]
    cases sources.store.queue hookSource.queue with
    | error error => exact refl_of KeepsPending sources.store
    | ok content => exact created

/-- No operation makes two queues share a pending update. -/
theorem HookStoreStep.keepsPending (step : HookStoreStep store after) :
    KeepsPending store after := by
  cases step with
  | createQueue initialState => exact keepsPending_createQueue initialState store
  | createUpdate lane action => exact keepsPending_insertUpdate _ store
  | createUpdateFromDispatchMetadata metadata => exact keepsPending_insertUpdate _ store
  | createSourceOwnedUpdate pendingSource hookSource lane action =>
    exact keepsPending_createSourceOwnedUpdate ⟨store, pendingSource⟩ hookSource lane action
  | modifyUpdate id change sameLink => exact keepsPending_modifyUpdate sameLink id store
  | modifyQueue queue change samePending => exact keepsPending_modifyQueue samePending queue store
  | appendPendingUpdate queue update => exact keepsPending_appendPendingUpdate queue update store
  | enqueueRenderPhaseUpdate queue update recorded =>
    exact keepsPending_enqueueRenderPhaseUpdate queue update (store, recorded)
  | clearRenderPhaseUpdates recorded => exact keepsPending_clearRenderPhaseUpdates (store, recorded)
  | processUpdateQueue slot renderLanes rootRenderLanes reducer =>
    exact keepsPending_processUpdateQueue renderLanes rootRenderLanes reducer (store, slot)
  | processRenderPhaseUpdates slot reducer =>
    exact keepsPending_processRenderPhaseUpdates reducer (store, slot)
  | finishQueueing staging =>
    rcases run_finishQueueing_cases store staging with
      ⟨error, -, failed⟩ | ⟨seen, finished, -, ran, appends⟩
    · rw [failed]
      exact refl_of KeepsPending store
    · rw [ran]
      exact appends.apart
  | finishQueueingWithSourceCurrentness hookLists pendingSource staging =>
    rcases run_finishQueueingWithSourceCurrentness_cases hookLists ⟨store, pendingSource⟩ staging
      with ⟨error, -, failed⟩ | ⟨seen, finished, -, ran, appends⟩
    · rw [failed]
      exact refl_of KeepsPending store
    · rw [ran]
      exact appends.apart
  | reclaimUpdate id => exact keepsPending_reclaimUpdate id store
  | reclaimQueue id => exact keepsPending_reclaimQueue id store

theorem exists_pendingApart_of_reached
    (reached : Relation.ReflTransGen HookStoreStep HookQueueStore.new store) :
    ∃ members, store.PendingApart members := by
  induction reached with
  | refl =>
    refine ⟨fun _ => [], fun queue => ?_, fun _ _ _ => disjoint_nil_left _⟩
    exact rfl
  | tail _ step ih => exact step.keepsPending ih

/-- Finishing appends all staged updates or changes nothing, for every store.  The new
pending updates come last when no two queues share a pending update, as in every store
that the operations made. -/
theorem hook_staging_all_or_nothing :
    (∀ (store : HookQueueStore State Action ReducerId DispatchId)
      (staging : HookUpdateStaging OwnerId),
      AllOrNothing
        (fun after => after.2 = .new ∧ store.AppendsStaged staging.entries after.1)
        finishQueueing (store, staging) ∧
      ∀ seen, staging.entries.foldlM store.validateStagedUpdate ([], []) = .ok seen →
        ∃ finished after, finishQueueing.run (store, staging) = .ok finished after) ∧
    (∀ (hookLists : HookListArena)
      (sources : HookSourceStore State Action ReducerId DispatchId)
      (staging : SourceHookUpdateStaging OwnerId),
      AllOrNothing
        (fun after => after.2 = .new ∧ sources.store.AppendsStaged
          (staging.entries.map SourceStagedHookUpdate.toStagedHookUpdate) after.1.store)
        (finishQueueingWithSourceCurrentness hookLists) (sources, staging) ∧
      ∀ seen,
        staging.entries.foldlM (sources.validateStagedUpdateSource hookLists) ([], []) = .ok seen →
        ∃ finished after,
          (finishQueueingWithSourceCurrentness hookLists).run (sources, staging) =
            .ok finished after) ∧
    ∀ store : HookQueueStore State Action ReducerId DispatchId,
      Relation.ReflTransGen HookStoreStep .new store → ∃ members, store.PendingApart members := by
  refine ⟨fun store staging => ?_, fun hookLists sources staging => ?_,
    fun store reached => exists_pendingApart_of_reached reached⟩
  · rcases run_finishQueueing_cases store staging with
      ⟨error, refused, failed⟩ | ⟨seen, after, accepted, ran, appends⟩
    · refine ⟨.of_error error failed, fun seen accepted => ?_⟩
      rw [refused] at accepted
      cases accepted
    · exact ⟨.of_ok ran ⟨rfl, appends⟩, fun _ _ => ⟨_, _, ran⟩⟩
  · rcases run_finishQueueingWithSourceCurrentness_cases hookLists sources staging with
      ⟨error, refused, failed⟩ | ⟨seen, after, accepted, ran, appends⟩
    · refine ⟨.of_error error failed, fun seen accepted => ?_⟩
      rw [refused] at accepted
      cases accepted
    · exact ⟨.of_ok ran ⟨rfl, appends⟩, fun _ _ => ⟨_, _, ran⟩⟩

/-- Two queues, the first with a pending update, and another update. -/
def onePendingUpdate : HookQueueStore Nat Nat Unit Unit :=
  stateAfter ((do
    let first ← createQueue 0
    let _ ← createQueue 0
    let pending ← createUpdate .no 1
    appendPendingUpdate first pending
    let _ ← createUpdate .no 2 : HookQueueM Nat Nat Unit Unit Unit).run .new)

def otherUpdateStaged : HookUpdateStaging Nat :=
  HookUpdateStaging.new.stage 0 ⟨0, 0⟩ ⟨1, 0⟩ .no

/-- The staged update comes behind the pending one, and the other queue stays empty. -/
theorem hook_staging_all_or_nothing_sample :
    ∃ finished after,
      finishQueueing.run (onePendingUpdate, otherUpdateStaged) = .ok finished after ∧
      after.1.pendingUpdates ⟨0, 0⟩ = .ok [⟨0, 0⟩, ⟨1, 0⟩] ∧
      after.1.queues.get? ⟨1, 0⟩ = onePendingUpdate.queues.get? ⟨1, 0⟩ := by
  obtain ⟨forStores, -, forReached⟩ := @hook_staging_all_or_nothing Nat Nat Unit Unit Nat
  obtain ⟨finishes, succeeds⟩ := forStores onePendingUpdate otherUpdateStaged
  have accepted : otherUpdateStaged.entries.foldlM onePendingUpdate.validateStagedUpdate ([], []) =
      .ok ([⟨1, 0⟩], [⟨0, 0⟩]) := rfl
  obtain ⟨finished, after, ran⟩ := succeeds _ accepted
  rw [AllOrNothing, ran] at finishes
  obtain ⟨-, appends⟩ := finishes
  have reached : Relation.ReflTransGen HookStoreStep .new onePendingUpdate :=
    ((((Relation.ReflTransGen.refl.tail (.createQueue 0)).tail (.createQueue 0)).tail
      (.createUpdate .no 1)).tail (.appendPendingUpdate ⟨0, 0⟩ ⟨0, 0⟩)).tail (.createUpdate .no 2)
  have wasPending : onePendingUpdate.pendingUpdates ⟨0, 0⟩ = .ok [⟨0, 0⟩] := rfl
  exact ⟨finished, after, ran, appends.rings (forReached _ reached) _ _ wasPending,
    appends.others _ (by decide)⟩

/-- The second queue has the pending updates of the first one as well. -/
def sharedPendingTail : HookQueueStore Nat Nat Unit Unit :=
  stateAfter ((do
    let entry ← query (·.queue ⟨0, 0⟩)
    modifyQueue ⟨1, 0⟩ fun _ => entry : HookQueueM Nat Nat Unit Unit Unit).run onePendingUpdate)

/-- No update is staged for the second queue, and still its pending updates change. -/
theorem shared_tail_changes_other_queue :
    (∃ finished after,
      finishQueueing.run (sharedPendingTail, otherUpdateStaged) = .ok finished after) ∧
    (sharedPendingTail.pendingUpdates ⟨1, 0⟩).toOption = some [⟨0, 0⟩] ∧
    stagedForQueue otherUpdateStaged.entries ⟨1, 0⟩ = [] ∧
    ((stateAfter (finishQueueing.run
      (sharedPendingTail, otherUpdateStaged))).1.pendingUpdates ⟨1, 0⟩).toOption =
        some [⟨1, 0⟩, ⟨0, 0⟩] :=
  ⟨⟨_, _, rfl⟩, rfl, rfl, rfl⟩

end FastReact
