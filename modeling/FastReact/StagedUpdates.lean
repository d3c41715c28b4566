import FastReact.RootUpdates
import FastReact.UpdateQueueListRuns

namespace FastReact

open ErrorState LinkChain LinkedArena List UpdateQueueStore

/-!
# Staged updates

Every update is created for one place in one queue. Until a drain appends it there it is in no
list, and neither passes nor commits put it into one, so that a drain finds it ready.
-/

namespace UpdateQueueStore

/-- Updates that are there, in no list, and different. -/
abbrev Unlisted (store : UpdateQueueStore) (ids : List UpdateId) : Prop :=
  DrainReady (fun _ => False) store ids

/-- Updates that are in no list stay in none. -/
def KeepsUnlisted (store after : UpdateQueueStore) : Prop :=
  ∀ ids, Unlisted store ids → Unlisted after ids

instance : IsPreorder UpdateQueueStore KeepsUnlisted where
  refl _ _ unlisted := unlisted
  trans _ _ _ keeps keepsLater ids unlisted := keepsLater ids (keeps ids unlisted)

variable {store : UpdateQueueStore} {ids : List UpdateId} {id : UpdateId}

theorem unlisted_new : Unlisted .new [] where
  unlisted := by
    obtain ⟨lists, apart⟩ := queuesApart_new
    exact ⟨lists, apart, fun id among => by cases among⟩
  nodup := nodup_nil
  links := fun _ impossible => impossible.elim

theorem Unlisted.insertRootUpdate (unlisted : Unlisted store ids) (update : RootUpdate) :
    ∃ id after, (insertRootUpdate update).run store = .ok id after ∧ Unlisted after (id :: ids) := by
  obtain ⟨id, after, ran, isNew, found, sameQueues, extension⟩ := run_insertRootUpdate store update
  obtain ⟨lists, apart, loose⟩ := unlisted.unlisted
  refine ⟨id, after, ran, ⟨lists, apart.of_extends (queue_of_queues_eq sameQueues) extension, ?_⟩,
    nodup_cons.mpr ⟨?_, unlisted.nodup⟩, fun _ impossible => impossible.elim⟩
  · intro other among
    rcases mem_cons.mp among with rfl | among
    · exact ⟨⟨update.data, by simp [data?, found]⟩, fun handle => apart.not_mem_of_new isNew⟩
    · obtain ⟨⟨data, live⟩, outside⟩ := loose other among
      exact ⟨⟨data, extension.data other data live⟩, outside⟩
  · intro among
    obtain ⟨⟨data, live⟩, -⟩ := loose id among
    rw [isNew] at live
    cases live

theorem Unlisted.of_same {after : UpdateQueueStore} (unlisted : Unlisted store ids)
    (sameLists : ∀ handle queueAfter, after.queue handle = .ok queueAfter →
      ∃ queue, store.queue handle = .ok queue ∧ queueAfter.firstBaseUpdate = queue.firstBaseUpdate ∧
        queueAfter.lastBaseUpdate = queue.lastBaseUpdate ∧
        queueAfter.shared.pending = queue.shared.pending)
    (sameHandles : ∀ handle queue, store.queue handle = .ok queue →
      ∃ queueAfter, after.queue handle = .ok queueAfter)
    (sameNodes : ∀ other, other ∉ ids → after.updates.get? other = store.updates.get? other)
    (live : ∀ other ∈ ids, ∃ data, after.updates.data? other = some data) : Unlisted after ids := by
  obtain ⟨lists, apart, loose⟩ := unlisted.unlisted
  have notLoose : ∀ handle, ∀ other ∈ (lists handle).ids, other ∉ ids :=
    fun handle other member among => (loose other among).2 handle member
  refine ⟨⟨lists, ⟨?_, ?_, apart.apart⟩, fun other among => ⟨live other among, (loose other among).2⟩⟩,
    unlisted.nodup, fun _ impossible => impossible.elim⟩
  · intro handle queueAfter found
    obtain ⟨queue, foundBefore, sameFirst, sameLast, samePending⟩ := sameLists handle queueAfter found
    have view := apart.view handle queue foundBefore
    refine ⟨found, ?_, ?_, view.disjoint⟩
    · rw [sameFirst, sameLast]
      exact view.basePath.congr fun other member =>
        sameNodes other (notLoose handle other (mem_append_left _ member))
    · rw [samePending]
      exact view.pendingRing.congr fun other member =>
        sameNodes other (notLoose handle other (mem_append_right _ member))
  · intro handle missing
    refine apart.absent handle fun queue found => ?_
    obtain ⟨queueAfter, foundAfter⟩ := sameHandles handle queue found
    exact missing queueAfter foundAfter

theorem keepsUnlisted_modifyUpdateQueue {change : UpdateQueue → UpdateQueue}
    (sameFirst : ∀ queue, (change queue).firstBaseUpdate = queue.firstBaseUpdate)
    (sameLast : ∀ queue, (change queue).lastBaseUpdate = queue.lastBaseUpdate)
    (samePending : ∀ queue, (change queue).shared.pending = queue.shared.pending)
    (handle : UpdateQueueHandle) : Within KeepsUnlisted (modifyUpdateQueue handle change) := by
  intro store ids unlisted
  cases found : store.queue handle with
  | error error =>
    simpa only [modifyUpdateQueue, run_bind, run_query, found, stateAfter] using unlisted
  | ok queue =>
    rw [run_modifyUpdateQueue found]
    obtain ⟨lists, apart, loose⟩ := unlisted.unlisted
    refine unlisted.of_same ?_ ?_ (fun _ _ => rfl) (fun other among => (loose other among).1)
    · intro other queueAfter foundAfter
      rw [stateAfter, queue_changeQueue found] at foundAfter
      by_cases same : other = handle
      · rw [if_pos same] at foundAfter
        cases foundAfter
        exact ⟨queue, same ▸ found, sameFirst queue, sameLast queue, samePending queue⟩
      · rw [if_neg same] at foundAfter
        exact ⟨queueAfter, foundAfter, rfl, rfl, rfl⟩
    · intro other otherQueue foundOther
      rw [stateAfter, queue_changeQueue found]
      by_cases same : other = handle
      · exact ⟨_, if_pos same⟩
      · exact ⟨otherQueue, by rw [if_neg same, foundOther]⟩

theorem unlisted_modifyRootUpdate (change : RootUpdateData → RootUpdateData) (among : id ∈ ids) :
    Leads (Unlisted · ids) (Unlisted · ids) (modifyRootUpdate id change) := by
  intro store unlisted
  obtain ⟨lists, apart, loose⟩ := unlisted.unlisted
  obtain ⟨⟨data, live⟩, -⟩ := loose id among
  simp only [modifyRootUpdate, run_bind, run_query, update_eq_ok live, run_modify, stateAfter]
  refine unlisted.of_same (fun handle queue found => ⟨queue, found, rfl, rfl, rfl⟩)
    (fun handle queue found => ⟨queue, found⟩) ?_ ?_
  · intro other outside
    have different : other ≠ id := by
      rintro rfl
      exact outside among
    exact (SlotArena.get?_modify _ _ _ _).trans (if_neg different)
  · intro other isLoose
    obtain ⟨⟨otherData, otherLive⟩, -⟩ := loose other isLoose
    rw [data?, SlotArena.get?_modify]
    by_cases same : other = id
    · subst same
      simp [get?_of_data? otherLive]
    · exact ⟨otherData, by rw [if_neg same]; exact otherLive⟩

theorem keepsUnlisted_pushUpdateQueue (store : UpdateQueueStore) (baseState : HostRootState) :
    KeepsUnlisted store { store with queues := store.queues ++ [UpdateQueue.new baseState] } := by
  intro ids unlisted
  obtain ⟨lists, apart, loose⟩ := unlisted.unlisted
  have view : HasLists { store with queues := store.queues ++ [UpdateQueue.new baseState] }
      ⟨store.queues.length + 1⟩ (UpdateQueue.new baseState) .empty := by
    refine ⟨?_, ⟨⟨rfl, rfl⟩, rfl⟩, ⟨rfl, rfl⟩, disjoint_nil_left _⟩
    simp [UpdateQueueStore.queue, OpaqueHandle.isNone]
  refine ⟨⟨_, apart.change_one (fun other different => queue_append_of_ne different)
    (fun _ _ _ _ => rfl) view fun _ _ => disjoint_nil_left _, ?_⟩, unlisted.nodup,
    fun _ impossible => impossible.elim⟩
  intro id among
  obtain ⟨live, outside⟩ := loose id among
  refine ⟨live, fun handle => ?_⟩
  by_cases same : handle = ⟨store.queues.length + 1⟩
  · rw [same, Function.update_self]
    exact not_mem_nil
  · rw [Function.update_of_ne same]
    exact outside handle

theorem keepsUnlisted_takeRootUpdateCallbackRecords (handle : UpdateQueueHandle) :
    Within KeepsUnlisted (takeRootUpdateCallbackRecords handle) := by
  refine .bind (.query _) fun queue => .bind ?_ fun _ => .pure _
  apply keepsUnlisted_modifyUpdateQueue <;> exact fun _ => rfl

theorem keepsUnlisted_entangleTransitionUpdate (handle : UpdateQueueHandle)
    (rootPendingLanes : Lanes) (lane : Lane) :
    Within KeepsUnlisted (entangleTransitionUpdate handle rootPendingLanes lane) := by
  refine .ite (.pure _) (.bind (.query _) fun queue => .bind ?_ fun _ => .pure _)
  apply keepsUnlisted_modifyUpdateQueue <;> exact fun _ => rfl

end UpdateQueueStore

def StagedApart (others : List UpdateId) (store : FiberRootStore) : Prop :=
  Unlisted store.updateQueues (others ++ stagedIds store.concurrentUpdates.staged)

/-- Staged updates stay in no list. -/
def KeepsStaged (others : List UpdateId) (store after : FiberRootStore) : Prop :=
  StagedApart others store → StagedApart others after

section Staged

variable {others : List UpdateId} {store : FiberRootStore}

instance : IsPreorder FiberRootStore (KeepsStaged others) where
  refl _ apart := apart
  trans _ _ _ keeps keepsLater apart := keepsLater (keeps apart)

theorem ignoresFibers_keepsStaged : IgnoresFibers (KeepsStaged others) :=
  fun _ _ apart => apart

theorem keepsStaged_onUpdateQueues {ε α : Type} {body : UpdateQueueM α}
    (kept : Within KeepsUnlisted body) (wrap : UpdateQueueError → ε) :
    Within (KeepsStaged others) (onUpdateQueues wrap body) :=
  .mapError wrap (.focus_within kept fun _ _ related apart => related _ apart)

theorem keepsStaged_ensureHostRootUpdateQueue (rootId : FiberRootId) :
    Within (KeepsStaged others) (ensureHostRootUpdateQueue rootId) := by
  refine .bind (within_getRoot _ _) fun root => .bind (within_getFiber _ _) fun node =>
    .ite (.pure _) (.bind (.query _) fun state => .bind ?_ fun queue =>
    .bind (within_onFibers _ _ ignoresFibers_keepsStaged) fun _ =>
    .bind (within_getFiber _ _) fun after => ?_)
  · exact .modifyGet fun store apart => keepsUnlisted_pushUpdateQueue store.updateQueues state _ apart
  · cases after.alternate with
    | none => exact .pure _
    | some alternate => exact .bind (within_onFibers _ _ ignoresFibers_keepsStaged) fun _ => .pure _

theorem keepsStaged_markUpdateLanesFromFiberToRoot (fiber : FiberId) (lanes : Lanes) :
    Within (KeepsStaged others) (markUpdateLanesFromFiberToRoot fiber lanes) :=
  ignoresFibers_keepsStaged.within_markUpdateLanesFromFiberToRoot (fun _ _ _ apart => apart) fiber lanes

theorem staged_enqueueConcurrentHostRootUpdate (fiber : FiberId) (queue : UpdateQueueHandle)
    (update : UpdateId) (lane : Lane) :
    Leads (StagedApart [update]) (StagedApart [])
      (enqueueConcurrentHostRootUpdate fiber queue update lane) := by
  have fewer : ∀ store, StagedApart [update] store → StagedApart [] store := fun store apart =>
    apart.of_subset (subset_append_right _ _) (nodup_append'.mp apart.nodup).2.1
  refine .bind (StagedApart [update]) ?_ (fun _ => ?_) fewer
  · exact fun store => ignoresFibers_keepsStaged.within_markSourceFiberLanes fiber _ store
  refine .bind (StagedApart []) (.modify ?_) (fun _ store apart => ?_) fun _ apart => apart
  · intro store apart
    have staged : stagedIds (store.concurrentUpdates.push
        { fiber := fiber, queue := some queue, update := some update, lane := lane }).staged =
          stagedIds store.concurrentUpdates.staged ++ [update] := by
      simp [stagedIds, ConcurrentUpdateStaging.push]
    change Unlisted store.updateQueues (stagedIds _)
    rw [staged]
    exact apart.of_subset (by intro id among; simpa [or_comm] using among)
      (nodup_append_comm.mp apart.nodup)
  · have kept : KeepsStaged [] store (stateAfter ((rootForUpdatedFiber fiber).run store)) :=
      within_rootForUpdatedFiber fiber store
    exact kept apart

/-- Stores with the same staged updates. -/
def SameStaging (store after : FiberRootStore) : Prop :=
  after.concurrentUpdates = store.concurrentUpdates

instance : IsPreorder FiberRootStore SameStaging where
  refl _ := rfl
  trans _ _ _ same sameLater := sameLater.trans same

theorem sameStaging_drainStagedEntry (roots : List FiberRootId)
    (entry : StagedConcurrentUpdate × FiberRootId) :
    Within SameStaging (drainStagedEntry roots entry) := by
  have ignores : IgnoresFibers SameStaging := fun _ _ => rfl
  exact within_drainStagedEntry roots entry
    (ignores.within_markUpdateLanesFromFiberToRoot (fun _ _ _ => rfl) _ _)
    fun _ _ _ _ => within_onUpdateQueues _ _ fun _ _ => rfl

theorem staged_finishQueueingConcurrentUpdates :
    Leads (StagedApart []) (StagedApart []) finishQueueingConcurrentUpdates := by
  intro store apart
  have unchanged : Eq store (stateAfter (validateStagedConcurrentUpdatesForDrain.run store)) :=
    within_validateStagedConcurrentUpdatesForDrain store
  rw [finishQueueingConcurrentUpdates, run_bind]
  cases ran : validateStagedConcurrentUpdatesForDrain.run store with
  | error error after =>
    rw [ran] at unchanged
    exact unchanged ▸ apart
  | ok roots after =>
    rw [ran] at unchanged
    subst unchanged
    obtain ⟨cleared, isCleared⟩ : ∃ cleared : FiberRootStore,
      cleared = { store with concurrentUpdates := .new } := ⟨_, rfl⟩
    obtain ⟨entries, isEntries⟩ : ∃ entries, entries = store.concurrentUpdates.staged.zip roots :=
      ⟨_, rfl⟩
    have firsts : List.Sublist (entries.map Prod.fst) store.concurrentUpdates.staged := by
      rw [isEntries, zip_eq_zip_take_min, map_fst_zip (by simp)]
      exact take_sublist _ _
    have ready : Unlisted cleared.updateQueues (stagedIds (entries.map Prod.fst)) := by
      have fewer : List.Sublist (stagedIds (entries.map Prod.fst))
          (stagedIds store.concurrentUpdates.staged) := firsts.filterMap _
      rw [isCleared]
      exact apart.of_subset fewer.subset (apart.nodup.sublist fewer)
    have drained := drainReady_drainStagedEntries ready []
    have noneStaged : SameStaging cleared
        (stateAfter ((entries.foldlM drainStagedEntry []).run cleared)) :=
      Within.foldlM sameStaging_drainStagedEntry entries [] cleared
    have ended : StagedApart [] (stateAfter ((entries.foldlM drainStagedEntry []).run cleared)) := by
      rw [StagedApart, noneStaged, isCleared]
      rw [isCleared] at drained
      exact drained
    rw [isCleared, isEntries] at ended
    exact ended

/-- Create an update for a queue and stage it. -/
def enqueueRootUpdate (fiber : FiberId) (queue : UpdateQueueHandle) (lane : Lane)
    (element : RootElementHandle) (callback : RootUpdateCallbackHandle) :
    ConcurrentUpdateM FiberRootId := do
  let update ← onUpdateQueues .updateQueue (createRootUpdate lane)
  onUpdateQueues .updateQueue (modifyRootUpdate update (·.setPayload ⟨element⟩))
  onUpdateQueues .updateQueue (modifyRootUpdate update (·.setCallback callback))
  enqueueConcurrentHostRootUpdate fiber queue update lane

theorem StagedApart.createRootUpdate {ε α : Type} {next : UpdateId → RootStoreM ε α}
    {after : FiberRootStore → Prop} (wrap : UpdateQueueError → ε) (lane : Lane)
    (later : ∀ update, Leads (StagedApart [update]) after (next update)) :
    Leads (StagedApart []) after (onUpdateQueues wrap (FastReact.createRootUpdate lane) >>= next) := by
  intro store apart
  obtain ⟨update, created, ran, unlisted⟩ := Unlisted.insertRootUpdate apart (RootUpdate.new lane)
  have createdRan : (FastReact.createRootUpdate lane).run store.updateQueues = .ok update created := ran
  rw [run_bind, run_onUpdateQueues createdRan]
  exact later update { store with updateQueues := created } unlisted

theorem staged_modifyRootUpdate {ε : Type} (wrap : UpdateQueueError → ε) (update : UpdateId)
    (change : RootUpdateData → RootUpdateData) :
    Leads (StagedApart [update]) (StagedApart [update])
      (onUpdateQueues wrap (modifyRootUpdate update change)) := by
  refine .mapError wrap fun store apart => ?_
  have changed := unlisted_modifyRootUpdate change
    (mem_append_left (stagedIds store.concurrentUpdates.staged) (mem_singleton.mpr rfl))
    store.updateQueues apart
  rw [run_focus]
  cases ran : (modifyRootUpdate update change).run store.updateQueues <;> rw [ran] at changed <;>
    exact changed

theorem StagedApart.forget {update : UpdateId} (apart : StagedApart [update] store) :
    StagedApart [] store :=
  apart.of_subset (subset_append_right _ _) (nodup_append'.mp apart.nodup).2.1

theorem staged_enqueueRootUpdate (fiber : FiberId) (queue : UpdateQueueHandle) (lane : Lane)
    (element : RootElementHandle) (callback : RootUpdateCallbackHandle) :
    Leads (StagedApart []) (StagedApart []) (enqueueRootUpdate fiber queue lane element callback) := by
  refine StagedApart.createRootUpdate _ lane fun update => ?_
  refine .bind (StagedApart [update]) (staged_modifyRootUpdate _ _ _) (fun _ => ?_) fun _ => .forget
  refine .bind (StagedApart [update]) (staged_modifyRootUpdate _ _ _) (fun _ => ?_) fun _ => .forget
  exact staged_enqueueConcurrentHostRootUpdate fiber queue update lane

theorem staged_then {ε α β : Type} {body : RootStoreM ε α} {next : α → RootStoreM ε β}
    (kept : Within (KeepsStaged []) body)
    (later : ∀ value, Leads (StagedApart []) (StagedApart []) (next value)) :
    Leads (StagedApart []) (StagedApart []) (body >>= next) :=
  .bind (StagedApart []) (fun store apart => kept store apart) later fun _ apart => apart

theorem staged_updateContainerImpl (rootId : FiberRootId) (rootFiber : FiberId)
    (laneChoice : RootUpdateLaneChoiceRecord) (element : RootElementHandle)
    (callback : Option RootUpdateCallbackHandle) :
    Leads (StagedApart []) (StagedApart [])
      (updateContainerImpl rootId rootFiber laneChoice element callback) := by
  refine staged_then (within_getRoot _ _) fun root => ?_
  refine staged_then (.mapError _ (keepsStaged_ensureHostRootUpdateQueue rootId)) fun queue => ?_
  refine StagedApart.createRootUpdate _ _ fun update => ?_
  refine .bind (StagedApart [update]) (staged_modifyRootUpdate _ _ _) (fun _ => ?_) fun _ => .forget
  rcases callback with - | callback
  on_goal 2 =>
    refine .ite ?_ ?_
    on_goal 1 =>
      refine .bind (StagedApart [update]) (staged_modifyRootUpdate _ _ _) (fun _ => ?_)
        fun _ => StagedApart.forget
  -- With and without a callback the update is staged and drained next.
  all_goals
    refine .bind (StagedApart []) (.mapError _
      (staged_enqueueConcurrentHostRootUpdate rootFiber queue update laneChoice.lane)) (fun enqueued => ?_)
      fun _ apart => apart
    refine .guard (fun _ apart => apart) fun _ => ?_
    refine .bind (StagedApart []) (.mapError _ staged_finishQueueingConcurrentUpdates)
      (fun _ => ?_) fun _ apart => apart
    refine staged_then (within_getRoot _ _) fun pending => ?_
    refine staged_then (.bind (within_getRoot _ _) fun _ => .guard fun _ => .pure _) fun selected => ?_
    refine staged_then (within_getRoot _ _) fun after => ?_
    refine staged_then (keepsStaged_onUpdateQueues (keepsUnlisted_entangleTransitionUpdate _ _ _) _)
      fun entangled => ?_
    rcases entangled with - | lanes
    · exact fun _ apart => apart
    · refine staged_then (within_modifyRoot _ fun _ apart => apart) fun _ => ?_
      exact fun _ apart => apart

end Staged

end FastReact
