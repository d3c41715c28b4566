import FastReact.DrainChecks

namespace FastReact

open ConcurrentUpdateError ErrorState LinkChain LinkedArena List RootQueueLists UpdateQueue UpdateQueueStore

/-!
# The update lists over whole runs

Every list of a HostRoot update queue is finite and shares no update with another list
as long as no update is put into a ring while it is in a list of another kind.  A drain
tells this from the next link of an update, which the last update of a base list lacks
although it is in the list.
-/

namespace UpdateQueueStore

/-- No update is in two lists, and all lists are finite. -/
def QueuesApart (store : UpdateQueueStore) : Prop :=
  ∃ lists, ListsApart store lists

/-- An update that an existing queue may get without breaking a list: it is in no base
list and pending in no other queue. -/
def Appendable (store : UpdateQueueStore) (handle : UpdateQueueHandle) (id : UpdateId) : Prop :=
  ∀ queue, store.queue handle = .ok queue →
    (∀ other ids, store.baseUpdates other = .ok ids → id ∉ ids) ∧
    (∀ other ids, other ≠ handle → store.pendingUpdates other = .ok ids → id ∉ ids)

def LinksStay (store after : UpdateQueueStore) : Prop :=
  ∀ id, store.Linked id → after.Linked id

instance : IsPreorder UpdateQueueStore LinksStay where
  refl _ _ linked := linked
  trans _ _ _ stays staysLater id linked := staysLater id (stays id linked)

/-- Apart lists stay apart, and links change within a relation. -/
def KeepsLists (links : UpdateQueueStore → UpdateQueueStore → Prop)
    (store after : UpdateQueueStore) : Prop :=
  QueuesApart store → QueuesApart after ∧ links store after

instance (links : UpdateQueueStore → UpdateQueueStore → Prop) [IsPreorder _ links] :
    IsPreorder UpdateQueueStore (KeepsLists links) where
  refl store apart := ⟨apart, refl store⟩
  trans first second third kept keptLater apart := by
    obtain ⟨apartBetween, between⟩ := kept apart
    obtain ⟨apartAfter, after⟩ := keptLater apartBetween
    exact ⟨apartAfter, Trans.trans between after⟩

theorem queuesApart_new : QueuesApart new := by
  have missing : ∀ handle queue, new.queue handle ≠ .ok queue := by
    intro handle queue found
    cases mem_queues found
  refine ⟨fun _ => .empty, ?_, fun _ _ => rfl, fun _ _ _ => disjoint_nil_left _⟩
  exact fun handle queue found => absurd found (missing handle queue)

section Append

variable {store : UpdateQueueStore} {lists : UpdateQueueHandle → RootQueueLists}
  {handle : UpdateQueueHandle} {id : UpdateId}

theorem linked_append {other : UpdateId} (apart : ListsApart store lists)
    (linked : store.Linked other) :
    (stateAfter ((appendPendingRootUpdate handle id).run store)).Linked other := by
  cases resolved : store.update id with
  | error error => simpa [appendPendingRootUpdate, resolved, stateAfter] using linked
  | ok node =>
    obtain ⟨live, -⟩ := data?_of_update_eq_ok resolved
    cases found : store.queue handle with
    | error error => simpa [appendPendingRootUpdate, resolved, found, stateAfter] using linked
    | ok queue =>
      have pendingRing := (apart.view handle queue found).pendingRing
      cases tailShape : queue.shared.pending with
      | none =>
        rw [run_appendPendingRootUpdate_first live found tailShape]
        exact linked_withNext linked fun _ => rfl
      | some tail =>
        rw [tailShape] at pendingRing
        have ring : IsRing store.updates.next? tail (lists handle).pendingIds := pendingRing.ring
        obtain ⟨head, headShape, -⟩ := ring.exists_head
        obtain ⟨tailData, -, tailLive⟩ := pendingRing.holds.live ring.tail_mem
        rw [run_appendPendingRootUpdate_behind live found tailShape tailLive,
          ring.closed, headShape]
        exact linked_withNext (linked_withNext linked fun _ => rfl) fun _ => rfl

theorem queuesApart_append (apart : QueuesApart store) (appendable : Appendable store handle id) :
    QueuesApart (stateAfter ((appendPendingRootUpdate handle id).run store)) := by
  obtain ⟨lists, apart⟩ := apart
  cases resolved : store.update id with
  | error error =>
    refine ⟨lists, ?_⟩
    simpa [appendPendingRootUpdate, resolved, stateAfter] using apart
  | ok node =>
    obtain ⟨live, -⟩ := data?_of_update_eq_ok resolved
    cases found : store.queue handle with
    | error error =>
      refine ⟨lists, ?_⟩
      simpa [appendPendingRootUpdate, resolved, found, stateAfter] using apart
    | ok queue =>
      obtain ⟨notBase, notPending⟩ := appendable queue found
      by_cases isPending : id ∈ (lists handle).pendingIds
      · obtain ⟨after, kept, ran, apartAfter⟩ :=
          apart.run_appendPendingRootUpdate_again found isPending
        rw [ran]
        exact ⟨_, apartAfter⟩
      · have unlisted : ∀ other, id ∉ (lists other).ids := by
          intro other member
          by_cases present : ∃ otherQueue, store.queue other = .ok otherQueue
          · obtain ⟨otherQueue, otherFound⟩ := present
            have view := apart.view other otherQueue otherFound
            rcases mem_ids.mp member with isBase | isOtherPending
            · exact notBase other _ view.baseUpdates_eq_ok isBase
            · by_cases same : other = handle
              · exact isPending (same ▸ isOtherPending)
              · exact notPending other _ same view.pendingUpdates_eq_ok isOtherPending
          · have nothing := apart.absent other fun otherQueue otherFound =>
              present ⟨otherQueue, otherFound⟩
            rw [nothing] at member
            cases member
        obtain ⟨after, ran, -, -, -, apartAfter⟩ :=
          apart.run_appendPendingRootUpdate found live unlisted
        rw [ran]
        exact ⟨_, apartAfter⟩

/-- Updates that are in no list may be appended one after another. -/
structure DrainReady (linkedBefore : UpdateId → Prop) (store : UpdateQueueStore)
    (ids : List UpdateId) : Prop where
  unlisted : ∃ lists, ListsApart store lists ∧
    ∀ id ∈ ids,
      (∃ data, store.updates.data? id = some data) ∧ ∀ handle, id ∉ (lists handle).ids
  nodup : ids.Nodup
  links : ∀ id, linkedBefore id → store.Linked id

namespace DrainReady

variable {linkedBefore : UpdateId → Prop} {ids : List UpdateId}

theorem of_subset {fewer : List UpdateId} (ready : DrainReady linkedBefore store ids)
    (subset : fewer ⊆ ids) (nodup : fewer.Nodup) : DrainReady linkedBefore store fewer := by
  obtain ⟨lists, apart, unlisted⟩ := ready.unlisted
  exact ⟨⟨lists, apart, fun id member => unlisted id (subset member)⟩, nodup, ready.links⟩

theorem append (ready : DrainReady linkedBefore store (id :: ids)) (handle : UpdateQueueHandle) :
    DrainReady linkedBefore (stateAfter ((appendPendingRootUpdate handle id).run store)) ids := by
  obtain ⟨⟨lists, apart, unlisted⟩, nodup, links⟩ := ready
  obtain ⟨notMember, restNodup⟩ := nodup_cons.mp nodup
  obtain ⟨⟨data, live⟩, idUnlisted⟩ := unlisted id mem_cons_self
  refine ⟨?_, restNodup, fun other linked => linked_append apart (links other linked)⟩
  have rest := fun other member => unlisted other (mem_cons_of_mem id member)
  cases found : store.queue handle with
  | error error =>
    refine ⟨lists, ?_⟩
    simp only [appendPendingRootUpdate, run_bind, run_query, update_eq_ok live, found]
    exact ⟨apart, rest⟩
  | ok queue =>
    obtain ⟨after, ran, -, -, untouched, apartAfter⟩ :=
      apart.run_appendPendingRootUpdate found live idUnlisted
    rw [ran]
    refine ⟨_, apartAfter, ?_⟩
    intro other member
    obtain ⟨⟨otherData, otherLive⟩, otherUnlisted⟩ := rest other member
    have different : other ≠ id := by
      rintro rfl
      exact notMember member
    refine ⟨⟨otherData, ?_⟩, ?_⟩
    · have same := untouched other (otherUnlisted handle) different otherData otherLive
      rw [stateAfter, data?, same]
      exact otherLive
    · intro otherHandle
      by_cases isHandle : otherHandle = handle
      · rw [isHandle, Function.update_self, ids_append]
        simpa [different] using otherUnlisted handle
      · rw [Function.update_of_ne isHandle]
        exact otherUnlisted otherHandle

end DrainReady

end Append

end UpdateQueueStore

section Operations

theorem keepsLists_insertRootUpdate (update : RootUpdate) :
    Within (KeepsLists LinksStay) (insertRootUpdate update) := by
  intro store
  obtain ⟨id, after, ran, -, -, sameQueues, extension⟩ := run_insertRootUpdate store update
  rintro ⟨lists, apart⟩
  rw [ran]
  refine ⟨⟨lists, apart.of_extends (queue_of_queues_eq sameQueues) extension⟩, ?_⟩
  intro other linked
  obtain ⟨successor, link⟩ := Option.isSome_iff_exists.mp linked
  obtain ⟨data, live⟩ := exists_data?_of_next? link
  rw [stateAfter, Linked, extension.links other data live not_mem_nil]
  exact linked

theorem queuesApart_pushUpdateQueue {store : UpdateQueueStore} (apart : QueuesApart store)
    (baseState : HostRootState) :
    QueuesApart { store with queues := store.queues ++ [new baseState] } := by
  obtain ⟨lists, apart⟩ := apart
  have view : HasLists { store with queues := store.queues ++ [new baseState] }
      ⟨store.queues.length + 1⟩ (new baseState) .empty := by
    refine ⟨?_, ⟨⟨rfl, rfl⟩, rfl⟩, ⟨rfl, rfl⟩, disjoint_nil_left _⟩
    simp [queue, OpaqueHandle.isNone]
  exact ⟨_, apart.change_one (fun other different => queue_append_of_ne different)
    (fun _ _ _ _ => rfl) view fun _ _ => disjoint_nil_left _⟩

theorem opensRings_pushUpdateQueue (store : UpdateQueueStore) (baseState : HostRootState) :
    OpensRings store { store with queues := store.queues ++ [new baseState] } := by
  refine ⟨fun id linked => .inl linked, ?_⟩
  intro id member
  have noPending : (new baseState).shared.pending = none := rfl
  simpa [pendingTails, noPending] using member

theorem queue_ne_endlessList (store : UpdateQueueStore) (handle : UpdateQueueHandle) :
    store.queue handle ≠ .error .endlessList := by
  intro refused
  unfold queue at refused
  by_cases isNone : handle.isNone = true
  · rw [if_pos isNone] at refused
    cases refused
  · rw [if_neg isNone] at refused
    cases entry : store.queues[handle.raw - 1]? <;> rw [entry] at refused <;> cases refused

/-- Every pass ends and keeps the lists apart. -/
theorem run_processHostRootUpdateQueue_apart {store : UpdateQueueStore} (apart : QueuesApart store)
    (handle : UpdateQueueHandle) (currentQueue : Option UpdateQueueHandle)
    (renderLanes rootRenderLanes : Lanes) :
    ∃ outcome,
      (processHostRootUpdateQueue handle currentQueue renderLanes rootRenderLanes).run
        store = outcome ∧
      QueuesApart (stateAfter outcome) ∧
      ∀ after, outcome ≠ .error .endlessList after := by
  obtain ⟨lists, apart⟩ := apart
  refine ⟨_, rfl, ?_⟩
  cases found : store.queue handle with
  | error error =>
    simp only [processHostRootUpdateQueue, transferPendingToBaseQueue, run_bind, run_query, found]
    refine ⟨⟨lists, apart⟩, ?_⟩
    rintro after ⟨⟩
    exact queue_ne_endlessList store handle found
  | ok queue =>
    by_cases own : currentQueue = none ∨ currentQueue = some handle
    · obtain ⟨result, clones, after, ran, apartAfter⟩ :=
        apart.run_process found own renderLanes rootRenderLanes
      rw [ran]
      exact ⟨⟨_, apartAfter⟩, by simp⟩
    · obtain ⟨current, rfl⟩ : ∃ current, currentQueue = some current := by
        cases currentQueue with
        | none => exact absurd (.inl rfl) own
        | some current => exact ⟨current, rfl⟩
      have different : current ≠ handle := by
        rintro rfl
        exact own (.inr rfl)
      rcases apart.run_processBeside found different renderLanes rootRenderLanes with
        ⟨error, opened, ran, refused, apartAfter⟩ | ⟨result, clones, after, ran, apartAfter⟩
      · rw [ran]
        refine ⟨⟨_, apartAfter⟩, ?_⟩
        rintro after ⟨⟩
        exact queue_ne_endlessList store current refused
      · rw [ran]
        exact ⟨⟨_, apartAfter⟩, by simp⟩

theorem keepsLists_processHostRootUpdateQueue (handle : UpdateQueueHandle)
    (currentQueue : Option UpdateQueueHandle) (renderLanes rootRenderLanes : Lanes) :
    Within (KeepsLists OpensRings)
      (processHostRootUpdateQueue handle currentQueue renderLanes rootRenderLanes) := by
  intro store apart
  refine ⟨?_, opensRings_processHostRootUpdateQueue _ _ _ _ store⟩
  obtain ⟨outcome, ran, apartAfter, -⟩ := run_processHostRootUpdateQueue_apart apart handle
    currentQueue renderLanes rootRenderLanes
  rw [ran]
  exact apartAfter

end Operations

/-- The lists of the queues of two stores of roots. -/
def KeepsRootLists (links : UpdateQueueStore → UpdateQueueStore → Prop)
    (store after : FiberRootStore) : Prop :=
  KeepsLists links store.updateQueues after.updateQueues

section RootLists

variable {links : UpdateQueueStore → UpdateQueueStore → Prop} [IsPreorder _ links]

instance : IsPreorder FiberRootStore (KeepsRootLists links) where
  refl store := refl store.updateQueues
  trans first second third kept keptLater := by
    unfold KeepsRootLists at kept keptLater ⊢
    exact Trans.trans kept keptLater

theorem ignoresFibers_keepsRootLists : IgnoresFibers (KeepsRootLists links) :=
  fun _ store => refl store.updateQueues

omit [IsPreorder _ links] in
theorem keepsRootLists_onUpdateQueues {ε α : Type} {body : UpdateQueueM α}
    (kept : Within (KeepsLists links) body) (wrap : UpdateQueueError → ε) :
    Within (KeepsRootLists links) (onUpdateQueues wrap body) :=
  .mapError wrap (.focus_within kept fun _ _ related => related)

theorem keepsRootLists_ensureHostRootUpdateQueue
    (pushed : ∀ (store : UpdateQueueStore) baseState,
      links store { store with queues := store.queues ++ [new baseState] })
    (rootId : FiberRootId) : Within (KeepsRootLists links) (ensureHostRootUpdateQueue rootId) := by
  refine .bind (within_getRoot _ _) fun root => .bind (within_getFiber _ _) fun node =>
    .ite (.pure _) (.bind (.query _) fun state => .bind ?_ fun queue =>
    .bind (within_onFibers _ _ ignoresFibers_keepsRootLists) fun _ =>
    .bind (within_getFiber _ _) fun after => ?_)
  · exact .modifyGet fun store apart =>
      ⟨queuesApart_pushUpdateQueue apart state, pushed store.updateQueues state⟩
  · cases after.alternate with
    | none => exact .pure _
    | some alternate =>
      exact .bind (within_onFibers _ _ ignoresFibers_keepsRootLists) fun _ => .pure _

end RootLists

theorem live_of_createHostRootWorkInProgress {store after : FiberRootStore} {rootId : FiberRootId}
    {pendingProps : PropsHandle} {workInProgress : FiberId}
    (ran : (createHostRootWorkInProgress rootId pendingProps).run store =
      .ok workInProgress after) : ∃ node, after.fiberArena.get? workInProgress = some node := by
  obtain ⟨root, _, -, ran⟩ := run_bind_eq_ok_iff.mp ran
  obtain ⟨current, _, -, ran⟩ := run_bind_eq_ok_iff.mp ran
  obtain ⟨-, ran⟩ := run_guard_eq_ok_iff.mp ran
  obtain ⟨created, _, -, ran⟩ := run_bind_eq_ok_iff.mp ran
  obtain ⟨node, found, finished⟩ := run_query_bind_eq_ok_iff.mp ran
  obtain ⟨-, finished⟩ := run_guard_eq_ok_iff.mp finished
  cases finished
  cases shape : after.fiberArena.get workInProgress with
  | error error =>
    rw [shape] at found
    cases found
  | ok node => exact ⟨node, FiberArena.get_eq_ok_iff.mp shape⟩

theorem keepsRootLists_renderCopy {α : Type} {store : FiberRootStore} {workInProgress : FiberId}
    {node : FiberNode} {record : UpdateQueueHandle → ProcessUpdateQueueResult → RootWorkLoopM α}
    (live : store.fiberArena.get? workInProgress = some node)
    (recorded : ∀ copy result, Within (KeepsRootLists OpensRings) (record copy result))
    (rootId : FiberRootId) (current : FiberId) (queue : UpdateQueueHandle) (renderLanes : Lanes) :
    KeepsRootLists OpensRings store (stateAfter ((do
      let copy ← refreshUpdateQueueForWorkInProgress rootId current workInProgress queue
      let result ← onUpdateQueues .updateQueue <|
        processHostRootUpdateQueue copy (some queue) renderLanes renderLanes
      record copy result : RootWorkLoopM α).run store)) := by
  by_cases noQueue : queue.isNone = true
  · simp only [refreshUpdateQueueForWorkInProgress, if_pos noQueue, run_bind]
    exact refl store
  · cases found : store.updateQueues.queue queue with
    | error error =>
      simp only [refreshUpdateQueueForWorkInProgress, if_neg noQueue, run_bind,
        onUpdateQueues, run_mapError, run_focus, cloneHostRootUpdateQueue, run_query, found]
      exact refl store
    | ok content =>
      rintro ⟨lists, apart⟩
      obtain ⟨copy, copied, ranClone, different, sameUpdates, -, others, view⟩ :=
        apart.run_cloneHostRootUpdateQueue found
      obtain ⟨first, last, clones, after, currentFirst, currentLast, ranPass, -, -, -,
        apartAfter, -, -⟩ := apart.run_processCopy found different sameUpdates others view
          renderLanes renderLanes
      have opens : OpensRings store.updateQueues after := by
        have cloned := opensRings_cloneHostRootUpdateQueue queue store.updateQueues
        have passed := opensRings_processHostRootUpdateQueue copy (some queue) renderLanes
          renderLanes copied
        rw [ranClone] at cloned
        rw [ranPass] at passed
        exact Trans.trans cloned passed
      have ran : ∀ pass : UpdateQueueHandle → RootWorkLoopM α,
          (refreshUpdateQueueForWorkInProgress rootId current workInProgress queue >>=
            pass).run store = (pass copy).run
              { store with
                updateQueues := copied
                fiberArena := store.fiberArena.changeFiber workInProgress fun node =>
                  { node with updateQueue := copy } } := by
        intro pass
        have liveCopied : ({ store with updateQueues := copied } :
            FiberRootStore).fiberArena.get? workInProgress = some node := live
        simp only [refreshUpdateQueueForWorkInProgress, if_neg noQueue, run_bind,
          run_onUpdateQueues ranClone, run_onFibers (run_modifyFiber liveCopied _), run_pure]
      rw [ran, run_bind, run_onUpdateQueues ranPass]
      have apartPassed : QueuesApart after := ⟨_, apartAfter⟩
      refine ⟨(recorded copy _ _ ?_).1, Trans.trans opens (recorded copy _ _ ?_).2⟩ <;>
        exact apartPassed

theorem keepsRootLists_renderHostRootForLanes (rootId : FiberRootId) (renderLanes : Lanes) :
    Within (KeepsRootLists OpensRings) (renderHostRootForLanes rootId renderLanes) := by
  refine .bind (within_getRoot _ _) fun root =>
    .bind (.mapError _ (keepsRootLists_ensureHostRootUpdateQueue
      opensRings_pushUpdateQueue rootId)) fun queue =>
    .bind_run (.mapError _
      (ignoresFibers_keepsRootLists.within_createHostRootWorkInProgress rootId _)) ?_
  intro store workInProgress after ran
  rw [run_mapError] at ran
  cases created : (createHostRootWorkInProgress rootId .none).run store with
  | error error failed =>
    rw [created] at ran
    cases ran
  | ok id between =>
    rw [created] at ran
    cases ran
    obtain ⟨node, live⟩ := live_of_createHostRootWorkInProgress created
    refine keepsRootLists_renderCopy live ?_ rootId _ queue renderLanes
    intro copy result
    exact .bind (.modifyGet fun _ => refl _) fun _ =>
      .bind (within_onFibers _ _ ignoresFibers_keepsRootLists) fun _ =>
      .bind (within_modifyRoot _ fun _ => refl _) fun _ => .pure _

section Drains

variable {store after : FiberRootStore}

/-- Stores with the same update queues. -/
def SameUpdateQueues (store after : FiberRootStore) : Prop :=
  after.updateQueues = store.updateQueues

instance : IsPreorder FiberRootStore SameUpdateQueues where
  refl _ := rfl
  trans _ _ _ same sameLater := sameLater.trans same

theorem within_drainStagedEntry {relation : FiberRootStore → FiberRootStore → Prop}
    [IsPreorder FiberRootStore relation] (roots : List FiberRootId)
    (entry : StagedConcurrentUpdate × FiberRootId)
    (marks : Within relation (markUpdateLaneFromFiberToRoot entry.1.fiber entry.1.lane))
    (appends : ∀ queue update, entry.1.queue = some queue → entry.1.update = some update →
      Within relation (onUpdateQueues updateQueue (appendPendingRootUpdate queue update))) :
    Within relation (drainStagedEntry roots entry) := by
  obtain ⟨⟨fiber, queue, update, lane⟩, expected⟩ := entry
  have ends : ∀ roots : List FiberRootId, Within relation (do
      let _ ← getFiber fiberTopology fiber
      let _ ← getRoot fiberRootStore expected
      return roots) := fun roots =>
    .bind (within_getFiber _ _) fun _ => .bind (within_getRoot _ _) fun _ => .pure _
  cases queue with
  | none =>
    exact .ite (.bind marks fun root => .guard fun _ => .bind (.pure _) fun _ => ends _)
      (.bind (.pure _) fun _ => ends _)
  | some queue =>
    cases update with
    | none =>
      exact .ite (.bind marks fun root => .guard fun _ => .bind (.pure _) fun _ =>
          .bind (.query _) fun _ => ends _)
        (.bind (.pure _) fun _ => .bind (.query _) fun _ => ends _)
    | some update =>
      exact .bind (appends queue update rfl rfl) fun _ =>
        .ite (.bind marks fun root => .guard fun _ => .bind (.pure _) fun _ =>
            .bind (.query _) fun _ => ends _)
          (.bind (.pure _) fun _ => .bind (.query _) fun _ => ends _)

theorem drainReady_drainStagedEntry {linkedBefore : UpdateId → Prop}
    {entry : StagedConcurrentUpdate × FiberRootId} {ids : List UpdateId}
    (ready : DrainReady linkedBefore store.updateQueues (entry.1.update.toList ++ ids))
    (roots : List FiberRootId) :
    DrainReady linkedBefore
      (stateAfter ((drainStagedEntry roots entry).run store)).updateQueues ids := by
  obtain ⟨⟨fiber, queue, update, lane⟩, expected⟩ := entry
  have ignores : IgnoresFibers SameUpdateQueues := fun _ _ => rfl
  have ends : ∀ roots : List FiberRootId, Within SameUpdateQueues (do
      let _ ← getFiber fiberTopology fiber
      let _ ← getRoot fiberRootStore expected
      return roots) := fun roots =>
    .bind (within_getFiber _ _) fun _ => .bind (within_getRoot _ _) fun _ => .pure _
  have marks : Within SameUpdateQueues
      (markUpdateLaneFromFiberToRoot fiber lane) :=
    ignores.within_markUpdateLanesFromFiberToRoot (fun _ _ _ => rfl) fiber lane.toLanes
  have fewer : DrainReady linkedBefore store.updateQueues ids :=
    ready.of_subset (subset_append_right _ _) (nodup_append'.mp ready.nodup).2.1
  cases queue with
  | none =>
    have kept : Within SameUpdateQueues
        (drainStagedEntry roots (⟨fiber, none, update, lane⟩, expected)) :=
      within_drainStagedEntry _ _ marks fun _ _ absent => nomatch absent
    rw [show _ = store.updateQueues from kept store]
    exact fewer
  | some queue =>
    cases update with
    | none =>
      have kept : Within SameUpdateQueues
          (drainStagedEntry roots (⟨fiber, some queue, none, lane⟩, expected)) :=
        within_drainStagedEntry _ _ marks fun _ _ _ absent => nomatch absent
      rw [show _ = store.updateQueues from kept store]
      exact fewer
    | some update =>
      have same : SameUpdateQueues
          (stateAfter ((onUpdateQueues updateQueue
            (appendPendingRootUpdate queue update)).run store))
          (stateAfter ((drainStagedEntry roots
            (⟨fiber, some queue, some update, lane⟩, expected)).run store)) :=
        Within.after_first fun _ =>
          .ite (.bind marks fun root => .guard fun _ => .bind (.pure _) fun _ =>
              .bind (.query _) fun _ => ends _)
            (.bind (.pure _) fun _ => .bind (.query _) fun _ => ends _)
      have appended := ready.append queue
      rw [show _ = _ from same, onUpdateQueues, run_mapError, run_focus]
      cases ran : (appendPendingRootUpdate queue update).run store.updateQueues <;>
        rw [ran] at appended <;> exact appended

theorem drainReady_drainStagedEntries {linkedBefore : UpdateId → Prop}
    {entries : List (StagedConcurrentUpdate × FiberRootId)}
    (ready : DrainReady linkedBefore store.updateQueues (stagedIds (entries.map Prod.fst)))
    (roots : List FiberRootId) :
    DrainReady linkedBefore
      (stateAfter ((entries.foldlM drainStagedEntry roots).run store)).updateQueues [] := by
  induction entries generalizing store roots with
  | nil => exact ready
  | cons entry entries ih =>
    have drained : DrainReady linkedBefore
        (stateAfter ((drainStagedEntry roots entry).run store)).updateQueues
        (stagedIds (entries.map Prod.fst)) := by
      apply drainReady_drainStagedEntry
      cases shape : entry.1.update <;> simpa [stagedIds, shape] using ready
    rw [foldlM_cons, run_bind]
    cases ran : (drainStagedEntry roots entry).run store with
    | error error after =>
      rw [ran] at drained
      exact drained.of_subset (nil_subset _) nodup_nil
    | ok value after =>
      rw [ran] at drained
      exact ih drained value

end Drains

/-- The updates that a drain would accept. -/
def acceptedUpdates (store : FiberRootStore) : List UpdateId :=
  match validateStagedConcurrentUpdatesForDrain.run store with
  | .ok _ _ => stagedIds store.concurrentUpdates.staged
  | .error _ _ => []

inductive RootListCall where
  | createClientRoot (formState : RootFormStateHandle) (mode : FiberMode)
  | ensureHostRootUpdateQueue (root : FiberRootId)
  | initializeHostRootQueue (baseState : HostRootState)
  | createUpdate (lane : Lane)
  | appendPendingUpdate (queue : UpdateQueueHandle) (update : UpdateId)
  | enqueueConcurrentHostRootUpdate (fiber : FiberId) (queue : UpdateQueueHandle)
      (update : UpdateId) (lane : Lane)
  | finishQueueingConcurrentUpdates
  | processUpdateQueue (queue : UpdateQueueHandle) (currentQueue : Option UpdateQueueHandle)
      (renderLanes rootRenderLanes : Lanes)
  | renderHostRootForLanes (root : FiberRootId) (renderLanes : Lanes)

/-- A store with the updates that drains have linked into queues, those that a drain has
accepted once more, and those that a pass has found at the end of a pending ring after a
drain had put them there. -/
structure RootListWorld where
  store : FiberRootStore
  drained : List UpdateId
  acceptedAgain : List UpdateId
  opened : List UpdateId

namespace RootListWorld

def new : RootListWorld where
  store := FiberRootStore.new
  drained := []
  acceptedAgain := []
  opened := []

def callStore (store : FiberRootStore) : RootListCall → FiberRootStore
  | .createClientRoot formState mode => stateAfter ((createClientRoot formState mode).run store)
  | .ensureHostRootUpdateQueue root =>
      stateAfter ((FastReact.ensureHostRootUpdateQueue root).run store)
  | .initializeHostRootQueue baseState =>
      stateAfter ((onUpdateQueues id (FastReact.initializeHostRootQueue baseState)).run store)
  | .createUpdate lane => stateAfter ((onUpdateQueues id (createRootUpdate lane)).run store)
  | .appendPendingUpdate queue update =>
      stateAfter ((onUpdateQueues id (appendPendingRootUpdate queue update)).run store)
  | .enqueueConcurrentHostRootUpdate fiber queue update lane =>
      stateAfter ((FastReact.enqueueConcurrentHostRootUpdate fiber queue update lane).run store)
  | .finishQueueingConcurrentUpdates =>
      stateAfter (FastReact.finishQueueingConcurrentUpdates.run store)
  | .processUpdateQueue queue currentQueue renderLanes rootRenderLanes =>
      stateAfter ((onUpdateQueues id
        (processHostRootUpdateQueue queue currentQueue renderLanes rootRenderLanes)).run store)
  | .renderHostRootForLanes root renderLanes =>
      stateAfter ((FastReact.renderHostRootForLanes root renderLanes).run store)

/-- Make a call and note what it did. -/
def step (world : RootListWorld) (call : RootListCall) : RootListWorld :=
  let after := callStore world.store call
  match call with
  | .finishQueueingConcurrentUpdates =>
      let accepted := acceptedUpdates world.store
      { world with
        store := after
        drained := world.drained ++ accepted.filter fun id => after.updateQueues.Linked id
        acceptedAgain := world.acceptedAgain ++ accepted.filter fun id => id ∈ world.drained }
  | .processUpdateQueue _ _ _ _ | .renderHostRootForLanes _ _ =>
      { world with
        store := after
        opened := world.opened ++
          world.store.updateQueues.pendingTails.filter fun id => id ∈ world.drained }
  | _ => { world with store := after }

/-- Whether an update is at the end of a base list, or was drained and then found at the
end of a pending ring by a pass. -/
def IsLooseEnd (world : RootListWorld) (id : UpdateId) : Prop :=
  id ∈ world.opened ∨
    ∃ queue ∈ world.store.updateQueues.queues, queue.lastBaseUpdate = some id

instance (world : RootListWorld) (id : UpdateId) : Decidable (world.IsLooseEnd id) :=
  inferInstanceAs (Decidable (_ ∨ _))

def Permits (world : RootListWorld) : RootListCall → Prop
  | .appendPendingUpdate queue update => world.store.updateQueues.Appendable queue update
  | .finishQueueingConcurrentUpdates => ∀ id ∈ acceptedUpdates world.store, ¬ world.IsLooseEnd id
  | _ => True

/-- The lists of all queues are finite, collected without an error and have no update in
common; no pass runs on forever; and no drain has accepted an update again. -/
structure ListedOnce (world : RootListWorld) : Prop where
  lists : ∃ lists, ListsApart world.store.updateQueues lists ∧
    ∀ handle queue, world.store.updateQueues.queue handle = .ok queue →
      world.store.updateQueues.baseUpdates handle = .ok (lists handle).baseIds ∧
      world.store.updateQueues.pendingUpdates handle = .ok (lists handle).pendingIds
  ends : ∀ queue currentQueue renderLanes rootRenderLanes after,
    (processHostRootUpdateQueue queue currentQueue renderLanes rootRenderLanes).run
      world.store.updateQueues ≠ .error .endlessList after
  drainedOnce : world.drained.Nodup
  notAgain : world.acceptedAgain = []

/-- What every call keeps. -/
structure Tracks (world : RootListWorld) : Prop where
  apart : QueuesApart world.store.updateQueues
  marked : ∀ id ∈ world.drained,
    world.store.updateQueues.Linked id ∨ id ∈ world.opened
  drainedOnce : world.drained.Nodup
  notAgain : world.acceptedAgain = []

variable {world : RootListWorld}

theorem Tracks.listedOnce (tracks : world.Tracks) : world.ListedOnce where
  lists := by
    obtain ⟨lists, apart⟩ := tracks.apart
    refine ⟨lists, apart, ?_⟩
    intro handle queue found
    have view := apart.view handle queue found
    exact ⟨view.baseUpdates_eq_ok, view.pendingUpdates_eq_ok⟩
  ends := by
    intro queue currentQueue renderLanes rootRenderLanes after ran
    obtain ⟨outcome, isOutcome, -, notEndless⟩ :=
      run_processHostRootUpdateQueue_apart tracks.apart queue currentQueue renderLanes
        rootRenderLanes
    exact notEndless after (isOutcome.symm.trans ran)
  drainedOnce := tracks.drainedOnce
  notAgain := tracks.notAgain

theorem tracks_new : new.Tracks where
  apart := queuesApart_new
  marked := fun _ member => by cases member
  drainedOnce := nodup_nil
  notAgain := rfl

variable {after : FiberRootStore}

section

variable (tracks : world.Tracks)
include tracks

theorem Tracks.of_opened (kept : KeepsRootLists OpensRings world.store after) :
    Tracks { world with
      store := after
      opened := world.opened ++
        world.store.updateQueues.pendingTails.filter fun id => id ∈ world.drained } := by
  obtain ⟨apart, opens⟩ := kept tracks.apart
  refine ⟨apart, ?_, tracks.drainedOnce, tracks.notAgain⟩
  intro id member
  rcases tracks.marked id member with linked | wasOpened
  · rcases opens.linked id linked with stays | isTail
    · exact .inl stays
    · refine .inr (mem_append_right _ (mem_filter.mpr ⟨isTail, ?_⟩))
      simpa using member
  · exact .inr (mem_append_left _ wasOpened)

theorem Tracks.of_kept
    (kept : KeepsRootLists LinksStay world.store after) : Tracks { world with store := after } := by
  obtain ⟨apart, stays⟩ := kept tracks.apart
  refine ⟨apart, ?_, tracks.drainedOnce, tracks.notAgain⟩
  intro id member
  exact (tracks.marked id member).imp_left (stays id)

theorem Tracks.appendPendingUpdate {queue : UpdateQueueHandle} {update : UpdateId}
    (appendable : world.store.updateQueues.Appendable queue update) :
    Tracks { world with store := callStore world.store (.appendPendingUpdate queue update) } := by
  have appended : (callStore world.store (.appendPendingUpdate queue update)).updateQueues =
      stateAfter ((appendPendingRootUpdate queue update).run world.store.updateQueues) := by
    simp only [callStore, onUpdateQueues, run_mapError, run_focus]
    cases (appendPendingRootUpdate queue update).run world.store.updateQueues <;> rfl
  refine ⟨?_, ?_, tracks.drainedOnce, tracks.notAgain⟩
  · change QueuesApart (callStore world.store _).updateQueues
    rw [appended]
    exact queuesApart_append tracks.apart appendable
  · intro id member
    change (callStore world.store _).updateQueues.Linked id ∨ _
    rw [appended]
    obtain ⟨lists, apart⟩ := tracks.apart
    exact (tracks.marked id member).imp_left fun linked => linked_append apart linked

theorem Tracks.drainReady {roots : List FiberRootId}
    (accepted : validateStagedConcurrentUpdatesForDrain.run world.store = .ok roots after)
    (permitted : ∀ id ∈ acceptedUpdates world.store, ¬ world.IsLooseEnd id) :
    acceptedUpdates world.store = stagedIds world.store.concurrentUpdates.staged ∧
      (∀ id ∈ acceptedUpdates world.store, id ∉ world.drained) ∧
      DrainReady world.store.updateQueues.Linked world.store.updateQueues
        (stagedIds world.store.concurrentUpdates.staged) := by
  have shape : acceptedUpdates world.store =
      stagedIds world.store.concurrentUpdates.staged := by
    rw [acceptedUpdates, accepted]
  obtain ⟨-, nodup, checked⟩ := of_validateStagedConcurrentUpdatesForDrain accepted
  rw [shape] at permitted ⊢
  refine ⟨rfl, ?_, ⟨?_, nodup, fun _ linked => linked⟩⟩
  · intro id member wasDrained
    obtain ⟨-, unlinked⟩ := appendable_of_checked checked member
    rcases tracks.marked id wasDrained with linked | wasOpened
    · exact unlinked linked
    · exact permitted id member (.inl wasOpened)
  · obtain ⟨lists, apart⟩ := tracks.apart
    refine ⟨lists, apart, ?_⟩
    intro id member
    obtain ⟨live, unlinked⟩ := appendable_of_checked checked member
    refine ⟨live, ?_⟩
    intro handle listed
    have noLink : world.store.updateQueues.updates.next? id = none := by
      simpa [Linked] using unlinked
    by_cases present : ∃ queue, world.store.updateQueues.queue handle = .ok queue
    · obtain ⟨queue, found⟩ := present
      have view := apart.view handle queue found
      rcases mem_ids.mp listed with isBase | isPending
      · have isLast := view.basePath.path.eq_last isBase noLink
        exact permitted id member (.inr ⟨queue, mem_queues found, isLast⟩)
      · exact view.pendingRing.not_mem_of_unlinked noLink isPending
    · have nothing := apart.absent handle fun queue found => present ⟨queue, found⟩
      rw [nothing] at listed
      cases listed

theorem Tracks.finishQueueingConcurrentUpdates
    (permitted : ∀ id ∈ acceptedUpdates world.store, ¬ world.IsLooseEnd id) :
    (world.step .finishQueueingConcurrentUpdates).Tracks := by
  have unchanged : Eq world.store
      (stateAfter (validateStagedConcurrentUpdatesForDrain.run world.store)) :=
    within_validateStagedConcurrentUpdatesForDrain world.store
  cases ran : validateStagedConcurrentUpdatesForDrain.run world.store with
  | error error after =>
    rw [ran] at unchanged
    cases unchanged
    have same : callStore world.store .finishQueueingConcurrentUpdates = world.store := by
      rw [callStore, FastReact.finishQueueingConcurrentUpdates, run_bind, ran]
      rfl
    have nothing : acceptedUpdates world.store = [] := by rw [acceptedUpdates, ran]
    simpa [step, same, nothing] using tracks
  | ok roots after =>
    rw [ran] at unchanged
    cases unchanged
    obtain ⟨shape, notDrained, ready⟩ := tracks.drainReady ran permitted
    have drained : DrainReady world.store.updateQueues.Linked
        (callStore world.store .finishQueueingConcurrentUpdates).updateQueues [] := by
      have firsts : List.Sublist
          ((world.store.concurrentUpdates.staged.zip roots).map Prod.fst)
          world.store.concurrentUpdates.staged := by
        rw [zip_eq_zip_take_min, map_fst_zip (by simp)]
        exact take_sublist _ _
      have firstsReady := ready.of_subset (firsts.filterMap (·.update)).subset
        (ready.nodup.sublist (firsts.filterMap _))
      rw [callStore, FastReact.finishQueueingConcurrentUpdates, run_bind, ran]
      exact @drainReady_drainStagedEntries
        { world.store with concurrentUpdates := ConcurrentUpdateStaging.new } _ _ firstsReady []
    obtain ⟨lists, apart, -⟩ := drained.unlisted
    refine ⟨⟨lists, apart⟩, ?_, ?_, ?_⟩
    · intro id member
      rcases mem_append.mp member with wasDrained | isNew
      · exact (tracks.marked id wasDrained).imp_left (drained.links id)
      · have linked := (mem_filter.mp isNew).2
        exact .inl (of_decide_eq_true linked)
    · refine List.Nodup.append tracks.drainedOnce ?_ ?_
      · rw [shape]
        exact ready.nodup.filter _
      · intro id wasDrained isNew
        exact notDrained id (mem_filter.mp isNew).1 wasDrained
    · have none : (acceptedUpdates world.store).filter (fun id => id ∈ world.drained) = [] := by
        rw [filter_eq_nil_iff]
        intro id member
        simpa using notDrained id member
      change world.acceptedAgain ++ _ = []
      rw [none, tracks.notAgain]
      rfl

/-- Every permitted call keeps the lists apart and the drained updates marked. -/
theorem Tracks.step {call : RootListCall} (permitted : world.Permits call) :
    (world.step call).Tracks := by
  cases call with
  | createClientRoot formState mode =>
    apply tracks.of_kept
    exact ignoresFibers_keepsRootLists.within_createClientRoot (fun _ _ => refl _)
      (fun _ _ => refl _) formState mode world.store
  | ensureHostRootUpdateQueue root =>
    apply tracks.of_kept
    exact keepsRootLists_ensureHostRootUpdateQueue (fun _ _ _ linked => linked) root world.store
  | initializeHostRootQueue baseState =>
    exact tracks.of_kept fun apart =>
      ⟨queuesApart_pushUpdateQueue apart baseState, fun _ linked => linked⟩
  | createUpdate lane =>
    apply tracks.of_kept
    exact keepsRootLists_onUpdateQueues (keepsLists_insertRootUpdate _) id world.store
  | appendPendingUpdate queue update => exact tracks.appendPendingUpdate permitted
  | enqueueConcurrentHostRootUpdate fiber queue update lane =>
    apply tracks.of_kept
    exact ignoresFibers_keepsRootLists.within_enqueueConcurrentHostRootUpdate
      (fun _ _ => refl _) fiber queue update lane world.store
  | finishQueueingConcurrentUpdates => exact tracks.finishQueueingConcurrentUpdates permitted
  | processUpdateQueue queue currentQueue renderLanes rootRenderLanes =>
    apply tracks.of_opened
    exact keepsRootLists_onUpdateQueues (keepsLists_processHostRootUpdateQueue queue
      currentQueue renderLanes rootRenderLanes) id world.store
  | renderHostRootForLanes root renderLanes =>
    exact tracks.of_opened (keepsRootLists_renderHostRootForLanes root renderLanes world.store)

end

/-- In every run that appends appendable updates and accepts no loose ends, the lists are
apart and finite, passes end, and no drained update is accepted again. -/
theorem listedOnce_of_run
    {calls : List RootListCall}
    {final : RootListWorld}
    (run : ActionRun Permits step new calls final) :
    final.ListedOnce := by
  apply Tracks.listedOnce
  exact run.invariant tracks_new fun _ _ tracks permitted => tracks.step permitted

/-- Two updates are drained, one of them is rendered, and a third one is drained behind
the other. -/
theorem listedOnce_of_run_sample :
    ListedOnce ([
      .createClientRoot .none .concurrent,
      .ensureHostRootUpdateQueue ⟨0, 0⟩,
      .createUpdate Lane.default,
      .createUpdate Lane.transition1,
      .enqueueConcurrentHostRootUpdate ⟨0, 0⟩ ⟨1⟩ ⟨0, 0⟩ Lane.default,
      .enqueueConcurrentHostRootUpdate ⟨0, 0⟩ ⟨1⟩ ⟨1, 0⟩ Lane.transition1,
      .finishQueueingConcurrentUpdates,
      .renderHostRootForLanes ⟨0, 0⟩ Lane.default.toLanes,
      .createUpdate Lane.default,
      .enqueueConcurrentHostRootUpdate ⟨0, 0⟩ ⟨1⟩ ⟨3, 0⟩ Lane.default,
      .finishQueueingConcurrentUpdates].foldl step new) := by
  have accepts : ∀ world : RootListWorld,
      (acceptedUpdates world.store).all (fun id => ¬ world.IsLooseEnd id) →
      world.Permits .finishQueueingConcurrentUpdates := by
    intro world accepted id member
    simpa using all_eq_true.mp accepted id member
  exact listedOnce_of_run (.of_permitted
    ⟨trivial, trivial, trivial, trivial, trivial, trivial, accepts _ (by decide), trivial,
      trivial, trivial, accepts _ (by decide), trivial⟩)

/-- An update that a render has moved to the end of the base list has no next link: a
second drain accepts it, and the base list of the queue does not end. -/
theorem base_tail_drained_again :
    let world := [
      .createClientRoot .none .concurrent,
      .ensureHostRootUpdateQueue ⟨0, 0⟩,
      .createUpdate Lane.default,
      .enqueueConcurrentHostRootUpdate ⟨0, 0⟩ ⟨1⟩ ⟨0, 0⟩ Lane.default,
      .finishQueueingConcurrentUpdates,
      .renderHostRootForLanes ⟨0, 0⟩ Lane.default.toLanes,
      .enqueueConcurrentHostRootUpdate ⟨0, 0⟩ ⟨1⟩ ⟨0, 0⟩ Lane.default,
      .finishQueueingConcurrentUpdates].foldl step new
    world.drained = [⟨0, 0⟩, ⟨0, 0⟩] ∧
      world.store.updateQueues.baseUpdates ⟨1⟩ = .error .endlessList ∧
      ¬ world.ListedOnce := by
  intro world
  have drainedTwice : world.drained = [⟨0, 0⟩, ⟨0, 0⟩] := by decide
  refine ⟨drainedTwice, by decide, ?_⟩
  intro listed
  have once := listed.drainedOnce
  rw [drainedTwice] at once
  simp at once

end RootListWorld

end FastReact
