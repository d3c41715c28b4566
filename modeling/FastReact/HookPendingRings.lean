import FastReact.HookStateQueueOperations
import FastReact.HookStateQueueWaiting
import FastReact.RingsApart

namespace FastReact

open ErrorState Function HookQueueStore LinkChain LinkedArena SlotArena

/-!
# The pending rings of hook queues

Pending updates form rings, one for each queue and no two with a common update, in every
store the operations make.  This holds whatever hook slots the passes are called with:
splicing a pending ring behind an update of another queue makes the other ring longer.
-/

variable {State Action ReducerId DispatchId OwnerId : Type}

namespace HookQueueStore

variable {store after : HookQueueStore State Action ReducerId DispatchId}
  {members : HookQueueId → List HookUpdateId} {queue : HookQueueId}
  {entry : HookQueue State ReducerId DispatchId} {id : HookUpdateId}

/-- The members of the pending rings of the queues. -/
def PendingApart (store : HookQueueStore State Action ReducerId DispatchId)
    (members : HookQueueId → List HookUpdateId) : Prop :=
  RingsApart store.updates.next? store.pendingTail members

/-- Pending updates stay in rings that share none of them. -/
def KeepsPending (store after : HookQueueStore State Action ReducerId DispatchId) : Prop :=
  (∃ members, store.PendingApart members) → ∃ members, after.PendingApart members

instance : IsPreorder (HookQueueStore State Action ReducerId DispatchId) KeepsPending where
  refl _ apart := apart
  trans _ _ _ keeps keepsLater apart := keepsLater (keeps apart)

theorem pendingTail_eq (found : store.queues.get? queue = some entry) :
    store.pendingTail queue = entry.pending := by
  simp [pendingTail, found]

theorem PendingApart.holdsRing (apart : store.PendingApart members)
    (found : store.queues.get? queue = some entry) :
    ∃ updates, store.updates.HoldsRing entry.pending (members queue) updates := by
  have ring := apart.ring queue
  rw [pendingTail_eq found] at ring
  have live : ∀ id ∈ members queue, ∃ data, LinkedArena.data? store.updates id = some data := by
    intro id member
    obtain ⟨next, linked⟩ := Option.isSome_iff_exists.mp (ring.isSome_next member)
    exact exists_data?_of_next? linked
  obtain ⟨updates, holds⟩ := Holds.exists_of_live live
  exact ⟨updates, ring, holds⟩

theorem keepsPending_of_same
    (links : ∀ id, (store.updates.next? id).isSome = true →
      after.updates.next? id = store.updates.next? id)
    (tails : ∀ queue, after.pendingTail queue = store.pendingTail queue) :
    KeepsPending store after := by
  rintro ⟨members, apart⟩
  exact ⟨members, apart.congr links tails⟩

theorem keepsPending_of_clear (links : after.updates = store.updates)
    (tails : after.pendingTail = Function.update store.pendingTail queue none) :
    KeepsPending store after := by
  rintro ⟨members, apart⟩
  refine ⟨Function.update members queue [], ?_⟩
  rw [PendingApart, links, tails]
  exact apart.clear queue

theorem pendingTail_changeQueue (found : store.queues.get? queue = some entry)
    (change : HookQueue State ReducerId DispatchId → HookQueue State ReducerId DispatchId) :
    (store.changeQueue queue change).pendingTail =
      Function.update store.pendingTail queue (change entry).pending := by
  funext other
  by_cases same : other = queue
  · rw [same, update_self, pendingTail_eq (get?_changeQueue_self found change)]
  · rw [update_of_ne same, pendingTail, pendingTail,
      onlyQueue_changeQueue store queue change other same]

variable {change : HookQueue State ReducerId DispatchId → HookQueue State ReducerId DispatchId}

theorem keepsPending_modifyQueue
    (samePending : ∀ entry, (change entry).pending = entry.pending) (queue : HookQueueId) :
    Within KeepsPending (modifyQueue queue change :
      HookQueueM State Action ReducerId DispatchId Unit) := by
  intro store
  cases resolved : store.queue queue with
  | error error =>
    simp only [modifyQueue, run_bind, run_query, resolved, stateAfter]
    exact refl_of KeepsPending store
  | ok entry =>
    have found := get?_of_queue_eq_ok resolved
    rw [run_modifyQueue found, stateAfter]
    refine keepsPending_of_same (fun _ _ => rfl) fun other => ?_
    rw [pendingTail_changeQueue found, samePending, ← pendingTail_eq found, update_eq_self]

theorem keepsPending_setPending_none (queue : HookQueueId) :
    Within KeepsPending (setPending queue none :
      HookQueueM State Action ReducerId DispatchId Unit) := by
  intro store
  cases resolved : store.queue queue with
  | error error =>
    simp only [setPending, modifyQueue, run_bind, run_query, resolved, stateAfter]
    exact refl_of KeepsPending store
  | ok entry =>
    have found := get?_of_queue_eq_ok resolved
    rw [setPending, run_modifyQueue found, stateAfter]
    exact keepsPending_of_clear rfl (pendingTail_changeQueue found _)

theorem keepsPending_insertUpdate (update : HookUpdate Action State) :
    Within KeepsPending (insertUpdate update :
      HookQueueM State Action ReducerId DispatchId HookUpdateId) := by
  refine .modifyGet fun store => keepsPending_of_same ?_ fun _ => rfl
  intro id linked
  obtain ⟨next, isNext⟩ := Option.isSome_iff_exists.mp linked
  obtain ⟨data, live⟩ := exists_data?_of_next? isNext
  have found := get?_insert_of_some update (get?_of_data? live)
  exact congrArg (·.bind Node.next) (found.trans (get?_of_data? live).symm)

theorem keepsPending_createQueue (initialState : State) :
    Within KeepsPending (createQueue initialState :
      HookQueueM State Action ReducerId DispatchId HookQueueId) := by
  refine .modifyGet fun store => keepsPending_of_same (fun _ _ => rfl) fun queue => ?_
  rw [pendingTail, pendingTail, get?_insert]
  by_cases isNew : queue = (store.queues.insert (HookQueue.new initialState)).1
  · rw [if_pos isNew, isNew, get?_insert_fresh]
    rfl
  · rw [if_neg isNew]

theorem keepsPending_modifyUpdate {change : HookUpdate Action State → HookUpdate Action State}
    (sameLink : ∀ update, (change update).next = update.next) (id : HookUpdateId) :
    Within KeepsPending (modifyUpdate id change :
      HookQueueM State Action ReducerId DispatchId Unit) := by
  refine .bind (.query _) fun _ => .modify fun store => ?_
  refine keepsPending_of_same (fun other _ => ?_) fun _ => rfl
  rw [changeUpdate, next?, next?, get?_modify]
  by_cases same : other = id
  · rw [if_pos same, same, Option.bind_map]
    exact congrArg _ (funext fun update => sameLink update)
  · rw [if_neg same]

theorem keepsPending_reclaimUpdate (id : HookUpdateId) :
    Within KeepsPending (reclaimUpdate id : HookQueueM State Action ReducerId DispatchId Unit) := by
  refine .bind_run (.query _) fun store update after ran => ?_
  obtain ⟨resolved, rfl⟩ := run_query_eq_ok_iff.mp ran
  by_cases linked : update.next.isSome = true
  · rw [if_pos linked]
    exact refl_of KeepsPending store
  · rw [if_neg linked]
    by_cases overflows : hookGenerationBound ≤ id.generation + 1
    · rw [if_pos overflows]
      exact refl_of KeepsPending store
    · rw [if_neg overflows]
      refine @keepsPending_of_same _ _ _ _ store _ (fun other isLinked => ?_) fun _ => rfl
      have different : other ≠ id := by
        rintro rfl
        rw [next?, get?_of_update_eq_ok resolved] at isLinked
        exact linked isLinked
      have kept := get?_remove store.updates id other
      rw [if_neg different] at kept
      exact congrArg (·.bind Node.next) kept

theorem keepsPending_reclaimQueue (queue : HookQueueId) :
    Within KeepsPending (reclaimQueue queue :
      HookQueueM State Action ReducerId DispatchId Unit) := by
  refine .bind (.query _) fun _ => .guard fun _ => .guard fun _ => .modify fun store => ?_
  refine @keepsPending_of_clear _ _ _ _ store _ queue rfl ?_
  funext other
  rw [pendingTail, get?_remove]
  by_cases same : other = queue
  · rw [if_pos same, same, Function.update_self]
    rfl
  · rw [if_neg same, update_of_ne same]
    rfl

/-- An unlinked update that is appended comes last in its queue, and the other queues keep
their updates. -/
theorem PendingApart.run_append {node : HookUpdate Action State}
    (apart : store.PendingApart members) (found : store.queues.get? queue = some entry)
    (live : store.updates.get? id = some node) (unlinked : node.next = none) :
    ∃ after,
      (appendPendingUpdateUnchecked queue id).run store = .ok () after ∧
      after.PendingApart (Function.update members queue (members queue ++ [id])) ∧
      after.queues.get? queue = some { entry with pending := some id } ∧
      OnlyQueue queue store after ∧
      ∀ other otherNode, other ≠ id → store.updates.get? other = some otherNode →
        otherNode.next = none → after.updates.get? other = some otherNode := by
  obtain ⟨updates, ring⟩ := apart.holdsRing found
  obtain ⟨after, ran, foundAfter, only, extension, ringAfter⟩ :=
    run_appendPendingUpdateUnchecked found ring live unlinked
  have notLinked : store.updates.next? id = none := by simp [next?, live, unlinked]
  have untouched : ∀ other otherNode, other ∉ members queue → other ≠ id →
      store.updates.get? other = some otherNode → after.updates.get? other = some otherNode := by
    intro other otherNode notMember different otherLive
    have otherData : store.updates.data? other = some otherNode.data := by simp [data?, otherLive]
    rw [extension.get?_eq otherData (by simp [notMember, different]), otherLive]
  have tails : after.pendingTail = Function.update store.pendingTail queue (some id) := by
    funext other
    by_cases same : other = queue
    · rw [same, update_self, pendingTail_eq foundAfter]
    · rw [update_of_ne same, pendingTail, pendingTail, only other same]
  refine ⟨after, ran, ?_, foundAfter, only, ?_⟩
  · rw [PendingApart, tails]
    refine apart.replace ?_ ringAfter.ring ?_
    · intro other different member isMember
      obtain ⟨next, isNext⟩ := Option.isSome_iff_exists.mp ((apart.ring other).isSome_next isMember)
      obtain ⟨data, isData⟩ := exists_data?_of_next? isNext
      have kept := untouched member _ (fun own => apart.apart other queue different isMember own)
        (by rintro rfl; rw [notLinked] at isNext; cases isNext) (get?_of_data? isData)
      rw [next?, kept]
      rfl
    · intro member isMember
      rcases List.mem_append.mp isMember with own | isLast
      · exact .inl own
      · rw [List.mem_singleton.mp isLast]
        exact .inr notLinked
  · intro other otherNode different otherLive otherUnlinked
    refine untouched other otherNode (fun own => ?_) different otherLive
    have isLinked := (apart.ring queue).isSome_next own
    rw [next?, otherLive] at isLinked
    simp [otherUnlinked] at isLinked

theorem keepsPending_append {node : HookUpdate Action State}
    (live : store.updates.get? id = some node) (unlinked : node.next = none) (queue : HookQueueId) :
    KeepsPending store (stateAfter ((appendPendingUpdateUnchecked queue id).run store)) := by
  rintro ⟨members, apart⟩
  cases resolved : store.queue queue with
  | error error =>
    simp only [appendPendingUpdateUnchecked, run_bind, run_query, resolved, stateAfter]
    exact ⟨members, apart⟩
  | ok entry =>
    obtain ⟨after, ran, apartAfter, -⟩ :=
      apart.run_append (get?_of_queue_eq_ok resolved) live unlinked
    rw [ran]
    exact ⟨_, apartAfter⟩

theorem keepsPending_appendPendingUpdate (queue : HookQueueId) (id : HookUpdateId) :
    Within KeepsPending (appendPendingUpdate queue id :
      HookQueueM State Action ReducerId DispatchId Unit) := by
  refine .bind (.query _) fun _ => .bind_run (.query _) fun store _ after ran => ?_
  obtain ⟨checked, rfl⟩ := run_query_eq_ok_iff.mp ran
  obtain ⟨node, resolved, unlinked⟩ := bind_eq_ok_iff.mp checked
  refine keepsPending_append (get?_of_update_eq_ok resolved) ?_ queue
  cases link : node.next with
  | none => rfl
  | some next => simp [link] at unlinked

/-- A pair of stores beside which something else is held. -/
def KeepsPendingBeside {Held : Type}
    (held after : HookQueueStore State Action ReducerId DispatchId × Held) : Prop :=
  KeepsPending held.1 after.1

instance {Held : Type} :
    IsPreorder (HookQueueStore State Action ReducerId DispatchId × Held) KeepsPendingBeside where
  refl held := refl_of KeepsPending held.1
  trans _ _ _ earlier later := trans_of KeepsPending earlier later

theorem keepsPending_holding {Held α : Type} {body : HookQueueM State Action ReducerId DispatchId α}
    (kept : Within KeepsPending body) :
    Within (@KeepsPendingBeside State Action ReducerId DispatchId Held) (whileHolding body) :=
  .focus_within kept fun _ _ related => related

theorem keepsPending_enqueueRenderPhaseUpdate (queue : HookQueueId) (id : HookUpdateId) :
    Within KeepsPendingBeside (enqueueRenderPhaseUpdate queue id :
      HookRecordedM State Action ReducerId DispatchId Unit) :=
  .bind (keepsPending_holding (keepsPending_appendPendingUpdate queue id)) fun _ =>
    .modify fun held => refl_of KeepsPending held.1

theorem keepsPending_clearRenderPhaseUpdates :
    Within KeepsPendingBeside (clearRenderPhaseUpdates :
      HookRecordedM State Action ReducerId DispatchId Unit) := by
  refine .bind .get fun held => ?_
  obtain ⟨store, recorded⟩ := held
  exact .bind (keepsPending_holding (.forM keepsPending_setPending_none _)) fun _ =>
    .modify fun held => refl_of KeepsPending held.1

theorem keepsPending_onStore {α : Type} {body : HookQueueM State Action ReducerId DispatchId α}
    (kept : Within KeepsPending body) : Within KeepsPendingBeside (onStore body) :=
  .focus_within kept fun _ _ related => related

theorem keepsPending_modifySlot (change : HookStateSlot State → HookStateSlot State) :
    Within KeepsPendingBeside (modifySlot change :
      HookSlotM State Action ReducerId DispatchId Unit) :=
  .modify fun held => refl_of KeepsPending held.1

theorem keepsPending_processRenderPhaseUpdates (reducer : State → Action → State) :
    Within KeepsPendingBeside (processRenderPhaseUpdates reducer :
      HookSlotM State Action ReducerId DispatchId (RenderPhaseHookQueueResult State)) := by
  refine .bind .get fun held => ?_
  obtain ⟨store, slot⟩ := held
  dsimp only
  refine .bind (keepsPending_onStore (.query _)) fun entry =>
    .bind (keepsPending_onStore (.query _)) fun ids =>
    .bind (keepsPending_onStore (keepsPending_setPending_none _)) fun _ =>
    .bind (keepsPending_onStore (.foldlM (fun _ _ =>
      .bind (.query _) fun _ => .pure _) ids _)) fun newState =>
    .bind (keepsPending_modifySlot _) fun _ => ?_
  have finished : ∀ newState : State, Within KeepsPendingBeside (do
      onStore (modifyQueue slot.queue fun entry => { entry with lastRenderedState := newState })
      return {
        memoizedState := newState
        processedUpdateCount := ids.length } :
          HookSlotM State Action ReducerId DispatchId (RenderPhaseHookQueueResult State)) :=
    fun newState => .bind
      (keepsPending_onStore (keepsPending_modifyQueue (fun _ => by rfl) _)) fun _ => .pure _
  exact .ite (.bind (keepsPending_modifySlot _) fun _ => finished newState) (finished newState)

theorem keepsPending_splice {last lastFirst base baseFirst : HookUpdateId}
    (found : store.queues.get? queue = some entry) (pendingShape : entry.pending = some last)
    (lastNext : store.updates.next? last = some lastFirst)
    (baseNext : store.updates.next? base = some baseFirst) :
    KeepsPending store
      (((store.withNext base (some lastFirst)).withNext last (some baseFirst)).changeQueue queue
        fun entry => { entry with pending := none }) := by
  rintro ⟨members, apart⟩
  obtain ⟨lastData, lastLive⟩ := exists_data?_of_next? lastNext
  obtain ⟨baseData, baseLive⟩ := exists_data?_of_next? baseNext
  have lastLiveLinked : (store.withNext base (some lastFirst)).updates.data? last =
      some lastData := by
    simpa using lastLive
  obtain ⟨spliced, isSpliced⟩ : ∃ spliced, spliced =
    (store.withNext base (some lastFirst)).withNext last (some baseFirst) := ⟨_, rfl⟩
  have links : ∀ id, spliced.updates.next? id =
      if id = last then some baseFirst
      else if id = base then some lastFirst
      else store.updates.next? id := by
    intro id
    rw [isSpliced, updates_withNext, next?_withNext lastLiveLinked, updates_withNext,
      next?_withNext baseLive]
  have sameQueues : spliced.queues = store.queues := by rw [isSpliced]; rfl
  have splicedFound : spliced.queues.get? queue = some entry := by rw [sameQueues, found]
  have tails : spliced.pendingTail = store.pendingTail := by
    funext other
    rw [pendingTail, pendingTail, sameQueues]
  have isLast : store.pendingTail queue = some last := (pendingTail_eq found).trans pendingShape
  rw [← isSpliced]
  obtain ⟨membersAfter, apartAfter⟩ : ∃ membersAfter, RingsApart spliced.updates.next?
      (Function.update store.pendingTail queue none) membersAfter :=
    RingsApart.splice apart isLast baseNext lastNext (by rw [links, if_pos rfl])
      (fun different => by rw [links, if_neg different, if_pos rfl])
      (fun other notBase notLast => by rw [links, if_neg notLast, if_neg notBase])
  refine ⟨membersAfter, ?_⟩
  rw [PendingApart, pendingTail_changeQueue splicedFound, tails]
  exact apartAfter

theorem keepsPending_asking {α β : Type} {slot : HookStateSlot State}
    {ask : HookQueueStore State Action ReducerId DispatchId → Except HookQueueError α}
    {next : α → HookSlotM State Action ReducerId DispatchId β}
    (later : ∀ value, ask store = .ok value →
      KeepsPendingBeside (store, slot) (stateAfter ((next value).run (store, slot)))) :
    KeepsPendingBeside (store, slot)
      (stateAfter ((onStore (query ask) >>= next).run (store, slot))) := by
  rw [run_bind, onStore, run_focus, run_query]
  cases asked : ask store with
  | ok value => exact later value asked
  | error error => exact refl_of KeepsPendingBeside (store, slot)

theorem keepsPending_mergePendingIntoBaseQueue :
    Within KeepsPendingBeside (mergePendingIntoBaseQueue :
      HookSlotM State Action ReducerId DispatchId Unit) := by
  rintro ⟨store, slot⟩
  rw [mergePendingIntoBaseQueue, run_bind, run_get]
  dsimp only
  refine keepsPending_asking fun entry resolved => ?_
  have found := get?_of_queue_eq_ok resolved
  cases pendingShape : entry.pending with
  | none => exact refl_of KeepsPendingBeside (store, slot)
  | some last =>
    refine keepsPending_asking fun _ lastLink => ?_
    cases baseShape : slot.baseQueue with
    | none =>
      have emptied : Within KeepsPendingBeside (do
          onStore (setPending slot.queue none)
          modifySlot fun slot => { slot with baseQueue := some last } :
            HookSlotM State Action ReducerId DispatchId Unit) :=
        .bind (keepsPending_onStore (keepsPending_setPending_none _)) fun _ =>
          keepsPending_modifySlot _
      exact emptied (store, slot)
    | some base =>
      refine keepsPending_asking fun baseFirst baseLink =>
        keepsPending_asking fun lastFirst lastLink => ?_
      have lastNext := next?_of_nextInRing_eq_ok lastLink
      have baseNext := next?_of_nextInRing_eq_ok baseLink
      obtain ⟨lastData, lastLive⟩ := exists_data?_of_next? lastNext
      obtain ⟨baseData, baseLive⟩ := exists_data?_of_next? baseNext
      have lastLiveLinked : (store.withNext base (some lastFirst)).updates.data? last =
          some lastData := by
        simpa using lastLive
      have foundLinked : ((store.withNext base (some lastFirst)).withNext last
          (some baseFirst)).queues.get? slot.queue = some entry := found
      simp only [run_bind, onStore, run_focus, run_setNext baseLive, run_setNext lastLiveLinked,
        setPending, run_modifyQueue foundLinked, modifySlot, run_modify, stateAfter]
      exact keepsPending_splice found pendingShape lastNext baseNext

theorem keepsPending_closed {closed : HookQueueStore State Action ReducerId DispatchId}
    (sameQueues : closed.queues = store.queues)
    (extension : Extends [] store.updates closed.updates) : KeepsPending store closed := by
  refine keepsPending_of_same (fun id linked => ?_) fun queue => ?_
  · obtain ⟨next, isNext⟩ := Option.isSome_iff_exists.mp linked
    obtain ⟨data, live⟩ := exists_data?_of_next? isNext
    exact extension.links id data live List.not_mem_nil
  · rw [pendingTail, pendingTail, sameQueues]

theorem keepsPending_endPass
    (changeSlot : HookStateSlot State → HookStateSlot State) (queue : HookQueueId)
    (samePending : ∀ entry, (change entry).pending = entry.pending)
    (result : ProcessHookQueueResult State) :
    Within KeepsPendingBeside (do
      modifySlot changeSlot
      onStore (modifyQueue queue change)
      return result : HookSlotM State Action ReducerId DispatchId (ProcessHookQueueResult State)) :=
  .bind (keepsPending_modifySlot _) fun _ =>
    .bind (keepsPending_onStore (keepsPending_modifyQueue samePending _)) fun _ => .pure _

theorem keepsPending_processUpdateQueue (renderLanes rootRenderLanes : Lanes)
    (reducer : State → Action → State) :
    Within KeepsPendingBeside (processUpdateQueue renderLanes rootRenderLanes reducer :
      HookSlotM State Action ReducerId DispatchId (ProcessHookQueueResult State)) := by
  refine .bind keepsPending_mergePendingIntoBaseQueue fun _ => ?_
  rintro ⟨store, slot⟩
  rw [run_bind, run_get]
  dsimp only
  cases slot.baseQueue with
  | none => exact keepsPending_endPass _ _ (fun _ => by rfl) _ (store, slot)
  | some baseTail =>
    refine keepsPending_asking fun ids collected => ?_
    obtain ⟨live, -⟩ := mem_collectRingIds_iff collected
    obtain ⟨updates, holds⟩ := Holds.exists_of_live live
    obtain ⟨pass, swept, clones, ranLoop, -, chain, -⟩ :=
      run_processUpdates renderLanes rootRenderLanes reducer slot.baseState holds
    obtain ⟨closed, ranClose, sameQueues, extension, -⟩ := chain.run_closeNewBaseQueue
    have toClosed : KeepsPendingBeside (store, slot) (closed, slot) :=
      keepsPending_closed sameQueues extension
    have looped : (onStore (ids.foldlM (processUpdate renderLanes rootRenderLanes reducer)
        (HookQueuePass.start slot.baseState))).run (store, slot) = .ok pass (swept, slot) := by
      rw [onStore, run_focus, ranLoop]
    have closing : (onStore (closeNewBaseQueue pass)).run (swept, slot) = .ok () (closed, slot) := by
      rw [onStore, run_focus, ranClose]
    rw [run_bind, looped]
    dsimp only
    rw [run_bind, closing]
    refine trans_of KeepsPendingBeside toClosed ?_
    exact keepsPending_endPass _ _ (fun _ => by rfl) _ (closed, slot)

end HookQueueStore

end FastReact
