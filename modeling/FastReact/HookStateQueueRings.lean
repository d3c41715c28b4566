import FastReact.HookStateQueue

namespace FastReact

open ErrorState LinkChain LinkedArena SlotArena

/-!
# Rings of hook updates

Every queue operation is specified by what it does to the rings of the update
arena: which links it touches, which data it keeps, and which ring it leaves.
-/

variable {State Action ReducerId DispatchId : Type}

namespace HookQueueStore

variable {store : HookQueueStore State Action ReducerId DispatchId} {id : HookUpdateId}

theorem update_eq_ok {update : HookUpdate Action State}
    (found : store.updates.get? id = some update) : store.update id = .ok update := by
  rw [HookQueueStore.update, find_eq_ok_iff.mpr found]
  rfl

variable {entry : HookQueue State ReducerId DispatchId} {queue : HookQueueId}

theorem queue_eq_ok (found : store.queues.get? queue = some entry) :
    store.queue queue = .ok entry := by
  rw [HookQueueStore.queue, find_eq_ok_iff.mpr found]
  rfl

theorem get?_of_update_eq_ok {update : HookUpdate Action State}
    (resolved : store.update id = .ok update) : store.updates.get? id = some update := by
  rw [← find_eq_ok_iff]
  rw [HookQueueStore.update] at resolved
  cases found : store.updates.find id with
  | ok value =>
    rw [found] at resolved
    cases resolved
    rfl
  | error error =>
    rw [found] at resolved
    cases resolved

theorem get?_of_queue_eq_ok (resolved : store.queue queue = .ok entry) :
    store.queues.get? queue = some entry := by
  rw [← find_eq_ok_iff]
  rw [HookQueueStore.queue] at resolved
  cases found : store.queues.find queue with
  | ok value =>
    rw [found] at resolved
    cases resolved
    rfl
  | error error =>
    rw [found] at resolved
    cases resolved

theorem validateUpdateId_eq_ok {metadata : HookUpdateDispatchMetadata Action State}
    (live : store.updates.data? id = some metadata) : store.validateUpdateId id = .ok () := by
  obtain ⟨update, found, -⟩ := exists_node_of_data? live
  rw [validateUpdateId, update_eq_ok found]
  rfl

theorem nextInRing_eq_ok {next : HookUpdateId} (linked : store.updates.next? id = some next) :
    store.nextInRing id = .ok next := by
  obtain ⟨update, found, linkShape⟩ := Option.bind_eq_some_iff.mp linked
  rw [nextInRing, update_eq_ok found]
  simp only [bind, Except.bind, linkShape]

variable {updates : List (HookUpdateDispatchMetadata Action State)} {ids : List HookUpdateId}

theorem collectRingIdsLoop_eq_ok {tail first : HookUpdateId}
    (ring : IsRing store.updates.next? tail ids) (holds : store.updates.Holds ids updates)
    (isFirst : ids.head? = some first) :
    ∀ rest collected next, ids = collected ++ next :: rest →
      ∀ rounds, rest.length < rounds →
        store.collectRingIdsLoop tail first rounds next collected = .ok ids := by
  have keyed : IsRing store.updates.next? tail (ids.map id) := by rwa [List.map_id]
  have bounded := holds.length_le ring.nodup
  have notCollected : ∀ collected next rest, ids = collected ++ next :: rest →
      next ∉ collected := by
    rintro collected next rest rfl member
    exact List.disjoint_of_nodup_append ring.nodup member (by simp)
  refine keyed.around ?_ ?_
  · intro collected next shape closing rounds enough
    obtain ⟨remaining, rfl⟩ := Nat.exists_eq_succ_of_ne_zero (by omega : rounds ≠ 0)
    obtain ⟨metadata, -, live⟩ := holds.live (show next ∈ ids by simp [shape])
    rw [id_eq, List.map_id, isFirst] at closing
    simp [collectRingIdsLoop, validateUpdateId_eq_ok live, notCollected _ _ _ shape,
      nextInRing_eq_ok closing, bind, Except.bind, shape]
  · intro collected next other others shape linked notFirst recursion rounds enough
    rw [id_eq, id_eq] at linked
    obtain ⟨remaining, rfl⟩ := Nat.exists_eq_succ_of_ne_zero (by omega : rounds ≠ 0)
    obtain ⟨metadata, -, live⟩ := holds.live (show next ∈ ids by simp [shape])
    have otherNotFirst : other ≠ first := by
      rintro rfl
      exact notFirst (by rw [List.map_id, isFirst]; rfl)
    have withinSlots :
        ¬ (collected ++ [next]).length > store.updates.slots.length := by
      rw [shape] at bounded
      simp only [List.length_append, List.length_cons, List.length_nil] at bounded ⊢
      omega
    simp only [collectRingIdsLoop, validateUpdateId_eq_ok live, nextInRing_eq_ok linked,
      bind, Except.bind]
    rw [if_neg (notCollected _ _ _ shape), if_neg otherNotFirst, if_neg withinSlots,
      recursion remaining (by simpa using enough)]

theorem collectRingIds_eq_ok {tail : HookUpdateId}
    (holds : store.updates.HoldsRing (some tail) ids updates) :
    store.collectRingIds tail = .ok ids := by
  obtain ⟨ring, data⟩ := holds
  change IsRing store.updates.next? tail ids at ring
  cases ids with
  | nil => simpa using ring.last
  | cons first rest =>
    obtain ⟨_, -, tailLive⟩ := data.live ring.tail_mem
    obtain ⟨_, -, firstLive⟩ := data.live (show first ∈ _ by simp)
    have closing : store.updates.next? tail = some first := ring.closed
    have enough : rest.length < store.updates.slots.length + 1 := by
      have bounded := data.length_le ring.nodup
      simp only [List.length_cons] at bounded
      omega
    have collected := collectRingIdsLoop_eq_ok ring data rfl rest [] first rfl
      (store.updates.slots.length + 1) enough
    simp only [collectRingIds, validateUpdateId_eq_ok tailLive, validateUpdateId_eq_ok firstLive,
      nextInRing_eq_ok closing, collected, bind, Except.bind]
    exact if_pos ring.tail_mem

theorem updateRing_eq_ok {tail : Option HookUpdateId}
    (holds : store.updates.HoldsRing tail ids updates) : store.updateRing tail = .ok ids := by
  cases tail with
  | none =>
    obtain rfl : ids = [] := holds.ring
    rfl
  | some tail => exact collectRingIds_eq_ok holds

@[simp] theorem updates_changeQueue (store : HookQueueStore State Action ReducerId DispatchId)
    (queue : HookQueueId)
    (change : HookQueue State ReducerId DispatchId → HookQueue State ReducerId DispatchId) :
    (store.changeQueue queue change).updates = store.updates :=
  rfl

/-- Assign one ring link. -/
def withNext (store : HookQueueStore State Action ReducerId DispatchId) (id : HookUpdateId)
    (next : Option HookUpdateId) : HookQueueStore State Action ReducerId DispatchId :=
  { store with updates := store.updates.withNext id next }

@[simp] theorem updates_withNext (store : HookQueueStore State Action ReducerId DispatchId)
    (id : HookUpdateId) (next : Option HookUpdateId) :
    (store.withNext id next).updates = store.updates.withNext id next :=
  rfl

/-- The only queue that may differ between two stores. -/
def OnlyQueue (queue : HookQueueId)
    (store after : HookQueueStore State Action ReducerId DispatchId) : Prop :=
  ∀ other ≠ queue, after.queues.get? other = store.queues.get? other

theorem onlyQueue_changeQueue (store : HookQueueStore State Action ReducerId DispatchId)
    (queue : HookQueueId)
    (change : HookQueue State ReducerId DispatchId → HookQueue State ReducerId DispatchId) :
    OnlyQueue queue store (store.changeQueue queue change) := by
  intro other different
  unfold changeQueue
  rw [get?_modify, if_neg different]

theorem get?_changeQueue_self (found : store.queues.get? queue = some entry)
    (change : HookQueue State ReducerId DispatchId → HookQueue State ReducerId DispatchId) :
    (store.changeQueue queue change).queues.get? queue = some (change entry) := by
  unfold changeQueue
  rw [get?_modify, if_pos rfl, found]
  rfl

end HookQueueStore

open HookQueueStore

section Operations

variable {store : HookQueueStore State Action ReducerId DispatchId} {queue : HookQueueId}
  {entry : HookQueue State ReducerId DispatchId}

variable {node : HookUpdate Action State} {id : HookUpdateId}

theorem run_setNext {metadata : HookUpdateDispatchMetadata Action State}
    (live : store.updates.data? id = some metadata) (next : Option HookUpdateId) :
    (setNext id next).run store = .ok () (store.withNext id next) := by
  obtain ⟨node, found, -⟩ := exists_node_of_data? live
  simp only [setNext, modifyUpdate, run_bind, run_query, update_eq_ok found, run_modify]
  rfl

theorem run_modifyQueue (found : store.queues.get? queue = some entry)
    (change : HookQueue State ReducerId DispatchId → HookQueue State ReducerId DispatchId) :
    (modifyQueue queue change :
      HookQueueM State Action ReducerId DispatchId Unit).run store =
      .ok () (store.changeQueue queue change) := by
  simp only [modifyQueue, run_bind, run_query, queue_eq_ok found, run_modify]

variable {updates : List (HookUpdateDispatchMetadata Action State)}

theorem run_appendPendingUpdateUnchecked {ids : List HookUpdateId}
    (found : store.queues.get? queue = some entry)
    (pending : store.updates.HoldsRing entry.pending ids updates)
    (live : store.updates.get? id = some node) (unlinked : node.next = none) :
    ∃ after,
      (appendPendingUpdateUnchecked queue id).run store = .ok () after ∧
      after.queues.get? queue = some { entry with pending := some id } ∧
      OnlyQueue queue store after ∧
      Extends (ids ++ [id]) store.updates after.updates ∧
      after.updates.HoldsRing (some id) (ids ++ [id]) (updates ++ [node.data]) := by
  have liveData : store.updates.data? id = some node.data := by simp [data?, live]
  have notLinked : store.updates.next? id = none := by simp [next?, live, unlinked]
  cases tailShape : entry.pending with
  | none =>
    rw [tailShape] at pending
    obtain rfl : ids = [] := pending.ring
    obtain rfl : updates = [] := pending.eq_none_iff.mp rfl
    have linkedFound : (store.withNext id (some id)).queues.get? queue = some entry := found
    refine ⟨(store.withNext id (some id)).changeQueue queue
      (fun entry => { entry with pending := some id }), ?_, ?_, ?_, ?_, ?_⟩
    · simp only [appendPendingUpdateUnchecked, run_bind, run_query, queue_eq_ok found, tailShape,
        run_setNext liveData, setPending, run_modifyQueue linkedFound]
    · exact get?_changeQueue_self linkedFound _
    · exact onlyQueue_changeQueue _ queue _
    · exact extends_withNext liveData _
    · refine ⟨⟨.singleton _ id, ?_⟩, .singleton ?_⟩
      · simp [next?_withNext liveData]
      · simpa using liveData
  | some tail =>
    rw [tailShape] at pending
    have ring : IsRing store.updates.next? tail ids := pending.ring
    obtain ⟨head, headShape, -⟩ := ring.exists_head
    have closing : store.updates.next? tail = some head := ring.closed.trans headShape
    have fresh : id ∉ ids := by
      intro member
      obtain ⟨successor, -, linked⟩ := ring.next_mem member
      rw [notLinked] at linked
      exact Option.some_ne_none successor linked.symm
    obtain ⟨tailData, -, tailLive⟩ := pending.holds.live ring.tail_mem
    have tailLiveLinked :
        (store.withNext id (some head)).updates.data? tail = some tailData := by
      simpa using tailLive
    have linkedFound :
        ((store.withNext id (some head)).withNext tail (some id)).queues.get? queue =
          some entry := found
    obtain ⟨pushed, extension⟩ := pending.push headShape liveData fresh
    refine ⟨((store.withNext id (some head)).withNext tail (some id)).changeQueue queue
      (fun entry => { entry with pending := some id }), ?_, ?_, ?_, extension, pushed⟩
    · simp only [appendPendingUpdateUnchecked, run_bind, run_query, queue_eq_ok found, tailShape,
        nextInRing_eq_ok closing, run_setNext liveData, run_setNext tailLiveLinked, setPending,
        run_modifyQueue linkedFound]
    · exact get?_changeQueue_self linkedFound _
    · exact onlyQueue_changeQueue _ queue _

theorem run_appendPendingUpdate_of_unlinked (queue : HookQueueId)
    (live : store.updates.get? id = some node) (unlinked : node.next = none) :
    (appendPendingUpdate queue id).run store =
      (appendPendingUpdateUnchecked queue id).run store := by
  have liveData : store.updates.data? id = some node.data := by simp [data?, live]
  have unlinkedCheck : store.ensureUpdateIsUnlinked id = .ok () := by
    simp [ensureUpdateIsUnlinked, update_eq_ok live, unlinked, bind, Except.bind]
  simp only [appendPendingUpdate, run_bind, run_query,
    validateUpdateId_eq_ok liveData, unlinkedCheck]

theorem run_appendPendingUpdate {ids : List HookUpdateId}
    (found : store.queues.get? queue = some entry)
    (pending : store.updates.HoldsRing entry.pending ids updates)
    (live : store.updates.get? id = some node) (unlinked : node.next = none) :
    ∃ after,
      (appendPendingUpdate queue id).run store = .ok () after ∧
      after.queues.get? queue = some { entry with pending := some id } ∧
      OnlyQueue queue store after ∧
      Extends (ids ++ [id]) store.updates after.updates ∧
      after.updates.HoldsRing (some id) (ids ++ [id]) (updates ++ [node.data]) := by
  rw [run_appendPendingUpdate_of_unlinked queue live unlinked]
  exact run_appendPendingUpdateUnchecked found pending live unlinked

theorem run_mergePendingIntoBaseQueue {slot : HookStateSlot State}
    {baseIds pendingIds : List HookUpdateId}
    {baseUpdates pendingUpdates : List (HookUpdateDispatchMetadata Action State)}
    (found : store.queues.get? slot.queue = some entry)
    (base : store.updates.HoldsRing slot.baseQueue baseIds baseUpdates)
    (pending : store.updates.HoldsRing entry.pending pendingIds pendingUpdates)
    (disjoint : baseIds.Disjoint pendingIds) :
    ∃ after tail,
      mergePendingIntoBaseQueue.run (store, slot) =
        .ok () (after, { slot with baseQueue := tail }) ∧
      after.queues.get? slot.queue = some { entry with pending := none } ∧
      OnlyQueue slot.queue store after ∧
      Extends (baseIds ++ pendingIds) store.updates after.updates ∧
      after.updates.HoldsRing tail (baseIds ++ pendingIds) (baseUpdates ++ pendingUpdates) := by
  cases pendingShape : entry.pending with
  | none =>
    rw [pendingShape] at pending
    obtain rfl : pendingIds = [] := pending.ring
    obtain rfl : pendingUpdates = [] := pending.eq_none_iff.mp rfl
    refine ⟨store, slot.baseQueue, ?_, ?_, fun _ _ => rfl, ?_, ?_⟩
    · simp [mergePendingIntoBaseQueue, onStore, queue_eq_ok found, pendingShape]
    · rw [found, ← pendingShape]
    · exact (Extends.refl store.updates).mono (by simp)
    · simpa using base
  | some pendingTail =>
    rw [pendingShape] at pending
    have pendingRing : IsRing store.updates.next? pendingTail pendingIds := pending.ring
    obtain ⟨pendingHead, pendingHeadShape, -⟩ := pendingRing.exists_head
    have pendingClosing : store.updates.next? pendingTail = some pendingHead :=
      pendingRing.closed.trans pendingHeadShape
    cases baseShape : slot.baseQueue with
    | none =>
      rw [baseShape] at base
      obtain rfl : baseIds = [] := base.ring
      obtain rfl : baseUpdates = [] := base.eq_none_iff.mp rfl
      refine ⟨store.changeQueue slot.queue
        (fun entry => { entry with pending := none }), some pendingTail,
        ?_, ?_, ?_, ?_, ?_⟩
      · simp [mergePendingIntoBaseQueue, onStore, queue_eq_ok found, pendingShape,
          nextInRing_eq_ok pendingClosing, baseShape, setPending, run_modifyQueue found, modifySlot]
      · exact get?_changeQueue_self found _
      · exact onlyQueue_changeQueue _ _ _
      · exact (Extends.refl store.updates).mono (by simp)
      · exact pending
    | some baseTail =>
      rw [baseShape] at base
      have baseRing : IsRing store.updates.next? baseTail baseIds := base.ring
      obtain ⟨baseHead, baseHeadShape, -⟩ := baseRing.exists_head
      have baseClosing : store.updates.next? baseTail = some baseHead :=
        baseRing.closed.trans baseHeadShape
      obtain ⟨baseTailData, -, baseTailLive⟩ := base.holds.live baseRing.tail_mem
      obtain ⟨pendingTailData, -, pendingTailLive⟩ := pending.holds.live pendingRing.tail_mem
      have pendingTailLinked :
          (store.withNext baseTail (some pendingHead)).updates.data? pendingTail =
            some pendingTailData := by
        simpa using pendingTailLive
      have splicedFound :
          ((store.withNext baseTail (some pendingHead)).withNext
            pendingTail (some baseHead)).queues.get? slot.queue = some entry := found
      obtain ⟨spliced, extension⟩ := base.splice pending disjoint baseHeadShape pendingHeadShape
      refine ⟨((store.withNext baseTail (some pendingHead)).withNext
        pendingTail (some baseHead)).changeQueue slot.queue
        (fun entry => { entry with pending := none }), some pendingTail,
        ?_, ?_, ?_, extension, spliced⟩
      · simp only [mergePendingIntoBaseQueue, run_bind, run_get, onStore, run_focus, run_query,
          queue_eq_ok found, pendingShape, baseShape, nextInRing_eq_ok pendingClosing,
          nextInRing_eq_ok baseClosing, run_setNext baseTailLive, run_setNext pendingTailLinked,
          setPending, run_modifyQueue splicedFound, modifySlot, run_modify]
      · exact get?_changeQueue_self splicedFound _
      · exact onlyQueue_changeQueue _ _ _

end Operations

end FastReact
