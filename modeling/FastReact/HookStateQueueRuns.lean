import FastReact.HookStateQueueLedger

namespace FastReact

open EStateM.Result ErrorState HookQueueStore HookQueueWorld HookStateSlot LinkChain LinkedArena SlotArena

/-!
# Runs of hook queue operations

Every call keeps the rings described by the ledger, so in every run the rings are
disjoint, circular and exactly as long as they should be, and collecting them never
fails.
-/

variable {State Action ReducerId DispatchId OwnerId : Type}

section RenderPhase

variable {store : HookQueueStore State Action ReducerId DispatchId} {slot : HookStateSlot State}
  {entry : HookQueue State ReducerId DispatchId}

variable {updates : List (HookUpdateDispatchMetadata Action State)}

theorem run_reduceActions (store : HookQueueStore State Action ReducerId DispatchId)
    (reducer : State → Action → State) {ids : List HookUpdateId}
    (holds : store.updates.Holds ids updates) (initialState : State) :
    (ids.foldlM
        (fun state id => do
          return reducer state (← query (·.update id)).data.action)
        initialState :
      HookQueueM State Action ReducerId DispatchId State).run store =
      .ok (updates.foldl (fun state update => reducer state update.action) initialState) store := by
  induction ids generalizing initialState updates with
  | nil =>
    obtain rfl : updates = [] := holds.eq_nil_iff.mp rfl
    rfl
  | cons id rest ih =>
    cases updates with
    | nil =>
      cases holds.length_eq
    | cons update later =>
      have both := List.cons.inj holds
      have live : store.updates.data? id = some update := both.1
      obtain ⟨node, found, rfl⟩ := exists_node_of_data? live
      have recursion := ih both.2 (reducer initialState node.data.action)
      simp only [List.foldlM_cons, run_bind, run_query, update_eq_ok found,
        run_pure, List.foldl_cons]
      exact recursion

/-- The slot after its pending updates were applied during a render. -/
def HookStateSlot.afterRenderPhase (slot : HookStateSlot State) (newState : State) :
    HookStateSlot State :=
  { slot with
    memoizedState := newState
    baseState := if slot.baseQueue.isNone then newState else slot.baseState }

/-- Applying the pending updates during a render takes them off their queue and leaves
all other rings alone. -/
theorem run_processRenderPhaseUpdates (reducer : State → Action → State) {ids : List HookUpdateId}
    (found : store.queues.get? slot.queue = some entry)
    (pending : store.updates.HoldsRing entry.pending ids updates) {newState : State}
    (newStateShape : newState =
      updates.foldl (fun state update => reducer state update.action) slot.memoizedState) :
    ∃ after,
      (processRenderPhaseUpdates reducer).run (store, slot) =
        .ok { memoizedState := newState, processedUpdateCount := ids.length }
          (after, slot.afterRenderPhase newState) ∧
      after.updates = store.updates ∧
      after.queues.get? slot.queue =
        some { entry with pending := none, lastRenderedState := newState } ∧
      OnlyQueue slot.queue store after := by
  have takenFound := get?_changeQueue_self found fun entry => { entry with pending := none }
  have reduced := run_reduceActions
    (store.changeQueue slot.queue fun entry => { entry with pending := none })
    reducer pending.holds slot.memoizedState
  rw [← newStateShape] at reduced
  refine ⟨_, ?_, ?_, get?_changeQueue_self takenFound
    fun entry => { entry with lastRenderedState := newState }, ?_⟩
  · by_cases noBase : slot.baseQueue.isNone = true <;>
      simp only [processRenderPhaseUpdates, run_bind, run_get, onStore, run_focus, run_query,
        queue_eq_ok found, updateRing_eq_ok pending, setPending, run_modifyQueue found, reduced,
        modifySlot, run_modify, noBase, if_true, if_false, run_modifyQueue takenFound, run_pure,
        afterRenderPhase, Bool.false_eq_true]
  · rfl
  · intro other different
    rw [onlyQueue_changeQueue _ _ _ other different, onlyQueue_changeQueue _ _ _ other different]

end RenderPhase

namespace HookQueueStore

variable {store : HookQueueStore State Action ReducerId DispatchId}

theorem exists_of_ensureUpdateIsUnlinked {id : HookUpdateId}
    (checked : store.ensureUpdateIsUnlinked id = .ok ()) :
    ∃ node, store.updates.get? id = some node ∧ node.next = none := by
  obtain ⟨node, resolved, unlinked⟩ := bind_eq_ok_iff.mp checked
  refine ⟨node, get?_of_update_eq_ok resolved, ?_⟩
  cases linkShape : node.next with
  | none => rfl
  | some next => simp [linkShape] at unlinked

end HookQueueStore

variable {store : HookQueueStore State Action ReducerId DispatchId}

variable {seen seenLater : List HookUpdateId × List HookQueueId}

theorem validateStagedUpdate_eq_ok {entry : StagedHookUpdate OwnerId}
    (checked : store.validateStagedUpdate seen entry = .ok seenLater) :
    (∃ queue, store.queues.get? entry.queue = some queue) ∧
      (∃ node, store.updates.get? entry.update = some node ∧ node.next = none) ∧
      entry.update ∉ seen.1 ∧ seenLater.1 = entry.update :: seen.1 := by
  obtain ⟨queue, queueResolved, checked⟩ := bind_eq_ok_iff.mp checked
  obtain ⟨_, -, checked⟩ := bind_eq_ok_iff.mp checked
  obtain ⟨_, unlinked, checked⟩ := bind_eq_ok_iff.mp checked
  refine ⟨⟨queue, get?_of_queue_eq_ok queueResolved⟩, exists_of_ensureUpdateIsUnlinked unlinked, ?_⟩
  by_cases duplicate : entry.update ∈ seen.1
  · simp [duplicate] at checked
  · refine ⟨duplicate, ?_⟩
    rw [if_neg duplicate] at checked
    split at checked
    · cases checked
      rfl
    · split at checked
      · cases checked
        rfl
      · obtain ⟨-, -, checked⟩ := bind_eq_ok_iff.mp checked
        cases checked
        rfl

theorem validateStagedUpdates_eq_ok {entries : List (StagedHookUpdate OwnerId)}
    (checked : entries.foldlM store.validateStagedUpdate seen = .ok seenLater) :
    (∀ entry ∈ entries,
      (∃ queue, store.queues.get? entry.queue = some queue) ∧
      (∃ node, store.updates.get? entry.update = some node ∧ node.next = none) ∧
      entry.update ∉ seen.1) ∧
    (entries.map StagedHookUpdate.update).Nodup := by
  induction entries generalizing seen with
  | nil => simp
  | cons entry rest ih =>
    rw [List.foldlM_cons] at checked
    obtain ⟨seenNext, first, later⟩ := bind_eq_ok_iff.mp checked
    obtain ⟨queueLive, updateLive, unseen, seenShape⟩ := validateStagedUpdate_eq_ok first
    obtain ⟨restChecked, restNodup⟩ := ih later
    rw [seenShape] at restChecked
    constructor
    · intro other member
      rcases List.mem_cons.mp member with rfl | inRest
      · exact ⟨queueLive, updateLive, unseen⟩
      · obtain ⟨otherQueue, otherUpdate, otherUnseen⟩ := restChecked other inRest
        exact ⟨otherQueue, otherUpdate, fun seenBefore =>
          otherUnseen (List.mem_cons_of_mem _ seenBefore)⟩
    · rw [List.map_cons, List.nodup_cons]
      refine ⟨?_, restNodup⟩
      intro again
      obtain ⟨other, inRest, same⟩ := List.mem_map.mp again
      exact (restChecked other inRest).2.2 (by simp [same])

namespace HookRingLedger

section Calls

variable {ledger : HookRingLedger State Action} {slots : List (HookStateSlot State)}
  {baseIds : Nat → List HookUpdateId}

section

variable (describes : ledger.Describes ⟨store, slots⟩ baseIds)
include describes

/-- Appending checked updates one after another adds all of them to the ledger. -/
theorem Describes.run_appendStaged {start : HookQueueStore State Action ReducerId DispatchId}
    {entries : List (StagedHookUpdate OwnerId)}
    (queuesLive : ∀ entry ∈ entries, ∃ queue, store.queues.get? entry.queue = some queue)
    (unlinked : ∀ entry ∈ entries, ∃ node,
      store.updates.get? entry.update = some node ∧ node.next = none ∧
      start.updates.data? entry.update = some node.data)
    (distinct : (entries.map StagedHookUpdate.update).Nodup) :
    ∃ after,
      (entries.forM fun entry =>
        (appendPendingUpdateUnchecked entry.queue entry.update :
          HookQueueM State Action ReducerId DispatchId Unit)).run store = .ok () after ∧
      (entries.foldl
        (fun ledger entry => ledger.appendFrom ⟨start, slots⟩ entry.queue entry.update)
        ledger).Describes ⟨after, slots⟩ baseIds := by
  induction entries generalizing store ledger with
  | nil => exact ⟨store, rfl, describes⟩
  | cons entry rest ih =>
    obtain ⟨queue, found⟩ := queuesLive entry (by simp)
    obtain ⟨node, live, notLinked, content⟩ := unlinked entry (by simp)
    obtain ⟨middle, ran, queues, only, unlinkedKept, described⟩ :=
      describes.run_appendPendingUpdateUnchecked found live notLinked
    rw [List.map_cons, List.nodup_cons] at distinct
    have queuesLiveNext : ∀ other ∈ rest,
        ∃ otherQueue, middle.queues.get? other.queue = some otherQueue := by
      intro other member
      by_cases same : other.queue = entry.queue
      · exact ⟨_, same ▸ queues⟩
      · rw [only other.queue same]
        exact queuesLive other (by simp [member])
    have unlinkedNext : ∀ other ∈ rest, ∃ node,
        middle.updates.get? other.update = some node ∧ node.next = none ∧
        start.updates.data? other.update = some node.data := by
      intro other member
      obtain ⟨otherNode, otherLive, otherUnlinked, otherContent⟩ :=
        unlinked other (by simp [member])
      have different : other.update ≠ entry.update := by
        intro same
        exact distinct.1 (List.mem_map.mpr ⟨other, member, same⟩)
      exact ⟨otherNode, unlinkedKept _ _ different otherLive otherUnlinked,
        otherUnlinked, otherContent⟩
    have appended : ledger.appendFrom ⟨start, slots⟩ entry.queue entry.update =
        ledger.append entry.queue (entry.update, node.data) := by
      simp [appendFrom, content]
    obtain ⟨after, ranRest, describedRest⟩ := ih described queuesLiveNext unlinkedNext distinct.2
    refine ⟨after, ?_, ?_⟩
    · rw [run_forM_cons, ran]
      exact ranRest
    · rw [List.foldl_cons, appended]
      exact describedRest

theorem Describes.finishQueueing (staging : HookUpdateStaging OwnerId) :
    AllOrNothing
      (fun after => (staging.entries.foldl
        (fun ledger entry => ledger.appendFrom ⟨store, slots⟩ entry.queue entry.update)
        ledger).Describes ⟨after.1, slots⟩ baseIds)
      FastReact.finishQueueing (store, staging) := by
  cases checked : staging.entries.foldlM store.validateStagedUpdate ([], []) with
  | error error =>
    refine .of_error error ?_
    simp only [FastReact.finishQueueing, run_bind, run_get, whileHolding,
      run_focus, run_query, checked]
  | ok seen =>
    obtain ⟨valid, distinct⟩ := validateStagedUpdates_eq_ok checked
    have unlinked : ∀ entry ∈ staging.entries, ∃ node,
        store.updates.get? entry.update = some node ∧ node.next = none ∧
        store.updates.data? entry.update = some node.data := by
      intro entry member
      obtain ⟨-, ⟨node, live, notLinked⟩, -⟩ := valid entry member
      exact ⟨node, live, notLinked, by simp [data?, live]⟩
    obtain ⟨after, ran, described⟩ := describes.run_appendStaged
      (fun entry member => (valid entry member).1) unlinked distinct
    refine .of_ok (?_ : _ = ok staging.entries (after, HookUpdateStaging.new)) described
    simp only [FastReact.finishQueueing, run_bind, run_get, whileHolding,
      run_focus, run_query, checked, ran, run_modify, run_pure]

theorem Describes.run_clearQueues (queues : List HookQueueId) :
    match (queues.forM fun queue =>
        (setPending queue none : HookQueueM State Action ReducerId DispatchId Unit)).run
        store with
    | .ok _ after => (queues.foldl take ledger).Describes ⟨after, slots⟩ baseIds
    | .error _ after =>
      ((queues.takeWhile fun queue => (store.queues.get? queue).isSome).foldl take
        ledger).Describes ⟨after, slots⟩ baseIds := by
  induction queues generalizing store ledger with
  | nil => exact describes
  | cons queue rest ih =>
    rw [run_forM_cons]
    cases found : store.queues.get? queue with
    | none =>
      obtain ⟨error, refused⟩ := exists_queue_error found
      have failed : (setPending queue none).run store = .error error store := by
        simp only [setPending, modifyQueue, run_bind, run_query, refused]
      rw [failed]
      simpa [found] using describes
    | some entry =>
      have ran := run_modifyQueue found fun entry => { entry with pending := none }
      have clearedFound := get?_changeQueue_self found fun entry => { entry with pending := none }
      have only := onlyQueue_changeQueue store queue fun entry => { entry with pending := none }
      have described : (ledger.take queue).Describes
          ⟨store.changeQueue queue fun entry => { entry with pending := none }, slots⟩
          baseIds := by
        refine describes.replace_one (.pending queue) (fun _ _ _ _ => rfl) ?_ ?_ ?_
        · intro other different
          exact ⟨tail_of_onlyQueue only different, members_take_other different,
            contents_take_other different⟩
        · rw [members_take_pending, contents_take_pending, tail, clearedFound]
          exact ⟨rfl, rfl⟩
        · rw [members_take_pending]
          simp
      have sameQueues : ∀ other,
          ((store.changeQueue queue fun entry =>
            { entry with pending := none }).queues.get? other).isSome =
            (store.queues.get? other).isSome := by
        intro other
        by_cases same : other = queue
        · rw [same, clearedFound, found]
          rfl
        · rw [only other same]
      have recursion := ih described
      simp only [sameQueues] at recursion
      rw [setPending, ran]
      simpa [found] using recursion

end

variable {slot : HookStateSlot State} {index : Nat}

theorem run_processUpdateQueue_of_absent (renderLanes rootRenderLanes : Lanes)
    (reducer : State → Action → State) (absent : store.queues.get? slot.queue = none) :
    ∃ error, (FastReact.processUpdateQueue renderLanes rootRenderLanes reducer).run
      (store, slot) = .error error (store, slot) := by
  obtain ⟨error, refused⟩ := exists_queue_error absent
  refine ⟨error, ?_⟩
  simp only [FastReact.processUpdateQueue, mergePendingIntoBaseQueue, run_bind,
    run_get, onStore, run_focus, run_query, refused]

theorem run_processRenderPhaseUpdates_of_absent (reducer : State → Action → State)
    (absent : store.queues.get? slot.queue = none) :
    ∃ error, (FastReact.processRenderPhaseUpdates reducer).run (store, slot) =
      .error error (store, slot) := by
  obtain ⟨error, refused⟩ := exists_queue_error absent
  refine ⟨error, ?_⟩
  simp only [FastReact.processRenderPhaseUpdates, run_bind, run_get,
    onStore, run_focus, run_query, refused]

theorem tail_of_set {owner : HookRingOwner} (slot : HookStateSlot State)
    (other : owner ≠ .base index) :
    tail ⟨store, slots.set index slot⟩ owner = tail ⟨store, slots⟩ owner := by
  cases owner with
  | pending queue => rfl
  | base otherIndex =>
    have different : index ≠ otherIndex := fun same => other (congrArg _ same.symm)
    simp only [tail, List.getElem?_set_ne different]

theorem pending_of_outcome {entry : HookQueue State ReducerId DispatchId}
    {pendingIds : List HookUpdateId}
    {baseUpdates pendingUpdates : List (HookUpdateDispatchMetadata Action State)}
    {outcome : HookPassOutcome Action State}
    (pending : store.updates.HoldsRing entry.pending pendingIds pendingUpdates) :
    (outcome.queue entry (baseUpdates ++ pendingUpdates)).pending = none := by
  unfold HookPassOutcome.queue
  split
  · rename_i nothing
    have noUpdates : baseUpdates ++ pendingUpdates = [] := by simpa using nothing
    exact pending.eq_none_iff.mpr (List.append_eq_nil_iff.mp noUpdates).2
  · rfl

/-- A pass over a slot whose queue exists leaves the retained updates in its base ring
and takes the pending ones off the queue. -/
theorem Describes.processUpdateQueue (renderLanes rootRenderLanes : Lanes)
    (reducer : State → Action → State) (describes : ledger.Describes ⟨store, slots⟩ baseIds)
    (slotFound : slots[index]? = some slot) :
    AllOrNothing
      (fun after => ∃ ids,
        ((ledger.rebase index (retainedUpdates renderLanes rootRenderLanes
            (ledger.base index ++ (ledger.pending slot.queue).map Prod.snd))).take
          slot.queue).Describes ⟨after.1, slots.set index after.2⟩
          (Function.update baseIds index ids))
      (FastReact.processUpdateQueue renderLanes rootRenderLanes reducer) (store, slot) := by
  cases found : store.queues.get? slot.queue with
  | none =>
    obtain ⟨error, failed⟩ :=
      run_processUpdateQueue_of_absent renderLanes rootRenderLanes reducer found
    exact .of_error error failed
  | some entry =>
    have base := describes.baseRing slotFound
    have pending := describes.pendingRing found
    have disjoint : (baseIds index).Disjoint
        ((ledger.pending slot.queue).map Prod.fst) :=
      describes.disjoint (.base index) (.pending slot.queue) (by simp)
    obtain ⟨after, tail, ids, ran, refines⟩ :=
      run_processUpdateQueue found base pending disjoint rfl
    have inRange : index < slots.length := (List.getElem?_eq_some_iff.mp slotFound).1
    refine .of_ok ran ⟨ids, ?_⟩
    refine describes.replace
      (fun owner => owner = .base index ∨ owner = .pending slot.queue) ?_ ?_ ?_ ?_ ?_
    · intro owner unchanged id member
      simp only [not_or] at unchanged
      refine describes.get?_of_extends refines.kept member ?_
      rw [List.mem_append, not_or]
      exact ⟨describes.disjoint owner (.base index) unchanged.1 member,
        describes.disjoint owner (.pending slot.queue) unchanged.2 member⟩
    · intro owner unchanged
      simp only [not_or] at unchanged
      obtain ⟨notBase, notPending⟩ := unchanged
      refine ⟨?_, ?_, ?_⟩
      · exact (tail_of_onlyQueue refines.onlyQueue notPending).trans (tail_of_set _ notBase)
      · exact (members_take_other notPending).trans (members_rebase_other _ _ notBase)
      · exact (contents_take_other notPending).trans (contents_rebase_other _ notBase)
    · rintro owner (rfl | rfl)
      · have ring := refines.ring
        simpa [HookQueueWorld.tail, members, contents, take, rebase, inRange,
          HookPassOutcome.slot, hookPassOutcome] using ring
      · rw [members_take_pending, contents_take_pending, HookQueueWorld.tail,
          refines.queue, Option.bind_some, pending_of_outcome pending]
        exact ⟨rfl, rfl⟩
    · rintro owner (rfl | rfl) id member
      · have isMember : id ∈ ids := by simpa [members, take, rebase] using member
        refine .inr ?_
        cases linked : store.updates.next? id with
        | none => rfl
        | some next =>
          obtain ⟨data, live⟩ := exists_data?_of_next? linked
          rw [refines.isNew id isMember] at live
          cases live
      · rw [members_take_pending] at member
        cases member
    · rintro owner other (rfl | rfl) (rfl | rfl) different
      · exact absurd rfl different
      · rw [members_take_pending]
        exact List.disjoint_nil_right _
      · rw [members_take_pending]
        exact List.disjoint_nil_left _
      · exact absurd rfl different

theorem Describes.processRenderPhaseUpdates (reducer : State → Action → State)
    (describes : ledger.Describes ⟨store, slots⟩ baseIds) (slotFound : slots[index]? = some slot) :
    AllOrNothing
      (fun after => (ledger.take slot.queue).Describes ⟨after.1, slots.set index after.2⟩ baseIds)
      (FastReact.processRenderPhaseUpdates reducer) (store, slot) := by
  cases found : store.queues.get? slot.queue with
  | none =>
    obtain ⟨error, failed⟩ := run_processRenderPhaseUpdates_of_absent reducer found
    exact .of_error error failed
  | some entry =>
    obtain ⟨after, ran, sameUpdates, queueAfter, only⟩ :=
      run_processRenderPhaseUpdates reducer found (describes.pendingRing found) rfl
    refine .of_ok ran ?_
    refine describes.replace_one (.pending slot.queue) ?_ ?_ ?_ ?_
    · intro other different id member
      rw [sameUpdates]
    · intro other different
      refine ⟨(tail_of_onlyQueue only different).trans ?_,
        members_take_other different, contents_take_other different⟩
      by_cases sameSlot : other = .base index
      · have inRange : index < slots.length :=
          (List.getElem?_eq_some_iff.mp slotFound).1
        rw [sameSlot, tail, tail, List.getElem?_set_self inRange, slotFound]
        rfl
      · exact tail_of_set _ sameSlot
    · rw [members_take_pending, contents_take_pending, tail, queueAfter]
      exact ⟨rfl, rfl⟩
    · rw [members_take_pending]
      simp

section

variable (describes : ledger.Describes ⟨store, slots⟩ baseIds)
include describes

theorem Describes.insertUpdate (update : HookUpdate Action State) :
    AllOrNothing (fun after => ledger.Describes ⟨after, slots⟩ baseIds)
      (FastReact.insertUpdate update) store := by
  obtain ⟨id, after, ran, -, -, sameQueues, extension⟩ := run_insertUpdate store update
  refine .of_ok ran (describes.congr ?_ ?_)
  · intro owner id member
    exact describes.get?_of_extends extension member (by simp)
  · intro owner
    cases owner with
    | pending queue => simp only [tail, sameQueues]
    | base index => rfl

theorem Describes.createQueue (initialState : State) :
    AllOrNothing (fun after => ledger.Describes ⟨after, slots⟩ baseIds)
      (FastReact.createQueue initialState) store := by
  refine describes.congr (fun _ _ _ => rfl) ?_
  intro owner
  cases owner with
  | pending queue =>
    change ((store.queues.insert (HookQueue.new initialState)).2.get? queue).bind _ =
      (store.queues.get? queue).bind _
    rw [get?_insert]
    split
    · rename_i same
      rw [same, get?_insert_fresh]
      rfl
    · rfl
  | base index => rfl

theorem Describes.keepSlot (initialState : State) (queue : HookQueueId) :
    ledger.Describes ⟨store, slots ++ [new initialState queue]⟩ baseIds := by
  refine describes.congr (fun _ _ _ => rfl) ?_
  intro owner
  cases owner with
  | pending queue => rfl
  | base index =>
    rcases Nat.lt_trichotomy index slots.length with inside | rfl | outside
    · simp only [tail, List.getElem?_append_left inside]
    · simp [tail, HookStateSlot.new]
    · have beyond : slots[index]? = none :=
        List.getElem?_eq_none_iff.mpr (Nat.le_of_lt outside)
      have grownBeyond :
          (slots ++ [new initialState queue])[index]? = none :=
        List.getElem?_eq_none_iff.mpr (by simp; omega)
      simp only [tail, beyond, grownBeyond]

theorem Describes.reclaimUpdate (id : HookUpdateId) :
    AllOrNothing (fun after => ledger.Describes ⟨after, slots⟩ baseIds)
      (FastReact.reclaimUpdate id) store := by
  cases found : store.updates.get? id with
  | none =>
    obtain ⟨error, refused⟩ := exists_update_error found
    refine .of_error error ?_
    simp only [FastReact.reclaimUpdate, run_bind, run_query, refused]
  | some node =>
    by_cases linked : node.next.isSome = true
    · refine .of_error (.linkedUpdateCannotBeReclaimed id) ?_
      simp only [FastReact.reclaimUpdate, run_bind, run_query, update_eq_ok found, linked, if_true]
      rfl
    by_cases exhausted : hookGenerationBound ≤ id.generation + 1
    · refine .of_error .generationOverflow ?_
      simp only [FastReact.reclaimUpdate, run_bind, run_query,
        update_eq_ok found, linked, exhausted, if_true]
      rfl
    have notLinked : store.updates.next? id = none := by simpa [next?, found] using linked
    refine .of_ok (?_ : _ = ok () { store with updates := store.updates.remove id }) ?_
    · simp only [FastReact.reclaimUpdate, run_bind, run_query,
        update_eq_ok found, linked, exhausted, if_false]
      rfl
    · refine describes.congr ?_ fun owner => by cases owner <;> rfl
      intro owner other member
      rw [get?_remove, if_neg]
      rintro rfl
      exact (describes.rings owner).not_mem_of_unlinked notLinked member

theorem Describes.reclaimQueue (queue : HookQueueId) :
    AllOrNothing (fun after => ledger.Describes ⟨after, slots⟩ baseIds)
      (FastReact.reclaimQueue queue) store := by
  cases found : store.queues.get? queue with
  | none =>
    obtain ⟨error, refused⟩ := exists_queue_error found
    refine .of_error error ?_
    simp only [FastReact.reclaimQueue, run_bind, run_query, refused]
  | some entry =>
    by_cases linked : entry.pending.isSome = true
    · refine .of_error (.linkedQueueCannotBeReclaimed queue) ?_
      simp only [FastReact.reclaimQueue, run_bind, run_query, queue_eq_ok found, linked, if_true]
      rfl
    by_cases exhausted : hookGenerationBound ≤ queue.generation + 1
    · refine .of_error .generationOverflow ?_
      simp only [FastReact.reclaimQueue, run_bind, run_query,
        queue_eq_ok found, linked, exhausted, if_true]
      rfl
    refine .of_ok (?_ : _ = ok () { store with queues := store.queues.remove queue }) ?_
    · simp only [FastReact.reclaimQueue, run_bind, run_query,
        queue_eq_ok found, linked, exhausted, if_false]
      rfl
    · refine describes.congr (fun _ _ _ => rfl) ?_
      intro owner
      cases owner with
      | pending other =>
        simp only [tail, get?_remove]
        split
        · rename_i same
          have noPending : entry.pending = none := by simpa using linked
          rw [same, found, Option.bind_some, noPending]
          rfl
        · rfl
      | base index => rfl

end

end Calls

variable {world : HookQueueWorld State Action ReducerId DispatchId}
  {acceptedWorld : HookQueueWorld State Action ReducerId DispatchId → Prop}
  {ledger : HookRingLedger State Action} {baseIds : Nat → List HookUpdateId}

theorem allOrNothing_callWith {Held α : Type} {held : Held}
    {body : EStateM HookQueueError (HookQueueStore State Action ReducerId DispatchId × Held) α}
    {accepted : HookQueueStore State Action ReducerId DispatchId × Held → Prop}
    (inner : AllOrNothing accepted body (world.store, held))
    (lifts : ∀ after, accepted after → acceptedWorld ⟨after.1, world.slots⟩) :
    AllOrNothing acceptedWorld (callWith held body) world := by
  refine .focus ?_ rfl lifts
  exact inner

theorem allOrNothing_callSlot {α : Type} {index : Nat} {slot : HookStateSlot State}
    {body : HookSlotM State Action ReducerId DispatchId α}
    {accepted : HookQueueStore State Action ReducerId DispatchId × HookStateSlot State → Prop}
    (slotFound : world.slots[index]? = some slot)
    (inner : AllOrNothing accepted body (world.store, slot))
    (lifts : ∀ after, accepted after → acceptedWorld ⟨after.1, world.slots.set index after.2⟩) :
    AllOrNothing acceptedWorld (callSlot index body) world := by
  have called : (callSlot index body).run world =
      (do let _ ← focus
            (fun world : HookQueueWorld State Action ReducerId DispatchId => (world.store, slot))
            (fun after world => { store := after.1, slots := world.slots.set index after.2 }) body :
        HookQueueWorld.CallM State Action ReducerId DispatchId Unit).run world := by
    simp only [callSlot, run_bind, run_get, slotFound]
  have unchanged : world.slots.set index slot = world.slots := by
    obtain ⟨inRange, rfl⟩ := List.getElem?_eq_some_iff.mp slotFound
    exact List.set_getElem_self inRange
  unfold AllOrNothing
  rw [called]
  refine AllOrNothing.focus inner ?_ lifts
  rw [unchanged]

theorem allOrNothing_callSlot_missing {α : Type} {index : Nat}
    {body : HookSlotM State Action ReducerId DispatchId α} (missing : world.slots[index]? = none)
    (isAccepted : acceptedWorld world) :
    AllOrNothing acceptedWorld (callSlot index body) world := by
  refine .of_ok (?_ : _ = ok () world) isAccepted
  simp only [callSlot, run_bind, run_get, missing, run_pure]

theorem Describes.enqueueRenderPhaseUpdate
    {store : HookQueueStore State Action ReducerId DispatchId} {slots : List (HookStateSlot State)}
    (describes : ledger.Describes ⟨store, slots⟩ baseIds) (queue : HookQueueId) (id : HookUpdateId)
    (recorded : RenderPhaseHookUpdates) :
    AllOrNothing
      (fun after => (ledger.appendFrom ⟨store, slots⟩ queue id).Describes ⟨after.1, slots⟩ baseIds)
      (FastReact.enqueueRenderPhaseUpdate queue id) (store, recorded) := by
  have appended := describes.appendPendingUpdate queue id
  unfold AllOrNothing at appended ⊢
  rw [FastReact.enqueueRenderPhaseUpdate, run_bind, whileHolding, run_focus]
  cases ran : (FastReact.appendPendingUpdate queue id).run store with
  | ok value after =>
    rw [ran] at appended
    exact appended
  | error error after =>
    rw [ran] at appended
    exact congrArg (·, recorded) appended

/-- A call that does not clear recorded queues changes nothing or does what the ledger
says. -/
theorem Describes.call (describes : ledger.Describes world baseIds)
    (call : HookQueueCall State Action OwnerId)
    (keeps : ∀ recorded, call ≠ .clearRenderPhaseUpdates recorded) :
    AllOrNothing
      (fun after => ∃ baseIds, (ledger.afterOk world call).Describes after baseIds)
      (HookQueueWorld.call call) world := by
  obtain ⟨store, slots⟩ := world
  cases call with
  | createQueue initialState =>
    exact (describes.createQueue initialState).focus rfl fun after described => ⟨baseIds, described⟩
  | createStateSlot initialState =>
    have created := describes.createQueue initialState
    exact ⟨baseIds, Describes.keepSlot created initialState _⟩
  | newStateSlot initialState queue => exact ⟨baseIds, describes.keepSlot initialState queue⟩
  | createUpdate lane action =>
    exact (describes.insertUpdate _).focus rfl fun after described => ⟨baseIds, described⟩
  | createUpdateFromDispatchMetadata metadata =>
    exact (describes.insertUpdate _).focus rfl fun after described => ⟨baseIds, described⟩
  | appendPendingUpdate queue update =>
    exact (describes.appendPendingUpdate queue update).focus rfl fun after described =>
      ⟨baseIds, described⟩
  | enqueueRenderPhaseUpdate queue update recorded =>
    exact allOrNothing_callWith
      (describes.enqueueRenderPhaseUpdate queue update recorded)
      fun after described => ⟨baseIds, described⟩
  | finishQueueing staging =>
    exact allOrNothing_callWith (describes.finishQueueing staging)
      fun after described => ⟨baseIds, described⟩
  | processUpdateQueue index renderLanes rootRenderLanes reducer =>
    cases slotFound : slots[index]? with
    | none =>
      refine allOrNothing_callSlot_missing slotFound ⟨baseIds, ?_⟩
      simpa only [afterOk, slotFound] using describes
    | some slot =>
      refine allOrNothing_callSlot slotFound
        (describes.processUpdateQueue renderLanes rootRenderLanes reducer slotFound) ?_
      rintro after ⟨ids, described⟩
      refine ⟨Function.update baseIds index ids, ?_⟩
      simpa only [afterOk, slotFound] using described
  | processRenderPhaseUpdates index reducer =>
    cases slotFound : slots[index]? with
    | none =>
      refine allOrNothing_callSlot_missing slotFound ⟨baseIds, ?_⟩
      simpa only [afterOk, slotFound] using describes
    | some slot =>
      refine allOrNothing_callSlot slotFound
        (describes.processRenderPhaseUpdates reducer slotFound) ?_
      intro after described
      refine ⟨baseIds, ?_⟩
      simpa only [afterOk, slotFound] using described
  | clearRenderPhaseUpdates recorded => exact absurd rfl (keeps recorded)
  | reclaimUpdate id =>
    exact (describes.reclaimUpdate id).focus rfl fun after described => ⟨baseIds, described⟩
  | reclaimQueue id =>
    exact (describes.reclaimQueue id).focus rfl fun after described => ⟨baseIds, described⟩

theorem Describes.clearRenderPhaseUpdates (describes : ledger.Describes world baseIds)
    (recorded : RenderPhaseHookUpdates) :
    match (callWith recorded FastReact.clearRenderPhaseUpdates).run world with
    | .ok _ after => (recorded.queues.foldl take ledger).Describes after baseIds
    | .error _ after =>
      ((recorded.queues.takeWhile fun queue =>
        (world.store.queues.get? queue).isSome).foldl take ledger).Describes
        after baseIds := by
  obtain ⟨store, slots⟩ := world
  have cleared := describes.run_clearQueues recorded.queues
  simp only [callWith, run_bind, run_focus,
    FastReact.clearRenderPhaseUpdates, run_get, whileHolding]
  cases ran : (recorded.queues.forM fun queue => setPending queue none).run store with
  | ok value after =>
    rw [ran] at cleared
    exact cleared
  | error error after =>
    rw [ran] at cleared
    exact cleared

end HookRingLedger

namespace HookQueueWorld

/-- Make a call and write its outcome into the ledger. -/
def step (state : HookQueueWorld State Action ReducerId DispatchId × HookRingLedger State Action)
    (call : HookQueueCall State Action OwnerId) :
    HookQueueWorld State Action ReducerId DispatchId × HookRingLedger State Action :=
  match (HookQueueWorld.call call).run state.1 with
  | .ok _ after => (after, state.2.afterOk state.1 call)
  | .error _ after => (after, state.2.afterError state.1 call)

theorem describes_step
    {state : HookQueueWorld State Action ReducerId DispatchId × HookRingLedger State Action}
    {baseIds : Nat → List HookUpdateId} (describes : state.2.Describes state.1 baseIds)
    (call : HookQueueCall State Action OwnerId) :
    ∃ baseIds, (step state call).2.Describes (step state call).1 baseIds := by
  obtain ⟨world, ledger⟩ := state
  unfold step
  by_cases clears : ∃ recorded, call = .clearRenderPhaseUpdates recorded
  · obtain ⟨recorded, rfl⟩ := clears
    have cleared := describes.clearRenderPhaseUpdates recorded
    change match (HookQueueWorld.call (.clearRenderPhaseUpdates recorded :
      HookQueueCall State Action OwnerId)).run world with
      | .ok _ after => _
      | .error _ after => _ at cleared
    split at cleared <;> rename_i ran <;> rw [ran] <;> exact ⟨baseIds, cleared⟩
  · have kept := describes.call call fun recorded same => clears ⟨recorded, same⟩
    unfold AllOrNothing at kept
    split at kept
    · rename_i ran
      rw [ran]
      exact kept
    · rename_i ran
      rw [ran]
      refine ⟨baseIds, ?_⟩
      subst kept
      cases call with
      | clearRenderPhaseUpdates recorded => exact absurd ⟨recorded, rfl⟩ clears
      | _ => exact describes

structure RingsHold (world : HookQueueWorld State Action ReducerId DispatchId)
    (ledger : HookRingLedger State Action)
    (baseIds : Nat → List HookUpdateId) : Prop where
  rings :
    RingFamily world.store.updates world.tail (ledger.members baseIds) ledger.contents
  pendingUpdates : ∀ queue entry,
    world.store.queues.get? queue = some entry →
    world.store.pendingUpdates queue = .ok ((ledger.pending queue).map Prod.fst)
  baseUpdates : ∀ index slot,
    world.slots[index]? = some slot →
    world.store.updateRing slot.baseQueue = .ok (baseIds index)

theorem ringsHold_of_describes {world : HookQueueWorld State Action ReducerId DispatchId}
    {ledger : HookRingLedger State Action} {baseIds : Nat → List HookUpdateId}
    (describes : ledger.Describes world baseIds) : RingsHold world ledger baseIds where
  rings := describes
  pendingUpdates := by
    intro queue entry found
    have collected := updateRing_eq_ok (describes.pendingRing found)
    rw [HookQueueStore.pendingUpdates, queue_eq_ok found]
    exact collected
  baseUpdates := fun index slot found => updateRing_eq_ok (describes.baseRing found)

def run (ReducerId DispatchId : Type) (calls : List (HookQueueCall State Action OwnerId)) :
    HookQueueWorld State Action ReducerId DispatchId × HookRingLedger State Action :=
  calls.foldl step (new, .empty)

theorem describes_of_calls (ReducerId DispatchId : Type)
    (calls : List (HookQueueCall State Action OwnerId)) :
    ∃ baseIds,
      (run ReducerId DispatchId calls).2.Describes (run ReducerId DispatchId calls).1 baseIds := by
  induction calls using List.reverseRecOn with
  | nil =>
    have noTail : ∀ owner,
        (new : HookQueueWorld State Action ReducerId DispatchId).tail owner = none := by
      intro owner
      cases owner <;> simp [tail, new, HookQueueStore.new]
    refine ⟨fun _ => [], ?_, ?_⟩
    · intro owner
      change HoldsRing _ ((new : HookQueueWorld State Action ReducerId DispatchId).tail owner) _ _
      rw [noTail]
      cases owner <;> exact ⟨rfl, rfl⟩
    · intro owner other _
      cases owner <;> exact List.disjoint_nil_left _
  | append_singleton earlier call ih =>
    obtain ⟨baseIds, describes⟩ := ih
    rw [run, List.foldl_append]
    exact describes_step describes call

/-- After every list of calls, failed ones included, every ring holds what it should. -/
theorem ringsHold_of_calls
    (ReducerId DispatchId : Type)
    (calls : List (HookQueueCall State Action OwnerId)) :
    ∃ baseIds,
      RingsHold (run ReducerId DispatchId calls).1 (run ReducerId DispatchId calls).2
        baseIds := by
  obtain ⟨baseIds, describes⟩ := describes_of_calls ReducerId DispatchId calls
  exact ⟨baseIds, ringsHold_of_describes describes⟩

end HookQueueWorld

end FastReact
