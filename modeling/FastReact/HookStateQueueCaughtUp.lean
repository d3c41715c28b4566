import FastReact.HookStateQueueRendered

namespace FastReact

open ErrorState HookQueueStore HookQueueWorld HookRingLedger LinkedArena List SlotArena

/-!
# Passes that catch up

A pass notes the lanes it leaves.  Over a run without revert lanes the base ring of a slot
holds updates of the lanes noted by the slot's last pass, and none of them is hidden, so a
pass that renders those lanes and the lanes of what is pending leaves nothing.
-/

variable {State Action ReducerId DispatchId OwnerId : Type}

namespace HookQueueStore

/-- No update has a revert lane. -/
def Unreverted (store : HookQueueStore State Action ReducerId DispatchId) : Prop :=
  ∀ id update, store.updates.data? id = some update → update.revertLane.isEmpty = true

/-- No update gets a revert lane. -/
def KeepsUnreverted (before after : HookQueueStore State Action ReducerId DispatchId) : Prop :=
  before.Unreverted → after.Unreverted

instance :
    IsPreorder (HookQueueStore State Action ReducerId DispatchId) KeepsUnreverted where
  refl _ := id
  trans _ _ _ earlier later := later ∘ earlier

theorem KeepsUnreverted.of_data {before after : HookQueueStore State Action ReducerId DispatchId}
    (same : ∀ id update, after.updates.data? id = some update →
      before.updates.data? id = some update) : KeepsUnreverted before after :=
  fun noRevert id update found => noRevert id update (same id update found)

theorem keepsUnreverted_setNext (id : HookUpdateId) (next : Option HookUpdateId) :
    Within KeepsUnreverted
      (setNext id next : HookQueueM State Action ReducerId DispatchId Unit) := by
  refine .bind (.query _) fun _ => .modify fun store => ?_
  refine KeepsUnreverted.of_data fun other update found => ?_
  exact (data?_withNext store.updates id next other).symm.trans found

theorem keepsUnreverted_setPending (queue : HookQueueId) (pending : Option HookUpdateId) :
    Within KeepsUnreverted
      (setPending queue pending : HookQueueM State Action ReducerId DispatchId Unit) :=
  .bind (.query _) fun _ => .modify fun _ noRevert => noRevert

theorem keepsUnreverted_createQueue (initialState : State) :
    Within KeepsUnreverted
      (createQueue initialState : HookQueueM State Action ReducerId DispatchId HookQueueId) :=
  .modifyGet fun _ noRevert => noRevert

theorem keepsUnreverted_insertUpdate {update : HookUpdate Action State}
    (noRevert : update.data.revertLane.isEmpty = true) :
    Within KeepsUnreverted
      (insertUpdate update : HookQueueM State Action ReducerId DispatchId HookUpdateId) := by
  refine .modifyGet fun store unreverted id data found => ?_
  change (get? _ id).map _ = some data at found
  rw [get?_insert] at found
  split at found
  · cases found
    exact noRevert
  · exact unreverted id data found

theorem keepsUnreverted_reclaimUpdate (id : HookUpdateId) :
    Within KeepsUnreverted
      (reclaimUpdate id : HookQueueM State Action ReducerId DispatchId Unit) := by
  refine .bind (.query _) fun _ => .guard fun _ => .guard fun _ =>
    .modify fun store => KeepsUnreverted.of_data fun other update found => ?_
  change (get? _ other).map _ = some update at found
  rw [get?_remove] at found
  split at found
  · cases found
  · exact found

theorem keepsUnreverted_reclaimQueue (id : HookQueueId) :
    Within KeepsUnreverted (reclaimQueue id : HookQueueM State Action ReducerId DispatchId Unit) :=
  .bind (.query _) fun _ => .guard fun _ => .guard fun _ => .modify fun _ noRevert => noRevert

end HookQueueStore

theorem PassOver.keepsUnreverted {store after : HookQueueStore State Action ReducerId DispatchId}
    {slot slotAfter : HookStateSlot State} {renderLanes rootRenderLanes : Lanes}
    {result : ProcessHookQueueResult State}
    {updates : List (HookUpdateDispatchMetadata Action State)} {retainedIds : List HookUpdateId}
    (pass : PassOver store after slot slotAfter renderLanes rootRenderLanes result updates
      retainedIds) : KeepsUnreverted store after := by
  intro unreverted id update found
  rcases pass.grows id update found with ⟨earlier, foundEarlier⟩ | isNew
  · cases (pass.kept id earlier foundEarlier).symm.trans found
    exact unreverted id _ foundEarlier
  · obtain ⟨copy, isRetained, isCopy⟩ := pass.ring.holds.live isNew
    cases isCopy.symm.trans found
    obtain ⟨original, isOriginal, isRetained⟩ := exists_of_mem_retainedUpdates isRetained
    obtain ⟨originalId, -, isLive⟩ := pass.waiting original isOriginal
    exact revertLane_of_retain? isRetained (unreverted originalId original isLive)

/-- Whether a call makes no update with a revert lane. -/
def HookQueueCall.WithoutRevertLane (call : HookQueueCall State Action OwnerId) : Prop :=
  ∀ metadata, call = .createUpdateFromDispatchMetadata metadata →
    metadata.revertLane.isEmpty = true

namespace HookQueueWorld

/-- No call gives an update a revert lane, unless it makes one with a revert lane. -/
theorem unreverted_stepCall {world : HookQueueWorld State Action ReducerId DispatchId}
    {ledger : HookRingLedger State Action} {baseIds : Nat → List HookUpdateId}
    (unreverted : world.store.Unreverted) (describes : ledger.Describes world baseIds)
    (call : HookQueueCall State Action OwnerId) (noRevert : call.WithoutRevertLane) :
    (world.stepCall call).store.Unreverted := by
  obtain ⟨store, slots⟩ := world
  have slotPass : ∀ {α : Type} (index : Nat) (body : HookSlotM State Action ReducerId DispatchId α),
      (∀ slot, slots[index]? = some slot →
        AllOrNothing (fun after => KeepsUnreverted store after.1) body (store, slot)) →
      (stateAfter ((callSlot index body).run ⟨store, slots⟩)).store.Unreverted := by
    intro α index body keeps
    cases slotFound : slots[index]? with
    | none =>
      rw [run_callSlot_missing body slotFound]
      exact unreverted
    | some slot =>
      rw [stateAfter_callSlot slotFound]
      rcases (keeps slot slotFound).stateAfter_cases with unchanged | kept
      · rw [unchanged]
        exact unreverted
      · exact kept unreverted
  cases isPass : call.isPass with
  | false =>
    exact related_stepCall keepsUnreverted_setPending keepsUnreverted_createQueue
      keepsUnreverted_reclaimUpdate keepsUnreverted_reclaimQueue
      (fun _ _ => keepsUnreverted_insertUpdate rfl) ⟨store, slots⟩ call
      (fun queue update _ => within_appendUnchecked (fun _ _ => keepsUnreverted_setNext _ _)
        keepsUnreverted_setPending queue update)
      (fun metadata isCall => keepsUnreverted_insertUpdate (noRevert metadata isCall)) isPass
      unreverted
  | true =>
    cases call with
    | processUpdateQueue index renderLanes rootRenderLanes reducer =>
      refine slotPass index _ fun slot slotFound => ?_
      have ended := describes.processUpdateQueue renderLanes rootRenderLanes reducer slotFound
      refine ended.of_eq_ok fun result after ran => ?_
      obtain ⟨updates, retainedIds, pass⟩ := run_processUpdateQueue_eq_ok ran
      exact pass.keepsUnreverted
    | processRenderPhaseUpdates index reducer =>
      refine slotPass index _ fun slot slotFound => ?_
      have ended := describes.processRenderPhaseUpdates reducer slotFound
      refine ended.of_eq_ok fun result after ran => ?_
      cases found : store.queues.get? slot.queue with
      | none =>
        obtain ⟨error, failed⟩ := run_processRenderPhaseUpdates_of_absent reducer found
        cases failed.symm.trans ran
      | some entry =>
        obtain ⟨other, succeeded, sameUpdates, -⟩ :=
          run_processRenderPhaseUpdates reducer found (describes.pendingRing found) rfl
        cases succeeded.symm.trans ran
        refine KeepsUnreverted.of_data fun id update found => ?_
        exact sameUpdates ▸ found
    | _ => cases isPass

/-- The lanes that the last pass over each slot leaves, after one more call. -/
def noteRemaining (world : HookQueueWorld State Action ReducerId DispatchId) (noted : Nat → Lanes) :
    HookQueueCall State Action OwnerId → Nat → Lanes
  | .processUpdateQueue index renderLanes rootRenderLanes reducer =>
      match world.slots[index]? with
      | none => noted
      | some slot =>
          match (FastReact.processUpdateQueue renderLanes rootRenderLanes reducer).run
              (world.store, slot) with
          | .ok result _ => Function.update noted index result.remainingLanes
          | .error _ _ => noted
  | _ => noted

/-- Make a call and note the lanes it leaves. -/
def stepNoting
    (state : (HookQueueWorld State Action ReducerId DispatchId × HookRingLedger State Action) ×
      (Nat → Lanes))
    (call : HookQueueCall State Action OwnerId) :
    (HookQueueWorld State Action ReducerId DispatchId × HookRingLedger State Action) ×
      (Nat → Lanes) :=
  (step state.1 call, noteRemaining state.1.1 state.2 call)

/-- The lanes that the last pass over each slot has left; no lanes without a pass. -/
def lastRemainingLanes (ReducerId DispatchId : Type)
    (calls : List (HookQueueCall State Action OwnerId)) : Nat → Lanes :=
  (calls.foldl stepNoting
    (run ReducerId DispatchId ([] : List (HookQueueCall State Action OwnerId)),
      fun _ => Lanes.no)).2

section

variable (calls : List (HookQueueCall State Action OwnerId))

theorem foldl_stepNoting_fst :
    (calls.foldl stepNoting
      (run ReducerId DispatchId ([] : List (HookQueueCall State Action OwnerId)),
        fun _ => Lanes.no)).1 = run ReducerId DispatchId calls := by
  induction calls using List.reverseRecOn with
  | nil => rfl
  | append_singleton earlier call ih =>
    rw [foldl_append, foldl_cons, foldl_nil, stepNoting, ih, run_append]

theorem lastRemainingLanes_append (call : HookQueueCall State Action OwnerId) :
    lastRemainingLanes ReducerId DispatchId (calls ++ [call]) =
      noteRemaining (run ReducerId DispatchId calls).1
        (lastRemainingLanes ReducerId DispatchId calls) call := by
  rw [← foldl_stepNoting_fst, lastRemainingLanes, foldl_append, foldl_cons, foldl_nil]
  rfl

end

end HookQueueWorld

namespace HookRingLedger

variable {ledger : HookRingLedger State Action}

/-- Base updates are not hidden and have lanes that were noted for their slot. -/
def BaseWithin (ledger : HookRingLedger State Action) (noted : Nat → Lanes) : Prop :=
  ∀ index, ∀ update ∈ ledger.base index,
    update.lane.isHidden = false ∧
      update.lane.priorityLanes.isSubsetOf (noted index) = true

variable (world : HookQueueWorld State Action ReducerId DispatchId)

theorem base_appendFrom
    (ledger : HookRingLedger State Action) (queue : HookQueueId) (id : HookUpdateId) :
    (ledger.appendFrom world queue id).base = ledger.base := by
  unfold appendFrom
  split <;> rfl

theorem base_foldl_take (queues : List HookQueueId) :
    (queues.foldl take ledger).base = ledger.base := by
  induction queues generalizing ledger with
  | nil => rfl
  | cons queue rest ih =>
    rw [foldl_cons, ih]
    rfl

theorem base_foldl_appendFrom (entries : List (StagedHookUpdate OwnerId)) :
    (entries.foldl (fun ledger entry => ledger.appendFrom world entry.queue entry.update)
      ledger).base = ledger.base := by
  induction entries generalizing ledger with
  | nil => rfl
  | cons entry rest ih => rw [foldl_cons, ih, base_appendFrom]

variable {state : HookQueueWorld State Action ReducerId DispatchId × HookRingLedger State Action}
  {baseIds : Nat → List HookUpdateId}

theorem base_step (call : HookQueueCall State Action OwnerId)
    (noPass : ∀ index renderLanes rootRenderLanes reducer,
      call ≠ .processUpdateQueue index renderLanes rootRenderLanes reducer) :
    (step state call).2.base = state.2.base := by
  rw [step]
  cases (HookQueueWorld.call call).run state.1 with
  | error error after =>
    cases call with
    | clearRenderPhaseUpdates recorded => exact base_foldl_take _
    | _ => rfl
  | ok value after =>
    cases call with
    | appendPendingUpdate queue update => exact base_appendFrom _ _ _ _
    | enqueueRenderPhaseUpdate queue update recorded => exact base_appendFrom _ _ _ _
    | finishQueueing staging => exact base_foldl_appendFrom _ _
    | processUpdateQueue index renderLanes rootRenderLanes reducer =>
      exact absurd rfl (noPass index renderLanes rootRenderLanes reducer)
    | processRenderPhaseUpdates index reducer =>
      simp only [afterOk]
      split <;> rfl
    | clearRenderPhaseUpdates recorded => exact base_foldl_take _
    | _ => rfl

/-- A pass that fails or has no slot notes nothing and leaves the rings; another one retains
updates and notes the lanes they leave. -/
theorem step_processUpdateQueue {store : HookQueueStore State Action ReducerId DispatchId}
    {slots : List (HookStateSlot State)} (describes : ledger.Describes ⟨store, slots⟩ baseIds)
    (noted : Nat → Lanes) (index : Nat) (renderLanes rootRenderLanes : Lanes)
    (reducer : State → Action → State) {call : HookQueueCall State Action OwnerId}
    (isPass : call = .processUpdateQueue index renderLanes rootRenderLanes reducer) :
    ((step (⟨store, slots⟩, ledger) call).2 = ledger ∧
        noteRemaining ⟨store, slots⟩ noted call = noted) ∨
      ∃ queue updates,
        (step (⟨store, slots⟩, ledger) call).2 =
          (ledger.rebase index (retainedUpdates renderLanes rootRenderLanes updates)).take queue ∧
        noteRemaining ⟨store, slots⟩ noted call =
          Function.update noted index (leftoverLanes renderLanes rootRenderLanes updates) := by
  have isCall : (HookQueueWorld.call call :
      HookQueueWorld.CallM State Action ReducerId DispatchId Unit) =
      callSlot index (FastReact.processUpdateQueue renderLanes rootRenderLanes reducer) := by
    rw [isPass]
    rfl
  cases slotFound : slots[index]? with
  | none =>
    left
    have ran : (HookQueueWorld.call call).run ⟨store, slots⟩ = .ok () ⟨store, slots⟩ := by
      rw [isCall]
      exact run_callSlot_missing _ slotFound
    rw [step_of_ok ran, isPass]
    simp only [afterOk, noteRemaining, slotFound, and_self]
  | some slot =>
    cases found : store.queues.get? slot.queue with
    | none =>
      left
      obtain ⟨error, failed⟩ :=
        run_processUpdateQueue_of_absent renderLanes rootRenderLanes reducer found
      have ran : ∃ world,
          (HookQueueWorld.call call).run ⟨store, slots⟩ = .error error world := by
        rw [isCall]
        exact ⟨_, run_callSlot_error slotFound failed⟩
      obtain ⟨world, ran⟩ := ran
      rw [step_of_error ran, isPass]
      simp only [afterError, noteRemaining, slotFound, failed, and_self]
    | some entry =>
      right
      have disjoint : (baseIds index).Disjoint ((ledger.pending slot.queue).map Prod.fst) :=
        describes.disjoint (.base index) (.pending slot.queue) (by simp)
      obtain ⟨after, tail, ids, passed, -⟩ :=
        processUpdateQueue_refines_list renderLanes rootRenderLanes reducer store slot entry
          _ _ _ _ found (describes.baseRing slotFound) (describes.pendingRing found) disjoint
      have ran : ∃ world, (HookQueueWorld.call call).run ⟨store, slots⟩ = .ok () world := by
        rw [isCall]
        exact ⟨_, run_callSlot_ok slotFound passed⟩
      obtain ⟨world, ran⟩ := ran
      refine ⟨slot.queue, ledger.base index ++ (ledger.pending slot.queue).map Prod.snd, ?_, ?_⟩
      · rw [step_of_ok ran, isPass]
        simp only [afterOk, slotFound]
      · simp only [isPass, noteRemaining, slotFound, passed]
        rfl

theorem baseWithin_step {noted : Nat → Lanes} (within : state.2.BaseWithin noted)
    (describes : state.2.Describes state.1 baseIds) (call : HookQueueCall State Action OwnerId) :
    (step state call).2.BaseWithin (noteRemaining state.1 noted call) := by
  by_cases isPass : ∃ index renderLanes rootRenderLanes reducer,
      call = .processUpdateQueue index renderLanes rootRenderLanes reducer
  · obtain ⟨index, renderLanes, rootRenderLanes, reducer, isCall⟩ := isPass
    rcases step_processUpdateQueue describes noted index renderLanes rootRenderLanes reducer
      isCall with ⟨sameLedger, sameNoted⟩ | ⟨queue, updates, ledgerAfter, notedAfter⟩
    · rw [sameLedger, sameNoted]
      exact within
    · rw [ledgerAfter, notedAfter]
      intro other update member
      by_cases isIndex : other = index
      · subst isIndex
        have isRetained : update ∈ retainedUpdates renderLanes rootRenderLanes updates := by
          simpa [take, rebase] using member
        obtain ⟨notHidden, hasLanes, -⟩ := retained_accounted isRetained
        rw [Function.update_self]
        exact ⟨notHidden, hasLanes⟩
      · have isOld : update ∈ state.2.base other := by simpa [take, rebase, isIndex] using member
        rw [Function.update_of_ne isIndex]
        exact within other update isOld
  · have sameBase : (step state call).2.base = state.2.base :=
      base_step call fun index renderLanes rootRenderLanes reducer isCall =>
        isPass ⟨index, renderLanes, rootRenderLanes, reducer, isCall⟩
    have sameNoted : noteRemaining state.1 noted call = noted := by
      cases call with
      | processUpdateQueue index renderLanes rootRenderLanes reducer =>
        exact absurd ⟨index, renderLanes, rootRenderLanes, reducer, rfl⟩ isPass
      | _ => rfl
    rw [BaseWithin, sameBase, sameNoted]
    exact within

end HookRingLedger

namespace HookQueueWorld

section

variable (ReducerId DispatchId : Type) (calls : List (HookQueueCall State Action OwnerId))

/-- In every run the base updates of a slot have the lanes that its last pass left, and
without revert lanes among the calls no update has one. -/
theorem baseWithin_of_calls :
    (run ReducerId DispatchId calls).2.BaseWithin
      (lastRemainingLanes ReducerId DispatchId calls) := by
  induction calls using List.reverseRecOn with
  | nil =>
    intro index update member
    cases member
  | append_singleton earlier call ih =>
    obtain ⟨baseIds, describes⟩ := describes_of_calls ReducerId DispatchId earlier
    rw [run_append, lastRemainingLanes_append]
    exact baseWithin_step ih describes call

theorem unreverted_of_calls (noRevert : ∀ call ∈ calls, call.WithoutRevertLane) :
    (run ReducerId DispatchId calls).1.store.Unreverted := by
  induction calls using List.reverseRecOn with
  | nil =>
    intro id update found
    simp [run, new, HookQueueStore.new, data?] at found
  | append_singleton earlier call ih =>
    obtain ⟨baseIds, describes⟩ := describes_of_calls ReducerId DispatchId earlier
    have unreverted := ih fun other member =>
      noRevert other (mem_append_left _ member)
    rw [run_append, step_fst]
    exact unreverted_stepCall unreverted describes call (noRevert call (by simp))

end

end HookQueueWorld

namespace HookQueueWorld

variable {calls : List (HookQueueCall State Action OwnerId)} {index : Nat}
  {slot : HookStateSlot State} {entry : HookQueue State ReducerId DispatchId}

/-- After a run without revert lanes, a pass that renders the lanes left by the last pass
over the slot, and that has in scope what is pending, leaves nothing. -/
theorem baseQueue_eq_none_of_caughtUp (noRevert : ∀ call ∈ calls, call.WithoutRevertLane)
    (slotFound : (run ReducerId DispatchId calls).1.slots[index]? = some slot)
    (found : (run ReducerId DispatchId calls).1.store.queues.get? slot.queue = some entry)
    (renderLanes rootRenderLanes : Lanes) (reducer : State → Action → State)
    (rendersLeft : (lastRemainingLanes ReducerId DispatchId calls index).isSubsetOf renderLanes =
      true)
    (rendersPending : ∀ ids,
      (run ReducerId DispatchId calls).1.store.pendingUpdates slot.queue = .ok ids →
      ∀ id ∈ ids, ∀ update,
        (run ReducerId DispatchId calls).1.store.updates.data? id = some update →
        update.lane.priorityLanes.isSubsetOf
          (update.laneScope renderLanes rootRenderLanes) = true) :
    ∃ result after slotAfter,
      (FastReact.processUpdateQueue renderLanes rootRenderLanes reducer).run
          ((run ReducerId DispatchId calls).1.store, slot) = .ok result (after, slotAfter) ∧
        slotAfter.baseQueue = none := by
  obtain ⟨baseIds, describes⟩ := describes_of_calls ReducerId DispatchId calls
  have unreverted := unreverted_of_calls ReducerId DispatchId calls noRevert
  have within := baseWithin_of_calls ReducerId DispatchId calls
  have collected := (ringsHold_of_describes describes).pendingUpdates slot.queue entry found
  have base := describes.baseRing slotFound
  have pending := describes.pendingRing found
  have disjoint : (baseIds index).Disjoint
      (((run ReducerId DispatchId calls).2.pending slot.queue).map Prod.fst) :=
    describes.disjoint (.base index) (.pending slot.queue) (by simp)
  obtain ⟨after, tail, ids, ran, refines⟩ :=
    processUpdateQueue_refines_list renderLanes rootRenderLanes reducer _ slot entry
      _ _ _ _ found base pending disjoint
  refine ⟨_, after, _, ran, ?_⟩
  refine refines.ring.eq_none_iff.mpr ?_
  refine retainedUpdates_eq_nil_iff_leftoverLanes.mpr
    ((leftoverLanes_eq_no_iff _).mpr fun update member => ?_)
  rcases mem_append.mp member with inBase | inPending
  · obtain ⟨notHidden, hasLanes⟩ := within index update inBase
    obtain ⟨id, -, isLive⟩ := base.holds.exists_id inBase
    refine isDeferred_eq_false_of_inScope ?_ (unreverted id update isLive)
    rw [HookUpdateDispatchMetadata.laneScope, notHidden]
    exact Lanes.isSubsetOf_trans hasLanes rendersLeft
  · obtain ⟨id, isMember, isLive⟩ := pending.holds.exists_id inPending
    exact isDeferred_eq_false_of_inScope (rendersPending _ collected id isMember update isLive)
      (unreverted id update isLive)

end HookQueueWorld

/-- The remaining lanes account for what a pass retains: the base ring is there exactly if
lanes remain, and they have the lanes of every update in it, or its revert lane if it has
none.  Every queue without a second slot remembers the state of its slot, and a pass that
renders the remaining lanes of the last one and has in scope what is pending retains
nothing, if there are no revert lanes. -/
theorem remaining_lanes_account_for_retained
    (State Action ReducerId DispatchId OwnerId : Type) :
    (∀ (store after : HookQueueStore State Action ReducerId DispatchId)
        (slot slotAfter : HookStateSlot State) (renderLanes rootRenderLanes : Lanes)
        (reducer : State → Action → State) (result : ProcessHookQueueResult State),
      (processUpdateQueue renderLanes rootRenderLanes reducer).run (store, slot) =
        .ok result (after, slotAfter) →
      (slotAfter.baseQueue.isSome = true ↔ result.remainingLanes.isNonEmpty = true) ∧
        ∃ ids, after.updateRing slotAfter.baseQueue = .ok ids ∧
          ∀ id ∈ ids, ∀ update, after.updates.data? id = some update →
            update.lane.priorityLanes.isSubsetOf result.remainingLanes = true ∧
            (update.lane = HookUpdateLane.no →
              update.revertLane.lanes.isSubsetOf result.remainingLanes = true)) ∧
    (∀ (calls : List (HookQueueCall State Action OwnerId)) (index : Nat)
        (slot : HookStateSlot State) (entry : HookQueue State ReducerId DispatchId),
      (run ReducerId DispatchId calls).1.slots[index]? = some slot →
      (run ReducerId DispatchId calls).1.store.queues.get? slot.queue =
        some entry →
      (∀ initialState, .newStateSlot initialState slot.queue ∉ calls) →
      entry.lastRenderedState = slot.memoizedState) ∧
    ∀ (calls : List (HookQueueCall State Action OwnerId)) (index : Nat)
        (slot : HookStateSlot State) (entry : HookQueue State ReducerId DispatchId)
        (renderLanes rootRenderLanes : Lanes) (reducer : State → Action → State),
      (∀ call ∈ calls, call.WithoutRevertLane) →
      (run ReducerId DispatchId calls).1.slots[index]? = some slot →
      (run ReducerId DispatchId calls).1.store.queues.get? slot.queue =
        some entry →
      (lastRemainingLanes ReducerId DispatchId calls index).isSubsetOf
        renderLanes = true →
      (∀ ids, (run ReducerId DispatchId calls).1.store.pendingUpdates
          slot.queue = .ok ids →
        ∀ id ∈ ids, ∀ update,
          (run ReducerId DispatchId calls).1.store.updates.data? id =
            some update →
          update.lane.priorityLanes.isSubsetOf
            (update.laneScope renderLanes rootRenderLanes) = true) →
      ∃ result after slotAfter,
        (processUpdateQueue renderLanes rootRenderLanes reducer).run
            ((run ReducerId DispatchId calls).1.store, slot) =
          .ok result (after, slotAfter) ∧
        slotAfter.baseQueue = none := by
  refine ⟨?_, ?_, ?_⟩
  · intro store after slot slotAfter renderLanes rootRenderLanes reducer result ran
    obtain ⟨updates, retainedIds, pass⟩ := run_processUpdateQueue_eq_ok ran
    obtain ⟨exactly, ring, accounted⟩ := pass.accounted
    exact ⟨exactly, retainedIds, ring, accounted⟩
  · intro calls index slot entry slotFound found noOtherSlot
    have own := rendersOwn_of_calls ReducerId DispatchId calls noOtherSlot
    exact (own.rendered slot (mem_of_getElem? slotFound) rfl entry found).remembered
  · intro calls index slot entry renderLanes rootRenderLanes reducer noRevert slotFound found
    exact baseQueue_eq_none_of_caughtUp noRevert slotFound found renderLanes
      rootRenderLanes reducer

section Sample

/-- A hidden update of the default lane. -/
def sampleHiddenUpdate : HookUpdateDispatchMetadata Nat Nat where
  lane := ⟨Lane.default.toLanes.mergeLane Lane.offscreen, HookUpdateLane.accepts_hidden⟩
  revertLane := HookRevertLane.no
  action := 3
  eagerState := none

/-- A slot whose queue has a hidden pending update. -/
def sampleHiddenCalls : List (HookQueueCall Nat Nat Unit) :=
  [.createStateSlot 0, .createUpdateFromDispatchMetadata sampleHiddenUpdate,
    .appendPendingUpdate ⟨0, 0⟩ ⟨0, 0⟩]

def sampleHiddenSlot : HookStateSlot Nat := HookStateSlot.new 0 ⟨0, 0⟩

/-- The queue of the slot, with the update pending. -/
def sampleHiddenEntry : HookQueue Nat Unit Unit :=
  { HookQueue.new 0 with pending := some ⟨0, 0⟩ }

theorem withoutRevertLane_sampleHiddenCalls :
    ∀ call ∈ sampleHiddenCalls, call.WithoutRevertLane := by
  intro call member metadata isCall
  subst isCall
  simp only [sampleHiddenCalls, mem_cons, not_mem_nil, or_false, reduceCtorEq,
    false_or, HookQueueCall.createUpdateFromDispatchMetadata.injEq] at member
  rw [member]
  rfl

theorem slots_sampleHiddenCalls :
    (run Unit Unit sampleHiddenCalls).1.slots[0]? = some sampleHiddenSlot := by
  decide

theorem queues_sampleHiddenCalls :
    (run Unit Unit sampleHiddenCalls).1.store.queues.get?
      sampleHiddenSlot.queue = some sampleHiddenEntry := by
  decide

theorem pending_sampleHiddenCalls {ids : List HookUpdateId} {id : HookUpdateId}
    {update : HookUpdateDispatchMetadata Nat Nat}
    (collected : (run Unit Unit sampleHiddenCalls).1.store.pendingUpdates
      sampleHiddenSlot.queue = .ok ids)
    (member : id ∈ ids)
    (found : (run Unit Unit sampleHiddenCalls).1.store.updates.data? id =
      some update) : update = sampleHiddenUpdate := by
  have isPending : (run Unit Unit sampleHiddenCalls).1.store.pendingUpdates
      sampleHiddenSlot.queue = .ok [⟨0, 0⟩] := rfl
  cases isPending.symm.trans collected
  rw [mem_singleton.mp member] at found
  have isLive : (run Unit Unit sampleHiddenCalls).1.store.updates.data? ⟨0, 0⟩ =
      some sampleHiddenUpdate := by decide
  exact Option.some.inj (found.symm.trans isLive)

/-- A pass whose render lanes contain all lanes of a hidden update retains it, unless the
root render lanes contain its priority lanes. -/
theorem hidden_update_retained_by_covering_pass :
    ¬ ∀ (calls : List (HookQueueCall Nat Nat Unit)) (index : Nat) (slot : HookStateSlot Nat)
        (entry : HookQueue Nat Unit Unit) (renderLanes rootRenderLanes : Lanes)
        (reducer : Nat → Nat → Nat),
      (∀ call ∈ calls, call.WithoutRevertLane) →
      (run Unit Unit calls).1.slots[index]? = some slot →
      (run Unit Unit calls).1.store.queues.get? slot.queue = some entry →
      (lastRemainingLanes Unit Unit calls index).isSubsetOf renderLanes =
        true →
      (∀ ids, (run Unit Unit calls).1.store.pendingUpdates slot.queue =
          .ok ids →
        ∀ id ∈ ids, ∀ update,
          (run Unit Unit calls).1.store.updates.data? id = some update →
          update.lane.lanes.isSubsetOf renderLanes = true) →
      ∀ result after slotAfter,
        (processUpdateQueue renderLanes rootRenderLanes reducer).run
            ((run Unit Unit calls).1.store, slot) =
          .ok result (after, slotAfter) →
        slotAfter.baseQueue = none := by
  intro drained
  have gone := drained sampleHiddenCalls 0 sampleHiddenSlot sampleHiddenEntry
    sampleHiddenUpdate.lane.lanes Lanes.no (· + ·) withoutRevertLane_sampleHiddenCalls
    slots_sampleHiddenCalls queues_sampleHiddenCalls (by decide)
    (fun ids collected id member update found => by
      rw [pending_sampleHiddenCalls collected member found]
      decide)
    _ _ _ rfl
  revert gone
  decide

/-- The hidden update is retained unless the root renders its lane. -/
theorem remaining_lanes_account_for_retained_sample :
    (∃ result after slotAfter,
      (processUpdateQueue sampleHiddenUpdate.lane.lanes Lanes.no (· + ·)).run
          ((run Unit Unit sampleHiddenCalls).1.store, sampleHiddenSlot) =
        .ok result (after, slotAfter) ∧
      (slotAfter.baseQueue.isSome = true ↔ result.remainingLanes.isNonEmpty = true)) ∧
    sampleHiddenEntry.lastRenderedState = sampleHiddenSlot.memoizedState ∧
    ∃ result after slotAfter,
      (processUpdateQueue Lanes.no Lanes.default (· + ·)).run
          ((run Unit Unit sampleHiddenCalls).1.store, sampleHiddenSlot) =
        .ok result (after, slotAfter) ∧
      slotAfter.baseQueue = none := by
  obtain ⟨accounted, remembered, drained⟩ :=
    remaining_lanes_account_for_retained Nat Nat Unit Unit Unit
  have passed : ∃ result after,
      (processUpdateQueue sampleHiddenUpdate.lane.lanes Lanes.no (· + ·)).run
          ((run Unit Unit sampleHiddenCalls).1.store, sampleHiddenSlot) =
        .ok result after := ⟨_, _, rfl⟩
  obtain ⟨result, ⟨after, slotAfter⟩, ran⟩ := passed
  refine ⟨⟨result, after, slotAfter, ran, (accounted _ _ _ _ _ _ _ _ ran).1⟩, ?_, ?_⟩
  · refine remembered sampleHiddenCalls 0 sampleHiddenSlot sampleHiddenEntry
      slots_sampleHiddenCalls queues_sampleHiddenCalls ?_
    intro initialState member
    simp [sampleHiddenCalls] at member
  · refine drained sampleHiddenCalls 0 sampleHiddenSlot sampleHiddenEntry Lanes.no Lanes.default
      (· + ·) withoutRevertLane_sampleHiddenCalls slots_sampleHiddenCalls
      queues_sampleHiddenCalls (by decide) ?_
    intro ids collected id member update found
    rw [pending_sampleHiddenCalls collected member found]
    decide

end Sample

end FastReact
