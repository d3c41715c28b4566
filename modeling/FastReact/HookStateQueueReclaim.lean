import FastReact.HookStateQueueLanes
import FastReact.HookStateQueueSteps

namespace FastReact

open ErrorState HookQueueStore HookQueueWorld HookRingLedger LinkedArena SlotArena

/-!
# Reclaiming finished updates

An update leaves a ring when the queue or the slot points at another tail; its own link
stays.  Over every run an update is linked exactly if it is or was in a ring, and linked
updates are not reclaimed, so only updates that never were in a ring are.
-/

variable {baseIds : Nat → List HookUpdateId} {id : HookUpdateId}
  {State Action ReducerId DispatchId OwnerId : Type}

namespace HookQueueStore

def Linked (store : HookQueueStore State Action ReducerId DispatchId)
    (id : HookUpdateId) : Prop :=
  (store.updates.next? id).isSome = true

theorem Linked.live {store : HookQueueStore State Action ReducerId DispatchId} {id : HookUpdateId}
    (linked : store.Linked id) : store.updates.Live id := by
  obtain ⟨next, isNext⟩ := Option.isSome_iff_exists.mp linked
  obtain ⟨node, found, -⟩ := Option.bind_eq_some_iff.mp isNext
  exact ⟨node, found⟩

/-- Updates move on and keep their links, and only the named ones are linked. -/
structure Relinks (ids : List HookUpdateId)
    (before after : HookQueueStore State Action ReducerId DispatchId) : Prop where
  ages : SlotArena.Ages before.updates after.updates
  kept : ∀ id, before.Linked id → after.updates.Live id → after.Linked id
  onlyNew : ∀ id, after.Linked id → before.Linked id ∨ id ∈ ids

section Relinks

variable {ids : List HookUpdateId}

theorem Relinks.of_updates {before after : HookQueueStore State Action ReducerId DispatchId}
    (same : after.updates = before.updates) : Relinks ids before after where
  ages := by
    rw [same]
    exact refl before.updates
  kept := fun id linked _ => by
    rw [Linked, same]
    exact linked
  onlyNew := fun id linked => by
    rw [Linked, same] at linked
    exact .inl linked

instance :
    IsPreorder (HookQueueStore State Action ReducerId DispatchId) (Relinks ids) where
  refl _ := Relinks.of_updates rfl
  trans _ _ _ earlier later := by
    refine ⟨earlier.ages.trans later.ages, ?_, ?_⟩
    · intro id linked live
      have issued := earlier.ages.issued (.inl linked.live)
      exact later.kept id (earlier.kept id linked (later.ages.live_of_issued issued live)) live
    · intro id linked
      rcases later.onlyNew id linked with linkedBetween | isNew
      · exact earlier.onlyNew id linkedBetween
      · exact .inr isNew

theorem relinks_setNext {id : HookUpdateId} (member : id ∈ ids) (next : HookUpdateId) :
    Within (Relinks ids)
      (setNext id (some next) : HookQueueM State Action ReducerId DispatchId Unit) := by
  refine .bind (.query _) fun _ => .modify fun store => ?_
  refine ⟨ages_modify store.updates id _, ?_, ?_⟩
  · intro other linked _
    obtain ⟨node, found⟩ := linked.live
    by_cases same : other = id
    · simp [Linked, changeUpdate, next?, get?_modify, same, same ▸ found]
    · simpa [Linked, changeUpdate, next?, get?_modify, same] using linked
  · intro other linked
    by_cases same : other = id
    · exact .inr (same ▸ member)
    · left
      simpa [Linked, changeUpdate, next?, get?_modify, same] using linked

theorem relinks_setPending (queue : HookQueueId) (pending : Option HookUpdateId) :
    Within (Relinks ids)
      (setPending queue pending : HookQueueM State Action ReducerId DispatchId Unit) :=
  .bind (.query _) fun _ => .modify fun _ => Relinks.of_updates rfl

theorem relinks_createQueue (initialState : State) :
    Within (Relinks ids)
      (createQueue initialState : HookQueueM State Action ReducerId DispatchId HookQueueId) :=
  .modifyGet fun _ => Relinks.of_updates rfl

theorem relinks_insertUpdate {update : HookUpdate Action State} (unlinked : update.next = none) :
    Within (Relinks ids)
      (insertUpdate update : HookQueueM State Action ReducerId DispatchId HookUpdateId) := by
  refine .modifyGet fun store => ⟨ages_insert store.updates update, ?_, ?_⟩
  · intro id linked _
    obtain ⟨node, found⟩ := linked.live
    have kept := get?_insert_of_some update found
    simpa [Linked, next?, kept, found] using linked
  · intro id linked
    left
    change (LinkedArena.next? _ id).isSome = true at linked
    rw [next?_insert] at linked
    split at linked
    · rw [unlinked] at linked
      cases linked
    · exact linked

theorem relinks_reclaimUpdate (id : HookUpdateId) :
    Within (Relinks ids)
      (reclaimUpdate id : HookQueueM State Action ReducerId DispatchId Unit) := by
  refine .bind (.query _) fun _ => .guard fun _ => .guard fun _ =>
    .modify fun store => ⟨ages_remove store.updates id, ?_, ?_⟩
  · intro other linked live
    by_cases same : other = id
    · exact absurd (same ▸ live) (not_live_remove store.updates id)
    · simpa [Linked, next?, get?_remove, same] using linked
  · intro other linked
    left
    by_cases same : other = id
    · exact absurd (same ▸ linked.live) (not_live_remove store.updates id)
    · simpa [Linked, next?, get?_remove, same] using linked

theorem relinks_reclaimQueue (id : HookQueueId) :
    Within (Relinks ids) (reclaimQueue id : HookQueueM State Action ReducerId DispatchId Unit) :=
  .bind (.query _) fun _ => .guard fun _ => .guard fun _ => .modify fun _ => Relinks.of_updates rfl

/-- What appending does behind a tail. -/
def appendBehind (queue : HookQueueId) (update : HookUpdateId) (pending : Option HookUpdateId) :
    HookQueueM State Action ReducerId DispatchId Unit := do
  match pending with
  | some pendingTail =>
      let first ← query (·.nextInRing pendingTail)
      setNext update (some first)
      setNext pendingTail (some update)
  | none => setNext update (some update)
  setPending queue (some update)

theorem relinks_appendPendingUpdateUnchecked {update : HookUpdateId} (member : update ∈ ids)
    (queue : HookQueueId) :
    Within (Relinks ids) (appendPendingUpdateUnchecked queue update :
      HookQueueM State Action ReducerId DispatchId Unit) := by
  intro store
  cases resolved : store.queue queue with
  | error error =>
    have failed : (appendPendingUpdateUnchecked queue update).run store =
        .error error store := by
      simp only [appendPendingUpdateUnchecked, run_bind, run_query, resolved]
    rw [failed]
    exact refl_of (Relinks ids) store
  | ok entry =>
    have started : (appendPendingUpdateUnchecked queue update).run store =
        (appendBehind queue update entry.pending).run store := by
      simp only [appendPendingUpdateUnchecked, run_bind, run_query, resolved]
      rfl
    rw [started]
    cases pendingShape : entry.pending with
    | none =>
      have linksSelf : Within (Relinks ids) (appendBehind queue update none :
          HookQueueM State Action ReducerId DispatchId Unit) :=
        .bind (relinks_setNext member _) fun _ => relinks_setPending _ _
      exact linksSelf store
    | some tail =>
      have linksBoth : Within (Relinks (tail :: ids)) (appendBehind queue update (some tail) :
          HookQueueM State Action ReducerId DispatchId Unit) :=
        .bind (.query _) fun _ =>
          .bind (relinks_setNext (List.mem_cons_of_mem _ member) _) fun _ =>
            .bind (relinks_setNext (List.mem_cons_self ..) _) fun _ => relinks_setPending _ _
      have related := linksBoth store
      cases linked : store.nextInRing tail with
      | error error =>
        have failed : (appendBehind queue update (some tail)).run store =
            .error error store := by
          simp only [appendBehind, run_bind, run_query, linked]
        rw [failed]
        exact refl_of (Relinks ids) store
      | ok first =>
        refine ⟨related.ages, related.kept, fun id linkedAfter => ?_⟩
        rcases related.onlyNew id linkedAfter with wasLinked | named
        · exact .inl wasLinked
        · rcases List.mem_cons.mp named with rfl | isNew
          · left
            rw [Linked, next?_of_nextInRing_eq_ok linked]
            rfl
          · exact .inr isNew

end Relinks

end HookQueueStore

theorem exists_run_reclaimUpdate_iff {store : HookQueueStore State Action ReducerId DispatchId}
    {id : HookUpdateId} :
    (∃ after, (reclaimUpdate id).run store = .ok () after) ↔
      store.updates.Live id ∧ ¬ store.Linked id ∧ id.generation + 1 < hookGenerationBound := by
  constructor
  · rintro ⟨after, ran⟩
    obtain ⟨node, resolved, ran⟩ := run_query_bind_eq_ok_iff.mp ran
    obtain ⟨unlinked, ran⟩ := run_guard_eq_ok_iff.mp ran
    obtain ⟨inBound, -⟩ := run_guard_eq_ok_iff.mp ran
    have found := get?_of_update_eq_ok resolved
    refine ⟨⟨node, found⟩, ?_, Nat.lt_of_not_le inBound⟩
    simpa [Linked, next?, found] using unlinked
  · rintro ⟨⟨node, found⟩, unlinked, inBound⟩
    have notLinked : ¬ node.next.isSome = true := by simpa [Linked, next?, found] using unlinked
    refine ⟨{ store with updates := store.updates.remove id }, ?_⟩
    simp only [reclaimUpdate, run_bind, run_query, update_eq_ok found, notLinked,
      if_neg (Nat.not_le_of_lt inBound), run_modify, Bool.false_eq_true, if_false]

namespace HookQueueWorld

/-- The update is in the pending ring of a queue or in the base ring of a slot. -/
def InRing (world : HookQueueWorld State Action ReducerId DispatchId)
    (id : HookUpdateId) : Prop :=
  (∃ queue ids, world.store.pendingUpdates queue = .ok ids ∧ id ∈ ids) ∨
    ∃ slot ∈ world.slots, ∃ ids, world.store.updateRing slot.baseQueue = .ok ids ∧ id ∈ ids

variable {world : HookQueueWorld State Action ReducerId DispatchId}
  {ledger : HookRingLedger State Action}

theorem inRing_iff (describes : ledger.Describes world baseIds) :
    world.InRing id ↔ ∃ owner, id ∈ ledger.members baseIds owner := by
  obtain ⟨store, slots⟩ := world
  have hold := ringsHold_of_describes describes
  constructor
  · rintro (⟨queue, ids, collected, member⟩ | ⟨slot, isSlot, ids, collected, member⟩)
    · cases found : store.queues.get? queue with
      | none =>
        obtain ⟨error, refused⟩ := exists_queue_error found
        rw [pendingUpdates, refused] at collected
        cases collected
      | some entry =>
        cases (hold.pendingUpdates queue entry found).symm.trans collected
        exact ⟨.pending queue, member⟩
    · obtain ⟨index, slotFound⟩ := List.mem_iff_getElem?.mp isSlot
      cases (hold.baseUpdates index slot slotFound).symm.trans collected
      exact ⟨.base index, member⟩
  · rintro ⟨owner, member⟩
    have hasTail : (tail ⟨store, slots⟩ owner) ≠ none := by
      intro noTail
      have ring := describes.rings owner
      rw [noTail] at ring
      have noMembers : ledger.members baseIds owner = [] := ring.ring
      rw [noMembers] at member
      cases member
    obtain ⟨last, isTail⟩ := Option.ne_none_iff_exists'.mp hasTail
    cases owner with
    | pending queue =>
      obtain ⟨entry, found, -⟩ := Option.bind_eq_some_iff.mp isTail
      exact .inl ⟨queue, _, hold.pendingUpdates queue entry found, member⟩
    | base index =>
      obtain ⟨slot, slotFound, -⟩ := Option.bind_eq_some_iff.mp isTail
      exact .inr ⟨slot, List.mem_of_getElem? slotFound, _,
        hold.baseUpdates index slot slotFound, member⟩

theorem linked_of_inRing (describes : ledger.Describes world baseIds) (inRing : world.InRing id) :
    world.store.Linked id := by
  obtain ⟨owner, member⟩ := (inRing_iff describes).mp inRing
  exact isSome_next?_of_mem (describes.rings owner) member

theorem live_of_appended {call : HookQueueCall State Action OwnerId}
    {after : HookQueueWorld State Action ReducerId DispatchId}
    (ran : (HookQueueWorld.call call).run world = .ok () after) (member : id ∈ call.appended) :
    ∃ node, world.store.updates.get? id = some node := by
  have ofAppend : ∀ {queue : HookQueueId}
      {storeAfter : HookQueueStore State Action ReducerId DispatchId},
      (appendPendingUpdate queue id).run world.store = .ok () storeAfter →
      ∃ node, world.store.updates.get? id = some node := by
    intro queue storeAfter appended
    obtain ⟨_, _, asked, -⟩ := run_bind_eq_ok_iff.mp appended
    obtain ⟨valid, -⟩ := run_query_eq_ok_iff.mp asked
    obtain ⟨node, resolved, -⟩ := bind_eq_ok_iff.mp valid
    exact ⟨node, get?_of_update_eq_ok resolved⟩
  cases call with
  | appendPendingUpdate queue update =>
    obtain rfl := List.mem_singleton.mp member
    obtain ⟨_, _, focused, -⟩ := run_bind_eq_ok_iff.mp ran
    obtain ⟨storeAfter, appended, -⟩ := run_focus_eq_ok_iff.mp focused
    exact ofAppend appended
  | enqueueRenderPhaseUpdate queue update recorded =>
    obtain rfl := List.mem_singleton.mp member
    obtain ⟨_, _, focused, -⟩ := run_bind_eq_ok_iff.mp ran
    obtain ⟨heldAfter, enqueued, -⟩ := run_focus_eq_ok_iff.mp focused
    obtain ⟨_, _, held, -⟩ := run_bind_eq_ok_iff.mp enqueued
    obtain ⟨storeAfter, appended, -⟩ := run_focus_eq_ok_iff.mp held
    exact ofAppend appended
  | finishQueueing staging =>
    obtain ⟨entry, isEntry, rfl⟩ := List.mem_map.mp member
    obtain ⟨_, _, focused, -⟩ := run_bind_eq_ok_iff.mp ran
    obtain ⟨heldAfter, finished, -⟩ := run_focus_eq_ok_iff.mp focused
    obtain ⟨_, _, got, finished⟩ := run_bind_eq_ok_iff.mp finished
    cases got
    obtain ⟨seen, _, held, -⟩ := run_bind_eq_ok_iff.mp finished
    obtain ⟨_, asked, -⟩ := run_focus_eq_ok_iff.mp held
    obtain ⟨checked, -⟩ := run_query_eq_ok_iff.mp asked
    obtain ⟨-, ⟨node, live, -⟩, -⟩ := (validateStagedUpdates_eq_ok checked).1 entry isEntry
    exact ⟨node, live⟩
  | _ => cases member

end HookQueueWorld

namespace HookRingLedger

variable {world : HookQueueWorld State Action ReducerId DispatchId}
  {ledger : HookRingLedger State Action}

def ListsPending (ledger : HookRingLedger State Action) (id : HookUpdateId) : Prop :=
  ∃ queue, id ∈ (ledger.pending queue).map Prod.fst

theorem ListsPending.appendFrom (lists : ledger.ListsPending id) (queue : HookQueueId)
    (other : HookUpdateId) : (ledger.appendFrom world queue other).ListsPending id := by
  obtain ⟨listed, member⟩ := lists
  refine ⟨listed, ?_⟩
  unfold HookRingLedger.appendFrom
  split
  · exact member
  · by_cases same : listed = queue
    · subst same
      simp only [append, Function.update_self, List.map_append, List.mem_append]
      exact .inl member
    · simpa only [append, Function.update_of_ne same] using member

variable {node : HookUpdate Action State}

section

variable (live : world.store.updates.get? id = some node)
include live

theorem listsPending_appendFrom
    (queue : HookQueueId) : (ledger.appendFrom world queue id).ListsPending id := by
  refine ⟨queue, ?_⟩
  simp [HookRingLedger.appendFrom, data?, live, append]

theorem listsPending_foldl {entries : List (StagedHookUpdate OwnerId)}
    (member : ledger.ListsPending id ∨ id ∈ entries.map StagedHookUpdate.update) :
    (entries.foldl (fun ledger entry => ledger.appendFrom world entry.queue entry.update)
      ledger).ListsPending id := by
  induction entries generalizing ledger with
  | nil => exact member.resolve_right List.not_mem_nil
  | cons entry rest ih =>
    rw [List.foldl_cons]
    refine ih ?_
    rw [List.map_cons, List.mem_cons] at member
    rcases member with lists | rfl | later
    · exact .inl (lists.appendFrom entry.queue entry.update)
    · exact .inl (listsPending_appendFrom live entry.queue)
    · exact .inr later

theorem listsPending_afterOk {call : HookQueueCall State Action OwnerId}
    (member : id ∈ call.appended) : (ledger.afterOk world call).ListsPending id := by
  cases call with
  | appendPendingUpdate queue update =>
    obtain rfl := List.mem_singleton.mp member
    exact listsPending_appendFrom live queue
  | enqueueRenderPhaseUpdate queue update recorded =>
    obtain rfl := List.mem_singleton.mp member
    exact listsPending_appendFrom live queue
  | finishQueueing staging => exact listsPending_foldl live (.inr member)
  | _ => cases member

end

end HookRingLedger

namespace HookQueueWorld

section Step

variable {state : HookQueueWorld State Action ReducerId DispatchId × HookRingLedger State Action}

theorem relinks_stepCall (world : HookQueueWorld State Action ReducerId DispatchId)
    (call : HookQueueCall State Action OwnerId) (noPass : call.isPass = false) :
    Relinks call.appended world.store (world.stepCall call).store :=
  related_stepCall relinks_setPending relinks_createQueue relinks_reclaimUpdate
    relinks_reclaimQueue (fun _ _ => relinks_insertUpdate rfl) world call
    (fun queue _ member => relinks_appendPendingUpdateUnchecked member queue)
    (fun _ _ => relinks_insertUpdate rfl) noPass

theorem inRing_of_appended (describes : state.2.Describes state.1 baseIds)
    (call : HookQueueCall State Action OwnerId) (member : id ∈ call.appended) :
    (step state call).1 = state.1 ∨ (step state call).1.InRing id := by
  have keeps : ∀ recorded, call ≠ .clearRenderPhaseUpdates recorded := by
    rintro recorded rfl
    cases member
  have ended := describes.call call keeps
  unfold AllOrNothing at ended
  cases ran : (HookQueueWorld.call call).run state.1 with
  | error error after =>
    rw [ran] at ended
    left
    rw [step_of_error ran]
    exact ended
  | ok value after =>
    rw [ran] at ended
    right
    obtain ⟨idsAfter, described⟩ := ended
    obtain ⟨node, live⟩ := live_of_appended ran member
    have appended : (state.2.afterOk state.1 call).ListsPending id :=
      listsPending_afterOk live member
    obtain ⟨queue, listed⟩ := appended
    rw [step_of_ok ran]
    exact (inRing_iff described).mpr ⟨.pending queue, listed⟩

theorem links_pass {store : HookQueueStore State Action ReducerId DispatchId}
    {slots : List (HookStateSlot State)} {ledger : HookRingLedger State Action}
    (describes : ledger.Describes ⟨store, slots⟩ baseIds)
    (call : HookQueueCall State Action OwnerId) (isPass : call.isPass = true) :
    (∀ id, store.Linked id → ((stepCall ⟨store, slots⟩ call).store.Linked id)) ∧
    ∀ id, (stepCall ⟨store, slots⟩ call).store.Linked id →
      store.Linked id ∨ (stepCall ⟨store, slots⟩ call).InRing id := by
  have slotPass : ∀ {α : Type} (index : Nat) (body : HookSlotM State Action ReducerId DispatchId α),
      (∀ slot, slots[index]? = some slot →
        AllOrNothing (fun after => ∃ ids,
          (∀ id, after.1.Linked id ↔ store.Linked id ∨ id ∈ ids) ∧
          (ids = [] ∨ after.1.updateRing after.2.baseQueue = .ok ids)) body (store, slot)) →
      (∀ id, store.Linked id →
        (stateAfter ((callSlot index body).run ⟨store, slots⟩)).store.Linked id) ∧
      ∀ id, (stateAfter ((callSlot index body).run ⟨store, slots⟩)).store.Linked id →
        store.Linked id ∨ (stateAfter ((callSlot index body).run ⟨store, slots⟩)).InRing id := by
    intro α index body links
    cases slotFound : slots[index]? with
    | none =>
      rw [run_callSlot_missing body slotFound]
      exact ⟨fun _ linked => linked, fun _ linked => .inl linked⟩
    | some slot =>
      have inRange : index < slots.length := (List.getElem?_eq_some_iff.mp slotFound).1
      rw [stateAfter_callSlot slotFound]
      rcases (links slot slotFound).stateAfter_cases with unchanged | ⟨ids, linked, ring⟩
      · rw [unchanged]
        exact ⟨fun _ linked => linked, fun _ linked => .inl linked⟩
      · refine ⟨fun id was => (linked id).mpr (.inl was), fun id linkedAfter => ?_⟩
        rcases (linked id).mp linkedAfter with was | member
        · exact .inl was
        · rcases ring with rfl | collected
          · cases member
          · exact .inr (.inr ⟨_, List.mem_set inRange _, ids, collected, member⟩)
  cases call with
  | processUpdateQueue index renderLanes rootRenderLanes reducer =>
    refine slotPass index _ fun slot slotFound => ?_
    have ended := describes.processUpdateQueue renderLanes rootRenderLanes reducer slotFound
    refine ended.of_eq_ok fun result after ran => ?_
    obtain ⟨updates, retainedIds, pass⟩ := run_processUpdateQueue_eq_ok ran
    exact ⟨retainedIds, pass.linked, .inr (updateRing_eq_ok pass.ring)⟩
  | processRenderPhaseUpdates index reducer =>
    refine slotPass index _ fun slot slotFound => ?_
    have ended := describes.processRenderPhaseUpdates reducer slotFound
    refine ended.of_eq_ok fun result after ran => ⟨[], fun id => ?_, .inl rfl⟩
    cases found : store.queues.get? slot.queue with
    | none =>
      obtain ⟨error, failed⟩ := run_processRenderPhaseUpdates_of_absent reducer found
      cases failed.symm.trans ran
    | some entry =>
      obtain ⟨other, succeeded, sameUpdates, -⟩ :=
        run_processRenderPhaseUpdates reducer found (describes.pendingRing found) rfl
      cases succeeded.symm.trans ran
      simp [Linked, sameUpdates]
  | _ => cases isPass

theorem links_step (describes : state.2.Describes state.1 baseIds)
    (call : HookQueueCall State Action OwnerId) :
    (∀ id, state.1.store.Linked id → (step state call).1.store.updates.Live id →
      (step state call).1.store.Linked id) ∧
    ∀ id, (step state call).1.store.Linked id →
      state.1.store.Linked id ∨ (step state call).1.InRing id := by
  cases isPass : call.isPass with
  | false =>
    have relinks := relinks_stepCall state.1 call isPass
    rw [← step_fst] at relinks
    refine ⟨relinks.kept, fun id linked => ?_⟩
    rcases relinks.onlyNew id linked with wasLinked | appended
    · exact .inl wasLinked
    · rcases inRing_of_appended describes call appended with unchanged | inRing
      · rw [unchanged] at linked
        exact .inl linked
      · exact .inr inRing
  | true =>
    rw [step_fst]
    obtain ⟨⟨store, slots⟩, ledger⟩ := state
    obtain ⟨kept, onlyNew⟩ := links_pass describes call isPass
    exact ⟨fun id linked _ => kept id linked, onlyNew⟩

end Step

section

variable (ReducerId DispatchId : Type) (calls : List (HookQueueCall State Action OwnerId))

theorem exists_inRing_of_linked {id : HookUpdateId}
    (linked : (run ReducerId DispatchId calls).1.store.Linked id) :
    ∃ earlier, earlier <+: calls ∧ (run ReducerId DispatchId earlier).1.InRing id := by
  induction calls using List.reverseRecOn with
  | nil => simp [Linked, run, new, HookQueueStore.new, next?] at linked
  | append_singleton before call ih =>
    obtain ⟨baseIds, describes⟩ := describes_of_calls ReducerId DispatchId before
    have isRun := run_append ReducerId DispatchId before call
    rw [isRun] at linked
    rcases (links_step describes call).2 id linked with was | inRing
    · obtain ⟨earlier, isPrefix, inRing⟩ := ih was
      exact ⟨earlier, isPrefix.trans (List.prefix_append before [call]), inRing⟩
    · refine ⟨before ++ [call], List.prefix_refl _, ?_⟩
      rw [isRun]
      exact inRing

theorem linked_or_spent_of_inRing {id : HookUpdateId}
    {earlier : List (HookQueueCall State Action OwnerId)} (isPrefix : earlier <+: calls)
    (inRing : (run ReducerId DispatchId earlier).1.InRing id) :
    (run ReducerId DispatchId calls).1.store.Linked id ∨
      (run ReducerId DispatchId calls).1.store.updates.Spent id := by
  induction calls using List.reverseRecOn with
  | nil =>
    obtain rfl := List.prefix_nil.mp isPrefix
    obtain ⟨baseIds, describes⟩ := describes_of_calls ReducerId DispatchId
      ([] : List (HookQueueCall State Action OwnerId))
    exact .inl (linked_of_inRing describes inRing)
  | append_singleton before call ih =>
    rcases List.prefix_concat_iff.mp isPrefix with rfl | isEarlier
    · obtain ⟨baseIds, describes⟩ :=
        describes_of_calls ReducerId DispatchId (before ++ [call])
      exact .inl (linked_of_inRing describes inRing)
    · obtain ⟨baseIds, describes⟩ := describes_of_calls ReducerId DispatchId before
      have ages := (ages_stepCall (run ReducerId DispatchId before).1 call).updates
      rw [← step_fst, ← run_append] at ages
      have links := (links_step describes call).1 id
      rw [← run_append] at links
      rcases ih isEarlier with linked | spent
      · rcases ages.live id linked.live with live | spent
        · exact .inl (links linked live)
        · exact .inr spent
      · exact .inr (ages.spent id spent)

end

end HookQueueWorld

/-- After every run, a live update is reclaimed exactly if it is in no ring, was in none
earlier in the run, and has a generation left. -/
theorem finished_update_reclaimed_iff
    (ReducerId DispatchId : Type)
    (calls : List (HookQueueCall State Action OwnerId))
    (id : HookUpdateId)
    (live : (run ReducerId DispatchId calls).1.store.updates.Live id) :
    (∃ after, (reclaimUpdate id).run (run ReducerId DispatchId calls).1.store =
        .ok () after) ↔
      (∀ earlier, earlier <+: calls →
        ¬ (run ReducerId DispatchId earlier).1.InRing id) ∧
      id.generation + 1 < hookGenerationBound := by
  have linkedIff : (run ReducerId DispatchId calls).1.store.Linked id ↔
      ∃ earlier, earlier <+: calls ∧
        (run ReducerId DispatchId earlier).1.InRing id := by
    constructor
    · exact exists_inRing_of_linked ReducerId DispatchId calls
    · rintro ⟨earlier, isPrefix, inRing⟩
      exact (linked_or_spent_of_inRing ReducerId DispatchId calls isPrefix
        inRing).resolve_right fun spent => spent.not_live live
  rw [exists_run_reclaimUpdate_iff, linkedIff]
  simp only [live, true_and, not_exists, not_and]

section Sample

/-- An update is made; in the longer run it is appended and applied as well. -/
def sampleCreation : List (HookQueueCall Nat Nat Unit) :=
  [.createStateSlot 0, .createUpdate ⟨Lanes.sync, HookUpdateLane.accepts_sync⟩ 1]

def sampleFinished : List (HookQueueCall Nat Nat Unit) :=
  sampleCreation ++
    [.appendPendingUpdate ⟨0, 0⟩ ⟨0, 0⟩,
      .processUpdateQueue 0 Lanes.sync Lanes.sync (· + ·)]

def sampleFinishedUpdate : HookUpdateDispatchMetadata Nat Nat :=
  (HookUpdate.new ⟨Lanes.sync, HookUpdateLane.accepts_sync⟩ 1).data

theorem contents_sampleFinished (owner : HookRingOwner) :
    (run Unit Unit sampleFinished).2.contents owner = [] := by
  have shape : (run Unit Unit sampleFinished).2 =
      ((empty.append ⟨0, 0⟩ (⟨0, 0⟩, sampleFinishedUpdate)).rebase 0 []).take ⟨0, 0⟩ := rfl
  rw [shape]
  by_cases isPending : owner = .pending ⟨0, 0⟩
  · rw [isPending, contents_take_pending]
  · rw [contents_take_other isPending]
    by_cases isBase : owner = .base 0
    · rw [isBase]
      rfl
    · rw [contents_rebase_other _ isBase, contents_append_other _ isPending]
      cases owner <;> rfl

/-- An update that a pass has applied is in no ring and is not reclaimed. -/
theorem applied_update_not_reclaimed :
    ¬ ∀ (calls : List (HookQueueCall Nat Nat Unit)) (id : HookUpdateId),
      (run Unit Unit calls).1.store.updates.Live id →
      ¬ (run Unit Unit calls).1.InRing id →
      ∃ after, (reclaimUpdate id).run (run Unit Unit calls).1.store =
        .ok () after := by
  intro reclaims
  have outside : ¬ (run Unit Unit sampleFinished).1.InRing ⟨0, 0⟩ := by
    obtain ⟨baseIds, describes⟩ := describes_of_calls Unit Unit sampleFinished
    rw [inRing_iff describes]
    rintro ⟨owner, member⟩
    obtain ⟨data, isContent, -⟩ := (describes.rings owner).holds.live member
    rw [contents_sampleFinished] at isContent
    cases isContent
  obtain ⟨after, ran⟩ := reclaims sampleFinished ⟨0, 0⟩ (by decide) outside
  have refused : (reclaimUpdate ⟨0, 0⟩).run
      (run Unit Unit sampleFinished).1.store =
      .error (.linkedUpdateCannotBeReclaimed ⟨0, 0⟩)
        (run Unit Unit sampleFinished).1.store := rfl
  cases refused.symm.trans ran

/-- A new update is reclaimed. -/
theorem finished_update_reclaimed_iff_sample :
    (∃ after, (reclaimUpdate ⟨0, 0⟩).run
        (run Unit Unit sampleCreation).1.store = .ok () after) ↔
      (∀ earlier, earlier <+: sampleCreation →
        ¬ (run Unit Unit earlier).1.InRing ⟨0, 0⟩) ∧
      0 + 1 < hookGenerationBound :=
  finished_update_reclaimed_iff Unit Unit sampleCreation ⟨0, 0⟩ (by decide)

end Sample

end FastReact
