import FastReact.HookStateQueueLanes
import FastReact.HookStateQueueSteps

namespace FastReact

open ErrorState HookQueueStore HookRingLedger LinkedArena List SlotArena

/-!
# What a hook queue remembers of its slot

A queue remembers the state that its slot rendered last.  Both passes write it together
with the slot, and no other call changes it, so that it is the slot's state in every run in
which no second slot is made for the queue.
-/

variable {State Action ReducerId DispatchId OwnerId : Type}

structure HookStateSlot.Rendered (slot : HookStateSlot State)
    (entry : HookQueue State ReducerId DispatchId) : Prop where
  remembered : entry.lastRenderedState = slot.memoizedState
  settled : slot.baseQueue = none → slot.baseState = slot.memoizedState

namespace HookQueueStore

/-- The queue was issued by the store, if it was freed or not. -/
def IssuedQueue (store : HookQueueStore State Action ReducerId DispatchId)
    (queue : HookQueueId) : Prop :=
  store.queues.Live queue ∨ store.queues.Spent queue

structure Remembers (queue : HookQueueId)
    (before after : HookQueueStore State Action ReducerId DispatchId) : Prop where
  ages : SlotArena.Ages before.queues after.queues
  state : before.IssuedQueue queue → ∀ entry, after.queues.get? queue = some entry →
    ∃ earlier, before.queues.get? queue = some earlier ∧
      entry.lastRenderedState = earlier.lastRenderedState

section Remembers

variable {queue : HookQueueId}

theorem Remembers.of_queues {before after : HookQueueStore State Action ReducerId DispatchId}
    (same : after.queues = before.queues) : Remembers queue before after where
  ages := by
    rw [same]
    exact refl before.queues
  state := fun _ entry found => ⟨entry, same ▸ found, rfl⟩

instance :
    IsPreorder (HookQueueStore State Action ReducerId DispatchId) (Remembers queue) where
  refl _ := Remembers.of_queues rfl
  trans _ _ _ earlier later := by
    refine ⟨earlier.ages.trans later.ages, ?_⟩
    intro issued entry found
    obtain ⟨middle, foundMiddle, sameLater⟩ :=
      later.state (earlier.ages.issued issued) entry found
    obtain ⟨first, foundFirst, sameEarlier⟩ := earlier.state issued middle foundMiddle
    exact ⟨first, foundFirst, sameLater.trans sameEarlier⟩

theorem remembers_setNext (id : HookUpdateId) (next : Option HookUpdateId) :
    Within (Remembers queue)
      (setNext id next : HookQueueM State Action ReducerId DispatchId Unit) :=
  .bind (.query _) fun _ => .modify fun _ => Remembers.of_queues rfl

theorem remembers_setPending (other : HookQueueId) (pending : Option HookUpdateId) :
    Within (Remembers queue)
      (setPending other pending : HookQueueM State Action ReducerId DispatchId Unit) := by
  refine .bind (.query _) fun _ => .modify fun store => ?_
  refine ⟨SlotArena.ages_modify store.queues _ _, ?_⟩
  intro _ entry found
  rw [changeQueue, SlotArena.get?_modify] at found
  split at found
  · obtain ⟨earlier, foundEarlier, rfl⟩ := Option.map_eq_some_iff.mp found
    exact ⟨earlier, foundEarlier, rfl⟩
  · exact ⟨entry, found, rfl⟩

theorem remembers_insertUpdate (update : HookUpdate Action State) :
    Within (Remembers queue)
      (insertUpdate update : HookQueueM State Action ReducerId DispatchId HookUpdateId) :=
  .modifyGet fun _ => Remembers.of_queues rfl

theorem remembers_createQueue (initialState : State) :
    Within (Remembers queue)
      (createQueue initialState : HookQueueM State Action ReducerId DispatchId HookQueueId) := by
  refine .modifyGet fun store => ⟨ages_insert store.queues _, ?_⟩
  intro issued entry found
  obtain ⟨notLive, notSpent, -⟩ := live_insert store.queues
    (HookQueue.new initialState : HookQueue State ReducerId DispatchId)
  have different : queue ≠ (store.queues.insert (HookQueue.new initialState)).1 := by
    rintro rfl
    exact issued.elim notLive notSpent
  rw [get?_insert, if_neg different] at found
  exact ⟨entry, found, rfl⟩

theorem remembers_reclaimUpdate (id : HookUpdateId) :
    Within (Remembers queue)
      (reclaimUpdate id : HookQueueM State Action ReducerId DispatchId Unit) :=
  .bind (.query _) fun _ => .guard fun _ => .guard fun _ => .modify fun _ => Remembers.of_queues rfl

theorem remembers_reclaimQueue (id : HookQueueId) :
    Within (Remembers queue)
      (reclaimQueue id : HookQueueM State Action ReducerId DispatchId Unit) := by
  refine .bind (.query _) fun _ => .guard fun _ => .guard fun _ =>
    .modify fun store => ⟨ages_remove store.queues id, ?_⟩
  intro _ entry found
  rw [get?_remove] at found
  split at found
  · cases found
  · exact ⟨entry, found, rfl⟩

theorem remembers_stepCall (world : HookQueueWorld State Action ReducerId DispatchId)
    (call : HookQueueCall State Action OwnerId) (noPass : call.isPass = false) :
    Remembers queue world.store (world.stepCall call).store :=
  related_stepCall remembers_setPending remembers_createQueue remembers_reclaimUpdate
    remembers_reclaimQueue (fun _ _ => remembers_insertUpdate _) world call
    (fun queue update _ => within_appendUnchecked (fun _ _ => remembers_setNext _ _)
      remembers_setPending queue update)
    (fun _ _ => remembers_insertUpdate _) noPass

end Remembers

/-- What a pass over a slot does for the other slots and for its own. -/
structure RendersSlot (store after : HookQueueStore State Action ReducerId DispatchId)
    (slot slotAfter : HookStateSlot State) : Prop where
  sameQueue : slotAfter.queue = slot.queue
  onlyQueue : OnlyQueue slot.queue store after
  rendered : ∀ entry, store.queues.get? slot.queue = some entry → slot.Rendered entry →
    ∀ entryAfter, after.queues.get? slot.queue = some entryAfter → slotAfter.Rendered entryAfter

theorem RendersSlot.unchanged (store : HookQueueStore State Action ReducerId DispatchId)
    (slot : HookStateSlot State) : RendersSlot store store slot slot where
  sameQueue := rfl
  onlyQueue := fun _ _ => rfl
  rendered := by
    intro entry found isRendered entryAfter foundAfter
    cases found.symm.trans foundAfter
    exact isRendered

section Passes

variable {ledger : HookRingLedger State Action}
  {store : HookQueueStore State Action ReducerId DispatchId} {slots : List (HookStateSlot State)}
  {baseIds : Nat → List HookUpdateId} {index : Nat} {slot : HookStateSlot State}

theorem rendersSlot_processUpdateQueue (describes : ledger.Describes ⟨store, slots⟩ baseIds)
    (slotFound : slots[index]? = some slot) (renderLanes rootRenderLanes : Lanes)
    (reducer : State → Action → State) :
    AllOrNothing (fun after => RendersSlot store after.1 slot after.2)
      (processUpdateQueue renderLanes rootRenderLanes reducer) (store, slot) := by
  cases found : store.queues.get? slot.queue with
  | none =>
    obtain ⟨error, failed⟩ :=
      run_processUpdateQueue_of_absent renderLanes rootRenderLanes reducer found
    exact .of_error error failed
  | some entry =>
    have base := describes.baseRing slotFound
    have disjoint : (baseIds index).Disjoint ((ledger.pending slot.queue).map Prod.fst) :=
      describes.disjoint (.base index) (.pending slot.queue) (by simp)
    obtain ⟨after, tail, ids, ran, refines⟩ :=
      processUpdateQueue_refines_list renderLanes rootRenderLanes reducer store slot entry
        _ _ _ _ found base (describes.pendingRing found) disjoint
    refine .of_ok ran ⟨rfl, refines.onlyQueue, ?_⟩
    intro earlier foundEarlier isRendered entryAfter foundAfter
    cases found.symm.trans foundEarlier
    cases refines.queue.symm.trans foundAfter
    have noTail : tail = none → retainedUpdates renderLanes rootRenderLanes
        (ledger.base index ++ (ledger.pending slot.queue).map Prod.snd) = [] := by
      intro isNone
      have noIds := refines.ring.eq_none_iff.mp isNone
      exact noIds
    constructor
    · by_cases nothing :
          (ledger.base index ++ (ledger.pending slot.queue).map Prod.snd).isEmpty = true
      · have noUpdates := isEmpty_iff.mp nothing
        have noBase : slot.baseQueue = none :=
          base.eq_none_iff.mpr (append_eq_nil_iff.mp noUpdates).1
        rw [HookPassOutcome.queue, if_pos nothing, noUpdates]
        exact isRendered.remembered.trans (isRendered.settled noBase).symm
      · rw [HookPassOutcome.queue, if_neg nothing]
        rfl
    · intro isNone
      have nothing := retainedUpdates_eq_nil_iff.mp (noTail isNone)
      change (hookPassOutcome renderLanes rootRenderLanes reducer slot.baseState
        (ledger.base index ++ (ledger.pending slot.queue).map Prod.snd)).baseState = _
      rw [hookPassOutcome, RebaseQueue.settled_eq_self nothing]
      rfl

theorem rendersSlot_processRenderPhaseUpdates (describes : ledger.Describes ⟨store, slots⟩ baseIds)
    (reducer : State → Action → State) :
    AllOrNothing (fun after => RendersSlot store after.1 slot after.2)
      (processRenderPhaseUpdates reducer) (store, slot) := by
  cases found : store.queues.get? slot.queue with
  | none =>
    obtain ⟨error, failed⟩ := run_processRenderPhaseUpdates_of_absent reducer found
    exact .of_error error failed
  | some entry =>
    obtain ⟨after, ran, -, queueAfter, only⟩ :=
      run_processRenderPhaseUpdates reducer found (describes.pendingRing found) rfl
    refine .of_ok ran ⟨rfl, only, ?_⟩
    intro earlier foundEarlier isRendered entryAfter foundAfter
    cases queueAfter.symm.trans foundAfter
    refine ⟨rfl, ?_⟩
    intro isNone
    have noBase : slot.baseQueue = none := isNone
    simp [HookStateSlot.afterRenderPhase, noBase]

end Passes

end HookQueueStore

namespace HookQueueWorld

variable {world : HookQueueWorld State Action ReducerId DispatchId}

/-- The slots of a queue: there is one at most, its queue was issued, and if the queue
resolves it remembers the state of the slot. -/
structure RendersOwn (queue : HookQueueId)
    (world : HookQueueWorld State Action ReducerId DispatchId) : Prop where
  unique : ∀ (index other : Nat) (slot otherSlot : HookStateSlot State),
    world.slots[index]? = some slot → world.slots[other]? = some otherSlot →
    slot.queue = queue → otherSlot.queue = queue → index = other
  issued : ∀ slot ∈ world.slots, slot.queue = queue → world.store.IssuedQueue queue
  rendered : ∀ slot ∈ world.slots, slot.queue = queue → ∀ entry,
    world.store.queues.get? queue = some entry → slot.Rendered entry

variable {queue : HookQueueId}

theorem RendersOwn.of_remembers {after : HookQueueWorld State Action ReducerId DispatchId}
    (own : RendersOwn queue world) (sameSlots : after.slots = world.slots)
    (remembers : Remembers queue world.store after.store) : RendersOwn queue after where
  unique := sameSlots ▸ own.unique
  issued := by
    intro slot member isOwn
    exact remembers.ages.issued (own.issued slot (sameSlots ▸ member) isOwn)
  rendered := by
    intro slot member isOwn entry found
    rw [sameSlots] at member
    obtain ⟨earlier, foundEarlier, same⟩ :=
      remembers.state (own.issued slot member isOwn) entry found
    have before := own.rendered slot member isOwn earlier foundEarlier
    exact ⟨same.trans before.remembered, before.settled⟩

theorem RendersOwn.keepSlot (own : RendersOwn queue world) {slot : HookStateSlot State}
    (different : slot.queue ≠ queue) :
    RendersOwn queue { world with slots := world.slots ++ [slot] } := by
  have isOld : ∀ (index : Nat) found, (world.slots ++ [slot])[index]? = some found →
      found.queue = queue → world.slots[index]? = some found := by
    intro index found isFound isOwn
    rcases Nat.lt_or_ge index world.slots.length with inside | outside
    · rwa [getElem?_append_left inside] at isFound
    · rw [getElem?_append_right outside] at isFound
      have member := mem_of_getElem? isFound
      rw [mem_singleton] at member
      exact absurd (member ▸ isOwn) different
  have isOldMember : ∀ found ∈ world.slots ++ [slot], found.queue = queue →
      found ∈ world.slots := by
    intro found member isOwn
    rcases mem_append.mp member with inside | last
    · exact inside
    · exact absurd (mem_singleton.mp last ▸ isOwn) different
  refine ⟨?_, ?_, ?_⟩
  · intro index other found otherFound isFound isOther isOwn isOtherOwn
    exact own.unique index other found otherFound (isOld index found isFound isOwn)
      (isOld other otherFound isOther isOtherOwn) isOwn isOtherOwn
  · exact fun found member isOwn => own.issued found (isOldMember found member isOwn) isOwn
  · exact fun found member isOwn => own.rendered found (isOldMember found member isOwn) isOwn

theorem RendersOwn.of_first {slots : List (HookStateSlot State)}
    {store : HookQueueStore State Action ReducerId DispatchId} {slot : HookStateSlot State}
    (noOther : ∀ other ∈ slots, other.queue ≠ queue) (issued : store.IssuedQueue queue)
    (rendered : ∀ entry, store.queues.get? queue = some entry → slot.Rendered entry) :
    RendersOwn queue ⟨store, slots ++ [slot]⟩ := by
  have isLast : ∀ found ∈ slots ++ [slot], found.queue = queue → found = slot := by
    intro found member isOwn
    rcases mem_append.mp member with inside | last
    · exact absurd isOwn (noOther found inside)
    · exact mem_singleton.mp last
  have atEnd : ∀ (index : Nat) found, (slots ++ [slot])[index]? = some found →
      found.queue = queue → index = slots.length := by
    intro index found isFound isOwn
    rcases Nat.lt_trichotomy index slots.length with inside | isEnd | outside
    · rw [getElem?_append_left inside] at isFound
      exact absurd isOwn (noOther found (mem_of_getElem? isFound))
    · exact isEnd
    · rw [getElem?_eq_none_iff.mpr (by simp; omega)] at isFound
      cases isFound
  refine ⟨?_, fun _ _ _ => issued, ?_⟩
  · intro index other found otherFound isFound isOther isOwn isOtherOwn
    exact (atEnd index found isFound isOwn).trans (atEnd other otherFound isOther isOtherOwn).symm
  · intro found member isOwn entry isEntry
    rw [isLast found member isOwn]
    exact rendered entry isEntry

section

variable (own : RendersOwn queue world)
include own

theorem rendersOwn_createStateSlot (initialState : State) :
    RendersOwn queue
      (world.stepCall (.createStateSlot initialState : HookQueueCall State Action OwnerId)) := by
  by_cases isNew : (world.store.queues.insert (HookQueue.new initialState)).1 = queue
  · obtain ⟨notLive, notSpent, live⟩ := live_insert world.store.queues
      (HookQueue.new initialState : HookQueue State ReducerId DispatchId)
    subst isNew
    refine RendersOwn.of_first ?_ (.inl live) ?_
    · intro other member isOwn
      exact (own.issued other member isOwn).elim notLive notSpent
    · intro entry found
      cases (get?_insert_self _ _).symm.trans found
      exact ⟨rfl, fun _ => rfl⟩
  · have inserted : RendersOwn queue { world with
        store := stateAfter ((createQueue initialState).run world.store) } :=
      own.of_remembers rfl (remembers_createQueue initialState world.store)
    exact inserted.keepSlot isNew

theorem RendersOwn.callSlot {index : Nat} {slot slotAfter : HookStateSlot State}
    {after : HookQueueStore State Action ReducerId DispatchId}
    (slotFound : world.slots[index]? = some slot) (ages : HookQueueStore.Ages world.store after)
    (renders : RendersSlot world.store after slot slotAfter) :
    RendersOwn queue ⟨after, world.slots.set index slotAfter⟩ := by
  have inRange : index < world.slots.length := (List.getElem?_eq_some_iff.mp slotFound).1
  have whichSlot : ∀ (other : Nat) found, (world.slots.set index slotAfter)[other]? = some found →
      (other = index ∧ found = slotAfter) ∨ (other ≠ index ∧ world.slots[other]? = some found) := by
    intro other found isFound
    by_cases same : other = index
    · subst same
      rw [getElem?_set_self inRange] at isFound
      exact .inl ⟨rfl, (Option.some.inj isFound).symm⟩
    · rw [getElem?_set_ne (Ne.symm same)] at isFound
      exact .inr ⟨same, isFound⟩
  have ownIssued : ∀ found ∈ world.slots.set index slotAfter, found.queue = queue →
      world.store.IssuedQueue queue := by
    intro found member isOwn
    obtain ⟨other, isFound⟩ := mem_iff_getElem?.mp member
    rcases whichSlot other found isFound with ⟨-, rfl⟩ | ⟨-, isOld⟩
    · exact own.issued slot (mem_of_getElem? slotFound) (renders.sameQueue.symm.trans isOwn)
    · exact own.issued found (mem_of_getElem? isOld) isOwn
  refine ⟨?_, ?_, ?_⟩
  · intro first second found otherFound isFound isOther isOwn isOtherOwn
    have before : ∀ (other : Nat) found, (world.slots.set index slotAfter)[other]? = some found →
        found.queue = queue → ∃ earlier, world.slots[other]? = some earlier ∧
          earlier.queue = queue := by
      intro other found isFound isOwn
      rcases whichSlot other found isFound with ⟨rfl, rfl⟩ | ⟨-, isOld⟩
      · exact ⟨slot, slotFound, renders.sameQueue.symm.trans isOwn⟩
      · exact ⟨found, isOld, isOwn⟩
    obtain ⟨earlier, isEarlier, ownEarlier⟩ := before first found isFound isOwn
    obtain ⟨otherEarlier, isOtherEarlier, otherOwn⟩ := before second otherFound isOther isOtherOwn
    exact own.unique first second earlier otherEarlier isEarlier isOtherEarlier ownEarlier otherOwn
  · exact fun found member isOwn => ages.queues.issued (ownIssued found member isOwn)
  · intro found member isOwn entry isEntry
    obtain ⟨earlier, isEarlier⟩ :=
      ages.queues.live_of_issued (ownIssued found member isOwn) ⟨entry, isEntry⟩
    obtain ⟨other, isFound⟩ := mem_iff_getElem?.mp member
    rcases whichSlot other found isFound with ⟨-, rfl⟩ | ⟨different, isOld⟩
    · have sameQueue : slot.queue = queue := renders.sameQueue.symm.trans isOwn
      have before := own.rendered slot (mem_of_getElem? slotFound) sameQueue earlier isEarlier
      exact renders.rendered earlier (sameQueue ▸ isEarlier) before entry (sameQueue ▸ isEntry)
    · -- The pass is over a slot of another queue.
      have otherQueue : queue ≠ slot.queue := by
        intro same
        exact different (own.unique other index found slot isOld slotFound isOwn same.symm)
      rw [renders.onlyQueue queue otherQueue] at isEntry
      exact own.rendered found (mem_of_getElem? isOld) isOwn entry isEntry

/-- Every call but one that makes another slot for the queue. -/
theorem rendersOwn_stepCall {ledger : HookRingLedger State Action}
    {baseIds : Nat → List HookUpdateId}
    (describes : ledger.Describes world baseIds) (call : HookQueueCall State Action OwnerId)
    (noOtherSlot : ∀ initialState, call ≠ .newStateSlot initialState queue) :
    RendersOwn queue (world.stepCall call) := by
  have slotPass : ∀ {α : Type} (index : Nat) (body : HookSlotM State Action ReducerId DispatchId α),
      HookQueueStore.Ages world.store (stateAfter ((callSlot index body).run world)).store →
      (∀ slot, world.slots[index]? = some slot →
        AllOrNothing (fun after => RendersSlot world.store after.1 slot after.2) body
          (world.store, slot)) →
      RendersOwn queue (stateAfter ((HookQueueWorld.callSlot index body).run world)) := by
    intro α index body ages renders
    cases slotFound : world.slots[index]? with
    | none =>
      rw [run_callSlot_missing body slotFound]
      exact own
    | some slot =>
      rw [stateAfter_callSlot slotFound] at ages ⊢
      refine own.callSlot slotFound ages ?_
      rcases (renders slot slotFound).stateAfter_cases with unchanged | rendered
      · rw [unchanged]
        exact RendersSlot.unchanged world.store slot
      · exact rendered
  have ages := ages_stepCall world call
  cases call with
  | createStateSlot initialState => exact rendersOwn_createStateSlot own initialState
  | newStateSlot initialState other =>
    exact own.keepSlot fun same => noOtherSlot initialState (congrArg _ same)
  | processUpdateQueue index renderLanes rootRenderLanes reducer =>
    exact slotPass index _ ages fun slot slotFound =>
      rendersSlot_processUpdateQueue describes slotFound renderLanes rootRenderLanes reducer
  | processRenderPhaseUpdates index reducer =>
    exact slotPass index _ ages fun slot slotFound =>
      rendersSlot_processRenderPhaseUpdates describes reducer
  | _ => exact own.of_remembers (slots_stepCall _ rfl rfl) (remembers_stepCall world _ rfl)

end

/-- In every run without another slot for the queue it remembers the state of its slot. -/
theorem rendersOwn_of_calls (ReducerId DispatchId : Type)
    (calls : List (HookQueueCall State Action OwnerId))
    (noOtherSlot : ∀ initialState, .newStateSlot initialState queue ∉ calls) :
    RendersOwn queue (run ReducerId DispatchId calls).1 := by
  induction calls using List.reverseRecOn with
  | nil =>
    refine ⟨?_, ?_, ?_⟩
    · intro index other slot otherSlot found
      cases found
    · intro slot member
      cases member
    · intro slot member
      cases member
  | append_singleton earlier call ih =>
    obtain ⟨baseIds, describes⟩ := describes_of_calls ReducerId DispatchId earlier
    have own := ih fun initialState member =>
      noOtherSlot initialState (mem_append_left _ member)
    rw [run_append, step_fst]
    refine rendersOwn_stepCall own describes call ?_
    rintro initialState rfl
    exact noOtherSlot initialState (by simp)

end HookQueueWorld

end FastReact
