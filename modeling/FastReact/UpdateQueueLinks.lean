import FastReact.UpdateQueueLists

namespace FastReact

open ErrorState LinkChain LinkedArena List UpdateQueueStore

/-!
# Which updates lose their link

An update that is in a pending ring has a next link.  A pass takes the link of the tails
of the rings that it opens, and of no other update; appending takes none.
-/

namespace UpdateQueueStore

def Linked (store : UpdateQueueStore) (id : UpdateId) : Prop :=
  (store.updates.next? id).isSome

instance (store : UpdateQueueStore) (id : UpdateId) : Decidable (store.Linked id) :=
  inferInstanceAs (Decidable ((store.updates.next? id).isSome = true))

def pendingTails (store : UpdateQueueStore) : List UpdateId :=
  store.queues.filterMap (·.shared.pending)

theorem mem_queues {store : UpdateQueueStore} {handle : UpdateQueueHandle} {queue : UpdateQueue}
    (found : store.queue handle = .ok queue) : queue ∈ store.queues := by
  unfold UpdateQueueStore.queue at found
  by_cases isNone : handle.isNone = true
  · rw [if_pos isNone] at found
    cases found
  · rw [if_neg isNone] at found
    cases entry : store.queues[handle.raw - 1]? with
    | none =>
      rw [entry] at found
      cases found
    | some other =>
      rw [entry] at found
      cases found
      exact mem_of_getElem? entry

theorem linked_withNext {store : UpdateQueueStore} {id other : UpdateId} {next : Option UpdateId}
    (linked : store.Linked other) (kept : other = id → next.isSome) :
    (store.withNext id next).Linked other := by
  unfold Linked at linked ⊢
  obtain ⟨successor, link⟩ := Option.isSome_iff_exists.mp linked
  by_cases same : other = id
  · subst same
    obtain ⟨data, live⟩ := exists_data?_of_next? link
    rw [updates_withNext, next?_withNext live, if_pos rfl]
    exact kept rfl
  · rw [updates_withNext, next?_withNext_of_ne _ same]
    exact linked

/-- Only tails of pending rings lose their link, and no other update becomes a tail. -/
structure OpensRings (store after : UpdateQueueStore) : Prop where
  linked : ∀ id, store.Linked id → after.Linked id ∨ id ∈ store.pendingTails
  tails : ∀ id ∈ after.pendingTails, id ∈ store.pendingTails

instance : IsPreorder UpdateQueueStore OpensRings where
  refl store := ⟨fun id linked => .inl linked, fun id member => member⟩
  trans first second third opens opensLater := by
    refine ⟨?_, fun id member => opens.tails id (opensLater.tails id member)⟩
    intro id linked
    rcases opens.linked id linked with stays | isTail
    · rcases opensLater.linked id stays with staysLater | isTailLater
      · exact .inl staysLater
      · exact .inr (opens.tails id isTailLater)
    · exact .inr isTail

end UpdateQueueStore

open UpdateQueueStore

theorem opensRings_insertRootUpdate (update : RootUpdate) :
    Within OpensRings (insertRootUpdate update) := by
  intro store
  obtain ⟨id, after, ran, -, -, sameQueues, extension⟩ := run_insertRootUpdate store update
  rw [ran]
  refine ⟨?_, ?_⟩
  · intro other linked
    obtain ⟨successor, link⟩ := Option.isSome_iff_exists.mp linked
    obtain ⟨data, live⟩ := exists_data?_of_next? link
    left
    rw [stateAfter, Linked, extension.links other data live not_mem_nil]
    exact linked
  · intro other member
    rwa [stateAfter, pendingTails, sameQueues] at member

theorem opensRings_setRootUpdateNext (id next : UpdateId) :
    Within OpensRings (setRootUpdateNext id (some next)) :=
  .bind (.query _) fun _ => .modify fun _ =>
    ⟨fun _ linked => .inl (linked_withNext linked fun _ => rfl), fun _ member => member⟩

variable (handle : UpdateQueueHandle)

theorem opensRings_modifyUpdateQueue {change : UpdateQueue → UpdateQueue}
    (dropped : ∀ queue,
      (change queue).shared.pending = none ∨ (change queue).shared.pending = queue.shared.pending) :
    Within OpensRings (modifyUpdateQueue handle change) := by
  refine .bind (.query _) fun _ => .modify fun store => ⟨fun _ linked => .inl linked, ?_⟩
  intro id member
  obtain ⟨queue, isQueue, pending⟩ := mem_filterMap.mp member
  obtain ⟨index, entry⟩ := mem_iff_getElem?.mp isQueue
  rw [changeQueue, getElem?_modify] at entry
  obtain ⟨before, entryBefore, changed⟩ := Option.map_eq_some_iff.mp entry
  refine mem_filterMap.mpr ⟨before, mem_of_getElem? entryBefore, ?_⟩
  by_cases isHandle : handle.raw - 1 = index
  · rw [if_pos isHandle] at changed
    rcases dropped before with noPending | samePending
    · rw [← changed, noPending] at pending
      cases pending
    · rw [← samePending, changed, pending]
  · rw [if_neg isHandle] at changed
    rw [show before = queue from changed, pending]

theorem opensRings_appendLinearSegmentToBaseQueue (first last : UpdateId) :
    Within OpensRings (appendLinearSegmentToBaseQueue handle first last) := by
  refine .bind (.query _) fun queue => ?_
  cases queue.lastBaseUpdate with
  | none =>
    exact .bind (opensRings_modifyUpdateQueue handle fun _ => .inr rfl) fun _ =>
      opensRings_modifyUpdateQueue handle fun _ => .inr rfl
  | some previous =>
    exact .bind (opensRings_setRootUpdateNext previous first) fun _ =>
      opensRings_modifyUpdateQueue handle fun _ => .inr rfl

variable (currentQueue : Option UpdateQueueHandle)

theorem opensRings_transferToCurrentQueue (first last : UpdateId) :
    Within OpensRings (transferToCurrentQueue handle currentQueue first last) := by
  cases currentQueue with
  | none => exact .pure _
  | some current =>
    have given : Within OpensRings (do
        if (← query (·.queue current)).lastBaseUpdate = some last then
          return
        appendLinearSegmentToBaseQueue current first last : UpdateQueueM Unit) := by
      refine .bind (.query _) fun queue => ?_
      by_cases isLast : queue.lastBaseUpdate = some last
      · rw [if_pos isLast]
        exact .pure _
      · rw [if_neg isLast]
        exact opensRings_appendLinearSegmentToBaseQueue current first last
    by_cases same : current = handle
    · simp only [transferToCurrentQueue, if_pos same]
      exact .pure _
    · simp only [transferToCurrentQueue, if_neg same]
      refine .bind (.query _) fun queue => ?_
      by_cases isPending : queue.shared.pending = some last
      · rw [if_pos isPending]
        exact .bind (opensRings_modifyUpdateQueue current fun _ => .inl rfl) fun _ => given
      · rw [if_neg isPending]
        exact given

theorem opensRings_transferPendingToBaseQueue :
    Within OpensRings (transferPendingToBaseQueue handle currentQueue) := by
  intro store
  cases found : store.queue handle with
  | error error =>
    simp only [transferPendingToBaseQueue, run_bind, run_query, found]
    exact refl store
  | ok queue =>
    cases pendingShape : queue.shared.pending with
    | none =>
      simp only [transferPendingToBaseQueue, run_bind, run_query, found, pendingShape]
      exact refl store
    | some tail =>
      have isTail : tail ∈ store.pendingTails :=
        mem_filterMap.mpr ⟨queue, mem_queues found, pendingShape⟩
      have taken : Within OpensRings (modifyUpdateQueue handle (·.withPending none)) :=
        opensRings_modifyUpdateQueue handle fun _ => .inl rfl
      have taken := taken store
      rw [run_modifyUpdateQueue found] at taken
      obtain ⟨emptied, emptiedShape⟩ :
          ∃ emptied, emptied = store.changeQueue handle (·.withPending none) :=
        ⟨_, rfl⟩
      replace taken : OpensRings store emptied := emptiedShape ▸ taken
      have emptying : (modifyUpdateQueue handle fun queue =>
          { queue with shared := { queue.shared with pending := none } }).run store =
          .ok () emptied :=
        emptiedShape ▸ run_modifyUpdateQueue found _
      simp only [transferPendingToBaseQueue, run_bind, run_query, found, pendingShape, emptying]
      cases resolved : emptied.update tail with
      | error error => exact taken
      | ok node =>
        cases link : node.next with
        | none =>
          simp only [link]
          exact taken
        | some first =>
          simp only [link, run_bind, setRootUpdateNext, run_query, resolved, run_modify]
          have unlinked : OpensRings store (emptied.withNext tail none) := by
            refine ⟨?_, taken.tails⟩
            intro id linked
            rcases taken.linked id linked with stays | tailBefore
            · by_cases same : id = tail
              · exact .inr (same ▸ isTail)
              · exact .inl (linked_withNext stays fun isSame => absurd isSame same)
            · exact .inr tailBefore
          have passedOn : Within OpensRings (do
              appendLinearSegmentToBaseQueue handle first tail
              transferToCurrentQueue handle currentQueue first tail) :=
            .bind (opensRings_appendLinearSegmentToBaseQueue handle first tail)
              fun _ => opensRings_transferToCurrentQueue handle currentQueue first tail
          exact Trans.trans unlinked (passedOn (emptied.withNext tail none))

variable (renderLanes rootRenderLanes : Lanes)

theorem opensRings_processRootUpdate (pass : RootQueuePass)
    (updateId : UpdateId) (original : RootUpdate) :
    Within OpensRings
      (processRootUpdate handle renderLanes rootRenderLanes pass updateId original) := by
  refine .ite ?_ ?_
  · refine .bind (opensRings_insertRootUpdate _) fun clone => ?_
    cases pass.newLastBaseUpdate with
    | none => exact .pure _
    | some last => exact .bind (opensRings_setRootUpdateNext last clone) fun _ => .pure _
  · cases pass.newLastBaseUpdate with
    | none =>
      refine .bind (.pure _) fun pass => .ite ?_ (.pure _)
      exact .bind (opensRings_modifyUpdateQueue handle fun _ => .inr rfl) fun _ => .pure _
    | some last =>
      refine .bind (opensRings_insertRootUpdate _) fun clone =>
        .bind (opensRings_setRootUpdateNext last clone) fun _ =>
        .bind (.pure _) fun pass => .ite ?_ (.pure _)
      exact .bind (opensRings_modifyUpdateQueue handle fun _ => .inr rfl) fun _ => .pure _

theorem opensRings_processRootUpdates (rounds : Nat)
    (next : Option UpdateId) (pass : RootQueuePass) :
    Within OpensRings (processRootUpdates handle renderLanes rootRenderLanes rounds next pass) := by
  induction rounds generalizing next pass with
  | zero =>
    cases next with
    | none => exact .pure _
    | some updateId => exact .throw _
  | succ rounds ih =>
    cases next with
    | none => exact .pure _
    | some updateId =>
      refine .bind (.query _) fun original =>
        .bind (opensRings_processRootUpdate handle _ _ _ _ _) fun pass => ?_
      cases original.next with
      | some next => exact ih _ _
      | none =>
        exact .bind (opensRings_transferPendingToBaseQueue handle none) fun _ =>
          .bind (.query _) fun node => ih _ _

theorem opensRings_processHostRootUpdateQueue :
    Within OpensRings
      (processHostRootUpdateQueue handle currentQueue renderLanes rootRenderLanes) :=
  .bind (opensRings_transferPendingToBaseQueue handle currentQueue) fun _ =>
  .bind (.query _) fun _ => .bind .get fun _ =>
  .bind (opensRings_processRootUpdates handle _ _ _ _ _) fun _ =>
  .bind (opensRings_modifyUpdateQueue handle fun _ => .inr rfl) fun _ => .pure _

theorem opensRings_cloneHostRootUpdateQueue (handle : UpdateQueueHandle) :
    Within OpensRings (cloneHostRootUpdateQueue handle) := by
  intro store
  cases found : store.queue handle with
  | error error =>
    simp only [cloneHostRootUpdateQueue, run_bind, run_query, found]
    exact refl store
  | ok queue =>
    simp only [cloneHostRootUpdateQueue, run_bind, run_query, found]
    refine ⟨fun id linked => .inl linked, ?_⟩
    intro id member
    obtain ⟨other, isQueue, pending⟩ := mem_filterMap.mp member
    rcases mem_append.mp isQueue with isOld | isCopy
    · exact mem_filterMap.mpr ⟨other, isOld, pending⟩
    · rw [mem_singleton.mp isCopy] at pending
      exact mem_filterMap.mpr ⟨queue, mem_queues found, pending⟩

end FastReact
