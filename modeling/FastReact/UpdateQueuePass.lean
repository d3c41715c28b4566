import FastReact.RebaseQueue
import FastReact.UpdateQueue

namespace FastReact

open ErrorState Lane LinkChain LinkedArena RebaseQueue UpdateQueue

/-!
# What a render pass does to a HostRoot queue

Operations on the queue store are specified by the lists a queue stands for: the
base list and the pending ring.  A pass transfers the pending updates behind the
base list and rebuilds the base list from the updates it skips, with copies of
everything applied behind the first skipped update.
-/

variable {store : UpdateQueueStore} {handle : UpdateQueueHandle} {queue : UpdateQueue}
  {id : UpdateId} {data : RootUpdateData} {baseIds pendingIds : List UpdateId}
  {base pending : List RootUpdateData}

namespace RootUpdateData

/-- The lanes of an update without `OFFSCREEN`. -/
def priorityLanes (update : RootUpdateData) : Lanes :=
  update.lane.removeLane Lane.offscreen

def isHidden (update : RootUpdateData) : Bool :=
  update.priorityLanes != update.lane

def isSkipped (renderLanes rootRenderLanes : Lanes) (update : RootUpdateData) : Bool :=
  !update.priorityLanes.isSubsetOf
    (if update.isHidden then rootRenderLanes else renderLanes)

def effect (renderLanes rootRenderLanes : Lanes) (state : HostRootState)
    (update : RootUpdateData) : HostRootState :=
  if update.isSkipped renderLanes rootRenderLanes then state
  else applyRootUpdate state update

/-- The copy of an update in the rebuilt base list: a skipped update keeps its
callback, an applied one keeps neither lanes nor callback. -/
def rebased (renderLanes rootRenderLanes : Lanes) (update : RootUpdateData) : RootUpdateData :=
  if update.isSkipped renderLanes rootRenderLanes then
    { update with lane := update.priorityLanes }
  else
    { update with lane := Lanes.no, callback := .none }

def leftover (renderLanes rootRenderLanes : Lanes) (update : RootUpdateData) : Lanes :=
  if update.isSkipped renderLanes rootRenderLanes then update.priorityLanes
  else Lanes.no

def isCollected (renderLanes rootRenderLanes : Lanes) (update : RootUpdateData) : Bool :=
  !update.isSkipped renderLanes rootRenderLanes && update.callback.isSome

def collected (id : UpdateId) (update : RootUpdateData) : CollectedRootUpdateCallback where
  update := id
  callback := update.callback
  hidden := update.isHidden

end RootUpdateData

open RootUpdateData

/-- The base list a pass leaves. -/
def rebasedUpdates (renderLanes rootRenderLanes : Lanes) (updates : List RootUpdateData) :
    List RootUpdateData :=
  (postponed (isSkipped renderLanes rootRenderLanes) updates).map
    (rebased renderLanes rootRenderLanes)

/-- The lanes a pass leaves. -/
def leftoverRootLanes (renderLanes rootRenderLanes : Lanes) (updates : List RootUpdateData) :
    Lanes :=
  updates.foldl
    (fun lanes update => lanes.merge (update.leftover renderLanes rootRenderLanes))
    Lanes.no

def collectedCallbacks (renderLanes rootRenderLanes : Lanes) (ids : List UpdateId)
    (updates : List RootUpdateData) : List CollectedRootUpdateCallback :=
  ((ids.zip updates).filter fun entry =>
    entry.2.isCollected renderLanes rootRenderLanes).map fun entry => collected entry.1 entry.2

def renderedRootState (renderLanes rootRenderLanes : Lanes) (baseState : HostRootState)
    (updates : List RootUpdateData) : HostRootState :=
  updates.foldl (effect renderLanes rootRenderLanes) baseState

/-- The base state a pass leaves. -/
def rebasedRootState (renderLanes rootRenderLanes : Lanes) (baseState : HostRootState)
    (updates : List RootUpdateData) : HostRootState :=
  (settled (isSkipped renderLanes rootRenderLanes) updates).foldl
    (effect renderLanes rootRenderLanes) baseState

namespace UpdateQueueStore

theorem update_eq_ok (live : store.updates.data? id = some data) :
    store.update id = .ok ⟨data, store.updates.next? id⟩ := by
  rw [UpdateQueueStore.update, SlotArena.find_eq_ok_iff.mpr (get?_of_data? live)]
  rfl

theorem queue_changeQueue (found : store.queue handle = .ok queue)
    (change : UpdateQueue → UpdateQueue) (other : UpdateQueueHandle) :
    (store.changeQueue handle change).queue other =
      if other = handle then .ok (change queue) else store.queue other := by
  have handleSome : handle.isNone = false := by
    cases shape : handle.isNone with
    | false => rfl
    | true => simp [UpdateQueueStore.queue, shape] at found
  have stored : store.queues[handle.raw - 1]? = some queue := by
    simp only [UpdateQueueStore.queue, handleSome, Bool.false_eq_true, if_false] at found
    cases shape : store.queues[handle.raw - 1]? with
    | none => simp [shape] at found
    | some existing => simpa [shape] using found
  unfold UpdateQueueStore.queue changeQueue
  by_cases same : other = handle
  · subst other
    simp [handleSome, stored]
  · cases otherNone : other.isNone with
    | true => simp [same]
    | false =>
      have different : handle.raw - 1 ≠ other.raw - 1 := by
        intro sameIndex
        apply same
        cases other
        cases handle
        simp [OpaqueHandle.isNone] at otherNone handleSome sameIndex ⊢
        omega
      simp [same, different]

@[simp] theorem queue_withNext (other : UpdateQueueHandle) (next : Option UpdateId) :
    (store.withNext id next).queue other = store.queue other :=
  rfl

@[simp] theorem updates_withNext (next : Option UpdateId) :
    (store.withNext id next).updates = store.updates.withNext id next :=
  rfl

@[simp] theorem updates_changeQueue (change : UpdateQueue → UpdateQueue) :
    (store.changeQueue handle change).updates = store.updates :=
  rfl

end UpdateQueueStore

open UpdateQueueStore

section Operations

theorem run_setRootUpdateNext (live : store.updates.data? id = some data) (next : Option UpdateId) :
    (setRootUpdateNext id next).run store = .ok () (store.withNext id next) := by
  simp only [setRootUpdateNext, run_bind, run_query, update_eq_ok live, run_modify]

theorem run_modifyUpdateQueue (found : store.queue handle = .ok queue)
    (change : UpdateQueue → UpdateQueue) :
    (modifyUpdateQueue handle change).run store = .ok () (store.changeQueue handle change) := by
  simp only [modifyUpdateQueue, run_bind, run_query, found, run_modify]

theorem run_insertRootUpdate (store : UpdateQueueStore) (update : RootUpdate) :
    ∃ id after,
      (insertRootUpdate update).run store = .ok id after ∧
      store.updates.data? id = none ∧
      after.updates.get? id = some update ∧
      after.queues = store.queues ∧
      Extends [] store.updates after.updates := by
  obtain ⟨isNew, found, extension⟩ := insert_spec store.updates update
  exact ⟨_, _, rfl, isNew, found, rfl, extension⟩

end Operations

structure RootQueueView (store : UpdateQueueStore) (handle : UpdateQueueHandle)
    (queue : UpdateQueue) (baseIds pendingIds : List UpdateId)
    (base pending : List RootUpdateData) : Prop where
  found : store.queue handle = .ok queue
  basePath :
    store.updates.HoldsPath queue.firstBaseUpdate queue.lastBaseUpdate baseIds base
  pendingRing : store.updates.HoldsRing queue.shared.pending pendingIds pending
  disjoint : baseIds.Disjoint pendingIds

/-- Queues other than one are the same in two stores. -/
def OnlyUpdateQueue (handle : UpdateQueueHandle)
    (store after : UpdateQueueStore) : Prop :=
  ∀ other ≠ handle, after.queue other = store.queue other

theorem onlyUpdateQueue_changeQueue {store : UpdateQueueStore}
    (found : store.queue handle = .ok queue) (change : UpdateQueue → UpdateQueue) :
    OnlyUpdateQueue handle store (store.changeQueue handle change) := by
  intro other different
  rw [queue_changeQueue found, if_neg different]

namespace UpdateQueue

def withPending (queue : UpdateQueue) (pending : Option UpdateId) : UpdateQueue :=
  { queue with shared := { queue.shared with pending := pending } }

def withBase (queue : UpdateQueue) (first last : Option UpdateId) : UpdateQueue :=
  { queue with firstBaseUpdate := first, lastBaseUpdate := last }

end UpdateQueue

section Append

section

variable (live : store.updates.data? id = some data) (found : store.queue handle = .ok queue)
include live found

theorem run_appendPendingRootUpdate_first (noPending : queue.shared.pending = none) :
    (appendPendingRootUpdate handle id).run store =
      .ok () ((store.withNext id (some id)).changeQueue handle (·.withPending (some id))) := by
  have foundLinked : (store.withNext id (some id)).queue handle = .ok queue := found
  simp only [appendPendingRootUpdate, run_bind, run_query, update_eq_ok live, found,
    noPending, run_setRootUpdateNext live]
  exact run_modifyUpdateQueue foundLinked _

theorem run_appendPendingRootUpdate_behind {tail : UpdateId} {tailData : RootUpdateData}
    (tailShape : queue.shared.pending = some tail)
    (tailLive : store.updates.data? tail = some tailData) :
    (appendPendingRootUpdate handle id).run store =
      .ok () (((store.withNext id (store.updates.next? tail)).withNext tail
        (some id)).changeQueue handle (·.withPending (some id))) := by
  have tailLiveLinked : (store.withNext id (store.updates.next? tail)).updates.data? tail =
      some tailData := by
    simpa using tailLive
  have foundLinked : ((store.withNext id (store.updates.next? tail)).withNext tail
      (some id)).queue handle = .ok queue := found
  simp only [appendPendingRootUpdate, run_bind, run_query, update_eq_ok live, found, tailShape,
    update_eq_ok tailLive, run_setRootUpdateNext live, run_setRootUpdateNext tailLiveLinked]
  exact run_modifyUpdateQueue foundLinked _

end

theorem run_appendPendingRootUpdate_ring {pendingIds : List UpdateId}
    {pending : List RootUpdateData} (found : store.queue handle = .ok queue)
    (pendingRing : store.updates.HoldsRing queue.shared.pending pendingIds pending)
    (live : store.updates.data? id = some data) (notPending : id ∉ pendingIds) :
    ∃ after,
      (appendPendingRootUpdate handle id).run store = .ok () after ∧
      after.queue handle = .ok (queue.withPending (some id)) ∧
      after.updates.HoldsRing (some id) (pendingIds ++ [id]) (pending ++ [data]) ∧
      OnlyUpdateQueue handle store after ∧
      Extends (pendingIds ++ [id]) store.updates after.updates := by
  -- Both branches end with the same change of the queue.
  have finish : ∀ linked : UpdateQueueStore, linked.queues = store.queues →
      (linked.changeQueue handle (·.withPending (some id))).queue handle =
        .ok (queue.withPending (some id)) ∧
      OnlyUpdateQueue handle store (linked.changeQueue handle (·.withPending (some id))) := by
    intro linked sameQueues
    have sameQueue : ∀ other, linked.queue other = store.queue other := by
      intro other
      simp only [UpdateQueueStore.queue, sameQueues]
    have linkedFound : linked.queue handle = .ok queue := (sameQueue handle).trans found
    refine ⟨?_, fun other different => ?_⟩
    · rw [queue_changeQueue linkedFound, if_pos rfl]
    · rw [queue_changeQueue linkedFound, if_neg different, sameQueue]
  cases tailShape : queue.shared.pending with
  | none =>
    rw [tailShape] at pendingRing
    obtain rfl : pendingIds = [] := pendingRing.ring
    obtain rfl : pending = [] := pendingRing.eq_none_iff.mp rfl
    have ring : (store.withNext id (some id)).updates.HoldsRing (some id) [id] [data] := by
      refine ⟨⟨.singleton _ id, ?_⟩, .singleton ?_⟩
      · simp [next?_withNext live]
      · simpa using live
    obtain ⟨foundAfter, only⟩ := finish (store.withNext id (some id)) rfl
    exact ⟨_, run_appendPendingRootUpdate_first live found tailShape, foundAfter, ring, only,
      extends_withNext live (some id)⟩
  | some tail =>
    rw [tailShape] at pendingRing
    have ring : IsRing store.updates.next? tail pendingIds := pendingRing.ring
    obtain ⟨head, headShape, -⟩ := ring.exists_head
    have closing : store.updates.next? tail = some head := ring.closed.trans headShape
    obtain ⟨tailData, -, tailLive⟩ := pendingRing.holds.live ring.tail_mem
    have ran := run_appendPendingRootUpdate_behind live found tailShape tailLive
    rw [closing] at ran
    obtain ⟨pushed, extension⟩ := pendingRing.push headShape live notPending
    obtain ⟨foundAfter, only⟩ :=
      finish ((store.withNext id (some head)).withNext tail (some id)) rfl
    exact ⟨_, ran, foundAfter, pushed, only, extension⟩

end Append

theorem RootQueueView.run_appendPendingRootUpdate
    (view : RootQueueView store handle queue baseIds pendingIds base pending) {id : UpdateId}
    {data : RootUpdateData} (live : store.updates.data? id = some data) (notBase : id ∉ baseIds)
    (notPending : id ∉ pendingIds) :
    ∃ after,
      (appendPendingRootUpdate handle id).run store = .ok () after ∧
      RootQueueView after handle (queue.withPending (some id))
        baseIds (pendingIds ++ [id]) base (pending ++ [data]) ∧
      OnlyUpdateQueue handle store after ∧
      Extends (pendingIds ++ [id]) store.updates after.updates := by
  have disjointAfter : baseIds.Disjoint (pendingIds ++ [id]) := by
    rw [List.disjoint_append_right]
    exact ⟨view.disjoint, by simpa using notBase⟩
  obtain ⟨after, ran, foundAfter, ring, only, extension⟩ :=
    run_appendPendingRootUpdate_ring view.found view.pendingRing live notPending
  exact ⟨after, ran,
    ⟨foundAfter, view.basePath.of_extends extension disjointAfter, ring, disjointAfter⟩,
    only, extension⟩

theorem run_appendLinearSegmentToBaseQueue {store : UpdateQueueStore}
    (found : store.queue handle = .ok queue)
    (lastLive : ∀ previous, queue.lastBaseUpdate = some previous →
      ∃ data, store.updates.data? previous = some data)
    (first last : UpdateId) :
    ∃ after,
      (appendLinearSegmentToBaseQueue handle first last).run store = .ok () after ∧
      after.updates =
        (match queue.lastBaseUpdate with
          | none => store.updates
          | some previous => store.updates.withNext previous (some first)) ∧
      after.queue handle = .ok (queue.withBase
        (if queue.lastBaseUpdate = none then some first else queue.firstBaseUpdate)
        (some last)) ∧
      OnlyUpdateQueue handle store after := by
  cases lastShape : queue.lastBaseUpdate with
  | none =>
    have firstFound : (store.changeQueue handle fun queue =>
        { queue with firstBaseUpdate := some first }).queue handle =
          .ok { queue with firstBaseUpdate := some first } := by
      rw [queue_changeQueue found, if_pos rfl]
    refine ⟨(store.changeQueue handle fun queue =>
        { queue with firstBaseUpdate := some first }).changeQueue handle fun queue =>
        { queue with lastBaseUpdate := some last }, ?_, rfl, ?_, ?_⟩
    · simp only [appendLinearSegmentToBaseQueue, run_bind, run_query, found,
        lastShape, run_modifyUpdateQueue found, run_modifyUpdateQueue firstFound]
    · rw [queue_changeQueue firstFound, if_pos rfl]
      rfl
    · intro other different
      rw [queue_changeQueue firstFound, if_neg different, queue_changeQueue found, if_neg different]
  | some previous =>
    obtain ⟨data, live⟩ := lastLive previous lastShape
    have linkedFound : (store.withNext previous (some first)).queue handle = .ok queue := found
    refine ⟨(store.withNext previous (some first)).changeQueue handle fun queue =>
        { queue with lastBaseUpdate := some last }, ?_, rfl, ?_, ?_⟩
    · simp only [appendLinearSegmentToBaseQueue, run_bind, run_query, found,
        lastShape, run_setRootUpdateNext live, run_modifyUpdateQueue linkedFound]
    · rw [queue_changeQueue linkedFound, if_pos rfl]
      rfl
    · exact onlyUpdateQueue_changeQueue linkedFound _

namespace RootQueueView

section

variable (view : RootQueueView store handle queue baseIds pendingIds base pending)
include view

/-- A transfer with pending updates opens their ring, links it behind the base list
and then turns to the current queue. -/
theorem run_transferOpened (currentQueue : Option UpdateQueueHandle) {tail : UpdateId}
    (pendingShape : queue.shared.pending = some tail) :
    ∃ opened head first,
      (transferPendingToBaseQueue handle currentQueue).run store =
        (transferToCurrentQueue handle currentQueue head tail).run opened ∧
      RootQueueView opened handle ((queue.withPending none).withBase first (some tail))
        (baseIds ++ pendingIds) [] (base ++ pending) [] ∧
      first = (if queue.lastBaseUpdate = none then some head else queue.firstBaseUpdate) ∧
      OnlyUpdateQueue handle store opened ∧
      opened.updates = store.updates.linkOpened queue.lastBaseUpdate head tail ∧
      Extends (baseIds ++ pendingIds) store.updates opened.updates ∧
      pendingIds.head? = some head := by
  have pendingRing := view.pendingRing
  rw [pendingShape] at pendingRing
  have ring : IsRing store.updates.next? tail pendingIds := pendingRing.ring
  obtain ⟨head, headShape, -⟩ := ring.exists_head
  have closing : store.updates.next? tail = some head := ring.closed.trans headShape
  obtain ⟨tailData, -, tailLive⟩ := pendingRing.holds.live ring.tail_mem
  obtain ⟨path, extension⟩ := view.basePath.append_ring pendingRing view.disjoint headShape
  have clearedFound :
      (store.changeQueue handle (·.withPending none)).queue handle =
        .ok (queue.withPending none) := by
    rw [queue_changeQueue view.found, if_pos rfl]
  have cutFound :
      ((store.changeQueue handle (·.withPending none)).withNext tail none).queue handle =
        .ok (queue.withPending none) := clearedFound
  have lastLive : ∀ previous, (queue.withPending none).lastBaseUpdate = some previous →
      ∃ data, ((store.changeQueue handle (·.withPending none)).withNext
        tail none).updates.data? previous = some data := by
    intro previous shape
    have basePath := view.basePath.path
    rw [show queue.lastBaseUpdate = some previous from shape] at basePath
    obtain ⟨data, -, live⟩ := view.basePath.holds.live basePath.1.tail_mem
    exact ⟨data, by simpa using live⟩
  obtain ⟨opened, appended, openedUpdates, openedFound, openedOnly⟩ :=
    run_appendLinearSegmentToBaseQueue cutFound lastLive head tail
  have updatesShape :
      opened.updates = store.updates.linkOpened queue.lastBaseUpdate head tail := by
    rw [openedUpdates]
    change (match queue.lastBaseUpdate with
      | none => _
      | some previous => _) = _
    cases queue.lastBaseUpdate <;> rfl
  have firstShape :
      (if queue.lastBaseUpdate = none then some head else queue.firstBaseUpdate) =
        queue.firstBaseUpdate.or (some head) := by
    cases lastShape : queue.lastBaseUpdate with
    | none =>
      have basePath := view.basePath.path
      rw [lastShape] at basePath
      rw [if_pos rfl, basePath.1]
      rfl
    | some previous =>
      have basePath := view.basePath.path
      rw [lastShape] at basePath
      obtain ⟨pathHead, pathHeadShape, -⟩ := basePath.1.exists_head
      rw [if_neg (Option.some_ne_none previous), basePath.2.1, pathHeadShape]
      rfl
  refine ⟨opened, head, _, ?_, ⟨openedFound, ?_, ⟨rfl, rfl⟩, by simp⟩, rfl, ?_,
    updatesShape, ?_, headShape⟩
  · simp only [transferPendingToBaseQueue, run_bind, run_query, view.found, pendingShape]
    have ranClear : (modifyUpdateQueue handle fun queue =>
        { queue with shared := { queue.shared with pending := none } }).run store =
          .ok () (store.changeQueue handle (·.withPending none)) :=
      run_modifyUpdateQueue view.found _
    have tailLiveCleared :
        (store.changeQueue handle (·.withPending none)).updates.data? tail =
          some tailData := tailLive
    have closingCleared :
        (store.changeQueue handle (·.withPending none)).updates.next? tail = some head := closing
    simp only [ranClear, update_eq_ok tailLiveCleared, closingCleared, run_bind,
      run_setRootUpdateNext tailLiveCleared, appended]
  · rw [updatesShape]
    change HoldsPath _ (if queue.lastBaseUpdate = none then some head
      else queue.firstBaseUpdate) (some tail) _ _
    rw [firstShape]
    exact path
  · intro other different
    rw [openedOnly other different]
    exact onlyUpdateQueue_changeQueue view.found _ other different
  · rw [updatesShape]
    exact extension

theorem run_transfer {currentQueue : Option UpdateQueueHandle}
    (own : currentQueue = none ∨ currentQueue = some handle) :
    ∃ after first last,
      (transferPendingToBaseQueue handle currentQueue).run store = .ok () after ∧
      RootQueueView after handle ((queue.withPending none).withBase first last)
        (baseIds ++ pendingIds) [] (base ++ pending) [] ∧
      OnlyUpdateQueue handle store after ∧
      Extends (baseIds ++ pendingIds) store.updates after.updates := by
  cases pendingShape : queue.shared.pending with
  | none =>
    have pendingRing := view.pendingRing
    rw [pendingShape] at pendingRing
    obtain rfl : pendingIds = [] := pendingRing.ring
    obtain rfl : pending = [] := pendingRing.eq_none_iff.mp rfl
    have sameQueue :
        (queue.withPending none).withBase queue.firstBaseUpdate queue.lastBaseUpdate = queue := by
      unfold withPending withBase
      rw [← pendingShape]
    refine ⟨store, queue.firstBaseUpdate, queue.lastBaseUpdate, ?_, ?_, fun _ _ => rfl,
      (Extends.refl store.updates).mono (by simp)⟩
    · simp [transferPendingToBaseQueue, view.found, pendingShape]
    · rw [sameQueue]
      simpa using view
  | some tail =>
    obtain ⟨opened, head, first, ran, viewAfter, -, only, -, extension, -⟩ :=
      view.run_transferOpened currentQueue pendingShape
    refine ⟨opened, first, some tail, ?_, viewAfter, only, extension⟩
    rw [ran]
    rcases own with rfl | rfl
    · rfl
    · simp [transferToCurrentQueue]

/-- Transferring in a queue that shares its lists with the current queue moves the
pending updates of both. -/
theorem run_transferShared
    {current : UpdateQueueHandle} {currentEntry : UpdateQueue} (different : current ≠ handle)
    (currentFound : store.queue current = .ok currentEntry)
    (sameFirst : currentEntry.firstBaseUpdate = queue.firstBaseUpdate)
    (sameLast : currentEntry.lastBaseUpdate = queue.lastBaseUpdate)
    (samePending : currentEntry.shared.pending = queue.shared.pending) :
    ∃ after first last,
      (transferPendingToBaseQueue handle (some current)).run store = .ok () after ∧
      RootQueueView after handle ((queue.withPending none).withBase first last)
        (baseIds ++ pendingIds) [] (base ++ pending) [] ∧
      RootQueueView after current ((currentEntry.withPending none).withBase first last)
        (baseIds ++ pendingIds) [] (base ++ pending) [] ∧
      (∀ other, other ≠ handle → other ≠ current → after.queue other = store.queue other) ∧
      Extends (baseIds ++ pendingIds) store.updates after.updates := by
  cases pendingShape : queue.shared.pending with
  | none =>
    obtain ⟨pendingRing, -⟩ : store.updates.HoldsRing none pendingIds pending ∧ True :=
      ⟨pendingShape ▸ view.pendingRing, trivial⟩
    obtain rfl : pendingIds = [] := pendingRing.ring
    obtain rfl : pending = [] := pendingRing.eq_none_iff.mp rfl
    have unchanged : ∀ entry : UpdateQueue, entry.shared.pending = none →
        (entry.withPending none).withBase entry.firstBaseUpdate entry.lastBaseUpdate = entry := by
      intro entry noPending
      unfold withPending withBase
      rw [← noPending]
    have currentNoPending := samePending.trans pendingShape
    refine ⟨store, queue.firstBaseUpdate, queue.lastBaseUpdate, ?_, ?_, ?_,
      fun _ _ _ => rfl, (Extends.refl store.updates).mono (by simp)⟩
    · simp [transferPendingToBaseQueue, view.found, pendingShape]
    · rw [unchanged queue pendingShape]
      simpa using view
    · rw [← sameFirst, ← sameLast, unchanged currentEntry currentNoPending]
      refine ⟨currentFound, ?_, ?_, by simp⟩
      · rw [sameFirst, sameLast]
        simpa using view.basePath
      · rw [currentNoPending]
        exact ⟨rfl, rfl⟩
  | some tail =>
    obtain ⟨opened, head, first, ran, openedView, firstShape, only, openedUpdates,
      extension, -⟩ := view.run_transferOpened (some current) pendingShape
    have openedCurrent : opened.queue current = .ok currentEntry :=
      (only current different).trans currentFound
    have currentPending : currentEntry.shared.pending = some tail := samePending.trans pendingShape
    have clearedCurrent :
        (opened.changeQueue current (·.withPending none)).queue current =
          .ok (currentEntry.withPending none) := by
      rw [queue_changeQueue openedCurrent, if_pos rfl]
    have tailPending : tail ∈ pendingIds := by
      have pendingRing := view.pendingRing.ring
      rw [pendingShape] at pendingRing
      exact IsSegment.tail_mem pendingRing.toIsSegment
    have lastNotTail : currentEntry.lastBaseUpdate ≠ some tail := by
      intro lastShape
      have basePath := view.basePath.path
      rw [← sameLast, lastShape] at basePath
      exact view.disjoint basePath.1.tail_mem tailPending
    -- The base list of the current queue already ends in the linked segment.
    have previousLinked : ∀ previous, currentEntry.lastBaseUpdate = some previous →
        ∃ data, opened.updates.data? previous = some data ∧
          opened.updates.next? previous = some head := by
      intro previous lastShape
      have basePath := view.basePath.path
      rw [← sameLast, lastShape] at basePath
      obtain ⟨data, -, live⟩ := view.basePath.holds.live basePath.1.tail_mem
      refine ⟨data, extension.data previous data live, ?_⟩
      obtain ⟨tailData, -, tailLive⟩ := view.pendingRing.holds.live tailPending
      have previousLive : (store.updates.withNext tail none).data? previous =
          some data := by
        simpa using live
      rw [openedUpdates, ← sameLast, lastShape]
      change ((store.updates.withNext tail none).withNext previous (some head)).next?
        previous = some head
      rw [next?_withNext previousLive, if_pos rfl]
    obtain ⟨after, appended, afterUpdates, afterCurrent, afterOnly⟩ :=
      run_appendLinearSegmentToBaseQueue clearedCurrent
        (fun previous shape => by
          obtain ⟨data, live, -⟩ := previousLinked previous shape
          exact ⟨data, live⟩) head tail
    have sameArena : Extends [] opened.updates after.updates := by
      rw [afterUpdates]
      change Extends [] _ (match currentEntry.lastBaseUpdate with
        | none => opened.updates
        | some previous => opened.updates.withNext previous (some head))
      cases lastShape : currentEntry.lastBaseUpdate with
      | none => exact .refl opened.updates
      | some previous =>
        obtain ⟨data, live, linked⟩ := previousLinked previous lastShape
        exact extends_withNext_same live linked
    have afterPath := openedView.basePath.of_extends sameArena (List.disjoint_nil_right _)
    refine ⟨after, first, some tail, ?_, ?_, ?_, ?_, ?_⟩
    · rw [ran]
      have ranClear : (modifyUpdateQueue current fun queue =>
          { queue with shared := { queue.shared with pending := none } }).run opened =
            .ok () (opened.changeQueue current (·.withPending none)) :=
        run_modifyUpdateQueue openedCurrent _
      have lastTest : (currentEntry.withPending none).lastBaseUpdate ≠ some tail := lastNotTail
      simp only [transferToCurrentQueue, if_neg different, run_bind, run_query, openedCurrent,
        currentPending, if_true, ranClear, clearedCurrent, if_neg lastTest, appended]
    · refine ⟨?_, afterPath, ⟨rfl, rfl⟩, by simp⟩
      rw [afterOnly handle different.symm, queue_changeQueue openedCurrent, if_neg different.symm]
      exact openedView.found
    · have currentFirst : (if (currentEntry.withPending none).lastBaseUpdate = none then
          some head else (currentEntry.withPending none).firstBaseUpdate) = first := by
        rw [firstShape, ← sameLast, ← sameFirst]
        rfl
      rw [currentFirst] at afterCurrent
      exact ⟨afterCurrent, afterPath, ⟨rfl, rfl⟩, by simp⟩
    · intro other notHandle notCurrent
      rw [afterOnly other notCurrent, queue_changeQueue openedCurrent, if_neg notCurrent]
      exact only other notHandle
    · simpa using extension.trans sameArena

end

end RootQueueView

section Loop

variable {renderLanes rootRenderLanes : Lanes} {update : RootUpdateData}
  {handled : List RootUpdateData}

theorem rebasedUpdates_append_skipped
    (skipped : update.isSkipped renderLanes rootRenderLanes = true) :
    rebasedUpdates renderLanes rootRenderLanes (handled ++ [update]) =
      rebasedUpdates renderLanes rootRenderLanes handled ++
        [update.rebased renderLanes rootRenderLanes] := by
  unfold rebasedUpdates
  by_cases nothing : postponed (isSkipped renderLanes rootRenderLanes) handled = []
  · rw [postponed_append_of_eq_nil nothing, nothing]
    simp [postponed, skipped]
  · rw [postponed_append_of_ne_nil nothing, List.map_append]
    rfl

theorem rebasedUpdates_append_applied
    (applied : update.isSkipped renderLanes rootRenderLanes = false) :
    rebasedUpdates renderLanes rootRenderLanes (handled ++ [update]) =
      if rebasedUpdates renderLanes rootRenderLanes handled = [] then []
      else rebasedUpdates renderLanes rootRenderLanes handled ++
        [update.rebased renderLanes rootRenderLanes] := by
  unfold rebasedUpdates
  by_cases nothing : postponed (isSkipped renderLanes rootRenderLanes) handled = []
  · rw [postponed_append_of_eq_nil nothing, nothing]
    simp [postponed, applied]
  · rw [postponed_append_of_ne_nil nothing, List.map_append, if_neg (by simpa using nothing)]
    rfl

theorem rebasedUpdates_eq_nil_iff :
    rebasedUpdates renderLanes rootRenderLanes handled = [] ↔
      postponed (isSkipped renderLanes rootRenderLanes) handled = [] := by
  simp [rebasedUpdates]

section

variable (baseState : HostRootState)

theorem rebasedRootState_eq_rendered
    (nothing : rebasedUpdates renderLanes rootRenderLanes handled = []) :
    rebasedRootState renderLanes rootRenderLanes baseState handled =
      renderedRootState renderLanes rootRenderLanes baseState handled := by
  unfold rebasedRootState renderedRootState
  rw [settled_eq_self (rebasedUpdates_eq_nil_iff.mp nothing)]

theorem rebasedRootState_append
    (something : rebasedUpdates renderLanes rootRenderLanes handled ≠ []) :
    rebasedRootState renderLanes rootRenderLanes baseState (handled ++ [update]) =
      rebasedRootState renderLanes rootRenderLanes baseState handled := by
  unfold rebasedRootState
  rw [settled_append_of_ne_nil (fun nothing => something (rebasedUpdates_eq_nil_iff.mpr nothing))]

theorem rebasedRootState_append_first
    (nothing : rebasedUpdates renderLanes rootRenderLanes handled = [])
    (skipped : update.isSkipped renderLanes rootRenderLanes = true) :
    rebasedRootState renderLanes rootRenderLanes baseState (handled ++ [update]) =
      renderedRootState renderLanes rootRenderLanes baseState handled := by
  unfold rebasedRootState renderedRootState
  rw [settled_append_of_eq_nil (rebasedUpdates_eq_nil_iff.mp nothing)]
  simp [settled, skipped]

end

theorem collectedCallbacks_append {ids : List UpdateId} (sameLength : ids.length = handled.length)
    (id : UpdateId) :
    collectedCallbacks renderLanes rootRenderLanes (ids ++ [id]) (handled ++ [update]) =
      collectedCallbacks renderLanes rootRenderLanes ids handled ++
        if update.isCollected renderLanes rootRenderLanes then [collected id update]
        else [] := by
  unfold collectedCallbacks
  rw [List.zip_append sameLength, List.filter_append, List.map_append]
  congr 1
  cases shape : update.isCollected renderLanes rootRenderLanes <;> simp [shape]

/-- The local variables of the loop after a list of handled updates. -/
structure RootPassTracks (renderLanes rootRenderLanes : Lanes) (baseState : HostRootState)
    (handled : List RootUpdateData)
    (pass : RootQueuePass) : Prop where
  state :
    pass.newState = renderedRootState renderLanes rootRenderLanes baseState handled
  baseState :
    pass.newBaseState =
      if rebasedUpdates renderLanes rootRenderLanes handled = [] then none
      else some (rebasedRootState renderLanes rootRenderLanes baseState handled)
  lanes : pass.newLanes = leftoverRootLanes renderLanes rootRenderLanes handled
  applied :
    pass.appliedUpdateCount =
      handled.countP fun update => !update.isSkipped renderLanes rootRenderLanes
  skipped :
    pass.skippedUpdateCount = handled.countP (isSkipped renderLanes rootRenderLanes)

/-- The loop has handled some updates: the callbacks of the applied ones are
collected, and the rebased ones are a path of new nodes. -/
structure RootPassReached (renderLanes rootRenderLanes : Lanes) (handle : UpdateQueueHandle)
    (queue : UpdateQueue) (start : UpdateQueueStore) (handledIds : List UpdateId)
    (handled : List RootUpdateData) (pass : RootQueuePass) (clones : List UpdateId)
    (store : UpdateQueueStore) : Prop where
  held : start.updates.Holds handledIds handled
  tracks : RootPassTracks renderLanes rootRenderLanes queue.baseState handled pass
  found : store.queue handle = .ok { queue with
    callbacks := queue.callbacks ++
      collectedCallbacks renderLanes rootRenderLanes handledIds handled }
  only : OnlyUpdateQueue handle start store
  path : NewPath start.updates store.updates pass.newFirstBaseUpdate
    pass.newLastBaseUpdate clones (rebasedUpdates renderLanes rootRenderLanes handled)

theorem UpdateQueueStore.queue_of_queues_eq {store after : UpdateQueueStore}
    (same : after.queues = store.queues) (handle : UpdateQueueHandle) :
    after.queue handle = store.queue handle := by
  simp only [UpdateQueueStore.queue, same]

theorem run_insertClone {start store : UpdateQueueStore} {first last : Option UpdateId}
    {clones : List UpdateId} {datas : List RootUpdateData}
    (path : NewPath start.updates store.updates first last clones datas) {clone : RootUpdate}
    (unlinked : clone.next = none) :
    ∃ id allocated,
      (insertRootUpdate clone).run store = .ok id allocated ∧
      allocated.queues = store.queues ∧
      (last = none →
        NewPath start.updates allocated.updates (some id) (some id) (clones ++ [id])
          (datas ++ [clone.data])) ∧
      (∀ tail, last = some tail →
        (setRootUpdateNext tail (some id)).run allocated =
          .ok () (allocated.withNext tail (some id)) ∧
        NewPath start.updates (allocated.withNext tail (some id)).updates first (some id)
          (clones ++ [id]) (datas ++ [clone.data])) := by
  obtain ⟨id, allocated, inserted, isNew, found, sameQueues, kept⟩ :=
    run_insertRootUpdate store clone
  have live : allocated.updates.data? id = some clone.data := by simp [data?, found]
  have idUnlinked : allocated.updates.next? id = none := by simp [next?, found, unlinked]
  have extension : Extends [id] store.updates allocated.updates := kept.mono (by simp)
  refine ⟨id, allocated, inserted, sameQueues, ?_, ?_⟩
  · rintro rfl
    exact path.push_first isNew live idUnlinked extension
  · rintro tail rfl
    obtain ⟨tailData, -, tailLive⟩ := path.holds.holds.live path.holds.path.1.tail_mem
    exact ⟨run_setRootUpdateNext (extension.data tail tailData tailLive) _,
      path.push_behind isNew live idUnlinked extension⟩

namespace RootPassTracks

variable {baseState : HostRootState} {pass pass' : RootQueuePass}

section

variable (tracks : RootPassTracks renderLanes rootRenderLanes baseState handled pass)
include tracks

theorem append_skipped (skipped : update.isSkipped renderLanes rootRenderLanes = true)
    (state : pass'.newState = pass.newState)
    (baseStateShape :
      pass'.newBaseState =
        if rebasedUpdates renderLanes rootRenderLanes handled = [] then some pass.newState
        else pass.newBaseState)
    (lanes : pass'.newLanes = pass.newLanes.merge update.priorityLanes)
    (appliedCount : pass'.appliedUpdateCount = pass.appliedUpdateCount)
    (skippedCount : pass'.skippedUpdateCount = pass.skippedUpdateCount + 1) :
    RootPassTracks renderLanes rootRenderLanes baseState (handled ++ [update]) pass' where
  state := by
    rw [state, tracks.state]
    simp [renderedRootState, effect, skipped]
  baseState := by
    have copied :
        rebasedUpdates renderLanes rootRenderLanes (handled ++ [update]) ≠ [] := by
      simp [rebasedUpdates_append_skipped skipped]
    rw [baseStateShape, tracks.baseState, tracks.state, if_neg copied]
    by_cases nothing : rebasedUpdates renderLanes rootRenderLanes handled = []
    · rw [if_pos nothing, rebasedRootState_append_first baseState nothing skipped]
    · rw [if_neg nothing, if_neg nothing, rebasedRootState_append baseState nothing]
  lanes := by
    rw [lanes, tracks.lanes]
    simp [leftoverRootLanes, leftover, skipped]
  applied := by
    rw [appliedCount, tracks.applied]
    simp [List.countP_append, skipped]
  skipped := by
    rw [skippedCount, tracks.skipped]
    simp [List.countP_append, skipped]

theorem append_applied (applied : update.isSkipped renderLanes rootRenderLanes = false)
    (state : pass'.newState = applyRootUpdate pass.newState update)
    (baseStateShape : pass'.newBaseState = pass.newBaseState)
    (lanes : pass'.newLanes = pass.newLanes)
    (appliedCount : pass'.appliedUpdateCount = pass.appliedUpdateCount + 1)
    (skippedCount : pass'.skippedUpdateCount = pass.skippedUpdateCount) :
    RootPassTracks renderLanes rootRenderLanes baseState (handled ++ [update]) pass' where
  state := by
    rw [state, tracks.state]
    simp [renderedRootState, effect, applied]
  baseState := by
    rw [baseStateShape, tracks.baseState, rebasedUpdates_append_applied applied]
    by_cases nothing : rebasedUpdates renderLanes rootRenderLanes handled = []
    · simp [nothing]
    · simp [nothing, rebasedRootState_append baseState nothing]
  lanes := by
    rw [lanes, tracks.lanes]
    simp [leftoverRootLanes, leftover, applied]
  applied := by
    rw [appliedCount, tracks.applied]
    simp [List.countP_append, applied]
  skipped := by
    rw [skippedCount, tracks.skipped]
    simp [List.countP_append, applied]

end

end RootPassTracks

/-- One round of the loop handles one more update as the specification says. -/
theorem RootPassReached.run_processRootUpdate {handle : UpdateQueueHandle} {queue : UpdateQueue}
    {start store : UpdateQueueStore} {handledIds clones : List UpdateId} {pass : RootQueuePass}
    {id : UpdateId}
    (reached : RootPassReached renderLanes rootRenderLanes handle queue start handledIds
      handled pass clones store)
    (live : start.updates.data? id = some update)
    (next : Option UpdateId) :
    ∃ pass' clones' after,
      (processRootUpdate handle renderLanes rootRenderLanes pass id ⟨update, next⟩).run
        store = .ok pass' after ∧
      RootPassReached renderLanes rootRenderLanes handle queue start (handledIds ++ [id])
        (handled ++ [update]) pass' clones' after := by
  have held := reached.held.append (.singleton live)
  have callbacksShape := fun update : RootUpdateData =>
    @collectedCallbacks_append renderLanes rootRenderLanes update handled handledIds
      reached.held.length_eq id
  have lastNone : pass.newLastBaseUpdate = none ↔
      rebasedUpdates renderLanes rootRenderLanes handled = [] :=
    reached.path.last_eq_none_iff
  cases skippedShape : update.isSkipped renderLanes rootRenderLanes with
  | true =>
    have test : (!(update.lane.removeLane offscreen).isSubsetOf
        (if update.lane.removeLane offscreen != update.lane then rootRenderLanes
          else renderLanes)) = true := skippedShape
    have notCollected : update.isCollected renderLanes rootRenderLanes = false := by
      simp [isCollected, skippedShape]
    have copyShape : update.rebased renderLanes rootRenderLanes =
        { update with lane := update.priorityLanes } := by
      simp [rebased, skippedShape]
    obtain ⟨cloneId, allocated, inserted, sameQueues, pushedFirst, pushedBehind⟩ :=
      run_insertClone reached.path (show (RootUpdate.cloneWithLaneAndCallback
        ⟨update, next⟩ (update.lane.removeLane offscreen)
        update.callback).next = none from rfl)
    have pathShape := @rebasedUpdates_append_skipped _ _ _ handled skippedShape
    rw [copyShape] at pathShape
    have foundAfter : ∀ after : UpdateQueueStore, after.queues = allocated.queues →
        after.queue handle = .ok { queue with
          callbacks := queue.callbacks ++ collectedCallbacks renderLanes rootRenderLanes
            (handledIds ++ [id]) (handled ++ [update]) } := by
      intro after same
      rw [callbacksShape, notCollected, queue_of_queues_eq (same.trans sameQueues), reached.found]
      simp
    have onlyAfter : ∀ after : UpdateQueueStore, after.queues = allocated.queues →
        OnlyUpdateQueue handle start after := by
      intro after same other different
      rw [queue_of_queues_eq (same.trans sameQueues)]
      exact reached.only other different
    cases lastShape : pass.newLastBaseUpdate with
    | none =>
      refine ⟨{ pass with
          newLanes := pass.newLanes.merge update.priorityLanes
          skippedUpdateCount := pass.skippedUpdateCount + 1
          newFirstBaseUpdate := some cloneId
          newBaseState := some pass.newState
          newLastBaseUpdate := some cloneId },
        clones ++ [cloneId], allocated, ?_, held, ?_, foundAfter allocated rfl,
        onlyAfter allocated rfl, ?_⟩
      · simp only [processRootUpdate, test, if_true, run_bind, inserted, lastShape, run_pure]
        rfl
      · apply reached.tracks.append_skipped skippedShape <;> simp [lastNone.mp lastShape]
      · rw [pathShape]
        exact pushedFirst lastShape
    | some last =>
      obtain ⟨linked, path⟩ := pushedBehind last lastShape
      have something : rebasedUpdates renderLanes rootRenderLanes handled ≠ [] := by
        simp [← lastNone, lastShape]
      refine ⟨{ pass with
          newLanes := pass.newLanes.merge update.priorityLanes
          skippedUpdateCount := pass.skippedUpdateCount + 1
          newLastBaseUpdate := some cloneId },
        clones ++ [cloneId], allocated.withNext last (some cloneId), ?_, held,
        ?_, foundAfter _ rfl, onlyAfter _ rfl, ?_⟩
      · simp only [processRootUpdate, test, if_true, run_bind, inserted,
          lastShape, linked, run_pure]
        rfl
      · apply reached.tracks.append_skipped skippedShape <;> simp [something]
      · rw [pathShape]
        exact path
  | false =>
    have test : (!(update.lane.removeLane offscreen).isSubsetOf
        (if update.lane.removeLane offscreen != update.lane then rootRenderLanes
          else renderLanes)) = false := skippedShape
    have collectedShape : update.isCollected renderLanes rootRenderLanes =
        update.callback.isSome := by
      simp [isCollected, skippedShape]
    have copyShape : update.rebased renderLanes rootRenderLanes =
        { update with lane := Lanes.no, callback := .none } := by
      simp [rebased, skippedShape]
    -- The callback is recorded after the copy, if any, has been linked.
    have finish : ∀ (linked : UpdateQueueStore) (pass' : RootQueuePass),
        linked.queues = store.queues →
        ∃ after,
          (do
            if update.callback.isSome then
              modifyUpdateQueue handle fun queue =>
                { queue with callbacks := queue.callbacks ++
                  [{ update := id
                     callback := update.callback
                     hidden := update.lane.removeLane offscreen != update.lane }] }
            return pass' : UpdateQueueM RootQueuePass).run linked = .ok pass' after ∧
          after.updates = linked.updates ∧
          after.queue handle = .ok { queue with
            callbacks := queue.callbacks ++ collectedCallbacks renderLanes
              rootRenderLanes (handledIds ++ [id]) (handled ++ [update]) } ∧
          OnlyUpdateQueue handle start after := by
      intro linked pass' sameQueues
      have linkedFound := (queue_of_queues_eq sameQueues handle).trans reached.found
      have linkedOnly : OnlyUpdateQueue handle start linked := by
        intro other different
        rw [queue_of_queues_eq sameQueues]
        exact reached.only other different
      cases hasCallback : update.callback.isSome with
      | false =>
        refine ⟨linked, rfl, rfl, ?_, linkedOnly⟩
        rw [linkedFound, callbacksShape, collectedShape, hasCallback]
        simp
      | true =>
        refine ⟨linked.changeQueue handle fun queue =>
          { queue with callbacks := queue.callbacks ++
            [{ update := id
               callback := update.callback
               hidden := update.lane.removeLane offscreen != update.lane }] },
          ?_, rfl, ?_, ?_⟩
        · simp only [if_true, run_bind, run_modifyUpdateQueue linkedFound, run_pure]
        · rw [queue_changeQueue linkedFound, if_pos rfl, callbacksShape,
            collectedShape, hasCallback]
          simp [collected, isHidden, priorityLanes]
        · intro other different
          rw [queue_changeQueue linkedFound, if_neg different]
          exact linkedOnly other different
    cases lastShape : pass.newLastBaseUpdate with
    | none =>
      have nothing := lastNone.mp lastShape
      obtain ⟨after, ran, sameUpdates, foundAfter, onlyAfter⟩ :=
        finish store { pass with
          newState := applyRootUpdate pass.newState update
          appliedUpdateCount := pass.appliedUpdateCount + 1 } rfl
      refine ⟨{ pass with
          newState := applyRootUpdate pass.newState update
          appliedUpdateCount := pass.appliedUpdateCount + 1 },
        clones, after, ?_, held, ?_, foundAfter, onlyAfter, ?_⟩
      · simp only [processRootUpdate, test, Bool.false_eq_true, if_false,
          run_bind, lastShape, run_pure]
        rw [lastShape] at ran
        exact ran
      · apply reached.tracks.append_applied skippedShape <;> rfl
      · rw [rebasedUpdates_append_applied skippedShape, if_pos nothing, sameUpdates, ← nothing]
        exact reached.path
    | some last =>
      have something : rebasedUpdates renderLanes rootRenderLanes handled ≠ [] := by
        simp [← lastNone, lastShape]
      obtain ⟨cloneId, allocated, inserted, sameQueues, -, pushedBehind⟩ :=
        run_insertClone reached.path (show (RootUpdate.cloneWithLaneAndCallback
          ⟨update, next⟩ Lanes.no .none).next = none from rfl)
      obtain ⟨linked, path⟩ := pushedBehind last lastShape
      obtain ⟨after, ran, sameUpdates, foundAfter, onlyAfter⟩ :=
        finish (allocated.withNext last (some cloneId)) { pass with
          newState := applyRootUpdate pass.newState update
          newLastBaseUpdate := some cloneId
          appliedUpdateCount := pass.appliedUpdateCount + 1 } sameQueues
      refine ⟨{ pass with
          newState := applyRootUpdate pass.newState update
          newLastBaseUpdate := some cloneId
          appliedUpdateCount := pass.appliedUpdateCount + 1 },
        clones ++ [cloneId], after, ?_, held, ?_, foundAfter, onlyAfter, ?_⟩
      · simp only [processRootUpdate, test, Bool.false_eq_true, if_false,
          run_bind, lastShape, inserted, linked, run_pure]
        exact ran
      · apply reached.tracks.append_applied skippedShape <;> rfl
      · rw [rebasedUpdates_append_applied skippedShape, if_neg something, copyShape, sameUpdates]
        exact path

/-- The loop from any point of the base list to its end. -/
theorem run_processRootUpdates {handle : UpdateQueueHandle} {queue : UpdateQueue}
    {start : UpdateQueueStore} {ids : List UpdateId} {updates : List RootUpdateData}
    (view : RootQueueView start handle queue ids [] updates []) (restIds : List UpdateId) :
    ∀ (handledIds : List UpdateId) (handled rest : List RootUpdateData)
      (pass : RootQueuePass) (clones : List UpdateId) (store : UpdateQueueStore)
      (rounds : Nat),
      ids = handledIds ++ restIds →
      updates = handled ++ rest →
      restIds.length ≤ rounds →
      RootPassReached renderLanes rootRenderLanes handle queue start handledIds handled
        pass clones store →
      ∃ pass' clones' after,
        (processRootUpdates handle renderLanes rootRenderLanes rounds restIds.head?
          pass).run store = .ok pass' after ∧
        RootPassReached renderLanes rootRenderLanes handle queue start ids updates
          pass' clones' after := by
  have noPending : queue.shared.pending = none := view.pendingRing.eq_none_iff.mpr rfl
  induction restIds with
  | nil =>
    intro handledIds handled rest pass clones store rounds idsShape updatesShape _ reached
    rw [List.append_nil] at idsShape
    subst idsShape
    obtain rfl := reached.held.unique view.basePath.holds
    refine ⟨pass, clones, store, ?_, reached⟩
    cases rounds <;> rfl
  | cons id restIds ih =>
    intro handledIds handled rest pass clones store rounds idsShape updatesShape enough reached
    obtain ⟨rounds, rfl⟩ : ∃ fewer, rounds = fewer + 1 := by
      refine Nat.exists_eq_add_one.mpr ?_
      simp only [List.length_cons] at enough
      omega
    obtain ⟨update, later, rfl⟩ : ∃ update later, rest = update :: later := by
      have sameLength := view.basePath.holds.length_eq
      have handledLength := reached.held.length_eq
      cases rest with
      | nil => simp [idsShape, updatesShape, handledLength] at sameLength
      | cons update later => exact ⟨update, later, rfl⟩
    have live : start.updates.data? id = some update := by
      have held := view.basePath.holds
      rw [idsShape, updatesShape, Holds, List.map_append, List.map_append, reached.held] at held
      exact (List.cons.inj (List.append_cancel_left held)).1
    have nextShape : start.updates.next? id = restIds.head? := by
      have path := view.basePath.path
      rw [idsShape] at path
      exact path.next_eq
    obtain ⟨pass', clones', after, stepped, reached'⟩ :=
      reached.run_processRootUpdate live restIds.head?
    -- The nodes of the base list keep their links while copies are made.
    have resolved : ∀ {pass clones handledIds handled store},
        RootPassReached renderLanes rootRenderLanes handle queue start handledIds handled
          pass clones store →
        store.update id = .ok ⟨update, restIds.head?⟩ := by
      intro pass clones handledIds handled store reached
      rw [update_eq_ok (reached.path.kept.data id update live),
        reached.path.kept.links id update live List.not_mem_nil, nextShape]
    obtain ⟨lastPass, lastClones, last, finished, reachedEnd⟩ :=
      ih (handledIds ++ [id]) (handled ++ [update]) later pass' clones'
        after rounds (by simp [idsShape]) (by simp [updatesShape])
        (by simpa using enough) reached'
    refine ⟨lastPass, lastClones, last, ?_, reachedEnd⟩
    cases restIds with
    | nil =>
      have noTransfer : (transferPendingToBaseQueue handle none).run after =
          .ok () after := by
        simp [transferPendingToBaseQueue, reached'.found, noPending]
      have resolvedBefore := resolved reached
      have resolvedAfter := resolved reached'
      simp only [List.head?_nil] at resolvedBefore resolvedAfter stepped
      simp only [List.head?_nil, processRootUpdates] at finished
      simp only [List.head?_cons, processRootUpdates, run_bind, run_query,
        resolvedBefore, stepped, noTransfer, resolvedAfter]
      exact finished
    | cons other others =>
      have resolvedBefore := resolved reached
      simp only [List.head?_cons] at resolvedBefore stepped finished
      simp only [List.head?_cons, processRootUpdates, run_bind, run_query, resolvedBefore, stepped]
      exact finished

end Loop

/-- What a pass over a list of updates reports. -/
def rootPassResult (renderLanes rootRenderLanes : Lanes) (baseState : HostRootState)
    (updates : List RootUpdateData) : ProcessUpdateQueueResult where
  memoizedState := renderedRootState renderLanes rootRenderLanes baseState updates
  remainingLanes := leftoverRootLanes renderLanes rootRenderLanes updates
  appliedUpdateCount :=
    updates.countP fun update => !update.isSkipped renderLanes rootRenderLanes
  skippedUpdateCount := updates.countP (isSkipped renderLanes rootRenderLanes)

/-- The queue after a pass over a list of updates. -/
def UpdateQueue.processed (queue : UpdateQueue) (renderLanes rootRenderLanes : Lanes)
    (ids : List UpdateId) (updates : List RootUpdateData)
    (first last : Option UpdateId) : UpdateQueue where
  baseState := rebasedRootState renderLanes rootRenderLanes queue.baseState updates
  firstBaseUpdate := first
  lastBaseUpdate := last
  shared :=
    { queue.shared with
      pending := none
      lanes := if first.isNone then Lanes.no else queue.shared.lanes }
  callbacks :=
    queue.callbacks ++ collectedCallbacks renderLanes rootRenderLanes ids updates

/-- The pass behind the transfer handles the whole base list. -/
theorem run_processTransferred {store opened : UpdateQueueStore}
    {currentQueue : Option UpdateQueueHandle} {ids : List UpdateId} {updates : List RootUpdateData}
    (renderLanes rootRenderLanes : Lanes)
    (transferred : (transferPendingToBaseQueue handle currentQueue).run store = .ok () opened)
    (view : RootQueueView opened handle queue ids [] updates []) :
    ∃ first last clones after,
      (processHostRootUpdateQueue handle currentQueue renderLanes rootRenderLanes).run
        store = .ok (rootPassResult renderLanes rootRenderLanes queue.baseState updates) after ∧
      RootQueueView after handle
        (queue.processed renderLanes rootRenderLanes ids updates first last)
        clones [] (rebasedUpdates renderLanes rootRenderLanes updates) [] ∧
      OnlyUpdateQueue handle opened after ∧
      Extends [] opened.updates after.updates ∧
      ∀ id ∈ clones, opened.updates.data? id = none := by
  have noPending : queue.shared.pending = none := view.pendingRing.eq_none_iff.mpr rfl
  have initially : RootPassReached renderLanes rootRenderLanes handle queue opened [] []
      (RootQueuePass.start queue.baseState) [] opened := by
    refine ⟨rfl, ⟨rfl, rfl, rfl, rfl, rfl⟩, ?_, fun _ _ => rfl, .nil opened.updates⟩
    rw [view.found]
    simp [collectedCallbacks]
  have enough := view.basePath.holds.length_le view.basePath.path.nodup
  obtain ⟨pass, clones, looped, ran, reached⟩ :=
    run_processRootUpdates view ids [] [] updates _ [] opened
      opened.updates.slots.length rfl rfl enough initially
  rw [← view.basePath.path.first_eq] at ran
  have baseStateShape : pass.newBaseState.getD pass.newState =
      rebasedRootState renderLanes rootRenderLanes queue.baseState updates := by
    rw [reached.tracks.baseState, reached.tracks.state]
    by_cases nothing : rebasedUpdates renderLanes rootRenderLanes updates = []
    · rw [if_pos nothing, rebasedRootState_eq_rendered _ nothing]
      rfl
    · rw [if_neg nothing]
      rfl
  refine ⟨pass.newFirstBaseUpdate, pass.newLastBaseUpdate, clones,
    looped.changeQueue handle pass.finish, ?_, ⟨?_, reached.path.holds, ⟨rfl, rfl⟩,
    List.disjoint_nil_right _⟩, ?_, reached.path.kept, reached.path.isNew⟩
  · simp only [processHostRootUpdateQueue, run_bind, transferred, run_query, view.found, run_get,
      ran, run_modifyUpdateQueue reached.found, run_pure, rootPassResult, reached.tracks.state,
      reached.tracks.lanes, reached.tracks.applied, reached.tracks.skipped]
  · rw [queue_changeQueue reached.found, if_pos rfl]
    simp only [RootQueuePass.finish, processed, baseStateShape, noPending]
  · intro other different
    rw [queue_changeQueue reached.found, if_neg different]
    exact reached.only other different

namespace RootQueueView

section

variable (view : RootQueueView store handle queue baseIds pendingIds base pending)
include view

theorem run_process {currentQueue : Option UpdateQueueHandle}
    (own : currentQueue = none ∨ currentQueue = some handle) (renderLanes rootRenderLanes : Lanes) :
    ∃ first last clones after,
      (processHostRootUpdateQueue handle currentQueue renderLanes rootRenderLanes).run
        store = .ok (rootPassResult renderLanes rootRenderLanes queue.baseState
          (base ++ pending)) after ∧
      RootQueueView after handle
        (queue.processed renderLanes rootRenderLanes (baseIds ++ pendingIds)
          (base ++ pending) first last)
        clones [] (rebasedUpdates renderLanes rootRenderLanes (base ++ pending)) [] ∧
      OnlyUpdateQueue handle store after ∧
      Extends (baseIds ++ pendingIds) store.updates after.updates ∧
      ∀ id ∈ clones, store.updates.data? id = none := by
  obtain ⟨opened, openedFirst, openedLast, transferred, openedView, openedOnly,
    openedKept⟩ := view.run_transfer own
  obtain ⟨first, last, clones, after, ran, viewAfter, only, kept, newIds⟩ :=
    run_processTransferred renderLanes rootRenderLanes transferred openedView
  refine ⟨first, last, clones, after, ran, viewAfter, ?_, ?_, ?_⟩
  · intro other different
    exact (only other different).trans (openedOnly other different)
  · simpa using openedKept.trans kept
  · intro id member
    exact openedKept.data?_eq_none (newIds id member)

/-- A pass over a copy of the current queue transfers the pending updates of both and
leaves the base list of the current queue as it was transferred. -/
theorem run_processShared
    {current : UpdateQueueHandle} {currentEntry : UpdateQueue} (different : current ≠ handle)
    (currentFound : store.queue current = .ok currentEntry)
    (sameFirst : currentEntry.firstBaseUpdate = queue.firstBaseUpdate)
    (sameLast : currentEntry.lastBaseUpdate = queue.lastBaseUpdate)
    (samePending : currentEntry.shared.pending = queue.shared.pending)
    (renderLanes rootRenderLanes : Lanes) :
    ∃ first last clones after currentFirst currentLast,
      (processHostRootUpdateQueue handle (some current) renderLanes rootRenderLanes).run
        store = .ok (rootPassResult renderLanes rootRenderLanes queue.baseState
          (base ++ pending)) after ∧
      RootQueueView after handle
        (queue.processed renderLanes rootRenderLanes (baseIds ++ pendingIds)
          (base ++ pending) first last)
        clones [] (rebasedUpdates renderLanes rootRenderLanes (base ++ pending)) [] ∧
      RootQueueView after current
        ((currentEntry.withPending none).withBase currentFirst currentLast)
        (baseIds ++ pendingIds) [] (base ++ pending) [] ∧
      (∀ other, other ≠ handle → other ≠ current → after.queue other = store.queue other) ∧
      Extends (baseIds ++ pendingIds) store.updates after.updates ∧
      ∀ id ∈ clones, store.updates.data? id = none := by
  obtain ⟨opened, openedFirst, openedLast, transferred, openedView, currentView,
    openedOnly, openedKept⟩ :=
    view.run_transferShared different currentFound sameFirst sameLast samePending
  obtain ⟨first, last, clones, after, ran, viewAfter, only, kept, newIds⟩ :=
    run_processTransferred renderLanes rootRenderLanes transferred openedView
  refine ⟨first, last, clones, after, openedFirst, openedLast, ran, viewAfter,
    ⟨?_, ?_, ⟨rfl, rfl⟩, List.disjoint_nil_right _⟩, ?_, ?_, ?_⟩
  · rw [only current different]
    exact currentView.found
  · exact currentView.basePath.of_extends kept (List.disjoint_nil_right _)
  · intro other notHandle notCurrent
    rw [only other notHandle]
    exact openedOnly other notHandle notCurrent
  · simpa using openedKept.trans kept
  · intro id member
    exact openedKept.data?_eq_none (newIds id member)

end

theorem follow_eq_ok {stop : Option UpdateId} {restIds : List UpdateId}
    (live : ∀ id ∈ restIds, ∃ data, store.updates.data? id = some data)
    (notStop : ∀ id ∈ restIds, some id ≠ stop)
    (linked : ∀ before id after, restIds = before ++ id :: after →
      store.updates.next? id = (after.head?).or stop) :
    ∀ (rounds : Nat) (collected : List UpdateId),
      restIds.length < rounds →
      store.follow stop rounds ((restIds.head?).or stop) collected =
        .ok (collected ++ restIds) := by
  induction restIds with
  | nil =>
    intro rounds collected enough
    obtain ⟨rounds, rfl⟩ := Nat.exists_eq_add_one.mpr enough
    cases stop with
    | none => simp [follow]
    | some stop => simp [follow]
  | cons id restIds ih =>
    intro rounds collected enough
    obtain ⟨rounds, rfl⟩ := Nat.exists_eq_add_one.mpr (Nat.zero_lt_of_lt enough)
    obtain ⟨data, idLive⟩ := live id (by simp)
    have nextShape : store.updates.next? id = (restIds.head?).or stop := linked [] id restIds rfl
    have followed := ih
      (fun other member => live other (by simp [member]))
      (fun other member => notStop other (by simp [member]))
      (fun before other after shape => linked (id :: before) other after (by simp [shape]))
      rounds (collected ++ [id]) (by simpa using enough)
    rw [List.head?_cons, Option.some_or, follow, if_neg (notStop id (by simp)), update_eq_ok idLive]
    change store.follow stop rounds (store.updates.next? id) _ = _
    rw [nextShape, followed]
    simp

theorem baseUpdates_eq_ok
    (view : RootQueueView store handle queue baseIds pendingIds base pending) :
    store.baseUpdates handle = .ok baseIds := by
  have enough := view.basePath.holds.length_le view.basePath.path.nodup
  have followed := follow_eq_ok
    (fun id member => by
      obtain ⟨data, -, live⟩ := view.basePath.holds.live member
      exact ⟨data, live⟩)
    (fun id _ => Option.some_ne_none id)
    (fun before id after shape => by
      have path := view.basePath.path
      rw [shape] at path
      rw [path.next_eq, Option.or_none])
    (store.updates.slots.length + 1) [] (by omega)
  rw [Option.or_none, ← view.basePath.path.first_eq] at followed
  rw [baseUpdates, view.found]
  exact followed

theorem pendingUpdates_of_ring (found : store.queue handle = .ok queue)
    (pendingRing : store.updates.HoldsRing queue.shared.pending pendingIds pending) :
    store.pendingUpdates handle = .ok pendingIds := by
  rw [pendingUpdates, found]
  change (match queue.shared.pending with
    | none => _
    | some tail => _) = _
  cases tailShape : queue.shared.pending with
  | none =>
    rw [tailShape] at pendingRing
    obtain rfl : pendingIds = [] := pendingRing.ring
    rfl
  | some tail =>
    rw [tailShape] at pendingRing
    have ring : IsRing store.updates.next? tail pendingIds := pendingRing.ring
    have enough := pendingRing.holds.length_le ring.nodup
    obtain ⟨first, firstShape, firstMember⟩ := ring.exists_head
    obtain ⟨rest, rfl⟩ : ∃ rest, pendingIds = first :: rest := by
      cases pendingIds with
      | nil => simp at firstShape
      | cons head rest =>
        obtain rfl : head = first := by simpa using firstShape
        exact ⟨rest, rfl⟩
    obtain ⟨tailData, -, tailLive⟩ := pendingRing.holds.live ring.tail_mem
    obtain ⟨firstData, -, firstLive⟩ := pendingRing.holds.live firstMember
    have closing : store.updates.next? tail = some first := ring.closed.trans firstShape
    have linked : ∀ before id after, first :: rest = before ++ id :: after →
        store.updates.next? id = (after.head?).or (some first) := by
      intro before id after shape
      have segment := ring.toIsSegment
      rw [shape] at segment
      cases after with
      | nil =>
        rw [segment.eq_tail]
        simpa using closing
      | cons other others => simpa using segment.next_eq
    have followed := follow_eq_ok
      (fun id member => by
        obtain ⟨data, -, live⟩ := pendingRing.holds.live (List.mem_cons_of_mem first member)
        exact ⟨data, live⟩)
      (fun id member same => by
        obtain rfl : id = first := by simpa using same
        exact (List.nodup_cons.mp ring.nodup).1 member)
      (fun before id after shape => linked (first :: before) id after (by simp [shape]))
      (store.updates.slots.length + 1) [first] (by simp only [List.length_cons] at enough; omega)
    rw [← linked [] first rest rfl] at followed
    simp only [update_eq_ok tailLive, closing]
    change (store.update first >>= fun node =>
      store.follow (some first) (store.updates.slots.length + 1) node.next [first]) = _
    rw [update_eq_ok firstLive]
    exact followed

theorem pendingUpdates_eq_ok
    (view : RootQueueView store handle queue baseIds pendingIds base pending) :
    store.pendingUpdates handle = .ok pendingIds :=
  pendingUpdates_of_ring view.found view.pendingRing

end RootQueueView

end FastReact
