import FastReact.HookRingCollection
import FastReact.HookStateQueuePass
import FastReact.LinkWalk

namespace FastReact

open ErrorState HookQueueStore HookUpdateDispatchMetadata Lanes LinkChain LinkWalk LinkedArena List

/-!
# Updates that wait for a hook

The updates a pass goes over are found by following links: from the tail of the pending
ring, with the links of both tails exchanged, or from the tail of the base ring alone.
This holds of any store in which the pass succeeds, whatever its links look like.  The
pass leaves no lanes exactly if it defers none of these updates.
-/

variable {State Action ReducerId DispatchId : Type}

namespace HookQueueStore

variable {store : HookQueueStore State Action ReducerId DispatchId} {id : HookUpdateId}

def pendingTail (store : HookQueueStore State Action ReducerId DispatchId) (queue : HookQueueId) :
    Option HookUpdateId :=
  (store.queues.get? queue).bind (·.pending)

/-- Where following the updates of a hook starts. -/
def waitingTail (store : HookQueueStore State Action ReducerId DispatchId)
    (slot : HookStateSlot State) : Option HookUpdateId :=
  (store.pendingTail slot.queue).or slot.baseQueue

/-- The link behind an update when the pending ring hangs behind the base ring. -/
def splicedNext (store : HookQueueStore State Action ReducerId DispatchId)
    (slot : HookStateSlot State) (id : HookUpdateId) : Option HookUpdateId :=
  match store.pendingTail slot.queue, slot.baseQueue with
  | some pendingTail, some baseTail =>
      if id = pendingTail then
        store.updates.next? baseTail
      else if id = baseTail then
        store.updates.next? pendingTail
      else
        store.updates.next? id
  | _, _ => store.updates.next? id

/-- An update waits for a hook if the links lead to it. -/
def Waits (store : HookQueueStore State Action ReducerId DispatchId) (slot : HookStateSlot State)
    (id : HookUpdateId) : Prop :=
  ∃ tail, store.waitingTail slot = some tail ∧
    Relation.ReflTransGen (Links (store.splicedNext slot)) tail id

/-- No update that waits for a hook is deferred under the given lanes. -/
def DefersNothing (store : HookQueueStore State Action ReducerId DispatchId)
    (slot : HookStateSlot State)
    (renderLanes rootRenderLanes : Lanes) : Prop :=
  ∀ id update, store.Waits slot id → store.updates.data? id = some update →
    update.isDeferred renderLanes rootRenderLanes = false

structure CollectedFrom (store : HookQueueStore State Action ReducerId DispatchId)
    (first : HookUpdateId)
    (ids : List HookUpdateId) : Prop where
  live : ∀ id ∈ ids, ∃ data, store.updates.data? id = some data
  reached : ∀ id ∈ ids, Relation.ReflTransGen (Links store.updates.next?) first id
  closed : ∀ id ∈ ids, ∀ other, store.updates.next? id = some other → other ∈ ids

variable {after : HookQueueStore State Action ReducerId DispatchId} {ids : List HookUpdateId}

theorem collectedFrom_of_isRing {tail first : HookUpdateId} (ring : IsRing store.updates.next? tail ids)
    (isFirst : store.updates.next? tail = some first) : store.CollectedFrom first ids where
  live := live_of_isRing ring
  reached := by
    refine IsChain.induction (Relation.ReflTransGen (Links store.updates.next?) first ·) ids ring.linked
      (fun _ _ linked reached => reached.tail linked) fun nonempty => ?_
    have starts := isFirst.symm.trans (ring.closed.trans (head?_eq_some_head nonempty))
    exact Option.some.inj starts ▸ .refl
  closed := fun id member other linked => by
    obtain ⟨successor, inside, isNext⟩ := ring.next_mem member
    exact Option.some.inj (linked.symm.trans isNext) ▸ inside

theorem mem_collectRingIds_iff {tail : HookUpdateId} (ran : store.collectRingIds tail = .ok ids) :
    (∀ id ∈ ids, ∃ data, store.updates.data? id = some data) ∧
      ∀ id, id ∈ ids ↔ Relation.ReflTransGen (Links store.updates.next?) tail id := by
  have ring := isRing_of_collectRingIds_eq_ok ran
  obtain ⟨first, -, isFirst⟩ := ring.next_mem ring.tail_mem
  have tailLink : Links store.updates.next? tail first := isFirst
  have facts := collectedFrom_of_isRing ring tailLink
  refine ⟨facts.live, fun id => ⟨fun member => ?_, fun reached => ?_⟩⟩
  · exact (Relation.ReflTransGen.single tailLink).trans (facts.reached id member)
  · induction reached with
    | refl => exact ring.tail_mem
    | tail _ link ih => exact facts.closed _ ih _ link

theorem run_setNext_eq_ok {next : Option HookUpdateId}
    (ran : (setNext id next).run store = .ok () after) :
    (∃ data, store.updates.data? id = some data) ∧
      after = { store with updates := store.updates.withNext id next } := by
  obtain ⟨update, between, resolved, changed⟩ := run_bind_eq_ok_iff.mp ran
  obtain ⟨found, rfl⟩ := run_query_eq_ok_iff.mp resolved
  cases changed
  exact ⟨⟨update.data, by simp [data?, get?_of_update_eq_ok found]⟩, rfl⟩

theorem run_setPending_eq_ok {queue : HookQueueId} {pending : Option HookUpdateId}
    (ran : (setPending queue pending).run store = .ok () after) :
    after.updates = store.updates := by
  obtain ⟨entry, between, resolved, changed⟩ := run_bind_eq_ok_iff.mp ran
  obtain ⟨-, rfl⟩ := run_query_eq_ok_iff.mp resolved
  cases changed
  rfl

end HookQueueStore

open HookQueueStore

section Pass

variable {store merged : HookQueueStore State Action ReducerId DispatchId}
  {slot after : HookStateSlot State}

theorem run_onStore_eq_ok {α : Type} {body : HookQueueM State Action ReducerId DispatchId α}
    {result : α} {held : HookQueueStore State Action ReducerId DispatchId × HookStateSlot State}
    (ran : (onStore body).run (store, slot) = .ok result held) :
    ∃ changed, body.run store = .ok result changed ∧ held = (changed, slot) := by
  obtain ⟨changed, finished, rfl⟩ := run_focus_eq_ok_iff.mp ran
  exact ⟨changed, finished, rfl⟩

theorem run_takePending_eq_ok {change : HookStateSlot State → HookStateSlot State}
    (ran : (do
      onStore (setPending slot.queue none)
      modifySlot change : HookSlotM State Action ReducerId DispatchId Unit).run (store, slot) =
        .ok () (merged, after)) : merged.updates = store.updates ∧ after = change slot := by
  obtain ⟨_, _, ranEmpty, ran⟩ := run_bind_eq_ok_iff.mp ran
  obtain ⟨changed, emptied, rfl⟩ := run_onStore_eq_ok ranEmpty
  cases ran
  exact ⟨run_setPending_eq_ok emptied, rfl⟩

/-- Merging sets the links and the tail that waiting is about, keeps all updates and links
none that was not linked. -/
theorem run_mergePendingIntoBaseQueue_eq_ok
    (ran : mergePendingIntoBaseQueue.run (store, slot) = .ok () (merged, after)) :
    after = { slot with baseQueue := store.waitingTail slot } ∧
      (∀ id, merged.updates.next? id = store.splicedNext slot id) ∧
      (∀ id, merged.updates.data? id = store.updates.data? id) ∧
      ∀ id, (merged.updates.next? id).isSome = (store.updates.next? id).isSome := by
  obtain ⟨_, _, got, ran⟩ := run_bind_eq_ok_iff.mp ran
  cases got
  obtain ⟨entry, _, ranQueue, ran⟩ := run_bind_eq_ok_iff.mp ran
  obtain ⟨_, asked, rfl⟩ := run_onStore_eq_ok ranQueue
  obtain ⟨resolved, rfl⟩ := run_query_eq_ok_iff.mp asked
  have pendingShape : store.pendingTail slot.queue = entry.pending := by
    simp [pendingTail, get?_of_queue_eq_ok resolved]
  cases tailShape : entry.pending with
  | none =>
    rw [tailShape] at ran pendingShape
    cases ran
    refine ⟨by simp [waitingTail, pendingShape], fun id => ?_, fun _ => rfl, fun _ => rfl⟩
    simp [splicedNext, pendingShape]
  | some pendingTail =>
    rw [tailShape] at ran pendingShape
    have tailIs : store.waitingTail slot = some pendingTail := by simp [waitingTail, pendingShape]
    obtain ⟨_, _, ranTail, ran⟩ := run_bind_eq_ok_iff.mp ran
    obtain ⟨_, askedTail, rfl⟩ := run_onStore_eq_ok ranTail
    obtain ⟨-, rfl⟩ := run_query_eq_ok_iff.mp askedTail
    cases baseShape : slot.baseQueue with
    | none =>
      simp only [baseShape] at ran
      obtain ⟨sameUpdates, rfl⟩ := run_takePending_eq_ok ran
      refine ⟨by rw [tailIs], fun id => ?_, fun id => ?_, fun id => ?_⟩
      · simp [splicedNext, pendingShape, baseShape, sameUpdates]
      · rw [sameUpdates]
      · rw [sameUpdates]
    | some baseTail =>
      simp only [baseShape] at ran
      obtain ⟨baseFirst, _, ranBase, ran⟩ := run_bind_eq_ok_iff.mp ran
      obtain ⟨_, askedBase, rfl⟩ := run_onStore_eq_ok ranBase
      obtain ⟨baseLink, rfl⟩ := run_query_eq_ok_iff.mp askedBase
      obtain ⟨pendingFirst, _, ranPending, ran⟩ := run_bind_eq_ok_iff.mp ran
      obtain ⟨_, askedPending, rfl⟩ := run_onStore_eq_ok ranPending
      obtain ⟨pendingLink, rfl⟩ := run_query_eq_ok_iff.mp askedPending
      obtain ⟨_, _, ranSet, ran⟩ := run_bind_eq_ok_iff.mp ran
      obtain ⟨_, relinked, rfl⟩ := run_onStore_eq_ok ranSet
      obtain ⟨⟨baseData, baseLive⟩, rfl⟩ := run_setNext_eq_ok relinked
      obtain ⟨_, _, ranSetBack, ran⟩ := run_bind_eq_ok_iff.mp ran
      obtain ⟨_, relinkedBack, rfl⟩ := run_onStore_eq_ok ranSetBack
      obtain ⟨⟨pendingData, pendingLive⟩, rfl⟩ := run_setNext_eq_ok relinkedBack
      obtain ⟨sameUpdates, rfl⟩ := run_takePending_eq_ok ran
      have baseNext := next?_of_nextInRing_eq_ok baseLink
      have pendingNext := next?_of_nextInRing_eq_ok pendingLink
      refine ⟨by rw [tailIs], fun id => ?_, fun id => ?_, fun id => ?_⟩
      · rw [sameUpdates, next?_withNext pendingLive, next?_withNext baseLive]
        simp [splicedNext, pendingShape, baseShape, baseNext, pendingNext]
      · rw [sameUpdates, data?_withNext, data?_withNext]
      · -- Both tails were linked before.
        rw [sameUpdates, next?_withNext pendingLive, next?_withNext baseLive]
        by_cases isPending : id = pendingTail
        · simp [isPending, pendingNext]
        · by_cases isBase : id = baseTail
          · subst isBase
            simp [isPending, baseNext]
          · simp [isPending, isBase]

theorem Lanes.merge_eq_no_iff {lanes other : Lanes} :
    lanes.merge other = no ↔ lanes = no ∧ other = no := by
  cases lanes
  cases other
  simp [merge, no, BitVec.or_eq_zero_iff]

variable {renderLanes rootRenderLanes : Lanes}

theorem leftover_eq_no_iff (update : HookUpdateDispatchMetadata Action State) :
    update.leftover renderLanes rootRenderLanes = no ↔
      update.isDeferred renderLanes rootRenderLanes = false := by
  have tests := fate_cases renderLanes rootRenderLanes update
  rw [leftover, isDeferred]
  cases fateShape : update.fate renderLanes rootRenderLanes with
  | skipped =>
    rw [fateShape] at tests
    have outside : update.lane.priorityLanes.isSubsetOf
        (update.laneScope renderLanes rootRenderLanes) = false := tests
    refine iff_of_false (fun noLanes => ?_) (by simp)
    have isNo : update.lane.priorityLanes = no := noLanes
    rw [isNo, no_isSubsetOf] at outside
    cases outside
  | applied => exact iff_of_true rfl rfl
  | reverted => exact iff_of_true rfl rfl
  | optimistic =>
    rw [fateShape] at tests
    refine iff_of_false (fun noLanes => ?_) (by simp)
    have noBits : update.revertLane.lane.bits = 0 := congrArg bits noLanes
    have someRevert := tests.2.1
    simp [HookRevertLane.isEmpty, Lane.isEmpty, noBits] at someRevert

theorem leftoverLanes_eq_no_iff (updates : List (HookUpdateDispatchMetadata Action State)) :
    leftoverLanes renderLanes rootRenderLanes updates = no ↔
      ∀ update ∈ updates, update.isDeferred renderLanes rootRenderLanes = false := by
  induction updates using List.reverseRecOn with
  | nil => simp [leftoverLanes]
  | append_singleton earlier update ih =>
    have split : leftoverLanes renderLanes rootRenderLanes (earlier ++ [update]) =
        (leftoverLanes renderLanes rootRenderLanes earlier).merge
          (update.leftover renderLanes rootRenderLanes) := by
      simp [leftoverLanes]
    rw [split, merge_eq_no_iff, ih, leftover_eq_no_iff]
    simp [or_imp, forall_and]

/-- What a successful pass does with the updates that wait for the slot: it reports the
lanes they leave, its base ring holds new updates, those retained of them, and it links
nothing else that was not linked. -/
structure PassOver (store after : HookQueueStore State Action ReducerId DispatchId)
    (slot slotAfter : HookStateSlot State) (renderLanes rootRenderLanes : Lanes)
    (result : ProcessHookQueueResult State)
    (updates : List (HookUpdateDispatchMetadata Action State))
    (retainedIds : List HookUpdateId) : Prop where
  waiting : ∀ update ∈ updates, ∃ id, store.Waits slot id ∧ store.updates.data? id = some update
  waitingAll : ∀ id update, store.Waits slot id → store.updates.data? id = some update →
    update ∈ updates
  remainingLanes : result.remainingLanes = leftoverLanes renderLanes rootRenderLanes updates
  ring : after.updates.HoldsRing slotAfter.baseQueue retainedIds
    (retainedUpdates renderLanes rootRenderLanes updates)
  isNew : ∀ id ∈ retainedIds, store.updates.data? id = none
  kept : ∀ id update, store.updates.data? id = some update → after.updates.data? id = some update
  grows : GrowsBy retainedIds store.updates after.updates
  linked : ∀ id, (after.updates.next? id).isSome = true ↔
    (store.updates.next? id).isSome = true ∨ id ∈ retainedIds

theorem isSome_next?_of_mem {tail : Option HookUpdateId} {ids : List HookUpdateId}
    {updates : List (HookUpdateDispatchMetadata Action State)} {id : HookUpdateId}
    (ring : store.updates.HoldsRing tail ids updates) (member : id ∈ ids) :
    (store.updates.next? id).isSome = true := by
  cases linked : store.updates.next? id with
  | none => exact absurd member (ring.not_mem_of_unlinked linked)
  | some next => rfl

variable {result : ProcessHookQueueResult State} {reducer : State → Action → State}

section

variable
  (ran : (processUpdateQueue renderLanes rootRenderLanes reducer).run (store, slot) = .ok result (merged, after))
include ran

/-- A pass that succeeds, over any store. -/
theorem run_processUpdateQueue_eq_ok :
    ∃ updates retainedIds,
      PassOver store merged slot after renderLanes rootRenderLanes result updates retainedIds := by
  obtain ⟨_, ⟨spliced, held⟩, ranMerge, ranRest⟩ := run_bind_eq_ok_iff.mp ran
  obtain ⟨rfl, links, datas, linked⟩ := run_mergePendingIntoBaseQueue_eq_ok ranMerge
  obtain ⟨_, _, got, ranPass⟩ := run_bind_eq_ok_iff.mp ranRest
  cases got
  cases tailShape : store.waitingTail slot with
  | none =>
    simp only [tailShape] at ranPass
    obtain ⟨_, _, changed, ranLanes⟩ := run_bind_eq_ok_iff.mp ranPass
    cases changed
    obtain ⟨_, _, onQueue, finished⟩ := run_bind_eq_ok_iff.mp ranLanes
    obtain ⟨cleared, changedQueue, rfl⟩ := run_onStore_eq_ok onQueue
    obtain ⟨entry, -, changed⟩ := run_query_bind_eq_ok_iff.mp changedQueue
    cases changed
    cases finished
    refine ⟨[], [], ⟨by simp, ?_, rfl, ⟨rfl, rfl⟩, by simp, ?_, GrowsBy.of_data datas, ?_⟩⟩
    · rintro id update ⟨tail, isTail, -⟩
      cases tailShape.symm.trans isTail
    · intro id update live
      exact (datas id).trans live
    · intro id
      simpa using linked id
  | some tail =>
    simp only [tailShape] at ranPass
    obtain ⟨ids, _, ranCollect, ranFold⟩ := run_bind_eq_ok_iff.mp ranPass
    obtain ⟨_, askedIds, rfl⟩ := run_onStore_eq_ok ranCollect
    obtain ⟨collected, rfl⟩ := run_query_eq_ok_iff.mp askedIds
    obtain ⟨pass, _, ranUpdates, ranClose⟩ := run_bind_eq_ok_iff.mp ranFold
    obtain ⟨swept, passed, rfl⟩ := run_onStore_eq_ok ranUpdates
    obtain ⟨live, members⟩ := mem_collectRingIds_iff collected
    obtain ⟨updates, holds⟩ := Holds.exists_of_live live
    obtain ⟨other, _, clones, again, tracks, chain, grows⟩ :=
      run_processUpdates renderLanes rootRenderLanes reducer slot.baseState holds
    cases again.symm.trans passed
    obtain ⟨closed, closing, -, closedKept, ring, closedDatas⟩ := chain.run_closeNewBaseQueue
    obtain ⟨_, _, onClose, ranSlot⟩ := run_bind_eq_ok_iff.mp ranClose
    obtain ⟨_, closingAgain, rfl⟩ := run_onStore_eq_ok onClose
    cases closing.symm.trans closingAgain
    obtain ⟨_, _, changed, ranQueue⟩ := run_bind_eq_ok_iff.mp ranSlot
    cases changed
    obtain ⟨_, _, onQueue, finished⟩ := run_bind_eq_ok_iff.mp ranQueue
    obtain ⟨noted, changedQueue, rfl⟩ := run_onStore_eq_ok onQueue
    obtain ⟨entry, -, changed⟩ := run_query_bind_eq_ok_iff.mp changedQueue
    cases changed
    cases finished
    have sameLinks : Links spliced.updates.next? = Links (store.splicedNext slot) := by
      rw [show spliced.updates.next? = store.splicedNext slot from funext links]
    refine ⟨updates, clones, ⟨?_, ?_, tracks.remainingLanes, ring, ?_, ?_, ?_, ?_⟩⟩
    · intro update member
      obtain ⟨id, isMember, isData⟩ := holds.exists_id member
      refine ⟨id, ⟨tail, tailShape, ?_⟩, (datas id).symm.trans isData⟩
      exact sameLinks ▸ (members id).mp isMember
    · rintro id update ⟨start, isStart, reached⟩ found
      cases tailShape.symm.trans isStart
      obtain ⟨other, member, isData⟩ := holds.live ((members id).mpr (sameLinks ▸ reached))
      rw [datas, found] at isData
      cases isData
      exact member
    · intro id member
      rw [← datas]
      exact chain.path.isNew id member
    · intro id update isData
      rw [← datas] at isData
      exact closedKept.data id update isData
    · intro id data isData
      rw [← datas]
      exact grows id data ((closedDatas id).symm.trans isData)
    · intro id
      constructor
      · intro isLinked
        cases found : spliced.updates.data? id with
        | some data =>
          left
          have same := closedKept.links id data found not_mem_nil
          rw [← linked, ← same]
          exact isLinked
        | none =>
          right
          obtain ⟨next, isNext⟩ := Option.isSome_iff_exists.mp isLinked
          obtain ⟨data, isData⟩ := exists_data?_of_next? isNext
          rcases grows id data ((closedDatas id).symm.trans isData) with ⟨earlier, was⟩ | new
          · cases found.symm.trans was
          · exact new
      · rintro (wasLinked | member)
        · rw [← linked] at wasLinked
          obtain ⟨next, isNext⟩ := Option.isSome_iff_exists.mp wasLinked
          obtain ⟨data, isData⟩ := exists_data?_of_next? isNext
          have same := closedKept.links id data isData not_mem_nil
          exact (congrArg Option.isSome same).trans wasLinked
        · exact isSome_next?_of_mem ring member

theorem remainingLanes_eq_no_iff :
    result.remainingLanes = no ↔ store.DefersNothing slot renderLanes rootRenderLanes := by
  obtain ⟨updates, retainedIds, pass⟩ := run_processUpdateQueue_eq_ok ran
  rw [pass.remainingLanes, leftoverLanes_eq_no_iff]
  constructor
  · intro inTime id update waits found
    exact inTime update (pass.waitingAll id update waits found)
  · intro inTime update member
    obtain ⟨id, waits, found⟩ := pass.waiting update member
    exact inTime id update waits found

end

end Pass

end FastReact
