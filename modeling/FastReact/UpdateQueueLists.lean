import FastReact.UpdateQueuePass
import Mathlib.Logic.Function.Basic

namespace FastReact

open ErrorState Function LinkChain LinkedArena List RootUpdateData UpdateQueueStore

/-!
# The lists of several update queues

All queues of a store keep their updates in one arena.  Their lists are apart when no
update is in two of them; appending an update that is in none of them and every render
pass keep them apart, although a pass moves updates between the queues it is given.
-/

variable {store after : UpdateQueueStore} {handle : UpdateQueueHandle} {queue : UpdateQueue}

/-- The members of the two lists of a queue and what they hold. -/
structure RootQueueLists where
  baseIds : List UpdateId
  pendingIds : List UpdateId
  base : List RootUpdateData
  pending : List RootUpdateData

namespace RootQueueLists

def empty : RootQueueLists where
  baseIds := []
  pendingIds := []
  base := []
  pending := []

/-- All members, the base list first. -/
def ids (lists : RootQueueLists) : List UpdateId :=
  lists.baseIds ++ lists.pendingIds

/-- What the members hold. -/
def updates (lists : RootQueueLists) : List RootUpdateData :=
  lists.base ++ lists.pending

/-- One more pending update. -/
def append (lists : RootQueueLists) (id : UpdateId) (data : RootUpdateData) : RootQueueLists :=
  { lists with
    pendingIds := lists.pendingIds ++ [id]
    pending := lists.pending ++ [data] }

def transferred (lists : RootQueueLists) : RootQueueLists where
  baseIds := lists.ids
  pendingIds := []
  base := lists.updates
  pending := []

/-- The base list followed by the pending updates of another queue. -/
def adopt (lists other : RootQueueLists) : RootQueueLists :=
  { lists with
    baseIds := lists.baseIds ++ other.pendingIds
    base := lists.base ++ other.pending }

def rebased (lists : RootQueueLists) (renderLanes rootRenderLanes : Lanes)
    (clones : List UpdateId) : RootQueueLists where
  baseIds := clones
  pendingIds := []
  base := rebasedUpdates renderLanes rootRenderLanes lists.updates
  pending := []

theorem mem_ids {lists : RootQueueLists} {id : UpdateId} :
    id ∈ lists.ids ↔ id ∈ lists.baseIds ∨ id ∈ lists.pendingIds :=
  mem_append

variable (lists : RootQueueLists)

@[simp] theorem ids_append (id : UpdateId) (data : RootUpdateData) :
    (lists.append id data).ids = lists.ids ++ [id] :=
  (append_assoc _ _ _).symm

@[simp] theorem ids_transferred : lists.transferred.ids = lists.ids :=
  append_nil _

@[simp] theorem ids_rebased (renderLanes rootRenderLanes : Lanes)
    (clones : List UpdateId) : (lists.rebased renderLanes rootRenderLanes clones).ids = clones :=
  append_nil _

end RootQueueLists

open RootQueueLists

abbrev HasLists (store : UpdateQueueStore) (handle : UpdateQueueHandle) (queue : UpdateQueue)
    (lists : RootQueueLists) : Prop :=
  RootQueueView store handle queue lists.baseIds lists.pendingIds lists.base lists.pending

/-- The lists of all queues share no member. -/
structure ListsApart (store : UpdateQueueStore)
    (lists : UpdateQueueHandle → RootQueueLists) : Prop where
  view : ∀ handle queue,
    store.queue handle = .ok queue → HasLists store handle queue (lists handle)
  absent : ∀ handle,
    (∀ queue, store.queue handle ≠ .ok queue) → lists handle = .empty
  apart : ∀ handle other,
    handle ≠ other → (lists handle).ids.Disjoint (lists other).ids

theorem UpdateQueueStore.queue_append_of_ne {store : UpdateQueueStore} {queue : UpdateQueue}
    {other : UpdateQueueHandle} (different : other ≠ ⟨store.queues.length + 1⟩) :
    ({ store with queues := store.queues ++ [queue] } : UpdateQueueStore).queue other =
      store.queue other := by
  obtain ⟨raw⟩ := other
  unfold UpdateQueueStore.queue OpaqueHandle.isNone
  by_cases isZero : raw = 0
  · simp [isZero]
  · have notLast : raw - 1 ≠ store.queues.length := by
      intro isLast
      apply different
      rw [OpaqueHandle.mk.injEq]
      omega
    have sameEntry : (store.queues ++ [queue])[raw - 1]? = store.queues[raw - 1]? := by
      rcases Nat.lt_or_gt_of_ne notLast with inside | outside
      · exact getElem?_append_left inside
      · rw [getElem?_eq_none_iff.mpr (by simp; omega), getElem?_eq_none_iff.mpr (by omega)]
    simp only [sameEntry]

namespace RootQueueView

variable {baseIds pendingIds : List UpdateId} {base pending : List RootUpdateData}

section

variable (view : RootQueueView store handle queue baseIds pendingIds base pending)
include view

theorem congr (found : after.queue handle = .ok queue)
    (same : ∀ id ∈ baseIds ++ pendingIds, after.updates.get? id = store.updates.get? id) :
    RootQueueView after handle queue baseIds pendingIds base pending where
  found := found
  basePath := view.basePath.congr fun id member => same id (by simp [member])
  pendingRing := view.pendingRing.congr fun id member => same id (by simp [member])
  disjoint := view.disjoint

theorem of_extends {touched : List UpdateId} (found : after.queue handle = .ok queue)
    (extension : Extends touched store.updates after.updates)
    (untouched : (baseIds ++ pendingIds).Disjoint touched) :
    RootQueueView after handle queue baseIds pendingIds base pending := by
  refine view.congr found ?_
  intro id member
  obtain ⟨data, -, live⟩ := (view.basePath.holds.append view.pendingRing.holds).live member
  exact extension.get?_eq live (untouched member)

theorem run_cloneHostRootUpdateQueue :
    ∃ copy copied,
      (cloneHostRootUpdateQueue handle).run store = .ok copy copied ∧
      copy ≠ handle ∧
      copied.updates = store.updates ∧
      (∀ other, store.queue copy ≠ .ok other) ∧
      (∀ other, other ≠ copy → copied.queue other = store.queue other) ∧
      RootQueueView copied copy { queue with callbacks := [] } baseIds pendingIds base pending := by
  have missing : ∀ other, store.queue ⟨store.queues.length + 1⟩ ≠ .ok other := by
    intro other
    simp [UpdateQueueStore.queue, OpaqueHandle.isNone]
  have different : ⟨store.queues.length + 1⟩ ≠ handle := by
    rintro rfl
    exact missing queue view.found
  have copiedFound : ({ store with queues := store.queues ++ [{ queue with callbacks := [] }] } :
      UpdateQueueStore).queue ⟨store.queues.length + 1⟩ = .ok { queue with callbacks := [] } := by
    simp [UpdateQueueStore.queue, OpaqueHandle.isNone]
  refine ⟨⟨store.queues.length + 1⟩,
    { store with queues := store.queues ++ [{ queue with callbacks := [] }] }, ?_, different,
    rfl, missing, ?_, ⟨copiedFound, view.basePath, view.pendingRing, view.disjoint⟩⟩
  · simp only [cloneHostRootUpdateQueue, run_bind, run_query, view.found]
    rfl
  · intro other otherNe
    exact queue_append_of_ne otherNe

end

end RootQueueView

namespace ListsApart

variable {lists later : UpdateQueueHandle → RootQueueLists} {id : UpdateId} {data : RootUpdateData}

theorem live (apart : ListsApart store lists) (member : id ∈ (lists handle).ids) :
    ∃ data, store.updates.data? id = some data := by
  by_cases present : ∃ queue, store.queue handle = .ok queue
  · obtain ⟨queue, found⟩ := present
    have view := apart.view handle queue found
    obtain ⟨data, -, live⟩ := (view.basePath.holds.append view.pendingRing.holds).live member
    exact ⟨data, live⟩
  · have nothing := apart.absent handle fun queue found => present ⟨queue, found⟩
    rw [nothing] at member
    cases member

theorem not_mem_of_new (apart : ListsApart store lists) (isNew : store.updates.data? id = none) :
    id ∉ (lists handle).ids := by
  intro member
  obtain ⟨data, live⟩ := apart.live member
  rw [isNew] at live
  cases live

theorem change (changed : UpdateQueueHandle → Prop) (apart : ListsApart store lists)
    (sameQueue : ∀ other, ¬ changed other → after.queue other = store.queue other)
    (sameLists : ∀ other, ¬ changed other → later other = lists other)
    (sameNodes : ∀ other, ¬ changed other → ∀ id ∈ (lists other).ids,
      after.updates.get? id = store.updates.get? id)
    (views : ∀ other, changed other → ∃ queue, HasLists after other queue (later other))
    (outside : ∀ handle other, changed handle → ¬ changed other →
      (later handle).ids.Disjoint (lists other).ids)
    (among : ∀ handle other, changed handle → changed other → handle ≠ other →
      (later handle).ids.Disjoint (later other).ids) : ListsApart after later where
  view := by
    intro handle queue found
    by_cases isChanged : changed handle
    · obtain ⟨otherQueue, view⟩ := views handle isChanged
      cases found.symm.trans view.found
      exact view
    · rw [sameLists handle isChanged]
      have foundBefore : store.queue handle = .ok queue :=
        (sameQueue handle isChanged).symm.trans found
      exact (apart.view handle queue foundBefore).congr found (sameNodes handle isChanged)
  absent := by
    intro handle missing
    by_cases isChanged : changed handle
    · obtain ⟨queue, view⟩ := views handle isChanged
      exact absurd view.found (missing queue)
    · rw [sameLists handle isChanged]
      refine apart.absent handle ?_
      intro queue found
      exact missing queue ((sameQueue handle isChanged).trans found)
  apart := by
    intro handle other different
    by_cases isChanged : changed handle <;> by_cases otherChanged : changed other
    · exact among handle other isChanged otherChanged different
    · rw [sameLists other otherChanged]
      exact outside handle other isChanged otherChanged
    · rw [sameLists handle isChanged]
      exact (outside other handle otherChanged isChanged).symm
    · rw [sameLists handle isChanged, sameLists other otherChanged]
      exact apart.apart handle other different

theorem change_one {added : RootQueueLists} (apart : ListsApart store lists)
    (only : OnlyUpdateQueue handle store after)
    (sameNodes : ∀ other, other ≠ handle → ∀ id ∈ (lists other).ids,
      after.updates.get? id = store.updates.get? id)
    (view : HasLists after handle queue added)
    (outside : ∀ other, other ≠ handle → added.ids.Disjoint (lists other).ids) :
    ListsApart after (update lists handle added) := by
  refine apart.change (· = handle) only ?_ sameNodes ?_ ?_ ?_
  · intro other different
    exact update_of_ne different _ _
  · intro other same
    rw [show other = handle from same, update_self]
    exact ⟨queue, view⟩
  · intro changed other same different
    rw [show changed = handle from same, update_self]
    exact outside other different
  · intro changed other same otherSame different
    exact absurd (same.trans otherSame.symm) different

variable {current : UpdateQueueHandle}

theorem change_two {queueAfter currentAfter : UpdateQueue} {added currentAdded : RootQueueLists}
    {touched : List UpdateId} (apart : ListsApart store lists) (different : current ≠ handle)
    (others : ∀ other, other ≠ handle → other ≠ current → after.queue other = store.queue other)
    (kept : Extends touched store.updates after.updates)
    (untouched : ∀ other, other ≠ handle → other ≠ current → (lists other).ids.Disjoint touched)
    (view : HasLists after handle queueAfter added)
    (currentView : HasLists after current currentAfter currentAdded)
    (outside : ∀ other, other ≠ handle → other ≠ current →
      added.ids.Disjoint (lists other).ids ∧ currentAdded.ids.Disjoint (lists other).ids)
    (disjoint : added.ids.Disjoint currentAdded.ids) :
    ListsApart after (update (update lists current currentAdded) handle added) := by
  have atCurrent : update (update lists current currentAdded) handle added
      current = currentAdded := by
    rw [update_of_ne different, update_self]
  refine apart.change (fun other => other = handle ∨ other = current) ?_ ?_ ?_ ?_ ?_ ?_
  · intro other unchanged
    simp only [not_or] at unchanged
    exact others other unchanged.1 unchanged.2
  · intro other unchanged
    simp only [not_or] at unchanged
    rw [update_of_ne unchanged.1, update_of_ne unchanged.2]
  · intro other unchanged id member
    simp only [not_or] at unchanged
    obtain ⟨data, live⟩ := apart.live member
    exact kept.get?_eq live (untouched other unchanged.1 unchanged.2 member)
  · rintro other (rfl | rfl)
    · rw [update_self]
      exact ⟨_, view⟩
    · rw [atCurrent]
      exact ⟨_, currentView⟩
  · rintro changed other (rfl | rfl) unchanged
    · simp only [not_or] at unchanged
      rw [update_self]
      exact (outside other unchanged.1 unchanged.2).1
    · simp only [not_or] at unchanged
      rw [atCurrent]
      exact (outside other unchanged.1 unchanged.2).2
  · rintro changed other (rfl | rfl) (rfl | rfl) notSame
    · exact absurd rfl notSame
    · rw [atCurrent, update_self]
      exact disjoint
    · rw [atCurrent, update_self]
      exact disjoint.symm
    · exact absurd rfl notSame

theorem of_extends (apart : ListsApart store lists)
    (sameQueues : ∀ other, after.queue other = store.queue other)
    (extension : Extends [] store.updates after.updates) : ListsApart after lists := by
  refine apart.change (fun _ => False) (fun other _ => sameQueues other)
    (fun other _ => rfl) ?_ ?_ ?_ ?_
  · intro other _ id member
    obtain ⟨data, live⟩ := apart.live member
    exact extension.get?_eq live (by simp)
  · intro other isFalse
    cases isFalse
  · intro handle other isFalse
    cases isFalse
  · intro handle other isFalse
    cases isFalse

section

variable (apart : ListsApart store lists) (found : store.queue handle = .ok queue)
include apart found

theorem run_appendPendingRootUpdate (live : store.updates.data? id = some data)
    (unlisted : ∀ other, id ∉ (lists other).ids) :
    ∃ after,
      (appendPendingRootUpdate handle id).run store = .ok () after ∧
      after.queue handle = .ok (queue.withPending (some id)) ∧
      OnlyUpdateQueue handle store after ∧
      (∀ other, other ∉ (lists handle).ids → other ≠ id →
        ∀ data, store.updates.data? other = some data →
        after.updates.get? other = store.updates.get? other) ∧
      ListsApart after (update lists handle ((lists handle).append id data)) := by
  have view := apart.view handle queue found
  have unlistedHere := unlisted handle
  rw [mem_ids, not_or] at unlistedHere
  obtain ⟨after, ran, viewAfter, only, extension⟩ :=
    view.run_appendPendingRootUpdate live unlistedHere.1 unlistedHere.2
  have untouched : ∀ other, other ∉ (lists handle).ids → other ≠ id →
      ∀ data, store.updates.data? other = some data →
      after.updates.get? other = store.updates.get? other := by
    intro other notMember different otherData otherLive
    refine extension.get?_eq otherLive ?_
    rw [mem_ids, not_or] at notMember
    simp [notMember.2, different]
  refine ⟨after, ran, viewAfter.found, only, untouched, ?_⟩
  refine apart.change_one only ?_ viewAfter ?_
  · intro other different otherId member
    obtain ⟨otherData, otherLive⟩ := apart.live member
    have notHere : otherId ∉ (lists handle).ids := apart.apart other handle different member
    have notNew : otherId ≠ id := by
      rintro rfl
      exact unlisted other member
    exact untouched otherId notHere notNew otherData otherLive
  · intro other different
    rw [ids_append, disjoint_append_left]
    refine ⟨apart.apart handle other different.symm, ?_⟩
    simpa using unlisted other

theorem run_appendPendingRootUpdate_again (member : id ∈ (lists handle).pendingIds) :
    ∃ after kept,
      (appendPendingRootUpdate handle id).run store = .ok () after ∧
      ListsApart after (update lists handle kept) := by
  have view := apart.view handle queue found
  obtain ⟨data, -, live⟩ := view.pendingRing.holds.live member
  have pendingRing := view.pendingRing
  cases tailShape : queue.shared.pending with
  | none =>
    rw [tailShape] at pendingRing
    have nothing : (lists handle).pendingIds = [] := pendingRing.ring
    rw [nothing] at member
    cases member
  | some tail =>
    rw [tailShape] at pendingRing
    have ring : IsRing store.updates.next? tail (lists handle).pendingIds := pendingRing.ring
    obtain ⟨head, headShape, -⟩ := ring.exists_head
    have closing : store.updates.next? tail = some head := ring.closed.trans headShape
    obtain ⟨tailData, -, tailLive⟩ := pendingRing.holds.live ring.tail_mem
    have ran := run_appendPendingRootUpdate_behind live found tailShape tailLive
    rw [closing] at ran
    obtain ⟨keptIds, keptPending, keptRing, isKept, extension⟩ :=
      pendingRing.relink headShape member
    let linked := (store.withNext id (some head)).withNext tail (some id)
    have linkedFound : linked.queue handle = .ok queue := found
    let kept : RootQueueLists := { lists handle with pendingIds := keptIds, pending := keptPending }
    have keptMember : ∀ other ∈ kept.ids, other ∈ (lists handle).ids := by
      intro other otherMember
      rcases mem_ids.mp otherMember with isBase | isPending
      · exact mem_ids.mpr (.inl isBase)
      · exact mem_ids.mpr (.inr (isKept isPending))
    refine ⟨linked.changeQueue handle (·.withPending (some id)), kept, ran, ?_⟩
    have keptView : HasLists (linked.changeQueue handle (·.withPending (some id)))
        handle (queue.withPending (some id)) kept := by
      refine ⟨?_, view.basePath.of_extends extension view.disjoint, keptRing, ?_⟩
      · exact (queue_changeQueue linkedFound _ handle).trans (if_pos rfl)
      · exact fun other isBase isPending => view.disjoint isBase (isKept isPending)
    refine apart.change_one (onlyUpdateQueue_changeQueue linkedFound _) ?_ keptView ?_
    · intro other different otherId otherMember
      obtain ⟨otherData, otherLive⟩ := apart.live otherMember
      refine extension.get?_eq otherLive fun touched => ?_
      exact apart.apart other handle different otherMember (mem_ids.mpr (.inr touched))
    · intro other different otherId otherMember
      exact apart.apart handle other different.symm (keptMember otherId otherMember)

theorem run_process {currentQueue : Option UpdateQueueHandle}
    (own : currentQueue = none ∨ currentQueue = some handle) (renderLanes rootRenderLanes : Lanes) :
    ∃ result clones after,
      (processHostRootUpdateQueue handle currentQueue renderLanes rootRenderLanes).run
        store = .ok result after ∧
      ListsApart after (update lists handle
        ((lists handle).rebased renderLanes rootRenderLanes clones)) := by
  have view := apart.view handle queue found
  obtain ⟨first, last, clones, after, ran, viewAfter, only, extension, newIds⟩ :=
    view.run_process own renderLanes rootRenderLanes
  refine ⟨_, clones, after, ran, apart.change_one only ?_ viewAfter ?_⟩
  · intro other different id member
    obtain ⟨data, live⟩ := apart.live member
    exact extension.get?_eq live (apart.apart other handle different member)
  · intro other different id member otherMember
    rw [ids_rebased] at member
    exact apart.not_mem_of_new (newIds id member) otherMember

theorem run_cloneHostRootUpdateQueue :
    ∃ copy copied,
      (cloneHostRootUpdateQueue handle).run store = .ok copy copied ∧
      copy ≠ handle ∧
      copied.updates = store.updates ∧
      (∀ other, store.queue copy ≠ .ok other) ∧
      (∀ other, other ≠ copy → copied.queue other = store.queue other) ∧
      HasLists copied copy { queue with callbacks := [] } (lists handle) :=
  (apart.view handle queue found).run_cloneHostRootUpdateQueue

/-- A pass over a copy of a queue moves the pending updates of the queue to its base
list, and leaves the copy with clones. -/
theorem run_processCopy {copied : UpdateQueueStore} {copy : UpdateQueueHandle}
    (different : copy ≠ handle) (sameUpdates : copied.updates = store.updates)
    (sameQueues : ∀ other, other ≠ copy → copied.queue other = store.queue other)
    (view : HasLists copied copy { queue with callbacks := [] } (lists handle))
    (renderLanes rootRenderLanes : Lanes) :
    ∃ first last clones after currentFirst currentLast,
      (processHostRootUpdateQueue copy (some handle) renderLanes rootRenderLanes).run
        copied = .ok (rootPassResult renderLanes rootRenderLanes queue.baseState
          (lists handle).updates) after ∧
      after.queue copy = .ok (({ queue with callbacks := [] } : UpdateQueue).processed
        renderLanes rootRenderLanes (lists handle).ids (lists handle).updates first last) ∧
      after.queue handle = .ok ((queue.withPending none).withBase currentFirst currentLast) ∧
      (∀ other, other ≠ copy → other ≠ handle → after.queue other = store.queue other) ∧
      ListsApart after
        (update (update lists handle (lists handle).transferred) copy
          ((lists handle).rebased renderLanes rootRenderLanes clones)) ∧
      (∀ id ∈ clones, store.updates.data? id = none) ∧
      ∀ id data, store.updates.data? id = some data → after.updates.data? id = some data := by
  have currentFound : copied.queue handle = .ok queue :=
    (sameQueues handle different.symm).trans found
  obtain ⟨first, last, clones, after, currentFirst, currentLast, ran, viewAfter,
    currentView, others, extension, newIds⟩ :=
    view.run_processShared different.symm currentFound rfl rfl rfl renderLanes rootRenderLanes
  rw [sameUpdates] at extension newIds
  have othersKept : ∀ other, other ≠ copy → other ≠ handle →
      after.queue other = store.queue other := by
    intro other notCopy notHandle
    exact (others other notCopy notHandle).trans (sameQueues other notCopy)
  refine ⟨first, last, clones, after, currentFirst, currentLast, ran, viewAfter.found,
    currentView.found, othersKept, ?_, newIds, extension.data⟩
  have clonesOutside : ∀ other, clones.Disjoint (lists other).ids := by
    intro other id member otherMember
    exact apart.not_mem_of_new (newIds id member) otherMember
  refine apart.change_two different.symm othersKept extension ?_ viewAfter currentView ?_ ?_
  · intro other _ notHandle
    exact apart.apart other handle notHandle
  · intro other _ notHandle
    rw [ids_rebased, ids_transferred]
    exact ⟨clonesOutside other, apart.apart handle other notHandle.symm⟩
  · rw [ids_rebased, ids_transferred]
    exact clonesOutside handle

end

/-- A queue that is given the segment of another one has it behind its base list. -/
theorem run_transferToCurrentQueue {currentQueue : UpdateQueue}
    {currentLists segment : RootQueueLists} {head tail : UpdateId}
    (view : HasLists store current currentQueue currentLists) (different : current ≠ handle)
    (path : store.updates.HoldsPath (some head) (some tail) segment.pendingIds segment.pending)
    (disjoint : currentLists.ids.Disjoint segment.pendingIds) :
    ∃ after currentQueue',
      (transferToCurrentQueue handle (some current) head tail).run store = .ok () after ∧
      HasLists after current currentQueue' (currentLists.adopt segment) ∧
      OnlyUpdateQueue current store after ∧
      Extends currentLists.baseIds store.updates after.updates := by
  have tailMember : tail ∈ segment.pendingIds := path.path.1.tail_mem
  have tailOutside : tail ∉ currentLists.ids := fun member => disjoint member tailMember
  rw [mem_ids, not_or] at tailOutside
  have pendingNotTail : currentQueue.shared.pending ≠ some tail := by
    intro isTail
    have ring := view.pendingRing
    rw [isTail] at ring
    have isRing : IsRing store.updates.next? tail currentLists.pendingIds := ring.ring
    exact tailOutside.2 isRing.tail_mem
  have lastNotTail : currentQueue.lastBaseUpdate ≠ some tail := by
    intro isTail
    have base := view.basePath
    rw [isTail] at base
    exact tailOutside.1 base.path.1.tail_mem
  have lastLive : ∀ previous, currentQueue.lastBaseUpdate = some previous →
      ∃ data, store.updates.data? previous = some data := by
    intro previous isLast
    have base := view.basePath
    rw [isLast] at base
    obtain ⟨data, -, live⟩ := base.holds.live base.path.1.tail_mem
    exact ⟨data, live⟩
  obtain ⟨after, ran, updatesShape, foundAfter, only⟩ :=
    run_appendLinearSegmentToBaseQueue view.found lastLive head tail
  have baseApart : currentLists.baseIds.Disjoint segment.pendingIds :=
    fun id member => disjoint (mem_ids.mpr (.inl member))
  obtain ⟨basePath, extension⟩ := view.basePath.append_path path baseApart
  have linkedShape : after.updates =
      store.updates.linkBehind currentQueue.lastBaseUpdate head := by
    rw [updatesShape]
    cases currentQueue.lastBaseUpdate <;> rfl
  have firstShape :
      (if currentQueue.lastBaseUpdate = none then some head
        else currentQueue.firstBaseUpdate) =
        currentQueue.firstBaseUpdate.or (some head) := by
    have base := view.basePath.path
    cases lastShape : currentQueue.lastBaseUpdate with
    | none =>
      rw [lastShape] at base
      rw [if_pos rfl, base.1]
      rfl
    | some previous =>
      rw [lastShape] at base
      obtain ⟨pathHead, pathHeadShape, -⟩ := base.1.exists_head
      rw [if_neg (Option.some_ne_none previous), base.2.1, pathHeadShape]
      rfl
  rw [firstShape] at foundAfter
  rw [← linkedShape] at basePath extension
  refine ⟨after, _, ?_, ⟨foundAfter, basePath, ?_, ?_⟩, only, extension⟩
  · simp only [transferToCurrentQueue, if_neg different, run_bind, run_query,
      view.found, if_neg pendingNotTail, if_neg lastNotTail]
    exact ran
  · exact view.pendingRing.of_extends extension view.disjoint.symm
  · rw [adopt, disjoint_append_left]
    refine ⟨view.disjoint, ?_⟩
    intro id member otherMember
    exact disjoint (mem_ids.mpr (.inr otherMember)) member

/-- A pass over a queue that passes its pending updates on to another queue; it fails
only when that queue does not exist. -/
theorem run_processBeside (apart : ListsApart store lists) (found : store.queue handle = .ok queue)
    (different : current ≠ handle) (renderLanes rootRenderLanes : Lanes) :
    (∃ error opened,
      (processHostRootUpdateQueue handle (some current) renderLanes rootRenderLanes).run
        store = .error error opened ∧
      store.queue current = .error error ∧
      ListsApart opened (update lists handle (lists handle).transferred)) ∨
    ∃ result clones after,
      (processHostRootUpdateQueue handle (some current) renderLanes rootRenderLanes).run
        store = .ok result after ∧
      ListsApart after (update
        (update lists current ((lists current).adopt (lists handle))) handle
        ((lists handle).rebased renderLanes rootRenderLanes clones)) := by
  have view := apart.view handle queue found
  cases pendingShape : queue.shared.pending with
  | none =>
    obtain ⟨result, clones, after, ran, apartAfter⟩ :=
      apart.run_process found (.inl rfl) renderLanes rootRenderLanes
    have transferred : ∀ currentQueue,
        (transferPendingToBaseQueue handle currentQueue).run store = .ok () store := by
      intro currentQueue
      simp [transferPendingToBaseQueue, view.found, pendingShape]
    have sameRun :
        (processHostRootUpdateQueue handle (some current) renderLanes rootRenderLanes).run store =
        (processHostRootUpdateQueue handle none renderLanes rootRenderLanes).run store := by
      simp only [processHostRootUpdateQueue, run_bind, transferred]
    have nothingAdopted : (lists current).adopt (lists handle) = lists current := by
      have ring := view.pendingRing
      rw [pendingShape] at ring
      have noIds : (lists handle).pendingIds = [] := ring.ring
      have noUpdates : (lists handle).pending = [] := ring.eq_none_iff.mp rfl
      simp [adopt, noIds, noUpdates]
    refine .inr ⟨result, clones, after, sameRun.trans ran, ?_⟩
    rw [nothingAdopted, update_eq_self]
    exact apartAfter
  | some tail =>
    obtain ⟨opened, head, first, ran, openedView, -, only, -, extension, headShape⟩ :=
      view.run_transferOpened (some current) pendingShape
    by_cases present : ∃ currentQueue, store.queue current = .ok currentQueue
    · obtain ⟨currentQueue, currentFound⟩ := present
      have currentApart : (lists current).ids.Disjoint (lists handle).ids :=
        apart.apart current handle different
      have currentView : HasLists opened current currentQueue (lists current) :=
        (apart.view current currentQueue currentFound).of_extends
          ((only current different).trans currentFound) extension currentApart
      have pendingNonempty : (lists handle).pendingIds ≠ [] := by
        intro nothing
        rw [nothing] at headShape
        cases headShape
      have segment : opened.updates.HoldsPath (some head) (some tail)
          (lists handle).pendingIds (lists handle).pending := by
        refine ⟨?_, view.pendingRing.holds.of_extends extension⟩
        rw [← headShape]
        exact openedView.basePath.path.suffix pendingNonempty
      have pendingApart : (lists current).ids.Disjoint (lists handle).pendingIds :=
        fun id member otherMember =>
          currentApart member (mem_ids.mpr (.inr otherMember))
      obtain ⟨given, currentQueue', ranGive, givenView, givenOnly, givenExtension⟩ :=
        run_transferToCurrentQueue currentView different segment pendingApart
      have openedViewGiven := openedView.of_extends
        ((givenOnly handle different.symm).trans openedView.found) givenExtension (by
          intro id member otherMember
          have isMember : id ∈ (lists handle).ids := by simpa [mem_ids] using member
          exact currentApart (mem_ids.mpr (.inl otherMember)) isMember)
      obtain ⟨first, last, clones, after, ranPass, viewAfter, passOnly, passExtension,
        newIds⟩ := run_processTransferred renderLanes rootRenderLanes
          (ran.trans ranGive) openedViewGiven
      have currentAfter := givenView.of_extends
        ((passOnly current different).trans givenView.found) passExtension
        (disjoint_nil_right _)
      have kept : Extends ((lists handle).ids ++ (lists current).baseIds) store.updates
          after.updates := by
        simpa [ids] using (extension.trans givenExtension).trans passExtension
      have clonesNew : ∀ id ∈ clones, store.updates.data? id = none := by
        intro id member
        exact extension.data?_eq_none (givenExtension.data?_eq_none (newIds id member))
      refine .inr ⟨_, clones, after, ranPass, ?_⟩
      have adopted : ∀ id ∈ ((lists current).adopt (lists handle)).ids,
          id ∈ (lists current).ids ∨ id ∈ (lists handle).ids := by
        intro id member
        simp only [adopt, ids, mem_append] at member ⊢
        tauto
      refine apart.change_two different
        (fun other notHandle notCurrent => (passOnly other notHandle).trans
          ((givenOnly other notCurrent).trans (only other notHandle)))
        kept ?_ viewAfter currentAfter ?_ ?_
      · intro other notHandle notCurrent id member touched
        rcases mem_append.mp touched with inHandle | inCurrent
        · exact apart.apart other handle notHandle member inHandle
        · exact apart.apart other current notCurrent member (mem_ids.mpr (.inl inCurrent))
      · intro other notHandle notCurrent
        constructor
        · rw [ids_rebased]
          exact fun id member => apart.not_mem_of_new (clonesNew id member)
        · intro id member otherMember
          rcases adopted id member with own | given
          · exact apart.apart current other notCurrent.symm own otherMember
          · exact apart.apart handle other notHandle.symm given otherMember
      · rw [ids_rebased]
        intro id member otherMember
        rcases adopted id otherMember with own | given
        · exact apart.not_mem_of_new (clonesNew id member) own
        · exact apart.not_mem_of_new (clonesNew id member) given
    · obtain ⟨error, refused⟩ : ∃ error, store.queue current = .error error := by
        cases shape : store.queue current with
        | error error => exact ⟨error, rfl⟩
        | ok currentQueue => exact absurd ⟨currentQueue, shape⟩ present
      have refusedOpened : opened.queue current = .error error :=
        (only current different).trans refused
      refine .inl ⟨error, opened, ?_, refused, ?_⟩
      · simp only [processHostRootUpdateQueue, run_bind, ran,
          transferToCurrentQueue, if_neg different, run_query, refusedOpened]
      · refine apart.change_one only ?_ openedView ?_
        · intro other notHandle id member
          obtain ⟨data, live⟩ := apart.live member
          exact extension.get?_eq live (apart.apart other handle notHandle member)
        · intro other notHandle
          rw [ids_transferred]
          exact apart.apart handle other notHandle.symm

end ListsApart

end FastReact
