import FastReact.HookPendingRings
import FastReact.HookStateQueueRuns
import FastReact.HookUpdateSources

namespace FastReact

open ErrorState HookQueueStore LinkChain LinkedArena List

/-!
# Checks of staged hook updates

The ring of a queue is only checked when the queue is met first, and later appends change
it.  What the checks establish for the appends is that the pending tail of the queue has a
link and that the update is live and unlinked; no append takes the first away.
-/

variable {State Action ReducerId DispatchId OwnerId ε Entry : Type}

namespace HookQueueStore

variable {store after : HookQueueStore State Action ReducerId DispatchId} {queue : HookQueueId}
  {id : HookUpdateId}

def TailLinked (store : HookQueueStore State Action ReducerId DispatchId)
    (queue : HookQueueId) : Prop :=
  ∃ entry, store.queues.get? queue = some entry ∧
    ∀ tail, entry.pending = some tail → (store.updates.next? tail).isSome = true

/-- What a check of a staged update makes sure of, and what it adds to the seen updates
and queues. -/
structure StagedAccepted (store : HookQueueStore State Action ReducerId DispatchId)
    (seen : List HookUpdateId × List HookQueueId) (entry : StagedHookUpdate OwnerId)
    (seenLater : List HookUpdateId × List HookQueueId) : Prop where
  update : ∃ node, store.updates.get? entry.update = some node ∧ node.next = none
  isNew : entry.update ∉ seen.1
  seenUpdates : seenLater.1 = entry.update :: seen.1
  tail : (entry.queue ∈ seen.2 ∧ seenLater.2 = seen.2) ∨
    (store.TailLinked entry.queue ∧ seenLater.2 = entry.queue :: seen.2)

/-- Staged updates that can be appended. -/
structure StagedChecked (store : HookQueueStore State Action ReducerId DispatchId)
    (staged : List (StagedHookUpdate OwnerId)) : Prop where
  tails : ∀ entry ∈ staged, store.TailLinked entry.queue
  updates : ∀ entry ∈ staged, ∃ node,
    store.updates.get? entry.update = some node ∧ node.next = none
  nodup : (staged.map StagedHookUpdate.update).Nodup

variable {seen seenLater : List HookUpdateId × List HookQueueId}
  {staged : List (StagedHookUpdate OwnerId)}

theorem stagedChecked_of_foldlM
    {check : List HookUpdateId × List HookQueueId → Entry →
      Except ε (List HookUpdateId × List HookQueueId)}
    {toStaged : Entry → StagedHookUpdate OwnerId}
    (accepts : ∀ seen entry seenLater, check seen entry = .ok seenLater →
      store.StagedAccepted seen (toStaged entry) seenLater)
    {entries : List Entry} (seenLinked : ∀ queue ∈ seen.2, store.TailLinked queue)
    (checked : entries.foldlM check seen = .ok seenLater) :
    store.StagedChecked (entries.map toStaged) ∧
      ∀ entry ∈ entries, (toStaged entry).update ∉ seen.1 := by
  induction entries generalizing seen with
  | nil => exact ⟨⟨by simp, by simp, nodup_nil⟩, by simp⟩
  | cons entry rest ih =>
    rw [foldlM_cons] at checked
    obtain ⟨between, first, later⟩ := bind_eq_ok_iff.mp checked
    have accepted := accepts seen entry between first
    have linked : store.TailLinked (toStaged entry).queue := by
      rcases accepted.tail with ⟨wasSeen, -⟩ | ⟨tailLinked, -⟩
      · exact seenLinked _ wasSeen
      · exact tailLinked
    have betweenLinked : ∀ queue ∈ between.2, store.TailLinked queue := by
      intro queue member
      rcases accepted.tail with ⟨-, same⟩ | ⟨-, grown⟩
      · exact seenLinked queue (same ▸ member)
      · rw [grown] at member
        rcases mem_cons.mp member with rfl | before
        · exact linked
        · exact seenLinked queue before
    obtain ⟨restChecked, restNew⟩ := ih betweenLinked later
    rw [accepted.seenUpdates] at restNew
    refine ⟨⟨?_, ?_, ?_⟩, ?_⟩
    · rw [map_cons]
      exact forall_mem_cons.mpr ⟨linked, restChecked.tails⟩
    · rw [map_cons]
      exact forall_mem_cons.mpr ⟨accepted.update, restChecked.updates⟩
    · rw [map_cons, map_cons, nodup_cons]
      refine ⟨fun again => ?_, restChecked.nodup⟩
      rw [map_map] at again
      obtain ⟨other, member, same⟩ := mem_map.mp again
      have same : (toStaged other).update = (toStaged entry).update := same
      exact restNew other member (by rw [same]; exact mem_cons_self)
    · refine forall_mem_cons.mpr ⟨accepted.isNew, fun other member wasSeen => ?_⟩
      exact restNew other member (mem_cons_of_mem _ wasSeen)

theorem isSome_next?_of_collectRingIds {tail : HookUpdateId} {ids : List HookUpdateId}
    (collected : store.collectRingIds tail = .ok ids) :
    (store.updates.next? tail).isSome = true := by
  obtain ⟨_, -, collected⟩ := bind_eq_ok_iff.mp collected
  obtain ⟨first, linked, -⟩ := bind_eq_ok_iff.mp collected
  rw [next?_of_nextInRing_eq_ok linked, Option.isSome_some]

theorem stagedAccepted_of_validateStagedUpdate {entry : StagedHookUpdate OwnerId}
    (checked : store.validateStagedUpdate seen entry = .ok seenLater) :
    store.StagedAccepted seen entry seenLater := by
  obtain ⟨-, live, isNew, seenUpdates⟩ := validateStagedUpdate_eq_ok checked
  refine ⟨live, isNew, seenUpdates, ?_⟩
  obtain ⟨content, resolved, checked⟩ := bind_eq_ok_iff.mp checked
  obtain ⟨_, -, checked⟩ := bind_eq_ok_iff.mp checked
  obtain ⟨_, -, checked⟩ := bind_eq_ok_iff.mp checked
  rw [if_neg isNew] at checked
  have found := get?_of_queue_eq_ok resolved
  by_cases wasSeen : entry.queue ∈ seen.2
  · rw [if_pos wasSeen] at checked
    cases checked
    exact .inl ⟨wasSeen, rfl⟩
  · rw [if_neg wasSeen] at checked
    refine .inr ?_
    cases shape : content.pending with
    | none =>
      rw [shape] at checked
      cases checked
      exact ⟨⟨content, found, by simp [shape]⟩, rfl⟩
    | some tail =>
      rw [shape] at checked
      obtain ⟨ids, collected, finished⟩ := bind_eq_ok_iff.mp checked
      cases finished
      refine ⟨⟨content, found, fun other isTail => ?_⟩, rfl⟩
      obtain rfl : tail = other := Option.some.inj (shape.symm.trans isTail)
      exact isSome_next?_of_collectRingIds collected

/-- Appending a live update to a queue whose tail has a link succeeds.  It leaves live
what was live, and every tail that had a link has one. -/
theorem run_append_of_tailLinked {data : HookUpdateDispatchMetadata Action State}
    (tailLinked : store.TailLinked queue) (live : store.updates.data? id = some data) :
    ∃ after,
      (appendPendingUpdateUnchecked queue id).run store = .ok () after ∧
      (∀ other, after.updates.data? other = store.updates.data? other) ∧
      OnlyQueue queue store after ∧
      ∀ other, store.TailLinked other → after.TailLinked other := by
  obtain ⟨entry, found, linkedTail⟩ := tailLinked
  -- Only links and the tail of the queue are changed, and no link is taken away.
  have ended : ∀ linked : HookQueueStore State Action ReducerId DispatchId,
      linked.queues = store.queues →
      (∀ other, linked.updates.data? other = store.updates.data? other) →
      (linked.updates.next? id).isSome = true →
      (∀ other, (store.updates.next? other).isSome = true →
        (linked.updates.next? other).isSome = true) →
      (appendPendingUpdateUnchecked queue id).run store =
        .ok () (linked.changeQueue queue fun entry => { entry with pending := some id }) →
      ∃ after,
        (appendPendingUpdateUnchecked queue id).run store = .ok () after ∧
        (∀ other, after.updates.data? other = store.updates.data? other) ∧
        OnlyQueue queue store after ∧
        ∀ other, store.TailLinked other → after.TailLinked other := by
    intro linked sameQueues sameData idLinked staysLinked ran
    have foundLinked : linked.queues.get? queue = some entry := by rw [sameQueues, found]
    have only : OnlyQueue queue store
        (linked.changeQueue queue fun entry => { entry with pending := some id }) := by
      intro other different
      rw [onlyQueue_changeQueue linked queue _ other different, sameQueues]
    refine ⟨_, ran, sameData, only, ?_⟩
    rintro other ⟨otherEntry, otherFound, otherLinked⟩
    by_cases same : other = queue
    · rw [same]
      refine ⟨_, get?_changeQueue_self foundLinked _, fun tail isTail => ?_⟩
      obtain rfl : id = tail := Option.some.inj isTail
      exact idLinked
    · exact ⟨otherEntry, (only other same).trans otherFound,
        fun tail isTail => staysLinked tail (otherLinked tail isTail)⟩
  cases tailShape : entry.pending with
  | none =>
    have linkedFound : (store.withNext id (some id)).queues.get? queue = some entry := found
    refine ended (store.withNext id (some id)) rfl (fun other => by simp) ?_ ?_ ?_
    · rw [updates_withNext, next?_withNext live, if_pos rfl, Option.isSome_some]
    · intro other isLinked
      rw [updates_withNext, next?_withNext live]
      by_cases same : other = id
      · rw [if_pos same, Option.isSome_some]
      · rw [if_neg same]
        exact isLinked
    · simp only [appendPendingUpdateUnchecked, run_bind, run_query, queue_eq_ok found, tailShape,
        run_setNext live, setPending, run_modifyQueue linkedFound]
  | some tail =>
    obtain ⟨first, tailLink⟩ := Option.isSome_iff_exists.mp (linkedTail tail tailShape)
    obtain ⟨tailData, tailLive⟩ := exists_data?_of_next? tailLink
    have tailLiveLinked :
        (store.withNext id (some first)).updates.data? tail = some tailData := by
      simpa using tailLive
    have linkedFound :
        ((store.withNext id (some first)).withNext tail (some id)).queues.get? queue =
          some entry := found
    obtain ⟨-, links⟩ := links_behind live tailLive (some first)
    refine ended ((store.withNext id (some first)).withNext tail (some id)) rfl
      (fun other => by simp) ?_ ?_ ?_
    · rw [updates_withNext, updates_withNext, links, if_pos rfl]
      split <;> rfl
    · intro other isLinked
      rw [updates_withNext, updates_withNext, links]
      split
      · rfl
      · split
        · rfl
        · exact isLinked
    · simp only [appendPendingUpdateUnchecked, run_bind, run_query, queue_eq_ok found, tailShape,
        nextInRing_eq_ok tailLink, run_setNext live, run_setNext tailLiveLinked, setPending,
        run_modifyQueue linkedFound]

theorem run_appendStaged_of_tailLinked (tails : ∀ entry ∈ staged, store.TailLinked entry.queue)
    (lives : ∀ entry ∈ staged, ∃ data, store.updates.data? entry.update = some data) :
    ∃ after,
      (staged.forM fun entry =>
        (appendPendingUpdateUnchecked entry.queue entry.update :
          HookQueueM State Action ReducerId DispatchId Unit)).run store = .ok () after ∧
      (∀ other, after.updates.data? other = store.updates.data? other) ∧
      ∀ queue, (∀ entry ∈ staged, entry.queue ≠ queue) →
        after.queues.get? queue = store.queues.get? queue := by
  induction staged generalizing store with
  | nil => exact ⟨store, rfl, fun _ => rfl, fun _ _ => rfl⟩
  | cons entry rest ih =>
    obtain ⟨tail, restTails⟩ := forall_mem_cons.mp tails
    obtain ⟨⟨data, live⟩, restLives⟩ := forall_mem_cons.mp lives
    obtain ⟨between, ran, sameData, only, keepsTails⟩ := run_append_of_tailLinked tail live
    obtain ⟨after, ranRest, restData, restOnly⟩ := ih
      (fun other member => keepsTails _ (restTails other member))
      (fun other member => by
        obtain ⟨otherData, otherLive⟩ := restLives other member
        exact ⟨otherData, (sameData other.update).trans otherLive⟩)
    refine ⟨after, ?_, fun other => (restData other).trans (sameData other), ?_⟩
    · rw [run_forM_cons, ran]
      exact ranRest
    · intro queue unnamed
      obtain ⟨notFirst, notRest⟩ := forall_mem_cons.mp unnamed
      exact (restOnly queue notRest).trans (only queue (Ne.symm notFirst))

theorem StagedChecked.run_append (checked : store.StagedChecked staged) :
    ∃ after,
      (staged.forM fun entry =>
        (appendPendingUpdateUnchecked entry.queue entry.update :
          HookQueueM State Action ReducerId DispatchId Unit)).run store = .ok () after ∧
      (∀ other, after.updates.data? other = store.updates.data? other) ∧
      ∀ queue, (∀ entry ∈ staged, entry.queue ≠ queue) →
        after.queues.get? queue = store.queues.get? queue := by
  refine run_appendStaged_of_tailLinked checked.tails fun entry member => ?_
  obtain ⟨node, live, -⟩ := checked.updates entry member
  exact ⟨node.data, by simp [data?, live]⟩

end HookQueueStore

namespace HookSourceStore

variable {sources : HookSourceStore State Action ReducerId DispatchId} {hookLists : HookListArena}

variable {entry : SourceStagedHookUpdate OwnerId}

/-- A source that passes its check is there and not consumed, and its update is live and
unlinked. -/
theorem of_validateSourceOwnedStagedEntry
    (checked : sources.validateSourceOwnedStagedEntry entry hookLists = .ok ()) :
    (∃ stored, sources.pendingSource entry.update = some stored ∧ stored.consumed = false) ∧
      ∃ node, sources.store.updates.get? entry.update = some node ∧ node.next = none := by
  cases sourceShape : entry.source with
  | none => simp [validateSourceOwnedStagedEntry, sourceShape] at checked
  | some source =>
    simp only [validateSourceOwnedStagedEntry, sourceShape] at checked
    obtain ⟨-, checked⟩ := guard_eq_ok_iff.mp checked
    obtain ⟨-, checked⟩ := guard_eq_ok_iff.mp checked
    obtain ⟨_, -, checked⟩ := bind_eq_ok_iff.mp checked
    obtain ⟨_, -, checked⟩ := bind_eq_ok_iff.mp checked
    obtain ⟨_, -, checked⟩ := bind_eq_ok_iff.mp checked
    obtain ⟨_, unlinked, checked⟩ := bind_eq_ok_iff.mp checked
    refine ⟨?_, exists_of_ensureUpdateIsUnlinked (mapError_eq_ok_iff.mp unlinked)⟩
    cases storedShape : sources.pendingSource entry.update with
    | none =>
      rw [storedShape] at checked
      cases checked
    | some stored =>
      simp only [storedShape] at checked
      obtain ⟨notConsumed, -⟩ := guard_eq_ok_iff.mp checked
      exact ⟨stored, rfl, Bool.eq_false_of_not_eq_true notConsumed⟩

theorem stagedAccepted_of_validateStagedUpdateSource
    {seen seenLater : List HookUpdateId × List HookQueueId}
    (checked : sources.validateStagedUpdateSource hookLists seen entry = .ok seenLater) :
    sources.store.StagedAccepted seen entry.toStagedHookUpdate seenLater := by
  obtain ⟨_, sourceChecked, checked⟩ := bind_eq_ok_iff.mp checked
  obtain ⟨-, live⟩ := of_validateSourceOwnedStagedEntry sourceChecked
  obtain ⟨isNew, checked⟩ := guard_eq_ok_iff.mp checked
  by_cases wasSeen : entry.queue ∈ seen.2
  · rw [if_pos wasSeen] at checked
    cases checked
    exact ⟨live, isNew, rfl, .inl ⟨wasSeen, rfl⟩⟩
  · rw [if_neg wasSeen] at checked
    obtain ⟨content, resolved, checked⟩ := bind_eq_ok_iff.mp checked
    have found := get?_of_queue_eq_ok (mapError_eq_ok_iff.mp resolved)
    cases shape : content.pending with
    | none =>
      rw [shape] at checked
      cases checked
      exact ⟨live, isNew, rfl, .inr ⟨⟨content, found, by simp [shape]⟩, rfl⟩⟩
    | some tail =>
      rw [shape] at checked
      obtain ⟨_, ringChecked, finished⟩ := bind_eq_ok_iff.mp checked
      obtain ⟨ids, collected, -⟩ := bind_eq_ok_iff.mp ringChecked
      cases finished
      refine ⟨live, isNew, rfl, .inr ⟨⟨content, found, fun other isTail => ?_⟩, rfl⟩⟩
      obtain rfl : tail = other := Option.some.inj (shape.symm.trans isTail)
      exact isSome_next?_of_collectRingIds (mapError_eq_ok_iff.mp collected)

theorem stagedChecked_of_sources {entries : List (SourceStagedHookUpdate OwnerId)}
    {seen : List HookUpdateId × List HookQueueId}
    (checked : entries.foldlM (sources.validateStagedUpdateSource hookLists) ([], []) = .ok seen) :
    sources.store.StagedChecked (entries.map SourceStagedHookUpdate.toStagedHookUpdate) ∧
      ∀ entry ∈ entries, ∃ stored,
        sources.pendingSource entry.update = some stored ∧ stored.consumed = false := by
  refine ⟨(stagedChecked_of_foldlM (fun _ _ _ => stagedAccepted_of_validateStagedUpdateSource)
    (by simp) checked).1, fun entry member => ?_⟩
  obtain ⟨before, next, entryChecked⟩ := round_ok_of_foldlM_ok checked member
  obtain ⟨_, sourceChecked, -⟩ := bind_eq_ok_iff.mp entryChecked
  exact (of_validateSourceOwnedStagedEntry sourceChecked).1

theorem run_consumePendingUpdateSource {update : HookUpdateId}
    {data : HookUpdateDispatchMetadata Action State} {stored : HookPendingUpdateSourceState}
    (live : sources.store.updates.data? update = some data)
    (isStored : sources.pendingSource update = some stored)
    (notConsumed : stored.consumed = false) :
    (consumePendingUpdateSource update :
      HookSourceM State Action ReducerId DispatchId Unit).run sources =
      .ok () { sources with
        pendingSource := Function.update sources.pendingSource update
          (some { stored with consumed := true }) } := by
  simp only [consumePendingUpdateSource, onHookQueues, run_bind, run_focus, run_mapError,
    run_query, validateUpdateId_eq_ok live, run_get, isStored, notConsumed,
    Bool.false_eq_true, if_false, setPendingSource, run_modify]

theorem run_consumePendingUpdateSources {updates : List HookUpdateId}
    (lives : ∀ update ∈ updates, ∃ data, sources.store.updates.data? update = some data)
    (stored : ∀ update ∈ updates, ∃ stored,
      sources.pendingSource update = some stored ∧ stored.consumed = false)
    (nodup : updates.Nodup) :
    ∃ after,
      (updates.forM (consumePendingUpdateSource :
        HookUpdateId → HookSourceM State Action ReducerId DispatchId Unit)).run sources =
          .ok () after ∧
      after.store = sources.store := by
  induction updates generalizing sources with
  | nil => exact ⟨sources, rfl, rfl⟩
  | cons update rest ih =>
    obtain ⟨⟨data, live⟩, restLives⟩ := forall_mem_cons.mp lives
    obtain ⟨⟨content, isStored, notConsumed⟩, restStored⟩ := forall_mem_cons.mp stored
    obtain ⟨notAgain, restNodup⟩ := nodup_cons.mp nodup
    have stillStored : ∀ other ∈ rest, ∃ stored,
        Function.update sources.pendingSource update
          (some { content with consumed := true }) other = some stored ∧
        stored.consumed = false := by
      intro other member
      have different : other ≠ update := fun same => notAgain (same ▸ member)
      rw [Function.update_of_ne different]
      exact restStored other member
    obtain ⟨after, ranRest, sameStore⟩ :=
      @ih ⟨sources.store, Function.update sources.pendingSource update
        (some { content with consumed := true })⟩ restLives stillStored restNodup
    refine ⟨after, ?_, sameStore⟩
    rw [run_forM_cons, run_consumePendingUpdateSource live isStored notConsumed]
    exact ranRest

end HookSourceStore

end FastReact
