import FastReact.HostRootSearch
import FastReact.UpdateQueueLinks

namespace FastReact

open ErrorState LinkedArena UpdateQueueStore

/-!
# What the checks before a drain establish

The checks look at every staged entry and change nothing.  An entry that passes them
names a live queue and an unlinked live update, or neither, and a fiber whose parents end
at the HostRoot fiber of a live root.
-/

theorem UpdateQueueStore.data?_of_update_eq_ok {store : UpdateQueueStore} {id : UpdateId} {node : RootUpdate}
    (resolved : store.update id = .ok node) :
    store.updates.data? id = some node.data ∧ store.updates.next? id = node.next := by
  unfold UpdateQueueStore.update at resolved
  cases found : SlotArena.find store.updates id with
  | error error =>
    rw [found] at resolved
    cases resolved
  | ok other =>
    rw [found] at resolved
    cases resolved
    have live : SlotArena.get? store.updates id = some node := SlotArena.find_eq_ok_iff.mp found
    exact ⟨by simp [data?, live], by simp [next?, live]⟩

def stagedIds (staged : List StagedConcurrentUpdate) : List UpdateId :=
  staged.filterMap (·.update)

/-- A staged entry has a queue and an update that can be appended, or neither. -/
structure StagedUpdateChecked (store : UpdateQueueStore) (entry : StagedConcurrentUpdate) :
    Prop where
  shape : entry.queue.isSome = entry.update.isSome
  queue : ∀ handle, entry.queue = some handle → ∃ queue, store.queue handle = .ok queue
  pending : ∀ handle, entry.queue = some handle → ∃ ids, store.pendingUpdates handle = .ok ids
  live : ∀ id, entry.update = some id → ∃ data, store.updates.data? id = some data
  unlinked : ∀ id, entry.update = some id → ¬ store.Linked id

structure StagedEntryChecked (store : FiberRootStore) (entry : StagedConcurrentUpdate)
    (root : FiberRootId) : Prop where
  update : StagedUpdateChecked store.updateQueues entry
  root : store.WalkEndsAt entry.fiber root

section Checks

variable {store after : FiberRootStore} {entry : StagedConcurrentUpdate}

theorem of_validateStagedUpdate {seen seenAfter : List UpdateId}
    (ran : (validateStagedUpdate seen entry).run store = .ok seenAfter after) :
    seenAfter = entry.update.toList ++ seen ∧
      (∀ id, entry.update = some id → id ∉ seen) ∧
      StagedUpdateChecked store.updateQueues entry := by
  obtain ⟨fiber, queue, update, lane⟩ := entry
  rcases queue with - | queue <;> rcases update with - | update
  · cases ran
    exact ⟨rfl, by simp, rfl, by simp, by simp, by simp, by simp⟩
  · cases ran
  · cases ran
  · obtain ⟨content, _, queueResolved, checked⟩ := run_bind_eq_ok_iff.mp ran
    obtain ⟨queueFound, rfl⟩ := run_query_eq_ok_iff.mp queueResolved
    obtain ⟨node, updateFound, laneChecked⟩ := run_query_bind_eq_ok_iff.mp checked
    obtain ⟨-, linkChecked⟩ := run_guard_eq_ok_iff.mp laneChecked
    obtain ⟨live, linkShape⟩ := data?_of_update_eq_ok (mapError_eq_ok_iff.mp updateFound)
    cases link : node.next with
    | some linkedNext =>
      rw [link] at linkChecked
      cases linkChecked
    | none =>
      rw [link] at linkChecked
      obtain ⟨isNew, ringChecked⟩ := run_guard_eq_ok_iff.mp linkChecked
      obtain ⟨ids, _, pendingResolved, finished⟩ := run_bind_eq_ok_iff.mp ringChecked
      obtain ⟨pendingFound, -⟩ := run_query_eq_ok_iff.mp pendingResolved
      cases finished
      refine ⟨rfl, ?_, rfl, ?_, ?_, ?_, ?_⟩
      · rintro id ⟨⟩
        exact isNew
      · rintro handle ⟨⟩
        exact ⟨content, mapError_eq_ok_iff.mp queueFound⟩
      · rintro handle ⟨⟩
        exact ⟨ids, mapError_eq_ok_iff.mp pendingFound⟩
      · rintro id ⟨⟩
        exact ⟨node.data, live⟩
      · rintro id ⟨⟩
        rw [Linked, linkShape, link]
        simp

variable {validation validationAfter : DrainValidation} {staged : List StagedConcurrentUpdate}

theorem of_validateStagedEntry
    (ran : (validateStagedEntry validation entry).run store = .ok validationAfter after) :
    validationAfter.seenUpdates = entry.update.toList ++ validation.seenUpdates ∧
      (∀ id, entry.update = some id → id ∉ validation.seenUpdates) ∧
      ∃ root, validationAfter.roots = validation.roots ++ [root] ∧
        StagedEntryChecked store entry root := by
  obtain ⟨seen, between, updateRan, ranPlace⟩ := run_bind_eq_ok_iff.mp ran
  obtain ⟨seenShape, isNew, updateChecked⟩ := of_validateStagedUpdate updateRan
  have unchanged : Eq store (stateAfter ((validateStagedUpdate validation.seenUpdates entry).run store)) :=
    within_validateStagedUpdate _ _ store
  rw [updateRan] at unchanged
  have isStore : between = store := unchanged.symm
  rw [isStore] at ranPlace
  obtain ⟨source, resolved, sourceResolved, queueChecked⟩ := run_bind_eq_ok_iff.mp ranPlace
  obtain ⟨-, same⟩ := run_query_eq_ok_iff.mp sourceResolved
  rw [← same] at queueChecked
  have placed : (do
      if entry.lane ≠ Lane.no ∧ !source.lanes.containsLane entry.lane then
        throw (.stagedSourceLaneMissing entry.fiber entry.lane source.lanes)
      let found ← hostRootForUpdatedFiber entry.fiber
      let rootCurrent := (← getRoot .fiberRootStore found.1).current
      if rootCurrent ≠ found.2 then
        throw (.stagedRootCurrentMismatch found.1 rootCurrent found.2)
      return {
        computedLanes := validation.computedLanes.mergeLane entry.lane
        seenUpdates := seen
        roots := validation.roots ++ [found.1] } :
          ConcurrentUpdateM DrainValidation).run store = .ok validationAfter after →
      validationAfter.seenUpdates = seen ∧
        ∃ root, validationAfter.roots = validation.roots ++ [root] ∧
          store.WalkEndsAt entry.fiber root := by
    intro laneChecked
    obtain ⟨-, rootRan⟩ := run_guard_eq_ok_iff.mp laneChecked
    obtain ⟨found, _, foundRan, currentRan⟩ := run_bind_eq_ok_iff.mp rootRan
    obtain ⟨rfl, node, met, live, ends, isHostRoot, stateNode⟩ :=
      FiberRootStore.of_hostRootForUpdatedFiber foundRan
    obtain ⟨record, rootFound, currentChecked⟩ := run_query_bind_eq_ok_iff.mp currentRan
    obtain ⟨-, finished⟩ := run_guard_eq_ok_iff.mp currentChecked
    cases finished
    have rootLive := FiberRootStore.root_eq_ok_iff.mp (mapError_eq_ok_iff.mp rootFound)
    exact ⟨rfl, found.1, rfl, found.2, node, record, met, live, ends, isHostRoot, stateNode, rootLive⟩
  have finished : validationAfter.seenUpdates = seen ∧
      ∃ root, validationAfter.roots = validation.roots ++ [root] ∧
        store.WalkEndsAt entry.fiber root := by
    cases shape : entry.queue with
    | none =>
      rw [shape] at queueChecked
      exact placed queueChecked
    | some queue =>
      rw [shape] at queueChecked
      obtain ⟨-, laneChecked⟩ := run_guard_eq_ok_iff.mp queueChecked
      exact placed laneChecked
  obtain ⟨sameSeen, root, rootShape, ends⟩ := finished
  exact ⟨sameSeen.trans seenShape, isNew, root, rootShape, updateChecked, ends⟩

/-- The updates of accepted entries are different, and every entry has passed its checks. -/
theorem of_validateStagedEntries
    (ran : (staged.foldlM validateStagedEntry validation).run store = .ok validationAfter after) :
    (stagedIds staged).Nodup ∧
      (∀ id ∈ stagedIds staged, id ∉ validation.seenUpdates) ∧
      ∃ roots, validationAfter.roots = validation.roots ++ roots ∧
        List.Forall₂ (StagedEntryChecked store) staged roots := by
  induction staged generalizing validation store with
  | nil =>
    cases ran
    exact ⟨List.nodup_nil, by simp [stagedIds], [], by simp, .nil⟩
  | cons entry staged ih =>
    rw [List.foldlM_cons] at ran
    obtain ⟨between, _, entryRan, restRan⟩ := run_bind_eq_ok_iff.mp ran
    have same : Eq store (stateAfter ((validateStagedEntry validation entry).run store)) :=
      within_validateStagedEntry validation entry store
    rw [entryRan] at same
    cases same
    obtain ⟨seenShape, isNew, root, rootShape, checked⟩ := of_validateStagedEntry entryRan
    obtain ⟨restNodup, restNew, roots, rootsShape, restChecked⟩ := ih restRan
    refine ⟨?_, ?_, root :: roots, by rw [rootsShape, rootShape]; simp, .cons checked restChecked⟩
    · cases shape : entry.update with
      | none =>
        rw [stagedIds, List.filterMap_cons_none shape]
        exact restNodup
      | some id =>
        rw [stagedIds, List.filterMap_cons_some shape, List.nodup_cons]
        refine ⟨fun member => ?_, restNodup⟩
        have notSeen := restNew id member
        rw [seenShape, shape] at notSeen
        exact notSeen List.mem_cons_self
    · intro id member
      cases shape : entry.update with
      | none =>
        rw [stagedIds, List.filterMap_cons_none shape] at member
        have notSeen := restNew id member
        rwa [seenShape, shape] at notSeen
      | some first =>
        rw [stagedIds, List.filterMap_cons_some shape] at member
        rcases List.mem_cons.mp member with rfl | later
        · exact isNew id shape
        · have notSeen := restNew id later
          rw [seenShape, shape] at notSeen
          exact fun seen => notSeen (List.mem_cons_of_mem first seen)

theorem of_validateStagedConcurrentUpdatesForDrain {validated : List FiberRootId}
    (ran : validateStagedConcurrentUpdatesForDrain.run store = .ok validated after) :
    after = store ∧
      (stagedIds store.concurrentUpdates.staged).Nodup ∧
      List.Forall₂ (StagedEntryChecked store) store.concurrentUpdates.staged validated := by
  have unchanged : Eq store (stateAfter (validateStagedConcurrentUpdatesForDrain.run store)) :=
    within_validateStagedConcurrentUpdatesForDrain store
  rw [ran] at unchanged
  obtain ⟨got, _, ranGet, ranChecks⟩ := run_bind_eq_ok_iff.mp ran
  cases ranGet
  obtain ⟨validation, _, ranEntries, ranLanes⟩ := run_bind_eq_ok_iff.mp ranChecks
  obtain ⟨-, finished⟩ := run_guard_eq_ok_iff.mp ranLanes
  cases finished
  obtain ⟨nodup, -, roots, rootsShape, checked⟩ := of_validateStagedEntries ranEntries
  rw [rootsShape]
  exact ⟨unchanged.symm, nodup, checked⟩

theorem appendable_of_checked {roots : List FiberRootId} {id : UpdateId}
    (checked : List.Forall₂ (StagedEntryChecked store) staged roots)
    (member : id ∈ stagedIds staged) :
    (∃ data, store.updateQueues.updates.data? id = some data) ∧ ¬ store.updateQueues.Linked id := by
  induction checked with
  | nil =>
    cases member
  | @cons entry root staged roots entryChecked _ ih =>
    cases shape : entry.update with
    | none =>
      rw [stagedIds, List.filterMap_cons_none shape] at member
      exact ih member
    | some first =>
      rw [stagedIds, List.filterMap_cons_some shape] at member
      rcases List.mem_cons.mp member with rfl | later
      · exact ⟨entryChecked.update.live id shape, entryChecked.update.unlinked id shape⟩
      · exact ih later

end Checks

end FastReact
