import FastReact.DrainChecks
import FastReact.FiberAlternatesLive

namespace FastReact

open ErrorState LinkChain LinkWalk LinkedArena List UpdateQueueStore

/-!
# Draining all or nothing

What the checks have established of one entry is not undone by draining the entries
before it: draining adds lanes to fibers and roots, and it leaves every update live and
every queue with a live tail.  So a drain that has passed its checks succeeds.
-/

def stagedFor (staged : List StagedConcurrentUpdate) (handle : UpdateQueueHandle) : List UpdateId :=
  staged.filterMap fun entry => if entry.queue = some handle then entry.update else none

namespace UpdateQueueStore

variable {store : UpdateQueueStore} {handle : UpdateQueueHandle} {id : UpdateId}
  {data : RootUpdateData}

def TailLive (store : UpdateQueueStore) (handle : UpdateQueueHandle) : Prop :=
  ∃ queue, store.queue handle = .ok queue ∧
    ∀ tail, queue.shared.pending = some tail → ∃ data, store.updates.data? tail = some data

section

variable {ids : List UpdateId} (collected : store.pendingUpdates handle = .ok ids)
include collected

theorem exists_queue_of_pendingUpdates : ∃ queue, store.queue handle = .ok queue := by
  cases found : store.queue handle with
  | ok queue => exact ⟨queue, rfl⟩
  | error error =>
    rw [pendingUpdates, found] at collected
    cases collected

theorem tailLive_of_pendingUpdates : store.TailLive handle := by
  obtain ⟨queue, found⟩ := exists_queue_of_pendingUpdates collected
  refine ⟨queue, found, fun tail isTail => ?_⟩
  rw [pendingUpdates, found] at collected
  cases resolved : store.update tail with
  | ok node => exact ⟨node.data, (data?_of_update_eq_ok resolved).1⟩
  | error error =>
    simp only [bind, Except.bind, isTail, resolved] at collected
    cases collected

end

def appendPending (store : UpdateQueueStore) (handle : UpdateQueueHandle) (id : UpdateId) :
    UpdateQueueStore :=
  stateAfter ((appendPendingRootUpdate handle id).run store)

/-- Appending a live update to a queue with a live tail succeeds, and leaves live what was
live. -/
theorem run_appendPending (tailLive : store.TailLive handle)
    (live : store.updates.data? id = some data) :
    (appendPendingRootUpdate handle id).run store = .ok () (store.appendPending handle id) ∧
      (∀ other, (store.appendPending handle id).updates.data? other = store.updates.data? other) ∧
      ∀ other, store.TailLive other → (store.appendPending handle id).TailLive other := by
  obtain ⟨queue, found, liveTail⟩ := tailLive
  -- Only links and the tail of the queue are changed.
  have ended : ∀ linked : UpdateQueueStore, linked.queues = store.queues →
      (∀ other, linked.updates.data? other = store.updates.data? other) →
      (appendPendingRootUpdate handle id).run store =
        .ok () (linked.changeQueue handle (·.withPending (some id))) →
      (appendPendingRootUpdate handle id).run store = .ok () (store.appendPending handle id) ∧
        (∀ other, (store.appendPending handle id).updates.data? other = store.updates.data? other) ∧
        ∀ other, store.TailLive other → (store.appendPending handle id).TailLive other := by
    intro linked sameQueues sameData ran
    have isAfter : store.appendPending handle id =
        linked.changeQueue handle (·.withPending (some id)) := by
      rw [appendPending, ran, stateAfter]
    have sameQueue : ∀ other, linked.queue other = store.queue other := by
      intro other
      simp only [UpdateQueueStore.queue, sameQueues]
    refine ⟨isAfter ▸ ran, isAfter ▸ sameData, ?_⟩
    rintro other ⟨otherQueue, otherFound, otherLive⟩
    rw [isAfter]
    have changed := queue_changeQueue ((sameQueue handle).trans found) (·.withPending (some id)) other
    by_cases same : other = handle
    · rw [if_pos same] at changed
      refine ⟨_, changed, fun tail isTail => ?_⟩
      obtain rfl : id = tail := Option.some.inj isTail
      exact ⟨data, (sameData id).trans live⟩
    · rw [if_neg same, sameQueue] at changed
      refine ⟨otherQueue, changed.trans otherFound, fun tail isTail => ?_⟩
      obtain ⟨tailData, tailFound⟩ := otherLive tail isTail
      exact ⟨tailData, (sameData tail).trans tailFound⟩
  cases tailShape : queue.shared.pending with
  | none =>
    exact ended (store.withNext id (some id)) rfl (fun other => by simp)
      (run_appendPendingRootUpdate_first live found tailShape)
  | some tail =>
    obtain ⟨tailData, tailFound⟩ := liveTail tail tailShape
    exact ended ((store.withNext id (store.updates.next? tail)).withNext tail (some id)) rfl
      (fun other => by simp) (run_appendPendingRootUpdate_behind live found tailShape tailFound)

/-- The queues after a staged entry has been drained. -/
def drainEntry (store : UpdateQueueStore) (entry : StagedConcurrentUpdate) : UpdateQueueStore :=
  match entry.queue, entry.update with
  | some queue, some update => store.appendPending queue update
  | _, _ => store

def pendingTail (store : UpdateQueueStore) (handle : UpdateQueueHandle) : Option UpdateId :=
  match store.queue handle with
  | .ok queue => queue.shared.pending
  | .error _ => none

variable {members : UpdateQueueHandle → List UpdateId} {queue : UpdateQueue}

@[simp] theorem pendingTail_of_queue (found : store.queue handle = .ok queue) :
    store.pendingTail handle = queue.shared.pending := by
  simp only [pendingTail, found]

/-- The pending updates of the queues are closed rings, and no two queues share one. -/
def PendingApart (store : UpdateQueueStore) (members : UpdateQueueHandle → List UpdateId) : Prop :=
  ∃ datas, RingFamily store.updates store.pendingTail members datas

theorem PendingApart.pendingUpdates (apart : store.PendingApart members)
    (found : store.queue handle = .ok queue) :
    store.pendingUpdates handle = .ok (members handle) := by
  obtain ⟨datas, family⟩ := apart
  have ring := family.rings handle
  rw [pendingTail_of_queue found] at ring
  exact RootQueueView.pendingUpdates_of_ring found ring

/-- An unlinked update that is appended comes last in its queue, and the other queues keep
their updates. -/
theorem PendingApart.append (apart : store.PendingApart members)
    (found : store.queue handle = .ok queue) (live : store.updates.data? id = some data)
    (unlinked : store.updates.next? id = none) :
    (store.appendPending handle id).PendingApart
        (Function.update members handle (members handle ++ [id])) ∧
      (∀ other otherQueue, store.queue other = .ok otherQueue →
        ∃ queueAfter, (store.appendPending handle id).queue other = .ok queueAfter) ∧
      ∀ other otherData, other ≠ id → store.updates.data? other = some otherData →
        store.updates.next? other = none →
        (store.appendPending handle id).updates.data? other = some otherData ∧
        (store.appendPending handle id).updates.next? other = none := by
  obtain ⟨datas, family⟩ := apart
  have ring := family.rings handle
  rw [pendingTail_of_queue found] at ring
  obtain ⟨after, ran, foundAfter, ringAfter, only, extension⟩ :=
    run_appendPendingRootUpdate_ring found ring live (ring.not_mem_of_unlinked unlinked)
  have isAfter : store.appendPending handle id = after := by rw [appendPending, ran, stateAfter]
  rw [isAfter]
  refine ⟨⟨Function.update datas handle (datas handle ++ [data]), ?_⟩, ?_, ?_⟩
  · refine family.replace_one handle ?_ ?_ ?_ ?_
    · intro other different otherId member
      obtain ⟨otherData, -, otherLive⟩ := (family.rings other).holds.live member
      refine extension.get?_eq otherLive ?_
      rw [mem_append, mem_singleton]
      rintro (isPending | rfl)
      · exact family.disjoint other handle different member isPending
      · exact (family.rings other).not_mem_of_unlinked unlinked member
    · intro other different
      simp only [Function.update_of_ne different, and_true]
      simp only [pendingTail, only other different]
    · rw [pendingTail_of_queue foundAfter]
      simpa [UpdateQueue.withPending] using ringAfter
    · intro other member
      rw [Function.update_self, mem_append, mem_singleton] at member
      rcases member with before | rfl
      · exact .inl before
      · exact .inr unlinked
  · intro other otherQueue otherFound
    by_cases same : other = handle
    · exact ⟨_, same ▸ foundAfter⟩
    · exact ⟨otherQueue, (only other same).trans otherFound⟩
  · intro other otherData different otherLive otherUnlinked
    refine ⟨extension.data other otherData otherLive, ?_⟩
    rw [extension.links other otherData otherLive, otherUnlinked]
    simp [different, ring.not_mem_of_unlinked otherUnlinked]

/-- Draining appends to every queue its staged updates in staging order. -/
theorem PendingApart.drainEntries {staged : List StagedConcurrentUpdate}
    (apart : store.PendingApart members)
    (shapes : ∀ entry ∈ staged, entry.queue.isSome = entry.update.isSome)
    (queues : ∀ entry ∈ staged, ∀ handle, entry.queue = some handle →
      ∃ queue, store.queue handle = .ok queue)
    (nodup : (stagedIds staged).Nodup)
    (fresh : ∀ id ∈ stagedIds staged, (∃ data, store.updates.data? id = some data) ∧
      store.updates.next? id = none) :
    (staged.foldl drainEntry store).PendingApart
        (fun handle => members handle ++ stagedFor staged handle) ∧
      ∀ handle queue, store.queue handle = .ok queue →
        ∃ queueAfter, (staged.foldl drainEntry store).queue handle = .ok queueAfter := by
  induction staged generalizing store members with
  | nil => exact ⟨by simpa [stagedFor] using apart, fun handle queue found => ⟨queue, found⟩⟩
  | cons entry staged ih =>
    obtain ⟨shape, restShapes⟩ := forall_mem_cons.mp shapes
    obtain ⟨entryQueue, restQueues⟩ := forall_mem_cons.mp queues
    rw [foldl_cons]
    obtain ⟨fiber, queue, update, lane⟩ := entry
    rcases queue with - | queue <;> rcases update with - | update
    · have rest := ih apart restShapes restQueues nodup fresh
      simpa [stagedFor, drainEntry] using rest
    · cases shape
    · cases shape
    · obtain ⟨⟨data, live⟩, unlinked⟩ := fresh update (by simp [stagedIds])
      obtain ⟨content, found⟩ := entryQueue queue rfl
      obtain ⟨apartAfter, queuesAfter, freshAfter⟩ := apart.append found live unlinked
      have restNodup : update ∉ stagedIds staged ∧ (stagedIds staged).Nodup := by
        simpa [stagedIds] using nodup
      obtain ⟨restApart, restFound⟩ := ih apartAfter restShapes
        (by
          intro other member handle named
          obtain ⟨otherQueue, otherFound⟩ := restQueues other member handle named
          exact queuesAfter handle otherQueue otherFound)
        restNodup.2
        (by
          intro other member
          obtain ⟨⟨otherData, otherLive⟩, otherUnlinked⟩ := fresh other (by
            simpa [stagedIds] using Or.inr member)
          have different : other ≠ update := fun same => restNodup.1 (same ▸ member)
          obtain ⟨liveAfter, unlinkedAfter⟩ :=
            freshAfter other otherData different otherLive otherUnlinked
          exact ⟨⟨otherData, liveAfter⟩, unlinkedAfter⟩)
      refine ⟨?_, ?_⟩
      · have sameMembers : (fun handle => members handle ++
            stagedFor (⟨fiber, some queue, some update, lane⟩ :: staged) handle) =
            fun handle => Function.update members queue (members queue ++ [update]) handle ++
              stagedFor staged handle := by
          funext handle
          by_cases same : handle = queue
          · subst same
            simp [stagedFor]
          · simp [stagedFor, Function.update_of_ne same, Ne.symm same]
        rw [sameMembers]
        exact restApart
      · intro handle otherQueue otherFound
        obtain ⟨queueAfter, foundAfter⟩ := queuesAfter handle otherQueue otherFound
        exact restFound handle queueAfter foundAfter

/-- The updates are live as before, and every queue that had a live tail has one. -/
structure Tracks (store after : UpdateQueueStore) : Prop where
  data : ∀ id, after.updates.data? id = store.updates.data? id
  tails : ∀ handle, store.TailLive handle → after.TailLive handle

namespace Tracks

variable {between after : UpdateQueueStore} {entry : StagedConcurrentUpdate}

theorem refl (store : UpdateQueueStore) : store.Tracks store :=
  ⟨fun _ => rfl, fun _ live => live⟩

theorem trans (first : store.Tracks between) (second : between.Tracks after) :
    store.Tracks after where
  data := fun id => (second.data id).trans (first.data id)
  tails := fun handle live => second.tails handle (first.tails handle live)

theorem run_append {queue : UpdateQueueHandle} {update : UpdateId} (tracks : store.Tracks between)
    (tailLive : store.TailLive queue) (live : store.updates.data? update = some data) :
    (appendPendingRootUpdate queue update).run between =
        .ok () (between.appendPending queue update) ∧
      between.Tracks (between.appendPending queue update) := by
  have liveBetween := (tracks.data update).trans live
  obtain ⟨ran, sameData, tails⟩ := run_appendPending (tracks.tails queue tailLive) liveBetween
  exact ⟨ran, sameData, tails⟩

end Tracks

end UpdateQueueStore

namespace FiberRootStore

variable {start reached : FiberRootStore} {entry : StagedConcurrentUpdate} {root : FiberRootId}
  {fiber : FiberId}

/-- The queue, the fiber and the root of a drained entry are looked up again. -/
def recheckStagedEntry (roots : List FiberRootId) (staged : StagedConcurrentUpdate)
    (expected : FiberRootId) : ConcurrentUpdateM (List FiberRootId) := do
  match staged.queue with
  | some queue =>
      let _ ← query fun store => (store.updateQueues.queue queue).mapError .updateQueue
  | none => pure ()
  let _ ← getFiber .fiberTopology staged.fiber
  let _ ← getRoot .fiberRootStore expected
  return roots

/-- The part of a drain that comes behind the append. -/
def markStagedEntry (roots : List FiberRootId) (staged : StagedConcurrentUpdate)
    (expected : FiberRootId) : ConcurrentUpdateM (List FiberRootId) := do
  let roots ←
    if staged.lane ≠ Lane.no then do
      let root ← markUpdateLaneFromFiberToRoot staged.fiber staged.lane
      if root ≠ expected then
        throw (.drainedWrongRoot staged.fiber expected root)
      pure (if root ∈ roots then roots else roots ++ [root])
    else
      pure roots
  recheckStagedEntry roots staged expected

theorem drainStagedEntry_some (roots : List FiberRootId) (fiber : FiberId)
    (queue : UpdateQueueHandle) (update : UpdateId) (lane : Lane) :
    drainStagedEntry roots (⟨fiber, some queue, some update, lane⟩, root) = (do
      onUpdateQueues .updateQueue (appendPendingRootUpdate queue update)
      markStagedEntry roots ⟨fiber, some queue, some update, lane⟩ root) :=
  rfl

/-- What draining keeps: fibers and roots only get lanes, updates stay live, and nothing is
staged. -/
structure DrainTracks (start reached : FiberRootStore) : Prop where
  fibers : start.fiberArena.GrowsTo reached.fiberArena
  roots : RootsGrow start.roots reached.roots
  queues : start.updateQueues.Tracks reached.updateQueues
  staged : reached.concurrentUpdates = .new

/-- Marking from a fiber whose walk ended at a live root still reaches that root. -/
theorem run_markUpdateLanes_of_ends (alternatesLive : start.fiberArena.AlternatesLive)
    (ends : start.WalkEndsAt fiber root) (fibers : start.fiberArena.GrowsTo reached.fiberArena)
    (rootsGrow : RootsGrow start.roots reached.roots) (lanes : Lanes) :
    ∃ after, (markUpdateLanesFromFiberToRoot fiber lanes).run reached = .ok root after ∧
      reached.GrowsTo after ∧
      ∃ record, after.roots.get? root = some record ∧
        lanes.isSubsetOf record.lanes.pendingLanes = true := by
  obtain ⟨last, node, record, met, found, noParent, isHostRoot, stateNode, rootLive⟩ := ends
  obtain ⟨ancestors, walk, live, short, isLast⟩ := MetFrom.exists_livePath met ⟨node, found⟩
    ((FiberArena.returnFiber?_of_get? found).trans noParent)
  obtain ⟨recordReached, rootReached, -⟩ := rootsGrow root record rootLive
  let between : FiberRootStore :=
    { reached with fiberArena := reached.fiberArena.markPath fiber ancestors lanes }
  have ran : (markUpdateLanesFromFiberToRoot fiber lanes).run reached =
      (markRootOfFiber last lanes).run between := by
    rw [← isLast]
    apply run_markUpdateLanesFromFiberToRoot (fibers.alternatesLive alternatesLive)
    · rw [fibers.returnFiber?]
      exact walk
    · exact fun id member => fibers.isLive_iff.mpr (live id member)
    · rw [fibers.slots]
      exact short
  have toBetween := fibers.trans
    (FiberArena.GrowsTo.markPath reached.fiberArena fiber ancestors lanes)
  obtain ⟨nodeBetween, foundBetween, grownNode⟩ := toBetween.kept last node found
  have sameTag : nodeBetween.tag = node.tag := by rw [grownNode.same]
  have sameStateNode : nodeBetween.stateNode = node.stateNode := by rw [grownNode.same]
  have rootBetween : between.roots.get? root = some recordReached := rootReached
  obtain ⟨roots, recordAfter, marks, rootAfter, -, pending, -⟩ :=
    @run_markRootOfFiber between root last nodeBetween recordReached foundBetween
      (sameTag.trans isHostRoot) (sameStateNode.trans stateNode) rootBetween lanes
  have grows := grows_markUpdateLanesFromFiberToRoot fiber lanes reached
  rw [ran, marks, stateAfter] at grows
  refine ⟨_, ran.trans marks, grows, recordAfter, rootAfter, ?_⟩
  rw [Lanes.isSubsetOf_iff]
  intro index contains
  simp [pending, contains]

theorem WalkEndsAt.source_live (ends : start.WalkEndsAt fiber root) :
    start.fiberArena.IsLive fiber := by
  obtain ⟨last, node, record, met, found, noParent, -⟩ := ends
  obtain ⟨ancestors, -, live, -⟩ := MetFrom.exists_livePath met ⟨node, found⟩
    ((FiberArena.returnFiber?_of_get? found).trans noParent)
  exact live fiber mem_cons_self

theorem DrainTracks.grow {after : FiberRootStore} (tracks : DrainTracks start reached)
    (queues : reached.updateQueues.Tracks after.updateQueues)
    (sameStaged : after.concurrentUpdates = reached.concurrentUpdates)
    (fibers : reached.fiberArena.GrowsTo after.fiberArena)
    (roots : RootsGrow reached.roots after.roots) : DrainTracks start after where
  fibers := tracks.fibers.trans fibers
  roots := tracks.roots.trans roots
  queues := tracks.queues.trans queues
  staged := sameStaged.trans tracks.staged

theorem run_recheckStagedEntry (ends : start.WalkEndsAt entry.fiber root)
    (tracks : DrainTracks start reached)
    (queueLive : ∀ handle, entry.queue = some handle → reached.updateQueues.TailLive handle)
    (roots : List FiberRootId) :
    (recheckStagedEntry roots entry root).run reached = .ok roots reached := by
  obtain ⟨node, found⟩ := tracks.fibers.isLive_iff.mpr ends.source_live
  obtain ⟨last, lastNode, record, -, -, -, -, -, rootLive⟩ := ends
  obtain ⟨recordReached, rootReached, -⟩ := tracks.roots root record rootLive
  unfold recheckStagedEntry
  cases shape : entry.queue with
  | none => simp only [run_bind, run_pure, run_getFiber found, run_getRoot rootReached]
  | some queue =>
    obtain ⟨content, queueFound, -⟩ := queueLive queue shape
    simp only [run_bind, run_pure, run_query, queueFound, Except.mapError,
      run_getFiber found, run_getRoot rootReached]

section

variable (alternatesLive : start.fiberArena.AlternatesLive)
include alternatesLive

theorem run_markStagedEntry
    (ends : start.WalkEndsAt entry.fiber root) (tracks : DrainTracks start reached)
    (queueLive : ∀ handle, entry.queue = some handle → reached.updateQueues.TailLive handle)
    (roots : List FiberRootId) :
    ∃ rootsAfter after,
      (markStagedEntry roots entry root).run reached = .ok rootsAfter after ∧
      reached.GrowsTo after ∧
      ∃ record, after.roots.get? root = some record ∧
        entry.lane.toLanes.isSubsetOf record.lanes.pendingLanes = true := by
  unfold markStagedEntry
  by_cases noLane : entry.lane = Lane.no
  · have rechecked := run_recheckStagedEntry ends tracks queueLive roots
    obtain ⟨last, lastNode, record, -, -, -, -, -, rootLive⟩ := ends
    obtain ⟨recordReached, rootReached, -⟩ := tracks.roots root record rootLive
    refine ⟨roots, reached, ?_, refl_of FiberRootStore.GrowsTo reached, recordReached,
      rootReached, ?_⟩
    · simpa [noLane] using rechecked
    · have nothing : Lane.no.toLanes = Lanes.no := rfl
      rw [noLane, nothing, Lanes.no_isSubsetOf]
  · obtain ⟨after, marked, grows, recorded⟩ :=
      run_markUpdateLanes_of_ends alternatesLive ends tracks.fibers tracks.roots entry.lane.toLanes
    have sameQueues : after.updateQueues = reached.updateQueues := by rw [grows.same]
    have tracksAfter : DrainTracks start after := by
      refine tracks.grow ?_ (by rw [grows.same]) grows.fibers grows.roots
      rw [sameQueues]
      exact .refl _
    have rechecked := run_recheckStagedEntry ends tracksAfter
      (fun handle named => sameQueues ▸ queueLive handle named)
      (if root ∈ roots then roots else roots ++ [root])
    refine ⟨if root ∈ roots then roots else roots ++ [root], after, ?_, grows, recorded⟩
    simpa [noLane, markUpdateLaneFromFiberToRoot, marked] using rechecked

/-- Draining a checked entry succeeds, and leaves what the checks have established of the
others. -/
theorem run_drainStagedEntry
    (checked : StagedEntryChecked start entry root) (tracks : DrainTracks start reached)
    (roots : List FiberRootId) :
    ∃ rootsAfter after,
      (drainStagedEntry roots (entry, root)).run reached = .ok rootsAfter after ∧
      DrainTracks start after ∧
      RootsGrow reached.roots after.roots ∧
      after.updateQueues = reached.updateQueues.drainEntry entry ∧
      ∃ record, after.roots.get? root = some record ∧
        entry.lane.toLanes.isSubsetOf record.lanes.pendingLanes = true := by
  obtain ⟨updateChecked, ends⟩ := checked
  obtain ⟨fiber, queue, update, lane⟩ := entry
  rcases queue with - | queue <;> rcases update with - | update
  · obtain ⟨rootsAfter, after, ran, grows, recorded⟩ :=
      run_markStagedEntry alternatesLive ends tracks (by simp) roots
    have sameQueues : after.updateQueues = reached.updateQueues := by rw [grows.same]
    refine ⟨rootsAfter, after, ran, ?_, grows.roots, sameQueues, recorded⟩
    refine tracks.grow ?_ (by rw [grows.same]) grows.fibers grows.roots
    rw [sameQueues]
    exact .refl _
  · cases updateChecked.shape
  · cases updateChecked.shape
  · obtain ⟨data, live⟩ := updateChecked.live update rfl
    obtain ⟨ids, collected⟩ := updateChecked.pending queue rfl
    have tailLive := tailLive_of_pendingUpdates collected
    obtain ⟨appended, queuesTrack⟩ := tracks.queues.run_append tailLive live
    let between : FiberRootStore :=
      { reached with updateQueues := reached.updateQueues.appendPending queue update }
    have tracksBetween : DrainTracks start between :=
      tracks.grow queuesTrack rfl (.refl _) (.refl _)
    obtain ⟨rootsAfter, after, ran, grows, recorded⟩ :=
      run_markStagedEntry alternatesLive ends tracksBetween
        (by rintro handle ⟨⟩; exact tracksBetween.queues.tails queue tailLive) roots
    have sameQueues : after.updateQueues = between.updateQueues := by rw [grows.same]
    refine ⟨rootsAfter, after, ?_, ?_, grows.roots, sameQueues, recorded⟩
    · rw [drainStagedEntry_some, run_bind, run_onUpdateQueues appended]
      exact ran
    · refine tracksBetween.grow ?_ (by rw [grows.same]) grows.fibers grows.roots
      rw [sameQueues]
      exact .refl _

theorem run_drainStagedEntries {staged : List StagedConcurrentUpdate} {validated : List FiberRootId}
    (checked : List.Forall₂ (StagedEntryChecked start) staged validated)
    (tracks : DrainTracks start reached) (roots : List FiberRootId) :
    ∃ rootsAfter after,
      ((staged.zip validated).foldlM drainStagedEntry roots).run reached = .ok rootsAfter after ∧
      DrainTracks start after ∧
      RootsGrow reached.roots after.roots ∧
      after.updateQueues = staged.foldl drainEntry reached.updateQueues ∧
      ∀ entry ∈ staged, ∃ root record, start.WalkEndsAt entry.fiber root ∧
        after.roots.get? root = some record ∧
        entry.lane.toLanes.isSubsetOf record.lanes.pendingLanes = true := by
  induction checked generalizing reached roots with
  | nil => exact ⟨roots, reached, rfl, tracks, .refl _, rfl, by simp⟩
  | @cons entry root staged validated entryChecked restChecked ih =>
    obtain ⟨rootsBetween, between, ran, tracksBetween, rootsGrow, sameQueues, record, rootLive,
      pending⟩ := run_drainStagedEntry alternatesLive entryChecked tracks roots
    obtain ⟨rootsAfter, after, ranRest, tracksAfter, rootsGrowLater, queuesAfter, recorded⟩ :=
      ih tracksBetween rootsBetween
    refine ⟨rootsAfter, after, ?_, tracksAfter, rootsGrow.trans rootsGrowLater, ?_, ?_⟩
    · rw [zip_cons_cons, foldlM_cons, run_bind, ran]
      exact ranRest
    · rw [queuesAfter, sameQueues, foldl_cons]
    · obtain ⟨recordAfter, rootLiveAfter, -, pendingKept⟩ :=
        rootsGrowLater root record rootLive
      exact forall_mem_cons.mpr ⟨⟨root, recordAfter, entryChecked.root, rootLiveAfter,
        Lanes.isSubsetOf_trans pending pendingKept⟩, recorded⟩

end

theorem updateChecked_of_mem {staged : List StagedConcurrentUpdate} {validated : List FiberRootId}
    (checked : List.Forall₂ (StagedEntryChecked start) staged validated) (member : entry ∈ staged) :
    StagedUpdateChecked start.updateQueues entry := by
  induction checked with
  | nil =>
    cases member
  | cons first _ ih =>
    rcases mem_cons.mp member with rfl | later
    · exact first.update
    · exact ih later

/-- A drain is refused by its checks and changes nothing, or it drains every entry. -/
theorem run_finishQueueing_cases (alternatesLive : start.fiberArena.AlternatesLive) :
    (∃ error, validateStagedConcurrentUpdatesForDrain.run start = .error error start ∧
      finishQueueingConcurrentUpdates.run start = .error error start) ∨
    ∃ validated roots after,
      validateStagedConcurrentUpdatesForDrain.run start = .ok validated start ∧
      finishQueueingConcurrentUpdates.run start = .ok roots after ∧
      after.concurrentUpdates = .new ∧
      (stagedIds start.concurrentUpdates.staged).Nodup ∧
      List.Forall₂ (StagedEntryChecked start) start.concurrentUpdates.staged validated ∧
      after.updateQueues = start.concurrentUpdates.staged.foldl drainEntry start.updateQueues ∧
      ∀ entry ∈ start.concurrentUpdates.staged, ∃ root record,
        start.WalkEndsAt entry.fiber root ∧ after.roots.get? root = some record ∧
        entry.lane.toLanes.isSubsetOf record.lanes.pendingLanes = true := by
  cases ran : validateStagedConcurrentUpdatesForDrain.run start with
  | error error after =>
    have unchanged : Eq start (stateAfter (validateStagedConcurrentUpdatesForDrain.run start)) :=
      within_validateStagedConcurrentUpdatesForDrain start
    rw [ran, stateAfter] at unchanged
    rw [← unchanged] at ran ⊢
    refine .inl ⟨error, rfl, ?_⟩
    rw [finishQueueingConcurrentUpdates, run_bind, ran]
  | ok validated after =>
    obtain ⟨same, nodup, checked⟩ := of_validateStagedConcurrentUpdatesForDrain ran
    rw [same] at ran ⊢
    obtain ⟨cleared, isCleared⟩ : ∃ cleared : FiberRootStore,
      cleared = { start with concurrentUpdates := .new } := ⟨_, rfl⟩
    have tracks : DrainTracks start cleared := by
      rw [isCleared]
      exact ⟨.refl _, .refl _, .refl _, rfl⟩
    obtain ⟨roots, drained, ranDrain, tracksAfter, -, queuesAfter, recorded⟩ :=
      run_drainStagedEntries alternatesLive checked tracks []
    have sameQueues : cleared.updateQueues = start.updateQueues := by rw [isCleared]
    rw [sameQueues] at queuesAfter
    refine .inr ⟨validated, roots, drained, rfl, ?_, tracksAfter.staged, nodup, checked,
      queuesAfter, recorded⟩
    simp only [finishQueueingConcurrentUpdates, run_bind, ran, run_modifyGet, ← isCleared]
    exact ranDrain

/-- A drain of a store whose fibers the operations made is all or nothing.  The new updates
come last in the pending lists when these are closed rings that share no update. -/
theorem finish_queueing_all_or_nothing
    (store : FiberRootStore)
    (built : store.fiberArena.Built) :
    (∀ error after, finishQueueingConcurrentUpdates.run store = .error error after →
      after = store) ∧
    (∀ validated checked,
      validateStagedConcurrentUpdatesForDrain.run store = .ok validated checked →
      ∃ roots after, finishQueueingConcurrentUpdates.run store = .ok roots after) ∧
    ∀ roots after, finishQueueingConcurrentUpdates.run store = .ok roots after →
      after.concurrentUpdates = .new ∧
      (∀ entry ∈ store.concurrentUpdates.staged, ∃ root record,
        store.WalkEndsAt entry.fiber root ∧ after.roots.get? root = some record ∧
        entry.lane.toLanes.isSubsetOf record.lanes.pendingLanes = true) ∧
      ((∃ members, store.updateQueues.PendingApart members) →
        ∀ handle pending, store.updateQueues.pendingUpdates handle = .ok pending →
          after.updateQueues.pendingUpdates handle =
            .ok (pending ++ stagedFor store.concurrentUpdates.staged handle)) := by
  rcases run_finishQueueing_cases built.alternatesLive with
    ⟨error, refused, failed⟩ |
    ⟨validated, roots, after, accepted, finished, noneStaged, nodup, checked, queuesAfter, recorded⟩
  · rw [refused, failed]
    refine ⟨?_, by simp, by simp⟩
    intro _ after isAfter
    exact (EStateM.Result.error.inj isAfter).2.symm
  · rw [accepted, finished]
    refine ⟨by simp, fun _ _ _ => ⟨roots, after, rfl⟩, ?_⟩
    intro _ _ isAfter
    obtain ⟨-, rfl⟩ := EStateM.Result.ok.inj isAfter
    refine ⟨noneStaged, recorded, ?_⟩
    rintro ⟨members, apart⟩ handle pending collected
    obtain ⟨queue, found⟩ := exists_queue_of_pendingUpdates collected
    obtain ⟨apartAfter, foundAfter⟩ := apart.drainEntries
      (fun entry member => (updateChecked_of_mem checked member).shape)
      (fun entry member => (updateChecked_of_mem checked member).queue) nodup
      (by
        intro id member
        obtain ⟨live, unlinked⟩ := appendable_of_checked checked member
        exact ⟨live, by simpa [Linked] using unlinked⟩)
    obtain ⟨queueAfter, foundLast⟩ := foundAfter handle queue found
    obtain rfl : members handle = pending := by
      have same := (apart.pendingUpdates found).symm.trans collected
      exact Except.ok.inj same
    rw [queuesAfter]
    exact apartAfter.pendingUpdates foundLast

/-- Two roots with a staged update each.  Another update is pending in the queues of both. -/
def sharedPendingUpdate : FiberRootStore :=
  stateAfter ((do
    let first ← mapError .fiberRootStore (createClientRoot .none .concurrent)
    let second ← mapError .fiberRootStore (createClientRoot .none .concurrent)
    let firstQueue ← mapError .fiberRootStore (ensureHostRootUpdateQueue first)
    let secondQueue ← mapError .fiberRootStore (ensureHostRootUpdateQueue second)
    let shared ← onUpdateQueues .updateQueue (createRootUpdate Lane.default)
    onUpdateQueues .updateQueue (appendPendingRootUpdate firstQueue shared)
    onUpdateQueues .updateQueue (appendPendingRootUpdate secondQueue shared)
    let update ← onUpdateQueues .updateQueue (createRootUpdate Lane.default)
    let other ← onUpdateQueues .updateQueue (createRootUpdate Lane.default)
    let _ ← enqueueConcurrentHostRootUpdate ⟨0, 0⟩ firstQueue update Lane.default
    let _ ← enqueueConcurrentHostRootUpdate ⟨1, 0⟩ secondQueue other Lane.default :
      ConcurrentUpdateM Unit).run .new)

/-- The calls that make the fibers of the two roots. -/
def sharedPendingUpdateCalls : List FiberArenaCall :=
  [.createFiber .hostRoot none .none .concurrent,
    .modifyFiber ⟨0, 0⟩ fun node => { node with stateNode := some ⟨0, 0⟩, memoizedState := ⟨1⟩ },
    .createFiber .hostRoot none .none .concurrent,
    .modifyFiber ⟨1, 0⟩ fun node => { node with stateNode := some ⟨1, 0⟩, memoizedState := ⟨2⟩ },
    .modifyFiber ⟨0, 0⟩ fun node => { node with updateQueue := ⟨1⟩ },
    .modifyFiber ⟨1, 0⟩ fun node => { node with updateQueue := ⟨2⟩ },
    .modifyFiber ⟨0, 0⟩ (·.mergeLanes Lanes.default),
    .modifyFiber ⟨1, 0⟩ (·.mergeLanes Lanes.default)]

theorem built_sharedPendingUpdate : sharedPendingUpdate.fiberArena.Built :=
  ⟨sharedPendingUpdateCalls,
    by simp [sharedPendingUpdateCalls, FiberArena.KeepsAlternate, FiberNode.mergeLanes],
    by decide +kernel⟩

/-- Both staged updates are drained. -/
theorem finish_queueing_all_or_nothing_sample :
    ∃ roots after, finishQueueingConcurrentUpdates.run sharedPendingUpdate = .ok roots after ∧
      ∀ entry ∈ sharedPendingUpdate.concurrentUpdates.staged, ∃ root record,
        sharedPendingUpdate.WalkEndsAt entry.fiber root ∧ after.roots.get? root = some record ∧
        entry.lane.toLanes.isSubsetOf record.lanes.pendingLanes = true := by
  obtain ⟨unchanged, -, effects⟩ :=
    finish_queueing_all_or_nothing sharedPendingUpdate built_sharedPendingUpdate
  have noneStaged : (stateAfter (finishQueueingConcurrentUpdates.run
      sharedPendingUpdate)).concurrentUpdates.staged = [] := by
    decide +kernel
  have wereStaged : sharedPendingUpdate.concurrentUpdates.staged ≠ [] := by decide +kernel
  cases ran : finishQueueingConcurrentUpdates.run sharedPendingUpdate with
  | error error after =>
    rw [ran, stateAfter, unchanged error after ran] at noneStaged
    exact absurd noneStaged wereStaged
  | ok roots after => exact ⟨roots, after, rfl, (effects roots after ran).2.1⟩

/-- The queue of the first root gets the update that is staged for the other. -/
theorem shared_update_breaks_staging_order :
    (∃ roots, finishQueueingConcurrentUpdates.run sharedPendingUpdate =
      .ok roots (stateAfter (finishQueueingConcurrentUpdates.run sharedPendingUpdate))) ∧
    (sharedPendingUpdate.updateQueues.pendingUpdates ⟨1⟩).toOption = some [⟨0, 0⟩] ∧
    stagedFor sharedPendingUpdate.concurrentUpdates.staged ⟨1⟩ = [⟨1, 0⟩] ∧
    ((stateAfter (finishQueueingConcurrentUpdates.run
      sharedPendingUpdate)).updateQueues.pendingUpdates ⟨1⟩).toOption =
        some [⟨0, 0⟩, ⟨2, 0⟩, ⟨1, 0⟩] := by
  refine ⟨?_, by decide +kernel, by decide +kernel, by decide +kernel⟩
  rcases run_finishQueueing_cases built_sharedPendingUpdate.alternatesLive with
    ⟨error, -, failed⟩ | ⟨-, roots, after, -, finished, -⟩
  · have noneStaged : (stateAfter (finishQueueingConcurrentUpdates.run
        sharedPendingUpdate)).concurrentUpdates.staged = [] := by
      decide +kernel
    have wereStaged : sharedPendingUpdate.concurrentUpdates.staged ≠ [] := by decide +kernel
    rw [failed, stateAfter] at noneStaged
    exact absurd noneStaged wereStaged
  · rw [finished]
    exact ⟨roots, rfl⟩

end FiberRootStore

end FastReact
