import FastReact.CommitAtOnce

namespace FastReact

open ErrorState FiberArena LinkChain LinkedArena RootUpdateData RootWorkLoopError UpdateQueueStore

/-!
# Renders that are not committed

A render moves the pending updates of the current queue behind its base list and leaves
base state and fiber as they are.  So a render that is not committed can be repeated: it
starts from the same updates in the same order and ends with the same state and lanes.
-/

/-- The updates of a queue in the order a render handles them, with what they contain. -/
def UpdateQueueStore.queuedUpdates (store : UpdateQueueStore) (handle : UpdateQueueHandle) :
    Except UpdateQueueError (List (UpdateId × Option RootUpdateData)) :=
  if handle.isNone then
    .ok []
  else do
    let base ← store.baseUpdates handle
    let pending ← store.pendingUpdates handle
    return (base ++ pending).map fun id => (id, store.updates.data? id)

/-- Render a root once and then a number of times again, with nothing in between, and
report the last render. -/
def renderRepeatedly (rootId : FiberRootId) (renderLanes : Lanes) :
    Nat → RootWorkLoopM HostRootRenderPhaseRecord
  | 0 => renderHostRootForLanes rootId renderLanes
  | times + 1 => do
      let _ ← renderHostRootForLanes rootId renderLanes
      renderRepeatedly rootId renderLanes times

/-- What a render of a root starts from: the current fiber, whose work in progress can be
reused, and its queue with the updates in the order they are handled. -/
structure CurrentQueue (store : FiberRootStore) (rootId : FiberRootId) (current : FiberId)
    (handle : UpdateQueueHandle) (baseState : HostRootState) (ids : List UpdateId)
    (updates : List RootUpdateData) : Prop where
  root : ∃ root, store.roots.get? rootId = some root ∧ root.current = current
  fiber : ∃ node, store.fiberArena.get? current = some node ∧ node.tag = .hostRoot ∧
    node.updateQueue = handle ∧
    ∀ existing, node.alternate = some existing →
      store.fiberArena.validateAlternatePair current existing = .ok ()
  queue : ∃ queue baseIds pendingIds base pending,
    RootQueueView store.updateQueues handle queue baseIds pendingIds base pending ∧
    queue.baseState = baseState ∧ baseIds ++ pendingIds = ids ∧ base ++ pending = updates

variable {store : FiberRootStore} {node : FiberNode}

/-- The work in progress of a live fiber can be made when it has none, or when the two are
a valid pair. -/
theorem createWorkInProgress_succeeds {arena : FiberArena} {current : FiberId}
    (live : arena.get? current = some node)
    (pairs : ∀ existing, node.alternate = some existing →
      arena.validateAlternatePair current existing = .ok ())
    (pendingProps : PropsHandle) :
    ∃ workInProgress after,
      (createWorkInProgress current pendingProps).run arena = .ok workInProgress after ∧
      current ≠ workInProgress ∧
      after.get? current = some (node.setAlternate (some workInProgress)) ∧
      after.get? workInProgress = some (node.cloneForAlternate current pendingProps) := by
  rcases run_createWorkInProgress arena current pendingProps with
    ⟨refused, error, failed⟩ | ⟨found, work, after, ran, foundLive, different, -, -, nodes⟩
  · cases paired : node.alternate with
    | some existing =>
      exact absurd (pairs existing paired)
        (refused existing ((alternate?_of_get? live).trans paired))
    | none =>
      obtain ⟨fresh, created, ranCreate, dead, -, nodesCreated⟩ :=
        run_createFiber arena node.tag node.key pendingProps node.mode
      have different : current ≠ fresh := by
        rintro rfl
        exact dead ⟨node, live⟩
      obtain ⟨after, ran, -⟩ := run_rewriteWorkInProgress
        ((nodesCreated current).trans ((if_neg different).trans live))
        ⟨_, (nodesCreated fresh).trans (if_pos rfl)⟩ different pendingProps
      simp only [createWorkInProgress, run_bind, run_query, get_eq_ok_iff.mpr live,
        paired, ranCreate] at failed
      cases ran.symm.trans failed
  · obtain rfl : node = found := Option.some.inj (live.symm.trans foundLive)
    refine ⟨work, after, ran, different, ?_, ?_⟩
    · rw [nodes, if_neg different, if_pos rfl]
    · rw [nodes, if_pos rfl]

theorem createHostRootWorkInProgress_succeeds {rootId : FiberRootId} {root : FiberRoot}
    (rootFound : store.roots.get? rootId = some root)
    (live : store.fiberArena.get? root.current = some node) (isHostRoot : node.tag = .hostRoot)
    (pairs : ∀ existing, node.alternate = some existing →
      store.fiberArena.validateAlternatePair root.current existing = .ok ())
    (pendingProps : PropsHandle) :
    ∃ work arena,
      (createHostRootWorkInProgress rootId pendingProps).run store =
        .ok work { store with fiberArena := arena } ∧
      root.current ≠ work ∧
      arena.get? root.current = some (node.setAlternate (some work)) ∧
      arena.get? work = some (node.cloneForAlternate root.current pendingProps) := by
  obtain ⟨work, arena, ranCreate, different, currentAfter, workAfter⟩ :=
    createWorkInProgress_succeeds live pairs pendingProps
  refine ⟨work, arena, ?_, different, currentAfter, workAfter⟩
  obtain ⟨created, isCreated⟩ : ∃ created : FiberRootStore,
    created = { store with fiberArena := arena } := ⟨_, rfl⟩
  have workFound : created.fiberArena.get? work =
      some (node.cloneForAlternate root.current pendingProps) := by rw [isCreated, workAfter]
  have ranFibers : (onFibers WorkInProgressError.fiberTopology
      (createWorkInProgress root.current pendingProps)).run store = .ok work created := by
    rw [run_onFibers ranCreate, isCreated]
  rw [← isCreated]
  simp [createHostRootWorkInProgress, run_bind, run_getRoot rootFound, run_getFiber live,
    isHostRoot, ranFibers, run_getFiber workFound, FiberNode.cloneForAlternate]

theorem isNone_ne_true_of_queue {store : UpdateQueueStore} {handle : UpdateQueueHandle}
    {queue : UpdateQueue} (found : store.queue handle = .ok queue) : handle.isNone ≠ true := by
  intro isNone
  rw [UpdateQueueStore.queue, if_pos isNone] at found
  cases found

theorem run_ensureHostRootUpdateQueue_of_queue {rootId : FiberRootId} {root : FiberRoot}
    (rootFound : store.roots.get? rootId = some root)
    (live : store.fiberArena.get? root.current = some node)
    (hasQueue : node.updateQueue.isNone ≠ true) :
    (ensureHostRootUpdateQueue rootId).run store = .ok node.updateQueue store := by
  have isSome : node.updateQueue.isSome = true := by
    simpa [OpaqueHandle.isSome, OpaqueHandle.isNone] using hasQueue
  simp only [ensureHostRootUpdateQueue, run_bind, run_getRoot rootFound,
    run_getFiber live, isSome, if_true, run_pure]

theorem run_refreshUpdateQueueForWorkInProgress {handle copy : UpdateQueueHandle}
    {copied : UpdateQueueStore} {work : FiberId} {workNode : FiberNode}
    (hasQueue : handle.isNone ≠ true)
    (ranClone : (cloneHostRootUpdateQueue handle).run store.updateQueues = .ok copy copied)
    (workFound : store.fiberArena.get? work = some workNode) (rootId : FiberRootId)
    (current : FiberId) :
    (refreshUpdateQueueForWorkInProgress rootId current work handle).run store =
      .ok copy { store with
        updateQueues := copied
        fiberArena := store.fiberArena.changeFiber work fun node =>
          { node with updateQueue := copy } } := by
  obtain ⟨cloned, isCloned⟩ : ∃ cloned : FiberRootStore,
    cloned = { store with updateQueues := copied } := ⟨_, rfl⟩
  have ranCloned : (onUpdateQueues updateQueue
      (cloneHostRootUpdateQueue handle)).run store = .ok copy cloned := by
    rw [run_onUpdateQueues ranClone, isCloned]
  have workCloned : cloned.fiberArena.get? work = some workNode := by rw [isCloned, workFound]
  rw [refreshUpdateQueueForWorkInProgress, if_neg hasQueue, run_bind, ranCloned]
  dsimp only
  rw [run_bind, run_onFibers (run_modifyFiber workCloned _), isCloned]
  rfl

namespace CurrentQueue

variable {rootId : FiberRootId} {current : FiberId} {handle : UpdateQueueHandle}
  {baseState : HostRootState} {ids : List UpdateId} {updates : List RootUpdateData}

section

variable (starts : CurrentQueue store rootId current handle baseState ids updates)
include starts

theorem queuedUpdates_eq_ok :
    store.updateQueues.queuedUpdates handle = .ok (ids.zip (updates.map some)) := by
  obtain ⟨queue, baseIds, pendingIds, base, pending, view, -, rfl, rfl⟩ := starts.queue
  have hasQueue : handle.isNone ≠ true := isNone_ne_true_of_queue view.found
  have holds : (baseIds ++ pendingIds).map store.updateQueues.updates.data? =
      (base ++ pending).map some :=
    view.basePath.holds.append view.pendingRing.holds
  rw [queuedUpdates, if_neg hasQueue, view.baseUpdates_eq_ok, view.pendingUpdates_eq_ok, ← holds,
    ← List.map_prod_left_eq_zip]
  rfl

/-- A render from a current queue succeeds, and leaves the same current queue. -/
theorem run_renderHostRootForLanes (renderLanes : Lanes) :
    ∃ record rendered,
      (renderHostRootForLanes rootId renderLanes).run store = .ok record rendered ∧
      record.current = current ∧
      record.currentUpdateQueue = handle ∧
      record.resultingElement =
        (renderedRootState renderLanes renderLanes baseState updates).element ∧
      rendered.hostRootState record.memoizedState =
        .ok (renderedRootState renderLanes renderLanes baseState updates) ∧
      record.remainingLanes = leftoverRootLanes renderLanes renderLanes updates ∧
      CurrentQueue rendered rootId current handle baseState ids updates := by
  obtain ⟨root, rootFound, rfl⟩ := starts.root
  obtain ⟨node, live, isHostRoot, rfl, pairs⟩ := starts.fiber
  obtain ⟨queue, baseIds, pendingIds, base, pending, view, rfl, rfl, rfl⟩ := starts.queue
  have hasQueue : node.updateQueue.isNone ≠ true := isNone_ne_true_of_queue view.found
  have ensured := run_ensureHostRootUpdateQueue_of_queue rootFound live hasQueue
  obtain ⟨work, arena, ranCreate, different, currentCreated, workCreated⟩ :=
    createHostRootWorkInProgress_succeeds rootFound live isHostRoot pairs .none
  obtain ⟨copy, copied, ranClone, notCurrent, -, -, sameQueues, copyView⟩ :=
    view.run_cloneHostRootUpdateQueue
  have currentFound : copied.queue node.updateQueue = .ok queue :=
    (sameQueues _ notCurrent.symm).trans view.found
  obtain ⟨first, last, clones, processed, currentFirst, currentLast, ranPass, -, currentView, -⟩ :=
    copyView.run_processShared notCurrent.symm currentFound rfl rfl rfl renderLanes renderLanes
  -- The stores between the steps of the render.
  obtain ⟨created, isCreated⟩ : ∃ created : FiberRootStore,
    created = { store with fiberArena := arena } := ⟨_, rfl⟩
  rw [← isCreated] at ranCreate
  have workFound : created.fiberArena.get? work =
      some (node.cloneForAlternate root.current .none) := by rw [isCreated, workCreated]
  have ranRefresh := run_refreshUpdateQueueForWorkInProgress hasQueue
    (by rw [isCreated]; exact ranClone) workFound rootId root.current
  obtain ⟨refreshed, isRefreshed⟩ : ∃ refreshed : FiberRootStore,
    refreshed = { created with
      updateQueues := copied
      fiberArena := created.fiberArena.changeFiber work fun node =>
        { node with updateQueue := copy } } := ⟨_, rfl⟩
  rw [← isRefreshed] at ranRefresh
  have sameCopied : refreshed.updateQueues = copied := by rw [isRefreshed]
  have ranPassed := run_onUpdateQueues (sameCopied ▸ ranPass) updateQueue
  obtain ⟨passed, isPassed⟩ : ∃ passed : FiberRootStore,
    passed = { refreshed with
      updateQueues := processed
      hostRootStates := refreshed.hostRootStates ++
        [renderedRootState renderLanes renderLanes queue.baseState (base ++ pending)] } := ⟨_, rfl⟩
  have ranKept : (insertHostRootState
      (renderedRootState renderLanes renderLanes queue.baseState (base ++ pending)) :
        RootWorkLoopM StateHandle).run { refreshed with updateQueues := processed } =
      .ok ⟨refreshed.hostRootStates.length + 1⟩ passed := by
    rw [isPassed]
    rfl
  have workPassed : passed.fiberArena.get? work = some
      { (node.cloneForAlternate root.current .none) with updateQueue := copy } := by
    rw [isPassed, isRefreshed, get?_changeFiber, if_pos rfl, workFound]
    rfl
  obtain ⟨written, isWritten⟩ : ∃ written : FiberRootStore,
    written = { passed with
      fiberArena := passed.fiberArena.changeFiber work fun node =>
        { node with
          memoizedState := ⟨refreshed.hostRootStates.length + 1⟩
          lanes := leftoverRootLanes renderLanes renderLanes (base ++ pending) } } := ⟨_, rfl⟩
  have ranWritten : (onFibers fiberTopology (modifyFiber work fun node =>
      { node with
        memoizedState := ⟨refreshed.hostRootStates.length + 1⟩
        lanes := leftoverRootLanes renderLanes renderLanes (base ++ pending) })).run passed =
      .ok () written := by
    rw [run_onFibers (run_modifyFiber workPassed _), isWritten]
  have writtenRoot : written.roots.get? rootId = some root := by
    rw [isWritten, isPassed, isRefreshed, isCreated, rootFound]
  have ranRecorded := run_modifyRoot writtenRoot fiberRootStore
    (FiberRoot.onScheduling (·.recordRenderPhaseWork work renderLanes .completed))
  have currentAfter : written.fiberArena.get? root.current = some (node.setAlternate (some work)) := by
    rw [isWritten, get?_changeFiber, if_neg different, isPassed, isRefreshed, get?_changeFiber,
      if_neg different, isCreated, currentCreated]
  have workAfter : written.fiberArena.get? work = some
      { (node.cloneForAlternate root.current .none) with
        updateQueue := copy
        memoizedState := ⟨refreshed.hostRootStates.length + 1⟩
        lanes := leftoverRootLanes renderLanes renderLanes (base ++ pending) } := by
    rw [isWritten, get?_changeFiber, if_pos rfl, workPassed]
    rfl
  refine ⟨_, _, run_bind_eq_ok_iff.mpr ⟨_, _, run_getRoot rootFound _,
    run_bind_eq_ok_iff.mpr ⟨_, _, run_mapError_eq_ok_iff.mpr ensured,
    run_bind_eq_ok_iff.mpr ⟨_, _, run_mapError_eq_ok_iff.mpr ranCreate,
    run_bind_eq_ok_iff.mpr ⟨_, _, ranRefresh,
    run_bind_eq_ok_iff.mpr ⟨_, _, ranPassed,
    run_bind_eq_ok_iff.mpr ⟨_, _, ranKept,
    run_bind_eq_ok_iff.mpr ⟨_, _, ranWritten,
    run_bind_eq_ok_iff.mpr ⟨_, _, ranRecorded, rfl⟩⟩⟩⟩⟩⟩⟩⟩, rfl, rfl, rfl, ?_, rfl, ?_⟩
  · simp [FiberRootStore.hostRootState, OpaqueHandle.isNone, isWritten, isPassed]
  constructor
  · refine ⟨root.onScheduling (·.recordRenderPhaseWork work renderLanes .completed), ?_, rfl⟩
    rw [SlotArena.get?_modify, if_pos rfl, writtenRoot]
    rfl
  · refine ⟨node.setAlternate (some work), currentAfter, isHostRoot, rfl, ?_⟩
    intro existing isWork
    obtain rfl : work = existing := Option.some.inj isWork
    exact validateAlternatePair_eq_ok currentAfter workAfter different rfl rfl rfl rfl
  · have sameQueues : written.updateQueues = processed := by rw [isWritten, isPassed]
    rw [← sameQueues] at currentView
    exact ⟨_, _, _, _, _, currentView, rfl, by simp, by simp⟩

theorem run_renderRepeatedly (renderLanes : Lanes) (times : Nat) :
    ∃ record rendered,
      (renderRepeatedly rootId renderLanes times).run store = .ok record rendered ∧
      record.current = current ∧
      record.currentUpdateQueue = handle ∧
      record.resultingElement =
        (renderedRootState renderLanes renderLanes baseState updates).element ∧
      rendered.hostRootState record.memoizedState =
        .ok (renderedRootState renderLanes renderLanes baseState updates) ∧
      record.remainingLanes = leftoverRootLanes renderLanes renderLanes updates ∧
      CurrentQueue rendered rootId current handle baseState ids updates := by
  induction times generalizing store with
  | zero => exact starts.run_renderHostRootForLanes renderLanes
  | succ times ih =>
    obtain ⟨first, between, ran, -, -, -, -, -, startsAgain⟩ :=
      starts.run_renderHostRootForLanes renderLanes
    obtain ⟨record, rendered, ranRest, rest⟩ := ih startsAgain
    exact ⟨record, rendered, run_bind_eq_ok_iff.mpr ⟨first, between, ran, ranRest⟩, rest⟩

end

end CurrentQueue

namespace UpdateQueueStore

/-- A queue, when it is there, has a base list that ends, a pending ring, and no update in
both. -/
def QueueHolds (store : UpdateQueueStore) (handle : UpdateQueueHandle) : Prop :=
  ∀ queue, store.queue handle = .ok queue →
    ∃ baseIds pendingIds base pending,
      RootQueueView store handle queue baseIds pendingIds base pending

end UpdateQueueStore

def FiberRootStore.CurrentQueueHolds (store : FiberRootStore) (rootId : FiberRootId) : Prop :=
  ∀ root node, store.roots.get? rootId = some root →
    store.fiberArena.get? root.current = some node →
    store.updateQueues.QueueHolds node.updateQueue

section FirstRender

variable {ensured rendered : FiberRootStore} {rootId : FiberRootId} {renderLanes : Lanes}
  {record : HostRootRenderPhaseRecord} {root : FiberRoot} {handle : UpdateQueueHandle}

theorem queueView_new {store : UpdateQueueStore} {baseState : HostRootState}
    (found : store.queue handle = .ok (UpdateQueue.new baseState)) :
    RootQueueView store handle (UpdateQueue.new baseState) [] [] [] [] :=
  ⟨found, ⟨⟨rfl, rfl⟩, rfl⟩, ⟨rfl, rfl⟩, List.disjoint_nil_left _⟩

/-- A render that succeeds starts from a current queue once that has been ensured. -/
theorem exists_currentQueue_of_run (holds : store.CurrentQueueHolds rootId)
    (ran : (renderHostRootForLanes rootId renderLanes).run store = .ok record rendered) :
    ∃ root node ensured handle baseState ids updates,
      store.roots.get? rootId = some root ∧
      store.fiberArena.get? root.current = some node ∧
      store.updateQueues.queuedUpdates node.updateQueue = .ok (ids.zip (updates.map some)) ∧
      CurrentQueue ensured rootId root.current handle baseState ids updates ∧
      (renderHostRootForLanes rootId renderLanes).run ensured =
        (renderHostRootForLanes rootId renderLanes).run store := by
  have ranFirst := ran
  obtain ⟨root, rootFound, ran⟩ := run_getRoot_bind_eq_ok_iff.mp ran
  obtain ⟨handle, ensured, ensureRan, ran⟩ := run_bind_eq_ok_iff.mp ran
  rw [run_mapError_eq_ok_iff] at ensureRan
  have ranLater := ran
  obtain ⟨root', node, rootFound', nodeFound, sameRoots, ensuredFound, -, dealt⟩ :=
    ensureHostRootUpdateQueue_ensures ensureRan
  obtain rfl : root = root' := Option.some.inj (rootFound.symm.trans rootFound')
  have ensuredRoot : ensured.roots.get? rootId = some root := sameRoots ▸ rootFound
  obtain ⟨work, created, createRan, ran⟩ := run_bind_eq_ok_iff.mp ran
  rw [run_mapError_eq_ok_iff] at createRan
  obtain ⟨isHostRoot, -, -, sameQueues, -, -, -, pairs⟩ :=
    createHostRootWorkInProgress_creates ensuredRoot ensuredFound createRan
  obtain ⟨copy, refreshed, refreshRan, -⟩ := run_bind_eq_ok_iff.mp ran
  rw [refreshUpdateQueueForWorkInProgress] at refreshRan
  obtain ⟨-, refreshRan⟩ := run_guard_eq_ok_iff.mp refreshRan
  obtain ⟨_, _, cloneRan, -⟩ := run_bind_eq_ok_iff.mp refreshRan
  obtain ⟨copied, copiedRan, -⟩ := run_focus_eq_ok_iff.mp (run_mapError_eq_ok_iff.mp cloneRan)
  obtain ⟨queue, _, queueRan, -⟩ := run_bind_eq_ok_iff.mp copiedRan
  have queueFound : ensured.updateQueues.queue handle = .ok queue := by
    rw [← sameQueues]
    exact (run_query_eq_ok_iff.mp queueRan).1
  have starts : ∀ baseIds pendingIds base pending,
      RootQueueView ensured.updateQueues handle queue baseIds pendingIds base pending →
      CurrentQueue ensured rootId root.current handle queue.baseState (baseIds ++ pendingIds)
        (base ++ pending) :=
    fun baseIds pendingIds base pending view =>
      ⟨⟨root, ensuredRoot, rfl⟩, ⟨_, ensuredFound, isHostRoot, rfl, pairs⟩,
        ⟨queue, baseIds, pendingIds, base, pending, view, rfl, rfl, rfl⟩⟩
  have sameRun : (renderHostRootForLanes rootId renderLanes).run ensured = .ok record rendered :=
    run_bind_eq_ok_iff.mpr ⟨root, ensured, run_getRoot ensuredRoot _,
      run_bind_eq_ok_iff.mpr ⟨handle, ensured, run_mapError_eq_ok_iff.mpr
        (run_ensureHostRootUpdateQueue_of_queue ensuredRoot ensuredFound
          (isNone_ne_true_of_queue queueFound)), ranLater⟩⟩
  rw [ranFirst]
  rcases dealt with ⟨sameHandle, sameStore⟩ | ⟨noQueue, state, isNew⟩
  · rw [sameHandle, sameStore] at queueFound
    obtain ⟨baseIds, pendingIds, base, pending, view⟩ :=
      holds root node rootFound nodeFound queue queueFound
    rw [sameHandle, sameStore] at starts
    have started := starts baseIds pendingIds base pending view
    exact ⟨root, node, _, _, _, _, _, rootFound, nodeFound, started.queuedUpdates_eq_ok, started,
      sameStore ▸ sameRun⟩
  · obtain rfl : queue = UpdateQueue.new state := Except.ok.inj (queueFound.symm.trans isNew)
    refine ⟨root, node, ensured, handle, _, _, _, rootFound, nodeFound, ?_,
      starts [] [] [] [] (queueView_new isNew), sameRun⟩
    rw [queuedUpdates, if_pos noQueue]
    rfl

end FirstRender

/-- Rendering a root again and again without a commit gives the same element and the same
remaining lanes each time, and the current queue keeps its updates in their order. -/
theorem abandoned_renders_agree :
    (∀ (store rendered : FiberRootStore) (rootId : FiberRootId) (renderLanes : Lanes)
      (record : HostRootRenderPhaseRecord),
      store.CurrentQueueHolds rootId →
      (renderHostRootForLanes rootId renderLanes).run store = .ok record rendered →
      ∀ times, ∃ again after,
        (renderRepeatedly rootId renderLanes times).run store = .ok again after ∧
        again.current = record.current ∧
        again.resultingElement = record.resultingElement ∧
        after.hostRootState again.memoizedState = rendered.hostRootState record.memoizedState ∧
        again.remainingLanes = record.remainingLanes ∧
        ∀ root node, store.roots.get? rootId = some root →
          store.fiberArena.get? root.current = some node →
          after.updateQueues.queuedUpdates again.currentUpdateQueue =
            store.updateQueues.queuedUpdates node.updateQueue) ∧
    ∀ (calls : List RootCommitCall) (rootId : FiberRootId),
      (calls.foldl FiberRootStore.perform .new).CurrentQueueHolds rootId := by
  constructor
  · intro store rendered rootId renderLanes record holds ran times
    obtain ⟨root, node, ensured, handle, baseState, ids, updates, rootFound, nodeFound, queued,
      starts, sameRun⟩ := exists_currentQueue_of_run holds ran
    have sameRuns : (renderRepeatedly rootId renderLanes times).run ensured =
        (renderRepeatedly rootId renderLanes times).run store := by
      cases times with
      | zero => exact sameRun
      | succ times => rw [renderRepeatedly, run_bind, run_bind, sameRun]
    obtain ⟨first, _, ranFirst, firstCurrent, -, firstElement, firstState, firstLanes, -⟩ :=
      starts.run_renderHostRootForLanes renderLanes
    obtain ⟨rfl, rfl⟩ := EStateM.Result.ok.inj (ranFirst.symm.trans (sameRun.trans ran))
    obtain ⟨again, after, ranAgain, againCurrent, againQueue, againElement, againState, againLanes,
      startsAgain⟩ := starts.run_renderRepeatedly renderLanes times
    refine ⟨again, after, sameRuns.symm.trans ranAgain, againCurrent.trans firstCurrent.symm,
      againElement.trans firstElement.symm, againState.trans firstState.symm,
      againLanes.trans firstLanes.symm, ?_⟩
    intro otherRoot otherNode otherRootFound otherNodeFound
    obtain rfl : root = otherRoot := Option.some.inj (rootFound.symm.trans otherRootFound)
    obtain rfl : node = otherNode := Option.some.inj (nodeFound.symm.trans otherNodeFound)
    rw [againQueue, startsAgain.queuedUpdates_eq_ok, queued]
  · intro calls rootId root node _ _ queue found
    obtain ⟨-, apart⟩ := rooted_and_staged_of_calls calls rooted_new unlisted_new
    obtain ⟨lists, listsApart, -⟩ := apart.unlisted
    exact ⟨_, _, _, _, listsApart.view node.updateQueue queue found⟩

/-- A root with two pending updates of different lanes. -/
def twoRootUpdates : List RootCommitCall := [
  .createClientRoot .none .concurrent,
  .ensureHostRootUpdateQueue ⟨0, 0⟩,
  .enqueueRootUpdate ⟨0, 0⟩ ⟨1⟩ Lane.default ⟨7⟩ .none,
  .enqueueRootUpdate ⟨0, 0⟩ ⟨1⟩ Lane.sync ⟨8⟩ .none,
  .finishQueueingConcurrentUpdates]

/-- The third render of the first update still leaves the second one. -/
theorem abandoned_renders_agree_sample :
    ∃ again after,
      (renderRepeatedly ⟨0, 0⟩ Lanes.default 2).run
        (twoRootUpdates.foldl FiberRootStore.perform .new) = .ok again after ∧
      again.resultingElement = ⟨7⟩ ∧
      again.remainingLanes = Lanes.sync := by
  obtain ⟨agree, reached⟩ := abandoned_renders_agree
  obtain ⟨record, rendered, ran, element, lanes⟩ : ∃ record rendered,
      (renderHostRootForLanes ⟨0, 0⟩ Lanes.default).run
        (twoRootUpdates.foldl FiberRootStore.perform .new) = .ok record rendered ∧
      record.resultingElement = ⟨7⟩ ∧ record.remainingLanes = Lanes.sync := ⟨_, _, rfl, rfl, rfl⟩
  obtain ⟨again, after, ranAgain, -, sameElement, -, sameLanes, -⟩ :=
    agree _ _ _ _ _ (reached twoRootUpdates ⟨0, 0⟩) ran 2
  exact ⟨again, after, ranAgain, sameElement.trans element, sameLanes.trans lanes⟩

end FastReact
