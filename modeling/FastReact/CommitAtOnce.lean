import FastReact.FiberStateNodes
import FastReact.StagedUpdates

namespace FastReact

open ErrorState FiberArena FiberRoot FiberRootStore Function Lanes LinkChain LinkedArena OpaqueHandle RootUpdateData SlotArena UpdateQueue UpdateQueueStore

/-!
# Committing a render at once

A commit expects the lanes of the finished HostRoot and of its children to be those the render
left, and the render takes them from the updates of the HostRoot alone. A render can be
committed exactly when every lane its children wait for is one that such an update waits for too.
-/

def UpdateQueueStore.waitingLanes (store : UpdateQueueStore) (handle : UpdateQueueHandle)
    (renderLanes : Lanes) : Lanes :=
  match store.baseUpdates handle, store.pendingUpdates handle with
  | .ok base, .ok pending =>
      leftoverRootLanes renderLanes renderLanes ((base ++ pending).filterMap store.updates.data?)
  | _, _ => Lanes.no

/-- The calls that build trees, make updates in them, and render and commit their roots. -/
inductive RootCommitCall where
  | createClientRoot (formState : RootFormStateHandle) (mode : FiberMode)
  | createFiber (tag : FiberTag) (key : Option String) (pendingProps : PropsHandle) (mode : FiberMode)
  | setChildren (parent : FiberId) (children : List FiberId)
  | appendChild (parent child : FiberId)
  | createWorkInProgress (current : FiberId) (pendingProps : PropsHandle)
  | ensureHostRootUpdateQueue (root : FiberRootId)
  | enqueueRootUpdate (fiber : FiberId) (queue : UpdateQueueHandle) (lane : Lane)
      (element : RootElementHandle) (callback : RootUpdateCallbackHandle)
  | finishQueueingConcurrentUpdates
  | updateContainer (root : FiberRootId) (rootFiber : FiberId)
      (laneChoice : RootUpdateLaneChoiceRecord) (element : RootElementHandle)
      (callback : Option RootUpdateCallbackHandle)
  | markUpdateLanesFromFiberToRoot (sourceFiber : FiberId) (lanes : Lanes)
  | renderHostRootForLanes (root : FiberRootId) (renderLanes : Lanes)
  | commitFinishedHostRoot (render : HostRootRenderPhaseRecord)

namespace FiberRootStore

def perform (store : FiberRootStore) : RootCommitCall → FiberRootStore
  | .createClientRoot formState mode =>
      stateAfter ((FastReact.createClientRoot formState mode).run store)
  | .createFiber tag key pendingProps mode =>
      stateAfter ((onFibers id (FastReact.createFiber tag key pendingProps mode)).run store)
  | .setChildren parent children =>
      stateAfter ((onFibers id (FastReact.setChildren parent children)).run store)
  | .appendChild parent child =>
      stateAfter ((onFibers id (FastReact.appendChild parent child)).run store)
  | .createWorkInProgress current pendingProps =>
      stateAfter ((onFibers id (FastReact.createWorkInProgress current pendingProps)).run store)
  | .ensureHostRootUpdateQueue root =>
      stateAfter ((FastReact.ensureHostRootUpdateQueue root).run store)
  | .enqueueRootUpdate fiber queue lane element callback =>
      stateAfter ((FastReact.enqueueRootUpdate fiber queue lane element callback).run store)
  | .finishQueueingConcurrentUpdates =>
      stateAfter (FastReact.finishQueueingConcurrentUpdates.run store)
  | .updateContainer root rootFiber laneChoice element callback =>
      stateAfter ((updateContainerImpl root rootFiber laneChoice element callback).run store)
  | .markUpdateLanesFromFiberToRoot sourceFiber lanes =>
      stateAfter ((FastReact.markUpdateLanesFromFiberToRoot sourceFiber lanes).run store)
  | .renderHostRootForLanes root renderLanes =>
      stateAfter ((FastReact.renderHostRootForLanes root renderLanes).run store)
  | .commitFinishedHostRoot render =>
      stateAfter ((FastReact.commitFinishedHostRoot render).run store)

def CurrentLanesPending (store : FiberRootStore) (rootId : FiberRootId) : Prop :=
  ∃ root node, store.roots.get? rootId = some root ∧
    store.fiberArena.get? root.current = some node ∧
    (node.lanes.merge node.childLanes).isSubsetOf root.lanes.pendingLanes = true

/-- The commit of a render with nothing in between succeeds and forgets no lane. -/
def CommitsAtOnce (rendered : FiberRootStore) (render : HostRootRenderPhaseRecord) : Prop :=
  ∃ result committed, (FastReact.commitFinishedHostRoot render).run rendered = .ok result committed ∧
    committed.CurrentLanesPending render.root

/-- Every lane the children of the current HostRoot wait for is one that an update of the
HostRoot will go on waiting for. -/
def ChildLanesWait (store : FiberRootStore) (rootId : FiberRootId) (renderLanes : Lanes) : Prop :=
  ∀ root node, store.roots.get? rootId = some root →
    store.fiberArena.get? root.current = some node →
    node.childLanes.isSubsetOf (store.updateQueues.waitingLanes node.updateQueue renderLanes) = true

end FiberRootStore

/-- The current fiber of every root names it, and no root has passive effects. -/
structure Rooted (store : FiberRootStore) : Prop where
  stateNodes : store.fiberArena.StateNodesAgree
  current : ∀ id root, store.roots.get? id = some root →
    ∃ node, store.fiberArena.get? root.current = some node ∧ node.stateNode = some id
  passive : ∀ id root, store.roots.get? id = some root → root.scheduling.pendingPassive = .none

def KeepsRooted (store after : FiberRootStore) : Prop :=
  Rooted store → Rooted after

instance : IsPreorder FiberRootStore KeepsRooted where
  refl _ rooted := rooted
  trans _ _ _ keeps keepsLater rooted := keepsLater (keeps rooted)

section Rooted

variable {ε α : Type} {store : FiberRootStore}

theorem rooted_new : Rooted .new where
  stateNodes := by
    intro id node alternate found
    simp [FiberRootStore.new, FiberArena.new, FiberArena.get?] at found
  current := by simp [FiberRootStore.new]
  passive := by simp [FiberRootStore.new]

theorem keepsRooted_onFibers {body : FiberArenaM α} (kept : Within KeepsStateNodes body)
    (wrap : FiberTopologyError → ε) : Within KeepsRooted (onFibers wrap body) := by
  refine .mapError wrap (.focus_within kept fun store arena keeps rooted => ?_)
  refine ⟨keeps.agree rooted.stateNodes, fun id root found => ?_, rooted.passive⟩
  obtain ⟨node, resolved, same⟩ := rooted.current id root found
  obtain ⟨after, resolvedAfter, sameAfter⟩ := keeps.kept rooted.stateNodes root.current node resolved
  exact ⟨after, resolvedAfter, sameAfter.trans same⟩

theorem keepsRooted_modifyRoot {change : FiberRoot → FiberRoot}
    (sameCurrent : ∀ root, (change root).current = root.current)
    (samePassive : ∀ root, (change root).scheduling.pendingPassive = root.scheduling.pendingPassive)
    (wrap : FiberRootStoreError → ε) (id : FiberRootId) :
    Within KeepsRooted (modifyRoot wrap id change) := by
  refine within_modifyRoot wrap fun store rooted => ?_
  have before : ∀ other root, (store.roots.modify id change).get? other = some root →
      ∃ rootBefore, store.roots.get? other = some rootBefore ∧ root.current = rootBefore.current ∧
        root.scheduling.pendingPassive = rootBefore.scheduling.pendingPassive := by
    intro other root found
    rw [get?_modify] at found
    by_cases same : other = id
    · rw [if_pos same] at found
      obtain ⟨rootBefore, foundBefore, rfl⟩ := Option.map_eq_some_iff.mp found
      exact ⟨rootBefore, foundBefore, sameCurrent rootBefore, samePassive rootBefore⟩
    · rw [if_neg same] at found
      exact ⟨root, found, rfl, rfl⟩
  refine ⟨rooted.stateNodes, fun other root found => ?_, fun other root found => ?_⟩
  · obtain ⟨rootBefore, foundBefore, same, -⟩ := before other root found
    rw [same]
    exact rooted.current other rootBefore foundBefore
  · obtain ⟨rootBefore, foundBefore, -, same⟩ := before other root found
    rw [same]
    exact rooted.passive other rootBefore foundBefore

theorem keepsRooted_onUpdateQueues (body : UpdateQueueM α) (wrap : UpdateQueueError → ε) :
    Within KeepsRooted (onUpdateQueues wrap body) :=
  within_onUpdateQueues wrap body fun _ _ rooted => ⟨rooted.stateNodes, rooted.current, rooted.passive⟩

theorem keepsRooted_modifyFiber {change : FiberNode → FiberNode}
    (sameStateNode : ∀ node, (change node).stateNode = node.stateNode)
    (sameAlternate : ∀ node, (change node).alternate = node.alternate)
    (wrap : FiberTopologyError → ε) (id : FiberId) :
    Within KeepsRooted (onFibers wrap (modifyFiber id change)) :=
  keepsRooted_onFibers (keepsStateNodes_modifyFiber sameStateNode sameAlternate id) wrap

section

variable (fiber : FiberId) (lanes : Lanes)

theorem keepsRooted_markSourceFiberLanes :
    Within KeepsRooted (markSourceFiberLanes fiber lanes) := by
  have marks : ∀ fiber, Within KeepsRooted
      (onFibers ConcurrentUpdateError.fiberTopology (modifyFiber fiber (·.mergeLanes lanes))) := by
    intro fiber
    apply keepsRooted_modifyFiber <;> exact fun _ => rfl
  refine .bind (marks fiber) fun _ => .bind (within_getFiber _ _) fun node => ?_
  cases node.alternate with
  | none => exact .pure _
  | some alternate => exact marks alternate

theorem keepsRooted_markChildLanes : Within KeepsRooted (markChildLanes fiber lanes) := by
  have marks : ∀ fiber, Within KeepsRooted
      (onFibers ConcurrentUpdateError.fiberTopology (modifyFiber fiber fun node =>
        { node with childLanes := node.childLanes.merge lanes })) := by
    intro fiber
    apply keepsRooted_modifyFiber <;> exact fun _ => rfl
  refine .bind (marks fiber) fun _ => .bind (within_getFiber _ _) fun node => ?_
  cases node.alternate with
  | none => exact .pure _
  | some alternate => exact marks alternate

theorem keepsRooted_markUpdateLanesFromFiberToRoot :
    Within KeepsRooted (markUpdateLanesFromFiberToRoot fiber lanes) := by
  refine .bind (keepsRooted_markSourceFiberLanes _ _) fun _ => .bind .get fun _ =>
    .bind (within_walkToHostRoot (keepsRooted_markChildLanes · lanes) _ _) fun _ =>
    .bind (within_hostRootIdForFiber _) fun root => .bind (.forM (fun index => ?_) _) fun _ => .pure _
  apply keepsRooted_modifyRoot <;> exact fun _ => rfl

end

theorem keepsRooted_enqueueConcurrentHostRootUpdate (fiber : FiberId) (queue : UpdateQueueHandle)
    (update : UpdateId) (lane : Lane) :
    Within KeepsRooted (enqueueConcurrentHostRootUpdate fiber queue update lane) :=
  .bind (keepsRooted_markSourceFiberLanes _ _) fun _ =>
  .bind (.modify fun _ rooted => ⟨rooted.stateNodes, rooted.current, rooted.passive⟩) fun _ =>
    within_rootForUpdatedFiber fiber

theorem keepsRooted_drainStagedEntry (roots : List FiberRootId)
    (entry : StagedConcurrentUpdate × FiberRootId) :
    Within KeepsRooted (drainStagedEntry roots entry) :=
  within_drainStagedEntry roots entry (keepsRooted_markUpdateLanesFromFiberToRoot _ _)
    fun _ _ _ _ => keepsRooted_onUpdateQueues _ _

theorem keepsRooted_finishQueueingConcurrentUpdates :
    Within KeepsRooted finishQueueingConcurrentUpdates := by
  refine .bind within_validateStagedConcurrentUpdatesForDrain fun validated =>
    .bind (.modifyGet fun _ rooted => ⟨rooted.stateNodes, rooted.current, rooted.passive⟩) fun staged =>
    .foldlM keepsRooted_drainStagedEntry _ _

variable (rootId : FiberRootId)

theorem keepsRooted_ensureHostRootUpdateQueue :
    Within KeepsRooted (ensureHostRootUpdateQueue rootId) := by
  refine .bind (within_getRoot _ _) fun root => .bind (within_getFiber _ _) fun node =>
    .ite (.pure _) (.bind (.query _) fun state => .bind
      (.modifyGet fun _ rooted => ⟨rooted.stateNodes, rooted.current, rooted.passive⟩) fun queue =>
      .bind ?_ fun _ => .bind (within_getFiber _ _) fun after => ?_)
  · apply keepsRooted_modifyFiber <;> exact fun _ => rfl
  · cases after.alternate with
    | none => exact .pure _
    | some alternate =>
      refine .bind ?_ fun _ => .pure _
      apply keepsRooted_modifyFiber <;> exact fun _ => rfl

theorem keepsRooted_enqueueRootUpdate (fiber : FiberId) (queue : UpdateQueueHandle) (lane : Lane)
    (element : RootElementHandle) (callback : RootUpdateCallbackHandle) :
    Within KeepsRooted (enqueueRootUpdate fiber queue lane element callback) :=
  .bind (keepsRooted_onUpdateQueues _ _) fun _ => .bind (keepsRooted_onUpdateQueues _ _) fun _ =>
  .bind (keepsRooted_onUpdateQueues _ _) fun _ => keepsRooted_enqueueConcurrentHostRootUpdate _ _ _ _

theorem keepsRooted_updateContainerImpl (rootFiber : FiberId)
    (laneChoice : RootUpdateLaneChoiceRecord) (element : RootElementHandle)
    (callback : Option RootUpdateCallbackHandle) :
    Within KeepsRooted (updateContainerImpl rootId rootFiber laneChoice element callback) := by
  refine .bind (within_getRoot _ _) fun root =>
    .bind (.mapError _ (keepsRooted_ensureHostRootUpdateQueue rootId)) fun queue =>
    .bind (keepsRooted_onUpdateQueues _ _) fun update => .bind (keepsRooted_onUpdateQueues _ _) fun _ => ?_
  rcases callback with - | callback
  on_goal 2 => refine .ite (.bind (keepsRooted_onUpdateQueues _ _) fun _ => ?_) ?_
  -- With and without a callback the update is staged and drained next.
  all_goals
    refine .bind (.mapError _ (keepsRooted_enqueueConcurrentHostRootUpdate _ _ _ _)) fun enqueued =>
      .guard fun _ => .bind (.mapError _ keepsRooted_finishQueueingConcurrentUpdates) fun _ =>
      .bind (within_getRoot _ _) fun pending =>
      .bind (.bind (within_getRoot _ _) fun _ => .guard fun _ => .pure _) fun selected =>
      .bind (within_getRoot _ _) fun after => .bind (keepsRooted_onUpdateQueues _ _) fun entangled => ?_
    rcases entangled with - | lanes
    · exact .bind (.pure _) fun _ => .pure _
    · refine .bind ?_ fun _ => .bind (.pure _) fun _ => .pure _
      apply keepsRooted_modifyRoot <;> exact fun _ => rfl

theorem keepsRooted_renderHostRootForLanes (renderLanes : Lanes) :
    Within KeepsRooted (renderHostRootForLanes rootId renderLanes) := by
  have creates : Within KeepsRooted (createHostRootWorkInProgress rootId .none) :=
    .bind (within_getRoot _ _) fun _ => .bind (within_getFiber _ _) fun _ => .guard fun _ =>
    .bind (keepsRooted_onFibers (keepsStateNodes_createWorkInProgress _ _) _) fun _ =>
    .bind (within_getFiber _ _) fun _ => .guard fun _ => .pure _
  have refreshes : ∀ current workInProgress queue, Within KeepsRooted
      (refreshUpdateQueueForWorkInProgress rootId current workInProgress queue) := by
    intro current workInProgress queue
    unfold refreshUpdateQueueForWorkInProgress
    refine .guard fun _ => .bind (keepsRooted_onUpdateQueues _ _) fun copy => .bind ?_ fun _ => .pure _
    apply keepsRooted_modifyFiber <;> exact fun _ => rfl
  refine .bind (within_getRoot _ _) fun root =>
    .bind (.mapError _ (keepsRooted_ensureHostRootUpdateQueue rootId)) fun queue =>
    .bind (.mapError _ creates) fun workInProgress =>
    .bind (refreshes _ _ _) fun copy => .bind (keepsRooted_onUpdateQueues _ _) fun result =>
    .bind (.modifyGet fun _ rooted => ⟨rooted.stateNodes, rooted.current, rooted.passive⟩) fun state =>
    .bind ?_ fun _ => .bind ?_ fun _ => .pure _
  · apply keepsRooted_modifyFiber <;> exact fun _ => rfl
  · apply keepsRooted_modifyRoot <;> exact fun _ => rfl

theorem keepsRooted_createClientRoot (formState : RootFormStateHandle) (mode : FiberMode) :
    Within KeepsRooted (createClientRoot formState mode) := by
  intro store rooted
  obtain ⟨fresh, created, ran, dead, -, nodes⟩ :=
    run_createFiber store.fiberArena .hostRoot none .none mode
  have freshLive := (nodes fresh).trans (if_pos rfl)
  obtain ⟨id, roots, inserted⟩ : ∃ id roots, store.roots.insert (newClient fresh) = (id, roots) :=
    ⟨_, _, rfl⟩
  have rootsAfter : ∀ other, roots.get? other =
      if other = id then some (newClient fresh) else store.roots.get? other := by
    intro other
    have found := get?_insert store.roots (newClient fresh) other
    rwa [inserted] at found
  have afterRan : stateAfter ((createClientRoot formState mode).run store) =
      { store with
        hostRootStates := store.hostRootStates ++ [HostRootState.client .none formState]
        roots := roots
        fiberArena := created.changeFiber fresh fun node =>
          { node with
            stateNode := some id
            memoizedState := ⟨store.hostRootStates.length + 1⟩ } } := by
    have liveRoot : FiberArena.get? ({ store with
        hostRootStates := store.hostRootStates ++ [HostRootState.client .none formState]
        roots := roots
        fiberArena := created } : FiberRootStore).fiberArena fresh = some _ := freshLive
    have ranCreate : (createFiber .hostRoot none .none mode).run ({ store with
        hostRootStates := store.hostRootStates ++ [HostRootState.client .none formState] } :
          FiberRootStore).fiberArena = .ok fresh created := ran
    simp only [createClientRoot, insertHostRootState, run_bind, run_modifyGet,
      run_onFibers ranCreate, inserted, run_onFibers (run_modifyFiber liveRoot _), run_pure, stateAfter]
  rw [afterRan]
  have foundAfter : ∀ other, (created.changeFiber fresh fun node =>
      { node with
        stateNode := some id
        memoizedState := ⟨store.hostRootStates.length + 1⟩ }).get? other =
      if other = fresh then some { FiberNode.new .hostRoot none .none mode with
          stateNode := some id
          memoizedState := ⟨store.hostRootStates.length + 1⟩ }
      else store.fiberArena.get? other := by
    intro other
    rw [get?_changeFiber]
    by_cases same : other = fresh
    · rw [if_pos same, if_pos same, same, freshLive]
      rfl
    · rw [if_neg same, if_neg same, nodes, if_neg same]
  have notFresh : ∀ other node, store.fiberArena.get? other = some node → other ≠ fresh := by
    rintro other node live rfl
    exact dead ⟨node, live⟩
  refine ⟨?_, ?_, ?_⟩
  · intro other node alternate found isAlternate
    rw [foundAfter] at found ⊢
    by_cases same : other = fresh
    · rw [if_pos same] at found
      cases found
      cases isAlternate
    · rw [if_neg same] at found
      obtain ⟨partner, partnerFound, agrees⟩ := rooted.stateNodes other node alternate found isAlternate
      exact ⟨partner, by rw [if_neg (notFresh alternate partner partnerFound), partnerFound], agrees⟩
  · intro other root found
    change roots.get? other = some root at found
    rw [rootsAfter] at found
    by_cases same : other = id
    · rw [if_pos same] at found
      cases found
      exact ⟨_, (foundAfter fresh).trans (if_pos rfl), by rw [same]⟩
    · rw [if_neg same] at found
      obtain ⟨node, live, names⟩ := rooted.current other root found
      exact ⟨node, by rw [foundAfter, if_neg (notFresh root.current node live), live], names⟩
  · intro other root found
    change roots.get? other = some root at found
    rw [rootsAfter] at found
    by_cases same : other = id
    · rw [if_pos same] at found
      cases found
      rfl
    · rw [if_neg same] at found
      exact rooted.passive other root found

end Rooted

variable {store after : FiberRootStore} {handle : UpdateQueueHandle} {rootId : FiberRootId}
  {ε : Type} {store : UpdateQueueStore}

theorem UpdateQueueStore.waitingLanes_eq
    {lists : UpdateQueueHandle → RootQueueLists} {queue : UpdateQueue}
    (apart : ListsApart store lists) (found : store.queue handle = .ok queue)
    (renderLanes : Lanes) :
    store.waitingLanes handle renderLanes =
      leftoverRootLanes renderLanes renderLanes (lists handle).updates := by
  have view := apart.view handle queue found
  have datas : ((lists handle).baseIds ++ (lists handle).pendingIds).filterMap store.updates.data? =
      (lists handle).updates := by
    have held : Holds store.updates _ _ := view.basePath.holds.append view.pendingRing.holds
    have gathered := congrArg (List.filterMap id) held
    simpa [List.filterMap_map, RootQueueLists.updates, comp_def] using gathered
  simp only [waitingLanes, view.baseUpdates_eq_ok, view.pendingUpdates_eq_ok, datas]

theorem UpdateQueueStore.waitingLanes_of_none
    (missing : handle.isNone = true) (renderLanes : Lanes) :
    store.waitingLanes handle renderLanes = Lanes.no := by
  have refused : store.baseUpdates handle = .error .emptyQueueHandle := by
    simp only [baseUpdates, queue, missing, if_true]
    rfl
  simp only [waitingLanes, refused]

theorem UpdateQueueStore.waitingLanes_of_new {baseState : HostRootState}
    (found : store.queue handle = .ok (UpdateQueue.new baseState)) (renderLanes : Lanes) :
    store.waitingLanes handle renderLanes = Lanes.no := by
  have noBase : store.baseUpdates handle = .ok [] := by
    simp only [baseUpdates, found]
    rfl
  have nonePending : store.pendingUpdates handle = .ok [] := by
    simp only [pendingUpdates, found]
    rfl
  simp only [waitingLanes, noBase, nonePending]
  rfl

variable {store : FiberRootStore}

theorem run_renderCopy {others : List UpdateId} {queue : UpdateQueue}
    (apart : StagedApart others store) (found : store.updateQueues.queue handle = .ok queue)
    (renderLanes : Lanes) :
    ∃ copy copied result after,
      (cloneHostRootUpdateQueue handle).run store.updateQueues = .ok copy copied ∧
      (processHostRootUpdateQueue copy (some handle) renderLanes renderLanes).run copied =
        .ok result after ∧
      result.remainingLanes = store.updateQueues.waitingLanes handle renderLanes ∧
      (∃ content, after.queue handle = .ok content) ∧
      (∃ content, after.queue copy = .ok content) ∧
      Unlisted after (others ++ stagedIds store.concurrentUpdates.staged) := by
  obtain ⟨lists, listsApart, loose⟩ := apart.unlisted
  obtain ⟨copy, copied, ranClone, different, sameUpdates, -, sameQueues, view⟩ :=
    listsApart.run_cloneHostRootUpdateQueue found
  obtain ⟨first, last, clones, after, currentFirst, currentLast, ranPass, copyAfter, currentAfter, -,
    apartAfter, clonesNew, kept⟩ := listsApart.run_processCopy found different sameUpdates
      sameQueues view renderLanes renderLanes
  refine ⟨copy, copied, _, after, ranClone, ranPass, ?_, ⟨_, currentAfter⟩, ⟨_, copyAfter⟩,
    ⟨_, apartAfter, ?_⟩, apart.nodup, fun _ impossible => impossible.elim⟩
  · rw [waitingLanes_eq listsApart found]
    rfl
  · intro id among
    obtain ⟨⟨data, live⟩, outside⟩ := loose id among
    refine ⟨⟨data, kept id data live⟩, fun other => ?_⟩
    by_cases isCopy : other = copy
    · rw [isCopy, update_self, RootQueueLists.ids_rebased]
      intro isClone
      rw [clonesNew id isClone] at live
      cases live
    · rw [update_of_ne isCopy]
      by_cases isHandle : other = handle
      · rw [isHandle, update_self, RootQueueLists.ids_transferred]
        exact outside handle
      · rw [update_of_ne isHandle]
        exact outside other

variable {wrap : FiberRootStoreError → ε} {id : FiberRootId}

theorem run_getRoot_eq_ok_iff {root : FiberRoot} :
    (getRoot wrap id).run store = .ok root after ↔ store.roots.get? id = some root ∧ store = after := by
  rw [getRoot, run_query_eq_ok_iff, ← root_eq_ok_iff]
  cases store.root id <;> simp [Except.mapError]

theorem run_getFiber_eq_ok_iff {wrap : FiberTopologyError → ε} {id : FiberId} {node : FiberNode} :
    (getFiber wrap id).run store = .ok node after ↔
      store.fiberArena.get? id = some node ∧ store = after := by
  rw [getFiber, run_query_eq_ok_iff, ← get_eq_ok_iff]
  cases store.fiberArena.get id <;> simp [Except.mapError]

theorem run_getRoot_bind_eq_ok_iff {α : Type}
    {next : FiberRoot → EStateM ε FiberRootStore α} {result : α} :
    (getRoot wrap id >>= next).run store = .ok result after ↔
      ∃ root, store.roots.get? id = some root ∧ (next root).run store = .ok result after :=
  run_bind_eq_ok_iff_of_keeps fun _ _ => run_getRoot_eq_ok_iff

theorem run_getFiber_bind_eq_ok_iff {α : Type} {wrap : FiberTopologyError → ε} {id : FiberId}
    {next : FiberNode → EStateM ε FiberRootStore α} {result : α} :
    (getFiber wrap id >>= next).run store = .ok result after ↔
      ∃ node, store.fiberArena.get? id = some node ∧ (next node).run store = .ok result after :=
  run_bind_eq_ok_iff_of_keeps fun _ _ => run_getFiber_eq_ok_iff

theorem run_onFibers_modifyFiber_eq_ok {wrap : FiberTopologyError → ε} {id : FiberId}
    {change : FiberNode → FiberNode}
    (ran : (onFibers wrap (modifyFiber id change)).run store = .ok () after) :
    (∃ node, store.fiberArena.get? id = some node) ∧
      after = { store with fiberArena := store.fiberArena.changeFiber id change } := by
  cases found : store.fiberArena.get? id with
  | some node =>
    rw [run_onFibers (run_modifyFiber found change)] at ran
    cases ran
    exact ⟨⟨node, rfl⟩, rfl⟩
  | none =>
    cases resolved : store.fiberArena.get id with
    | ok node =>
      rw [get_eq_ok_iff.mp resolved] at found
      cases found
    | error error =>
      simp [onFibers, run_mapError, run_focus, modifyFiber, run_query, resolved] at ran

theorem run_modifyRoot_eq_ok
    {change : FiberRoot → FiberRoot} (ran : (modifyRoot wrap id change).run store = .ok () after) :
    after = { store with roots := store.roots.modify id change } := by
  obtain ⟨root, -, changed⟩ := run_getRoot_bind_eq_ok_iff.mp ran
  cases changed
  rfl

theorem ensureHostRootUpdateQueue_ensures
    (ran : (ensureHostRootUpdateQueue rootId).run store = .ok handle after) :
    ∃ root node, store.roots.get? rootId = some root ∧
      store.fiberArena.get? root.current = some node ∧
      after.roots = store.roots ∧
      after.fiberArena.get? root.current = some { node with updateQueue := handle } ∧
      (∀ renderLanes, after.updateQueues.waitingLanes handle renderLanes =
        store.updateQueues.waitingLanes node.updateQueue renderLanes) ∧
      ((handle = node.updateQueue ∧ after = store) ∨
        (node.updateQueue.isNone = true ∧
          ∃ state, after.updateQueues.queue handle = .ok (new state))) := by
  obtain ⟨root, rootFound, ran⟩ := run_getRoot_bind_eq_ok_iff.mp ran
  obtain ⟨node, nodeFound, ran⟩ := run_getFiber_bind_eq_ok_iff.mp ran
  refine ⟨root, node, rootFound, nodeFound, ?_⟩
  by_cases hasQueue : node.updateQueue.isSome = true
  · rw [if_pos hasQueue] at ran
    cases ran
    exact ⟨rfl, nodeFound, fun _ => rfl, .inl ⟨rfl, rfl⟩⟩
  · rw [if_neg hasQueue] at ran
    have isNone : node.updateQueue.isNone = true := by
      simpa [isSome, isNone] using hasQueue
    obtain ⟨state, -, ran⟩ := run_query_bind_eq_ok_iff.mp ran
    obtain ⟨queue, pushed, pushRan, ran⟩ := run_bind_eq_ok_iff.mp ran
    cases pushRan
    obtain ⟨_, given, givenRan, ran⟩ := run_bind_eq_ok_iff.mp ran
    obtain ⟨-, rfl⟩ := run_onFibers_modifyFiber_eq_ok givenRan
    obtain ⟨currentNode, -, ran⟩ := run_getFiber_bind_eq_ok_iff.mp ran
    have isNew : ({ store.updateQueues with
        queues := store.updateQueues.queues ++ [new state] } :
          UpdateQueueStore).queue ⟨store.updateQueues.queues.length + 1⟩ = .ok (new state) := by
      simp [queue, OpaqueHandle.isNone]
    have waits : ∀ renderLanes, waitingLanes
        { store.updateQueues with queues := store.updateQueues.queues ++ [new state] }
          ⟨store.updateQueues.queues.length + 1⟩ renderLanes =
        store.updateQueues.waitingLanes node.updateQueue renderLanes := by
      intro renderLanes
      rw [waitingLanes_of_none isNone]
      exact waitingLanes_of_new isNew renderLanes
    have given : (store.fiberArena.changeFiber root.current fun fiber =>
        { fiber with updateQueue := ⟨store.updateQueues.queues.length + 1⟩ }).get? root.current =
          some { node with updateQueue := ⟨store.updateQueues.queues.length + 1⟩ } := by
      rw [get?_changeFiber, if_pos rfl, nodeFound]
      rfl
    cases paired : currentNode.alternate with
    | none =>
      rw [paired] at ran
      cases ran
      exact ⟨rfl, given, waits, .inr ⟨isNone, state, isNew⟩⟩
    | some alternate =>
      rw [paired] at ran
      obtain ⟨_, _, givenRan, ran⟩ := run_bind_eq_ok_iff.mp ran
      obtain ⟨-, rfl⟩ := run_onFibers_modifyFiber_eq_ok givenRan
      cases ran
      refine ⟨rfl, ?_, waits, .inr ⟨isNone, state, isNew⟩⟩
      change ((store.fiberArena.changeFiber root.current _).changeFiber alternate _).get? root.current = _
      rw [get?_changeFiber, given]
      split <;> rfl

/-- What a render that succeeds leaves behind. -/
structure Renders (store rendered : FiberRootStore) (record : HostRootRenderPhaseRecord)
    (rootId : FiberRootId) (renderLanes : Lanes) (root : FiberRoot)
    (node currentNode workNode : FiberNode) : Prop where
  found : store.roots.get? rootId = some root
  currentFound : store.fiberArena.get? root.current = some node
  isHostRoot : node.tag = .hostRoot
  ofRoot : record.root = rootId
  ofCurrent : record.current = root.current
  ofLanes : record.renderLanes = renderLanes
  leaves : record.remainingLanes = store.updateQueues.waitingLanes node.updateQueue renderLanes
  recorded : rendered.roots.get? rootId = some (root.onScheduling
    (·.recordRenderPhaseWork record.workInProgress renderLanes .completed))
  different : record.workInProgress ≠ root.current
  currentAfter : rendered.fiberArena.get? root.current = some currentNode
  currentShape : currentNode = { node with
    updateQueue := record.currentUpdateQueue
    alternate := some record.workInProgress }
  workAfter : rendered.fiberArena.get? record.workInProgress = some workNode
  workShape : workNode = { (node.cloneForAlternate root.current .none) with
    updateQueue := record.workInProgressUpdateQueue
    memoizedState := record.memoizedState
    lanes := record.remainingLanes }
  state : ∃ state, rendered.hostRootState record.memoizedState = .ok state
  currentQueue : ∃ queue, rendered.updateQueues.queue record.currentUpdateQueue = .ok queue
  workQueue : ∃ queue, rendered.updateQueues.queue record.workInProgressUpdateQueue = .ok queue

theorem createHostRootWorkInProgress_creates {pendingProps : PropsHandle} {root : FiberRoot}
    {node : FiberNode} {workInProgress : FiberId} (rootFound : store.roots.get? rootId = some root)
    (nodeFound : store.fiberArena.get? root.current = some node)
    (ran : (createHostRootWorkInProgress rootId pendingProps).run store = .ok workInProgress after) :
    node.tag = .hostRoot ∧ workInProgress ≠ root.current ∧ after.roots = store.roots ∧
      after.updateQueues = store.updateQueues ∧ after.concurrentUpdates = store.concurrentUpdates ∧
      after.fiberArena.get? root.current = some (node.setAlternate (some workInProgress)) ∧
      after.fiberArena.get? workInProgress = some (node.cloneForAlternate root.current pendingProps) ∧
      ∀ existing, node.alternate = some existing →
        store.fiberArena.validateAlternatePair root.current existing = .ok () := by
  obtain ⟨root', rootFound', ran⟩ := run_getRoot_bind_eq_ok_iff.mp ran
  obtain rfl : root = root' := Option.some.inj (rootFound.symm.trans rootFound')
  obtain ⟨node', nodeFound', ran⟩ := run_getFiber_bind_eq_ok_iff.mp ran
  obtain rfl : node = node' := Option.some.inj (nodeFound.symm.trans nodeFound')
  obtain ⟨isHostRoot, ran⟩ := run_guard_eq_ok_iff.mp ran
  obtain ⟨created, _, createRan, ran⟩ := run_bind_eq_ok_iff.mp ran
  obtain ⟨arena, arenaRan, rfl⟩ := run_focus_eq_ok_iff.mp (run_mapError_eq_ok_iff.mp createRan)
  obtain ⟨workNode, workFound, ran⟩ := run_getFiber_bind_eq_ok_iff.mp ran
  obtain ⟨-, ran⟩ := run_guard_eq_ok_iff.mp ran
  cases ran
  rcases run_createWorkInProgress store.fiberArena root.current pendingProps with
    ⟨-, error, failed⟩ | ⟨current, work, arenaAfter, worked, live, different, pair, -, nodes⟩
  · cases failed.symm.trans arenaRan
  · cases worked.symm.trans arenaRan
    obtain rfl : node = current := Option.some.inj (nodeFound.symm.trans live)
    refine ⟨not_not.mp isHostRoot, different.symm, rfl, rfl, rfl, ?_, ?_, ?_⟩
    · exact (nodes root.current).trans (by rw [if_neg different, if_pos rfl])
    · exact (nodes workInProgress).trans (if_pos rfl)
    · intro existing paired
      have isAlternate := (alternate?_of_get? nodeFound).trans paired
      rcases pair with ⟨sameAlternate, valid⟩ | ⟨noAlternate, -⟩
      · cases sameAlternate.symm.trans isAlternate
        exact valid
      · cases noAlternate.symm.trans isAlternate

theorem renderHostRootForLanes_renders {store rendered : FiberRootStore}
    {record : HostRootRenderPhaseRecord} {renderLanes : Lanes} (apart : StagedApart [] store)
    (ran : (renderHostRootForLanes rootId renderLanes).run store = .ok record rendered) :
    ∃ root node currentNode workNode,
      Renders store rendered record rootId renderLanes root node currentNode workNode := by
  obtain ⟨root, rootFound, ran⟩ := run_getRoot_bind_eq_ok_iff.mp ran
  obtain ⟨handle, ensured, ensureRan, ran⟩ := run_bind_eq_ok_iff.mp ran
  rw [run_mapError_eq_ok_iff] at ensureRan
  have apartEnsured : StagedApart [] ensured := by
    have kept := keepsStaged_ensureHostRootUpdateQueue rootId store apart
    rwa [ensureRan] at kept
  obtain ⟨root', node, rootFound', nodeFound, sameRoots, ensuredFound, waits, -⟩ :=
    ensureHostRootUpdateQueue_ensures ensureRan
  obtain rfl : root = root' := Option.some.inj (rootFound.symm.trans rootFound')
  obtain ⟨workInProgress, created, createRan, ran⟩ := run_bind_eq_ok_iff.mp ran
  obtain ⟨isHostRoot, different, sameRootsCreated, sameQueues, sameStaged, createdFound, workFound, -⟩ :=
    createHostRootWorkInProgress_creates (sameRoots ▸ rootFound) ensuredFound
      (run_mapError_eq_ok_iff.mp createRan)
  have apartCreated : StagedApart [] created := by
    rw [StagedApart, sameQueues, sameStaged]
    exact apartEnsured
  obtain ⟨copy, refreshed, refreshRan, ran⟩ := run_bind_eq_ok_iff.mp ran
  unfold refreshUpdateQueueForWorkInProgress at refreshRan
  obtain ⟨-, refreshRan⟩ := run_guard_eq_ok_iff.mp refreshRan
  obtain ⟨_, _, cloneRan, refreshRan⟩ := run_bind_eq_ok_iff.mp refreshRan
  obtain ⟨copied, copiedRan, rfl⟩ := run_focus_eq_ok_iff.mp (run_mapError_eq_ok_iff.mp cloneRan)
  obtain ⟨_, _, giveRan, refreshRan⟩ := run_bind_eq_ok_iff.mp refreshRan
  obtain ⟨-, rfl⟩ := run_onFibers_modifyFiber_eq_ok giveRan
  cases refreshRan
  obtain ⟨queue, queueFound⟩ : ∃ queue, created.updateQueues.queue handle = .ok queue := by
    obtain ⟨queue, _, queueRan, -⟩ := run_bind_eq_ok_iff.mp copiedRan
    exact ⟨queue, (run_query_eq_ok_iff.mp queueRan).1⟩
  obtain ⟨copy', copied', result, processed, ranClone, ranPass, leaves, currentQueue, workQueue, -⟩ :=
    run_renderCopy apartCreated queueFound renderLanes
  cases ranClone.symm.trans copiedRan
  obtain ⟨result', _, passRan, ran⟩ := run_bind_eq_ok_iff.mp ran
  obtain ⟨processed', passedRan, rfl⟩ := run_focus_eq_ok_iff.mp (run_mapError_eq_ok_iff.mp passRan)
  cases ranPass.symm.trans passedRan
  obtain ⟨state, _, stateRan, ran⟩ := run_bind_eq_ok_iff.mp ran
  cases stateRan
  obtain ⟨_, _, writeRan, ran⟩ := run_bind_eq_ok_iff.mp ran
  obtain ⟨-, rfl⟩ := run_onFibers_modifyFiber_eq_ok writeRan
  obtain ⟨_, _, recordRan, ran⟩ := run_bind_eq_ok_iff.mp ran
  have recordedRoots := run_modifyRoot_eq_ok recordRan
  subst recordedRoots
  cases ran
  have sameLanes : created.updateQueues.waitingLanes handle renderLanes =
      store.updateQueues.waitingLanes node.updateQueue renderLanes := by
    rw [sameQueues, waits]
  refine ⟨root, node, _, _, rootFound, nodeFound, isHostRoot, rfl, rfl, rfl, leaves.trans sameLanes, ?_,
    different, ?_, rfl, ?_, rfl, ?_, currentQueue, workQueue⟩
  · change (created.roots.modify rootId _).get? rootId = _
    rw [get?_modify, if_pos rfl, sameRootsCreated, sameRoots, rootFound]
    rfl
  · change ((created.fiberArena.changeFiber workInProgress _).changeFiber workInProgress _).get?
      root.current = _
    rw [get?_changeFiber, if_neg different.symm, get?_changeFiber, if_neg different.symm, createdFound]
    rfl
  · change ((created.fiberArena.changeFiber workInProgress _).changeFiber workInProgress _).get?
      workInProgress = _
    rw [get?_changeFiber, if_pos rfl, get?_changeFiber, if_pos rfl, workFound]
    rfl
  · refine ⟨result.memoizedState, ?_⟩
    simp [hostRootState, isNone]

theorem requireCommit_eq_ok_iff {condition : Prop} [Decidable condition] {error : RootCommitError} :
    requireCommit condition error = .ok () ↔ condition :=
  demand_eq_ok_iff

theorem merge_eq_left_iff {lanes other : Lanes} :
    lanes.merge other = lanes ↔ other.isSubsetOf lanes = true := by
  constructor
  · intro same
    rw [← same]
    exact isSubsetOf_merge_right lanes other
  · intro subset
    apply ext_index
    intro index
    have within := isSubsetOf_iff.mp subset index
    rw [containsIndex_merge]
    cases present : other.containsIndex index with
    | true => simp [within present]
    | false => simp

section Commit

variable {store rendered : FiberRootStore} {record : HostRootRenderPhaseRecord}
  {rootId : FiberRootId} {renderLanes : Lanes} {root : FiberRoot}
  {node currentNode workNode : FiberNode}

section

variable (renders : Renders store rendered record rootId renderLanes root node currentNode workNode)
include renders

theorem Renders.validateRenderPhaseWork_eq_ok (nonEmpty : renderLanes.isEmpty = false) :
    validateRenderPhaseWork
      (root.onScheduling (·.recordRenderPhaseWork record.workInProgress renderLanes .completed)) record =
        .ok () := by
  simp [validateRenderPhaseWork, requireCommit, renders.ofLanes, nonEmpty, renders.ofCurrent,
    renders.different, onScheduling, RootSchedulingState.recordRenderPhaseWork, bind, Except.bind]

theorem Renders.validateRenderPhaseFibers_eq_ok (named : node.stateNode = some rootId) :
    validateRenderPhaseFibers rendered root.current currentNode workNode record = .ok () := by
  have pair : rendered.fiberArena.validateAlternatePair root.current record.workInProgress = .ok () :=
    validateAlternatePair_eq_ok renders.currentAfter renders.workAfter renders.different.symm
      (by rw [renders.currentShape, renders.workShape]; rfl)
      (by rw [renders.currentShape, renders.workShape]; rfl)
      (by rw [renders.currentShape]) (by rw [renders.workShape]; rfl)
  simp [validateRenderPhaseFibers, requireCommit, renders.currentShape, renders.workShape,
    FiberNode.cloneForAlternate, renders.isHostRoot, renders.ofRoot, named, pair, Except.mapError, bind,
    Except.bind]

theorem Renders.validateRenderPhaseResult_eq_ok_iff :
    validateRenderPhaseResult rendered currentNode workNode record = .ok () ↔
      node.childLanes.isSubsetOf record.remainingLanes = true := by
  obtain ⟨state, stateFound⟩ := renders.state
  obtain ⟨currentQueue, currentQueueFound⟩ := renders.currentQueue
  obtain ⟨workQueue, workQueueFound⟩ := renders.workQueue
  rw [← merge_eq_left_iff]
  simp [validateRenderPhaseResult, requireCommit, renders.currentShape, renders.workShape,
    FiberNode.cloneForAlternate, stateFound, currentQueueFound, workQueueFound, Except.mapError, bind,
    Except.bind]

theorem Renders.validateFinishedHostRoot_eq_ok_iff
    (named : node.stateNode = some rootId) (nonEmpty : renderLanes.isEmpty = false) :
    validateFinishedHostRoot rendered record = .ok () ↔
      node.childLanes.isSubsetOf record.remainingLanes = true := by
  have rootFound : rendered.root record.root = .ok
      (root.onScheduling (·.recordRenderPhaseWork record.workInProgress renderLanes .completed)) := by
    rw [renders.ofRoot, root_eq_ok_iff.mpr renders.recorded]
  have currentSame : (root.onScheduling
      (·.recordRenderPhaseWork record.workInProgress renderLanes .completed)).current = root.current := rfl
  rw [← renders.validateRenderPhaseResult_eq_ok_iff]
  simp only [validateFinishedHostRoot, rootFound, renders.validateRenderPhaseWork_eq_ok nonEmpty,
    currentSame, get_eq_ok_iff.mpr renders.currentAfter, get_eq_ok_iff.mpr renders.workAfter,
    renders.validateRenderPhaseFibers_eq_ok named, Except.mapError, bind, Except.bind]

end

/-- Once its record is accepted, a commit switches its root over and takes the callbacks of the
queue that was worked on. -/
theorem run_switchToFinishedWork {store : FiberRootStore} {render : HostRootRenderPhaseRecord}
    {root : FiberRoot} {queue : UpdateQueue} {handoff : Option PendingPassiveCommitHandoff}
    {pendingPassive : PendingPassiveState} (found : store.roots.get? render.root = some root)
    (queueFound : store.updateQueues.queue render.workInProgressUpdateQueue = .ok queue)
    (handedOff : recordPendingPassiveCommitHandoff root.scheduling.pendingPassive render.root
      render.workInProgress render.renderLanes = .ok (handoff, pendingPassive)) :
    ∃ result queues, (switchToFinishedWork render).run store = .ok result { store with
      roots := store.roots.modify render.root (·.committed render.workInProgress render.renderLanes
        render.remainingLanes pendingPassive)
      updateQueues := queues } := by
  obtain ⟨after, isAfter⟩ : ∃ after : FiberRootStore, after = { store with
    roots := store.roots.modify render.root (·.committed render.workInProgress render.renderLanes
      render.remainingLanes pendingPassive) } := ⟨_, rfl⟩
  have committedFound : after.roots.get? render.root = some (root.committed render.workInProgress
      render.renderLanes render.remainingLanes pendingPassive) := by
    rw [isAfter, get?_modify, if_pos rfl, found]
    rfl
  have sameQueue : after.updateQueues.queue render.workInProgressUpdateQueue = .ok queue := by
    rw [isAfter]
    exact queueFound
  have modified : (modifyRoot RootCommitError.fiberRootStore render.root
      (·.committed render.workInProgress render.renderLanes render.remainingLanes
        pendingPassive)).run store = .ok () after := by
    rw [isAfter]
    exact run_modifyRoot found _ _
  obtain ⟨callbacks, queues, taken⟩ : ∃ callbacks queues,
      (takeRootUpdateCallbackRecords render.workInProgressUpdateQueue).run after.updateQueues =
        .ok callbacks queues := by
    simp only [takeRootUpdateCallbackRecords, run_bind, run_query, sameQueue,
      run_modifyUpdateQueue sameQueue, run_pure]
    exact ⟨_, _, rfl⟩
  simp only [switchToFinishedWork, run_bind, run_query, run_getRoot found, handedOff, modified,
    run_getRoot committedFound, run_onUpdateQueues taken, run_pure]
  rw [isAfter]
  exact ⟨_, _, rfl⟩

theorem Renders.commitsAtOnce_iff
    (renders : Renders store rendered record rootId renderLanes root node currentNode workNode)
    (named : node.stateNode = some rootId) (noEffects : root.scheduling.pendingPassive = .none)
    (nonEmpty : renderLanes.isEmpty = false) :
    rendered.CommitsAtOnce record ↔ node.childLanes.isSubsetOf record.remainingLanes = true := by
  rw [← renders.validateFinishedHostRoot_eq_ok_iff named nonEmpty]
  constructor
  · rintro ⟨result, committed, ran, -⟩
    obtain ⟨_, _, checked, -⟩ := run_bind_eq_ok_iff.mp ran
    exact (run_query_eq_ok_iff.mp checked).1
  · intro checked
    obtain ⟨queue, queueFound⟩ := renders.workQueue
    obtain ⟨recorded, isRecorded⟩ : ∃ recorded, recorded = root.onScheduling
      (·.recordRenderPhaseWork record.workInProgress renderLanes .completed) := ⟨_, rfl⟩
    have recordedFound : rendered.roots.get? record.root = some recorded := by
      rw [renders.ofRoot, renders.recorded, isRecorded]
    have noneRecorded : recorded.scheduling.pendingPassive = .none := by
      rw [isRecorded]
      exact noEffects
    have noHandoff : recordPendingPassiveCommitHandoff recorded.scheduling.pendingPassive record.root
        record.workInProgress record.renderLanes = .ok (none, .none) := by
      rw [noneRecorded]
      rfl
    obtain ⟨result, queues, switched⟩ := run_switchToFinishedWork recordedFound queueFound noHandoff
    have ran : (commitFinishedHostRoot record).run rendered = .ok result _ :=
      run_bind_eq_ok_iff.mpr ⟨(), rendered, run_query_eq_ok_iff.mpr ⟨checked, rfl⟩, switched⟩
    have committedFound : (rendered.roots.modify record.root (·.committed record.workInProgress
        record.renderLanes record.remainingLanes .none)).get? record.root = some (recorded.committed
          record.workInProgress record.renderLanes record.remainingLanes .none) := by
      rw [get?_modify, if_pos rfl, recordedFound]
      rfl
    have lanesCompared := renders.validateFinishedHostRoot_eq_ok_iff named nonEmpty
    refine ⟨result, _, ran, _, workNode, committedFound, renders.workAfter, ?_⟩
    have pending : (recorded.committed record.workInProgress record.renderLanes record.remainingLanes
        .none).lanes.pendingLanes = record.remainingLanes := rfl
    rw [pending, renders.workShape, merge_isSubsetOf_iff]
    exact ⟨isSubsetOf_refl _, lanesCompared.mp checked⟩

end Commit

theorem stateAfter_bind {ε σ α β : Type} {body : EStateM ε σ α} {next : α → EStateM ε σ β}
    {state between : σ} {value : α} (ran : body.run state = .ok value between) :
    stateAfter ((body >>= next).run state) = stateAfter ((next value).run between) := by
  rw [run_bind, ran]

theorem of_validateFinishedHostRoot {render : HostRootRenderPhaseRecord}
    (checked : validateFinishedHostRoot store render = .ok ()) :
    ∃ root node, store.roots.get? render.root = some root ∧
      store.fiberArena.get? render.workInProgress = some node ∧ node.stateNode = some render.root := by
  obtain ⟨root, rootRan, checked⟩ := bind_eq_ok_iff.mp checked
  obtain ⟨_, -, checked⟩ := bind_eq_ok_iff.mp checked
  obtain ⟨currentNode, -, checked⟩ := bind_eq_ok_iff.mp checked
  obtain ⟨node, nodeRan, checked⟩ := bind_eq_ok_iff.mp checked
  obtain ⟨_, fibers, -⟩ := bind_eq_ok_iff.mp checked
  obtain ⟨_, -, fibers⟩ := bind_eq_ok_iff.mp fibers
  obtain ⟨_, -, fibers⟩ := bind_eq_ok_iff.mp fibers
  obtain ⟨_, -, fibers⟩ := bind_eq_ok_iff.mp fibers
  obtain ⟨_, named, -⟩ := bind_eq_ok_iff.mp fibers
  refine ⟨root, node, ?_, ?_, requireCommit_eq_ok_iff.mp named⟩
  · rw [← root_eq_ok_iff]
    cases found : store.root render.root with
    | ok other =>
      rw [found] at rootRan
      cases rootRan
      rfl
    | error error =>
      rw [found] at rootRan
      cases rootRan
  · rw [← get_eq_ok_iff]
    cases found : store.fiberArena.get render.workInProgress with
    | ok other =>
      rw [found] at nodeRan
      cases nodeRan
      rfl
    | error error =>
      rw [found] at nodeRan
      cases nodeRan

theorem keepsRooted_commitFinishedHostRoot (render : HostRootRenderPhaseRecord) :
    Within KeepsRooted (commitFinishedHostRoot render) := by
  intro store rooted
  cases checked : validateFinishedHostRoot store render with
  | error error =>
    rw [commitFinishedHostRoot, run_bind, run_query, checked]
    exact rooted
  | ok _ =>
    obtain ⟨root, node, found, nodeFound, named⟩ := of_validateFinishedHostRoot checked
    have noHandoff : recordPendingPassiveCommitHandoff root.scheduling.pendingPassive render.root
        render.workInProgress render.renderLanes = .ok (none, .none) := by
      rw [rooted.passive render.root root found]
      rfl
    have rootedAfter : Rooted { store with
        roots := store.roots.modify render.root (·.committed render.workInProgress render.renderLanes
          render.remainingLanes .none) } := by
      refine ⟨rooted.stateNodes, fun id other otherFound => ?_, fun id other otherFound => ?_⟩
      · change (store.roots.modify render.root _).get? id = some other at otherFound
        rw [get?_modify] at otherFound
        by_cases same : id = render.root
        · rw [if_pos same, same, found] at otherFound
          cases otherFound
          exact ⟨node, nodeFound, same ▸ named⟩
        · rw [if_neg same] at otherFound
          exact rooted.current id other otherFound
      · change (store.roots.modify render.root _).get? id = some other at otherFound
        rw [get?_modify] at otherFound
        by_cases same : id = render.root
        · rw [if_pos same, same, found] at otherFound
          cases otherFound
          rfl
        · rw [if_neg same] at otherFound
          exact rooted.passive id other otherFound
    have checkedRan : (query (validateFinishedHostRoot · render)).run store = .ok () store :=
      run_query_eq_ok_iff.mpr ⟨checked, rfl⟩
    have handoffRan : (query fun _ : FiberRootStore => recordPendingPassiveCommitHandoff
        root.scheduling.pendingPassive render.root render.workInProgress render.renderLanes).run store =
          .ok (none, .none) store :=
      run_query_eq_ok_iff.mpr ⟨noHandoff, rfl⟩
    rw [commitFinishedHostRoot, stateAfter_bind checkedRan, switchToFinishedWork,
      stateAfter_bind (run_getRoot found _), stateAfter_bind handoffRan,
      stateAfter_bind (run_modifyRoot found _ _)]
    exact Within.bind (within_getRoot _ _) (fun _ => .bind (keepsRooted_onUpdateQueues _ _) fun _ => .pure _)
      _ rootedAfter

theorem rooted_perform (rooted : Rooted store) (call : RootCommitCall) :
    Rooted (store.perform call) := by
  cases call with
  | createClientRoot formState mode => exact keepsRooted_createClientRoot formState mode store rooted
  | createFiber tag key pendingProps mode =>
    exact keepsRooted_onFibers (keepsStateNodes_createFiber tag key pendingProps mode) id store rooted
  | setChildren parent children =>
    exact keepsRooted_onFibers (keepsStateNodes_setChildren parent children) id store rooted
  | appendChild parent child =>
    exact keepsRooted_onFibers (keepsStateNodes_appendChild parent child) id store rooted
  | createWorkInProgress current pendingProps =>
    exact keepsRooted_onFibers (keepsStateNodes_createWorkInProgress current pendingProps) id store rooted
  | ensureHostRootUpdateQueue root => exact keepsRooted_ensureHostRootUpdateQueue root store rooted
  | enqueueRootUpdate fiber queue lane element callback =>
    exact keepsRooted_enqueueRootUpdate fiber queue lane element callback store rooted
  | finishQueueingConcurrentUpdates => exact keepsRooted_finishQueueingConcurrentUpdates store rooted
  | updateContainer root rootFiber laneChoice element callback =>
    exact keepsRooted_updateContainerImpl root rootFiber laneChoice element callback store rooted
  | markUpdateLanesFromFiberToRoot sourceFiber lanes =>
    exact keepsRooted_markUpdateLanesFromFiberToRoot sourceFiber lanes store rooted
  | renderHostRootForLanes root renderLanes =>
    exact keepsRooted_renderHostRootForLanes root renderLanes store rooted
  | commitFinishedHostRoot render => exact keepsRooted_commitFinishedHostRoot render store rooted

theorem staged_renderHostRootForLanes (rootId : FiberRootId) (renderLanes : Lanes) :
    Leads (StagedApart []) (StagedApart []) (renderHostRootForLanes rootId renderLanes) := by
  refine staged_then (within_getRoot _ _) fun root =>
    staged_then (.mapError _ (keepsStaged_ensureHostRootUpdateQueue rootId)) fun handle => ?_
  intro store apart
  have keptCreated : StagedApart [] (stateAfter ((createHostRootWorkInProgress rootId .none).run store)) :=
    ignoresFibers_keepsStaged.within_createHostRootWorkInProgress rootId _ store apart
  cases createRan : (createHostRootWorkInProgress rootId .none).run store with
  | error error failed =>
    rw [createRan] at keptCreated
    rw [run_bind, run_mapError, createRan]
    exact keptCreated
  | ok workInProgress created =>
    rw [createRan] at keptCreated
    change StagedApart [] created at keptCreated
    obtain ⟨node, live⟩ := live_of_createHostRootWorkInProgress createRan
    rw [stateAfter_bind (run_mapError_eq_ok_iff.mpr createRan)]
    by_cases noQueue : handle.isNone = true
    · unfold refreshUpdateQueueForWorkInProgress
      rw [if_pos noQueue]
      exact keptCreated
    · cases found : created.updateQueues.queue handle with
      | error error =>
        simp only [refreshUpdateQueueForWorkInProgress, if_neg noQueue, run_bind,
          onUpdateQueues, run_mapError, run_focus, cloneHostRootUpdateQueue, run_query, found]
        exact keptCreated
      | ok queue =>
        obtain ⟨copy, copied, result, processed, ranClone, ranPass, -, -, -, unlisted⟩ :=
          run_renderCopy keptCreated found renderLanes
        have liveCopied : ({ created with updateQueues := copied } : FiberRootStore).fiberArena.get?
            workInProgress = some node := live
        have refreshRan : (refreshUpdateQueueForWorkInProgress rootId root.current workInProgress
            handle).run created = .ok copy { created with
              updateQueues := copied
              fiberArena := created.fiberArena.changeFiber workInProgress fun node =>
                { node with updateQueue := copy } } := by
          simp only [refreshUpdateQueueForWorkInProgress, if_neg noQueue, run_bind,
            run_onUpdateQueues ranClone, run_onFibers (run_modifyFiber liveCopied _), run_pure]
        rw [stateAfter_bind refreshRan, stateAfter_bind (run_onUpdateQueues ranPass _)]
        refine Within.bind (.modifyGet fun _ apart => apart) (fun state =>
          .bind (within_onFibers _ _ ignoresFibers_keepsStaged) fun _ =>
          .bind (within_modifyRoot _ fun _ apart => apart) fun _ => .pure _) _ ?_
        exact unlisted

theorem staged_perform (apart : StagedApart [] store) (call : RootCommitCall) :
    StagedApart [] (store.perform call) := by
  have onFibersKept : ∀ {α : Type} (body : FiberArenaM α),
      StagedApart [] (stateAfter ((onFibers id body).run store)) :=
    fun body => within_onFibers id body ignoresFibers_keepsStaged store apart
  cases call with
  | createClientRoot formState mode =>
    exact ignoresFibers_keepsStaged.within_createClientRoot (fun _ _ apart => apart)
      (fun _ _ apart => apart) formState mode store apart
  | createFiber tag key pendingProps mode => exact onFibersKept _
  | setChildren parent children => exact onFibersKept _
  | appendChild parent child => exact onFibersKept _
  | createWorkInProgress current pendingProps => exact onFibersKept _
  | ensureHostRootUpdateQueue root => exact keepsStaged_ensureHostRootUpdateQueue root store apart
  | enqueueRootUpdate fiber queue lane element callback =>
    exact staged_enqueueRootUpdate fiber queue lane element callback store apart
  | finishQueueingConcurrentUpdates => exact staged_finishQueueingConcurrentUpdates store apart
  | updateContainer root rootFiber laneChoice element callback =>
    exact staged_updateContainerImpl root rootFiber laneChoice element callback store apart
  | markUpdateLanesFromFiberToRoot sourceFiber lanes =>
    exact keepsStaged_markUpdateLanesFromFiberToRoot sourceFiber lanes store apart
  | renderHostRootForLanes root renderLanes =>
    exact staged_renderHostRootForLanes root renderLanes store apart
  | commitFinishedHostRoot render =>
    have kept : Within (KeepsStaged []) (commitFinishedHostRoot render) :=
      .bind (.query _) fun _ => .bind (within_getRoot _ _) fun _ => .bind (.query _) fun handoff =>
      .bind (within_modifyRoot _ fun _ apart => apart) fun _ => .bind (within_getRoot _ _) fun _ =>
      .bind (keepsStaged_onUpdateQueues (keepsUnlisted_takeRootUpdateCallbackRecords _) _) fun _ => .pure _
    exact kept store apart

theorem rooted_and_staged_of_calls (calls : List RootCommitCall)
    (rooted : Rooted store) (apart : StagedApart [] store) :
    Rooted (calls.foldl perform store) ∧ StagedApart [] (calls.foldl perform store) := by
  induction calls generalizing store with
  | nil => exact ⟨rooted, apart⟩
  | cons call calls ih =>
    exact ih (rooted_perform rooted call) (staged_perform apart call)

/-- In every store that calls lead to, a render commits at once exactly when all lanes its root's
children wait for are lanes that updates of the root go on waiting for. -/
theorem commits_at_once_iff_child_lanes_wait
    (calls : List RootCommitCall)
    {rootId : FiberRootId}
    {renderLanes : Lanes}
    {record : HostRootRenderPhaseRecord}
    {rendered : FiberRootStore}
    (nonEmpty : renderLanes.isEmpty = false)
    (ran : (renderHostRootForLanes rootId renderLanes).run (calls.foldl perform .new) =
      .ok record rendered) :
    rendered.CommitsAtOnce record ↔
      (calls.foldl perform .new).ChildLanesWait rootId renderLanes := by
  obtain ⟨rooted, apart⟩ := rooted_and_staged_of_calls calls rooted_new unlisted_new
  obtain ⟨root, node, currentNode, workNode, renders⟩ := renderHostRootForLanes_renders apart ran
  have noEffects := rooted.passive rootId root renders.found
  obtain ⟨node', nodeFound, named⟩ := rooted.current rootId root renders.found
  obtain rfl : node = node' := Option.some.inj (renders.currentFound.symm.trans nodeFound)
  rw [renders.commitsAtOnce_iff named noEffects nonEmpty, renders.leaves]
  constructor
  · intro waits root' node' rootFound nodeFound'
    obtain rfl : root = root' := Option.some.inj (renders.found.symm.trans rootFound)
    obtain rfl : node = node' := Option.some.inj (nodeFound.symm.trans nodeFound')
    exact waits
  · exact fun waits => waits root node renders.found nodeFound

/-- A root whose only child waits for a lane. -/
def childWaits : List RootCommitCall := [
  .createClientRoot .none .concurrent,
  .createFiber .functionComponent none .none .concurrent,
  .setChildren ⟨0, 0⟩ [⟨1, 0⟩],
  .markUpdateLanesFromFiberToRoot ⟨1, 0⟩ Lanes.default]

/-- The root with an update of the same lane. -/
def childWaitsForUpdate : List RootCommitCall :=
  childWaits ++ [
    .ensureHostRootUpdateQueue ⟨0, 0⟩,
    .enqueueRootUpdate ⟨0, 0⟩ ⟨1⟩ Lane.default .none .none,
    .finishQueueingConcurrentUpdates]

theorem commits_at_once_iff_child_lanes_wait_sample :
    ∃ record rendered,
      (renderHostRootForLanes ⟨0, 0⟩ Lanes.sync).run
        (childWaitsForUpdate.foldl perform .new) = .ok record rendered ∧
      rendered.CommitsAtOnce record := by
  have nonEmpty : Lanes.sync.isEmpty = false := by decide
  obtain ⟨record, rendered, ran⟩ : ∃ record rendered, (renderHostRootForLanes ⟨0, 0⟩ Lanes.sync).run
      (childWaitsForUpdate.foldl perform .new) = .ok record rendered := ⟨_, _, rfl⟩
  refine ⟨record, rendered, ran, (commits_at_once_iff_child_lanes_wait childWaitsForUpdate nonEmpty ran).mpr ?_⟩
  intro root node rootFound nodeFound
  cases rootFound
  cases nodeFound
  decide

/-- The render of a lane that a child waits for is not committed. -/
theorem waiting_child_refuses_commit :
    ∃ record rendered,
      (renderHostRootForLanes ⟨0, 0⟩ Lanes.default).run (childWaits.foldl perform .new) =
        .ok record rendered ∧
      ¬ rendered.CommitsAtOnce record := by
  refine ⟨_, _, rfl, ?_⟩
  rintro ⟨result, committed, ran, -⟩
  cases ran

end FastReact
