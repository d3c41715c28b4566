import FastReact.FunctionComponentFibers

namespace FastReact

open ErrorState FunctionComponentHookRenderStore HookQueueStore Lanes LinkWalk LinkedArena
open FunctionComponent FunctionComponentWorld

/-!
# Lanes left by a rendered hook

A rendered fiber has no lanes.  So it has the lanes its processed queue leaves exactly if
the queue leaves none, that is if no update that waited for the hook was deferred.
-/

variable {State Action InvokerError Output : Type}

section Queues

variable
  {store after : HookQueueStore State Action FunctionComponentStateReducerId
    FunctionComponentStateDispatchHandle}

theorem defersNothing_note_iff {queue : HookQueueId}
    {reducer : Option FunctionComponentStateReducerId} {slot : HookStateSlot State}
    {renderLanes rootRenderLanes : Lanes}
    (ran : (modifyQueue queue fun entry => { entry with lastRenderedReducer := reducer }).run store =
      .ok () after) :
    after.DefersNothing slot renderLanes rootRenderLanes ↔
      store.DefersNothing slot renderLanes rootRenderLanes := by
  obtain ⟨entry, -, changed⟩ := run_query_bind_eq_ok_iff.mp ran
  cases changed
  have sameTails : ∀ other, (store.changeQueue queue fun entry =>
      { entry with lastRenderedReducer := reducer }).pendingTail other = store.pendingTail other := by
    intro other
    rw [pendingTail, pendingTail, changeQueue, SlotArena.get?_modify]
    by_cases same : other = queue
    · rw [if_pos same]
      cases store.queues.get? other <;> rfl
    · rw [if_neg same]
  have sameWaits : ∀ id, (store.changeQueue queue fun entry =>
      { entry with lastRenderedReducer := reducer }).Waits slot id ↔ store.Waits slot id := by
    intro id
    have sameNext : (store.changeQueue queue fun entry =>
        { entry with lastRenderedReducer := reducer }).splicedNext slot = store.splicedNext slot := by
      funext other
      rw [splicedNext, splicedNext, sameTails]
      rfl
    rw [Waits, Waits, sameNext, waitingTail, waitingTail, sameTails]
  unfold DefersNothing
  simp only [sameWaits]
  exact Iff.rfl

end Queues

section Hooks

variable {store after : FunctionComponentHookRenderStore State Action} {fiber : FiberId}

variable {cursor : HookListUpdateCursor} {alternate : Option FiberId} {workInProgress : FiberId}
  {entry : HookList State}

theorem getElem?_of_list_eq_ok {list : HookListId}
    (resolved : (store.list fiber list : Except (FunctionComponentRenderError State InvokerError) _) =
      .ok entry) : store.hookLists[list]? = some entry := by
  rw [FunctionComponentHookRenderStore.list] at resolved
  cases found : store.hookLists[list]? with
  | none =>
    rw [found] at resolved
    cases resolved
  | some other =>
    rw [found] at resolved
    cases resolved
    rfl

theorem run_onStateQueues_eq_ok {α : Type}
    {body : EStateM HookQueueError (StateQueues State Action) α} {value : α}
    (ran : (onStateQueues fiber body : HookRenderM State Action InvokerError α).run store =
      .ok value after) :
    ∃ queues, body.run store.stateQueues = .ok value queues ∧
      after = { store with stateQueues := queues } := by
  rw [EStateM.run, onStateQueues] at ran
  cases finished : body.run store.stateQueues with
  | ok found queues =>
    rw [finished] at ran
    cases ran
    exact ⟨queues, rfl, rfl⟩
  | error error queues =>
    rw [finished] at ran
    cases ran

variable {state : FunctionComponentHookRenderState} {request : StateHookRequest State Action}
  {hook : HookSlotId}

theorem run_prepareRenderState_eq_ok
    (ran : (prepareRenderState alternate workInProgress : HookRenderM State Action InvokerError _).run
      store = .ok state after) :
    after.stateQueues = store.stateQueues ∧
      match alternate.bind store.currentList with
      | some list =>
        state.phase = .update ∧ state.currentList = some list ∧
        ∃ entry, store.hookLists[list]? = some entry ∧ after.hookLists[list]? = some entry
      | none => state.phase = .mount := by
  obtain ⟨_, _, got, ran⟩ := run_bind_eq_ok_iff.mp ran
  cases got
  cases bound : alternate.bind store.currentList with
  | none =>
    simp only [bound] at ran
    obtain ⟨_, _, created, ran⟩ := run_bind_eq_ok_iff.mp ran
    cases created
    cases ran
    exact ⟨rfl, rfl⟩
  | some list =>
    simp only [bound] at ran
    obtain ⟨entry, resolved, ran⟩ := run_query_bind_eq_ok_iff.mp ran
    obtain ⟨_, _, created, ran⟩ := run_bind_eq_ok_iff.mp ran
    cases created
    cases ran
    have found := getElem?_of_list_eq_ok resolved
    refine ⟨rfl, rfl, rfl, entry, found, ?_⟩
    rw [List.getElem?_append_left (List.getElem?_eq_some_iff.mp found).1, found]

theorem run_ensureUpdateCursorListsUnchanged_eq_ok
    (ran : (ensureUpdateCursorListsUnchanged fiber cursor :
      HookRenderM State Action InvokerError _).run store = .ok () after) : store = after := by
  obtain ⟨_, -, ran⟩ := run_query_bind_eq_ok_iff.mp ran
  obtain ⟨_, -, ran⟩ := run_query_bind_eq_ok_iff.mp ran
  obtain ⟨-, ran⟩ := run_guard_eq_ok_iff.mp ran
  obtain ⟨-, ran⟩ := run_guard_eq_ok_iff.mp ran
  obtain ⟨-, ran⟩ := run_guard_eq_ok_iff.mp ran
  cases ran
  rfl

theorem run_updateHook_eq_ok {cursor moved : HookListUpdateCursor}
    (ran : (updateHook fiber cursor : HookRenderM State Action InvokerError _).run store =
      .ok (hook, moved) after) :
    after.stateQueues = store.stateQueues ∧
      ∃ current payload entry,
        store.hookLists[cursor.currentList]? = some current ∧
        current.hooks[cursor.consumed]? = some payload ∧
        after.hookLists[hook.list]? = some entry ∧
        entry.hooks[hook.index]? = some payload := by
  obtain ⟨_, _, ranCheck, ran⟩ := run_bind_eq_ok_iff.mp ran
  obtain rfl := run_ensureUpdateCursorListsUnchanged_eq_ok ranCheck
  obtain ⟨current, resolved, ran⟩ := run_query_bind_eq_ok_iff.mp ran
  cases shape : current.hooks[cursor.consumed]? with
  | none =>
    simp only [shape] at ran
    cases ran
  | some payload =>
    simp only [shape] at ran
    obtain ⟨cloned, _, ranAppend, ran⟩ := run_bind_eq_ok_iff.mp ran
    cases ran
    obtain ⟨entry, resolvedList, ranAppend⟩ := run_query_bind_eq_ok_iff.mp ranAppend
    cases ranAppend
    refine ⟨rfl, current, payload, { entry with hooks := entry.hooks ++ [payload] },
      getElem?_of_list_eq_ok resolved, shape, ?_, ?_⟩
    · simp [getElem?_of_list_eq_ok resolvedList]
    · simp

theorem run_beginUpdate_eq_ok
    (ran : (beginUpdate state : HookRenderM State Action InvokerError _).run store =
      .ok cursor after) :
    after = store ∧ state.currentList = some cursor.currentList ∧ cursor.consumed = 0 := by
  cases listShape : state.currentList with
  | none =>
    simp only [beginUpdate, listShape] at ran
    cases ran
  | some list =>
    simp only [beginUpdate, listShape] at ran
    obtain ⟨_, -, ran⟩ := run_query_bind_eq_ok_iff.mp ran
    obtain ⟨_, -, ran⟩ := run_query_bind_eq_ok_iff.mp ran
    obtain ⟨-, ran⟩ := run_guard_eq_ok_iff.mp ran
    obtain ⟨-, ran⟩ := run_guard_eq_ok_iff.mp ran
    cases ran
    exact ⟨rfl, rfl, rfl⟩

theorem run_processPayload_eq_ok {slot : HookStateSlot State}
    {result : ProcessHookQueueResult State}
    (ran : (processPayload fiber hook slot request : HookRenderM State Action InvokerError _).run
      store = .ok result after) :
    result.remainingLanes = no ↔
      store.stateQueues.DefersNothing slot request.renderLanes request.rootRenderLanes := by
  obtain ⟨⟨processed, copy⟩, _, ranCopy, ran⟩ := run_bind_eq_ok_iff.mp ran
  obtain ⟨queues, copied, rfl⟩ := run_onStateQueues_eq_ok ranCopy
  obtain ⟨_, _, _, ran⟩ := run_bind_eq_ok_iff.mp ran
  cases ran
  rw [EStateM.run, processCopy] at copied
  cases passed : (processUpdateQueue request.renderLanes request.rootRenderLanes
      request.reducer).run (store.stateQueues, slot) with
  | ok found held =>
    rw [passed] at copied
    cases copied
    exact remainingLanes_eq_no_iff passed
  | error error held =>
    rw [passed] at copied
    cases copied

theorem run_processHookQueue_eq_ok {record : FunctionComponentStateUpdateRenderRecord State}
    {payload : HookSlotPayload State} (found : store.hookLists[hook.list]? = some entry)
    (isPayload : entry.hooks[hook.index]? = some payload)
    (ran : (processHookQueue fiber hook request : HookRenderM State Action InvokerError _).run store =
      .ok record after) :
    ∃ slot, payload.statePayload = some slot ∧
      (record.result.remainingLanes = no ↔
        store.stateQueues.DefersNothing slot request.renderLanes request.rootRenderLanes) := by
  obtain ⟨slot, resolved, ran⟩ := run_query_bind_eq_ok_iff.mp ran
  have isSlot : payload.statePayload = some slot := by
    obtain ⟨other, resolvedList, resolved⟩ := bind_eq_ok_iff.mp resolved
    cases found.symm.trans (getElem?_of_list_eq_ok resolvedList)
    simp only [isPayload] at resolved
    cases shape : payload.statePayload with
    | none =>
      simp only [shape] at resolved
      cases resolved
    | some other =>
      simp only [shape] at resolved
      cases resolved
      rfl
  refine ⟨slot, isSlot, ?_⟩
  obtain ⟨_, -, ran⟩ := run_query_bind_eq_ok_iff.mp ran
  cases kindShape : request.kind with
  | state =>
    simp only [kindShape] at ran
    obtain ⟨result, _, processed, ran⟩ := run_bind_eq_ok_iff.mp ran
    cases ran
    exact run_processPayload_eq_ok processed
  | reducer handle =>
    -- The reducer is noted before the queue is processed.
    simp only [kindShape] at ran
    obtain ⟨_, -, ran⟩ := run_query_bind_eq_ok_iff.mp ran
    obtain ⟨_, _, ranNote, ran⟩ := run_bind_eq_ok_iff.mp ran
    obtain ⟨queues, noted, rfl⟩ := run_onStateQueues_eq_ok ranNote
    obtain ⟨result, _, processed, ran⟩ := run_bind_eq_ok_iff.mp ran
    cases ran
    rw [← defersNothing_note_iff noted]
    exact run_processPayload_eq_ok processed

theorem run_renderStateHook_eq_ok {prepared : FunctionComponentHookRenderStore State Action}
    {stateHook : FunctionComponentStateHookRenderRecord State}
    (ranPrepare : (prepareRenderState alternate workInProgress :
      HookRenderM State Action InvokerError _).run store = .ok state prepared)
    (ran : (renderStateHook state request : HookRenderM State Action InvokerError _).run prepared =
      .ok stateHook after) :
    (∀ update, stateHook = .update update → update.result.remainingLanes = no) ↔
      ∀ list entry payload slot, alternate.bind store.currentList = some list →
        store.hookLists[list]? = some entry → entry.hooks[0]? = some payload →
        payload.statePayload = some slot →
        store.stateQueues.DefersNothing slot request.renderLanes request.rootRenderLanes := by
  obtain ⟨sameQueues, working⟩ := run_prepareRenderState_eq_ok ranPrepare
  cases bound : alternate.bind store.currentList with
  | none =>
    rw [bound] at working
    have mounting : state.phase = .mount := working
    simp only [renderStateHook, mounting] at ran
    obtain ⟨hook, _, _, ran⟩ := run_bind_eq_ok_iff.mp ran
    cases ran
    exact iff_of_true (fun _ shape => by cases shape) (fun _ _ _ _ shape => by cases shape)
  | some list =>
    rw [bound] at working
    obtain ⟨updating, isList, entry, found, kept⟩ := working
    simp only [renderStateHook, updating] at ran
    obtain ⟨cursor, _, ranBegin, ranTraverse⟩ := run_bind_eq_ok_iff.mp ran
    obtain ⟨rfl, fromList, atStart⟩ := run_beginUpdate_eq_ok ranBegin
    cases isList.symm.trans fromList
    obtain ⟨⟨hook, moved⟩, copied, ranCopy, ranProcess⟩ := run_bind_eq_ok_iff.mp ranTraverse
    obtain ⟨copiedQueues, current, payload, copy, isCurrent, isPayload, isCopy, copyPayload⟩ :=
      run_updateHook_eq_ok ranCopy
    cases kept.symm.trans isCurrent
    rw [atStart] at isPayload
    obtain ⟨record, _, processed, ranFinish⟩ := run_bind_eq_ok_iff.mp ranProcess
    obtain ⟨slot, isSlot, leaves⟩ := run_processHookQueue_eq_ok isCopy copyPayload processed
    obtain ⟨_, _, _, finished⟩ := run_bind_eq_ok_iff.mp ranFinish
    cases finished
    rw [copiedQueues, sameQueues] at leaves
    constructor
    · intro noLanes list' entry' payload' slot' isList' found' isPayload' isSlot'
      cases isList'
      cases found.symm.trans found'
      cases isPayload.symm.trans isPayload'
      cases isSlot.symm.trans isSlot'
      exact leaves.mp (noLanes record rfl)
    · rintro inTime update shape
      cases shape
      exact leaves.mpr (inTime _ entry payload slot rfl found isPayload isSlot)

end Hooks

section Fibers

variable {world after : FunctionComponentWorld State Action}

theorem get?_of_get_eq_ok {id : FiberId} {node : ComponentFiber}
    (resolved : (world.get id : Except (FunctionComponentFiberError State InvokerError) _) =
      .ok node) : world.arena.get? id = some node := by
  rw [← SlotArena.find_eq_ok_iff]
  rw [FunctionComponentWorld.get] at resolved
  cases found : world.arena.find id with
  | ok value =>
    rw [found] at resolved
    cases resolved
    rfl
  | error error =>
    rw [found] at resolved
    cases resolved

theorem run_modifyComponentFiber_eq_ok {id : FiberId} {change : ComponentFiber → ComponentFiber}
    (ran : (modifyComponentFiber id change : FunctionComponentM State Action InvokerError Unit).run
      world = .ok () after) :
    after.hookStore = world.hookStore ∧ after.arena.get? id = (world.arena.get? id).map change := by
  obtain ⟨node, resolved, ran⟩ := run_query_bind_eq_ok_iff.mp ran
  cases ran
  refine ⟨rfl, ?_⟩
  simp [SlotArena.get?_modify]

theorem run_onHookStore_eq_ok {α : Type} {body : HookRenderM State Action InvokerError α}
    {value : α}
    (ran : (onHookStore body : FunctionComponentM State Action InvokerError α).run world =
      .ok value after) :
    body.run world.hookStore = .ok value after.hookStore ∧ after.arena = world.arena := by
  obtain ⟨changed, finished, rfl⟩ := run_focus_eq_ok_iff.mp ran
  exact ⟨run_mapError_eq_ok_iff.mp finished, rfl⟩

theorem isSubsetOf_no_iff {lanes : Lanes} :
    lanes.isSubsetOf no = true ↔ lanes = no := by
  constructor
  · intro inside
    apply ext_index
    intro index
    rw [containsIndex_no]
    exact containsIndex_eq_false_of_isSubsetOf inside (containsIndex_no index)
  · rintro rfl
    exact no_isSubsetOf no

/-- A rendered fiber has the lanes its queue leaves exactly if no update waiting for the
hook was deferred. -/
theorem keepsRemainingLanes_iff {workInProgress : FiberId} {renderLanes : Lanes}
    {request : StateHookRequest State Action}
    {invoke : FunctionComponentInvocationRequest → Except InvokerError Output}
    {record : FunctionComponentRenderRecord State Output}
    (ran : (renderFunctionComponentWithStateHook workInProgress renderLanes request invoke).run world =
      .ok record after) :
    after.KeepsRemainingLanes workInProgress record ↔
      world.DefersNoHookUpdate workInProgress ⟨request.renderLanes, request.rootRenderLanes⟩ := by
  obtain ⟨checked, -, ranNode⟩ := run_query_bind_eq_ok_iff.mp ran
  obtain ⟨node, resolved, ranPrepare⟩ := run_query_bind_eq_ok_iff.mp ranNode
  have found := get?_of_get_eq_ok resolved
  obtain ⟨hookState, _, onPrepare, ranReset⟩ := run_bind_eq_ok_iff.mp ranPrepare
  obtain ⟨prepared, preparedArena⟩ := run_onHookStore_eq_ok onPrepare
  obtain ⟨_, _, reset, ranRender⟩ := run_bind_eq_ok_iff.mp ranReset
  obtain ⟨resetHooks, resetNode⟩ := run_modifyComponentFiber_eq_ok reset
  obtain ⟨stateHook, _, onRender, ranInvoke⟩ := run_bind_eq_ok_iff.mp ranRender
  obtain ⟨renderedHook, renderedArena⟩ := run_onHookStore_eq_ok onRender
  obtain ⟨output, -, ranProps⟩ := run_query_bind_eq_ok_iff.mp ranInvoke
  obtain ⟨_, _, assigned, ranResult⟩ := run_bind_eq_ok_iff.mp ranProps
  obtain ⟨-, propsNode⟩ := run_modifyComponentFiber_eq_ok assigned
  obtain ⟨rendered, -, finished⟩ := run_query_bind_eq_ok_iff.mp ranResult
  cases finished
  rw [resetHooks] at renderedHook
  have leaves := run_renderStateHook_eq_ok prepared renderedHook
  rw [renderedArena, resetNode, preparedArena, found] at propsNode
  have cleared : ∃ last, after.arena.get? workInProgress = some last ∧ last.lanes = no :=
    ⟨_, propsNode, rfl⟩
  have stores : world.DefersNoHookUpdate workInProgress
      ⟨request.renderLanes, request.rootRenderLanes⟩ ↔
        ∀ list entry payload slot, node.alternate.bind world.hookStore.currentList = some list →
          world.hookStore.hookLists[list]? = some entry → entry.hooks[0]? = some payload →
          payload.statePayload = some slot →
          world.hookStore.stateQueues.DefersNothing slot request.renderLanes
            request.rootRenderLanes := by
    rw [DefersNoHookUpdate, currentStateHook?, found]
    constructor
    · intro inTime list entry payload slot isList isEntry isPayload isSlot
      apply inTime slot
      simp [isList, isEntry, isPayload, isSlot]
    · intro inTime slot isSlot
      obtain ⟨_, isNode, ofNode⟩ := Option.bind_eq_some_iff.mp isSlot
      cases isNode
      obtain ⟨list, isList, ofList⟩ := Option.bind_eq_some_iff.mp ofNode
      obtain ⟨entry, isEntry, ofEntry⟩ := Option.bind_eq_some_iff.mp ofList
      obtain ⟨payload, isPayload, ofPayload⟩ := Option.bind_eq_some_iff.mp ofEntry
      exact inTime list entry payload slot isList isEntry isPayload ofPayload
  rw [stores, ← leaves]
  obtain ⟨last, isLast, noLanes⟩ := cleared
  constructor
  · intro kept update shape
    obtain ⟨other, isOther, inside⟩ := kept update shape
    cases isLast.symm.trans isOther
    rw [noLanes] at inside
    exact isSubsetOf_no_iff.mp inside
  · intro nothing update shape
    refine ⟨last, isLast, ?_⟩
    rw [nothing update shape]
    exact no_isSubsetOf last.lanes

/-- After a successful render with one state hook or reducer hook, also when work begins
with it, the fiber has the lanes its processed queue leaves if and only if no update that
waited for the hook was deferred under the lanes of the request. -/
theorem remaining_lanes_kept_iff_nothing_deferred
    (world : FunctionComponentWorld State Action)
    (workInProgress : FiberId)
    (renderLanes : Lanes)
    (invoke : FunctionComponentInvocationRequest → Except InvokerError Output)
    (reducer : State → Action → State) :
    (∀ stateRequest record after,
      (renderFunctionComponentWithUseState workInProgress renderLanes stateRequest invoke reducer).run
        world = .ok record after →
      (after.KeepsRemainingLanes workInProgress record ↔
        world.DefersNoHookUpdate workInProgress stateRequest.lanes)) ∧
    (∀ reducerRequest record after,
      (renderFunctionComponentWithUseReducer workInProgress renderLanes reducerRequest invoke
        reducer).run world = .ok record after →
      (after.KeepsRemainingLanes workInProgress record ↔
        world.DefersNoHookUpdate workInProgress reducerRequest.lanes)) ∧
    (∀ stateRequest record after,
      (beginWorkWithUseState ⟨workInProgress, renderLanes⟩ stateRequest invoke reducer).run world =
        .ok record after →
      (after.KeepsRemainingLanes workInProgress record ↔
        world.DefersNoHookUpdate workInProgress stateRequest.lanes)) := by
  refine ⟨?_, ?_, ?_⟩
  · intro stateRequest record after ran
    rw [renderFunctionComponentWithUseState] at ran
    have kept := keepsRemainingLanes_iff ran
    exact kept
  · intro reducerRequest record after ran
    rw [renderFunctionComponentWithUseReducer] at ran
    have kept := keepsRemainingLanes_iff ran
    exact kept
  · intro stateRequest record after ran
    rw [beginWorkWithUseState, run_bind_eq_ok_iff] at ran
    obtain ⟨node, between, asked, ranRender⟩ := ran
    have sameWorld : world = between := (run_query_eq_ok_iff.mp asked).2
    rw [← sameWorld] at ranRender
    by_cases isFunction : node.tag = .functionComponent
    · rw [if_pos isFunction, renderFunctionComponentWithUseState] at ranRender
      have kept := keepsRemainingLanes_iff (run_mapError_eq_ok_iff.mp ranRender)
      exact kept
    · rw [if_neg isFunction] at ranRender
      cases ranRender

end Fibers

section Sample

def sampleComponentFiber (alternate : FiberId) : ComponentFiber where
  toFiberNode := { FiberNode.new .functionComponent none .none FiberMode.no with
    alternate := some alternate }
  fiberType := ⟨1⟩
  memoizedProps := .none

/-- A fiber with its alternate, whose hook waits for one update at the default lane. -/
def sampleDeferringWorld : FunctionComponentWorld Nat Nat where
  arena := ⟨[⟨0, some (sampleComponentFiber ⟨1, 0⟩)⟩, ⟨0, some (sampleComponentFiber ⟨0, 0⟩)⟩], [],
    fun _ member => absurd member List.not_mem_nil, List.nodup_nil⟩
  hookStore := stateAfter
    ((do
      let _ ← createCurrentStateHook ⟨0, 0⟩ 0
      dispatchStateUpdate
        { dispatch := ⟨1⟩
          action := 1
          lane := ⟨Lanes.default, HookUpdateLane.accepts_default⟩
          revertLane := HookRevertLane.no
          eagerState := none } : HookRenderM Nat Nat Unit HookUpdateId).run .new)

def sampleDeferringLanes : FunctionComponentStateUpdateRenderLanes :=
  ⟨Lanes.sync, Lanes.sync⟩

/-- A render of the sample world under the sync lane. -/
def sampleDeferringRender :
    EStateM.Result (FunctionComponentFiberError Nat Unit) (FunctionComponentWorld Nat Nat)
      (FunctionComponentRenderRecord Nat Unit) :=
  (renderFunctionComponentWithUseState ⟨1, 0⟩ Lanes.sync ⟨0, sampleDeferringLanes⟩
    (fun _ => .ok ()) (· + ·)).run sampleDeferringWorld

theorem sampleDeferringRender_ok :
    ∃ record after, sampleDeferringRender = .ok record after ∧
      (∃ update, record.stateHook = .update update ∧ update.result.remainingLanes = default) ∧
      ∃ node, after.arena.get? ⟨1, 0⟩ = some node ∧ node.lanes = no :=
  ⟨_, _, rfl, ⟨_, rfl, by decide⟩, _, rfl, rfl⟩

/-- The equivalence applies to that render. -/
theorem remaining_lanes_kept_iff_nothing_deferred_sample :
    ∃ record after, sampleDeferringRender = .ok record after ∧
      (after.KeepsRemainingLanes ⟨1, 0⟩ record ↔
        sampleDeferringWorld.DefersNoHookUpdate ⟨1, 0⟩ sampleDeferringLanes) := by
  obtain ⟨record, after, ran, -⟩ := sampleDeferringRender_ok
  exact ⟨record, after, ran,
    (remaining_lanes_kept_iff_nothing_deferred sampleDeferringWorld ⟨1, 0⟩ Lanes.sync
      (fun _ => .ok ()) (· + ·)).1 ⟨0, sampleDeferringLanes⟩ record after ran⟩

/-- The default lane of the waiting update is forgotten. -/
theorem render_forgets_deferred_lanes :
    ∃ record after, sampleDeferringRender = .ok record after ∧
      ¬ after.KeepsRemainingLanes ⟨1, 0⟩ record := by
  obtain ⟨record, after, ran, ⟨update, isUpdate, remaining⟩, node, found, noLanes⟩ :=
    sampleDeferringRender_ok
  refine ⟨record, after, ran, ?_⟩
  intro kept
  obtain ⟨other, isOther, inside⟩ := kept update isUpdate
  cases found.symm.trans isOther
  rw [remaining, noLanes] at inside
  exact absurd inside (by decide)

end Sample

end FastReact
