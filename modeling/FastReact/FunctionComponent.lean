import FastReact.Fiber
import FastReact.HookStateQueue

namespace FastReact

open ErrorState HookQueueStore

/-!
# State hooks of function components

A fiber has a list of hooks.  Rendering builds a new list for the work in
progress: hook by hook the payload of the current list is copied and its update
queue is processed on the copy.  The queues and their updates are shared between
both lists.  A commit makes the new list the current one.
-/

inductive StateDispatchTag
inductive ReducerTag

abbrev FunctionComponentStateDispatchHandle := OpaqueHandle StateDispatchTag
abbrev FunctionComponentReducerHandle := OpaqueHandle ReducerTag

/-- The reducer a queue was last rendered with. -/
inductive FunctionComponentStateReducerId where
  | basicState
  | reducer (handle : FunctionComponentReducerHandle)
deriving DecidableEq

namespace FunctionComponent

inductive HookEffectTag

abbrev HookEffectId := OpaqueHandle HookEffectTag

/-- Hook lists are numbered in the order of their creation. -/
abbrev HookListId := Nat

/-- A hook is named by its list and its position. -/
structure HookSlotId where
  list : HookListId
  index : Nat
deriving DecidableEq

inductive HookSlotPayload (State : Type) where
  | opaqueValue (memoizedState : State)
  | state (payload : HookStateSlot State)
  | effect (effect : HookEffectId)
deriving DecidableEq

def HookSlotPayload.statePayload {State : Type} :
    HookSlotPayload State → Option (HookStateSlot State)
  | .state payload => some payload
  | .opaqueValue _ | .effect _ => none

structure HookList (State : Type) where
  owner : FiberId
  hooks : List (HookSlotPayload State)
deriving DecidableEq

inductive HookListError where
  | invalidListSlot (list : HookListId)
  | invalidHookSlot (hook : HookSlotId)
  | listOwnerMismatch (currentList workInProgressList : HookListId)
      (currentOwner workInProgressOwner : FiberId)
  | workInProgressListNotEmpty (list : HookListId)
  | renderedMoreHooksThanPreviousRender (currentList workInProgressList : HookListId)
      (attemptedIndex : Nat)
  | renderedFewerHooksThanExpected (currentList workInProgressList : HookListId)
      (nextUnvisited : HookSlotId) (remaining : Nat)
  | traversalCursorOutOfSync (list : HookListId) (expectedLen actualLen : Nat)
deriving DecidableEq

end FunctionComponent

open FunctionComponent

inductive FunctionComponentHookRenderPhase where
  | mount
  | update
deriving DecidableEq

inductive FunctionComponentRenderError (State InvokerError : Type) where
  | hookList (fiber : FiberId) (error : HookListError)
  | hookQueue (fiber : FiberId) (error : HookQueueError)
  | missingCurrentHookList (fiber : FiberId)
  | hookCursorPhaseMismatch (fiber : FiberId) (expected actual : FunctionComponentHookRenderPhase)
  | missingStateHookPayload (fiber : FiberId) (hook : HookSlotId)
  | missingStateDispatch (fiber : FiberId) (queue : HookQueueId)
  | expectedReducerQueue (fiber : FiberId) (queue : HookQueueId)
  | expectedBasicStateQueue (fiber : FiberId) (queue : HookQueueId)
      (actual : Option FunctionComponentStateReducerId)
  | unknownStateDispatch (dispatch : FunctionComponentStateDispatchHandle)
  | staleStateDispatch (fiber : FiberId) (queue : HookQueueId)
      (expected actual : FunctionComponentStateDispatchHandle)
  | missingStateDispatchReducer (fiber : FiberId) (queue : HookQueueId)
  | stateDispatchEagerStateMismatch (fiber : FiberId) (queue : HookQueueId)
      (expected actual : State)
  | invocation (fiber : FiberId) (error : InvokerError)

/-- Whom a dispatch handle belongs to. -/
structure FunctionComponentStateDispatchBinding where
  handle : FunctionComponentStateDispatchHandle
  fiber : FiberId
  queue : HookQueueId
deriving DecidableEq

structure FunctionComponentCurrentHookList where
  fiber : FiberId
  list : HookListId
deriving DecidableEq

abbrev StateQueues (State Action : Type) :=
  HookQueueStore State Action FunctionComponentStateReducerId
    FunctionComponentStateDispatchHandle

/-- Hook lists, their queues and the bindings of fibers and dispatch handles. -/
structure FunctionComponentHookRenderStore (State Action : Type) where
  hookLists : List (HookList State)
  stateQueues : StateQueues State Action
  currentLists : List FunctionComponentCurrentHookList
  stateDispatches : List FunctionComponentStateDispatchBinding
  nextStateDispatchRaw : Nat

variable {State Action InvokerError Output : Type}

abbrev HookRenderM (State Action InvokerError : Type) :=
  EStateM (FunctionComponentRenderError State InvokerError)
    (FunctionComponentHookRenderStore State Action)

namespace FunctionComponentHookRenderStore

def new : FunctionComponentHookRenderStore State Action where
  hookLists := []
  stateQueues := HookQueueStore.new
  currentLists := []
  stateDispatches := []
  nextStateDispatchRaw := 1

def currentList (store : FunctionComponentHookRenderStore State Action) (fiber : FiberId) :
    Option HookListId :=
  (store.currentLists.find? fun binding => binding.fiber = fiber).map (·.list)

def list (store : FunctionComponentHookRenderStore State Action) (fiber : FiberId)
    (list : HookListId) :
    Except (FunctionComponentRenderError State InvokerError) (HookList State) :=
  match store.hookLists[list]? with
  | some entry => .ok entry
  | none => .error (.hookList fiber (.invalidListSlot list))

def stateQueue (store : FunctionComponentHookRenderStore State Action) (fiber : FiberId)
    (queue : HookQueueId) :
    Except (FunctionComponentRenderError State InvokerError)
      (HookQueue State FunctionComponentStateReducerId
        FunctionComponentStateDispatchHandle) :=
  (store.stateQueues.queue queue).mapError (.hookQueue fiber)

def statePayloadForHook (store : FunctionComponentHookRenderStore State Action) (fiber : FiberId)
    (hook : HookSlotId) :
    Except (FunctionComponentRenderError State InvokerError) (HookStateSlot State) := do
  let entry ← store.list fiber hook.list
  match entry.hooks[hook.index]? with
  | none => .error (.hookList fiber (.invalidHookSlot hook))
  | some payload =>
      match payload.statePayload with
      | some payload => .ok payload
      | none => .error (.missingStateHookPayload fiber hook)

def stateDispatchForQueue (store : FunctionComponentHookRenderStore State Action) (fiber : FiberId)
    (queue : HookQueueId) :
    Except (FunctionComponentRenderError State InvokerError)
      FunctionComponentStateDispatchHandle := do
  match (← store.stateQueue fiber queue).dispatch with
  | some dispatch => .ok dispatch
  | none => .error (.missingStateDispatch fiber queue)

def reducerForQueue (store : FunctionComponentHookRenderStore State Action) (fiber : FiberId)
    (queue : HookQueueId) :
    Except (FunctionComponentRenderError State InvokerError)
      FunctionComponentReducerHandle := do
  match (← store.stateQueue fiber queue).lastRenderedReducer with
  | some (.reducer reducer) => .ok reducer
  | some .basicState | none => .error (.expectedReducerQueue fiber queue)

def stateDispatchBinding (store : FunctionComponentHookRenderStore State Action)
    (dispatch : FunctionComponentStateDispatchHandle) :
    Except (FunctionComponentRenderError State InvokerError)
      FunctionComponentStateDispatchBinding :=
  match store.stateDispatches.find? fun binding => binding.handle = dispatch with
  | some binding => .ok binding
  | none => .error (.unknownStateDispatch dispatch)

end FunctionComponentHookRenderStore

open FunctionComponentHookRenderStore

/-- Run an operation on the state queues. -/
def onStateQueues {α : Type} (fiber : FiberId)
    (body : EStateM HookQueueError (StateQueues State Action) α) :
    HookRenderM State Action InvokerError α := fun store =>
  match body.run store.stateQueues with
  | .ok value queues => .ok value { store with stateQueues := queues }
  | .error error queues => .error (.hookQueue fiber error) { store with stateQueues := queues }

namespace FunctionComponent

def createList (owner : FiberId) : HookRenderM State Action InvokerError HookListId :=
  modifyGet fun store =>
    (store.hookLists.length,
      { store with hookLists := store.hookLists ++ [⟨owner, []⟩] })

def appendHook (fiber : FiberId) (list : HookListId) (payload : HookSlotPayload State) :
    HookRenderM State Action InvokerError HookSlotId := do
  let entry ← query (·.list fiber list)
  modify fun store =>
    { store with hookLists := store.hookLists.modify list fun entry =>
        { entry with hooks := entry.hooks ++ [payload] } }
  return ⟨list, entry.hooks.length⟩

def setHookPayload (fiber : FiberId) (hook : HookSlotId) (payload : HookSlotPayload State) :
    HookRenderM State Action InvokerError Unit := do
  let entry ← query (·.list fiber hook.list)
  if entry.hooks.length ≤ hook.index then
    throw (.hookList fiber (.invalidHookSlot hook))
  modify fun store =>
    { store with hookLists := store.hookLists.modify hook.list fun entry =>
        { entry with hooks := entry.hooks.set hook.index payload } }

end FunctionComponent

def bindCurrentListUnchecked (fiber : FiberId) (list : HookListId) :
    HookRenderM State Action InvokerError Unit :=
  modify fun store =>
    { store with currentLists :=
        if store.currentLists.any fun binding => binding.fiber = fiber then
          store.currentLists.map fun binding =>
            if binding.fiber = fiber then { binding with list := list } else binding
        else
          store.currentLists ++ [⟨fiber, list⟩] }

def createStateDispatch (fiber : FiberId) (queue : HookQueueId) :
    HookRenderM State Action InvokerError FunctionComponentStateDispatchHandle :=
  modifyGet fun store =>
    (⟨store.nextStateDispatchRaw⟩,
      { store with
        nextStateDispatchRaw := store.nextStateDispatchRaw + 1
        stateDispatches := store.stateDispatches ++
          [{ handle := ⟨store.nextStateDispatchRaw⟩, fiber := fiber, queue := queue }] })

def setQueueReducer (fiber : FiberId) (queue : HookQueueId)
    (dispatch : FunctionComponentStateDispatchHandle) (reducer : FunctionComponentStateReducerId) :
    HookRenderM State Action InvokerError Unit :=
  onStateQueues fiber (modifyQueue queue fun entry =>
    { entry with dispatch := some dispatch, lastRenderedReducer := some reducer })

def createCurrentHook (fiber : FiberId) (reducer : FunctionComponentStateReducerId)
    (initialState : State) : HookRenderM State Action InvokerError HookSlotId := do
  let list ←
    match (← get).currentList fiber with
    | some list => pure list
    | none => do
        let list ← createList fiber
        bindCurrentListUnchecked fiber list
        pure list
  let slot ← onStateQueues fiber (createStateSlot initialState)
  let dispatch ← createStateDispatch fiber slot.queue
  setQueueReducer fiber slot.queue dispatch reducer
  appendHook fiber list (.state slot)

def createCurrentStateHook (fiber : FiberId) (initialState : State) :
    HookRenderM State Action InvokerError HookSlotId :=
  createCurrentHook fiber .basicState initialState

def createCurrentReducerHook (fiber : FiberId) (reducer : FunctionComponentReducerHandle)
    (initialState : State) : HookRenderM State Action InvokerError HookSlotId :=
  createCurrentHook fiber (.reducer reducer) initialState

structure FunctionComponentHookRenderState where
  phase : FunctionComponentHookRenderPhase
  renderFiber : FiberId
  current : Option FiberId
  currentList : Option HookListId
  workInProgressList : HookListId
deriving DecidableEq

/-- Find the current list of the fiber to render and create the list to fill. -/
def prepareRenderState (alternate : Option FiberId) (workInProgress : FiberId) :
    HookRenderM State Action InvokerError FunctionComponentHookRenderState := do
  let store ← get
  match alternate.bind store.currentList with
  | some list =>
      let owner := (← query (·.list workInProgress list)).owner
      let workInProgressList ← createList owner
      return {
        phase := .update
        renderFiber := workInProgress
        current := alternate
        currentList := some list
        workInProgressList := workInProgressList }
  | none =>
      let workInProgressList ← createList workInProgress
      return {
        phase := .mount
        renderFiber := workInProgress
        current := alternate
        currentList := none
        workInProgressList := workInProgressList }

namespace FunctionComponent

/-- The position of an update traversal. -/
structure HookListUpdateCursor where
  currentList : HookListId
  workInProgressList : HookListId
  consumed : Nat
  expectedCount : Nat
deriving DecidableEq

end FunctionComponent

/-- Both lists of a traversal still have the owner and the lengths it expects. -/
def ensureUpdateCursorListsUnchanged (fiber : FiberId) (cursor : HookListUpdateCursor) :
    HookRenderM State Action InvokerError Unit := do
  let current ← query (·.list fiber cursor.currentList)
  let workInProgress ← query (·.list fiber cursor.workInProgressList)
  if current.owner ≠ workInProgress.owner then
    throw (.hookList fiber (.listOwnerMismatch cursor.currentList
      cursor.workInProgressList current.owner workInProgress.owner))
  if current.hooks.length ≠ cursor.expectedCount then
    throw (.hookList fiber (.traversalCursorOutOfSync cursor.currentList
      cursor.expectedCount current.hooks.length))
  if workInProgress.hooks.length ≠ cursor.consumed then
    throw (.hookList fiber (.traversalCursorOutOfSync cursor.workInProgressList
      cursor.consumed workInProgress.hooks.length))

/-- Start an update traversal of the current list. -/
def beginUpdate (state : FunctionComponentHookRenderState) :
    HookRenderM State Action InvokerError HookListUpdateCursor := do
  match state.currentList with
  | none => throw (.missingCurrentHookList state.renderFiber)
  | some currentList =>
      let current ← query (·.list state.renderFiber currentList)
      let workInProgress ← query (·.list state.renderFiber state.workInProgressList)
      if current.owner ≠ workInProgress.owner then
        throw (.hookList state.renderFiber (.listOwnerMismatch currentList
          state.workInProgressList current.owner workInProgress.owner))
      if workInProgress.hooks ≠ [] then
        throw (.hookList state.renderFiber
          (.workInProgressListNotEmpty state.workInProgressList))
      return {
        currentList := currentList
        workInProgressList := state.workInProgressList
        consumed := 0
        expectedCount := current.hooks.length }

namespace FunctionComponent

/-- Copy the next hook of the current list. -/
def updateHook (fiber : FiberId) (cursor : HookListUpdateCursor) :
    HookRenderM State Action InvokerError (HookSlotId × HookListUpdateCursor) := do
  ensureUpdateCursorListsUnchanged fiber cursor
  let current ← query (·.list fiber cursor.currentList)
  match current.hooks[cursor.consumed]? with
  | none =>
      throw (.hookList fiber (.renderedMoreHooksThanPreviousRender cursor.currentList
        cursor.workInProgressList cursor.consumed))
  | some payload =>
      let cloned ← appendHook fiber cursor.workInProgressList payload
      return (cloned, { cursor with consumed := cursor.consumed + 1 })

end FunctionComponent

/-- End an update traversal; every hook must have been visited. -/
def finishUpdate (fiber : FiberId) (cursor : HookListUpdateCursor) :
    HookRenderM State Action InvokerError Unit := do
  ensureUpdateCursorListsUnchanged fiber cursor
  if cursor.consumed < (← query (·.list fiber cursor.currentList)).hooks.length then
    throw (.hookList fiber (.renderedFewerHooksThanExpected cursor.currentList
      cursor.workInProgressList ⟨cursor.currentList, cursor.consumed⟩
      (cursor.expectedCount - cursor.consumed)))

inductive StateHookKind where
  | state
  | reducer (handle : FunctionComponentReducerHandle)
deriving DecidableEq

/-- How a component renders one of its hooks. -/
structure StateHookRequest (State Action : Type) where
  kind : StateHookKind
  initialState : State
  renderLanes : Lanes
  rootRenderLanes : Lanes
  reducer : State → Action → State

/-- What rendering a hook with its queued updates reports. -/
structure FunctionComponentStateUpdateRenderRecord (State : Type) where
  fiber : FiberId
  hook : HookSlotId
  kind : StateHookKind
  dispatch : FunctionComponentStateDispatchHandle
  renderLanes : Lanes
  rootRenderLanes : Lanes
  previousPayload : HookStateSlot State
  result : ProcessHookQueueResult State

def processCopy (payload : HookStateSlot State) (request : StateHookRequest State Action) :
    EStateM HookQueueError (StateQueues State Action)
      (ProcessHookQueueResult State × HookStateSlot State) := fun queues =>
  match (processUpdateQueue request.renderLanes request.rootRenderLanes
      request.reducer).run (queues, payload) with
  | .ok result (queues, slot) => .ok (result, slot) queues
  | .error error (queues, _) => .error error queues

def processPayload (fiber : FiberId) (hook : HookSlotId) (payload : HookStateSlot State)
    (request : StateHookRequest State Action) :
    HookRenderM State Action InvokerError (ProcessHookQueueResult State) := do
  let (result, slot) ← onStateQueues fiber (processCopy payload request)
  setHookPayload fiber hook (.state slot)
  return result

/-- Render a copied hook with its queued updates. -/
def processHookQueue (fiber : FiberId) (hook : HookSlotId)
    (request : StateHookRequest State Action) :
    HookRenderM State Action InvokerError
      (FunctionComponentStateUpdateRenderRecord State) := do
  let previousPayload ← query (·.statePayloadForHook fiber hook)
  let dispatch ← query (·.stateDispatchForQueue fiber previousPayload.queue)
  match request.kind with
  | .state => pure ()
  | .reducer handle =>
      let _ ← query (·.reducerForQueue fiber previousPayload.queue)
      onStateQueues fiber (modifyQueue previousPayload.queue fun entry =>
        { entry with lastRenderedReducer := some (.reducer handle) })
  let result ← processPayload fiber hook previousPayload request
  return {
    fiber := fiber
    hook := hook
    kind := request.kind
    dispatch := dispatch
    renderLanes := request.renderLanes
    rootRenderLanes := request.rootRenderLanes
    previousPayload := previousPayload
    result := result }

def updateHooks (fiber : FiberId) (requests : List (StateHookRequest State Action))
    (cursor : HookListUpdateCursor) : HookRenderM State Action InvokerError HookListUpdateCursor :=
  requests.foldlM (fun cursor request => do
    let (hook, cursor) ← updateHook fiber cursor
    let _ ← processHookQueue fiber hook request
    return cursor) cursor

/-- Mount a hook with a queue of its own in the list to fill. -/
def mountStateHook (state : FunctionComponentHookRenderState)
    (request : StateHookRequest State Action) :
    HookRenderM State Action InvokerError HookSlotId := do
  let slot ← onStateQueues state.renderFiber (createStateSlot request.initialState)
  let dispatch ← createStateDispatch state.renderFiber slot.queue
  setQueueReducer state.renderFiber slot.queue dispatch
    (match request.kind with
      | .state => .basicState
      | .reducer handle => .reducer handle)
  appendHook state.renderFiber state.workInProgressList (.state slot)

/-- One render attempt: the hooks first, then the component itself. -/
def renderFunctionComponent (alternate : Option FiberId) (workInProgress : FiberId)
    (requests : List (StateHookRequest State Action))
    (invoke : FunctionComponentHookRenderState → Except InvokerError Output) :
    HookRenderM State Action InvokerError (FunctionComponentHookRenderState × Output) := do
  let state ← prepareRenderState alternate workInProgress
  match state.phase with
  | .mount =>
      for request in requests do
        let _ ← mountStateHook state request
  | .update =>
      let cursor ← beginUpdate state
      let cursor ← updateHooks state.renderFiber requests cursor
      finishUpdate state.renderFiber cursor
  match invoke state with
  | .ok output => return (state, output)
  | .error error => throw (.invocation workInProgress error)

/-- Make the list of a finished attempt the current one of its fiber. -/
def commitHookList (state : FunctionComponentHookRenderState) :
    HookRenderM State Action InvokerError Unit :=
  bindCurrentListUnchecked state.renderFiber state.workInProgressList

/-- A state computed when an update is dispatched, and the state it was computed from. -/
structure FunctionComponentStateDispatchEagerState (State : Type) where
  lastRenderedState : State
  eagerState : State
deriving DecidableEq

structure FunctionComponentStateDispatchRequest (State Action : Type) where
  dispatch : FunctionComponentStateDispatchHandle
  action : Action
  lane : HookUpdateLane
  revertLane : HookRevertLane
  eagerState : Option (FunctionComponentStateDispatchEagerState State)

namespace FunctionComponentHookRenderStore

/-- The queue of a binding still has the dispatch handle of the binding. -/
def validateLiveDispatchBinding (store : FunctionComponentHookRenderStore State Action)
    (binding : FunctionComponentStateDispatchBinding) :
    Except (FunctionComponentRenderError State InvokerError) Unit := do
  match (← store.stateQueue binding.fiber binding.queue).dispatch with
  | none => .error (.missingStateDispatch binding.fiber binding.queue)
  | some queueDispatch =>
      if queueDispatch = binding.handle then
        .ok ()
      else
        .error (.staleStateDispatch binding.fiber binding.queue queueDispatch binding.handle)

def validateBasicStateDispatchBinding (store : FunctionComponentHookRenderStore State Action)
    (binding : FunctionComponentStateDispatchBinding) :
    Except (FunctionComponentRenderError State InvokerError) Unit := do
  store.validateLiveDispatchBinding binding
  let actual := (← store.stateQueue binding.fiber binding.queue).lastRenderedReducer
  if actual = some .basicState then
    .ok ()
  else
    .error (.expectedBasicStateQueue binding.fiber binding.queue actual)

/-- An eager state must be computed from the last rendered state of the queue. -/
def validateDispatchEagerState [DecidableEq State]
    (store : FunctionComponentHookRenderStore State Action)
    (binding : FunctionComponentStateDispatchBinding)
    (eagerState : Option (FunctionComponentStateDispatchEagerState State)) :
    Except (FunctionComponentRenderError State InvokerError) Unit := do
  match eagerState with
  | none => .ok ()
  | some eagerState =>
      let queue ← store.stateQueue binding.fiber binding.queue
      if queue.lastRenderedReducer.isNone then
        .error (.missingStateDispatchReducer binding.fiber binding.queue)
      else if eagerState.lastRenderedState ≠ queue.lastRenderedState then
        .error (.stateDispatchEagerStateMismatch binding.fiber binding.queue
          queue.lastRenderedState eagerState.lastRenderedState)
      else
        .ok ()

end FunctionComponentHookRenderStore

/-- Set the fields of a new update that its creation leaves open. -/
def FunctionComponentStateDispatchRequest.configure
    (request : FunctionComponentStateDispatchRequest State Action)
    (record : HookUpdate Action State) : HookUpdate Action State :=
  { record with data :=
    { record.data with
      revertLane := request.revertLane
      eagerState :=
        match request.eagerState with
        | some eager => some eager.eagerState
        | none => record.data.eagerState } }

def appendDispatchedUpdate (binding : FunctionComponentStateDispatchBinding)
    (request : FunctionComponentStateDispatchRequest State Action) :
    HookRenderM State Action InvokerError HookUpdateId := do
  let update ← onStateQueues binding.fiber (createUpdate request.lane request.action)
  onStateQueues binding.fiber (modifyUpdate update request.configure)
  onStateQueues binding.fiber (appendPendingUpdate binding.queue update)
  return update

def dispatchStateUpdate [DecidableEq State]
    (request : FunctionComponentStateDispatchRequest State Action) :
    HookRenderM State Action InvokerError HookUpdateId := do
  let binding ← query (·.stateDispatchBinding request.dispatch)
  query (·.validateBasicStateDispatchBinding binding)
  query (·.validateDispatchEagerState binding request.eagerState)
  appendDispatchedUpdate binding request

def dispatchReducerUpdate [DecidableEq State]
    (request : FunctionComponentStateDispatchRequest State Action) :
    HookRenderM State Action InvokerError HookUpdateId := do
  let binding ← query (·.stateDispatchBinding request.dispatch)
  query (·.validateLiveDispatchBinding binding)
  let _ ← query (·.reducerForQueue binding.fiber binding.queue)
  query (·.validateDispatchEagerState binding request.eagerState)
  appendDispatchedUpdate binding request

end FastReact
