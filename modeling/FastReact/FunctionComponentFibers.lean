import FastReact.FunctionComponent
import FastReact.HookStateQueueWaiting

namespace FastReact

open ErrorState HookQueueStore FunctionComponentHookRenderStore FunctionComponent

/-!
# Rendering the fiber of a function component

A render checks the fiber, finds its hook list, clears what the fiber had from its last
render, renders its hook and calls the component.  The lanes of the fiber are among what
is cleared, and nothing of the processed queue is written back to them.
-/

inductive FiberTypeTag

abbrev FiberTypeHandle := OpaqueHandle FiberTypeTag

/-- A fiber with the fields a function component is rendered from. -/
structure ComponentFiber extends FiberNode where
  fiberType : FiberTypeHandle
  memoizedProps : PropsHandle
deriving DecidableEq

inductive UnsupportedFunctionComponentFeature where
  | classComponent
  | context
  | thrownValue
deriving DecidableEq

/-- Errors of rendering a fiber; those of its hooks and of the component are wrapped. -/
inductive FunctionComponentFiberError (State InvokerError : Type) where
  | fiberTopology (error : FiberTopologyError)
  | unexpectedFiberTag (fiber : FiberId) (tag : FiberTag)
  | unsupported (fiber : FiberId) (feature : UnsupportedFunctionComponentFeature)
  | missingComponentHandle (fiber : FiberId)
  | render (error : FunctionComponentRenderError State InvokerError)

/-- What the component is called with. -/
structure FunctionComponentInvocationRequest where
  fiber : FiberId
  component : FiberTypeHandle
  props : PropsHandle
  renderLanes : Lanes
  hookState : Option FunctionComponentHookRenderState
deriving DecidableEq

structure FunctionComponentWorld (State Action : Type) where
  arena : SlotArena FiberNodeTag ComponentFiber
  hookStore : FunctionComponentHookRenderStore State Action

variable {State Action InvokerError Output : Type}

abbrev FunctionComponentM (State Action InvokerError : Type) :=
  EStateM (FunctionComponentFiberError State InvokerError) (FunctionComponentWorld State Action)

namespace FunctionComponentWorld

def get (world : FunctionComponentWorld State Action) (id : FiberId) :
    Except (FunctionComponentFiberError State InvokerError) ComponentFiber :=
  (world.arena.find id).mapError fun error => .fiberTopology (.ofLookup id error)

/-- The tag must be that of a function component, and the component must be known. -/
def validateFunctionComponentRender (world : FunctionComponentWorld State Action)
    (workInProgress : FiberId) (renderLanes : Lanes) :
    Except (FunctionComponentFiberError State InvokerError)
      FunctionComponentInvocationRequest := do
  let node ← world.get workInProgress
  match node.tag with
  | .functionComponent =>
      if node.fiberType.isNone then
        .error (.missingComponentHandle workInProgress)
      else
        .ok {
          fiber := workInProgress
          component := node.fiberType
          props := node.pendingProps
          renderLanes := renderLanes
          hookState := none }
  | .classComponent | .incompleteClassComponent =>
      .error (.unsupported workInProgress .classComponent)
  | .contextConsumer | .contextProvider => .error (.unsupported workInProgress .context)
  | .throw => .error (.unsupported workInProgress .thrownValue)
  | other => .error (.unexpectedFiberTag workInProgress other)

end FunctionComponentWorld

open FunctionComponentWorld

/-- Change a resolvable fiber in place. -/
def modifyComponentFiber (id : FiberId) (change : ComponentFiber → ComponentFiber) :
    FunctionComponentM State Action InvokerError Unit := do
  let _ ← query (·.get id)
  modify fun world => { world with arena := world.arena.modify id change }

/-- Work on the hooks. -/
def onHookStore {α : Type} (body : HookRenderM State Action InvokerError α) :
    FunctionComponentM State Action InvokerError α :=
  focus FunctionComponentWorld.hookStore
    (fun hookStore world => { world with hookStore := hookStore }) (mapError .render body)

/-- Clear what the fiber has from its last render. -/
def resetFunctionComponentRenderState (workInProgress : FiberId) :
    FunctionComponentM State Action InvokerError Unit :=
  modifyComponentFiber workInProgress fun node =>
    { node with
      memoizedState := .none
      updateQueue := .none
      lanes := Lanes.no }

inductive FunctionComponentStateHookRenderRecord (State : Type) where
  | mount (hook : HookSlotId)
  | update (record : FunctionComponentStateUpdateRenderRecord State)

/-- What a render reports. -/
structure FunctionComponentRenderRecord (State Output : Type) where
  current : Option FiberId
  workInProgress : FiberId
  component : FiberTypeHandle
  props : PropsHandle
  renderLanes : Lanes
  hookState : Option FunctionComponentHookRenderState
  output : Output
  stateHook : FunctionComponentStateHookRenderRecord State

/-- The lanes the queue of a hook is processed under. -/
structure FunctionComponentStateUpdateRenderLanes where
  renderLanes : Lanes
  rootRenderLanes : Lanes
deriving DecidableEq

structure FunctionComponentUseStateRenderRequest (State : Type) where
  initialState : State
  lanes : FunctionComponentStateUpdateRenderLanes

structure FunctionComponentUseReducerRenderRequest (State : Type) where
  reducer : FunctionComponentReducerHandle
  initialState : State
  lanes : FunctionComponentStateUpdateRenderLanes

/-- Mount the hook, or copy it and process its queue. -/
def renderStateHook (hookState : FunctionComponentHookRenderState)
    (request : StateHookRequest State Action) :
    HookRenderM State Action InvokerError (FunctionComponentStateHookRenderRecord State) := do
  match hookState.phase with
  | .mount =>
      let hook ← mountStateHook hookState request
      return .mount hook
  | .update =>
      let cursor ← beginUpdate hookState
      let (hook, cursor) ← updateHook hookState.renderFiber cursor
      let record ← processHookQueue hookState.renderFiber hook request
      finishUpdate hookState.renderFiber cursor
      return .update record

def renderFunctionComponentWithStateHook (workInProgress : FiberId) (renderLanes : Lanes)
    (request : StateHookRequest State Action)
    (invoke : FunctionComponentInvocationRequest → Except InvokerError Output) :
    FunctionComponentM State Action InvokerError (FunctionComponentRenderRecord State Output) := do
  let checked ← query (·.validateFunctionComponentRender workInProgress renderLanes)
  let node ← query (·.get workInProgress)
  let hookState ← onHookStore (prepareRenderState node.alternate workInProgress)
  let invocation := { checked with hookState := some hookState }
  resetFunctionComponentRenderState workInProgress
  let stateHook ← onHookStore (renderStateHook hookState request)
  let output ← query fun _ =>
    (invoke invocation).mapError fun error => .render (.invocation invocation.fiber error)
  modifyComponentFiber workInProgress fun node => { node with memoizedProps := invocation.props }
  let rendered ← query (·.get workInProgress)
  return {
    current := rendered.alternate
    workInProgress := workInProgress
    component := invocation.component
    props := invocation.props
    renderLanes := invocation.renderLanes
    hookState := invocation.hookState
    output := output
    stateHook := stateHook }

def renderFunctionComponentWithUseState (workInProgress : FiberId) (renderLanes : Lanes)
    (stateRequest : FunctionComponentUseStateRenderRequest State)
    (invoke : FunctionComponentInvocationRequest → Except InvokerError Output)
    (reducer : State → Action → State) :
    FunctionComponentM State Action InvokerError (FunctionComponentRenderRecord State Output) :=
  renderFunctionComponentWithStateHook workInProgress renderLanes
    { kind := .state
      initialState := stateRequest.initialState
      renderLanes := stateRequest.lanes.renderLanes
      rootRenderLanes := stateRequest.lanes.rootRenderLanes
      reducer := reducer }
    invoke

def renderFunctionComponentWithUseReducer (workInProgress : FiberId) (renderLanes : Lanes)
    (reducerRequest : FunctionComponentUseReducerRenderRequest State)
    (invoke : FunctionComponentInvocationRequest → Except InvokerError Output)
    (reducer : State → Action → State) :
    FunctionComponentM State Action InvokerError (FunctionComponentRenderRecord State Output) :=
  renderFunctionComponentWithStateHook workInProgress renderLanes
    { kind := .reducer reducerRequest.reducer
      initialState := reducerRequest.initialState
      renderLanes := reducerRequest.lanes.renderLanes
      rootRenderLanes := reducerRequest.lanes.rootRenderLanes
      reducer := reducer }
    invoke

structure BeginWorkRequest where
  workInProgress : FiberId
  renderLanes : Lanes
deriving DecidableEq

/-- Errors of beginning work.  For a boundary the source also reports what is below it. -/
inductive BeginWorkError (State InvokerError : Type) where
  | fiberTopology (error : FiberTopologyError)
  | functionComponent (error : FunctionComponentFiberError State InvokerError)
  | unsupportedBoundary (fiber : FiberId) (tag : FiberTag)
  | unsupportedFiberTag (fiber : FiberId) (tag : FiberTag)

/-- The error for a fiber that is not a function component. -/
def unsupportedBeginWorkError (fiber : FiberId) (tag : FiberTag) :
    BeginWorkError State InvokerError :=
  match tag with
  | .portal | .suspense | .offscreen | .suspenseList | .activity => .unsupportedBoundary fiber tag
  | _ => .unsupportedFiberTag fiber tag

def beginWorkWithUseState (request : BeginWorkRequest)
    (stateRequest : FunctionComponentUseStateRenderRequest State)
    (invoke : FunctionComponentInvocationRequest → Except InvokerError Output)
    (reducer : State → Action → State) :
    EStateM (BeginWorkError State InvokerError) (FunctionComponentWorld State Action)
      (FunctionComponentRenderRecord State Output) := do
  let node ← query fun world =>
    (world.arena.find request.workInProgress).mapError fun error =>
      .fiberTopology (.ofLookup request.workInProgress error)
  if node.tag = .functionComponent then
    mapError .functionComponent
      (renderFunctionComponentWithUseState request.workInProgress request.renderLanes stateRequest
        invoke reducer)
  else
    throw (unsupportedBeginWorkError request.workInProgress node.tag)

namespace FunctionComponentWorld

/-- The payload the current hook list of a fiber holds for its first hook. -/
def currentStateHook? (world : FunctionComponentWorld State Action) (workInProgress : FiberId) :
    Option (HookStateSlot State) := do
  let node ← world.arena.get? workInProgress
  let list ← node.alternate.bind world.hookStore.currentList
  let entry ← world.hookStore.hookLists[list]?
  let payload ← entry.hooks[0]?
  payload.statePayload

/-- No update that waits for the hook of a fiber is deferred under the given lanes. -/
def DefersNoHookUpdate (world : FunctionComponentWorld State Action) (workInProgress : FiberId)
    (lanes : FunctionComponentStateUpdateRenderLanes) : Prop :=
  ∀ slot, world.currentStateHook? workInProgress = some slot →
    world.hookStore.stateQueues.DefersNothing slot lanes.renderLanes lanes.rootRenderLanes

/-- The fiber has the lanes that its processed hook queue leaves. -/
def KeepsRemainingLanes (world : FunctionComponentWorld State Action) (workInProgress : FiberId)
    (record : FunctionComponentRenderRecord State Output) : Prop :=
  ∀ update, record.stateHook = .update update →
    ∃ node, world.arena.get? workInProgress = some node ∧
      update.result.remainingLanes.isSubsetOf node.lanes = true

end FunctionComponentWorld

end FastReact
