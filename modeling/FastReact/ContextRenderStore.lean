import FastReact.ContextStack
import FastReact.FiberTopology
import FastReact.FunctionComponentFibers
import FastReact.UpdateQueue

namespace FastReact

open ErrorState

/-!
# Rendering components that read contexts

The render store keeps the context stack and a record of every read.  A component that
reads contexts itself is called with a reader; what it does is a program that asks the
reader for contexts, one after another, and ends with an output or an error.
-/

inductive FunctionComponentOutputTag
inductive FunctionComponentContextDependencyTag

abbrev FunctionComponentOutputHandle := OpaqueHandle FunctionComponentOutputTag
abbrev FunctionComponentContextDependencyHandle :=
  OpaqueHandle FunctionComponentContextDependencyTag

structure FunctionComponentContextRenderState where
  renderFiber : FiberId
  renderLanes : Lanes
  contextCount : Nat
  stackDepth : Nat
  startReadIndex : Nat
  startDependencyIndex : Nat
deriving DecidableEq

structure FunctionComponentContextReadRecord where
  readIndex : Nat
  fiber : FiberId
  context : ContextHandle
  defaultValue : ContextValueHandle
  value : ContextValueHandle
  activeProviderCount : Nat
  dependency : FunctionComponentContextDependencyHandle
deriving DecidableEq

structure FunctionComponentContextDependencyRecord where
  handle : FunctionComponentContextDependencyHandle
  fiber : FiberId
  context : ContextHandle
  memoizedValue : ContextValueHandle
  readIndex : Nat
  renderReadIndex : Nat
  renderLanes : Lanes
  dependencyLanes : Lanes
  next : FunctionComponentContextDependencyHandle
  rendererVisiblePropagation : Bool
  propagationFlags : FiberFlags
deriving DecidableEq

structure FunctionComponentContextRenderStore where
  stack : ContextStack
  reads : List FunctionComponentContextReadRecord
  dependencies : List FunctionComponentContextDependencyRecord
deriving DecidableEq

/-- What a component that reads contexts is called with. -/
structure FunctionComponentContextInvocationRequest extends
    FunctionComponentInvocationRequest where
  contextState : Option FunctionComponentContextRenderState
deriving DecidableEq

/-- Errors of rendering a component that reads contexts; those that only the component
can report are its own. -/
inductive FunctionComponentContextRenderError (InvokerError : Type) where
  | fiberTopology (error : FiberTopologyError)
  | missingComponentHandle (fiber : FiberId)
  | unsupported (fiber : FiberId) (feature : UnsupportedFunctionComponentFeature)
  | unexpectedFiberTag (fiber : FiberId) (tag : FiberTag)
  | contextStack (fiber : FiberId) (error : ContextStackError)
  | missingUseContextRead (fiber : FiberId)
  | unsupportedUseContextReadCount (fiber : FiberId) (readCount : Nat)
  | unexpectedUseContextContext (fiber : FiberId) (expected actual : ContextHandle)
  | invocation (fiber : FiberId) (component : FiberTypeHandle) (error : InvokerError)
  | component (error : InvokerError)

/-- What a component does with its reader, up to its output.  It may keep a state of its
own from one call to the next. -/
inductive ContextConsumerProgram (Invoker InvokerError : Type) where
  | done (invoker : Invoker) (result : Except (FunctionComponentContextRenderError InvokerError)
        FunctionComponentOutputHandle)
  | useContext (context : ContextHandle)
      (next : Except (FunctionComponentContextRenderError InvokerError)
        FunctionComponentContextReadRecord → ContextConsumerProgram Invoker InvokerError)

abbrev FunctionComponentInvoker (Invoker InvokerError : Type) :=
  Invoker → FunctionComponentContextInvocationRequest →
    Invoker × Except InvokerError FunctionComponentOutputHandle

abbrev FunctionComponentContextConsumerInvoker (Invoker InvokerError : Type) :=
  Invoker → FunctionComponentContextInvocationRequest →
    ContextConsumerProgram Invoker InvokerError

/-- The fibers with what a render reads of them beside their links, the contexts and what
the components keep. -/
structure ContextRenderWorld (Invoker : Type) where
  arena : FiberArena
  fiberType : FiberId → FiberTypeHandle
  memoizedProps : FiberId → PropsHandle
  contextStore : FunctionComponentContextRenderStore
  invoker : Invoker

variable {Invoker InvokerError : Type}

abbrev ContextRenderM (Invoker Error : Type) := EStateM Error (ContextRenderWorld Invoker)

namespace FunctionComponentContextRenderStore

def stackDepth (store : FunctionComponentContextRenderStore) : Nat :=
  store.stack.frames.length

def prepareRenderState (store : FunctionComponentContextRenderStore) (workInProgress : FiberId)
    (renderLanes : Lanes) : FunctionComponentContextRenderState where
  renderFiber := workInProgress
  renderLanes := renderLanes
  contextCount := store.stack.slots.length
  stackDepth := store.stackDepth
  startReadIndex := store.reads.length
  startDependencyIndex := store.dependencies.length

/-- Add a dependency behind those of the same render. -/
def pushContextDependency (store : FunctionComponentContextRenderStore)
    (state : FunctionComponentContextRenderState) (context : ContextHandle)
    (memoizedValue : ContextValueHandle) (readIndex : Nat) :
    FunctionComponentContextDependencyHandle × FunctionComponentContextRenderStore :=
  let handle : FunctionComponentContextDependencyHandle := ⟨store.dependencies.length + 1⟩
  let dependencies :=
    if state.startDependencyIndex < store.dependencies.length then
      store.dependencies.modify (store.dependencies.length - 1) fun previous =>
        { previous with next := handle }
    else
      store.dependencies
  (handle, { store with
    dependencies := dependencies ++
      [{ handle := handle
         fiber := state.renderFiber
         context := context
         memoizedValue := memoizedValue
         readIndex := readIndex
         renderReadIndex := readIndex - state.startReadIndex
         renderLanes := state.renderLanes
         dependencyLanes := Lanes.no
         next := .none
         rendererVisiblePropagation := false
         propagationFlags := FiberFlags.no }] })

end FunctionComponentContextRenderStore

def readContext (state : FunctionComponentContextRenderState) (context : ContextHandle) :
    EStateM (FunctionComponentContextRenderError InvokerError)
      FunctionComponentContextRenderStore FunctionComponentContextReadRecord := do
  let slot ← query fun store =>
    (store.stack.contextSlot context).mapError (.contextStack state.renderFiber)
  modifyGet fun store =>
    let readIndex := store.reads.length
    let pushed := store.pushContextDependency state context slot.currentValue readIndex
    let record : FunctionComponentContextReadRecord :=
      { readIndex := readIndex
        fiber := state.renderFiber
        context := context
        defaultValue := slot.defaultValue
        value := slot.currentValue
        activeProviderCount := slot.activeProviderCount
        dependency := pushed.1 }
    (record, { pushed.2 with reads := pushed.2.reads ++ [record] })

namespace ContextRenderWorld

def get (world : ContextRenderWorld Invoker) (id : FiberId) : Except FiberTopologyError FiberNode :=
  world.arena.get id

/-- The tag must be that of a function component, and the component must be known. -/
def validateFunctionComponentRender (world : ContextRenderWorld Invoker) (workInProgress : FiberId)
    (renderLanes : Lanes) :
    Except (FunctionComponentContextRenderError InvokerError)
      FunctionComponentContextInvocationRequest := do
  let node ← (world.get workInProgress).mapError .fiberTopology
  match node.tag with
  | .functionComponent =>
      if (world.fiberType workInProgress).isNone then
        .error (.missingComponentHandle workInProgress)
      else
        .ok {
          fiber := workInProgress
          component := world.fiberType workInProgress
          props := node.pendingProps
          renderLanes := renderLanes
          hookState := none
          contextState := none }
  | .classComponent | .incompleteClassComponent =>
      .error (.unsupported workInProgress .classComponent)
  | .contextConsumer | .contextProvider => .error (.unsupported workInProgress .context)
  | .throw => .error (.unsupported workInProgress .thrownValue)
  | other => .error (.unexpectedFiberTag workInProgress other)

end ContextRenderWorld

namespace ContextRender

/-- Work on the fibers. -/
def onArena {Error α : Type} (wrap : FiberTopologyError → Error) (body : FiberArenaM α) :
    ContextRenderM Invoker Error α :=
  focus ContextRenderWorld.arena (fun arena world => { world with arena := arena })
    (mapError wrap body)

def onContextStore {Error StoreError α : Type} (wrap : StoreError → Error)
    (body : EStateM StoreError FunctionComponentContextRenderStore α) :
    ContextRenderM Invoker Error α :=
  focus ContextRenderWorld.contextStore
    (fun contextStore world => { world with contextStore := contextStore }) (mapError wrap body)

def onContextStack {Error α : Type} (wrap : ContextStackError → Error) (body : ContextStackM α) :
    ContextRenderM Invoker Error α :=
  onContextStore wrap
    (focus FunctionComponentContextRenderStore.stack
      (fun stack store => { store with stack := stack }) body)

/-- Clear what the fiber has from its last render. -/
def resetFunctionComponentRenderState (workInProgress : FiberId) :
    ContextRenderM Invoker (FunctionComponentContextRenderError InvokerError) Unit :=
  onArena .fiberTopology (modifyFiber workInProgress fun node =>
    { node with
      memoizedState := .none
      updateQueue := .none
      lanes := Lanes.no })

def setMemoizedProps (workInProgress : FiberId) (props : PropsHandle) :
    ContextRenderM Invoker (FunctionComponentContextRenderError InvokerError) Unit := do
  let _ ← query fun world => (world.get workInProgress).mapError .fiberTopology
  modify fun world =>
    { world with
      memoizedProps := fun fiber =>
        if fiber = workInProgress then props else world.memoizedProps fiber }

end ContextRender

open ContextRender

def ContextConsumerProgram.run (state : FunctionComponentContextRenderState) :
    ContextConsumerProgram Invoker InvokerError →
      ContextRenderM Invoker (FunctionComponentContextRenderError InvokerError)
        FunctionComponentOutputHandle
  | .done invoker result => do
      modify fun world => { world with invoker := invoker }
      query fun _ => result
  | .useContext context next => do
      let answer ← attempt (onContextStore id (readContext state context))
      (next answer).run state

/-- What a render reports. -/
structure FunctionComponentContextRenderRecord where
  current : Option FiberId
  workInProgress : FiberId
  component : FiberTypeHandle
  props : PropsHandle
  renderLanes : Lanes
  hookState : Option FunctionComponentHookRenderState
  contextState : Option FunctionComponentContextRenderState
  contextReadCount : Nat
  output : FunctionComponentOutputHandle
deriving DecidableEq

structure FunctionComponentUseContextRenderRecord where
  render : FunctionComponentContextRenderRecord
  contextRead : FunctionComponentContextReadRecord
deriving DecidableEq

namespace ContextRender

/-- Take over the props of a rendered fiber and report the render. -/
def finishRender (request : FunctionComponentContextInvocationRequest) (contextReadCount : Nat)
    (output : FunctionComponentOutputHandle) :
    ContextRenderM Invoker (FunctionComponentContextRenderError InvokerError)
      FunctionComponentContextRenderRecord := do
  setMemoizedProps request.fiber request.props
  let node ← query fun world => (world.get request.fiber).mapError .fiberTopology
  return {
    current := node.alternate
    workInProgress := request.fiber
    component := request.component
    props := request.props
    renderLanes := request.renderLanes
    hookState := request.hookState
    contextState := request.contextState
    contextReadCount := contextReadCount
    output := output }

/-- Check a fiber and note where its render starts. -/
def prepareRender (workInProgress : FiberId) (renderLanes : Lanes) :
    ContextRenderM Invoker (FunctionComponentContextRenderError InvokerError)
      (FunctionComponentContextInvocationRequest × FunctionComponentContextRenderState) := do
  let checked ← query (·.validateFunctionComponentRender workInProgress renderLanes)
  let contextState := (← get).contextStore.prepareRenderState workInProgress renderLanes
  resetFunctionComponentRenderState workInProgress
  return ({ checked with contextState := some contextState }, contextState)

end ContextRender

def renderFunctionComponentWithContextReads (workInProgress : FiberId) (renderLanes : Lanes)
    (contexts : List ContextHandle) (invoker : FunctionComponentInvoker Invoker InvokerError) :
    ContextRenderM Invoker (FunctionComponentContextRenderError InvokerError)
      FunctionComponentContextRenderRecord := do
  let prepared ← prepareRender workInProgress renderLanes
  contexts.forM fun context => do
    let _ ← onContextStore id (readContext prepared.2 context)
  let invoked := invoker (← get).invoker prepared.1
  modify fun world => { world with invoker := invoked.1 }
  let output ← query fun _ =>
    invoked.2.mapError fun error => .invocation prepared.1.fiber prepared.1.component error
  let contextReadCount := (← get).contextStore.reads.length - prepared.2.startReadIndex
  finishRender prepared.1 contextReadCount output

namespace ContextRenderWorld

/-- A component must have read one context, and the expected one if there is one. -/
def validateUseContextReads (world : ContextRenderWorld Invoker) (fiber : FiberId)
    (state : FunctionComponentContextRenderState) (expectedContext : Option ContextHandle) :
    Except (FunctionComponentContextRenderError InvokerError)
      FunctionComponentContextReadRecord :=
  match world.contextStore.reads.drop state.startReadIndex with
  | [] => .error (.missingUseContextRead fiber)
  | [contextRead] =>
      if expectedContext.all fun expected => contextRead.context = expected then
        .ok contextRead
      else
        .error (.unexpectedUseContextContext fiber (expectedContext.getD .none) contextRead.context)
  | first :: second :: rest =>
      .error (.unsupportedUseContextReadCount fiber (first :: second :: rest).length)

end ContextRenderWorld

def renderFunctionComponentWithUseContextImpl (workInProgress : FiberId) (renderLanes : Lanes)
    (expectedContext : Option ContextHandle)
    (invoker : FunctionComponentContextConsumerInvoker Invoker InvokerError) :
    ContextRenderM Invoker (FunctionComponentContextRenderError InvokerError)
      FunctionComponentUseContextRenderRecord := do
  let prepared ← prepareRender workInProgress renderLanes
  let output ← (invoker (← get).invoker prepared.1).run prepared.2
  let contextRead ← query fun world =>
    world.validateUseContextReads prepared.1.fiber prepared.2 expectedContext
  let render ← finishRender prepared.1 1 output
  return ⟨render, contextRead⟩

def renderFunctionComponentWithUseContext (workInProgress : FiberId) (renderLanes : Lanes)
    (invoker : FunctionComponentContextConsumerInvoker Invoker InvokerError) :
    ContextRenderM Invoker (FunctionComponentContextRenderError InvokerError)
      FunctionComponentUseContextRenderRecord :=
  renderFunctionComponentWithUseContextImpl workInProgress renderLanes none invoker

def renderFunctionComponentWithRequiredUseContext (workInProgress : FiberId) (renderLanes : Lanes)
    (expectedContext : ContextHandle)
    (invoker : FunctionComponentContextConsumerInvoker Invoker InvokerError) :
    ContextRenderM Invoker (FunctionComponentContextRenderError InvokerError)
      FunctionComponentUseContextRenderRecord :=
  renderFunctionComponentWithUseContextImpl workInProgress renderLanes (some expectedContext)
    invoker

end FastReact
