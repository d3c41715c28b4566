import FastReact.ContextRenderStore
import FastReact.ContextScopes

namespace FastReact

open ErrorState ContextRender

/-!
# Beginning work on context providers

A provider is begun by pushing its value, beginning the components below it and restoring
the stack, whatever became of the components.  The shapes that are begun are a provider
with one component, a subtree of a provider, two nested providers and two providers that
are siblings.  Every other shape is refused before anything is pushed.
-/

variable {Invoker InvokerError : Type}

inductive ElementTypeTag

abbrev ElementTypeHandle := OpaqueHandle ElementTypeTag

def FiberFlags.performedWork : FiberFlags := ⟨1 <<< 0⟩

inductive FunctionComponentSingleChildReconciliationError where
  | fiberTopology (error : FiberTopologyError)
  | unexpectedFiberTag (fiber : FiberId) (tag : FiberTag)
  | missingOutput (fiber : FiberId)
  | unknownOutput (fiber : FiberId) (output : FunctionComponentOutputHandle)
  | outputMismatch (fiber : FiberId) (expected actual : FunctionComponentOutputHandle)
  | missingChildElement (fiber : FiberId) (output : FunctionComponentOutputHandle)
  | unsupportedChildTag (fiber : FiberId) (output : FunctionComponentOutputHandle) (tag : FiberTag)
  | existingCurrentChild (fiber current child : FiberId)
  | existingWorkInProgressChild (fiber child : FiberId)
deriving DecidableEq

/-- Errors of beginning work on a component.  For a boundary the source also reports what
is below it. -/
inductive ContextBeginWorkError (InvokerError : Type) where
  | fiberTopology (error : FiberTopologyError)
  | functionComponent (error : FunctionComponentContextRenderError InvokerError)
  | functionComponentSingleChild (error : FunctionComponentSingleChildReconciliationError)
  | unsupportedBoundary (fiber : FiberId) (tag : FiberTag)
  | unsupportedFiberTag (fiber : FiberId) (tag : FiberTag)

inductive ContextProviderBeginWorkError (InvokerError : Type) where
  | fiberTopology (error : FiberTopologyError)
  | contextStack (provider : FiberId) (context : ContextHandle) (error : ContextStackError)
  | contextRestore (provider : FiberId) (context : ContextHandle) (snapshot : ContextStackSnapshot)
      (error : ContextStackError)
  | contextRestoreAfterChildError (provider child : FiberId) (context : ContextHandle)
      (childError : ContextBeginWorkError InvokerError) (restoreError : ContextStackError)
  | childBeginWork (provider child : FiberId) (error : ContextBeginWorkError InvokerError)
  | unexpectedFiberTag (fiber : FiberId) (tag : FiberTag)
  | missingChild (provider : FiberId)
  | providerSiblingUnsupported (provider sibling : FiberId)
  | multipleChildren (provider firstChild sibling : FiberId)
  | unsupportedChildTag (provider child : FiberId) (tag : FiberTag)
  | missingSubtreeConsumer (provider : FiberId)
  | subtreeTraversalLimitExceeded (provider : FiberId) (maxFibers : Nat) (nextFiber : FiberId)
  | unsupportedSubtreeFiberTag (provider fiber : FiberId) (tag : FiberTag)

inductive NestedContextProviderBeginWorkError (InvokerError : Type) where
  | fiberTopology (error : FiberTopologyError)
  | contextStack (provider : FiberId) (context : ContextHandle) (error : ContextStackError)
  | contextRestore (provider : FiberId) (context : ContextHandle) (snapshot : ContextStackSnapshot)
      (error : ContextStackError)
  | contextRestoreAfterChildError (outerProvider innerProvider child : FiberId)
      (childError : ContextBeginWorkError InvokerError)
      (innerRestoreError outerRestoreError : Option ContextStackError)
  | childBeginWork (outerProvider innerProvider child : FiberId)
      (error : ContextBeginWorkError InvokerError)
  | unexpectedFiberTag (fiber : FiberId) (tag : FiberTag)
  | missingChild (provider : FiberId)
  | providerSiblingUnsupported (provider sibling : FiberId)
  | multipleChildren (provider firstChild sibling : FiberId)
  | missingSecondConsumer (innerProvider firstChild : FiberId)
  | missingInnerProvider (outerProvider outerChild : FiberId)
  | tooManyConsumers (innerProvider firstChild secondChild sibling : FiberId)
  | tooManyOuterChildren (outerProvider outerChild innerProvider sibling : FiberId)
  | unsupportedOuterConsumerTag (outerProvider child : FiberId) (tag : FiberTag)
  | unsupportedOuterChildTag (outerProvider child : FiberId) (tag : FiberTag)
  | unsupportedInnerChildTag (innerProvider child : FiberId) (tag : FiberTag)

inductive SiblingContextProviderBeginWorkError (InvokerError : Type) where
  | fiberTopology (error : FiberTopologyError)
  | contextStack (provider : FiberId) (context : ContextHandle) (error : ContextStackError)
  | contextRestore (provider : FiberId) (context : ContextHandle) (snapshot : ContextStackSnapshot)
      (error : ContextStackError)
  | contextRestoreAfterChildError (provider child : FiberId)
      (childError : ContextBeginWorkError InvokerError) (restoreError : Option ContextStackError)
  | childBeginWork (provider child : FiberId) (error : ContextBeginWorkError InvokerError)
  | unexpectedFiberTag (fiber : FiberId) (tag : FiberTag)
  | missingSecondProvider (firstProvider : FiberId)
  | tooManyProviders (firstProvider secondProvider sibling : FiberId)
  | missingChild (provider : FiberId)
  | multipleChildren (provider firstChild sibling : FiberId)
  | unsupportedSecondProviderTag (firstProvider secondProvider : FiberId) (tag : FiberTag)
  | unsupportedChildTag (provider child : FiberId) (tag : FiberTag)

structure ContextProviderBeginWorkRequest extends ContextProvision where
  provider : FiberId
  renderLanes : Lanes

structure NestedContextProviderBeginWorkRequest where
  outerProvider : FiberId
  renderLanes : Lanes
  outer : ContextProvision
  inner : ContextProvision

structure SiblingContextProviderBeginWorkRequest where
  firstProvider : FiberId
  renderLanes : Lanes
  first : ContextProvision
  second : ContextProvision

structure ContextProviderScope extends ContextProvision where
  providerSnapshot : ContextStackSnapshot
  providerToken : ContextFrameId
  pushedStackDepth : Nat
  restoredStackDepth : Nat
deriving DecidableEq

structure ContextChildBeginWork (Record : Type) where
  child : FiberId
  childBeginWork : Record

structure ContextProviderBeginWorkRecord (Record : Type) where
  provider : FiberId
  scope : ContextProviderScope
  child : ContextChildBeginWork Record

structure NestedContextProviderBeginWorkRecord (Children : Type) where
  outerProvider : FiberId
  innerProvider : FiberId
  outer : ContextProviderScope
  inner : ContextProviderScope
  children : Children

structure SiblingContextProviderBeginWorkRecord (Record : Type) where
  firstProvider : FiberId
  secondProvider : FiberId
  first : ContextProviderScope
  second : ContextProviderScope
  firstChild : ContextChildBeginWork Record
  secondChild : ContextChildBeginWork Record

structure ContextProviderSubtreeVisitedFiberRecord where
  traversalIndex : Nat
  fiber : FiberId
  tag : FiberTag
  depth : Nat
deriving DecidableEq

structure ContextProviderSubtreeUseContextConsumerBeginWorkRecord where
  traversalIndex : Nat
  depth : Nat
  child : ContextChildBeginWork FunctionComponentUseContextRenderRecord

structure ContextProviderSubtreeUseContextBeginWorkRecord where
  provider : FiberId
  scope : ContextProviderScope
  visitedFibers : List ContextProviderSubtreeVisitedFiberRecord
  consumers : List ContextProviderSubtreeUseContextConsumerBeginWorkRecord

structure ContextProviderUseContextOpenScopeBeginWorkRecord extends ContextProvision where
  provider : FiberId
  providerSnapshot : ContextStackSnapshot
  providerToken : ContextFrameId
  pushedStackDepth : Nat
  child : ContextChildBeginWork FunctionComponentUseContextRenderRecord

structure FunctionComponentSingleChildOutput where
  output : FunctionComponentOutputHandle
  element : RootElementHandle
  tag : FiberTag
  elementType : ElementTypeHandle
  props : PropsHandle

structure FunctionComponentSingleChildReconciliationRecord where
  functionComponent : FiberId
  current : Option FiberId
  output : FunctionComponentOutputHandle
  childElement : RootElementHandle
  childTag : FiberTag
  childElementType : ElementTypeHandle
  childProps : PropsHandle
  renderLanes : Lanes

abbrev FunctionComponentSingleChildOutputResolver :=
  FunctionComponentOutputHandle → Option FunctionComponentSingleChildOutput

section Checks

variable {Error α : Type}

def ContextRender.okOr (value : Option α) (error : Error) : Except Error α :=
  value.elim (.error error) .ok

def ContextRender.rejectSome (value : Option α) (error : α → Error) : Except Error Unit :=
  value.elim (.ok ()) fun found => .error (error found)

def ContextRender.demand (condition : Bool) (error : Error) : Except Error Unit :=
  if condition then .ok () else .error error

end Checks

structure NestedContextProviderHandoffShape where
  innerProvider : FiberId
  child : FiberId

structure NestedContextProviderTwoConsumerHandoffShape where
  innerProvider : FiberId
  firstChild : FiberId
  secondChild : FiberId

structure NestedContextProviderOuterInnerConsumerHandoffShape where
  innerProvider : FiberId
  outerChild : FiberId
  innerChild : FiberId

structure SiblingContextProviderTwoConsumerHandoffShape where
  secondProvider : FiberId
  firstChild : FiberId
  secondChild : FiberId

namespace ContextRenderWorld

variable (world : ContextRenderWorld Invoker)

def validateContextProviderHandoffShape (provider : FiberId) :
    Except (ContextProviderBeginWorkError InvokerError) FiberId := do
  let providerNode ← (world.get provider).mapError .fiberTopology
  demand (providerNode.tag = .contextProvider) (.unexpectedFiberTag provider providerNode.tag)
  rejectSome providerNode.sibling (.providerSiblingUnsupported provider)
  let child ← okOr providerNode.child (.missingChild provider)
  let childNode ← (world.get child).mapError .fiberTopology
  rejectSome childNode.sibling (.multipleChildren provider child)
  demand (childNode.tag = .functionComponent) (.unsupportedChildTag provider child childNode.tag)
  return child

def validateNestedContextProviderHandoffShape (outerProvider : FiberId) :
    Except (NestedContextProviderBeginWorkError InvokerError)
      NestedContextProviderHandoffShape := do
  let outerNode ← (world.get outerProvider).mapError .fiberTopology
  demand (outerNode.tag = .contextProvider) (.unexpectedFiberTag outerProvider outerNode.tag)
  rejectSome outerNode.sibling (.providerSiblingUnsupported outerProvider)
  let innerProvider ← okOr outerNode.child (.missingChild outerProvider)
  let innerNode ← (world.get innerProvider).mapError .fiberTopology
  rejectSome innerNode.sibling (.multipleChildren outerProvider innerProvider)
  demand (innerNode.tag = .contextProvider)
    (.unsupportedOuterChildTag outerProvider innerProvider innerNode.tag)
  let child ← okOr innerNode.child (.missingChild innerProvider)
  let childNode ← (world.get child).mapError .fiberTopology
  rejectSome childNode.sibling (.multipleChildren innerProvider child)
  demand (childNode.tag = .functionComponent)
    (.unsupportedInnerChildTag innerProvider child childNode.tag)
  return ⟨innerProvider, child⟩

def validateNestedContextProviderTwoConsumerHandoffShape (outerProvider : FiberId) :
    Except (NestedContextProviderBeginWorkError InvokerError)
      NestedContextProviderTwoConsumerHandoffShape := do
  let outerNode ← (world.get outerProvider).mapError .fiberTopology
  demand (outerNode.tag = .contextProvider) (.unexpectedFiberTag outerProvider outerNode.tag)
  rejectSome outerNode.sibling (.providerSiblingUnsupported outerProvider)
  let innerProvider ← okOr outerNode.child (.missingChild outerProvider)
  let innerNode ← (world.get innerProvider).mapError .fiberTopology
  rejectSome innerNode.sibling (.multipleChildren outerProvider innerProvider)
  demand (innerNode.tag = .contextProvider)
    (.unsupportedOuterChildTag outerProvider innerProvider innerNode.tag)
  let firstChild ← okOr innerNode.child (.missingChild innerProvider)
  let firstChildNode ← (world.get firstChild).mapError .fiberTopology
  demand (firstChildNode.tag = .functionComponent)
    (.unsupportedInnerChildTag innerProvider firstChild firstChildNode.tag)
  let secondChild ← okOr firstChildNode.sibling (.missingSecondConsumer innerProvider firstChild)
  let secondChildNode ← (world.get secondChild).mapError .fiberTopology
  demand (secondChildNode.tag = .functionComponent)
    (.unsupportedInnerChildTag innerProvider secondChild secondChildNode.tag)
  rejectSome secondChildNode.sibling (.tooManyConsumers innerProvider firstChild secondChild)
  return ⟨innerProvider, firstChild, secondChild⟩

def validateNestedContextProviderOuterInnerConsumerHandoffShape (outerProvider : FiberId) :
    Except (NestedContextProviderBeginWorkError InvokerError)
      NestedContextProviderOuterInnerConsumerHandoffShape := do
  let outerNode ← (world.get outerProvider).mapError .fiberTopology
  demand (outerNode.tag = .contextProvider) (.unexpectedFiberTag outerProvider outerNode.tag)
  rejectSome outerNode.sibling (.providerSiblingUnsupported outerProvider)
  let outerChild ← okOr outerNode.child (.missingChild outerProvider)
  let outerChildNode ← (world.get outerChild).mapError .fiberTopology
  demand (outerChildNode.tag = .functionComponent)
    (.unsupportedOuterConsumerTag outerProvider outerChild outerChildNode.tag)
  let innerProvider ← okOr outerChildNode.sibling (.missingInnerProvider outerProvider outerChild)
  let innerNode ← (world.get innerProvider).mapError .fiberTopology
  demand (innerNode.tag = .contextProvider)
    (.unsupportedOuterChildTag outerProvider innerProvider innerNode.tag)
  rejectSome innerNode.sibling (.tooManyOuterChildren outerProvider outerChild innerProvider)
  let innerChild ← okOr innerNode.child (.missingChild innerProvider)
  let innerChildNode ← (world.get innerChild).mapError .fiberTopology
  rejectSome innerChildNode.sibling (.multipleChildren innerProvider innerChild)
  demand (innerChildNode.tag = .functionComponent)
    (.unsupportedInnerChildTag innerProvider innerChild innerChildNode.tag)
  return ⟨innerProvider, outerChild, innerChild⟩

def validateSiblingContextProviderTwoConsumerHandoffShape (firstProvider : FiberId) :
    Except (SiblingContextProviderBeginWorkError InvokerError)
      SiblingContextProviderTwoConsumerHandoffShape := do
  let firstNode ← (world.get firstProvider).mapError .fiberTopology
  demand (firstNode.tag = .contextProvider) (.unexpectedFiberTag firstProvider firstNode.tag)
  let secondProvider ← okOr firstNode.sibling (.missingSecondProvider firstProvider)
  let secondNode ← (world.get secondProvider).mapError .fiberTopology
  demand (secondNode.tag = .contextProvider)
    (.unsupportedSecondProviderTag firstProvider secondProvider secondNode.tag)
  rejectSome secondNode.sibling (.tooManyProviders firstProvider secondProvider)
  let firstChild ← okOr firstNode.child (.missingChild firstProvider)
  let firstChildNode ← (world.get firstChild).mapError .fiberTopology
  rejectSome firstChildNode.sibling (.multipleChildren firstProvider firstChild)
  demand (firstChildNode.tag = .functionComponent)
    (.unsupportedChildTag firstProvider firstChild firstChildNode.tag)
  let secondChild ← okOr secondNode.child (.missingChild secondProvider)
  let secondChildNode ← (world.get secondChild).mapError .fiberTopology
  rejectSome secondChildNode.sibling (.multipleChildren secondProvider secondChild)
  demand (secondChildNode.tag = .functionComponent)
    (.unsupportedChildTag secondProvider secondChild secondChildNode.tag)
  return ⟨secondProvider, firstChild, secondChild⟩

/-- A single child of an output: the component must have no child yet, and its output must
resolve to a host child. -/
def reconcileFunctionComponentSingleChildOutput (render : FunctionComponentContextRenderRecord)
    (resolver : FunctionComponentSingleChildOutputResolver) :
    Except FunctionComponentSingleChildReconciliationError
      FunctionComponentSingleChildReconciliationRecord := do
  let functionComponent := render.workInProgress
  let node ← (world.get functionComponent).mapError .fiberTopology
  demand (node.tag = .functionComponent) (.unexpectedFiberTag functionComponent node.tag)
  rejectSome node.child (.existingWorkInProgressChild functionComponent)
  render.current.elim (.ok ()) fun current => do
    let currentNode ← (world.get current).mapError .fiberTopology
    rejectSome currentNode.child (.existingCurrentChild functionComponent current)
  demand (!render.output.isNone) (.missingOutput functionComponent)
  let singleChild ← okOr (resolver render.output) (.unknownOutput functionComponent render.output)
  demand (singleChild.output = render.output)
    (.outputMismatch functionComponent render.output singleChild.output)
  demand (!singleChild.element.isNone) (.missingChildElement functionComponent render.output)
  demand (singleChild.tag = .hostComponent || singleChild.tag = .hostText)
    (.unsupportedChildTag functionComponent render.output singleChild.tag)
  return {
    functionComponent := functionComponent
    current := render.current
    output := render.output
    childElement := singleChild.element
    childTag := singleChild.tag
    childElementType := singleChild.elementType
    childProps := singleChild.props
    renderLanes := render.renderLanes }

end ContextRenderWorld

namespace ContextRender

/-- The tag of the fiber of a request must be that of a function component. -/
def validateBeginWork (request : BeginWorkRequest) :
    ContextRenderM Invoker (ContextBeginWorkError InvokerError) Unit :=
  query fun world => do
    let node ← (world.get request.workInProgress).mapError .fiberTopology
    demand (node.tag = .functionComponent)
      (if node.tag = .portal ∨ node.tag = .suspense ∨ node.tag = .offscreen ∨
          node.tag = .suspenseList ∨ node.tag = .activity then
        .unsupportedBoundary request.workInProgress node.tag
      else
        .unsupportedFiberTag request.workInProgress node.tag)

end ContextRender

def beginWorkWithContextReads (request : BeginWorkRequest) (contexts : List ContextHandle)
    (invoker : FunctionComponentInvoker Invoker InvokerError) :
    ContextRenderM Invoker (ContextBeginWorkError InvokerError)
      FunctionComponentContextRenderRecord := do
  validateBeginWork request
  mapError .functionComponent
    (renderFunctionComponentWithContextReads request.workInProgress request.renderLanes contexts
      invoker)

def beginWorkFunctionComponentUseContextImpl (request : BeginWorkRequest)
    (expectedContext : Option ContextHandle)
    (invoker : FunctionComponentContextConsumerInvoker Invoker InvokerError) :
    ContextRenderM Invoker (ContextBeginWorkError InvokerError)
      FunctionComponentUseContextRenderRecord := do
  validateBeginWork request
  mapError .functionComponent
    (renderFunctionComponentWithUseContextImpl request.workInProgress request.renderLanes
      expectedContext invoker)

def beginWorkFunctionComponentUseContext (request : BeginWorkRequest)
    (invoker : FunctionComponentContextConsumerInvoker Invoker InvokerError) :
    ContextRenderM Invoker (ContextBeginWorkError InvokerError)
      FunctionComponentUseContextRenderRecord :=
  beginWorkFunctionComponentUseContextImpl request none invoker

def beginWorkFunctionComponentRequiredUseContext (request : BeginWorkRequest)
    (expectedContext : ContextHandle)
    (invoker : FunctionComponentContextConsumerInvoker Invoker InvokerError) :
    ContextRenderM Invoker (ContextBeginWorkError InvokerError)
      FunctionComponentUseContextRenderRecord :=
  beginWorkFunctionComponentUseContextImpl request (some expectedContext) invoker

def reconcileSingleChild (render : FunctionComponentContextRenderRecord)
    (resolver : FunctionComponentSingleChildOutputResolver) :
    ContextRenderM Invoker FunctionComponentSingleChildReconciliationError
      FunctionComponentSingleChildReconciliationRecord := do
  let record ← query (·.reconcileFunctionComponentSingleChildOutput render resolver)
  onArena .fiberTopology
    (modifyFiber render.workInProgress (·.mergeFlags FiberFlags.performedWork))
  return record

namespace ContextRender

def topFrame : ContextRenderM Invoker InvokerError ContextFrameId := do
  return (← get).contextStore.stack.snapshot.topFrame

def stackDepth : ContextRenderM Invoker InvokerError Nat := do
  return (← get).contextStore.stackDepth

/-- What became of a provider: what is reported of it and the outcomes of its children and
of restoring the stack. -/
structure ProviderOutcome (ChildError α : Type) where
  scope : ContextProviderScope
  children : Except ChildError α
  restored : Except ContextStackError Unit

/-- Push a provider, begin what is below it and restore the stack in any case. -/
def beginBelowProvider {Error ChildError α : Type} (provision : ContextProvision)
    (wrap : ContextStackError → Error) (beginChildren : ContextRenderM Invoker ChildError α) :
    ContextRenderM Invoker Error (ProviderOutcome ChildError α) := do
  let snapshot ← onContextStack wrap (pushProvider provision.context provision.value)
  let token ← topFrame
  let pushedStackDepth ← stackDepth
  let children ← attempt beginChildren
  let restored ← attempt (onContextStack id (restoreSnapshot snapshot))
  let restoredStackDepth ← stackDepth
  return {
    scope :=
      { toContextProvision := provision
        providerSnapshot := snapshot
        providerToken := token
        pushedStackDepth := pushedStackDepth
        restoredStackDepth := restoredStackDepth }
    children := children
    restored := restored }

end ContextRender

def ContextProviderBeginWorkRequest.close {Record : Type}
    (request : ContextProviderBeginWorkRequest) (child : FiberId)
    (outcome : ProviderOutcome (ContextBeginWorkError InvokerError) Record) :
    Except (ContextProviderBeginWorkError InvokerError) (ContextProviderBeginWorkRecord Record) :=
  match outcome.children, outcome.restored with
  | .ok childBeginWork, .ok _ => .ok ⟨request.provider, outcome.scope, ⟨child, childBeginWork⟩⟩
  | .error error, .ok _ => .error (.childBeginWork request.provider child error)
  | .ok _, .error error =>
      .error (.contextRestore request.provider request.context outcome.scope.providerSnapshot error)
  | .error childError, .error restoreError =>
      .error (.contextRestoreAfterChildError request.provider child request.context childError
        restoreError)

/-- Begin a provider whose only child is begun in the given way. -/
def beginWorkContextProvider {Record : Type} (request : ContextProviderBeginWorkRequest)
    (beginChild : FiberId →
      ContextRenderM Invoker (ContextBeginWorkError InvokerError) Record) :
    ContextRenderM Invoker (ContextProviderBeginWorkError InvokerError)
      (ContextProviderBeginWorkRecord Record) := do
  let child ← query (·.validateContextProviderHandoffShape request.provider)
  let outcome ← beginBelowProvider request.toContextProvision
    (.contextStack request.provider request.context) (beginChild child)
  query fun _ => request.close child outcome

def beginWorkContextProviderChild (request : ContextProviderBeginWorkRequest)
    (invoker : FunctionComponentInvoker Invoker InvokerError) :
    ContextRenderM Invoker (ContextProviderBeginWorkError InvokerError)
      (ContextProviderBeginWorkRecord FunctionComponentContextRenderRecord) :=
  beginWorkContextProvider request fun child =>
    beginWorkWithContextReads ⟨child, request.renderLanes⟩ [request.context] invoker

def beginWorkContextProviderUseContextChild (request : ContextProviderBeginWorkRequest)
    (invoker : FunctionComponentContextConsumerInvoker Invoker InvokerError) :
    ContextRenderM Invoker (ContextProviderBeginWorkError InvokerError)
      (ContextProviderBeginWorkRecord FunctionComponentUseContextRenderRecord) :=
  beginWorkContextProvider request fun child =>
    beginWorkFunctionComponentRequiredUseContext ⟨child, request.renderLanes⟩ request.context
      invoker

def beginWorkContextProviderUseContextSingleChild (request : ContextProviderBeginWorkRequest)
    (invoker : FunctionComponentContextConsumerInvoker Invoker InvokerError)
    (resolver : FunctionComponentSingleChildOutputResolver) :
    ContextRenderM Invoker (ContextProviderBeginWorkError InvokerError)
      (ContextProviderBeginWorkRecord FunctionComponentUseContextRenderRecord ×
        FunctionComponentSingleChildReconciliationRecord) := do
  let beginWork ← beginWorkContextProviderUseContextChild request invoker
  let singleChild ← mapError
    (fun error => .childBeginWork beginWork.provider beginWork.child.child
      (.functionComponentSingleChild error))
    (reconcileSingleChild beginWork.child.childBeginWork.render resolver)
  return (beginWork, singleChild)

def ContextRender.restoreAfterChildError {α : Type} (request : ContextProviderBeginWorkRequest)
    (snapshot : ContextStackSnapshot) (child : FiberId)
    (error : ContextBeginWorkError InvokerError) :
    ContextRenderM Invoker (ContextProviderBeginWorkError InvokerError) α := do
  mapError (fun restoreError => .contextRestoreAfterChildError request.provider child request.context
    error restoreError) (onContextStack id (restoreSnapshot snapshot))
  throw (.childBeginWork request.provider child error)

/-- The provider stays on the stack for the completion of its fiber if its child succeeds. -/
def beginWorkContextProviderUseContextChildForCompleteTraversal
    (request : ContextProviderBeginWorkRequest)
    (invoker : FunctionComponentContextConsumerInvoker Invoker InvokerError) :
    ContextRenderM Invoker (ContextProviderBeginWorkError InvokerError)
      ContextProviderUseContextOpenScopeBeginWorkRecord := do
  let child ← query (·.validateContextProviderHandoffShape request.provider)
  let snapshot ← onContextStack (.contextStack request.provider request.context)
    (pushProvider request.context request.value)
  let token ← topFrame
  let pushedStackDepth ← stackDepth
  match ← attempt (beginWorkFunctionComponentRequiredUseContext ⟨child, request.renderLanes⟩
      request.context invoker) with
  | .ok childBeginWork =>
      return {
        toContextProvision := request.toContextProvision
        provider := request.provider
        providerSnapshot := snapshot
        providerToken := token
        pushedStackDepth := pushedStackDepth
        child := ⟨child, childBeginWork⟩ }
  | .error error => restoreAfterChildError request snapshot child error

def beginWorkContextProviderUseContextSingleChildForCompleteTraversal
    (request : ContextProviderBeginWorkRequest)
    (invoker : FunctionComponentContextConsumerInvoker Invoker InvokerError)
    (resolver : FunctionComponentSingleChildOutputResolver) :
    ContextRenderM Invoker (ContextProviderBeginWorkError InvokerError)
      (ContextProviderUseContextOpenScopeBeginWorkRecord ×
        FunctionComponentSingleChildReconciliationRecord) := do
  let beginWork ← beginWorkContextProviderUseContextChildForCompleteTraversal request invoker
  match ← attempt (reconcileSingleChild beginWork.child.childBeginWork.render resolver) with
  | .ok singleChild => return (beginWork, singleChild)
  | .error error =>
      restoreAfterChildError request beginWork.providerSnapshot beginWork.child.child
        (.functionComponentSingleChild error)

def contextProviderSubtreeTraversalMaxFibers : Nat := 16

structure ContextProviderSubtreeTraversal where
  visitedFibers : List ContextProviderSubtreeVisitedFiberRecord
  consumers : List ContextProviderSubtreeUseContextConsumerBeginWorkRecord

namespace ContextRender

/-- Visit one fiber: a component is begun, and what is below a fiber of the supported kinds
is visited next. -/
def visitSubtreeFiber (request : ContextProviderBeginWorkRequest)
    (invoker : FunctionComponentContextConsumerInvoker Invoker InvokerError) (fiber : FiberId)
    (depth : Nat) (traversal : ContextProviderSubtreeTraversal) :
    ContextRenderM Invoker (ContextProviderBeginWorkError InvokerError)
      (List (FiberId × Nat) × ContextProviderSubtreeTraversal) := do
  let traversalIndex := traversal.visitedFibers.length
  let node ← query fun world => (world.get fiber).mapError .fiberTopology
  let visitedFibers := traversal.visitedFibers ++ [⟨traversalIndex, fiber, node.tag, depth⟩]
  if node.tag = .functionComponent then
    let childBeginWork ← mapError (.childBeginWork request.provider fiber)
      (beginWorkFunctionComponentRequiredUseContext ⟨fiber, request.renderLanes⟩ request.context
        invoker)
    return ([], ⟨visitedFibers,
      traversal.consumers ++ [⟨traversalIndex, depth, ⟨fiber, childBeginWork⟩⟩]⟩)
  else if node.tag = .fragment ∨ node.tag = .mode ∨ node.tag = .hostComponent then
    let children ← query fun world => (world.arena.childIds fiber).mapError .fiberTopology
    return (children.map fun child => (child, depth + 1), ⟨visitedFibers, traversal.consumers⟩)
  else if node.tag = .hostText then
    return ([], ⟨visitedFibers, traversal.consumers⟩)
  else
    throw (.unsupportedSubtreeFiberTag request.provider fiber node.tag)

/-- Visit the pending fibers, the topmost one first, as long as the limit allows. -/
def visitSubtreeFibers (request : ContextProviderBeginWorkRequest)
    (invoker : FunctionComponentContextConsumerInvoker Invoker InvokerError) :
    Nat → List (FiberId × Nat) → ContextProviderSubtreeTraversal →
      ContextRenderM Invoker (ContextProviderBeginWorkError InvokerError)
        ContextProviderSubtreeTraversal
  | _, [], traversal => return traversal
  | 0, next :: _, _ =>
      throw (.subtreeTraversalLimitExceeded request.provider
        contextProviderSubtreeTraversalMaxFibers next.1)
  | remaining + 1, next :: pending, traversal => do
      let visited ← visitSubtreeFiber request invoker next.1 next.2 traversal
      visitSubtreeFibers request invoker remaining (visited.1 ++ pending) visited.2

end ContextRender

def beginWorkContextProviderUseContextSubtreeChildren (request : ContextProviderBeginWorkRequest)
    (invoker : FunctionComponentContextConsumerInvoker Invoker InvokerError) :
    ContextRenderM Invoker (ContextProviderBeginWorkError InvokerError)
      ContextProviderSubtreeTraversal := do
  let children ← query fun world => (world.arena.childIds request.provider).mapError .fiberTopology
  let traversal ← visitSubtreeFibers request invoker contextProviderSubtreeTraversalMaxFibers
    (children.map fun child => (child, 1)) ⟨[], []⟩
  if traversal.consumers.isEmpty then
    throw (.missingSubtreeConsumer request.provider)
  return traversal

/-- The outcome of a provider whose subtree was traversed. -/
def ContextProviderBeginWorkRequest.closeSubtree (request : ContextProviderBeginWorkRequest)
    (outcome : ProviderOutcome (ContextProviderBeginWorkError InvokerError)
      ContextProviderSubtreeTraversal) :
    Except (ContextProviderBeginWorkError InvokerError)
      ContextProviderSubtreeUseContextBeginWorkRecord := do
  outcome.restored.mapError
    (.contextRestore request.provider request.context outcome.scope.providerSnapshot)
  let traversal ← outcome.children
  return ⟨request.provider, outcome.scope, traversal.visitedFibers, traversal.consumers⟩

def beginWorkContextProviderUseContextSubtree (request : ContextProviderBeginWorkRequest)
    (invoker : FunctionComponentContextConsumerInvoker Invoker InvokerError) :
    ContextRenderM Invoker (ContextProviderBeginWorkError InvokerError)
      ContextProviderSubtreeUseContextBeginWorkRecord := do
  query fun world => do
    let providerNode ← (world.get request.provider).mapError .fiberTopology
    demand (providerNode.tag = .contextProvider)
      (.unexpectedFiberTag request.provider providerNode.tag)
  let outcome ← beginBelowProvider request.toContextProvision
    (.contextStack request.provider request.context)
    (beginWorkContextProviderUseContextSubtreeChildren request invoker)
  query fun _ => request.closeSubtree outcome

/-- What can go wrong below an outer provider: a child of it, or the push of the inner one. -/
inductive BelowOuterError (InvokerError : Type) where
  | childBeginWork (child : FiberId) (error : ContextBeginWorkError InvokerError)
  | innerContextStack (error : ContextStackError)

/-- What becomes of two nested providers: the outcome of the outer one holds that of the
inner one, with what was begun between them. -/
abbrev NestedProviderOutcome (InvokerError Between α : Type) :=
  ProviderOutcome (BelowOuterError InvokerError)
    (Between × ProviderOutcome (FiberId × ContextBeginWorkError InvokerError) α)

def NestedContextProviderBeginWorkRequest.close {Between α : Type}
    (request : NestedContextProviderBeginWorkRequest) (innerProvider : FiberId)
    (outcome : NestedProviderOutcome InvokerError Between α) :
    Except (NestedContextProviderBeginWorkError InvokerError)
      (NestedContextProviderBeginWorkRecord (Between × α)) :=
  match outcome.children, outcome.restored with
  | .error (.innerContextStack error), .ok _ =>
      .error (.contextStack innerProvider request.inner.context error)
  | .error (.innerContextStack _), .error restoreError =>
      .error (.contextRestore request.outerProvider request.outer.context
        outcome.scope.providerSnapshot restoreError)
  | .error (.childBeginWork child error), .ok _ =>
      .error (.childBeginWork request.outerProvider innerProvider child error)
  | .error (.childBeginWork child error), .error restoreError =>
      .error (.contextRestoreAfterChildError request.outerProvider innerProvider child error none
        (some restoreError))
  | .ok (between, inner), outerRestored =>
      match inner.children, inner.restored, outerRestored with
      | .ok children, .ok _, .ok _ =>
          .ok ⟨request.outerProvider, innerProvider, outcome.scope, inner.scope,
            between, children⟩
      | .ok _, .error error, _ =>
          .error (.contextRestore innerProvider request.inner.context inner.scope.providerSnapshot
            error)
      | .ok _, .ok _, .error error =>
          .error (.contextRestore request.outerProvider request.outer.context
            outcome.scope.providerSnapshot error)
      | .error failed, .ok _, .ok _ =>
          .error (.childBeginWork request.outerProvider innerProvider failed.1 failed.2)
      | .error failed, .ok _, .error outerError =>
          .error (.contextRestoreAfterChildError request.outerProvider innerProvider failed.1
            failed.2 none (some outerError))
      | .error failed, .error innerError, .ok _ =>
          .error (.contextRestoreAfterChildError request.outerProvider innerProvider failed.1
            failed.2 (some innerError) none)
      | .error failed, .error innerError, .error outerError =>
          .error (.contextRestoreAfterChildError request.outerProvider innerProvider failed.1
            failed.2 (some innerError) (some outerError))

def beginWorkNestedContextProviders {Between α : Type}
    (request : NestedContextProviderBeginWorkRequest) (innerProvider : FiberId)
    (beginBetween : ContextRenderM Invoker (BelowOuterError InvokerError) Between)
    (beginChildren :
      ContextRenderM Invoker (FiberId × ContextBeginWorkError InvokerError) α) :
    ContextRenderM Invoker (NestedContextProviderBeginWorkError InvokerError)
      (NestedContextProviderBeginWorkRecord (Between × α)) := do
  let outcome ← beginBelowProvider request.outer
    (.contextStack request.outerProvider request.outer.context)
    (do
      let between ← beginBetween
      let inner ← beginBelowProvider request.inner .innerContextStack beginChildren
      return (between, inner))
  query fun _ => request.close innerProvider outcome

namespace ContextRender

/-- Begin a child and report which one it was. -/
def beginChild {Error Record : Type} (child : FiberId)
    (wrap : FiberId → ContextBeginWorkError InvokerError → Error)
    (body : ContextRenderM Invoker (ContextBeginWorkError InvokerError) Record) :
    ContextRenderM Invoker Error (ContextChildBeginWork Record) := do
  let childBeginWork ← mapError (wrap child) body
  return ⟨child, childBeginWork⟩

end ContextRender

def beginWorkNestedContextProviderChild (request : NestedContextProviderBeginWorkRequest)
    (invoker : FunctionComponentInvoker Invoker InvokerError) :
    ContextRenderM Invoker (NestedContextProviderBeginWorkError InvokerError)
      (NestedContextProviderBeginWorkRecord
        (Unit × ContextChildBeginWork FunctionComponentContextRenderRecord)) := do
  let shape ← query (·.validateNestedContextProviderHandoffShape request.outerProvider)
  beginWorkNestedContextProviders request shape.innerProvider (pure ())
    (beginChild shape.child Prod.mk
      (beginWorkWithContextReads ⟨shape.child, request.renderLanes⟩
        [request.outer.context, request.inner.context] invoker))

def beginWorkNestedContextProviderUseContextChild (request : NestedContextProviderBeginWorkRequest)
    (invoker : FunctionComponentContextConsumerInvoker Invoker InvokerError) :
    ContextRenderM Invoker (NestedContextProviderBeginWorkError InvokerError)
      (NestedContextProviderBeginWorkRecord
        (Unit × ContextChildBeginWork FunctionComponentUseContextRenderRecord)) := do
  let shape ← query (·.validateNestedContextProviderHandoffShape request.outerProvider)
  beginWorkNestedContextProviders request shape.innerProvider (pure ())
    (beginChild shape.child Prod.mk
      (beginWorkFunctionComponentUseContext ⟨shape.child, request.renderLanes⟩ invoker))

abbrev TwoContextConsumers :=
  ContextChildBeginWork FunctionComponentUseContextRenderRecord ×
    ContextChildBeginWork FunctionComponentUseContextRenderRecord

def beginWorkNestedContextProviderTwoConsumerUseContextChildrenWithRequiredContexts
    (request : NestedContextProviderBeginWorkRequest)
    (firstRequiredContext secondRequiredContext : ContextHandle)
    (invoker : FunctionComponentContextConsumerInvoker Invoker InvokerError) :
    ContextRenderM Invoker (NestedContextProviderBeginWorkError InvokerError)
      (NestedContextProviderBeginWorkRecord (Unit × TwoContextConsumers)) := do
  let shape ← query (·.validateNestedContextProviderTwoConsumerHandoffShape request.outerProvider)
  beginWorkNestedContextProviders request shape.innerProvider (pure ()) (do
    let first ← beginChild shape.firstChild Prod.mk
      (beginWorkFunctionComponentRequiredUseContext ⟨shape.firstChild, request.renderLanes⟩
        firstRequiredContext invoker)
    let second ← beginChild shape.secondChild Prod.mk
      (beginWorkFunctionComponentRequiredUseContext ⟨shape.secondChild, request.renderLanes⟩
        secondRequiredContext invoker)
    return (first, second))

def beginWorkNestedContextProviderTwoConsumerUseContextChildren
    (request : NestedContextProviderBeginWorkRequest)
    (invoker : FunctionComponentContextConsumerInvoker Invoker InvokerError) :
    ContextRenderM Invoker (NestedContextProviderBeginWorkError InvokerError)
      (NestedContextProviderBeginWorkRecord (Unit × TwoContextConsumers)) :=
  beginWorkNestedContextProviderTwoConsumerUseContextChildrenWithRequiredContexts request
    request.inner.context request.inner.context invoker

def beginWorkNestedContextProviderTwoProviderUseContextChildren
    (request : NestedContextProviderBeginWorkRequest)
    (invoker : FunctionComponentContextConsumerInvoker Invoker InvokerError) :
    ContextRenderM Invoker (NestedContextProviderBeginWorkError InvokerError)
      (NestedContextProviderBeginWorkRecord (Unit × TwoContextConsumers)) :=
  beginWorkNestedContextProviderTwoConsumerUseContextChildrenWithRequiredContexts request
    request.outer.context request.inner.context invoker

def beginWorkNestedContextProviderOuterInnerConsumerUseContextChildren
    (request : NestedContextProviderBeginWorkRequest)
    (invoker : FunctionComponentContextConsumerInvoker Invoker InvokerError) :
    ContextRenderM Invoker (NestedContextProviderBeginWorkError InvokerError)
      (NestedContextProviderBeginWorkRecord TwoContextConsumers) := do
  let shape ← query
    (·.validateNestedContextProviderOuterInnerConsumerHandoffShape request.outerProvider)
  beginWorkNestedContextProviders request shape.innerProvider
    (beginChild shape.outerChild .childBeginWork
      (beginWorkFunctionComponentRequiredUseContext ⟨shape.outerChild, request.renderLanes⟩
        request.outer.context invoker))
    (beginChild shape.innerChild Prod.mk
      (beginWorkFunctionComponentRequiredUseContext ⟨shape.innerChild, request.renderLanes⟩
        request.inner.context invoker))

def ContextRender.closeSiblingProvider {Record : Type} (provider child : FiberId)
    (outcome : ProviderOutcome (ContextBeginWorkError InvokerError) Record) :
    Except (SiblingContextProviderBeginWorkError InvokerError)
      (ContextProviderScope × ContextChildBeginWork Record) :=
  match outcome.children, outcome.restored with
  | .ok childBeginWork, .ok _ => .ok (outcome.scope, ⟨child, childBeginWork⟩)
  | .error error, .ok _ => .error (.childBeginWork provider child error)
  | .ok _, .error error =>
      .error (.contextRestore provider outcome.scope.context outcome.scope.providerSnapshot error)
  | .error childError, .error restoreError =>
      .error (.contextRestoreAfterChildError provider child childError (some restoreError))

def beginWorkSiblingContextProvider {Record : Type} (provider child : FiberId)
    (provision : ContextProvision)
    (beginChild : ContextRenderM Invoker (ContextBeginWorkError InvokerError) Record) :
    ContextRenderM Invoker (SiblingContextProviderBeginWorkError InvokerError)
      (ContextProviderScope × ContextChildBeginWork Record) := do
  let outcome ← beginBelowProvider provision (.contextStack provider provision.context) beginChild
  query fun _ => closeSiblingProvider provider child outcome

def beginWorkSiblingContextProviderTwoConsumerUseContextChildren
    (request : SiblingContextProviderBeginWorkRequest)
    (invoker : FunctionComponentContextConsumerInvoker Invoker InvokerError) :
    ContextRenderM Invoker (SiblingContextProviderBeginWorkError InvokerError)
      (SiblingContextProviderBeginWorkRecord FunctionComponentUseContextRenderRecord) := do
  let shape ← query (·.validateSiblingContextProviderTwoConsumerHandoffShape request.firstProvider)
  let first ← beginWorkSiblingContextProvider request.firstProvider shape.firstChild request.first
    (beginWorkFunctionComponentRequiredUseContext ⟨shape.firstChild, request.renderLanes⟩
      request.first.context invoker)
  let second ← beginWorkSiblingContextProvider shape.secondProvider shape.secondChild request.second
    (beginWorkFunctionComponentRequiredUseContext ⟨shape.secondChild, request.renderLanes⟩
      request.second.context invoker)
  return {
    firstProvider := request.firstProvider
    secondProvider := shape.secondProvider
    first := first.1
    second := second.1
    firstChild := first.2
    secondChild := second.2 }

end FastReact
