import Mathlib.Data.List.Basic

namespace FastReact

/-!
# Private dispatch queue

An event dispatch record lists the listeners along its dispatch path, and the canary invokes
the queues of a list of records with one propagation state for all of them. Propagation
diagnostics and processing order are on, and the other diagnostics are off.
-/

/-- Nodes, instance tokens, native events and listener functions are told apart by identity. -/
abbrev DomNode := Nat

abbrev HostInstanceToken := Nat

abbrev NativeEvent := Nat

abbrev EventListener := Nat

/-- A listener is registered for one of two phases. -/
inductive EventPhase where
  | capture
  | bubble
  deriving DecidableEq, Repr

/-- Capture listeners are processed from the root to the target. -/
def EventPhase.processingListeners {α : Type} (phase : EventPhase) (listeners : List α) : List α :=
  match phase with
  | .capture => listeners.reverse
  | .bubble => listeners

/-- A mounted instance on the path, with the listeners found there for the record's event and phase. -/
structure DispatchPathEntry where
  targetHostInstanceNode : DomNode
  targetHostInstanceToken : HostInstanceToken
  queueListeners : List EventListener
  propsListener : Option EventListener
  deriving DecidableEq, Repr

structure EventDispatchRecord where
  phase : EventPhase
  nativeEvent : NativeEvent
  targetDispatchPath : List DispatchPathEntry
  deriving DecidableEq, Repr

/-- Both record creators refuse a value that is not a function, so the listener is always one. -/
structure DispatchListenerRecord where
  currentTarget : DomNode
  dispatchPathIndex : Nat
  listener : EventListener
  nativeEvent : NativeEvent
  phase : EventPhase
  targetInst : HostInstanceToken
  deriving DecidableEq, Repr

structure DispatchQueueEntry where
  nativeEvent : NativeEvent
  listenerRecords : List DispatchListenerRecord
  processingListenerRecords : List DispatchListenerRecord
  deriving DecidableEq, Repr

namespace EventDispatchRecord

def createDispatchListenerRecord (record : EventDispatchRecord) (pathEntry : DispatchPathEntry)
    (index : Nat)
    (listener : EventListener) : DispatchListenerRecord where
  currentTarget := pathEntry.targetHostInstanceNode
  dispatchPathIndex := index
  listener := listener
  nativeEvent := record.nativeEvent
  phase := record.phase
  targetInst := pathEntry.targetHostInstanceToken

/-- An instance contributes its queued listeners first and then the listener of its props. -/
def createPathEntryListenerRecords (record : EventDispatchRecord)
    (indexed : DispatchPathEntry × Nat) : List DispatchListenerRecord :=
  (indexed.1.queueListeners ++ indexed.1.propsListener.toList).map
    (record.createDispatchListenerRecord indexed.1 indexed.2)

def createDispatchQueueEntryRecord (record : EventDispatchRecord)
    (listenerRecords : List DispatchListenerRecord) : DispatchQueueEntry where
  nativeEvent := record.nativeEvent
  listenerRecords := listenerRecords
  processingListenerRecords := record.phase.processingListeners listenerRecords

/-- Listeners accumulate from the target to the root. -/
def accumulateListenerRecords (record : EventDispatchRecord) : List DispatchListenerRecord :=
  record.targetDispatchPath.zipIdx.flatMap record.createPathEntryListenerRecords

/-- A queue without listeners has no entry. -/
def createSimpleEventDispatchMetadata (record : EventDispatchRecord) : List DispatchQueueEntry :=
  if record.accumulateListenerRecords.isEmpty then []
  else [record.createDispatchQueueEntryRecord record.accumulateListenerRecords]

def dispatchQueue (record : EventDispatchRecord) : List DispatchQueueEntry :=
  record.createSimpleEventDispatchMetadata

def targetInst (record : EventDispatchRecord) : Option HostInstanceToken :=
  record.targetDispatchPath.head?.map (·.targetHostInstanceToken)

end EventDispatchRecord

/-- One state serves the events of every record, and the last event that stopped is kept in one slot. -/
structure PropagationState where
  currentDispatchListenerRecord : Option DispatchListenerRecord
  currentTarget : Option DomNode
  nativeEvent : Option NativeEvent
  propagationStopped : Bool
  stoppedNativeEvent : Option NativeEvent
  stopPropagationCallCount : Nat
  stopSourceListenerRecord : Option DispatchListenerRecord
  deriving DecidableEq, Repr

namespace PropagationState

def new : PropagationState where
  currentDispatchListenerRecord := none
  currentTarget := none
  nativeEvent := none
  propagationStopped := false
  stoppedNativeEvent := none
  stopPropagationCallCount := 0
  stopSourceListenerRecord := none

/-- A new event context forgets a stop that another native event recorded. -/
def enterNativeEvent (state : PropagationState) (event : NativeEvent) : PropagationState :=
  { state with
    nativeEvent := some event
    propagationStopped :=
      if state.stoppedNativeEvent ≠ some event then false else state.propagationStopped }

/-- The method of the event object acts on the event that is current in the shared state. -/
def stopPropagation (state : PropagationState) : PropagationState :=
  { state with
    propagationStopped := true
    stoppedNativeEvent := state.nativeEvent
    stopPropagationCallCount := state.stopPropagationCallCount + 1
    stopSourceListenerRecord := state.currentDispatchListenerRecord }

def stopPropagationTimes (state : PropagationState) : Nat → PropagationState
  | 0 => state
  | times + 1 => state.stopPropagation.stopPropagationTimes times

end PropagationState

/-- What a listener reads from the event object before it calls a method of it. -/
structure DispatchListenerCanaryEvent where
  currentTarget : Option DomNode
  phase : EventPhase
  propagationStopped : Bool
  targetInst : Option HostInstanceToken
  deriving DecidableEq, Repr

/-- A thrown null leaves no error behind, as a return does. -/
inductive ListenerCompletion where
  | returned
  | threw (value : Option Nat)
  deriving DecidableEq, Repr

def ListenerCompletion.error : ListenerCompletion → Option Nat
  | .returned => none
  | .threw value => value

/-- What one call of a listener did, and the world it leaves to the next call. -/
structure ListenerCall (World : Type) where
  completion : ListenerCompletion
  stopPropagationCalls : Nat
  world : World

/-- Listeners are foreign code, which may consult and change a world of its own. -/
abbrev ListenerBehaviour (World : Type) :=
  EventListener → DispatchListenerCanaryEvent → World → ListenerCall World

inductive InvocationStatus where
  | invokedSingleListener
  | capturedSingleListenerError
  | skippedPropagationStopped
  deriving DecidableEq, Repr

structure InvocationRecord where
  dispatchRecordIndex : Nat
  listenerIndex : Nat
  listenerRecord : DispatchListenerRecord
  invocationStatus : InvocationStatus
  listenerInvocationCount : Nat
  listenerErrorCaptured : Bool
  currentTargetBeforeInvocation : Option DomNode
  currentTargetDuringInvocation : Option DomNode
  currentTargetAfterInvocation : Option DomNode
  propagationStoppedBeforeInvocation : Bool
  propagationStoppedAfterInvocation : Bool
  propagationStopCallCountDelta : Nat
  deriving DecidableEq, Repr

inductive PropagationStopAction where
  | stopPropagation
  | skipListener
  deriving DecidableEq, Repr

structure PropagationStopDiagnostic where
  action : PropagationStopAction
  listenerRecord : DispatchListenerRecord
  propagationStopCallCount : Nat
  deriving DecidableEq, Repr

/-- The locals of the canary, with the current target of the entry's event context. -/
structure DispatchState (World : Type) where
  propagation : PropagationState
  currentTarget : Option DomNode
  world : World
  invocationRecords : List InvocationRecord
  propagationStopDiagnostics : List PropagationStopDiagnostic
  dispatchQueueEntryCount : Nat
  listenerCandidateCount : Nat
  listenerInvocationCount : Nat
  listenerErrorCount : Nat
  propagationSkippedListenerCount : Nat

namespace DispatchState

variable {World : Type}

def new (world : World) : DispatchState World where
  propagation := .new
  currentTarget := none
  world := world
  invocationRecords := []
  propagationStopDiagnostics := []
  dispatchQueueEntryCount := 0
  listenerCandidateCount := 0
  listenerInvocationCount := 0
  listenerErrorCount := 0
  propagationSkippedListenerCount := 0

/-- An entry without listeners gets no event context, and the propagation state is left alone. -/
def createDispatchQueueCanaryEventContext (state : DispatchState World)
    (entry : DispatchQueueEntry) : DispatchState World :=
  match entry.processingListenerRecords.head? with
  | none => state
  | some first =>
    { state with
      propagation := state.propagation.enterNativeEvent first.nativeEvent
      currentTarget := none }

def prepareDispatchQueueCanaryEventForListener (state : DispatchState World)
    (listenerRecord : DispatchListenerRecord) : DispatchState World :=
  { state with
    propagation :=
      { state.propagation with
        currentDispatchListenerRecord := some listenerRecord
        currentTarget := some listenerRecord.currentTarget }
    currentTarget := some listenerRecord.currentTarget }

def resetDispatchQueueCanaryEventAfterListener (state : DispatchState World) : DispatchState World :=
  { state with
    propagation :=
      { state.propagation with
        currentDispatchListenerRecord := none
        currentTarget := none }
    currentTarget := none }

def canaryEvent (state : DispatchState World)
    (record : EventDispatchRecord) : DispatchListenerCanaryEvent where
  currentTarget := state.currentTarget
  phase := record.phase
  propagationStopped := state.propagation.propagationStopped
  targetInst := record.targetInst

/-- The call stops propagation as often as it likes, and what it throws is caught. -/
def callListener (behaviour : ListenerBehaviour World) (record : EventDispatchRecord)
    (listenerRecord : DispatchListenerRecord)
    (state : DispatchState World) : ListenerCompletion × DispatchState World :=
  let call := behaviour listenerRecord.listener (state.canaryEvent record) state.world
  (call.completion,
    { state with
      propagation := state.propagation.stopPropagationTimes call.stopPropagationCalls
      world := call.world })

def shouldSkipDispatchListenerForPropagationStop (state : DispatchState World)
    (listenerRecord : DispatchListenerRecord)
    (previousInstance : Option HostInstanceToken) : Bool :=
  state.propagation.propagationStopped && decide (some listenerRecord.targetInst ≠ previousInstance)

def skipDispatchListener (state : DispatchState World) (recordIndex listenerIndex : Nat)
    (listenerRecord : DispatchListenerRecord) : DispatchState World :=
  { state with
    invocationRecords := state.invocationRecords ++ [{
      dispatchRecordIndex := recordIndex
      listenerIndex := listenerIndex
      listenerRecord := listenerRecord
      invocationStatus := .skippedPropagationStopped
      listenerInvocationCount := 0
      listenerErrorCaptured := false
      currentTargetBeforeInvocation := none
      currentTargetDuringInvocation := none
      currentTargetAfterInvocation := none
      propagationStoppedBeforeInvocation := true
      propagationStoppedAfterInvocation := true
      propagationStopCallCountDelta := 0 }]
    propagationStopDiagnostics := state.propagationStopDiagnostics ++ [{
      action := .skipListener
      listenerRecord := listenerRecord
      propagationStopCallCount := state.propagation.stopPropagationCallCount }]
    propagationSkippedListenerCount := state.propagationSkippedListenerCount + 1 }

def createInvocationRecord (recordIndex listenerIndex : Nat)
    (listenerRecord : DispatchListenerRecord) (completion : ListenerCompletion)
    (before during after : DispatchState World) : InvocationRecord where
  dispatchRecordIndex := recordIndex
  listenerIndex := listenerIndex
  listenerRecord := listenerRecord
  invocationStatus :=
    if completion.error.isNone then .invokedSingleListener else .capturedSingleListenerError
  listenerInvocationCount := 1
  listenerErrorCaptured := completion.error.isSome
  currentTargetBeforeInvocation := before.currentTarget
  currentTargetDuringInvocation := during.currentTarget
  currentTargetAfterInvocation := after.currentTarget
  propagationStoppedBeforeInvocation := before.propagation.propagationStopped
  propagationStoppedAfterInvocation := after.propagation.propagationStopped
  propagationStopCallCountDelta :=
    after.propagation.stopPropagationCallCount - before.propagation.stopPropagationCallCount

/-- A call enters one record, its error, and its stop when the call count has grown. -/
def recordInvocation (state : DispatchState World)
    (invocation : InvocationRecord) : DispatchState World :=
  { state with
    invocationRecords := state.invocationRecords ++ [invocation]
    listenerInvocationCount := state.listenerInvocationCount + invocation.listenerInvocationCount
    listenerErrorCount :=
      if invocation.listenerErrorCaptured then state.listenerErrorCount + 1 else state.listenerErrorCount
    propagationStopDiagnostics :=
      if invocation.propagationStopCallCountDelta > 0 then
        state.propagationStopDiagnostics ++ [{
          action := .stopPropagation
          listenerRecord := invocation.listenerRecord
          propagationStopCallCount := state.propagation.stopPropagationCallCount }]
      else state.propagationStopDiagnostics }

def invokeDispatchListenerRecordForCanary (behaviour : ListenerBehaviour World)
    (record : EventDispatchRecord) (recordIndex listenerIndex : Nat)
    (listenerRecord : DispatchListenerRecord)
    (state : DispatchState World) : DispatchState World :=
  let during := state.prepareDispatchQueueCanaryEventForListener listenerRecord
  let called := during.callListener behaviour record listenerRecord
  let after := called.2.resetDispatchQueueCanaryEventAfterListener
  after.recordInvocation
    (createInvocationRecord recordIndex listenerIndex listenerRecord called.1 state during after)

/-- The loop over the listeners of an entry ends at the first one that is skipped. -/
def invokeListeners (behaviour : ListenerBehaviour World) (record : EventDispatchRecord)
    (recordIndex : Nat) :
    List DispatchListenerRecord → Nat → Option HostInstanceToken → DispatchState World → DispatchState World
  | [], _, _, state => state
  | listenerRecord :: rest, listenerIndex, previousInstance, state =>
    if state.shouldSkipDispatchListenerForPropagationStop listenerRecord previousInstance then
      state.skipDispatchListener recordIndex listenerIndex listenerRecord
    else
      invokeListeners behaviour record recordIndex rest (listenerIndex + 1) (some listenerRecord.targetInst)
        (state.invokeDispatchListenerRecordForCanary behaviour record recordIndex listenerIndex listenerRecord)

/-- Finishing an event context resets it once more, and an entry without listeners has none. -/
def finishDispatchQueueCanaryEventContext (state : DispatchState World)
    (entry : DispatchQueueEntry) : DispatchState World :=
  match entry.processingListenerRecords.head? with
  | none => state
  | some _ => state.resetDispatchQueueCanaryEventAfterListener

def countEntry (state : DispatchState World) (entry : DispatchQueueEntry) : DispatchState World :=
  { state with
    dispatchQueueEntryCount := state.dispatchQueueEntryCount + 1
    listenerCandidateCount :=
      state.listenerCandidateCount + entry.processingListenerRecords.length }

def invokeDispatchQueueEntry (behaviour : ListenerBehaviour World) (record : EventDispatchRecord)
    (recordIndex : Nat) (state : DispatchState World)
    (entry : DispatchQueueEntry) : DispatchState World :=
  (invokeListeners behaviour record recordIndex entry.processingListenerRecords 0 none
    ((state.createDispatchQueueCanaryEventContext entry).countEntry entry)).finishDispatchQueueCanaryEventContext
    entry

def invokeDispatchRecord (behaviour : ListenerBehaviour World) (state : DispatchState World)
    (indexed : EventDispatchRecord × Nat) : DispatchState World :=
  indexed.1.dispatchQueue.foldl (invokeDispatchQueueEntry behaviour indexed.1 indexed.2) state

end DispatchState

/-- The queues of all records are invoked in the order of the list. -/
def invokeDispatchQueueCanaryFromDispatchRecords {World : Type}
    (dispatchRecords : List EventDispatchRecord) (behaviour : ListenerBehaviour World)
    (world : World) : DispatchState World :=
  dispatchRecords.zipIdx.foldl (DispatchState.invokeDispatchRecord behaviour) (.new world)

end FastReact
