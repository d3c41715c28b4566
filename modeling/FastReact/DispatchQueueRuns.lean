import FastReact.DispatchQueue
import Mathlib.Data.List.Pairwise
import Mathlib.Data.Nat.Find

namespace FastReact

open DispatchState EventDispatchRecord InvocationRecord List Nat Option

/-!
# Dispatch order and propagation

The canary calls the listeners of a record along the dispatch path until one stops the event.
Records of one native event see each other's stops as long as no other event comes between them.
-/

variable {record : EventDispatchRecord} {World : Type} {records : List EventDispatchRecord}
  {called : List InvocationRecord} {call : InvocationRecord} {behaviour : ListenerBehaviour World}

/-- A capture listener runs before those nearer to the target, a bubble listener after them. -/
def EventPhase.Follows (phase : EventPhase) (earlier later : Nat) : Prop :=
  match phase with
  | .capture => later ≤ earlier
  | .bubble => earlier ≤ later

namespace EventDispatchRecord

/-- The listeners of a record in the order in which the canary visits them. -/
def processingListeners (record : EventDispatchRecord) : List DispatchListenerRecord :=
  record.dispatchQueue.flatMap (·.processingListenerRecords)

def Listens (record : EventDispatchRecord) : Prop :=
  record.processingListeners ≠ []

end EventDispatchRecord

/-- Between two listening records of a native event no other event has a listening record. -/
def KeepsEventsTogether (records : List EventDispatchRecord) : Prop :=
  ∀ first middle last : Nat, first < middle → middle < last →
    ∀ opening between closing : EventDispatchRecord,
      records[first]? = some opening → records[middle]? = some between → records[last]? = some closing →
      opening.Listens → between.Listens → closing.Listens →
      opening.nativeEvent = closing.nativeEvent → between.nativeEvent = opening.nativeEvent

namespace InvocationRecord

def Before (call : InvocationRecord) (recordIndex listenerIndex : Nat) : Prop :=
  call.dispatchRecordIndex < recordIndex ∨
    call.dispatchRecordIndex = recordIndex ∧ call.listenerIndex < listenerIndex

def Precedes (earlier later : InvocationRecord) : Prop :=
  earlier.Before later.dispatchRecordIndex later.listenerIndex

/-- The listener called the event's method at least once. -/
def Stops (call : InvocationRecord) (event : NativeEvent) : Prop :=
  call.listenerRecord.nativeEvent = event ∧ 0 < call.propagationStopCallCountDelta

/-- The stop leaves out the later listeners of its own record that stay on its instance. -/
def Excuses (stop : InvocationRecord) (listeners : List DispatchListenerRecord)
    (recordIndex listenerIndex : Nat) : Prop :=
  stop.dispatchRecordIndex = recordIndex ∧
    ∀ (index : Nat) (listenerRecord : DispatchListenerRecord),
      stop.listenerIndex ≤ index → index ≤ listenerIndex → listeners[index]? = some listenerRecord →
      listenerRecord.targetInst = stop.listenerRecord.targetInst

def place (call : InvocationRecord) : Nat × Nat :=
  (call.dispatchRecordIndex, call.listenerIndex)

end InvocationRecord

def calls (log : List InvocationRecord) : List InvocationRecord :=
  log.filter fun record => record.listenerInvocationCount = 1

/-- Every earlier stop of the record's event leaves this listener of the record its turn. -/
def PropagatesTo (called : List InvocationRecord) (record : EventDispatchRecord)
    (recordIndex listenerIndex : Nat) : Prop :=
  ∀ stop ∈ called, stop.Stops record.nativeEvent → stop.Before recordIndex listenerIndex →
    stop.Excuses record.processingListeners recordIndex listenerIndex

/-- A listener function that does what another does, and returns where the other throws. -/
def ListenerBehaviour.returning {World : Type}
    (behaviour : ListenerBehaviour World) : ListenerBehaviour World :=
  fun listener event world => { behaviour listener event world with completion := .returned }

/-- The calls follow the dispatch path, and only a stop of the same event leaves listeners out. -/
structure DispatchesInOrder {World : Type} (records : List EventDispatchRecord)
    (behaviour : ListenerBehaviour World) (world : World)
    (log : List InvocationRecord) : Prop where
  placed : ∀ call ∈ calls log, ∃ record,
    records[call.dispatchRecordIndex]? = some record ∧
      record.processingListeners[call.listenerIndex]? = some call.listenerRecord
  onceInOrder : (calls log).Pairwise Precedes
  alongPath : (calls log).Pairwise fun earlier later =>
    earlier.dispatchRecordIndex = later.dispatchRecordIndex →
      later.listenerRecord.phase.Follows
        earlier.listenerRecord.dispatchPathIndex later.listenerRecord.dispatchPathIndex
  calledUnlessStopped : ∀ (recordIndex listenerIndex : Nat) (record : EventDispatchRecord),
    records[recordIndex]? = some record → listenerIndex < record.processingListeners.length →
    ((recordIndex, listenerIndex) ∈ (calls log).map InvocationRecord.place ↔
      PropagatesTo (calls log) record recordIndex listenerIndex)
  currentTarget : ∀ call ∈ calls log,
    call.currentTargetBeforeInvocation = none ∧
      call.currentTargetDuringInvocation = some call.listenerRecord.currentTarget ∧
      call.currentTargetAfterInvocation = none
  throwsNothingAway :
    (calls log).map InvocationRecord.place =
      (calls (invokeDispatchQueueCanaryFromDispatchRecords records behaviour.returning world).invocationRecords).map
        InvocationRecord.place

namespace EventDispatchRecord

theorem processingListeners_eq :
    record.processingListeners =
      record.phase.processingListeners record.accumulateListenerRecords := by
  by_cases empty : record.accumulateListenerRecords = []
  · cases phase : record.phase <;>
      simp [processingListeners, dispatchQueue, createSimpleEventDispatchMetadata, empty,
        EventPhase.processingListeners]
  · simp [processingListeners, dispatchQueue, createSimpleEventDispatchMetadata, empty,
      createDispatchQueueEntryRecord]

theorem dispatchQueue_of_silent (silent : ¬ record.Listens) : record.dispatchQueue = [] := by
  have empty : record.accumulateListenerRecords = [] := by
    cases phase : record.phase <;>
      simpa [Listens, processingListeners_eq, phase, EventPhase.processingListeners] using silent
  simp [dispatchQueue, createSimpleEventDispatchMetadata, empty]

theorem dispatchQueue_of_listens (listens : record.Listens) :
    ∃ entry, record.dispatchQueue = [entry] ∧
      entry.processingListenerRecords = record.processingListeners := by
  have someListener : record.accumulateListenerRecords ≠ [] := by
    cases phase : record.phase <;>
      simpa [Listens, processingListeners_eq, phase, EventPhase.processingListeners] using listens
  have queue : record.dispatchQueue =
      [record.createDispatchQueueEntryRecord record.accumulateListenerRecords] := by
    simp [dispatchQueue, createSimpleEventDispatchMetadata, someListener]
  exact ⟨_, queue, by simp [processingListeners, queue]⟩

variable {listenerRecord : DispatchListenerRecord}

theorem of_mem_accumulateListenerRecords
    (member : listenerRecord ∈ record.accumulateListenerRecords) :
    listenerRecord.nativeEvent = record.nativeEvent ∧ listenerRecord.phase = record.phase := by
  obtain ⟨indexed, _, created⟩ := mem_flatMap.mp member
  obtain ⟨listener, _, rfl⟩ := mem_map.mp created
  exact ⟨rfl, rfl⟩

theorem of_mem_processingListeners (member : listenerRecord ∈ record.processingListeners) :
    listenerRecord.nativeEvent = record.nativeEvent ∧ listenerRecord.phase = record.phase := by
  apply of_mem_accumulateListenerRecords
  cases phase : record.phase <;>
    simpa [processingListeners_eq, phase, EventPhase.processingListeners] using member

theorem pairwise_accumulateListenerRecords :
    record.accumulateListenerRecords.Pairwise
      (fun earlier later => earlier.dispatchPathIndex ≤ later.dispatchPathIndex) := by
  apply pairwise_flatMap.mpr
  constructor
  · intro indexed _
    apply pairwise_map.mpr
    exact pairwise_of_forall (fun _ _ => le_refl _)
  · have increasing :
        record.targetDispatchPath.zipIdx.Pairwise (fun first second => first.2 < second.2) := by
      apply pairwise_map.mp
      rw [zipIdx_map_snd]
      exact pairwise_lt_range'
    apply increasing.imp
    intro first second below earlier earlierMember later laterMember
    obtain ⟨_, _, rfl⟩ := mem_map.mp earlierMember
    obtain ⟨_, _, rfl⟩ := mem_map.mp laterMember
    exact le_of_lt below

theorem pairwise_processingListeners :
    record.processingListeners.Pairwise (fun earlier later =>
      record.phase.Follows earlier.dispatchPathIndex later.dispatchPathIndex) := by
  rw [processingListeners_eq]
  cases phase : record.phase
  · exact pairwise_reverse.mpr pairwise_accumulateListenerRecords
  · exact pairwise_accumulateListenerRecords

end EventDispatchRecord

namespace PropagationState

variable {state : PropagationState} {times : Nat}

@[simp]
theorem nativeEvent_stopPropagationTimes :
    (state.stopPropagationTimes times).nativeEvent = state.nativeEvent := by
  induction times generalizing state with
  | zero => rfl
  | succ times ih => exact ih

@[simp]
theorem stopPropagationCallCount_stopPropagationTimes :
    (state.stopPropagationTimes times).stopPropagationCallCount =
      state.stopPropagationCallCount + times := by
  induction times generalizing state with
  | zero => rfl
  | succ times ih =>
    simp only [stopPropagationTimes, ih, stopPropagation]
    omega

@[simp]
theorem propagationStopped_stopPropagationTimes :
    (state.stopPropagationTimes times).propagationStopped =
      (state.propagationStopped || decide (0 < times)) := by
  induction times generalizing state with
  | zero => simp [stopPropagationTimes]
  | succ times ih => simp [stopPropagationTimes, ih, stopPropagation]

@[simp]
theorem stoppedNativeEvent_stopPropagationTimes :
    (state.stopPropagationTimes times).stoppedNativeEvent =
      if 0 < times then state.nativeEvent else state.stoppedNativeEvent := by
  induction times generalizing state with
  | zero => rfl
  | succ times ih => simp [stopPropagationTimes, ih, stopPropagation]

end PropagationState

/-- What the call of the listener at a place leaves behind. -/
structure Invokes {World : Type} (recordIndex listenerIndex : Nat)
    (listenerRecord : DispatchListenerRecord) (state after : DispatchState World)
    (call : InvocationRecord) : Prop where
  calls_eq : calls after.invocationRecords = calls state.invocationRecords ++ [call]
  recordIndex_eq : call.dispatchRecordIndex = recordIndex
  listenerIndex_eq : call.listenerIndex = listenerIndex
  listenerRecord_eq : call.listenerRecord = listenerRecord
  before_eq : call.currentTargetBeforeInvocation = state.currentTarget
  during_eq : call.currentTargetDuringInvocation = some listenerRecord.currentTarget
  after_eq : call.currentTargetAfterInvocation = none
  currentTarget_eq : after.currentTarget = none
  nativeEvent_eq : after.propagation.nativeEvent = state.propagation.nativeEvent
  stopped_eq : after.propagation.propagationStopped =
    (state.propagation.propagationStopped || decide (0 < call.propagationStopCallCountDelta))
  slot_eq : after.propagation.stoppedNativeEvent =
    if 0 < call.propagationStopCallCountDelta then state.propagation.nativeEvent
    else state.propagation.stoppedNativeEvent

theorem calls_append (log more : List InvocationRecord) : calls (log ++ more) = calls log ++ calls more :=
  filter_append ..

theorem DispatchState.invokes (behaviour : ListenerBehaviour World) (record : EventDispatchRecord)
    (recordIndex listenerIndex : Nat) (listenerRecord : DispatchListenerRecord)
    (state : DispatchState World) :
    ∃ call, Invokes recordIndex listenerIndex listenerRecord state
      (state.invokeDispatchListenerRecordForCanary behaviour record recordIndex listenerIndex listenerRecord)
      call ∧
      call.propagationStopCallCountDelta =
        (behaviour listenerRecord.listener
          ((state.prepareDispatchQueueCanaryEventForListener listenerRecord).canaryEvent record)
          state.world).stopPropagationCalls := by
  refine ⟨_, ⟨calls_append .., rfl, rfl, rfl, rfl, rfl, rfl, rfl, ?_, ?_, ?_⟩, ?_⟩
  all_goals
    simp [invokeDispatchListenerRecordForCanary, recordInvocation, createInvocationRecord, callListener,
      resetDispatchQueueCanaryEventAfterListener, prepareDispatchQueueCanaryEventForListener]

structure Settled (records : List EventDispatchRecord) (called : List InvocationRecord)
    (recordIndex listenerIndex : Nat) : Prop where
  before : ∀ call ∈ called, call.Before recordIndex listenerIndex
  placed : ∀ call ∈ called, ∃ record,
    records[call.dispatchRecordIndex]? = some record ∧
      record.processingListeners[call.listenerIndex]? = some call.listenerRecord
  onceInOrder : called.Pairwise Precedes
  calledUnlessStopped : ∀ (earlierRecord earlierListener : Nat) (record : EventDispatchRecord),
    earlierRecord < recordIndex ∨ earlierRecord = recordIndex ∧ earlierListener < listenerIndex →
    records[earlierRecord]? = some record → earlierListener < record.processingListeners.length →
    ((earlierRecord, earlierListener) ∈ called.map InvocationRecord.place ↔
      PropagatesTo called record earlierRecord earlierListener)
  currentTarget : ∀ call ∈ called,
    call.currentTargetBeforeInvocation = none ∧
      call.currentTargetDuringInvocation = some call.listenerRecord.currentTarget ∧
      call.currentTargetAfterInvocation = none

namespace Settled

variable {recordIndex listenerIndex : Nat}

theorem new : Settled records [] 0 0 where
  before := by simp
  placed := by simp
  onceInOrder := .nil
  calledUnlessStopped := by
    intro _ _ _ earlier
    omega
  currentTarget := by simp

theorem event_of_mem (settled : Settled records called recordIndex listenerIndex)
    (member : call ∈ called) :
    ∃ record, records[call.dispatchRecordIndex]? = some record ∧ record.Listens ∧
      call.listenerRecord.nativeEvent = record.nativeEvent := by
  obtain ⟨record, found, placed⟩ := settled.placed call member
  have listed := mem_of_getElem? placed
  exact ⟨record, found, ne_nil_of_mem listed, (of_mem_processingListeners listed).1⟩

theorem propagatesTo_append {earlierRecord earlierListener : Nat}
    (later : ¬ call.Before earlierRecord earlierListener) :
    PropagatesTo (called ++ [call]) record earlierRecord earlierListener ↔
      PropagatesTo called record earlierRecord earlierListener := by
  constructor
  · intro reaches stop member
    exact reaches stop (mem_append_left _ member)
  · intro reaches stop member stops before
    rcases mem_append.mp member with old | new
    · exact reaches stop old stops before
    · exact absurd (mem_singleton.mp new ▸ before) later

section

variable (settled : Settled records called recordIndex listenerIndex)
include settled

theorem callAt (found : records[recordIndex]? = some record)
    (listed : record.processingListeners[listenerIndex]? = some call.listenerRecord)
    (atRecord : call.dispatchRecordIndex = recordIndex)
    (atListener : call.listenerIndex = listenerIndex)
    (target : call.currentTargetBeforeInvocation = none ∧
      call.currentTargetDuringInvocation = some call.listenerRecord.currentTarget ∧
      call.currentTargetAfterInvocation = none)
    (propagates : PropagatesTo called record recordIndex listenerIndex) :
    Settled records (called ++ [call]) recordIndex (listenerIndex + 1) where
  before := by
    intro earlier member
    rcases mem_append.mp member with old | new
    · rcases settled.before earlier old with below | ⟨same, below⟩
      · exact .inl below
      · exact .inr ⟨same, by omega⟩
    · rw [mem_singleton.mp new]
      exact .inr ⟨atRecord, by omega⟩
  placed := by
    intro earlier member
    rcases mem_append.mp member with old | new
    · exact settled.placed earlier old
    · rw [mem_singleton.mp new, atRecord, atListener]
      exact ⟨record, found, listed⟩
  onceInOrder := by
    apply pairwise_append.mpr
    refine ⟨settled.onceInOrder, pairwise_singleton .., ?_⟩
    intro earlier member later new
    rw [mem_singleton.mp new]
    have before := settled.before earlier member
    simpa only [Precedes, atRecord, atListener] using before
  calledUnlessStopped := by
    intro earlierRecord earlierListener other earlier otherFound inRange
    have later : ¬ call.Before earlierRecord earlierListener := by
      simp only [Before, atRecord, atListener]
      omega
    rw [propagatesTo_append later, map_append, mem_append]
    by_cases own : earlierRecord = recordIndex ∧ earlierListener = listenerIndex
    · obtain ⟨rfl, rfl⟩ := own
      obtain rfl := some.inj (otherFound.symm.trans found)
      simp [place, atRecord, atListener, propagates]
    · rw [settled.calledUnlessStopped earlierRecord earlierListener other (by omega) otherFound inRange]
      simp only [place, map_cons, map_nil, mem_singleton, Prod.mk.injEq,
        atRecord, atListener, own, or_false]
  currentTarget := by
    intro earlier member
    rcases mem_append.mp member with old | new
    · exact settled.currentTarget earlier old
    · rw [mem_singleton.mp new]
      exact target

theorem leave
    (stopped : ∀ record, records[recordIndex]? = some record →
      ∀ later, listenerIndex ≤ later → later < record.processingListeners.length →
        ¬ PropagatesTo called record recordIndex later) :
    Settled records called (recordIndex + 1) 0 where
  before := by
    intro call member
    rcases settled.before call member with below | ⟨same, _⟩
    · exact .inl (by omega)
    · exact .inl (by omega)
  placed := settled.placed
  onceInOrder := settled.onceInOrder
  calledUnlessStopped := by
    intro earlierRecord earlierListener other earlier otherFound inRange
    by_cases settledBefore :
        earlierRecord < recordIndex ∨ earlierRecord = recordIndex ∧ earlierListener < listenerIndex
    · exact settled.calledUnlessStopped earlierRecord earlierListener other settledBefore otherFound inRange
    · obtain rfl : earlierRecord = recordIndex := by omega
      have notReached := stopped other otherFound earlierListener (by omega) inRange
      constructor
      · intro member
        obtain ⟨call, callMember, atPlace⟩ := mem_map.mp member
        have before := settled.before call callMember
        simp only [place, Prod.mk.injEq] at atPlace
        simp only [Before, atPlace] at before
        omega
      · intro reaches
        exact absurd reaches notReached
  currentTarget := settled.currentTarget

end

end Settled

/-- Within a record the state says whether its event has been stopped, and on which instance. -/
structure Propagating {World : Type} (called : List InvocationRecord)
    (listeners : List DispatchListenerRecord) (recordIndex listenerIndex : Nat)
    (event : NativeEvent) (previousInstance : Option HostInstanceToken)
    (state : DispatchState World) : Prop where
  currentTarget : state.currentTarget = none
  nativeEvent : state.propagation.nativeEvent = some event
  stopped : state.propagation.propagationStopped = true ↔ ∃ stop ∈ called, stop.Stops event
  slot : state.propagation.propagationStopped = true → state.propagation.stoppedNativeEvent = some event
  source : ∀ other, state.propagation.stoppedNativeEvent = some other → ∃ stop ∈ called, stop.Stops other
  previous : ∀ stop ∈ called, stop.Stops event →
    stop.dispatchRecordIndex < recordIndex ∧ previousInstance = none ∨
      stop.dispatchRecordIndex = recordIndex ∧ stop.listenerIndex < listenerIndex ∧
        previousInstance = some stop.listenerRecord.targetInst ∧
        ∀ (index : Nat) (listenerRecord : DispatchListenerRecord),
          stop.listenerIndex ≤ index → index < listenerIndex → listeners[index]? = some listenerRecord →
          listenerRecord.targetInst = stop.listenerRecord.targetInst

namespace Propagating

variable {recordIndex listenerIndex : Nat} {previousInstance : Option HostInstanceToken}
variable {listenerRecord : DispatchListenerRecord} {state after : DispatchState World}

section

variable
  (propagating : Propagating called record.processingListeners recordIndex listenerIndex
    record.nativeEvent previousInstance state)
  (listed : record.processingListeners[listenerIndex]? = some listenerRecord)
include propagating listed

theorem stopped_of_skip
    (skips : state.shouldSkipDispatchListenerForPropagationStop listenerRecord previousInstance = true)
    {later : Nat} (notBefore : listenerIndex ≤ later) : ¬ PropagatesTo called record recordIndex later := by
  intro reaches
  simp only [shouldSkipDispatchListenerForPropagationStop, Bool.and_eq_true,
    decide_eq_true_eq] at skips
  obtain ⟨stopped, otherInstance⟩ := skips
  obtain ⟨stop, member, stops⟩ := propagating.stopped.mp stopped
  rcases propagating.previous stop member stops with ⟨below, _⟩ | ⟨same, below, previous, _⟩
  · have excused := reaches stop member stops (.inl below)
    exact absurd excused.1 (by omega)
  · have excused := reaches stop member stops (.inr ⟨same, by omega⟩)
    have sameInstance := excused.2 listenerIndex listenerRecord (by omega) notBefore listed
    rw [previous, sameInstance] at otherInstance
    exact otherInstance rfl

section

variable
  (runs : ¬ state.shouldSkipDispatchListenerForPropagationStop listenerRecord previousInstance = true)
include runs

theorem propagatesTo : PropagatesTo called record recordIndex listenerIndex := by
  intro stop member stops before
  have stopped := propagating.stopped.mpr ⟨stop, member, stops⟩
  have sameInstance : some listenerRecord.targetInst = previousInstance := by
    by_contra otherInstance
    exact runs (by simp [shouldSkipDispatchListenerForPropagationStop, stopped, otherInstance])
  rcases propagating.previous stop member stops with ⟨_, unset⟩ | ⟨same, _, previous, group⟩
  · rw [unset] at sameInstance
    exact absurd sameInstance (some_ne_none _)
  · refine ⟨same, ?_⟩
    intro index other notBefore notAfter found
    rcases lt_or_eq_of_le notAfter with below | rfl
    · exact group index other notBefore below found
    · obtain rfl := some.inj (found.symm.trans listed)
      rw [previous] at sameInstance
      exact some.inj sameInstance

/-- A call keeps the state in step with the calls, and moves on to the listener's instance. -/
theorem invoke (invoked : Invokes recordIndex listenerIndex listenerRecord state after call) :
    Propagating (called ++ [call]) record.processingListeners recordIndex (listenerIndex + 1)
      record.nativeEvent (some listenerRecord.targetInst) after where
  currentTarget := invoked.currentTarget_eq
  nativeEvent := invoked.nativeEvent_eq.trans propagating.nativeEvent
  stopped := by
    have event := (of_mem_processingListeners (mem_of_getElem? listed)).1
    rw [invoked.stopped_eq, Bool.or_eq_true, propagating.stopped, decide_eq_true_eq]
    simp only [mem_append, mem_singleton, or_and_right, exists_or, exists_eq_left,
      Stops, invoked.listenerRecord_eq, event, true_and]
  slot := by
    intro stopped
    rw [invoked.slot_eq]
    split
    · exact propagating.nativeEvent
    · rw [invoked.stopped_eq, Bool.or_eq_true, decide_eq_true_eq] at stopped
      exact propagating.slot (stopped.resolve_right ‹_›)
  source := by
    intro other slot
    rw [invoked.slot_eq] at slot
    split at slot
    · rename_i stops
      have event := (of_mem_processingListeners (mem_of_getElem? listed)).1
      obtain rfl := some.inj (propagating.nativeEvent.symm.trans slot)
      exact ⟨call, by simp, by rw [invoked.listenerRecord_eq, event], stops⟩
    · obtain ⟨stop, member, stops⟩ := propagating.source other slot
      exact ⟨stop, mem_append_left _ member, stops⟩
  previous := by
    intro stop member stops
    right
    rcases mem_append.mp member with old | new
    · have reaches := propagating.propagatesTo listed runs stop old stops
      rcases propagating.previous stop old stops with ⟨below, _⟩ | ⟨same, below, _, _⟩
      · exact absurd (reaches (.inl below)).1 (by omega)
      · obtain ⟨_, group⟩ := reaches (.inr ⟨same, below⟩)
        refine ⟨same, by omega, ?_, ?_⟩
        · rw [group listenerIndex listenerRecord (by omega) (le_refl _) listed]
        · intro index other notBefore notAfter
          exact group index other notBefore (by omega)
    · obtain rfl := mem_singleton.mp new
      refine ⟨invoked.recordIndex_eq, by rw [invoked.listenerIndex_eq]; omega,
        by rw [invoked.listenerRecord_eq], ?_⟩
      intro index other notBefore notAfter found
      rw [invoked.listenerIndex_eq] at notBefore
      obtain rfl : index = listenerIndex := by omega
      rw [invoked.listenerRecord_eq, some.inj (found.symm.trans listed)]

end

end

end Propagating

namespace DispatchState

variable {recordIndex : Nat}

/-- The listeners from a place on, and what they leave for the next record. -/
theorem invokeListeners_settled (behaviour : ListenerBehaviour World)
    (found : records[recordIndex]? = some record) (rest : List DispatchListenerRecord)
    (listenerIndex : Nat) (previousInstance : Option HostInstanceToken)
    (state : DispatchState World) (dropped : record.processingListeners.drop listenerIndex = rest)
    (settled : Settled records (calls state.invocationRecords) recordIndex listenerIndex)
    (propagating : Propagating (calls state.invocationRecords) record.processingListeners recordIndex
      listenerIndex record.nativeEvent previousInstance state) :
    ∃ laterIndex laterInstance,
      Settled records
        (calls (invokeListeners behaviour record recordIndex rest listenerIndex previousInstance
          state).invocationRecords) (recordIndex + 1) 0 ∧
      Propagating
        (calls (invokeListeners behaviour record recordIndex rest listenerIndex previousInstance
          state).invocationRecords) record.processingListeners recordIndex laterIndex record.nativeEvent
        laterInstance
        (invokeListeners behaviour record recordIndex rest listenerIndex previousInstance state) := by
  induction rest generalizing listenerIndex previousInstance state with
  | nil =>
    have atEnd := drop_eq_nil_iff.mp dropped
    refine ⟨listenerIndex, previousInstance, settled.leave ?_, propagating⟩
    intro other otherFound later notBefore inRange
    obtain rfl := some.inj (otherFound.symm.trans found)
    omega
  | cons listenerRecord rest ih =>
    have listed : record.processingListeners[listenerIndex]? = some listenerRecord := by
      rw [← head?_drop, dropped, head?_cons]
    have restDropped : record.processingListeners.drop (listenerIndex + 1) = rest := by
      rw [← tail_drop, dropped, tail_cons]
    rw [invokeListeners]
    split
    · rename_i skips
      have unchanged : calls (state.skipDispatchListener recordIndex listenerIndex
          listenerRecord).invocationRecords = calls state.invocationRecords := by
        simp [skipDispatchListener, calls]
      refine ⟨listenerIndex, previousInstance, ?_, ?_⟩
      · rw [unchanged]
        apply settled.leave
        intro other otherFound later notBefore _
        obtain rfl := some.inj (otherFound.symm.trans found)
        exact propagating.stopped_of_skip listed skips notBefore
      · rw [unchanged]
        exact { propagating with }
    · rename_i runs
      obtain ⟨call, invoked, _⟩ :=
        invokes behaviour record recordIndex listenerIndex listenerRecord state
      apply ih _ _ _ restDropped
      · rw [invoked.calls_eq]
        refine settled.callAt found (invoked.listenerRecord_eq ▸ listed) invoked.recordIndex_eq
          invoked.listenerIndex_eq ⟨?_, ?_, invoked.after_eq⟩ (propagating.propagatesTo listed runs)
        · rw [invoked.before_eq, propagating.currentTarget]
        · rw [invoked.during_eq, invoked.listenerRecord_eq]
      · rw [invoked.calls_eq]
        exact propagating.invoke listed runs invoked

/-- A record without listeners is passed over, and another one brings its event and its one entry. -/
theorem invokeDispatchRecord_of_silent {state : DispatchState World} (silent : ¬ record.Listens) :
    invokeDispatchRecord behaviour state (record, recordIndex) = state := by
  rw [invokeDispatchRecord, dispatchQueue_of_silent silent, foldl_nil]

/-- The state in which the listeners of a record's entry start. -/
def entered (state : DispatchState World) (record : EventDispatchRecord) : DispatchState World :=
  { state with
    propagation := state.propagation.enterNativeEvent record.nativeEvent
    currentTarget := none
    dispatchQueueEntryCount := state.dispatchQueueEntryCount + 1
    listenerCandidateCount := state.listenerCandidateCount + record.processingListeners.length }

theorem invokeDispatchRecord_of_listens {state : DispatchState World} (listens : record.Listens) :
    invokeDispatchRecord behaviour state (record, recordIndex) =
      (invokeListeners behaviour record recordIndex record.processingListeners 0 none
        (state.entered record)).resetDispatchQueueCanaryEventAfterListener := by
  obtain ⟨entry, queue, processing⟩ := dispatchQueue_of_listens listens
  obtain ⟨first, rest, split⟩ := exists_cons_of_ne_nil listens
  have event : first.nativeEvent = record.nativeEvent :=
    (of_mem_processingListeners (split ▸ mem_cons_self)).1
  have head : record.processingListeners.head? = some first := by rw [split, head?_cons]
  simp only [invokeDispatchRecord, queue, foldl_cons, foldl_nil, invokeDispatchQueueEntry,
    finishDispatchQueueCanaryEventContext, createDispatchQueueCanaryEventContext, head, countEntry, event,
    processing, entered]

end DispatchState

/-- Between two records a stopped event is the current one, or another event has come after it. -/
structure Between {World : Type} (records : List EventDispatchRecord) (recordIndex : Nat)
    (state : DispatchState World) : Prop where
  settled : Settled records (calls state.invocationRecords) recordIndex 0
  currentTarget : state.currentTarget = none
  stopped : ∀ event, state.propagation.nativeEvent = some event →
    (state.propagation.propagationStopped = true ↔
      ∃ stop ∈ calls state.invocationRecords, stop.Stops event)
  slot : ∀ event, state.propagation.nativeEvent = some event →
    state.propagation.propagationStopped = true → state.propagation.stoppedNativeEvent = some event
  source : ∀ event, state.propagation.stoppedNativeEvent = some event →
    ∃ stop ∈ calls state.invocationRecords, stop.Stops event
  together : ∀ stop ∈ calls state.invocationRecords, ∀ event, stop.Stops event →
    state.propagation.nativeEvent = some event ∨
      ∃ middle between, stop.dispatchRecordIndex < middle ∧ middle < recordIndex ∧
        records[middle]? = some between ∧ between.Listens ∧ between.nativeEvent ≠ event

namespace Between

variable {recordIndex : Nat} {state : DispatchState World}

theorem new (world : World) : Between records 0 (new world) where
  settled := Settled.new
  currentTarget := rfl
  stopped := by simp [DispatchState.new, PropagationState.new]
  slot := by simp [DispatchState.new, PropagationState.new]
  source := by simp [DispatchState.new, PropagationState.new]
  together := by simp [DispatchState.new, calls]

section

variable (between : Between records recordIndex state) (together : KeepsEventsTogether records)
  (found : records[recordIndex]? = some record)
include between together found

theorem nativeEvent_of_stops (listens : record.Listens) {stop : InvocationRecord}
    (member : stop ∈ calls state.invocationRecords) (stops : stop.Stops record.nativeEvent) :
    state.propagation.nativeEvent = some record.nativeEvent := by
  rcases between.together stop member record.nativeEvent stops with
    current | ⟨middle, other, below, above, otherFound, otherListens, otherEvent⟩
  · exact current
  · obtain ⟨opening, openingFound, openingListens, openingEvent⟩ := between.settled.event_of_mem member
    have sameEvent := openingEvent.symm.trans stops.1
    have contradiction := together _ _ _ below above opening other record openingFound otherFound found
      openingListens otherListens listens sameEvent
    exact absurd (contradiction.trans sameEvent) otherEvent

/-- The event context of a record reads off whether the record's event has been stopped. -/
theorem propagating_entered (listens : record.Listens) :
    Propagating (calls state.invocationRecords) record.processingListeners recordIndex 0
      record.nativeEvent none (state.entered record) where
  currentTarget := rfl
  nativeEvent := rfl
  stopped := by
    simp only [entered, PropagationState.enterNativeEvent]
    constructor
    · intro stopped
      split at stopped
      · exact absurd stopped Bool.false_ne_true
      · exact between.source _ (not_not.mp ‹_›)
    · rintro ⟨stop, member, stops⟩
      have current := between.nativeEvent_of_stops together found listens member stops
      have stopped := (between.stopped _ current).mpr ⟨stop, member, stops⟩
      rw [if_neg (not_not.mpr (between.slot _ current stopped)), stopped]
  slot := by
    simp only [entered, PropagationState.enterNativeEvent]
    intro stopped
    split at stopped
    · exact absurd stopped Bool.false_ne_true
    · exact not_not.mp ‹_›
  source := between.source
  previous := by
    intro stop member _
    rcases between.settled.before stop member with below | ⟨_, below⟩
    · exact .inl ⟨below, rfl⟩
    · exact absurd below (not_lt_zero _)

/-- Each record keeps the state and the calls in step. -/
theorem invokeDispatchRecord :
    Between records (recordIndex + 1)
      (invokeDispatchRecord behaviour state (record, recordIndex)) := by
  by_cases listens : record.Listens
  · rw [invokeDispatchRecord_of_listens listens]
    obtain ⟨laterIndex, laterInstance, settled, propagating⟩ :=
      invokeListeners_settled behaviour found record.processingListeners 0 none
        (state.entered record) rfl between.settled
        (between.propagating_entered together found listens)
    constructor
    · exact settled
    · rfl
    · intro event current
      obtain rfl := some.inj (propagating.nativeEvent.symm.trans current)
      exact propagating.stopped
    · intro event current
      obtain rfl := some.inj (propagating.nativeEvent.symm.trans current)
      exact propagating.slot
    · exact propagating.source
    · intro stop member event stops
      by_cases same : record.nativeEvent = event
      · exact .inl (same ▸ propagating.nativeEvent)
      · refine .inr ⟨recordIndex, record, ?_, lt_succ_self _, found, listens, same⟩
        obtain ⟨opening, openingFound, _, openingEvent⟩ := settled.event_of_mem member
        have notOwn : stop.dispatchRecordIndex ≠ recordIndex := by
          intro own
          rw [own, found] at openingFound
          obtain rfl := some.inj openingFound
          exact same (openingEvent.symm.trans stops.1)
        rcases settled.before stop member with below | ⟨_, below⟩
        · omega
        · omega
  · rw [invokeDispatchRecord_of_silent listens]
    refine { between with settled := between.settled.leave ?_, together := ?_ }
    · intro other otherFound later _ inRange
      obtain rfl := some.inj (otherFound.symm.trans found)
      exact absurd (ne_nil_of_length_pos (lt_of_le_of_lt (zero_le _) inRange)) listens
    · intro stop member event stops
      rcases between.together stop member event stops with current | ⟨middle, other, below, above, rest⟩
      · exact .inl current
      · exact .inr ⟨middle, other, below, by omega, rest⟩

end

end Between

/-- What each record keeps holds after all of them. -/
theorem dispatched_of_records {World : Type} (records : List EventDispatchRecord)
    (behaviour : ListenerBehaviour World) (world : World) (holds : Nat → DispatchState World → Prop)
    (start : holds 0 (.new world))
    (step : ∀ recordIndex record state, records[recordIndex]? = some record → holds recordIndex state →
      holds (recordIndex + 1) (invokeDispatchRecord behaviour state (record, recordIndex))) :
    holds records.length (invokeDispatchQueueCanaryFromDispatchRecords records behaviour world) := by
  have fromIndex : ∀ (rest : List EventDispatchRecord) (recordIndex : Nat) (state : DispatchState World),
      records.drop recordIndex = rest → holds recordIndex state →
      holds (recordIndex + rest.length)
        ((rest.zipIdx recordIndex).foldl (invokeDispatchRecord behaviour) state) := by
    intro rest
    induction rest with
    | nil =>
      intro recordIndex state _ held
      exact held
    | cons record rest ih =>
      intro recordIndex state dropped held
      have found : records[recordIndex]? = some record := by rw [← head?_drop, dropped, head?_cons]
      have restDropped : records.drop (recordIndex + 1) = rest := by
        rw [← tail_drop, dropped, tail_cons]
      have held := ih (recordIndex + 1) _ restDropped (step recordIndex record state found held)
      rw [zipIdx_cons, foldl_cons, length_cons, Nat.add_comm rest.length, ← Nat.add_assoc]
      exact held
  have held := fromIndex records 0 (.new world) rfl start
  rwa [Nat.zero_add] at held

/-- Two runs differ in the completions they record and in nothing the dispatch looks at. -/
structure SameDispatch {World : Type} (state other : DispatchState World) : Prop where
  propagation : state.propagation = other.propagation
  currentTarget : state.currentTarget = other.currentTarget
  world : state.world = other.world
  places : (calls state.invocationRecords).map InvocationRecord.place =
    (calls other.invocationRecords).map InvocationRecord.place

namespace SameDispatch

variable {recordIndex : Nat} {state other : DispatchState World}

theorem invoke (same : SameDispatch state other) (listenerIndex : Nat)
    (listenerRecord : DispatchListenerRecord) :
    SameDispatch
      (state.invokeDispatchListenerRecordForCanary behaviour record recordIndex listenerIndex listenerRecord)
      (other.invokeDispatchListenerRecordForCanary behaviour.returning record recordIndex listenerIndex
        listenerRecord) := by
  have sameEvent :
      (state.prepareDispatchQueueCanaryEventForListener listenerRecord).canaryEvent record =
        (other.prepareDispatchQueueCanaryEventForListener listenerRecord).canaryEvent record := by
    simp only [canaryEvent, prepareDispatchQueueCanaryEventForListener, same.propagation]
  constructor
  · simp only [invokeDispatchListenerRecordForCanary, recordInvocation,
      resetDispatchQueueCanaryEventAfterListener, callListener,
      ListenerBehaviour.returning, sameEvent]
    simp only [prepareDispatchQueueCanaryEventForListener, same.propagation, same.world]
  · rfl
  · simp only [invokeDispatchListenerRecordForCanary, recordInvocation,
      resetDispatchQueueCanaryEventAfterListener, callListener,
      ListenerBehaviour.returning, sameEvent]
    simp only [prepareDispatchQueueCanaryEventForListener, same.world]
  · obtain ⟨call, invoked, _⟩ := invokes behaviour record recordIndex listenerIndex
      listenerRecord state
    obtain ⟨otherCall, otherInvoked, _⟩ := invokes behaviour.returning record recordIndex
      listenerIndex listenerRecord other
    rw [invoked.calls_eq, otherInvoked.calls_eq, map_append, map_append, same.places]
    simp [place, invoked.recordIndex_eq, invoked.listenerIndex_eq,
      otherInvoked.recordIndex_eq, otherInvoked.listenerIndex_eq]

theorem invokeListeners (behaviour : ListenerBehaviour World) (record : EventDispatchRecord)
    (recordIndex : Nat) (rest : List DispatchListenerRecord) (listenerIndex : Nat)
    (previousInstance : Option HostInstanceToken) (same : SameDispatch state other) :
    SameDispatch
      (invokeListeners behaviour record recordIndex rest listenerIndex previousInstance state)
      (invokeListeners behaviour.returning record recordIndex rest listenerIndex
        previousInstance other) := by
  induction rest generalizing listenerIndex previousInstance state other with
  | nil => exact same
  | cons listenerRecord rest ih =>
    have sameSkip :
        state.shouldSkipDispatchListenerForPropagationStop listenerRecord previousInstance =
          other.shouldSkipDispatchListenerForPropagationStop listenerRecord previousInstance := by
      rw [shouldSkipDispatchListenerForPropagationStop, same.propagation]
      rfl
    rw [invokeListeners, invokeListeners, sameSkip]
    split
    · refine { same with places := ?_ }
      simpa [skipDispatchListener, calls] using same.places
    · exact ih _ _ (same.invoke listenerIndex listenerRecord)

theorem invokeDispatchRecord (same : SameDispatch state other) :
    SameDispatch
      (invokeDispatchRecord behaviour state (record, recordIndex))
      (invokeDispatchRecord behaviour.returning other (record, recordIndex)) := by
  by_cases listens : record.Listens
  · rw [invokeDispatchRecord_of_listens listens, invokeDispatchRecord_of_listens listens]
    have entered : SameDispatch (state.entered record) (other.entered record) :=
      { same with
        propagation := by simp only [entered, same.propagation]
        currentTarget := rfl }
    have after := entered.invokeListeners behaviour record recordIndex record.processingListeners 0 none
    exact { after with
      propagation := by
        simp only [resetDispatchQueueCanaryEventAfterListener, after.propagation]
      currentTarget := rfl }
  · rw [invokeDispatchRecord_of_silent listens, invokeDispatchRecord_of_silent listens]
    exact same

end SameDispatch

/-- What a listener throws has no influence on which listeners are called. -/
theorem calls_returning {World : Type} (records : List EventDispatchRecord)
    (behaviour : ListenerBehaviour World) (world : World) :
    (calls (invokeDispatchQueueCanaryFromDispatchRecords records behaviour world).invocationRecords).map
        place =
      (calls (invokeDispatchQueueCanaryFromDispatchRecords records behaviour.returning
        world).invocationRecords).map place := by
  have throughout : ∀ (indexed : List (EventDispatchRecord × Nat)) (state other : DispatchState World),
      SameDispatch state other →
      SameDispatch (indexed.foldl (invokeDispatchRecord behaviour) state)
        (indexed.foldl (invokeDispatchRecord behaviour.returning) other) := by
    intro indexed
    induction indexed with
    | nil =>
      intro state other same
      exact same
    | cons first rest ih =>
      intro state other same
      exact ih _ _ same.invokeDispatchRecord
  exact (throughout records.zipIdx (.new world) (.new world) ⟨rfl, rfl, rfl, rfl⟩).places

theorem dispatchesInOrder_of_together {World : Type} {records : List EventDispatchRecord}
    (together : KeepsEventsTogether records) (behaviour : ListenerBehaviour World) (world : World) :
    DispatchesInOrder records behaviour world
      (invokeDispatchQueueCanaryFromDispatchRecords records behaviour world).invocationRecords := by
  have settled := (dispatched_of_records records behaviour world (Between records) (Between.new world)
    fun _ _ _ found between => between.invokeDispatchRecord together found).settled
  constructor
  · exact settled.placed
  · exact settled.onceInOrder
  · apply settled.onceInOrder.imp_of_mem
    intro earlier later earlierMember laterMember precedes sameRecord
    obtain ⟨record, found, earlierPlaced⟩ := settled.placed earlier earlierMember
    obtain ⟨other, otherFound, laterPlaced⟩ := settled.placed later laterMember
    obtain rfl := some.inj ((sameRecord ▸ found).symm.trans otherFound)
    have below : earlier.listenerIndex < later.listenerIndex := by
      rcases precedes with below | ⟨_, below⟩
      · omega
      · exact below
    rw [(of_mem_processingListeners (mem_of_getElem? laterPlaced)).2]
    obtain ⟨earlierBound, earlierListed⟩ := List.getElem?_eq_some_iff.mp earlierPlaced
    obtain ⟨laterBound, laterListed⟩ := List.getElem?_eq_some_iff.mp laterPlaced
    have ordered := pairwise_iff_getElem.mp record.pairwise_processingListeners _ _ earlierBound
      laterBound below
    rwa [earlierListed, laterListed] at ordered
  · intro recordIndex listenerIndex record found
    exact settled.calledUnlessStopped recordIndex listenerIndex record
      (.inl (List.getElem?_eq_some_iff.mp found).1) found
  · exact settled.currentTarget
  · exact calls_returning records behaviour world

def stopsAlways : ListenerBehaviour Unit :=
  fun _ _ world => { completion := .returned, stopPropagationCalls := 1, world := world }

/-- The calls grow by calls that stop their event, and the slot keeps the event once it holds it. -/
structure StopsOnly (event : NativeEvent) (state after : DispatchState Unit) : Prop where
  calls_eq : ∃ more, calls after.invocationRecords = calls state.invocationRecords ++ more ∧
    ∀ call ∈ more, 0 < call.propagationStopCallCountDelta
  nativeEvent : after.propagation.nativeEvent = some event
  slot : state.propagation.stoppedNativeEvent = some event →
    after.propagation.stoppedNativeEvent = some event

namespace DispatchState

variable {recordIndex : Nat}
variable {state : DispatchState Unit} {event : NativeEvent}

theorem invokes_stopsAlways (record : EventDispatchRecord) (recordIndex : Nat)
    (current : state.propagation.nativeEvent = some event) (listenerIndex : Nat)
    (listenerRecord : DispatchListenerRecord) : let after :=
      state.invokeDispatchListenerRecordForCanary stopsAlways record recordIndex listenerIndex listenerRecord
    StopsOnly event state after ∧ after.propagation.stoppedNativeEvent = some event ∧
      (recordIndex, listenerIndex) ∈ (calls after.invocationRecords).map place := by
  obtain ⟨call, invoked, delta⟩ := invokes stopsAlways record recordIndex listenerIndex listenerRecord state
  have stops : 0 < call.propagationStopCallCountDelta := by
    rw [delta]
    exact Nat.one_pos
  have slot := invoked.slot_eq
  rw [if_pos stops, current] at slot
  refine ⟨⟨⟨[call], invoked.calls_eq, by simpa using stops⟩, invoked.nativeEvent_eq.trans current,
    fun _ => slot⟩, slot, ?_⟩
  rw [invoked.calls_eq]
  apply List.mem_map.mpr
  refine ⟨call, by simp, ?_⟩
  rw [place, invoked.recordIndex_eq, invoked.listenerIndex_eq]

theorem invokeListeners_stopsAlways (record : EventDispatchRecord) (recordIndex : Nat)
    (rest : List DispatchListenerRecord) (listenerIndex : Nat)
    (previousInstance : Option HostInstanceToken)
    (current : state.propagation.nativeEvent = some event) :
    StopsOnly event state
      (invokeListeners stopsAlways record recordIndex rest listenerIndex previousInstance state) := by
  induction rest generalizing listenerIndex previousInstance state with
  | nil => exact ⟨⟨[], by simp [invokeListeners], by simp⟩, current, id⟩
  | cons listenerRecord rest ih =>
    rw [invokeListeners]
    split
    · exact ⟨⟨[], by simp [skipDispatchListener, calls], by simp⟩, current, id⟩
    · obtain ⟨⟨⟨first, firstCalls, firstStops⟩, firstEvent, firstSlot⟩, _, _⟩ :=
        invokes_stopsAlways record recordIndex current listenerIndex listenerRecord
      obtain ⟨⟨more, moreCalls, moreStops⟩, lastEvent, lastSlot⟩ :=
        ih (listenerIndex + 1) (some listenerRecord.targetInst) firstEvent
      refine ⟨⟨first ++ more, ?_, ?_⟩, lastEvent, fun held => lastSlot (firstSlot held)⟩
      · rw [moreCalls, firstCalls, append_assoc]
      · intro call member
        rcases mem_append.mp member with inFirst | inMore
        · exact firstStops call inFirst
        · exact moreStops call inMore

/-- A listening record ends with its event in the slot, and calls a listener unless the slot held it. -/
theorem invokeDispatchRecord_stopsAlways (recordIndex : Nat) (state : DispatchState Unit)
    (listens : record.Listens) :
    let after := invokeDispatchRecord stopsAlways state (record, recordIndex)
    (∃ more, calls after.invocationRecords = calls state.invocationRecords ++ more ∧
      ∀ call ∈ more, 0 < call.propagationStopCallCountDelta) ∧
    after.propagation.stoppedNativeEvent = some record.nativeEvent ∧
    (state.propagation.stoppedNativeEvent ≠ some record.nativeEvent →
      (recordIndex, 0) ∈ (calls after.invocationRecords).map place) := by
  intro after
  have after_eq : after = _ := invokeDispatchRecord_of_listens listens
  obtain ⟨first, rest, split⟩ := exists_cons_of_ne_nil listens
  by_cases held : state.propagation.stoppedNativeEvent = some record.nativeEvent
  · have current : (state.entered record).propagation.nativeEvent = some record.nativeEvent := rfl
    have only :=
      invokeListeners_stopsAlways record recordIndex record.processingListeners 0 none current
    rw [after_eq]
    exact ⟨only.calls_eq, only.slot held, fun other => absurd held other⟩
  · have current : (state.entered record).propagation.nativeEvent = some record.nativeEvent := rfl
    have runs : (state.entered record).shouldSkipDispatchListenerForPropagationStop first none = false := by
      simp [shouldSkipDispatchListenerForPropagationStop, entered, PropagationState.enterNativeEvent, held]
    obtain ⟨⟨⟨firstCalls, firstCalls_eq, firstStops⟩, firstEvent, _⟩, slot, called⟩ :=
      invokes_stopsAlways record recordIndex current 0 first
    obtain ⟨⟨more, more_eq, moreStops⟩, _, keepsSlot⟩ :=
      invokeListeners_stopsAlways record recordIndex rest 1 (some first.targetInst) firstEvent
    rw [after_eq, split, invokeListeners, runs]
    refine ⟨⟨firstCalls ++ more, ?_, ?_⟩, keepsSlot slot, fun _ => ?_⟩
    · exact more_eq.trans (by rw [firstCalls_eq, append_assoc]; rfl)
    · intro call member
      rcases mem_append.mp member with inFirst | inMore
      · exact firstStops call inFirst
      · exact moreStops call inMore
    · have grown := congrArg (map place) more_eq
      rw [map_append] at grown
      exact grown ▸ mem_append_left _ called

end DispatchState

/-- When an event returns after another one, its first listener is called in spite of an earlier stop. -/
theorem not_dispatchesInOrder_of_returning {records : List EventDispatchRecord}
    {first middle last : Nat} {opening between closing : EventDispatchRecord}
    (below : first < middle) (above : middle < last) (openingFound : records[first]? = some opening)
    (betweenFound : records[middle]? = some between) (closingFound : records[last]? = some closing)
    (openingListens : opening.Listens) (betweenListens : between.Listens)
    (closingListens : closing.Listens) (sameEvent : opening.nativeEvent = closing.nativeEvent)
    (otherEvent : between.nativeEvent ≠ opening.nativeEvent) :
    ¬ DispatchesInOrder records stopsAlways ()
      (invokeDispatchQueueCanaryFromDispatchRecords records stopsAlways ()).invocationRecords := by
  intro inOrder
  have returns : ∃ index, middle < index ∧ ∃ record, records[index]? = some record ∧ record.Listens ∧
      record.nativeEvent = opening.nativeEvent :=
    ⟨last, above, closing, closingFound, closingListens, sameEvent.symm⟩
  classical
  obtain ⟨returnIndex, ⟨afterMiddle, returning, returningFound, returningListens, returningEvent⟩, least⟩ :
      ∃ index, (middle < index ∧ ∃ record, records[index]? = some record ∧ record.Listens ∧
        record.nativeEvent = opening.nativeEvent) ∧
        ∀ earlier, earlier < index → ¬ (middle < earlier ∧ ∃ record, records[earlier]? = some record ∧
          record.Listens ∧ record.nativeEvent = opening.nativeEvent) :=
    ⟨Nat.find returns, Nat.find_spec returns, fun _ => Nat.find_min returns⟩
  -- From the middle record on the slot does not hold the event until it returns.
  have ran := dispatched_of_records records stopsAlways ()
    (fun index state =>
      (middle < index → index ≤ returnIndex →
        state.propagation.stoppedNativeEvent ≠ some opening.nativeEvent) ∧
      (returnIndex < index → (returnIndex, 0) ∈ (calls state.invocationRecords).map place) ∧
      ∀ call ∈ calls state.invocationRecords, 0 < call.propagationStopCallCountDelta)
    ⟨fun impossible => absurd impossible (not_lt_zero _),
      fun impossible => absurd impossible (not_lt_zero _),
      by simp [new, calls]⟩
    (by
      intro index record state found ⟨slot, called, stops⟩
      by_cases listens : record.Listens
      · obtain ⟨⟨more, grown, moreStops⟩, newSlot, firstCalled⟩ :=
          invokeDispatchRecord_stopsAlways index state listens
        refine ⟨?_, ?_, ?_⟩
        · intro afterMiddle notAfter holds
          rw [newSlot] at holds
          have event := some.inj holds
          rcases lt_or_eq_of_le (le_of_lt_succ afterMiddle) with later | rfl
          · exact least index notAfter ⟨later, record, found, listens, event⟩
          · obtain rfl := some.inj (found.symm.trans betweenFound)
            exact otherEvent event
        · intro reached
          rcases lt_or_eq_of_le (le_of_lt_succ reached) with later | rfl
          · rw [grown, map_append]
            exact mem_append_left _ (called later)
          · obtain rfl := some.inj (found.symm.trans returningFound)
            exact firstCalled (returningEvent ▸ slot afterMiddle (le_refl _))
        · intro call member
          rcases mem_append.mp (grown ▸ member) with old | new
          · exact stops call old
          · exact moreStops call new
      · rw [invokeDispatchRecord_of_silent listens]
        refine ⟨?_, ?_, stops⟩
        · intro afterMiddle notAfter
          rcases lt_or_eq_of_le (le_of_lt_succ afterMiddle) with later | rfl
          · exact slot later (by omega)
          · obtain rfl := some.inj (found.symm.trans betweenFound)
            exact absurd betweenListens listens
        · intro reached
          rcases lt_or_eq_of_le (le_of_lt_succ reached) with later | rfl
          · exact called later
          · obtain rfl := some.inj (found.symm.trans returningFound)
            exact absurd returningListens listens)
  obtain ⟨_, called, stops⟩ := ran
  have inRange := (List.getElem?_eq_some_iff.mp returningFound).1
  have reachesReturning := (inOrder.calledUnlessStopped returnIndex 0 returning returningFound
    (List.length_pos_of_ne_nil returningListens)).mp (called inRange)
  -- No call of the event comes before the returning record, so the opening one is reached as well.
  have reachesOpening : PropagatesTo
      (calls (invokeDispatchQueueCanaryFromDispatchRecords records stopsAlways ()).invocationRecords)
      opening first 0 := by
    intro stop member stopsEvent before
    have bound : stop.dispatchRecordIndex < returnIndex := by
      rcases before with earlier | ⟨_, earlier⟩
      · omega
      · exact absurd earlier (not_lt_zero _)
    have excused := reachesReturning stop member (returningEvent ▸ stopsEvent) (.inl bound)
    exact absurd excused.1 (by omega)
  obtain ⟨stop, member, place⟩ := mem_map.mp ((inOrder.calledUnlessStopped first 0 opening openingFound
    (List.length_pos_of_ne_nil openingListens)).mpr reachesOpening)
  simp only [InvocationRecord.place, Prod.mk.injEq] at place
  obtain ⟨record, found, placed⟩ := inOrder.placed stop member
  obtain rfl := some.inj ((place.1 ▸ found).symm.trans openingFound)
  have event := (of_mem_processingListeners (List.mem_of_getElem? placed)).1
  have excused := reachesReturning stop member ⟨event.trans returningEvent.symm, stops stop member⟩
    (.inl (by omega))
  exact absurd (place.1.symm.trans excused.1) (by omega)

/-- A record of an event with one listener on one instance. -/
def clickRecord (phase : EventPhase) (event : NativeEvent) : EventDispatchRecord where
  phase := phase
  nativeEvent := event
  targetDispatchPath := [{
    targetHostInstanceNode := 7
    targetHostInstanceToken := 8
    queueListeners := []
    propsListener := some 9 }]

end FastReact
