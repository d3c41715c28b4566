import FastReact.BridgeHandleTableRuns
import FastReact.NativeRootRequests

namespace FastReact

open ErrorState List

/-!
# Batches of request records

The records of a batch are admitted to a table of their own and validated against it.  A
value handle may be used once in a batch: used handles are compared as a whole, while the
table finds a record by slot and generation.
-/

inductive BatchLifecycleError where
  | request (error : NativeRootBridgeRequestError)
  | reusedValueHandle (valueHandle : BridgeHandle)
  | executorGenerationExhausted
deriving DecidableEq

inductive HandleAdmissionAction where
  | admitRoot
  | admitValue
  | validateActiveRoot
  | validateValue
  | retireRoot
deriving DecidableEq

structure HandleTableAdmissionRecord where
  request : NativeRootBridgeRequestRecord
  lifecycleTransition : NativeRootBridgeLifecycleTransition
  rootHandleStateBefore : Option NativeRootBridgeRootHandleState
  rootHandleStateAfter : NativeRootBridgeRootHandleState
  rootHandleAction : HandleAdmissionAction
  rootHandleCurrentGeneration : Nat
  valueHandleAction : Option HandleAdmissionAction
  valueHandleCurrentGeneration : Option Nat
  retiredRootSourceError : Option BridgeHandleTableError
deriving DecidableEq

def valueHandoffAdmissionAction (admission : BridgeHandleAdmission) : HandleAdmissionAction :=
  match admission.outcome with
  | .admitted => .admitValue
  | .validated => .validateValue

section Admission

variable (request : NativeRootBridgeRequestRecord)
  (rootHandleStateBefore : Option NativeRootBridgeRootHandleState)

abbrev HandoffM := EStateM NativeRootBridgeRequestError BridgeHandleTable

def preflightHandoffSequenceAdmission : Except NativeRootBridgeRequestError Unit :=
  match rootHandleStateBefore with
  | none =>
      if request.kind = .create then .ok ()
      else .error (.sequenceMustStartWithCreate request.kind)
  | some .active =>
      if request.kind = .create then .error (.createAfterRootCreated request.requestId)
      else .ok ()
  | some .retired => .error (.requestAfterUnmount request.requestId)

def admitOptionalValueHandle : HandoffM (Option BridgeHandleAdmission) :=
  match request.valueHandle with
  | none => return none
  | some valueHandle => do
      return some (← mapError .handleTable
        (admitValueHandoffHandle valueHandle ⟨request.requestId⟩))

def admitCreateRecord : HandoffM HandleTableAdmissionRecord := do
  query fun _ => validateRootHandleState request .active
  let root ← mapError .handleTable (admitRootHandoffHandle request.rootHandle ⟨request.rootId⟩)
  let value ← admitOptionalValueHandle request
  return ⟨request, .noneToActive, rootHandleStateBefore, .active, .admitRoot,
    root.currentGeneration, value.map valueHandoffAdmissionAction,
    value.map (·.currentGeneration), none⟩

def admitRenderRecord : HandoffM HandleTableAdmissionRecord := do
  query fun _ => validateRootHandleState request .active
  let root ← query fun table => askTable (table.getRoot request.rootHandle)
  query fun _ => validateRootId request root.rootId
  let value ← admitOptionalValueHandle request
  return ⟨request, .activeToActive, rootHandleStateBefore, .active, .validateActiveRoot,
    request.rootHandle.generation, value.map valueHandoffAdmissionAction,
    value.map (·.currentGeneration), none⟩

def retiredRootGeneration (table : BridgeHandleTable) : Except NativeRootBridgeRequestError Nat :=
  match table.getRoot request.rootHandle with
  | .ok _ => .error (.rootHandleStillActive request.rootHandle)
  | .error (.staleHandle _ currentGeneration) => .ok currentGeneration
  | .error error => .error (.handleTable error)

def admitUnmountRecord : HandoffM HandleTableAdmissionRecord := do
  query fun _ => validateRootHandleState request .retired
  query fun _ => match request.valueHandle with
    | some valueHandle => .error (.unexpectedValueHandle request.kind valueHandle)
    | none => .ok ()
  let root ← query fun table => askTable (table.getRoot request.rootHandle)
  query fun _ => validateRootId request root.rootId
  let _ ← mapError .handleTable (removeRoot request.rootHandle)
  let currentGeneration ← query (retiredRootGeneration request)
  return ⟨request, .activeToRetired, rootHandleStateBefore, .retired, .retireRoot,
    currentGeneration, none, none, some (.staleHandle request.rootHandle currentGeneration)⟩

def admitJsNativeRootBridgeHandoffRecord : HandoffM HandleTableAdmissionRecord := do
  query fun table => validateRecordEnvironment table request
  query fun _ => preflightHandoffSequenceAdmission request rootHandleStateBefore
  match request.kind with
  | .create => admitCreateRecord request rootHandleStateBefore
  | .render => admitRenderRecord request rootHandleStateBefore
  | .unmount => admitUnmountRecord request rootHandleStateBefore

end Admission

def prevalidateHandoffLifecycle (validator : NativeRootBridgeRequestSequenceValidator)
    (request : NativeRootBridgeRequestRecord) : Except NativeRootBridgeRequestError Unit := do
  validator.validateRequestOrder request.requestId
  if validator.rootRetired then
    .error (.requestAfterUnmount request.requestId)
  else if validator.root.isSome ∧ request.kind = .create then
    .error (.createAfterRootCreated request.requestId)
  else if validator.root = none ∧ request.kind ≠ .create then
    .error (.sequenceMustStartWithCreate request.kind)
  else
    .ok ()

/-- The executor between two records; its reports that follow from these are left out. -/
structure LifecycleExecution where
  table : BridgeHandleTable
  validator : NativeRootBridgeRequestSequenceValidator
  rootHandleState : Option NativeRootBridgeRootHandleState
  consumedValueHandles : List BridgeHandle
  admissionRecords : List HandleTableAdmissionRecord
  validationRecords : List NativeRootBridgeRequestValidationRecord

def LifecycleExecution.new (environmentId : BridgeEnvironmentId) : LifecycleExecution :=
  ⟨.new environmentId, .new, none, [], [], []⟩

def validateExecutorValueHandleNotReused (consumedValueHandles : List BridgeHandle)
    (request : NativeRootBridgeRequestRecord) : Except BatchLifecycleError (List BridgeHandle) :=
  match request.valueHandle with
  | none => .ok consumedValueHandles
  | some valueHandle =>
      if valueHandle ∈ consumedValueHandles then .error (.reusedValueHandle valueHandle)
      else .ok (valueHandle :: consumedValueHandles)

def executeLifecycleRequest (execution : LifecycleExecution)
    (request : NativeRootBridgeRequestRecord) : Except BatchLifecycleError LifecycleExecution := do
  (prevalidateHandoffLifecycle execution.validator request).mapError .request
  let consumed ← validateExecutorValueHandleNotReused execution.consumedValueHandles request
  match (admitJsNativeRootBridgeHandoffRecord request execution.rootHandleState).run
      execution.table with
  | .error error _ => .error (.request error)
  | .ok admission table =>
      match (validateNext table request).run execution.validator with
      | .error error _ => .error (.request error)
      | .ok validation validator =>
          .ok ⟨table, validator, some validation.rootHandleState, consumed,
            execution.admissionRecords ++ [admission],
            execution.validationRecords ++ [validation]⟩

/-- The environment of a batch is that of its first record.  Generations of executors are
numbers of 64 bits. -/
def executeNativeRootBridgeJsonBatchLifecycleRequests (executorGeneration : Nat)
    (requests : List NativeRootBridgeRequestRecord) :
    Except BatchLifecycleError LifecycleExecution :=
  if bridgeGenerationBound ≤ executorGeneration + 1 then
    .error .executorGenerationExhausted
  else
    requests.foldlM executeLifecycleRequest
      (.new (requests.head?.elim .none (·.environmentId)))

def valueHandles (requests : List NativeRootBridgeRequestRecord) : List BridgeHandle :=
  requests.filterMap (·.valueHandle)

/-- No two records have value handles of one slot and generation, and every value is
admitted as a new one. -/
def ConsumesEachValueOnce (requests : List NativeRootBridgeRequestRecord)
    (execution : LifecycleExecution) : Prop :=
  ((valueHandles requests).map (·.key)).Nodup ∧
    ∀ record ∈ execution.admissionRecords, ∀ action, record.valueHandleAction = some action →
      action = .admitValue

open BridgeHandleTable

/-- An admission leaves the values that were held and its own, which is new unless one was
held under its key. -/
structure AdmitsValue (table after : BridgeHandleTable) (valueHandle : Option BridgeHandle)
    (action : Option HandleAdmissionAction) : Prop where
  environmentId : after.environmentId = table.environmentId
  sameEnvironment : ∀ handle, valueHandle = some handle →
    handle.environmentId = table.environmentId
  held : ∀ key record, after.Holds key (.value record) → table.Holds key (.value record) ∨
    ∃ handle, valueHandle = some handle ∧ handle.key = key
  validated : ∀ action', action = some action' → action' = .admitValue ∨
    ∃ handle record, valueHandle = some handle ∧ table.Holds handle.key (.value record)

variable {table between after : BridgeHandleTable} {handle : BridgeHandle}
  {valueHandle : Option BridgeHandle} {action : Option HandleAdmissionAction}
  {request : NativeRootBridgeRequestRecord}
  {rootHandleStateBefore : Option NativeRootBridgeRootHandleState}

theorem AdmitsValue.after_kept (admits : AdmitsValue between after valueHandle action)
    (environmentId : between.environmentId = table.environmentId)
    (kept : ∀ key record, between.Holds key (.value record) → table.Holds key (.value record)) :
    AdmitsValue table after valueHandle action where
  environmentId := admits.environmentId.trans environmentId
  sameEnvironment := by
    rw [← environmentId]
    exact admits.sameEnvironment
  held := fun key record holds => (admits.held key record holds).imp_left (kept key record)
  validated := fun action same => (admits.validated action same).imp_right
    fun ⟨handle, record, named, holds⟩ => ⟨handle, record, named, kept _ record holds⟩

theorem holds_of_admitHandoffRecord {record : BridgeRecord} {admission : BridgeHandleAdmission}
    (ran : (admitHandoffRecord handle record record.kind).run table = .ok admission after) :
    handle.environmentId = table.environmentId ∧ after.environmentId = table.environmentId ∧
      (∀ key held, after.Holds key held → table.Holds key held ∨ key = handle.key ∧ held = record) ∧
      (admission.outcome = .admitted ∨
        ∃ held, table.Holds handle.key held ∧ held.kind = record.kind) := by
  have here : handle.environmentId = table.environmentId := by
    have checked := ran
    unfold admitHandoffRecord at checked
    obtain ⟨_, _, identity, -⟩ := run_bind_eq_ok_iff.mp checked
    exact (validateHandleIdentity_eq_ok_iff.mp (run_query_eq_ok_iff.mp identity).1).2
  refine ⟨here, ?_⟩
  rcases admitHandoffRecord_cases table handle record record.kind with
    ⟨_, _, failed, -⟩ | ⟨_, _, same, -, held, environmentId, kept⟩ |
      ⟨_, _, same, admitted, -, environmentId, storesAt⟩
  · cases failed.symm.trans ran
  · cases same.symm.trans ran
    exact ⟨environmentId, fun key held holds => .inl ((slotHolds_kept (kept key.1)).mp holds),
      .inr held⟩
  · cases same.symm.trans ran
    refine ⟨environmentId, fun key held holds => ?_, .inl admitted⟩
    by_cases own : key = handle.key
    · subst own
      exact .inr ⟨rfl, storesAt.holds_iff.mp holds⟩
    · exact .inl ((storesAt.holds_other own).mp holds)

theorem admitsValue_none (table : BridgeHandleTable) : AdmitsValue table table none none where
  environmentId := rfl
  sameEnvironment := nofun
  held := fun _ _ => .inl
  validated := nofun

theorem admitsValue_of_admitOptionalValueHandle {value : Option BridgeHandleAdmission}
    (ran : (admitOptionalValueHandle request).run table = .ok value after) :
    AdmitsValue table after request.valueHandle (value.map valueHandoffAdmissionAction) := by
  unfold admitOptionalValueHandle at ran
  cases named : request.valueHandle with
  | none =>
    rw [named] at ran
    cases ran
    exact admitsValue_none table
  | some handle =>
    rw [named] at ran
    obtain ⟨admission, between, admitted, done⟩ := run_bind_eq_ok_iff.mp ran
    cases done
    obtain ⟨here, environmentId, held, outcome⟩ :=
      holds_of_admitHandoffRecord (run_mapError_eq_ok_iff.mp admitted)
    refine ⟨environmentId, fun _ same => Option.some.inj same ▸ here, ?_, ?_⟩
    · intro key record holds
      exact (held key _ holds).imp_right fun own => ⟨handle, rfl, own.1.symm⟩
    · rintro _ ⟨⟩
      rcases outcome with new | ⟨record, holds, isValue⟩
      · exact .inl (by simp [valueHandoffAdmissionAction, new])
      · cases record with
        | root => cases isValue
        | value record => exact .inr ⟨handle, record, rfl, holds⟩

theorem admitsValue_of_admits {record : HandleTableAdmissionRecord}
    (ran : (admitJsNativeRootBridgeHandoffRecord request rootHandleStateBefore).run table =
      .ok record after) : AdmitsValue table after request.valueHandle record.valueHandleAction := by
  unfold admitJsNativeRootBridgeHandoffRecord at ran
  simp only [run_bind_eq_ok_iff, run_query_eq_ok_iff] at ran
  obtain ⟨_, _, ⟨-, rfl⟩, _, _, ⟨-, rfl⟩, ran⟩ := ran
  cases kind : request.kind with
  | create =>
    simp only [kind, admitCreateRecord, run_bind_eq_ok_iff, run_query_eq_ok_iff] at ran
    obtain ⟨_, _, ⟨-, rfl⟩, root, between, admitted, value, _, ran, done⟩ := ran
    cases done
    obtain ⟨-, environmentId, held, -⟩ :=
      holds_of_admitHandoffRecord (run_mapError_eq_ok_iff.mp admitted)
    refine (admitsValue_of_admitOptionalValueHandle ran).after_kept environmentId ?_
    intro key record holds
    exact (held key _ holds).resolve_right (by simp)
  | render =>
    simp only [kind, admitRenderRecord, run_bind_eq_ok_iff, run_query_eq_ok_iff] at ran
    obtain ⟨_, _, ⟨-, rfl⟩, root, _, ⟨-, rfl⟩, _, _, ⟨-, rfl⟩, value, _, ran, done⟩ := ran
    cases done
    exact admitsValue_of_admitOptionalValueHandle ran
  | unmount =>
    simp only [kind, admitUnmountRecord, run_bind_eq_ok_iff, run_query_eq_ok_iff] at ran
    obtain ⟨_, _, ⟨-, rfl⟩, _, _, ⟨noValue, rfl⟩, root, _, ⟨-, rfl⟩, _, _, ⟨-, rfl⟩, _, between,
      removed, _, _, ⟨-, rfl⟩, done⟩ := ran
    cases done
    have unnamed : request.valueHandle = none := by
      cases named : request.valueHandle with
      | none => rfl
      | some handle => simp [named] at noValue
    rw [unnamed]
    rcases removeRoot_cases table request.rootHandle with
      ⟨error, failed⟩ | ⟨entry, record, found, -, ran⟩
    · cases failed.symm.trans (run_mapError_eq_ok_iff.mp removed)
    · cases ran.symm.trans (run_mapError_eq_ok_iff.mp removed)
      refine (admitsValue_none _).after_kept rfl fun key record holds => ?_
      exact ((retiresAt_withSlot found (.inl rfl)).holds_iff.mp holds).1

/-- What the executor has come to behind a list of accepted records. -/
structure Executed (environmentId : BridgeEnvironmentId)
    (handled : List NativeRootBridgeRequestRecord) (execution : LifecycleExecution) : Prop where
  environment : execution.table.environmentId = environmentId
  consumed : ∀ handle, handle ∈ execution.consumedValueHandles ↔ handle ∈ valueHandles handled
  distinct : (valueHandles handled).Nodup
  sameEnvironment : ∀ handle ∈ valueHandles handled, handle.environmentId = environmentId
  held : ∀ key record, execution.table.Holds key (.value record) →
    key ∈ (valueHandles handled).map (·.key)
  admitted : ((valueHandles handled).map (·.key)).Nodup →
    ∀ record ∈ execution.admissionRecords, ∀ action, record.valueHandleAction = some action →
      action = .admitValue

variable {environmentId : BridgeEnvironmentId}
  {handled requests : List NativeRootBridgeRequestRecord} {execution next : LifecycleExecution}

theorem executed_new : Executed environmentId [] (.new environmentId) where
  environment := rfl
  consumed := by simp [LifecycleExecution.new, valueHandles]
  distinct := nodup_nil
  sameEnvironment := by simp [valueHandles]
  held := fun key record holds => absurd holds (not_holds_new environmentId key _)
  admitted := by simp [LifecycleExecution.new]

theorem Executed.snoc (executed : Executed environmentId handled execution)
    (ran : executeLifecycleRequest execution request = .ok next) :
    Executed environmentId (handled ++ [request]) next := by
  unfold executeLifecycleRequest at ran
  simp only [bind_eq_ok_iff] at ran
  obtain ⟨-, -, consumedHandles, unused, ran⟩ := ran
  cases admission : (admitJsNativeRootBridgeHandoffRecord request execution.rootHandleState).run
      execution.table with
  | error error table => simp [admission] at ran
  | ok record table =>
    cases validated : (validateNext table request).run execution.validator with
    | error error validator => simp [admission, validated] at ran
    | ok validation validator =>
      simp only [admission, validated, Except.ok.injEq] at ran
      subst ran
      have admits := admitsValue_of_admits admission
      obtain ⟨environment, consumed, distinct, sameEnvironment, held, admitted⟩ := executed
      unfold validateExecutorValueHandleNotReused at unused
      cases named : request.valueHandle with
      | none =>
        have same : valueHandles (handled ++ [request]) = valueHandles handled := by
          simp [valueHandles, named]
        rw [named] at unused admits
        cases unused
        refine ⟨admits.environmentId.trans environment, ?_, ?_, ?_, ?_, ?_⟩ <;> rw [same]
        · exact consumed
        · exact distinct
        · exact sameEnvironment
        · exact fun key value holds => held key value (by simpa using admits.held key value holds)
        · intro apart other member action taken
          rcases mem_append.mp member with earlier | own
          · exact admitted apart other earlier action taken
          · obtain rfl := mem_singleton.mp own
            simpa using admits.validated action taken
      | some handle =>
        have grows : valueHandles (handled ++ [request]) = valueHandles handled ++ [handle] := by
          simp [valueHandles, named]
        rw [named] at unused admits
        obtain ⟨fresh, rfl⟩ : handle ∉ execution.consumedValueHandles ∧
            handle :: execution.consumedValueHandles = consumedHandles := by
          simpa [guard_eq_ok_iff] using unused
        refine ⟨admits.environmentId.trans environment, ?_, ?_, ?_, ?_, ?_⟩ <;> rw [grows]
        · simp [consumed, or_comm]
        · rw [consumed] at fresh
          exact nodup_append.mpr ⟨distinct, by simp, by grind⟩
        · have here := (admits.sameEnvironment handle rfl).trans environment
          grind
        · intro key value holds
          rw [map_append, mem_append]
          rcases admits.held key value holds with before | ⟨_, ⟨⟩, own⟩
          · exact .inl (held key value before)
          · exact .inr (by simp [own])
        · intro apart other member action taken
          rw [map_append, nodup_append] at apart
          rcases mem_append.mp member with earlier | own
          · exact admitted apart.1 other earlier action taken
          · obtain rfl := mem_singleton.mp own
            rcases admits.validated action taken with new | ⟨_, value, ⟨⟩, holds⟩
            · exact new
            · exact absurd rfl (apart.2.2 _ (held _ _ holds) _ (by simp))

theorem executed_of_run (executed : Executed environmentId handled execution)
    (ran : requests.foldlM executeLifecycleRequest execution = .ok next) :
    Executed environmentId (handled ++ requests) next := by
  induction requests generalizing handled execution with
  | nil =>
    cases ran
    rwa [append_nil]
  | cons request rest ih =>
    rw [foldlM_cons, bind_eq_ok_iff] at ran
    obtain ⟨between, first, ran⟩ := ran
    simpa using ih (executed.snoc first) ran

/-- An accepted batch uses each value once exactly when its value handles of one slot and
generation have one kind. -/
theorem batch_consumes_values_once_iff
    {executorGeneration : Nat}
    {requests : List NativeRootBridgeRequestRecord}
    {execution : LifecycleExecution}
    (accepted : executeNativeRootBridgeJsonBatchLifecycleRequests executorGeneration requests =
      .ok execution) :
    ConsumesEachValueOnce requests execution ↔
      (valueHandles requests).Pairwise fun earlier later =>
        earlier.key = later.key → earlier.kind = later.kind := by
  unfold executeNativeRootBridgeJsonBatchLifecycleRequests at accepted
  have executed := executed_of_run executed_new (guard_eq_ok_iff.mp accepted).2
  rw [nil_append] at executed
  have keys : ((valueHandles requests).map (·.key)).Nodup ↔
      (valueHandles requests).Pairwise fun earlier later =>
        earlier.key = later.key → earlier.kind = later.kind := by
    rw [Nodup, pairwise_map]
    constructor
    · exact fun apart => apart.imp fun different same => absurd same different
    · intro sameKind
      refine (sameKind.and executed.distinct).imp_of_mem ?_
      intro earlier later here there both same
      have sameEnvironment := (executed.sameEnvironment earlier here).trans
        (executed.sameEnvironment later there).symm
      refine both.2 ?_
      cases earlier
      cases later
      simp_all [BridgeHandle.key]
  rw [← keys]
  exact ⟨fun once => once.1, fun apart => ⟨apart, executed.admitted apart⟩⟩

/-- A record of the first root of an environment, with a value of the second slot. -/
def sampleLifecycleRequest (requestId : Nat) (kind : NativeRootBridgeRequestKind)
    (valueKind : Option BridgeHandleKind) : NativeRootBridgeRequestRecord :=
  ⟨requestId, kind, ⟨1⟩, ⟨⟨1⟩, 1, 1, .root⟩, 1, valueKind.map (⟨⟨1⟩, 2, 1, ·⟩), .active⟩

theorem batch_consumes_values_once_iff_sample :
    ∃ execution, executeNativeRootBridgeJsonBatchLifecycleRequests 0
        [sampleLifecycleRequest 1 .create none, sampleLifecycleRequest 2 .render (some .value)] =
      .ok execution ∧
      ConsumesEachValueOnce
        [sampleLifecycleRequest 1 .create none, sampleLifecycleRequest 2 .render (some .value)]
        execution := by
  obtain ⟨execution, accepted⟩ : ∃ execution,
      executeNativeRootBridgeJsonBatchLifecycleRequests 0 [sampleLifecycleRequest 1 .create none,
        sampleLifecycleRequest 2 .render (some .value)] = .ok execution := ⟨_, rfl⟩
  refine ⟨execution, accepted, (batch_consumes_values_once_iff accepted).mpr ?_⟩
  simp [valueHandles, sampleLifecycleRequest]

/-- The second handle of a value differs from the first in its kind only. -/
theorem batch_consumes_value_twice :
    ∃ execution, executeNativeRootBridgeJsonBatchLifecycleRequests 0
        [sampleLifecycleRequest 1 .create none, sampleLifecycleRequest 2 .render (some .value),
          sampleLifecycleRequest 3 .render (some .root)] = .ok execution ∧
      ¬ ConsumesEachValueOnce
        [sampleLifecycleRequest 1 .create none, sampleLifecycleRequest 2 .render (some .value),
          sampleLifecycleRequest 3 .render (some .root)] execution := by
  refine ⟨_, rfl, fun once => ?_⟩
  simpa [valueHandles, sampleLifecycleRequest, BridgeHandle.key] using once.1

end FastReact
