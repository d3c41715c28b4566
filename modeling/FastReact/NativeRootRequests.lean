import FastReact.BridgeHandleTable

namespace FastReact

open ErrorState

/-!
# Requests on native roots

The recorder numbers the requests of all roots and applies them to the handle table.  A
validator follows the records of one root: they start with a creation, go on with renders
and end with an unmount, whose root must be gone from the table.
-/

inductive NativeRootBridgeRequestKind where
  | create
  | render
  | unmount
deriving DecidableEq

inductive NativeRootBridgeRootHandleState where
  | active
  | retired
deriving DecidableEq

inductive NativeRootBridgeLifecycleTransition where
  | noneToActive
  | activeToActive
  | activeToRetired
deriving DecidableEq

structure NativeRootBridgeCreateRequest where
  rootId : Nat
  containerHandle : Option BridgeHandle

structure NativeRootBridgeRenderRequest where
  rootHandle : BridgeHandle
  elementHandle : Option BridgeHandle

structure NativeRootBridgeUnmountRequest where
  rootHandle : BridgeHandle

structure NativeRootBridgeRequestRecord where
  requestId : Nat
  kind : NativeRootBridgeRequestKind
  environmentId : BridgeEnvironmentId
  rootHandle : BridgeHandle
  rootId : Nat
  valueHandle : Option BridgeHandle
  rootHandleState : NativeRootBridgeRootHandleState
deriving DecidableEq

structure NativeRootBridgeRequestValidationRecord where
  requestId : Nat
  kind : NativeRootBridgeRequestKind
  environmentId : BridgeEnvironmentId
  rootHandle : BridgeHandle
  rootId : Nat
  valueHandle : Option BridgeHandle
  rootHandleState : NativeRootBridgeRootHandleState
  lifecycleTransition : NativeRootBridgeLifecycleTransition
  rootHandleValidated : Bool
  valueHandleValidated : Bool
deriving DecidableEq

def NativeRootBridgeRequestValidationRecord.fromRequest (request : NativeRootBridgeRequestRecord)
    (lifecycleTransition : NativeRootBridgeLifecycleTransition) (valueHandleValidated : Bool) :
    NativeRootBridgeRequestValidationRecord where
  requestId := request.requestId
  kind := request.kind
  environmentId := request.environmentId
  rootHandle := request.rootHandle
  rootId := request.rootId
  valueHandle := request.valueHandle
  rootHandleState := request.rootHandleState
  lifecycleTransition := lifecycleTransition
  rootHandleValidated := true
  valueHandleValidated := valueHandleValidated

inductive NativeRootBridgeRequestError where
  | handleTable (error : BridgeHandleTableError)
  | recordEnvironmentMismatch (recordEnvironmentId tableEnvironmentId : BridgeEnvironmentId)
  | recordRootHandleMismatch (expected actual : BridgeHandle)
  | recordRootHandleStateMismatch (expected actual : NativeRootBridgeRootHandleState)
  | recordRootIdMismatch (expected actual : Nat)
  | rootHandleStillActive (handle : BridgeHandle)
  | unexpectedValueHandle (kind : NativeRootBridgeRequestKind) (valueHandle : BridgeHandle)
  | sequenceMustStartWithCreate (actual : NativeRootBridgeRequestKind)
  | createAfterRootCreated (requestId : Nat)
  | requestAfterUnmount (requestId : Nat)
  | requestSequenceOutOfOrder (previousRequestId requestId : Nat)
  | requestSequenceExhausted
deriving DecidableEq

section Validation

variable (table : BridgeHandleTable) (request : NativeRootBridgeRequestRecord)

def askTable {α : Type} (answer : Except BridgeHandleTableError α) :
    Except NativeRootBridgeRequestError α :=
  answer.mapError .handleTable

def validateRecordEnvironment : Except NativeRootBridgeRequestError Unit :=
  if request.environmentId = table.environmentId then
    .ok ()
  else
    .error (.recordEnvironmentMismatch request.environmentId table.environmentId)

def validateRootHandleState (expected : NativeRootBridgeRootHandleState) :
    Except NativeRootBridgeRequestError Unit :=
  if request.rootHandleState = expected then
    .ok ()
  else
    .error (.recordRootHandleStateMismatch expected request.rootHandleState)

def validateRootId (actual : Nat) : Except NativeRootBridgeRequestError Unit :=
  if request.rootId = actual then
    .ok ()
  else
    .error (.recordRootIdMismatch request.rootId actual)

def validateOptionalValueHandle : Except NativeRootBridgeRequestError Bool :=
  match request.valueHandle with
  | none => .ok false
  | some valueHandle => do
      let _ ← askTable (table.getValue valueHandle)
      .ok true

/-- The common part of the records that leave their root active. -/
def validateActiveRecord (transition : NativeRootBridgeLifecycleTransition) :
    Except NativeRootBridgeRequestError NativeRootBridgeRequestValidationRecord := do
  validateRecordEnvironment table request
  validateRootHandleState request .active
  let root ← askTable (table.getRoot request.rootHandle)
  validateRootId request root.rootId
  let valueHandleValidated ← validateOptionalValueHandle table request
  .ok (.fromRequest request transition valueHandleValidated)

def validateCreateRecord :
    Except NativeRootBridgeRequestError NativeRootBridgeRequestValidationRecord :=
  validateActiveRecord table request .noneToActive

def validateRenderRecord :
    Except NativeRootBridgeRequestError NativeRootBridgeRequestValidationRecord :=
  validateActiveRecord table request .activeToActive

def validateUnmountRecord :
    Except NativeRootBridgeRequestError NativeRootBridgeRequestValidationRecord := do
  validateRecordEnvironment table request
  validateRootHandleState request .retired
  match request.valueHandle with
  | some valueHandle => .error (.unexpectedValueHandle request.kind valueHandle)
  | none =>
      match table.getRoot request.rootHandle with
      | .ok _ => .error (.rootHandleStillActive request.rootHandle)
      | .error (.staleHandle _ _) => .ok (.fromRequest request .activeToRetired false)
      | .error error => .error (.handleTable error)

def validateSequenceRootIdentity (expectedRootHandle : BridgeHandle) (expectedRootId : Nat) :
    Except NativeRootBridgeRequestError Unit :=
  if request.rootHandle ≠ expectedRootHandle then
    .error (.recordRootHandleMismatch expectedRootHandle request.rootHandle)
  else if request.rootId ≠ expectedRootId then
    .error (.recordRootIdMismatch expectedRootId request.rootId)
  else
    .ok ()

end Validation

/-- What a validator knows of its root; the source keeps the handle and the identity in two
fields that are set together. -/
structure NativeRootBridgeRequestSequenceValidator where
  root : Option (BridgeHandle × Nat)
  lastRequestId : Option Nat
  rootRetired : Bool
deriving DecidableEq

namespace NativeRootBridgeRequestSequenceValidator

def new : NativeRootBridgeRequestSequenceValidator where
  root := none
  lastRequestId := none
  rootRetired := false

variable (validator : NativeRootBridgeRequestSequenceValidator)

def validateRequestOrder (requestId : Nat) : Except NativeRootBridgeRequestError Unit :=
  match validator.lastRequestId with
  | none => .ok ()
  | some previousRequestId =>
      if previousRequestId < requestId then
        .ok ()
      else
        .error (.requestSequenceOutOfOrder previousRequestId requestId)

def checkNext (table : BridgeHandleTable) (request : NativeRootBridgeRequestRecord) :
    Except NativeRootBridgeRequestError NativeRootBridgeRequestValidationRecord := do
  validator.validateRequestOrder request.requestId
  if validator.rootRetired then
    .error (.requestAfterUnmount request.requestId)
  else
    match validator.root with
    | none =>
        if request.kind ≠ .create then
          .error (.sequenceMustStartWithCreate request.kind)
        else
          validateCreateRecord table request
    | some (rootHandle, rootId) =>
        if request.kind = .create then
          .error (.createAfterRootCreated request.requestId)
        else do
          validateSequenceRootIdentity request rootHandle rootId
          if request.kind = .render then
            validateRenderRecord table request
          else
            validateUnmountRecord table request

def accept (request : NativeRootBridgeRequestRecord) :
    NativeRootBridgeRequestSequenceValidator where
  root := validator.root.or (some (request.rootHandle, request.rootId))
  lastRequestId := some request.requestId
  rootRetired := validator.rootRetired || request.kind = .unmount

end NativeRootBridgeRequestSequenceValidator

def validateNext (table : BridgeHandleTable) (request : NativeRootBridgeRequestRecord) :
    EStateM NativeRootBridgeRequestError NativeRootBridgeRequestSequenceValidator
      NativeRootBridgeRequestValidationRecord := do
  let validation ← query (·.checkNext table request)
  modify (·.accept request)
  return validation

def requestIdBound : Nat := 2 ^ 64

structure NativeRootBridgeRequestRecorder where
  nextRequestId : Nat
deriving DecidableEq

def NativeRootBridgeRequestRecorder.new : NativeRootBridgeRequestRecorder where
  nextRequestId := 1

structure RecorderWithTable where
  recorder : NativeRootBridgeRequestRecorder
  table : BridgeHandleTable
deriving DecidableEq

abbrev NativeRootRecorderM := EStateM NativeRootBridgeRequestError RecorderWithTable

def onTable {α : Type} (body : BridgeHandleTableM α) : NativeRootRecorderM α :=
  mapError .handleTable
    (focus RecorderWithTable.table (fun table state => { state with table := table }) body)

def allocateRequestId : NativeRootRecorderM Nat := do
  let requestId := (← get).recorder.nextRequestId
  if requestIdBound ≤ requestId + 1 then
    throw .requestSequenceExhausted
  modify fun state => { state with recorder := ⟨requestId + 1⟩ }
  return requestId

/-- A value that a request names must be in the table. -/
def checkOptionalValue (handle : Option BridgeHandle) : NativeRootRecorderM Unit := do
  match handle with
  | none => return
  | some handle =>
      let _ ← query fun state => askTable (state.table.getValue handle)

def recordCreateRoot (request : NativeRootBridgeCreateRequest) :
    NativeRootRecorderM NativeRootBridgeRequestRecord := do
  checkOptionalValue request.containerHandle
  let requestId ← allocateRequestId
  let rootHandle ← onTable (insertRoot ⟨request.rootId⟩)
  return {
    requestId := requestId
    kind := .create
    environmentId := (← get).table.environmentId
    rootHandle := rootHandle
    rootId := request.rootId
    valueHandle := request.containerHandle
    rootHandleState := .active }

def recordRender (request : NativeRootBridgeRenderRequest) :
    NativeRootRecorderM NativeRootBridgeRequestRecord := do
  let root ← query fun state => askTable (state.table.getRoot request.rootHandle)
  checkOptionalValue request.elementHandle
  let requestId ← allocateRequestId
  return {
    requestId := requestId
    kind := .render
    environmentId := (← get).table.environmentId
    rootHandle := request.rootHandle
    rootId := root.rootId
    valueHandle := request.elementHandle
    rootHandleState := .active }

def recordUnmount (request : NativeRootBridgeUnmountRequest) :
    NativeRootRecorderM NativeRootBridgeRequestRecord := do
  let root ← query fun state => askTable (state.table.getRoot request.rootHandle)
  let requestId ← allocateRequestId
  let _ ← onTable (removeRoot request.rootHandle)
  return {
    requestId := requestId
    kind := .unmount
    environmentId := (← get).table.environmentId
    rootHandle := request.rootHandle
    rootId := root.rootId
    valueHandle := none
    rootHandleState := .retired }

end FastReact
