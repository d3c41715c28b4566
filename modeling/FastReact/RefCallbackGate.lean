import Mathlib.Data.List.Basic

namespace FastReact

/-!
# Ref callback gate

The gate calls ref callbacks and the cleanups they return. Callbacks and cleanups are foreign
code that may create metadata and call the gate again, so the calls in progress are a stack of
frames. Detach metadata carries a cleanup handle or none, and no direct cleanup function.
-/

/-- Ref handles, cleanup return handles and cleanup functions are told apart by identity. -/
abbrev RefHandle := Nat

abbrev CleanupReturnHandle := Nat

abbrev RefCleanupFunction := Nat

/-- A ref is a callback or an object, and only callbacks are ever called. -/
inductive RefValue where
  | callback (function : Nat)
  | object (object : Nat)
  deriving DecidableEq, Repr

def RefValue.isFunction : RefValue → Bool
  | .callback _ => true
  | .object _ => false

/-- The fields that a cleanup return handle has to share with the metadata it is used for. -/
structure RefIdentity where
  rootOwner : Nat
  hostOwner : Nat
  hostInstanceToken : Nat
  refHandle : RefHandle
  ref : RefValue
  deriving DecidableEq, Repr

inductive RefAction where
  | attach
  | detach
  deriving DecidableEq, Repr

inductive RefCallbackGateError where
  | attachRefCleanup
  | objectRefCleanup
  | invalidRefCleanupHandle
  | consumedRefCleanupHandle
  | refCleanupHandleMismatch
  deriving DecidableEq, Repr

def RefCallbackGateError.message : RefCallbackGateError → String
  | .attachRefCleanup => "Ref attach metadata must not include a cleanup return."
  | .objectRefCleanup => "Object ref metadata must not include a callback cleanup return."
  | .invalidRefCleanupHandle =>
    "Ref detach metadata cleanup return handle must come from a private callback attach return."
  | .consumedRefCleanupHandle => "Ref cleanup return handles cannot be consumed more than once."
  | .refCleanupHandleMismatch =>
    "Ref cleanup return handle does not match the detach metadata identity."

structure CleanupReturnHandlePayload where
  cleanupReturn : RefCleanupFunction
  identity : RefIdentity
  deriving DecidableEq, Repr

structure RefCleanup where
  refCleanup : RefCleanupFunction
  refCleanupHandle : CleanupReturnHandle
  deriving DecidableEq, Repr

structure RefMetadata where
  action : RefAction
  identity : RefIdentity
  refCleanup : Option RefCleanup
  deriving DecidableEq, Repr

/-- The maps of the module that outlive a gate call. -/
structure RefCleanupStore where
  nextCleanupReturnHandleSequence : Nat
  cleanupReturnHandlePayloads : CleanupReturnHandle → Option CleanupReturnHandlePayload
  cleanupReturnHandlesByRefHandle : RefHandle → Option CleanupReturnHandle
  consumedCleanupReturnHandles : CleanupReturnHandle → Bool

namespace RefCleanupStore

def new : RefCleanupStore where
  nextCleanupReturnHandleSequence := 1
  cleanupReturnHandlePayloads := fun _ => none
  cleanupReturnHandlesByRefHandle := fun _ => none
  consumedCleanupReturnHandles := fun _ => false

def assertRefCleanupHandleForMetadata (store : RefCleanupStore) (handle : CleanupReturnHandle)
    (identity : RefIdentity) : Except RefCallbackGateError CleanupReturnHandlePayload :=
  match store.cleanupReturnHandlePayloads handle with
  | none => .error .invalidRefCleanupHandle
  | some payload =>
    if store.consumedCleanupReturnHandles handle then .error .consumedRefCleanupHandle
    else if payload.identity ≠ identity then .error .refCleanupHandleMismatch
    else .ok payload

/-- The stored handle of the ref goes with its cleanup, and a later handle stays. -/
def markRefCleanupReturnHandleConsumed (store : RefCleanupStore)
    (handle : CleanupReturnHandle) : RefCleanupStore :=
  { store with
    cleanupReturnHandlesByRefHandle := fun refHandle =>
      if (store.cleanupReturnHandlePayloads handle).any (fun payload => payload.identity.refHandle = refHandle) &&
          decide (store.cleanupReturnHandlesByRefHandle refHandle = some handle) then none
      else store.cleanupReturnHandlesByRefHandle refHandle
    consumedCleanupReturnHandles := fun other =>
      decide (other = handle) || store.consumedCleanupReturnHandles other }

def issueCleanupReturnHandle (store : RefCleanupStore) (identity : RefIdentity)
    (cleanupReturn : RefCleanupFunction) : RefCleanupStore :=
  { store with
    nextCleanupReturnHandleSequence := store.nextCleanupReturnHandleSequence + 1
    cleanupReturnHandlePayloads := fun handle =>
      if handle = store.nextCleanupReturnHandleSequence then some { cleanupReturn, identity }
      else store.cleanupReturnHandlePayloads handle }

/-- The cleanup with the handle that is issued for it next. -/
def nextCleanup (store : RefCleanupStore) (function : RefCleanupFunction) : RefCleanup where
  refCleanup := function
  refCleanupHandle := store.nextCleanupReturnHandleSequence

def retirePreviousHandle (store : RefCleanupStore) (refHandle : RefHandle) : RefCleanupStore :=
  match store.cleanupReturnHandlesByRefHandle refHandle with
  | none => store
  | some previousHandle => store.markRefCleanupReturnHandleConsumed previousHandle

def storeCleanupReturnHandle (store : RefCleanupStore) (refHandle : RefHandle)
    (handle : CleanupReturnHandle) : RefCleanupStore :=
  { store with
    cleanupReturnHandlesByRefHandle := fun other =>
      if other = refHandle then some handle else store.cleanupReturnHandlesByRefHandle other }

/-- A cleanup that an earlier attach of the ref left behind is given up. -/
def recordRefCleanupReturnHandle (store : RefCleanupStore) (identity : RefIdentity)
    (cleanupReturn : RefCleanupFunction) : RefCleanupStore :=
  ((store.issueCleanupReturnHandle identity cleanupReturn).retirePreviousHandle
    identity.refHandle).storeCleanupReturnHandle identity.refHandle store.nextCleanupReturnHandleSequence

def resolveStoredRefCleanupForDetachPayload (store : RefCleanupStore)
    (metadata : RefMetadata) : Except RefCallbackGateError (Option RefCleanup) :=
  match store.cleanupReturnHandlesByRefHandle metadata.identity.refHandle with
  | none => .ok none
  | some storedHandle =>
    (store.assertRefCleanupHandleForMetadata storedHandle metadata.identity).map fun payload =>
      some { refCleanup := payload.cleanupReturn, refCleanupHandle := storedHandle }

/-- A handle in the metadata comes before the stored one, and both are checked again here. -/
def resolveRefCleanupForDetachPayload (store : RefCleanupStore)
    (metadata : RefMetadata) : Except RefCallbackGateError (Option RefCleanup) :=
  match metadata.refCleanup with
  | some cleanup =>
    (store.assertRefCleanupHandleForMetadata cleanup.refCleanupHandle metadata.identity).map fun _ =>
      some cleanup
  | none => store.resolveStoredRefCleanupForDetachPayload metadata

/-- A handle is checked when the metadata is made, and its cleanup is copied. -/
def createRefCallbackMetadataRecord (store : RefCleanupStore) (action : RefAction)
    (identity : RefIdentity)
    (refCleanupHandle : Option CleanupReturnHandle) : Except RefCallbackGateError RefMetadata :=
  match refCleanupHandle with
  | none => .ok { action, identity, refCleanup := none }
  | some handle =>
    if (store.cleanupReturnHandlePayloads handle).isNone then .error .invalidRefCleanupHandle
    else if action = .attach then .error .attachRefCleanup
    else if !identity.ref.isFunction then .error .objectRefCleanup
    else
      (store.assertRefCleanupHandleForMetadata handle identity).map fun payload =>
        { action, identity
          refCleanup := some { refCleanup := payload.cleanupReturn, refCleanupHandle := handle } }

end RefCleanupStore

/-- A call in progress; an attach remembers where the log has it. -/
inductive GateFrame where
  | gate (remaining : List RefMetadata)
  | attach (metadata : RefMetadata) (invocation : Nat)
  | nullDetach (metadata : RefMetadata)
  | cleanupReturn (cleanup : RefCleanup)
  deriving DecidableEq, Repr

/-- What the gate has done, in the order of its doing. -/
inductive RefEvent where
  | attachCalled (metadata : RefMetadata)
  | attachEnded (invocation : Nat) (cleanup : Option RefCleanup)
  | cleanupCalled (metadata : RefMetadata) (cleanup : RefCleanup)
  | nullCalled (metadata : RefMetadata)
  | detachRefused (metadata : RefMetadata) (error : RefCallbackGateError)
  | objectRefSkipped (metadata : RefMetadata)
  deriving DecidableEq, Repr

/-- How foreign code ends: it returns a function, returns anything else, or throws. -/
inductive RefCompletion where
  | returnedFunction (function : RefCleanupFunction)
  | returnedValue
  | threw
  deriving DecidableEq, Repr

/-- The caller and the foreign code make metadata and call the gate, and the gate goes on by itself. -/
inductive RefGateAction where
  | createMetadata (action : RefAction) (identity : RefIdentity) (refCleanupHandle : Option CleanupReturnHandle)
  | callGate (detach attach : List RefMetadata)
  | runNext
  | complete (completion : RefCompletion)
  deriving DecidableEq, Repr

/-- The module's maps, the metadata made so far and the calls in progress, innermost first. -/
structure RefGateWorld where
  store : RefCleanupStore
  metadataRecords : List RefMetadata
  frames : List GateFrame
  log : List RefEvent

namespace RefGateWorld

def new : RefGateWorld where
  store := .new
  metadataRecords := []
  frames := []
  log := []

/-- Foreign code runs unless a gate call is innermost. -/
def foreignCodeRuns (world : RefGateWorld) : Bool :=
  match world.frames with
  | .gate _ :: _ => false
  | _ => true

def createMetadata (world : RefGateWorld) (action : RefAction) (identity : RefIdentity)
    (refCleanupHandle : Option CleanupReturnHandle) : RefGateWorld :=
  match world.store.createRefCallbackMetadataRecord action identity refCleanupHandle with
  | .error _ => world
  | .ok metadata => { world with metadataRecords := world.metadataRecords ++ [metadata] }

/-- A snapshot holds genuine metadata of the action its list stands for. -/
def accepts (world : RefGateWorld) (action : RefAction) (metadata : RefMetadata) : Bool :=
  decide (metadata.action = action) && world.metadataRecords.any fun known => decide (known = metadata)

/-- Detaches come first. A snapshot that is refused here or by the component tree runs no record. -/
def callGate (world : RefGateWorld) (detach attach : List RefMetadata) : RefGateWorld :=
  if detach.all (world.accepts .detach) && attach.all (world.accepts .attach) then
    { world with frames := .gate (detach ++ attach) :: world.frames }
  else world

/-- A refused detach throws out of the gate call that runs it, together with the records left in it. -/
def runControlledInvocation (world : RefGateWorld) (metadata : RefMetadata)
    (remaining : List RefMetadata)
    (below : List GateFrame) : RefGateWorld :=
  if !metadata.identity.ref.isFunction then
    { world with
      frames := .gate remaining :: below
      log := world.log ++ [.objectRefSkipped metadata] }
  else
    match metadata.action with
    | .attach =>
      { world with
        frames := .attach metadata world.log.length :: .gate remaining :: below
        log := world.log ++ [.attachCalled metadata] }
    | .detach =>
      match world.store.resolveRefCleanupForDetachPayload metadata with
      | .error error =>
        { world with
          frames := below
          log := world.log ++ [.detachRefused metadata error] }
      | .ok (some cleanup) =>
        { world with
          frames := .cleanupReturn cleanup :: .gate remaining :: below
          log := world.log ++ [.cleanupCalled metadata cleanup] }
      | .ok none =>
        { world with
          frames := .nullDetach metadata :: .gate remaining :: below
          log := world.log ++ [.nullCalled metadata] }

def runNext (world : RefGateWorld) : RefGateWorld :=
  match world.frames with
  | .gate [] :: below => { world with frames := below }
  | .gate (metadata :: remaining) :: below => world.runControlledInvocation metadata remaining below
  | _ => world

/-- Only a function that an attach returns is kept. -/
def completeAttach (world : RefGateWorld) (metadata : RefMetadata) (invocation : Nat)
    (below : List GateFrame)
    (completion : RefCompletion) : RefGateWorld :=
  match completion with
  | .returnedFunction function =>
    { world with
      store := world.store.recordRefCleanupReturnHandle metadata.identity function
      frames := below
      log := world.log ++ [.attachEnded invocation (some (world.store.nextCleanup function))] }
  | _ =>
    { world with
      frames := below
      log := world.log ++ [.attachEnded invocation none] }

/-- A cleanup is marked as consumed when it has ended, however it ended. -/
def complete (world : RefGateWorld) (completion : RefCompletion) : RefGateWorld :=
  match world.frames with
  | .attach metadata invocation :: below => world.completeAttach metadata invocation below completion
  | .nullDetach _ :: below => { world with frames := below }
  | .cleanupReturn cleanup :: below =>
    { world with
      store := world.store.markRefCleanupReturnHandleConsumed cleanup.refCleanupHandle
      frames := below }
  | _ => world

def step (world : RefGateWorld) : RefGateAction → RefGateWorld
  | .createMetadata action identity refCleanupHandle =>
    if world.foreignCodeRuns then world.createMetadata action identity refCleanupHandle else world
  | .callGate detach attach => if world.foreignCodeRuns then world.callGate detach attach else world
  | .runNext => world.runNext
  | .complete completion => world.complete completion

end RefGateWorld

end FastReact
