import FastReact.DeletionTraversals

namespace FastReact

open ErrorState

/-!
# The refs of a commit

A commit gathers the refs to detach, those of changed and of deleted host components, and
the refs to attach.  Each of them is given a token, and three gates in a row check these
tokens again: the gate of the callbacks, the handoff of their execution and the gate of the
cleanups they return.
-/

inductive RefTag

abbrev FiberRefHandle := OpaqueHandle RefTag

namespace FiberFlags

def callback : FiberFlags := ⟨1 <<< 6⟩

def layoutMask : FiberFlags :=
  update.merge (callback.merge (ref.merge visibility))

end FiberFlags

inductive HostRootRefCommitAction where
  | detach
  | attach
deriving DecidableEq

inductive HostRootRefDetachReason where
  | refChanged
  | deleted
deriving DecidableEq

def refCommitActionLabel : HostRootRefCommitAction → String
  | .detach => "detach"
  | .attach => "attach"

def refDetachReasonLabel : HostRootRefDetachReason → String
  | .refChanged => "ref-changed"
  | .deleted => "deleted"

inductive HostCommitError where
  | mutation (error : HostMutationError)
  | hostFiberToken (error : HostFiberTokenValidationError)
  | refHostInstanceMissing (root : FiberRootId) (fiber : FiberId)
  | domRefCallbackGateActionMismatch (root : FiberRootId) (fiber : FiberId)
      (expected actual : String)
  | domRefCallbackGateTokenScopeMismatch (root : FiberRootId) (fiber : FiberId)
      (action : String) (expectedPhase actualPhase : HostFiberTokenPhase)
      (expectedTarget actualTarget : HostFiberTokenTarget)
  | domRefCallbackGateDetachReasonMismatch (root : FiberRootId) (fiber : FiberId)
      (action : String) (detachReason : Option String)
deriving DecidableEq

structure RefFibers extends HostFibers where
  refHandle : FiberId → FiberRefHandle

structure PendingRefCommitRecord where
  root : FiberRootId
  fiber : FiberId
  stateNode : StateNodeHandle
  refHandle : FiberRefHandle
  action : HostRootRefCommitAction
  detachReason : Option HostRootRefDetachReason
deriving DecidableEq

structure PendingRefCommitSnapshot where
  detach : List PendingRefCommitRecord
  attach : List PendingRefCommitRecord
deriving DecidableEq

namespace RefFibers

variable (fibers : RefFibers) (root : FiberRootId)

def get (id : FiberId) : Except HostCommitError FiberNode :=
  (fibers.toHostFibers.get id).mapError .mutation

def childIds (parent : FiberId) : Except HostCommitError (List FiberId) :=
  (fibers.toHostFibers.childIds parent).mapError .mutation

/-- The children of a fiber below which something carries one of the flags. -/
def flaggedChildIds (parent : FiberId) (flags : FiberFlags) :
    Except HostCommitError (List FiberId) :=
  if (fibers.subtreeFlags parent).containsAny flags then fibers.childIds parent else .ok []

def refHostStateNode (fiber : FiberId) : Except HostCommitError StateNodeHandle :=
  if (fibers.stateNode fiber).isNone then
    .error (.refHostInstanceMissing root fiber)
  else
    .ok (fibers.stateNode fiber)

def refDetach (fiber : FiberId) (reason : HostRootRefDetachReason) :
    Except HostCommitError (List PendingRefCommitRecord) := do
  let stateNode ← fibers.refHostStateNode root fiber
  return [{
    root := root
    fiber := fiber
    stateNode := stateNode
    refHandle := fibers.refHandle fiber
    action := .detach
    detachReason := some reason }]

def refAttach (fiber : FiberId) : Except HostCommitError (List PendingRefCommitRecord) := do
  let stateNode ← fibers.refHostStateNode root fiber
  return [{
    root := root
    fiber := fiber
    stateNode := stateNode
    refHandle := fibers.refHandle fiber
    action := .attach
    detachReason := none }]

def collectDeletedFiberRefDetachMetadata (deleted : FiberId) (node : FiberNode) :
    Except HostCommitError (List PendingRefCommitRecord) :=
  if node.tag = .hostComponent ∧ (fibers.refHandle deleted).isSome then
    fibers.refDetach root deleted .deleted
  else
    .ok []

/-- The refs of one deleted fiber and of everything below it, parents first. -/
def collectDeletedRefDetachMetadata :
    Nat → FiberId → Except HostCommitError (List PendingRefCommitRecord)
  | 0, _ => .error (.mutation .endlessWalk)
  | rounds + 1, deleted => do
      let node ← fibers.get deleted
      let own ← fibers.collectDeletedFiberRefDetachMetadata root deleted node
      let children ← fibers.childIds deleted
      let below ← children.mapM (collectDeletedRefDetachMetadata rounds)
      return own ++ below.flatten

def collectDeletionsRefDetachMetadata (finishedWork : FiberId) (listId : DeletionListId) :
    Except HostCommitError (List PendingRefCommitRecord) :=
  let invalid := HostCommitError.mutation (.commit (.fiberTopology (.invalidDeletionList listId)))
  (fibers.arena.deletionList listId).elim (.error invalid) fun list => do
    if list.parent ≠ finishedWork then
      .error invalid
    else
      let detaches ← list.deleted.mapM (fibers.collectDeletedRefDetachMetadata root fibers.rounds)
      return detaches.flatten

def collectChangedRefDetachMetadata (node : FiberNode) :
    Except HostCommitError (List PendingRefCommitRecord) :=
  if node.tag = .hostComponent ∧ node.flags.containsAll FiberFlags.ref then
    node.alternate.elim (.ok []) fun current => do
      let _ ← fibers.get current
      if (fibers.refHandle current).isSome then
        fibers.refDetach root current .refChanged
      else
        return []
  else
    .ok []

def collectRefDetachMetadata :
    Nat → FiberId → Except HostCommitError (List PendingRefCommitRecord)
  | 0, _ => .error (.mutation .endlessWalk)
  | rounds + 1, finishedWork => do
      let node ← fibers.get finishedWork
      let deletions ← node.deletions.elim (.ok [])
        (fibers.collectDeletionsRefDetachMetadata root finishedWork)
      let children ← fibers.flaggedChildIds finishedWork
        (FiberFlags.mutationMask.merge FiberFlags.cloned)
      let below ← children.mapM (collectRefDetachMetadata rounds)
      let own ← fibers.collectChangedRefDetachMetadata root node
      return deletions ++ below.flatten ++ own

def collectFiberRefAttachMetadata (finishedWork : FiberId) (node : FiberNode) :
    Except HostCommitError (List PendingRefCommitRecord) :=
  if node.tag = .hostComponent ∧ node.flags.containsAll FiberFlags.ref ∧
      (fibers.refHandle finishedWork).isSome then
    fibers.refAttach root finishedWork
  else
    .ok []

def collectRefAttachMetadata :
    Nat → FiberId → Except HostCommitError (List PendingRefCommitRecord)
  | 0, _ => .error (.mutation .endlessWalk)
  | rounds + 1, finishedWork => do
      let node ← fibers.get finishedWork
      let children ← fibers.flaggedChildIds finishedWork FiberFlags.layoutMask
      let below ← children.mapM (collectRefAttachMetadata rounds)
      let own ← fibers.collectFiberRefAttachMetadata root finishedWork node
      return below.flatten ++ own

def collectPendingRefCommitMetadata (finishedWork : FiberId) :
    Except HostCommitError PendingRefCommitSnapshot := do
  let detach ← fibers.collectRefDetachMetadata root fibers.rounds finishedWork
  let attach ← fibers.collectRefAttachMetadata root fibers.rounds finishedWork
  return ⟨detach, attach⟩

end RefFibers

/-- A ref to detach or to attach with its token. -/
structure HostRootRefCommitRecord extends PendingRefCommitRecord where
  token : HostFiberTokenId
  tokenPhase : HostFiberTokenPhase
  tokenTarget : HostFiberTokenTarget
deriving DecidableEq

structure HostRootRefCommitSnapshot where
  detach : List HostRootRefCommitRecord
  attach : List HostRootRefCommitRecord
deriving DecidableEq

/-- Computations on the token store. -/
abbrev HostTokenM := EStateM HostCommitError HostFiberTokenStore

/-- Issue a token and check it at once. -/
def issueValidToken (root : FiberRootId) (fiber : FiberId) (phase : HostFiberTokenPhase)
    (target : HostFiberTokenTarget) : HostTokenM HostFiberTokenId := do
  let token ← modifyGet (·.issue root fiber phase target)
  query fun tokens => (tokens.validate token root fiber phase target).mapError .hostFiberToken
  return token

def domRefCallbackGateTokenPhase : HostRootRefCommitAction → HostFiberTokenPhase
  | .detach => .deletion
  | .attach => .commit

def issueRefCommitRecord (pending : PendingRefCommitRecord) :
    HostTokenM HostRootRefCommitRecord := do
  let tokenPhase := domRefCallbackGateTokenPhase pending.action
  let token ← issueValidToken pending.root pending.fiber tokenPhase .hostInstance
  return {
    toPendingRefCommitRecord := pending
    token := token
    tokenPhase := tokenPhase
    tokenTarget := .hostInstance }

def materializeRefCommitMetadata (pending : PendingRefCommitSnapshot) :
    HostTokenM HostRootRefCommitSnapshot := do
  let detach ← pending.detach.mapM issueRefCommitRecord
  let attach ← pending.attach.mapM issueRefCommitRecord
  return ⟨detach, attach⟩

inductive HostRootDomRefCallbackCommitGateBlocker where
  | callbackRefInvocation
  | objectRefMutation
  | layoutEffectExecution
  | publicInstanceExposure
  | reactDomRefCompatibilityClaim
deriving DecidableEq

def domRefCallbackGateBlockers : List HostRootDomRefCallbackCommitGateBlocker :=
  [.callbackRefInvocation, .objectRefMutation, .layoutEffectExecution, .publicInstanceExposure,
    .reactDomRefCompatibilityClaim]

structure HostRootDomRefCallbackCommitGateRecord extends HostRootRefCommitRecord where
  sequence : Nat
  blockers : List HostRootDomRefCallbackCommitGateBlocker
deriving DecidableEq

inductive HostRootRefCallbackExecutionPhase where
  | callbackDetachCleanupOrNull
  | callbackAttach
deriving DecidableEq

/-- What keeps the callbacks and the cleanups from being executed. -/
inductive HostRootRefExecutionBlocker where
  | objectRefMutation
  | publicRootExecution
  | publicRootErrorRouting
  | reactDomRefCompatibilityClaim
deriving DecidableEq

def refCallbackExecutionHandoffBlockers : List HostRootRefExecutionBlocker :=
  [.objectRefMutation, .publicRootExecution, .publicRootErrorRouting,
    .reactDomRefCompatibilityClaim]

structure HostRootRefCallbackExecutionHandoffRecord extends HostRootRefCommitRecord where
  sequence : Nat
  sourceGateSequence : Nat
  executionPhase : HostRootRefCallbackExecutionPhase
  changedRefDetachBeforeAttach : Bool
  blockers : List HostRootRefExecutionBlocker
deriving DecidableEq

structure HostRootRefCallbackExecutionHandoffSnapshot where
  records : List HostRootRefCallbackExecutionHandoffRecord
  detachCount : Nat
  attachCount : Nat
  changedRefDetachBeforeAttachCount : Nat
deriving DecidableEq

inductive HostRootRefCleanupReturnExecutionPhase where
  | recordAttachCleanupReturnHandle
  | executeDetachCleanupReturnHandleOrNull
deriving DecidableEq

def refCleanupReturnExecutionGateBlockers : List HostRootRefExecutionBlocker :=
  [.objectRefMutation, .publicRootExecution, .publicRootErrorRouting,
    .reactDomRefCompatibilityClaim]

structure HostRootRefCleanupReturnExecutionGateRecord extends HostRootRefCommitRecord where
  sequence : Nat
  sourceHandoffSequence : Nat
  sourceGateSequence : Nat
  cleanupReturnPhase : HostRootRefCleanupReturnExecutionPhase
  cleanupReturnHandleRecordingGate : Bool
  cleanupReturnExecutionGate : Bool
  changedRefCleanupBeforeAttach : Bool
  blockers : List HostRootRefExecutionBlocker
deriving DecidableEq

structure HostRootRefCleanupReturnExecutionGateSnapshot where
  records : List HostRootRefCleanupReturnExecutionGateRecord
  cleanupReturnHandleRecordGateCount : Nat
  cleanupReturnExecutionGateCount : Nat
  changedRefCleanupBeforeAttachCount : Nat
deriving DecidableEq

def refCallbackExecutionPhase : HostRootRefCommitAction → HostRootRefCallbackExecutionPhase
  | .detach => .callbackDetachCleanupOrNull
  | .attach => .callbackAttach

def refCleanupReturnExecutionPhase :
    HostRootRefCommitAction → HostRootRefCleanupReturnExecutionPhase
  | .detach => .executeDetachCleanupReturnHandleOrNull
  | .attach => .recordAttachCleanupReturnHandle

namespace HostFiberTokenStore

variable (tokens : HostFiberTokenStore)

def validateRefToken (record : HostRootRefCommitRecord) (phase : HostFiberTokenPhase)
    (target : HostFiberTokenTarget) : Except HostCommitError Unit :=
  (tokens.validate record.token record.root record.fiber phase target).mapError .hostFiberToken

def detachReasonIsValid (record : HostRootRefCommitRecord) : Bool :=
  match record.action with
  | .detach => record.detachReason.isSome
  | .attach => record.detachReason.isNone

def domRefCallbackCommitGateRecord (sequence : Nat) (record : HostRootRefCommitRecord)
    (expectedAction : HostRootRefCommitAction) :
    Except HostCommitError HostRootDomRefCallbackCommitGateRecord := do
  let expectedPhase := domRefCallbackGateTokenPhase record.action
  if record.action ≠ expectedAction then
    .error (.domRefCallbackGateActionMismatch record.root record.fiber
      (refCommitActionLabel expectedAction) (refCommitActionLabel record.action))
  else if record.tokenPhase ≠ expectedPhase ∨ record.tokenTarget ≠ .hostInstance then
    .error (.domRefCallbackGateTokenScopeMismatch record.root record.fiber
      (refCommitActionLabel record.action) expectedPhase record.tokenPhase .hostInstance
      record.tokenTarget)
  else if detachReasonIsValid record = false then
    .error (.domRefCallbackGateDetachReasonMismatch record.root record.fiber
      (refCommitActionLabel record.action) (record.detachReason.map refDetachReasonLabel))
  else
    tokens.validateRefToken record expectedPhase .hostInstance
    return {
      toHostRootRefCommitRecord := record
      sequence := sequence
      blockers := domRefCallbackGateBlockers }

/-- The refs to detach come before those to attach. -/
def materializeDomRefCallbackCommitGate (metadata : HostRootRefCommitSnapshot) :
    Except HostCommitError (List HostRootDomRefCallbackCommitGateRecord) := do
  let detach ← metadata.detach.zipIdx.mapM fun entry =>
    tokens.domRefCallbackCommitGateRecord entry.2 entry.1 .detach
  let attach ← (metadata.attach.zipIdx metadata.detach.length).mapM fun entry =>
    tokens.domRefCallbackCommitGateRecord entry.2 entry.1 .attach
  return detach ++ attach

def refCallbackExecutionHandoffRecord (sequence : Nat)
    (gateRecord : HostRootDomRefCallbackCommitGateRecord) (changedRefDetachBeforeAttach : Bool) :
    Except HostCommitError HostRootRefCallbackExecutionHandoffRecord := do
  tokens.validateRefToken gateRecord.toHostRootRefCommitRecord gateRecord.tokenPhase
    gateRecord.tokenTarget
  return {
    toHostRootRefCommitRecord := gateRecord.toHostRootRefCommitRecord
    sequence := sequence
    sourceGateSequence := gateRecord.sequence
    executionPhase := refCallbackExecutionPhase gateRecord.action
    changedRefDetachBeforeAttach := changedRefDetachBeforeAttach
    blockers := refCallbackExecutionHandoffBlockers }

/-- One round of the handoff; the flag says that a changed ref was detached and no ref
attached since. -/
def handOffRefCallback (handoff : HostRootRefCallbackExecutionHandoffSnapshot × Bool)
    (gateRecord : HostRootDomRefCallbackCommitGateRecord) :
    Except HostCommitError (HostRootRefCallbackExecutionHandoffSnapshot × Bool) := do
  let isAttach := gateRecord.action = .attach
  let changedRefDetachBeforeAttach := isAttach && handoff.2
  let record ← tokens.refCallbackExecutionHandoffRecord handoff.1.records.length gateRecord
    changedRefDetachBeforeAttach
  return ({
    records := handoff.1.records ++ [record]
    detachCount := handoff.1.detachCount + if isAttach then 0 else 1
    attachCount := handoff.1.attachCount + if isAttach then 1 else 0
    changedRefDetachBeforeAttachCount := handoff.1.changedRefDetachBeforeAttachCount +
      if changedRefDetachBeforeAttach then 1 else 0 },
    !isAttach && (handoff.2 || gateRecord.detachReason = some .refChanged))

def materializeRefCallbackExecutionHandoff (gate : List HostRootDomRefCallbackCommitGateRecord) :
    Except HostCommitError HostRootRefCallbackExecutionHandoffSnapshot := do
  let handoff ← gate.foldlM tokens.handOffRefCallback (⟨[], 0, 0, 0⟩, false)
  return handoff.1

def refCleanupReturnExecutionGateRecord (sequence : Nat)
    (handoffRecord : HostRootRefCallbackExecutionHandoffRecord) :
    Except HostCommitError HostRootRefCleanupReturnExecutionGateRecord := do
  tokens.validateRefToken handoffRecord.toHostRootRefCommitRecord handoffRecord.tokenPhase
    handoffRecord.tokenTarget
  return {
    toHostRootRefCommitRecord := handoffRecord.toHostRootRefCommitRecord
    sequence := sequence
    sourceHandoffSequence := handoffRecord.sequence
    sourceGateSequence := handoffRecord.sourceGateSequence
    cleanupReturnPhase := refCleanupReturnExecutionPhase handoffRecord.action
    cleanupReturnHandleRecordingGate := handoffRecord.action = .attach
    cleanupReturnExecutionGate := handoffRecord.action = .detach
    changedRefCleanupBeforeAttach := handoffRecord.changedRefDetachBeforeAttach
    blockers := refCleanupReturnExecutionGateBlockers }

def materializeRefCleanupReturnExecutionGate
    (handoff : HostRootRefCallbackExecutionHandoffSnapshot) :
    Except HostCommitError HostRootRefCleanupReturnExecutionGateSnapshot := do
  let records ← handoff.records.zipIdx.mapM fun entry =>
    tokens.refCleanupReturnExecutionGateRecord entry.2 entry.1
  let attaches := records.filter (·.cleanupReturnHandleRecordingGate)
  return {
    records := records
    cleanupReturnHandleRecordGateCount := attaches.length
    cleanupReturnExecutionGateCount := (records.filter (·.cleanupReturnExecutionGate)).length
    changedRefCleanupBeforeAttachCount :=
      (attaches.filter (·.changedRefCleanupBeforeAttach)).length }

end HostFiberTokenStore

end FastReact
