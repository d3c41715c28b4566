import FastReact.HostTreeCommit
import FastReact.SuccessfulRuns

namespace FastReact

open ErrorState HostFiberTokenStore List

/-!
# The tokens of refs pass their gates

The refs that a commit gathers are detached for a reason or attached for none.  Their tokens
validate when they are issued, and since later tokens invalidate none, they still do at each
of the gates.
-/

/-- A ref is detached for a reason or attached for none. -/
def PendingRefCommitRecord.OfAction (record : PendingRefCommitRecord)
    (action : HostRootRefCommitAction) : Prop :=
  record.action = action ∧ record.detachReason.isSome = decide (action = .detach)

namespace RefFibers

variable {fibers : RefFibers} {root : FiberRootId} {rounds : Nat} {fiber : FiberId}
  {node : FiberNode} {records : List PendingRefCommitRecord}

theorem ofAction_refDetach {reason : HostRootRefDetachReason}
    (ran : fibers.refDetach root fiber reason = .ok records) :
    ∀ record ∈ records, record.OfAction .detach := by
  obtain ⟨stateNode, -, finished⟩ := bind_eq_ok_iff.mp ran
  cases finished
  exact forall_mem_singleton.mpr ⟨rfl, rfl⟩

theorem ofAction_refAttach (ran : fibers.refAttach root fiber = .ok records) :
    ∀ record ∈ records, record.OfAction .attach := by
  obtain ⟨stateNode, -, finished⟩ := bind_eq_ok_iff.mp ran
  cases finished
  exact forall_mem_singleton.mpr ⟨rfl, rfl⟩

theorem ofAction_deleted (ran : fibers.collectDeletedRefDetachMetadata root rounds fiber = .ok records) :
    ∀ record ∈ records, record.OfAction .detach := by
  induction rounds generalizing fiber records with
  | zero =>
    cases ran
  | succ rounds ih =>
    obtain ⟨node, -, ranOwn⟩ := bind_eq_ok_iff.mp ran
    obtain ⟨own, gathered, ranChildren⟩ := bind_eq_ok_iff.mp ranOwn
    obtain ⟨children, -, ranBelow⟩ := bind_eq_ok_iff.mp ranChildren
    obtain ⟨below, listed, finished⟩ := bind_eq_ok_iff.mp ranBelow
    cases finished
    refine forall_mem_append.mpr ⟨?_, ?_⟩
    · unfold collectDeletedFiberRefDetachMetadata at gathered
      split at gathered
      · exact ofAction_refDetach gathered
      · cases gathered
        exact forall_mem_nil _
    · exact forall_mem_flatten_of_mapM_ok listed fun child _ block ranChild => ih ranChild

theorem ofAction_deletions {listId : DeletionListId}
    (ran : fibers.collectDeletionsRefDetachMetadata root fiber listId = .ok records) :
    ∀ record ∈ records, record.OfAction .detach := by
  unfold collectDeletionsRefDetachMetadata at ran
  cases found : fibers.arena.deletionList listId with
  | none =>
    rw [found] at ran
    cases ran
  | some list =>
    rw [found, Option.elim_some, guard_eq_ok_iff] at ran
    obtain ⟨blocks, listed, finished⟩ := bind_eq_ok_iff.mp ran.2
    cases finished
    exact forall_mem_flatten_of_mapM_ok listed fun deleted _ block ranDeleted => ofAction_deleted ranDeleted

theorem ofAction_changed (ran : fibers.collectChangedRefDetachMetadata root node = .ok records) :
    ∀ record ∈ records, record.OfAction .detach := by
  unfold collectChangedRefDetachMetadata at ran
  split at ran
  · cases linked : node.alternate with
    | none =>
      rw [linked] at ran
      cases ran
      exact forall_mem_nil _
    | some current =>
      rw [linked, Option.elim_some] at ran
      obtain ⟨currentNode, -, ranRef⟩ := bind_eq_ok_iff.mp ran
      split at ranRef
      · exact ofAction_refDetach ranRef
      · cases ranRef
        exact forall_mem_nil _
  · cases ran
    exact forall_mem_nil _

theorem ofAction_detach (ran : fibers.collectRefDetachMetadata root rounds fiber = .ok records) :
    ∀ record ∈ records, record.OfAction .detach := by
  induction rounds generalizing fiber records with
  | zero =>
    cases ran
  | succ rounds ih =>
    obtain ⟨node, -, ranDeletions⟩ := bind_eq_ok_iff.mp ran
    obtain ⟨deletions, gathered, ranChildren⟩ := bind_eq_ok_iff.mp ranDeletions
    obtain ⟨children, -, ranBelow⟩ := bind_eq_ok_iff.mp ranChildren
    obtain ⟨below, listed, ranOwn⟩ := bind_eq_ok_iff.mp ranBelow
    obtain ⟨own, changed, finished⟩ := bind_eq_ok_iff.mp ranOwn
    cases finished
    have ofDeletions : ∀ record ∈ deletions, record.OfAction .detach := by
      cases listed : node.deletions with
      | none =>
        rw [listed] at gathered
        cases gathered
        exact forall_mem_nil _
      | some listId =>
        rw [listed] at gathered
        exact ofAction_deletions gathered
    have ofBelow := forall_mem_flatten_of_mapM_ok listed fun child _ block ranChild =>
      ih ranChild
    exact forall_mem_append.mpr
      ⟨forall_mem_append.mpr ⟨ofDeletions, ofBelow⟩, ofAction_changed changed⟩

theorem ofAction_attach (ran : fibers.collectRefAttachMetadata root rounds fiber = .ok records) :
    ∀ record ∈ records, record.OfAction .attach := by
  induction rounds generalizing fiber records with
  | zero =>
    cases ran
  | succ rounds ih =>
    obtain ⟨node, -, ranChildren⟩ := bind_eq_ok_iff.mp ran
    obtain ⟨children, -, ranBelow⟩ := bind_eq_ok_iff.mp ranChildren
    obtain ⟨below, listed, ranOwn⟩ := bind_eq_ok_iff.mp ranBelow
    obtain ⟨own, gathered, finished⟩ := bind_eq_ok_iff.mp ranOwn
    cases finished
    refine forall_mem_append.mpr ⟨?_, ?_⟩
    · exact forall_mem_flatten_of_mapM_ok listed fun child _ block ranChild => ih ranChild
    · unfold collectFiberRefAttachMetadata at gathered
      split at gathered
      · exact ofAction_refAttach gathered
      · cases gathered
        exact forall_mem_nil _

end RefFibers

/-- All refs of a snapshot are in the list of what is done with them. -/
structure PendingRefCommitSnapshot.Sorted (pending : PendingRefCommitSnapshot) : Prop where
  detach : ∀ record ∈ pending.detach, record.OfAction .detach
  attach : ∀ record ∈ pending.attach, record.OfAction .attach

variable {pending : PendingRefCommitSnapshot}

theorem RefFibers.sorted_collect {fibers : RefFibers} {root : FiberRootId} {finishedWork : FiberId}
    (ran : fibers.collectPendingRefCommitMetadata root finishedWork = .ok pending) :
    pending.Sorted := by
  obtain ⟨detach, ranDetach, ranRest⟩ := bind_eq_ok_iff.mp ran
  obtain ⟨attach, ranAttach, finished⟩ := bind_eq_ok_iff.mp ranRest
  cases finished
  exact ⟨ofAction_detach ranDetach, ofAction_attach ranAttach⟩

instance : IsPreorder HostFiberTokenStore HostFiberTokenStore.Grows where
  refl := HostFiberTokenStore.Grows.refl
  trans _ _ _ := HostFiberTokenStore.Grows.trans

theorem run_issueValidToken (root : FiberRootId) (fiber : FiberId) (phase : HostFiberTokenPhase)
    (target : HostFiberTokenTarget) (tokens : HostFiberTokenStore) :
    (issueValidToken root fiber phase target).run tokens =
      .ok (tokens.issue root fiber phase target).1 (tokens.issue root fiber phase target).2 := by
  have valid := validate_eq_ok_iff.mpr (@issued_issue tokens root fiber phase target)
  have checked : (query fun tokens' : HostFiberTokenStore =>
      (tokens'.validate (tokens.issue root fiber phase target).1 root fiber phase target).mapError
        HostCommitError.hostFiberToken).run (tokens.issue root fiber phase target).2 =
        .ok () (tokens.issue root fiber phase target).2 :=
    run_query_eq_ok_iff.mpr ⟨mapError_eq_ok_iff.mpr valid, rfl⟩
  exact run_bind_eq_ok_iff.mpr ⟨_, _, rfl, run_bind_eq_ok_iff.mpr ⟨_, _, checked, rfl⟩⟩

/-- The token of a ref is active in the scope its record names. -/
structure HostRootRefCommitRecord.Valid (record : HostRootRefCommitRecord)
    (tokens : HostFiberTokenStore) :
    Prop where
  phase : record.tokenPhase = domRefCallbackGateTokenPhase record.action
  target : record.tokenTarget = .hostInstance
  issued : tokens.Issued record.token record.root record.fiber record.tokenPhase record.tokenTarget

/-- A ref keeps its record under its token, which is valid. -/
def HostRootRefCommitRecord.Names (pending : PendingRefCommitRecord)
    (record : HostRootRefCommitRecord) (tokens : HostFiberTokenStore) : Prop :=
  record.toPendingRefCommitRecord = pending ∧ record.Valid tokens

theorem HostRootRefCommitRecord.Names.of_grows {pending : PendingRefCommitRecord}
    {record : HostRootRefCommitRecord} {before after : HostFiberTokenStore}
    (names : record.Names pending before) (grows : before.Grows after) :
    record.Names pending after :=
  ⟨names.1, names.2.phase, names.2.target, names.2.issued.of_grows grows⟩

theorem run_issueRefCommitRecord (pending : PendingRefCommitRecord) (tokens : HostFiberTokenStore) :
    ∃ record after, (issueRefCommitRecord pending).run tokens = .ok record after ∧
      tokens.Grows after ∧ record.Names pending after := by
  have ran := run_issueValidToken pending.root pending.fiber
    (domRefCallbackGateTokenPhase pending.action) .hostInstance tokens
  refine ⟨_, _, run_bind_eq_ok_iff.mpr ⟨_, _, ran, rfl⟩, grows_issue, rfl, ?_⟩
  exact ⟨rfl, rfl, issued_issue⟩

structure HostRootRefCommitRecord.Ready (record : HostRootRefCommitRecord)
    (action : HostRootRefCommitAction) (tokens : HostFiberTokenStore) :
    Prop where
  ofAction : record.OfAction action
  valid : record.Valid tokens

theorem ready_of_names {action : HostRootRefCommitAction} {pending : List PendingRefCommitRecord}
    {records : List HostRootRefCommitRecord} {tokens : HostFiberTokenStore}
    (ofAction : ∀ record ∈ pending, record.OfAction action)
    (named : List.Forall₂ (fun pending record => record.Names pending tokens) pending records) :
    ∀ record ∈ records, record.Ready action tokens := by
  induction named with
  | nil => exact forall_mem_nil _
  | cons names _ ih =>
    obtain ⟨own, ofRest⟩ := forall_mem_cons.mp ofAction
    refine forall_mem_cons.mpr ⟨⟨?_, names.2⟩, ih ofRest⟩
    rw [names.1]
    exact own

theorem run_issueRefCommitRecords (pending : List PendingRefCommitRecord)
    (tokens : HostFiberTokenStore) :
    ∃ records after, (pending.mapM issueRefCommitRecord).run tokens = .ok records after ∧
      tokens.Grows after ∧
      List.Forall₂ (fun pending record => HostRootRefCommitRecord.Names pending record after)
        pending records :=
  run_mapM_of_rounds (fun names grows => names.of_grows grows) run_issueRefCommitRecord pending tokens

theorem run_materializeRefCommitMetadata (sorted : pending.Sorted) (tokens : HostFiberTokenStore) :
    ∃ metadata after, (materializeRefCommitMetadata pending).run tokens = .ok metadata after ∧
      (∀ record ∈ metadata.detach, record.Ready .detach after) ∧
      ∀ record ∈ metadata.attach, record.Ready .attach after := by
  obtain ⟨detach, between, ranDetach, -, detached⟩ :=
    run_issueRefCommitRecords pending.detach tokens
  obtain ⟨attach, after, ranAttach, grows, attached⟩ :=
    run_issueRefCommitRecords pending.attach between
  refine ⟨⟨detach, attach⟩, after, ?_, ready_of_names sorted.detach ?_,
    ready_of_names sorted.attach attached⟩
  · exact run_bind_eq_ok_iff.mpr
      ⟨detach, between, ranDetach, run_bind_eq_ok_iff.mpr ⟨attach, after, ranAttach, rfl⟩⟩
  · exact detached.imp fun _ _ names => names.of_grows grows

namespace HostFiberTokenStore

variable {tokens : HostFiberTokenStore} {record : HostRootRefCommitRecord}

theorem validateRefToken_eq_ok (valid : record.Valid tokens) :
    tokens.validateRefToken record record.tokenPhase record.tokenTarget = .ok () :=
  mapError_eq_ok_iff.mpr (validate_eq_ok_iff.mpr valid.issued)

theorem domRefCallbackCommitGateRecord_eq_ok
    {action : HostRootRefCommitAction} (ready : record.Ready action tokens) (sequence : Nat) :
    ∃ gateRecord, tokens.domRefCallbackCommitGateRecord sequence record action = .ok gateRecord ∧
      gateRecord.Valid tokens := by
  obtain ⟨⟨isAction, hasReason⟩, valid⟩ := ready
  have reasonIsValid : detachReasonIsValid record = true := by
    rw [detachReasonIsValid, isAction]
    cases action with
    | detach => simpa using hasReason
    | attach => simpa using hasReason
  have checked := validateRefToken_eq_ok valid
  rw [valid.phase, valid.target] at checked
  refine ⟨⟨record, sequence, domRefCallbackGateBlockers⟩, ?_, valid⟩
  have inScope : ¬ (record.tokenPhase ≠ domRefCallbackGateTokenPhase record.action ∨
      record.tokenTarget ≠ .hostInstance) :=
    not_or.mpr ⟨not_not.mpr valid.phase, not_not.mpr valid.target⟩
  refine guard_eq_ok_iff.mpr ⟨not_not.mpr isAction, guard_eq_ok_iff.mpr ⟨inScope,
    guard_eq_ok_iff.mpr ⟨ne_false_of_eq_true reasonIsValid, ?_⟩⟩⟩
  exact bind_eq_ok_iff.mpr ⟨(), checked, rfl⟩

theorem materializeDomRefCallbackCommitGate_eq_ok {metadata : HostRootRefCommitSnapshot}
    (detaches : ∀ record ∈ metadata.detach, record.Ready .detach tokens)
    (attaches : ∀ record ∈ metadata.attach, record.Ready .attach tokens) :
    ∃ gate, tokens.materializeDomRefCallbackCommitGate metadata = .ok gate ∧
      ∀ record ∈ gate, record.Valid tokens := by
  obtain ⟨detach, ranDetach, validDetach⟩ := mapM_ok_of_forall fun entry member =>
    domRefCallbackCommitGateRecord_eq_ok (detaches entry.1 (fst_mem_of_mem_zipIdx member)) entry.2
  obtain ⟨attach, ranAttach, validAttach⟩ := mapM_ok_of_forall fun entry member =>
    domRefCallbackCommitGateRecord_eq_ok (attaches entry.1 (fst_mem_of_mem_zipIdx member)) entry.2
  refine ⟨detach ++ attach, ?_, forall_mem_append.mpr ⟨validDetach, validAttach⟩⟩
  exact bind_eq_ok_iff.mpr ⟨detach, ranDetach, bind_eq_ok_iff.mpr ⟨attach, ranAttach, rfl⟩⟩

theorem handOffRefCallback_eq_ok {handoff : HostRootRefCallbackExecutionHandoffSnapshot × Bool}
    {gateRecord : HostRootDomRefCallbackCommitGateRecord}
    (handedOff : ∀ record ∈ handoff.1.records, record.Valid tokens)
    (valid : gateRecord.Valid tokens) :
    ∃ after, tokens.handOffRefCallback handoff gateRecord = .ok after ∧
      ∀ record ∈ after.1.records, record.Valid tokens := by
  have checked := validateRefToken_eq_ok valid
  refine ⟨_, bind_eq_ok_iff.mpr ⟨_, bind_eq_ok_iff.mpr ⟨_, checked, rfl⟩, rfl⟩, ?_⟩
  exact forall_mem_append.mpr ⟨handedOff, forall_mem_singleton.mpr valid⟩

theorem materializeRefCallbackExecutionHandoff_eq_ok
    {gate : List HostRootDomRefCallbackCommitGateRecord}
    (valid : ∀ record ∈ gate, record.Valid tokens) :
    ∃ handoff, tokens.materializeRefCallbackExecutionHandoff gate = .ok handoff ∧
      ∀ record ∈ handoff.records, record.Valid tokens := by
  let handsOver (_ : List HostRootDomRefCallbackCommitGateRecord)
      (handoff : HostRootRefCallbackExecutionHandoffSnapshot × Bool) : Prop :=
    ∀ record ∈ handoff.1.records, record.Valid tokens
  have round : ∀ handled item rest handoff,
      gate = handled ++ item :: rest →
      handsOver handled handoff →
      ∃ after, tokens.handOffRefCallback handoff item = .ok after ∧
        handsOver (handled ++ [item]) after := by
    intro handled item rest handoff shape handedOff
    exact handOffRefCallback_eq_ok handedOff (valid item (by simp [shape]))
  have initially : handsOver [] (⟨[], 0, 0, 0⟩, false) := forall_mem_nil _
  obtain ⟨handoff, folded, handedOff⟩ := foldlM_ok_of_invariant handsOver round initially
  exact ⟨handoff.1, bind_eq_ok_iff.mpr ⟨handoff, folded, rfl⟩, handedOff⟩

theorem materializeRefCleanupReturnExecutionGate_eq_ok
    {handoff : HostRootRefCallbackExecutionHandoffSnapshot}
    (valid : ∀ record ∈ handoff.records, record.Valid tokens) :
    ∃ gate, tokens.materializeRefCleanupReturnExecutionGate handoff = .ok gate := by
  have gated : ∀ entry ∈ handoff.records.zipIdx, ∃ record,
      tokens.refCleanupReturnExecutionGateRecord entry.2 entry.1 = .ok record ∧ True := by
    intro entry member
    have checked := validateRefToken_eq_ok (valid entry.1 (fst_mem_of_mem_zipIdx member))
    exact ⟨_, bind_eq_ok_iff.mpr ⟨_, checked, rfl⟩, trivial⟩
  obtain ⟨records, ran, -⟩ := mapM_ok_of_forall gated
  exact ⟨_, bind_eq_ok_iff.mpr ⟨records, ran, rfl⟩⟩

end HostFiberTokenStore

end FastReact
