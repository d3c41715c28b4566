import FastReact.CommitAtOnce
import FastReact.DeletedHostNodes
import FastReact.RefTokenGates

namespace FastReact

open ErrorState HostFiberTokenStore

/-!
# Commits that fail

A commit that is refused by its checks or for want of a log has changed nothing.  Behind
them only one step can fail: issuing the token of a deleted host node to an alternate that
does not name it back.  By then the root has been switched over.
-/

namespace HostFibers

/-- A deleted host node has no state node, no alternate or one that names it back. -/
def HasTokenOwner (fibers : HostFibers) (fiber : FiberId) : Prop :=
  (fibers.stateNode fiber).isNone = true ∨
    ∀ alternate, fibers.arena.alternate? fiber = some alternate →
      fibers.arena.validateAlternatePair alternate fiber = .ok ()

end HostFibers

namespace HostCommitStore

variable {store : HostCommitStore} {render : HostRootRenderPhaseRecord}

/-- The checks of a commit pass, its logs are gathered and no other root has pending passive
effects in its place. -/
structure AcceptsCommit (store : HostCommitStore) (render : HostRootRenderPhaseRecord) :
    Prop where
  validated : validateFinishedHostRoot store.rootStore render = .ok ()
  gathered : ∃ logs, store.collectHostRootCommitLogs render = .ok logs
  ownPassive : ∀ root, store.rootStore.roots.get? render.root = some root →
    root.scheduling.pendingPassive.root = none ∨
      root.scheduling.pendingPassive.root = some render.root

/-- Nothing that a commit writes to has changed. -/
structure SameAfterCommit (before after : HostCommitStore) : Prop where
  roots : after.rootStore.roots = before.rootStore.roots
  updateQueues : after.rootStore.updateQueues = before.rootStore.updateQueues
  fiberArena : after.rootStore.fiberArena = before.rootStore.fiberArena
  hostTokens : after.hostTokens = before.hostTokens

theorem SameAfterCommit.refl (store : HostCommitStore) : store.SameAfterCommit store :=
  ⟨rfl, rfl, rfl, rfl⟩

end HostCommitStore

section Checks

variable {store : FiberRootStore} {render : HostRootRenderPhaseRecord}

theorem root_and_queue_of_validated (checked : validateFinishedHostRoot store render = .ok ()) :
    ∃ root queue, store.roots.get? render.root = some root ∧
      render.workInProgress ≠ root.current ∧ render.renderLanes.isEmpty = false ∧
      store.updateQueues.queue render.workInProgressUpdateQueue = .ok queue := by
  obtain ⟨root, rootRan, afterRoot⟩ := bind_eq_ok_iff.mp checked
  obtain ⟨_, work, afterWork⟩ := bind_eq_ok_iff.mp afterRoot
  obtain ⟨currentNode, -, afterCurrent⟩ := bind_eq_ok_iff.mp afterWork
  obtain ⟨finishedNode, -, afterNodes⟩ := bind_eq_ok_iff.mp afterCurrent
  obtain ⟨_, -, result⟩ := bind_eq_ok_iff.mp afterNodes
  -- The checks of the scheduling.
  obtain ⟨_, nonEmpty, afterLanes⟩ := bind_eq_ok_iff.mp work
  obtain ⟨_, -, afterSameCurrent⟩ := bind_eq_ok_iff.mp afterLanes
  obtain ⟨_, different, -⟩ := bind_eq_ok_iff.mp afterSameCurrent
  -- The checks of states and queues.
  obtain ⟨_, -, afterState⟩ := bind_eq_ok_iff.mp result
  obtain ⟨_, -, afterResolved⟩ := bind_eq_ok_iff.mp afterState
  obtain ⟨_, -, afterCurrentQueue⟩ := bind_eq_ok_iff.mp afterResolved
  obtain ⟨_, -, afterWorkQueue⟩ := bind_eq_ok_iff.mp afterCurrentQueue
  obtain ⟨_, -, afterFirst⟩ := bind_eq_ok_iff.mp afterWorkQueue
  obtain ⟨queue, queueRan, -⟩ := bind_eq_ok_iff.mp afterFirst
  refine ⟨root, queue, ?_, requireCommit_eq_ok_iff.mp different, ?_, mapError_eq_ok_iff.mp queueRan⟩
  · exact FiberRootStore.root_eq_ok_iff.mp (mapError_eq_ok_iff.mp rootRan)
  · simpa using requireCommit_eq_ok_iff.mp nonEmpty

theorem recordPendingPassiveCommitHandoff_eq_ok_iff {pending : PendingPassiveState}
    {root : FiberRootId} {finishedWork : FiberId} {lanes : Lanes}
    (nonEmpty : lanes.isEmpty = false) :
    (∃ recorded, recordPendingPassiveCommitHandoff pending root finishedWork lanes = .ok recorded) ↔
      pending.root = none ∨ pending.root = some root := by
  unfold recordPendingPassiveCommitHandoff
  cases owned : pending.root with
  | none => simp
  | some pendingRoot =>
    by_cases same : pendingRoot = root
    · simp [same, PendingPassiveState.recordCommitHandoff, owned, nonEmpty]
    · simp [same]

theorem run_switchToFinishedWork_of_refused {root : FiberRoot} {error : RootCommitError}
    (found : store.roots.get? render.root = some root)
    (refused : recordPendingPassiveCommitHandoff root.scheduling.pendingPassive render.root
      render.workInProgress render.renderLanes = .error error) :
    (switchToFinishedWork render).run store = .error error store := by
  rw [switchToFinishedWork, run_bind, run_getRoot found]
  dsimp only
  rw [run_bind, run_query, refused]

end Checks

section Parts

variable {α : Type} {store : HostCommitStore}

variable {after : HostFiberTokenStore} {body : RootCommitM α} {value : α}

theorem run_onCommitRootStore {after : FiberRootStore}
    (ran : body.run store.rootStore = .ok value after) :
    (onCommitRootStore body).run store = .ok value { store with rootStore := after } := by
  rw [onCommitRootStore, run_mapError, run_focus, ran]

theorem run_onCommitRootStore_error {error : RootCommitError} {after : FiberRootStore}
    (ran : body.run store.rootStore = .error error after) :
    (onCommitRootStore body).run store =
      .error (.mutation (.commit error)) { store with rootStore := after } := by
  rw [onCommitRootStore, run_mapError, run_focus, ran]

theorem run_onHostTokens {body : HostTokenM α} (ran : body.run store.hostTokens = .ok value after) :
    (onHostTokens body).run store = .ok value { store with hostTokens := after } := by
  rw [onHostTokens, run_focus, ran]

theorem run_onHostTokens_error {body : HostTokenM α} {error : HostCommitError}
    (ran : body.run store.hostTokens = .error error after) :
    (onHostTokens body).run store = .error error { store with hostTokens := after } := by
  rw [onHostTokens, run_focus, ran]

theorem run_onHostTokens_query {ask : HostFiberTokenStore → Except HostCommitError α}
    (asked : ask store.hostTokens = .ok value) :
    (onHostTokens (query ask)).run store = .ok value store :=
  run_onHostTokens (run_query_eq_ok_iff.mpr ⟨asked, rfl⟩)

end Parts

theorem deletionCleanupTokenOwner_eq_ok_iff {fibers : HostFibers}
    {pending : PendingHostRootDeletionCleanupRecord} {node : FiberNode}
    (resolved : fibers.arena.get pending.fiber = .ok node)
    (ofFiber : pending.stateNode = fibers.stateNode pending.fiber) :
    (∃ owner, deletionCleanupTokenOwner fibers.arena pending = .ok owner) ↔
      fibers.HasTokenOwner pending.fiber := by
  have linked : fibers.arena.alternate? pending.fiber = node.alternate := by
    rw [FiberArena.alternate?, FiberArena.get_eq_ok_iff.mp resolved]
    rfl
  rw [deletionCleanupTokenOwner, HostFibers.HasTokenOwner, ofFiber, linked, resolved]
  by_cases stateless : (fibers.stateNode pending.fiber).isNone = true
  · simp [stateless]
  · cases alternate : node.alternate with
    | none => simp [stateless, bind, Except.bind, alternate]
    | some owner =>
      rw [if_neg stateless]
      change (∃ found, (node.alternate.elim (.ok pending.fiber) fun owner => do
        fibers.arena.validateAlternatePair owner pending.fiber
        return owner) = .ok found) ↔ _
      rw [alternate, Option.elim_some]
      constructor
      · rintro ⟨found, ran⟩
        obtain ⟨_, valid, -⟩ := bind_eq_ok_iff.mp ran
        refine .inr fun other isOther => ?_
        cases isOther
        exact valid
      · rintro (impossible | valid)
        · exact absurd impossible stateless
        · exact ⟨owner, bind_eq_ok_iff.mpr ⟨(), valid owner rfl, rfl⟩⟩

theorem exists_run_materializeHostNodeDeletionCleanup_iff (arena : FiberArena)
    (log : List HostRootDeletionCleanupRecord) (pending : PendingHostRootDeletionCleanupRecord)
    (tokens : HostFiberTokenStore) :
    (∃ next after, (materializeHostNodeDeletionCleanup arena log pending).run tokens =
        .ok next after) ↔
      ∃ owner, deletionCleanupTokenOwner arena pending = .ok owner := by
  constructor
  · rintro ⟨next, after, ran⟩
    obtain ⟨owner, between, owned, -⟩ := run_bind_eq_ok_iff.mp ran
    exact ⟨owner, mapError_eq_ok_iff.mp (run_query_eq_ok_iff.mp owned).1⟩
  · rintro ⟨owner, owned⟩
    have asked : (query fun _ : HostFiberTokenStore =>
        (deletionCleanupTokenOwner arena pending).mapError fun error =>
          HostCommitError.mutation (.commit (.fiberTopology error))).run tokens = .ok owner tokens :=
      run_query_eq_ok_iff.mpr ⟨mapError_eq_ok_iff.mpr owned, rfl⟩
    have issued := run_issueValidToken pending.root owner .deletion pending.tokenTarget tokens
    exact ⟨_, _, run_bind_eq_ok_iff.mpr
      ⟨owner, tokens, asked, run_bind_eq_ok_iff.mpr ⟨_, _, issued, rfl⟩⟩⟩

theorem exists_run_materializeHostNodeDeletionCleanupLog_iff (arena : FiberArena)
    (pendingRecords : List PendingHostRootDeletionCleanupRecord) (tokens : HostFiberTokenStore) :
    (∃ log after, (materializeHostNodeDeletionCleanupLog arena pendingRecords).run tokens =
        .ok log after) ↔
      ∀ pending ∈ pendingRecords, ∃ owner, deletionCleanupTokenOwner arena pending = .ok owner :=
  exists_run_foldlM_iff
    (fun log pending state => exists_run_materializeHostNodeDeletionCleanup_iff arena log pending state)
    pendingRecords [] tokens

variable {store : HostCommitStore} {render : HostRootRenderPhaseRecord} {logs : HostRootCommitLogs}

/-- Among the cleanups that were gathered every one finds an owner for its token when every
deleted host node has one. -/
theorem owners_iff (gathered : store.collectHostRootCommitLogs render = .ok logs) :
    (∀ pending ∈ logs.pendingHostNodeDeletionCleanup,
        ∃ owner, deletionCleanupTokenOwner store.rootStore.fiberArena pending = .ok owner) ↔
      ∀ fiber, store.fibers.DeletedHostNode render.workInProgress fiber →
        store.fibers.HasTokenOwner fiber := by
  obtain ⟨_, -, ranMutations⟩ := bind_eq_ok_iff.mp gathered
  obtain ⟨_, -, ranLists⟩ := bind_eq_ok_iff.mp ranMutations
  obtain ⟨lists, listed, ranApply⟩ := bind_eq_ok_iff.mp ranLists
  obtain ⟨_, -, ranGate⟩ := bind_eq_ok_iff.mp ranApply
  obtain ⟨_, -, ranCleanup⟩ := bind_eq_ok_iff.mp ranGate
  obtain ⟨records, cleanedUp, ranRefs⟩ := bind_eq_ok_iff.mp ranCleanup
  obtain ⟨_, -, finished⟩ := bind_eq_ok_iff.mp ranRefs
  cases finished
  obtain ⟨stateNodes, isDeleted⟩ := HostFibers.mem_collectPendingHostNodeDeletionCleanup_iff
    (mapError_eq_ok_iff.mp listed) (mapError_eq_ok_iff.mp cleanedUp)
  -- A host node resolves, so that its record finds an owner as its fiber does.
  have owner_iff : ∀ record ∈ records,
      (∃ owner, deletionCleanupTokenOwner store.rootStore.fiberArena record = .ok owner) ↔
        store.fibers.HasTokenOwner record.fiber := by
    intro record member
    obtain ⟨deleted, -, -, isHost⟩ := (isDeleted record.fiber).mp (List.mem_map_of_mem member)
    unfold HostFibers.isHostNode at isHost
    cases got : store.fibers.toHostFibers.get record.fiber with
    | error error =>
      rw [got] at isHost
      cases isHost
    | ok node =>
      exact deletionCleanupTokenOwner_eq_ok_iff (mapError_eq_ok_iff.mp got)
        (stateNodes record member)
  constructor
  · intro owned fiber deleted
    obtain ⟨record, member, rfl⟩ := List.mem_map.mp ((isDeleted fiber).mpr deleted)
    exact (owner_iff record member).mp (owned record member)
  · intro owned record member
    exact (owner_iff record member).mpr
      (owned record.fiber ((isDeleted record.fiber).mp (List.mem_map_of_mem member)))

theorem run_commit_of_not_accepted (refused : ¬ store.AcceptsCommit render) :
    ∃ error, (commitFinishedHostTree render).run store = .error error store := by
  rw [commitFinishedHostTree, run_bind]
  cases checked : validateFinishedHostRoot store.rootStore render with
  | error error =>
    have failed : (query (validateFinishedHostRoot · render)).run store.rootStore =
        .error error store.rootStore := by
      rw [run_query, checked]
    rw [run_onCommitRootStore_error failed]
    exact ⟨_, rfl⟩
  | ok _ =>
    have passed : (query (validateFinishedHostRoot · render)).run store.rootStore =
        .ok () store.rootStore :=
      run_query_eq_ok_iff.mpr ⟨checked, rfl⟩
    rw [run_onCommitRootStore passed]
    dsimp only
    rw [run_bind, run_query]
    cases gathered : store.collectHostRootCommitLogs render with
    | error error => exact ⟨error, rfl⟩
    | ok logs =>
      obtain ⟨root, queue, found, -, nonEmpty, -⟩ := root_and_queue_of_validated checked
      dsimp only
      rw [run_bind]
      cases handedOff : recordPendingPassiveCommitHandoff root.scheduling.pendingPassive
          render.root render.workInProgress render.renderLanes with
      | error error =>
        rw [run_onCommitRootStore_error (run_switchToFinishedWork_of_refused found handedOff)]
        exact ⟨_, rfl⟩
      | ok recorded =>
        have owned := (recordPendingPassiveCommitHandoff_eq_ok_iff nonEmpty).mp
          ⟨recorded, handedOff⟩
        refine absurd ⟨checked, ⟨logs, gathered⟩, ?_⟩ refused
        intro other otherFound
        rw [found] at otherFound
        cases otherFound
        exact owned

theorem sorted_of_gathered (gathered : store.collectHostRootCommitLogs render = .ok logs) :
    logs.pendingRefCommitMetadata.Sorted := by
  obtain ⟨_, -, ranMutations⟩ := bind_eq_ok_iff.mp gathered
  obtain ⟨_, -, ranLists⟩ := bind_eq_ok_iff.mp ranMutations
  obtain ⟨_, -, ranApply⟩ := bind_eq_ok_iff.mp ranLists
  obtain ⟨_, -, ranGate⟩ := bind_eq_ok_iff.mp ranApply
  obtain ⟨_, -, ranCleanup⟩ := bind_eq_ok_iff.mp ranGate
  obtain ⟨_, -, ranRefs⟩ := bind_eq_ok_iff.mp ranCleanup
  obtain ⟨pending, collected, finished⟩ := bind_eq_ok_iff.mp ranRefs
  cases finished
  exact RefFibers.sorted_collect collected

/-- Once the tokens of the deleted host nodes are issued nothing fails any more. -/
theorem run_materializeHostTreeCommit (sorted : logs.pendingRefCommitMetadata.Sorted)
    (owned : ∀ pending ∈ logs.pendingHostNodeDeletionCleanup,
      ∃ owner, deletionCleanupTokenOwner store.rootStore.fiberArena pending = .ok owner)
    (record : HostRootCommitRecord) :
    ∃ result after, (materializeHostTreeCommit logs record).run store = .ok result after := by
  obtain ⟨log, between, logged⟩ := (exists_run_materializeHostNodeDeletionCleanupLog_iff
    store.rootStore.fiberArena logs.pendingHostNodeDeletionCleanup store.hostTokens).mpr owned
  obtain ⟨metadata, tokens, issued, detaches, attaches⟩ :=
    run_materializeRefCommitMetadata sorted between
  obtain ⟨gate, gated, gateValid⟩ := materializeDomRefCallbackCommitGate_eq_ok detaches attaches
  obtain ⟨handoff, handedOff, handoffValid⟩ :=
    materializeRefCallbackExecutionHandoff_eq_ok gateValid
  obtain ⟨cleanups, cleanedUp⟩ := materializeRefCleanupReturnExecutionGate_eq_ok handoffValid
  rw [materializeHostTreeCommit, run_bind, run_get]
  dsimp only
  rw [run_bind, run_onHostTokens logged]
  dsimp only
  rw [run_bind, run_onHostTokens issued]
  dsimp only
  rw [run_bind, run_onHostTokens_query gated]
  dsimp only
  rw [run_bind, run_onHostTokens_query handedOff]
  dsimp only
  rw [run_bind, run_onHostTokens_query cleanedUp]
  exact ⟨_, _, rfl⟩

theorem run_materializeHostTreeCommit_of_unowned
    (unowned : ¬ ∀ pending ∈ logs.pendingHostNodeDeletionCleanup,
      ∃ owner, deletionCleanupTokenOwner store.rootStore.fiberArena pending = .ok owner)
    (record : HostRootCommitRecord) :
    ∃ error tokens, (materializeHostTreeCommit logs record).run store =
      .error error { store with hostTokens := tokens } := by
  rw [← exists_run_materializeHostNodeDeletionCleanupLog_iff _ _ store.hostTokens] at unowned
  cases ran : (materializeHostNodeDeletionCleanupLog store.rootStore.fiberArena
      logs.pendingHostNodeDeletionCleanup).run store.hostTokens with
  | ok log after => exact absurd ⟨log, after, ran⟩ unowned
  | error error tokens =>
    refine ⟨error, tokens, ?_⟩
    rw [materializeHostTreeCommit, run_bind, run_get]
    dsimp only
    rw [run_bind, run_onHostTokens_error ran]

theorem run_commit_of_accepted (accepted : store.AcceptsCommit render) :
    ∃ root committed logs record switched,
      store.rootStore.roots.get? render.root = some root ∧
      switched.rootStore.roots.get? render.root = some committed ∧
      committed.current ≠ root.current ∧
      switched.rootStore.fiberArena = store.rootStore.fiberArena ∧
      store.collectHostRootCommitLogs render = .ok logs ∧
      (commitFinishedHostTree render).run store = (materializeHostTreeCommit logs record).run switched := by
  obtain ⟨checked, ⟨logs, gathered⟩, ownPassive⟩ := accepted
  obtain ⟨root, queue, found, different, nonEmpty, queueFound⟩ := root_and_queue_of_validated checked
  obtain ⟨recorded, handedOff⟩ := (recordPendingPassiveCommitHandoff_eq_ok_iff nonEmpty).mpr
    (ownPassive root found)
  obtain ⟨record, queues, switched⟩ := @run_switchToFinishedWork _ _ _ _ recorded.1 recorded.2
    found queueFound handedOff
  obtain ⟨after, isAfter⟩ : ∃ after : FiberRootStore, after = { store.rootStore with
    roots := store.rootStore.roots.modify render.root (·.committed render.workInProgress
      render.renderLanes render.remainingLanes recorded.2)
    updateQueues := queues } := ⟨_, rfl⟩
  rw [← isAfter] at switched
  have committedFound : after.roots.get? render.root = some (root.committed render.workInProgress
      render.renderLanes render.remainingLanes recorded.2) := by
    rw [isAfter, SlotArena.get?_modify, if_pos rfl, found]
    rfl
  have sameArena : after.fiberArena = store.rootStore.fiberArena := by rw [isAfter]
  have passed : (query (validateFinishedHostRoot · render)).run store.rootStore =
      .ok () store.rootStore :=
    run_query_eq_ok_iff.mpr ⟨checked, rfl⟩
  refine ⟨root, _, logs, record, { store with rootStore := after }, found, committedFound, different,
    sameArena, gathered, ?_⟩
  rw [commitFinishedHostTree, run_bind, run_onCommitRootStore passed]
  dsimp only
  rw [run_bind, run_query, gathered]
  dsimp only
  rw [run_bind, run_onCommitRootStore switched]

/-- A root with an update that is rendered. -/
def renderUpdatedRoot : List RootCommitCall := [
  .createClientRoot .none .concurrent,
  .ensureHostRootUpdateQueue ⟨0, 0⟩,
  .enqueueRootUpdate ⟨0, 0⟩ ⟨1⟩ Lane.default .none .none,
  .finishQueueingConcurrentUpdates,
  .renderHostRootForLanes ⟨0, 0⟩ Lanes.default]

/-- Delete a text below the finished HostRoot whose alternate was given to another text. -/
def deleteTextLeftBehind : FiberArenaM Unit := do
  let text ← createFiber .hostText none .none FiberMode.no
  let alternate ← createFiber .hostText none .none FiberMode.no
  let other ← createFiber .hostText none .none FiberMode.no
  linkAlternates alternate text
  linkAlternates alternate other
  setChildren ⟨1, 0⟩ [text]
  let _ ← markChildForDeletion ⟨1, 0⟩ text

def storeWithTextLeftBehind : HostCommitStore where
  rootStore :=
    stateAfter ((onFibers id deleteTextLeftBehind).run
      (renderUpdatedRoot.foldl FiberRootStore.perform .new))
  hostData :=
    { stateNode := fun fiber => ⟨fiber.slot + 1⟩
      subtreeFlags := fun _ => FiberFlags.no
      memoizedProps := fun _ => .none
      refHandle := fun _ => .none }
  hostTokens := .new

def renderWithTextLeftBehind : HostRootRenderPhaseRecord where
  root := ⟨0, 0⟩
  current := ⟨0, 0⟩
  workInProgress := ⟨1, 0⟩
  currentUpdateQueue := ⟨1⟩
  workInProgressUpdateQueue := ⟨2⟩
  renderLanes := Lanes.default
  memoizedState := ⟨2⟩
  resultingElement := ⟨1⟩
  appliedUpdateCount := 1
  skippedUpdateCount := 0
  remainingLanes := Lanes.no

/-- The current fiber of the first root, when a commit fails. -/
def currentAfterFailure {α : Type} :
    EStateM.Result HostCommitError HostCommitStore α → Option FiberId
  | .ok _ _ => none
  | .error _ after => (after.rootStore.roots.get? ⟨0, 0⟩).map (·.current)

end FastReact
