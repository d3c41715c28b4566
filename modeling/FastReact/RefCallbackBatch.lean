import FastReact.ErrorState
import FastReact.RefCallbackGateRuns

namespace FastReact

open ErrorState List

/-!
# Batches of ref callbacks

All records of a batch are checked against the component tree before they run one after
another.  The cleanup handles of its detaches are checked only when it is their turn.
-/

/-- Metadata of the gate; a detach may carry a cleanup function that has no handle. -/
structure RefBatchRecord where
  metadata : RefMetadata
  directCleanup : Option RefCleanupFunction
deriving DecidableEq

namespace RefBatchRecord

abbrev refHandle (record : RefBatchRecord) : RefHandle :=
  record.metadata.identity.refHandle

def isCallback (record : RefBatchRecord) : Bool :=
  record.metadata.identity.ref.isFunction

end RefBatchRecord

/-- The metadata is of the wrong kind, does not fit the component tree, or has a cleanup that
cannot be used. -/
inductive RefBatchError (TreeError : Type) where
  | actionMismatch (expected : RefAction)
  | componentTree (error : TreeError)
  | cleanup (error : RefCallbackGateError)

/-- A call of foreign code. -/
inductive RefCall where
  | attach (ref : RefValue)
  | nullDetach (ref : RefValue)
  | cleanupReturn (refCleanup : RefCleanupFunction)
deriving DecidableEq

/-- A call, how it ended, and the handle that it consumed or was given. -/
structure RefInvocation where
  call : RefCall
  completion : RefCompletion
  refCleanupHandle : Option CleanupReturnHandle

/-- A record with its call; object refs are skipped. -/
structure ControlledInvocationRecord where
  record : RefBatchRecord
  invocation : Option RefInvocation

structure ResolvedRefCleanup where
  refCleanup : RefCleanupFunction
  refCleanupHandle : Option CleanupReturnHandle

/-- The recorded cleanups, and the calls that have been made. -/
structure RefBatchState where
  store : RefCleanupStore
  calls : List RefCall

namespace RefCleanupStore

variable (store : RefCleanupStore) (record : RefBatchRecord)

/-- A cleanup function of the record itself is not checked. -/
def resolveRefCleanup : Except RefCallbackGateError (Option ResolvedRefCleanup) :=
  match record.directCleanup with
  | some function => .ok (some ⟨function, none⟩)
  | none => (store.resolveRefCleanupForDetachPayload record.metadata).map fun resolved =>
      resolved.map fun cleanup => ⟨cleanup.refCleanup, some cleanup.refCleanupHandle⟩

def consume : Option CleanupReturnHandle → RefCleanupStore
  | none => store
  | some handle => store.markRefCleanupReturnHandleConsumed handle

def recordReturn (identity : RefIdentity) : RefCompletion → RefCleanupStore
  | .returnedFunction function => store.recordRefCleanupReturnHandle identity function
  | _ => store

def recordedHandle : RefCompletion → Option CleanupReturnHandle
  | .returnedFunction _ => some store.nextCleanupReturnHandleSequence
  | _ => none

/-- A detach with a function of its own uses no handle. -/
def usedHandle : Option CleanupReturnHandle :=
  if record.directCleanup.isSome then none else store.handleFor record.metadata

def Refuses : Prop :=
  ∃ error, store.resolveRefCleanup record = .error error

/-- Behind other detaches a named handle is refused also when one of them used it, and a
stored one is refused unless one of the same ref used it. -/
def RefusesBehind (earlier : List RefBatchRecord) : Prop :=
  if record.metadata.refCleanup.isSome then
    store.Refuses record ∨ record.directCleanup = none ∧
      ∃ other ∈ earlier, store.usedHandle other = store.usedHandle record
  else
    store.Refuses record ∧ ∀ other ∈ earlier, other.refHandle = record.refHandle →
      store.usedHandle other ≠ store.usedHandle record

/-- One of the callback refs is refused behind those before it. -/
def RefusesSome : List RefBatchRecord → List RefBatchRecord → Prop
  | _, [] => False
  | earlier, record :: rest =>
      store.RefusesBehind record earlier ∨ RefusesSome (earlier ++ [record]) rest

def RefusesLater (records : List RefBatchRecord) : Prop :=
  ∃ first rest, records.filter (·.isCallback) = first :: rest ∧ ¬ store.Refuses first ∧
    store.RefusesSome [first] rest

end RefCleanupStore

section Gate

variable {TreeError : Type} (validate : RefBatchRecord → Except TreeError Unit)
  (foreign : List RefCall → RefCall → RefCompletion)

/-- How a call ends may depend on all calls before it. -/
def runControlledInvocation (record : RefBatchRecord) (state : RefBatchState) :
    EStateM.Result RefCallbackGateError RefBatchState (Option RefInvocation) :=
  let ended := foreign state.calls
  let ref := record.metadata.identity.ref
  if !record.isCallback then .ok none state
  else
    match record.metadata.action with
    | .attach =>
        .ok (some ⟨.attach ref, ended (.attach ref),
            state.store.recordedHandle (ended (.attach ref))⟩)
          ⟨state.store.recordReturn record.metadata.identity (ended (.attach ref)),
            state.calls ++ [.attach ref]⟩
    | .detach =>
        match state.store.resolveRefCleanup record with
        | .error error => .error error state
        | .ok none =>
            .ok (some ⟨.nullDetach ref, ended (.nullDetach ref), none⟩)
              ⟨state.store, state.calls ++ [.nullDetach ref]⟩
        | .ok (some cleanup) =>
            let call := .cleanupReturn cleanup.refCleanup
            .ok (some ⟨call, ended call, cleanup.refCleanupHandle⟩)
              ⟨state.store.consume cleanup.refCleanupHandle, state.calls ++ [call]⟩

def runControlledInvocations :
    List RefBatchRecord → RefBatchState →
      EStateM.Result RefCallbackGateError RefBatchState (List ControlledInvocationRecord)
  | [], state => .ok [] state
  | record :: rest, state =>
      match runControlledInvocation foreign record state with
      | .error error failed => .error error failed
      | .ok invocation after =>
          match runControlledInvocations rest after with
          | .error error failed => .error error failed
          | .ok invocations final => .ok (⟨record, invocation⟩ :: invocations) final

def assertPrivateMetadataPayload (expected : RefAction) (record : RefBatchRecord) :
    Except (RefBatchError TreeError) Unit :=
  if record.metadata.action = expected then .ok () else .error (.actionMismatch expected)

/-- All that is checked before the first record runs. -/
def validateMetadataSnapshot (detach attach : List RefBatchRecord) :
    Except (RefBatchError TreeError) Unit := do
  detach.forM (assertPrivateMetadataPayload .detach)
  attach.forM (assertPrivateMetadataPayload .attach)
  (detach ++ attach).forM fun record => (validate record).mapError .componentTree

def createRefCallbackControlledInvocationGateSnapshot (detach attach : List RefBatchRecord)
    (state : RefBatchState) :
    EStateM.Result (RefBatchError TreeError) RefBatchState (List ControlledInvocationRecord) :=
  match validateMetadataSnapshot validate detach attach with
  | .error error => .error error state
  | .ok () =>
      match runControlledInvocations foreign (detach ++ attach) state with
      | .error error failed => .error (.cleanup error) failed
      | .ok invocations final => .ok invocations final

end Gate

/-- A batch that throws has called nothing and consumed no handle; otherwise each record was
run in its turn, and the calls are those of the records. -/
def RunsNothingOrAll {ε : Type} (before : RefBatchState) (records : List RefBatchRecord) :
    EStateM.Result ε RefBatchState (List ControlledInvocationRecord) → Prop
  | .ok ran after => ran.map (·.record) = records ∧
      after.calls = before.calls ++ ran.filterMap (·.invocation.map (·.call))
  | .error _ after => after.calls = before.calls ∧
      after.store.consumedCleanupReturnHandles = before.store.consumedCleanupReturnHandles

namespace RefCleanupStore

variable {store current : RefCleanupStore} {record : RefBatchRecord} {earlier : List RefBatchRecord}
  {handle : CleanupReturnHandle} {identity : RefIdentity}

/-- The handle cannot be used for metadata. -/
def Rejects (store : RefCleanupStore) (handle : CleanupReturnHandle) (identity : RefIdentity) :
    Prop :=
  ∀ payload, store.cleanupReturnHandlePayloads handle = some payload →
    store.consumedCleanupReturnHandles handle = true ∨ payload.identity ≠ identity

theorem rejects_iff :
    store.Rejects handle identity ↔
      ∃ error, store.assertRefCleanupHandleForMetadata handle identity = .error error := by
  unfold Rejects
  cases asserted : store.assertRefCleanupHandleForMetadata handle identity with
  | ok payload =>
    obtain ⟨found, unconsumed, same⟩ := assertRefCleanupHandleForMetadata_eq_ok_iff.mp asserted
    simp [found, unconsumed, same]
  | error error =>
    refine iff_of_true (fun payload found => ?_) ⟨error, rfl⟩
    by_contra usable
    push Not at usable
    have accepted := assertRefCleanupHandleForMetadata_eq_ok_iff.mpr
      ⟨found, eq_false_of_ne_true usable.1, usable.2⟩
    cases asserted.symm.trans accepted

/-- What becomes of a detach: it has its own function, no cleanup at all, or a handle. -/
theorem resolveRefCleanup_cases (store : RefCleanupStore) (record : RefBatchRecord) :
    (store.usedHandle record = none ∧ ∃ cleanup, store.resolveRefCleanup record = .ok cleanup ∧
      ∀ resolved, cleanup = some resolved → resolved.refCleanupHandle = none) ∨
    ∃ handle, store.usedHandle record = some handle ∧
      ((store.Rejects handle record.metadata.identity ∧
          ∃ error, store.resolveRefCleanup record = .error error) ∨
        ∃ function payload, store.resolveRefCleanup record = .ok (some ⟨function, some handle⟩) ∧
          store.cleanupReturnHandlePayloads handle = some payload ∧
          store.consumedCleanupReturnHandles handle = false ∧
          payload.identity = record.metadata.identity) := by
  unfold usedHandle resolveRefCleanup
  cases record.directCleanup with
  | some function => exact .inl ⟨rfl, _, rfl, by simp⟩
  | none =>
    rcases store.resolve_cases record.metadata with ⟨unnamed, unresolved⟩ |
      ⟨handle, named, ⟨error, asserted, refused⟩ | ⟨payload, cleanup, asserted, resolved, -, rfl⟩⟩
    · exact .inl ⟨unnamed, none, by simp [unresolved, Except.map], by simp⟩
    · exact .inr ⟨handle, named, .inl ⟨rejects_iff.mpr ⟨error, asserted⟩, error,
        by simp [refused, Except.map]⟩⟩
    · exact .inr ⟨_, named, .inr ⟨cleanup.refCleanup, payload, by simp [resolved, Except.map],
        assertRefCleanupHandleForMetadata_eq_ok_iff.mp asserted⟩⟩

theorem refuses_iff :
    store.Refuses record ↔ ∃ handle, store.usedHandle record = some handle ∧
      store.Rejects handle record.metadata.identity := by
  unfold Refuses
  rcases store.resolveRefCleanup_cases record with
    ⟨unused, cleanup, resolved, -⟩ | ⟨handle, used, ⟨rejects, error, refused⟩ |
      ⟨function, payload, resolved, found, unconsumed, same⟩⟩
  · simp [unused, resolved]
  · simpa [used, refused] using rejects
  · simp [Rejects, used, resolved, found, unconsumed, same]

/-- The store behind detaches of callback refs that were not refused. -/
structure Behind (store : RefCleanupStore) (earlier : List RefBatchRecord)
    (current : RefCleanupStore) : Prop where
  payloads : current.cleanupReturnHandlePayloads = store.cleanupReturnHandlePayloads
  used : ∀ other ∈ earlier, ∀ handle, store.usedHandle other = some handle →
    ∃ payload, store.cleanupReturnHandlePayloads handle = some payload ∧
      payload.identity.refHandle = other.refHandle
  consumed : ∀ handle, current.consumedCleanupReturnHandles handle = true ↔
    store.consumedCleanupReturnHandles handle = true ∨
      ∃ other ∈ earlier, store.usedHandle other = some handle
  stored : ∀ refHandle handle, current.cleanupReturnHandlesByRefHandle refHandle = some handle ↔
    store.cleanupReturnHandlesByRefHandle refHandle = some handle ∧
      ∀ other ∈ earlier, other.refHandle = refHandle → store.usedHandle other ≠ some handle

namespace Behind

theorem start : store.Behind [] store where
  payloads := rfl
  used := by simp
  consumed := by simp
  stored := by simp

section

variable (behind : store.Behind earlier current)
include behind

theorem rejects_iff :
    current.Rejects handle identity ↔ store.Rejects handle identity ∨
      ∃ other ∈ earlier, store.usedHandle other = some handle := by
  unfold Rejects
  rw [behind.payloads]
  simp only [behind.consumed]
  constructor
  · intro rejects
    by_cases taken : ∃ other ∈ earlier, store.usedHandle other = some handle
    · exact .inr taken
    · exact .inl fun payload found => by simpa [taken] using rejects payload found
  · rintro (rejects | taken) payload found
    · exact (rejects payload found).imp_left .inl
    · exact .inl (.inr taken)

theorem usedHandle_eq_some_iff :
    current.usedHandle record = some handle ↔ store.usedHandle record = some handle ∧
      (record.metadata.refCleanup = none → ∀ other ∈ earlier,
        other.refHandle = record.refHandle → store.usedHandle other ≠ some handle) := by
  rw [usedHandle, usedHandle]
  cases record.directCleanup with
  | some function => simp
  | none =>
    rw [handleFor, handleFor]
    cases record.metadata.refCleanup with
    | some cleanup => simp
    | none => simpa using behind.stored record.metadata.identity.refHandle handle

theorem refuses_iff : current.Refuses record ↔ store.RefusesBehind record earlier := by
  unfold RefusesBehind
  rw [RefCleanupStore.refuses_iff, RefCleanupStore.refuses_iff]
  simp only [behind.usedHandle_eq_some_iff, behind.rejects_iff]
  cases named : record.metadata.refCleanup with
  | some cleanup =>
    have own : record.directCleanup = none ↔
        ∃ handle, store.usedHandle record = some handle := by
      unfold usedHandle handleFor
      cases record.directCleanup <;> simp [named]
    simp only [Option.isSome_some, if_true, own]
    grind
  | none =>
    -- A handle that was used for another ref does not fit the metadata.
    have foreign (other) (member : other ∈ earlier)
        (apart : other.refHandle ≠ record.refHandle) (handle)
        (used : store.usedHandle other = some handle) :
        store.Rejects handle record.metadata.identity := by
      obtain ⟨payload, found, sameRef⟩ := behind.used other member handle used
      rintro _ again
      obtain rfl := Option.some.inj (found.symm.trans again)
      exact .inr fun same => apart (sameRef.symm.trans (congrArg _ same))
    simp only [Option.isSome_none, Bool.false_eq_true, if_false]
    grind

theorem snoc {cleanup : Option ResolvedRefCleanup}
    (resolved : current.resolveRefCleanup record = .ok cleanup) :
    store.Behind (earlier ++ [record]) (current.consume (cleanup.bind (·.refCleanupHandle))) := by
  rcases current.resolveRefCleanup_cases record with
    ⟨unused, other, same, noHandle⟩ | ⟨handle, uses, ⟨-, error, refused⟩ |
      ⟨function, payload, same, found, unconsumed, fits⟩⟩
  · cases same.symm.trans resolved
    have noHandle : cleanup.bind (·.refCleanupHandle) = none := by
      cases cleanup with
      | none => rfl
      | some cleanup => exact noHandle cleanup rfl
    -- Where the store had a handle, an earlier detach of the ref used it.
    have taken (handle) (uses : store.usedHandle record = some handle) :
        ∃ other ∈ earlier, other.refHandle = record.refHandle ∧
          store.usedHandle other = some handle := by
      have gone := mt behind.usedHandle_eq_some_iff.mpr (by simp [unused] :
        current.usedHandle record ≠ some handle)
      grind
    obtain ⟨payloads, used, consumed, stored⟩ := behind
    rw [noHandle]
    constructor <;> grind [consume]
  · cases refused.symm.trans resolved
  · cases same.symm.trans resolved
    have uses := (behind.usedHandle_eq_some_iff.mp uses).1
    obtain ⟨payloads, used, consumed, stored⟩ := behind
    have sameRef : payload.identity.refHandle = record.refHandle := congrArg _ fits
    change store.Behind _ (current.markRefCleanupReturnHandleConsumed handle)
    constructor
    · exact payloads
    · grind
    · simp only [markRefCleanupReturnHandleConsumed]
      grind
    · simp only [markRefCleanupReturnHandleConsumed, found]
      grind

end

end Behind

end RefCleanupStore

section Runs

variable {TreeError : Type} {validate : RefBatchRecord → Except TreeError Unit}
  {foreign : List RefCall → RefCall → RefCompletion} {store : RefCleanupStore}
  {record : RefBatchRecord} {earlier records detach attach : List RefBatchRecord}
  {state : RefBatchState}

theorem actions_of_valid (valid : validateMetadataSnapshot validate detach attach = .ok ()) :
    (∀ record ∈ detach, record.metadata.action = .detach) ∧
      ∀ record ∈ attach, record.metadata.action = .attach := by
  rw [validateMetadataSnapshot, bind_eq_ok_iff] at valid
  obtain ⟨⟨⟩, detaches, rest⟩ := valid
  rw [bind_eq_ok_iff] at rest
  obtain ⟨⟨⟩, attaches, -⟩ := rest
  exact ⟨fun record member => demand_eq_ok_iff.mp (forM_eq_ok_iff.mp detaches record member),
    fun record member => demand_eq_ok_iff.mp (forM_eq_ok_iff.mp attaches record member)⟩

/-- Object refs are skipped, refused detaches leave everything as it was, and any other record
calls foreign code once. -/
theorem runControlledInvocation_cases :
    (record.isCallback = false ∧ runControlledInvocation foreign record state = .ok none state) ∨
    (record.isCallback = true ∧ record.metadata.action = .detach ∧
      state.store.Refuses record ∧
      ∃ error, runControlledInvocation foreign record state = .error error state) ∨
    record.isCallback = true ∧ ∃ invocation after,
      runControlledInvocation foreign record state = .ok (some invocation) after ∧
      after.calls = state.calls ++ [invocation.call] ∧
      (record.metadata.action = .detach → ∃ cleanup,
        state.store.resolveRefCleanup record = .ok cleanup ∧
        after.store = state.store.consume (cleanup.bind (·.refCleanupHandle))) := by
  unfold runControlledInvocation RefCleanupStore.Refuses
  cases callback : record.isCallback with
  | false => simp
  | true =>
    cases record.metadata.action with
    | attach => simp
    | detach =>
      cases state.store.resolveRefCleanup record with
      | error error => simp
      | ok cleanup => cases cleanup <;> simp [RefCleanupStore.consume]

/-- All records run, or the first callback is refused and nothing happens, or it is not and
calls foreign code. -/
theorem runControlledInvocations_cases :
    (∃ ran after, runControlledInvocations foreign records state = .ok ran after ∧
      ran.map (·.record) = records ∧
      after.calls = state.calls ++ ran.filterMap (·.invocation.map (·.call))) ∨
    ∃ error after first rest, runControlledInvocations foreign records state =
        .error error after ∧ records.filter (·.isCallback) = first :: rest ∧
      (∃ record ∈ records, record.metadata.action = .detach) ∧
      (state.store.Refuses first ∧ after = state ∨
        (first.metadata.action = .detach → ¬ state.store.Refuses first) ∧
          state.calls.length < after.calls.length) := by
  induction records generalizing state with
  | nil => exact .inl ⟨[], state, rfl, rfl, by simp⟩
  | cons record rest ih =>
    rw [runControlledInvocations]
    rcases @runControlledInvocation_cases foreign record state with
      ⟨object, skipped⟩ | ⟨callback, detaches, refuses, error, refused⟩ |
        ⟨callback, invocation, after, ran, calls, detached⟩
    · rw [filter_cons_of_neg (by simp [object])]
      rcases @ih state with ⟨ran, final, run, all, called⟩ |
        ⟨error, final, first, later, run, found, ⟨other, member, action⟩, left⟩
      · simp [skipped, run, all, called]
      · simp only [skipped, run]
        exact .inr ⟨error, final, first, later, rfl, found,
          ⟨other, mem_cons_of_mem _ member, action⟩, left⟩
    · rw [filter_cons_of_pos callback]
      simp only [refused]
      exact .inr ⟨error, state, record, _, rfl, rfl, ⟨record, mem_cons_self, detaches⟩,
        .inl ⟨refuses, rfl⟩⟩
    · rw [filter_cons_of_pos callback]
      have accepted (action : record.metadata.action = .detach) :
          ¬ state.store.Refuses record := by
        obtain ⟨cleanup, resolved, -⟩ := detached action
        rintro ⟨error, refused⟩
        cases refused.symm.trans resolved
      rcases @ih after with ⟨ran, final, run, all, called⟩ |
        ⟨error, final, _, _, run, -, ⟨other, member, action⟩, left⟩
      · simp [*]
      · have longer : state.calls.length < final.calls.length := by
          have here : after.calls.length = state.calls.length + 1 := by
            rw [calls, length_append, length_singleton]
          rcases left with ⟨-, rfl⟩ | ⟨-, grows⟩
          · omega
          · omega
        simp only [ran, run]
        exact .inr ⟨error, final, record, _, rfl, rfl, ⟨other, mem_cons_of_mem _ member, action⟩,
          .inr ⟨accepted, longer⟩⟩

/-- A batch throws exactly when one of its detaches is refused behind those before it. -/
theorem runControlledInvocations_error_iff (behind : store.Behind earlier state.store)
    (detaches : ∀ record ∈ detach, record.metadata.action = .detach)
    (attaches : ∀ record ∈ attach, record.metadata.action = .attach) :
    (∃ error after, runControlledInvocations foreign (detach ++ attach) state =
        .error error after) ↔
      store.RefusesSome earlier (detach.filter (·.isCallback)) := by
  induction detach generalizing earlier state with
  | nil =>
    rcases @runControlledInvocations_cases foreign attach state with
      ⟨ran, after, run, -⟩ | ⟨_, _, _, _, -, -, ⟨record, member, action⟩, -⟩
    · simp [run, RefCleanupStore.RefusesSome]
    · cases action.symm.trans (attaches record member)
  | cons record rest ih =>
    rw [forall_mem_cons] at detaches
    rw [cons_append, runControlledInvocations]
    rcases @runControlledInvocation_cases foreign record state with
      ⟨object, skipped⟩ | ⟨callback, -, refuses, error, refused⟩ |
        ⟨callback, invocation, after, ran, -, detached⟩
    · rw [filter_cons_of_neg (by simp [object]), ← ih behind detaches.2]
      simp only [skipped]
      cases runControlledInvocations foreign (rest ++ attach) state <;> simp
    · rw [filter_cons_of_pos callback]
      exact iff_of_true ⟨error, state, by simp [refused]⟩ (.inl (behind.refuses_iff.mp refuses))
    · obtain ⟨cleanup, resolved, same⟩ := detached detaches.1
      have accepted : ¬ store.RefusesBehind record earlier := by
        rw [← behind.refuses_iff]
        rintro ⟨error, refused⟩
        cases refused.symm.trans resolved
      rw [filter_cons_of_pos callback, RefCleanupStore.RefusesSome, or_iff_right accepted,
        ← ih (same ▸ behind.snoc resolved) detaches.2]
      simp only [ran]
      cases runControlledInvocations foreign (rest ++ attach) after <;> simp

theorem runsNothingOrAll_iff (detaches : ∀ record ∈ detach, record.metadata.action = .detach)
    (attaches : ∀ record ∈ attach, record.metadata.action = .attach) :
    RunsNothingOrAll state (detach ++ attach)
        (runControlledInvocations foreign (detach ++ attach) state) ↔
      ¬ state.store.RefusesLater detach := by
  have errors := @runControlledInvocations_error_iff foreign _ _ detach attach state
    .start detaches attaches
  unfold RefCleanupStore.RefusesLater
  rcases @runControlledInvocations_cases foreign (detach ++ attach) state with
    ⟨ran, after, run, all⟩ | ⟨error, after, first, rest, run, found, -, left⟩
  · simp only [run]
    refine iff_of_true all ?_
    rintro ⟨first, rest, split, -, refuses⟩
    rw [split] at errors
    simpa [run] using errors.mpr (.inr refuses)
  · simp only [run]
    have refused := errors.mp ⟨error, after, run⟩
    rw [filter_append] at found
    cases callbacks : detach.filter (·.isCallback) with
    | nil =>
      rw [callbacks] at refused
      exact refused.elim
    | cons head others =>
      rw [callbacks, cons_append] at found
      obtain ⟨rfl, -⟩ := cons.inj found
      rw [callbacks] at refused
      rcases left with ⟨refuses, rfl⟩ | ⟨accepted, longer⟩
      · refine iff_of_true ⟨rfl, rfl⟩ ?_
        rintro ⟨_, _, ⟨rfl, rfl⟩, accepted, -⟩
        exact accepted refuses
      · have member : head ∈ detach :=
          mem_of_mem_filter (callbacks ▸ mem_cons_self : head ∈ detach.filter (·.isCallback))
        have accepted := accepted (detaches head member)
        refine iff_of_false (fun nothing => ?_) fun none => none
          ⟨head, others, rfl, accepted, refused.resolve_left fun behind => ?_⟩
        · exact Nat.ne_of_gt longer (congrArg length nothing.1)
        · exact accepted (RefCleanupStore.Behind.start.refuses_iff.mpr behind)

end Runs

end FastReact
