import FastReact.ActionRun
import FastReact.RefCallbackGate

namespace FastReact

open List RefCleanupStore RefEvent RefGateWorld

/-!
# Ref cleanups run once and replace the null call

A cleanup that has been called is consumed or still running, so that a detach calls it again
only when it resolves to a cleanup in progress. A ref whose attaches and detaches alternate
holds the cleanup of its last attach, and every other handle of it is spent.
-/

variable {store : RefCleanupStore} {metadata : RefMetadata}

namespace RefCleanupStore

/-- Handles are issued in order, and a stored one belongs to its ref and waits for its detach. -/
structure Sound (store : RefCleanupStore) : Prop where
  issued : ∀ handle payload, store.cleanupReturnHandlePayloads handle = some payload →
    handle < store.nextCleanupReturnHandleSequence
  consumedIssued : ∀ handle, store.consumedCleanupReturnHandles handle = true →
    handle < store.nextCleanupReturnHandleSequence
  stored : ∀ refHandle handle, store.cleanupReturnHandlesByRefHandle refHandle = some handle →
    store.consumedCleanupReturnHandles handle = false ∧
      ∃ payload, store.cleanupReturnHandlePayloads handle = some payload ∧
        payload.identity.refHandle = refHandle

/-- Payloads are never changed, and a consumed handle stays consumed. -/
structure Extends (store later : RefCleanupStore) : Prop where
  payloads : ∀ handle payload, store.cleanupReturnHandlePayloads handle = some payload →
    later.cleanupReturnHandlePayloads handle = some payload
  consumed : ∀ handle, store.consumedCleanupReturnHandles handle = true →
    later.consumedCleanupReturnHandles handle = true

variable {handle : CleanupReturnHandle} {identity : RefIdentity}
variable {payload : CleanupReturnHandlePayload} {cleanup : RefCleanup}

theorem Sound.new : Sound .new where
  issued := by simp [RefCleanupStore.new]
  consumedIssued := by simp [RefCleanupStore.new]
  stored := by simp [RefCleanupStore.new]

theorem assertRefCleanupHandleForMetadata_eq_ok_iff :
    store.assertRefCleanupHandleForMetadata handle identity = .ok payload ↔
      store.cleanupReturnHandlePayloads handle = some payload ∧
        store.consumedCleanupReturnHandles handle = false ∧ payload.identity = identity := by
  rw [assertRefCleanupHandleForMetadata]
  cases found : store.cleanupReturnHandlePayloads handle with
  | none => simp
  | some other =>
    by_cases consumed : store.consumedCleanupReturnHandles handle = true
    · simp [consumed]
    · by_cases same : other.identity = identity
      · simp only [consumed, same, Bool.false_eq_true, if_false, ne_eq, not_true_eq_false,
          Except.ok.injEq, Option.some.injEq, true_and]
        constructor
        · rintro rfl
          exact ⟨rfl, same⟩
        · exact fun both => both.1
      · simp only [consumed, same, Bool.false_eq_true, if_false, ne_eq, not_false_eq_true, if_true,
          Option.some.injEq, reduceCtorEq, false_iff]
        rintro ⟨rfl, _, same'⟩
        exact same same'

/-- The handle that a detach names, or else the one that is stored for its ref. -/
def handleFor (store : RefCleanupStore) (metadata : RefMetadata) : Option CleanupReturnHandle :=
  match metadata.refCleanup with
  | some cleanup => some cleanup.refCleanupHandle
  | none => store.cleanupReturnHandlesByRefHandle metadata.identity.refHandle

theorem resolve_cases (store : RefCleanupStore) (metadata : RefMetadata) :
    (store.handleFor metadata = none ∧
      store.resolveRefCleanupForDetachPayload metadata = .ok none) ∨
    ∃ handle, store.handleFor metadata = some handle ∧
      ((∃ error, store.assertRefCleanupHandleForMetadata handle metadata.identity = .error error ∧
          store.resolveRefCleanupForDetachPayload metadata = .error error) ∨
        ∃ payload cleanup,
          store.assertRefCleanupHandleForMetadata handle metadata.identity = .ok payload ∧
          store.resolveRefCleanupForDetachPayload metadata = .ok (some cleanup) ∧
          cleanup = metadata.refCleanup.getD ⟨payload.cleanupReturn, handle⟩ ∧
          cleanup.refCleanupHandle = handle) := by
  unfold handleFor resolveRefCleanupForDetachPayload resolveStoredRefCleanupForDetachPayload
  cases metadata.refCleanup with
  | some cleanup =>
    refine .inr ⟨cleanup.refCleanupHandle, rfl, ?_⟩
    cases asserted : store.assertRefCleanupHandleForMetadata cleanup.refCleanupHandle
        metadata.identity <;>
      simp [asserted, Except.map]
  | none =>
    cases store.cleanupReturnHandlesByRefHandle metadata.identity.refHandle with
    | none => simp
    | some handle =>
      refine .inr ⟨handle, rfl, ?_⟩
      cases asserted : store.assertRefCleanupHandleForMetadata handle metadata.identity <;>
        simp [asserted, Except.map]

/-- What a detach resolves to is not consumed and belongs to the metadata's identity. -/
theorem resolve_eq_some
    (captured : ∀ cleanup, metadata.refCleanup = some cleanup →
      store.cleanupReturnHandlePayloads cleanup.refCleanupHandle =
        some { cleanupReturn := cleanup.refCleanup, identity := metadata.identity })
    (resolved : store.resolveRefCleanupForDetachPayload metadata = .ok (some cleanup)) :
    store.cleanupReturnHandlePayloads cleanup.refCleanupHandle =
        some { cleanupReturn := cleanup.refCleanup, identity := metadata.identity } ∧
      store.consumedCleanupReturnHandles cleanup.refCleanupHandle = false := by
  rcases store.resolve_cases metadata with
    ⟨-, none⟩ | ⟨handle, named, ⟨error, -, refused⟩ | ⟨payload, _, asserted, same, rfl, -⟩⟩
  · cases none.symm.trans resolved
  · cases refused.symm.trans resolved
  · cases same.symm.trans resolved
    obtain ⟨found, unconsumed, fits⟩ := assertRefCleanupHandleForMetadata_eq_ok_iff.mp asserted
    cases own : metadata.refCleanup with
    | some other =>
      simp only [handleFor, own, Option.some.injEq] at named
      subst named
      exact ⟨captured other own, unconsumed⟩
    | none =>
      rw [← fits]
      exact ⟨found, unconsumed⟩

theorem resolve_eq_none (resolved : store.resolveRefCleanupForDetachPayload metadata = .ok none) :
    store.cleanupReturnHandlesByRefHandle metadata.identity.refHandle = none := by
  rcases store.resolve_cases metadata with
    ⟨unnamed, -⟩ | ⟨handle, -, ⟨error, -, refused⟩ | ⟨payload, _, -, same, -⟩⟩
  · cases own : metadata.refCleanup <;> simp_all [handleFor]
  · cases refused.symm.trans resolved
  · cases same.symm.trans resolved

/-- A detach is refused for its own handle only after that handle has been consumed. -/
theorem resolve_eq_error {error : RefCallbackGateError} (sound : store.Sound)
    (captured : ∀ cleanup, metadata.refCleanup = some cleanup →
      store.cleanupReturnHandlePayloads cleanup.refCleanupHandle =
        some { cleanupReturn := cleanup.refCleanup, identity := metadata.identity })
    (refused : store.resolveRefCleanupForDetachPayload metadata = .error error) :
    (metadata.refCleanup ≠ none ∧ error = .consumedRefCleanupHandle) ∨
      ∃ handle payload,
        store.cleanupReturnHandlePayloads handle = some payload ∧
          payload.identity.refHandle = metadata.identity.refHandle ∧ payload.identity ≠ metadata.identity := by
  rcases store.resolve_cases metadata with
    ⟨-, none⟩ | ⟨handle, named, ⟨other, asserted, same⟩ | ⟨payload, _, -, same, -⟩⟩
  · cases none.symm.trans refused
  · cases same.symm.trans refused
    cases own : metadata.refCleanup with
    | some cleanup =>
      simp only [handleFor, own, Option.some.injEq] at named
      subst named
      rw [assertRefCleanupHandleForMetadata, captured cleanup own] at asserted
      exact .inl ⟨Option.some_ne_none _, by grind⟩
    | none =>
      simp only [handleFor, own] at named
      obtain ⟨unconsumed, payload, found, sameRef⟩ := sound.stored _ _ named
      refine .inr ⟨handle, payload, found, sameRef, fun fits => ?_⟩
      cases asserted.symm.trans
        (assertRefCleanupHandleForMetadata_eq_ok_iff.mpr ⟨found, unconsumed, fits⟩)
  · cases same.symm.trans refused

theorem markConsumed_stored_of_ne {refHandle : RefHandle}
    (other : store.cleanupReturnHandlesByRefHandle refHandle ≠ some handle) :
    (store.markRefCleanupReturnHandleConsumed handle).cleanupReturnHandlesByRefHandle refHandle =
      store.cleanupReturnHandlesByRefHandle refHandle := by
  simp [markRefCleanupReturnHandleConsumed, other]

theorem Sound.markConsumed (sound : store.Sound)
    (known : store.cleanupReturnHandlePayloads handle = some payload) :
    (store.markRefCleanupReturnHandleConsumed handle).Sound where
  issued := sound.issued
  consumedIssued := by
    intro other consumed
    simp only [markRefCleanupReturnHandleConsumed, Bool.or_eq_true, decide_eq_true_eq] at consumed
    rcases consumed with rfl | consumed
    · exact sound.issued other payload known
    · exact sound.consumedIssued other consumed
  stored := by
    intro refHandle other stored
    simp only [markRefCleanupReturnHandleConsumed] at stored
    split at stored
    · exact absurd stored (by simp)
    · rename_i kept
      obtain ⟨unconsumed, otherPayload, found, sameRef⟩ := sound.stored refHandle other stored
      refine ⟨?_, otherPayload, found, sameRef⟩
      have different : other ≠ handle := by
        rintro rfl
        obtain rfl := Option.some.inj (found.symm.trans known)
        simp [known, sameRef, stored] at kept
      simp [markRefCleanupReturnHandleConsumed, different, unconsumed]

theorem extends_markConsumed : store.Extends (store.markRefCleanupReturnHandleConsumed handle) where
  payloads := fun _ _ found => found
  consumed := by
    intro other consumed
    simp [markRefCleanupReturnHandleConsumed, consumed]

/-- What recording a returned cleanup does to the maps. -/
structure Records (store : RefCleanupStore) (identity : RefIdentity) (function : RefCleanupFunction)
    (later : RefCleanupStore) : Prop where
  sound : later.Sound
  extends_ : store.Extends later
  next : later.nextCleanupReturnHandleSequence = store.nextCleanupReturnHandleSequence + 1
  payload_new : later.cleanupReturnHandlePayloads store.nextCleanupReturnHandleSequence =
    some { cleanupReturn := function, identity := identity }
  payload_old : ∀ handle, handle ≠ store.nextCleanupReturnHandleSequence →
    later.cleanupReturnHandlePayloads handle = store.cleanupReturnHandlePayloads handle
  stored_new : later.cleanupReturnHandlesByRefHandle identity.refHandle =
    some store.nextCleanupReturnHandleSequence
  stored_old : ∀ refHandle, refHandle ≠ identity.refHandle →
    later.cleanupReturnHandlesByRefHandle refHandle = store.cleanupReturnHandlesByRefHandle refHandle

variable {function : RefCleanupFunction} {refHandle : RefHandle}

theorem Sound.issue (sound : store.Sound) : (store.issueCleanupReturnHandle identity function).Sound where
  issued := by
    intro other payload found
    simp only [issueCleanupReturnHandle] at found ⊢
    split at found
    · rename_i new
      exact new ▸ Nat.lt_succ_self _
    · exact Nat.lt_succ_of_lt (sound.issued other payload found)
  consumedIssued := fun other consumed => Nat.lt_succ_of_lt (sound.consumedIssued other consumed)
  stored := by
    intro refHandle other stored
    obtain ⟨unconsumed, payload, found, sameRef⟩ := sound.stored refHandle other stored
    refine ⟨unconsumed, payload, ?_, sameRef⟩
    have old := Nat.ne_of_lt (sound.issued other payload found)
    simp [issueCleanupReturnHandle, old, found]

theorem Sound.extends_issue (sound : store.Sound) (identity : RefIdentity)
    (function : RefCleanupFunction) :
    store.Extends (store.issueCleanupReturnHandle identity function) where
  payloads := by
    intro other payload found
    have old := Nat.ne_of_lt (sound.issued other payload found)
    simp [issueCleanupReturnHandle, old, found]
  consumed := fun _ consumed => consumed

theorem Sound.retirePrevious (sound : store.Sound) : (store.retirePreviousHandle refHandle).Sound := by
  rw [retirePreviousHandle]
  cases previous : store.cleanupReturnHandlesByRefHandle refHandle with
  | none => exact sound
  | some handle =>
    obtain ⟨_, payload, found, _⟩ := sound.stored refHandle handle previous
    exact sound.markConsumed found

theorem extends_retirePrevious (store : RefCleanupStore) (refHandle : RefHandle) :
    store.Extends (store.retirePreviousHandle refHandle) := by
  rw [retirePreviousHandle]
  cases store.cleanupReturnHandlesByRefHandle refHandle with
  | none => exact ⟨fun _ _ found => found, fun _ consumed => consumed⟩
  | some handle => exact extends_markConsumed

@[simp]
theorem payloads_retirePrevious :
    (store.retirePreviousHandle refHandle).cleanupReturnHandlePayloads = store.cleanupReturnHandlePayloads := by
  rw [retirePreviousHandle]
  cases store.cleanupReturnHandlesByRefHandle refHandle <;> rfl

@[simp]
theorem next_retirePrevious :
    (store.retirePreviousHandle refHandle).nextCleanupReturnHandleSequence =
      store.nextCleanupReturnHandleSequence := by
  rw [retirePreviousHandle]
  cases store.cleanupReturnHandlesByRefHandle refHandle <;> rfl

theorem consumed_retirePrevious_of_unstored
    (unstored : store.cleanupReturnHandlesByRefHandle refHandle ≠ some handle) :
    (store.retirePreviousHandle refHandle).consumedCleanupReturnHandles handle =
      store.consumedCleanupReturnHandles handle := by
  rw [retirePreviousHandle]
  cases previous : store.cleanupReturnHandlesByRefHandle refHandle with
  | none => rfl
  | some other =>
    have different : handle ≠ other := by
      rintro rfl
      exact unstored previous
    simp [markRefCleanupReturnHandleConsumed, different]

theorem Sound.stored_retirePrevious (sound : store.Sound) {other : RefHandle}
    (different : other ≠ refHandle) :
    (store.retirePreviousHandle refHandle).cleanupReturnHandlesByRefHandle other =
      store.cleanupReturnHandlesByRefHandle other := by
  rw [retirePreviousHandle]
  cases previous : store.cleanupReturnHandlesByRefHandle refHandle with
  | none => rfl
  | some handle =>
    apply markConsumed_stored_of_ne
    intro same
    obtain ⟨_, payload, found, ofRef⟩ := sound.stored refHandle handle previous
    obtain ⟨_, otherPayload, otherFound, ofOther⟩ := sound.stored other handle same
    obtain rfl := Option.some.inj (found.symm.trans otherFound)
    exact different (ofOther.symm.trans ofRef)

theorem Sound.records (sound : store.Sound) (identity : RefIdentity)
    (function : RefCleanupFunction) :
    Records store identity function (store.recordRefCleanupReturnHandle identity function) := by
  have issued : (store.issueCleanupReturnHandle identity function).Sound := sound.issue
  have retired :
      ((store.issueCleanupReturnHandle identity function).retirePreviousHandle identity.refHandle).Sound :=
    issued.retirePrevious
  have payloadNew : ((store.issueCleanupReturnHandle identity function).retirePreviousHandle
      identity.refHandle).cleanupReturnHandlePayloads store.nextCleanupReturnHandleSequence =
        some { cleanupReturn := function, identity := identity } := by
    simp [issueCleanupReturnHandle]
  have unconsumedNew : ((store.issueCleanupReturnHandle identity function).retirePreviousHandle
      identity.refHandle).consumedCleanupReturnHandles store.nextCleanupReturnHandleSequence = false := by
    rw [consumed_retirePrevious_of_unstored]
    · apply Bool.eq_false_iff.mpr
      intro consumed
      exact Nat.lt_irrefl _ (sound.consumedIssued _ consumed)
    · intro stored
      obtain ⟨_, payload, found, _⟩ := sound.stored _ _ stored
      exact Nat.lt_irrefl _ (sound.issued _ payload found)
  constructor
  · constructor
    · exact retired.issued
    · exact retired.consumedIssued
    · intro refHandle other stored
      simp only [recordRefCleanupReturnHandle, storeCleanupReturnHandle] at stored
      split at stored
      · rename_i own
        obtain rfl := Option.some.inj stored
        exact ⟨unconsumedNew, _, payloadNew, own.symm⟩
      · exact retired.stored refHandle other stored
  · have first := sound.extends_issue identity function
    have second := extends_retirePrevious (store.issueCleanupReturnHandle identity function) identity.refHandle
    exact ⟨fun other payload found => second.payloads other payload (first.payloads other payload found),
      fun other consumed => second.consumed other (first.consumed other consumed)⟩
  · simp [recordRefCleanupReturnHandle, storeCleanupReturnHandle, issueCleanupReturnHandle]
  · exact payloadNew
  · intro handle old
    simp [recordRefCleanupReturnHandle, storeCleanupReturnHandle, issueCleanupReturnHandle, old]
  · simp [recordRefCleanupReturnHandle, storeCleanupReturnHandle]
  · intro refHandle different
    have kept := issued.stored_retirePrevious different
    simp only [recordRefCleanupReturnHandle, storeCleanupReturnHandle, different, if_false]
    exact kept

end RefCleanupStore

theorem RefCleanupStore.captured_of_created {action : RefAction} {identity : RefIdentity}
    {refCleanupHandle : Option CleanupReturnHandle}
    (created : store.createRefCallbackMetadataRecord action identity refCleanupHandle = .ok metadata) :
    ∀ cleanup, metadata.refCleanup = some cleanup →
      store.cleanupReturnHandlePayloads cleanup.refCleanupHandle =
        some { cleanupReturn := cleanup.refCleanup, identity := metadata.identity } := by
  intro cleanup own
  cases refCleanupHandle with
  | none =>
    obtain rfl := Except.ok.inj created
    exact absurd own (by simp)
  | some handle =>
    simp only [createRefCallbackMetadataRecord] at created
    split at created
    · exact absurd created (by simp)
    · split at created
      · exact absurd created (by simp)
      · split at created
        · exact absurd created (by simp)
        · cases asserted : store.assertRefCleanupHandleForMetadata handle identity with
          | error error => simp [asserted, Except.map] at created
          | ok payload =>
            obtain ⟨found, _, same⟩ := assertRefCleanupHandleForMetadata_eq_ok_iff.mp asserted
            simp only [asserted, Except.map, Except.ok.injEq] at created
            subst created
            obtain rfl := Option.some.inj own
            rw [← same]
            exact found

def GateFrame.cleanupHandle? : GateFrame → Option CleanupReturnHandle
  | .cleanupReturn cleanup => some cleanup.refCleanupHandle
  | _ => none

def GateFrame.invocation? : GateFrame → Option Nat
  | .attach _ invocation => some invocation
  | _ => none

def RefEvent.cleanupHandle? : RefEvent → Option CleanupReturnHandle
  | .cleanupCalled _ cleanup => some cleanup.refCleanupHandle
  | _ => none

/-- The handles whose cleanups are running, innermost first. -/
def runningCleanups (frames : List GateFrame) : List CleanupReturnHandle :=
  frames.filterMap GateFrame.cleanupHandle?

/-- The positions of the attaches that are running, innermost first. -/
def runningAttaches (frames : List GateFrame) : List Nat :=
  frames.filterMap GateFrame.invocation?

theorem mem_runningCleanups {frames : List GateFrame} {handle : CleanupReturnHandle} :
    handle ∈ runningCleanups frames ↔
      ∃ cleanup, .cleanupReturn cleanup ∈ frames ∧ cleanup.refCleanupHandle = handle := by
  constructor
  · intro running
    obtain ⟨frame, member, own⟩ := mem_filterMap.mp running
    cases frame with
    | cleanupReturn cleanup => exact ⟨cleanup, member, Option.some.inj own⟩
    | _ => cases own
  · rintro ⟨cleanup, member, rfl⟩
    exact mem_filterMap.mpr ⟨_, member, rfl⟩

def cleanupCalls (log : List RefEvent) : List CleanupReturnHandle :=
  log.filterMap RefEvent.cleanupHandle?

/-- No cleanup that an attach returned has been called twice. -/
def CleanupsRunOnce (world : RefGateWorld) : Prop :=
  (cleanupCalls world.log).Nodup

/-- The next detach of the innermost gate call does not resolve to a cleanup that is still running. -/
def LeavesRunningCleanups (world : RefGateWorld) (action : RefGateAction) : Prop :=
  action = .runNext →
    ∀ metadata remaining below cleanup,
      world.frames = .gate (metadata :: remaining) :: below → metadata.action = .detach →
      metadata.identity.ref.isFunction = true →
      world.store.resolveRefCleanupForDetachPayload metadata = .ok (some cleanup) →
      cleanup.refCleanupHandle ∉ runningCleanups world.frames

namespace RefGateWorld

/-- What a step can do to the world. -/
inductive StepsTo (world : RefGateWorld) : RefGateAction → RefGateWorld → Prop where
  | idle (action : RefGateAction) (notNext : action ≠ .runNext) : StepsTo world action world
  | stuck (noGate : ∀ records below, world.frames ≠ .gate records :: below) : StepsTo world .runNext world
  | createMetadata {action : RefAction} {identity : RefIdentity}
      {refCleanupHandle : Option CleanupReturnHandle} {metadata : RefMetadata}
      (created : world.store.createRefCallbackMetadataRecord action identity refCleanupHandle = .ok metadata) :
      StepsTo world (.createMetadata action identity refCleanupHandle)
        { world with metadataRecords := world.metadataRecords ++ [metadata] }
  | callGate {detach attach : List RefMetadata}
      (genuine : ∀ metadata ∈ detach ++ attach, metadata ∈ world.metadataRecords) :
      StepsTo world (.callGate detach attach)
        { world with frames := .gate (detach ++ attach) :: world.frames }
  | leaveGate {below : List GateFrame}
      (frames_eq : world.frames = .gate [] :: below) :
      StepsTo world .runNext { world with frames := below }
  | skipObjectRef {metadata : RefMetadata} {remaining : List RefMetadata} {below : List GateFrame}
      (frames_eq : world.frames = .gate (metadata :: remaining) :: below)
      (object : metadata.identity.ref.isFunction = false) :
      StepsTo world .runNext
        { world with
          frames := .gate remaining :: below
          log := world.log ++ [.objectRefSkipped metadata] }
  | callAttach {metadata : RefMetadata} {remaining : List RefMetadata} {below : List GateFrame}
      (frames_eq : world.frames = .gate (metadata :: remaining) :: below)
      (attaches : metadata.action = .attach) :
      StepsTo world .runNext
        { world with
          frames := .attach metadata world.log.length :: .gate remaining :: below
          log := world.log ++ [.attachCalled metadata] }
  | refuseDetach {metadata : RefMetadata} {remaining : List RefMetadata} {below : List GateFrame}
      {error : RefCallbackGateError}
      (frames_eq : world.frames = .gate (metadata :: remaining) :: below)
      (refused : world.store.resolveRefCleanupForDetachPayload metadata = .error error) :
      StepsTo world .runNext
        { world with
          frames := below
          log := world.log ++ [.detachRefused metadata error] }
  | callCleanup {metadata : RefMetadata} {remaining : List RefMetadata} {below : List GateFrame}
      {cleanup : RefCleanup} (frames_eq : world.frames = .gate (metadata :: remaining) :: below)
      (detaches : metadata.action = .detach) (callback : metadata.identity.ref.isFunction = true)
      (resolved : world.store.resolveRefCleanupForDetachPayload metadata = .ok (some cleanup)) :
      StepsTo world .runNext
        { world with
          frames := .cleanupReturn cleanup :: .gate remaining :: below
          log := world.log ++ [.cleanupCalled metadata cleanup] }
  | callNull {metadata : RefMetadata} {remaining : List RefMetadata} {below : List GateFrame}
      (frames_eq : world.frames = .gate (metadata :: remaining) :: below)
      (resolved : world.store.resolveRefCleanupForDetachPayload metadata = .ok none) :
      StepsTo world .runNext
        { world with
          frames := .nullDetach metadata :: .gate remaining :: below
          log := world.log ++ [.nullCalled metadata] }
  | keepCleanup {metadata : RefMetadata} {invocation : Nat} {below : List GateFrame}
      {function : RefCleanupFunction}
      (frames_eq : world.frames = .attach metadata invocation :: below) :
      StepsTo world (.complete (.returnedFunction function))
        { world with
          store := world.store.recordRefCleanupReturnHandle metadata.identity function
          frames := below
          log := world.log ++ [.attachEnded invocation (some (world.store.nextCleanup function))] }
  | keepNothing {metadata : RefMetadata} {invocation : Nat} {below : List GateFrame}
      {completion : RefCompletion}
      (frames_eq : world.frames = .attach metadata invocation :: below) :
      StepsTo world (.complete completion)
        { world with
          frames := below
          log := world.log ++ [.attachEnded invocation none] }
  | leaveNullDetach {metadata : RefMetadata} {below : List GateFrame} {completion : RefCompletion}
      (frames_eq : world.frames = .nullDetach metadata :: below) :
      StepsTo world (.complete completion) { world with frames := below }
  | leaveCleanup {cleanup : RefCleanup} {below : List GateFrame} {completion : RefCompletion}
      (frames_eq : world.frames = .cleanupReturn cleanup :: below) :
      StepsTo world (.complete completion)
        { world with
          store := world.store.markRefCleanupReturnHandleConsumed cleanup.refCleanupHandle
          frames := below }

variable {world : RefGateWorld}

theorem stepsTo_createMetadata (action : RefAction) (identity : RefIdentity)
    (refCleanupHandle : Option CleanupReturnHandle) :
    StepsTo world (.createMetadata action identity refCleanupHandle)
      (world.step (.createMetadata action identity refCleanupHandle)) := by
  rw [step]
  split
  · rw [createMetadata]
    cases created : world.store.createRefCallbackMetadataRecord action identity refCleanupHandle with
    | error error => exact .idle _ (by simp)
    | ok metadata => exact .createMetadata created
  · exact .idle _ (by simp)

theorem stepsTo_callGate (detach attach : List RefMetadata) :
    StepsTo world (.callGate detach attach) (world.step (.callGate detach attach)) := by
  rw [step]
  split
  · rw [callGate]
    split
    · rename_i accepted
      apply StepsTo.callGate
      intro metadata member
      simp only [Bool.and_eq_true, all_eq_true, accepts, any_eq_true, decide_eq_true_eq] at accepted
      rcases mem_append.mp member with inDetach | inAttach
      · obtain ⟨_, known, knownMember, rfl⟩ := accepted.1 metadata inDetach
        exact knownMember
      · obtain ⟨_, known, knownMember, rfl⟩ := accepted.2 metadata inAttach
        exact knownMember
    · exact .idle _ (by simp)
  · exact .idle _ (by simp)

theorem stepsTo_runNext : StepsTo world .runNext (world.step .runNext) := by
  rw [step, runNext]
  split
  · exact .leaveGate ‹_›
  · rename_i metadata remaining below frames_eq
    rw [runControlledInvocation]
    cases callback : metadata.identity.ref.isFunction with
    | false => exact .skipObjectRef frames_eq callback
    | true =>
      cases action : metadata.action with
      | attach => exact .callAttach frames_eq action
      | detach =>
        cases resolved : world.store.resolveRefCleanupForDetachPayload metadata with
        | error error => exact .refuseDetach frames_eq resolved
        | ok cleanup =>
          cases cleanup with
          | none => exact .callNull frames_eq resolved
          | some cleanup => exact .callCleanup frames_eq action callback resolved
  · rename_i noEmpty noRecord
    apply StepsTo.stuck
    intro records below frames_eq
    cases records with
    | nil => exact noEmpty below frames_eq
    | cons metadata remaining => exact noRecord metadata remaining below frames_eq

theorem stepsTo_complete (completion : RefCompletion) :
    StepsTo world (.complete completion) (world.step (.complete completion)) := by
  rw [step, complete]
  split
  · cases completion with
    | returnedFunction function => exact .keepCleanup ‹_›
    | returnedValue => exact .keepNothing ‹_›
    | threw => exact .keepNothing ‹_›
  · exact .leaveNullDetach ‹_›
  · exact .leaveCleanup ‹_›
  · exact .idle _ (by simp)

theorem stepsTo (world : RefGateWorld) (action : RefGateAction) :
    StepsTo world action (world.step action) := by
  cases action with
  | createMetadata action identity refCleanupHandle => exact stepsTo_createMetadata ..
  | callGate detach attach => exact stepsTo_callGate ..
  | runNext => exact stepsTo_runNext
  | complete completion => exact stepsTo_complete completion

/-- What holds in every world, whatever the foreign code does. -/
structure Sound (world : RefGateWorld) : Prop where
  store : world.store.Sound
  captured : ∀ metadata ∈ world.metadataRecords, ∀ cleanup, metadata.refCleanup = some cleanup →
    world.store.cleanupReturnHandlePayloads cleanup.refCleanupHandle =
      some { cleanupReturn := cleanup.refCleanup, identity := metadata.identity }
  remaining : ∀ records, .gate records ∈ world.frames → ∀ metadata ∈ records, metadata ∈ world.metadataRecords
  running : ∀ cleanup, .cleanupReturn cleanup ∈ world.frames →
    cleanup.refCleanupHandle ∈ cleanupCalls world.log ∧
      ∃ payload, world.store.cleanupReturnHandlePayloads cleanup.refCleanupHandle = some payload
  called : ∀ handle ∈ cleanupCalls world.log,
    world.store.consumedCleanupReturnHandles handle = true ∨ handle ∈ runningCleanups world.frames
  attaching : ∀ metadata invocation, .attach metadata invocation ∈ world.frames →
    world.log[invocation]? = some (.attachCalled metadata) ∧
      ∀ cleanup, .attachEnded invocation cleanup ∉ world.log
  attachesApart : (runningAttaches world.frames).Nodup
  ended : ∀ invocation cleanup, .attachEnded invocation cleanup ∈ world.log → invocation < world.log.length
  origin : ∀ handle payload, world.store.cleanupReturnHandlePayloads handle = some payload →
    ∃ metadata, .attachCalled metadata ∈ world.log ∧ metadata.identity = payload.identity

namespace Sound

theorem new : new.Sound where
  store := RefCleanupStore.Sound.new
  captured := by simp [RefGateWorld.new]
  remaining := by simp [RefGateWorld.new]
  running := by simp [RefGateWorld.new]
  called := by simp [RefGateWorld.new, cleanupCalls]
  attaching := by simp [RefGateWorld.new]
  attachesApart := by simp [RefGateWorld.new, runningAttaches]
  ended := by simp [RefGateWorld.new]
  origin := by simp [RefGateWorld.new, RefCleanupStore.new]

variable {below : List GateFrame} {remaining : List RefMetadata}

section

variable (sound : world.Sound) (frames_eq : world.frames = .gate (metadata :: remaining) :: below)
include sound frames_eq

theorem genuine :
    ∀ cleanup, metadata.refCleanup = some cleanup →
      world.store.cleanupReturnHandlePayloads cleanup.refCleanupHandle =
        some { cleanupReturn := cleanup.refCleanup, identity := metadata.identity } :=
  sound.captured metadata
    (sound.remaining (metadata :: remaining) (frames_eq ▸ mem_cons_self) metadata mem_cons_self)

theorem rest :
    ∀ records, .gate records ∈ GateFrame.gate remaining :: below →
      ∀ metadata ∈ records, metadata ∈ world.metadataRecords := by
  intro records member
  rcases mem_cons.mp member with same | old
  · intro metadata known
    exact sound.remaining _ (frames_eq ▸ mem_cons_self) metadata
      (mem_cons_of_mem _ (GateFrame.gate.inj same ▸ known))
  · exact sound.remaining records (frames_eq ▸ mem_cons_of_mem _ old)

theorem rest_push {frame : GateFrame} (notGate : ∀ records, .gate records ≠ frame) :
    ∀ records, .gate records ∈ frame :: .gate remaining :: below →
      ∀ metadata ∈ records, metadata ∈ world.metadataRecords := by
  intro records member
  rcases mem_cons.mp member with same | member
  · exact absurd same (notGate records)
  · exact sound.rest frames_eq records member

end

theorem attachesApart_below (sound : world.Sound) {records : List RefMetadata}
    (frames_eq : world.frames = .gate records :: below) : (runningAttaches below).Nodup := by
  have apart := sound.attachesApart
  rw [frames_eq] at apart
  exact apart

theorem attaching_append (sound : world.Sound) {invocation : Nat} {more : List RefEvent}
    (running : .attach metadata invocation ∈ world.frames)
    (notEnded : ∀ cleanup, .attachEnded invocation cleanup ∉ more) :
    (world.log ++ more)[invocation]? = some (.attachCalled metadata) ∧
      ∀ cleanup, .attachEnded invocation cleanup ∉ world.log ++ more := by
  obtain ⟨found, unended⟩ := sound.attaching metadata invocation running
  constructor
  · rw [List.getElem?_append_left (List.getElem?_eq_some_iff.mp found).1, found]
  · intro cleanup member
    rcases mem_append.mp member with old | new
    · exact unended cleanup old
    · exact notEnded cleanup new

/-- Frames that are pushed or popped over the same maps, with events that call no cleanup. -/
theorem move (frames : List GateFrame) (more : List RefEvent) (sound : world.Sound)
    (records : ∀ records, .gate records ∈ frames → ∀ metadata ∈ records, metadata ∈ world.metadataRecords)
    (cleanups : ∀ cleanup, .cleanupReturn cleanup ∈ frames ↔ .cleanupReturn cleanup ∈ world.frames)
    (attaches : ∀ metadata invocation, .attach metadata invocation ∈ frames →
      (world.log ++ more)[invocation]? = some (.attachCalled metadata) ∧
        ∀ cleanup, .attachEnded invocation cleanup ∉ world.log ++ more)
    (apart : (runningAttaches frames).Nodup) (silent : cleanupCalls more = [])
    (ended : ∀ invocation cleanup, .attachEnded invocation cleanup ∈ more → invocation < world.log.length) :
    { world with frames := frames, log := world.log ++ more }.Sound where
  store := sound.store
  captured := sound.captured
  remaining := records
  running := by
    intro cleanup running
    obtain ⟨called, known⟩ := sound.running cleanup ((cleanups cleanup).mp running)
    refine ⟨?_, known⟩
    simp only [cleanupCalls, filterMap_append, mem_append]
    exact .inl called
  called := by
    intro handle called
    simp only [cleanupCalls, filterMap_append] at called silent
    rw [silent, append_nil] at called
    rcases sound.called handle called with consumed | running
    · exact .inl consumed
    · obtain ⟨cleanup, member, own⟩ := mem_runningCleanups.mp running
      exact .inr (mem_runningCleanups.mpr ⟨cleanup, (cleanups cleanup).mpr member, own⟩)
  attaching := attaches
  attachesApart := apart
  ended := by
    intro invocation cleanup member
    rw [length_append]
    rcases mem_append.mp member with old | new
    · exact Nat.lt_add_right _ (sound.ended invocation cleanup old)
    · exact Nat.lt_add_right _ (ended invocation cleanup new)
  origin := by
    intro handle payload found
    obtain ⟨metadata, called, same⟩ := sound.origin handle payload found
    exact ⟨metadata, mem_append_left _ called, same⟩

/-- The handles of the world are known and spent as before when the store extends. -/
theorem extend (later : RefCleanupStore) (frames : List GateFrame) (more : List RefEvent)
    (sound : world.Sound) (laterSound : later.Sound) (extends_ : world.store.Extends later)
    (suffix : ∃ popped, world.frames = popped :: frames)
    (spent : ∀ cleanup, world.frames = .cleanupReturn cleanup :: frames →
      later.consumedCleanupReturnHandles cleanup.refCleanupHandle = true)
    (silent : cleanupCalls more = [])
    (unended : ∀ metadata invocation, .attach metadata invocation ∈ frames →
      ∀ cleanup, .attachEnded invocation cleanup ∉ more)
    (ended : ∀ invocation cleanup, .attachEnded invocation cleanup ∈ more → invocation < world.log.length)
    (origin : ∀ handle payload, later.cleanupReturnHandlePayloads handle = some payload →
      world.store.cleanupReturnHandlePayloads handle = some payload ∨
        ∃ metadata, .attachCalled metadata ∈ world.log ∧ metadata.identity = payload.identity) :
    { world with store := later, frames := frames, log := world.log ++ more }.Sound where
  store := laterSound
  captured := by
    intro metadata member cleanup own
    exact extends_.payloads _ _ (sound.captured metadata member cleanup own)
  remaining := by
    obtain ⟨popped, frames_eq⟩ := suffix
    intro records member
    exact sound.remaining records (frames_eq ▸ mem_cons_of_mem _ member)
  running := by
    obtain ⟨popped, frames_eq⟩ := suffix
    intro cleanup running
    obtain ⟨called, payload, known⟩ := sound.running cleanup (frames_eq ▸ mem_cons_of_mem _ running)
    refine ⟨?_, payload, extends_.payloads _ _ known⟩
    simp only [cleanupCalls, filterMap_append, mem_append]
    exact .inl called
  called := by
    obtain ⟨popped, frames_eq⟩ := suffix
    intro handle called
    simp only [cleanupCalls, filterMap_append] at called silent
    rw [silent, append_nil] at called
    rcases sound.called handle called with consumed | running
    · exact .inl (extends_.consumed handle consumed)
    · obtain ⟨cleanup, member, rfl⟩ := mem_runningCleanups.mp running
      rcases mem_cons.mp (frames_eq ▸ member) with rfl | below
      · exact .inl (spent cleanup frames_eq)
      · exact .inr (mem_runningCleanups.mpr ⟨cleanup, below, rfl⟩)
  attaching := by
    obtain ⟨popped, frames_eq⟩ := suffix
    intro metadata invocation member
    exact sound.attaching_append (frames_eq ▸ mem_cons_of_mem _ member)
      (unended metadata invocation member)
  attachesApart := by
    obtain ⟨popped, frames_eq⟩ := suffix
    have apart := sound.attachesApart
    rw [frames_eq, runningAttaches, filterMap_cons] at apart
    cases own : popped.invocation? with
    | none =>
      rw [own] at apart
      exact apart
    | some invocation =>
      rw [own] at apart
      exact (nodup_cons.mp apart).2
  ended := by
    intro invocation cleanup member
    rw [length_append]
    rcases mem_append.mp member with old | new
    · exact Nat.lt_add_right _ (sound.ended invocation cleanup old)
    · exact Nat.lt_add_right _ (ended invocation cleanup new)
  origin := by
    intro handle payload found
    rcases origin handle payload found with old | ⟨metadata, called, same⟩
    · obtain ⟨metadata, called, same⟩ := sound.origin handle payload old
      exact ⟨metadata, mem_append_left _ called, same⟩
    · exact ⟨metadata, mem_append_left _ called, same⟩

theorem ended_apart (sound : world.Sound) {metadata other : RefMetadata}
    {invocation otherInvocation : Nat}
    (frames_eq : world.frames = .attach metadata invocation :: below)
    (member : .attach other otherInvocation ∈ below) : otherInvocation ≠ invocation := by
  have apart := sound.attachesApart
  rw [frames_eq, runningAttaches, filterMap_cons] at apart
  rintro rfl
  exact (nodup_cons.mp apart).1 (mem_filterMap.mpr ⟨_, member, rfl⟩)

/-- Every step keeps what holds in every world. -/
theorem of_stepsTo {action : RefGateAction} {later : RefGateWorld} (sound : world.Sound)
    (stepsTo : world.StepsTo action later) : later.Sound := by
  cases stepsTo with
  | idle => exact sound
  | stuck => exact sound
  | createMetadata created =>
    refine { sound with captured := ?_, remaining := ?_ }
    · intro metadata member
      rcases mem_append.mp member with old | new
      · exact sound.captured metadata old
      · rw [mem_singleton.mp new]
        exact captured_of_created created
    · intro records running metadata member
      exact mem_append_left _ (sound.remaining records running metadata member)
  | @callGate detach attach genuine =>
    have moved := sound.move (.gate (detach ++ attach) :: world.frames) []
      (by
        intro records member
        rcases mem_cons.mp member with same | old
        · exact GateFrame.gate.inj same ▸ genuine
        · exact sound.remaining records old)
      (by simp)
      (fun metadata invocation member => sound.attaching_append (by simpa using member) (by simp))
      sound.attachesApart rfl (by simp)
    simpa using moved
  | @leaveGate below frames_eq =>
    have left := sound.extend world.store below [] sound.store ⟨fun _ _ => id, fun _ => id⟩ ⟨_, frames_eq⟩
      (by simp [frames_eq]) rfl (by simp) (by simp) (fun _ _ found => .inl found)
    simpa using left
  | @skipObjectRef metadata remaining below frames_eq object =>
    apply sound.move (.gate remaining :: below) [.objectRefSkipped metadata]
    · exact sound.rest frames_eq
    · simp [frames_eq]
    · intro metadata invocation member
      exact sound.attaching_append (by simpa [frames_eq] using member) (by simp)
    · exact (sound.attachesApart_below frames_eq :)
    · rfl
    · simp
  | @callAttach metadata remaining below frames_eq attaches =>
    apply sound.move (.attach metadata world.log.length :: .gate remaining :: below) [.attachCalled metadata]
    · exact sound.rest_push frames_eq (by simp)
    · simp [frames_eq]
    · intro other invocation member
      rcases mem_cons.mp member with same | old
      · obtain ⟨rfl, rfl⟩ := GateFrame.attach.inj same
        refine ⟨by simp, ?_⟩
        intro cleanup ended
        rcases mem_append.mp ended with old | new
        · exact Nat.lt_irrefl _ (sound.ended _ cleanup old)
        · exact absurd (mem_singleton.mp new) (by simp)
      · exact sound.attaching_append (by simpa [frames_eq] using old) (by simp)
    · refine nodup_cons.mpr ⟨?_, (sound.attachesApart_below frames_eq :)⟩
      intro member
      obtain ⟨frame, frameMember, own⟩ := mem_filterMap.mp member
      cases frame with
      | attach other invocation =>
        obtain rfl := Option.some.inj own
        have found := (sound.attaching other world.log.length (by simpa [frames_eq] using frameMember)).1
        exact Nat.lt_irrefl _ (List.getElem?_eq_some_iff.mp found).1
      | _ => cases own
    · rfl
    · simp
  | @refuseDetach metadata remaining below error frames_eq refused =>
    exact sound.extend world.store below [.detachRefused metadata error] sound.store
      ⟨fun _ _ => id, fun _ => id⟩ ⟨_, frames_eq⟩ (by simp [frames_eq]) rfl (by simp) (by simp)
      (fun _ _ found => .inl found)
  | @callCleanup metadata remaining below cleanup frames_eq detaches callback resolved =>
    obtain ⟨known, _⟩ := resolve_eq_some (sound.genuine frames_eq) resolved
    refine { sound with
      remaining := ?_, running := ?_, called := ?_, attaching := ?_, attachesApart := ?_,
      ended := ?_, origin := ?_ }
    · exact sound.rest_push frames_eq (by simp)
    · intro other member
      simp only [cleanupCalls, filterMap_append, mem_append]
      rcases mem_cons.mp member with same | old
      · obtain rfl := GateFrame.cleanupReturn.inj same
        exact ⟨.inr (by simp [cleanupHandle?]), _, known⟩
      · obtain ⟨called, payload, found⟩ := sound.running other (by simpa [frames_eq] using old)
        exact ⟨.inl called, payload, found⟩
    · intro handle called
      simp only [cleanupCalls, filterMap_append, mem_append] at called
      rcases called with old | new
      · rcases sound.called handle old with consumed | running
        · exact .inl consumed
        · rw [frames_eq] at running
          exact .inr (mem_cons_of_mem _ running)
      · right
        have own : handle = cleanup.refCleanupHandle := by simpa [cleanupHandle?] using new
        exact own ▸ mem_cons_self
    · intro other invocation member
      exact sound.attaching_append (by simpa [frames_eq] using member) (by simp)
    · exact (sound.attachesApart_below frames_eq :)
    · intro invocation ended member
      rw [length_append]
      rcases mem_append.mp member with old | new
      · exact Nat.lt_add_right _ (sound.ended invocation ended old)
      · exact absurd (mem_singleton.mp new) (by simp)
    · intro handle payload found
      obtain ⟨metadata, called, same⟩ := sound.origin handle payload found
      exact ⟨metadata, mem_append_left _ called, same⟩
  | @callNull metadata remaining below frames_eq resolved =>
    apply sound.move (.nullDetach metadata :: .gate remaining :: below) [.nullCalled metadata]
    · exact sound.rest_push frames_eq (by simp)
    · simp [frames_eq]
    · intro other invocation member
      exact sound.attaching_append (by simpa [frames_eq] using member) (by simp)
    · exact (sound.attachesApart_below frames_eq :)
    · rfl
    · simp
  | @keepCleanup metadata invocation below function frames_eq =>
    have records := sound.store.records metadata.identity function
    obtain ⟨found, _⟩ := sound.attaching metadata invocation (frames_eq ▸ mem_cons_self)
    apply sound.extend _ below _ records.sound records.extends_ ⟨_, frames_eq⟩ (by simp [frames_eq]) rfl
    · intro other otherInvocation member cleanup ended
      have same := attachEnded.inj (mem_singleton.mp ended)
      exact sound.ended_apart frames_eq member same.1
    · intro other cleanup ended
      have same := attachEnded.inj (mem_singleton.mp ended)
      exact same.1 ▸ (List.getElem?_eq_some_iff.mp found).1
    · intro handle payload known
      by_cases new : handle = world.store.nextCleanupReturnHandleSequence
      · subst new
        obtain rfl := Option.some.inj (records.payload_new.symm.trans known)
        exact .inr ⟨metadata, mem_of_getElem? found, rfl⟩
      · exact .inl ((records.payload_old handle new).symm.trans known)
  | @keepNothing metadata invocation below completion frames_eq =>
    obtain ⟨found, _⟩ := sound.attaching metadata invocation (frames_eq ▸ mem_cons_self)
    apply sound.extend world.store below _ sound.store ⟨fun _ _ => id, fun _ => id⟩ ⟨_, frames_eq⟩
      (by simp [frames_eq]) rfl
    · intro other otherInvocation member cleanup ended
      have same := attachEnded.inj (mem_singleton.mp ended)
      exact sound.ended_apart frames_eq member same.1
    · intro other cleanup ended
      have same := attachEnded.inj (mem_singleton.mp ended)
      exact same.1 ▸ (List.getElem?_eq_some_iff.mp found).1
    · exact fun _ _ known => .inl known
  | @leaveNullDetach metadata below completion frames_eq =>
    have left := sound.extend world.store below [] sound.store ⟨fun _ _ => id, fun _ => id⟩ ⟨_, frames_eq⟩
      (by simp [frames_eq]) rfl (by simp) (by simp) (fun _ _ found => .inl found)
    simpa using left
  | @leaveCleanup cleanup below completion frames_eq =>
    obtain ⟨_, payload, known⟩ := sound.running cleanup (frames_eq ▸ mem_cons_self)
    have left := sound.extend (world.store.markRefCleanupReturnHandleConsumed cleanup.refCleanupHandle) below []
      (sound.store.markConsumed known) extends_markConsumed ⟨_, frames_eq⟩
      (by
        intro other same
        rw [frames_eq] at same
        obtain rfl := GateFrame.cleanupReturn.inj (cons.inj same).1
        simp [markRefCleanupReturnHandleConsumed])
      rfl (by simp) (by simp) (fun _ _ found => .inl found)
    simpa using left

end Sound

theorem sound_step (sound : world.Sound) (action : RefGateAction) : (world.step action).Sound :=
  sound.of_stepsTo (world.stepsTo action)

theorem cleanupCalls_of_stepsTo {action : RefGateAction} {later : RefGateWorld}
    (stepsTo : world.StepsTo action later) :
    cleanupCalls later.log = cleanupCalls world.log ∨
      ∃ metadata remaining below cleanup,
        action = .runNext ∧ world.frames = .gate (metadata :: remaining) :: below ∧
          metadata.action = .detach ∧ metadata.identity.ref.isFunction = true ∧
          world.store.resolveRefCleanupForDetachPayload metadata = .ok (some cleanup) ∧
          cleanupCalls later.log = cleanupCalls world.log ++ [cleanup.refCleanupHandle] := by
  cases stepsTo with
  | callCleanup frames_eq detaches callback resolved =>
    right
    refine ⟨_, _, _, _, rfl, frames_eq, detaches, callback, resolved, ?_⟩
    simp [cleanupCalls, filterMap_append, cleanupHandle?]
  | _ =>
    left
    simp [cleanupCalls, filterMap_append, cleanupHandle?]

theorem log_callCleanup {metadata : RefMetadata} {remaining : List RefMetadata}
    {below : List GateFrame} {cleanup : RefCleanup}
    (frames_eq : world.frames = .gate (metadata :: remaining) :: below)
    (detaches : metadata.action = .detach) (callback : metadata.identity.ref.isFunction = true)
    (resolved : world.store.resolveRefCleanupForDetachPayload metadata = .ok (some cleanup)) :
    (world.step .runNext).log = world.log ++ [.cleanupCalled metadata cleanup] := by
  rw [step, runNext, frames_eq]
  simp only [runControlledInvocation, callback, detaches, resolved, Bool.not_true, Bool.false_eq_true,
    if_false]

theorem cleanupsRunOnce_step_iff (sound : world.Sound) (once : CleanupsRunOnce world)
    (action : RefGateAction) :
    CleanupsRunOnce (world.step action) ↔ LeavesRunningCleanups world action := by
  rcases cleanupCalls_of_stepsTo (world.stepsTo action) with same |
    ⟨metadata, remaining, below, cleanup, rfl, frames_eq, detaches, callback, resolved, called⟩
  · have kept : CleanupsRunOnce (world.step action) := by
      rw [CleanupsRunOnce, same]
      exact once
    refine ⟨?_, fun _ => kept⟩
    rintro _ rfl metadata remaining below cleanup frames_eq detaches callback resolved
    rw [log_callCleanup frames_eq detaches callback resolved] at same
    simp [cleanupCalls, filterMap_append, cleanupHandle?] at same
  · have fresh : cleanup.refCleanupHandle ∉ cleanupCalls world.log ↔
        cleanup.refCleanupHandle ∉ runningCleanups world.frames := by
      constructor
      · intro notCalled running
        obtain ⟨other, member, same⟩ := mem_runningCleanups.mp running
        exact notCalled (same ▸ (sound.running other member).1)
      · intro notRunning isCalled
        have unconsumed := (resolve_eq_some (sound.genuine frames_eq) resolved).2
        rcases sound.called _ isCalled with consumed | running
        · exact absurd (consumed.symm.trans unconsumed) Bool.noConfusion
        · exact notRunning running
    rw [CleanupsRunOnce, called, nodup_append]
    constructor
    · rintro ⟨_, _, apart⟩ _ other otherRemaining otherBelow otherCleanup otherFrames _ _ otherResolved
      have sameFrames := frames_eq.symm.trans otherFrames
      simp only [cons.injEq, GateFrame.gate.injEq] at sameFrames
      obtain ⟨⟨rfl, _⟩, _⟩ := sameFrames
      rw [resolved] at otherResolved
      obtain rfl := Option.some.inj (Except.ok.inj otherResolved)
      apply fresh.mp
      intro isCalled
      exact apart _ isCalled _ (mem_singleton.mpr rfl) rfl
    · intro leaves
      refine ⟨once, by simp, ?_⟩
      intro handle isCalled other isNew same
      rw [mem_singleton.mp isNew] at same
      exact fresh.mpr (leaves rfl metadata remaining below cleanup frames_eq detaches callback resolved)
        (same ▸ isCalled)

end RefGateWorld

end FastReact
