import Mathlib.Logic.Function.Basic
import FastReact.ActionRun
import FastReact.BridgeHandleTableSteps
import FastReact.NativeRootRequests

namespace FastReact

open BridgeHandleTable ErrorState Function List

/-!
# Runs of the recorder

The requests of all roots go through one recorder and one table, and other callers use the
table between them.  Each record is fed to the validator of its root right after it is
recorded.
-/

inductive NativeRootRequest where
  | create (request : NativeRootBridgeCreateRequest)
  | render (request : NativeRootBridgeRenderRequest)
  | unmount (request : NativeRootBridgeUnmountRequest)

def NativeRootRequest.record :
    NativeRootRequest → NativeRootRecorderM NativeRootBridgeRequestRecord
  | .create request => recordCreateRoot request
  | .render request => recordRender request
  | .unmount request => recordUnmount request

/-- What others do with the table. -/
inductive BridgeTableCall where
  | insertValue (record : PlaceholderValueRecord)
  | removeRoot (handle : BridgeHandle)
  | removeValue (handle : BridgeHandle)
  | dispose (handle : BridgeHandle)
  | teardownEnvironment (environmentId : BridgeEnvironmentId)

def BridgeTableCall.perform : BridgeTableCall → BridgeHandleTableM Unit
  | .insertValue record => do let _ ← FastReact.insertValue record
  | .removeRoot handle => do let _ ← FastReact.removeRoot handle
  | .removeValue handle => do let _ ← FastReact.removeValue handle
  | .dispose handle => FastReact.dispose handle
  | .teardownEnvironment environmentId => do
      let _ ← FastReact.teardownEnvironment environmentId

inductive NativeRootCall where
  | request (request : NativeRootRequest)
  | table (call : BridgeTableCall)

/-- The handle under which the root behind a handle was created. -/
def BridgeHandle.asRoot (handle : BridgeHandle) : BridgeHandle :=
  { handle with kind := .root }

structure NativeRootWorld where
  state : RecorderWithTable
  validators : BridgeHandle → NativeRootBridgeRequestSequenceValidator
  fed : List NativeRootBridgeRequestRecord

namespace NativeRootWorld

def new (environmentId : BridgeEnvironmentId) : NativeRootWorld where
  state := ⟨.new, .new environmentId⟩
  validators := fun _ => .new
  fed := []

def validatorOf (world : NativeRootWorld) (handle : BridgeHandle) :
    NativeRootBridgeRequestSequenceValidator :=
  world.validators handle.asRoot

def feed (world : NativeRootWorld) (record : NativeRootBridgeRequestRecord) : NativeRootWorld where
  state := world.state
  validators := update world.validators record.rootHandle.asRoot
    (stateAfter ((validateNext world.state.table record).run
      (world.validatorOf record.rootHandle)))
  fed := world.fed ++ [record]

def step (world : NativeRootWorld) : NativeRootCall → NativeRootWorld
  | .request request =>
      match request.record.run world.state with
      | .ok record after => feed { world with state := after } record
      | .error _ after => { world with state := after }
  | .table call =>
      { world with
        state := { world.state with
          table := stateAfter (call.perform.run world.state.table) } }

/-- A live root is named by its own handle, not by that of a value. -/
def NamesRoot (table : BridgeHandleTable) (handle : BridgeHandle) : Prop :=
  ∀ root, table.getRoot handle = .ok root → handle.kind = .root

def Permits (world : NativeRootWorld) : NativeRootCall → Prop
  | .request (.create _) => True
  | .request (.render request) => NamesRoot world.state.table request.rootHandle
  | .request (.unmount request) => NamesRoot world.state.table request.rootHandle
  | .table _ => True

end NativeRootWorld

/-- A refused request leaves the table alone; its number may be used up. -/
structure Refuses (before after : RecorderWithTable) : Prop where
  table : after.table = before.table
  nextRequestId : before.recorder.nextRequestId ≤ after.recorder.nextRequestId

theorem refuses_refl (state : RecorderWithTable) : Refuses state state :=
  ⟨rfl, Nat.le_refl _⟩

theorem allocateRequestId_cases (state : RecorderWithTable) :
    (∃ error, allocateRequestId.run state = .error error state) ∨
      allocateRequestId.run state =
        .ok state.recorder.nextRequestId
          { state with recorder := ⟨state.recorder.nextRequestId + 1⟩ } := by
  unfold allocateRequestId
  rw [run_bind, run_get]
  by_cases exhausted : requestIdBound ≤ state.recorder.nextRequestId + 1
  · refine .inl ⟨.requestSequenceExhausted, ?_⟩
    simp only [if_pos exhausted]
    rfl
  · refine .inr ?_
    simp only [if_neg exhausted]
    rfl

/-- The value of a request, where it names one, is in the table. -/
def HasValue (table : BridgeHandleTable) (handle : Option BridgeHandle) : Prop :=
  ∀ value, handle = some value → ∃ record, table.getValue value = .ok record

section

variable (state : RecorderWithTable)

theorem checkOptionalValue_cases (handle : Option BridgeHandle) :
    (∃ error, (checkOptionalValue handle).run state = .error error state) ∨
      (checkOptionalValue handle).run state = .ok () state ∧ HasValue state.table handle := by
  cases handle with
  | none =>
    refine .inr ⟨rfl, ?_⟩
    intro value named
    cases named
  | some value =>
    cases found : state.table.getValue value with
    | error error =>
      refine .inl ⟨.handleTable error, ?_⟩
      unfold checkOptionalValue
      simp only [run_bind, run_query, found]
      rfl
    | ok record =>
      refine .inr ⟨?_, ?_⟩
      · unfold checkOptionalValue
        simp only [run_bind, run_query, found]
        rfl
      · intro other named
        obtain rfl := Option.some.inj named
        exact ⟨record, found⟩

theorem recordCreateRoot_cases (request : NativeRootBridgeCreateRequest) :
    (∃ error after,
      (recordCreateRoot request).run state = .error error after ∧ Refuses state after) ∨
      ∃ index generation table,
        Inserts state.table table index generation (.root ⟨request.rootId⟩) ∧
        HasValue state.table request.containerHandle ∧
        (recordCreateRoot request).run state =
          .ok {
            requestId := state.recorder.nextRequestId
            kind := .create
            environmentId := table.environmentId
            rootHandle := ⟨state.table.environmentId, index + 1, generation, .root⟩
            rootId := request.rootId
            valueHandle := request.containerHandle
            rootHandleState := .active }
          ⟨⟨state.recorder.nextRequestId + 1⟩, table⟩ := by
  unfold recordCreateRoot
  rw [run_bind]
  rcases checkOptionalValue_cases state request.containerHandle with
    ⟨error, failed⟩ | ⟨checked, hasValue⟩
  · exact .inl ⟨error, state, by rw [failed], refuses_refl state⟩
  · rw [checked]
    simp only [run_bind]
    rcases allocateRequestId_cases state with ⟨error, failed⟩ | allocated
    · exact .inl ⟨error, state, by rw [failed], refuses_refl state⟩
    · obtain ⟨index, generation, table, ran, inserts⟩ :=
        run_insertRecord state.table (.root ⟨request.rootId⟩)
      refine .inr ⟨index, generation, table, inserts, hasValue, ?_⟩
      rw [allocated]
      simp only [onTable, run_mapError, run_focus, insertRoot, ran]
      rfl

theorem recordRender_cases (request : NativeRootBridgeRenderRequest) :
    (∃ error after,
      (recordRender request).run state = .error error after ∧ Refuses state after) ∨
      ∃ root,
        state.table.getRoot request.rootHandle = .ok root ∧
        HasValue state.table request.elementHandle ∧
        (recordRender request).run state =
          .ok {
            requestId := state.recorder.nextRequestId
            kind := .render
            environmentId := state.table.environmentId
            rootHandle := request.rootHandle
            rootId := root.rootId
            valueHandle := request.elementHandle
            rootHandleState := .active }
          ⟨⟨state.recorder.nextRequestId + 1⟩, state.table⟩ := by
  unfold recordRender
  rw [run_bind, run_query]
  cases found : state.table.getRoot request.rootHandle with
  | error error => exact .inl ⟨.handleTable error, state, rfl, refuses_refl state⟩
  | ok root =>
    simp only [askTable, Except.mapError, run_bind]
    rcases checkOptionalValue_cases state request.elementHandle with
      ⟨error, failed⟩ | ⟨checked, hasValue⟩
    · exact .inl ⟨error, state, by rw [failed], refuses_refl state⟩
    · rw [checked]
      rcases allocateRequestId_cases state with ⟨error, failed⟩ | allocated
      · exact .inl ⟨error, state, by simp only [failed], refuses_refl state⟩
      · refine .inr ⟨root, rfl, hasValue, ?_⟩
        simp only [allocated]
        rfl

theorem recordUnmount_cases (request : NativeRootBridgeUnmountRequest) :
    (∃ error after,
      (recordUnmount request).run state = .error error after ∧ Refuses state after) ∨
      ∃ root entry,
        state.table.getRoot request.rootHandle = .ok root ∧
        state.table.entryOfKind request.rootHandle .root = .ok entry ∧
        (recordUnmount request).run state =
          .ok {
            requestId := state.recorder.nextRequestId
            kind := .unmount
            environmentId := state.table.environmentId
            rootHandle := request.rootHandle
            rootId := root.rootId
            valueHandle := none
            rootHandleState := .retired }
          ⟨⟨state.recorder.nextRequestId + 1⟩,
            state.table.withSlot (request.rootHandle.slot - 1)
              (.vacant (entry.generation + 1))⟩ := by
  unfold recordUnmount
  rw [run_bind, run_query]
  cases found : state.table.getRoot request.rootHandle with
  | error error => exact .inl ⟨.handleTable error, state, rfl, refuses_refl state⟩
  | ok root =>
    simp only [askTable, Except.mapError, run_bind]
    rcases allocateRequestId_cases state with ⟨error, failed⟩ | allocated
    · exact .inl ⟨error, state, by simp only [failed], refuses_refl state⟩
    · rcases removeRoot_cases state.table request.rootHandle with
        ⟨error, failed⟩ | ⟨entry, record, entryFound, -, removed⟩
      · refine .inl ⟨.handleTable error,
          ⟨⟨state.recorder.nextRequestId + 1⟩, state.table⟩, ?_, rfl, Nat.le_succ _⟩
        simp only [allocated, onTable, run_mapError, run_focus, failed]
      · refine .inr ⟨root, entry, rfl, entryFound, ?_⟩
        simp only [allocated, onTable, run_mapError, run_focus, removed]
        rfl

end

theorem NativeRootRequest.refuses_of_error {request : NativeRootRequest}
    {state after : RecorderWithTable} {error : NativeRootBridgeRequestError}
    (failed : request.record.run state = .error error after) : Refuses state after := by
  cases request with
  | create request =>
    rcases recordCreateRoot_cases state request with
      ⟨_, _, ran, refuses⟩ | ⟨_, _, _, _, _, ran⟩
    · cases ran.symm.trans failed
      exact refuses
    · cases ran.symm.trans failed
  | render request =>
    rcases recordRender_cases state request with ⟨_, _, ran, refuses⟩ | ⟨_, _, _, ran⟩
    · cases ran.symm.trans failed
      exact refuses
    · cases ran.symm.trans failed
  | unmount request =>
    rcases recordUnmount_cases state request with ⟨_, _, ran, refuses⟩ | ⟨_, _, _, _, ran⟩
    · cases ran.symm.trans failed
      exact refuses
    · cases ran.symm.trans failed

section Validating

variable {table : BridgeHandleTable} {request : NativeRootBridgeRequestRecord}

theorem validateOptionalValueHandle_of_hasValue (hasValue : HasValue table request.valueHandle) :
    ∃ validated, validateOptionalValueHandle table request = .ok validated := by
  unfold validateOptionalValueHandle
  cases named : request.valueHandle with
  | none => exact ⟨false, rfl⟩
  | some value =>
    obtain ⟨record, found⟩ := hasValue value named
    simp only [found, askTable, Except.mapError]
    exact ⟨true, rfl⟩

theorem validateActiveRecord_of_getRoot (transition : NativeRootBridgeLifecycleTransition)
    (here : request.environmentId = table.environmentId)
    (active : request.rootHandleState = .active)
    (found : table.getRoot request.rootHandle = .ok ⟨request.rootId⟩)
    (hasValue : HasValue table request.valueHandle) :
    ∃ validation, validateActiveRecord table request transition = .ok validation := by
  obtain ⟨validated, valid⟩ := validateOptionalValueHandle_of_hasValue hasValue
  refine ⟨.fromRequest request transition validated, ?_⟩
  unfold validateActiveRecord validateRecordEnvironment validateRootHandleState validateRootId
  rw [if_pos here, if_pos active, found, valid]
  simp only [askTable, Except.mapError, bind, Except.bind, if_pos]

theorem validateUnmountRecord_of_stale {handle : BridgeHandle} {currentGeneration : Nat}
    (here : request.environmentId = table.environmentId)
    (retired : request.rootHandleState = .retired) (noValue : request.valueHandle = none)
    (stale : table.getRoot request.rootHandle = .error (.staleHandle handle currentGeneration)) :
    ∃ validation, validateUnmountRecord table request = .ok validation := by
  refine ⟨.fromRequest request .activeToRetired false, ?_⟩
  unfold validateUnmountRecord validateRecordEnvironment validateRootHandleState
  rw [if_pos here, if_pos retired, noValue, stale]
  rfl

end Validating

namespace NativeRootBridgeRequestSequenceValidator

variable {validator : NativeRootBridgeRequestSequenceValidator}

def Follows (validator : NativeRootBridgeRequestSequenceValidator) (handle : BridgeHandle)
    (rootId : Nat) : Prop :=
  validator.root = some (handle, rootId) ∧ validator.rootRetired = false

/-- All records seen so far have smaller numbers. -/
def Behind (validator : NativeRootBridgeRequestSequenceValidator) (requestId : Nat) : Prop :=
  ∀ last, validator.lastRequestId = some last → last < requestId

theorem validateRequestOrder_of_behind {requestId : Nat} (behind : validator.Behind requestId) :
    validator.validateRequestOrder requestId = .ok () := by
  unfold validateRequestOrder
  cases seen : validator.lastRequestId with
  | none => rfl
  | some last => exact if_pos (behind last seen)

section Records

variable {table : BridgeHandleTable} {record : NativeRootBridgeRequestRecord}
  {validation : NativeRootBridgeRequestValidationRecord}

theorem accepts_create (isCreate : record.kind = .create)
    (here : record.environmentId = table.environmentId) (active : record.rootHandleState = .active)
    (found : table.getRoot record.rootHandle = .ok ⟨record.rootId⟩)
    (hasValue : HasValue table record.valueHandle) :
    ∃ validation, new.checkNext table record = .ok validation := by
  obtain ⟨validation, valid⟩ :=
    validateActiveRecord_of_getRoot .noneToActive here active found hasValue
  refine ⟨validation, ?_⟩
  unfold checkNext validateCreateRecord
  simp only [new, validateRequestOrder, isCreate, valid]
  rfl

section

variable (behind : validator.Behind record.requestId)
  (follows : validator.Follows record.rootHandle record.rootId)
include behind follows

theorem checkNext_of_follows (notCreate : record.kind ≠ .create) :
    validator.checkNext table record =
      if record.kind = .render then
        validateRenderRecord table record
      else
        validateUnmountRecord table record := by
  obtain ⟨hasRoot, active⟩ := follows
  unfold checkNext validateSequenceRootIdentity
  rw [validateRequestOrder_of_behind behind, hasRoot, active]
  simp only [if_neg notCreate, ne_eq, not_true_eq_false, if_false, Bool.false_eq_true]
  rfl

theorem accepts_render (isRender : record.kind = .render)
    (here : record.environmentId = table.environmentId) (active : record.rootHandleState = .active)
    (found : table.getRoot record.rootHandle = .ok ⟨record.rootId⟩)
    (hasValue : HasValue table record.valueHandle) :
    ∃ validation, validator.checkNext table record = .ok validation := by
  have notCreate : record.kind ≠ .create := by simp [isRender]
  rw [checkNext_of_follows behind follows notCreate, if_pos isRender]
  exact validateActiveRecord_of_getRoot .activeToActive here active found hasValue

theorem accepts_unmount {handle : BridgeHandle} {currentGeneration : Nat}
    (isUnmount : record.kind = .unmount) (here : record.environmentId = table.environmentId)
    (retired : record.rootHandleState = .retired) (noValue : record.valueHandle = none)
    (stale : table.getRoot record.rootHandle = .error (.staleHandle handle currentGeneration)) :
    ∃ validation, validator.checkNext table record = .ok validation := by
  have notCreate : record.kind ≠ .create := by simp [isUnmount]
  have notRender : record.kind ≠ .render := by simp [isUnmount]
  rw [checkNext_of_follows behind follows notCreate, if_neg notRender]
  exact validateUnmountRecord_of_stale here retired noValue stale

end

theorem run_validateNext_of_seen {last : Nat} (seen : validator.lastRequestId = some last)
    (old : record.requestId ≤ last) :
    ∃ error, (validateNext table record).run validator = .error error validator := by
  refine ⟨.requestSequenceOutOfOrder last record.requestId, ?_⟩
  unfold validateNext checkNext validateRequestOrder
  rw [run_bind, run_query, seen]
  simp only [if_neg (Nat.not_lt.mpr old)]
  rfl

theorem run_validateNext_of_checkNext
    (checked : validator.checkNext table record = .ok validation) :
    (validateNext table record).run validator = .ok validation (validator.accept record) := by
  unfold validateNext
  rw [run_bind, run_query, checked]
  rfl

end Records

end NativeRootBridgeRequestSequenceValidator

namespace NativeRootWorld

open NativeRootBridgeRequestSequenceValidator

structure Consistent (world : NativeRootWorld) : Prop where
  wellFormed : world.state.table.WellFormed
  named : world.state.table.environmentId ≠ .none
  behind : ∀ root, (world.validators root).Behind world.state.recorder.nextRequestId
  issued : ∀ root, world.validators root ≠ .new → world.state.table.Issued root
  follows : ∀ handle root, world.state.table.getRoot handle = .ok root →
    (world.validatorOf handle).Follows handle.asRoot root.rootId
  seen : ∀ record ∈ world.fed, ∃ last,
    (world.validatorOf record.rootHandle).lastRequestId = some last ∧
      record.requestId ≤ last

structure Recorded (world : NativeRootWorld) (record : NativeRootBridgeRequestRecord)
    (after : RecorderWithTable) : Prop where
  requestId : record.requestId = world.state.recorder.nextRequestId
  nextRequestId : after.recorder.nextRequestId = record.requestId + 1
  movesOn : MovesOn world.state.table after.table
  issued : after.table.Issued record.rootHandle
  accepted : ∃ validation,
    (world.validatorOf record.rootHandle).checkNext after.table record = .ok validation
  others : ∀ handle root, after.table.getRoot handle = .ok root →
    handle.asRoot ≠ record.rootHandle.asRoot → world.state.table.getRoot handle = .ok root
  active : ∀ handle root, after.table.getRoot handle = .ok root →
    handle.asRoot = record.rootHandle.asRoot →
    ((world.validatorOf record.rootHandle).accept record).Follows handle.asRoot root.rootId

variable {world : NativeRootWorld}

theorem getRoot_of_asRoot_eq {table : BridgeHandleTable} {handle other : BridgeHandle}
    {root : PlaceholderRootRecord} (same : handle.asRoot = other.asRoot)
    (found : table.getRoot handle = .ok root) : table.getRoot other = .ok root := by
  obtain ⟨environmentId, slot, generation, kind⟩ := handle
  obtain ⟨otherEnvironmentId, otherSlot, otherGeneration, otherKind⟩ := other
  simp only [BridgeHandle.asRoot, BridgeHandle.mk.injEq, and_true] at same
  obtain ⟨rfl, rfl, rfl⟩ := same
  obtain ⟨notEmpty, here, occupied⟩ := getRoot_eq_ok_iff.mp found
  exact getRoot_eq_ok_iff.mpr ⟨notEmpty, here, occupied⟩

variable {record : NativeRootBridgeRequestRecord} {after : RecorderWithTable}

theorem Consistent.ages (consistent : Consistent world) (ages : Ages world.state.table after.table)
    (later : world.state.recorder.nextRequestId ≤ after.recorder.nextRequestId) :
    Consistent { world with state := after } where
  wellFormed := ages.wellFormed consistent.wellFormed
  named := by
    rw [ages.environmentId]
    exact consistent.named
  behind := fun root last seen => Nat.lt_of_lt_of_le (consistent.behind root last seen) later
  issued := fun root known => ages.toMovesOn.issued (consistent.issued root known)
  follows := fun handle root found => consistent.follows handle root (ages.getRoot found)
  seen := consistent.seen

theorem validators_feed {validation : NativeRootBridgeRequestValidationRecord}
    (accepted : (world.validatorOf record.rootHandle).checkNext world.state.table record =
      .ok validation) :
    (world.feed record).validators =
      update world.validators record.rootHandle.asRoot
        ((world.validatorOf record.rootHandle).accept record) := by
  unfold feed
  rw [run_validateNext_of_checkNext accepted]
  rfl

/-- Feeding a record keeps the validators in step. -/
theorem Consistent.feed (consistent : Consistent world) (recorded : Recorded world record after) :
    Consistent (({ world with state := after } : NativeRootWorld).feed record) := by
  obtain ⟨validation, accepted⟩ := recorded.accepted
  have validators := @validators_feed { world with state := after } _ _ accepted
  have validatorOf : ∀ handle : BridgeHandle,
      (({ world with state := after } : NativeRootWorld).feed record).validatorOf handle =
        if handle.asRoot = record.rootHandle.asRoot then
          (world.validatorOf record.rootHandle).accept record
        else
          world.validatorOf handle := by
    intro handle
    unfold NativeRootWorld.validatorOf
    rw [validators, update_apply]
    rfl
  have further : world.state.recorder.nextRequestId ≤ after.recorder.nextRequestId := by
    rw [recorded.nextRequestId, recorded.requestId]
    exact Nat.le_succ _
  refine ⟨recorded.movesOn.wellFormed consistent.wellFormed, ?_, ?_, ?_, ?_, ?_⟩
  · change after.table.environmentId ≠ .none
    rw [recorded.movesOn.environmentId]
    exact consistent.named
  · intro root last seen
    change last < after.recorder.nextRequestId
    rw [validators, update_apply] at seen
    by_cases same : root = record.rootHandle.asRoot
    · rw [if_pos same] at seen
      obtain rfl := Option.some.inj seen
      rw [recorded.nextRequestId]
      exact Nat.lt_succ_self _
    · rw [if_neg same] at seen
      exact Nat.lt_of_lt_of_le (consistent.behind root last seen) further
  · intro root known
    change after.table.Issued root
    rw [validators, update_apply] at known
    by_cases same : root = record.rootHandle.asRoot
    · rw [same]
      exact recorded.issued
    · rw [if_neg same] at known
      exact recorded.movesOn.issued (consistent.issued root known)
  · intro handle root found
    rw [validatorOf]
    by_cases same : handle.asRoot = record.rootHandle.asRoot
    · rw [if_pos same]
      exact recorded.active handle root found same
    · rw [if_neg same]
      exact consistent.follows handle root (recorded.others handle root found same)
  · intro old member
    rw [validatorOf]
    by_cases same : old.rootHandle.asRoot = record.rootHandle.asRoot
    · rw [if_pos same]
      refine ⟨record.requestId, rfl, ?_⟩
      rcases mem_append.mp member with earlier | isNew
      · obtain ⟨last, seen, old⟩ := consistent.seen old earlier
        rw [recorded.requestId]
        exact Nat.le_of_lt (Nat.lt_of_le_of_lt old (consistent.behind _ last seen))
      · obtain rfl : old = record := mem_singleton.mp isNew
        exact Nat.le_refl _
    · rw [if_neg same]
      rcases mem_append.mp member with earlier | isNew
      · exact consistent.seen old earlier
      · have isRecord : old = record := mem_singleton.mp isNew
        exact absurd (isRecord ▸ rfl) same

section

variable (consistent : Consistent world)
include consistent

theorem recorded_create {request : NativeRootBridgeCreateRequest}
    (ran : (recordCreateRoot request).run world.state = .ok record after) :
    Recorded world record after := by
  rcases recordCreateRoot_cases world.state request with
    ⟨_, _, failed, _⟩ | ⟨index, generation, table, inserts, hasValue, recorded⟩
  · cases failed.symm.trans ran
  · cases recorded.symm.trans ran
    have counts : generation ≠ 0 := by
      have starts := inserts.starts consistent.wellFormed
      rintro rfl
      cases starts
    have found : table.getRoot ⟨world.state.table.environmentId, index + 1, generation, .root⟩ =
        .ok ⟨request.rootId⟩ := by
      refine getRoot_eq_ok_iff.mpr ⟨?_, inserts.environmentId.symm, _, ?_, rfl⟩
      · simp [BridgeHandle.isEmpty, consistent.named, counts]
      · rw [inserts.slots]
        exact if_pos rfl
    have unknown : world.validatorOf
        ⟨world.state.table.environmentId, index + 1, generation, .root⟩ = .new := by
      by_contra known
      exact inserts.fresh .root (consistent.issued _ known)
    have still : HasValue table request.containerHandle := by
      intro value named
      obtain ⟨valueRecord, valueFound⟩ := hasValue value named
      exact ⟨valueRecord, inserts.getValue_eq_ok valueFound⟩
    refine ⟨rfl, rfl, inserts.movesOn, issued_of_getRoot found, ?_, ?_, ?_⟩
    · rw [unknown]
      exact accepts_create rfl rfl rfl found still
    · intro handle root rootFound other
      obtain ⟨notEmpty, here, slot, occupied, holdsRoot⟩ := getRoot_eq_ok_iff.mp rootFound
      rcases inserts.holdsRoot_cases occupied holdsRoot with ⟨place, sameGeneration, -⟩ | before
      · exfalso
        apply other
        obtain ⟨-, counted, -⟩ := issued_of_getRoot rootFound
        simp only [BridgeHandle.asRoot, BridgeHandle.mk.injEq, and_true]
        exact ⟨here.trans inserts.environmentId, by omega, sameGeneration⟩
      · exact getRoot_eq_ok_iff.mpr
          ⟨notEmpty, here.trans inserts.environmentId, slot, before, holdsRoot⟩
    · intro handle root rootFound same
      have sameRoot := Except.ok.inj ((getRoot_of_asRoot_eq same rootFound).symm.trans found)
      rw [unknown, same, sameRoot]
      exact ⟨rfl, rfl⟩

theorem recorded_render {request : NativeRootBridgeRenderRequest}
    (namesRoot : NamesRoot world.state.table request.rootHandle)
    (ran : (recordRender request).run world.state = .ok record after) :
    Recorded world record after := by
  rcases recordRender_cases world.state request with
    ⟨_, _, failed, _⟩ | ⟨root, found, hasValue, recorded⟩
  · cases failed.symm.trans ran
  · cases recorded.symm.trans ran
    have isRoot : request.rootHandle.asRoot = request.rootHandle := by
      unfold BridgeHandle.asRoot
      rw [← namesRoot root found]
    have follows := consistent.follows request.rootHandle root found
    have behind := consistent.behind request.rootHandle.asRoot
    refine ⟨rfl, rfl, movesOn_refl _, issued_of_getRoot found, ?_, ?_, ?_⟩
    · refine accepts_render behind ?_ rfl rfl rfl found hasValue
      rwa [isRoot] at follows
    · exact fun handle other otherFound _ => otherFound
    · intro handle other otherFound same
      have sameRoot := Except.ok.inj ((getRoot_of_asRoot_eq same otherFound).symm.trans found)
      obtain ⟨hasRoot, active⟩ := follows
      rw [same, sameRoot]
      exact ⟨by simp [accept, hasRoot], by simp [accept, active]⟩

theorem recorded_unmount {request : NativeRootBridgeUnmountRequest}
    (namesRoot : NamesRoot world.state.table request.rootHandle)
    (ran : (recordUnmount request).run world.state = .ok record after) :
    Recorded world record after := by
  rcases recordUnmount_cases world.state request with
    ⟨_, _, failed, _⟩ | ⟨root, entry, found, entryFound, recorded⟩
  · cases failed.symm.trans ran
  · cases recorded.symm.trans ran
    obtain ⟨ages, stale⟩ := vacated entryFound
    have isRoot : request.rootHandle.asRoot = request.rootHandle := by
      unfold BridgeHandle.asRoot
      rw [← namesRoot root found]
    have follows := consistent.follows request.rootHandle root found
    have behind := consistent.behind request.rootHandle.asRoot
    refine ⟨rfl, rfl, ages.toMovesOn, ages.toMovesOn.issued (issued_of_getRoot found), ?_, ?_, ?_⟩
    · refine accepts_unmount behind ?_ rfl rfl rfl rfl stale
      rwa [isRoot] at follows
    · exact fun handle other otherFound _ => ages.getRoot otherFound
    · intro handle other otherFound same
      cases (getRoot_of_asRoot_eq same otherFound).symm.trans stale

theorem recorded_of_permits {request : NativeRootRequest}
    (permitted : Permits world (.request request))
    (ran : request.record.run world.state = .ok record after) : Recorded world record after := by
  cases request with
  | create request => exact recorded_create consistent ran
  | render request => exact recorded_render consistent permitted ran
  | unmount request => exact recorded_unmount consistent permitted ran

end

theorem within_perform (call : BridgeTableCall) : Within Ages call.perform := by
  cases call with
  | insertValue record => exact .bind (within_insertValue record) fun _ => .pure ()
  | removeRoot handle => exact .bind (within_removeRoot handle) fun _ => .pure ()
  | removeValue handle => exact .bind (within_removeValue handle) fun _ => .pure ()
  | dispose handle => exact within_dispose handle
  | teardownEnvironment environmentId =>
    exact .bind (within_teardownEnvironment environmentId) fun _ => .pure ()

theorem consistent_new {environmentId : BridgeEnvironmentId} (named : environmentId ≠ .none) :
    Consistent (new environmentId) where
  wellFormed := by
    intro index slot found
    cases found
  named := named
  behind := by
    intro root last seen
    cases seen
  issued := fun root known => absurd rfl known
  follows := by
    intro handle root found
    obtain ⟨-, -, slot, occupied, -⟩ := getRoot_eq_ok_iff.mp found
    cases occupied
  seen := by
    intro record member
    cases member

theorem Consistent.step {call : NativeRootCall} (consistent : Consistent world)
    (permitted : Permits world call) : Consistent (world.step call) := by
  cases call with
  | table call => exact consistent.ages (within_perform call world.state.table) (Nat.le_refl _)
  | request request =>
    cases ran : request.record.run world.state with
    | ok record after =>
      simp only [NativeRootWorld.step, ran]
      exact consistent.feed (recorded_of_permits consistent permitted ran)
    | error error after =>
      have refuses := NativeRootRequest.refuses_of_error ran
      simp only [NativeRootWorld.step, ran]
      refine consistent.ages ?_ refuses.nextRequestId
      rw [refuses.table]
      exact ages_refl _

/-- The validator of its root accepts what is recorded of a request. -/
def Accepts (world : NativeRootWorld) (request : NativeRootRequest) : Prop :=
  ∀ record after, request.record.run world.state = .ok record after →
    ∃ validation validator,
      (validateNext after.table record).run (world.validatorOf record.rootHandle) =
        .ok validation validator

/-- The recorder and the validators agree. -/
structure Agrees (world : NativeRootWorld) : Prop where
  accepted : ∀ request, Permits world (.request request) → Accepts world request
  rejectedAgain : ∀ record ∈ world.fed, ∀ table, ∃ error,
    (validateNext table record).run (world.validatorOf record.rootHandle) =
      .error error (world.validatorOf record.rootHandle)
  unchanged : ∀ (request : NativeRootRequest) error after,
    request.record.run world.state = .error error after → after.table = world.state.table

/-- In every run on a table of a named environment the recorder and the validators agree. -/
theorem bridgesAgree_of_run
    {environmentId : BridgeEnvironmentId}
    {calls : List NativeRootCall}
    {final : NativeRootWorld}
    (run : ActionRun Permits step (new environmentId) calls final)
    (named : environmentId ≠ .none) :
    Agrees final := by
  have consistent : Consistent final :=
    run.invariant (consistent_new named) fun _ _ earlier permitted => earlier.step permitted
  refine ⟨?_, ?_, ?_⟩
  · intro request permitted record after ran
    obtain ⟨validation, checked⟩ := (recorded_of_permits consistent permitted ran).accepted
    exact ⟨validation, _, run_validateNext_of_checkNext checked⟩
  · intro record member table
    obtain ⟨last, seen, old⟩ := consistent.seen record member
    exact run_validateNext_of_seen seen old
  · intro request error after failed
    exact (NativeRootRequest.refuses_of_error failed).table

/-- Two roots, one of which is unmounted while the other one is rendered. -/
theorem bridgesAgree_of_run_interleaved :
    Agrees ([
      .request (.create ⟨10, none⟩),
      .request (.create ⟨20, none⟩),
      .request (.unmount ⟨⟨⟨1⟩, 1, 1, .root⟩⟩),
      .request (.create ⟨30, none⟩),
      .request (.render ⟨⟨⟨1⟩, 2, 1, .root⟩, none⟩)].foldl step (new ⟨1⟩)) := by
  refine bridgesAgree_of_run (.of_permitted ⟨trivial, trivial, ?_, trivial, ?_, trivial⟩) (by decide)
  · exact fun _ _ => rfl
  · exact fun _ _ => rfl

/-- A root of no environment is rejected when it is created, and a root that is rendered by
the handle of a value is rejected too. -/
theorem rejects_mistaken_handles :
    ¬ Accepts (new .none) (.create ⟨10, none⟩) ∧
      ¬ Accepts ((new ⟨1⟩).step (.request (.create ⟨10, none⟩)))
        (.render ⟨⟨⟨1⟩, 1, 1, .value⟩, none⟩) := by
  constructor
  · intro accepts
    obtain ⟨validation, validator, accepted⟩ := accepts _ _ rfl
    cases accepted
  · intro accepts
    obtain ⟨validation, validator, accepted⟩ := accepts _ _ rfl
    cases accepted

end NativeRootWorld

end FastReact
