import FastReact.BridgeHandleTableSteps
import FastReact.FreshMap

namespace FastReact

open BridgeHandleSlot BridgeHandleTable ErrorState List Nat Option

/-!
# The bridge handle table over whole runs

A slot and a generation are a key under which at most one record is ever stored.  Over
any run a lookup finds a record exactly while its key is live, and a key that was removed,
disposed or torn down is rejected by every later call, admissions included.
-/

/-- The calls that may change a table. -/
inductive BridgeHandleCall where
  | insertRoot (record : PlaceholderRootRecord)
  | insertValue (record : PlaceholderValueRecord)
  | admitRootHandoffHandle (handle : BridgeHandle) (record : PlaceholderRootRecord)
  | admitValueHandoffHandle (handle : BridgeHandle) (record : PlaceholderValueRecord)
  | removeRoot (handle : BridgeHandle)
  | removeValue (handle : BridgeHandle)
  | dispose (handle : BridgeHandle)
  | teardownEnvironment (environmentId : BridgeEnvironmentId)

/-- What a successful call reports to have done. -/
inductive BridgeHandleEffect where
  | stored (handle : BridgeHandle) (record : BridgeRecord)
  | validated
  | retired (handle : BridgeHandle)
  | tornDown (teardown : BridgeEnvironmentTeardown)

/-- An admission stores its record unless the table has one. -/
def BridgeHandleAdmission.effect (admission : BridgeHandleAdmission) (record : BridgeRecord) :
    BridgeHandleEffect :=
  match admission.outcome with
  | .admitted => .stored admission.handle record
  | .validated => .validated

namespace BridgeHandleCall

def perform : BridgeHandleCall → BridgeHandleTableM BridgeHandleEffect
  | .insertRoot record => return .stored (← FastReact.insertRoot record) (.root record)
  | .insertValue record => return .stored (← FastReact.insertValue record) (.value record)
  | .admitRootHandoffHandle handle record =>
      return (← FastReact.admitRootHandoffHandle handle record).effect (.root record)
  | .admitValueHandoffHandle handle record =>
      return (← FastReact.admitValueHandoffHandle handle record).effect (.value record)
  | .removeRoot handle => do
      let _ ← FastReact.removeRoot handle
      return .retired handle
  | .removeValue handle => do
      let _ ← FastReact.removeValue handle
      return .retired handle
  | .dispose handle => do
      FastReact.dispose handle
      return .retired handle
  | .teardownEnvironment environmentId =>
      return .tornDown (← FastReact.teardownEnvironment environmentId)

def handle? : BridgeHandleCall → Option BridgeHandle
  | .insertRoot _ | .insertValue _ | .teardownEnvironment _ => none
  | .admitRootHandoffHandle handle _ | .admitValueHandoffHandle handle _
  | .removeRoot handle | .removeValue handle | .dispose handle => some handle

end BridgeHandleCall

open BridgeHandleCall

namespace BridgeHandleTable

def step (table : BridgeHandleTable) (call : BridgeHandleCall) : BridgeHandleTable :=
  stateAfter (call.perform.run table)

/-- What a call does to a table, if it succeeds. -/
def effect (table : BridgeHandleTable) (call : BridgeHandleCall) : Option BridgeHandleEffect :=
  match call.perform.run table with
  | .ok effect _ => some effect
  | .error _ _ => none

end BridgeHandleTable

abbrev BridgeHandleKey := Nat × Nat

def BridgeHandle.key (handle : BridgeHandle) : BridgeHandleKey :=
  (handle.slot, handle.generation)

namespace BridgeHandleTable

/-- The record an insertion or an `Admitted` admission stores. -/
def stores (table : BridgeHandleTable) (call : BridgeHandleCall) :
    Option (BridgeHandleKey × BridgeRecord) :=
  match table.effect call with
  | some (.stored handle record) => some (handle.key, record)
  | _ => none

/-- A call removes or disposes the handle of a key, or tears the environment down. -/
def Retires (table : BridgeHandleTable) (call : BridgeHandleCall) (key : BridgeHandleKey) : Prop :=
  match table.effect call with
  | some (.retired handle) => handle.key = key
  | some (.tornDown teardown) => teardown.requestedEnvironmentId = teardown.tableEnvironmentId
  | _ => False

def SlotHolds (slot : Option BridgeHandleSlot) (generation : Nat) (record : BridgeRecord) : Prop :=
  slot = some (.occupied ⟨generation, record, false⟩)

def SlotUsed (slot : Option BridgeHandleSlot) (generation : Nat) : Prop :=
  ∃ existing, slot = some existing ∧ generation < existing.nextGeneration

def slotOf (table : BridgeHandleTable) (number : Nat) : Option BridgeHandleSlot :=
  if number = 0 then none else table.slots[number - 1]?

def Holds (table : BridgeHandleTable) (key : BridgeHandleKey) (record : BridgeRecord) : Prop :=
  SlotHolds (table.slotOf key.1) key.2 record

/-- The slot of a key has come to its generation. -/
def Used (table : BridgeHandleTable) (key : BridgeHandleKey) : Prop :=
  SlotUsed (table.slotOf key.1) key.2


/-- Nothing happened to a slot, but for a new one that is unused. -/
def SlotKept (before after : Option BridgeHandleSlot) : Prop :=
  after = before ∨ before = none ∧ after = some .default

structure StoresAt (before after : BridgeHandleTable) (key : BridgeHandleKey)
    (record : BridgeRecord) : Prop where
  counted : key.1 ≠ 0
  vacant : ∀ slot, before.slotOf key.1 = some slot → slot = .vacant key.2
  starts : before.WellFormed → 1 ≤ key.2
  stored : after.slotOf key.1 = some (.occupied (.new key.2 record))
  others : ∀ other, other ≠ key.1 → SlotKept (before.slotOf other) (after.slotOf other)

structure RetiresAt (before after : BridgeHandleTable) (key : BridgeHandleKey) : Prop where
  retired : ∃ entry later, before.slotOf key.1 = some (.occupied entry) ∧
    entry.generation = key.2 ∧ after.slotOf key.1 = some later ∧
    (later = .vacant (key.2 + 1) ∨ later = .occupied { entry with disposed := true })
  others : ∀ other, other ≠ key.1 → after.slotOf other = before.slotOf other

variable {table before after : BridgeHandleTable} {handle : BridgeHandle}

@[simp] theorem slotOf_zero : table.slotOf 0 = none :=
  if_pos rfl

theorem slotOf_succ (index : Nat) : table.slotOf (index + 1) = table.slots[index]? := by
  rw [slotOf, if_neg (Nat.succ_ne_zero index), Nat.add_sub_cancel]

theorem slotOf_of_ne_zero {number : Nat} (counted : number ≠ 0) :
    table.slotOf number = table.slots[number - 1]? :=
  if_neg counted

theorem slotOf_withSlot {number : Nat} {slot : BridgeHandleSlot}
    (found : table.slotOf number = some slot) (later : BridgeHandleSlot) (other : Nat) :
    (table.withSlot (number - 1) later).slotOf other =
      if other = number then some later else table.slotOf other := by
  have counted : number ≠ 0 := by
    rintro rfl
    simp at found
  rw [slotOf_of_ne_zero counted] at found
  obtain ⟨inside, -⟩ := List.getElem?_eq_some_iff.mp found
  cases other with
  | zero => rw [if_neg (Ne.symm counted), slotOf_zero, slotOf_zero]
  | succ index =>
    rw [slotOf_succ, slotOf_succ, withSlot]
    by_cases same : index + 1 = number
    · have place : number - 1 = index := by omega
      rw [if_pos same, place, getElem?_set_self (place ▸ inside)]
    · have elsewhere : number - 1 ≠ index := by omega
      rw [if_neg same, getElem?_set_ne elsewhere]

theorem slotKept_extendedTo (table : BridgeHandleTable) (length number : Nat) :
    SlotKept (table.slotOf number) ((table.extendedTo length).slotOf number) := by
  cases number with
  | zero => exact .inl (by simp)
  | succ index =>
    rw [slotOf_succ, slotOf_succ, extendedTo]
    by_cases inside : index < table.slots.length
    · exact .inl (getElem?_append_left inside)
    · have beyond : table.slots.length ≤ index := Nat.le_of_not_lt inside
      rw [getElem?_append_right beyond, getElem?_eq_none beyond, getElem?_replicate]
      split
      · exact .inr ⟨rfl, rfl⟩
      · exact .inl rfl

theorem slotOf_extendedTo {number : Nat} (counted : number ≠ 0) :
    ∃ slot, (table.extendedTo number).slotOf number = some slot := by
  rw [slotOf_of_ne_zero counted]
  refine ⟨_, getElem?_eq_getElem ?_⟩
  rw [extendedTo, length_append, length_replicate]
  omega

theorem storesAt_of_inserts {index generation : Nat} {record : BridgeRecord}
    (inserts : Inserts before after index generation record) :
    StoresAt before after (index + 1, generation) record where
  counted := succ_ne_zero index
  vacant := by
    intro slot found
    rw [slotOf_succ] at found
    exact inserts.vacant slot found
  starts := inserts.starts
  stored := by rw [slotOf_succ, inserts.slots, if_pos rfl]
  others := by
    intro other elsewhere
    cases other with
    | zero => exact .inl (by simp)
    | succ place =>
      have apart : place ≠ index := fun same => elsewhere (congrArg succ same)
      rw [slotOf_succ, slotOf_succ, inserts.slots, if_neg apart]
      exact .inl rfl

variable {expected : BridgeHandleKind} {entry : BridgeHandleEntry}

section

variable (found : table.entryOfKind handle expected = .ok entry)
include found

theorem slotOf_of_entryOfKind :
    table.slotOf handle.key.1 = some (.occupied entry) ∧ entry.generation = handle.key.2 := by
  obtain ⟨notEmpty, -, occupied, sameGeneration, -⟩ := entryOfKind_eq_ok_iff.mp found
  have counted : handle.key.1 ≠ 0 := by
    intro zero
    have isZero : handle.slot = 0 := zero
    simp [BridgeHandle.isEmpty, isZero] at notEmpty
  rw [slotOf_of_ne_zero counted]
  exact ⟨occupied, sameGeneration.symm⟩

theorem retiresAt_withSlot {later : BridgeHandleSlot}
    (retired : later = .vacant (entry.generation + 1) ∨
      later = .occupied { entry with disposed := true }) :
    RetiresAt table (table.withSlot (handle.slot - 1) later) handle.key := by
  obtain ⟨occupied, sameGeneration⟩ := slotOf_of_entryOfKind found
  have lookup := slotOf_withSlot occupied later
  refine ⟨⟨entry, later, occupied, sameGeneration, ?_, ?_⟩, ?_⟩
  · exact (lookup _).trans (if_pos rfl)
  · rwa [← sameGeneration]
  · intro other elsewhere
    exact (lookup other).trans (if_neg elsewhere)

end

end BridgeHandleTable

theorem dispose_cases (table : BridgeHandleTable) (handle : BridgeHandle) :
    (∃ error, (dispose handle).run table = .error error table) ∨
      ∃ entry,
        table.entryOfKind handle handle.kind = .ok entry ∧
        entry.disposed = false ∧
        (dispose handle).run table =
          .ok () (table.withSlot (handle.slot - 1)
            (.occupied { entry with disposed := true })) := by
  unfold dispose
  rw [run_bind, run_query]
  cases table.entryOfKind handle handle.kind with
  | error error => exact .inl ⟨error, rfl⟩
  | ok entry =>
    by_cases disposed : entry.disposed
    · refine .inl ⟨.duplicateDispose handle, ?_⟩
      simp only [if_pos disposed]
      rfl
    · refine .inr ⟨entry, rfl, by simpa using disposed, ?_⟩
      simp only [if_neg disposed]
      rfl

variable {call : BridgeHandleCall} {table : BridgeHandleTable}

variable {after : BridgeHandleTable} {handle : BridgeHandle} {record : BridgeRecord}

theorem storesAt_extended (notEmpty : handle.isEmpty = false)
    (vacant : (table.extendedTo handle.slot).slotOf handle.slot = some (.vacant handle.generation))
    (record : BridgeRecord) :
    StoresAt table
      ((table.extendedTo handle.slot).withSlot (handle.slot - 1)
        (.occupied (.new handle.generation record)))
      handle.key record := by
  simp only [BridgeHandle.isEmpty, Bool.or_eq_false_iff, decide_eq_false_iff_not] at notEmpty
  have lookup := slotOf_withSlot vacant (.occupied (.new handle.generation record))
  constructor
  · exact notEmpty.1.2
  · intro slot found
    change table.slotOf handle.slot = some slot at found
    rcases slotKept_extendedTo table handle.slot handle.slot with same | ⟨absent, -⟩
    · rw [vacant, found] at same
      exact (some.inj same).symm
    · rw [absent] at found
      cases found
  · exact fun _ => one_le_iff_ne_zero.mpr notEmpty.2
  · exact (lookup _).trans (if_pos rfl)
  · intro other elsewhere
    have same := (lookup other).trans (if_neg elsewhere)
    rw [same]
    exact slotKept_extendedTo table handle.slot other

/-- An admission keeps the slots, or stores its record under the key of its handle. -/
theorem admitHandoffRecord_cases (table : BridgeHandleTable) (handle : BridgeHandle)
    (record : BridgeRecord) (expected : BridgeHandleKind) :
    (∃ error after, (admitHandoffRecord handle record expected).run table =
        .error error after ∧
      after.environmentId = table.environmentId ∧
      ∀ number, SlotKept (table.slotOf number) (after.slotOf number)) ∨
    (∃ admission after, (admitHandoffRecord handle record expected).run table =
        .ok admission after ∧
      admission.outcome = .validated ∧
      (∃ held, table.Holds handle.key held ∧ held.kind = expected) ∧
      after.environmentId = table.environmentId ∧
      ∀ number, SlotKept (table.slotOf number) (after.slotOf number)) ∨
    ∃ admission after, (admitHandoffRecord handle record expected).run table =
        .ok admission after ∧
      admission.outcome = .admitted ∧
      admission.handle = handle ∧
      after.environmentId = table.environmentId ∧
      StoresAt table after handle.key record := by
  unfold admitHandoffRecord slotForHandoffAdmission
  simp only [run_bind, run_query, run_modifyGet]
  cases identity : table.validateHandleIdentity handle with
  | error error => exact .inl ⟨error, table, rfl, rfl, fun _ => .inl rfl⟩
  | ok =>
    obtain ⟨notEmpty, -⟩ := validateHandleIdentity_eq_ok_iff.mp identity
    have counted : handle.slot ≠ 0 := by
      intro zero
      simp [BridgeHandle.isEmpty, zero] at notEmpty
    have extended := slotKept_extendedTo table handle.slot
    obtain ⟨slot, found⟩ := @slotOf_extendedTo table handle.slot counted
    have place := found
    rw [slotOf_of_ne_zero counted] at place
    simp only [place, getD_some]
    cases slot with
    | vacant nextGeneration =>
      simp only [run_bind, run_query, validateEntryGeneration]
      by_cases current : handle.generation = nextGeneration
      · simp only [if_pos current, run_modify, run_pure]
        refine .inr (.inr ⟨_, _, rfl, rfl, rfl, rfl, ?_⟩)
        exact storesAt_extended notEmpty (current ▸ found) record
      · simp only [if_neg current]
        exact .inl ⟨_, _, rfl, rfl, extended⟩
    | occupied entry =>
      simp only [run_bind, run_query, validateEntryGeneration, validateEntryKind]
      by_cases current : handle.generation = entry.generation
      · simp only [if_pos current]
        by_cases sameKind : entry.record.kind = expected
        · simp only [if_pos sameKind]
          by_cases disposed : entry.disposed
          · simp only [if_pos disposed]
            exact .inl ⟨_, _, rfl, rfl, extended⟩
          · simp only [if_neg disposed]
            refine .inr (.inl ⟨_, _, rfl, rfl, ⟨entry.record, ?_, sameKind⟩, rfl, extended⟩)
            have existing : table.slotOf handle.slot = some (.occupied entry) := by
              rcases extended handle.slot with same | ⟨-, isDefault⟩
              · exact same.symm.trans found
              · rw [found] at isDefault
                cases isDefault
            rw [Holds, SlotHolds, BridgeHandle.key, existing, current,
              ← eq_false_of_ne_true disposed]
        · simp only [if_neg sameKind]
          exact .inl ⟨_, _, rfl, rfl, extended⟩
      · simp only [if_neg current]
        exact .inl ⟨_, _, rfl, rfl, extended⟩

/-- What a call did to the table, as its report says. -/
inductive CallDid (table after : BridgeHandleTable) : Option BridgeHandleEffect → Prop where
  | failed
      (kept : ∀ number, SlotKept (table.slotOf number) (after.slotOf number)) :
      CallDid table after none
  | validated
      (kept : ∀ number, SlotKept (table.slotOf number) (after.slotOf number)) :
      CallDid table after (some .validated)
  | stored {handle : BridgeHandle} {record : BridgeRecord}
      (storesAt : StoresAt table after handle.key record) :
      CallDid table after (some (.stored handle record))
  | retired {handle : BridgeHandle}
      (retiresAt : RetiresAt table after handle.key) :
      CallDid table after (some (.retired handle))
  | spared {teardown : BridgeEnvironmentTeardown}
      (elsewhere : teardown.requestedEnvironmentId ≠ teardown.tableEnvironmentId)
      (kept : after = table) :
      CallDid table after (some (.tornDown teardown))
  | tornDown {teardown : BridgeEnvironmentTeardown}
      (here : teardown.requestedEnvironmentId = teardown.tableEnvironmentId)
      (slots : after.slots = table.slots.map BridgeHandleSlot.tornDown) :
      CallDid table after (some (.tornDown teardown))

theorem removeValue_cases (table : BridgeHandleTable) (handle : BridgeHandle) :
    (∃ error, (removeValue handle).run table = .error error table) ∨
      ∃ entry record,
        table.entryOfKind handle .value = .ok entry ∧
        entry.disposed = false ∧
        (removeValue handle).run table =
          .ok record (table.withSlot (handle.slot - 1) (.vacant (entry.generation + 1))) := by
  unfold removeValue
  rcases removeRecord_cases table handle .value with
    ⟨error, failed⟩ | ⟨entry, found, active, ran⟩
  · exact .inl ⟨error, by rw [run_bind, failed]⟩
  · obtain ⟨-, -, -, -, isValue⟩ := entryOfKind_eq_ok_iff.mp found
    cases content : entry.record with
    | value record =>
      refine .inr ⟨entry, record, found, active, ?_⟩
      rw [run_bind, ran, content]
      rfl
    | root record =>
      rw [content] at isValue
      cases isValue

theorem callDid_of_error {error : BridgeHandleTableError}
    (ran : call.perform.run table = .error error after)
    (sameEnvironment : after.environmentId = table.environmentId)
    (kept : ∀ number, SlotKept (table.slotOf number) (after.slotOf number)) :
    (table.step call).environmentId = table.environmentId ∧
      CallDid table (table.step call) (table.effect call) := by
  rw [step, effect, ran]
  exact ⟨sameEnvironment, .failed kept⟩

theorem callDid_of_ok {effect : BridgeHandleEffect}
    (ran : call.perform.run table = .ok effect after)
    (sameEnvironment : after.environmentId = table.environmentId)
    (did : CallDid table after (some effect)) :
    (table.step call).environmentId = table.environmentId ∧
      CallDid table (table.step call) (table.effect call) := by
  rw [BridgeHandleTable.step, BridgeHandleTable.effect, ran]
  exact ⟨sameEnvironment, did⟩

theorem callDid_insert
    (performs : call.perform = do return .stored (← insertRecord record) record) :
    (table.step call).environmentId = table.environmentId ∧
      CallDid table (table.step call) (table.effect call) := by
  obtain ⟨index, generation, after, ran, inserts⟩ := run_insertRecord table record
  have performed : call.perform.run table =
      .ok (.stored ⟨table.environmentId, index + 1, generation, record.kind⟩ record) after := by
    rw [performs, run_bind, ran]
    rfl
  exact callDid_of_ok performed inserts.environmentId (.stored (storesAt_of_inserts inserts))

theorem callDid_admit {expected : BridgeHandleKind}
    (performs : call.perform = do
      return (← admitHandoffRecord handle record expected).effect record) :
    (table.step call).environmentId = table.environmentId ∧
      CallDid table (table.step call) (table.effect call) := by
  rcases admitHandoffRecord_cases table handle record expected with
    ⟨error, after, failed, sameEnvironment, kept⟩ |
    ⟨admission, after, ran, outcome, -, sameEnvironment, kept⟩ |
    ⟨admission, after, ran, outcome, sameHandle, sameEnvironment, storesAt⟩
  · have performed : call.perform.run table = .error error after := by
      rw [performs, run_bind, failed]
    exact callDid_of_error performed sameEnvironment kept
  · have performed : call.perform.run table = .ok .validated after := by
      rw [performs, run_bind, ran]
      simp only [BridgeHandleAdmission.effect, outcome]
      rfl
    exact callDid_of_ok performed sameEnvironment (.validated kept)
  · have performed : call.perform.run table = .ok (.stored handle record) after := by
      rw [performs, run_bind, ran]
      simp only [BridgeHandleAdmission.effect, outcome, sameHandle]
      rfl
    exact callDid_of_ok performed sameEnvironment (.stored storesAt)

/-- A removal or disposal fails on the table as it was, or retires the record it names. -/
theorem retire_cases (table : BridgeHandleTable) (handle : BridgeHandle)
    (retires : call = .removeRoot handle ∨ call = .removeValue handle ∨ call = .dispose handle) :
    (∃ error, call.perform.run table = .error error table) ∨
      ∃ entry kind later, table.entryOfKind handle kind = .ok entry ∧ entry.disposed = false ∧
        (later = .vacant (entry.generation + 1) ∨
          later = .occupied { entry with disposed := true }) ∧
        call.perform.run table =
          .ok (.retired handle) (table.withSlot (handle.slot - 1) later) := by
  rcases retires with rfl | rfl | rfl
  · rcases removeRoot_cases table handle with
      ⟨error, failed⟩ | ⟨entry, record, found, active, ran⟩
    · exact .inl ⟨error, by rw [perform, run_bind, failed]⟩
    · refine .inr ⟨entry, _, _, found, active, .inl rfl, ?_⟩
      rw [perform, run_bind, ran]
      rfl
  · rcases removeValue_cases table handle with
      ⟨error, failed⟩ | ⟨entry, record, found, active, ran⟩
    · exact .inl ⟨error, by rw [perform, run_bind, failed]⟩
    · refine .inr ⟨entry, _, _, found, active, .inl rfl, ?_⟩
      rw [perform, run_bind, ran]
      rfl
  · rcases dispose_cases table handle with ⟨error, failed⟩ | ⟨entry, found, active, ran⟩
    · exact .inl ⟨error, by rw [perform, run_bind, failed]⟩
    · refine .inr ⟨entry, _, _, found, active, .inr rfl, ?_⟩
      rw [perform, run_bind, ran]
      rfl

theorem callDid_retire (handle : BridgeHandle)
    (retires : call = .removeRoot handle ∨ call = .removeValue handle ∨ call = .dispose handle) :
    (table.step call).environmentId = table.environmentId ∧
      CallDid table (table.step call) (table.effect call) := by
  rcases retire_cases table handle retires with
    ⟨error, failed⟩ | ⟨entry, kind, later, found, -, shape, ran⟩
  · exact callDid_of_error failed rfl fun _ => .inl rfl
  · exact callDid_of_ok ran rfl (.retired (retiresAt_withSlot found shape))

/-- Every call does what it reports. -/
theorem callDid (table : BridgeHandleTable) (call : BridgeHandleCall) :
    (table.step call).environmentId = table.environmentId ∧
      CallDid table (table.step call) (table.effect call) := by
  cases call with
  | insertRoot record => exact callDid_insert rfl
  | insertValue record => exact callDid_insert rfl
  | admitRootHandoffHandle handle record => exact callDid_admit rfl
  | admitValueHandoffHandle handle record => exact callDid_admit rfl
  | removeRoot handle | removeValue handle | dispose handle =>
    exact callDid_retire handle (by simp)
  | teardownEnvironment environmentId =>
    by_cases elsewhere : environmentId ≠ table.environmentId
    · have ran : (BridgeHandleCall.teardownEnvironment environmentId).perform.run table =
          .ok (.tornDown ⟨environmentId, table.environmentId, 0, 0⟩) table := by
        simp only [BridgeHandleCall.perform, teardownEnvironment, run_bind,
          run_modifyGet, if_pos elsewhere]
        rfl
      exact callDid_of_ok ran rfl (.spared elsewhere rfl)
    · have ran : (BridgeHandleCall.teardownEnvironment environmentId).perform.run table =
          .ok (.tornDown ⟨environmentId, table.environmentId, table.countKind .root,
            table.countKind .value⟩)
            { table with slots := table.slots.map tornDown } := by
        simp only [BridgeHandleCall.perform, teardownEnvironment, run_bind,
          run_modifyGet, if_neg elsewhere]
        rfl
      exact callDid_of_ok ran rfl (.tornDown (not_not.mp elsewhere) rfl)

namespace BridgeHandleTable

variable {before : BridgeHandleTable} {key : BridgeHandleKey} {slot later : Option BridgeHandleSlot}
  {generation : Nat}

theorem slotHolds_kept (kept : SlotKept slot later) :
    SlotHolds later generation record ↔ SlotHolds slot generation record := by
  rcases kept with rfl | ⟨rfl, rfl⟩
  · exact Iff.rfl
  · exact iff_of_false (by simp [SlotHolds, BridgeHandleSlot.default]) (by simp [SlotHolds])

theorem slotUsed_kept (kept : SlotKept slot later) (used : SlotUsed slot generation) :
    SlotUsed later generation := by
  rcases kept with rfl | ⟨rfl, -⟩
  · exact used
  · obtain ⟨existing, found, -⟩ := used
    cases found

theorem slotUsed_of_slotHolds (holds : SlotHolds slot generation record) :
    SlotUsed slot generation :=
  ⟨_, holds, lt_succ_self _⟩

theorem slotOf_map_tornDown (slots : after.slots = before.slots.map tornDown)
    (number : Nat) : after.slotOf number = (before.slotOf number).map tornDown := by
  cases number with
  | zero => simp
  | succ index => rw [slotOf_succ, slotOf_succ, slots, getElem?_map]

theorem not_slotHolds_tornDown : ¬ SlotHolds (slot.map tornDown) generation record := by
  intro holds
  obtain ⟨existing, -, tornDown⟩ := map_eq_some_iff.mp holds
  cases existing with
  | vacant nextGeneration => cases tornDown
  | occupied entry =>
    by_cases exhausted : bridgeGenerationBound ≤ entry.generation + 1
    · simp [BridgeHandleSlot.tornDown, exhausted] at tornDown
    · simp [BridgeHandleSlot.tornDown, exhausted] at tornDown

theorem slotUsed_tornDown (used : SlotUsed slot generation) :
    SlotUsed (slot.map tornDown) generation := by
  obtain ⟨existing, rfl, older⟩ := used
  exact ⟨_, rfl, Nat.lt_of_lt_of_le older existing.tornDown_ages.1⟩

theorem StoresAt.fresh (storesAt : StoresAt before after key record) : ¬ before.Used key := by
  rintro ⟨slot, found, older⟩
  rw [storesAt.vacant slot found] at older
  exact Nat.lt_irrefl _ older

theorem StoresAt.holds_iff {other : BridgeRecord} (storesAt : StoresAt before after key record) :
    after.Holds key other ↔ other = record := by
  rw [Holds, SlotHolds, storesAt.stored]
  simp [BridgeHandleEntry.new, eq_comm]

variable {retired : BridgeHandleKey} {stored : BridgeHandleKey}

theorem StoresAt.holds_other {other : BridgeRecord} (storesAt : StoresAt before after stored record)
    (different : key ≠ stored) : after.Holds key other ↔ before.Holds key other := by
  by_cases sameSlot : key.1 = stored.1
  · have otherGeneration : key.2 ≠ stored.2 :=
      fun same => different (Prod.ext sameSlot same)
    refine iff_of_false ?_ ?_
    · intro holds
      rw [Holds, SlotHolds, sameSlot, storesAt.stored] at holds
      simp only [BridgeHandleEntry.new, some.injEq, occupied.injEq,
        BridgeHandleEntry.mk.injEq] at holds
      exact otherGeneration holds.1.symm
    · intro holds
      rw [Holds, SlotHolds, sameSlot] at holds
      cases storesAt.vacant _ holds
  · exact slotHolds_kept (storesAt.others key.1 sameSlot)

theorem StoresAt.used (storesAt : StoresAt before after stored record) (used : before.Used key) :
    after.Used key := by
  by_cases sameSlot : key.1 = stored.1
  · obtain ⟨slot, found, older⟩ := used
    rw [sameSlot] at found
    rw [storesAt.vacant slot found] at older
    exact ⟨_, (congrArg after.slotOf sameSlot).trans storesAt.stored, lt_succ_of_lt older⟩
  · exact slotUsed_kept (storesAt.others key.1 sameSlot) used

theorem RetiresAt.holds_iff (retiresAt : RetiresAt before after retired) :
    after.Holds key record ↔ before.Holds key record ∧ ¬ retired = key := by
  by_cases sameSlot : key.1 = retired.1
  · obtain ⟨entry, later, occupied, sameGeneration, found, shape⟩ := retiresAt.retired
    have gone : ¬ after.Holds key record := by
      intro holds
      rw [Holds, SlotHolds, sameSlot, found, some.injEq] at holds
      rcases shape with rfl | rfl
      · cases holds
      · simp at holds
    refine iff_of_false gone ?_
    rintro ⟨holds, different⟩
    rw [Holds, SlotHolds, sameSlot, occupied, some.injEq, BridgeHandleSlot.occupied.injEq] at holds
    rw [holds] at sameGeneration
    exact different (Prod.ext sameSlot.symm sameGeneration.symm)
  · have different : ¬ retired = key := fun same => sameSlot (congrArg Prod.fst same).symm
    rw [Holds, Holds, retiresAt.others key.1 sameSlot, and_iff_left different]

theorem RetiresAt.used (retiresAt : RetiresAt before after retired) (used : before.Used key) :
    after.Used key := by
  by_cases sameSlot : key.1 = retired.1
  · obtain ⟨entry, later, occupied, sameGeneration, found, shape⟩ := retiresAt.retired
    obtain ⟨slot, beforeFound, older⟩ := used
    rw [sameSlot, occupied, some.injEq] at beforeFound
    rw [← beforeFound] at older
    refine ⟨later, (congrArg after.slotOf sameSlot).trans found, ?_⟩
    rcases shape with rfl | rfl
    · exact sameGeneration ▸ older
    · exact older
  · rw [Used, retiresAt.others key.1 sameSlot]
    exact used

/-- The table refines a map whose keys are slots with generations. -/
theorem refines_freshMap : FreshMap.Refines step stores Retires Holds Used where
  fresh := by
    intro table call key record storesKey
    have did := (callDid table call).2
    unfold stores at storesKey
    split at storesKey
    · rename_i handle stored effect
      rw [effect] at did
      cases did with
      | stored storesAt =>
        cases storesKey
        exact storesAt.fresh
    · cases storesKey
  stored := by
    intro table call key record storesKey other
    have did := (callDid table call).2
    unfold stores at storesKey
    split at storesKey
    · rename_i handle stored effect
      rw [effect] at did
      cases did with
      | stored storesAt =>
        cases storesKey
        exact storesAt.holds_iff
    · cases storesKey
  kept := by
    intro table call key unstored record
    obtain ⟨-, did⟩ := callDid table call
    unfold stores at unstored
    unfold Retires
    generalize table.effect call = effect at did unstored ⊢
    generalize table.step call = after at did ⊢
    cases did with
    | failed kept | validated kept =>
      rw [and_iff_left not_false]
      exact slotHolds_kept (kept key.1)
    | stored storesAt =>
      rw [and_iff_left not_false]
      apply storesAt.holds_other
      rintro rfl
      exact unstored _ rfl
    | retired retiresAt => exact retiresAt.holds_iff
    | spared elsewhere kept => rw [kept, and_iff_left elsewhere]
    | tornDown here slots =>
      refine iff_of_false ?_ fun both => both.2 here
      rw [Holds, slotOf_map_tornDown slots]
      exact not_slotHolds_tornDown
  used_of_holds := fun holds => slotUsed_of_slotHolds holds
  used_step := by
    intro table call key used
    obtain ⟨-, did⟩ := callDid table call
    generalize table.effect call = effect at did
    generalize table.step call = after at did ⊢
    cases did with
    | failed kept | validated kept => exact slotUsed_kept (kept key.1) used
    | stored storesAt => exact storesAt.used used
    | retired retiresAt => exact retiresAt.used used
    | spared elsewhere kept => exact kept ▸ used
    | tornDown here slots =>
      rw [Used, slotOf_map_tornDown slots]
      exact slotUsed_tornDown used

def afterCalls (environmentId : BridgeEnvironmentId) (calls : List BridgeHandleCall) :
    BridgeHandleTable :=
  calls.foldl step (new environmentId)

def LiveAfter (environmentId : BridgeEnvironmentId) (calls : List BridgeHandleCall)
    (key : BridgeHandleKey) (record : BridgeRecord) : Prop :=
  FreshMap.Live step stores Retires (new environmentId) calls key record

/-- The key was removed, disposed or torn down while it was live. -/
def RetiredAfter (environmentId : BridgeEnvironmentId) (calls : List BridgeHandleCall)
    (key : BridgeHandleKey) : Prop :=
  FreshMap.Retired step stores Retires (new environmentId) calls key

variable (environmentId : BridgeEnvironmentId)

theorem not_holds_new (key : BridgeHandleKey)
    (record : BridgeRecord) : ¬ (new environmentId).Holds key record := by
  have empty : (new environmentId).slotOf key.1 = none := by
    unfold slotOf new
    split
    · rfl
    · rfl
  rw [Holds, SlotHolds, empty]
  simp

theorem environmentId_afterCalls (calls : List BridgeHandleCall) :
    (afterCalls environmentId calls).environmentId = environmentId := by
  induction calls using List.reverseRecOn with
  | nil => rfl
  | append_singleton calls call ih =>
    rw [afterCalls, foldl_append]
    exact (callDid _ call).1.trans ih

theorem activeRecord_eq_ok_iff {expected : BridgeHandleKind} :
    table.activeRecord handle expected = .ok record ↔
      handle.isEmpty = false ∧
        handle.environmentId = table.environmentId ∧
        table.Holds handle.key record ∧
        record.kind = expected := by
  unfold activeRecord
  simp only [bind_eq_ok_iff, guard_eq_ok_iff, entryOfKind_eq_ok_iff, Except.ok.injEq]
  have counted : handle.isEmpty = false → handle.slot ≠ 0 := by
    intro notEmpty zero
    simp [BridgeHandle.isEmpty, zero] at notEmpty
  constructor
  · rintro ⟨entry, ⟨notEmpty, here, occupied, sameGeneration, sameKind⟩, active, rfl⟩
    refine ⟨notEmpty, here, ?_, sameKind⟩
    rw [Holds, SlotHolds, BridgeHandle.key, slotOf_of_ne_zero (counted notEmpty), occupied,
      sameGeneration, ← eq_false_of_ne_true active]
  · rintro ⟨notEmpty, here, holds, sameKind⟩
    rw [Holds, SlotHolds, BridgeHandle.key, slotOf_of_ne_zero (counted notEmpty)] at holds
    exact ⟨_, ⟨notEmpty, here, holds, rfl, sameKind⟩, by simp, rfl⟩

theorem getRoot_eq_ok_iff_holds {root : PlaceholderRootRecord} :
    table.getRoot handle = .ok root ↔
      handle.isEmpty = false ∧
        handle.environmentId = table.environmentId ∧
        table.Holds handle.key (.root root) := by
  unfold getRoot
  simp only [bind_eq_ok_iff, activeRecord_eq_ok_iff]
  constructor
  · rintro ⟨found, ⟨notEmpty, here, holds, isRoot⟩, same⟩
    cases found with
    | root other =>
      obtain rfl := Except.ok.inj same
      exact ⟨notEmpty, here, holds⟩
    | value other =>
      cases isRoot
  · rintro ⟨notEmpty, here, holds⟩
    exact ⟨_, ⟨notEmpty, here, holds, rfl⟩, rfl⟩

theorem getValue_eq_ok_iff_holds {value : PlaceholderValueRecord} :
    table.getValue handle = .ok value ↔
      handle.isEmpty = false ∧
        handle.environmentId = table.environmentId ∧
        table.Holds handle.key (.value value) := by
  unfold getValue
  simp only [bind_eq_ok_iff, activeRecord_eq_ok_iff]
  constructor
  · rintro ⟨found, ⟨notEmpty, here, holds, isValue⟩, same⟩
    cases found with
    | value other =>
      obtain rfl := Except.ok.inj same
      exact ⟨notEmpty, here, holds⟩
    | root other =>
      cases isValue
  · rintro ⟨notEmpty, here, holds⟩
    exact ⟨_, ⟨notEmpty, here, holds, rfl⟩, rfl⟩

theorem holds_of_entryOfKind {expected : BridgeHandleKind} {entry : BridgeHandleEntry}
    (found : table.entryOfKind handle expected = .ok entry) (active : entry.disposed = false) :
    table.Holds handle.key entry.record := by
  obtain ⟨occupied, sameGeneration⟩ := slotOf_of_entryOfKind found
  rw [Holds, SlotHolds, occupied, ← sameGeneration, ← active]

theorem wellFormed_step (wellFormed : table.WellFormed) (call : BridgeHandleCall) :
    (table.step call).WellFormed := by
  have keeps : ∀ {slot later : Option BridgeHandleSlot}, SlotKept slot later →
      (∀ existing, slot = some existing → 1 ≤ existing.generation) →
      ∀ existing, later = some existing → 1 ≤ existing.generation := by
    rintro slot later (rfl | ⟨rfl, rfl⟩) starts existing found
    · exact starts existing found
    · obtain rfl := some.inj found
      exact Nat.le_refl 1
  have starts : ∀ number existing, table.slotOf number = some existing →
      1 ≤ existing.generation := by
    intro number existing found
    cases number with
    | zero => simp at found
    | succ index => exact wellFormed index existing (by rwa [slotOf_succ] at found)
  obtain ⟨-, did⟩ := callDid table call
  generalize table.effect call = effect at did
  generalize table.step call = after at did ⊢
  intro index existing found
  rw [← slotOf_succ] at found
  cases did with
  | failed kept | validated kept => exact keeps (kept _) (starts _) existing found
  | @stored handle record storesAt =>
    by_cases same : index + 1 = handle.key.1
    · rw [same, storesAt.stored, some.injEq] at found
      rw [← found]
      exact storesAt.starts wellFormed
    · exact keeps (storesAt.others _ same) (starts _) existing found
  | @retired handle retiresAt =>
    by_cases same : index + 1 = handle.key.1
    · obtain ⟨entry, later, occupied, sameGeneration, laterFound, shape⟩ := retiresAt.retired
      rw [same, laterFound, some.injEq] at found
      rw [← found]
      rcases shape with rfl | rfl
      · exact succ_le_succ (zero_le _)
      · have positive := starts _ _ occupied
        exact positive
    · rw [retiresAt.others _ same] at found
      exact starts _ existing found
  | spared elsewhere kept => exact starts _ existing (kept ▸ found)
  | tornDown here slots =>
    rw [slotOf_map_tornDown slots] at found
    obtain ⟨slot, slotFound, rfl⟩ := map_eq_some_iff.mp found
    exact slot.tornDown_ages.2.1 (starts _ slot slotFound)

theorem wellFormed_afterCalls
    (calls : List BridgeHandleCall) : (afterCalls environmentId calls).WellFormed := by
  induction calls using List.reverseRecOn with
  | nil =>
    intro index slot found
    cases found
  | append_singleton calls call ih =>
    rw [afterCalls, foldl_append]
    exact wellFormed_step ih call

theorem key_ne_zero_of_holds (wellFormed : table.WellFormed) (holds : table.Holds key record) :
    key.1 ≠ 0 ∧ key.2 ≠ 0 := by
  have counted : key.1 ≠ 0 := by
    intro zero
    rw [Holds, SlotHolds, zero, slotOf_zero] at holds
    cases holds
  rw [Holds, SlotHolds, slotOf_of_ne_zero counted] at holds
  exact ⟨counted, one_le_iff_ne_zero.mp (wellFormed _ _ holds)⟩

theorem rejects_of_used (used : table.Used handle.key)
    (gone : ∀ record, ¬ table.Holds handle.key record) :
    (∀ record, table.getRoot handle ≠ .ok record) ∧
      (∀ record, table.getValue handle ≠ .ok record) ∧
      ∀ call : BridgeHandleCall, call.handle? = some handle → table.effect call = none := by
  refine ⟨?_, ?_, ?_⟩
  · intro record found
    exact gone _ (getRoot_eq_ok_iff_holds.mp found).2.2
  · intro record found
    exact gone _ (getValue_eq_ok_iff_holds.mp found).2.2
  · have admits : ∀ record expected,
        ∃ error after, (admitHandoffRecord handle record expected).run table =
          .error error after := by
      intro record expected
      rcases admitHandoffRecord_cases table handle record expected with
        ⟨error, after, failed, -⟩ | ⟨_, _, _, _, ⟨held, holds, -⟩, _⟩ | ⟨_, _, _, _, _, _, storesAt⟩
      · exact ⟨error, after, failed⟩
      · exact absurd holds (gone held)
      · exact absurd used storesAt.fresh
    have fails : ∀ {call : BridgeHandleCall} {error : BridgeHandleTableError}
        {after : BridgeHandleTable}, call.perform.run table = .error error after →
        table.effect call = none := by
      intro call error after failed
      rw [effect, failed]
    have retired : ∀ {call : BridgeHandleCall}, call = .removeRoot handle ∨
        call = .removeValue handle ∨ call = .dispose handle → table.effect call = none := by
      intro call retires
      rcases retire_cases table handle retires with
        ⟨error, failed⟩ | ⟨entry, kind, later, found, active, -⟩
      · exact fails failed
      · exact absurd (holds_of_entryOfKind found active) (gone _)
    intro call named
    cases call with
    | insertRoot record | insertValue record | teardownEnvironment environmentId =>
      cases named
    | admitRootHandoffHandle other record =>
      obtain rfl := some.inj named
      obtain ⟨error, after, failed⟩ := admits (.root record) .root
      apply fails
      rw [perform, run_bind, admitRootHandoffHandle, failed]
    | admitValueHandoffHandle other record =>
      obtain rfl := some.inj named
      obtain ⟨error, after, failed⟩ := admits (.value record) .value
      apply fails
      rw [perform, run_bind, admitValueHandoffHandle, failed]
    | removeRoot other | removeValue other | dispose other =>
      obtain rfl := some.inj named
      exact retired (by simp)

theorem found_iff_live {environmentId : BridgeEnvironmentId} {calls : List BridgeHandleCall} :
    (handle.isEmpty = false ∧
      handle.environmentId = (afterCalls environmentId calls).environmentId ∧
      (afterCalls environmentId calls).Holds handle.key record) ↔
      environmentId ≠ .none ∧ handle.environmentId = environmentId ∧
        LiveAfter environmentId calls handle.key record := by
  rw [environmentId_afterCalls, LiveAfter,
    ← refines_freshMap.holds_iff_live (not_holds_new environmentId)]
  constructor
  · rintro ⟨notEmpty, here, holds⟩
    refine ⟨?_, here, holds⟩
    rintro rfl
    simp [BridgeHandle.isEmpty, here] at notEmpty
  · rintro ⟨notNone, here, holds⟩
    obtain ⟨slot, generation⟩ :=
      key_ne_zero_of_holds (wellFormed_afterCalls environmentId calls) holds
    refine ⟨?_, here, holds⟩
    simp only [BridgeHandle.isEmpty, here, Bool.or_eq_false_iff, decide_eq_false_iff_not]
    exact ⟨⟨notNone, slot⟩, generation⟩

/-- The table is a map with fresh keys: over any run the getters find the live records of
the own environment, no key is stored twice, retired keys stay rejected, and the teardown
of another environment changes nothing. -/
theorem refines_map_with_fresh_generations
    (environmentId : BridgeEnvironmentId)
    (calls : List BridgeHandleCall) :
    (∀ handle record,
      (afterCalls environmentId calls).getRoot handle = .ok record ↔
        environmentId ≠ .none ∧ handle.environmentId = environmentId ∧
          LiveAfter environmentId calls handle.key (.root record)) ∧
    (∀ handle record,
      (afterCalls environmentId calls).getValue handle = .ok record ↔
        environmentId ≠ .none ∧ handle.environmentId = environmentId ∧
          LiveAfter environmentId calls handle.key (.value record)) ∧
    (∀ call key record other,
      (afterCalls environmentId calls).stores call = some (key, record) →
      ¬ FreshMap.Stored step stores (new environmentId) calls key other) ∧
    (∀ handle, RetiredAfter environmentId calls handle.key →
      (∀ record, (afterCalls environmentId calls).getRoot handle ≠ .ok record) ∧
      (∀ record, (afterCalls environmentId calls).getValue handle ≠ .ok record) ∧
      ∀ call : BridgeHandleCall, call.handle? = some handle →
        (afterCalls environmentId calls).effect call = none) ∧
    (∀ other, other ≠ environmentId →
      (afterCalls environmentId calls).step (.teardownEnvironment other) =
        afterCalls environmentId calls) := by
  refine ⟨?_, ?_, ?_, ?_, ?_⟩
  · intro handle record
    exact getRoot_eq_ok_iff_holds.trans found_iff_live
  · intro handle record
    exact getValue_eq_ok_iff_holds.trans found_iff_live
  · intro call key record other storesKey
    exact refines_freshMap.not_stored_before storesKey
  · intro handle retired
    obtain ⟨used, gone⟩ := refines_freshMap.not_holds_of_retired retired
    exact rejects_of_used used gone
  · intro other elsewhere
    rw [← environmentId_afterCalls environmentId calls] at elsewhere
    simp only [step, perform, teardownEnvironment,
      run_bind, run_modifyGet, if_pos elsewhere]
    rfl

/-- A table without an environment finds no record, not even by the handle it returned,
and no table finds one by a handle of another environment. -/
theorem stored_record_not_found :
    LiveAfter .none [.insertRoot ⟨7⟩] (1, 1) (.root ⟨7⟩) ∧
      (∀ record, (afterCalls .none [.insertRoot ⟨7⟩]).getRoot ⟨.none, 1, 1, .root⟩ ≠
        .ok record) ∧
      LiveAfter ⟨1⟩ [.insertRoot ⟨7⟩] (1, 1) (.root ⟨7⟩) ∧
      (∀ record, (afterCalls ⟨1⟩ [.insertRoot ⟨7⟩]).getRoot ⟨⟨2⟩, 1, 1, .root⟩ ≠
        .ok record) := by
  have single : ∀ environmentId,
      LiveAfter environmentId [.insertRoot ⟨7⟩] (1, 1) (.root ⟨7⟩) := by
    intro environmentId
    refine ⟨[], .insertRoot ⟨7⟩, [], rfl, rfl, ?_⟩
    intro before next after shape
    simp at shape
  refine ⟨single _, ?_, single _, ?_⟩
  · intro record found
    cases found
  · intro record found
    cases found

end BridgeHandleTable

end FastReact
