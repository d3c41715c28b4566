import FastReact.BridgeHandleTableSteps

namespace FastReact

open ErrorState List

/-!
# Admission of handles to the table

The table is extended to the slot of a handle before the generation of the handle is
looked at, and the kind inside the handle is not looked at at all.
-/

def BridgeHandleSlot.Takes (handle : BridgeHandle) (kind : BridgeHandleKind) :
    BridgeHandleSlot → Prop
  | .vacant nextGeneration => handle.generation = nextGeneration
  | .occupied entry =>
      handle.generation = entry.generation ∧ entry.record.kind = kind ∧ entry.disposed = false

namespace BridgeHandleTable

def slotOrUnused (table : BridgeHandleTable) (handle : BridgeHandle) : BridgeHandleSlot :=
  (table.slots[handle.slot - 1]?).getD .default

/-- The table has a record of the handle's own kind under the handle, by which lookups,
removals and disposals find it. -/
def StoresOwnKind (handle : BridgeHandle) (table : BridgeHandleTable) : Prop :=
  ∃ entry, table.entryOfKind handle handle.kind = .ok entry ∧ entry.record.kind = handle.kind

/-- A handle of the table that its slot takes has the kind it is admitted as, and one that
comes behind the slots has the generation of an unused slot. -/
def FitsAdmission (table : BridgeHandleTable) (handle : BridgeHandle)
    (kind : BridgeHandleKind) : Prop :=
  table.validateHandleIdentity handle = .ok () →
    ((table.slotOrUnused handle).Takes handle kind → handle.kind = kind) ∧
      (table.slots.length < handle.slot → handle.generation = 1)

variable {table : BridgeHandleTable} {handle : BridgeHandle}

theorem extendedTo_of_le (inside : handle.slot ≤ table.slots.length) :
    table.extendedTo handle.slot = table := by
  rw [extendedTo, Nat.sub_eq_zero_of_le inside, replicate_zero, append_nil]

theorem extendedTo_ne (beyond : table.slots.length < handle.slot) :
    table.extendedTo handle.slot ≠ table := by
  intro same
  have sameLength := congrArg (fun extended => extended.slots.length) same
  rw [extendedTo, length_append, length_replicate] at sameLength
  omega

theorem slotOrUnused_of_lt (beyond : table.slots.length < handle.slot) :
    table.slotOrUnused handle = .default := by
  rw [slotOrUnused, getElem?_eq_none (Nat.le_sub_one_of_lt beyond), Option.getD_none]

theorem getElem?_extendedTo (counted : handle.slot ≠ 0) :
    (table.extendedTo handle.slot).slots[handle.slot - 1]? = some (table.slotOrUnused handle) := by
  rcases Nat.lt_or_ge table.slots.length handle.slot with beyond | inside
  · rw [slotOrUnused_of_lt beyond, extendedTo,
      getElem?_append_right (Nat.le_sub_one_of_lt beyond), getElem?_replicate,
      if_pos (by omega)]
  · have found : handle.slot - 1 < table.slots.length := by omega
    rw [extendedTo_of_le inside, slotOrUnused, getElem?_eq_getElem found, Option.getD_some]

/-- An admission to the table stores or finds a record of its kind when the slot takes the
handle, and leaves the extended table otherwise. -/
theorem admitHandoffRecord_takes (identity : table.validateHandleIdentity handle = .ok ())
    (record : BridgeRecord) :
    ((table.slotOrUnused handle).Takes handle record.kind ∧
      ∃ admission after entry,
        (admitHandoffRecord handle record record.kind).run table = .ok admission after ∧
        after.entryOfKind handle record.kind = .ok entry) ∨
    (¬ (table.slotOrUnused handle).Takes handle record.kind ∧
      ∃ error, (admitHandoffRecord handle record record.kind).run table =
        .error error (table.extendedTo handle.slot)) := by
  obtain ⟨notEmpty, here⟩ := validateHandleIdentity_eq_ok_iff.mp identity
  have counted : handle.slot ≠ 0 := by
    intro zero
    simp [BridgeHandle.isEmpty, zero] at notEmpty
  have found := @getElem?_extendedTo table handle counted
  unfold admitHandoffRecord slotForHandoffAdmission
  simp only [run_bind, run_query, run_modifyGet, identity, found, Option.getD_some]
  cases shape : table.slotOrUnused handle with
  | vacant nextGeneration =>
    simp only [run_bind, run_query, validateEntryGeneration]
    by_cases current : handle.generation = nextGeneration
    · simp only [if_pos current, run_modify, run_pure]
      refine .inl ⟨current, _, _, .new handle.generation record, rfl, ?_⟩
      obtain ⟨inside, -⟩ := List.getElem?_eq_some_iff.mp found
      exact entryOfKind_eq_ok_iff.mpr ⟨notEmpty, here, getElem?_set_self inside, rfl, rfl⟩
    · simp only [if_neg current]
      exact .inr ⟨current, _, rfl⟩
  | occupied entry =>
    simp only [run_bind, run_query, validateEntryGeneration, validateEntryKind,
      BridgeHandleSlot.Takes]
    by_cases current : handle.generation = entry.generation
    · by_cases sameKind : entry.record.kind = record.kind
      · cases disposed : entry.disposed with
        | true =>
          simp only [if_pos current, if_pos sameKind]
          exact .inr ⟨by simp, _, rfl⟩
        | false =>
          simp only [if_pos current, if_pos sameKind]
          refine .inl ⟨⟨current, sameKind, trivial⟩, _, _, entry, rfl, ?_⟩
          exact entryOfKind_eq_ok_iff.mpr ⟨notEmpty, here, shape ▸ found, current, sameKind⟩
      · simp only [if_pos current, if_neg sameKind]
        exact .inr ⟨fun takes => sameKind takes.2.1, _, rfl⟩
    · simp only [if_neg current]
      exact .inr ⟨fun takes => current takes.1, _, rfl⟩

theorem admission_allOrNothing_iff (record : BridgeRecord) :
    AllOrNothing (StoresOwnKind handle) (admitHandoffRecord handle record record.kind) table ↔
      table.FitsAdmission handle record.kind := by
  unfold AllOrNothing FitsAdmission
  cases identity : table.validateHandleIdentity handle with
  | error error =>
    have refused : (admitHandoffRecord handle record record.kind).run table =
        .error error table := by
      unfold admitHandoffRecord
      rw [run_bind, run_query, identity]
    rw [refused]
    exact iff_of_true rfl (fun valid => by cases valid)
  | ok =>
    rw [forall_prop_of_true rfl]
    have unusedTakes (beyond : table.slots.length < handle.slot) :
        (table.slotOrUnused handle).Takes handle record.kind ↔ handle.generation = 1 := by
      rw [slotOrUnused_of_lt beyond]
      rfl
    rcases admitHandoffRecord_takes identity record with
      ⟨takes, admission, after, entry, ran, stored⟩ | ⟨refuses, error, ran⟩
    · obtain ⟨-, -, occupied, -, storedKind⟩ := entryOfKind_eq_ok_iff.mp stored
      rw [ran]
      constructor
      · rintro ⟨own, found, ownKind⟩
        obtain ⟨-, -, again, -⟩ := entryOfKind_eq_ok_iff.mp found
        cases Option.some.inj (occupied.symm.trans again)
        exact ⟨fun _ => ownKind.symm.trans storedKind, fun beyond => (unusedTakes beyond).mp takes⟩
      · rintro ⟨sameKind, -⟩
        exact ⟨entry, sameKind takes ▸ stored, storedKind.trans (sameKind takes).symm⟩
    · rw [ran]
      constructor
      · intro unchanged
        exact ⟨fun takes => absurd takes refuses,
          fun beyond => absurd unchanged (extendedTo_ne beyond)⟩
      · rintro ⟨-, starts⟩
        refine extendedTo_of_le (Nat.le_of_not_lt fun beyond => refuses ?_)
        exact (unusedTakes beyond).mpr (starts beyond)

end BridgeHandleTable

open BridgeHandleTable

/-- Admissions are well-kinded and atomic for the handles that fit, and for no others. -/
theorem handoff_admission_safe_iff_fits (table : BridgeHandleTable) (handle : BridgeHandle) :
    (∀ record, AllOrNothing (StoresOwnKind handle) (admitRootHandoffHandle handle record) table ↔
      table.FitsAdmission handle .root) ∧
    ∀ record, AllOrNothing (StoresOwnKind handle) (admitValueHandoffHandle handle record) table ↔
      table.FitsAdmission handle .value :=
  ⟨fun record => admission_allOrNothing_iff (.root record),
    fun record => admission_allOrNothing_iff (.value record)⟩

/-- A root is stored under a handle of the kind of values, and a handle of a later
generation leaves three slots in an empty table. -/
theorem handoff_admission_of_unfit_handles :
    ¬ AllOrNothing (StoresOwnKind ⟨⟨467⟩, 1, 1, .value⟩)
        (admitRootHandoffHandle ⟨⟨467⟩, 1, 1, .value⟩ ⟨1⟩) (.new ⟨467⟩) ∧
      ¬ AllOrNothing (StoresOwnKind ⟨⟨467⟩, 3, 2, .root⟩)
        (admitRootHandoffHandle ⟨⟨467⟩, 3, 2, .root⟩ ⟨1⟩) (.new ⟨467⟩) := by
  constructor
  · rintro ⟨entry, found, -⟩
    cases found
  · intro unchanged
    cases unchanged

end FastReact
