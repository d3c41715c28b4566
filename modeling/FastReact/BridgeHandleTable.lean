import FastReact.ErrorState
import Mathlib.Algebra.Group.Nat.Defs

namespace FastReact

open ErrorState

/-!
# The bridge handle table

Roots and values of the JavaScript side are kept in the slots of a table.  A handle names
the slot, which is counted from one, the generation of its entry and the environment of
the table.  A lookup compares the kind that is asked for with the kind of the entry; the
kind inside the handle is not compared.
-/

/-- The environment of a table; zero stands for none. -/
structure BridgeEnvironmentId where
  raw : Nat
deriving DecidableEq

def BridgeEnvironmentId.none : BridgeEnvironmentId :=
  ⟨0⟩

inductive BridgeHandleKind where
  | root
  | value
deriving DecidableEq

structure BridgeHandle where
  environmentId : BridgeEnvironmentId
  slot : Nat
  generation : Nat
  kind : BridgeHandleKind
deriving DecidableEq

def BridgeHandle.isEmpty (handle : BridgeHandle) : Bool :=
  handle.environmentId = BridgeEnvironmentId.none || handle.slot = 0 || handle.generation = 0

structure PlaceholderRootRecord where
  rootId : Nat
deriving DecidableEq

structure PlaceholderValueRecord where
  valueId : Nat
deriving DecidableEq

inductive BridgeRecord where
  | root (record : PlaceholderRootRecord)
  | value (record : PlaceholderValueRecord)
deriving DecidableEq

def BridgeRecord.kind : BridgeRecord → BridgeHandleKind
  | .root _ => .root
  | .value _ => .value

structure BridgeHandleEntry where
  generation : Nat
  record : BridgeRecord
  disposed : Bool
deriving DecidableEq

namespace BridgeHandleEntry

def new (generation : Nat) (record : BridgeRecord) : BridgeHandleEntry where
  generation := generation
  record := record
  disposed := false

def handle (entry : BridgeHandleEntry) (environmentId : BridgeEnvironmentId) (slot : Nat)
    (kind : BridgeHandleKind) : BridgeHandle :=
  ⟨environmentId, slot, entry.generation, kind⟩

end BridgeHandleEntry

inductive BridgeHandleSlot where
  | vacant (nextGeneration : Nat)
  | occupied (entry : BridgeHandleEntry)
deriving DecidableEq

inductive BridgeHandleTableError where
  | emptyHandle (handle : BridgeHandle)
  | wrongEnvironment (handle : BridgeHandle) (expected : BridgeEnvironmentId)
  | invalidHandle (handle : BridgeHandle)
  | staleHandle (handle : BridgeHandle) (currentGeneration : Nat)
  | disposedHandle (handle : BridgeHandle)
  | duplicateDispose (handle : BridgeHandle)
  | wrongKind (handle : BridgeHandle) (expected actual : BridgeHandleKind)
  | generationExhausted (slot : Nat)
deriving DecidableEq

/-- Generations have 64 bits. -/
def bridgeGenerationBound : Nat := 2 ^ 64

structure BridgeHandleTable where
  environmentId : BridgeEnvironmentId
  slots : List BridgeHandleSlot
deriving DecidableEq

abbrev BridgeHandleTableM := EStateM BridgeHandleTableError BridgeHandleTable

def validateEntryGeneration (handle : BridgeHandle) (currentGeneration : Nat) :
    Except BridgeHandleTableError Unit :=
  if handle.generation = currentGeneration then
    .ok ()
  else
    .error (.staleHandle handle currentGeneration)

def validateEntryKind (handle : BridgeHandle) (expected actual : BridgeHandleKind) :
    Except BridgeHandleTableError Unit :=
  if actual = expected then .ok () else .error (.wrongKind handle expected actual)

namespace BridgeHandleTable

def new (environmentId : BridgeEnvironmentId) : BridgeHandleTable where
  environmentId := environmentId
  slots := []

variable (table : BridgeHandleTable)

def validateHandleIdentity (handle : BridgeHandle) : Except BridgeHandleTableError Unit :=
  if handle.isEmpty then
    .error (.emptyHandle handle)
  else if handle.environmentId ≠ table.environmentId then
    .error (.wrongEnvironment handle table.environmentId)
  else
    .ok ()

def slot (handle : BridgeHandle) : Except BridgeHandleTableError BridgeHandleSlot :=
  match table.slots[handle.slot - 1]? with
  | some slot => .ok slot
  | none => .error (.invalidHandle handle)

def occupiedEntry (handle : BridgeHandle) : Except BridgeHandleTableError BridgeHandleEntry := do
  match ← table.slot handle with
  | .occupied entry => .ok entry
  | .vacant nextGeneration => .error (.staleHandle handle nextGeneration)

/-- The entry of a handle, with the checks that come before its disposal is looked at. -/
def entryOfKind (handle : BridgeHandle) (expected : BridgeHandleKind) :
    Except BridgeHandleTableError BridgeHandleEntry := do
  table.validateHandleIdentity handle
  let entry ← table.occupiedEntry handle
  validateEntryGeneration handle entry.generation
  validateEntryKind handle expected entry.record.kind
  .ok entry

def activeRecord (handle : BridgeHandle) (expected : BridgeHandleKind) :
    Except BridgeHandleTableError BridgeRecord := do
  let entry ← table.entryOfKind handle expected
  if entry.disposed then .error (.disposedHandle handle) else .ok entry.record

/-- The root behind a handle.  A value is never found: the kind was checked. -/
def getRoot (handle : BridgeHandle) : Except BridgeHandleTableError PlaceholderRootRecord := do
  match ← table.activeRecord handle .root with
  | .root record => .ok record
  | .value _ => .error (.wrongKind handle .root .value)

/-- The value behind a handle.  A root is never found: the kind was checked. -/
def getValue (handle : BridgeHandle) : Except BridgeHandleTableError PlaceholderValueRecord := do
  match ← table.activeRecord handle .value with
  | .value record => .ok record
  | .root _ => .error (.wrongKind handle .value .root)

end BridgeHandleTable

def BridgeHandleSlot.isVacant : BridgeHandleSlot → Bool
  | .vacant _ => true
  | .occupied _ => false

def BridgeHandleSlot.nextGeneration : BridgeHandleSlot → Nat
  | .vacant nextGeneration => nextGeneration
  | .occupied entry => entry.generation + 1

def BridgeHandleTable.withSlot (table : BridgeHandleTable) (index : Nat)
    (slot : BridgeHandleSlot) : BridgeHandleTable :=
  { table with slots := table.slots.set index slot }

/-- Store a record in the first vacant slot, or in a new one of generation one. -/
def insertRecord (record : BridgeRecord) : BridgeHandleTableM BridgeHandle :=
  modifyGet fun table =>
    match table.slots.findIdx? BridgeHandleSlot.isVacant with
    | some index =>
        let generation := (table.slots[index]?).elim 1 BridgeHandleSlot.nextGeneration
        let entry := BridgeHandleEntry.new generation record
        (entry.handle table.environmentId (index + 1) record.kind,
          table.withSlot index (.occupied entry))
    | none =>
        let entry := BridgeHandleEntry.new 1 record
        (entry.handle table.environmentId (table.slots.length + 1) record.kind,
          { table with slots := table.slots ++ [.occupied entry] })

def insertRoot (record : PlaceholderRootRecord) : BridgeHandleTableM BridgeHandle :=
  insertRecord (.root record)

def insertValue (record : PlaceholderValueRecord) : BridgeHandleTableM BridgeHandle :=
  insertRecord (.value record)

def removeRecord (handle : BridgeHandle) (expected : BridgeHandleKind) :
    BridgeHandleTableM BridgeRecord := do
  let entry ← query (·.entryOfKind handle expected)
  if entry.disposed then
    throw (.disposedHandle handle)
  if bridgeGenerationBound ≤ entry.generation + 1 then
    throw (.generationExhausted handle.slot)
  modify fun table => table.withSlot (handle.slot - 1) (.vacant (entry.generation + 1))
  return entry.record

def removeRoot (handle : BridgeHandle) : BridgeHandleTableM PlaceholderRootRecord := do
  match ← removeRecord handle .root with
  | .root record => return record
  | .value _ => throw (.wrongKind handle .root .value)

def removeValue (handle : BridgeHandle) : BridgeHandleTableM PlaceholderValueRecord := do
  match ← removeRecord handle .value with
  | .value record => return record
  | .root _ => throw (.wrongKind handle .value .root)

/-- Mark an entry; here the kind inside the handle is compared. -/
def dispose (handle : BridgeHandle) : BridgeHandleTableM Unit := do
  let entry ← query (·.entryOfKind handle handle.kind)
  if entry.disposed then
    throw (.duplicateDispose handle)
  modify fun table => table.withSlot (handle.slot - 1) (.occupied { entry with disposed := true })

/-- What the teardown of an environment does to a slot. -/
def BridgeHandleSlot.tornDown : BridgeHandleSlot → BridgeHandleSlot
  | .vacant nextGeneration => .vacant nextGeneration
  | .occupied entry =>
      if bridgeGenerationBound ≤ entry.generation + 1 then
        .occupied { entry with disposed := true }
      else
        .vacant (entry.generation + 1)

structure BridgeEnvironmentTeardown where
  requestedEnvironmentId : BridgeEnvironmentId
  tableEnvironmentId : BridgeEnvironmentId
  rootHandlesInvalidated : Nat
  valueHandlesInvalidated : Nat
deriving DecidableEq

/-- How many entries of a kind there are. -/
def BridgeHandleTable.countKind (table : BridgeHandleTable) (kind : BridgeHandleKind) : Nat :=
  table.slots.countP fun
    | .vacant _ => false
    | .occupied entry => entry.record.kind = kind

def teardownEnvironment (environmentId : BridgeEnvironmentId) :
    BridgeHandleTableM BridgeEnvironmentTeardown :=
  modifyGet fun table =>
    if environmentId ≠ table.environmentId then
      (⟨environmentId, table.environmentId, 0, 0⟩, table)
    else
      (⟨environmentId, table.environmentId, table.countKind .root, table.countKind .value⟩,
        { table with slots := table.slots.map BridgeHandleSlot.tornDown })

inductive BridgeHandleAdmissionOutcome where
  | admitted
  | validated
deriving DecidableEq

structure BridgeHandleAdmission where
  handle : BridgeHandle
  currentGeneration : Nat
  outcome : BridgeHandleAdmissionOutcome
deriving DecidableEq

/-- A slot that was never used. -/
def BridgeHandleSlot.default : BridgeHandleSlot :=
  .vacant 1

/-- Extend the table with unused slots to a number of slots. -/
def BridgeHandleTable.extendedTo (table : BridgeHandleTable) (length : Nat) : BridgeHandleTable :=
  { table with
    slots := table.slots ++
      List.replicate (length - table.slots.length) BridgeHandleSlot.default }

def slotForHandoffAdmission (handle : BridgeHandle) : BridgeHandleTableM BridgeHandleSlot :=
  modifyGet fun table =>
    let extended := table.extendedTo handle.slot
    ((extended.slots[handle.slot - 1]?).getD .default, extended)

/-- Store a record under a handle that comes from elsewhere, or validate that the table
has it. -/
def admitHandoffRecord (handle : BridgeHandle) (record : BridgeRecord)
    (expected : BridgeHandleKind) : BridgeHandleTableM BridgeHandleAdmission := do
  query (·.validateHandleIdentity handle)
  match ← slotForHandoffAdmission handle with
  | .vacant nextGeneration =>
      query fun _ => validateEntryGeneration handle nextGeneration
      modify fun table =>
        table.withSlot (handle.slot - 1) (.occupied (.new handle.generation record))
      return ⟨handle, handle.generation, .admitted⟩
  | .occupied entry =>
      query fun _ => validateEntryGeneration handle entry.generation
      query fun _ => validateEntryKind handle expected entry.record.kind
      if entry.disposed then
        throw (.disposedHandle handle)
      return ⟨handle, entry.generation, .validated⟩

def admitRootHandoffHandle (handle : BridgeHandle) (record : PlaceholderRootRecord) :
    BridgeHandleTableM BridgeHandleAdmission :=
  admitHandoffRecord handle (.root record) .root

def admitValueHandoffHandle (handle : BridgeHandle) (record : PlaceholderValueRecord) :
    BridgeHandleTableM BridgeHandleAdmission :=
  admitHandoffRecord handle (.value record) .value

end FastReact
