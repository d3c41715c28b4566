import FastReact.BridgeHandleTable

namespace FastReact

open ErrorState List Option

/-!
# What the operations on the handle table do

The generation of the next entry of a slot never goes back, so that a handle is issued at
most once.  Only the insertion of a root makes a root active.
-/

namespace BridgeHandleSlot

def generation : BridgeHandleSlot → Nat
  | .vacant nextGeneration => nextGeneration
  | .occupied entry => entry.generation

def HoldsRoot (slot : BridgeHandleSlot) (generation : Nat) (record : PlaceholderRootRecord) :
    Prop :=
  slot = .occupied ⟨generation, .root record, false⟩

theorem HoldsRoot.notDisposed {entry : BridgeHandleEntry} {generation : Nat}
    {record : PlaceholderRootRecord} (holdsRoot : (occupied entry).HoldsRoot generation record) :
    entry.disposed = false := by
  obtain rfl := occupied.inj holdsRoot
  rfl

end BridgeHandleSlot

namespace BridgeHandleTable

variable {table before between after : BridgeHandleTable} {handle : BridgeHandle}

theorem validateHandleIdentity_eq_ok_iff :
    table.validateHandleIdentity handle = .ok () ↔
      handle.isEmpty = false ∧ handle.environmentId = table.environmentId := by
  unfold validateHandleIdentity
  rw [guard_eq_ok_iff, guard_eq_ok_iff]
  simp

theorem occupiedEntry_eq_ok_iff {entry : BridgeHandleEntry} :
    table.occupiedEntry handle = .ok entry ↔
      table.slots[handle.slot - 1]? = some (.occupied entry) := by
  unfold occupiedEntry slot
  cases table.slots[handle.slot - 1]? with
  | none => simp [bind, Except.bind]
  | some slot =>
    cases slot with
    | vacant nextGeneration => simp [bind, Except.bind]
    | occupied other => simp [bind, Except.bind]

theorem entryOfKind_eq_ok_iff {expected : BridgeHandleKind} {entry : BridgeHandleEntry} :
    table.entryOfKind handle expected = .ok entry ↔
      handle.isEmpty = false ∧
        handle.environmentId = table.environmentId ∧
        table.slots[handle.slot - 1]? = some (.occupied entry) ∧
        handle.generation = entry.generation ∧
        entry.record.kind = expected := by
  unfold entryOfKind
  simp only [bind_eq_ok_iff, validateEntryGeneration, validateEntryKind]
  constructor
  · rintro ⟨⟨⟩, identity, found, occupied, ⟨⟩, sameGeneration, ⟨⟩, sameKind, same⟩
    obtain rfl := Except.ok.inj same
    obtain ⟨notEmpty, here⟩ := validateHandleIdentity_eq_ok_iff.mp identity
    exact ⟨notEmpty, here, occupiedEntry_eq_ok_iff.mp occupied,
      demand_eq_ok_iff.mp sameGeneration, demand_eq_ok_iff.mp sameKind⟩
  · rintro ⟨notEmpty, here, occupied, sameGeneration, sameKind⟩
    exact ⟨(), validateHandleIdentity_eq_ok_iff.mpr ⟨notEmpty, here⟩, entry,
      occupiedEntry_eq_ok_iff.mpr occupied, (), if_pos sameGeneration, (), if_pos sameKind,
      rfl⟩

theorem entryOfKind_congr (sameEnvironment : after.environmentId = before.environmentId)
    (sameSlot : after.slots[handle.slot - 1]? = before.slots[handle.slot - 1]?)
    (expected : BridgeHandleKind) :
    after.entryOfKind handle expected = before.entryOfKind handle expected := by
  unfold entryOfKind validateHandleIdentity occupiedEntry slot
  rw [sameEnvironment, sameSlot]

variable {record : PlaceholderRootRecord}

theorem getRoot_eq_ok_iff :
    table.getRoot handle = .ok record ↔
      handle.isEmpty = false ∧
        handle.environmentId = table.environmentId ∧
        ∃ slot, table.slots[handle.slot - 1]? = some slot ∧
          slot.HoldsRoot handle.generation record := by
  unfold getRoot activeRecord
  simp only [bind_eq_ok_iff, entryOfKind_eq_ok_iff]
  constructor
  · rintro ⟨found, ⟨entry, ⟨notEmpty, here, occupied, sameGeneration, sameKind⟩, active⟩,
      isRoot⟩
    rw [guard_eq_ok_iff, Except.ok.injEq] at active
    obtain ⟨notDisposed, rfl⟩ := active
    refine ⟨notEmpty, here, _, occupied, ?_⟩
    obtain ⟨generation, content, disposed⟩ := entry
    cases content with
    | root other =>
      obtain rfl := Except.ok.inj isRoot
      rw [BridgeHandleSlot.HoldsRoot, sameGeneration]
      simpa using notDisposed
    | value other =>
      cases isRoot
  · rintro ⟨notEmpty, here, slot, occupied, rfl⟩
    exact ⟨.root record, ⟨_, ⟨notEmpty, here, occupied, rfl, rfl⟩, rfl⟩, rfl⟩

/-- Generations start at one. -/
def WellFormed (table : BridgeHandleTable) : Prop :=
  ∀ (index : Nat) (slot : BridgeHandleSlot),
    table.slots[index]? = some slot → 1 ≤ slot.generation

/-- The handle was given out: its slot has come to its generation. -/
def Issued (table : BridgeHandleTable) (handle : BridgeHandle) : Prop :=
  handle.environmentId = table.environmentId ∧
    1 ≤ handle.slot ∧
    ∃ slot, table.slots[handle.slot - 1]? = some slot ∧
      handle.generation < slot.nextGeneration

/-- Slots only move on to later generations. -/
structure MovesOn (before after : BridgeHandleTable) : Prop where
  environmentId : after.environmentId = before.environmentId
  slots : ∀ (index : Nat) (slot : BridgeHandleSlot), before.slots[index]? = some slot →
    ∃ later : BridgeHandleSlot,
      after.slots[index]? = some later ∧ slot.nextGeneration ≤ later.nextGeneration
  wellFormed : before.WellFormed → after.WellFormed

theorem movesOn_refl (table : BridgeHandleTable) : MovesOn table table where
  environmentId := rfl
  slots := fun _ slot found => ⟨slot, found, Nat.le_refl _⟩
  wellFormed := fun wellFormed => wellFormed

theorem MovesOn.trans (earlier : MovesOn before between) (later : MovesOn between after) :
    MovesOn before after where
  environmentId := later.environmentId.trans earlier.environmentId
  slots := by
    intro index slot found
    obtain ⟨next, nextFound, moved⟩ := earlier.slots index slot found
    obtain ⟨last, lastFound, movedOn⟩ := later.slots index next nextFound
    exact ⟨last, lastFound, Nat.le_trans moved movedOn⟩
  wellFormed := fun wellFormed => later.wellFormed (earlier.wellFormed wellFormed)

theorem MovesOn.issued (moved : MovesOn before after) (issued : before.Issued handle) :
    after.Issued handle := by
  obtain ⟨here, counted, slot, found, older⟩ := issued
  obtain ⟨later, laterFound, further⟩ := moved.slots _ slot found
  exact ⟨here.trans moved.environmentId.symm, counted, later, laterFound,
    Nat.lt_of_lt_of_le older further⟩

/-- Slots only move on, and no root becomes active. -/
structure Ages (before after : BridgeHandleTable) : Prop extends MovesOn before after where
  roots : ∀ (index : Nat) (slot : BridgeHandleSlot) generation record,
    after.slots[index]? = some slot →
    slot.HoldsRoot generation record → before.slots[index]? = some slot

theorem ages_refl (table : BridgeHandleTable) : Ages table table where
  toMovesOn := movesOn_refl table
  roots := fun _ _ _ _ found _ => found

theorem Ages.trans (earlier : Ages before between) (later : Ages between after) :
    Ages before after where
  toMovesOn := earlier.toMovesOn.trans later.toMovesOn
  roots := fun index slot generation record found holdsRoot =>
    earlier.roots index slot generation record
      (later.roots index slot generation record found holdsRoot) holdsRoot

instance : IsPreorder BridgeHandleTable Ages where
  refl := ages_refl
  trans _ _ _ := Ages.trans

theorem Ages.getRoot (ages : Ages before after)
    (found : after.getRoot handle = .ok record) : before.getRoot handle = .ok record := by
  obtain ⟨notEmpty, here, slot, occupied, holdsRoot⟩ := getRoot_eq_ok_iff.mp found
  exact getRoot_eq_ok_iff.mpr ⟨notEmpty, here.trans ages.environmentId, slot,
    ages.roots _ slot _ record occupied holdsRoot, holdsRoot⟩

theorem issued_of_getRoot
    (found : table.getRoot handle = .ok record) : table.Issued handle := by
  obtain ⟨notEmpty, here, slot, occupied, rfl⟩ := getRoot_eq_ok_iff.mp found
  have counted : handle.slot ≠ 0 := by
    rintro zero
    simp [BridgeHandle.isEmpty, zero] at notEmpty
  exact ⟨here, Nat.one_le_iff_ne_zero.mpr counted, _, occupied, Nat.lt_succ_self _⟩

theorem ages_withSlot {index : Nat} {slot : BridgeHandleSlot} (later : BridgeHandleSlot)
    (found : table.slots[index]? = some slot) (moved : slot.nextGeneration ≤ later.nextGeneration)
    (noRoot : ∀ generation record, ¬ later.HoldsRoot generation record)
    (starts : 1 ≤ slot.generation → 1 ≤ later.generation) :
    Ages table (table.withSlot index later) := by
  have lookup : ∀ other, (table.withSlot index later).slots[other]? =
      if other = index then some later else table.slots[other]? := by
    intro other
    unfold withSlot
    obtain ⟨inside, -⟩ := List.getElem?_eq_some_iff.mp found
    by_cases same : other = index
    · rw [same, getElem?_set_self inside, if_pos rfl]
    · rw [getElem?_set_ne (Ne.symm same), if_neg same]
  refine ⟨⟨rfl, ?_, ?_⟩, ?_⟩
  · intro other existing otherFound
    rw [lookup]
    by_cases same : other = index
    · rw [same, found, some.injEq] at otherFound
      rw [if_pos same, ← otherFound]
      exact ⟨later, rfl, moved⟩
    · rw [if_neg same]
      exact ⟨existing, otherFound, Nat.le_refl _⟩
  · intro wellFormed other existing otherFound
    rw [lookup] at otherFound
    by_cases same : other = index
    · rw [if_pos same, some.injEq] at otherFound
      rw [← otherFound]
      exact starts (wellFormed index slot found)
    · rw [if_neg same] at otherFound
      exact wellFormed other existing otherFound
  · intro other existing generation record otherFound holdsRoot
    rw [lookup] at otherFound
    by_cases same : other = index
    · rw [if_pos same, some.injEq] at otherFound
      rw [← otherFound] at holdsRoot
      exact absurd holdsRoot (noRoot generation record)
    · rwa [if_neg same] at otherFound

end BridgeHandleTable

open BridgeHandleTable

structure Inserts (before after : BridgeHandleTable) (index generation : Nat)
    (record : BridgeRecord) : Prop where
  environmentId : after.environmentId = before.environmentId
  vacant : ∀ slot : BridgeHandleSlot,
    before.slots[index]? = some slot → slot = .vacant generation
  starts : before.WellFormed → 1 ≤ generation
  slots : ∀ other : Nat, after.slots[other]? =
    if other = index then
      some (.occupied (.new generation record))
    else
      before.slots[other]?

variable (table : BridgeHandleTable)

theorem run_insertRecord (record : BridgeRecord) :
    ∃ index generation after,
      (insertRecord record).run table =
        .ok ⟨table.environmentId, index + 1, generation, record.kind⟩ after ∧
      Inserts table after index generation record := by
  cases position : table.slots.findIdx? BridgeHandleSlot.isVacant with
  | some index =>
    obtain ⟨inside, isVacant, -⟩ := findIdx?_eq_some_iff_getElem.mp position
    cases shape : table.slots[index] with
    | occupied entry =>
      rw [shape] at isVacant
      cases isVacant
    | vacant generation =>
      have found : table.slots[index]? = some (.vacant generation) := by
        rw [getElem?_eq_getElem inside, shape]
      refine ⟨index, generation, table.withSlot index (.occupied (.new generation record)),
        ?_, rfl, ?_, fun wellFormed => wellFormed index _ found, ?_⟩
      · simp only [insertRecord, run_modifyGet, position, found]
        rfl
      · intro slot again
        exact (some.inj (found.symm.trans again)).symm
      · intro other
        unfold withSlot
        by_cases same : other = index
        · rw [same, getElem?_set_self inside, if_pos rfl]
        · rw [getElem?_set_ne (Ne.symm same), if_neg same]
  | none =>
    refine ⟨table.slots.length, 1,
      { table with slots := table.slots ++ [.occupied (.new 1 record)] }, ?_,
      rfl, ?_, fun _ => Nat.le_refl 1, ?_⟩
    · simp only [insertRecord, run_modifyGet, position]
      rfl
    · intro slot found
      rw [getElem?_eq_none (Nat.le_refl _)] at found
      cases found
    · intro other
      rcases Nat.lt_trichotomy other table.slots.length with inside | rfl | beyond
      · rw [getElem?_append_left inside, if_neg (Nat.ne_of_lt inside)]
      · rw [getElem?_concat_length, if_pos rfl]
      · rw [if_neg (Nat.ne_of_gt beyond), getElem?_eq_none (Nat.le_of_lt beyond),
          getElem?_eq_none (by simpa using Nat.succ_le_of_lt beyond)]

namespace Inserts

variable {before after : BridgeHandleTable} {index generation : Nat} {record : BridgeRecord}

section

variable (inserts : Inserts before after index generation record)
include inserts

theorem movesOn : MovesOn before after where
  environmentId := inserts.environmentId
  slots := by
    intro other slot found
    rw [inserts.slots]
    by_cases same : other = index
    · rw [same] at found
      rw [if_pos same, inserts.vacant slot found]
      exact ⟨_, rfl, Nat.le_succ _⟩
    · rw [if_neg same]
      exact ⟨slot, found, Nat.le_refl _⟩
  wellFormed := by
    intro wellFormed other slot found
    rw [inserts.slots] at found
    by_cases same : other = index
    · rw [if_pos same, some.injEq] at found
      rw [← found]
      exact inserts.starts wellFormed
    · rw [if_neg same] at found
      exact wellFormed other slot found

theorem fresh (kind : BridgeHandleKind) :
    ¬ before.Issued ⟨before.environmentId, index + 1, generation, kind⟩ := by
  rintro ⟨-, -, slot, found, older⟩
  rw [inserts.vacant slot found] at older
  exact Nat.lt_irrefl _ older

theorem entryOfKind_eq_ok {handle : BridgeHandle} {expected : BridgeHandleKind}
    {entry : BridgeHandleEntry} (found : before.entryOfKind handle expected = .ok entry) :
    after.entryOfKind handle expected = .ok entry := by
  obtain ⟨-, -, occupied, -, -⟩ := entryOfKind_eq_ok_iff.mp found
  have elsewhere : handle.slot - 1 ≠ index := by
    rintro rfl
    cases inserts.vacant _ occupied
  rw [entryOfKind_congr inserts.environmentId ?_ expected, found]
  rw [inserts.slots, if_neg elsewhere]

theorem getValue_eq_ok {handle : BridgeHandle} {value : PlaceholderValueRecord}
    (found : before.getValue handle = .ok value) : after.getValue handle = .ok value := by
  unfold BridgeHandleTable.getValue activeRecord at found ⊢
  cases entryFound : before.entryOfKind handle .value with
  | error error =>
    rw [entryFound] at found
    cases found
  | ok entry =>
    rw [entryFound] at found
    rwa [inserts.entryOfKind_eq_ok entryFound]

theorem holdsRoot_cases {other otherGeneration : Nat} {slot : BridgeHandleSlot}
    {root : PlaceholderRootRecord}
    (found : after.slots[other]? = some slot) (holdsRoot : slot.HoldsRoot otherGeneration root) :
    (other = index ∧ otherGeneration = generation ∧ record = .root root) ∨
      before.slots[other]? = some slot := by
  rw [inserts.slots] at found
  by_cases same : other = index
  · rw [if_pos same, holdsRoot, some.injEq] at found
    cases found
    exact .inl ⟨same, rfl, rfl⟩
  · rw [if_neg same] at found
    exact .inr found

end

end Inserts

theorem within_insertValue (record : PlaceholderValueRecord) :
    Within Ages (insertValue record) := by
  apply Within.of_allOrNothing
  intro table
  obtain ⟨index, generation, after, ran, inserts⟩ := run_insertRecord table (.value record)
  refine .of_ok ran ⟨inserts.movesOn, ?_⟩
  intro other slot otherGeneration root found holdsRoot
  rcases inserts.holdsRoot_cases found holdsRoot with ⟨-, -, isRoot⟩ | before
  · cases isRoot
  · exact before

theorem removeRecord_cases (handle : BridgeHandle) (expected : BridgeHandleKind) :
    (∃ error, (removeRecord handle expected).run table = .error error table) ∨
      ∃ entry,
        table.entryOfKind handle expected = .ok entry ∧
        entry.disposed = false ∧
        (removeRecord handle expected).run table =
          .ok entry.record (table.withSlot (handle.slot - 1) (.vacant (entry.generation + 1))) := by
  unfold removeRecord
  rw [run_bind, run_query]
  cases table.entryOfKind handle expected with
  | error error => exact .inl ⟨error, rfl⟩
  | ok entry =>
    by_cases disposed : entry.disposed
    · refine .inl ⟨.disposedHandle handle, ?_⟩
      simp only [if_pos disposed]
      rfl
    · by_cases exhausted : bridgeGenerationBound ≤ entry.generation + 1
      · refine .inl ⟨.generationExhausted handle.slot, ?_⟩
        simp only [if_neg disposed, if_pos exhausted]
        rfl
      · refine .inr ⟨entry, rfl, by simpa using disposed, ?_⟩
        simp only [if_neg disposed, if_neg exhausted]
        rfl

theorem vacated {table : BridgeHandleTable} {handle : BridgeHandle} {expected : BridgeHandleKind}
    {entry : BridgeHandleEntry} (found : table.entryOfKind handle expected = .ok entry) :
    Ages table (table.withSlot (handle.slot - 1) (.vacant (entry.generation + 1))) ∧
      (table.withSlot (handle.slot - 1) (.vacant (entry.generation + 1))).getRoot handle =
        .error (.staleHandle handle (entry.generation + 1)) := by
  obtain ⟨notEmpty, here, occupied, -, -⟩ := entryOfKind_eq_ok_iff.mp found
  constructor
  · apply ages_withSlot (.vacant (entry.generation + 1)) occupied (Nat.le_refl _)
    · intro generation record holdsRoot
      cases holdsRoot
    · exact fun _ => Nat.succ_le_succ (Nat.zero_le _)
  · obtain ⟨inside, -⟩ := List.getElem?_eq_some_iff.mp occupied
    have valid : (table.withSlot (handle.slot - 1)
        (.vacant (entry.generation + 1))).validateHandleIdentity handle = .ok () :=
      validateHandleIdentity_eq_ok_iff.mpr ⟨notEmpty, here⟩
    unfold getRoot activeRecord entryOfKind occupiedEntry slot
    rw [valid]
    unfold withSlot
    rw [getElem?_set_self inside]
    rfl

variable (handle : BridgeHandle)

theorem within_removeRecord (expected : BridgeHandleKind) :
    Within Ages (removeRecord handle expected) := by
  apply Within.of_allOrNothing
  intro table
  rcases removeRecord_cases table handle expected with
    ⟨error, failed⟩ | ⟨entry, found, -, ran⟩
  · exact .of_error error failed
  · exact .of_ok ran (vacated found).1

theorem removeRoot_cases (handle : BridgeHandle) :
    (∃ error, (removeRoot handle).run table = .error error table) ∨
      ∃ entry record,
        table.entryOfKind handle .root = .ok entry ∧
        entry.disposed = false ∧
        (removeRoot handle).run table =
          .ok record (table.withSlot (handle.slot - 1) (.vacant (entry.generation + 1))) := by
  unfold removeRoot
  rcases removeRecord_cases table handle .root with
    ⟨error, failed⟩ | ⟨entry, found, active, ran⟩
  · exact .inl ⟨error, by rw [run_bind, failed]⟩
  · obtain ⟨-, -, -, -, isRoot⟩ := entryOfKind_eq_ok_iff.mp found
    cases content : entry.record with
    | root record =>
      refine .inr ⟨entry, record, found, active, ?_⟩
      rw [run_bind, ran, content]
      rfl
    | value record =>
      rw [content] at isRoot
      cases isRoot

theorem within_removeRoot : Within Ages (removeRoot handle) := by
  apply Within.bind (within_removeRecord handle .root)
  rintro (record | record)
  · exact Within.pure record
  · exact .throw _

theorem within_removeValue : Within Ages (removeValue handle) := by
  apply Within.bind (within_removeRecord handle .value)
  rintro (record | record)
  · exact Within.throw _
  · exact .pure record

theorem within_dispose : Within Ages (dispose handle) := by
  apply Within.of_allOrNothing
  intro table
  cases found : table.entryOfKind handle handle.kind with
  | error error =>
    refine .of_error error ?_
    unfold dispose
    rw [run_bind, run_query, found]
  | ok entry =>
    by_cases disposed : entry.disposed
    · refine .of_error (.duplicateDispose handle) ?_
      unfold dispose
      rw [run_bind, run_query, found]
      simp only [if_pos disposed]
      rfl
    · have ran : (dispose handle).run table =
          .ok () (table.withSlot (handle.slot - 1)
            (.occupied { entry with disposed := true })) := by
        unfold dispose
        rw [run_bind, run_query, found]
        simp only [if_neg disposed]
        rfl
      obtain ⟨-, -, occupied, -, -⟩ := entryOfKind_eq_ok_iff.mp found
      apply AllOrNothing.of_ok ran
      apply ages_withSlot (.occupied { entry with disposed := true }) occupied (Nat.le_refl _)
      · intro generation record holdsRoot
        cases holdsRoot.notDisposed
      · exact fun starts => starts

theorem BridgeHandleSlot.tornDown_ages (slot : BridgeHandleSlot) :
    slot.nextGeneration ≤ slot.tornDown.nextGeneration ∧
      (1 ≤ slot.generation → 1 ≤ slot.tornDown.generation) ∧
      ∀ generation record, ¬ slot.tornDown.HoldsRoot generation record := by
  cases slot with
  | vacant nextGeneration =>
    refine ⟨Nat.le_refl _, fun starts => starts, ?_⟩
    intro generation record holdsRoot
    cases holdsRoot
  | occupied entry =>
    by_cases exhausted : bridgeGenerationBound ≤ entry.generation + 1
    · simp only [tornDown, if_pos exhausted]
      refine ⟨Nat.le_refl _, fun starts => starts, ?_⟩
      intro generation record holdsRoot
      cases holdsRoot.notDisposed
    · simp only [tornDown, if_neg exhausted]
      refine ⟨Nat.le_refl _, fun _ => Nat.succ_le_succ (Nat.zero_le _), ?_⟩
      intro generation record holdsRoot
      cases holdsRoot

theorem within_teardownEnvironment (environmentId : BridgeEnvironmentId) :
    Within Ages (teardownEnvironment environmentId) := by
  apply Within.modifyGet
  intro table
  by_cases elsewhere : environmentId ≠ table.environmentId
  · rw [if_pos elsewhere]
    exact ages_refl table
  · rw [if_neg elsewhere]
    refine ⟨⟨rfl, ?_, ?_⟩, ?_⟩
    · intro index slot found
      refine ⟨slot.tornDown, ?_, slot.tornDown_ages.1⟩
      simp [found]
    · intro wellFormed index later found
      obtain ⟨slot, slotFound, rfl⟩ : ∃ slot, table.slots[index]? = some slot ∧
          slot.tornDown = later := by
        simpa using found
      exact slot.tornDown_ages.2.1 (wellFormed index slot slotFound)
    · intro index later generation record found holdsRoot
      obtain ⟨slot, -, rfl⟩ : ∃ slot, table.slots[index]? = some slot ∧
          slot.tornDown = later := by
        simpa using found
      exact absurd holdsRoot (slot.tornDown_ages.2.2 generation record)

end FastReact
