import Mathlib.Data.List.Nodup
import Mathlib.Data.List.Perm.Subperm

/-!
# Generational slot arenas

An arena stores values in numbered slots.  A handle names a slot together with
the generation it was issued for, so a handle outlives its value without ever
naming a later one.  Vacant slots are kept on a stack and reused first.
-/

/-- A generational handle; the tag keeps handles of different arenas apart. -/
structure Handle (Tag : Type) where
  slot : Nat
  generation : Nat
deriving Repr

/-- Handles are compared by slot and generation; the tag carries no data. -/
instance (Tag : Type) : DecidableEq (Handle Tag) := fun first second =>
  decidable_of_iff
    (first.slot = second.slot ∧ first.generation = second.generation)
    (by cases first; cases second; simp)

/-- Lists of handles are searched by this comparison. -/
instance (Tag : Type) : LawfulBEq (Handle Tag) :=
  inferInstance

/-- One slot with the generation of its current or next occupant. -/
structure Slot (α : Type) where
  generation : Nat
  value : Option α
deriving Repr, DecidableEq

structure SlotArena (Tag α : Type) where
  slots : List (Slot α)
  /-- Reusable slots, the top of the stack first. -/
  vacant : List Nat
  vacantUnoccupied :
    ∀ index ∈ vacant, ∃ generation, slots[index]? = some ⟨generation, none⟩
  vacantNodup : vacant.Nodup

/-- Arenas are compared by their slots and their vacant stack. -/
instance (Tag : Type) {α : Type} [DecidableEq α] : DecidableEq (SlotArena Tag α) :=
  fun first second =>
    decidable_of_iff
      (first.slots = second.slots ∧ first.vacant = second.vacant)
      (by cases first; cases second; simp)

/-- Why a handle does not resolve. -/
inductive LookupError where
  | outOfRange
  | stale (currentGeneration : Nat)
  | vacant
deriving Repr, DecidableEq

namespace SlotArena

open List Option

variable {Tag α : Type}

def empty : SlotArena Tag α where
  slots := []
  vacant := []
  vacantUnoccupied := by simp
  vacantNodup := nodup_nil

/-- Resolve a handle, reporting the first check that fails. -/
def find (arena : SlotArena Tag α) (handle : Handle Tag) : Except LookupError α :=
  match arena.slots[handle.slot]? with
  | none => .error .outOfRange
  | some slot =>
      if slot.generation ≠ handle.generation then
        .error (.stale slot.generation)
      else
        match slot.value with
        | none => .error .vacant
        | some value => .ok value

/-- The value a handle resolves to, if any. -/
def get? (arena : SlotArena Tag α) (handle : Handle Tag) : Option α :=
  (arena.find handle).toOption

/-- Store a value in the top vacant slot, or in a new slot of generation zero. -/
def insert (arena : SlotArena Tag α) (value : α) : Handle Tag × SlotArena Tag α :=
  match shape : arena.vacant with
  | [] =>
      (⟨arena.slots.length, 0⟩,
        { slots := arena.slots ++ [⟨0, some value⟩]
          vacant := []
          vacantUnoccupied := by simp
          vacantNodup := nodup_nil })
  | index :: rest =>
      (⟨index, (arena.slots[index]?).elim 0 Slot.generation⟩,
        { slots := arena.slots.modify index
            (fun slot => { slot with value := some value })
          vacant := rest
          vacantUnoccupied := by
            have noDuplicates := arena.vacantNodup
            rw [shape, nodup_cons] at noDuplicates
            intro other member
            obtain ⟨generation, unoccupied⟩ :=
              arena.vacantUnoccupied other (by simp [shape, member])
            have different : index ≠ other := by
              rintro rfl
              exact noDuplicates.1 member
            exact ⟨generation, by simp [different, unoccupied]⟩
          vacantNodup := by
            have noDuplicates := arena.vacantNodup
            rw [shape, nodup_cons] at noDuplicates
            exact noDuplicates.2 })

/-- Change the value of a resolvable handle and nothing else. -/
def modify (arena : SlotArena Tag α) (handle : Handle Tag) (change : α → α) : SlotArena Tag α where
  slots := arena.slots.modify handle.slot fun slot =>
    if slot.generation = handle.generation then
      { slot with value := slot.value.map change }
    else
      slot
  vacant := arena.vacant
  vacantUnoccupied := by
    intro index member
    obtain ⟨generation, unoccupied⟩ := arena.vacantUnoccupied index member
    refine ⟨generation, ?_⟩
    rw [getElem?_modify, unoccupied]
    by_cases same : handle.slot = index <;> simp [same]
  vacantNodup := arena.vacantNodup

/-- The handles of the stored values, by slot. -/
def handles (arena : SlotArena Tag α) : List (Handle Tag) :=
  arena.slots.zipIdx.filterMap fun (slot, index) => slot.value.map fun _ => ⟨index, slot.generation⟩

variable {arena : SlotArena Tag α} {handle : Handle Tag}

/-- A handle resolves exactly when its slot holds a value of its generation. -/
theorem get?_eq_some_iff {value : α} :
    arena.get? handle = some value ↔
      arena.slots[handle.slot]? = some ⟨handle.generation, some value⟩ := by
  unfold get? find
  rcases found : arena.slots[handle.slot]? with _ | ⟨generation, content⟩
  · simp [Except.toOption]
  · by_cases current : generation = handle.generation
    · cases content <;> simp [current, Except.toOption]
    · simp [current, Except.toOption]

/-- Successful resolution and the partial lookup agree. -/
theorem find_eq_ok_iff {value : α} :
    arena.find handle = .ok value ↔ arena.get? handle = some value := by
  unfold get?
  cases arena.find handle <;> simp [Except.toOption]

@[simp] theorem get?_empty (handle : Handle Tag) :
    (empty : SlotArena Tag α).get? handle = none := by
  simp [get?, find, empty, Except.toOption]

@[simp] theorem get?_insert_self (arena : SlotArena Tag α) (value : α) :
    (arena.insert value).2.get? (arena.insert value).1 = some value := by
  rw [get?_eq_some_iff]
  unfold insert
  split
  · simp
  · rename_i index rest shape
    obtain ⟨generation, unoccupied⟩ := arena.vacantUnoccupied index (by simp [shape])
    simp [unoccupied]

theorem get?_insert_fresh (arena : SlotArena Tag α) (value : α) :
    arena.get? (arena.insert value).1 = none := by
  rw [eq_none_iff_forall_ne_some]
  intro existing
  rw [ne_eq, get?_eq_some_iff]
  unfold insert
  split
  · simp
  · rename_i index rest shape
    obtain ⟨generation, unoccupied⟩ := arena.vacantUnoccupied index (by simp [shape])
    simp [unoccupied]

/-- Inserting a value leaves every resolvable handle alone. -/
theorem get?_insert_of_some {existing : α} (value : α)
    (resolved : arena.get? handle = some existing) :
    (arena.insert value).2.get? handle = some existing := by
  rw [get?_eq_some_iff] at resolved ⊢
  have inRange : handle.slot < arena.slots.length := (List.getElem?_eq_some_iff.mp resolved).1
  unfold insert
  split
  · simpa [getElem?_append_left inRange] using resolved
  · rename_i index rest shape
    obtain ⟨generation, unoccupied⟩ := arena.vacantUnoccupied index (by simp [shape])
    have different : index ≠ handle.slot := by
      rintro rfl
      simp [unoccupied] at resolved
    simpa [getElem?_modify, different] using resolved

/-- Inserting a value makes its handle resolve and leaves the other handles alone. -/
theorem get?_insert (arena : SlotArena Tag α) (value : α) (handle : Handle Tag) :
    (arena.insert value).2.get? handle =
      if handle = (arena.insert value).1 then some value else arena.get? handle := by
  split
  · rename_i same
    rw [same, get?_insert_self]
  · rename_i different
    apply ext
    intro found
    rw [get?_eq_some_iff, get?_eq_some_iff]
    obtain ⟨slot, generation⟩ := handle
    unfold insert at different ⊢
    split at different
    · -- The arena grows by one slot of generation zero.
      rcases Nat.lt_trichotomy slot arena.slots.length with inside | rfl | outside
      · simp [getElem?_append_left inside]
      · have notZero : ¬ 0 = generation := fun zero => different (by simp [zero])
        simp [notZero]
      · have beyond : arena.slots.length < slot := outside
        have outOfRange : arena.slots[slot]? = none :=
          getElem?_eq_none_iff.mpr (Nat.le_of_lt beyond)
        have grownOutOfRange : (arena.slots ++ [⟨0, some value⟩])[slot]? = none :=
          getElem?_eq_none_iff.mpr (by simp; omega)
        simp [outOfRange, grownOutOfRange]
    · rename_i index rest shape
      obtain ⟨stored, unoccupied⟩ := arena.vacantUnoccupied index (by simp [shape])
      by_cases same : index = slot
      · subst same
        have notStored : ¬ stored = generation :=
          fun current => different (by simp [unoccupied, current])
        simp [unoccupied, notStored]
      · simp [same]

/-- Changing one value maps the lookup at its handle only. -/
theorem get?_modify (arena : SlotArena Tag α) (handle other : Handle Tag) (change : α → α) :
    (arena.modify handle change).get? other =
      if other = handle then
        (arena.get? other).map change
      else
        arena.get? other := by
  apply ext
  intro value
  obtain ⟨slot, generation⟩ := handle
  obtain ⟨otherSlot, otherGeneration⟩ := other
  by_cases sameSlot : slot = otherSlot
  · subst otherSlot
    rcases found : arena.slots[slot]? with _ | ⟨stored, content⟩
    · split <;> simp [get?_eq_some_iff, modify, found]
    · by_cases sameGeneration : otherGeneration = generation
      · subst otherGeneration
        by_cases current : stored = generation
        · subst stored
          cases content <;> simp [get?_eq_some_iff, modify, found]
        · simp [get?_eq_some_iff, modify, found, current]
      · by_cases current : stored = generation
        · subst stored
          simp [get?_eq_some_iff, modify, found, sameGeneration, Ne.symm sameGeneration]
        · simp [get?_eq_some_iff, modify, found, sameGeneration, current]
  · have different : otherSlot ≠ slot := Ne.symm sameSlot
    simp [get?_eq_some_iff, modify, sameSlot, different]

theorem map_get?_modify {β : Type} {project : α → β} {change : α → α}
    (same : ∀ value, project (change value) = project value) (arena : SlotArena Tag α)
    (handle other : Handle Tag) :
    ((arena.modify handle change).get? other).map project = (arena.get? other).map project := by
  rw [get?_modify]
  split_ifs
  · rw [Option.map_map]
    exact congrArg (Option.map · (arena.get? other)) (funext same)
  · rfl

/-- Distinct resolvable handles occupy distinct slots. -/
theorem length_le_of_nodup {handles : List (Handle Tag)} (noDuplicates : handles.Nodup)
    (resolved : ∀ handle ∈ handles, ∃ value, arena.get? handle = some value) :
    handles.length ≤ arena.slots.length := by
  have slotsNodup : (handles.map Handle.slot).Nodup := by
    refine noDuplicates.map_on ?_
    intro first firstMember second secondMember sameSlot
    obtain ⟨firstValue, firstFound⟩ := resolved first firstMember
    obtain ⟨secondValue, secondFound⟩ := resolved second secondMember
    rw [get?_eq_some_iff] at firstFound secondFound
    rw [sameSlot, secondFound, some.injEq, Slot.mk.injEq] at firstFound
    cases first
    cases second
    simp_all
  have slotsInRange : handles.map Handle.slot ⊆ range arena.slots.length := by
    intro slot member
    obtain ⟨handle, present, rfl⟩ := mem_map.mp member
    obtain ⟨value, found⟩ := resolved handle present
    rw [get?_eq_some_iff] at found
    exact List.mem_range.mpr (List.getElem?_eq_some_iff.mp found).1
  have lengths := (subperm_of_subset slotsNodup slotsInRange).length_le
  simpa using lengths

theorem mem_handles {arena : SlotArena Tag α} {handle : Handle Tag} :
    handle ∈ arena.handles ↔ ∃ value, arena.get? handle = some value := by
  simp only [handles, mem_filterMap, get?_eq_some_iff, Prod.exists,
    mem_zipIdx_iff_getElem?, map_eq_some_iff]
  constructor
  · rintro ⟨⟨generation, content⟩, index, found, value, shape, rfl⟩
    exact ⟨value, by simpa [← shape] using found⟩
  · rintro ⟨value, found⟩
    exact ⟨_, _, found, value, rfl, rfl⟩

theorem nodup_handles (arena : SlotArena Tag α) : arena.handles.Nodup := by
  have indicesDiffer : arena.slots.zipIdx.Pairwise fun first second => first.2 ≠ second.2 := by
    apply pairwise_map.mp
    rw [zipIdx_map_snd]
    exact nodup_range'
  refine indicesDiffer.filterMap _ ?_
  rintro ⟨first, firstIndex⟩ ⟨second, secondIndex⟩ different firstHandle firstShape
    secondHandle secondShape rfl
  simp only [map_eq_some_iff] at firstShape secondShape
  obtain ⟨-, -, rfl⟩ := firstShape
  obtain ⟨-, -, shape⟩ := secondShape
  exact different (congrArg Handle.slot shape).symm

theorem not_mem_vacant {value : α} (resolved : arena.get? handle = some value) :
    handle.slot ∉ arena.vacant := by
  intro member
  obtain ⟨generation, unoccupied⟩ := arena.vacantUnoccupied _ member
  rw [get?_eq_some_iff, unoccupied] at resolved
  simp at resolved

/-- Vacate the slot of a resolvable handle and advance its generation. -/
def remove (arena : SlotArena Tag α) (handle : Handle Tag) : SlotArena Tag α :=
  if live : (arena.get? handle).isSome = true then
    { slots := arena.slots.modify handle.slot fun slot => ⟨slot.generation + 1, none⟩
      vacant := handle.slot :: arena.vacant
      vacantUnoccupied := by
        obtain ⟨value, resolved⟩ := Option.isSome_iff_exists.mp live
        rw [get?_eq_some_iff] at resolved
        intro index member
        by_cases same : handle.slot = index
        · subst same
          exact ⟨handle.generation + 1, by simp [resolved]⟩
        · have earlier : index ∈ arena.vacant :=
            (mem_cons.mp member).resolve_left (Ne.symm same)
          obtain ⟨generation, unoccupied⟩ := arena.vacantUnoccupied index earlier
          exact ⟨generation, by simp [same, unoccupied]⟩
      vacantNodup := by
        obtain ⟨value, resolved⟩ := Option.isSome_iff_exists.mp live
        exact nodup_cons.mpr ⟨not_mem_vacant resolved, arena.vacantNodup⟩ }
  else
    arena

/-- A removed handle no longer resolves, and the others are left alone. -/
theorem get?_remove (arena : SlotArena Tag α) (handle other : Handle Tag) :
    (arena.remove handle).get? other = if other = handle then none else arena.get? other := by
  by_cases live : (arena.get? handle).isSome = true
  · obtain ⟨value, resolved⟩ := isSome_iff_exists.mp live
    rw [get?_eq_some_iff] at resolved
    apply ext
    intro found
    obtain ⟨slot, generation⟩ := handle
    obtain ⟨otherSlot, otherGeneration⟩ := other
    simp only [get?_eq_some_iff, remove, live, dite_true]
    by_cases sameSlot : slot = otherSlot
    · subst otherSlot
      by_cases sameGeneration : otherGeneration = generation
      · simp [resolved, sameGeneration]
      · simp [resolved, sameGeneration, Ne.symm sameGeneration, get?_eq_some_iff]
    · have different : otherSlot ≠ slot := Ne.symm sameSlot
      simp [sameSlot, different, get?_eq_some_iff]
  · rw [remove, dif_neg live]
    split
    · rename_i same
      rw [same, ← not_isSome_iff_eq_none]
      exact live
    · rfl

end SlotArena
