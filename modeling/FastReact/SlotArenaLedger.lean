import FastReact.ErrorState
import FastReact.SlotArena

/-!
# The life of a handle

A handle first resolves to nothing, then to a stored value, and once its slot has gone on
to a later generation it is spent.  Insertion, change and removal only move handles on in
this order, so that over any number of them no handle resolves again after it has been
spent.  A ledger lists the handles in the order in which they began and ceased to resolve.
-/

namespace SlotArena

open List

variable {Tag α : Type} {arena before between after : SlotArena Tag α}

def Live (arena : SlotArena Tag α) (handle : Handle Tag) : Prop :=
  ∃ value, arena.get? handle = some value

instance (arena : SlotArena Tag α) (handle : Handle Tag) : Decidable (arena.Live handle) :=
  decidable_of_iff _ Option.isSome_iff_exists

/-- The slot of the handle is at a later generation. -/
def Spent (arena : SlotArena Tag α) (handle : Handle Tag) : Prop :=
  ∃ slot, arena.slots[handle.slot]? = some slot ∧ handle.generation < slot.generation

variable {handle : Handle Tag}

theorem Spent.not_live (spent : arena.Spent handle) : ¬ arena.Live handle := by
  rintro ⟨value, found⟩
  obtain ⟨slot, slotFound, older⟩ := spent
  rw [get?_eq_some_iff, slotFound, Option.some.injEq] at found
  rw [found] at older
  exact Nat.lt_irrefl _ older

/-- Handles only move on: what is spent stays spent, and what resolves keeps resolving
until it is spent. -/
structure Ages (before after : SlotArena Tag α) : Prop where
  spent : ∀ handle, before.Spent handle → after.Spent handle
  live : ∀ handle, before.Live handle → after.Live handle ∨ after.Spent handle

theorem ages_refl (arena : SlotArena Tag α) : Ages arena arena where
  spent := fun _ spent => spent
  live := fun _ live => .inl live

theorem Ages.trans (earlier : Ages before between) (later : Ages between after) :
    Ages before after where
  spent := fun handle spent => later.spent handle (earlier.spent handle spent)
  live := by
    intro handle live
    rcases earlier.live handle live with liveBetween | spent
    · exact later.live handle liveBetween
    · exact .inr (later.spent handle spent)

instance : IsPreorder (SlotArena Tag α) Ages where
  refl := ages_refl
  trans _ _ _ := Ages.trans

section

variable (arena : SlotArena Tag α)

theorem not_spent_insert (value : α) : ¬ arena.Spent (arena.insert value).1 := by
  intro spent
  have atNewSlot : ∀ handle : Handle Tag,
      handle.generation = (arena.slots[handle.slot]?).elim 0 Slot.generation →
      ¬ arena.Spent handle := by
    rintro handle same ⟨slot, found, older⟩
    rw [same, found] at older
    exact Nat.lt_irrefl _ older
  refine atNewSlot _ ?_ spent
  unfold insert
  split
  · simp
  · rfl

theorem live_insert (value : α) :
    ¬ arena.Live (arena.insert value).1 ∧
      ¬ arena.Spent (arena.insert value).1 ∧
      (arena.insert value).2.Live (arena.insert value).1 := by
  refine ⟨?_, not_spent_insert arena value, value, get?_insert_self arena value⟩
  rintro ⟨existing, found⟩
  rw [get?_insert_fresh] at found
  cases found

theorem not_live_remove (handle : Handle Tag) : ¬ (arena.remove handle).Live handle := by
  rintro ⟨existing, found⟩
  rw [get?_remove, if_pos rfl] at found
  cases found

end

def generations (arena : SlotArena Tag α) : List Nat :=
  arena.slots.map Slot.generation

theorem spent_iff :
    arena.Spent handle ↔
      ∃ generation, arena.generations[handle.slot]? = some generation ∧
        handle.generation < generation := by
  unfold Spent generations
  rw [getElem?_map]
  cases arena.slots[handle.slot]? <;> simp

section

variable (arena : SlotArena Tag α)

theorem generations_insert (value : α) :
    arena.generations <+: (arena.insert value).2.generations := by
  unfold insert
  split
  · simp [generations]
  · rename_i index rest shape
    have same : ((arena.slots.modify index fun slot => { slot with value := some value }).map
        Slot.generation) = arena.slots.map Slot.generation := by
      apply ext_getElem?
      intro position
      rw [getElem?_map, getElem?_map, getElem?_modify]
      cases arena.slots[position]? with
      | none => rfl
      | some slot => by_cases isIndex : index = position <;> simp [isIndex]
    simp [generations, same]

theorem ages_insert (value : α) : Ages arena (arena.insert value).2 where
  spent := by
    intro handle spent
    rw [spent_iff] at spent ⊢
    obtain ⟨generation, found, older⟩ := spent
    obtain ⟨inside, -⟩ := List.getElem?_eq_some_iff.mp found
    have kept := List.prefix_iff_getElem?.mp (arena.generations_insert value) handle.slot inside
    rw [← List.getElem?_eq_getElem inside, found] at kept
    exact ⟨generation, kept, older⟩
  live := by
    rintro handle ⟨existing, found⟩
    exact .inl ⟨existing, get?_insert_of_some value found⟩

theorem ages_modify (handle : Handle Tag) (change : α → α) :
    Ages arena (arena.modify handle change) where
  spent := by
    rintro other ⟨slot, found, older⟩
    refine ⟨if handle.slot = other.slot then
      (if slot.generation = handle.generation then
        { slot with value := slot.value.map change } else slot) else slot, ?_, ?_⟩
    · rw [modify, getElem?_modify, found]
      by_cases same : handle.slot = other.slot <;> simp [same]
    · split
      · split <;> exact older
      · exact older
  live := by
    rintro other ⟨existing, found⟩
    refine .inl ?_
    by_cases same : other = handle
    · exact ⟨change existing, by rw [get?_modify, if_pos same, found]; rfl⟩
    · exact ⟨existing, by rw [get?_modify, if_neg same, found]⟩

end

theorem spent_remove (live : arena.Live handle) : (arena.remove handle).Spent handle := by
  obtain ⟨value, found⟩ := live
  have isSome : (arena.get? handle).isSome = true := by rw [found]; rfl
  rw [get?_eq_some_iff] at found
  refine ⟨⟨handle.generation + 1, none⟩, ?_, Nat.lt_succ_self _⟩
  simp [remove, isSome, found]

theorem ages_remove (arena : SlotArena Tag α) (handle : Handle Tag) :
    Ages arena (arena.remove handle) := by
  by_cases live : arena.Live handle
  · refine ⟨?_, ?_⟩
    · rintro other ⟨slot, found, older⟩
      obtain ⟨value, resolved⟩ := live
      have isSome : (arena.get? handle).isSome = true := by rw [resolved]; rfl
      by_cases same : handle.slot = other.slot
      · refine ⟨⟨slot.generation + 1, none⟩, ?_, Nat.lt_succ_of_lt older⟩
        simp [remove, isSome, same, found]
      · refine ⟨slot, ?_, older⟩
        simp [remove, isSome, same, found]
    · rintro other ⟨existing, found⟩
      by_cases same : other = handle
      · subst same
        exact .inr (spent_remove live)
      · exact .inl ⟨existing, by rw [get?_remove, if_neg same, found]⟩
  · have unchanged : arena.remove handle = arena := by
      rw [remove, dif_neg]
      rwa [Option.isSome_iff_exists]
    rw [unchanged]
    exact refl arena

theorem Ages.issued (ages : Ages before after) (issued : before.Live handle ∨ before.Spent handle) :
    after.Live handle ∨ after.Spent handle := by
  rcases issued with live | spent
  · exact ages.live handle live
  · exact .inr (ages.spent handle spent)

/-- A handle that was issued resolves later only when it does now. -/
theorem Ages.live_of_issued (ages : Ages before after)
    (issued : before.Live handle ∨ before.Spent handle) (liveAfter : after.Live handle) :
    before.Live handle := by
  rcases issued with live | spent
  · exact live
  · exact absurd liveAfter (ages.spent handle spent).not_live

end SlotArena

/-- The handles that began to resolve and those that ceased to. -/
structure HandleLedger (Tag : Type) where
  issued : List (Handle Tag)
  retired : List (Handle Tag)

namespace HandleLedger

variable {Tag α : Type}

def empty : HandleLedger Tag where
  issued := []
  retired := []

/-- Enter what a change of the arena has done. -/
def enter (ledger : HandleLedger Tag) (before after : SlotArena Tag α) : HandleLedger Tag where
  issued := ledger.issued ++ after.handles.filter fun handle => ¬ before.Live handle
  retired := ledger.retired ++ before.handles.filter fun handle => ¬ after.Live handle

/-- Every handle was issued once and retired at most once, it resolves exactly from the
one to the other, and what is retired is spent. -/
structure Accounts (ledger : HandleLedger Tag) (arena : SlotArena Tag α) : Prop where
  issuedOnce : ledger.issued.Nodup
  retiredOnce : ledger.retired.Nodup
  live_iff : ∀ handle,
    arena.Live handle ↔ handle ∈ ledger.issued ∧ handle ∉ ledger.retired
  spent : ∀ handle ∈ ledger.retired, arena.Spent handle

variable {ledger : HandleLedger Tag} {before after : SlotArena Tag α}

theorem accounts_empty : Accounts empty (SlotArena.empty : SlotArena Tag α) where
  issuedOnce := List.nodup_nil
  retiredOnce := List.nodup_nil
  live_iff := by
    intro handle
    simp [SlotArena.Live, empty]
  spent := by
    intro handle member
    cases member

/-- A change that moves handles on keeps the account. -/
theorem Accounts.enter (accounts : Accounts ledger before) (ages : SlotArena.Ages before after) :
    Accounts (ledger.enter before after) after := by
  have begins : ∀ handle,
      handle ∈ after.handles.filter (fun handle => ¬ before.Live handle) ↔
        after.Live handle ∧ ¬ before.Live handle := by
    intro handle
    rw [List.mem_filter, SlotArena.mem_handles, decide_eq_true_iff]
    rfl
  have ceases : ∀ handle,
      handle ∈ before.handles.filter (fun handle => ¬ after.Live handle) ↔
        before.Live handle ∧ ¬ after.Live handle := by
    intro handle
    rw [List.mem_filter, SlotArena.mem_handles, decide_eq_true_iff]
    rfl
  -- What was retired is spent, and what was issued was live or is retired.
  have retiredStay : ∀ handle ∈ ledger.retired, after.Spent handle :=
    fun handle member => ages.spent handle (accounts.spent handle member)
  refine ⟨?_, ?_, ?_, ?_⟩
  · refine List.Nodup.append accounts.issuedOnce (after.nodup_handles.filter _) ?_
    intro handle wasIssued isNew
    obtain ⟨live, notBefore⟩ := (begins handle).mp isNew
    by_cases retired : handle ∈ ledger.retired
    · exact (retiredStay handle retired).not_live live
    · exact notBefore ((accounts.live_iff handle).mpr ⟨wasIssued, retired⟩)
  · refine List.Nodup.append accounts.retiredOnce (before.nodup_handles.filter _) ?_
    intro handle wasRetired isNew
    obtain ⟨live, -⟩ := (ceases handle).mp isNew
    exact (accounts.spent handle wasRetired).not_live live
  · intro handle
    unfold HandleLedger.enter
    rw [List.mem_append, List.mem_append, begins, ceases]
    constructor
    · intro live
      by_cases liveBefore : before.Live handle
      · obtain ⟨issued, notRetired⟩ := (accounts.live_iff handle).mp liveBefore
        exact ⟨.inl issued, by simp [notRetired, live]⟩
      · refine ⟨.inr ⟨live, liveBefore⟩, ?_⟩
        rintro (retired | ⟨wasLive, -⟩)
        · exact (retiredStay handle retired).not_live live
        · exact liveBefore wasLive
    · rintro ⟨issued | ⟨live, -⟩, notRetired⟩
      · rw [not_or] at notRetired
        have liveBefore := (accounts.live_iff handle).mpr ⟨issued, notRetired.1⟩
        by_contra notLive
        exact notRetired.2 ⟨liveBefore, notLive⟩
      · exact live
  · intro handle member
    rcases List.mem_append.mp member with retired | ceased
    · exact retiredStay handle retired
    · obtain ⟨live, notAfter⟩ := (ceases handle).mp ceased
      exact (ages.live handle live).resolve_left notAfter

variable {σ ε Action : Type}

/-- The ledger of a run over one of the arenas of its states. -/
def ofRun (slots : σ → SlotArena Tag α) (step : σ → Action → σ) :
    HandleLedger Tag → σ → List Action → HandleLedger Tag
  | ledger, _, [] => ledger
  | ledger, state, action :: later =>
      ofRun slots step (ledger.enter (slots state) (slots (step state action)))
        (step state action) later

/-- A run whose steps move handles on keeps the account. -/
theorem Accounts.ofRun {slots : σ → SlotArena Tag α} {step : σ → Action → σ} {state : σ}
    (accounts : Accounts ledger (slots state))
    (ages : ∀ state action, SlotArena.Ages (slots state) (slots (step state action)))
    (actions : List Action) :
    Accounts (ofRun slots step ledger state actions) (slots (actions.foldl step state)) := by
  induction actions generalizing ledger state with
  | nil => exact accounts
  | cons action later ih =>
    exact ih (accounts.enter (ages state action))

end HandleLedger

/-- How a program makes, looks up and frees what it keeps in one of its arenas. -/
structure HandleInterface (σ ε Tag α : Type) where
  slots : σ → SlotArena Tag α
  Value : Type
  lookup : σ → Handle Tag → Except ε Value
  Input : Type
  create : Input → EStateM ε σ (Handle Tag)
  Target : Type
  /-- What callers may ask to be freed. -/
  permits : σ → Target → Prop
  reclaim : Target → EStateM ε σ PUnit
  /-- The handles that are freed with a target. -/
  reclaims : σ → Target → List (Handle Tag)

namespace HandleInterface

variable {σ ε Tag α : Type}

/-- In a state the operations do what their names say, and freeing is all or nothing. -/
structure Lawful (interface : HandleInterface σ ε Tag α) (state : σ) : Prop where
  lookup : ∀ handle value, interface.lookup state handle = .ok value →
    (interface.slots state).Live handle
  create : ∀ input handle after, (interface.create input).run state = .ok handle after →
    ¬ (interface.slots state).Live handle ∧
      ¬ (interface.slots state).Spent handle ∧
      (interface.slots after).Live handle
  reclaim : ∀ target after, interface.permits state target →
    (interface.reclaim target).run state = .ok () after →
    ∀ handle ∈ interface.reclaims state target,
      (interface.slots state).Live handle ∧ ¬ (interface.slots after).Live handle
  unchanged : ∀ target error after, interface.permits state target →
    (interface.reclaim target).run state = .error error after → after = state

/-- A ledger of the handles of an interface: each was issued once, a retired one is never
found again, a new one was never issued before, a freed one is retired, and freeing that
fails changes nothing. -/
structure Governed (interface : HandleInterface σ ε Tag α) (ledger : HandleLedger Tag)
    (state : σ) : Prop where
  accounts : ledger.Accounts (interface.slots state)
  rejected : ∀ handle ∈ ledger.retired, ∀ value,
    interface.lookup state handle ≠ .ok value
  created : ∀ input handle after, (interface.create input).run state = .ok handle after →
    handle ∉ ledger.issued ∧
      handle ∈ (ledger.enter (interface.slots state) (interface.slots after)).issued
  reclaimed : ∀ target after, interface.permits state target →
    (interface.reclaim target).run state = .ok () after →
    ∀ handle ∈ interface.reclaims state target,
      handle ∈ (ledger.enter (interface.slots state) (interface.slots after)).retired
  unchanged : ∀ target error after, interface.permits state target →
    (interface.reclaim target).run state = .error error after → after = state

theorem Lawful.governed {interface : HandleInterface σ ε Tag α} {ledger : HandleLedger Tag}
    {state : σ} (lawful : interface.Lawful state)
    (accounts : ledger.Accounts (interface.slots state)) : interface.Governed ledger state where
  accounts := accounts
  rejected := by
    intro handle retired value found
    exact (accounts.spent handle retired).not_live (lawful.lookup handle value found)
  created := by
    intro input handle after created
    obtain ⟨notLive, notSpent, live⟩ := lawful.create input handle after created
    constructor
    · intro issued
      by_cases retired : handle ∈ ledger.retired
      · exact notSpent (accounts.spent handle retired)
      · exact notLive ((accounts.live_iff handle).mpr ⟨issued, retired⟩)
    · refine List.mem_append_right _ (List.mem_filter.mpr ⟨?_, by simpa using notLive⟩)
      exact SlotArena.mem_handles.mpr live
  reclaimed := by
    intro target after permitted reclaimed handle member
    obtain ⟨live, notLive⟩ := lawful.reclaim target after permitted reclaimed handle member
    refine List.mem_append_right _ (List.mem_filter.mpr ⟨?_, by simpa using notLive⟩)
    exact SlotArena.mem_handles.mpr live
  unchanged := lawful.unchanged

end HandleInterface
