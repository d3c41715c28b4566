import FastReact.ContextStackRuns

namespace FastReact

open ErrorState List

/-!
# Scopes of the context stack

Between a push and the restore of its snapshot the stack is in the scope of the pushed
provider: its context has the pushed value and every other context the value it had.  The
restore gives back the slots and the frames, whatever stack the push was made on.
-/

structure ContextProvision where
  context : ContextHandle
  value : ContextValueHandle
deriving DecidableEq

namespace ContextStack

/-- The value of a context under some provisions, the innermost one first, that are made on
a stack. -/
def valueUnder (stack : ContextStack) :
    List ContextProvision → ContextHandle → Except ContextStackError ContextValueHandle
  | [], context => stack.currentValue context
  | inner :: outer, context =>
      if context = inner.context then .ok inner.value else stack.valueUnder outer context

/-- Stacks that differ in the next frame identity at most. -/
structure SameScopes (stack after : ContextStack) : Prop where
  stackId : after.stackId = stack.stackId
  slots : after.slots = stack.slots
  frames : after.frames = stack.frames

variable {stack after between : ContextStack}

namespace SameScopes

theorem refl (stack : ContextStack) : SameScopes stack stack :=
  ⟨rfl, rfl, rfl⟩

theorem trans (first : SameScopes stack between) (second : SameScopes between after) :
    SameScopes stack after where
  stackId := second.stackId.trans first.stackId
  slots := second.slots.trans first.slots
  frames := second.frames.trans first.frames

theorem currentValue (same : SameScopes stack after) (context : ContextHandle) :
    after.currentValue context = stack.currentValue context := by
  unfold ContextStack.currentValue contextSlot slotIndex
  rw [same.slots]

theorem valueUnder (same : SameScopes stack after) (provisions : List ContextProvision)
    (context : ContextHandle) :
    after.valueUnder provisions context = stack.valueUnder provisions context := by
  induction provisions with
  | nil => exact same.currentValue context
  | cons inner outer ih =>
    unfold ContextStack.valueUnder
    rw [ih]

end SameScopes

theorem currentValue_eq_ok_iff {context : ContextHandle} {value : ContextValueHandle} :
    stack.currentValue context = .ok value ↔
      ∃ slot, stack.contextSlot context = .ok slot ∧ slot.currentValue = value := by
  unfold currentValue
  cases stack.contextSlot context with
  | error error =>
    constructor
    · intro refused
      cases refused
    · rintro ⟨slot, refused, -⟩
      cases refused
  | ok slot =>
    constructor
    · intro same
      cases same
      exact ⟨slot, rfl, rfl⟩
    · rintro ⟨other, same, rfl⟩
      cases same
      rfl

variable {context : ContextHandle} {value : ContextValueHandle}

theorem currentValue_setSlot {index : Nat} {slot : ContextSlot} {count : ContextSlot → Nat}
    {stack after : ContextStack} (position : context.raw = index + 1)
    (found : stack.slots[index]? = some slot) (isSlot : slot.context = context)
    (slots : after.slots = stack.slots.modify index fun slot =>
      { slot with currentValue := value, activeProviderCount := count slot })
    (other : ContextHandle) :
    after.currentValue other = if other = context then .ok value else stack.currentValue other := by
  by_cases same : other = context
  · rw [if_pos same, same]
    refine currentValue_eq_ok_iff.mpr
      ⟨{ slot with currentValue := value, activeProviderCount := count slot }, ?_, rfl⟩
    refine contextSlot_eq_ok_iff.mpr ⟨index, position, ?_, isSlot⟩
    rw [slots, getElem?_modify, found]
    simp
  · rw [if_neg same]
    unfold currentValue contextSlot slotIndex
    by_cases isNone : other.raw = 0
    · rw [if_pos isNone, if_pos isNone]
      rfl
    · -- The slot that was changed is not the one of the other context.
      have elsewhere : index ≠ other.raw - 1 := by
        intro atIndex
        apply same
        cases other
        cases context
        simp only [OpaqueHandle.mk.injEq] at position isNone atIndex ⊢
        omega
      have away : after.slots[other.raw - 1]? = stack.slots[other.raw - 1]? := by
        rw [slots, getElem?_modify]
        simp [elsewhere]
      rw [if_neg isNone, if_neg isNone, away]
      cases stack.slots[other.raw - 1]? with
      | none => rfl
      | some otherSlot =>
        by_cases isOther : otherSlot.context = other
        · simp only [if_pos isOther, bind, Except.bind, away]
        · simp only [if_neg isOther, bind, Except.bind]

variable {snapshot : ContextStackSnapshot}

section

variable (pushed : (pushProvider context value).run stack = .ok snapshot between)
include pushed

theorem currentValue_of_push (other : ContextHandle) :
    between.currentValue other =
      if other = context then .ok value else stack.currentValue other := by
  rcases run_pushProvider stack context value with
    ⟨error, refused⟩ | ⟨index, slot, position, found, isSlot, ran⟩
  · rw [refused] at pushed
    cases pushed
  · rw [ran] at pushed
    cases pushed
    exact currentValue_setSlot position found isSlot rfl other

theorem valueUnder_of_push (provisions : List ContextProvision) (other : ContextHandle) :
    between.valueUnder provisions other =
      stack.valueUnder (provisions ++ [⟨context, value⟩]) other := by
  induction provisions with
  | nil => exact currentValue_of_push pushed other
  | cons inner outer ih =>
    rw [cons_append]
    unfold valueUnder
    rw [ih]

end

theorem validateSnapshot_of_frame {frame : ContextProviderFrame}
    (sameStack : after.stackId = stack.stackId) (frames : after.frames = stack.frames ++ [frame]) :
    after.validateSnapshot stack.snapshot = .ok () := by
  have length : after.frames.length = stack.frames.length + 1 := by
    rw [frames, length_append, length_singleton]
  have ownSnapshot : ¬ stack.snapshot.stackId ≠ after.stackId := not_not_intro sameStack.symm
  unfold validateSnapshot
  rw [if_neg ownSnapshot]
  change (if after.frames.length < stack.frames.length then _ else _) = _
  rw [if_neg (by omega)]
  change (if stack.frames.length = 0 then _ else _) = _
  by_cases isEmpty : stack.frames.length = 0
  · rw [if_pos isEmpty]
  · have top : after.frames[stack.frames.length - 1]? = stack.frames.getLast? := by
      rw [frames, getElem?_append_left (by omega), getLast?_eq_getElem?]
    rw [if_neg isEmpty]
    change (if (after.frames[stack.frames.length - 1]?.map (·.id)).getD .none =
      (stack.frames.getLast?.map (·.id)).getD .none then _ else _) = _
    rw [top, if_pos rfl]

theorem restoreSnapshot_of_push
    (pushed : (pushProvider context value).run stack = .ok snapshot between) {later : ContextStack}
    (kept : SameScopes between later) :
    ∃ after, (restoreSnapshot snapshot).run later = .ok () after ∧ SameScopes stack after := by
  rcases run_pushProvider stack context value with
    ⟨error, refused⟩ | ⟨index, slot, position, found, isSlot, ran⟩
  · rw [refused] at pushed
    cases pushed
  · rw [ran] at pushed
    cases pushed
    have frames := kept.frames
    have slots := kept.slots
    have sameStack := kept.stackId
    dsimp only at frames slots sameStack
    have valid := validateSnapshot_of_frame sameStack frames
    have one : later.frames.length - stack.snapshot.depth = 1 := by
      change later.frames.length - stack.frames.length = 1
      rw [frames, length_append, length_singleton]
      omega
    have isIndex : ({ later with frames := stack.frames } : ContextStack).slotIndex context =
        .ok index := by
      refine slotIndex_eq_ok_iff.mpr
        ⟨position, { slot with
          currentValue := value
          activeProviderCount := slot.activeProviderCount + 1 }, ?_, isSlot⟩
      change later.slots[index]? = _
      rw [slots, getElem?_modify, found]
      simp
    -- The frame gives the slot its value and count back.
    have undone : (later.slots.modify index fun entry =>
        { entry with
          currentValue := slot.currentValue
          activeProviderCount := slot.activeProviderCount }) = stack.slots := by
      rw [slots]
      apply ext_getElem?
      intro place
      rw [getElem?_modify, getElem?_modify]
      by_cases atIndex : index = place
      · rw [← atIndex, found]
        simp
      · simp [atIndex]
    refine ⟨{ later with frames := stack.frames, slots := stack.slots }, ?_, sameStack, rfl, rfl⟩
    rw [restoreSnapshot, run_bind, run_query, valid]
    dsimp only
    rw [run_bind, run_get]
    dsimp only
    rw [one]
    simp only [undoFrames, undoTopFrame, run_bind, run_get, frames,
      getLast?_append, getLast?_singleton, Option.some_or, run_modify,
      dropLast_concat, run_query, isIndex, run_pure, undone]

end ContextStack

end FastReact
