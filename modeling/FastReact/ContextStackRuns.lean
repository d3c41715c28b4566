import FastReact.ContextStack
import Mathlib.Data.List.Basic

namespace FastReact

open ErrorState List Option

/-!
# Snapshots of the context stack

The value of a context is the one of its topmost frame, and undoing a frame restores
what the frames below it say.  Frame identities are never given twice, so that a frame
of a snapshot that is still in its place has the same frames below it.
-/

variable {provided : List ContextValueHandle} {context : ContextHandle}

namespace ContextStack

/-- The value a frame provides; the values were provided in the order of the frame
identities. -/
def frameValue (provided : List ContextValueHandle) (frame : ContextProviderFrame) :
    ContextValueHandle :=
  provided[frame.id.raw - 1]?.getD .none

def topmostFrame (frames : List ContextProviderFrame) (context : ContextHandle) :
    Option ContextProviderFrame :=
  frames.reverse.find? fun frame => frame.context = context

def providedValue (provided : List ContextValueHandle) (frames : List ContextProviderFrame)
    (context : ContextHandle) (defaultValue : ContextValueHandle) : ContextValueHandle :=
  ((topmostFrame frames context).map (frameValue provided)).getD defaultValue

def providerCount (frames : List ContextProviderFrame) (context : ContextHandle) : Nat :=
  frames.countP fun frame => frame.context = context

section Frames

variable {frames : List ContextProviderFrame} {frame : ContextProviderFrame}
  {value defaultValue : ContextValueHandle}

theorem providedValue_snoc :
    providedValue provided (frames ++ [frame]) context defaultValue =
      if frame.context = context then frameValue provided frame
      else providedValue provided frames context defaultValue := by
  unfold providedValue topmostFrame
  rw [reverse_append, reverse_singleton, singleton_append, find?_cons]
  by_cases same : frame.context = context
  · simp [same]
  · simp [same]

theorem providerCount_snoc :
    providerCount (frames ++ [frame]) context =
      if frame.context = context then providerCount frames context + 1
      else providerCount frames context := by
  unfold providerCount
  rw [countP_append, countP_singleton]
  by_cases same : frame.context = context <;> simp [same]

theorem providedValue_later
    (known : ∀ frame ∈ frames, 0 < frame.id.raw ∧ frame.id.raw ≤ provided.length) :
    providedValue (provided ++ [value]) frames context defaultValue =
      providedValue provided frames context defaultValue := by
  unfold providedValue
  cases found : topmostFrame frames context with
  | none => rfl
  | some frame =>
    have member : frame ∈ frames := mem_reverse.mp (mem_of_find?_eq_some found)
    obtain ⟨positive, inside⟩ := known frame member
    have earlier : frame.id.raw - 1 < provided.length := by omega
    simp [frameValue, getElem?_append_left earlier]

end Frames

variable {stack after earlier : ContextStack} {slot : ContextSlot}

theorem slotIndex_eq_ok_iff {index : Nat} :
    stack.slotIndex context = .ok index ↔
      context.raw = index + 1 ∧
        ∃ slot, stack.slots[index]? = some slot ∧ slot.context = context := by
  unfold slotIndex
  by_cases isNone : context.raw = 0
  · rw [if_pos isNone]
    constructor
    · intro refused
      cases refused
    · rintro ⟨positive, -⟩
      omega
  · rw [if_neg isNone]
    cases found : stack.slots[context.raw - 1]? with
    | none =>
      constructor
      · intro refused
        cases refused
      · rintro ⟨position, slot, slotFound, -⟩
        rw [position, Nat.add_sub_cancel, slotFound] at found
        cases found
    | some slot =>
      by_cases same : slot.context = context
      · simp only [if_pos same, Except.ok.injEq]
        constructor
        · rintro rfl
          exact ⟨by omega, slot, found, same⟩
        · rintro ⟨position, -⟩
          omega
      · simp only [if_neg same]
        constructor
        · intro refused
          cases refused
        · rintro ⟨position, other, otherFound, sameOther⟩
          rw [position, Nat.add_sub_cancel, otherFound] at found
          cases found
          exact absurd sameOther same

theorem contextSlot_eq_ok_iff :
    stack.contextSlot context = .ok slot ↔
      ∃ index, context.raw = index + 1 ∧ stack.slots[index]? = some slot ∧
        slot.context = context := by
  constructor
  · intro resolved
    obtain ⟨index, position, found⟩ := bind_eq_ok_iff.mp resolved
    obtain ⟨positionShape, other, otherFound, same⟩ := slotIndex_eq_ok_iff.mp position
    rw [otherFound] at found
    cases found
    exact ⟨index, positionShape, otherFound, same⟩
  · rintro ⟨index, position, found, same⟩
    refine bind_eq_ok_iff.mpr ⟨index, slotIndex_eq_ok_iff.mpr ⟨position, slot, found, same⟩, ?_⟩
    rw [found]

/-- What the slots and the frames say about each other. -/
structure Consistent (provided : List ContextValueHandle) (stack : ContextStack) : Prop where
  contexts : ∀ index slot,
    stack.slots[index]? = some slot → slot.context.raw = index + 1
  values : ∀ slot ∈ stack.slots,
    slot.currentValue =
        providedValue provided stack.frames slot.context slot.defaultValue ∧
      slot.activeProviderCount = providerCount stack.frames slot.context
  saved : ∀ below frame, below ++ [frame] <+: stack.frames →
    ∃ slot ∈ stack.slots, slot.context = frame.context ∧
      frame.previousValue =
        providedValue provided below slot.context slot.defaultValue ∧
      frame.previousProviderCount = providerCount below slot.context
  identities : ∀ frame ∈ stack.frames,
    0 < frame.id.raw ∧ frame.id.raw ≤ provided.length

structure SameContexts (stack after : ContextStack) : Prop where
  stackId : after.stackId = stack.stackId
  nextFrameId : after.nextFrameId = stack.nextFrameId
  contexts : after.slots.map (fun slot => (slot.context, slot.defaultValue)) =
    stack.slots.map fun slot => (slot.context, slot.defaultValue)

theorem SameContexts.trans {last : ContextStack} (first : SameContexts stack after)
    (second : SameContexts after last) : SameContexts stack last where
  stackId := second.stackId.trans first.stackId
  nextFrameId := second.nextFrameId.trans first.nextFrameId
  contexts := second.contexts.trans first.contexts

theorem map_modify_slots (slots : List ContextSlot) (index : Nat)
    (value : ContextSlot → ContextValueHandle) (count : ContextSlot → Nat) :
    (slots.modify index fun slot =>
        { slot with
          currentValue := value slot
          activeProviderCount := count slot }).map
        (fun slot => (slot.context, slot.defaultValue)) =
      slots.map fun slot => (slot.context, slot.defaultValue) := by
  apply ext_getElem?
  intro position
  rw [getElem?_map, getElem?_map, getElem?_modify]
  cases slots[position]? with
  | none => rfl
  | some slot => by_cases same : index = position <;> simp [same]

namespace Consistent

theorem currentValue_eq (consistent : Consistent provided stack)
    (resolved : stack.contextSlot context = .ok slot) :
    slot.currentValue = providedValue provided stack.frames context slot.defaultValue ∧
      slot.activeProviderCount = providerCount stack.frames context := by
  obtain ⟨index, -, found, rfl⟩ := contextSlot_eq_ok_iff.mp resolved
  exact consistent.values slot (mem_of_getElem? found)

theorem later (consistent : Consistent provided stack) (value : ContextValueHandle) :
    Consistent (provided ++ [value]) stack where
  contexts := consistent.contexts
  values := by
    intro slot member
    rw [providedValue_later consistent.identities]
    exact consistent.values slot member
  saved := by
    intro below frame isPrefix
    obtain ⟨slot, member, same, saved⟩ := consistent.saved below frame isPrefix
    refine ⟨slot, member, same, ?_⟩
    rw [providedValue_later]
    · exact saved
    · intro other otherMember
      exact consistent.identities other (isPrefix.subset (mem_append_left [frame] otherMember))
  identities := by
    intro frame member
    obtain ⟨positive, inside⟩ := consistent.identities frame member
    exact ⟨positive, by rw [length_append]; omega⟩

theorem create (consistent : Consistent provided stack) (defaultValue : ContextValueHandle) :
    Consistent provided { stack with
      slots := stack.slots ++ [ContextSlot.new ⟨stack.slots.length + 1⟩ defaultValue] } where
  contexts := by
    intro index slot found
    rcases Nat.lt_trichotomy index stack.slots.length with inside | atEnd | outside
    · rw [getElem?_append_left inside] at found
      exact consistent.contexts index slot found
    · subst atEnd
      simp only [getElem?_concat_length, some.injEq] at found
      subst found
      rfl
    · rw [getElem?_eq_none (by simp; omega)] at found
      cases found
  values := by
    intro slot member
    rcases mem_append.mp member with old | isNew
    · exact consistent.values slot old
    · rw [mem_singleton] at isNew
      subst isNew
      -- The frames belong to contexts that were there before.
      have noFrame : ∀ frame ∈ stack.frames,
          frame.context ≠ ⟨stack.slots.length + 1⟩ := by
        intro frame frameMember sameContext
        obtain ⟨below, above, shape⟩ := mem_iff_append.mp frameMember
        obtain ⟨slot, slotMember, same, -⟩ := consistent.saved below frame ⟨above, by simp [shape]⟩
        obtain ⟨index, found⟩ := mem_iff_getElem?.mp slotMember
        have position := consistent.contexts index slot found
        have inside := (List.getElem?_eq_some_iff.mp found).1
        rw [same, sameContext] at position
        change stack.slots.length + 1 = index + 1 at position
        omega
      have noTopmost : topmostFrame stack.frames ⟨stack.slots.length + 1⟩ = none := by
        rw [topmostFrame, find?_eq_none]
        intro frame frameMember
        simpa using noFrame frame (mem_reverse.mp frameMember)
      have noCount : providerCount stack.frames ⟨stack.slots.length + 1⟩ = 0 := by
        rw [providerCount, countP_eq_zero]
        intro frame frameMember
        simpa using noFrame frame frameMember
      constructor
      · simp [ContextSlot.new, providedValue, noTopmost]
      · exact noCount.symm
  saved := by
    intro below frame isPrefix
    obtain ⟨slot, member, saved⟩ := consistent.saved below frame isPrefix
    exact ⟨slot, mem_append_left _ member, saved⟩
  identities := consistent.identities

/-- Changing the slot of one context along with the frames. -/
theorem setSlot {index : Nat} {frames : List ContextProviderFrame}
    {change : ContextSlot → ContextSlot}
    (contexts : ∀ index slot, stack.slots[index]? = some slot → slot.context.raw = index + 1)
    (found : stack.slots[index]? = some slot) (sameContext : (change slot).context = slot.context)
    (sameDefault : (change slot).defaultValue = slot.defaultValue)
    (value : (change slot).currentValue =
        providedValue provided frames slot.context slot.defaultValue ∧
      (change slot).activeProviderCount = providerCount frames slot.context)
    (others : ∀ other ∈ stack.slots, other.context ≠ slot.context →
      other.currentValue =
          providedValue provided frames other.context other.defaultValue ∧
        other.activeProviderCount = providerCount frames other.context)
    (saved : ∀ below frame, below ++ [frame] <+: frames →
      ∃ slot ∈ stack.slots, slot.context = frame.context ∧
        frame.previousValue = providedValue provided below slot.context slot.defaultValue ∧
        frame.previousProviderCount = providerCount below slot.context)
    (identities : ∀ frame ∈ frames, 0 < frame.id.raw ∧ frame.id.raw ≤ provided.length)
    (nextFrameId : Nat) :
    Consistent provided { stack with
      slots := stack.slots.modify index change
      frames := frames
      nextFrameId := nextFrameId } where
  contexts := by
    intro position other otherFound
    rw [getElem?_modify] at otherFound
    obtain ⟨before, beforeFound, rfl⟩ := map_eq_some_iff.mp otherFound
    have shape := contexts position before beforeFound
    by_cases same : index = position
    · subst same
      rw [found] at beforeFound
      cases beforeFound
      simpa [sameContext] using shape
    · simpa [same] using shape
  values := by
    intro other member
    obtain ⟨position, otherFound⟩ := mem_iff_getElem?.mp member
    rw [getElem?_modify] at otherFound
    obtain ⟨before, beforeFound, rfl⟩ := map_eq_some_iff.mp otherFound
    by_cases same : index = position
    · subst same
      rw [found] at beforeFound
      cases beforeFound
      rw [if_pos rfl, sameContext, sameDefault]
      exact value
    · rw [if_neg same]
      refine others before (mem_of_getElem? beforeFound) ?_
      intro isSame
      have shape := contexts index slot found
      have otherShape := contexts position before beforeFound
      rw [isSame] at otherShape
      omega
  saved := by
    intro below frame isPrefix
    obtain ⟨other, member, isContext, isSaved⟩ := saved below frame isPrefix
    obtain ⟨position, otherFound⟩ := mem_iff_getElem?.mp member
    by_cases same : index = position
    · subst same
      rw [found] at otherFound
      cases otherFound
      have changed : (stack.slots.modify index change)[index]? = some (change slot) := by
        simp [found]
      refine ⟨change slot, mem_of_getElem? changed, sameContext.trans isContext, ?_⟩
      rw [sameContext, sameDefault]
      exact isSaved
    · have kept : (stack.slots.modify index change)[position]? = some other := by
        simp [otherFound, same]
      exact ⟨other, mem_of_getElem? kept, isContext, isSaved⟩
  identities := identities

end Consistent

theorem run_pushProvider (stack : ContextStack) (context : ContextHandle)
    (value : ContextValueHandle) :
    (∃ error, (pushProvider context value).run stack = .error error stack) ∨
    ∃ index slot,
      context.raw = index + 1 ∧ stack.slots[index]? = some slot ∧
      slot.context = context ∧
      (pushProvider context value).run stack = .ok stack.snapshot { stack with
        slots := stack.slots.modify index fun slot =>
          { slot with
            currentValue := value
            activeProviderCount := slot.activeProviderCount + 1 }
        frames := stack.frames ++
          [{ id := ⟨stack.nextFrameId⟩
             context := context
             previousValue := slot.currentValue
             previousProviderCount := slot.activeProviderCount }]
        nextFrameId := stack.nextFrameId + 1 } := by
  cases position : stack.slotIndex context with
  | error error => exact .inl ⟨error, by simp [pushProvider, position]⟩
  | ok index =>
    obtain ⟨positionShape, slot, found, same⟩ := slotIndex_eq_ok_iff.mp position
    by_cases wrapped : contextFrameIdBound ≤ stack.nextFrameId + 1
    · refine .inl ⟨.frameIdCounterWrapped, ?_⟩
      simp only [pushProvider, run_bind, run_query, position, run_get,
        allocateFrameId, if_pos wrapped]
      rfl
    · have resolved : ({ stack with nextFrameId := stack.nextFrameId + 1 } :
          ContextStack).contextSlot context = .ok slot :=
        contextSlot_eq_ok_iff.mpr ⟨index, positionShape, found, same⟩
      refine .inr ⟨index, slot, positionShape, found, same, ?_⟩
      simp only [pushProvider, run_bind, run_query, position, run_get,
        allocateFrameId, if_neg wrapped, run_modify, run_pure, resolved]

namespace Consistent

theorem push {index : Nat} (consistent : Consistent provided stack)
    (next : stack.nextFrameId = provided.length + 1) (found : stack.slots[index]? = some slot)
    (value : ContextValueHandle) :
    Consistent (provided ++ [value]) { stack with
      slots := stack.slots.modify index fun slot =>
        { slot with
          currentValue := value
          activeProviderCount := slot.activeProviderCount + 1 }
      frames := stack.frames ++
        [{ id := ⟨stack.nextFrameId⟩
           context := slot.context
           previousValue := slot.currentValue
           previousProviderCount := slot.activeProviderCount }]
      nextFrameId := stack.nextFrameId + 1 } := by
  have before := consistent.later value
  have slotMember := mem_of_getElem? found
  have given : frameValue (provided ++ [value])
      { id := ⟨stack.nextFrameId⟩
        context := slot.context
        previousValue := slot.currentValue
        previousProviderCount := slot.activeProviderCount } = value := by
    simp [frameValue, next]
  refine setSlot before.contexts found ?_ ?_ ?_ ?_ ?_ ?_ _
  · rfl
  · rfl
  · rw [providedValue_snoc, if_pos rfl, providerCount_snoc, if_pos rfl]
    exact ⟨given.symm, congrArg (· + 1) (before.values slot slotMember).2⟩
  · intro other member different
    rw [providedValue_snoc, if_neg different.symm, providerCount_snoc, if_neg different.symm]
    exact before.values other member
  · intro below frame isPrefix
    rcases prefix_concat_iff.mp isPrefix with atTop | isBelow
    · obtain ⟨rfl, isFrame⟩ := append_inj' atTop rfl
      cases isFrame
      exact ⟨slot, slotMember, rfl, before.values slot slotMember⟩
    · exact before.saved below frame isBelow
  · intro frame member
    rcases mem_append.mp member with old | isNew
    · exact before.identities frame old
    · rw [mem_singleton] at isNew
      subst isNew
      rw [length_append, length_singleton]
      change 0 < stack.nextFrameId ∧ stack.nextFrameId ≤ provided.length + 1
      omega

theorem run_undoTopFrame {below : List ContextProviderFrame} {frame : ContextProviderFrame}
    (consistent : Consistent provided stack) (shape : stack.frames = below ++ [frame]) :
    ∃ after,
      undoTopFrame.run stack = .ok () after ∧ after.frames = below ∧
      SameContexts stack after ∧ Consistent provided after := by
  obtain ⟨slot, member, sameContext, savedValue, savedCount⟩ :=
    consistent.saved below frame (by rw [shape])
  obtain ⟨index, found⟩ := mem_iff_getElem?.mp member
  have position : ({ stack with frames := below } : ContextStack).slotIndex frame.context =
      .ok index := by
    refine slotIndex_eq_ok_iff.mpr ⟨?_, slot, found, sameContext⟩
    rw [← sameContext]
    exact consistent.contexts index slot found
  refine ⟨{ stack with
    frames := below
    slots := stack.slots.modify index fun slot =>
      { slot with
        currentValue := frame.previousValue
        activeProviderCount := frame.previousProviderCount } }, ?_, rfl,
    ⟨rfl, rfl, map_modify_slots _ _ _ _⟩, ?_⟩
  · simp only [undoTopFrame, run_bind, run_get, shape, getLast?_append, getLast?_singleton,
      some_or, run_modify, dropLast_concat, run_query, position]
  · refine setSlot consistent.contexts found ?_ ?_ ?_ ?_ ?_ ?_ _
    · rfl
    · rfl
    · exact ⟨savedValue, savedCount⟩
    · intro other otherMember different
      have values := consistent.values other otherMember
      rw [sameContext] at different
      rwa [shape, providedValue_snoc, if_neg different.symm, providerCount_snoc,
        if_neg different.symm] at values
    · intro deeper other isPrefix
      apply consistent.saved deeper other
      rw [shape]
      exact isPrefix.trans (prefix_append below [frame])
    · intro other otherMember
      apply consistent.identities other
      rw [shape]
      exact mem_append_left [frame] otherMember

theorem run_undoFrames {count : Nat} (consistent : Consistent provided stack)
    (enough : count ≤ stack.frames.length) :
    ∃ after,
      (undoFrames count).run stack = .ok () after ∧
      after.frames = stack.frames.take (stack.frames.length - count) ∧
      SameContexts stack after ∧ Consistent provided after := by
  induction count generalizing stack with
  | zero => exact ⟨stack, rfl, by simp, ⟨rfl, rfl, rfl⟩, consistent⟩
  | succ count ih =>
    obtain ⟨below, frame, shape⟩ : ∃ below frame, stack.frames = below ++ [frame] := by
      rcases eq_nil_or_concat stack.frames with nothing | ⟨below, frame, shape⟩
      · rw [nothing] at enough
        cases enough
      · exact ⟨below, frame, by simpa using shape⟩
    obtain ⟨between, undone, framesBetween, sameBetween, consistentBetween⟩ :=
      consistent.run_undoTopFrame shape
    have length : stack.frames.length = between.frames.length + 1 := by
      rw [shape, framesBetween, length_append, length_singleton]
    obtain ⟨after, ran, framesAfter, same, consistentAfter⟩ := ih consistentBetween (by omega)
    refine ⟨after, ?_, ?_, sameBetween.trans same, consistentAfter⟩
    · simp only [undoFrames, run_bind, undone, ran]
    · rw [framesAfter, length, Nat.add_sub_add_right, shape, ← framesBetween,
        take_append_of_le_length (Nat.sub_le _ _)]

theorem slot_eq (consistent : Consistent provided earlier)
    (consistentAfter : Consistent provided after) (sameFrames : after.frames = earlier.frames)
    (contexts : earlier.slots.map (fun slot => (slot.context, slot.defaultValue)) <+:
      after.slots.map fun slot => (slot.context, slot.defaultValue))
    (resolved : earlier.contextSlot context = .ok slot) : after.contextSlot context = .ok slot := by
  obtain ⟨index, position, found, same⟩ := contextSlot_eq_ok_iff.mp resolved
  have entry : (earlier.slots.map fun slot => (slot.context, slot.defaultValue))[index]? =
      some (slot.context, slot.defaultValue) := by
    rw [getElem?_map, found]
    rfl
  obtain ⟨inside, -⟩ := List.getElem?_eq_some_iff.mp entry
  have entryAfter := prefix_iff_getElem?.mp contexts index inside
  rw [← getElem?_eq_getElem inside, entry, getElem?_map] at entryAfter
  obtain ⟨slotAfter, foundAfter, isSame⟩ := map_eq_some_iff.mp entryAfter
  simp only [Prod.mk.injEq] at isSame
  have values := consistent.values slot (mem_of_getElem? found)
  have valuesAfter := consistentAfter.values slotAfter (mem_of_getElem? foundAfter)
  have slotsSame : slotAfter = slot := by
    rw [sameFrames, isSame.1, isSame.2, ← values.1, ← values.2] at valuesAfter
    cases slot
    cases slotAfter
    simp_all
  rw [slotsSame] at foundAfter
  exact contextSlot_eq_ok_iff.mpr ⟨index, position, foundAfter, same⟩

end Consistent

/-- A stack as it was before some pushes and restores. -/
structure Precedes (earlier stack : ContextStack) : Prop where
  stackId : earlier.stackId = stack.stackId
  contexts : earlier.slots.map (fun slot => (slot.context, slot.defaultValue)) <+:
    stack.slots.map fun slot => (slot.context, slot.defaultValue)
  sameBelow : ∀ depth frame other,
    earlier.frames[depth]? = some frame → stack.frames[depth]? = some other →
    frame.id = other.id →
    earlier.frames.take (depth + 1) = stack.frames.take (depth + 1)

theorem Precedes.refl (stack : ContextStack) : Precedes stack stack :=
  ⟨rfl, prefix_rfl, fun _ _ _ _ _ _ => rfl⟩

section

variable (precedes : Precedes earlier stack)
include precedes

theorem Precedes.push {provided : List ContextValueHandle} {frame : ContextProviderFrame}
    {slots : List ContextSlot} {nextFrameId : Nat}
    (consistent : Consistent provided earlier) (isNew : provided.length < frame.id.raw)
    (contexts : slots.map (fun slot => (slot.context, slot.defaultValue)) =
      stack.slots.map fun slot => (slot.context, slot.defaultValue)) :
    Precedes earlier { stack with
      slots := slots
      frames := stack.frames ++ [frame]
      nextFrameId := nextFrameId } where
  stackId := precedes.stackId
  contexts := by
    rw [contexts]
    exact precedes.contexts
  sameBelow := by
    intro depth first second found foundAfter same
    rcases Nat.lt_or_ge depth stack.frames.length with inside | outside
    · rw [getElem?_append_left inside] at foundAfter
      rw [take_append_of_le_length inside]
      exact precedes.sameBelow depth first second found foundAfter same
    · have isFrame : second = frame := by
        rw [getElem?_append_right outside] at foundAfter
        exact mem_singleton.mp (mem_of_getElem? foundAfter)
      have known := consistent.identities first (mem_of_getElem? found)
      rw [same, isFrame] at known
      omega

theorem Precedes.undo {count : Nat}
    (same : SameContexts stack after) (frames : after.frames = stack.frames.take count) :
    Precedes earlier after where
  stackId := precedes.stackId.trans same.stackId.symm
  contexts := by
    rw [same.contexts]
    exact precedes.contexts
  sameBelow := by
    intro depth first second found foundAfter sameId
    rw [frames, getElem?_take] at foundAfter
    by_cases inside : depth < count
    · rw [if_pos inside] at foundAfter
      rw [frames, take_take, Nat.min_eq_left inside]
      exact precedes.sameBelow depth first second found foundAfter sameId
    · rw [if_neg inside] at foundAfter
      cases foundAfter

/-- A snapshot is accepted when its frames are still at the bottom. -/
theorem Precedes.validateSnapshot_iff :
    stack.validateSnapshot earlier.snapshot = .ok () ↔ earlier.frames <+: stack.frames := by
  have sameStack : ¬ earlier.snapshot.stackId ≠ stack.stackId := not_not_intro precedes.stackId
  unfold validateSnapshot
  rw [if_neg sameStack]
  change (if stack.frames.length < earlier.frames.length then _ else _) = _ ↔ _
  by_cases ahead : stack.frames.length < earlier.frames.length
  · rw [if_pos ahead]
    constructor
    · intro refused
      cases refused
    · intro isPrefix
      have shorter := isPrefix.length_le
      omega
  · rw [if_neg ahead]
    rcases eq_nil_or_concat earlier.frames with nothing | ⟨below, top, shape⟩
    · simp [snapshot, nothing]
    · rw [concat_eq_append] at shape
      have length : earlier.frames.length = below.length + 1 := by
        rw [shape, length_append, length_singleton]
      have inside : below.length < stack.frames.length := by omega
      have topFound : earlier.frames[below.length]? = some top := by
        rw [shape]
        exact getElem?_concat_length
      have otherFound : stack.frames[below.length]? = some stack.frames[below.length] :=
        getElem?_eq_getElem inside
      have depthShape : earlier.snapshot.depth = below.length + 1 := length
      have topShape : earlier.snapshot.topFrame = top.id := by simp [snapshot, shape]
      rw [depthShape, topShape, if_neg (Nat.succ_ne_zero _), Nat.add_sub_cancel, otherFound]
      simp only [map_some, getD_some]
      by_cases same : stack.frames[below.length].id = top.id
      · rw [if_pos same]
        have taken := precedes.sameBelow _ _ _ topFound otherFound same.symm
        rw [← length, take_length] at taken
        rw [taken]
        exact iff_of_true rfl ( take_prefix _ _)
      · rw [if_neg same]
        constructor
        · intro refused
          cases refused
        · intro isPrefix
          have found := prefix_iff_getElem?.mp isPrefix below.length (by omega)
          rw [otherFound, some.injEq] at found
          rw [getElem?_eq_getElem (by omega), some.injEq] at topFound
          rw [found, topFound] at same
          exact absurd rfl same

end

theorem Consistent.run_restoreSnapshot {provided : List ContextValueHandle}
    (consistent : Consistent provided stack) (snapshot : ContextStackSnapshot) :
    (∃ error, stack.validateSnapshot snapshot = .error error ∧
      (restoreSnapshot snapshot).run stack = .error error stack) ∨
    ∃ after,
      stack.validateSnapshot snapshot = .ok () ∧
      (restoreSnapshot snapshot).run stack = .ok () after ∧
      after.frames = stack.frames.take snapshot.depth ∧
      SameContexts stack after ∧ Consistent provided after := by
  cases valid : stack.validateSnapshot snapshot with
  | error error => exact .inl ⟨error, rfl, by simp [restoreSnapshot, valid]⟩
  | ok accepted =>
    obtain ⟨after, ran, frames, same, consistentAfter⟩ :=
      @Consistent.run_undoFrames _ _ (stack.frames.length - snapshot.depth) consistent
        (Nat.sub_le _ _)
    have notAhead : snapshot.depth ≤ stack.frames.length := by
      by_contra ahead
      unfold validateSnapshot at valid
      by_cases sameStack : snapshot.stackId = stack.stackId
      · rw [if_neg (not_not_intro sameStack), if_pos (Nat.lt_of_not_le ahead)] at valid
        cases valid
      · rw [if_pos sameStack] at valid
        cases valid
    rw [Nat.sub_sub_self notAhead] at frames
    refine .inr ⟨after, rfl, ?_, frames, same, consistentAfter⟩
    simp only [restoreSnapshot, run_bind, run_query, valid, run_get, ran]

end ContextStack

/-- Calls on a context stack. -/
inductive ContextStackCall where
  | createContext (defaultValue : ContextValueHandle)
  | snapshot
  | pushProvider (context : ContextHandle) (value : ContextValueHandle)
  | restoreSnapshot (snapshot : ContextStackSnapshot)

/-- A stack with the values its frames were given, in the order of their identities, and
the snapshots with the stacks they were taken of. -/
structure ContextStackWorld where
  stack : ContextStack
  provided : List ContextValueHandle
  taken : List (ContextStackSnapshot × ContextStack)

namespace ContextStackWorld

open ContextStack

def new (stackId : ContextStackId) : ContextStackWorld where
  stack := ContextStack.new stackId
  provided := []
  taken := []

/-- Make a call, whatever its outcome. -/
def step (world : ContextStackWorld) : ContextStackCall → ContextStackWorld
  | .createContext defaultValue =>
      { world with stack := stateAfter ((createContext defaultValue).run world.stack) }
  | .snapshot => { world with taken := world.taken ++ [(world.stack.snapshot, world.stack)] }
  | .pushProvider context value =>
      match (FastReact.pushProvider context value).run world.stack with
      | .ok snapshot after =>
          { stack := after
            provided := world.provided ++ [value]
            taken := world.taken ++ [(snapshot, world.stack)] }
      | .error _ after => { world with stack := after }
  | .restoreSnapshot snapshot =>
      { world with
        stack := stateAfter ((FastReact.restoreSnapshot snapshot).run world.stack) }

/-- Contexts have the values of their topmost frames, snapshots are restored exactly while
their frames are in place, and what is refused changes nothing. -/
structure RestoresSnapshots (world : ContextStackWorld) : Prop where
  current : ∀ context slot, world.stack.contextSlot context = .ok slot →
    slot.currentValue =
        providedValue world.provided world.stack.frames context slot.defaultValue ∧
      slot.activeProviderCount = providerCount world.stack.frames context
  accepted : ∀ snapshot earlier, (snapshot, earlier) ∈ world.taken →
    ((∃ after, (restoreSnapshot snapshot).run world.stack = .ok () after) ↔
      earlier.frames <+: world.stack.frames)
  restored : ∀ snapshot earlier after, (snapshot, earlier) ∈ world.taken →
    (restoreSnapshot snapshot).run world.stack = .ok () after →
    after.frames = earlier.frames ∧
      ∀ context slot, earlier.contextSlot context = .ok slot →
        after.contextSlot context = .ok slot
  restoreRefused : ∀ snapshot error after,
    (restoreSnapshot snapshot).run world.stack = .error error after → after = world.stack
  pushRefused : ∀ context value error after,
    (pushProvider context value).run world.stack = .error error after →
    after = world.stack

/-- What every call keeps. -/
structure Tracks (world : ContextStackWorld) : Prop where
  consistent : Consistent world.provided world.stack
  next : world.stack.nextFrameId = world.provided.length + 1
  taken : ∀ snapshot earlier, (snapshot, earlier) ∈ world.taken →
    snapshot = earlier.snapshot ∧ Consistent world.provided earlier ∧
      Precedes earlier world.stack

variable {world : ContextStackWorld}

theorem Tracks.restoresSnapshots (tracks : world.Tracks) : world.RestoresSnapshots where
  current := fun _ _ resolved => tracks.consistent.currentValue_eq resolved
  accepted := by
    intro snapshot earlier member
    obtain ⟨rfl, -, precedes⟩ := tracks.taken snapshot earlier member
    rw [← precedes.validateSnapshot_iff]
    rcases tracks.consistent.run_restoreSnapshot earlier.snapshot with
      ⟨error, refused, ran⟩ | ⟨after, accepted, ran, -⟩
    · rw [refused, ran]
      simp
    · rw [accepted, ran]
      simp
  restored := by
    intro snapshot earlier after member restored
    obtain ⟨rfl, consistentEarlier, precedes⟩ := tracks.taken snapshot earlier member
    rcases tracks.consistent.run_restoreSnapshot earlier.snapshot with
      ⟨error, -, ran⟩ | ⟨final, accepted, ran, frames, same, consistent⟩
    · rw [ran] at restored
      cases restored
    · rw [ran] at restored
      cases restored
      have isPrefix := precedes.validateSnapshot_iff.mp accepted
      have sameFrames : after.frames = earlier.frames :=
        frames.trans (prefix_iff_eq_take.mp isPrefix).symm
      refine ⟨sameFrames, ?_⟩
      intro context slot resolved
      exact consistentEarlier.slot_eq consistent sameFrames
        (precedes.undo same frames).contexts resolved
  restoreRefused := by
    intro snapshot error after refused
    rcases tracks.consistent.run_restoreSnapshot snapshot with
      ⟨other, -, ran⟩ | ⟨final, -, ran, -⟩
    · rw [ran] at refused
      cases refused
      rfl
    · rw [ran] at refused
      cases refused
  pushRefused := by
    intro context value error after refused
    rcases run_pushProvider world.stack context value with
      ⟨other, ran⟩ | ⟨index, slot, -, -, -, ran⟩
    · rw [ran] at refused
      cases refused
      rfl
    · rw [ran] at refused
      cases refused

theorem tracks_new (stackId : ContextStackId) : (new stackId).Tracks where
  consistent := by
    refine ⟨?_, ?_, ?_, ?_⟩
    · intro index slot found
      cases found
    · intro slot member
      cases member
    · intro below frame isPrefix
      simp [new, ContextStack.new] at isPrefix
    · intro frame member
      cases member
  next := rfl
  taken := fun _ _ member => by cases member

theorem Tracks.step (tracks : world.Tracks) (call : ContextStackCall) :
    (world.step call).Tracks := by
  cases call with
  | createContext defaultValue =>
    refine ⟨tracks.consistent.create defaultValue, tracks.next, ?_⟩
    intro snapshot earlier member
    obtain ⟨isSnapshot, consistent, precedes⟩ := tracks.taken snapshot earlier member
    refine ⟨isSnapshot, consistent, precedes.stackId, ?_, precedes.sameBelow⟩
    apply precedes.contexts.trans
    change _ <+: map _ (world.stack.slots ++ [_])
    rw [map_append]
    exact prefix_append _ _
  | snapshot =>
    refine ⟨tracks.consistent, tracks.next, ?_⟩
    intro snapshot earlier member
    rcases mem_append.mp member with old | isNew
    · exact tracks.taken snapshot earlier old
    · cases mem_singleton.mp isNew
      exact ⟨rfl, tracks.consistent, .refl _⟩
  | pushProvider context value =>
    rcases run_pushProvider world.stack context value with
      ⟨error, ran⟩ | ⟨index, slot, -, found, rfl, ran⟩
    · simpa only [ContextStackWorld.step, ran] using tracks
    · simp only [ContextStackWorld.step, ran]
      refine ⟨tracks.consistent.push tracks.next found value, ?_, ?_⟩
      · rw [length_append, length_singleton, tracks.next]
      · have precedesPushed : ∀ earlier, Consistent world.provided earlier →
            Precedes earlier world.stack → Precedes earlier { world.stack with
              slots := world.stack.slots.modify index fun slot =>
                { slot with
                  currentValue := value
                  activeProviderCount := slot.activeProviderCount + 1 }
              frames := world.stack.frames ++
                [{ id := ⟨world.stack.nextFrameId⟩
                   context := slot.context
                   previousValue := slot.currentValue
                   previousProviderCount := slot.activeProviderCount }]
              nextFrameId := world.stack.nextFrameId + 1 } := by
          intro earlier consistent precedes
          refine precedes.push consistent ?_ (map_modify_slots _ _ _ _)
          rw [tracks.next]
          exact Nat.lt_succ_self _
        intro snapshot earlier member
        rcases mem_append.mp member with old | isNew
        · obtain ⟨isSnapshot, consistent, precedes⟩ := tracks.taken snapshot earlier old
          exact ⟨isSnapshot, consistent.later value, precedesPushed earlier consistent precedes⟩
        · cases mem_singleton.mp isNew
          exact ⟨rfl, tracks.consistent.later value, precedesPushed _ tracks.consistent (.refl _)⟩
  | restoreSnapshot snapshot =>
    rcases tracks.consistent.run_restoreSnapshot snapshot with
      ⟨error, -, ran⟩ | ⟨after, -, ran, frames, same, consistent⟩
    · simp only [ContextStackWorld.step, ran]
      exact tracks
    · simp only [ContextStackWorld.step, ran]
      refine ⟨consistent, same.nextFrameId.trans tracks.next, ?_⟩
      intro other earlier member
      obtain ⟨isSnapshot, consistentEarlier, precedes⟩ := tracks.taken other earlier member
      exact ⟨isSnapshot, consistentEarlier, precedes.undo same frames⟩

/-- After any calls a context has the value of its topmost frame or its default, and a
snapshot is restored exactly when its frames are a prefix of the present ones; frames,
values and counts are then those of the snapshot, and refused calls change nothing. -/
theorem restoresSnapshots_of_calls (stackId : ContextStackId)
    (calls : List ContextStackCall) :
    (calls.foldl step (new stackId)).RestoresSnapshots :=
  Tracks.restoresSnapshots <|
    foldlRecOn calls step (tracks_new stackId) fun _ tracks call _ => tracks.step call

end ContextStackWorld

end FastReact
