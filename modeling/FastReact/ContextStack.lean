import FastReact.Fiber

namespace FastReact

open ErrorState

/-!
# The context stack

A context has one slot with its current value.  Pushing a provider replaces the value
and keeps the previous one in a frame; restoring a snapshot undoes the frames above it.
The frames are listed from the bottom to the top.
-/

inductive ContextTag
inductive ContextValueTag
inductive ContextFrameTag

abbrev ContextHandle := OpaqueHandle ContextTag
abbrev ContextValueHandle := OpaqueHandle ContextValueTag
abbrev ContextFrameId := OpaqueHandle ContextFrameTag

/-- The identity of a stack. -/
structure ContextStackId where
  raw : Nat
deriving DecidableEq

structure ContextSlot where
  context : ContextHandle
  defaultValue : ContextValueHandle
  currentValue : ContextValueHandle
  activeProviderCount : Nat
deriving DecidableEq

def ContextSlot.new (context : ContextHandle) (defaultValue : ContextValueHandle) :
    ContextSlot where
  context := context
  defaultValue := defaultValue
  currentValue := defaultValue
  activeProviderCount := 0

structure ContextStackSnapshot where
  stackId : ContextStackId
  depth : Nat
  topFrame : ContextFrameId
deriving DecidableEq

/-- Errors of the stack.  The source has no `frameIdCounterWrapped`: it stands for the
panic of a counter of 64 bits. -/
inductive ContextStackError where
  | unknownContext (context : ContextHandle)
  | snapshotStackMismatch
  | snapshotDepthAhead (snapshotDepth currentDepth : Nat)
  | snapshotFrameMismatch (snapshotDepth : Nat) (expectedTopFrame actualTopFrame : ContextFrameId)
  | frameIdCounterWrapped
deriving DecidableEq

structure ContextProviderFrame where
  id : ContextFrameId
  context : ContextHandle
  previousValue : ContextValueHandle
  previousProviderCount : Nat
deriving DecidableEq

structure ContextStack where
  stackId : ContextStackId
  slots : List ContextSlot
  frames : List ContextProviderFrame
  nextFrameId : Nat
deriving DecidableEq

abbrev ContextStackM := EStateM ContextStackError ContextStack

def contextFrameIdBound : Nat := 2 ^ 64

namespace ContextStack

def new (stackId : ContextStackId) : ContextStack where
  stackId := stackId
  slots := []
  frames := []
  nextFrameId := 1

def snapshot (stack : ContextStack) : ContextStackSnapshot where
  stackId := stack.stackId
  depth := stack.frames.length
  topFrame := (stack.frames.getLast?.map (·.id)).getD .none

def slotIndex (stack : ContextStack) (context : ContextHandle) : Except ContextStackError Nat :=
  if context.raw = 0 then
    .error (.unknownContext context)
  else
    match stack.slots[context.raw - 1]? with
    | some slot =>
        if slot.context = context then .ok (context.raw - 1)
        else .error (.unknownContext context)
    | none => .error (.unknownContext context)

def contextSlot (stack : ContextStack) (context : ContextHandle) :
    Except ContextStackError ContextSlot := do
  let index ← stack.slotIndex context
  match stack.slots[index]? with
  | some slot => .ok slot
  | none => .error (.unknownContext context)

def defaultValue (stack : ContextStack) (context : ContextHandle) :
    Except ContextStackError ContextValueHandle := do
  return (← stack.contextSlot context).defaultValue

def currentValue (stack : ContextStack) (context : ContextHandle) :
    Except ContextStackError ContextValueHandle := do
  return (← stack.contextSlot context).currentValue

def validateSnapshot (stack : ContextStack) (snapshot : ContextStackSnapshot) :
    Except ContextStackError Unit :=
  if snapshot.stackId ≠ stack.stackId then
    .error .snapshotStackMismatch
  else if stack.frames.length < snapshot.depth then
    .error (.snapshotDepthAhead snapshot.depth stack.frames.length)
  else if snapshot.depth = 0 then
    .ok ()
  else
    let actualTopFrame := (stack.frames[snapshot.depth - 1]?.map (·.id)).getD .none
    if actualTopFrame = snapshot.topFrame then
      .ok ()
    else
      .error (.snapshotFrameMismatch snapshot.depth snapshot.topFrame actualTopFrame)

end ContextStack

def createContext (defaultValue : ContextValueHandle) : ContextStackM ContextHandle :=
  modifyGet fun stack =>
    let context : ContextHandle := ⟨stack.slots.length + 1⟩
    (context, { stack with slots := stack.slots ++ [ContextSlot.new context defaultValue] })

def allocateFrameId : ContextStackM ContextFrameId := do
  let frameId := (← get).nextFrameId
  if contextFrameIdBound ≤ frameId + 1 then
    throw .frameIdCounterWrapped
  modify fun stack => { stack with nextFrameId := frameId + 1 }
  return ⟨frameId⟩

/-- Provide a value; returns the snapshot of the stack without it. -/
def pushProvider (context : ContextHandle) (value : ContextValueHandle) :
    ContextStackM ContextStackSnapshot := do
  let index ← query (·.slotIndex context)
  let snapshot := (← get).snapshot
  let frameId ← allocateFrameId
  let slot ← query (·.contextSlot context)
  modify fun stack =>
    { stack with
      slots := stack.slots.modify index fun slot =>
        { slot with
          currentValue := value
          activeProviderCount := slot.activeProviderCount + 1 }
      frames := stack.frames ++
        [{ id := frameId
           context := context
           previousValue := slot.currentValue
           previousProviderCount := slot.activeProviderCount }] }
  return snapshot

def undoTopFrame : ContextStackM Unit := do
  match (← get).frames.getLast? with
  | none => return
  | some frame =>
      modify fun stack => { stack with frames := stack.frames.dropLast }
      let index ← query (·.slotIndex frame.context)
      modify fun stack =>
        { stack with
          slots := stack.slots.modify index fun slot =>
            { slot with
              currentValue := frame.previousValue
              activeProviderCount := frame.previousProviderCount } }

def undoFrames : Nat → ContextStackM Unit
  | 0 => pure ()
  | count + 1 => do
      undoTopFrame
      undoFrames count

def restoreSnapshot (snapshot : ContextStackSnapshot) : ContextStackM Unit := do
  query (·.validateSnapshot snapshot)
  undoFrames ((← get).frames.length - snapshot.depth)

end FastReact
