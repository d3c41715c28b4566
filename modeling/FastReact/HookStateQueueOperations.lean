import FastReact.HookStateQueue

namespace FastReact

open ErrorState HookQueueStore

/-!
# The other operations on hook queues

Updates are appended during a render and recorded for it, or staged with their
owners and appended together; rendered updates are applied or dropped, and
unlinked updates and empty queues are reclaimed.
-/

variable {State Action ReducerId DispatchId OwnerId : Type}

/-- Generations are stored in 32 bits. -/
def hookGenerationBound : Nat := 2 ^ 32

def reclaimUpdate (id : HookUpdateId) : HookQueueM State Action ReducerId DispatchId Unit := do
  let update ← query (·.update id)
  if update.next.isSome then
    throw (.linkedUpdateCannotBeReclaimed id)
  if hookGenerationBound ≤ id.generation + 1 then
    throw .generationOverflow
  modify fun store => { store with updates := store.updates.remove id }

def reclaimQueue (id : HookQueueId) : HookQueueM State Action ReducerId DispatchId Unit := do
  let queue ← query (·.queue id)
  if queue.pending.isSome then
    throw (.linkedQueueCannotBeReclaimed id)
  if hookGenerationBound ≤ id.generation + 1 then
    throw .generationOverflow
  modify fun store => { store with queues := store.queues.remove id }

/-- The queues that got an update during the current render. -/
structure RenderPhaseHookUpdates where
  queues : List HookQueueId

namespace RenderPhaseHookUpdates

def new : RenderPhaseHookUpdates where
  queues := []

def record (recorded : RenderPhaseHookUpdates) (queue : HookQueueId) : RenderPhaseHookUpdates :=
  if queue ∈ recorded.queues then
    recorded
  else
    { recorded with queues := recorded.queues ++ [queue] }

def clear (recorded : RenderPhaseHookUpdates) : RenderPhaseHookUpdates :=
  { recorded with queues := [] }

end RenderPhaseHookUpdates

/-- Operations that hold the store and what the current render has recorded. -/
abbrev HookRecordedM (State Action ReducerId DispatchId : Type) :=
  EStateM HookQueueError
    (HookQueueStore State Action ReducerId DispatchId × RenderPhaseHookUpdates)

/-- Run a store operation while something else is held. -/
def whileHolding {Held α : Type} (body : HookQueueM State Action ReducerId DispatchId α) :
    EStateM HookQueueError
      (HookQueueStore State Action ReducerId DispatchId × Held) α :=
  focus Prod.fst (fun store held => (store, held.2)) body

def enqueueRenderPhaseUpdate (queue : HookQueueId) (update : HookUpdateId) :
    HookRecordedM State Action ReducerId DispatchId Unit := do
  whileHolding (appendPendingUpdate queue update)
  modify fun (store, recorded) => (store, recorded.record queue)

def clearRenderPhaseUpdates : HookRecordedM State Action ReducerId DispatchId Unit := do
  let (_, recorded) ← get
  whileHolding (recorded.queues.forM fun queue => setPending queue none)
  modify fun (store, recorded) => (store, recorded.clear)

/-- What applying the pending updates during a render reports. -/
structure RenderPhaseHookQueueResult (State : Type) where
  memoizedState : State
  processedUpdateCount : Nat
deriving DecidableEq

/-- Apply the pending updates to the memoized state of the held slot. -/
def processRenderPhaseUpdates (reducer : State → Action → State) :
    HookSlotM State Action ReducerId DispatchId (RenderPhaseHookQueueResult State) := do
  let (_, slot) ← get
  let pending := (← onStore (query (·.queue slot.queue))).pending
  let ids ← onStore (query (·.updateRing pending))
  onStore (setPending slot.queue none)
  let newState ← onStore (ids.foldlM
    (fun state id => do return reducer state (← query (·.update id)).data.action)
    slot.memoizedState)
  modifySlot fun slot => { slot with memoizedState := newState }
  if slot.baseQueue.isNone then
    modifySlot fun slot => { slot with baseState := newState }
  onStore (modifyQueue slot.queue fun entry => { entry with lastRenderedState := newState })
  return {
    memoizedState := newState
    processedUpdateCount := ids.length }

structure StagedHookUpdate (OwnerId : Type) where
  owner : OwnerId
  queue : HookQueueId
  update : HookUpdateId
  lane : HookUpdateLane

/-- The updates that wait for their queues. -/
structure HookUpdateStaging (OwnerId : Type) where
  entries : List (StagedHookUpdate OwnerId)
  lanes : Lanes

namespace HookUpdateStaging

def new : HookUpdateStaging OwnerId where
  entries := []
  lanes := Lanes.no

def stage (staging : HookUpdateStaging OwnerId) (owner : OwnerId) (queue : HookQueueId)
    (update : HookUpdateId) (lane : HookUpdateLane) : HookUpdateStaging OwnerId where
  entries := staging.entries ++ [⟨owner, queue, update, lane⟩]
  lanes := staging.lanes.merge lane.lanes

end HookUpdateStaging

/-- One round of the loop that checks staged updates; the loop collects the updates and
the queues it has seen. -/
def HookQueueStore.validateStagedUpdate (store : HookQueueStore State Action ReducerId DispatchId)
    (seen : List HookUpdateId × List HookQueueId) (entry : StagedHookUpdate OwnerId) :
    Except HookQueueError (List HookUpdateId × List HookQueueId) := do
  let queue ← store.queue entry.queue
  store.validateUpdateId entry.update
  store.ensureUpdateIsUnlinked entry.update
  if entry.update ∈ seen.1 then
    .error (.duplicateStagedUpdate entry.update)
  else if entry.queue ∈ seen.2 then
    .ok (entry.update :: seen.1, seen.2)
  else
    match queue.pending with
    | none => .ok (entry.update :: seen.1, entry.queue :: seen.2)
    | some pending => do
        let _ ← store.collectRingIds pending
        .ok (entry.update :: seen.1, entry.queue :: seen.2)

/-- Operations that hold the store and the staged updates. -/
abbrev HookStagingM (State Action ReducerId DispatchId OwnerId : Type) :=
  EStateM HookQueueError
    (HookQueueStore State Action ReducerId DispatchId × HookUpdateStaging OwnerId)

/-- Check all staged updates, and then append them to their queues. -/
def finishQueueing :
    HookStagingM State Action ReducerId DispatchId OwnerId
      (List (StagedHookUpdate OwnerId)) := do
  let (_, staging) ← get
  let _ ← whileHolding
    (query fun store => staging.entries.foldlM store.validateStagedUpdate ([], []))
  whileHolding (staging.entries.forM fun entry =>
    appendPendingUpdateUnchecked entry.queue entry.update)
  modify fun (store, _) => (store, HookUpdateStaging.new)
  return staging.entries

/-- The store together with the hook slots that were made for it. -/
structure HookQueueWorld (State Action ReducerId DispatchId : Type) where
  store : HookQueueStore State Action ReducerId DispatchId
  slots : List (HookStateSlot State)

/-- A call of an operation; what it borrows mutably besides the store and a hook slot
comes with it. -/
inductive HookQueueCall (State Action OwnerId : Type) where
  | createQueue (initialState : State)
  | createStateSlot (initialState : State)
  /-- `HookStateSlot::new` for a queue that exists already. -/
  | newStateSlot (initialState : State) (queue : HookQueueId)
  | createUpdate (lane : HookUpdateLane) (action : Action)
  | createUpdateFromDispatchMetadata (metadata : HookUpdateDispatchMetadata Action State)
  | appendPendingUpdate (queue : HookQueueId) (update : HookUpdateId)
  | enqueueRenderPhaseUpdate (queue : HookQueueId) (update : HookUpdateId)
      (recorded : RenderPhaseHookUpdates)
  | finishQueueing (staging : HookUpdateStaging OwnerId)
  | processUpdateQueue (slot : Nat) (renderLanes rootRenderLanes : Lanes)
      (reducer : State → Action → State)
  | processRenderPhaseUpdates (slot : Nat) (reducer : State → Action → State)
  | clearRenderPhaseUpdates (recorded : RenderPhaseHookUpdates)
  | reclaimUpdate (id : HookUpdateId)
  | reclaimQueue (id : HookQueueId)

namespace HookQueueWorld

abbrev CallM (State Action ReducerId DispatchId : Type) :=
  EStateM HookQueueError (HookQueueWorld State Action ReducerId DispatchId)

def new : HookQueueWorld State Action ReducerId DispatchId where
  store := HookQueueStore.new
  slots := []

def callStore {α : Type} (body : HookQueueM State Action ReducerId DispatchId α) :
    CallM State Action ReducerId DispatchId Unit := do
  let _ ← focus store (fun store world => { world with store := store }) body

/-- Call an operation that borrows a value of the caller. -/
def callWith {Held α : Type} (held : Held)
    (body : EStateM HookQueueError
      (HookQueueStore State Action ReducerId DispatchId × Held) α) :
    CallM State Action ReducerId DispatchId Unit := do
  let _ ← focus (fun world => (world.store, held))
    (fun after world => { world with store := after.1 }) body

/-- Call an operation on one of the hook slots, if it exists. -/
def callSlot {α : Type} (index : Nat) (body : HookSlotM State Action ReducerId DispatchId α) :
    CallM State Action ReducerId DispatchId Unit := do
  match (← get).slots[index]? with
  | none => return
  | some slot =>
      let _ ← focus (fun world => (world.store, slot))
        (fun after world => { store := after.1, slots := world.slots.set index after.2 }) body

def keepSlot (slot : HookStateSlot State) : CallM State Action ReducerId DispatchId Unit :=
  modify fun world => { world with slots := world.slots ++ [slot] }

/-- Make a call. -/
def call :
    HookQueueCall State Action OwnerId → CallM State Action ReducerId DispatchId Unit
  | .createQueue initialState => callStore (FastReact.createQueue initialState)
  | .createStateSlot initialState => do
      let slot ← focus store (fun store world => { world with store := store })
        (FastReact.createStateSlot initialState)
      keepSlot slot
  | .newStateSlot initialState queue => keepSlot (HookStateSlot.new initialState queue)
  | .createUpdate lane action => callStore (FastReact.createUpdate lane action)
  | .createUpdateFromDispatchMetadata metadata =>
      callStore (FastReact.createUpdateFromDispatchMetadata metadata)
  | .appendPendingUpdate queue update => callStore (FastReact.appendPendingUpdate queue update)
  | .enqueueRenderPhaseUpdate queue update recorded =>
      callWith recorded (FastReact.enqueueRenderPhaseUpdate queue update)
  | .finishQueueing staging => callWith staging FastReact.finishQueueing
  | .processUpdateQueue slot renderLanes rootRenderLanes reducer =>
      callSlot slot (FastReact.processUpdateQueue renderLanes rootRenderLanes reducer)
  | .processRenderPhaseUpdates slot reducer =>
      callSlot slot (FastReact.processRenderPhaseUpdates reducer)
  | .clearRenderPhaseUpdates recorded => callWith recorded FastReact.clearRenderPhaseUpdates
  | .reclaimUpdate id => callStore (FastReact.reclaimUpdate id)
  | .reclaimQueue id => callStore (FastReact.reclaimQueue id)

end HookQueueWorld

end FastReact
