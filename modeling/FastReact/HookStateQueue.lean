import FastReact.ErrorState
import FastReact.Lane
import FastReact.LinkedArena

namespace FastReact

open ErrorState

/-!
# Hook state queues

Updates of a state hook are nodes of one arena.  A queue points at the tail of
its circular pending ring, and the hook's slot points at the tail of its
circular base ring; both rings are spliced and rebuilt in place by a render
pass.  Operations that mutate the store run in `EStateM`, so that an error keeps
the mutations made before it, as the source does.
-/

inductive HookQueueTag

inductive HookUpdateTag

abbrev HookQueueId := Handle HookQueueTag
abbrev HookUpdateId := Handle HookUpdateTag

namespace HookUpdateLane

/-- The lanes a hook update may carry: none, or one lane besides `OFFSCREEN`. -/
def accepts (lanes : Lanes) : Bool :=
  let priorityLanes := lanes.removeLane Lane.offscreen
  if priorityLanes.isEmpty then
    !lanes.containsLane Lane.offscreen
  else
    priorityLanes.countOnes == 1

theorem accepts_sync : accepts Lanes.sync = true := by decide

theorem accepts_default : accepts Lanes.default = true := by decide

theorem accepts_hidden : accepts (Lane.default.toLanes.mergeLane Lane.offscreen) = true := by decide

end HookUpdateLane

structure HookUpdateLane where
  lanes : Lanes
  accepted : HookUpdateLane.accepts lanes = true
deriving DecidableEq

/-- The lane an optimistic update is reverted with. -/
structure HookRevertLane where
  lane : Lane
deriving DecidableEq

inductive HookQueueError where
  | invalidQueueId (id : HookQueueId)
  | vacantQueue (id : HookQueueId)
  | staleQueueId (id : HookQueueId) (currentGeneration : Nat)
  | invalidUpdateId (id : HookUpdateId)
  | vacantUpdate (id : HookUpdateId)
  | staleUpdateId (id : HookUpdateId) (currentGeneration : Nat)
  | missingCircularNext (id : HookUpdateId)
  | corruptRing (tail : HookUpdateId)
  | linkedUpdateCannotBeReclaimed (id : HookUpdateId)
  | linkedQueueCannotBeReclaimed (id : HookQueueId)
  | duplicateStagedUpdate (id : HookUpdateId)
  | invalidHookUpdateLane (lanes : Lanes)
  | generationOverflow
deriving DecidableEq

namespace HookUpdateLane

def no : HookUpdateLane := ⟨Lanes.no, rfl⟩

def new (lanes : Lanes) : Option HookUpdateLane :=
  if accepted : accepts lanes = true then some ⟨lanes, accepted⟩ else none

def fromLanes (lanes : Lanes) : Except HookQueueError HookUpdateLane :=
  match new lanes with
  | some lane => .ok lane
  | none => .error (.invalidHookUpdateLane lanes)

def priorityLanes (lane : HookUpdateLane) : Lanes :=
  lane.lanes.removeLane Lane.offscreen

def isHidden (lane : HookUpdateLane) : Bool :=
  lane.lanes.containsLane Lane.offscreen

end HookUpdateLane

namespace HookRevertLane

def no : HookRevertLane := ⟨Lane.no⟩
def lanes (lane : HookRevertLane) : Lanes := lane.lane.toLanes
def isEmpty (lane : HookRevertLane) : Bool := lane.lane.isEmpty

end HookRevertLane

/-- An update without its ring link. -/
structure HookUpdateDispatchMetadata (Action State : Type) where
  lane : HookUpdateLane
  revertLane : HookRevertLane
  action : Action
  eagerState : Option State
deriving DecidableEq

/-- An update node; its link makes it a member of a ring. -/
abbrev HookUpdate (Action State : Type) :=
  Node HookUpdateTag (HookUpdateDispatchMetadata Action State)

namespace HookUpdate

variable {Action State : Type}

def new (lane : HookUpdateLane) (action : Action) : HookUpdate Action State where
  data :=
    { lane := lane
      revertLane := HookRevertLane.no
      action := action
      eagerState := none }
  next := none

def fromMetadata (metadata : HookUpdateDispatchMetadata Action State) :
    HookUpdate Action State where
  data := metadata
  next := none

def cloneForRebase (update : HookUpdate Action State) (lane : HookUpdateLane)
    (revertLane : HookRevertLane) : HookUpdate Action State where
  data :=
    { lane := lane
      revertLane := revertLane
      action := update.data.action
      eagerState := update.data.eagerState }
  next := none

end HookUpdate

structure HookQueue (State ReducerId DispatchId : Type) where
  pending : Option HookUpdateId
  lanes : Lanes
  dispatch : Option DispatchId
  lastRenderedReducer : Option ReducerId
  lastRenderedState : State
deriving DecidableEq

structure HookStateSlot (State : Type) where
  memoizedState : State
  baseState : State
  baseQueue : Option HookUpdateId
  queue : HookQueueId
deriving DecidableEq

def HookQueue.new {State ReducerId DispatchId : Type} (initialState : State) :
    HookQueue State ReducerId DispatchId where
  pending := none
  lanes := Lanes.no
  dispatch := none
  lastRenderedReducer := none
  lastRenderedState := initialState

def HookStateSlot.new {State : Type} (initialState : State) (queue : HookQueueId) :
    HookStateSlot State where
  memoizedState := initialState
  baseState := initialState
  baseQueue := none
  queue := queue

/-- What a render pass reports. -/
structure ProcessHookQueueResult (State : Type) where
  memoizedState : State
  baseState : State
  baseQueue : Option HookUpdateId
  remainingLanes : Lanes
  appliedUpdateCount : Nat
  skippedUpdateCount : Nat
  revertedUpdateCount : Nat
  eagerUpdateCount : Nat
deriving DecidableEq

structure HookQueueStore (State Action ReducerId DispatchId : Type) where
  queues : SlotArena HookQueueTag (HookQueue State ReducerId DispatchId)
  updates : LinkedArena HookUpdateTag (HookUpdateDispatchMetadata Action State)

abbrev HookQueueM (State Action ReducerId DispatchId : Type) :=
  EStateM HookQueueError (HookQueueStore State Action ReducerId DispatchId)

variable {State Action ReducerId DispatchId : Type}

namespace HookQueueError

/-- The error of an update handle that does not resolve. -/
def ofUpdateLookup (id : HookUpdateId) : LookupError → HookQueueError
  | .outOfRange => .invalidUpdateId id
  | .stale currentGeneration => .staleUpdateId id currentGeneration
  | .vacant => .vacantUpdate id

/-- The error of a queue handle that does not resolve. -/
def ofQueueLookup (id : HookQueueId) : LookupError → HookQueueError
  | .outOfRange => .invalidQueueId id
  | .stale currentGeneration => .staleQueueId id currentGeneration
  | .vacant => .vacantQueue id

end HookQueueError

namespace HookQueueStore

def new : HookQueueStore State Action ReducerId DispatchId where
  queues := SlotArena.empty
  updates := SlotArena.empty

/-- Resolve an update, with the checks of `validate_update_id`. -/
def update (store : HookQueueStore State Action ReducerId DispatchId) (id : HookUpdateId) :
    Except HookQueueError (HookUpdate Action State) :=
  (store.updates.find id).mapError (HookQueueError.ofUpdateLookup id)

/-- Resolve a queue, with the checks of `validate_queue_id`. -/
def queue (store : HookQueueStore State Action ReducerId DispatchId) (id : HookQueueId) :
    Except HookQueueError (HookQueue State ReducerId DispatchId) :=
  (store.queues.find id).mapError (HookQueueError.ofQueueLookup id)

/-- Check that an update handle resolves. -/
def validateUpdateId (store : HookQueueStore State Action ReducerId DispatchId)
    (id : HookUpdateId) : Except HookQueueError Unit := do
  let _ ← store.update id

/-- The successor of an update that is linked into a ring. -/
def nextInRing (store : HookQueueStore State Action ReducerId DispatchId) (id : HookUpdateId) :
    Except HookQueueError HookUpdateId := do
  match (← store.update id).next with
  | some next => .ok next
  | none => .error (.missingCircularNext id)

/-- Refuse an update that is already linked. -/
def ensureUpdateIsUnlinked (store : HookQueueStore State Action ReducerId DispatchId)
    (id : HookUpdateId) : Except HookQueueError Unit := do
  if (← store.update id).next.isSome then
    .error (.linkedUpdateCannotBeReclaimed id)
  else
    .ok ()

/-- The loop of `collect_ring_ids`; the collected identities are also the seen
set, and one round more than there are update slots always ends it. -/
def collectRingIdsLoop (store : HookQueueStore State Action ReducerId DispatchId)
    (tail first : HookUpdateId) :
    Nat → HookUpdateId → List HookUpdateId →
      Except HookQueueError (List HookUpdateId)
  | 0, _, _ => .error (.corruptRing tail)
  | rounds + 1, next, ids => do
      store.validateUpdateId next
      if next ∈ ids then
        if next = first then .ok ids else .error (.corruptRing tail)
      else
        let ids := ids ++ [next]
        let next ← store.nextInRing next
        if next = first then
          .ok ids
        else if ids.length > store.updates.slots.length then
          .error (.corruptRing tail)
        else
          collectRingIdsLoop store tail first rounds next ids

/-- The members of the ring behind a tail, from the head on. -/
def collectRingIds (store : HookQueueStore State Action ReducerId DispatchId)
    (tail : HookUpdateId) : Except HookQueueError (List HookUpdateId) := do
  store.validateUpdateId tail
  let first ← store.nextInRing tail
  store.validateUpdateId first
  let ids ← store.collectRingIdsLoop tail first
    (store.updates.slots.length + 1) first []
  if tail ∈ ids then .ok ids else .error (.corruptRing tail)

/-- The members of the ring a possibly absent tail stands for. -/
def updateRing (store : HookQueueStore State Action ReducerId DispatchId) :
    Option HookUpdateId → Except HookQueueError (List HookUpdateId)
  | none => .ok []
  | some tail => store.collectRingIds tail

/-- The members of the pending ring of a queue. -/
def pendingUpdates (store : HookQueueStore State Action ReducerId DispatchId)
    (queue : HookQueueId) : Except HookQueueError (List HookUpdateId) := do
  store.updateRing (← store.queue queue).pending

/-- Replace the content of one update node. -/
def changeUpdate (store : HookQueueStore State Action ReducerId DispatchId) (id : HookUpdateId)
    (change : HookUpdate Action State → HookUpdate Action State) :
    HookQueueStore State Action ReducerId DispatchId :=
  { store with updates := store.updates.modify id change }

/-- Replace the content of one queue. -/
def changeQueue (store : HookQueueStore State Action ReducerId DispatchId) (id : HookQueueId)
    (change : HookQueue State ReducerId DispatchId →
      HookQueue State ReducerId DispatchId) : HookQueueStore State Action ReducerId DispatchId :=
  { store with queues := store.queues.modify id change }

end HookQueueStore

open HookQueueStore

/-- Change a resolvable update in place. -/
def modifyUpdate (id : HookUpdateId) (change : HookUpdate Action State → HookUpdate Action State) :
    HookQueueM State Action ReducerId DispatchId Unit := do
  let _ ← query (·.update id)
  modify fun store => store.changeUpdate id change

/-- Change a resolvable queue in place. -/
def modifyQueue (id : HookQueueId)
    (change : HookQueue State ReducerId DispatchId →
      HookQueue State ReducerId DispatchId) :
    HookQueueM State Action ReducerId DispatchId Unit := do
  let _ ← query (·.queue id)
  modify fun store => store.changeQueue id change

def setNext (id : HookUpdateId) (next : Option HookUpdateId) :
    HookQueueM State Action ReducerId DispatchId Unit :=
  modifyUpdate id fun node => { node with next := next }

def setPending (id : HookQueueId) (pending : Option HookUpdateId) :
    HookQueueM State Action ReducerId DispatchId Unit :=
  modifyQueue id fun entry => { entry with pending := pending }

/-- Allocate an update node. -/
def insertUpdate (update : HookUpdate Action State) :
    HookQueueM State Action ReducerId DispatchId HookUpdateId :=
  modifyGet fun store =>
    let (id, updates) := store.updates.insert update
    (id, { store with updates := updates })

def createQueue (initialState : State) : HookQueueM State Action ReducerId DispatchId HookQueueId :=
  modifyGet fun store =>
    let (id, queues) := store.queues.insert (HookQueue.new initialState)
    (id, { store with queues := queues })

def createStateSlot (initialState : State) :
    HookQueueM State Action ReducerId DispatchId (HookStateSlot State) := do
  let queue ← createQueue initialState
  return HookStateSlot.new initialState queue

def createUpdate (lane : HookUpdateLane) (action : Action) :
    HookQueueM State Action ReducerId DispatchId HookUpdateId :=
  insertUpdate (HookUpdate.new lane action)

def createUpdateFromDispatchMetadata (metadata : HookUpdateDispatchMetadata Action State) :
    HookQueueM State Action ReducerId DispatchId HookUpdateId :=
  insertUpdate (HookUpdate.fromMetadata metadata)

/-- Link an update behind the tail of the pending ring. -/
def appendPendingUpdateUnchecked (queue : HookQueueId) (update : HookUpdateId) :
    HookQueueM State Action ReducerId DispatchId Unit := do
  match (← query (·.queue queue)).pending with
  | some pendingTail =>
      let first ← query (·.nextInRing pendingTail)
      setNext update (some first)
      setNext pendingTail (some update)
  | none => setNext update (some update)
  setPending queue (some update)

def appendPendingUpdate (queue : HookQueueId) (update : HookUpdateId) :
    HookQueueM State Action ReducerId DispatchId Unit := do
  query (·.validateUpdateId update)
  query (·.ensureUpdateIsUnlinked update)
  appendPendingUpdateUnchecked queue update

/-- Apply one update, by its eager state when that is allowed and present. -/
def reduceHookUpdate (state : State) (update : HookUpdate Action State)
    (reducer : State → Action → State) (allowEagerState : Bool) : State × Bool :=
  match allowEagerState, update.data.eagerState with
  | true, some eagerState => (eagerState, true)
  | _, _ => (reducer state update.data.action, false)

/-- The local variables of the pass over the base ring. -/
structure HookQueuePass (State : Type) where
  newState : State
  newBaseState : Option State
  newBaseQueueFirst : Option HookUpdateId
  newBaseQueueLast : Option HookUpdateId
  remainingLanes : Lanes
  appliedUpdateCount : Nat
  skippedUpdateCount : Nat
  revertedUpdateCount : Nat
  eagerUpdateCount : Nat

/-- The local variables before the first update. -/
def HookQueuePass.start (baseState : State) : HookQueuePass State where
  newState := baseState
  newBaseState := none
  newBaseQueueFirst := none
  newBaseQueueLast := none
  remainingLanes := Lanes.no
  appliedUpdateCount := 0
  skippedUpdateCount := 0
  revertedUpdateCount := 0
  eagerUpdateCount := 0

/-- Link a clone behind the new base queue; the source passes the two ends as
mutable references. -/
def appendToNewBaseQueue (pass : HookQueuePass State) (update : HookUpdateId) :
    HookQueueM State Action ReducerId DispatchId (HookQueuePass State) := do
  setNext update none
  match pass.newBaseQueueLast with
  | some last =>
      setNext last (some update)
      return { pass with newBaseQueueLast := some update }
  | none =>
      return { pass with
        newBaseQueueFirst := some update
        newBaseQueueLast := some update }

/-- Remember the state before the first retained update. -/
def HookQueuePass.noteBaseState (pass : HookQueuePass State) : HookQueuePass State :=
  if pass.newBaseQueueLast.isNone then
    { pass with newBaseState := some pass.newState }
  else
    pass

/-- Apply an update to the running state and count it. -/
def HookQueuePass.reduce (pass : HookQueuePass State) (original : HookUpdate Action State)
    (reducer : State → Action → State) (allowEagerState : Bool) : HookQueuePass State :=
  let (nextState, usedEager) :=
    reduceHookUpdate pass.newState original reducer allowEagerState
  { pass with
    newState := nextState
    appliedUpdateCount := pass.appliedUpdateCount + 1
    eagerUpdateCount := pass.eagerUpdateCount + (if usedEager then 1 else 0) }

/-- One round of the loop over the base ring. -/
def processUpdate (renderLanes rootRenderLanes : Lanes) (reducer : State → Action → State)
    (pass : HookQueuePass State) (updateId : HookUpdateId) :
    HookQueueM State Action ReducerId DispatchId (HookQueuePass State) := do
  let original ← query (·.update updateId)
  let updateLane := original.data.lane.priorityLanes
  let laneScope := if original.data.lane.isHidden then rootRenderLanes else renderLanes
  if !updateLane.isSubsetOf laneScope then
    let lane ← query fun _ => HookUpdateLane.fromLanes updateLane
    let cloneId ← insertUpdate (HookUpdate.cloneForRebase original lane original.data.revertLane)
    let pass ← appendToNewBaseQueue pass.noteBaseState cloneId
    return { pass with
      remainingLanes := pass.remainingLanes.merge updateLane
      skippedUpdateCount := pass.skippedUpdateCount + 1 }
  else if original.data.revertLane.isEmpty then
    let pass ←
      if pass.newBaseQueueLast.isSome then do
        let cloneId ← insertUpdate
          (HookUpdate.cloneForRebase original HookUpdateLane.no HookRevertLane.no)
        appendToNewBaseQueue pass cloneId
      else
        pure pass
    return pass.reduce original reducer true
  else if renderLanes.containsLane original.data.revertLane.lane then
    return { pass with revertedUpdateCount := pass.revertedUpdateCount + 1 }
  else
    let cloneId ← insertUpdate
      (HookUpdate.cloneForRebase original HookUpdateLane.no original.data.revertLane)
    let pass ← appendToNewBaseQueue pass.noteBaseState cloneId
    let pass := { pass with
      remainingLanes := pass.remainingLanes.merge original.data.revertLane.lanes }
    return pass.reduce original reducer false

/-- Point the end of the new base queue back to its start. -/
def closeNewBaseQueue (pass : HookQueuePass State) :
    HookQueueM State Action ReducerId DispatchId Unit :=
  match pass.newBaseQueueLast with
  | none => pure ()
  | some last => setNext last pass.newBaseQueueFirst

abbrev HookSlotM (State Action ReducerId DispatchId : Type) :=
  EStateM HookQueueError
    (HookQueueStore State Action ReducerId DispatchId × HookStateSlot State)

def onStore {α : Type} (body : HookQueueM State Action ReducerId DispatchId α) :
    HookSlotM State Action ReducerId DispatchId α :=
  focus Prod.fst (fun store held => (store, held.2)) body

def modifySlot (change : HookStateSlot State → HookStateSlot State) :
    HookSlotM State Action ReducerId DispatchId Unit :=
  modify fun (store, slot) => (store, change slot)

/-- Splice the pending ring behind the base ring of the held slot. -/
def mergePendingIntoBaseQueue : HookSlotM State Action ReducerId DispatchId Unit := do
  let (_, slot) ← get
  match (← onStore (query (·.queue slot.queue))).pending with
  | none => return
  | some pendingTail =>
      let _ ← onStore (query (·.nextInRing pendingTail))
      match slot.baseQueue with
      | some baseTail =>
          let baseFirst ← onStore (query (·.nextInRing baseTail))
          let pendingFirst ← onStore (query (·.nextInRing pendingTail))
          onStore (setNext baseTail (some pendingFirst))
          onStore (setNext pendingTail (some baseFirst))
      | none => pure ()
      onStore (setPending slot.queue none)
      modifySlot fun slot => { slot with baseQueue := some pendingTail }

/-- Render the held slot: merge the pending ring and run the pass over it. -/
def processUpdateQueue (renderLanes rootRenderLanes : Lanes) (reducer : State → Action → State) :
    HookSlotM State Action ReducerId DispatchId (ProcessHookQueueResult State) := do
  mergePendingIntoBaseQueue
  let (_, slot) ← get
  match slot.baseQueue with
  | none =>
      modifySlot fun slot => { slot with memoizedState := slot.baseState }
      onStore (modifyQueue slot.queue fun entry => { entry with lanes := Lanes.no })
      return {
        memoizedState := slot.baseState
        baseState := slot.baseState
        baseQueue := none
        remainingLanes := Lanes.no
        appliedUpdateCount := 0
        skippedUpdateCount := 0
        revertedUpdateCount := 0
        eagerUpdateCount := 0 }
  | some baseTail =>
      let updateIds ← onStore (query (·.collectRingIds baseTail))
      let pass ← onStore (updateIds.foldlM
        (processUpdate renderLanes rootRenderLanes reducer) (HookQueuePass.start slot.baseState))
      onStore (closeNewBaseQueue pass)
      -- `newBaseState` stays unset exactly when nothing was retained, and the
      -- source then sets it to the final state.
      let newBaseState := pass.newBaseState.getD pass.newState
      modifySlot fun slot => { slot with
        memoizedState := pass.newState
        baseState := newBaseState
        baseQueue := pass.newBaseQueueLast }
      onStore (modifyQueue slot.queue fun entry =>
        { entry with lastRenderedState := pass.newState })
      return {
        memoizedState := pass.newState
        baseState := newBaseState
        baseQueue := pass.newBaseQueueLast
        remainingLanes := pass.remainingLanes
        appliedUpdateCount := pass.appliedUpdateCount
        skippedUpdateCount := pass.skippedUpdateCount
        revertedUpdateCount := pass.revertedUpdateCount
        eagerUpdateCount := pass.eagerUpdateCount }

end FastReact
