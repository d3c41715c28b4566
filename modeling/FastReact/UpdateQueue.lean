import FastReact.Fiber
import FastReact.LinkedArena

namespace FastReact

open ErrorState

/-!
# HostRoot update queues

A queue keeps the updates of a root in insertion order: new ones in a circular
pending ring, older ones in a linear base list that a render pass rebuilds.
Queues live in a growing vector and are named by handles; cloning a queue copies
its pointers, so that two queues may share update nodes.
-/

inductive RootElementTag
inductive RootCacheTag
inductive RootFormStateTag
inductive RootSuspenseBoundarySetTag
inductive RootUpdateCallbackTag
inductive RootUpdateNodeTag

abbrev RootElementHandle := OpaqueHandle RootElementTag
abbrev RootCacheHandle := OpaqueHandle RootCacheTag
abbrev RootFormStateHandle := OpaqueHandle RootFormStateTag
abbrev RootSuspenseBoundarySetHandle := OpaqueHandle RootSuspenseBoundarySetTag
abbrev RootUpdateCallbackHandle := OpaqueHandle RootUpdateCallbackTag
abbrev UpdateId := Handle RootUpdateNodeTag

inductive UnsupportedHydrationKind where
  | hydrationRoot
deriving DecidableEq

inductive HostRootHydrationState where
  | notHydrated
  | reservedUnsupported (kind : UnsupportedHydrationKind)
deriving DecidableEq

/-- The state of a HostRoot fiber. -/
structure HostRootState where
  element : RootElementHandle
  isDehydrated : Bool
  hydration : HostRootHydrationState
  cache : RootCacheHandle
  formState : RootFormStateHandle
  pendingSuspenseBoundaries : RootSuspenseBoundarySetHandle
deriving DecidableEq

namespace HostRootState

def client (element : RootElementHandle) (formState : RootFormStateHandle) : HostRootState where
  element := element
  isDehydrated := false
  hydration := .notHydrated
  cache := .none
  formState := formState
  pendingSuspenseBoundaries := .none

def withElement (state : HostRootState) (element : RootElementHandle) : HostRootState :=
  { state with element := element }

end HostRootState

/-- How an update changes the state. -/
inductive UpdateTag where
  | updateState
  | replaceState
  | forceUpdate
  | captureUpdate
deriving DecidableEq

structure RootUpdatePayload where
  element : RootElementHandle
deriving DecidableEq

/-- An update without its link. -/
structure RootUpdateData where
  lane : Lanes
  tag : UpdateTag
  payload : Option RootUpdatePayload
  callback : RootUpdateCallbackHandle
deriving DecidableEq

namespace RootUpdateData

def setLane (update : RootUpdateData) (lane : Lanes) : RootUpdateData :=
  { update with lane := lane }

def setPayload (update : RootUpdateData) (payload : RootUpdatePayload) : RootUpdateData :=
  { update with payload := some payload }

def setCallback (update : RootUpdateData) (callback : RootUpdateCallbackHandle) : RootUpdateData :=
  { update with callback := callback }

def markHidden (update : RootUpdateData) : RootUpdateData :=
  { update with lane := update.lane.mergeLane Lane.offscreen }

end RootUpdateData

/-- An update node; its link makes it a member of a pending ring or a base list. -/
abbrev RootUpdate := Node RootUpdateNodeTag RootUpdateData

namespace RootUpdate

def new (lane : Lane) : RootUpdate where
  data :=
    { lane := lane.toLanes
      tag := .updateState
      payload := none
      callback := .none }
  next := none

def cloneWithLaneAndCallback (update : RootUpdate) (lane : Lanes)
    (callback : RootUpdateCallbackHandle) : RootUpdate where
  data := { update.data with lane := lane, callback := callback }
  next := none

end RootUpdate

/-- A callback collected by a render pass. -/
structure CollectedRootUpdateCallback where
  update : UpdateId
  callback : RootUpdateCallbackHandle
  hidden : Bool
deriving DecidableEq

inductive RootUpdateCallbackVisibility where
  | visible
  | hidden
  | deferredHidden
deriving DecidableEq

/-- A callback handed off by a commit. -/
structure RootUpdateCallbackRecord where
  queue : UpdateQueueHandle
  update : UpdateId
  callback : RootUpdateCallbackHandle
  sequence : Nat
  visibility : RootUpdateCallbackVisibility
deriving DecidableEq

/-- The callbacks of a queue at its commit, in three groups. -/
structure RootUpdateCallbackSnapshot where
  queue : UpdateQueueHandle
  visible : List RootUpdateCallbackRecord
  hidden : List RootUpdateCallbackRecord
  deferredHidden : List RootUpdateCallbackRecord
deriving DecidableEq

def CollectedRootUpdateCallback.intoRecord (collected : CollectedRootUpdateCallback)
    (queue : UpdateQueueHandle) (sequence : Nat)
    (visibility : RootUpdateCallbackVisibility) : RootUpdateCallbackRecord where
  queue := queue
  update := collected.update
  callback := collected.callback
  sequence := sequence
  visibility := visibility

structure SharedQueue where
  pending : Option UpdateId
  lanes : Lanes
  hiddenCallbacks : List CollectedRootUpdateCallback
deriving DecidableEq

structure UpdateQueue where
  baseState : HostRootState
  firstBaseUpdate : Option UpdateId
  lastBaseUpdate : Option UpdateId
  shared : SharedQueue
  callbacks : List CollectedRootUpdateCallback
deriving DecidableEq

def UpdateQueue.new (baseState : HostRootState) : UpdateQueue where
  baseState := baseState
  firstBaseUpdate := none
  lastBaseUpdate := none
  shared :=
    { pending := none
      lanes := Lanes.no
      hiddenCallbacks := [] }
  callbacks := []

/-- Errors of the update queue store.  The source has no `endlessList`: it stands
for a traversal that does not return because the list it follows has a cycle. -/
inductive UpdateQueueError where
  | emptyQueueHandle
  | invalidQueueHandle (handle : UpdateQueueHandle)
  | invalidUpdateId (id : UpdateId)
  | vacantUpdate (id : UpdateId)
  | staleUpdateId (id : UpdateId) (currentGeneration : Nat)
  | missingCircularNext (id : UpdateId)
  | endlessList
deriving DecidableEq

/-- What a render pass over a queue reports. -/
structure ProcessUpdateQueueResult where
  memoizedState : HostRootState
  remainingLanes : Lanes
  appliedUpdateCount : Nat
  skippedUpdateCount : Nat
deriving DecidableEq

structure UpdateQueueStore where
  queues : List UpdateQueue
  updates : LinkedArena RootUpdateNodeTag RootUpdateData

abbrev UpdateQueueM := EStateM UpdateQueueError UpdateQueueStore

/-- The error of an update handle that does not resolve. -/
def UpdateQueueError.ofUpdateLookup (id : UpdateId) : LookupError → UpdateQueueError
  | .outOfRange => .invalidUpdateId id
  | .stale currentGeneration => .staleUpdateId id currentGeneration
  | .vacant => .vacantUpdate id

namespace UpdateQueueStore

def new : UpdateQueueStore where
  queues := []
  updates := SlotArena.empty

/-- Resolve an update, with the checks of `validate_update_id`. -/
def update (store : UpdateQueueStore) (id : UpdateId) : Except UpdateQueueError RootUpdate :=
  (store.updates.find id).mapError (UpdateQueueError.ofUpdateLookup id)

/-- Resolve a queue. -/
def queue (store : UpdateQueueStore) (handle : UpdateQueueHandle) :
    Except UpdateQueueError UpdateQueue :=
  if handle.isNone then
    .error .emptyQueueHandle
  else
    match store.queues[handle.raw - 1]? with
    | some queue => .ok queue
    | none => .error (.invalidQueueHandle handle)

/-- Replace the content of one queue. -/
def changeQueue (store : UpdateQueueStore) (handle : UpdateQueueHandle)
    (change : UpdateQueue → UpdateQueue) : UpdateQueueStore :=
  { store with queues := store.queues.modify (handle.raw - 1) change }

/-- Assign one link. -/
def withNext (store : UpdateQueueStore) (id : UpdateId) (next : Option UpdateId) :
    UpdateQueueStore :=
  { store with updates := store.updates.withNext id next }

/-- Follow links to the end of a list or to a stop, for a number of rounds. -/
def follow (store : UpdateQueueStore) (stop : Option UpdateId) :
    Nat → Option UpdateId → List UpdateId → Except UpdateQueueError (List UpdateId)
  | _, none, ids => .ok ids
  | 0, some _, _ => .error .endlessList
  | rounds + 1, some id, ids =>
      if some id = stop then
        .ok ids
      else do
        let node ← store.update id
        store.follow stop rounds node.next (ids ++ [id])

/-- The members of the pending ring of a queue. -/
def pendingUpdates (store : UpdateQueueStore) (handle : UpdateQueueHandle) :
    Except UpdateQueueError (List UpdateId) := do
  match (← store.queue handle).shared.pending with
  | none => .ok []
  | some tail =>
      match (← store.update tail).next with
      | none => .error (.missingCircularNext tail)
      | some first =>
          let node ← store.update first
          store.follow (some first) (store.updates.slots.length + 1) node.next [first]

def baseUpdates (store : UpdateQueueStore) (handle : UpdateQueueHandle) :
    Except UpdateQueueError (List UpdateId) := do
  store.follow none (store.updates.slots.length + 1)
    (← store.queue handle).firstBaseUpdate []

end UpdateQueueStore

def setRootUpdateNext (id : UpdateId) (next : Option UpdateId) : UpdateQueueM Unit := do
  let _ ← query (·.update id)
  modify fun store => store.withNext id next

/-- Change a resolvable queue in place. -/
def modifyUpdateQueue (handle : UpdateQueueHandle) (change : UpdateQueue → UpdateQueue) :
    UpdateQueueM Unit := do
  let _ ← query (·.queue handle)
  modify fun store => store.changeQueue handle change

/-- Change the fields of a resolvable update other than its link. -/
def modifyRootUpdate (id : UpdateId) (change : RootUpdateData → RootUpdateData) :
    UpdateQueueM Unit := do
  let _ ← query (·.update id)
  modify fun store =>
    { store with updates := store.updates.modify id fun node =>
        { node with data := change node.data } }

def insertRootUpdate (update : RootUpdate) : UpdateQueueM UpdateId :=
  modifyGet fun store =>
    let (id, updates) := store.updates.insert update
    (id, { store with updates := updates })

def pushUpdateQueue (queue : UpdateQueue) : UpdateQueueM UpdateQueueHandle :=
  modifyGet fun store =>
    (⟨store.queues.length + 1⟩, { store with queues := store.queues ++ [queue] })

def initializeHostRootQueue (baseState : HostRootState) : UpdateQueueM UpdateQueueHandle :=
  pushUpdateQueue (UpdateQueue.new baseState)

def createRootUpdate (lane : Lane) : UpdateQueueM UpdateId :=
  insertRootUpdate (RootUpdate.new lane)

/-- Copy a queue by value, without its collected callbacks. -/
def cloneHostRootUpdateQueue (handle : UpdateQueueHandle) : UpdateQueueM UpdateQueueHandle := do
  let queue ← query (·.queue handle)
  pushUpdateQueue { queue with callbacks := [] }

/-- Link an update behind the tail of the pending ring. -/
def appendPendingRootUpdate (handle : UpdateQueueHandle) (update : UpdateId) :
    UpdateQueueM Unit := do
  let _ ← query (·.update update)
  match (← query (·.queue handle)).shared.pending with
  | some pending =>
      let first := (← query (·.update pending)).next
      setRootUpdateNext update first
      setRootUpdateNext pending (some update)
  | none => setRootUpdateNext update (some update)
  modifyUpdateQueue handle fun queue =>
    { queue with shared := { queue.shared with pending := some update } }

/-- Link a linear segment behind the base list of a queue. -/
def appendLinearSegmentToBaseQueue (handle : UpdateQueueHandle) (first last : UpdateId) :
    UpdateQueueM Unit := do
  match (← query (·.queue handle)).lastBaseUpdate with
  | some previousLast => setRootUpdateNext previousLast (some first)
  | none => modifyUpdateQueue handle fun queue => { queue with firstBaseUpdate := some first }
  modifyUpdateQueue handle fun queue => { queue with lastBaseUpdate := some last }

/-- Give the transferred segment to the current queue too, unless it is the queue
itself or already ends with it. -/
def transferToCurrentQueue (handle : UpdateQueueHandle) (currentQueue : Option UpdateQueueHandle)
    (first last : UpdateId) : UpdateQueueM Unit := do
  match currentQueue with
  | none => return
  | some current =>
      if current = handle then
        return
      if (← query (·.queue current)).shared.pending = some last then
        modifyUpdateQueue current fun queue =>
          { queue with shared := { queue.shared with pending := none } }
      if (← query (·.queue current)).lastBaseUpdate = some last then
        return
      appendLinearSegmentToBaseQueue current first last

/-- Cut the pending ring open and append it to the base list. -/
def transferPendingToBaseQueue (handle : UpdateQueueHandle)
    (currentQueue : Option UpdateQueueHandle) : UpdateQueueM Unit := do
  match (← query (·.queue handle)).shared.pending with
  | none => return
  | some lastPending =>
      modifyUpdateQueue handle fun queue =>
        { queue with shared := { queue.shared with pending := none } }
      match (← query (·.update lastPending)).next with
      | none => throw (.missingCircularNext lastPending)
      | some firstPending =>
          setRootUpdateNext lastPending none
          appendLinearSegmentToBaseQueue handle firstPending lastPending
          transferToCurrentQueue handle currentQueue firstPending lastPending

def applyRootUpdate (previous : HostRootState) (update : RootUpdateData) : HostRootState :=
  match update.tag with
  | .updateState | .captureUpdate =>
      match update.payload with
      | none => previous
      | some payload => previous.withElement payload.element
  | .replaceState =>
      match update.payload with
      | none => previous
      | some payload => HostRootState.client payload.element previous.formState
  | .forceUpdate => previous

/-- The local variables of the pass over the base list. -/
structure RootQueuePass where
  newState : HostRootState
  newBaseState : Option HostRootState
  newFirstBaseUpdate : Option UpdateId
  newLastBaseUpdate : Option UpdateId
  newLanes : Lanes
  appliedUpdateCount : Nat
  skippedUpdateCount : Nat

def RootQueuePass.start (baseState : HostRootState) : RootQueuePass where
  newState := baseState
  newBaseState := none
  newFirstBaseUpdate := none
  newLastBaseUpdate := none
  newLanes := Lanes.no
  appliedUpdateCount := 0
  skippedUpdateCount := 0

/-- Handle one update of the base list. -/
def processRootUpdate (handle : UpdateQueueHandle) (renderLanes rootRenderLanes : Lanes)
    (pass : RootQueuePass) (updateId : UpdateId) (original : RootUpdate) :
    UpdateQueueM RootQueuePass := do
  let updateLane := original.data.lane.removeLane Lane.offscreen
  let isHiddenUpdate := updateLane != original.data.lane
  let laneScope := if isHiddenUpdate then rootRenderLanes else renderLanes
  if !updateLane.isSubsetOf laneScope then
    let cloneId ← insertRootUpdate
      (RootUpdate.cloneWithLaneAndCallback original updateLane original.data.callback)
    let pass := { pass with
      newLanes := pass.newLanes.merge updateLane
      skippedUpdateCount := pass.skippedUpdateCount + 1 }
    match pass.newLastBaseUpdate with
    | none =>
        return { pass with
          newFirstBaseUpdate := some cloneId
          newBaseState := some pass.newState
          newLastBaseUpdate := some cloneId }
    | some last =>
        setRootUpdateNext last (some cloneId)
        return { pass with newLastBaseUpdate := some cloneId }
  else
    let pass ←
      match pass.newLastBaseUpdate with
      | none => pure pass
      | some last => do
          let cloneId ← insertRootUpdate
            (RootUpdate.cloneWithLaneAndCallback original Lanes.no .none)
          setRootUpdateNext last (some cloneId)
          pure { pass with newLastBaseUpdate := some cloneId }
    let pass := { pass with newState := applyRootUpdate pass.newState original.data }
    if original.data.callback.isSome then
      modifyUpdateQueue handle fun queue =>
        { queue with callbacks := queue.callbacks ++
          [{ update := updateId
             callback := original.data.callback
             hidden := isHiddenUpdate }] }
    return { pass with appliedUpdateCount := pass.appliedUpdateCount + 1 }

/-- The loop over the base list, for a number of rounds. -/
def processRootUpdates (handle : UpdateQueueHandle) (renderLanes rootRenderLanes : Lanes) :
    Nat → Option UpdateId → RootQueuePass → UpdateQueueM RootQueuePass
  | _, none, pass => pure pass
  | 0, some _, _ => throw .endlessList
  | rounds + 1, some updateId, pass => do
      let original ← query (·.update updateId)
      let pass ← processRootUpdate handle renderLanes rootRenderLanes pass updateId original
      match original.next with
      | some next => processRootUpdates handle renderLanes rootRenderLanes rounds (some next) pass
      | none =>
          -- A reducer may have queued more; the payloads here never do.
          transferPendingToBaseQueue handle none
          let node ← query (·.update updateId)
          processRootUpdates handle renderLanes rootRenderLanes rounds node.next pass

/-- Write the rebuilt base list back; an emptied queue has no lanes left. -/
def RootQueuePass.finish (pass : RootQueuePass) (queue : UpdateQueue) : UpdateQueue where
  baseState := pass.newBaseState.getD pass.newState
  firstBaseUpdate := pass.newFirstBaseUpdate
  lastBaseUpdate := pass.newLastBaseUpdate
  shared :=
    { queue.shared with
      lanes := if pass.newFirstBaseUpdate.isNone then Lanes.no else queue.shared.lanes }
  callbacks := queue.callbacks

/-- Run a render pass over a queue. -/
def processHostRootUpdateQueue (handle : UpdateQueueHandle)
    (currentQueue : Option UpdateQueueHandle) (renderLanes rootRenderLanes : Lanes) :
    UpdateQueueM ProcessUpdateQueueResult := do
  transferPendingToBaseQueue handle currentQueue
  let queue ← query (·.queue handle)
  let rounds := (← get).updates.slots.length
  let pass ← processRootUpdates handle renderLanes rootRenderLanes rounds
    queue.firstBaseUpdate (RootQueuePass.start queue.baseState)
  modifyUpdateQueue handle pass.finish
  return {
    memoizedState := pass.newState
    remainingLanes := pass.newLanes
    appliedUpdateCount := pass.appliedUpdateCount
    skippedUpdateCount := pass.skippedUpdateCount }

/-- Take the collected callbacks of a queue; the hidden ones stay deferred with it. -/
def takeRootUpdateCallbackRecords (handle : UpdateQueueHandle) :
    UpdateQueueM RootUpdateCallbackSnapshot := do
  let queue ← query (·.queue handle)
  modifyUpdateQueue handle fun queue =>
    { queue with
      callbacks := []
      shared :=
        { queue.shared with
          hiddenCallbacks :=
            queue.shared.hiddenCallbacks ++ queue.callbacks.filter (·.hidden) } }
  return {
    queue := handle
    visible := (queue.callbacks.zipIdx.filter fun entry => !entry.1.hidden).map
      fun entry => entry.1.intoRecord handle entry.2 .visible
    hidden := []
    deferredHidden := (queue.callbacks.zipIdx.filter fun entry => entry.1.hidden).map
      fun entry => entry.1.intoRecord handle entry.2 .deferredHidden }

end FastReact
