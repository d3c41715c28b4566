import FastReact.FunctionComponent
import FastReact.PassiveEffects
import FastReact.RingFamily
import FastReact.SearchedLists

namespace FastReact

open ErrorState FunctionComponent SearchedLists

/-!
# Effects of function components

Rendering an effect hook appends a node to the ring of the work-in-progress list; an update
also records the node in the update queue of that list.  The metadata of the layout and the
passive effects is read from the ring or the update queue, and again from the queue that a
commit builds of them.
-/

structure HookEffectFlags where
  bits : BitVec 8
deriving DecidableEq

namespace HookEffectFlags

def no : HookEffectFlags := ⟨0⟩
def hasEffect : HookEffectFlags := ⟨1 <<< 0⟩
def insertion : HookEffectFlags := ⟨1 <<< 1⟩
def layout : HookEffectFlags := ⟨1 <<< 2⟩
def passive : HookEffectFlags := ⟨1 <<< 3⟩

def merge (flags other : HookEffectFlags) : HookEffectFlags := ⟨flags.bits ||| other.bits⟩
def containsAny (flags other : HookEffectFlags) : Bool := flags.bits &&& other.bits != 0
def containsAll (flags subset : HookEffectFlags) : Bool :=
  flags.bits &&& subset.bits == subset.bits

def layoutEffect : HookEffectFlags := hasEffect.merge layout
def passiveEffect : HookEffectFlags := hasEffect.merge passive

def shouldFire (flags : HookEffectFlags) : Bool := flags.containsAll hasEffect
def firesInLayout (flags : HookEffectFlags) : Bool :=
  flags.shouldFire && flags.containsAll layout
def firesInPassive (flags : HookEffectFlags) : Bool :=
  flags.shouldFire && flags.containsAll passive

end HookEffectFlags

namespace FiberFlags

def passive : FiberFlags := ⟨1 <<< 11⟩
def layoutStatic : FiberFlags := ⟨1 <<< 22⟩
def passiveStatic : FiberFlags := ⟨1 <<< 23⟩
def isNonEmpty (flags : FiberFlags) : Bool := flags.bits != 0

end FiberFlags

namespace FunctionEffects

open PassiveEffects (HookEffectCallbackHandle HookEffectInstance HookEffectInstanceId)

inductive DependenciesTag

abbrev DependenciesHandle := OpaqueHandle DependenciesTag
abbrev HookEffectId := Handle HookEffectTag

inductive HookEffectDependencies where
  | alwaysRun
  | array (handle : DependenciesHandle)
deriving DecidableEq

def HookEffectDependencies.isAlwaysRun (dependencies : HookEffectDependencies) : Bool :=
  dependencies = .alwaysRun

inductive FunctionComponentEffectPhase where
  | insertion
  | layout
  | passive
deriving DecidableEq

namespace FunctionComponentEffectPhase

def hookFlags : FunctionComponentEffectPhase → HookEffectFlags
  | .insertion => .insertion
  | .layout => .layout
  | .passive => .passive

def mountFiberFlags : FunctionComponentEffectPhase → FiberFlags
  | .insertion => .update
  | .layout => FiberFlags.update.merge .layoutStatic
  | .passive => FiberFlags.passive.merge .passiveStatic

def updateFiberFlags : FunctionComponentEffectPhase → FiberFlags
  | .insertion | .layout => .update
  | .passive => .passive

def fromFlags (tag : HookEffectFlags) : FunctionComponentEffectPhase :=
  if tag.containsAny .insertion then
    .insertion
  else if tag.containsAny .layout then
    .layout
  else
    .passive

end FunctionComponentEffectPhase

inductive FunctionComponentEffectDependencyStatus where
  | changed
  | unchanged
deriving DecidableEq

def FunctionComponentEffectDependencyStatus.shouldRegisterHasEffect
    (status : FunctionComponentEffectDependencyStatus) : Bool :=
  status = .changed

def effectDependencyStatus (previous next : HookEffectDependencies) :
    FunctionComponentEffectDependencyStatus :=
  if next.isAlwaysRun ∨ previous ≠ next then .changed else .unchanged

/-- An effect without its link. -/
structure HookEffect where
  tag : HookEffectFlags
  effectInstance : HookEffectInstanceId
  create : HookEffectCallbackHandle
  dependencies : HookEffectDependencies
deriving DecidableEq

inductive HookEffectArenaError where
  | effectInstance (error : PassiveEffects.HookEffectArenaError)
  | invalidEffectSlot (slot : Nat)
  | staleEffectGeneration (id : HookEffectId) (currentGeneration : Nat)
  | vacantEffectSlot (id : HookEffectId)
  | corruptEffectRing (first repeated : HookEffectId)
deriving DecidableEq

/-- The error of an effect that does not resolve. -/
def HookEffectArenaError.ofLookup (id : HookEffectId) : LookupError → HookEffectArenaError
  | .outOfRange => .invalidEffectSlot id.slot
  | .stale currentGeneration => .staleEffectGeneration id currentGeneration
  | .vacant => .vacantEffectSlot id

/-- The effects of all rings beside the instances they share from render to render. -/
structure HookEffectArena extends PassiveEffects.HookEffectArena where
  effects : LinkedArena HookEffectTag HookEffect

/-- A ring is found by its last effect, which is linked to the first one. -/
structure HookEffectRing where
  lastEffect : Option HookEffectId
deriving DecidableEq

namespace HookEffectArena

def new (arenaId : PassiveEffects.HookEffectArenaId) : HookEffectArena where
  arenaId := arenaId
  instances := SlotArena.empty
  effects := SlotArena.empty

def getEffect (arena : HookEffectArena) (id : HookEffectId) :
    Except HookEffectArenaError (Node HookEffectTag HookEffect) :=
  (arena.effects.find id).mapError (.ofLookup id)

def effectInstance (arena : HookEffectArena) (id : HookEffectInstanceId) :
    Except HookEffectArenaError HookEffectInstance :=
  (arena.getInstance id).mapError .effectInstance

/-- The destroy that the last create of an effect returned. -/
def effectDestroy (arena : HookEffectArena) (id : HookEffectId) :
    Except HookEffectArenaError (Option HookEffectCallbackHandle) := do
  let effect ← arena.getEffect id
  return (← arena.effectInstance effect.data.effectInstance).destroy

def effectLen (arena : HookEffectArena) : Nat :=
  arena.effects.handles.length

def createEffectInstance (arena : HookEffectArena) : HookEffectInstanceId × HookEffectArena :=
  let (handle, instances) := arena.instances.insert { destroy := none }
  (⟨arena.arenaId, handle⟩, { arena with instances := instances })

def setDestroy (arena : HookEffectArena) (id : HookEffectInstanceId)
    (destroy : Option HookEffectCallbackHandle) : HookEffectArena :=
  { arena with instances := arena.instances.modify id.handle fun _ => { destroy := destroy } }

def firstEffect (arena : HookEffectArena) (ring : HookEffectRing) :
    Except HookEffectArenaError (Option HookEffectId) :=
  match ring.lastEffect with
  | none => .ok none
  | some last => do
      let first := (← arena.getEffect last).next
      match first with
      | none => .ok none
      | some first =>
          let _ ← arena.getEffect first
          .ok (some first)

/-- Link a new effect behind the last one of a ring, or to itself when it is the only one. -/
def pushEffect (arena : HookEffectArena) (ring : HookEffectRing) (effect : HookEffect) :
    Except HookEffectArenaError (HookEffectId × HookEffectArena) := do
  let _ ← arena.effectInstance effect.effectInstance
  let first ← arena.firstEffect ring
  let (id, effects) := arena.effects.insert { data := effect, next := none }
  let linked := LinkedArena.withNext effects id (some (first.getD id))
  return (id,
    { arena with
      effects := ring.lastEffect.elim linked (LinkedArena.withNext linked · (some id)) })

end HookEffectArena

structure FunctionComponentEffectRingBinding where
  list : HookListId
  ring : HookEffectRing
deriving DecidableEq

structure FunctionComponentPendingEffectQueueBinding where
  fiber : FiberId
  state : FunctionComponentHookRenderState
deriving DecidableEq

/-- What rendering an effect hook reports. -/
structure FunctionComponentEffectRegistration where
  hook : HookSlotId
  effect : HookEffectId
  effectInstance : HookEffectInstanceId
  phase : FunctionComponentEffectPhase
  tag : HookEffectFlags
  create : HookEffectCallbackHandle
  dependencies : HookEffectDependencies
  fiberFlags : FiberFlags
deriving DecidableEq

structure FunctionComponentPassiveEffectMetadata where
  fiber : FiberId
  renderPhase : FunctionComponentHookRenderPhase
  hookList : HookListId
  effectIndex : Nat
  effect : HookEffectId
  previousEffect : Option HookEffectId
  effectInstance : HookEffectInstanceId
  tag : HookEffectFlags
  create : HookEffectCallbackHandle
  destroy : Option HookEffectCallbackHandle
  dependencies : HookEffectDependencies
  lanes : Lanes
deriving DecidableEq

structure FunctionComponentLayoutEffectMetadata where
  fiber : FiberId
  renderPhase : FunctionComponentHookRenderPhase
  hookList : HookListId
  effectIndex : Nat
  effect : HookEffectId
  previousEffect : Option HookEffectId
  effectInstance : HookEffectInstanceId
  tag : HookEffectFlags
  create : HookEffectCallbackHandle
  destroy : Option HookEffectCallbackHandle
  previousDependencies : Option HookEffectDependencies
  dependencies : HookEffectDependencies
  dependencyStatus : Option FunctionComponentEffectDependencyStatus
  lanes : Lanes
deriving DecidableEq

structure FunctionComponentEffectUpdateQueueRecord where
  updateIndex : Nat
  fiber : FiberId
  hookList : HookListId
  hook : HookSlotId
  previousEffect : HookEffectId
  effect : HookEffectId
  effectInstance : HookEffectInstanceId
  phase : FunctionComponentEffectPhase
  tag : HookEffectFlags
  create : HookEffectCallbackHandle
  destroy : Option HookEffectCallbackHandle
  previousDependencies : HookEffectDependencies
  dependencies : HookEffectDependencies
  dependencyStatus : FunctionComponentEffectDependencyStatus
deriving DecidableEq

structure FunctionComponentEffectUpdateQueue where
  hookList : HookListId
  records : List FunctionComponentEffectUpdateQueueRecord
deriving DecidableEq

structure FunctionComponentCommittedEffectRecord where
  effectIndex : Nat
  hookList : HookListId
  effect : HookEffectId
  previousEffect : Option HookEffectId
  effectInstance : HookEffectInstanceId
  phase : FunctionComponentEffectPhase
  tag : HookEffectFlags
  create : HookEffectCallbackHandle
  destroy : Option HookEffectCallbackHandle
  previousDependencies : Option HookEffectDependencies
  dependencies : HookEffectDependencies
  dependencyStatus : Option FunctionComponentEffectDependencyStatus
  lanes : Lanes
deriving DecidableEq

structure FunctionComponentCommittedEffectQueue where
  fiber : FiberId
  phase : FunctionComponentHookRenderPhase
  hookList : HookListId
  lanes : Lanes
  records : List FunctionComponentCommittedEffectRecord
deriving DecidableEq

namespace FunctionComponentEffectUpdateQueueRecord

def acceptedForPendingPassive (record : FunctionComponentEffectUpdateQueueRecord) : Bool :=
  record.phase = .passive && record.tag.firesInPassive

def acceptedForLayoutCommit (record : FunctionComponentEffectUpdateQueueRecord) : Bool :=
  record.phase = .layout && record.tag.firesInLayout

end FunctionComponentEffectUpdateQueueRecord

/-- A record is numbered by those that are queued before it. -/
def FunctionComponentEffectUpdateQueue.push (queue : FunctionComponentEffectUpdateQueue)
    (record : FunctionComponentEffectUpdateQueueRecord) : FunctionComponentEffectUpdateQueue :=
  { queue with
    records := queue.records ++ [{ record with updateIndex := queue.records.length }] }

namespace FunctionComponentCommittedEffectQueue

/-- The passive effects with the marks, numbered one after another. -/
def passiveEffectMetadata (queue : FunctionComponentCommittedEffectQueue)
    (flags : HookEffectFlags) : List FunctionComponentPassiveEffectMetadata :=
  if queue.lanes.isEmpty then
    []
  else
    (queue.records.filter fun record =>
        record.phase = .passive && record.tag.containsAll flags).mapIdx fun index record =>
      { fiber := queue.fiber
        renderPhase := queue.phase
        hookList := record.hookList
        effectIndex := index
        effect := record.effect
        previousEffect := record.previousEffect
        effectInstance := record.effectInstance
        tag := record.tag
        create := record.create
        destroy := record.destroy
        dependencies := record.dependencies
        lanes := queue.lanes }

/-- The layout effects with the marks, numbered as their records are. -/
def layoutEffectMetadata (queue : FunctionComponentCommittedEffectQueue)
    (flags : HookEffectFlags) : List FunctionComponentLayoutEffectMetadata :=
  if queue.lanes.isEmpty then
    []
  else
    (queue.records.filter fun record =>
        record.phase = .layout && record.tag.containsAll flags).map fun record =>
      { fiber := queue.fiber
        renderPhase := queue.phase
        hookList := record.hookList
        effectIndex := record.effectIndex
        effect := record.effect
        previousEffect := record.previousEffect
        effectInstance := record.effectInstance
        tag := record.tag
        create := record.create
        destroy := record.destroy
        previousDependencies := record.previousDependencies
        dependencies := record.dependencies
        dependencyStatus := record.dependencyStatus
        lanes := queue.lanes }

end FunctionComponentCommittedEffectQueue

/-- The position of a mount traversal. -/
structure HookListMountCursor where
  list : HookListId
  appended : Nat
deriving DecidableEq

/-- A traversal with the render state it was begun with, whose phase is its own. -/
inductive FunctionComponentHookRenderCursor where
  | mount (state : FunctionComponentHookRenderState) (mounts : state.phase = .mount)
      (cursor : HookListMountCursor)
  | update (state : FunctionComponentHookRenderState) (updates : state.phase = .update)
      (cursor : HookListUpdateCursor)
deriving DecidableEq

def FunctionComponentHookRenderCursor.state :
    FunctionComponentHookRenderCursor → FunctionComponentHookRenderState
  | .mount state _ _ | .update state _ _ => state

inductive FunctionComponentEffectRenderError (State : Type) where
  | hook (error : FunctionComponentRenderError State Empty)
  | hookEffect (fiber : FiberId) (error : HookEffectArenaError)
  | fiberTopology (error : FiberTopologyError)
  | mountListNotEmpty (fiber : FiberId) (list : HookListId)
  | expectedEffectHookPayload (fiber : FiberId) (hook : HookSlotId)

structure EffectRenderWorld (State Action : Type) where
  hooks : FunctionComponentHookRenderStore State Action
  hookEffects : HookEffectArena
  effectRings : List FunctionComponentEffectRingBinding
  effectUpdateQueues : List FunctionComponentEffectUpdateQueue
  pendingEffectQueues : List FunctionComponentPendingEffectQueueBinding
  committedEffectQueues : List FunctionComponentCommittedEffectQueue
  fibers : FiberArena

variable {State Action α : Type}

abbrev EffectRenderM (State Action : Type) :=
  EStateM (FunctionComponentEffectRenderError State) (EffectRenderWorld State Action)

namespace EffectRenderWorld

def new (arenaId : PassiveEffects.HookEffectArenaId) (fibers : FiberArena) :
    EffectRenderWorld State Action where
  hooks := .new
  hookEffects := .new arenaId
  effectRings := []
  effectUpdateQueues := []
  pendingEffectQueues := []
  committedEffectQueues := []
  fibers := fibers

variable (world : EffectRenderWorld State Action)

def effectRing (list : HookListId) : Option HookEffectRing :=
  (world.effectRings.find? fun binding => binding.list = list).map (·.ring)

def effectUpdateQueue (list : HookListId) : Option FunctionComponentEffectUpdateQueue :=
  world.effectUpdateQueues.find? fun queue => queue.hookList = list

def checkList (state : FunctionComponentHookRenderState) :
    Except (FunctionComponentEffectRenderError State) Unit := do
  let _ ← (world.hooks.list state.renderFiber state.workInProgressList).mapError .hook

def effectUpdateQueueRecords (state : FunctionComponentHookRenderState) :
    Except (FunctionComponentEffectRenderError State)
      (List FunctionComponentEffectUpdateQueueRecord) := do
  world.checkList state
  return (world.effectUpdateQueue state.workInProgressList).elim []
    FunctionComponentEffectUpdateQueue.records

/-- The record of an effect, when it has the marks. -/
def recordOfEffect (fiber : FiberId) (flags : HookEffectFlags)
    (record : Nat → HookEffectId → HookEffect → Option HookEffectCallbackHandle → α)
    (index : Nat) (id : HookEffectId) (effect : HookEffect) :
    Except (FunctionComponentEffectRenderError State) (List α) :=
  if effect.tag.containsAll flags then do
    let destroy ← (world.hookEffects.effectDestroy id).mapError (.hookEffect fiber)
    return [record index id effect destroy]
  else
    .ok []

/-- Go round a ring from one of its effects on and make a record of each effect with the
marks and its number among these; the remaining rounds are as many as there are effects. -/
def ringRecordsLoop (fiber : FiberId) (flags : HookEffectFlags) (first : HookEffectId)
    (record : Nat → HookEffectId → HookEffect → Option HookEffectCallbackHandle → α) :
    Nat → Nat → HookEffectId → Except (FunctionComponentEffectRenderError State) (List α)
  | 0, _, id => .error (.hookEffect fiber (.corruptEffectRing first id))
  | remaining + 1, index, id => do
      let effect ← (world.hookEffects.getEffect id).mapError (.hookEffect fiber)
      let records ← world.recordOfEffect fiber flags record index id effect.data
      let later ← effect.next.elim (.ok []) fun next =>
        if next = first then
          .ok []
        else
          ringRecordsLoop fiber flags first record remaining (index + records.length) next
      return records ++ later

def ringRecords (state : FunctionComponentHookRenderState) (flags : HookEffectFlags)
    (record : Nat → HookEffectId → HookEffect → Option HookEffectCallbackHandle → α) :
    Except (FunctionComponentEffectRenderError State) (List α) :=
  match world.effectRing state.workInProgressList with
  | none => .ok []
  | some ring => do
      let first ← (world.hookEffects.firstEffect ring).mapError (.hookEffect state.renderFiber)
      first.elim (.ok []) fun first =>
        world.ringRecordsLoop state.renderFiber flags first record
          world.hookEffects.effectLen 0 first

def layoutEffectMetadataFromUpdateQueue (state : FunctionComponentHookRenderState) (lanes : Lanes) :
    Except (FunctionComponentEffectRenderError State)
      (List FunctionComponentLayoutEffectMetadata) := do
  let records ← world.effectUpdateQueueRecords state
  return (records.filter (·.acceptedForLayoutCommit)).mapIdx fun index record =>
    { fiber := record.fiber
      renderPhase := state.phase
      hookList := record.hookList
      effectIndex := index
      effect := record.effect
      previousEffect := some record.previousEffect
      effectInstance := record.effectInstance
      tag := record.tag
      create := record.create
      destroy := record.destroy
      previousDependencies := some record.previousDependencies
      dependencies := record.dependencies
      dependencyStatus := some record.dependencyStatus
      lanes := lanes }

def layoutEffectMetadata (state : FunctionComponentHookRenderState) (lanes : Lanes) :
    Except (FunctionComponentEffectRenderError State)
      (List FunctionComponentLayoutEffectMetadata) :=
  if lanes.isEmpty then
    .ok []
  else do
    world.checkList state
    if state.phase = .update then
      world.layoutEffectMetadataFromUpdateQueue state lanes
    else
      world.ringRecords state .layoutEffect fun index id effect destroy =>
        { fiber := state.renderFiber
          renderPhase := state.phase
          hookList := state.workInProgressList
          effectIndex := index
          effect := id
          previousEffect := none
          effectInstance := effect.effectInstance
          tag := effect.tag
          create := effect.create
          destroy := destroy
          previousDependencies := none
          dependencies := effect.dependencies
          dependencyStatus := none
          lanes := lanes }

def passiveEffectMetadataFromUpdateQueue (state : FunctionComponentHookRenderState)
    (lanes : Lanes) :
    Except (FunctionComponentEffectRenderError State)
      (List FunctionComponentPassiveEffectMetadata) := do
  let records ← world.effectUpdateQueueRecords state
  return (records.filter (·.acceptedForPendingPassive)).mapIdx fun index record =>
    { fiber := record.fiber
      renderPhase := state.phase
      hookList := record.hookList
      effectIndex := index
      effect := record.effect
      previousEffect := some record.previousEffect
      effectInstance := record.effectInstance
      tag := record.tag
      create := record.create
      destroy := record.destroy
      dependencies := record.dependencies
      lanes := lanes }

def passiveEffectMetadata (state : FunctionComponentHookRenderState) (lanes : Lanes) :
    Except (FunctionComponentEffectRenderError State)
      (List FunctionComponentPassiveEffectMetadata) :=
  if lanes.isEmpty then
    .ok []
  else do
    world.checkList state
    if state.phase = .update then
      world.passiveEffectMetadataFromUpdateQueue state lanes
    else
      world.ringRecords state .passiveEffect fun index id effect destroy =>
        { fiber := state.renderFiber
          renderPhase := state.phase
          hookList := state.workInProgressList
          effectIndex := index
          effect := id
          previousEffect := none
          effectInstance := effect.effectInstance
          tag := effect.tag
          create := effect.create
          destroy := destroy
          dependencies := effect.dependencies
          lanes := lanes }

def committedRingRecords (state : FunctionComponentHookRenderState) (lanes : Lanes) :
    Except (FunctionComponentEffectRenderError State)
      (List FunctionComponentCommittedEffectRecord) :=
  world.ringRecords state .no fun index id effect destroy =>
    { effectIndex := index
      hookList := state.workInProgressList
      effect := id
      previousEffect := none
      effectInstance := effect.effectInstance
      phase := .fromFlags effect.tag
      tag := effect.tag
      create := effect.create
      destroy := destroy
      previousDependencies := none
      dependencies := effect.dependencies
      dependencyStatus := none
      lanes := lanes }

def committedEffectRecordsForRenderState (state : FunctionComponentHookRenderState)
    (lanes : Lanes) :
    Except (FunctionComponentEffectRenderError State)
      (List FunctionComponentCommittedEffectRecord) := do
  world.checkList state
  if state.phase = .update then
    let updateRecords ← world.effectUpdateQueueRecords state
    if updateRecords.isEmpty then
      world.committedRingRecords state lanes
    else
      return updateRecords.map fun record =>
        { effectIndex := record.updateIndex
          hookList := record.hookList
          effect := record.effect
          previousEffect := some record.previousEffect
          effectInstance := record.effectInstance
          phase := record.phase
          tag := record.tag
          create := record.create
          destroy := record.destroy
          previousDependencies := some record.previousDependencies
          dependencies := record.dependencies
          dependencyStatus := some record.dependencyStatus
          lanes := lanes }
  else
    world.committedRingRecords state lanes

def effectOfHook (state : FunctionComponentHookRenderState) (hook : HookSlotId) :
    Except (FunctionComponentEffectRenderError State) HookEffectId := do
  let entry ← (world.hooks.list state.renderFiber hook.list).mapError .hook
  match entry.hooks[hook.index]? with
  | none => .error (.hook (.hookList state.renderFiber (.invalidHookSlot hook)))
  | some (.effect effect) => .ok ⟨effect.raw, 0⟩
  | some _ => .error (.expectedEffectHookPayload state.renderFiber hook)

end EffectRenderWorld

open EffectRenderWorld

/-- What a hook with an effect holds.  Effects are never freed, so that the slot names an
effect and its generation is the first one. -/
def effectPayload (effect : HookEffectId) : HookSlotPayload State :=
  .effect ⟨effect.slot⟩

def onHooks (body : HookRenderM State Action Empty α) : EffectRenderM State Action α :=
  focus (·.hooks) (fun hooks world => { world with hooks := hooks }) (mapError .hook body)

def onFibers (body : FiberArenaM α) : EffectRenderM State Action α :=
  focus (·.fibers) (fun fibers world => { world with fibers := fibers })
    (mapError .fiberTopology body)

/-- The work-in-progress list of a fiber is the one its effects are committed from. -/
def recordPendingEffectQueueState (state : FunctionComponentHookRenderState) :
    EffectRenderM State Action Unit :=
  modify fun world =>
    let queues := world.pendingEffectQueues
    let queues := changeFirst (·.fiber = state.renderFiber)
      { fiber := state.renderFiber, state := state }
      (fun binding => { binding with state := state }) queues
    { world with pendingEffectQueues := queues }

def prepareRenderState (workInProgress : FiberId) :
    EffectRenderM State Action FunctionComponentHookRenderState := do
  let fiber ← onFibers (query (·.get workInProgress))
  let state ← onHooks (FastReact.prepareRenderState fiber.alternate workInProgress)
  recordPendingEffectQueueState state
  return state

def beginRenderCursor (state : FunctionComponentHookRenderState) :
    EffectRenderM State Action FunctionComponentHookRenderCursor := do
  match shape : state.phase with
  | .mount =>
      let entry ← onHooks (query (·.list state.renderFiber state.workInProgressList))
      if entry.hooks ≠ [] then
        throw (.mountListNotEmpty state.renderFiber state.workInProgressList)
      return .mount state shape { list := state.workInProgressList, appended := 0 }
  | .update =>
      let cursor ← onHooks (beginUpdate state)
      return .update state shape cursor

def ensureMountCursorReady (state : FunctionComponentHookRenderState)
    (cursor : HookListMountCursor) : HookRenderM State Action Empty Unit := do
  let list ← query (·.list state.renderFiber cursor.list)
  if list.hooks.length ≠ cursor.appended then
    throw (.hookList state.renderFiber
      (.traversalCursorOutOfSync cursor.list cursor.appended list.hooks.length))

/-- Append a hook that a mount asks for. -/
def mountHook (state : FunctionComponentHookRenderState) (cursor : HookListMountCursor)
    (payload : HookSlotPayload State) :
    HookRenderM State Action Empty (HookSlotId × HookListMountCursor) := do
  ensureMountCursorReady state cursor
  let hook ← appendHook state.renderFiber cursor.list payload
  return (hook, { cursor with appended := cursor.appended + 1 })

def createEffectInstance : EffectRenderM State Action HookEffectInstanceId :=
  modifyGet fun world =>
    let (effectInstance, hookEffects) := world.hookEffects.createEffectInstance
    (effectInstance, { world with hookEffects := hookEffects })

def ensureEffectRing (list : HookListId) : EffectRenderM State Action Unit :=
  modify fun world =>
    let rings := world.effectRings
    let rings := changeFirst (·.list = list)
      { list := list, ring := { lastEffect := none } } id rings
    { world with effectRings := rings }

/-- The ring of a list ends with another effect now. -/
def setLastEffect (list : HookListId) (effect : HookEffectId) : EffectRenderM State Action Unit :=
  modify fun world =>
    let rings := world.effectRings
    let rings := changeFirst (·.list = list)
      { list := list, ring := { lastEffect := none } }
      (fun binding => { binding with ring := { lastEffect := some effect } }) rings
    { world with effectRings := rings }

def pushEffectForList (state : FunctionComponentHookRenderState) (effect : HookEffect) :
    EffectRenderM State Action HookEffectId := do
  query (·.checkList state)
  ensureEffectRing state.workInProgressList
  let ring := ((← get).effectRing state.workInProgressList).getD { lastEffect := none }
  let pushed ← query fun world =>
    (world.hookEffects.pushEffect ring effect).mapError (.hookEffect state.renderFiber)
  modify fun world => { world with hookEffects := pushed.2 }
  setLastEffect state.workInProgressList pushed.1
  return pushed.1

def pushEffectUpdateQueueRecord (record : FunctionComponentEffectUpdateQueueRecord) :
    EffectRenderM State Action Unit :=
  modify fun world =>
    let queues := world.effectUpdateQueues
    let queues := changeFirst (·.hookList = record.hookList)
      { hookList := record.hookList, records := [] } (·.push record) queues
    { world with effectUpdateQueues := queues }

def mergeFiberFlags (fiber : FiberId) (flags : FiberFlags) : EffectRenderM State Action Unit :=
  onFibers (modifyFiber fiber (·.mergeFlags flags))

/-- Flags that ask for nothing are not merged. -/
def mergeNonEmptyFiberFlags (fiber : FiberId) (flags : FiberFlags) :
    EffectRenderM State Action Unit :=
  if flags.isNonEmpty then mergeFiberFlags fiber flags else pure ()

def mountEffectMetadata (cursor : FunctionComponentHookRenderCursor)
    (phase : FunctionComponentEffectPhase) (create : HookEffectCallbackHandle)
    (dependencies : HookEffectDependencies) :
    EffectRenderM State Action
      (FunctionComponentEffectRegistration × FunctionComponentHookRenderCursor) := do
  match cursor with
  | .update state _ _ => throw (.hook (.hookCursorPhaseMismatch state.renderFiber .mount .update))
  | .mount state mounts cursor =>
      onHooks (ensureMountCursorReady state cursor)
      let tag := HookEffectFlags.hasEffect.merge phase.hookFlags
      let effectInstance ← createEffectInstance
      let effect ← pushEffectForList state
        { tag := tag
          effectInstance := effectInstance
          create := create
          dependencies := dependencies }
      let mounted ← onHooks (mountHook state cursor (effectPayload effect))
      mergeFiberFlags state.renderFiber phase.mountFiberFlags
      return (
        { hook := mounted.1
          effect := effect
          effectInstance := effectInstance
          phase := phase
          tag := tag
          create := create
          dependencies := dependencies
          fiberFlags := phase.mountFiberFlags },
        .mount state mounts mounted.2)

def updateEffectMetadata (cursor : FunctionComponentHookRenderCursor)
    (phase : FunctionComponentEffectPhase) (create : HookEffectCallbackHandle)
    (dependencies : HookEffectDependencies)
    (dependencyStatus : FunctionComponentEffectDependencyStatus) :
    EffectRenderM State Action
      (FunctionComponentEffectRegistration × FunctionComponentHookRenderCursor) := do
  match cursor with
  | .mount state _ _ => throw (.hook (.hookCursorPhaseMismatch state.renderFiber .update .mount))
  | .update state updates cursor =>
      let updated ← onHooks (updateHook state.renderFiber cursor)
      let previousEffect ← query (·.effectOfHook state updated.1)
      let previous ← query fun world =>
        (world.hookEffects.getEffect previousEffect).mapError (.hookEffect state.renderFiber)
      let destroy ← query fun world =>
        (world.hookEffects.effectDestroy previousEffect).mapError (.hookEffect state.renderFiber)
      let shouldFire :=
        dependencies.isAlwaysRun || dependencyStatus.shouldRegisterHasEffect
      let tag :=
        if shouldFire then HookEffectFlags.hasEffect.merge phase.hookFlags else phase.hookFlags
      let effect ← pushEffectForList state
        { tag := tag
          effectInstance := previous.data.effectInstance
          create := create
          dependencies := dependencies }
      onHooks (setHookPayload state.renderFiber updated.1 (effectPayload effect))
      let fiberFlags := if shouldFire then phase.updateFiberFlags else FiberFlags.no
      mergeNonEmptyFiberFlags state.renderFiber fiberFlags
      pushEffectUpdateQueueRecord
        { updateIndex := 0
          fiber := state.renderFiber
          hookList := state.workInProgressList
          hook := updated.1
          previousEffect := previousEffect
          effect := effect
          effectInstance := previous.data.effectInstance
          phase := phase
          tag := tag
          create := create
          destroy := destroy
          previousDependencies := previous.data.dependencies
          dependencies := dependencies
          dependencyStatus := dependencyStatus }
      return (
        { hook := updated.1
          effect := effect
          effectInstance := previous.data.effectInstance
          phase := phase
          tag := tag
          create := create
          dependencies := dependencies
          fiberFlags := fiberFlags },
        .update state updates updated.2)

def nextCurrentHookForUpdateCursor :
    FunctionComponentHookRenderCursor →
      Except (FunctionComponentEffectRenderError State) HookSlotId
  | .mount state _ _ => .error (.hook (.hookCursorPhaseMismatch state.renderFiber .update .mount))
  | .update state _ cursor =>
      if cursor.consumed < cursor.expectedCount then
        .ok ⟨cursor.currentList, cursor.consumed⟩
      else
        .error (.hook (.hookList state.renderFiber
          (.renderedMoreHooksThanPreviousRender cursor.currentList cursor.workInProgressList
            cursor.consumed)))

def effectDependencyStatusForUpdateCursor (world : EffectRenderWorld State Action)
    (cursor : FunctionComponentHookRenderCursor) (dependencies : HookEffectDependencies) :
    Except (FunctionComponentEffectRenderError State) FunctionComponentEffectDependencyStatus := do
  let previousHook ← nextCurrentHookForUpdateCursor cursor
  let previousEffect ← world.effectOfHook cursor.state previousHook
  let previous ←
    (world.hookEffects.getEffect previousEffect).mapError (.hookEffect cursor.state.renderFiber)
  return effectDependencyStatus previous.data.dependencies dependencies

def updateEffectMetadataWithDependencyCheck (cursor : FunctionComponentHookRenderCursor)
    (phase : FunctionComponentEffectPhase) (create : HookEffectCallbackHandle)
    (dependencies : HookEffectDependencies) :
    EffectRenderM State Action
      (FunctionComponentEffectRegistration × FunctionComponentHookRenderCursor) := do
  let dependencyStatus ← query (effectDependencyStatusForUpdateCursor · cursor dependencies)
  updateEffectMetadata cursor phase create dependencies dependencyStatus

def recordCommittedEffectQueue (queue : FunctionComponentCommittedEffectQueue) :
    EffectRenderM State Action Unit :=
  modify fun world =>
    let queues := world.committedEffectQueues
    let queues := changeFirst (·.fiber = queue.fiber) queue (fun _ => queue) queues
    { world with committedEffectQueues := queues }

def commitEffectQueueForRenderState (state : FunctionComponentHookRenderState) (lanes : Lanes) :
    EffectRenderM State Action FunctionComponentCommittedEffectQueue := do
  let records ← query (·.committedEffectRecordsForRenderState state lanes)
  let queue : FunctionComponentCommittedEffectQueue :=
    { fiber := state.renderFiber
      phase := state.phase
      hookList := state.workInProgressList
      lanes := lanes
      records := records }
  onHooks (bindCurrentListUnchecked state.renderFiber state.workInProgressList)
  recordCommittedEffectQueue queue
  return queue

def commitPendingEffectQueueForFiber (fiber : FiberId) (lanes : Lanes) :
    EffectRenderM State Action (Option FunctionComponentCommittedEffectQueue) := do
  match (← get).pendingEffectQueues.find? fun binding => binding.fiber = fiber with
  | none => return none
  | some binding =>
      let queue ← commitEffectQueueForRenderState binding.state lanes
      modify fun world =>
        let queues := world.pendingEffectQueues.filter fun binding => binding.fiber ≠ fiber
        { world with pendingEffectQueues := queues }
      return some queue

end FunctionEffects

end FastReact
