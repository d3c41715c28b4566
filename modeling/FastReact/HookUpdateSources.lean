import FastReact.HookListArena
import FastReact.HookStateQueueOperations

namespace FastReact

open ErrorState HookListArena

/-!
# Updates with a source

An update may be created for a hook of a list, and then the store keeps which hook and
which queue it came from until the staged update is appended.  Finishing with these
checks appends an update only while its hook still has the same queue and base queue, and
marks the source of every appended update as consumed.
-/

variable {State Action ReducerId DispatchId OwnerId : Type}

structure HookStateQueueSource where
  list : HookListId
  hook : HookSlotId
  queue : HookQueueId
  baseQueue : Option HookUpdateId
  isSourceOwned : Bool
deriving DecidableEq

def HookStateQueueSource.sourceOwned (list : HookListId) (hook : HookSlotId)
    (payload : HookStatePayload) : HookStateQueueSource where
  list := list
  hook := hook
  queue := payload.queue
  baseQueue := payload.baseQueue
  isSourceOwned := true

inductive HookStateQueueSourceError where
  | hookList (error : HookListError)
  | callerShapedStateQueueSource (hook : HookSlotId) (queue : HookQueueId)
  | hookSlotPayloadNotState (hook : HookSlotId)
  | stateQueueSourceMismatch (hook : HookSlotId) (expectedQueue actualQueue : HookQueueId)
      (expectedBaseQueue actualBaseQueue : Option HookUpdateId)
deriving DecidableEq

namespace HookListArena

def HookSlotPayload.statePayload : HookSlotPayload → Option HookStatePayload
  | .state payload => some payload
  | _ => none

/-- Check that the hook of a source still has its queue and base queue. -/
def validateStateQueueSource (arena : HookListArena) (source : HookStateQueueSource) :
    Except HookStateQueueSourceError Unit := do
  if !source.isSourceOwned then
    .error (.callerShapedStateQueueSource source.hook source.queue)
  (arena.validateListLinks source.list).mapError .hookList
  (arena.ensureHookBelongsToList source.hook source.list).mapError .hookList
  let hook ← (arena.hook source.hook).mapError .hookList
  match hook.data.payload.statePayload with
  | none => .error (.hookSlotPayloadNotState source.hook)
  | some payload =>
      if payload.queue ≠ source.queue ∨ payload.baseQueue ≠ source.baseQueue then
        .error (.stateQueueSourceMismatch source.hook source.queue payload.queue
          source.baseQueue payload.baseQueue)
      else
        .ok ()

def stateQueueSource (arena : HookListArena) (hook : HookSlotId) :
    Except HookStateQueueSourceError HookStateQueueSource := do
  let record ← (arena.hook hook).mapError .hookList
  match record.data.payload.statePayload with
  | none => .error (.hookSlotPayloadNotState hook)
  | some payload => do
      let source := HookStateQueueSource.sourceOwned record.data.list hook payload
      arena.validateStateQueueSource source
      return source

end HookListArena

/-- What an update was created for. -/
structure HookPendingUpdateSource where
  hookSource : HookStateQueueSource
  update : HookUpdateId
  updateGeneration : Nat
  lane : HookUpdateLane
  isSourceOwned : Bool
deriving DecidableEq

namespace HookPendingUpdateSource

def sourceOwned (hookSource : HookStateQueueSource) (update : HookUpdateId)
    (lane : HookUpdateLane) : HookPendingUpdateSource where
  hookSource := hookSource
  update := update
  updateGeneration := update.generation
  lane := lane
  isSourceOwned := true

def queue (source : HookPendingUpdateSource) : HookQueueId :=
  source.hookSource.queue

end HookPendingUpdateSource

structure HookPendingUpdateSourceState where
  source : HookPendingUpdateSource
  consumed : Bool
deriving DecidableEq

/-- Errors of the operations that look at sources. -/
inductive HookSourceError where
  | hookQueue (error : HookQueueError)
  | missingStagedUpdateSource (id : HookUpdateId)
  | callerShapedHookQueueSource (queue : HookQueueId)
  | callerShapedStagedUpdateSource (id : HookUpdateId)
  | stagedUpdateSourceMismatch (sourceUpdate stagedUpdate : HookUpdateId)
      (sourceQueue stagedQueue : HookQueueId)
  | stagedUpdateAlreadyConsumed (id : HookUpdateId)
  | existingPendingUpdateSourceNotConsumed (id : HookUpdateId)
  | invalidStagedHookSource (id : HookUpdateId) (source : HookStateQueueSourceError)
deriving DecidableEq

/-- The store with the sources of its updates.  They are kept under the identities of the
updates, none of which is given to a second update. -/
structure HookSourceStore (State Action ReducerId DispatchId : Type) where
  store : HookQueueStore State Action ReducerId DispatchId
  pendingSource : HookUpdateId → Option HookPendingUpdateSourceState

structure SourceStagedHookUpdate (OwnerId : Type) extends StagedHookUpdate OwnerId where
  source : Option HookPendingUpdateSource

structure SourceHookUpdateStaging (OwnerId : Type) where
  entries : List (SourceStagedHookUpdate OwnerId)
  lanes : Lanes

namespace SourceHookUpdateStaging

def new : SourceHookUpdateStaging OwnerId where
  entries := []
  lanes := Lanes.no

def stage (staging : SourceHookUpdateStaging OwnerId) (owner : OwnerId) (queue : HookQueueId)
    (update : HookUpdateId) (lane : HookUpdateLane) : SourceHookUpdateStaging OwnerId where
  entries := staging.entries ++ [⟨⟨owner, queue, update, lane⟩, none⟩]
  lanes := staging.lanes.merge lane.lanes

def stageSourceOwned (staging : SourceHookUpdateStaging OwnerId) (owner : OwnerId)
    (source : HookPendingUpdateSource) : SourceHookUpdateStaging OwnerId where
  entries := staging.entries ++ [⟨⟨owner, source.queue, source.update, source.lane⟩, some source⟩]
  lanes := staging.lanes.merge source.lane.lanes

end SourceHookUpdateStaging

namespace HookSourceStore

variable (sources : HookSourceStore State Action ReducerId DispatchId)

/-- Check the source of a staged update against the update, the store and the hook. -/
def validateSourceOwnedStagedEntry (entry : SourceStagedHookUpdate OwnerId)
    (hookLists : HookListArena) : Except HookSourceError Unit := do
  match entry.source with
  | none => .error (.missingStagedUpdateSource entry.update)
  | some source => do
      if !source.isSourceOwned || !source.hookSource.isSourceOwned then
        .error (.callerShapedStagedUpdateSource entry.update)
      if source.update ≠ entry.update ∨ source.updateGeneration ≠ entry.update.generation ∨
          source.queue ≠ entry.queue ∨ source.lane ≠ entry.lane then
        .error (.stagedUpdateSourceMismatch source.update entry.update source.queue entry.queue)
      (hookLists.validateStateQueueSource source.hookSource).mapError
        (.invalidStagedHookSource entry.update)
      let _ ← (sources.store.queue entry.queue).mapError .hookQueue
      (sources.store.validateUpdateId entry.update).mapError .hookQueue
      (sources.store.ensureUpdateIsUnlinked entry.update).mapError .hookQueue
      match sources.pendingSource entry.update with
      | none => .error (.missingStagedUpdateSource entry.update)
      | some stored =>
          if stored.consumed then
            .error (.stagedUpdateAlreadyConsumed entry.update)
          else if stored.source ≠ source then
            .error (.stagedUpdateSourceMismatch source.update entry.update source.queue
              entry.queue)
          else
            .ok ()

def validateSourceOwnedPendingUpdate (queue : HookQueueId) (hookLists : HookListArena)
    (update : HookUpdateId) : Except HookSourceError Unit := do
  (sources.store.validateUpdateId update).mapError .hookQueue
  match sources.pendingSource update with
  | none => .error (.missingStagedUpdateSource update)
  | some stored => do
      if !stored.consumed then
        .error (.existingPendingUpdateSourceNotConsumed update)
      let source := stored.source
      if !source.isSourceOwned || !source.hookSource.isSourceOwned then
        .error (.callerShapedStagedUpdateSource update)
      let record ← (sources.store.update update).mapError .hookQueue
      if source.update ≠ update ∨ source.updateGeneration ≠ update.generation ∨
          source.queue ≠ queue ∨ source.lane ≠ record.data.lane then
        .error (.stagedUpdateSourceMismatch source.update update source.queue queue)
      (hookLists.validateStateQueueSource source.hookSource).mapError
        (.invalidStagedHookSource update)

def validateSourceOwnedPendingRing (queue : HookQueueId) (tail : HookUpdateId)
    (hookLists : HookListArena) : Except HookSourceError Unit := do
  let updates ← (sources.store.collectRingIds tail).mapError .hookQueue
  updates.forM (sources.validateSourceOwnedPendingUpdate queue hookLists)

/-- One round of the loop that checks staged updates with their sources. -/
def validateStagedUpdateSource (hookLists : HookListArena)
    (seen : List HookUpdateId × List HookQueueId) (entry : SourceStagedHookUpdate OwnerId) :
    Except HookSourceError (List HookUpdateId × List HookQueueId) := do
  sources.validateSourceOwnedStagedEntry entry hookLists
  if entry.update ∈ seen.1 then
    .error (.hookQueue (.duplicateStagedUpdate entry.update))
  else if entry.queue ∈ seen.2 then
    .ok (entry.update :: seen.1, seen.2)
  else do
    let queue ← (sources.store.queue entry.queue).mapError .hookQueue
    match queue.pending with
    | none => .ok (entry.update :: seen.1, entry.queue :: seen.2)
    | some pending => do
        sources.validateSourceOwnedPendingRing entry.queue pending hookLists
        .ok (entry.update :: seen.1, entry.queue :: seen.2)

end HookSourceStore

abbrev HookSourceM (State Action ReducerId DispatchId : Type) :=
  EStateM HookSourceError (HookSourceStore State Action ReducerId DispatchId)

/-- Run an operation that does not look at the sources. -/
def onHookQueues {α : Type} (body : HookQueueM State Action ReducerId DispatchId α) :
    HookSourceM State Action ReducerId DispatchId α :=
  focus HookSourceStore.store (fun store sources => { sources with store := store })
    (mapError .hookQueue body)

/-- Keep what is known of the source of an update. -/
def setPendingSource (update : HookUpdateId) (stored : Option HookPendingUpdateSourceState) :
    HookSourceM State Action ReducerId DispatchId Unit :=
  modify fun sources =>
    { sources with pendingSource := Function.update sources.pendingSource update stored }

def createSourceOwnedUpdate (hookSource : HookStateQueueSource) (lane : HookUpdateLane)
    (action : Action) : HookSourceM State Action ReducerId DispatchId HookPendingUpdateSource := do
  if !hookSource.isSourceOwned then
    throw (.callerShapedHookQueueSource hookSource.queue)
  let _ ← onHookQueues (query (·.queue hookSource.queue))
  let update ← onHookQueues (createUpdate lane action)
  let source := HookPendingUpdateSource.sourceOwned hookSource update lane
  setPendingSource update (some { source := source, consumed := false })
  return source

/-- Mark the source of an update as consumed. -/
def consumePendingUpdateSource (update : HookUpdateId) :
    HookSourceM State Action ReducerId DispatchId Unit := do
  onHookQueues (query (·.validateUpdateId update))
  match (← get).pendingSource update with
  | none => throw (.missingStagedUpdateSource update)
  | some stored =>
      if stored.consumed then
        throw (.stagedUpdateAlreadyConsumed update)
      setPendingSource update (some { stored with consumed := true })

/-- Operations that hold the store with the sources and the staged updates. -/
abbrev HookSourceStagingM (State Action ReducerId DispatchId OwnerId : Type) :=
  EStateM HookSourceError
    (HookSourceStore State Action ReducerId DispatchId × SourceHookUpdateStaging OwnerId)

def whileStaging {α : Type} (body : HookSourceM State Action ReducerId DispatchId α) :
    HookSourceStagingM State Action ReducerId DispatchId OwnerId α :=
  focus Prod.fst (fun sources held => (sources, held.2)) body

/-- Check all staged updates with their sources, append them and consume the sources. -/
def finishQueueingWithSourceCurrentness (hookLists : HookListArena) :
    HookSourceStagingM State Action ReducerId DispatchId OwnerId
      (List (SourceStagedHookUpdate OwnerId)) := do
  let (_, staging) ← get
  let _ ← whileStaging (query fun sources =>
    staging.entries.foldlM (sources.validateStagedUpdateSource hookLists) ([], []))
  whileStaging (staging.entries.forM fun entry =>
    onHookQueues (appendPendingUpdateUnchecked entry.queue entry.update))
  whileStaging (staging.entries.forM fun entry => consumePendingUpdateSource entry.update)
  modify fun (sources, _) => (sources, SourceHookUpdateStaging.new)
  return staging.entries

end FastReact
