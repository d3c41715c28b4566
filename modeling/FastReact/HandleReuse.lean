import FastReact.FiberFrames
import FastReact.HookListArenaRuns
import FastReact.HookStateQueueRuns

namespace FastReact

open EStateM.Result ErrorState HookListArena HookListWorld List SlotArena

/-!
# Handles over runs of the three arenas

Fibers, hook queues with their updates, and hook lists with their hooks are kept in slot
arenas.  Every call on them only moves handles on, so that a ledger of each arena accounts
for its handles over any run.
-/

/-- Fibers only move on. -/
def FiberArena.Ages (before after : FiberArena) : Prop :=
  SlotArena.Ages before.nodes after.nodes

instance : IsPreorder FiberArena FiberArena.Ages where
  refl arena := SlotArena.ages_refl arena.nodes
  trans _ _ _ earlier later := SlotArena.Ages.trans earlier later

inductive FiberArenaCall where
  | createFiber (tag : FiberTag) (key : Option String) (pendingProps : PropsHandle)
      (mode : FiberMode)
  | createWorkInProgress (current : FiberId) (pendingProps : PropsHandle)
  | modifyFiber (id : FiberId) (change : FiberNode → FiberNode)
  | setChildren (parent : FiberId) (children : List FiberId)
  | appendChild (parent child : FiberId)
  | removeChildFromChain (parent child : FiberId)
  | linkAlternates (first second : FiberId)
  | markChildForDeletion (parent deleted : FiberId)
  | clearDeletionsAfterCleanup (parent : FiberId)
  | reclaimFiberAfterCleanup (id : FiberId)

namespace FiberArena

theorem within_modifyFiber (id : FiberId) (change : FiberNode → FiberNode) :
    Within Ages (modifyFiber id change) :=
  .bind (.query _) fun _ => .modify fun arena => ages_modify arena.nodes id change

theorem within_createFiber (tag : FiberTag) (key : Option String) (pendingProps : PropsHandle)
    (mode : FiberMode) : Within Ages (createFiber tag key pendingProps mode) :=
  .modifyGet fun arena => ages_insert arena.nodes _

theorem within_createWorkInProgress (current : FiberId) (pendingProps : PropsHandle) :
    Within Ages (createWorkInProgress current pendingProps) := by
  refine .bind (.query _) fun currentNode => ?_
  cases currentNode.alternate with
  | some existing =>
    exact .bind (.query _) fun _ => .bind (within_modifyFiber _ _) fun _ =>
      .bind (within_modifyFiber _ _) fun _ => .pure _
  | none =>
    exact .bind (within_createFiber _ _ _ _) fun _ =>
      .bind (within_modifyFiber _ _) fun _ => .bind (within_modifyFiber _ _) fun _ => .pure _

theorem ignoresPlaces_ages : IgnoresPlaces Ages where
  changes arena id change _ := ages_modify arena.nodes id change
  lists arena _ := ages_refl arena.nodes

theorem within_linkAlternates (first second : FiberId) :
    Within Ages (linkAlternates first second) :=
  .bind (.query _) fun _ => .bind (.query _) fun _ =>
    .bind (.query _) fun _ => .bind (.query _) fun _ =>
      .bind (within_modifyFiber _ _) fun _ => within_modifyFiber _ _

theorem within_reclaimFiberAfterCleanup (id : FiberId) :
    Within Ages (reclaimFiberAfterCleanup id) := by
  refine .bind (.query _) fun node => .guard fun _ => .bind .get fun arena => ?_
  have freed : Within Ages (do
      if fiberGenerationBound ≤ id.generation + 1 then
        throw (.generationOverflow id)
      modify fun arena => { arena with nodes := arena.nodes.remove id } : FiberArenaM Unit) :=
    .guard fun _ => .modify fun arena => ages_remove arena.nodes id
  cases arena.isRetainedByDeletionList id with
  | some list => exact .bind (.throw _) fun _ => freed
  | none => exact freed

def perform : FiberArenaCall → FiberArenaM PUnit
  | .createFiber tag key pendingProps mode => do
      let _ ← FastReact.createFiber tag key pendingProps mode
  | .createWorkInProgress current pendingProps => do
      let _ ← FastReact.createWorkInProgress current pendingProps
  | .modifyFiber id change => FastReact.modifyFiber id change
  | .setChildren parent children => FastReact.setChildren parent children
  | .appendChild parent child => FastReact.appendChild parent child
  | .removeChildFromChain parent child => do
      let _ ← FastReact.removeChildFromChain parent child
  | .linkAlternates first second => FastReact.linkAlternates first second
  | .markChildForDeletion parent deleted => do
      let _ ← FastReact.markChildForDeletion parent deleted
  | .clearDeletionsAfterCleanup parent => FastReact.clearDeletionsAfterCleanup parent
  | .reclaimFiberAfterCleanup id => FastReact.reclaimFiberAfterCleanup id

def step (arena : FiberArena) (call : FiberArenaCall) : FiberArena :=
  stateAfter ((perform call).run arena)

theorem ages_step (arena : FiberArena) (call : FiberArenaCall) :
    SlotArena.Ages arena.nodes (arena.step call).nodes := by
  have within : Within Ages (perform call) := by
    cases call with
    | createFiber tag key pendingProps mode =>
      exact .bind (within_createFiber _ _ _ _) fun _ => .pure _
    | createWorkInProgress current pendingProps =>
      exact .bind (within_createWorkInProgress _ _) fun _ => .pure _
    | modifyFiber id change => exact within_modifyFiber _ _
    | setChildren parent children => exact ignoresPlaces_ages.within_setChildren _ _
    | appendChild parent child => exact ignoresPlaces_ages.within_appendChild _ _
    | removeChildFromChain parent child =>
      exact .bind (ignoresPlaces_ages.within_removeChildFromChain _ _) fun _ => .pure _
    | linkAlternates first second => exact within_linkAlternates _ _
    | markChildForDeletion parent deleted =>
      exact .bind (ignoresPlaces_ages.within_markChildForDeletion _ _) fun _ => .pure _
    | clearDeletionsAfterCleanup parent => exact ignoresPlaces_ages.within_clearDeletionsAfterCleanup _
    | reclaimFiberAfterCleanup id => exact within_reclaimFiberAfterCleanup _
  exact within arena

/-- What a new fiber is made from. -/
structure FiberInput where
  tag : FiberTag
  key : Option String
  pendingProps : PropsHandle
  mode : FiberMode

def handles : HandleInterface FiberArena FiberTopologyError FiberNodeTag FiberNode where
  slots := nodes
  Value := FiberNode
  lookup := get
  Input := FiberInput
  create input := createFiber input.tag input.key input.pendingProps input.mode
  Target := FiberId
  permits _ _ := True
  reclaim := reclaimFiberAfterCleanup
  reclaims _ id := [id]

theorem lawful_handles (arena : FiberArena) : handles.Lawful arena where
  lookup := by
    intro id node found
    exact ⟨node, get_eq_ok_iff.mp found⟩
  create := by
    intro input id after created
    obtain ⟨rfl, rfl⟩ := ok.inj created
    exact live_insert arena.nodes _
  reclaim := by
    intro id after _ reclaimed other member
    obtain rfl := mem_singleton.mp member
    rcases run_reclaimFiberAfterCleanup arena other with
      ⟨error, failed⟩ | ⟨node, freed, ran, found, -, -, -, lookups⟩
    · cases failed.symm.trans reclaimed
    · cases ran.symm.trans reclaimed
      refine ⟨⟨node, found⟩, ?_⟩
      rintro ⟨still, stillFound⟩
      have gone := lookups other
      rw [if_pos rfl] at gone
      cases gone.symm.trans stillFound
  unchanged := by
    intro id error after _ failed
    rcases run_reclaimFiberAfterCleanup arena id with
      ⟨error, unchanged⟩ | ⟨node, freed, ran, -⟩
    · cases unchanged.symm.trans failed
      rfl
    · cases ran.symm.trans failed

end FiberArena

namespace HookQueueStore

variable {State Action ReducerId DispatchId OwnerId : Type}

/-- Queues and updates only move on. -/
structure Ages (before after : HookQueueStore State Action ReducerId DispatchId) : Prop where
  queues : SlotArena.Ages before.queues after.queues
  updates : SlotArena.Ages before.updates after.updates

theorem ages_refl (store : HookQueueStore State Action ReducerId DispatchId) : Ages store store :=
  ⟨SlotArena.ages_refl store.queues, SlotArena.ages_refl store.updates⟩

theorem ages_trans {before between after : HookQueueStore State Action ReducerId DispatchId}
    (earlier : Ages before between) (later : Ages between after) : Ages before after :=
  ⟨earlier.queues.trans later.queues, earlier.updates.trans later.updates⟩

instance : IsPreorder (HookQueueStore State Action ReducerId DispatchId) Ages where
  refl := ages_refl
  trans _ _ _ := ages_trans

/-- The store that an operation holds beside something else moves on. -/
def AgesBeside {Held : Type}
    (before after : HookQueueStore State Action ReducerId DispatchId × Held) : Prop :=
  Ages before.1 after.1

instance {Held : Type} :
    IsPreorder (HookQueueStore State Action ReducerId DispatchId × Held) AgesBeside where
  refl held := ages_refl held.1
  trans _ _ _ earlier later := ages_trans earlier later

theorem within_modifyUpdate (id : HookUpdateId)
    (change : HookUpdate Action State → HookUpdate Action State) :
    Within Ages (modifyUpdate id change : HookQueueM State Action ReducerId DispatchId Unit) :=
  .bind (.query _) fun _ => .modify fun store =>
    ⟨SlotArena.ages_refl store.queues, SlotArena.ages_modify store.updates id change⟩

theorem within_modifyQueue (id : HookQueueId)
    (change : HookQueue State ReducerId DispatchId → HookQueue State ReducerId DispatchId) :
    Within Ages (modifyQueue id change : HookQueueM State Action ReducerId DispatchId Unit) :=
  .bind (.query _) fun _ => .modify fun store =>
    ⟨SlotArena.ages_modify store.queues id change, SlotArena.ages_refl store.updates⟩

theorem within_insertUpdate (update : HookUpdate Action State) :
    Within Ages (insertUpdate update : HookQueueM State Action ReducerId DispatchId HookUpdateId) :=
  .modifyGet fun store =>
    ⟨SlotArena.ages_refl store.queues, SlotArena.ages_insert store.updates update⟩

theorem within_createQueue (initialState : State) :
    Within Ages (createQueue initialState :
      HookQueueM State Action ReducerId DispatchId HookQueueId) :=
  .modifyGet fun store => ⟨SlotArena.ages_insert store.queues _, SlotArena.ages_refl store.updates⟩

section

variable (queue : HookQueueId) (update : HookUpdateId)

theorem within_appendPendingUpdateUnchecked :
    Within Ages (appendPendingUpdateUnchecked queue update :
      HookQueueM State Action ReducerId DispatchId Unit) := by
  refine .bind (.query _) fun entry => ?_
  cases entry.pending with
  | some tail =>
    exact .bind (.query _) fun _ =>
      .bind (within_modifyUpdate _ _) fun _ =>
        .bind (within_modifyUpdate _ _) fun _ => within_modifyQueue _ _
  | none => exact .bind (within_modifyUpdate _ _) fun _ => within_modifyQueue _ _

theorem within_appendPendingUpdate :
    Within Ages (appendPendingUpdate queue update :
      HookQueueM State Action ReducerId DispatchId Unit) :=
  .bind (.query _) fun _ => .bind (.query _) fun _ =>
    within_appendPendingUpdateUnchecked queue update

end

theorem within_appendToNewBaseQueue (pass : HookQueuePass State) (update : HookUpdateId) :
    Within Ages (appendToNewBaseQueue pass update :
      HookQueueM State Action ReducerId DispatchId (HookQueuePass State)) := by
  refine .bind (within_modifyUpdate _ _) fun _ => ?_
  cases pass.newBaseQueueLast with
  | some last => exact .bind (within_modifyUpdate _ _) fun _ => .pure _
  | none => exact .pure _

theorem within_processUpdate (renderLanes rootRenderLanes : Lanes)
    (reducer : State → Action → State) (pass : HookQueuePass State) (updateId : HookUpdateId) :
    Within Ages (processUpdate renderLanes rootRenderLanes reducer pass updateId :
      HookQueueM State Action ReducerId DispatchId (HookQueuePass State)) := by
  have cloned : ∀ (pass : HookQueuePass State) (clone : HookUpdate Action State)
      (finish : HookQueuePass State → HookQueuePass State),
      Within Ages (do
        let cloneId ← insertUpdate clone
        let pass ← appendToNewBaseQueue pass cloneId
        return finish pass : HookQueueM State Action ReducerId DispatchId (HookQueuePass State)) :=
    fun pass clone finish => .bind (within_insertUpdate clone) fun _ =>
      .bind (within_appendToNewBaseQueue _ _) fun _ => .pure _
  refine .bind (.query _) fun original => .ite ?_ (.ite ?_ ?_)
  · exact .bind (.query _) fun lane => cloned _ _ _
  · exact .ite (cloned _ _ fun pass => pass.reduce original reducer true) (.pure _)
  · exact .ite (.pure _) (cloned _ _ _)

theorem within_beside {Held α : Type} {body : HookQueueM State Action ReducerId DispatchId α}
    (within : Within Ages body) :
    Within AgesBeside
      (focus Prod.fst (fun store held => (store, held.2)) body :
        EStateM HookQueueError (HookQueueStore State Action ReducerId DispatchId × Held) α) :=
  .focus_within within fun _ _ ages => ages

theorem within_modifySlot (change : HookStateSlot State → HookStateSlot State) :
    Within AgesBeside (modifySlot change : HookSlotM State Action ReducerId DispatchId Unit) :=
  .modify fun held => ages_refl held.1

theorem within_mergePendingIntoBaseQueue :
    Within AgesBeside (mergePendingIntoBaseQueue :
      HookSlotM State Action ReducerId DispatchId Unit) := by
  have emptied : ∀ (queue : HookQueueId) (tail : HookUpdateId),
      Within AgesBeside (do
        onStore (setPending queue none)
        modifySlot fun slot => { slot with baseQueue := some tail } :
          HookSlotM State Action ReducerId DispatchId Unit) :=
    fun queue tail => .bind (within_beside (within_modifyQueue _ _)) fun _ => within_modifySlot _
  refine .bind .get fun held => ?_
  obtain ⟨store, slot⟩ := held
  dsimp only
  refine .bind (within_beside (.query _)) fun entry => ?_
  cases entry.pending with
  | none => exact .pure _
  | some pendingTail =>
    refine .bind (within_beside (.query _)) fun _ => ?_
    cases slot.baseQueue with
    | none => exact emptied _ _
    | some baseTail =>
      exact .bind (within_beside (.query _)) fun _ =>
        .bind (within_beside (.query _)) fun _ =>
          .bind (within_beside (within_modifyUpdate _ _)) fun _ =>
            .bind (within_beside (within_modifyUpdate _ _)) fun _ => emptied _ _

theorem within_processUpdateQueue (renderLanes rootRenderLanes : Lanes)
    (reducer : State → Action → State) :
    Within AgesBeside (processUpdateQueue renderLanes rootRenderLanes reducer :
      HookSlotM State Action ReducerId DispatchId (ProcessHookQueueResult State)) := by
  refine .bind within_mergePendingIntoBaseQueue fun _ => .bind .get fun held => ?_
  obtain ⟨store, slot⟩ := held
  dsimp only
  cases slot.baseQueue with
  | none =>
    exact .bind (within_modifySlot _) fun _ =>
      .bind (within_beside (within_modifyQueue _ _)) fun _ => .pure _
  | some baseTail =>
    refine .bind (within_beside (.query _)) fun ids =>
      .bind (within_beside (.foldlM (within_processUpdate _ _ _) ids _))
        fun pass => .bind (within_beside ?_) fun _ =>
          .bind (within_modifySlot _) fun _ =>
            .bind (within_beside (within_modifyQueue _ _)) fun _ => .pure _
    unfold closeNewBaseQueue
    cases pass.newBaseQueueLast with
    | none => exact .pure _
    | some last => exact within_modifyUpdate _ _

theorem within_processRenderPhaseUpdates (reducer : State → Action → State) :
    Within AgesBeside (processRenderPhaseUpdates reducer :
      HookSlotM State Action ReducerId DispatchId (RenderPhaseHookQueueResult State)) := by
  refine .bind .get fun held => ?_
  obtain ⟨store, slot⟩ := held
  dsimp only
  refine .bind (within_beside (.query _)) fun entry =>
    .bind (within_beside (.query _)) fun ids =>
      .bind (within_beside (within_modifyQueue _ _)) fun _ =>
        .bind (within_beside (.foldlM (fun _ _ =>
          .bind (.query _) fun _ => .pure _) ids _)) fun newState =>
            .bind (within_modifySlot _) fun _ => ?_
  have finished : ∀ newState : State, Within AgesBeside (do
      onStore (modifyQueue slot.queue fun entry => { entry with lastRenderedState := newState })
      return {
        memoizedState := newState
        processedUpdateCount := ids.length } :
          HookSlotM State Action ReducerId DispatchId (RenderPhaseHookQueueResult State)) :=
    fun newState => .bind (within_beside (within_modifyQueue _ _)) fun _ => .pure _
  exact .ite (.bind (within_modifySlot _) fun _ => finished newState) (finished newState)

theorem within_finishQueueing :
    Within AgesBeside (finishQueueing :
      HookStagingM State Action ReducerId DispatchId OwnerId (List (StagedHookUpdate OwnerId))) :=
  .bind .get fun _ => .bind (within_beside (.query _)) fun _ =>
    .bind (within_beside (.forM (fun _ =>
      within_appendPendingUpdateUnchecked _ _) _)) fun _ =>
        .bind (.modify fun held => ages_refl held.1) fun _ => .pure _

theorem within_reclaimUpdate (id : HookUpdateId) :
    Within Ages (reclaimUpdate id : HookQueueM State Action ReducerId DispatchId Unit) :=
  .bind (.query _) fun _ => .guard fun _ => .guard fun _ =>
    .modify fun store => ⟨SlotArena.ages_refl store.queues, ages_remove store.updates id⟩

theorem within_reclaimQueue (id : HookQueueId) :
    Within Ages (reclaimQueue id : HookQueueM State Action ReducerId DispatchId Unit) :=
  .bind (.query _) fun _ => .guard fun _ => .guard fun _ =>
    .modify fun store => ⟨ages_remove store.queues id, SlotArena.ages_refl store.updates⟩

section

variable (store : HookQueueStore State Action ReducerId DispatchId)

theorem run_reclaimUpdate (id : HookUpdateId) :
    (∃ node, store.updates.get? id = some node ∧
      (reclaimUpdate id).run store = .ok () { store with updates := store.updates.remove id }) ∨
      ∃ error, (reclaimUpdate id).run store = .error error store := by
  cases resolved : store.update id with
  | error error => exact .inr ⟨error, by simp only [reclaimUpdate, run_bind, run_query, resolved]⟩
  | ok node =>
    by_cases linked : node.next.isSome = true
    · exact .inr ⟨.linkedUpdateCannotBeReclaimed id, by
        simp only [reclaimUpdate, run_bind, run_query, resolved, linked, if_true, run_throw]⟩
    · by_cases exhausted : hookGenerationBound ≤ id.generation + 1
      · exact .inr ⟨.generationOverflow, by
          simp only [reclaimUpdate, run_bind, run_query, resolved, linked, if_false,
            if_pos exhausted, run_throw, Bool.false_eq_true]⟩
      · refine .inl ⟨node, get?_of_update_eq_ok resolved, ?_⟩
        simp only [reclaimUpdate, run_bind, run_query, resolved, linked, if_false,
          if_neg exhausted, run_modify, Bool.false_eq_true]

theorem run_reclaimQueue (id : HookQueueId) :
    (∃ entry, store.queues.get? id = some entry ∧
      (reclaimQueue id).run store = .ok () { store with queues := store.queues.remove id }) ∨
      ∃ error, (reclaimQueue id).run store = .error error store := by
  cases resolved : store.queue id with
  | error error => exact .inr ⟨error, by simp only [reclaimQueue, run_bind, run_query, resolved]⟩
  | ok entry =>
    by_cases linked : entry.pending.isSome = true
    · exact .inr ⟨.linkedQueueCannotBeReclaimed id, by
        simp only [reclaimQueue, run_bind, run_query, resolved, linked, if_true, run_throw]⟩
    · by_cases exhausted : hookGenerationBound ≤ id.generation + 1
      · exact .inr ⟨.generationOverflow, by
          simp only [reclaimQueue, run_bind, run_query, resolved, linked, if_false,
            if_pos exhausted, run_throw, Bool.false_eq_true]⟩
      · refine .inl ⟨entry, get?_of_queue_eq_ok resolved, ?_⟩
        simp only [reclaimQueue, run_bind, run_query, resolved, linked, if_false,
          if_neg exhausted, run_modify, Bool.false_eq_true]

end

def updateHandles :
    HandleInterface (HookQueueStore State Action ReducerId DispatchId) HookQueueError
      HookUpdateTag (HookUpdate Action State) where
  slots := updates
  Value := HookUpdate Action State
  lookup := update
  Input := HookUpdate Action State
  create := insertUpdate
  Target := HookUpdateId
  permits _ _ := True
  reclaim := reclaimUpdate
  reclaims _ id := [id]

def queueHandles :
    HandleInterface (HookQueueStore State Action ReducerId DispatchId) HookQueueError
      HookQueueTag (HookQueue State ReducerId DispatchId) where
  slots := queues
  Value := HookQueue State ReducerId DispatchId
  lookup := queue
  Input := State
  create := createQueue
  Target := HookQueueId
  permits _ _ := True
  reclaim := reclaimQueue
  reclaims _ id := [id]

section

variable (store : HookQueueStore State Action ReducerId DispatchId)

theorem lawful_updateHandles : updateHandles.Lawful store where
  lookup := by
    intro id node found
    exact ⟨node, get?_of_update_eq_ok found⟩
  create := by
    intro update id after created
    obtain ⟨rfl, rfl⟩ := ok.inj created
    exact live_insert store.updates _
  reclaim := by
    intro id after _ reclaimed other member
    obtain rfl := mem_singleton.mp member
    rcases run_reclaimUpdate store other with ⟨node, found, ran⟩ | ⟨error, failed⟩
    · cases ran.symm.trans reclaimed
      exact ⟨⟨node, found⟩, not_live_remove store.updates other⟩
    · cases failed.symm.trans reclaimed
  unchanged := by
    intro id error after _ failed
    rcases run_reclaimUpdate store id with ⟨node, found, ran⟩ | ⟨error, unchanged⟩
    · cases ran.symm.trans failed
    · cases unchanged.symm.trans failed
      rfl

theorem lawful_queueHandles : queueHandles.Lawful store where
  lookup := by
    intro id entry found
    exact ⟨entry, get?_of_queue_eq_ok found⟩
  create := by
    intro initialState id after created
    obtain ⟨rfl, rfl⟩ := ok.inj created
    exact live_insert store.queues _
  reclaim := by
    intro id after _ reclaimed other member
    obtain rfl := mem_singleton.mp member
    rcases run_reclaimQueue store other with ⟨entry, found, ran⟩ | ⟨error, failed⟩
    · cases ran.symm.trans reclaimed
      exact ⟨⟨entry, found⟩, not_live_remove store.queues other⟩
    · cases failed.symm.trans reclaimed
  unchanged := by
    intro id error after _ failed
    rcases run_reclaimQueue store id with ⟨entry, found, ran⟩ | ⟨error, unchanged⟩
    · cases ran.symm.trans failed
    · cases unchanged.symm.trans failed
      rfl

end

end HookQueueStore

namespace HookQueueWorld

open HookQueueStore

variable {State Action ReducerId DispatchId OwnerId : Type}

/-- The store of a world moves on. -/
def Ages (before after : HookQueueWorld State Action ReducerId DispatchId) : Prop :=
  HookQueueStore.Ages before.store after.store

instance : IsPreorder (HookQueueWorld State Action ReducerId DispatchId) Ages where
  refl world := ages_refl world.store
  trans _ _ _ earlier later := ages_trans earlier later

theorem within_callStore {α : Type} {body : HookQueueM State Action ReducerId DispatchId α}
    (within : Within HookQueueStore.Ages body) : Within Ages (callStore body) :=
  .bind (.focus_within within fun _ _ ages => ages) fun _ => .pure _

theorem within_callWith {Held α : Type} {held : Held}
    {body : EStateM HookQueueError (HookQueueStore State Action ReducerId DispatchId × Held) α}
    (within : Within AgesBeside body) : Within Ages (callWith held body) :=
  .bind (.focus_within within fun _ _ ages => ages) fun _ => .pure _

theorem within_callSlot {α : Type} (index : Nat)
    {body : HookSlotM State Action ReducerId DispatchId α} (within : Within AgesBeside body) :
    Within Ages (callSlot index body) := by
  refine .bind .get fun world => ?_
  cases world.slots[index]? with
  | none => exact .pure _
  | some slot =>
    exact .bind (.focus_within within fun _ _ ages => ages) fun _ => .pure _

/-- The world after a call, whatever its outcome. -/
def stepCall (world : HookQueueWorld State Action ReducerId DispatchId)
    (made : HookQueueCall State Action OwnerId) :
    HookQueueWorld State Action ReducerId DispatchId :=
  stateAfter ((call made).run world)

theorem ages_stepCall (world : HookQueueWorld State Action ReducerId DispatchId)
    (made : HookQueueCall State Action OwnerId) : Ages world (world.stepCall made) := by
  have within : Within Ages
      (call made : CallM State Action ReducerId DispatchId Unit) := by
    cases made with
    | createQueue initialState => exact within_callStore (within_createQueue _)
    | createStateSlot initialState =>
      exact .bind (.focus_within
        (.bind (within_createQueue _) fun _ => .pure _) fun _ _ ages => ages)
        fun _ => .modify fun world => ages_refl world.store
    | newStateSlot initialState queue => exact .modify fun world => ages_refl world.store
    | createUpdate lane action => exact within_callStore (within_insertUpdate _)
    | createUpdateFromDispatchMetadata metadata => exact within_callStore (within_insertUpdate _)
    | appendPendingUpdate queue update => exact within_callStore (within_appendPendingUpdate _ _)
    | enqueueRenderPhaseUpdate queue update recorded =>
      exact within_callWith (.bind (within_beside (within_appendPendingUpdate _ _))
        fun _ => .modify fun held => ages_refl held.1)
    | finishQueueing staging => exact within_callWith within_finishQueueing
    | processUpdateQueue slot renderLanes rootRenderLanes reducer =>
      exact within_callSlot slot (within_processUpdateQueue _ _ _)
    | processRenderPhaseUpdates slot reducer =>
      exact within_callSlot slot (within_processRenderPhaseUpdates _)
    | clearRenderPhaseUpdates recorded =>
      refine within_callWith (.bind .get fun held => ?_)
      obtain ⟨store, recorded⟩ := held
      exact .bind (within_beside (.forM (fun _ => within_modifyQueue _ _) _))
        fun _ => .modify fun held => ages_refl held.1
    | reclaimUpdate id => exact within_callStore (within_reclaimUpdate id)
    | reclaimQueue id => exact within_callStore (within_reclaimQueue id)
  exact within world

end HookQueueWorld

namespace HookListWorld

open HookListArena

/-- The arena of a world moves on. -/
def Ages (before after : HookListWorld) : Prop :=
  HookListArena.Ages before.arena after.arena

instance : IsPreorder HookListWorld Ages where
  refl world := refl world.arena
  trans _ _ _ := HookListArena.Ages.trans

theorem within_onArena {α : Type} {body : HookListM α} (within : Within HookListArena.Ages body) :
    Within Ages (onArena body) :=
  .focus_within within fun _ _ ages => ages

theorem within_perform (call : HookListCall) : Within Ages (perform call) := by
  have kept : ∀ change : HookListWorld → HookListWorld,
      (∀ world, (change world).arena = world.arena) →
      Within Ages (modify change : HookListWorldM PUnit) := by
    intro change same
    refine .modify fun world => ?_
    rw [Ages, same]
    exact refl world.arena
  cases call with
  | createList owner =>
    exact .bind (within_onArena (within_createList owner)) fun _ => kept _ fun _ => rfl
  | appendHook list payload =>
    exact .bind (within_onArena (within_appendHook list payload)) fun _ => kept _ fun _ => rfl
  | setHookPayload hook payload =>
    exact .bind (within_onArena (within_setHookPayload hook payload)) fun _ => kept _ fun _ => rfl
  | beginMount list => exact .bind (.query _) fun _ => kept _ fun _ => rfl
  | mountHook mount payload =>
    refine .bind .get fun world => ?_
    cases world.mounts[mount]? with
    | none => exact .pure _
    | some cursor =>
      exact .bind (within_onArena (within_mountHook cursor payload)) fun _ => kept _ fun _ => rfl
  | beginUpdate currentList workInProgressList =>
    exact .bind (.query _) fun _ => kept _ fun _ => rfl
  | updateHook index =>
    refine .bind .get fun world => ?_
    cases world.updates[index]? with
    | none => exact .pure _
    | some update =>
      exact .bind (within_onArena (within_updateHook update.cursor)) fun _ => kept _ fun _ => rfl
  | discardList list => exact within_onArena (within_discardList list)

theorem ages_step (world : HookListWorld) (call : HookListCall) :
    HookListArena.Ages world.arena (world.step call).arena :=
  within_perform call world

end HookListWorld

namespace HookListArena

def listHandles : HandleInterface HookListArena HookListError HookListTag HookList where
  slots := lists
  Value := HookList
  lookup arena handle := arena.list (arena.listId handle)
  Input := FiberId
  create owner := do return (← createList owner).handle
  Target := HookListId
  permits := CanDiscard
  reclaim := discardList
  reclaims _ list := [list.handle]

def hookHandles :
    HandleInterface HookListArena HookListError HookSlotTag (Node HookSlotTag HookSlot) where
  slots := hooks
  Value := Node HookSlotTag HookSlot
  lookup arena handle := arena.hook (arena.hookId handle)
  Input := HookListId × HookSlotPayload
  create input := do return (← appendHook input.1 input.2).handle
  Target := HookListId
  permits := CanDiscard
  reclaim := discardList
  reclaims arena list := (arena.collectListHooks list).toOption.getD []

variable {arena : HookListArena} {members : Members}

theorem Holds.lawful_listHandles (holds : arena.Holds members) : listHandles.Lawful arena where
  lookup := by
    intro handle record found
    exact ⟨record, (list_eq_ok_iff.mp found).2⟩
  create := by
    intro owner handle after created
    obtain ⟨rfl, rfl⟩ := ok.inj created
    exact live_insert arena.lists _
  reclaim := by
    intro list after permitted reclaimed handle member
    obtain rfl := mem_singleton.mp member
    rcases run_discardList holds permitted with
      ⟨freed, ran, -, live, discarded⟩ | ⟨error, failed⟩
    · cases ran.symm.trans reclaimed
      refine ⟨live, ?_⟩
      rintro ⟨record, found⟩
      have gone := discarded.lists list.handle
      rw [if_pos rfl] at gone
      cases gone.symm.trans found
    · cases failed.symm.trans reclaimed
  unchanged := by
    intro list error after permitted failed
    rcases run_discardList holds permitted with ⟨freed, ran, -⟩ | ⟨error, unchanged⟩
    · cases ran.symm.trans failed
    · cases unchanged.symm.trans failed
      rfl

theorem Holds.lawful_hookHandles (holds : arena.Holds members) : hookHandles.Lawful arena where
  lookup := by
    intro handle node found
    exact ⟨node, (hook_eq_ok_iff.mp found).2⟩
  create := by
    rintro ⟨list, payload⟩ handle after created
    rcases appendHook_cases holds list payload with
      ⟨record, hook, grown, -, -, ran, appended⟩ | ⟨error, failed⟩
    · obtain ⟨sameHook, rfl⟩ : hook = handle ∧ grown = after := by
        have performed : ((do return (← appendHook list payload).handle) :
            HookListM (Handle HookSlotTag)).run arena = .ok hook grown := by
          rw [run_bind, ran]
          rfl
        exact ok.inj (performed.symm.trans created)
      subst sameHook
      refine ⟨?_, appended.notSpent, ?_⟩
      · intro live
        obtain ⟨slot, stored⟩ := hook_live_iff.mp live
        rw [appended.isNew] at stored
        cases stored
      · have stored := appended.data hook
        rw [if_pos rfl] at stored
        exact hook_live_iff.mpr ⟨_, stored⟩
    · have performed : ((do return (← appendHook list payload).handle) :
          HookListM (Handle HookSlotTag)).run arena = .error error arena := by
        rw [run_bind, failed]
      cases performed.symm.trans created
  reclaim := by
    intro list after permitted reclaimed handle member
    rcases run_discardList holds permitted with
      ⟨freed, ran, here, live, discarded⟩ | ⟨error, failed⟩
    · cases ran.symm.trans reclaimed
      obtain ⟨record, found⟩ := live
      have isMember : handle ∈ members list.handle := by
        change handle ∈ (arena.collectListHooks list).toOption.getD [] at member
        rwa [holds.collectListHooks_eq_ok_iff.mpr ⟨here, ⟨record, found⟩, rfl⟩] at member
      obtain ⟨slot, stored, -⟩ := holds.stored found isMember
      refine ⟨hook_live_iff.mpr ⟨slot, stored⟩, ?_⟩
      rintro ⟨node, foundAfter⟩
      have gone := discarded.hooks handle
      rw [if_pos isMember] at gone
      cases gone.symm.trans foundAfter
    · cases failed.symm.trans reclaimed
  unchanged := holds.lawful_listHandles.unchanged

end HookListArena

/-- Over every run on the three arenas, with discards that do not run out of generations
half-way, the handles of each are issued once, never found again once they are retired,
and left alone by a failed reclaim. -/
theorem handles_governed
    {State Action OwnerId : Type}
    (ReducerId DispatchId : Type)
    (fiberCalls : List FiberArenaCall)
    (queueCalls : List (HookQueueCall State Action OwnerId))
    {arenaId : HookListArena.HookListArenaId}
    {listCalls : List HookListCall}
    {lists : HookListWorld}
    (run : ActionRun HookListWorld.Permits step (.new arenaId) listCalls lists) :
    let fibers := fiberCalls.foldl FiberArena.step .new
    let queues : HookQueueWorld State Action ReducerId DispatchId :=
      queueCalls.foldl HookQueueWorld.stepCall .new
    FiberArena.handles.Governed
        (.ofRun FiberArena.nodes FiberArena.step .empty .new fiberCalls) fibers ∧
      HookQueueStore.queueHandles.Governed
        (.ofRun (fun world => world.store.queues) HookQueueWorld.stepCall .empty
          (.new : HookQueueWorld State Action ReducerId DispatchId) queueCalls)
        queues.store ∧
      HookQueueStore.updateHandles.Governed
        (.ofRun (fun world => world.store.updates) HookQueueWorld.stepCall .empty
          (.new : HookQueueWorld State Action ReducerId DispatchId) queueCalls)
        queues.store ∧
      listHandles.Governed
        (.ofRun (fun world => world.arena.lists) step .empty (.new arenaId)
          listCalls)
        lists.arena ∧
      hookHandles.Governed
        (.ofRun (fun world => world.arena.hooks) step .empty (.new arenaId)
          listCalls)
        lists.arena := by
  have keeps := keeps_of_run run
  have final := run.final_eq
  subst final
  refine ⟨?_, ?_, ?_, ?_, ?_⟩
  · exact (FiberArena.lawful_handles _).governed
      (HandleLedger.accounts_empty.ofRun FiberArena.ages_step fiberCalls)
  · exact (HookQueueStore.lawful_queueHandles _).governed
      (HandleLedger.accounts_empty.ofRun
        (fun world call => (HookQueueWorld.ages_stepCall world call).queues) queueCalls)
  · exact (HookQueueStore.lawful_updateHandles _).governed
      (HandleLedger.accounts_empty.ofRun
        (fun world call => (HookQueueWorld.ages_stepCall world call).updates) queueCalls)
  · exact keeps.holds.lawful_listHandles.governed
      (HandleLedger.accounts_empty.ofRun
        (fun world call => (ages_step world call).lists) listCalls)
  · exact keeps.holds.lawful_hookHandles.governed
      (HandleLedger.accounts_empty.ofRun
        (fun world call => (ages_step world call).hooks) listCalls)

/-- The hooks of an update of a list with one hook, which is then discarded. -/
theorem handles_governed_updatedOnce :
    hookHandles.Governed
      (.ofRun (fun world => world.arena.hooks) step .empty (.new ⟨1⟩)
        updatedOnce)
      (updatedOnce.foldl step (.new ⟨1⟩)).arena := by
  have run : ActionRun HookListWorld.Permits step (.new ⟨1⟩)
      updatedOnce
      (updatedOnce.foldl step (.new ⟨1⟩)) := by
    refine ActionRun.of_permitted ⟨trivial, trivial, trivial, trivial, trivial, ?_, trivial⟩
    intro hooks collected
    obtain rfl : hooks = [⟨0, 0⟩] := (Except.ok.inj collected).symm
    exact .inl (by decide)
  exact (handles_governed Nat Nat [] ([] : List (HookQueueCall Nat Nat Nat)) run).2.2.2.2

namespace HookListArena

/-- One slot that has come to a generation. -/
def wornLists (generation : Nat) (content : Option HookList) : SlotArena HookListTag HookList where
  slots := [⟨generation, content⟩]
  vacant := if content.isSome then [] else [0]
  vacantUnoccupied := by
    intro index member
    cases content with
    | none =>
        obtain rfl := mem_singleton.mp member
        exact ⟨generation, rfl⟩
    | some list =>
        cases member
  vacantNodup := by
    cases content <;> simp

variable (generation : Nat)

theorem get?_wornLists (list : HookList) :
    (wornLists generation (some list)).get? ⟨0, generation⟩ = some list :=
  get?_eq_some_iff.mpr rfl

theorem remove_wornLists (list : HookList) :
    (wornLists generation (some list)).remove ⟨0, generation⟩ =
      wornLists (generation + 1) none := by
  unfold remove
  rw [dif_pos (by rw [get?_wornLists]; rfl)]
  rfl

def worn (generation : Nat) (content : Option HookList) : HookListArena where
  arenaId := ⟨1⟩
  lists := wornLists generation content
  hooks := SlotArena.empty

variable {generation : Nat}

theorem run_discardList_worn (owner : FiberId) (left : generation + 1 < generationBound) :
    (discardList ⟨⟨1⟩, ⟨0, generation⟩⟩).run (worn generation (some (HookList.new owner))) =
      .ok () (worn (generation + 1) none) := by
  have found : (worn generation (some (HookList.new owner))).list ⟨⟨1⟩, ⟨0, generation⟩⟩ =
      .ok (HookList.new owner) :=
    list_eq_ok_iff.mpr ⟨rfl, get?_wornLists generation _⟩
  have collected : (worn generation (some (HookList.new owner))).collectListHooks
      ⟨⟨1⟩, ⟨0, generation⟩⟩ = .ok [] := by
    unfold collectListHooks
    rw [found]
    rfl
  have nothing : (List.forM [] discardHook).run
      (worn generation (some (HookList.new owner))) = .ok () _ := rfl
  simp only [discardList, run_bind, run_query, collected, nothing, found,
    if_neg (Nat.not_le.mpr left), run_modify]
  rw [worn, remove_wornLists]
  rfl

theorem modify_wornLists (list : HookList) (change : HookList → HookList) :
    (wornLists generation (some list)).modify ⟨0, generation⟩ change =
      wornLists generation (some (change list)) := by
  simp [SlotArena.modify, wornLists]

def wornWithHook (generation : Nat) (owner : FiberId) : HookListArena where
  arenaId := ⟨1⟩
  lists := wornLists generation
    (some { owner := owner, first := some ⟨0, 0⟩, last := some ⟨0, 0⟩, len := 1 })
  hooks := (empty.insert
    { data := { list := ⟨⟨1⟩, ⟨0, generation⟩⟩, index := 0, payload := .empty }
      next := none }).2

theorem run_appendHook_worn (owner : FiberId) :
    (appendHook ⟨⟨1⟩, ⟨0, generation⟩⟩ .empty).run
        (worn generation (some (HookList.new owner))) =
      .ok ⟨⟨1⟩, ⟨0, 0⟩⟩ (wornWithHook generation owner) := by
  have found : (worn generation (some (HookList.new owner))).list ⟨⟨1⟩, ⟨0, generation⟩⟩ =
      .ok (HookList.new owner) :=
    list_eq_ok_iff.mpr ⟨rfl, get?_wornLists generation _⟩
  have valid : (worn generation (some (HookList.new owner))).validateListLinks
      ⟨⟨1⟩, ⟨0, generation⟩⟩ = .ok () := by
    unfold validateListLinks collectListHooks
    rw [found]
    rfl
  have last : (HookList.new owner).last = none := rfl
  simp only [appendHook, appendHookUnchecked, run_bind, run_query, valid, found,
    run_modifyGet, last]
  rw [run_modifyList rfl (get?_wornLists generation _)]
  simp only [worn, modify_wornLists]
  rw [run_modifyList rfl (get?_wornLists generation _)]
  simp only [modify_wornLists]
  rfl

theorem run_discardList_wornWithHook (owner : FiberId)
    (exhausted : generationBound ≤ generation + 1) :
    (discardList ⟨⟨1⟩, ⟨0, generation⟩⟩).run (wornWithHook generation owner) =
      .error .generationOverflow
        { wornWithHook generation owner with
          hooks := (wornWithHook generation owner).hooks.remove ⟨0, 0⟩ } := by
  have found : (wornWithHook generation owner).list ⟨⟨1⟩, ⟨0, generation⟩⟩ =
      .ok { owner := owner, first := some ⟨0, 0⟩, last := some ⟨0, 0⟩, len := 1 } :=
    list_eq_ok_iff.mpr ⟨rfl, get?_wornLists generation _⟩
  have stored : (wornWithHook generation owner).hooks.data? ⟨0, 0⟩ =
      some { list := ⟨⟨1⟩, ⟨0, generation⟩⟩, index := 0, payload := .empty } := rfl
  have belongs : (wornWithHook generation owner).ensureHookBelongsToList
      ((wornWithHook generation owner).hookId ⟨0, 0⟩) ⟨⟨1⟩, ⟨0, generation⟩⟩ = .ok () :=
    ensureHookBelongsToList_eq_ok stored
  have looped : (wornWithHook generation owner).collectListHooksLoop ⟨⟨1⟩, ⟨0, generation⟩⟩
      1 2 (some ⟨0, 0⟩) [] = .ok [⟨0, 0⟩] := by
    rw [collectListHooksLoop, belongs, hook_eq_ok stored]
    rfl
  have collected : (wornWithHook generation owner).collectListHooks
      ⟨⟨1⟩, ⟨0, generation⟩⟩ = .ok [⟨0, 0⟩] := by
    unfold collectListHooks
    rw [found]
    change ((wornWithHook generation owner).collectListHooksLoop ⟨⟨1⟩, ⟨0, generation⟩⟩
      1 2 (some ⟨0, 0⟩) [] >>= _) = _
    rw [looped]
    rfl
  have bounded : ¬ generationBound ≤ (⟨0, 0⟩ : Handle HookSlotTag).generation + 1 := by decide
  have freed : (discardHook ⟨0, 0⟩).run (wornWithHook generation owner) =
      .ok () { wornWithHook generation owner with
        hooks := (wornWithHook generation owner).hooks.remove ⟨0, 0⟩ } := by
    simp only [discardHook, run_bind, run_get, run_query, hook_eq_ok stored,
      if_neg bounded, run_modify]
  have nothing : ∀ arena : HookListArena, (List.forM [] discardHook).run arena =
      .ok () arena := fun _ => rfl
  have foundStill : list
      { wornWithHook generation owner with
        hooks := (wornWithHook generation owner).hooks.remove ⟨0, 0⟩ }
      ⟨⟨1⟩, ⟨0, generation⟩⟩ = .ok _ :=
    found
  simp only [discardList, run_bind, run_query, collected, run_forM_cons, freed,
    nothing, foundStill, if_pos exhausted, run_throw]

/-- Calls that bring a list slot to a generation. -/
def wear (generations : Nat) : List HookListCall :=
  (List.range generations).flatMap fun generation =>
    [.createList ⟨0, 0⟩, .discardList ⟨⟨1⟩, ⟨0, generation⟩⟩]

theorem arena_step_discardList (world : HookListWorld) (list : HookListId) :
    (world.step (.discardList list)).arena = stateAfter ((discardList list).run world.arena) := by
  unfold step perform
  rw [run_onArena]
  cases (discardList list).run world.arena <;> rfl

theorem arena_round {world : HookListWorld} (worn : world.arena = worn generation none)
    (left : generation + 1 < generationBound) :
    ((world.step (.createList ⟨0, 0⟩)).step
      (.discardList ⟨⟨1⟩, ⟨0, generation⟩⟩)).arena = HookListArena.worn (generation + 1) none := by
  have created : (world.step (.createList ⟨0, 0⟩)).arena =
      HookListArena.worn generation (some (HookList.new ⟨0, 0⟩)) := by
    change { world.arena with
      lists := (world.arena.lists.insert (HookList.new ⟨0, 0⟩)).2 } = _
    rw [worn]
    rfl
  rw [arena_step_discardList, created, run_discardList_worn ⟨0, 0⟩ left]
  rfl

theorem arena_wear (left : generation + 1 < generationBound) :
    ((wear (generation + 1)).foldl step (.new ⟨1⟩)).arena = worn (generation + 1) none := by
  induction generation with
  | zero =>
    have shape : wear (0 + 1) = [.createList ⟨0, 0⟩, .discardList ⟨⟨1⟩, ⟨0, 0⟩⟩] := rfl
    rw [shape, foldl_cons, foldl_cons, foldl_nil]
    have created : (step (.new ⟨1⟩) (.createList ⟨0, 0⟩)).arena =
        worn 0 (some (HookList.new ⟨0, 0⟩)) := rfl
    rw [arena_step_discardList, created, run_discardList_worn ⟨0, 0⟩ left]
    rfl
  | succ generation ih =>
    rw [wear, range_succ, flatMap_append, foldl_append]
    exact arena_round (ih (Nat.lt_of_succ_lt left)) left

/-- A list with one hook in a worn slot. -/
def wearAndAppend (generation : Nat) : List HookListCall :=
  wear (generation + 1) ++
    [.createList ⟨0, 0⟩, .appendHook ⟨⟨1⟩, ⟨0, generation + 1⟩⟩ .empty]

theorem arena_wearAndAppend (left : generation + 1 < generationBound) :
    ((wearAndAppend generation).foldl step (.new ⟨1⟩)).arena =
      wornWithHook (generation + 1) ⟨0, 0⟩ := by
  rw [wearAndAppend, foldl_append, foldl_cons, foldl_cons, foldl_nil]
  have begun := arena_wear left
  generalize (wear (generation + 1)).foldl step (.new ⟨1⟩) = world at begun ⊢
  have created : (world.step (.createList ⟨0, 0⟩)).arena =
      worn (generation + 1) (some (HookList.new ⟨0, 0⟩)) := by
    change { world.arena with
      lists := (world.arena.lists.insert (HookList.new ⟨0, 0⟩)).2 } = _
    rw [begun]
    rfl
  generalize world.step (.createList ⟨0, 0⟩) = next at created ⊢
  unfold step perform
  rw [run_bind, run_onArena, created, run_appendHook_worn]
  rfl

/-- A discard that fails at the list has freed its hook already. -/
theorem failed_discard_frees_hooks :
    ¬ ∀ (arenaId : HookListArenaId) (calls : List HookListCall) (list : HookListId)
      (error : HookListError) (after : HookListArena),
      (discardList list).run (calls.foldl step (.new arenaId)).arena =
          .error error after →
        after = (calls.foldl step (.new arenaId)).arena := by
  intro claimed
  obtain ⟨generation, left, exhausted⟩ : ∃ generation,
      generation + 1 < generationBound ∧ generationBound ≤ generation + 1 + 1 :=
    ⟨generationBound - 2, by decide, by decide⟩
  have failed := run_discardList_wornWithHook ⟨0, 0⟩ exhausted
  rw [← arena_wearAndAppend left] at failed
  have unchanged := claimed ⟨1⟩ (wearAndAppend generation) _ _ _ failed
  rw [arena_wearAndAppend left] at unchanged
  have sameHooks := congrArg (fun arena => arena.hooks.get? ⟨0, 0⟩) unchanged
  simp only [get?_remove, if_true] at sameHooks
  cases sameHooks

end HookListArena

end FastReact
