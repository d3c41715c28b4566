import FastReact.HandleReuse

namespace FastReact

open ErrorState HookQueueStore HookQueueWorld

/-!
# Steps of hook queue calls

Every call besides the two passes is made of few primitive changes: links and pending
tails are set, and updates and queues are inserted or freed.  A relation of stores that all
of these stay within is one that the call stays within.
-/

variable {State Action ReducerId DispatchId OwnerId : Type}

def HookQueueCall.isPass : HookQueueCall State Action OwnerId → Bool
  | .processUpdateQueue _ _ _ _ | .processRenderPhaseUpdates _ _ => true
  | _ => false

def HookQueueCall.makesSlot : HookQueueCall State Action OwnerId → Bool
  | .createStateSlot _ | .newStateSlot _ _ => true
  | _ => false

def HookQueueCall.appended : HookQueueCall State Action OwnerId → List HookUpdateId
  | .appendPendingUpdate _ update | .enqueueRenderPhaseUpdate _ update _ => [update]
  | .finishQueueing staging => staging.entries.map StagedHookUpdate.update
  | _ => []

namespace HookQueueWorld

variable {world : HookQueueWorld State Action ReducerId DispatchId}

theorem step_fst
    (state : HookQueueWorld State Action ReducerId DispatchId × HookRingLedger State Action)
    (call : HookQueueCall State Action OwnerId) : (step state call).1 = state.1.stepCall call := by
  rw [step, stepCall]
  cases (HookQueueWorld.call call).run state.1 <;> rfl

theorem slots_callStore {α : Type} (body : HookQueueM State Action ReducerId DispatchId α) :
    (stateAfter ((callStore body).run world)).slots = world.slots := by
  rw [callStore, run_bind, run_focus]
  cases body.run world.store <;> rfl

section

variable {Held α : Type} (held : Held)
  (body : EStateM HookQueueError (HookQueueStore State Action ReducerId DispatchId × Held) α)

theorem slots_callWith : (stateAfter ((callWith held body).run world)).slots = world.slots := by
  rw [callWith, run_bind, run_focus]
  cases body.run (world.store, held) <;> rfl

theorem store_callWith :
    (stateAfter ((callWith held body).run world)).store =
      (stateAfter (body.run (world.store, held))).1 := by
  rw [callWith, run_bind, run_focus]
  cases body.run (world.store, held) <;> rfl

end

theorem slots_stepCall (call : HookQueueCall State Action OwnerId) (noPass : call.isPass = false)
    (noSlot : call.makesSlot = false) : (world.stepCall call).slots = world.slots := by
  cases call with
  | createStateSlot initialState => cases noSlot
  | newStateSlot initialState queue => cases noSlot
  | processUpdateQueue slot renderLanes rootRenderLanes reducer => cases noPass
  | processRenderPhaseUpdates slot reducer => cases noPass
  | enqueueRenderPhaseUpdate queue update recorded => exact slots_callWith _ _
  | finishQueueing staging => exact slots_callWith _ _
  | clearRenderPhaseUpdates recorded => exact slots_callWith _ _
  | _ => exact slots_callStore _

theorem run_callSlot_missing {α : Type} {index : Nat}
    (body : HookSlotM State Action ReducerId DispatchId α) (missing : world.slots[index]? = none) :
    (callSlot index body).run world = .ok () world := by
  rw [callSlot, run_bind, run_get]
  simp only [missing, run_pure]

section CallSlot

variable {α : Type} {index : Nat} {slot : HookStateSlot State}
  {body : HookSlotM State Action ReducerId DispatchId α}
  {after : HookQueueStore State Action ReducerId DispatchId × HookStateSlot State}

section

variable (slotFound : world.slots[index]? = some slot)
include slotFound

theorem run_callSlot_ok {value : α} (ran : body.run (world.store, slot) = .ok value after) :
    (callSlot index body).run world =
      .ok () { store := after.1, slots := world.slots.set index after.2 } := by
  rw [callSlot, run_bind, run_get]
  simp only [slotFound]
  rw [run_bind, run_focus, ran]
  rfl

theorem run_callSlot_error {error : HookQueueError}
    (ran : body.run (world.store, slot) = .error error after) :
    (callSlot index body).run world =
      .error error { store := after.1, slots := world.slots.set index after.2 } := by
  rw [callSlot, run_bind, run_get]
  simp only [slotFound]
  rw [run_bind, run_focus, ran]

theorem stateAfter_callSlot :
    stateAfter ((callSlot index body).run world) =
      { store := (stateAfter (body.run (world.store, slot))).1
        slots := world.slots.set index (stateAfter (body.run (world.store, slot))).2 } := by
  cases ran : body.run (world.store, slot) with
  | ok value after =>
    rw [run_callSlot_ok slotFound ran]
    rfl
  | error error after =>
    rw [run_callSlot_error slotFound ran]
    rfl

end

end CallSlot

variable {state : HookQueueWorld State Action ReducerId DispatchId × HookRingLedger State Action}

variable {after : HookQueueWorld State Action ReducerId DispatchId}

variable {call : HookQueueCall State Action OwnerId}

theorem step_of_ok (ran : (HookQueueWorld.call call).run state.1 = .ok () after) :
    step state call = (after, state.2.afterOk state.1 call) := by
  rw [step, ran]

theorem step_of_error {error : HookQueueError}
    (ran : (HookQueueWorld.call call).run state.1 = .error error after) :
    step state call = (after, state.2.afterError state.1 call) := by
  rw [step, ran]

theorem run_append (ReducerId DispatchId : Type) (calls : List (HookQueueCall State Action OwnerId))
    (call : HookQueueCall State Action OwnerId) :
    run ReducerId DispatchId (calls ++ [call]) = step (run ReducerId DispatchId calls) call := by
  rw [run, List.foldl_append]
  rfl

end HookQueueWorld

namespace HookQueueStore

/-- A relation of the stores that are held beside something else. -/
def Beside {Held : Type}
    (relation : HookQueueStore State Action ReducerId DispatchId →
      HookQueueStore State Action ReducerId DispatchId → Prop)
    (before after : HookQueueStore State Action ReducerId DispatchId × Held) : Prop :=
  relation before.1 after.1

def OfStores
    (relation : HookQueueStore State Action ReducerId DispatchId →
      HookQueueStore State Action ReducerId DispatchId → Prop)
    (before after : HookQueueWorld State Action ReducerId DispatchId) : Prop :=
  relation before.store after.store

section Relation

variable
  {relation : HookQueueStore State Action ReducerId DispatchId →
    HookQueueStore State Action ReducerId DispatchId → Prop}
  [IsPreorder (HookQueueStore State Action ReducerId DispatchId) relation]

instance {Held : Type} :
    IsPreorder (HookQueueStore State Action ReducerId DispatchId × Held) (Beside relation) where
  refl held := refl_of relation held.1
  trans _ _ _ earlier later := trans_of relation earlier later

instance :
    IsPreorder (HookQueueWorld State Action ReducerId DispatchId) (OfStores relation) where
  refl world := refl_of relation world.store
  trans _ _ _ earlier later := trans_of relation earlier later

theorem within_onWorld {α : Type} {body : HookQueueM State Action ReducerId DispatchId α}
    (within : Within relation body) : Within (OfStores relation) (callStore body) :=
  .bind (.focus_within within fun _ _ related => related) fun _ => .pure _

theorem within_onWorldWith {Held α : Type} {held : Held}
    {body : EStateM HookQueueError (HookQueueStore State Action ReducerId DispatchId × Held) α}
    (within : Within (Beside relation) body) : Within (OfStores relation) (callWith held body) :=
  .bind (.focus_within within fun _ _ related => related) fun _ => .pure _

omit [IsPreorder (HookQueueStore State Action ReducerId DispatchId) relation] in
theorem within_whileHolding {Held α : Type} {body : HookQueueM State Action ReducerId DispatchId α}
    (within : Within relation body) :
    Within (Beside relation) (whileHolding body : EStateM HookQueueError
      (HookQueueStore State Action ReducerId DispatchId × Held) α) :=
  .focus_within within fun _ _ related => related

theorem within_appendUnchecked
    (relinks : ∀ id next, Within relation (setNext id (some next) :
      HookQueueM State Action ReducerId DispatchId Unit))
    (repoints : ∀ queue pending, Within relation (setPending queue pending :
      HookQueueM State Action ReducerId DispatchId Unit))
    (queue : HookQueueId)
    (update : HookUpdateId) :
    Within relation (appendPendingUpdateUnchecked queue update :
      HookQueueM State Action ReducerId DispatchId Unit) := by
  refine .bind (.query _) fun entry => ?_
  cases entry.pending with
  | some tail =>
    exact .bind (.query _) fun _ => .bind (relinks _ _) fun _ =>
      .bind (relinks _ _) fun _ => repoints _ _
  | none => exact .bind (relinks _ _) fun _ => repoints _ _

theorem within_append {update : HookUpdateId}
    (appends : ∀ queue, Within relation (appendPendingUpdateUnchecked queue update :
      HookQueueM State Action ReducerId DispatchId Unit))
    (queue : HookQueueId) :
    Within relation (appendPendingUpdate queue update :
      HookQueueM State Action ReducerId DispatchId Unit) :=
  .bind (.query _) fun _ => .bind (.query _) fun _ => appends queue

theorem within_enqueue {queue : HookQueueId} {update : HookUpdateId}
    (appended : Within relation (appendPendingUpdate queue update :
      HookQueueM State Action ReducerId DispatchId Unit)) :
    Within (Beside relation) (enqueueRenderPhaseUpdate queue update :
      HookRecordedM State Action ReducerId DispatchId Unit) :=
  .bind (within_whileHolding appended) fun _ => .modify fun held => refl_of relation held.1

theorem stateAfter_finishQueueing {store : HookQueueStore State Action ReducerId DispatchId}
    (staging : HookUpdateStaging OwnerId)
    (appends : ∀ queue, ∀ entry ∈ staging.entries,
      Within relation (appendPendingUpdateUnchecked queue entry.update :
        HookQueueM State Action ReducerId DispatchId Unit)) :
    relation store (stateAfter (finishQueueing.run (store, staging))).1 := by
  have appended : Within relation (staging.entries.forM fun entry =>
      appendPendingUpdateUnchecked entry.queue entry.update :
        HookQueueM State Action ReducerId DispatchId Unit) :=
    .forM_of_mem fun entry member => appends entry.queue entry member
  have finished : Within (Beside relation) (do
      let _ ← whileHolding
        (query fun store => staging.entries.foldlM store.validateStagedUpdate ([], []))
      whileHolding (staging.entries.forM fun entry =>
        appendPendingUpdateUnchecked entry.queue entry.update)
      modify fun held => (held.1, HookUpdateStaging.new)
      return staging.entries : HookStagingM State Action ReducerId DispatchId OwnerId
        (List (StagedHookUpdate OwnerId))) :=
    .bind (within_whileHolding (.query _)) fun _ =>
      .bind (within_whileHolding appended) fun _ =>
        .bind (.modify fun held => refl_of relation held.1) fun _ => .pure _
  exact finished (store, staging)

section

variable
  (repoints : ∀ queue pending, Within relation (setPending queue pending : HookQueueM State Action ReducerId DispatchId Unit))
include repoints

theorem within_clear :
    Within (Beside relation) (clearRenderPhaseUpdates :
      HookRecordedM State Action ReducerId DispatchId Unit) := by
  refine .bind .get fun held => ?_
  obtain ⟨store, recorded⟩ := held
  exact .bind (within_whileHolding (.forM (fun _ => repoints _ _) _)) fun _ =>
    .modify fun held => refl_of relation held.1

theorem related_stepCall
    (queues : ∀ initialState, Within relation (createQueue initialState :
      HookQueueM State Action ReducerId DispatchId HookQueueId))
    (freesUpdate : ∀ id, Within relation (reclaimUpdate id :
      HookQueueM State Action ReducerId DispatchId Unit))
    (freesQueue : ∀ id, Within relation (reclaimQueue id :
      HookQueueM State Action ReducerId DispatchId Unit))
    (creates : ∀ lane action, Within relation (createUpdate lane action :
      HookQueueM State Action ReducerId DispatchId HookUpdateId))
    (world : HookQueueWorld State Action ReducerId DispatchId)
    (call : HookQueueCall State Action OwnerId)
    (appends : ∀ queue, ∀ update ∈ call.appended,
      Within relation (appendPendingUpdateUnchecked queue update :
        HookQueueM State Action ReducerId DispatchId Unit))
    (converts : ∀ metadata, call = .createUpdateFromDispatchMetadata metadata →
      Within relation (createUpdateFromDispatchMetadata metadata :
        HookQueueM State Action ReducerId DispatchId HookUpdateId))
    (noPass : call.isPass = false) : relation world.store (world.stepCall call).store := by
  cases call with
  | createQueue initialState => exact within_onWorld (queues _) world
  | createStateSlot initialState =>
    have created : Within (OfStores relation) (call
        (.createStateSlot initialState : HookQueueCall State Action OwnerId)) :=
      .bind (.focus_within
        (.bind (queues _) fun _ => .pure _) fun _ _ related => related)
        fun _ => .modify fun world => refl_of relation world.store
    exact created world
  | newStateSlot initialState queue => exact refl_of relation world.store
  | createUpdate lane action => exact within_onWorld (creates _ _) world
  | createUpdateFromDispatchMetadata metadata => exact within_onWorld (converts _ rfl) world
  | appendPendingUpdate queue update =>
    exact within_onWorld (within_append (fun other => appends other update (by simp [
      HookQueueCall.appended])) queue) world
  | enqueueRenderPhaseUpdate queue update recorded =>
    exact within_onWorldWith (within_enqueue (within_append (fun other =>
      appends other update (by simp [HookQueueCall.appended])) queue)) world
  | finishQueueing staging =>
    have finished : relation world.store
        (stateAfter (finishQueueing.run (world.store, staging))).1 :=
      stateAfter_finishQueueing staging fun queue entry member =>
        appends queue entry.update (List.mem_map.mpr ⟨entry, member, rfl⟩)
    rw [← store_callWith] at finished
    exact finished
  | processUpdateQueue slot renderLanes rootRenderLanes reducer => cases noPass
  | processRenderPhaseUpdates slot reducer => cases noPass
  | clearRenderPhaseUpdates recorded => exact within_onWorldWith (within_clear repoints) world
  | reclaimUpdate id => exact within_onWorld (freesUpdate id) world
  | reclaimQueue id => exact within_onWorld (freesQueue id) world

end

end Relation

end HookQueueStore

end FastReact
