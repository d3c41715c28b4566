import FastReact.FunctionEffectRings

namespace FastReact

open ErrorState FunctionComponent LinkedArena List SearchedLists

/-!
# Rendering effects

A render calls effect hooks one after another; between two of them anything may happen to
other lists.  Whatever happens, the ring of its list holds the rendered effects in their
order, and in an update the queue of the list has one record for each of them.
-/

namespace FunctionEffects

open PassiveEffects (HookEffectCallbackHandle HookEffectInstance HookEffectInstanceId)
open HookEffectArena EffectRenderWorld

variable {State Action α : Type}

/-! What the operations on hook lists keep. -/

variable (fiber : FiberId)

theorem within_appendHook (list : HookListId) (payload : HookSlotPayload State) :
    Within ListsKept
      (appendHook fiber list payload : HookRenderM State Action Empty HookSlotId) := by
  refine .bind (.query _) fun _ => .bind (.modify fun store => ?_) fun _ => .pure _
  exact (length_modify _ _ _).ge

theorem within_setHookPayload (hook : HookSlotId) (payload : HookSlotPayload State) :
    Within ListsKept (setHookPayload fiber hook payload : HookRenderM State Action Empty Unit) := by
  refine .bind (.query _) fun _ => .guard fun _ => .modify fun store => ?_
  exact (length_modify _ _ _).ge

theorem within_bindCurrentListUnchecked (list : HookListId) :
    Within ListsKept (bindCurrentListUnchecked fiber list : HookRenderM State Action Empty Unit) :=
  .modify fun _ => le_rfl

theorem within_createList (owner : FiberId) :
    Within ListsKept (createList owner : HookRenderM State Action Empty HookListId) := by
  apply Within.modifyGet
  intro store
  simp [ListsKept]

theorem within_ensureUpdateCursorListsUnchanged (cursor : HookListUpdateCursor) :
    Within ListsKept
      (ensureUpdateCursorListsUnchanged fiber cursor : HookRenderM State Action Empty Unit) := by
  refine .bind (.query _) fun _ => .bind (.query _) fun _ => .guard fun _ => .guard fun _ => ?_
  exact .ite (.throw _) (.pure _)

theorem within_updateHook (cursor : HookListUpdateCursor) :
    Within ListsKept
      (updateHook fiber cursor :
        HookRenderM State Action Empty (HookSlotId × HookListUpdateCursor)) := by
  refine .bind (within_ensureUpdateCursorListsUnchanged fiber cursor) fun _ =>
    .bind (.query _) fun current => ?_
  cases current.hooks[cursor.consumed]? with
  | none => exact .throw _
  | some payload => exact .bind (within_appendHook _ _ _) fun _ => .pure _

section

variable (state : FunctionComponentHookRenderState) (cursor : HookListMountCursor)

theorem within_ensureMountCursorReady :
    Within ListsKept (ensureMountCursorReady state cursor : HookRenderM State Action Empty Unit) :=
  .bind (.query _) fun _ => .ite (.throw _) (.pure _)

theorem within_mountHook (payload : HookSlotPayload State) :
    Within ListsKept
      (mountHook state cursor payload :
        HookRenderM State Action Empty (HookSlotId × HookListMountCursor)) :=
  .bind (within_ensureMountCursorReady state cursor) fun _ =>
    .bind (within_appendHook _ _ _) fun _ => .pure _

end

theorem within_prepareHooks (alternate : Option FiberId) (workInProgress : FiberId) :
    Within ListsKept
      (FastReact.prepareRenderState alternate workInProgress :
        HookRenderM State Action Empty FunctionComponentHookRenderState) := by
  refine .bind .get fun store => ?_
  cases alternate.bind store.currentList with
  | none => exact .bind (within_createList _) fun _ => .pure _
  | some list => exact .bind (.query _) fun _ => .bind (within_createList _) fun _ => .pure _

variable (state : FunctionComponentHookRenderState)

theorem within_beginUpdate :
    Within ListsKept (beginUpdate state : HookRenderM State Action Empty HookListUpdateCursor) := by
  unfold beginUpdate
  cases state.currentList with
  | none => exact .throw _
  | some currentList =>
    exact .bind (.query _) fun _ => .bind (.query _) fun _ => .guard fun _ => .guard fun _ =>
      .pure _

/-! Operations that keep all effects. -/

theorem within_prepareRenderState (workInProgress : FiberId) :
    Within EffectsKept
      (prepareRenderState workInProgress :
        EffectRenderM State Action FunctionComponentHookRenderState) := by
  refine .bind (within_onFibers _) fun fiber =>
    .bind (within_onHooks (within_prepareHooks _ _)) fun state =>
      .bind (.modify fun world => ?_) fun _ => .pure _
  exact ⟨rfl, fun _ => rfl, fun _ => rfl, le_rfl, fun _ found resolves => ⟨found, resolves⟩⟩

theorem within_beginRenderCursor :
    Within EffectsKept
      (beginRenderCursor state : EffectRenderM State Action FunctionComponentHookRenderCursor) := by
  unfold beginRenderCursor
  split
  · exact .bind (within_onHooks (.query _)) fun _ => .guard fun _ => .pure _
  · exact .bind (within_onHooks (within_beginUpdate state)) fun _ => .pure _

theorem within_commitEffectQueueForRenderState (lanes : Lanes) :
    Within EffectsKept
      (commitEffectQueueForRenderState state lanes :
        EffectRenderM State Action FunctionComponentCommittedEffectQueue) := by
  refine .bind (.query _) fun records =>
    .bind (within_onHooks (within_bindCurrentListUnchecked _ _)) fun _ =>
      .bind (.modify fun world => ?_) fun _ => .pure _
  exact ⟨rfl, fun _ => rfl, fun _ => rfl, le_rfl, fun _ found resolves => ⟨found, resolves⟩⟩

theorem within_commitPendingEffectQueueForFiber (lanes : Lanes) :
    Within EffectsKept
      (commitPendingEffectQueueForFiber fiber lanes :
        EffectRenderM State Action (Option FunctionComponentCommittedEffectQueue)) := by
  refine .bind .get fun world => ?_
  cases world.pendingEffectQueues.find? fun binding => binding.fiber = fiber with
  | none => exact .pure _
  | some binding =>
    refine .bind (within_commitEffectQueueForRenderState _ _) fun queue =>
      .bind (.modify fun world => ?_) fun _ => .pure _
    exact ⟨rfl, fun _ => rfl, fun _ => rfl, le_rfl, fun _ found resolves => ⟨found, resolves⟩⟩

theorem within_mergeNonEmptyFiberFlags (flags : FiberFlags) :
    Within EffectsKept (mergeNonEmptyFiberFlags fiber flags : EffectRenderM State Action Unit) :=
  .ite (within_onFibers _) (.pure _)

/-! Rendering an effect hook. -/

def FunctionComponentEffectRegistration.hookEffect
    (registration : FunctionComponentEffectRegistration) : HookEffect where
  tag := registration.tag
  effectInstance := registration.effectInstance
  create := registration.create
  dependencies := registration.dependencies

variable {world between after : EffectRenderWorld State Action}
  {cursor next : FunctionComponentHookRenderCursor} {phase : FunctionComponentEffectPhase}
  {create : HookEffectCallbackHandle} {dependencies : HookEffectDependencies}
  {dependencyStatus : FunctionComponentEffectDependencyStatus}
  {registration : FunctionComponentEffectRegistration}

variable {state : FunctionComponentHookRenderState}
  {record : FunctionComponentEffectUpdateQueueRecord} {body : EffectRenderM State Action α}

theorem related_of_ok
    {relation : EffectRenderWorld State Action → EffectRenderWorld State Action → Prop} {value : α}
    (within : Within relation body)
    (ran : body.run world = .ok value after) : relation world after := by
  have related := within world
  rwa [ran] at related

theorem pushedForList_of_ok {effect : HookEffect} {pushedId : HookEffectId}
    (ran : (pushEffectForList state effect).run world = .ok pushedId after) :
    PushedForList state effect world pushedId after := by
  rcases run_pushEffectForList state effect world with
    ⟨otherId, other, ranOther, pushed⟩ | ⟨error, other, ranOther, -⟩
  · rw [ran] at ranOther
    cases ranOther
    exact pushed
  · rw [ran] at ranOther
    cases ranOther

structure PushesEffect (state : FunctionComponentHookRenderState)
    (world : EffectRenderWorld State Action) (registration : FunctionComponentEffectRegistration)
    (after : EffectRenderWorld State Action) : Prop where
  created : state.workInProgressList < after.hooks.hookLists.length
  effects : ∀ members effects, EffectLists world members effects →
    ∃ membersAfter effectsAfter, EffectLists after membersAfter effectsAfter ∧
      membersAfter state.workInProgressList =
        members state.workInProgressList ++ [registration.effect] ∧
      effectsAfter state.workInProgressList =
        effects state.workInProgressList ++ [registration.hookEffect]

theorem pushesEffect_of_pushed {pushed : EffectRenderWorld State Action}
    (keptBefore : EffectsKept world between)
    (pushedForList : PushedForList state registration.hookEffect between registration.effect pushed)
    (keptAfter : EffectsKept pushed after) : PushesEffect state world registration after where
  created := by
    have created := pushedForList.created
    rw [← pushedForList.hooks] at created
    exact Nat.lt_of_lt_of_le created keptAfter.lists
  effects := by
    intro members effects listed
    have listedAfter := keptAfter.effectLists
      (pushedForList.effectLists (keptBefore.effectLists listed))
    exact ⟨_, _, listedAfter, if_pos rfl, if_pos rfl⟩

theorem run_mountEffectMetadata_eq_ok
    (ran : (mountEffectMetadata cursor phase create dependencies).run world =
      .ok (registration, next) after) :
    cursor.state.phase = .mount ∧
      PushesEffect cursor.state world registration after ∧
      (∀ list, after.updateRecords list = world.updateRecords list) ∧
      registration.phase = phase ∧
      registration.tag = HookEffectFlags.hasEffect.merge phase.hookFlags := by
  cases cursor with
  | update state updates cursor =>
    cases ran
  | mount state mounts cursor =>
    obtain ⟨_, checked, ranReady, ran⟩ := run_bind_eq_ok_iff.mp ran
    obtain ⟨effectInstance, instanced, ranInstance, ran⟩ := run_bind_eq_ok_iff.mp ran
    obtain ⟨effect, pushed, ranPush, ran⟩ := run_bind_eq_ok_iff.mp ran
    obtain ⟨hook, hooked, ranHook, ran⟩ := run_bind_eq_ok_iff.mp ran
    obtain ⟨_, merged, ranMerge, ran⟩ := run_bind_eq_ok_iff.mp ran
    cases ran
    have keptBefore : EffectsKept world instanced := trans_of EffectsKept
      (related_of_ok (within_onHooks (within_ensureMountCursorReady state cursor)) ranReady)
      (related_of_ok within_createEffectInstance ranInstance)
    have keptAfter : EffectsKept pushed after := trans_of EffectsKept
      (related_of_ok (within_onHooks (within_mountHook state cursor _)) ranHook)
      (related_of_ok (within_onFibers _) ranMerge)
    have pushedForList := pushedForList_of_ok ranPush
    refine ⟨mounts, pushesEffect_of_pushed keptBefore pushedForList keptAfter, ?_, rfl, rfl⟩
    intro list
    rw [keptAfter.records, pushedForList.records, keptBefore.records]

/-- The world once a record is queued. -/
def EffectRenderWorld.withRecord (world : EffectRenderWorld State Action)
    (record : FunctionComponentEffectUpdateQueueRecord) : EffectRenderWorld State Action :=
  { world with
    effectUpdateQueues := changeFirst (·.hookList = record.hookList)
      { hookList := record.hookList, records := [] } (·.push record) world.effectUpdateQueues }

theorem updateRecords_withRecord (world : EffectRenderWorld State Action)
    (record : FunctionComponentEffectUpdateQueueRecord) (list : HookListId) :
    (world.withRecord record).updateRecords list =
      if list = record.hookList then
        world.updateRecords list ++
          [{ record with updateIndex := (world.updateRecords list).length }]
      else
        world.updateRecords list := by
  have found := @find?_changeFirst _ _ _ FunctionComponentEffectUpdateQueue.hookList
    record.hookList { hookList := record.hookList, records := [] } (·.push record) rfl
    (fun _ same => same) world.effectUpdateQueues list
  unfold updateRecords effectUpdateQueue withRecord
  dsimp only
  rw [found]
  by_cases isOwn : list = record.hookList
  · subst isOwn
    rw [if_pos rfl, if_pos rfl]
    cases world.effectUpdateQueues.find? fun queue => decide (queue.hookList = record.hookList) <;>
      rfl
  · rw [if_neg isOwn, if_neg isOwn]

variable {members : HookListId → List HookEffectId} {effects : HookListId → List HookEffect}

theorem effectLists_withRecord (created : record.hookList < world.hooks.hookLists.length)
    (listed : EffectLists world members effects) :
    EffectLists (world.withRecord record) members effects where
  family := listed.family
  instances := listed.instances
  unbound := by
    intro list isNew
    have isOther : list ≠ record.hookList := by
      rintro rfl
      exact absurd created (Nat.not_lt.mpr isNew)
    rw [updateRecords_withRecord, if_neg isOther]
    exact listed.unbound list isNew

theorem PushesEffect.withRecord (pushes : PushesEffect state world registration after)
    (own : record.hookList = state.workInProgressList) :
    PushesEffect state world registration (after.withRecord record) where
  created := pushes.created
  effects := by
    intro members effects listed
    obtain ⟨membersAfter, effectsAfter, listedAfter, same⟩ := pushes.effects members effects listed
    exact ⟨membersAfter, effectsAfter, effectLists_withRecord (own ▸ pushes.created) listedAfter, same⟩

structure Reports (state : FunctionComponentHookRenderState)
    (registration : FunctionComponentEffectRegistration)
    (record : FunctionComponentEffectUpdateQueueRecord) : Prop where
  fiber : record.fiber = state.renderFiber
  hookList : record.hookList = state.workInProgressList
  phase : record.phase = registration.phase
  tag : record.tag = registration.tag

theorem run_updateEffectMetadata_eq_ok
    (ran : (updateEffectMetadata cursor phase create dependencies dependencyStatus).run world =
      .ok (registration, next) after) :
    cursor.state.phase = .update ∧
      PushesEffect cursor.state world registration after ∧
      (∃ record, Reports cursor.state registration record ∧
        ∀ list, after.updateRecords list =
          if list = cursor.state.workInProgressList then
            world.updateRecords list ++
              [{ record with updateIndex := (world.updateRecords list).length }]
          else
            world.updateRecords list) ∧
      registration.phase = phase ∧
      registration.tag =
        (if dependencies.isAlwaysRun || dependencyStatus.shouldRegisterHasEffect then
          HookEffectFlags.hasEffect.merge phase.hookFlags
        else
          phase.hookFlags) := by
  cases cursor with
  | mount state mounts cursor =>
    cases ran
  | update state updates cursor =>
    obtain ⟨updated, copied, ranUpdate, ran⟩ := run_bind_eq_ok_iff.mp ran
    obtain ⟨previousEffect, _, ran⟩ := run_query_bind_eq_ok_iff.mp ran
    obtain ⟨previous, _, ran⟩ := run_query_bind_eq_ok_iff.mp ran
    obtain ⟨destroy, _, ran⟩ := run_query_bind_eq_ok_iff.mp ran
    obtain ⟨effect, pushed, ranPush, ran⟩ := run_bind_eq_ok_iff.mp ran
    obtain ⟨_, replaced, ranPayload, ran⟩ := run_bind_eq_ok_iff.mp ran
    obtain ⟨_, merged, ranMerge, ran⟩ := run_bind_eq_ok_iff.mp ran
    obtain ⟨_, queued, ranQueue, ran⟩ := run_bind_eq_ok_iff.mp ran
    cases ran
    have keptBefore : EffectsKept world copied :=
      related_of_ok (within_onHooks (within_updateHook state.renderFiber cursor)) ranUpdate
    have keptAfter : EffectsKept pushed merged := trans_of EffectsKept
      (related_of_ok (within_onHooks (within_setHookPayload state.renderFiber _ _)) ranPayload)
      (related_of_ok (within_mergeNonEmptyFiberFlags _ _) ranMerge)
    have pushedForList := pushedForList_of_ok ranPush
    cases ranQueue
    refine ⟨updates, .withRecord (pushesEffect_of_pushed keptBefore pushedForList keptAfter) rfl,
      ⟨{ updateIndex := 0
         fiber := state.renderFiber
         hookList := state.workInProgressList
         hook := updated.1
         previousEffect := previousEffect
         effect := effect
         effectInstance := previous.data.effectInstance
         phase := phase
         tag := _
         create := create
         destroy := destroy
         previousDependencies := previous.data.dependencies
         dependencies := dependencies
         dependencyStatus := dependencyStatus }, ⟨rfl, rfl, rfl, rfl⟩, fun list => ?_⟩, rfl, rfl⟩
    have sameRecords : merged.updateRecords list = world.updateRecords list := by
      rw [keptAfter.records, pushedForList.records, keptBefore.records]
    rw [← sameRecords]
    exact updateRecords_withRecord merged _ list

/-! What rendering an effect hook leaves alone, whatever comes of it. -/

/-- Only the effects of one list may have changed, provided that the list exists. -/
def CreatedBeside (list : HookListId) (world after : EffectRenderWorld State Action) : Prop :=
  list < world.hooks.hookLists.length → EffectsBeside list world after

instance (list : HookListId) :
    IsPreorder (EffectRenderWorld State Action) (CreatedBeside list) where
  refl world _ := refl_of (EffectsBeside list) world
  trans world between after earlier later := by
    intro created
    have besideBetween := earlier created
    have besideAfter := later (Nat.lt_of_lt_of_le created besideBetween.lists)
    exact trans_of (EffectsBeside list) besideBetween besideAfter

section

variable (within : Within EffectsKept body) (list : HookListId)
include within

theorem within_beside : Within (EffectsBeside list) body :=
  fun world => (within world).beside list

theorem within_createdBeside : Within (CreatedBeside list) body :=
  fun world _ => (within world).beside list

end

theorem within_pushEffectUpdateQueueRecord {list : HookListId} (own : record.hookList = list) :
    Within (CreatedBeside list)
      (pushEffectUpdateQueueRecord record : EffectRenderM State Action Unit) := by
  subst own
  intro world created
  refine ⟨le_rfl, ?_, fun members effects listed => ?_⟩
  · intro other isOther
    exact (updateRecords_withRecord world record other).trans (if_neg isOther)
  · exact ⟨members, effects, effectLists_withRecord created listed, fun _ _ => ⟨rfl, rfl⟩⟩

section

variable (cursor : FunctionComponentHookRenderCursor) (phase : FunctionComponentEffectPhase)
  (create : HookEffectCallbackHandle) (dependencies : HookEffectDependencies)

theorem within_mountEffectMetadata :
    Within (EffectsBeside cursor.state.workInProgressList)
      (mountEffectMetadata cursor phase create dependencies :
        EffectRenderM State Action
          (FunctionComponentEffectRegistration × FunctionComponentHookRenderCursor)) := by
  cases cursor with
  | update state updates cursor => exact .throw _
  | mount state mounts cursor =>
    exact .bind (within_beside (within_onHooks (within_ensureMountCursorReady state cursor)) _)
      fun _ => .bind (within_beside within_createEffectInstance _) fun _ =>
        .bind (within_pushEffectForList state _) fun _ =>
          .bind (within_beside (within_onHooks (within_mountHook state cursor _)) _) fun _ =>
            .bind (within_beside (within_onFibers _) _) fun _ => .pure _

theorem within_updateEffectMetadata (dependencyStatus : FunctionComponentEffectDependencyStatus) :
    Within (EffectsBeside cursor.state.workInProgressList)
      (updateEffectMetadata cursor phase create dependencies dependencyStatus :
        EffectRenderM State Action
          (FunctionComponentEffectRegistration × FunctionComponentHookRenderCursor)) := by
  cases cursor with
  | mount state mounts cursor => exact .throw _
  | update state updates cursor =>
    refine .bind (within_beside (within_onHooks (within_updateHook _ cursor)) _) fun updated =>
      .bind (.query _) fun previousEffect => .bind (.query _) fun previous =>
        .bind (.query _) fun destroy => .bind_run (within_pushEffectForList state _) ?_
    intro world effect pushed ranPush
    have pushedForList := pushedForList_of_ok ranPush
    have created := pushedForList.created
    rw [← pushedForList.hooks] at created
    -- The list exists once an effect is pushed to its ring, so that it may have a record.
    refine (?_ : Within (CreatedBeside state.workInProgressList) _) pushed created
    exact .bind (within_createdBeside (within_onHooks (within_setHookPayload _ updated.1 _)) _)
      fun _ => .bind (within_createdBeside (within_mergeNonEmptyFiberFlags _ _) _) fun _ =>
        .bind (within_pushEffectUpdateQueueRecord rfl) fun _ => .pure _

theorem within_updateEffectMetadataWithDependencyCheck :
    Within (EffectsBeside cursor.state.workInProgressList)
      (updateEffectMetadataWithDependencyCheck cursor phase create dependencies :
        EffectRenderM State Action
          (FunctionComponentEffectRegistration × FunctionComponentHookRenderCursor)) :=
  .bind (.query _) fun dependencyStatus =>
    within_updateEffectMetadata cursor phase create dependencies dependencyStatus

end

/-! Whole runs. -/

/-- What may be done with the hooks and the effects. -/
inductive EffectOperation (State Action : Type) where
  | prepareRenderState (workInProgress : FiberId)
  | beginRenderCursor (state : FunctionComponentHookRenderState)
  | mountEffectMetadata (cursor : FunctionComponentHookRenderCursor)
      (phase : FunctionComponentEffectPhase) (create : HookEffectCallbackHandle)
      (dependencies : HookEffectDependencies)
  | updateEffectMetadata (cursor : FunctionComponentHookRenderCursor)
      (phase : FunctionComponentEffectPhase) (create : HookEffectCallbackHandle)
      (dependencies : HookEffectDependencies)
      (dependencyStatus : FunctionComponentEffectDependencyStatus)
  | updateEffectMetadataWithDependencyCheck (cursor : FunctionComponentHookRenderCursor)
      (phase : FunctionComponentEffectPhase) (create : HookEffectCallbackHandle)
      (dependencies : HookEffectDependencies)
  | commitEffectQueueForRenderState (state : FunctionComponentHookRenderState) (lanes : Lanes)
  | commitPendingEffectQueueForFiber (fiber : FiberId) (lanes : Lanes)
  | setDestroy (effectInstance : HookEffectInstanceId) (destroy : Option HookEffectCallbackHandle)
  | changeHooks
      (change : FunctionComponentHookRenderStore State Action →
        FunctionComponentHookRenderStore State Action)
      (keepsLists : ∀ store, ListsKept store (change store))
  | changeFibers (change : FiberArena → FiberArena)

namespace EffectOperation

/-- The render state whose list an operation may give effects to. -/
def renders : EffectOperation State Action → Option FunctionComponentHookRenderState
  | .mountEffectMetadata cursor _ _ _ | .updateEffectMetadata cursor _ _ _ _
  | .updateEffectMetadataWithDependencyCheck cursor _ _ _ => some cursor.state
  | _ => none

/-- The world after an operation, whatever its outcome. -/
def run (operation : EffectOperation State Action) (world : EffectRenderWorld State Action) :
    EffectRenderWorld State Action :=
  match operation with
  | .prepareRenderState workInProgress =>
      stateAfter ((FunctionEffects.prepareRenderState workInProgress).run world)
  | .beginRenderCursor state => stateAfter ((FunctionEffects.beginRenderCursor state).run world)
  | .mountEffectMetadata cursor phase create dependencies =>
      stateAfter ((FunctionEffects.mountEffectMetadata cursor phase create dependencies).run world)
  | .updateEffectMetadata cursor phase create dependencies dependencyStatus =>
      stateAfter ((FunctionEffects.updateEffectMetadata cursor phase create dependencies
        dependencyStatus).run world)
  | .updateEffectMetadataWithDependencyCheck cursor phase create dependencies =>
      stateAfter ((FunctionEffects.updateEffectMetadataWithDependencyCheck cursor phase create
        dependencies).run world)
  | .commitEffectQueueForRenderState state lanes =>
      stateAfter ((FunctionEffects.commitEffectQueueForRenderState state lanes).run world)
  | .commitPendingEffectQueueForFiber fiber lanes =>
      stateAfter ((FunctionEffects.commitPendingEffectQueueForFiber fiber lanes).run world)
  | .setDestroy effectInstance destroy =>
      { world with hookEffects := world.hookEffects.setDestroy effectInstance destroy }
  | .changeHooks change _ => { world with hooks := change world.hooks }
  | .changeFibers change => { world with fibers := change world.fibers }

variable {operation : EffectOperation State Action} (world : EffectRenderWorld State Action)

theorem kept
    (rendersNothing : operation.renders = none) : EffectsKept world (operation.run world) := by
  cases operation with
  | prepareRenderState workInProgress => exact within_prepareRenderState workInProgress world
  | beginRenderCursor state => exact within_beginRenderCursor state world
  | mountEffectMetadata cursor phase create dependencies =>
    cases rendersNothing
  | updateEffectMetadata cursor phase create dependencies dependencyStatus =>
    cases rendersNothing
  | updateEffectMetadataWithDependencyCheck cursor phase create dependencies =>
    cases rendersNothing
  | commitEffectQueueForRenderState state lanes =>
    exact within_commitEffectQueueForRenderState state lanes world
  | commitPendingEffectQueueForFiber fiber lanes =>
    exact within_commitPendingEffectQueueForFiber fiber lanes world
  | setDestroy effectInstance destroy => exact effectsKept_setDestroy world effectInstance destroy
  | changeHooks change keepsLists =>
    exact ⟨rfl, fun _ => rfl, fun _ => rfl, keepsLists world.hooks,
      fun _ found resolves => ⟨found, resolves⟩⟩
  | changeFibers change =>
    exact ⟨rfl, fun _ => rfl, fun _ => rfl, le_rfl, fun _ found resolves => ⟨found, resolves⟩⟩

theorem beside {state : FunctionComponentHookRenderState}
    (ofState : operation.renders = some state) :
    EffectsBeside state.workInProgressList world (operation.run world) := by
  cases operation with
  | mountEffectMetadata cursor phase create dependencies =>
    cases ofState
    exact within_mountEffectMetadata cursor phase create dependencies world
  | updateEffectMetadata cursor phase create dependencies dependencyStatus =>
    cases ofState
    exact within_updateEffectMetadata cursor phase create dependencies dependencyStatus world
  | updateEffectMetadataWithDependencyCheck cursor phase create dependencies =>
    cases ofState
    exact within_updateEffectMetadataWithDependencyCheck cursor phase create dependencies world
  | _ =>
    cases ofState

end EffectOperation

/-- A world that operations lead to from a store without hooks. -/
def Reachable (world : EffectRenderWorld State Action) : Prop :=
  ∃ arenaId fibers, ∃ operations : List (EffectOperation State Action),
    world = operations.foldl (fun world operation => operation.run world) (.new arenaId fibers)

theorem effectLists_new (arenaId : PassiveEffects.HookEffectArenaId) (fibers : FiberArena) :
    EffectLists (.new arenaId fibers : EffectRenderWorld State Action) (fun _ => [])
      (fun _ => []) where
  family := ⟨fun _ => ⟨rfl, rfl⟩, fun _ _ _ => disjoint_nil_left _⟩
  instances := by
    intro effectId effect stored
    cases stored
  unbound := fun _ _ => ⟨rfl, rfl⟩

theorem EffectOperation.effectLists (operation : EffectOperation State Action)
    (listed : EffectLists world members effects) :
    ∃ membersAfter effectsAfter, EffectLists (operation.run world) membersAfter effectsAfter := by
  cases rendered : operation.renders with
  | none => exact ⟨members, effects, (operation.kept world rendered).effectLists listed⟩
  | some state =>
    obtain ⟨membersAfter, effectsAfter, listedAfter, -⟩ :=
      (operation.beside world rendered).effects members effects listed
    exact ⟨membersAfter, effectsAfter, listedAfter⟩

theorem effectLists_of_reachable (reached : Reachable world) :
    ∃ members effects, EffectLists world members effects := by
  obtain ⟨arenaId, fibers, operations, rfl⟩ := reached
  induction operations using List.reverseRecOn with
  | nil => exact ⟨_, _, effectLists_new arenaId fibers⟩
  | append_singleton earlier operation ih =>
    obtain ⟨members, effects, listed⟩ := ih
    rw [foldl_concat]
    exact operation.effectLists listed

inductive RendersEffects (state : FunctionComponentHookRenderState)
    (world : EffectRenderWorld State Action) :
    List FunctionComponentEffectRegistration → EffectRenderWorld State Action → Prop where
  | start : RendersEffects state world [] world
  | mount (cursor next : FunctionComponentHookRenderCursor) (phase : FunctionComponentEffectPhase)
      (create : HookEffectCallbackHandle) (dependencies : HookEffectDependencies)
      {registrations : List FunctionComponentEffectRegistration}
      {registration : FunctionComponentEffectRegistration}
      {between after : EffectRenderWorld State Action}
      (earlier : RendersEffects state world registrations between) (ofState : cursor.state = state)
      (ran : (mountEffectMetadata cursor phase create dependencies).run between =
        .ok (registration, next) after) :
      RendersEffects state world (registrations ++ [registration]) after
  | update (cursor next : FunctionComponentHookRenderCursor) (phase : FunctionComponentEffectPhase)
      (create : HookEffectCallbackHandle) (dependencies : HookEffectDependencies)
      (dependencyStatus : FunctionComponentEffectDependencyStatus)
      {registrations : List FunctionComponentEffectRegistration}
      {registration : FunctionComponentEffectRegistration}
      {between after : EffectRenderWorld State Action}
      (earlier : RendersEffects state world registrations between) (ofState : cursor.state = state)
      (ran : (updateEffectMetadata cursor phase create dependencies dependencyStatus).run between =
        .ok (registration, next) after) :
      RendersEffects state world (registrations ++ [registration]) after
  | updateWithDependencyCheck (cursor next : FunctionComponentHookRenderCursor)
      (phase : FunctionComponentEffectPhase) (create : HookEffectCallbackHandle)
      (dependencies : HookEffectDependencies)
      {registrations : List FunctionComponentEffectRegistration}
      {registration : FunctionComponentEffectRegistration}
      {between after : EffectRenderWorld State Action}
      (earlier : RendersEffects state world registrations between) (ofState : cursor.state = state)
      (ran : (updateEffectMetadataWithDependencyCheck cursor phase create dependencies).run
        between = .ok (registration, next) after) :
      RendersEffects state world (registrations ++ [registration]) after
  | other (operation : EffectOperation State Action)
      {registrations : List FunctionComponentEffectRegistration}
      {between : EffectRenderWorld State Action}
      (earlier : RendersEffects state world registrations between)
      (apart : ∀ otherState, operation.renders = some otherState →
        otherState.workInProgressList ≠ state.workInProgressList) :
      RendersEffects state world registrations (operation.run between)

/-- What the store keeps of the effects that a render has come to. -/
structure RenderedEffects (state : FunctionComponentHookRenderState)
    (registrations : List FunctionComponentEffectRegistration)
    (world : EffectRenderWorld State Action) : Prop where
  created : state.workInProgressList < world.hooks.hookLists.length
  listed : ∃ members effects, EffectLists world members effects ∧
    members state.workInProgressList =
      registrations.map FunctionComponentEffectRegistration.effect ∧
    effects state.workInProgressList =
      registrations.map FunctionComponentEffectRegistration.hookEffect
  mounts : state.phase = .mount →
    ∀ registration ∈ registrations,
      registration.tag = HookEffectFlags.hasEffect.merge registration.phase.hookFlags
  updates : state.phase = .update →
    List.Forall₂ (Reports state) registrations (world.updateRecords state.workInProgressList)
  numbered : (world.updateRecords state.workInProgressList).map
      FunctionComponentEffectUpdateQueueRecord.updateIndex =
    List.range (world.updateRecords state.workInProgressList).length

namespace RenderedEffects

variable {registrations : List FunctionComponentEffectRegistration}

section

variable (rendered : RenderedEffects state registrations world)
include rendered

theorem other {operation : EffectOperation State Action}
    (apart : ∀ otherState, operation.renders = some otherState →
      otherState.workInProgressList ≠ state.workInProgressList) :
    RenderedEffects state registrations (operation.run world) := by
  obtain ⟨created, ⟨members, effects, listed, sameMembers, sameEffects⟩, mounts, updates,
    numbered⟩ := rendered
  cases renders : operation.renders with
  | none =>
    have kept := operation.kept world renders
    refine ⟨Nat.lt_of_lt_of_le created kept.lists,
      ⟨members, effects, kept.effectLists listed, sameMembers, sameEffects⟩, mounts, ?_, ?_⟩
    · rw [kept.records]
      exact updates
    · rw [kept.records]
      exact numbered
  | some otherState =>
    have beside := operation.beside world renders
    have isOther := (apart otherState renders).symm
    obtain ⟨membersAfter, effectsAfter, listedAfter, sameAfter⟩ :=
      beside.effects members effects listed
    obtain ⟨sameMembersAfter, sameEffectsAfter⟩ := sameAfter _ isOther
    refine ⟨Nat.lt_of_lt_of_le created beside.lists, ⟨membersAfter, effectsAfter, listedAfter,
      sameMembersAfter.trans sameMembers, sameEffectsAfter.trans sameEffects⟩, mounts, ?_, ?_⟩
    · rw [beside.records _ isOther]
      exact updates
    · rw [beside.records _ isOther]
      exact numbered

theorem listed_of_pushes (pushes : PushesEffect state world registration after) :
    ∃ members effects, EffectLists after members effects ∧
      members state.workInProgressList =
        (registrations ++ [registration]).map FunctionComponentEffectRegistration.effect ∧
      effects state.workInProgressList =
        (registrations ++ [registration]).map FunctionComponentEffectRegistration.hookEffect := by
  obtain ⟨members, effects, listed, sameMembers, sameEffects⟩ := rendered.listed
  obtain ⟨membersAfter, effectsAfter, listedAfter, pushedMembers, pushedEffects⟩ :=
    pushes.effects members effects listed
  refine ⟨membersAfter, effectsAfter, listedAfter, ?_, ?_⟩
  · rw [pushedMembers, sameMembers, map_append]
    rfl
  · rw [pushedEffects, sameEffects, map_append]
    rfl

theorem mount (ofState : cursor.state = state)
    (ran : (mountEffectMetadata cursor phase create dependencies).run world =
      .ok (registration, next) after) :
    RenderedEffects state (registrations ++ [registration]) after := by
  subst ofState
  obtain ⟨isMount, pushes, sameRecords, isPhase, isTag⟩ := run_mountEffectMetadata_eq_ok ran
  refine ⟨pushes.created, rendered.listed_of_pushes pushes, ?_, ?_, ?_⟩
  · intro _ other member
    rcases mem_append.mp member with isEarlier | isLast
    · exact rendered.mounts isMount other isEarlier
    · rw [mem_singleton.mp isLast, isTag, isPhase]
  · intro isUpdate
    rw [isMount] at isUpdate
    cases isUpdate
  · rw [sameRecords]
    exact rendered.numbered

theorem update (ofState : cursor.state = state)
    (ran : (updateEffectMetadata cursor phase create dependencies dependencyStatus).run world =
      .ok (registration, next) after) :
    RenderedEffects state (registrations ++ [registration]) after := by
  subst ofState
  obtain ⟨isUpdate, pushes, ⟨record, reports, records⟩, -, -⟩ := run_updateEffectMetadata_eq_ok ran
  refine ⟨pushes.created, rendered.listed_of_pushes pushes, ?_, ?_, ?_⟩
  · intro isMount
    rw [isMount] at isUpdate
    cases isUpdate
  · intro _
    rw [records, if_pos rfl]
    refine rel_append (rendered.updates isUpdate) (.cons ?_ .nil)
    exact ⟨reports.fiber, reports.hookList, reports.phase, reports.tag⟩
  · rw [records, if_pos rfl, map_append, rendered.numbered, length_append]
    exact range_succ.symm

end

/-- Whatever is rendered of a list is what its ring and its queue have. -/
theorem of_run (earlier : RenderedEffects state [] world)
    (rendered : RendersEffects state world registrations after) :
    RenderedEffects state registrations after := by
  induction rendered with
  | start => exact earlier
  | mount cursor next phase create dependencies before ofState ran ih =>
    exact ih.mount ofState ran
  | update cursor next phase create dependencies dependencyStatus before ofState ran
      ih =>
      exact ih.update ofState ran
  | updateWithDependencyCheck cursor next phase create dependencies before ofState ran
      ih =>
      obtain ⟨dependencyStatus, -, ranUpdate⟩ := run_query_bind_eq_ok_iff.mp ran
      exact ih.update ofState ranUpdate
  | other operation before apart ih => exact ih.other apart

end RenderedEffects

theorem prepareHooks_eq_ok {store created : FunctionComponentHookRenderStore State Action}
    {alternate : Option FiberId} {workInProgress : FiberId}
    (ran : (FastReact.prepareRenderState alternate workInProgress :
      HookRenderM State Action Empty FunctionComponentHookRenderState).run store =
        .ok state created) :
    state.workInProgressList = store.hookLists.length ∧
      store.hookLists.length < created.hookLists.length := by
  obtain ⟨_, _, ranGet, ran⟩ := run_bind_eq_ok_iff.mp ran
  cases ranGet
  cases current : alternate.bind store.currentList with
  | none =>
    rw [current] at ran
    cases ran
    simp
  | some list =>
    rw [current] at ran
    obtain ⟨_, -, ran⟩ := run_query_bind_eq_ok_iff.mp ran
    cases ran
    simp

theorem renderedEffects_nil {workInProgress : FiberId} (reached : Reachable world)
    (prepared : (prepareRenderState workInProgress).run world = .ok state after) :
    RenderedEffects state [] after := by
  obtain ⟨members, effects, listed⟩ := effectLists_of_reachable reached
  have kept := related_of_ok (within_prepareRenderState workInProgress) prepared
  obtain ⟨fiber, _, ranFiber, prepared⟩ := run_bind_eq_ok_iff.mp prepared
  obtain ⟨fibers, -, rfl⟩ := run_focus_eq_ok_iff.mp ranFiber
  obtain ⟨_, _, ranHooks, prepared⟩ := run_bind_eq_ok_iff.mp prepared
  obtain ⟨hooks, ranPrepare, rfl⟩ := run_focus_eq_ok_iff.mp ranHooks
  obtain ⟨isNew, grown⟩ := prepareHooks_eq_ok (run_mapError_eq_ok_iff.mp ranPrepare)
  cases prepared
  obtain ⟨noLast, noRecords⟩ := listed.unbound state.workInProgressList isNew.ge
  have noMembers := (listed.family.rings state.workInProgressList)
  rw [noLast] at noMembers
  refine ⟨isNew ▸ grown, ⟨members, effects, kept.effectLists listed, ?_, ?_⟩, ?_, ?_, ?_⟩
  · exact noMembers.ring
  · exact noMembers.eq_none_iff.mp rfl
  · intro _ registration member
    cases member
  · intro _
    rw [kept.records, noRecords]
    exact .nil
  · rw [kept.records, noRecords]
    rfl

end FunctionEffects

end FastReact
