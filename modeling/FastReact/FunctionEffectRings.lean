import FastReact.FunctionEffects

namespace FastReact

open ErrorState FunctionComponent LinkChain LinkedArena List PassiveEffects.HookEffectArena SearchedLists SlotArena

/-!
# The rings of hook effects

Each hook list has a ring of its own in the shared arena of effects.  An operation for one
list extends its ring or leaves it alone, and the rings and the update queues of all other
lists stay as they are.
-/

namespace FunctionEffects

open PassiveEffects (HookEffectCallbackHandle HookEffectInstance HookEffectInstanceId)

variable {State Action α : Type}

namespace HookEffectArena

variable {arena after : HookEffectArena} {ring : HookEffectRing} {ids : List HookEffectId}
  {effects : List HookEffect} {effect : HookEffect} {id : HookEffectId}

theorem getEffect_eq_ok (stored : arena.effects.data? id = some effect) :
    arena.getEffect id = .ok ⟨effect, arena.effects.next? id⟩ := by
  rw [getEffect, find_eq_ok_iff.mpr (get?_of_data? stored)]
  rfl

theorem firstEffect_eq_ok (holds : HoldsRing arena.effects ring.lastEffect ids effects) :
    arena.firstEffect ring = .ok ids.head? := by
  unfold firstEffect
  cases lastShape : ring.lastEffect with
  | none =>
    rw [lastShape] at holds
    obtain rfl : ids = [] := holds.ring
    rfl
  | some last =>
    rw [lastShape] at holds
    have closed : IsRing arena.effects.next? last ids := holds.ring
    obtain ⟨lastData, -, lastLive⟩ := holds.holds.live closed.tail_mem
    obtain ⟨first, firstShape, firstMember⟩ := closed.exists_head
    obtain ⟨firstData, -, firstLive⟩ := holds.holds.live firstMember
    simp only [getEffect_eq_ok lastLive, closed.closed, firstShape, getEffect_eq_ok firstLive,
      bind, Except.bind]

theorem effectInstance_eq_ok_iff {arena : HookEffectArena} {instanceId : HookEffectInstanceId}
    {found : HookEffectInstance} :
    arena.effectInstance instanceId = .ok found ↔
      instanceId.arenaId = arena.arenaId ∧ arena.instances.get? instanceId.handle = some found := by
  unfold effectInstance getInstance
  rw [mapError_eq_ok_iff, guard_eq_ok_iff, mapError_eq_ok_iff, find_eq_ok_iff, not_not]

theorem length_le_effectLen {last : Option HookEffectId}
    (holds : HoldsRing arena.effects last ids effects) : ids.length ≤ arena.effectLen := by
  refine (subperm_of_subset holds.ring.nodup ?_).length_le
  intro id member
  obtain ⟨data, -, live⟩ := holds.holds.live member
  exact mem_handles.mpr ⟨_, get?_of_data? live⟩

/-- What pushing an effect to a ring comes to. -/
structure Pushed (arena after : HookEffectArena) (ids : List HookEffectId) (effect : HookEffect)
    (id : HookEffectId) : Prop where
  isNew : arena.effects.data? id = none
  stored : after.effects.data? id = some effect
  extension : Extends (ids ++ [id]) arena.effects after.effects
  grows : GrowsBy [id] arena.effects after.effects
  sameArena : after.arenaId = arena.arenaId
  sameInstances : after.instances = arena.instances
  resolves : ∃ found, arena.effectInstance effect.effectInstance = .ok found

theorem pushEffect_spec (holds : HoldsRing arena.effects ring.lastEffect ids effects)
    (pushed : arena.pushEffect ring effect = .ok (id, after)) :
    HoldsRing after.effects (some id) (ids ++ [id]) (effects ++ [effect]) ∧
      Pushed arena after ids effect id := by
  obtain ⟨found, resolves, pushed⟩ := bind_eq_ok_iff.mp pushed
  rw [firstEffect_eq_ok holds] at pushed
  obtain ⟨isNew, placed, extension⟩ := insert_spec arena.effects ⟨effect, none⟩
  have grows := growsBy_insert arena.effects ⟨effect, none⟩
  simp only [bind, Except.bind, pure, Except.pure, Except.ok.injEq, Prod.mk.injEq] at pushed
  generalize arena.effects.insert ⟨effect, none⟩ = inserted at *
  obtain ⟨newId, grown⟩ := inserted
  obtain ⟨rfl, rfl⟩ := pushed
  dsimp only at *
  have stored : data? grown newId = some effect := by simp [data?, placed]
  have heldGrown : HoldsRing grown ring.lastEffect ids effects :=
    holds.of_extends extension (by simp)
  have fresh : newId ∉ ids := holds.holds.not_mem_of_new isNew
  cases lastShape : ring.lastEffect with
  | none =>
    rw [lastShape] at heldGrown
    obtain rfl : ids = [] := heldGrown.ring
    obtain rfl : effects = [] := heldGrown.eq_none_iff.mp rfl
    refine ⟨⟨⟨.singleton _ newId, ?_⟩, .singleton ?_⟩, isNew, ?_, ?_, ?_, rfl, rfl, found, resolves⟩
    · simp [next?_withNext stored]
    · simpa using stored
    · simpa using stored
    · simpa using extension.trans (extends_withNext stored (some newId))
    · have kept : GrowsBy [] grown (withNext grown newId (some newId)) :=
        .of_data (by simp)
      exact grows.trans kept
  | some last =>
    rw [lastShape] at heldGrown
    have closed : IsRing (next? grown) last ids := heldGrown.ring
    obtain ⟨first, firstShape, -⟩ := closed.exists_head
    obtain ⟨pushedRing, pushedExtension⟩ := heldGrown.push firstShape stored fresh
    simp only [firstShape, Option.getD_some, Option.elim_some]
    refine ⟨pushedRing, isNew, ?_, ?_, ?_, rfl, rfl, found, resolves⟩
    · simpa using stored
    · simpa using extension.trans pushedExtension
    · have kept : GrowsBy [] grown
          ((withNext grown newId (some first)).withNext last (some newId)) :=
        .of_data (by simp)
      exact grows.trans kept

end HookEffectArena

open HookEffectArena

namespace EffectRenderWorld

def lastEffect (world : EffectRenderWorld State Action) (list : HookListId) : Option HookEffectId :=
  (world.effectRing list).bind HookEffectRing.lastEffect

def updateRecords (world : EffectRenderWorld State Action) (list : HookListId) :
    List FunctionComponentEffectUpdateQueueRecord :=
  (world.effectUpdateQueue list).elim [] FunctionComponentEffectUpdateQueue.records

/-- The effects of every list are in its ring, and lists that do not exist have none. -/
structure EffectLists (world : EffectRenderWorld State Action)
    (members : HookListId → List HookEffectId) (effects : HookListId → List HookEffect) :
    Prop where
  family : RingFamily world.hookEffects.effects world.lastEffect members effects
  instances : ∀ id effect, world.hookEffects.effects.data? id = some effect →
    ∃ found, world.hookEffects.effectInstance effect.effectInstance = .ok found
  unbound : ∀ list, world.hooks.hookLists.length ≤ list →
    world.lastEffect list = none ∧ world.updateRecords list = []

/-- No effect has come or gone, and no list has gone. -/
structure EffectsKept (world after : EffectRenderWorld State Action) : Prop where
  effects : after.hookEffects.effects = world.hookEffects.effects
  lastEffects : ∀ list, after.lastEffect list = world.lastEffect list
  records : ∀ list, after.updateRecords list = world.updateRecords list
  lists : world.hooks.hookLists.length ≤ after.hooks.hookLists.length
  instances : ∀ id found, world.hookEffects.effectInstance id = .ok found →
    ∃ other, after.hookEffects.effectInstance id = .ok other

/-- Only the effects of one list may have changed. -/
structure EffectsBeside (list : HookListId) (world after : EffectRenderWorld State Action) :
    Prop where
  lists : world.hooks.hookLists.length ≤ after.hooks.hookLists.length
  records : ∀ other, other ≠ list → after.updateRecords other = world.updateRecords other
  effects : ∀ members effects, EffectLists world members effects →
    ∃ membersAfter effectsAfter, EffectLists after membersAfter effectsAfter ∧
      ∀ other, other ≠ list →
        membersAfter other = members other ∧ effectsAfter other = effects other

instance : IsPreorder (EffectRenderWorld State Action) EffectsKept where
  refl world := ⟨rfl, fun _ => rfl, fun _ => rfl, le_rfl, fun _ found resolves => ⟨found, resolves⟩⟩
  trans world between after earlier later := by
    refine ⟨later.effects.trans earlier.effects, ?_, ?_, earlier.lists.trans later.lists, ?_⟩
    · exact fun list => (later.lastEffects list).trans (earlier.lastEffects list)
    · exact fun list => (later.records list).trans (earlier.records list)
    · intro id found resolves
      obtain ⟨other, resolvesBetween⟩ := earlier.instances id found resolves
      exact later.instances id other resolvesBetween

instance (list : HookListId) :
    IsPreorder (EffectRenderWorld State Action) (EffectsBeside list) where
  refl world :=
    ⟨le_rfl, fun _ _ => rfl, fun members effects listed =>
      ⟨members, effects, listed, fun _ _ => ⟨rfl, rfl⟩⟩⟩
  trans world between after earlier later := by
    refine ⟨earlier.lists.trans later.lists, ?_, ?_⟩
    · exact fun other isOther => (later.records other isOther).trans (earlier.records other isOther)
    · intro members effects listed
      obtain ⟨membersBetween, effectsBetween, listedBetween, sameBetween⟩ :=
        earlier.effects members effects listed
      obtain ⟨membersAfter, effectsAfter, listedAfter, sameAfter⟩ :=
        later.effects membersBetween effectsBetween listedBetween
      refine ⟨membersAfter, effectsAfter, listedAfter, fun other isOther => ?_⟩
      rw [(sameAfter other isOther).1, (sameAfter other isOther).2]
      exact sameBetween other isOther

variable {world between after : EffectRenderWorld State Action}
  {members : HookListId → List HookEffectId} {effects : HookListId → List HookEffect}
  {list : HookListId}

theorem EffectsKept.effectLists (kept : EffectsKept world after)
    (listed : EffectLists world members effects) : EffectLists after members effects where
  family := by
    rw [kept.effects]
    exact listed.family.congr (fun _ _ _ => rfl) kept.lastEffects
  instances := by
    intro id effect stored
    rw [kept.effects] at stored
    obtain ⟨found, resolves⟩ := listed.instances id effect stored
    exact kept.instances _ found resolves
  unbound := by
    intro list isNew
    rw [kept.lastEffects, kept.records]
    exact listed.unbound list (kept.lists.trans isNew)

theorem EffectsKept.beside (kept : EffectsKept world after) (list : HookListId) :
    EffectsBeside list world after :=
  ⟨kept.lists, fun other _ => kept.records other, fun members effects listed =>
    ⟨members, effects, kept.effectLists listed, fun _ _ => ⟨rfl, rfl⟩⟩⟩

def changeRing (world : EffectRenderWorld State Action) (list : HookListId)
    (change : HookEffectRing → HookEffectRing) : EffectRenderWorld State Action :=
  { world with
    effectRings := changeFirst (·.list = list) { list := list, ring := { lastEffect := none } }
      (fun binding => { binding with ring := change binding.ring }) world.effectRings }

variable (world : EffectRenderWorld State Action)

theorem effectRing_changeRing (list other : HookListId) (change : HookEffectRing → HookEffectRing) :
    (world.changeRing list change).effectRing other =
      if other = list then
        some (change ((world.effectRing list).getD { lastEffect := none }))
      else
        world.effectRing other := by
  have found := @find?_changeFirst _ _ _ FunctionComponentEffectRingBinding.list list
    { list := list, ring := { lastEffect := none } }
    (fun binding => { binding with ring := change binding.ring }) rfl (fun _ same => same)
    world.effectRings other
  unfold effectRing changeRing
  dsimp only
  rw [found]
  by_cases isAsked : other = list
  · rw [if_pos isAsked, if_pos isAsked]
    cases world.effectRings.find? fun binding => decide (binding.list = list) <;> rfl
  · rw [if_neg isAsked, if_neg isAsked]

theorem effectsKept_changeRing_id (list : HookListId) :
    EffectsKept world (world.changeRing list id) where
  effects := rfl
  lastEffects := by
    intro other
    unfold lastEffect
    rw [effectRing_changeRing]
    by_cases isAsked : other = list
    · subst isAsked
      rw [if_pos rfl]
      cases world.effectRing other <;> rfl
    · rw [if_neg isAsked]
  records := fun _ => rfl
  lists := le_rfl
  instances := fun _ found resolves => ⟨found, resolves⟩

end EffectRenderWorld

open EffectRenderWorld

variable {world after : EffectRenderWorld State Action} {state : FunctionComponentHookRenderState}
  {effect : HookEffect}

theorem checkList_eq_ok_iff :
    world.checkList state = .ok () ↔ state.workInProgressList < world.hooks.hookLists.length := by
  rw [checkList, bind_eq_ok_iff]
  unfold FunctionComponentHookRenderStore.list
  constructor
  · rintro ⟨entry, resolved, -⟩
    by_contra missing
    rw [getElem?_eq_none (Nat.le_of_not_lt missing)] at resolved
    cases resolved
  · intro created
    rw [getElem?_eq_getElem created]
    exact ⟨_, rfl, rfl⟩

theorem run_ensureEffectRing (world : EffectRenderWorld State Action) (list : HookListId) :
    (ensureEffectRing list).run world = .ok () (world.changeRing list id) :=
  rfl

/-- What pushing an effect for a list does when it succeeds. -/
structure PushedForList (state : FunctionComponentHookRenderState) (effect : HookEffect)
    (world : EffectRenderWorld State Action) (id : HookEffectId)
    (after : EffectRenderWorld State Action) : Prop where
  created : state.workInProgressList < world.hooks.hookLists.length
  pushed : world.hookEffects.pushEffect ⟨world.lastEffect state.workInProgressList⟩ effect =
    .ok (id, after.hookEffects)
  hooks : after.hooks = world.hooks
  records : ∀ list, after.updateRecords list = world.updateRecords list
  lastEffects : ∀ list, after.lastEffect list =
    if list = state.workInProgressList then some id else world.lastEffect list

theorem run_pushEffectForList (state : FunctionComponentHookRenderState) (effect : HookEffect)
    (world : EffectRenderWorld State Action) :
    (∃ id after, (pushEffectForList state effect).run world = .ok id after ∧
      PushedForList state effect world id after) ∨
    ∃ error after, (pushEffectForList state effect).run world = .error error after ∧
      EffectsKept world after := by
  unfold pushEffectForList
  rw [run_bind, run_query]
  cases checked : world.checkList state with
  | error error => exact .inr ⟨error, world, rfl, refl_of EffectsKept world⟩
  | ok _ =>
    have kept := effectsKept_changeRing_id world state.workInProgressList
    have sameRing :
        ((world.changeRing state.workInProgressList id).effectRing
          state.workInProgressList).getD { lastEffect := none } =
          ⟨world.lastEffect state.workInProgressList⟩ := by
      rw [effectRing_changeRing, if_pos rfl]
      unfold lastEffect
      cases world.effectRing state.workInProgressList <;> rfl
    dsimp only
    rw [run_bind, run_ensureEffectRing]
    dsimp only
    rw [run_bind, run_get]
    dsimp only
    rw [sameRing, run_bind, run_query]
    cases pushed : world.hookEffects.pushEffect ⟨world.lastEffect state.workInProgressList⟩
        effect with
    | error error =>
      have pushedRing : (world.changeRing state.workInProgressList id).hookEffects.pushEffect
        ⟨world.lastEffect state.workInProgressList⟩ effect = .error error := pushed
      rw [pushedRing]
      exact .inr ⟨.hookEffect state.renderFiber error, _, rfl, kept⟩
    | ok result =>
      have pushedRing : (world.changeRing state.workInProgressList id).hookEffects.pushEffect
        ⟨world.lastEffect state.workInProgressList⟩ effect = .ok result := pushed
      rw [pushedRing]
      refine .inl ⟨result.1,
        EffectRenderWorld.changeRing
          { world.changeRing state.workInProgressList id with hookEffects := result.2 }
          state.workInProgressList fun _ => { lastEffect := some result.1 },
        rfl, checkList_eq_ok_iff.mp checked, pushed, rfl, fun _ => rfl, ?_⟩
      intro list
      unfold lastEffect
      rw [effectRing_changeRing]
      by_cases isOwn : list = state.workInProgressList
      · rw [if_pos isOwn, if_pos isOwn]
        rfl
      · rw [if_neg isOwn, if_neg isOwn]
        exact kept.lastEffects list

theorem PushedForList.effectLists {members : HookListId → List HookEffectId}
    {effects : HookListId → List HookEffect} {pushedId : HookEffectId}
    (pushed : PushedForList state effect world pushedId after)
    (listed : EffectLists world members effects) :
    EffectLists after
      (fun list => if list = state.workInProgressList then members list ++ [pushedId]
        else members list)
      (fun list => if list = state.workInProgressList then effects list ++ [effect]
        else effects list) := by
  obtain ⟨created, pushed, sameHooks, sameRecords, lastEffects⟩ := pushed
  obtain ⟨ring, change⟩ := pushEffect_spec (listed.family.rings state.workInProgressList) pushed
  refine ⟨listed.family.replace_one state.workInProgressList ?_ ?_ ?_ ?_, ?_, ?_⟩
  · intro other isOther member isMember
    obtain ⟨data, -, live⟩ := (listed.family.rings other).holds.live isMember
    refine change.extension.get?_eq live ?_
    rw [mem_append, mem_singleton]
    rintro (own | rfl)
    · exact listed.family.disjoint other _ isOther isMember own
    · rw [change.isNew] at live
      cases live
  · intro other isOther
    rw [lastEffects, if_neg isOther, if_neg isOther, if_neg isOther]
    exact ⟨rfl, rfl, rfl⟩
  · rw [lastEffects, if_pos rfl, if_pos rfl, if_pos rfl]
    exact ring
  · intro member isMember
    rw [if_pos rfl, mem_append, mem_singleton] at isMember
    refine isMember.imp_right ?_
    rintro rfl
    cases linked : world.hookEffects.effects.next? member with
    | none => rfl
    | some next =>
      obtain ⟨data, live⟩ := exists_data?_of_next? linked
      rw [change.isNew] at live
      cases live
  · intro other data stored
    have resolvesSame : ∀ id, after.hookEffects.effectInstance id =
        world.hookEffects.effectInstance id := by
      intro id
      unfold HookEffectArena.effectInstance getInstance
      rw [change.sameArena, change.sameInstances]
    rw [resolvesSame]
    rcases change.grows other data stored with ⟨earlier, live⟩ | isNew
    · have kept := change.extension.data other earlier live
      rw [stored] at kept
      cases kept
      exact listed.instances other data live
    · rw [mem_singleton.mp isNew, change.stored] at stored
      cases stored
      exact change.resolves
  · intro list isNew
    rw [sameHooks] at isNew
    have isOther : list ≠ state.workInProgressList := by
      rintro rfl
      exact absurd created (Nat.not_lt.mpr isNew)
    rw [lastEffects, if_neg isOther, sameRecords]
    exact listed.unbound list isNew

theorem within_pushEffectForList (state : FunctionComponentHookRenderState) (effect : HookEffect) :
    Within (EffectsBeside state.workInProgressList)
      (pushEffectForList state effect : EffectRenderM State Action HookEffectId) := by
  intro world
  rcases run_pushEffectForList state effect world with
    ⟨pushedId, after, ran, pushed⟩ | ⟨error, after, ran, kept⟩
  · rw [ran]
    refine ⟨(congrArg (·.hookLists.length) pushed.hooks).ge, fun other _ => pushed.records other, ?_⟩
    intro members effects listed
    refine ⟨_, _, pushed.effectLists listed, fun other isOther => ?_⟩
    rw [if_neg isOther, if_neg isOther]
    exact ⟨rfl, rfl⟩
  · rw [ran]
    exact kept.beside _

def ListsKept (store after : FunctionComponentHookRenderStore State Action) : Prop :=
  store.hookLists.length ≤ after.hookLists.length

instance : IsPreorder (FunctionComponentHookRenderStore State Action) ListsKept where
  refl _ := le_rfl
  trans _ _ _ earlier later := earlier.trans later

theorem within_onHooks {body : HookRenderM State Action Empty α} (keeps : Within ListsKept body) :
    Within EffectsKept (onHooks body) :=
  .focus_within (.mapError _ keeps) fun _ _ kept =>
    ⟨rfl, fun _ => rfl, fun _ => rfl, kept, fun _ found resolves => ⟨found, resolves⟩⟩

theorem within_onFibers (body : FiberArenaM α) :
    Within EffectsKept (onFibers body : EffectRenderM State Action α) :=
  .focus fun _ _ =>
    ⟨rfl, fun _ => rfl, fun _ => rfl, le_rfl, fun _ found resolves => ⟨found, resolves⟩⟩

theorem within_createEffectInstance :
    Within EffectsKept
      (createEffectInstance : EffectRenderM State Action HookEffectInstanceId) := by
  apply Within.modifyGet
  intro world
  refine ⟨rfl, fun _ => rfl, fun _ => rfl, le_rfl, ?_⟩
  intro instanceId found resolves
  obtain ⟨sameArena, stored⟩ := effectInstance_eq_ok_iff.mp resolves
  have kept := get?_insert_of_some ({ destroy := none } : HookEffectInstance) stored
  exact ⟨found, effectInstance_eq_ok_iff.mpr ⟨sameArena, kept⟩⟩

theorem effectsKept_setDestroy (world : EffectRenderWorld State Action)
    (effectInstance : HookEffectInstanceId) (destroy : Option HookEffectCallbackHandle) :
    EffectsKept world
      { world with hookEffects := world.hookEffects.setDestroy effectInstance destroy } where
  effects := rfl
  lastEffects := fun _ => rfl
  records := fun _ => rfl
  lists := le_rfl
  instances := by
    intro instanceId found resolves
    obtain ⟨sameArena, stored⟩ := effectInstance_eq_ok_iff.mp resolves
    by_cases isChanged : instanceId.handle = effectInstance.handle
    · refine ⟨{ destroy := destroy }, effectInstance_eq_ok_iff.mpr ⟨sameArena, ?_⟩⟩
      simp only [setDestroy, get?_modify, isChanged, if_true]
      rw [← isChanged, stored]
      rfl
    · refine ⟨found, effectInstance_eq_ok_iff.mpr ⟨sameArena, ?_⟩⟩
      simp only [setDestroy, get?_modify, isChanged, if_false, stored]

end FunctionEffects

end FastReact
