import FastReact.FunctionComponentAttempts

namespace FastReact

open Bind ErrorState HookQueueStore LinkChain LinkedArena List RebaseQueue
open HookUpdateDispatchMetadata FunctionComponentHookRenderStore FunctionComponent

/-!
# Eager states of dispatched updates

A dispatch may carry a state computed in advance.  Two runs of one component are
compared: one with eager states, one with all of them removed.  The runs stay in
step as long as an eager state is computed while nothing waits for its hook, for
then only the first waiting update can carry one, and it carries what the reducer
gives on the base state.
-/

variable {State Action InvokerError Output : Type}

/-- An update without its eager state. -/
def HookUpdateDispatchMetadata.plain (update : HookUpdateDispatchMetadata Action State) :
    HookUpdateDispatchMetadata Action State :=
  { update with eagerState := none }

def EagerSound (reducer : State → Action → State) (baseState : State) :
    List (HookUpdateDispatchMetadata Action State) → Prop
  | [] => True
  | first :: rest =>
      (∀ eagerState, first.eagerState = some eagerState →
        eagerState = reducer baseState first.action) ∧
      ∀ update ∈ rest, update.eagerState = none

section Lists

variable {renderLanes rootRenderLanes : Lanes} {reducer : State → Action → State}
  {baseState : State} {updates : List (HookUpdateDispatchMetadata Action State)}

theorem plain_of_noEager {update : HookUpdateDispatchMetadata Action State}
    (noEager : update.eagerState = none) : update.plain = update := by
  unfold HookUpdateDispatchMetadata.plain
  rw [← noEager]

theorem map_plain_of_noEager (noEager : ∀ update ∈ updates, update.eagerState = none) :
    updates.map plain = updates := by
  refine (map_congr_left ?_).trans (map_id updates)
  intro update member
  exact plain_of_noEager (noEager update member)

variable (update : HookUpdateDispatchMetadata Action State)

theorem fate_plain :
    update.plain.fate renderLanes rootRenderLanes = update.fate renderLanes rootRenderLanes :=
  rfl

theorem retain?_plain :
    update.plain.retain? renderLanes rootRenderLanes =
      (update.retain? renderLanes rootRenderLanes).map plain := by
  unfold retain?
  rw [fate_plain]
  cases update.fate renderLanes rootRenderLanes <;> rfl

theorem retain?_eagerState {update copy : HookUpdateDispatchMetadata Action State}
    (retained : update.retain? renderLanes rootRenderLanes = some copy) :
    copy.action = update.action ∧ copy.eagerState = update.eagerState := by
  unfold retain? at retained
  cases fateShape : update.fate renderLanes rootRenderLanes <;>
    rw [fateShape] at retained <;>
    simp only [Option.some.injEq, reduceCtorEq] at retained <;>
    rw [← retained] <;> exact ⟨rfl, rfl⟩

namespace EagerSound

theorem of_noEager (noEager : ∀ update ∈ updates, update.eagerState = none) :
    EagerSound reducer baseState updates := by
  cases updates with
  | nil => trivial
  | cons first rest =>
    refine ⟨?_, fun update member => noEager update (by simp [member])⟩
    intro eagerState shape
    rw [noEager first (by simp)] at shape
    exact absurd shape.symm (Option.some_ne_none eagerState)

variable {later : List (HookUpdateDispatchMetadata Action State)}

section

variable (sound : EagerSound reducer baseState (updates ++ later))
include sound

theorem of_append : EagerSound reducer baseState updates := by
  cases updates with
  | nil => trivial
  | cons first rest => exact ⟨sound.1, fun update member => sound.2 update (by simp [member])⟩

theorem noEager_of_append
    (something : updates ≠ []) : ∀ update ∈ later, update.eagerState = none := by
  obtain ⟨first, rest, rfl⟩ := exists_cons_of_ne_nil something
  exact fun update member => sound.2 update (by simp [member])

end

theorem append {update : HookUpdateDispatchMetadata Action State}
    (sound : EagerSound reducer baseState updates)
    (eager : ∀ eagerState, update.eagerState = some eagerState →
      updates = [] ∧ eagerState = reducer baseState update.action) :
    EagerSound reducer baseState (updates ++ [update]) := by
  cases updates with
  | nil => exact ⟨fun eagerState shape => (eager eagerState shape).2, by simp⟩
  | cons first rest =>
    refine ⟨sound.1, ?_⟩
    intro other member
    rcases mem_append.mp member with old | new
    · exact sound.2 other old
    · rw [mem_singleton.mp new]
      cases shape : update.eagerState with
      | none => rfl
      | some eagerState => exact absurd (eager eagerState shape).1 (cons_ne_nil first rest)

theorem foldl_plain (sound : EagerSound reducer baseState updates) :
    (updates.map plain).foldl (effect renderLanes rootRenderLanes reducer) baseState =
      updates.foldl (effect renderLanes rootRenderLanes reducer) baseState := by
  cases updates with
  | nil => rfl
  | cons first rest =>
    have firstEffect :
        first.plain.effect renderLanes rootRenderLanes reducer baseState =
          first.effect renderLanes rootRenderLanes reducer baseState := by
      unfold effect
      rw [fate_plain]
      cases first.fate renderLanes rootRenderLanes with
      | skipped | reverted | optimistic => rfl
      | applied =>
        cases shape : first.eagerState with
        | none => rfl
        | some eagerState => exact (sound.1 eagerState shape).symm
    rw [map_cons, foldl_cons, foldl_cons, firstEffect, map_plain_of_noEager sound.2]

theorem retained (sound : EagerSound reducer baseState updates) :
    EagerSound reducer
      ((settled (isDeferred renderLanes rootRenderLanes) updates).foldl
        (effect renderLanes rootRenderLanes reducer) baseState)
      (retainedUpdates renderLanes rootRenderLanes updates) := by
  have parts := settled_append_postponed (isDeferred renderLanes rootRenderLanes) updates
  have copiesNoEager : ∀ originals : List (HookUpdateDispatchMetadata Action State),
      (∀ update ∈ originals, update.eagerState = none) →
      ∀ copy ∈ originals.filterMap (retain? renderLanes rootRenderLanes),
        copy.eagerState = none := by
    intro originals noEager copy member
    obtain ⟨original, present, copied⟩ := mem_filterMap.mp member
    rw [(retain?_eagerState copied).2]
    exact noEager original present
  unfold retainedUpdates
  by_cases nothing : settled (isDeferred renderLanes rootRenderLanes) updates = []
  · -- The first update is deferred itself, on the unchanged base state.
    rw [nothing, nil_append] at parts
    rw [nothing, parts]
    cases updates with
    | nil => trivial
    | cons first rest =>
      have firstDeferred := deferred_of_postponed_cons parts
      obtain ⟨copy, copied⟩ := exists_retain?_of_isDeferred firstDeferred
      obtain ⟨sameAction, sameEager⟩ := retain?_eagerState copied
      rw [filterMap_cons_some copied]
      refine ⟨?_, copiesNoEager rest sound.2⟩
      intro eagerState shape
      rw [sameAction]
      exact sound.1 eagerState (sameEager ▸ shape)
  · rw [← parts] at sound
    exact of_noEager (copiesNoEager _ (sound.noEager_of_append nothing))

end EagerSound

theorem hookPassOutcome_plain (sound : EagerSound reducer baseState updates) :
    (hookPassOutcome renderLanes rootRenderLanes reducer baseState
        (updates.map plain)).state =
      (hookPassOutcome renderLanes rootRenderLanes reducer baseState updates).state ∧
    (hookPassOutcome renderLanes rootRenderLanes reducer baseState
        (updates.map plain)).baseState =
      (hookPassOutcome renderLanes rootRenderLanes reducer baseState updates).baseState ∧
    (hookPassOutcome renderLanes rootRenderLanes reducer baseState
        (updates.map plain)).retained =
      (hookPassOutcome renderLanes rootRenderLanes reducer baseState
        updates).retained.map plain := by
  have parts := settled_append_postponed (isDeferred renderLanes rootRenderLanes) updates
  refine ⟨sound.foldl_plain, ?_, ?_⟩
  · change (settled (isDeferred renderLanes rootRenderLanes) (updates.map plain)).foldl _
      baseState = (settled (isDeferred renderLanes rootRenderLanes) updates).foldl _ baseState
    rw [settled_map]
    change ((settled (isDeferred renderLanes rootRenderLanes) updates).map plain).foldl _
      baseState = _
    rw [← parts] at sound
    exact sound.of_append.foldl_plain
  · change retainedUpdates renderLanes rootRenderLanes (updates.map plain) =
      (retainedUpdates renderLanes rootRenderLanes updates).map plain
    unfold retainedUpdates
    rw [postponed_map, filterMap_map, map_filterMap]
    refine filterMap_congr ?_
    intro update _
    exact retain?_plain update

end Lists

/-- A hook of a run and its counterpart in the run without eager states. -/
structure EagerRelated (hook plainHook : StateHook State Action) : Prop where
  queue : plainHook.slot.queue = hook.slot.queue
  baseState : plainHook.slot.baseState = hook.slot.baseState
  base : plainHook.base = hook.base.map plain
  pending : plainHook.pending = hook.pending.map plain
  request : plainHook.request = hook.request
  dispatch : plainHook.entry.dispatch = hook.entry.dispatch
  reducer : plainHook.entry.lastRenderedReducer = hook.entry.lastRenderedReducer
  sound : EagerSound hook.request.reducer hook.slot.baseState hook.updates
  idle : hook.base = [] → hook.entry.lastRenderedState = hook.slot.baseState

namespace StateHook

variable (hook : StateHook State Action)

def withRequest (request : StateHookRequest State Action) : StateHook State Action :=
  { hook with request := request }

theorem queue_dispatch :
    (hook.outcome.queue hook.requestedEntry hook.updates).dispatch = hook.entry.dispatch := by
  unfold HookPassOutcome.queue requestedEntry
  cases hook.request.kind <;> split <;> rfl

theorem queue_lastRenderedReducer :
    (hook.outcome.queue hook.requestedEntry hook.updates).lastRenderedReducer =
      match hook.request.kind with
      | .state => hook.entry.lastRenderedReducer
      | .reducer handle => some (.reducer handle) := by
  unfold HookPassOutcome.queue requestedEntry
  cases hook.request.kind <;> split <;> rfl

theorem queue_lastRenderedState :
    (hook.outcome.queue hook.requestedEntry hook.updates).lastRenderedState =
      if hook.updates.isEmpty then hook.entry.lastRenderedState
      else hook.outcome.state := by
  unfold HookPassOutcome.queue requestedEntry
  cases hook.request.kind <;> split <;> rfl

end StateHook

namespace EagerRelated

variable {hook plainHook : StateHook State Action}

section

variable (related : EagerRelated hook plainHook)
include related

theorem updates : plainHook.updates = hook.updates.map plain := by
  unfold StateHook.updates
  rw [related.base, related.pending, map_append]

theorem outcome :
    plainHook.outcome.state = hook.outcome.state ∧
      plainHook.outcome.baseState = hook.outcome.baseState ∧
      plainHook.outcome.retained = hook.outcome.retained.map plain := by
  unfold StateHook.outcome
  rw [related.updates, related.baseState, related.request]
  exact hookPassOutcome_plain related.sound

theorem withRequest {request : StateHookRequest State Action}
    (sameReducer : request.reducer = hook.request.reducer) :
    EagerRelated (hook.withRequest request) (plainHook.withRequest request) := by
  refine ⟨related.queue, related.baseState, related.base, related.pending, rfl,
    related.dispatch, related.reducer, ?_, related.idle⟩
  change EagerSound request.reducer hook.slot.baseState hook.updates
  rw [sameReducer]
  exact related.sound

theorem queue_after :
    (plainHook.outcome.queue plainHook.requestedEntry plainHook.updates).dispatch =
        (hook.outcome.queue hook.requestedEntry hook.updates).dispatch ∧
      (plainHook.outcome.queue plainHook.requestedEntry
          plainHook.updates).lastRenderedReducer =
        (hook.outcome.queue hook.requestedEntry hook.updates).lastRenderedReducer := by
  rw [hook.queue_dispatch, plainHook.queue_dispatch, hook.queue_lastRenderedReducer,
    plainHook.queue_lastRenderedReducer, related.request, related.reducer]
  exact ⟨related.dispatch, rfl⟩

theorem rendered (tail plainTail : Option HookUpdateId) (ids plainIds : List HookUpdateId) :
    EagerRelated (hook.rendered tail ids) (plainHook.rendered plainTail plainIds) := by
  obtain ⟨-, sameBaseState, sameRetained⟩ := related.outcome
  obtain ⟨sameDispatch, sameReducer⟩ := related.queue_after
  refine ⟨related.queue, sameBaseState, sameRetained, rfl, related.request, sameDispatch,
    sameReducer, ?_, ?_⟩
  · change EagerSound hook.request.reducer hook.outcome.baseState
      (hook.outcome.retained ++ [])
    rw [append_nil]
    exact related.sound.retained
  · intro nothingRetained
    change (hook.outcome.queue hook.requestedEntry hook.updates).lastRenderedState =
      hook.outcome.baseState
    have settledAll : hook.outcome.state = hook.outcome.baseState := by
      have nothing := retainedUpdates_eq_nil_iff.mp nothingRetained
      unfold StateHook.outcome
      simp only [hookPassOutcome, settled_eq_self nothing]
    rw [hook.queue_lastRenderedState]
    split
    · -- Nothing waited, so the state is still the one rendered last.
      rename_i nothingWaits
      have noUpdates := isEmpty_iff.mp nothingWaits
      have noBase := (append_eq_nil_iff.mp noUpdates).1
      rw [related.idle noBase, ← settledAll]
      unfold StateHook.outcome
      rw [noUpdates]
      rfl
    · exact settledAll

theorem restarted (nothingPending : hook.pending = []) :
    EagerRelated hook.restarted plainHook.restarted := by
  obtain ⟨sameDispatch, sameReducer⟩ := related.queue_after
  have sameEmpty : plainHook.base.isEmpty = hook.base.isEmpty := by
    rw [related.base]
    cases hook.base <;> rfl
  have baseShape : hook.restarted.base = hook.base := by
    unfold StateHook.restarted
    cases shape : hook.base <;> simp [nothingPending]
  refine ⟨related.queue, related.baseState, ?_, rfl, related.request, sameDispatch,
    sameReducer, ?_, ?_⟩
  · rw [baseShape]
    unfold StateHook.restarted
    rw [sameEmpty, related.pending, nothingPending, related.base]
    cases hook.base <;> rfl
  · change EagerSound hook.request.reducer hook.slot.baseState (hook.restarted.base ++ [])
    have sound := related.sound
    rw [StateHook.updates, nothingPending] at sound
    rw [baseShape]
    exact sound
  · intro nothingWaits
    rw [baseShape] at nothingWaits
    change (hook.outcome.queue hook.requestedEntry hook.updates).lastRenderedState =
      hook.slot.baseState
    rw [hook.queue_lastRenderedState, if_pos, related.idle nothingWaits]
    simp [StateHook.updates, nothingWaits, nothingPending]

end

end EagerRelated

/-- Rendering a list of hooks in other ways. -/
def requestedHooks (hooks : List (StateHook State Action))
    (requests : List (StateHookRequest State Action)) : List (StateHook State Action) :=
  List.zipWith StateHook.withRequest hooks requests

/-- The kind and the reducer of a hook, which never change. -/
def StateHookRequest.spec (request : StateHookRequest State Action) :
    StateHookKind × (State → Action → State) :=
  (request.kind, request.reducer)

/-- One hook is another one rendered another way, of the same kind and with the same
reducer. -/
def IsRequested (hook requested : StateHook State Action) : Prop :=
  ∃ request, request.spec = hook.request.spec ∧ requested = hook.withRequest request

section Requests

variable {hooks plainHooks : List (StateHook State Action)}
  {requests : List (StateHookRequest State Action)}

section

variable (sameSpecs : requests.map (·.spec) = hooks.map (·.request.spec))
include sameSpecs

theorem requestedHooks_spec :
    (requestedHooks hooks requests).map (·.request) = requests ∧
      List.Forall₂ IsRequested hooks (requestedHooks hooks requests) := by
  induction hooks generalizing requests with
  | nil =>
    have noRequests : requests = [] := by simpa using sameSpecs
    subst noRequests
    exact ⟨rfl, .nil⟩
  | cons hook rest ih =>
    cases requests with
    | nil => simp at sameSpecs
    | cons request others =>
      rw [map_cons, map_cons] at sameSpecs
      obtain ⟨sameSpec, sameRest⟩ := List.cons.inj sameSpecs
      obtain ⟨restRequests, restRelated⟩ := ih sameRest
      refine ⟨?_, .cons ⟨request, sameSpec, rfl⟩ restRelated⟩
      change request :: (requestedHooks rest others).map (·.request) = _
      rw [restRequests]

theorem requestedHooks_specs :
    (requestedHooks hooks requests).map (·.request.spec) = requests.map (·.spec) := by
  have sameRequests := congrArg (List.map (·.spec)) (requestedHooks_spec sameSpecs).1
  rw [map_map] at sameRequests
  exact sameRequests

end

theorem requestedHooks_related (related : List.Forall₂ EagerRelated hooks plainHooks)
    (sameSpecs : requests.map (·.spec) = hooks.map (·.request.spec)) :
    List.Forall₂ EagerRelated (requestedHooks hooks requests)
      (requestedHooks plainHooks requests) := by
  induction related generalizing requests with
  | nil =>
    have noRequests : requests = [] := by simpa using sameSpecs
    subst noRequests
    exact .nil
  | cons hookRelated _ ih =>
    cases requests with
    | nil => simp at sameSpecs
    | cons request others =>
      rw [map_cons, map_cons] at sameSpecs
      obtain ⟨sameSpec, sameRest⟩ := List.cons.inj sameSpecs
      exact .cons (hookRelated.withRequest (congrArg Prod.snd sameSpec)) (ih sameRest)

theorem mem_requestedHooks {requested : StateHook State Action}
    (member : requested ∈ requestedHooks hooks requests) :
    ∃ hook ∈ hooks, ∃ request, requested = hook.withRequest request := by
  unfold requestedHooks at member
  induction hooks generalizing requests with
  | nil => simp at member
  | cons hook rest ih =>
    cases requests with
    | nil => simp at member
    | cons request others =>
      rcases mem_cons.mp member with rfl | later
      · exact ⟨hook, by simp, request, rfl⟩
      · obtain ⟨found, present, request, rfl⟩ := ih later
        exact ⟨found, by simp [present], request, rfl⟩

theorem pairwise_requestedHooks {relation : StateHook State Action → StateHook State Action → Prop}
    (pairwise : hooks.Pairwise relation)
    (unconcerned : ∀ earlier later request request',
      relation earlier later →
      relation (earlier.withRequest request) (later.withRequest request')) :
    (requestedHooks hooks requests).Pairwise relation := by
  induction hooks generalizing requests with
  | nil => exact .nil
  | cons hook rest ih =>
    cases requests with
    | nil => exact .nil
    | cons request others =>
      obtain ⟨first, restPairwise⟩ := pairwise_cons.mp pairwise
      refine pairwise_cons.mpr ⟨?_, ih restPairwise⟩
      intro later member
      obtain ⟨found, present, other, rfl⟩ := mem_requestedHooks member
      exact unconcerned hook found request other (first found present)

theorem specs_eq (related : List.Forall₂ EagerRelated hooks plainHooks) :
    plainHooks.map (·.request.spec) = hooks.map (·.request.spec) := by
  induction related with
  | nil => rfl
  | cons hookRelated _ ih =>
    rw [map_cons, map_cons, ih, hookRelated.request]

section

variable {requested : List (StateHook State Action)}
  (isRequested : List.Forall₂ IsRequested hooks requested)
include isRequested

theorem slots_of_requested :
    (requested.map fun hook => HookSlotPayload.state hook.slot) =
      hooks.map fun hook => .state hook.slot := by
  induction isRequested with
  | nil => rfl
  | cons firstRequested _ ih =>
    obtain ⟨request, -, rfl⟩ := firstRequested
    rw [map_cons, map_cons, ih]
    rfl

theorem renderable_of_requested
    (renderable : ∀ hook ∈ hooks, hook.Renderable) : ∀ hook ∈ requested, hook.Renderable := by
  induction isRequested with
  | nil => simp
  | @cons hook _ _ _ firstRequested _ ih =>
    obtain ⟨request, sameSpec, rfl⟩ := firstRequested
    intro other member
    rcases mem_cons.mp member with rfl | later
    · obtain ⟨dispatch, reducer⟩ := renderable hook (by simp)
      refine ⟨dispatch, ?_⟩
      intro handle kindShape
      exact reducer handle ((congrArg Prod.fst sameSpec).symm.trans kindShape)
    · exact ih (fun hook member => renderable hook (by simp [member])) other later

end

theorem CurrentHooks.requested {store : FunctionComponentHookRenderStore State Action}
    {current : FiberId} {currentList : HookListId} {owner : FiberId}
    (currentHooks : CurrentHooks store current currentList owner hooks)
    (sameSpecs : requests.map (·.spec) = hooks.map (·.request.spec)) :
    CurrentHooks store current currentList owner (requestedHooks hooks requests) := by
  have isRequested := (requestedHooks_spec sameSpecs).2
  refine ⟨currentHooks.bound, slots_of_requested isRequested ▸ currentHooks.found,
    ⟨?_, ?_, ?_⟩, renderable_of_requested isRequested currentHooks.renderable⟩
  · intro hook member
    obtain ⟨original, present, request, rfl⟩ := mem_requestedHooks member
    exact currentHooks.view.views original present
  · exact pairwise_requestedHooks currentHooks.view.distinct fun _ _ _ _ holds => holds
  · exact pairwise_requestedHooks currentHooks.view.disjoint fun _ _ _ _ holds => holds

end Requests

section Built

variable {hooks plainHooks built plainBuilt : List (StateHook State Action)}

section

variable (related : List.Forall₂ EagerRelated hooks plainHooks)
include related

theorem built_related (rendered : List.Forall₂ IsRendered hooks built)
    (plainRendered : List.Forall₂ IsRendered plainHooks plainBuilt) :
    List.Forall₂ EagerRelated built plainBuilt := by
  induction related generalizing built plainBuilt with
  | nil =>
    cases rendered
    cases plainRendered
    exact .nil
  | cons hookRelated _ ih =>
    cases rendered with
    | cons isRendered restRendered =>
      cases plainRendered with
      | cons plainIsRendered plainRestRendered =>
        obtain ⟨tail, ids, rfl⟩ := isRendered
        obtain ⟨plainTail, plainIds, rfl⟩ := plainIsRendered
        exact .cons (hookRelated.rendered tail plainTail ids plainIds)
          (ih restRendered plainRestRendered)

theorem restarted_related (nothingPending : ∀ hook ∈ hooks, hook.pending = []) :
    List.Forall₂ EagerRelated (hooks.map (·.restarted)) (plainHooks.map (·.restarted)) := by
  induction related with
  | nil => exact .nil
  | cons hookRelated _ ih =>
    exact .cons (hookRelated.restarted (nothingPending _ (by simp)))
      (ih fun hook member => nothingPending hook (by simp [member]))

theorem renderedStates_eq : plainHooks.map (·.outcome.state) = hooks.map (·.outcome.state) := by
  induction related with
  | nil => rfl
  | cons hookRelated _ ih =>
    rw [map_cons, map_cons, hookRelated.outcome.1, ih]

end

theorem built_specs (rendered : List.Forall₂ IsRendered hooks built) :
    built.map (·.request.spec) = hooks.map (·.request.spec) := by
  induction rendered with
  | nil => rfl
  | cons isRendered _ ih =>
    obtain ⟨tail, ids, rfl⟩ := isRendered
    rw [map_cons, map_cons, ih]
    rfl

theorem built_renderable (rendered : List.Forall₂ IsRendered hooks built)
    (renderable : ∀ hook ∈ hooks, hook.Renderable) : ∀ hook ∈ built, hook.Renderable := by
  induction rendered with
  | nil => simp
  | @cons hook _ _ _ isRendered _ ih =>
    obtain ⟨tail, ids, rfl⟩ := isRendered
    intro other member
    rcases mem_cons.mp member with rfl | later
    · exact (renderable hook (by simp)).restarted
    · exact ih (fun hook member => renderable hook (by simp [member])) other later

end Built

theorem run_commitHookList (store : FunctionComponentHookRenderStore State Action)
    (state : FunctionComponentHookRenderState) :
    ∃ after,
      (commitHookList state : HookRenderM State Action InvokerError Unit).run store = .ok () after ∧
      after.currentList state.renderFiber = some state.workInProgressList ∧
      after.hookLists = store.hookLists ∧
      after.stateQueues = store.stateQueues ∧
      after.stateDispatches = store.stateDispatches := by
  refine ⟨_, rfl, ?_, rfl, rfl, rfl⟩
  unfold FunctionComponentHookRenderStore.currentList
  simp only
  split
  · rename_i someBinding
    obtain ⟨binding, member, same⟩ := any_eq_true.mp someBinding
    have foundSome : (store.currentLists.find? fun binding =>
        binding.fiber = state.renderFiber).isSome = true := by
      rw [find?_isSome]
      exact ⟨binding, member, same⟩
    obtain ⟨found, foundShape⟩ := Option.isSome_iff_exists.mp foundSome
    have foundFiber : found.fiber = state.renderFiber := by simpa using find?_some foundShape
    rw [find?_map]
    have sameTest : ((fun binding : FunctionComponentCurrentHookList =>
        decide (binding.fiber = state.renderFiber)) ∘ fun binding =>
          if binding.fiber = state.renderFiber then
            { binding with list := state.workInProgressList }
          else binding) =
        fun binding => decide (binding.fiber = state.renderFiber) := by
      funext binding
      simp only [Function.comp_apply]
      split <;> rfl
    rw [sameTest, foundShape]
    simp [foundFiber]
  · rename_i noBinding
    have absent : store.currentLists.find? (fun binding =>
        binding.fiber = state.renderFiber) = none := by
      rw [find?_eq_none]
      intro binding member same
      exact noBinding (any_eq_true.mpr ⟨binding, member, same⟩)
    rw [find?_append, absent]
    simp

def FunctionComponentStateDispatchRequest.update
    (request : FunctionComponentStateDispatchRequest State Action) :
    HookUpdateDispatchMetadata Action State where
  lane := request.lane
  revertLane := request.revertLane
  action := request.action
  eagerState := request.eagerState.map (·.eagerState)

/-- A hook behind whose pending updates another one was dispatched. -/
def StateHook.dispatched (hook : StateHook State Action) (id : HookUpdateId)
    (update : HookUpdateDispatchMetadata Action State) : StateHook State Action :=
  { hook with
    entry := { hook.entry with pending := some id }
    pendingIds := hook.pendingIds ++ [id]
    pending := hook.pending ++ [update] }

theorem run_onStateQueues {α : Type} {body : EStateM HookQueueError (StateQueues State Action) α}
    {value : α} {after : StateQueues State Action}
    {store : FunctionComponentHookRenderStore State Action}
    (ran : body.run store.stateQueues = .ok value after) (fiber : FiberId) :
    (onStateQueues fiber body : HookRenderM State Action InvokerError α).run store =
      .ok value { store with stateQueues := after } := by
  have resolved : (onStateQueues fiber body : HookRenderM State Action InvokerError α).run
      store = onStateQueues fiber body store := rfl
  simp only [resolved, onStateQueues, ran]

theorem StateHook.View.run_appendDispatchedUpdate
    {store : FunctionComponentHookRenderStore State Action} {hook : StateHook State Action}
    (view : hook.View store.stateQueues) {binding : FunctionComponentStateDispatchBinding}
    (own : binding.queue = hook.slot.queue)
    (request : FunctionComponentStateDispatchRequest State Action) :
    ∃ id after,
      (appendDispatchedUpdate binding request : HookRenderM State Action InvokerError _).run
        store = .ok id { store with stateQueues := after } ∧
      (hook.dispatched id request.update).View after ∧
      store.stateQueues.updates.data? id = none ∧
      OnlyQueue hook.slot.queue store.stateQueues after ∧
      Extends (hook.pendingIds ++ [id]) store.stateQueues.updates after.updates := by
  obtain ⟨id, created, inserted, isNew, found, createdQueues, createdKept⟩ :=
    run_insertUpdate store.stateQueues (HookUpdate.new request.lane request.action)
  obtain ⟨configured, configuredShape⟩ : ∃ configured : StateQueues State Action,
      configured = created.changeUpdate id request.configure := ⟨_, rfl⟩
  have ranConfigure : (modifyUpdate id request.configure).run created =
      .ok () configured := by
    simp only [modifyUpdate, run_bind, run_query, update_eq_ok found, run_modify, configuredShape]
  have configuredFound : configured.updates.get? id = some ⟨request.update, none⟩ := by
    rw [configuredShape]
    unfold changeUpdate
    rw [SlotArena.get?_modify, if_pos rfl, found]
    unfold FunctionComponentStateDispatchRequest.configure
      FunctionComponentStateDispatchRequest.update
    cases request.eagerState <;> rfl
  have configuredKept : Extends [] store.stateQueues.updates configured.updates := by
    rw [configuredShape]
    exact createdKept.modify_new isNew _
  have configuredQueue : configured.queues = store.stateQueues.queues := by
    rw [configuredShape]
    exact createdQueues
  have configuredEntry : configured.queues.get? hook.slot.queue = some hook.entry := by
    rw [configuredQueue]
    exact view.found
  obtain ⟨after, appended, afterFound, only, kept, pendingRing⟩ :=
    run_appendPendingUpdate configuredEntry
      (view.pendingRing.of_extends configuredKept (disjoint_nil_right _))
      configuredFound rfl
  have idNotBase : id ∉ hook.baseIds := view.baseRing.holds.not_mem_of_new isNew
  have disjointAfter : hook.baseIds.Disjoint (hook.pendingIds ++ [id]) := by
    rw [disjoint_append_right]
    exact ⟨view.disjoint, by simpa using idNotBase⟩
  refine ⟨id, after, ?_, ⟨afterFound, ?_, pendingRing, disjointAfter⟩, isNew, ?_, ?_⟩
  · have ranCreate := @run_onStateQueues _ _ InvokerError _ _ _ _ store inserted binding.fiber
    have ranSet := @run_onStateQueues _ _ InvokerError _ _ _ _
      { store with stateQueues := created } ranConfigure binding.fiber
    have ranAppend := @run_onStateQueues _ _ InvokerError _ _ _ _
      { store with stateQueues := configured } appended binding.fiber
    rw [← own] at ranAppend
    simp only [appendDispatchedUpdate, createUpdate, run_bind, ranCreate, ranSet,
      ranAppend, run_pure]
  · exact (view.baseRing.of_extends configuredKept (disjoint_nil_right _)).of_extends
      kept disjointAfter
  · intro other different
    rw [only other different, configuredQueue]
  · simpa using configuredKept.trans kept

theorem HooksView.dispatched {queues after : StateQueues State Action}
    {before rest : List (StateHook State Action)} {hook : StateHook State Action}
    {id : HookUpdateId} {update : HookUpdateDispatchMetadata Action State}
    (view : HooksView queues (before ++ hook :: rest))
    (dispatchedView : (hook.dispatched id update).View after)
    (isNew : queues.updates.data? id = none) (only : OnlyQueue hook.slot.queue queues after)
    (kept : Extends (hook.pendingIds ++ [id]) queues.updates after.updates) :
    HooksView after (before ++ hook.dispatched id update :: rest) := by
  have distinct := pairwise_append.mp view.distinct
  have disjoint := pairwise_append.mp view.disjoint
  have distinctRest := pairwise_cons.mp distinct.2.1
  have disjointRest := pairwise_cons.mp disjoint.2.1
  have newOutside : ∀ other ∈ before ++ hook :: rest, id ∉ other.ids := by
    intro other member inOther
    exact (view.views other member).disjoint_new
      (fun candidate same => by rw [mem_singleton.mp same]; exact isNew) inOther
      (mem_singleton_self id)
  have dispatchedIds : ∀ candidate, candidate ∈ (hook.dispatched id update).ids →
      candidate ∈ hook.ids ∨ candidate = id := by
    intro candidate member
    simpa [StateHook.ids, StateHook.dispatched, or_assoc] using member
  -- Hooks apart from the old one are apart from the new one too.
  have apart : ∀ other ∈ before ++ hook :: rest, other.ids.Disjoint hook.ids →
      other.ids.Disjoint (hook.dispatched id update).ids := by
    intro other member oldApart candidate inOther inDispatched
    rcases dispatchedIds candidate inDispatched with inHook | rfl
    · exact oldApart inOther inHook
    · exact newOutside other member inOther
  have untouched : ∀ other ∈ before ++ hook :: rest, other.ids.Disjoint hook.ids →
      other.ids.Disjoint (hook.pendingIds ++ [id]) := by
    intro other member oldApart candidate inOther inTouched
    rcases mem_append.mp inTouched with inPending | same
    · exact oldApart inOther (mem_append_right _ inPending)
    · rw [mem_singleton.mp same] at inOther
      exact newOutside other member inOther
  refine ⟨?_, ?_, ?_⟩
  · intro other member
    rcases mem_append.mp member with inBefore | inRest
    · exact (view.views other (by simp [inBefore])).of_frame only
        (distinct.2.2 other inBefore hook (by simp)) kept
        (untouched other (by simp [inBefore]) (disjoint.2.2 other inBefore hook (by simp)))
    · rcases mem_cons.mp inRest with rfl | later
      · exact dispatchedView
      · exact (view.views other (by simp [later])).of_frame only
          (distinctRest.1 other later).symm kept
          (untouched other (by simp [later])
            fun _ inOther inHook => disjointRest.1 other later inHook inOther)
  · refine pairwise_append.mpr ⟨distinct.1, pairwise_cons.mpr distinctRest, ?_⟩
    intro earlier inBefore later inRest
    rcases mem_cons.mp inRest with rfl | inRest
    · exact distinct.2.2 earlier inBefore hook (by simp)
    · exact distinct.2.2 earlier inBefore later (by simp [inRest])
  · refine pairwise_append.mpr ⟨disjoint.1, pairwise_cons.mpr ⟨?_, disjointRest.2⟩, ?_⟩
    · intro later inRest candidate inDispatched inLater
      exact apart later (by simp [inRest])
        (fun _ inOther inHook => disjointRest.1 later inRest inHook inOther) inLater
        inDispatched
    · intro earlier inBefore later inRest
      rcases mem_cons.mp inRest with rfl | inRest
      · exact apart earlier (by simp [inBefore]) (disjoint.2.2 earlier inBefore hook (by simp))
      · exact disjoint.2.2 earlier inBefore later (by simp [inRest])

section Dispatch

variable [DecidableEq State]

/-- Dispatch to a hook of a kind. -/
def dispatchUpdate (kind : StateHookKind)
    (request : FunctionComponentStateDispatchRequest State Action) :
    HookRenderM State Action InvokerError HookUpdateId :=
  match kind with
  | .state => dispatchStateUpdate request
  | .reducer _ => dispatchReducerUpdate request

/-- The checks of a dispatch, in the order of the source. -/
def FunctionComponentHookRenderStore.validateDispatch
    (store : FunctionComponentHookRenderStore State Action) (kind : StateHookKind)
    (request : FunctionComponentStateDispatchRequest State Action) :
    Except (FunctionComponentRenderError State InvokerError)
      FunctionComponentStateDispatchBinding := do
  let binding ← store.stateDispatchBinding request.dispatch
  match kind with
  | .state => store.validateBasicStateDispatchBinding binding
  | .reducer _ => do
      store.validateLiveDispatchBinding binding
      let _ ← store.reducerForQueue binding.fiber binding.queue
  store.validateDispatchEagerState binding request.eagerState
  return binding

theorem run_dispatchUpdate (kind : StateHookKind)
    (request : FunctionComponentStateDispatchRequest State Action)
    (store : FunctionComponentHookRenderStore State Action) :
    (dispatchUpdate kind request : HookRenderM State Action InvokerError _).run store =
      match store.validateDispatch kind request with
      | .ok binding => (appendDispatchedUpdate binding request).run store
      | .error error => .error error store := by
  cases kind with
  | state =>
    simp only [dispatchUpdate, dispatchStateUpdate, validateDispatch, run_bind, run_query]
    cases store.stateDispatchBinding request.dispatch with
    | error error => rfl
    | ok binding =>
      simp only [bind, Except.bind]
      cases store.validateBasicStateDispatchBinding binding with
      | error error => rfl
      | ok _ =>
        simp only
        cases store.validateDispatchEagerState binding request.eagerState <;> rfl
  | reducer handle =>
    simp only [dispatchUpdate, dispatchReducerUpdate, validateDispatch, run_bind, run_query]
    cases store.stateDispatchBinding request.dispatch with
    | error error => rfl
    | ok binding =>
      simp only [bind, Except.bind]
      cases store.validateLiveDispatchBinding binding with
      | error error => rfl
      | ok _ =>
        simp only
        cases store.reducerForQueue binding.fiber binding.queue with
        | error error => rfl
        | ok _ =>
          simp only
          cases store.validateDispatchEagerState binding request.eagerState <;> rfl

/-- A request without its eager state. -/
def FunctionComponentStateDispatchRequest.plain
    (request : FunctionComponentStateDispatchRequest State Action) :
    FunctionComponentStateDispatchRequest State Action :=
  { request with eagerState := none }

/-- What the checks of a dispatch look at besides the eager state. -/
structure SameBindings (store plainStore : FunctionComponentHookRenderStore State Action)
    (queue : HookQueueId)
    (entry plainEntry : StateQueue State) : Prop where
  dispatches : plainStore.stateDispatches = store.stateDispatches
  found : store.stateQueues.queues.get? queue = some entry
  plainFound : plainStore.stateQueues.queues.get? queue = some plainEntry
  dispatch : plainEntry.dispatch = entry.dispatch
  reducer : plainEntry.lastRenderedReducer = entry.lastRenderedReducer

/-- The checks name the binding of the dispatch handle, accept an eager state only if
it was computed from the last rendered state, and accept the plain request too. -/
theorem SameBindings.validateDispatch
    {store plainStore : FunctionComponentHookRenderStore State Action} {queue : HookQueueId}
    {entry plainEntry : StateQueue State}
    (same : SameBindings store plainStore queue entry plainEntry) {kind : StateHookKind}
    {request : FunctionComponentStateDispatchRequest State Action}
    {binding bound : FunctionComponentStateDispatchBinding}
    (bindingFound : store.stateDispatches.find? (fun binding =>
      binding.handle = request.dispatch) = some bound)
    (own : bound.queue = queue)
    (valid : (store.validateDispatch kind request :
      Except (FunctionComponentRenderError State InvokerError) _) = .ok binding) :
    binding = bound ∧
    (plainStore.validateDispatch kind request.plain :
      Except (FunctionComponentRenderError State InvokerError) _) = .ok binding ∧
    ∀ eager, request.eagerState = some eager →
      eager.lastRenderedState = entry.lastRenderedState := by
  have resolved : ∀ fiber, (store.stateQueue fiber bound.queue :
      Except (FunctionComponentRenderError State InvokerError) _) = .ok entry := by
    intro fiber
    rw [own, stateQueue, queue_eq_ok same.found]
    rfl
  have plainResolved : ∀ fiber, (plainStore.stateQueue fiber bound.queue :
      Except (FunctionComponentRenderError State InvokerError) _) = .ok plainEntry := by
    intro fiber
    rw [own, stateQueue, queue_eq_ok same.plainFound]
    rfl
  have boundShape : (store.stateDispatchBinding request.dispatch :
      Except (FunctionComponentRenderError State InvokerError) _) = .ok bound := by
    unfold stateDispatchBinding
    rw [bindingFound]
  have plainBoundShape : (plainStore.stateDispatchBinding request.dispatch :
      Except (FunctionComponentRenderError State InvokerError) _) = .ok bound := by
    unfold stateDispatchBinding
    rw [same.dispatches, bindingFound]
  have sameLive : (plainStore.validateLiveDispatchBinding bound :
      Except (FunctionComponentRenderError State InvokerError) _) =
        store.validateLiveDispatchBinding bound := by
    simp only [validateLiveDispatchBinding, resolved, plainResolved, bind, Except.bind,
      same.dispatch]
  have sameBasic : (plainStore.validateBasicStateDispatchBinding bound :
      Except (FunctionComponentRenderError State InvokerError) _) =
        store.validateBasicStateDispatchBinding bound := by
    simp only [validateBasicStateDispatchBinding, sameLive, resolved, plainResolved,
      bind, Except.bind, same.reducer]
  have sameReducer : (plainStore.reducerForQueue bound.fiber bound.queue :
      Except (FunctionComponentRenderError State InvokerError) _) =
        store.reducerForQueue bound.fiber bound.queue := by
    simp only [reducerForQueue, resolved, plainResolved, bind, Except.bind, same.reducer]
  have eagerChecked : ∀ eager, request.eagerState = some eager →
      (store.validateDispatchEagerState bound request.eagerState :
        Except (FunctionComponentRenderError State InvokerError) _) = .ok () →
      eager.lastRenderedState = entry.lastRenderedState := by
    intro eager shape checked
    rw [shape, validateDispatchEagerState, resolved] at checked
    simp only [bind, Except.bind] at checked
    split at checked
    · simp at checked
    · split at checked
      · simp at checked
      · rename_i agrees
        simpa using agrees
  have plainChecked : (plainStore.validateDispatchEagerState bound request.plain.eagerState :
      Except (FunctionComponentRenderError State InvokerError) _) = .ok () := rfl
  cases kind with
  | state =>
    simp only [FunctionComponentHookRenderStore.validateDispatch, boundShape, bind,
      Except.bind] at valid
    cases basic : (store.validateBasicStateDispatchBinding bound :
        Except (FunctionComponentRenderError State InvokerError) _) with
    | error error => simp [basic] at valid
    | ok _ =>
      cases checked : (store.validateDispatchEagerState bound request.eagerState :
          Except (FunctionComponentRenderError State InvokerError) _) with
      | error error => simp [basic, checked] at valid
      | ok _ =>
        obtain rfl : bound = binding := by simpa [basic, checked, pure, Except.pure] using valid
        refine ⟨rfl, ?_, fun eager shape => eagerChecked eager shape checked⟩
        simp only [FunctionComponentHookRenderStore.validateDispatch,
          FunctionComponentStateDispatchRequest.plain, plainBoundShape, bind,
          Except.bind, sameBasic, basic]
        rfl
  | reducer handle =>
    simp only [FunctionComponentHookRenderStore.validateDispatch, boundShape, bind,
      Except.bind] at valid
    cases live : (store.validateLiveDispatchBinding bound :
        Except (FunctionComponentRenderError State InvokerError) _) with
    | error error => simp [live] at valid
    | ok _ =>
      cases reduced : (store.reducerForQueue bound.fiber bound.queue :
          Except (FunctionComponentRenderError State InvokerError) _) with
      | error error => simp [live, reduced] at valid
      | ok _ =>
        cases checked : (store.validateDispatchEagerState bound request.eagerState :
            Except (FunctionComponentRenderError State InvokerError) _) with
        | error error => simp [live, reduced, checked] at valid
        | ok _ =>
          obtain rfl : bound = binding := by
            simpa [live, reduced, checked, pure, Except.pure] using valid
          refine ⟨rfl, ?_, fun eager shape => eagerChecked eager shape checked⟩
          simp only [FunctionComponentHookRenderStore.validateDispatch,
            FunctionComponentStateDispatchRequest.plain, plainBoundShape, bind,
            Except.bind, sameLive, live, sameReducer, reduced]
          rfl

/-- A component between two renders. -/
structure HookRunState (State Action : Type) where
  store : FunctionComponentHookRenderStore State Action
  current : FiberId
  workInProgress : FiberId

/-- The payload of a hook of the current list. -/
def CurrentSlot (state : HookRunState State Action) (index : Nat)
    (slot : HookStateSlot State) : Prop :=
  ∃ list entry, state.store.currentList state.current = some list ∧
    state.store.hookLists[list]? = some entry ∧
    entry.hooks[index]? = some (.state slot)

def NothingWaitsFor (state : HookRunState State Action)
    (slot : HookStateSlot State) : Prop :=
  slot.baseQueue = none ∧
    ∃ entry, state.store.stateQueues.queues.get? slot.queue = some entry ∧
      entry.pending = none

/-- Two runs of one component: dispatches with eager states and the same dispatches
without them, interleaved with renders of the same hooks under any lanes.  An eager
state is what the reducer of the hook gives on the last rendered state of its queue.
The conditions under which the runs stay in step are two: an eager state is only
dispatched while nothing waits for its hook, and an attempt that is not committed
starts with nothing pending. -/
inductive EagerRun (InvokerError Output : Type)
    (specs : List (StateHookKind × (State → Action → State))) :
    HookRunState State Action → HookRunState State Action → Prop where
  | start {state : HookRunState State Action} {currentList : HookListId} {owner : FiberId}
      {hooks : List (StateHook State Action)}
      (currentHooks : CurrentHooks state.store state.current currentList owner hooks)
      (sameSpecs : hooks.map (·.request.spec) = specs)
      (nothingWaits : ∀ hook ∈ hooks, hook.base = [] ∧ hook.pending = [] ∧
        hook.entry.lastRenderedState = hook.slot.baseState) :
      EagerRun InvokerError Output specs state state
  | dispatch {eager plain : HookRunState State Action}
      {after plainAfter : FunctionComponentHookRenderStore State Action} {id plainId : HookUpdateId}
      {slot : HookStateSlot State} {kind : StateHookKind} {reducer : State → Action → State}
      {binding : FunctionComponentStateDispatchBinding}
      (request : FunctionComponentStateDispatchRequest State Action) (index : Nat)
      (earlier : EagerRun InvokerError Output specs eager plain)
      (isSlot : CurrentSlot eager index slot) (hasSpec : specs[index]? = some (kind, reducer))
      (bound : eager.store.stateDispatches.find? (fun binding =>
        binding.handle = request.dispatch) = some binding)
      (own : binding.queue = slot.queue)
      (computed : ∀ eagerState, request.eagerState = some eagerState →
        ∃ entry, eager.store.stateQueues.queues.get? slot.queue = some entry ∧
          eagerState.eagerState = reducer entry.lastRenderedState request.action)
      (condition : request.eagerState ≠ none → NothingWaitsFor eager slot)
      (ran : (dispatchUpdate kind request : HookRenderM State Action InvokerError _).run
        eager.store = .ok id after)
      (plainRan : (dispatchUpdate kind request.plain :
        HookRenderM State Action InvokerError _).run plain.store = .ok plainId plainAfter) :
      EagerRun InvokerError Output specs { eager with store := after }
        { plain with store := plainAfter }
  | commit {eager plain : HookRunState State Action}
      {after plainAfter done plainDone : FunctionComponentHookRenderStore State Action}
      {state plainState : FunctionComponentHookRenderState} {output plainOutput : Output}
      (requests : List (StateHookRequest State Action))
      (invoke plainInvoke :
        FunctionComponentHookRenderState → Except InvokerError Output)
      (earlier : EagerRun InvokerError Output specs eager plain)
      (sameSpecs : requests.map (·.spec) = specs)
      (ran : (renderFunctionComponent (some eager.current) eager.workInProgress requests
        invoke).run eager.store = .ok (state, output) after)
      (committed : (commitHookList state : HookRenderM State Action InvokerError _).run
        after = .ok () done)
      (plainRan : (renderFunctionComponent (some plain.current) plain.workInProgress
        requests plainInvoke).run plain.store = .ok (plainState, plainOutput) plainAfter)
      (plainCommitted : (commitHookList plainState :
        HookRenderM State Action InvokerError _).run plainAfter = .ok () plainDone) :
      EagerRun InvokerError Output specs ⟨done, eager.workInProgress, eager.current⟩
        ⟨plainDone, plain.workInProgress, plain.current⟩
  | abandon {eager plain : HookRunState State Action}
      (requests : List (StateHookRequest State Action))
      (invoke plainInvoke :
        FunctionComponentHookRenderState → Except InvokerError Output)
      (earlier : EagerRun InvokerError Output specs eager plain)
      (sameSpecs : requests.map (·.spec) = specs)
      (nothingPending : ∀ index slot, CurrentSlot eager index slot →
        ∃ entry, eager.store.stateQueues.queues.get? slot.queue = some entry ∧
          entry.pending = none) :
      EagerRun InvokerError Output specs
        ⟨afterAttempt eager.current eager.workInProgress requests eager.store invoke,
          eager.current, eager.workInProgress⟩
        ⟨afterAttempt plain.current plain.workInProgress requests plain.store plainInvoke,
          plain.current, plain.workInProgress⟩

/-- What holds between the two runs. -/
structure InStep (specs : List (StateHookKind × (State → Action → State)))
    (eager plain : HookRunState State Action)
    (hooks plainHooks : List (StateHook State Action)) : Prop where
  eagerView : ∃ list owner, CurrentHooks eager.store eager.current list owner hooks
  plainView : ∃ list owner, CurrentHooks plain.store plain.current list owner plainHooks
  related : List.Forall₂ EagerRelated hooks plainHooks
  sameSpecs : hooks.map (·.request.spec) = specs
  dispatches : plain.store.stateDispatches = eager.store.stateDispatches

variable {specs : List (StateHookKind × (State → Action → State))}
  {hooks plainHooks : List (StateHook State Action)}
  {requests : List (StateHookRequest State Action)} {state : HookRunState State Action}
  {eager plain : HookRunState State Action} {currentList : HookListId} {owner : FiberId}
  {hook : StateHook State Action}

section

omit [DecidableEq State]

theorem CurrentHooks.currentSlot_iff {hooks : List (StateHook State Action)}
    (currentHooks : CurrentHooks state.store state.current currentList owner hooks) (index : Nat)
    (slot : HookStateSlot State) :
    CurrentSlot state index slot ↔ ∃ hook, hooks[index]? = some hook ∧ hook.slot = slot := by
  unfold CurrentSlot
  constructor
  · rintro ⟨list, entry, bound, found, atIndex⟩
    obtain rfl := Option.some.inj (bound.symm.trans currentHooks.bound)
    obtain rfl := Option.some.inj (found.symm.trans currentHooks.found)
    rw [getElem?_map] at atIndex
    obtain ⟨hook, hookFound, slotShape⟩ := Option.map_eq_some_iff.mp atIndex
    exact ⟨hook, hookFound, HookSlotPayload.state.inj slotShape⟩
  · rintro ⟨hook, hookFound, rfl⟩
    exact ⟨currentList, _, currentHooks.bound, currentHooks.found, by simp [hookFound]⟩

theorem forall₂_split (related : List.Forall₂ EagerRelated hooks plainHooks) {index : Nat}
    (found : hooks[index]? = some hook) :
    ∃ before rest plainBefore plainHook plainRest,
      hooks = before ++ hook :: rest ∧
      plainHooks = plainBefore ++ plainHook :: plainRest ∧
      List.Forall₂ EagerRelated before plainBefore ∧
      EagerRelated hook plainHook ∧
      List.Forall₂ EagerRelated rest plainRest := by
  induction related generalizing index with
  | nil => simp at found
  | @cons first plainFirst others plainOthers firstRelated othersRelated
      ih =>
      cases index with
      | zero =>
        obtain rfl : first = hook := by simpa using found
        exact ⟨[], others, [], plainFirst, plainOthers, rfl, rfl, .nil, firstRelated, othersRelated⟩
      | succ index =>
        obtain ⟨before, rest, plainBefore, plainHook, plainRest, rfl, rfl, beforeRelated,
          hookRelated, restRelated⟩ := ih (by simpa using found)
        exact ⟨first :: before, rest, plainFirst :: plainBefore, plainHook, plainRest,
          rfl, rfl, .cons firstRelated beforeRelated, hookRelated, restRelated⟩

theorem CurrentHooks.dispatched {before rest : List (StateHook State Action)}
    (currentHooks : CurrentHooks state.store state.current currentList owner
      (before ++ hook :: rest)) {binding : FunctionComponentStateDispatchBinding}
    (own : binding.queue = hook.slot.queue)
    (request : FunctionComponentStateDispatchRequest State Action) :
    ∃ id after,
      (appendDispatchedUpdate binding request : HookRenderM State Action InvokerError _).run
        state.store = .ok id after ∧
      after.stateDispatches = state.store.stateDispatches ∧
      CurrentHooks after state.current currentList owner
        (before ++ hook.dispatched id request.update :: rest) := by
  obtain ⟨id, queues, ran, dispatchedView, isNew, only, kept⟩ :=
    @StateHook.View.run_appendDispatchedUpdate State Action InvokerError _ _
      (currentHooks.view.views hook (by simp)) binding own request
  refine ⟨id, { state.store with stateQueues := queues }, ran, rfl, currentHooks.bound, ?_,
    currentHooks.view.dispatched dispatchedView isNew only kept, ?_⟩
  · simpa [StateHook.dispatched] using currentHooks.found
  · intro other member
    simp only [mem_append, mem_cons] at member
    rcases member with inBefore | rfl | inRest
    · exact currentHooks.renderable other (by simp [inBefore])
    · exact currentHooks.renderable hook (by simp)
    · exact currentHooks.renderable other (by simp [inRest])

theorem EagerRelated.dispatched {hook plainHook : StateHook State Action}
    (related : EagerRelated hook plainHook)
    (request : FunctionComponentStateDispatchRequest State Action) (id plainId : HookUpdateId)
    (eager : ∀ eagerState, request.eagerState = some eagerState →
      hook.base = [] ∧ hook.pending = [] ∧
        eagerState.eagerState = hook.request.reducer hook.entry.lastRenderedState request.action) :
    EagerRelated (hook.dispatched id request.update)
      (plainHook.dispatched plainId request.plain.update) := by
  refine ⟨related.queue, related.baseState, related.base, ?_, related.request,
    related.dispatch, related.reducer, ?_, related.idle⟩
  · change plainHook.pending ++ [_] = (hook.pending ++ [_]).map plain
    rw [related.pending, map_append]
    rfl
  · change EagerSound hook.request.reducer hook.slot.baseState
      (hook.base ++ (hook.pending ++ [request.update]))
    rw [← append_assoc]
    refine related.sound.append ?_
    intro value shape
    obtain ⟨eagerState, requested, rfl⟩ := Option.map_eq_some_iff.mp shape
    obtain ⟨noBase, noPending, computed⟩ := eager eagerState requested
    refine ⟨by simp [StateHook.updates, noBase, noPending], ?_⟩
    rw [computed, related.idle noBase]
    rfl

theorem EagerRelated.refl (noBase : hook.base = []) (noPending : hook.pending = [])
    (idle : hook.entry.lastRenderedState = hook.slot.baseState) : EagerRelated hook hook := by
  refine ⟨rfl, rfl, by simp [noBase], by simp [noPending], rfl, rfl, rfl, ?_, fun _ => idle⟩
  simp [StateHook.updates, noBase, noPending, EagerSound]

theorem InStep.start {hooks : List (StateHook State Action)}
    (currentHooks : CurrentHooks state.store state.current currentList owner hooks)
    (sameSpecs : hooks.map (·.request.spec) = specs)
    (nothingWaits : ∀ hook ∈ hooks, hook.base = [] ∧ hook.pending = [] ∧
      hook.entry.lastRenderedState = hook.slot.baseState) :
    InStep specs state state hooks hooks := by
  refine ⟨⟨_, _, currentHooks⟩, ⟨_, _, currentHooks⟩, ?_, sameSpecs, rfl⟩
  rw [forall₂_same]
  intro hook member
  obtain ⟨noBase, noPending, idle⟩ := nothingWaits hook member
  exact .refl noBase noPending idle

end

/-- A dispatch that is accepted with its eager state is accepted without it. -/
theorem InStep.dispatch (inStep : InStep specs eager plain hooks plainHooks)
    {after : FunctionComponentHookRenderStore State Action} {id : HookUpdateId}
    {slot : HookStateSlot State} {kind : StateHookKind} {reducer : State → Action → State}
    {binding : FunctionComponentStateDispatchBinding}
    {request : FunctionComponentStateDispatchRequest State Action} {index : Nat}
    (isSlot : CurrentSlot eager index slot) (hasSpec : specs[index]? = some (kind, reducer))
    (bound : eager.store.stateDispatches.find? (fun binding =>
      binding.handle = request.dispatch) = some binding)
    (own : binding.queue = slot.queue)
    (computed : ∀ eagerState, request.eagerState = some eagerState →
      ∃ entry, eager.store.stateQueues.queues.get? slot.queue = some entry ∧
        eagerState.eagerState = reducer entry.lastRenderedState request.action)
    (condition : request.eagerState ≠ none → NothingWaitsFor eager slot)
    (ran : (dispatchUpdate kind request : HookRenderM State Action InvokerError _).run
      eager.store = .ok id after) :
    ∃ plainId plainAfter hooks' plainHooks',
      (dispatchUpdate kind request.plain : HookRenderM State Action InvokerError _).run
        plain.store = .ok plainId plainAfter ∧
      InStep specs { eager with store := after } { plain with store := plainAfter } hooks'
        plainHooks' := by
  obtain ⟨⟨list, owner, eagerView⟩, ⟨plainList, plainOwner, plainView⟩, related,
    sameSpecs, dispatches⟩ := inStep
  obtain ⟨hook, found, rfl⟩ := (eagerView.currentSlot_iff index slot).mp isSlot
  have hookSpec : hook.request.spec = (kind, reducer) := by
    rw [← sameSpecs, getElem?_map, found] at hasSpec
    exact Option.some.inj hasSpec
  obtain ⟨before, rest, plainBefore, plainHook, plainRest, rfl, rfl, beforeRelated,
    hookRelated, restRelated⟩ := forall₂_split related found
  have view := eagerView.view.views hook (by simp)
  have plainHookView := plainView.view.views plainHook (by simp)
  have same : SameBindings eager.store plain.store hook.slot.queue hook.entry
      plainHook.entry :=
    ⟨dispatches, view.found, hookRelated.queue ▸ plainHookView.found, hookRelated.dispatch,
      hookRelated.reducer⟩
  rw [run_dispatchUpdate] at ran
  cases valid : (eager.store.validateDispatch kind request :
      Except (FunctionComponentRenderError State InvokerError) _) with
  | error error => simp [valid] at ran
  | ok checked =>
    obtain ⟨rfl, plainValid, -⟩ := same.validateDispatch bound own valid
    obtain ⟨newId, newAfter, appended, sameDispatches, newView⟩ :=
      @CurrentHooks.dispatched State Action InvokerError _ _ _ _ _ _ eagerView _ own request
    obtain ⟨plainId, plainAfter, plainAppended, plainSameDispatches, newPlainView⟩ :=
      @CurrentHooks.dispatched State Action InvokerError _ _ _ _ _ _ plainView _
        (own.trans hookRelated.queue.symm) request.plain
    rw [valid] at ran
    obtain ⟨rfl, rfl⟩ := EStateM.Result.ok.inj (appended.symm.trans ran)
    refine ⟨plainId, plainAfter, _, _, ?_, ⟨_, _, newView⟩, ⟨_, _, newPlainView⟩, ?_, ?_, ?_⟩
    · rw [run_dispatchUpdate, plainValid]
      exact plainAppended
    · refine rel_append beforeRelated (.cons ?_ restRelated)
      refine hookRelated.dispatched request newId plainId ?_
      intro eagerState requested
      obtain ⟨noBase, entry, entryFound, noPending⟩ := condition (by simp [requested])
      obtain ⟨computedEntry, computedFound, isComputed⟩ := computed eagerState requested
      obtain rfl := Option.some.inj (entryFound.symm.trans view.found)
      obtain rfl := Option.some.inj (computedFound.symm.trans view.found)
      refine ⟨view.baseRing.eq_none_iff.mp noBase, view.pendingRing.eq_none_iff.mp noPending, ?_⟩
      rw [isComputed, show hook.request.reducer = reducer from congrArg Prod.snd hookSpec]
    · rw [← sameSpecs, map_append, map_append]
      rfl
    · exact plainSameDispatches.trans (dispatches.trans sameDispatches.symm)

section

omit [DecidableEq State]

theorem CurrentHooks.committed
    (currentHooks : CurrentHooks state.store state.current currentList owner hooks)
    (sameSpecs : requests.map (·.spec) = hooks.map (·.request.spec))
    {invoke : FunctionComponentHookRenderState → Except InvokerError Output}
    {after done : FunctionComponentHookRenderStore State Action}
    {renderState : FunctionComponentHookRenderState} {output : Output}
    (ran : (renderFunctionComponent (some state.current) state.workInProgress requests
      invoke).run state.store = .ok (renderState, output) after)
    (committed : (commitHookList renderState : HookRenderM State Action InvokerError _).run
      after = .ok () done) :
    ∃ list owner built,
      CurrentHooks done state.workInProgress list owner built ∧
      List.Forall₂ IsRendered (requestedHooks hooks requests) built ∧
      done.stateDispatches = state.store.stateDispatches := by
  have requested := currentHooks.requested sameSpecs
  obtain ⟨attempted, built, rendering, leaves, rendered, -, builtView⟩ :=
    requested.run_renderFunctionComponent state.workInProgress invoke
  rw [(requestedHooks_spec sameSpecs).1, ran] at rendering
  cases invoked : invoke
      (updateState state.store state.current state.workInProgress currentList) with
  | error error =>
    rw [invoked] at rendering
    cases rendering
  | ok value =>
    rw [invoked] at rendering
    obtain ⟨sameState, rfl⟩ := EStateM.Result.ok.inj rendering
    obtain ⟨rfl, rfl⟩ := Prod.mk.inj sameState
    obtain ⟨bound, ranCommit, isCurrent, sameLists, sameQueues, sameDispatches⟩ :=
      @run_commitHookList State Action InvokerError after
        (updateState state.store state.current state.workInProgress currentList)
    obtain ⟨-, rfl⟩ := EStateM.Result.ok.inj (ranCommit.symm.trans committed)
    refine ⟨state.store.hookLists.length, owner, built, ⟨isCurrent, ?_, ?_, ?_⟩, rendered,
      sameDispatches.trans leaves.dispatches⟩
    · rw [sameLists, leaves.lists]
      simp
    · rw [sameQueues]
      exact builtView
    · exact built_renderable rendered requested.renderable

theorem InStep.commit (inStep : InStep specs eager plain hooks plainHooks)
    {after plainAfter done plainDone : FunctionComponentHookRenderStore State Action}
    {state plainState : FunctionComponentHookRenderState} {output plainOutput : Output}
    {invoke plainInvoke : FunctionComponentHookRenderState → Except InvokerError Output}
    (sameSpecs : requests.map (·.spec) = specs)
    (ran : (renderFunctionComponent (some eager.current) eager.workInProgress requests
      invoke).run eager.store = .ok (state, output) after)
    (committed : (commitHookList state : HookRenderM State Action InvokerError _).run
      after = .ok () done)
    (plainRan : (renderFunctionComponent (some plain.current) plain.workInProgress
      requests plainInvoke).run plain.store = .ok (plainState, plainOutput) plainAfter)
    (plainCommitted : (commitHookList plainState :
      HookRenderM State Action InvokerError _).run plainAfter = .ok () plainDone) :
    ∃ hooks' plainHooks',
      InStep specs ⟨done, eager.workInProgress, eager.current⟩
        ⟨plainDone, plain.workInProgress, plain.current⟩ hooks' plainHooks' := by
  obtain ⟨⟨list, owner, eagerView⟩, ⟨plainList, plainOwner, plainView⟩, related,
    hookSpecs, dispatches⟩ := inStep
  have requestSpecs : requests.map (·.spec) = hooks.map (·.request.spec) :=
    sameSpecs.trans hookSpecs.symm
  have plainSpecs : requests.map (·.spec) = plainHooks.map (·.request.spec) :=
    requestSpecs.trans (specs_eq related).symm
  obtain ⟨newList, newOwner, built, builtView, rendered, keptDispatches⟩ :=
    eagerView.committed requestSpecs ran committed
  obtain ⟨newPlainList, newPlainOwner, plainBuilt, plainBuiltView, plainRendered,
    plainKeptDispatches⟩ := plainView.committed plainSpecs plainRan plainCommitted
  refine ⟨built, plainBuilt, ⟨_, _, builtView⟩, ⟨_, _, plainBuiltView⟩,
    built_related (requestedHooks_related related requestSpecs) rendered plainRendered, ?_,
    plainKeptDispatches.trans (dispatches.trans keptDispatches.symm)⟩
  rw [built_specs rendered, requestedHooks_specs requestSpecs, sameSpecs]

theorem CurrentHooks.attempted
    (currentHooks : CurrentHooks state.store state.current currentList owner hooks)
    (sameSpecs : requests.map (·.spec) = hooks.map (·.request.spec))
    (invoke : FunctionComponentHookRenderState → Except InvokerError Output) :
    CurrentHooks
        (afterAttempt state.current state.workInProgress requests state.store invoke)
        state.current currentList owner
        ((requestedHooks hooks requests).map (·.restarted)) ∧
      newestMemoizedStates
          (afterAttempt state.current state.workInProgress requests state.store invoke) =
        (requestedHooks hooks requests).map (·.outcome.state) ∧
      (afterAttempt state.current state.workInProgress requests state.store
        invoke).stateDispatches = state.store.stateDispatches := by
  have requested := currentHooks.requested sameSpecs
  obtain ⟨restarted, states⟩ := requested.afterAttempt_spec state.workInProgress invoke
  obtain ⟨built, leaves, -⟩ := requested.afterAttempt_leaves state.workInProgress invoke
  rw [(requestedHooks_spec sameSpecs).1] at restarted states leaves
  exact ⟨restarted, states, leaves.dispatches⟩

/-- Two attempts that are not committed stay in step if nothing was pending. -/
theorem InStep.abandon (inStep : InStep specs eager plain hooks plainHooks)
    (invoke plainInvoke : FunctionComponentHookRenderState → Except InvokerError Output)
    (sameSpecs : requests.map (·.spec) = specs)
    (nothingPending : ∀ index slot, CurrentSlot eager index slot →
      ∃ entry, eager.store.stateQueues.queues.get? slot.queue = some entry ∧ entry.pending = none) :
    ∃ hooks' plainHooks',
      InStep specs
        ⟨afterAttempt eager.current eager.workInProgress requests eager.store invoke,
          eager.current, eager.workInProgress⟩
        ⟨afterAttempt plain.current plain.workInProgress requests plain.store plainInvoke,
          plain.current, plain.workInProgress⟩ hooks' plainHooks' := by
  obtain ⟨⟨list, owner, eagerView⟩, ⟨plainList, plainOwner, plainView⟩, related,
    hookSpecs, dispatches⟩ := inStep
  have requestSpecs : requests.map (·.spec) = hooks.map (·.request.spec) :=
    sameSpecs.trans hookSpecs.symm
  obtain ⟨restarted, -, keptDispatches⟩ := eagerView.attempted requestSpecs invoke
  obtain ⟨plainRestarted, -, plainKeptDispatches⟩ :=
    plainView.attempted (requestSpecs.trans (specs_eq related).symm) plainInvoke
  refine ⟨_, _, ⟨_, _, restarted⟩, ⟨_, _, plainRestarted⟩,
    restarted_related (requestedHooks_related related requestSpecs) ?_, ?_,
    plainKeptDispatches.trans (dispatches.trans keptDispatches.symm)⟩
  · intro requested member
    obtain ⟨hook, present, request, rfl⟩ := mem_requestedHooks member
    obtain ⟨index, inside, found⟩ := mem_iff_getElem.mp present
    obtain ⟨entry, entryFound, noPending⟩ := nothingPending index hook.slot
      ((eagerView.currentSlot_iff index hook.slot).mpr ⟨hook, by simp [inside, found], rfl⟩)
    have view := eagerView.view.views hook present
    obtain rfl := Option.some.inj (entryFound.symm.trans view.found)
    exact view.pendingRing.eq_none_iff.mp noPending
  · rw [map_map]
    change (requestedHooks hooks requests).map (·.request.spec) = specs
    rw [requestedHooks_specs requestSpecs, sameSpecs]

end

theorem EagerRun.inStep (run : EagerRun InvokerError Output specs eager plain) :
    ∃ hooks plainHooks, InStep specs eager plain hooks plainHooks := by
  induction run with
  | start currentHooks sameSpecs nothingWaits =>
    exact ⟨_, _, .start currentHooks sameSpecs nothingWaits⟩
  | dispatch request index _ isSlot hasSpec bound own computed condition ran plainRan
      ih =>
      obtain ⟨hooks, plainHooks, inStep⟩ := ih
      obtain ⟨plainId, plainAfter, hooks', plainHooks', plainRan', stepped⟩ :=
        inStep.dispatch isSlot hasSpec bound own computed condition ran
      obtain ⟨rfl, rfl⟩ := EStateM.Result.ok.inj (plainRan'.symm.trans plainRan)
      exact ⟨hooks', plainHooks', stepped⟩
  | commit requests invoke plainInvoke _ sameSpecs ran committed plainRan plainCommitted
      ih =>
      obtain ⟨hooks, plainHooks, inStep⟩ := ih
      exact inStep.commit sameSpecs ran committed plainRan plainCommitted
  | abandon requests invoke plainInvoke _ sameSpecs nothingPending ih =>
    obtain ⟨hooks, plainHooks, inStep⟩ := ih
    exact inStep.abandon invoke plainInvoke sameSpecs nothingPending

/-- In a run that meets the conditions every render gives the states of the run without
eager states. -/
theorem EagerRun.states_agree
    {specs : List (StateHookKind × (State → Action → State))}
    {eager plain : HookRunState State Action}
    (run : EagerRun InvokerError Output specs eager plain)
    (requests : List (StateHookRequest State Action))
    (sameSpecs : requests.map (·.spec) = specs)
    (invoke plainInvoke : FunctionComponentHookRenderState → Except InvokerError Output) :
    newestMemoizedStates
        (afterAttempt eager.current eager.workInProgress requests eager.store invoke) =
      newestMemoizedStates
        (afterAttempt plain.current plain.workInProgress requests plain.store
          plainInvoke) := by
  obtain ⟨hooks, plainHooks, ⟨list, owner, eagerView⟩, ⟨plainList, plainOwner, plainView⟩,
    related, hookSpecs, -⟩ := run.inStep
  have requestSpecs : requests.map (·.spec) = hooks.map (·.request.spec) :=
    sameSpecs.trans hookSpecs.symm
  obtain ⟨-, states, -⟩ := eagerView.attempted requestSpecs invoke
  obtain ⟨-, plainStates, -⟩ :=
    plainView.attempted (requestSpecs.trans (specs_eq related).symm) plainInvoke
  rw [states, plainStates]
  exact (renderedStates_eq (requestedHooks_related related requestSpecs)).symm

end Dispatch

section Sample

def sampleHookStore : FunctionComponentHookRenderStore Nat Nat :=
  stateAfter ((createCurrentStateHook sampleCurrentFiber 0 :
    HookRenderM Nat Nat Unit HookSlotId).run .new)

/-- The hook of that fiber. -/
def sampleHook : StateHook Nat Nat where
  slot := HookStateSlot.new 0 ⟨0, 0⟩
  entry :=
    { pending := none
      lanes := Lanes.no
      dispatch := some ⟨1⟩
      lastRenderedReducer := some .basicState
      lastRenderedState := 0 }
  baseIds := []
  pendingIds := []
  base := []
  pending := []
  request := ⟨.state, 0, Lanes.sync, Lanes.sync, (· + ·)⟩

/-- An update of the hook with the eager state on what was rendered last. -/
def sampleEagerRequest : FunctionComponentStateDispatchRequest Nat Nat where
  dispatch := ⟨1⟩
  action := 1
  lane := ⟨Lanes.sync, HookUpdateLane.accepts_sync⟩
  revertLane := HookRevertLane.no
  eagerState := some ⟨0, 1⟩

/-- The fiber after the same dispatch some times. -/
def sampleHookStoreAfter (request : FunctionComponentStateDispatchRequest Nat Nat) :
    Nat → FunctionComponentHookRenderStore Nat Nat
  | 0 => sampleHookStore
  | count + 1 =>
      stateAfter ((dispatchUpdate .state request :
        HookRenderM Nat Nat Unit HookUpdateId).run (sampleHookStoreAfter request count))

def sampleRunState (store : FunctionComponentHookRenderStore Nat Nat) : HookRunState Nat Nat where
  store := store
  current := sampleCurrentFiber
  workInProgress := sampleWorkInProgressFiber

theorem sampleHookStore_currentHooks :
    CurrentHooks sampleHookStore sampleCurrentFiber 0 sampleCurrentFiber [sampleHook] where
  bound := by decide
  found := by decide
  view := by
    refine ⟨?_, pairwise_singleton _ _, pairwise_singleton _ _⟩
    intro hook member
    obtain rfl := mem_singleton.mp member
    exact ⟨by decide, ⟨rfl, rfl⟩, ⟨rfl, rfl⟩, disjoint_nil_left _⟩
  renderable := by
    intro hook member
    obtain rfl := mem_singleton.mp member
    exact ⟨⟨⟨1⟩, rfl⟩, by intro handle shape; cases shape⟩

theorem sampleEagerRun :
    EagerRun Unit Unit [(.state, (· + ·))]
      (sampleRunState (sampleHookStoreAfter sampleEagerRequest 1))
      (sampleRunState (sampleHookStoreAfter sampleEagerRequest.plain 1)) := by
  have started : EagerRun Unit Unit [(.state, (· + ·))] (sampleRunState sampleHookStore)
      (sampleRunState sampleHookStore) := by
    refine .start sampleHookStore_currentHooks rfl ?_
    intro hook member
    obtain rfl := mem_singleton.mp member
    exact ⟨rfl, rfl, rfl⟩
  refine @EagerRun.dispatch _ _ _ _ _ _ _ _ _ _ ⟨0, 0⟩ ⟨0, 0⟩ sampleHook.slot .state
    (· + ·) ⟨⟨1⟩, sampleCurrentFiber, ⟨0, 0⟩⟩ sampleEagerRequest 0 started ?_ rfl ?_ rfl ?_ ?_
    ?_ ?_
  · exact (@CurrentHooks.currentSlot_iff _ _ (sampleRunState sampleHookStore) _ _ _
      sampleHookStore_currentHooks 0 sampleHook.slot).mpr ⟨sampleHook, rfl, rfl⟩
  · decide
  · intro eagerState requested
    obtain rfl := Option.some.inj requested
    exact ⟨sampleHook.entry, by decide, by decide⟩
  · intro _
    exact ⟨rfl, sampleHook.entry, by decide, rfl⟩
  · rfl
  · rfl

/-- The theorem applies to that run. -/
theorem EagerRun.states_agree_sample :
    EagerRun Unit Unit [(.state, (· + ·))]
        (sampleRunState (sampleHookStoreAfter sampleEagerRequest 1))
        (sampleRunState (sampleHookStoreAfter sampleEagerRequest.plain 1)) ∧
      newestMemoizedStates (afterAttempt sampleCurrentFiber sampleWorkInProgressFiber
          [sampleHook.request] (sampleHookStoreAfter sampleEagerRequest 1)
          fun _ => (.ok () : Except Unit Unit)) =
        newestMemoizedStates (afterAttempt sampleCurrentFiber sampleWorkInProgressFiber
          [sampleHook.request] (sampleHookStoreAfter sampleEagerRequest.plain 1)
          fun _ => (.ok () : Except Unit Unit)) :=
  ⟨sampleEagerRun, sampleEagerRun.states_agree [sampleHook.request] rfl _ _⟩

/-- The same eager dispatch twice is accepted both times, since the last rendered state
has not changed in between; the render then misses the first update. -/
theorem second_eager_state_misses_first_update :
    (∀ count < 2,
      ((sampleHookStoreAfter sampleEagerRequest count).stateQueues.queues.get?
          sampleHook.slot.queue).map (·.lastRenderedState) = some 0 ∧
      (match (dispatchUpdate .state sampleEagerRequest :
          HookRenderM Nat Nat Unit HookUpdateId).run
          (sampleHookStoreAfter sampleEagerRequest count) with
        | .ok _ _ => True
        | .error _ _ => False)) ∧
    newestMemoizedStates (afterAttempt sampleCurrentFiber sampleWorkInProgressFiber
        [sampleHook.request] (sampleHookStoreAfter sampleEagerRequest 2)
        fun _ => (.ok () : Except Unit Unit)) = [1] ∧
    newestMemoizedStates (afterAttempt sampleCurrentFiber sampleWorkInProgressFiber
        [sampleHook.request] (sampleHookStoreAfter sampleEagerRequest.plain 2)
        fun _ => (.ok () : Except Unit Unit)) = [2] := by
  refine ⟨?_, by decide, by decide⟩
  intro count bounded
  match count with
  | 0 => exact ⟨by decide, trivial⟩
  | 1 => exact ⟨by decide, trivial⟩

end Sample

end FastReact
