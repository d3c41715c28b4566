import FastReact.FunctionComponent
import FastReact.HookStateQueueRebase

namespace FastReact

open ErrorState FunctionComponent FunctionComponentHookRenderStore HookQueueStore HookSlotPayload LinkChain LinkedArena List

/-!
# Render attempts of a function component

An attempt processes the queue of every hook on a copy of the current payload.
The queues are shared: what an attempt moves out of a pending ring is gone for
the next attempt unless the base ring of the current hook leads to it.  The
module says what an attempt leaves behind for the current list and for the list
it builds, and from that when attempts can be repeated.
-/

variable {State Action InvokerError Output : Type}

abbrev StateQueue (State : Type) :=
  HookQueue State FunctionComponentStateReducerId FunctionComponentStateDispatchHandle

/-- A hook of a list: its payload, the content of its queue, the updates waiting in
both rings and the way the component renders it. -/
structure StateHook (State Action : Type) where
  slot : HookStateSlot State
  entry : StateQueue State
  baseIds : List HookUpdateId
  pendingIds : List HookUpdateId
  base : List (HookUpdateDispatchMetadata Action State)
  pending : List (HookUpdateDispatchMetadata Action State)
  request : StateHookRequest State Action

namespace StateHook

variable (hook : StateHook State Action)

def ids : List HookUpdateId :=
  hook.baseIds ++ hook.pendingIds

def updates : List (HookUpdateDispatchMetadata Action State) :=
  hook.base ++ hook.pending

/-- The hook is what a store holds. -/
def View (queues : StateQueues State Action) : Prop :=
  SlotView queues hook.slot hook.entry hook.baseIds hook.pendingIds hook.base hook.pending

/-- The queue of the hook has what rendering the hook asks for. -/
def Renderable : Prop :=
  (∃ dispatch, hook.entry.dispatch = some dispatch) ∧
    ∀ handle, hook.request.kind = .reducer handle →
      ∃ reducer, hook.entry.lastRenderedReducer = some (.reducer reducer)

/-- The queue as the pass finds it; a reducer hook notes its reducer first. -/
def requestedEntry : StateQueue State :=
  match hook.request.kind with
  | .state => hook.entry
  | .reducer handle => { hook.entry with lastRenderedReducer := some (.reducer handle) }

def outcome : HookPassOutcome Action State :=
  hookPassOutcome hook.request.renderLanes hook.request.rootRenderLanes
    hook.request.reducer hook.slot.baseState hook.updates

/-- The hook of the current list after an attempt.  Its payload is untouched; the
pending ring has moved into the base ring, which is read from its old tail. -/
def restarted : StateHook State Action :=
  { hook with
    entry := hook.outcome.queue hook.requestedEntry hook.updates
    baseIds := if hook.base.isEmpty then [] else hook.pendingIds ++ hook.baseIds
    pendingIds := []
    base := if hook.base.isEmpty then [] else hook.pending ++ hook.base
    pending := [] }

/-- The hook of the list an attempt builds. -/
def rendered (tail : Option HookUpdateId) (retainedIds : List HookUpdateId) :
    StateHook State Action :=
  { hook with
    slot := hook.outcome.slot hook.slot tail
    entry := hook.outcome.queue hook.requestedEntry hook.updates
    baseIds := retainedIds
    pendingIds := []
    base := hook.outcome.retained
    pending := [] }

def renderRecord (fiber : FiberId) (id : HookSlotId)
    (dispatch : FunctionComponentStateDispatchHandle) (tail : Option HookUpdateId) :
    FunctionComponentStateUpdateRenderRecord State where
  fiber := fiber
  hook := id
  kind := hook.request.kind
  dispatch := dispatch
  renderLanes := hook.request.renderLanes
  rootRenderLanes := hook.request.rootRenderLanes
  previousPayload := hook.slot
  result := hook.outcome.result tail

end StateHook

open StateHook

/-- The hooks of a list with queues of their own and disjoint rings. -/
structure HooksView (queues : StateQueues State Action)
    (hooks : List (StateHook State Action)) : Prop where
  views : ∀ hook ∈ hooks, hook.View queues
  distinct : hooks.Pairwise fun earlier later => earlier.slot.queue ≠ later.slot.queue
  disjoint : hooks.Pairwise fun earlier later => earlier.ids.Disjoint later.ids

variable {hook : StateHook State Action} {queues after : StateQueues State Action}

theorem StateHook.View.of_frame {queue : HookQueueId} {touched : List HookUpdateId}
    (view : hook.View queues) (only : OnlyQueue queue queues after)
    (different : hook.slot.queue ≠ queue) (kept : Extends touched queues.updates after.updates)
    (disjoint : hook.ids.Disjoint touched) : hook.View after := by
  have apart := disjoint_append_left.mp disjoint
  refine ⟨?_, view.baseRing.of_extends kept apart.1,
    view.pendingRing.of_extends kept apart.2, view.disjoint⟩
  rw [only hook.slot.queue different]
  exact view.found

theorem HookPassOutcome.queue_pending {ReducerId DispatchId : Type}
    (outcome : HookPassOutcome Action State) {entry : HookQueue State ReducerId DispatchId}
    {updates : List (HookUpdateDispatchMetadata Action State)}
    (noPending : updates = [] → entry.pending = none) :
    (outcome.queue entry updates).pending = none := by
  unfold HookPassOutcome.queue
  split
  · rename_i noUpdates
    exact noPending (isEmpty_iff.mp noUpdates)
  · rfl

theorem StateHook.View.run_pass
    (view : SlotView queues hook.slot hook.requestedEntry hook.baseIds hook.pendingIds
      hook.base hook.pending) :
    ∃ after tail retainedIds,
      (processUpdateQueue hook.request.renderLanes hook.request.rootRenderLanes
        hook.request.reducer).run (queues, hook.slot) =
          .ok (hook.outcome.result tail) (after, hook.outcome.slot hook.slot tail) ∧
      hook.restarted.View after ∧
      (hook.rendered tail retainedIds).View after ∧
      (∀ id ∈ retainedIds, queues.updates.data? id = none) ∧
      OnlyQueue hook.slot.queue queues after ∧
      Extends hook.ids queues.updates after.updates := by
  obtain ⟨after, tail, retainedIds, ran, refines⟩ :=
    run_processUpdateQueue view.found view.baseRing view.pendingRing view.disjoint
      (show hook.outcome = _ from rfl)
  have noPending : (hook.outcome.queue hook.requestedEntry hook.updates).pending = none := by
    refine hook.outcome.queue_pending ?_
    intro nothing
    exact view.pendingRing.eq_none_iff.mpr (append_eq_nil_iff.mp nothing).2
  have emptyRing : after.updates.HoldsRing
      (hook.outcome.queue hook.requestedEntry hook.updates).pending [] [] := by
    rw [noPending]
    exact ⟨rfl, rfl⟩
  refine ⟨after, tail, retainedIds, ran, ⟨refines.queue, ?_, emptyRing, by simp [restarted]⟩,
    ⟨refines.queue, refines.ring, emptyRing, by simp [rendered]⟩, refines.isNew,
    refines.onlyQueue, refines.kept⟩
  -- The current payload still points to the old tail of its base ring.
  change after.updates.HoldsRing hook.slot.baseQueue
    (if hook.base.isEmpty then [] else hook.pendingIds ++ hook.baseIds)
    (if hook.base.isEmpty then [] else hook.pending ++ hook.base)
  have baseRing := view.baseRing
  cases tailShape : hook.slot.baseQueue with
  | none =>
    rw [tailShape] at baseRing
    have noBase := baseRing.eq_none_iff.mp rfl
    rw [noBase]
    exact ⟨rfl, rfl⟩
  | some baseTail =>
    rw [tailShape] at baseRing
    have ring : IsRing queues.updates.next? baseTail hook.baseIds := baseRing.ring
    have someBase : hook.base.isEmpty = false := by
      rw [isEmpty_eq_false_iff]
      intro noBase
      exact Option.some_ne_none baseTail (baseRing.eq_none_iff.mpr noBase)
    obtain ⟨mergedTail, spliced⟩ := refines.spliced
    rw [someBase]
    exact spliced.rotate baseRing.holds.length_eq ring.last

/-- The store while an attempt fills a list. -/
def FunctionComponentHookRenderStore.attempting
    (store : FunctionComponentHookRenderStore State Action) (list : HookListId) (owner : FiberId)
    (slots : List (HookStateSlot State)) (queues : StateQueues State Action) :
    FunctionComponentHookRenderStore State Action :=
  { store with
    hookLists := store.hookLists.set list ⟨owner, slots.map .state⟩
    stateQueues := queues }

theorem run_onStateQueues_attempting {α : Type}
    {body : EStateM HookQueueError (StateQueues State Action) α} {value : α}
    {queues after : StateQueues State Action} (ran : body.run queues = .ok value after)
    (store : FunctionComponentHookRenderStore State Action) (fiber owner : FiberId)
    (list : HookListId) (slots : List (HookStateSlot State)) :
    (onStateQueues fiber body : HookRenderM State Action InvokerError α).run
        (store.attempting list owner slots queues) =
      .ok value (store.attempting list owner slots after) := by
  have resolved : (onStateQueues fiber body : HookRenderM State Action InvokerError α).run
      (store.attempting list owner slots queues) =
      onStateQueues fiber body (store.attempting list owner slots queues) := rfl
  have held : (store.attempting list owner slots queues).stateQueues = queues := rfl
  simp only [resolved, onStateQueues, held, ran]
  rfl

structure AttemptLists (store : FunctionComponentHookRenderStore State Action)
    (currentList workInProgressList : HookListId) (owner : FiberId)
    (slots : List (HookStateSlot State)) : Prop where
  current : store.hookLists[currentList]? = some ⟨owner, slots.map .state⟩
  created : workInProgressList < store.hookLists.length
  different : workInProgressList ≠ currentList

namespace AttemptLists

variable {store : FunctionComponentHookRenderStore State Action}
  {currentList workInProgressList : HookListId} {owner : FiberId}
  {slots : List (HookStateSlot State)}
  (lists : AttemptLists store currentList workInProgressList owner slots) (fiber : FiberId)
  (done : List (HookStateSlot State)) (queues : StateQueues State Action)

include lists

theorem list_current :
    (store.attempting workInProgressList owner done queues).list fiber currentList =
      (.ok ⟨owner, slots.map .state⟩ :
        Except (FunctionComponentRenderError State InvokerError) (HookList State)) := by
  unfold list attempting
  simp only [getElem?_set_ne lists.different, lists.current]

theorem list_workInProgress :
    (store.attempting workInProgressList owner done queues).list fiber workInProgressList =
      (.ok ⟨owner, done.map .state⟩ :
        Except (FunctionComponentRenderError State InvokerError) (HookList State)) := by
  unfold list attempting
  simp only [getElem?_set_self lists.created]

theorem run_ensure :
    (ensureUpdateCursorListsUnchanged fiber
      ⟨currentList, workInProgressList, done.length, slots.length⟩ :
        HookRenderM State Action InvokerError Unit).run
      (store.attempting workInProgressList owner done queues) =
      .ok () (store.attempting workInProgressList owner done queues) := by
  simp [ensureUpdateCursorListsUnchanged, lists.list_current, lists.list_workInProgress]

theorem run_updateHook {rest : List (HookStateSlot State)} {slot : HookStateSlot State}
    {earlier : List (HookStateSlot State)} (shape : slots = earlier ++ slot :: rest)
    (sameLength : done.length = earlier.length) :
    (updateHook fiber ⟨currentList, workInProgressList, done.length, slots.length⟩ :
        HookRenderM State Action InvokerError _).run
      (store.attempting workInProgressList owner done queues) =
      .ok (⟨workInProgressList, done.length⟩,
          ⟨currentList, workInProgressList, done.length + 1, slots.length⟩)
        (store.attempting workInProgressList owner (done ++ [slot]) queues) := by
  have next : (slots.map state)[done.length]? = some (.state slot) := by
    simp [shape, sameLength]
  have ensured := @run_ensure State Action InvokerError _ _ _ _ _ lists fiber done queues
  simp only [updateHook, run_bind, ensured, run_query, lists.list_current, next,
    appendHook, lists.list_workInProgress, run_modify, run_pure]
  simp [attempting, modify_eq_set_getElem?, getElem?_set_self lists.created]

theorem run_finishUpdate (sameLength : done.length = slots.length) :
    (finishUpdate fiber ⟨currentList, workInProgressList, done.length, slots.length⟩ :
        HookRenderM State Action InvokerError Unit).run
      (store.attempting workInProgressList owner done queues) =
      .ok () (store.attempting workInProgressList owner done queues) := by
  have ensured := @run_ensure State Action InvokerError _ _ _ _ _ lists fiber done queues
  simp only [finishUpdate, run_bind, ensured, run_query, lists.list_current]
  simp [sameLength]

theorem run_setHookPayload (slot replaced : HookStateSlot State) :
    (setHookPayload fiber ⟨workInProgressList, done.length⟩ (.state replaced) :
        HookRenderM State Action InvokerError Unit).run
      (store.attempting workInProgressList owner (done ++ [slot]) queues) =
      .ok () (store.attempting workInProgressList owner (done ++ [replaced]) queues) := by
  have inside : ¬ ((done ++ [slot]).map state).length ≤ done.length := by simp
  simp only [setHookPayload, run_bind, run_query, lists.list_workInProgress,
    if_neg inside, run_modify]
  simp [attempting, modify_eq_set_getElem?, getElem?_set_self lists.created]

theorem statePayloadForHook_eq (slot : HookStateSlot State) :
    (store.attempting workInProgressList owner (done ++ [slot]) queues).statePayloadForHook
        fiber ⟨workInProgressList, done.length⟩ =
      (.ok slot : Except (FunctionComponentRenderError State InvokerError) _) := by
  unfold statePayloadForHook
  rw [lists.list_workInProgress]
  simp [statePayload, Bind.bind, Except.bind]

end AttemptLists

open AttemptLists

theorem StateHook.View.run_requestEntry
    {queues : StateQueues State Action} (view : hook.View queues) :
    ∃ requested : StateQueues State Action,
      SlotView requested hook.slot hook.requestedEntry hook.baseIds hook.pendingIds
        hook.base hook.pending ∧
      OnlyQueue hook.slot.queue queues requested ∧
      requested.updates = queues.updates ∧
      (hook.request.kind = .state → requested = queues) ∧
      ∀ handle, hook.request.kind = .reducer handle →
        (modifyQueue hook.slot.queue fun entry : StateQueue State =>
          { entry with lastRenderedReducer := some (.reducer handle) }).run queues =
            .ok () requested := by
  cases kindShape : hook.request.kind with
  | state =>
    refine ⟨queues, ?_, fun _ _ => rfl, rfl, fun _ => rfl, by simp⟩
    unfold requestedEntry
    rw [kindShape]
    exact view
  | reducer handle =>
    refine ⟨queues.changeQueue hook.slot.queue fun entry =>
      { entry with lastRenderedReducer := some (.reducer handle) }, ?_,
      onlyQueue_changeQueue _ _ _, rfl, by simp, ?_⟩
    · have entryShape : hook.requestedEntry =
          { hook.entry with lastRenderedReducer := some (.reducer handle) } := by
        unfold requestedEntry
        rw [kindShape]
      rw [entryShape]
      exact ⟨get?_changeQueue_self view.found _, view.baseRing, view.pendingRing, view.disjoint⟩
    · intro other same
      obtain rfl := StateHookKind.reducer.inj same
      exact run_modifyQueue view.found _

theorem AttemptLists.run_processHookQueue {store : FunctionComponentHookRenderStore State Action}
    {currentList workInProgressList : HookListId} {owner : FiberId}
    {slots : List (HookStateSlot State)}
    (lists : AttemptLists store currentList workInProgressList owner slots) (fiber : FiberId)
    (done : List (HookStateSlot State)) {queues : StateQueues State Action}
    {hook : StateHook State Action} (view : hook.View queues) (renderable : hook.Renderable) :
    ∃ dispatch after tail retainedIds,
      (processHookQueue fiber ⟨workInProgressList, done.length⟩ hook.request :
          HookRenderM State Action InvokerError _).run
        (store.attempting workInProgressList owner (done ++ [hook.slot]) queues) =
        .ok (hook.renderRecord fiber ⟨workInProgressList, done.length⟩ dispatch tail)
          (store.attempting workInProgressList owner
            (done ++ [hook.outcome.slot hook.slot tail]) after) ∧
      hook.restarted.View after ∧
      (hook.rendered tail retainedIds).View after ∧
      (∀ id ∈ retainedIds, queues.updates.data? id = none) ∧
      OnlyQueue hook.slot.queue queues after ∧
      Extends hook.ids queues.updates after.updates := by
  obtain ⟨requested, requestedView, requestedOnly, sameUpdates, ofState, ofReducer⟩ :=
    view.run_requestEntry
  obtain ⟨after, tail, retainedIds, ran, restarted, rendered, isNew, only, kept⟩ :=
    StateHook.View.run_pass requestedView
  obtain ⟨⟨dispatch, dispatchShape⟩, reducerQueue⟩ := renderable
  have queueFound : ∀ slots, (store.attempting workInProgressList owner slots
      queues).stateQueue fiber hook.slot.queue =
        (.ok hook.entry : Except (FunctionComponentRenderError State InvokerError) _) := by
    intro slots
    unfold stateQueue
    rw [show (store.attempting workInProgressList owner slots queues).stateQueues = queues
      from rfl, queue_eq_ok view.found]
    rfl
  have dispatchFound : (store.attempting workInProgressList owner (done ++ [hook.slot])
      queues).stateDispatchForQueue fiber hook.slot.queue =
        (.ok dispatch : Except (FunctionComponentRenderError State InvokerError) _) := by
    unfold stateDispatchForQueue
    rw [queueFound]
    simp [Bind.bind, Except.bind, dispatchShape]
  have ranPayload : (processPayload fiber ⟨workInProgressList, done.length⟩ hook.slot
      hook.request : HookRenderM State Action InvokerError _).run
        (store.attempting workInProgressList owner (done ++ [hook.slot]) requested) =
        .ok (hook.outcome.result tail) (store.attempting workInProgressList owner
          (done ++ [hook.outcome.slot hook.slot tail]) after) := by
    have ranCopy : (processCopy hook.slot hook.request).run requested =
        .ok (hook.outcome.result tail, hook.outcome.slot hook.slot tail) after := by
      change processCopy hook.slot hook.request requested = _
      rw [processCopy, ran]
    have ranQueues := @run_onStateQueues_attempting _ _ InvokerError _ _ _ _ _ ranCopy
      store fiber owner workInProgressList (done ++ [hook.slot])
    have written := @run_setHookPayload State Action InvokerError _ _ _ _ _ lists fiber
      done after hook.slot (hook.outcome.slot hook.slot tail)
    simp only [processPayload, run_bind, ranQueues, written, run_pure]
  have payloadFound := @statePayloadForHook_eq State Action InvokerError _ _ _ _ _ lists
    fiber done queues hook.slot
  have onlyAll : OnlyQueue hook.slot.queue queues after := by
    intro other different
    rw [only other different]
    exact requestedOnly other different
  rw [sameUpdates] at isNew kept
  cases kindShape : hook.request.kind with
  | state =>
    obtain rfl := ofState kindShape
    refine ⟨dispatch, after, tail, retainedIds, ?_, restarted, rendered, isNew, onlyAll, kept⟩
    simp only [processHookQueue, run_bind, run_query, payloadFound, dispatchFound,
      kindShape, run_pure, ranPayload, renderRecord]
  | reducer handle =>
    obtain ⟨reducer, reducerShape⟩ := reducerQueue handle kindShape
    have reducerFound : (store.attempting workInProgressList owner (done ++ [hook.slot])
        queues).reducerForQueue fiber hook.slot.queue =
          (.ok reducer : Except (FunctionComponentRenderError State InvokerError) _) := by
      unfold reducerForQueue
      rw [queueFound]
      simp [Bind.bind, Except.bind, reducerShape]
    have noted := @run_onStateQueues_attempting _ _ InvokerError _ _ _ _ _
      (ofReducer handle kindShape) store fiber owner workInProgressList
      (done ++ [hook.slot])
    refine ⟨dispatch, after, tail, retainedIds, ?_, restarted, rendered, isNew, onlyAll, kept⟩
    simp only [processHookQueue, run_bind, run_query, payloadFound, dispatchFound, kindShape,
      reducerFound, noted, run_pure, ranPayload, renderRecord]

theorem StateHook.View.disjoint_new
    {queues : StateQueues State Action} {new : List HookUpdateId} (view : hook.View queues)
    (isNew : ∀ id ∈ new, queues.updates.data? id = none) : hook.ids.Disjoint new := by
  intro id member inNew
  rcases mem_append.mp member with inBase | inPending
  · exact view.baseRing.holds.not_mem_of_new (isNew id inNew) inBase
  · exact view.pendingRing.holds.not_mem_of_new (isNew id inNew) inPending

theorem StateHook.restarted_ids_subset (hook : StateHook State Action) :
    hook.restarted.ids ⊆ hook.ids := by
  intro id member
  unfold ids restarted at member
  simp only [append_nil] at member
  split at member
  · exact absurd member not_mem_nil
  · simpa [ids, or_comm] using member

/-- An attempt between two hooks: some hooks of the current list are restarted, the
others are still to come, and the list to fill has its hooks. -/
structure AttemptView (queues : StateQueues State Action)
    (done rest built : List (StateHook State Action)) : Prop where
  current : HooksView queues (done ++ rest)
  filled : HooksView queues built
  apart : ∀ hook ∈ built, ∀ later ∈ rest, hook.ids.Disjoint later.ids
  shared : built.map (·.slot.queue) = done.map (·.slot.queue)

theorem AttemptView.step {done rest built : List (StateHook State Action)}
    {tail : Option HookUpdateId} {retainedIds : List HookUpdateId}
    (attempt : AttemptView queues done (hook :: rest) built) (restarted : hook.restarted.View after)
    (rendered : (hook.rendered tail retainedIds).View after)
    (isNew : ∀ id ∈ retainedIds, queues.updates.data? id = none)
    (only : OnlyQueue hook.slot.queue queues after)
    (kept : Extends hook.ids queues.updates after.updates) :
    AttemptView after (done ++ [hook.restarted]) rest
      (built ++ [hook.rendered tail retainedIds]) := by
  obtain ⟨current, filled, apart, shared⟩ := attempt
  have distinct := pairwise_append.mp current.distinct
  have disjoint := pairwise_append.mp current.disjoint
  have distinctRest := pairwise_cons.mp distinct.2.1
  have disjointRest := pairwise_cons.mp disjoint.2.1
  have renderedIds : (hook.rendered tail retainedIds).ids = retainedIds := append_nil retainedIds
  have builtDistinct : ∀ other ∈ built, other.slot.queue ≠ hook.slot.queue := by
    intro other member same
    have inDone : other.slot.queue ∈ done.map (·.slot.queue) := by
      rw [← shared]
      exact mem_map_of_mem member
    obtain ⟨owner, ownerDone, ownerQueue⟩ := mem_map.mp inDone
    exact distinct.2.2 owner ownerDone hook (by simp) (ownerQueue.trans same)
  refine ⟨⟨?_, ?_, ?_⟩, ⟨?_, ?_, ?_⟩, ?_, ?_⟩
  · intro other member
    simp only [append_assoc, mem_append, mem_cons, not_mem_nil, or_false] at member
    rcases member with inDone | rfl | inRest
    · exact (current.views other (by simp [inDone])).of_frame only
        (distinct.2.2 other inDone hook (by simp)) kept
        (disjoint.2.2 other inDone hook (by simp))
    · exact restarted
    · exact (current.views other (by simp [inRest])).of_frame only
        (distinctRest.1 other inRest).symm kept
        (fun id inOther inHook => disjointRest.1 other inRest inHook inOther)
  · rw [append_assoc, singleton_append]
    refine pairwise_append.mpr ⟨distinct.1, pairwise_cons.mpr distinctRest, ?_⟩
    intro earlier inDone later inRest
    rcases mem_cons.mp inRest with rfl | inRest
    · exact distinct.2.2 earlier inDone hook (by simp)
    · exact distinct.2.2 earlier inDone later (by simp [inRest])
  · rw [append_assoc, singleton_append]
    refine pairwise_append.mpr ⟨disjoint.1, pairwise_cons.mpr ⟨?_, disjointRest.2⟩, ?_⟩
    · intro later inRest id inHook
      exact disjointRest.1 later inRest (hook.restarted_ids_subset inHook)
    · intro earlier inDone later inRest id inEarlier inLater
      rcases mem_cons.mp inRest with rfl | inRest
      · exact disjoint.2.2 earlier inDone hook (by simp) inEarlier
          (hook.restarted_ids_subset inLater)
      · exact disjoint.2.2 earlier inDone later (by simp [inRest]) inEarlier inLater
  · intro other member
    rcases mem_append.mp member with inBuilt | last
    · exact (filled.views other inBuilt).of_frame only (builtDistinct other inBuilt) kept
        (apart other inBuilt hook (by simp))
    · rw [mem_singleton.mp last]
      exact rendered
  · refine pairwise_append.mpr ⟨filled.distinct, pairwise_singleton _ _, ?_⟩
    intro earlier inBuilt later last
    rw [mem_singleton.mp last]
    exact builtDistinct earlier inBuilt
  · refine pairwise_append.mpr ⟨filled.disjoint, pairwise_singleton _ _, ?_⟩
    intro earlier inBuilt later last
    rw [mem_singleton.mp last, renderedIds]
    exact (filled.views earlier inBuilt).disjoint_new isNew
  · intro other member later inRest
    rcases mem_append.mp member with inBuilt | last
    · exact apart other inBuilt later (by simp [inRest])
    · rw [mem_singleton.mp last, renderedIds]
      intro id inNew inLater
      exact (current.views later (by simp [inRest])).disjoint_new isNew inLater inNew
  · rw [map_append, map_append, shared]
    rfl

/-- One hook is what rendering another one builds. -/
def IsRendered (hook built : StateHook State Action) : Prop :=
  ∃ tail retainedIds, built = hook.rendered tail retainedIds

theorem AttemptLists.run_updateHooks {store : FunctionComponentHookRenderStore State Action}
    {currentList workInProgressList : HookListId} {owner : FiberId}
    {slots : List (HookStateSlot State)}
    (lists : AttemptLists store currentList workInProgressList owner slots) (fiber : FiberId)
    (rest : List (StateHook State Action)) :
    ∀ (done built : List (StateHook State Action)) (queues : StateQueues State Action),
      slots = (done ++ rest).map (·.slot) →
      AttemptView queues done rest built →
      (∀ hook ∈ rest, hook.Renderable) →
      ∃ after added,
        (updateHooks fiber (rest.map (·.request))
            ⟨currentList, workInProgressList, built.length, slots.length⟩ :
            HookRenderM State Action InvokerError _).run
          (store.attempting workInProgressList owner (built.map (·.slot)) queues) =
          .ok ⟨currentList, workInProgressList, (built ++ added).length, slots.length⟩
            (store.attempting workInProgressList owner ((built ++ added).map (·.slot)) after) ∧
        List.Forall₂ IsRendered rest added ∧
        AttemptView after (done ++ rest.map (·.restarted)) [] (built ++ added) := by
  induction rest with
  | nil =>
    intro done built queues shape attempt _
    refine ⟨queues, [], by simp [updateHooks], .nil, by simpa using attempt⟩
  | cons hook rest ih =>
    intro done built queues shape attempt renderable
    have sameLength : built.length = done.length := by
      simpa using congrArg List.length attempt.shared
    have slotsShape : slots = done.map (·.slot) ++ hook.slot :: rest.map (·.slot) := by
      simpa using shape
    have copied := @run_updateHook State Action InvokerError _ _ _ _ _ lists
      fiber (built.map (·.slot)) queues _ _ _ slotsShape (by simpa using sameLength)
    obtain ⟨dispatch, middle, tail, retainedIds, processed, restarted, rendered, isNew,
      only, kept⟩ :=
      @run_processHookQueue State Action InvokerError _ _ _ _ _ lists fiber
        (built.map (·.slot)) queues hook (attempt.current.views hook (by simp))
        (renderable hook (by simp))
    have stepped := attempt.step restarted rendered isNew only kept
    obtain ⟨after, added, ran, renderedRest, attemptAfter⟩ :=
      ih (done ++ [hook.restarted])
        (built ++ [hook.rendered tail retainedIds]) middle
        (by simpa [StateHook.restarted] using shape) stepped
        (fun other member => renderable other (by simp [member]))
    refine ⟨after, hook.rendered tail retainedIds :: added, ?_,
      .cons ⟨tail, retainedIds, rfl⟩ renderedRest, by simpa using attemptAfter⟩
    simp only [length_map] at copied processed
    simp only [updateHooks, map_cons, foldlM_cons, run_bind, copied, processed, run_pure]
    simpa [updateHooks, StateHook.rendered] using ran

structure CurrentHooks (store : FunctionComponentHookRenderStore State Action) (current : FiberId)
    (currentList : HookListId) (owner : FiberId)
    (hooks : List (StateHook State Action)) : Prop where
  bound : store.currentList current = some currentList
  found : store.hookLists[currentList]? = some ⟨owner, hooks.map fun hook => .state hook.slot⟩
  view : HooksView store.stateQueues hooks
  renderable : ∀ hook ∈ hooks, hook.Renderable

def updateState (store : FunctionComponentHookRenderStore State Action)
    (current workInProgress : FiberId) (currentList : HookListId) :
    FunctionComponentHookRenderState where
  phase := .update
  renderFiber := workInProgress
  current := some current
  currentList := some currentList
  workInProgressList := store.hookLists.length

/-- An attempt only adds a list to the store and works on the queues. -/
structure AttemptLeaves (store after : FunctionComponentHookRenderStore State Action)
    (owner : FiberId)
    (built : List (StateHook State Action)) : Prop where
  lists : after.hookLists =
    store.hookLists ++ [⟨owner, built.map fun hook => .state hook.slot⟩]
  bindings : after.currentLists = store.currentLists
  dispatches : after.stateDispatches = store.stateDispatches

theorem StateHook.Renderable.restarted
    (renderable : hook.Renderable) : hook.restarted.Renderable := by
  obtain ⟨⟨dispatch, dispatchShape⟩, reducerQueue⟩ := renderable
  have kept : ∀ entry : StateQueue State,
      (hook.outcome.queue entry hook.updates).dispatch = entry.dispatch ∧
      (hook.outcome.queue entry hook.updates).lastRenderedReducer = entry.lastRenderedReducer := by
    intro entry
    unfold HookPassOutcome.queue
    split <;> exact ⟨rfl, rfl⟩
  refine ⟨⟨dispatch, ?_⟩, ?_⟩
  · change (hook.outcome.queue hook.requestedEntry hook.updates).dispatch = some dispatch
    rw [(kept _).1]
    unfold requestedEntry
    cases hook.request.kind <;> exact dispatchShape
  · intro handle kindShape
    refine ⟨handle, ?_⟩
    change (hook.outcome.queue hook.requestedEntry hook.updates).lastRenderedReducer = _
    rw [(kept _).2]
    unfold requestedEntry
    rw [show hook.request.kind = .reducer handle from kindShape]

theorem CurrentHooks.run_renderFunctionComponent
    {store : FunctionComponentHookRenderStore State Action} {current : FiberId}
    {currentList : HookListId} {owner : FiberId} {hooks : List (StateHook State Action)}
    (currentHooks : CurrentHooks store current currentList owner hooks) (workInProgress : FiberId)
    (invoke : FunctionComponentHookRenderState → Except InvokerError Output) :
    ∃ after built,
      (renderFunctionComponent (some current) workInProgress (hooks.map (·.request))
        invoke).run store =
        (match invoke (updateState store current workInProgress currentList) with
          | .ok output => .ok (updateState store current workInProgress currentList, output) after
          | .error error => .error (.invocation workInProgress error) after) ∧
      AttemptLeaves store after owner built ∧
      List.Forall₂ IsRendered hooks built ∧
      CurrentHooks after current currentList owner (hooks.map (·.restarted)) ∧
      HooksView after.stateQueues built := by
  obtain ⟨bound, found, view, renderable⟩ := currentHooks
  have inside : currentList < store.hookLists.length := (List.getElem?_eq_some_iff.mp found).1
  have slotsShape : (hooks.map fun hook => state hook.slot) =
      (hooks.map (·.slot)).map .state := by
    simp
  obtain ⟨created, createdShape⟩ :
      ∃ created : FunctionComponentHookRenderStore State Action,
        created = { store with hookLists := store.hookLists ++ [⟨owner, []⟩] } := ⟨_, rfl⟩
  have lists : AttemptLists created currentList store.hookLists.length owner
      (hooks.map (·.slot)) := by
    refine ⟨?_, by simp [createdShape], Nat.ne_of_gt inside⟩
    rw [createdShape, ← slotsShape, getElem?_append_left inside]
    exact found
  have createdAttempting :
      created = created.attempting store.hookLists.length owner [] store.stateQueues := by
    simp [createdShape, attempting]
  have prepared : (prepareRenderState (some current) workInProgress :
      HookRenderM State Action InvokerError _).run store =
        .ok (updateState store current workInProgress currentList) created := by
    have resolved : store.list workInProgress currentList =
        (.ok ⟨owner, hooks.map fun hook => .state hook.slot⟩ :
          Except (FunctionComponentRenderError State InvokerError) _) := by
      simp [list, found]
    simp only [prepareRenderState, run_bind, run_get, Option.bind_some, bound, run_query, resolved,
      createList, run_modifyGet, run_pure, createdShape]
    rfl
  have begun : (beginUpdate (updateState store current workInProgress currentList) :
      HookRenderM State Action InvokerError _).run created =
        .ok ⟨currentList, store.hookLists.length, 0, (hooks.map (·.slot)).length⟩ created := by
    have resolvedCurrent := @list_current State Action InvokerError _ _ _ _ _
      lists workInProgress [] store.stateQueues
    have resolvedBuilt := @list_workInProgress State Action InvokerError _ _ _
      _ _ lists workInProgress [] store.stateQueues
    rw [← createdAttempting] at resolvedCurrent resolvedBuilt
    simp [beginUpdate, updateState, resolvedCurrent, resolvedBuilt]
  have initially : AttemptView store.stateQueues [] hooks [] :=
    ⟨view, ⟨by simp, .nil, .nil⟩, by simp, rfl⟩
  obtain ⟨after, built, updated, rendered, attempt⟩ :=
    @run_updateHooks State Action InvokerError _ _ _ _ _ lists workInProgress
      hooks [] [] store.stateQueues rfl initially renderable
  simp only [nil_append, length_nil, map_nil] at updated attempt
  rw [← createdAttempting] at updated
  have builtLength : built.length = (hooks.map (·.slot)).length := by
    simpa using rendered.length_eq.symm
  have finished := @run_finishUpdate State Action InvokerError _ _ _ _ _ lists
    workInProgress (built.map (·.slot)) after (by simpa using builtLength)
  rw [length_map] at finished
  obtain ⟨last, lastShape⟩ : ∃ last : FunctionComponentHookRenderStore State Action,
      last = created.attempting store.hookLists.length owner (built.map (·.slot)) after :=
    ⟨_, rfl⟩
  rw [← lastShape] at updated finished
  have lastLists : last.hookLists =
      store.hookLists ++ [⟨owner, built.map fun hook => .state hook.slot⟩] := by
    simp [lastShape, attempting, createdShape]
  refine ⟨last, built, ?_, ⟨lastLists, ?_, ?_⟩, rendered, ⟨?_, ?_, ?_, ?_⟩, ?_⟩
  · simp only [renderFunctionComponent, run_bind, prepared, updateState]
    simp only [updateState] at begun
    simp only [begun, updated, finished]
    cases invoke _ <;> rfl
  · simp [lastShape, attempting, createdShape]
  · simp [lastShape, attempting, createdShape]
  · simpa [lastShape, attempting, createdShape, FunctionComponentHookRenderStore.currentList]
      using bound
  · rw [lastLists, getElem?_append_left inside, found]
    simp [restarted]
  · have current := attempt.current
    rw [append_nil] at current
    simpa [lastShape, attempting] using current
  · intro hook member
    obtain ⟨original, present, rfl⟩ := mem_map.mp member
    exact (renderable original present).restarted
  · simpa [lastShape, attempting] using attempt.filled

/-- The store after an attempt, whatever its outcome. -/
def afterAttempt (current workInProgress : FiberId)
    (requests : List (StateHookRequest State Action))
    (store : FunctionComponentHookRenderStore State Action)
    (invoke : FunctionComponentHookRenderState → Except InvokerError Output) :
    FunctionComponentHookRenderStore State Action :=
  match (renderFunctionComponent (some current) workInProgress requests invoke).run
      store with
  | .ok _ after => after
  | .error _ after => after

def newestMemoizedStates (store : FunctionComponentHookRenderStore State Action) : List State :=
  match store.hookLists.getLast? with
  | none => []
  | some list => list.hooks.filterMap fun payload => payload.statePayload.map (·.memoizedState)

/-- An update is reachable from a hook through its base ring or its queue. -/
def UpdateReachable (queues : StateQueues State Action) (slot : HookStateSlot State)
    (id : HookUpdateId) : Prop :=
  (∃ ids, queues.updateRing slot.baseQueue = .ok ids ∧ id ∈ ids) ∨
    ∃ ids, queues.pendingUpdates slot.queue = .ok ids ∧ id ∈ ids

/-- Attempts can be repeated: each one renders the states a single one renders, and
no update of a current hook gets lost. -/
def RestartSafe (InvokerError Output : Type) (store : FunctionComponentHookRenderStore State Action)
    (current workInProgress : FiberId) (requests : List (StateHookRequest State Action))
    (slots : List (HookStateSlot State)) : Prop :=
  ∀ (single last : FunctionComponentHookRenderState → Except InvokerError Output)
    (earlier : List (FunctionComponentHookRenderState → Except InvokerError Output)),
    newestMemoizedStates ((earlier ++ [last]).foldl
        (afterAttempt current workInProgress requests) store) =
      newestMemoizedStates (afterAttempt current workInProgress requests store single) ∧
    ∀ slot ∈ slots, ∀ id, UpdateReachable store.stateQueues slot id →
      UpdateReachable ((earlier ++ [last]).foldl
        (afterAttempt current workInProgress requests) store).stateQueues slot id

/-- Applying the pending updates before the base updates gives the same state as
applying them behind. -/
def StateHook.OrdersAgree (hook : StateHook State Action) : Prop :=
  (hook.pending ++ hook.base).foldl
      (HookUpdateDispatchMetadata.effect hook.request.renderLanes
        hook.request.rootRenderLanes hook.request.reducer) hook.slot.baseState =
    (hook.base ++ hook.pending).foldl
      (HookUpdateDispatchMetadata.effect hook.request.renderLanes
        hook.request.rootRenderLanes hook.request.reducer) hook.slot.baseState

namespace StateHook

theorem View.updateReachable_iff (view : hook.View queues) (id : HookUpdateId) :
    UpdateReachable queues hook.slot id ↔ id ∈ hook.ids := by
  have baseRing := updateRing_eq_ok view.baseRing
  have pendingRing : queues.pendingUpdates hook.slot.queue = .ok hook.pendingIds := by
    rw [pendingUpdates, queue_eq_ok view.found]
    exact updateRing_eq_ok view.pendingRing
  unfold UpdateReachable ids
  rw [baseRing, pendingRing, mem_append]
  simp

section

variable (hook : StateHook State Action)

/-- The first attempt may move updates, further ones leave them alone. -/
theorem restarted_restarted :
    hook.restarted.restarted.base = hook.restarted.base ∧
      hook.restarted.restarted.baseIds = hook.restarted.baseIds ∧
      hook.restarted.restarted.pending = [] ∧
      hook.restarted.restarted.pendingIds = [] := by
  refine ⟨?_, ?_, rfl, rfl⟩
  · change (if hook.restarted.base.isEmpty then [] else [] ++ hook.restarted.base) = _
    cases hook.restarted.base <;> rfl
  · change (if hook.restarted.base.isEmpty then [] else [] ++ hook.restarted.baseIds) = _
    cases baseShape : hook.base with
    | nil => simp [restarted, baseShape]
    | cons update rest => simp [restarted, baseShape]

theorem iterate_restarted (count : Nat) :
    (restarted^[count + 1] hook).base = hook.restarted.base ∧
      (restarted^[count + 1] hook).baseIds = hook.restarted.baseIds ∧
      (restarted^[count + 1] hook).pending = [] ∧
      (restarted^[count + 1] hook).pendingIds = [] ∧
      (restarted^[count + 1] hook).slot = hook.slot ∧
      (restarted^[count + 1] hook).request = hook.request := by
  induction count with
  | zero => exact ⟨rfl, rfl, rfl, rfl, rfl, rfl⟩
  | succ count ih =>
    obtain ⟨base, baseIds, pending, pendingIds, slot, request⟩ := ih
    rw [Function.iterate_succ_apply']
    obtain ⟨againBase, againIds, -, -⟩ := restarted_restarted hook
    have sameBase : hook.restarted.restarted.base =
        if hook.restarted.base.isEmpty then [] else [] ++ hook.restarted.base := rfl
    have sameIds : hook.restarted.restarted.baseIds =
        if hook.restarted.base.isEmpty then [] else [] ++ hook.restarted.baseIds := rfl
    refine ⟨?_, ?_, rfl, rfl, slot, request⟩
    · change (if (restarted^[count + 1] hook).base.isEmpty then [] else
        (restarted^[count + 1] hook).pending ++ (restarted^[count + 1] hook).base) = _
      rw [base, pending, ← sameBase, againBase]
    · change (if (restarted^[count + 1] hook).base.isEmpty then [] else
        (restarted^[count + 1] hook).pendingIds ++ (restarted^[count + 1] hook).baseIds) = _
      rw [base, baseIds, pendingIds, ← sameIds, againIds]

theorem outcome_iterate_restarted (count : Nat) :
    (restarted^[count + 1] hook).outcome.state = hook.restarted.outcome.state := by
  obtain ⟨base, -, pending, -, slot, request⟩ := iterate_restarted hook count
  have updatesShape : (restarted^[count + 1] hook).updates = hook.restarted.updates := by
    unfold updates
    rw [base, pending]
    rfl
  unfold outcome
  rw [updatesShape, slot, request]
  rfl

end

end StateHook

theorem memoizedStates_eq {hooks built : List (StateHook State Action)}
    (rendered : List.Forall₂ IsRendered hooks built) :
    built.map (·.slot.memoizedState) = hooks.map (·.outcome.state) := by
  induction rendered with
  | nil => rfl
  | cons isRendered _ ih =>
    obtain ⟨tail, retainedIds, rfl⟩ := isRendered
    rw [map_cons, map_cons, ih]
    rfl

namespace CurrentHooks

variable {store : FunctionComponentHookRenderStore State Action} {current : FiberId}
  {currentList : HookListId} {owner : FiberId} {hooks : List (StateHook State Action)}

section

variable (currentHooks : CurrentHooks store current currentList owner hooks)
  (workInProgress : FiberId)
include currentHooks

section

variable (invoke : FunctionComponentHookRenderState → Except InvokerError Output)

theorem afterAttempt_leaves :
    ∃ built,
      AttemptLeaves store
        (afterAttempt current workInProgress (hooks.map (·.request)) store invoke) owner
        built ∧
      List.Forall₂ IsRendered hooks built ∧
      CurrentHooks (afterAttempt current workInProgress (hooks.map (·.request)) store invoke)
        current currentList owner (hooks.map (·.restarted)) := by
  obtain ⟨after, built, ran, leaves, rendered, restarted, -⟩ :=
    currentHooks.run_renderFunctionComponent workInProgress invoke
  have afterShape :
      afterAttempt current workInProgress (hooks.map (·.request)) store invoke = after := by
    unfold afterAttempt
    rw [ran]
    cases invoke (updateState store current workInProgress currentList) <;> rfl
  rw [afterShape]
  exact ⟨built, leaves, rendered, restarted⟩

theorem afterAttempt_spec :
    CurrentHooks (afterAttempt current workInProgress (hooks.map (·.request)) store invoke)
        current currentList owner (hooks.map (·.restarted)) ∧
      newestMemoizedStates
          (afterAttempt current workInProgress (hooks.map (·.request)) store invoke) =
        hooks.map (·.outcome.state) := by
  obtain ⟨built, leaves, rendered, restarted⟩ :=
    currentHooks.afterAttempt_leaves workInProgress invoke
  refine ⟨restarted, ?_⟩
  rw [newestMemoizedStates, leaves.lists, getLast?_concat]
  simp [filterMap_map, statePayload, ← memoizedStates_eq rendered]

end

theorem afterAttempts
    (invokes : List (FunctionComponentHookRenderState → Except InvokerError Output)) :
    CurrentHooks
      (invokes.foldl (afterAttempt current workInProgress (hooks.map (·.request))) store)
      current currentList owner (hooks.map restarted^[invokes.length]) := by
  induction invokes generalizing store hooks with
  | nil => simpa using currentHooks
  | cons invoke rest ih =>
    have stepped := (currentHooks.afterAttempt_spec workInProgress invoke).1
    have sameRequests : (hooks.map (·.restarted)).map (·.request) =
        hooks.map (·.request) := by
      simp [restarted]
    have reached := ih stepped
    rw [sameRequests, map_map] at reached
    rw [foldl_cons, length_cons, Function.iterate_succ]
    exact reached

end

end CurrentHooks

section Restart

theorem StateHook.restarted_of_nothingPending (view : hook.View queues)
    (nothingPending : hook.pending = []) :
    hook.restarted.updates = hook.updates ∧ hook.restarted.ids = hook.ids := by
  have noPendingIds : hook.pendingIds = [] := view.pendingRing.holds.eq_nil_iff.mpr nothingPending
  unfold updates ids restarted
  cases baseShape : hook.base with
  | nil =>
    have noBaseIds : hook.baseIds = [] := view.baseRing.holds.eq_nil_iff.mpr baseShape
    simp [nothingPending, noPendingIds, noBaseIds]
  | cons update rest => simp [nothingPending, noPendingIds]

/-- A restart keeps the rendered state and every update exactly if nothing is pending,
or if there is a base ring and the two orders of applying agree. -/
theorem StateHook.restart_keeps_iff (view : hook.View queues) :
    (hook.restarted.outcome.state = hook.outcome.state ∧ ∀ id ∈ hook.ids, id ∈ hook.restarted.ids) ↔
    hook.pending = [] ∨ hook.base ≠ [] ∧ hook.OrdersAgree := by
  by_cases nothingPending : hook.pending = []
  · obtain ⟨sameUpdates, sameIds⟩ := restarted_of_nothingPending view nothingPending
    refine iff_of_true ⟨?_, ?_⟩ (.inl nothingPending)
    · unfold outcome
      rw [sameUpdates]
      rfl
    · rw [sameIds]
      exact fun _ member => member
  · cases baseShape : hook.base with
    | nil =>
      -- The pending updates are in neither ring of the current hook any more.
      have lost : hook.restarted.ids = [] := by simp [ids, restarted, baseShape]
      have somePending : hook.pendingIds ≠ [] := fun noIds =>
        nothingPending (view.pendingRing.holds.eq_nil_iff.mp noIds)
      refine iff_of_false ?_ (by simp [nothingPending])
      rintro ⟨-, kept⟩
      obtain ⟨id, rest, shape⟩ := exists_cons_of_ne_nil somePending
      have missing := kept id (by simp [ids, shape])
      rw [lost] at missing
      exact not_mem_nil missing
    | cons update rest =>
      have updatesShape : hook.restarted.updates = hook.pending ++ hook.base := by
        simp [updates, restarted, baseShape]
      have kept : ∀ id ∈ hook.ids, id ∈ hook.restarted.ids := by
        intro id member
        simpa [ids, restarted, baseShape, or_comm] using member
      have statesAgree : hook.restarted.outcome.state = hook.outcome.state ↔
          hook.OrdersAgree := by
        unfold outcome
        rw [updatesShape]
        exact Iff.rfl
      rw [statesAgree]
      constructor
      · rintro ⟨agree, -⟩
        exact .inr ⟨cons_ne_nil update rest, agree⟩
      · rintro (noPending | ⟨-, agree⟩)
        · exact absurd noPending nothingPending
        · exact ⟨agree, kept⟩

end Restart

section RestartTheorem

variable {store : FunctionComponentHookRenderStore State Action} {current : FiberId}
  {currentList : HookListId} {owner : FiberId} {hooks : List (StateHook State Action)}

theorem RestartSafe.keeps (currentHooks : CurrentHooks store current currentList owner hooks)
    (workInProgress : FiberId)
    (invoke : FunctionComponentHookRenderState → Except InvokerError Output)
    (safe : RestartSafe InvokerError Output store current workInProgress
      (hooks.map (·.request)) (hooks.map (·.slot))) (hook : StateHook State Action)
    (member : hook ∈ hooks) :
    hook.restarted.outcome.state = hook.outcome.state ∧
      ∀ id ∈ hook.ids, id ∈ hook.restarted.ids := by
  obtain ⟨sameStates, reachable⟩ := safe invoke invoke [invoke]
  have first := currentHooks.afterAttempt_spec workInProgress invoke
  have sameRequests : (hooks.map (·.restarted)).map (·.request) =
      hooks.map (·.request) := by
    simp [restarted]
  have second := first.1.afterAttempt_spec workInProgress invoke
  rw [sameRequests] at second
  simp only [cons_append, nil_append, foldl_cons, foldl_nil] at sameStates
  simp only [cons_append, nil_append, foldl_cons, foldl_nil] at reachable
  rw [first.2, second.2, map_map] at sameStates
  have viewBefore := currentHooks.view.views hook member
  have viewAfter := second.1.view.views hook.restarted.restarted (by
    rw [map_map]
    exact mem_map.mpr ⟨hook, member, rfl⟩)
  refine ⟨map_inj_left.mp sameStates hook member, ?_⟩
  intro id inHook
  have reached := reachable hook.slot (mem_map_of_mem member) id
    ((viewBefore.updateReachable_iff id).mpr inHook)
  have inRestarted := (viewAfter.updateReachable_iff id).mp reached
  obtain ⟨-, sameIds, -, noPending⟩ := restarted_restarted hook
  rw [ids, sameIds, noPending] at inRestarted
  exact inRestarted

/-- Repeated attempts are safe exactly if each hook of the current list has nothing
pending, or has a base ring and the two orders of applying both rings agree. -/
theorem restartSafe_iff
    [Inhabited Output]
    (store : FunctionComponentHookRenderStore State Action)
    (current workInProgress : FiberId)
    (currentList : HookListId)
    (owner : FiberId)
    (hooks : List (StateHook State Action))
    (currentHooks : CurrentHooks store current currentList owner hooks) :
    RestartSafe InvokerError Output store current workInProgress (hooks.map (·.request))
        (hooks.map (·.slot)) ↔
      ∀ hook ∈ hooks, hook.pending = [] ∨ hook.base ≠ [] ∧ hook.OrdersAgree := by
  constructor
  · intro safe hook member
    rw [← restart_keeps_iff (currentHooks.view.views hook member)]
    exact RestartSafe.keeps currentHooks workInProgress (fun _ => .ok default) safe hook member
  · intro condition single last earlier
    have kept : ∀ hook ∈ hooks, hook.restarted.outcome.state = hook.outcome.state ∧
        ∀ id ∈ hook.ids, id ∈ hook.restarted.ids := by
      intro hook member
      rw [restart_keeps_iff (currentHooks.view.views hook member)]
      exact condition hook member
    have before := currentHooks.afterAttempts workInProgress earlier
    have sameRequests : (hooks.map restarted^[earlier.length]).map (·.request) =
        hooks.map (·.request) := by
      rw [map_map]
      refine map_congr_left ?_
      intro hook _
      cases earlier with
      | nil => rfl
      | cons invoke rest => exact (iterate_restarted hook rest.length).2.2.2.2.2
    have after := before.afterAttempt_spec workInProgress last
    rw [sameRequests] at after
    rw [foldl_append]
    simp only [foldl_cons, foldl_nil]
    constructor
    · rw [after.2, (currentHooks.afterAttempt_spec workInProgress single).2, map_map]
      refine map_congr_left ?_
      intro hook member
      cases earlier with
      | nil => rfl
      | cons invoke rest =>
        exact (outcome_iterate_restarted hook rest.length).trans (kept hook member).1
    · intro slot slotMember id reachable
      obtain ⟨hook, member, rfl⟩ := mem_map.mp slotMember
      have inHook := ((currentHooks.view.views hook member).updateReachable_iff id).mp reachable
      have viewAfter := after.1.view.views
        (restarted^[earlier.length + 1] hook) (by
          rw [map_map]
          refine mem_map.mpr ⟨hook, member, ?_⟩
          rw [Function.iterate_succ_apply']
          rfl)
      obtain ⟨-, sameIds, -, noPending, sameSlot, -⟩ :=
        iterate_restarted hook earlier.length
      have reached := (viewAfter.updateReachable_iff id).mpr (by
        rw [ids, sameIds, noPending]
        exact (kept hook member).2 id inHook)
      rwa [sameSlot] at reached

end RestartTheorem

section Sample

def sampleCurrentFiber : FiberId := ⟨0, 0⟩
def sampleWorkInProgressFiber : FiberId := ⟨1, 0⟩

/-- A fiber with one state hook to which one update was dispatched. -/
def sampleDispatchedStore : FunctionComponentHookRenderStore Nat Nat :=
  match (do
    let _ ← createCurrentStateHook sampleCurrentFiber 0
    dispatchStateUpdate
      { dispatch := ⟨1⟩
        action := 1
        lane := ⟨Lanes.sync, HookUpdateLane.accepts_sync⟩
        revertLane := HookRevertLane.no
        eagerState := none } : HookRenderM Nat Nat Unit HookUpdateId).run .new with
  | .ok _ store => store
  | .error _ store => store

/-- The hook of that fiber. -/
def sampleDispatchedHook : StateHook Nat Nat where
  slot := HookStateSlot.new 0 ⟨0, 0⟩
  entry :=
    { pending := some ⟨0, 0⟩
      lanes := Lanes.no
      dispatch := some ⟨1⟩
      lastRenderedReducer := some .basicState
      lastRenderedState := 0 }
  baseIds := []
  pendingIds := [⟨0, 0⟩]
  base := []
  pending := [⟨⟨Lanes.sync, HookUpdateLane.accepts_sync⟩, HookRevertLane.no, 1, none⟩]
  request := ⟨.state, 0, Lanes.sync, Lanes.sync, (· + ·)⟩

theorem sampleDispatchedStore_currentHooks :
    CurrentHooks sampleDispatchedStore sampleCurrentFiber 0 sampleCurrentFiber
      [sampleDispatchedHook] where
  bound := by decide
  found := by decide
  view := by
    refine ⟨?_, pairwise_singleton _ _, pairwise_singleton _ _⟩
    intro hook member
    obtain rfl := mem_singleton.mp member
    exact ⟨by decide, ⟨rfl, rfl⟩,
      ⟨⟨⟨by decide, by decide, by decide⟩, by decide⟩, by unfold Holds; decide⟩,
      disjoint_nil_left _⟩
  renderable := by
    intro hook member
    obtain rfl := mem_singleton.mp member
    exact ⟨⟨⟨1⟩, rfl⟩, by intro handle shape; cases shape⟩

/-- The equivalence applies to the fiber with one dispatched update. -/
theorem restartSafe_iff_sample :
    CurrentHooks sampleDispatchedStore sampleCurrentFiber 0 sampleCurrentFiber
        [sampleDispatchedHook] ∧
      (RestartSafe Unit Unit sampleDispatchedStore sampleCurrentFiber
          sampleWorkInProgressFiber [sampleDispatchedHook.request]
          [sampleDispatchedHook.slot] ↔
        ∀ hook ∈ [sampleDispatchedHook],
          hook.pending = [] ∨ hook.base ≠ [] ∧ hook.OrdersAgree) :=
  ⟨sampleDispatchedStore_currentHooks,
    restartSafe_iff sampleDispatchedStore sampleCurrentFiber sampleWorkInProgressFiber 0
      sampleCurrentFiber [sampleDispatchedHook] sampleDispatchedStore_currentHooks⟩

/-- There the second attempt has lost the update. -/
theorem restart_loses_dispatched_update :
    ¬ RestartSafe Unit Unit sampleDispatchedStore sampleCurrentFiber
        sampleWorkInProgressFiber [sampleDispatchedHook.request]
        [sampleDispatchedHook.slot] := by
  intro safe
  have kept := (RestartSafe.keeps sampleDispatchedStore_currentHooks
    sampleWorkInProgressFiber (fun _ => .ok ()) safe sampleDispatchedHook (by simp)).1
  exact absurd kept (by decide)

end Sample

end FastReact
