import FastReact.UpdateQueuePass

namespace FastReact

open EStateM.Result ErrorState LinkedArena List RebaseQueue RootUpdate RootUpdateData UpdateQueueStore

/-!
# Rebasing HostRoot updates over whole runs

A ledger keeps every update ever appended to a queue, in insertion order, with
the lanes it still waits for.  A render pass applies the waiting updates in its
scope; the queue holds the ledger from the first waiting update on.  From this
follow that no pass changes the effect of the whole queue and that a callback is
collected once, by the pass that first applies its update.
-/

variable {renderLanes rootRenderLanes : Lanes} {queue : UpdateQueue}
  {base pending : List RootUpdateData}

/-- An appended update and, until it is applied, the lanes it waits for. -/
structure TrackedUpdate where
  update : RootUpdateData
  waiting : Option Lanes

namespace TrackedUpdate

def isWaiting (tracked : TrackedUpdate) : Bool :=
  tracked.waiting.isSome

/-- What a queue holds of an update: while it waits the update itself with its
remaining lanes, afterwards a copy without lanes and callback. -/
def held (tracked : TrackedUpdate) : RootUpdateData :=
  match tracked.waiting with
  | some lanes => { tracked.update with lane := lanes }
  | none => { tracked.update with lane := Lanes.no, callback := .none }

/-- A pass applies the waiting updates in its scope. -/
def swept (renderLanes rootRenderLanes : Lanes) (tracked : TrackedUpdate) : TrackedUpdate :=
  match tracked.waiting with
  | some _ =>
      if tracked.held.isSkipped renderLanes rootRenderLanes then
        { tracked with waiting := some tracked.held.priorityLanes }
      else
        { tracked with waiting := none }
  | none => tracked

/-- Whether a pass is the first to apply an update that has a callback. -/
def isCalledBack (renderLanes rootRenderLanes : Lanes) (tracked : TrackedUpdate) : Bool :=
  tracked.isWaiting &&
    !tracked.held.isSkipped renderLanes rootRenderLanes &&
    tracked.update.callback.isSome

end TrackedUpdate

open TrackedUpdate

abbrev RootUpdateLedger := List TrackedUpdate

namespace RootUpdateLedger

/-- The appended updates as they were appended. -/
def appended (ledger : RootUpdateLedger) : List RootUpdateData :=
  ledger.map (·.update)

/-- What a queue holds: everything from the first waiting update on. -/
def queued (ledger : RootUpdateLedger) : List RootUpdateData :=
  (postponed TrackedUpdate.isWaiting ledger).map TrackedUpdate.held

/-- The state of the updates before the first waiting one. -/
def settledState (ledger : RootUpdateLedger) (initialState : HostRootState) : HostRootState :=
  ((settled TrackedUpdate.isWaiting ledger).map (·.update)).foldl applyRootUpdate
    initialState

def append (ledger : RootUpdateLedger) (update : RootUpdateData) : RootUpdateLedger :=
  ledger ++ [⟨update, some update.lane⟩]

def sweep (ledger : RootUpdateLedger) (renderLanes rootRenderLanes : Lanes) : RootUpdateLedger :=
  ledger.map (TrackedUpdate.swept renderLanes rootRenderLanes)

/-- The positions of the updates whose callbacks a pass collects. -/
def calledBack (ledger : RootUpdateLedger) (renderLanes rootRenderLanes : Lanes) : List Nat :=
  (List.range ledger.length).filter fun position =>
    ledger[position]?.any (TrackedUpdate.isCalledBack renderLanes rootRenderLanes)

def callbackAt (ledger : RootUpdateLedger) (position : Nat) : RootUpdateCallbackHandle :=
  (ledger[position]?.map (·.update.callback)).getD .none

end RootUpdateLedger

open RootUpdateLedger

namespace TrackedUpdate

variable (tracked : TrackedUpdate)

theorem applyRootUpdate_held (state : HostRootState) :
    applyRootUpdate state tracked.held = applyRootUpdate state tracked.update := by
  unfold held
  cases tracked.waiting <;> rfl

@[simp] theorem swept_update :
    (tracked.swept renderLanes rootRenderLanes).update = tracked.update := by
  unfold swept
  cases tracked.waiting with
  | none => rfl
  | some lanes =>
    simp only
    split <;> rfl

theorem isSkipped_held_of_applied (applied : tracked.waiting = none) :
    tracked.held.isSkipped renderLanes rootRenderLanes = false := by
  simp [held, applied, isSkipped, priorityLanes, Lanes.isSubsetOf_iff]

theorem isSkipped_held :
    tracked.held.isSkipped renderLanes rootRenderLanes =
      (tracked.swept renderLanes rootRenderLanes).isWaiting := by
  cases waitingShape : tracked.waiting with
  | none =>
    rw [tracked.isSkipped_held_of_applied waitingShape]
    simp [swept, isWaiting, waitingShape]
  | some lanes =>
    simp only [swept, waitingShape, isWaiting]
    cases tracked.held.isSkipped renderLanes rootRenderLanes <;> rfl

theorem rebased_held :
    tracked.held.rebased renderLanes rootRenderLanes =
      (tracked.swept renderLanes rootRenderLanes).held := by
  cases waitingShape : tracked.waiting with
  | none =>
    rw [rebased, tracked.isSkipped_held_of_applied waitingShape]
    simp [swept, waitingShape, held]
  | some lanes =>
    simp only [rebased, swept, waitingShape]
    cases tracked.held.isSkipped renderLanes rootRenderLanes with
    | true => simp [held, waitingShape, priorityLanes]
    | false => simp [held, waitingShape]

theorem isCollected_held :
    tracked.held.isCollected renderLanes rootRenderLanes =
      tracked.isCalledBack renderLanes rootRenderLanes := by
  unfold isCollected isCalledBack
  cases waitingShape : tracked.waiting with
  | none => simp [isWaiting, held, waitingShape, OpaqueHandle.isSome, OpaqueHandle.none]
  | some lanes => simp [isWaiting, held, waitingShape]

/-- A pass applies an update for the first time exactly when it stops waiting. -/
theorem swept_waiting_eq_none_iff :
    (tracked.swept renderLanes rootRenderLanes).waiting = none ↔
      tracked.waiting = none ∨
        tracked.isWaiting = true ∧ tracked.held.isSkipped renderLanes rootRenderLanes = false := by
  unfold swept isWaiting
  cases waitingShape : tracked.waiting with
  | none => simp [waitingShape]
  | some lanes =>
    cases tracked.held.isSkipped renderLanes rootRenderLanes <;> simp

end TrackedUpdate

namespace RootUpdateLedger

variable (ledger : RootUpdateLedger) (initialState : HostRootState)

/-- Replaying what is queued on the settled state gives the effect of all updates. -/
theorem foldl_queued :
    ledger.queued.foldl applyRootUpdate (ledger.settledState initialState) =
      ledger.appended.foldl applyRootUpdate initialState := by
  have parts := settled_append_postponed isWaiting ledger
  unfold queued settledState appended
  calc
    _ = ((postponed isWaiting ledger).map (·.update)).foldl applyRootUpdate
          (((settled isWaiting ledger).map (·.update)).foldl applyRootUpdate initialState) := by
        simp only [foldl_map, applyRootUpdate_held]
    _ = (ledger.map (·.update)).foldl applyRootUpdate initialState := by
        rw [← foldl_append, ← map_append, parts]

theorem append_spec (update : RootUpdateData) (initialState : HostRootState) :
    (ledger.append update).queued = ledger.queued ++ [update] ∧
      (ledger.append update).settledState initialState = ledger.settledState initialState := by
  unfold queued settledState append
  by_cases nothing : postponed isWaiting ledger = []
  · rw [postponed_append_of_eq_nil nothing, settled_append_of_eq_nil nothing, nothing,
      settled_eq_self nothing]
    simp [postponed, settled, isWaiting, held]
  · rw [postponed_append_of_ne_nil nothing, settled_append_of_ne_nil nothing]
    simp [held]

theorem sweep_eq_append :
    ledger.sweep renderLanes rootRenderLanes =
      settled isWaiting ledger ++
        (postponed isWaiting ledger).map (swept renderLanes rootRenderLanes) := by
  have keptSettled : (settled isWaiting ledger).map
      (swept renderLanes rootRenderLanes) = settled isWaiting ledger := by
    refine (map_congr_left ?_).trans (map_id _)
    intro tracked member
    have applied : tracked.waiting = none := by
      simpa [isWaiting] using not_deferred_of_mem_settled member
    simp [swept, applied]
  have parts := settled_append_postponed isWaiting ledger
  conv_lhs => rw [sweep, ← parts, map_append, keptSettled]

theorem sweep_parts :
    postponed isWaiting (ledger.sweep renderLanes rootRenderLanes) =
      postponed isWaiting ((postponed isWaiting ledger).map (swept renderLanes rootRenderLanes)) ∧
    settled isWaiting (ledger.sweep renderLanes rootRenderLanes) =
      settled isWaiting ledger ++
        settled isWaiting
          ((postponed isWaiting ledger).map (swept renderLanes rootRenderLanes)) := by
  have nothing : postponed isWaiting
      (settled isWaiting ledger) = [] :=
    postponed_eq_nil_iff.mpr fun tracked member => not_deferred_of_mem_settled member
  rw [sweep_eq_append]
  exact ⟨postponed_append_of_eq_nil nothing _, settled_append_of_eq_nil nothing _⟩

theorem rebasedUpdates_queued :
    rebasedUpdates renderLanes rootRenderLanes ledger.queued =
      (ledger.sweep renderLanes rootRenderLanes).queued := by
  unfold rebasedUpdates queued
  rw [ledger.sweep_parts.1, postponed_map, postponed_map]
  simp only [map_map, isSkipped_held]
  refine map_congr_left ?_
  intro tracked _
  exact tracked.rebased_held

theorem rebasedRootState_queued :
    rebasedRootState renderLanes rootRenderLanes (ledger.settledState initialState)
        ledger.queued =
      (ledger.sweep renderLanes rootRenderLanes).settledState initialState := by
  unfold rebasedRootState settledState queued
  rw [ledger.sweep_parts.2, settled_map, settled_map, map_append, foldl_append]
  simp only [map_map, foldl_map, isSkipped_held]
  generalize (settled isWaiting ledger).foldl _ initialState = state
  -- Settled updates are applied, as themselves or as copies.
  have applied : ∀ tracked ∈ settled
      (fun tracked => (swept renderLanes rootRenderLanes tracked).isWaiting)
      (postponed isWaiting ledger),
      ∀ state, effect renderLanes rootRenderLanes state tracked.held =
        applyRootUpdate state (swept renderLanes rootRenderLanes tracked).update := by
    intro tracked member state
    have inScope := not_deferred_of_mem_settled member
    rw [effect, tracked.isSkipped_held, inScope, swept_update, ← tracked.applyRootUpdate_held]
    rfl
  generalize settled _ (postponed isWaiting ledger) = entries at applied ⊢
  induction entries generalizing state with
  | nil => rfl
  | cons tracked rest ih =>
    rw [foldl_cons, foldl_cons, applied tracked (by simp)]
    exact ih _ fun other member => applied other (by simp [member])

/-- The state of the updates applied so far. -/
def appliedState (initialState : HostRootState) : HostRootState :=
  ((ledger.filter fun tracked => !tracked.isWaiting).map (·.update)).foldl applyRootUpdate
    initialState

theorem renderedRootState_queued :
    renderedRootState renderLanes rootRenderLanes (ledger.settledState initialState)
        ledger.queued =
      appliedState (ledger.sweep renderLanes rootRenderLanes) initialState := by
  have settledApplied : (settled isWaiting ledger).filter
      (fun tracked => !tracked.isWaiting) = settled isWaiting ledger := by
    rw [filter_eq_self]
    intro tracked member
    simp [not_deferred_of_mem_settled member]
  unfold renderedRootState appliedState settledState queued
  rw [sweep_eq_append, filter_append, settledApplied, map_append, foldl_append, filter_map]
  simp only [foldl_map, foldl_filter]
  generalize (settled isWaiting ledger).foldl _ initialState = state
  congr 1
  funext state tracked
  simp only [effect, tracked.isSkipped_held, Function.comp_apply,
    swept_update, applyRootUpdate_held]
  cases (tracked.swept renderLanes rootRenderLanes).isWaiting <;> rfl

theorem collectedCallbacks_queued {ids : List UpdateId}
    (sameLength : ids.length = ledger.queued.length) :
    (collectedCallbacks renderLanes rootRenderLanes ids ledger.queued).map (·.callback) =
      (ledger.filter (isCalledBack renderLanes rootRenderLanes)).map (·.update.callback) := by
  have ofQueued : (collectedCallbacks renderLanes rootRenderLanes ids ledger.queued).map
      (·.callback) =
        (ledger.queued.filter (isCollected renderLanes rootRenderLanes)).map (·.callback) := by
    have secondParts : (ids.zip ledger.queued).map Prod.snd = ledger.queued := by
      rw [map_snd_zip]
      omega
    unfold collectedCallbacks
    conv_rhs => rw [← secondParts, filter_map]
    simp only [map_map]
    rfl
  have settledSilent : (settled isWaiting ledger).filter
      (isCalledBack renderLanes rootRenderLanes) = [] := by
    rw [filter_eq_nil_iff]
    intro tracked member
    simp [isCalledBack, not_deferred_of_mem_settled member]
  have parts := settled_append_postponed isWaiting ledger
  rw [ofQueued]
  conv_rhs => rw [← parts, filter_append, settledSilent, nil_append]
  unfold queued
  rw [filter_map, map_map]
  have sameTest : (isCollected renderLanes rootRenderLanes ∘ held) =
      isCalledBack renderLanes rootRenderLanes := by
    funext tracked
    exact tracked.isCollected_held
  rw [sameTest]
  refine map_congr_left ?_
  intro tracked member
  have calledBack := (mem_filter.mp member).2
  have waits : tracked.isWaiting = true := by
    simp only [isCalledBack, Bool.and_eq_true] at calledBack
    exact calledBack.1.1
  obtain ⟨lanes, waitingShape⟩ := Option.isSome_iff_exists.mp waits
  simp [held, waitingShape]

theorem map_callbackAt_calledBack :
    (ledger.calledBack renderLanes rootRenderLanes).map ledger.callbackAt =
      (ledger.filter (isCalledBack renderLanes rootRenderLanes)).map (·.update.callback) := by
  unfold calledBack callbackAt
  induction ledger using reverseRecOn with
  | nil => rfl
  | append_singleton earlier last ih =>
    have inside : ∀ position ∈ range earlier.length,
        (earlier ++ [last])[position]? = earlier[position]? := by
      intro position member
      rw [getElem?_append_left (mem_range.mp member)]
    rw [length_append, length_singleton, range_succ, filter_append,
      map_append, filter_append, map_append, ← ih]
    congr 1
    · have sameFilter : (range earlier.length).filter (fun position =>
          (earlier ++ [last])[position]?.any (isCalledBack renderLanes rootRenderLanes)) =
          (range earlier.length).filter fun position =>
            earlier[position]?.any (isCalledBack renderLanes rootRenderLanes) :=
        filter_congr fun position member => by rw [inside position member]
      rw [sameFilter]
      refine map_congr_left ?_
      intro position member
      rw [inside position (mem_filter.mp member).1]
    · cases calledBack : last.isCalledBack renderLanes rootRenderLanes <;> simp [calledBack]

theorem callbackAt_sweep (position : Nat) :
    (ledger.sweep renderLanes rootRenderLanes).callbackAt position =
      ledger.callbackAt position := by
  unfold callbackAt sweep
  rw [getElem?_map, Option.map_map]
  congr 2
  funext tracked
  simp

@[simp] theorem appended_sweep :
    appended (ledger.sweep renderLanes rootRenderLanes) = ledger.appended := by
  simp [appended, sweep]

/-- The positions whose callbacks have been collected: updates that have been
applied and have a callback. -/
def IsCalled (position : Nat) : Prop :=
  ∃ tracked, ledger[position]? = some tracked ∧ tracked.waiting = none ∧
    tracked.update.callback.isSome = true

theorem isCalled_append_iff (update : RootUpdateData) (position : Nat) :
    IsCalled (ledger.append update) position ↔ ledger.IsCalled position := by
  unfold IsCalled append
  rcases Nat.lt_trichotomy position ledger.length with inside | atEnd | outside
  · rw [getElem?_append_left inside]
  · subst atEnd
    simp
  · have beyond : (ledger ++ [(⟨update, some update.lane⟩ : TrackedUpdate)]).length ≤
        position := by
      simp only [length_append, length_singleton]
      omega
    rw [getElem?_eq_none beyond, getElem?_eq_none (Nat.le_of_lt outside)]

/-- A pass calls the positions it collects and no others. -/
theorem isCalled_sweep_iff (position : Nat) :
    IsCalled (ledger.sweep renderLanes rootRenderLanes) position ↔
      ledger.IsCalled position ∨ position ∈ ledger.calledBack renderLanes rootRenderLanes := by
  unfold IsCalled calledBack sweep
  rw [getElem?_map, mem_filter, mem_range]
  cases found : ledger[position]? with
  | none => simp
  | some tracked =>
    have inside : position < ledger.length := (List.getElem?_eq_some_iff.mp found).1
    have swept := @swept_waiting_eq_none_iff renderLanes rootRenderLanes tracked
    simp only [Option.map_some, Option.some.injEq, exists_eq_left', inside, true_and,
      Option.any_some, isCalledBack, Bool.and_eq_true,
      Bool.not_eq_eq_eq_not, Bool.not_true, swept, swept_update]
    tauto

theorem not_isCalled_of_mem_calledBack {position : Nat}
    (member : position ∈ ledger.calledBack renderLanes rootRenderLanes) :
    ¬ ledger.IsCalled position := by
  rintro ⟨tracked, found, applied, -⟩
  have test := (mem_filter.mp member).2
  simp [found, isCalledBack, isWaiting, applied] at test

end RootUpdateLedger

/-- Create an update, set its fields and append it to a queue. -/
def appendFreshRootUpdate (handle : UpdateQueueHandle) (lane : Lane)
    (configure : RootUpdateData → RootUpdateData) : UpdateQueueM Unit := do
  let id ← createRootUpdate lane
  modifyRootUpdate id configure
  appendPendingRootUpdate handle id

/-- The runs of one queue: it is initialized in any store, fresh updates with any
fields are appended, and passes run with any lanes.  The ledger holds what was
appended; the log holds the positions whose callbacks were collected, in order. -/
inductive RootQueueRun (initialState : HostRootState) (handle : UpdateQueueHandle) :
    RootUpdateLedger → List Nat → UpdateQueueStore → Prop where
  | create {store after : UpdateQueueStore}
      (ran : (initializeHostRootQueue initialState).run store = .ok handle after) :
      RootQueueRun initialState handle [] [] after
  | append {ledger : RootUpdateLedger} {log : List Nat} {store after : UpdateQueueStore}
      (lane : Lane) (configure : RootUpdateData → RootUpdateData)
      (earlier : RootQueueRun initialState handle ledger log store)
      (ran : (appendFreshRootUpdate handle lane configure).run store = .ok () after) :
      RootQueueRun initialState handle
        (ledger.append (configure (RootUpdate.new lane).data)) log after
  | pass {ledger : RootUpdateLedger} {log : List Nat} {store after : UpdateQueueStore}
      {result : ProcessUpdateQueueResult} {currentQueue : Option UpdateQueueHandle}
      (own : currentQueue = none ∨ currentQueue = some handle) (renderLanes rootRenderLanes : Lanes)
      (earlier : RootQueueRun initialState handle ledger log store)
      (ran : (processHostRootUpdateQueue handle currentQueue renderLanes
        rootRenderLanes).run store = .ok result after) :
      RootQueueRun initialState handle (ledger.sweep renderLanes rootRenderLanes)
        (log ++ ledger.calledBack renderLanes rootRenderLanes) after

namespace RootQueueView

variable {store : UpdateQueueStore} {handle : UpdateQueueHandle}
  {baseIds pendingIds : List UpdateId}

theorem run_initializeHostRootQueue (store : UpdateQueueStore) (baseState : HostRootState) :
    ∃ handle after,
      (initializeHostRootQueue baseState).run store = .ok handle after ∧
      RootQueueView after handle (UpdateQueue.new baseState) [] [] [] [] := by
  refine ⟨_, _, rfl, ?_, ⟨⟨rfl, rfl⟩, rfl⟩, ⟨rfl, rfl⟩, by simp⟩
  simp [UpdateQueueStore.queue, OpaqueHandle.isNone]

theorem run_appendFreshRootUpdate
    (view : RootQueueView store handle queue baseIds pendingIds base pending) (lane : Lane)
    (configure : RootUpdateData → RootUpdateData) :
    ∃ id after,
      (appendFreshRootUpdate handle lane configure).run store = .ok () after ∧
      RootQueueView after handle (queue.withPending (some id))
        baseIds (pendingIds ++ [id]) base
        (pending ++ [configure (new lane).data]) := by
  obtain ⟨id, created, inserted, isNew, found, createdQueues, createdKept⟩ :=
    run_insertRootUpdate store (new lane)
  have createdLive : created.updates.data? id = some (new lane).data := by
    simp [data?, found]
  obtain ⟨configured, configuredShape⟩ : ∃ configured : UpdateQueueStore,
      configured = { created with
        updates := created.updates.modify id fun node =>
          { node with data := configure node.data } } := ⟨_, rfl⟩
  have ranConfigure : (modifyRootUpdate id configure).run created = .ok () configured := by
    simp only [modifyRootUpdate, run_bind, run_query, update_eq_ok createdLive,
      run_modify, configuredShape]
  have configuredKept : Extends [] store.updates configured.updates := by
    rw [configuredShape]
    exact createdKept.modify_new isNew _
  have configuredLive : configured.updates.data? id =
      some (configure (new lane).data) := by
    rw [configuredShape]
    simp [data?, SlotArena.get?_modify, found]
  have configuredView : RootQueueView configured handle queue baseIds pendingIds base
      pending := by
    refine ⟨?_, view.basePath.of_extends configuredKept (disjoint_nil_right _),
      view.pendingRing.of_extends configuredKept (disjoint_nil_right _),
      view.disjoint⟩
    rw [queue_of_queues_eq (show configured.queues = store.queues by
      rw [configuredShape]
      exact createdQueues)]
    exact view.found
  obtain ⟨after, appended, viewAfter, -, -⟩ :=
    configuredView.run_appendPendingRootUpdate configuredLive
      (view.basePath.holds.not_mem_of_new isNew) (view.pendingRing.holds.not_mem_of_new isNew)
  refine ⟨id, after, ?_, viewAfter⟩
  simp only [appendFreshRootUpdate, createRootUpdate, run_bind, inserted, ranConfigure, appended]

end RootQueueView

/-- What relates a queue to the ledger of its run. -/
structure RootRebaseInvariant (initialState : HostRootState) (ledger : RootUpdateLedger)
    (log : List Nat) (queue : UpdateQueue)
    (base pending : List RootUpdateData) : Prop where
  queued : base ++ pending = ledger.queued
  baseState : queue.baseState = ledger.settledState initialState
  callbacks : queue.callbacks.map (·.callback) = log.map ledger.callbackAt
  once : log.Nodup
  called : ∀ position, position ∈ log ↔ ledger.IsCalled position

namespace RootRebaseInvariant

variable {initialState : HostRootState} {ledger : RootUpdateLedger} {log : List Nat}

theorem append (invariant : RootRebaseInvariant initialState ledger log queue base pending)
    (update : RootUpdateData) (id : UpdateId) :
    RootRebaseInvariant initialState (ledger.append update) log
      (queue.withPending (some id)) base (pending ++ [update]) where
  queued := by rw [← append_assoc, invariant.queued, (ledger.append_spec update initialState).1]
  baseState := by
    rw [(ledger.append_spec update initialState).2]
    exact invariant.baseState
  callbacks := by
    refine invariant.callbacks.trans (map_congr_left ?_)
    intro position member
    obtain ⟨tracked, found, -⟩ := (invariant.called position).mp member
    have inside : position < ledger.length := (List.getElem?_eq_some_iff.mp found).1
    unfold RootUpdateLedger.callbackAt RootUpdateLedger.append
    rw [getElem?_append_left inside]
  once := invariant.once
  called := by
    intro position
    rw [invariant.called, ledger.isCalled_append_iff]

theorem pass (invariant : RootRebaseInvariant initialState ledger log queue base pending)
    (renderLanes rootRenderLanes : Lanes) {ids : List UpdateId}
    (sameLength : ids.length = (base ++ pending).length) (first last : Option UpdateId) :
    RootRebaseInvariant initialState (ledger.sweep renderLanes rootRenderLanes)
      (log ++ ledger.calledBack renderLanes rootRenderLanes)
      (queue.processed renderLanes rootRenderLanes ids (base ++ pending) first last)
      (rebasedUpdates renderLanes rootRenderLanes (base ++ pending)) [] where
  queued := by rw [append_nil, invariant.queued, ledger.rebasedUpdates_queued]
  baseState := by
    change rebasedRootState renderLanes rootRenderLanes queue.baseState (base ++ pending) = _
    rw [invariant.baseState, invariant.queued, ledger.rebasedRootState_queued]
  callbacks := by
    rw [invariant.queued] at sameLength
    have sameAt : callbackAt (ledger.sweep renderLanes rootRenderLanes) =
        ledger.callbackAt := by
      funext position
      exact ledger.callbackAt_sweep position
    change (queue.callbacks ++ collectedCallbacks renderLanes rootRenderLanes ids
      (base ++ pending)).map (·.callback) = _
    rw [map_append, invariant.callbacks, invariant.queued, map_append, sameAt,
      ledger.collectedCallbacks_queued sameLength, ledger.map_callbackAt_calledBack]
  once := by
    refine List.Nodup.append invariant.once (nodup_range.filter _) ?_
    intro position old new
    exact ledger.not_isCalled_of_mem_calledBack new ((invariant.called position).mp old)
  called := by
    intro position
    rw [mem_append, invariant.called, ledger.isCalled_sweep_iff]

end RootRebaseInvariant

theorem RootQueueRun.invariant {initialState : HostRootState} {handle : UpdateQueueHandle}
    {ledger : RootUpdateLedger} {log : List Nat} {store : UpdateQueueStore}
    (run : RootQueueRun initialState handle ledger log store) :
    ∃ queue baseIds pendingIds base pending,
      RootQueueView store handle queue baseIds pendingIds base pending ∧
      RootRebaseInvariant initialState ledger log queue base pending := by
  induction run with
  | @create store after ran =>
    obtain ⟨created, initialized, ranInitialize, view⟩ :=
      RootQueueView.run_initializeHostRootQueue store initialState
    obtain ⟨rfl, rfl⟩ := ok.inj (ran.symm.trans ranInitialize)
    refine ⟨_, _, _, _, _, view, rfl, rfl, rfl, nodup_nil, ?_⟩
    intro position
    simp [RootUpdateLedger.IsCalled]
  | @append ledger log store after lane configure earlier ran ih =>
    obtain ⟨queue, baseIds, pendingIds, base, pending, view, invariant⟩ := ih
    obtain ⟨id, appended, ranAppend, viewAfter⟩ := view.run_appendFreshRootUpdate lane configure
    obtain ⟨-, rfl⟩ := ok.inj (ran.symm.trans ranAppend)
    exact ⟨_, _, _, _, _, viewAfter, invariant.append _ id⟩
  | @pass ledger log store after result currentQueue own renderLanes rootRenderLanes
      earlier ran ih =>
      obtain ⟨queue, baseIds, pendingIds, base, pending, view, invariant⟩ := ih
      obtain ⟨first, last, clones, swept, ranPass, viewAfter, -⟩ :=
        view.run_process own renderLanes rootRenderLanes
      obtain ⟨-, rfl⟩ := ok.inj (ran.symm.trans ranPass)
      have sameLength := (view.basePath.holds.append view.pendingRing.holds).length_eq
      exact ⟨_, _, _, _, _, viewAfter,
        invariant.pass renderLanes rootRenderLanes sameLength first last⟩

/-- In every run each callback has been collected once, exactly if its update has
been applied.  The next pass succeeds: its base list replayed on its base state
gives the state of all appended updates, it renders the state of the applied ones,
and it collects, in insertion order, the callbacks of the updates it is the first
to apply; what still waits keeps its callback and copies of applied updates have
none. -/
theorem RootQueueRun.rebased_with_callbacks
    (initialState : HostRootState)
    (handle : UpdateQueueHandle)
    (ledger : RootUpdateLedger)
    (log : List Nat)
    (store : UpdateQueueStore)
    (run : RootQueueRun initialState handle ledger log store) :
    (∀ lane configure, ∃ after,
      (appendFreshRootUpdate handle lane configure).run store = .ok () after) ∧
    ∃ queue, store.queue handle = .ok queue ∧
      queue.callbacks.map (·.callback) = log.map ledger.callbackAt ∧
      log.Nodup ∧
      (∀ position, position ∈ log ↔ ledger.IsCalled position) ∧
      ∀ currentQueue, currentQueue = none ∨ currentQueue = some handle →
        ∀ renderLanes rootRenderLanes, ∃ result after queueAfter ids collected,
          (processHostRootUpdateQueue handle currentQueue renderLanes
            rootRenderLanes).run store = .ok result after ∧
          result.memoizedState =
            appliedState (ledger.sweep renderLanes rootRenderLanes)
              initialState ∧
          after.queue handle = .ok queueAfter ∧
          after.baseUpdates handle = .ok ids ∧
          after.updates.Holds ids
            (queued (ledger.sweep renderLanes rootRenderLanes)) ∧
          (queued (ledger.sweep renderLanes rootRenderLanes)).foldl
              applyRootUpdate queueAfter.baseState =
            ledger.appended.foldl applyRootUpdate initialState ∧
          queueAfter.callbacks = queue.callbacks ++ collected ∧
          collected.map (·.callback) =
            (ledger.calledBack renderLanes rootRenderLanes).map ledger.callbackAt ∧
          (ledger.calledBack renderLanes rootRenderLanes).Pairwise (· < ·) := by
  obtain ⟨queue, baseIds, pendingIds, base, pending, view, invariant⟩ := run.invariant
  constructor
  · intro lane configure
    obtain ⟨id, after, ran, -⟩ := view.run_appendFreshRootUpdate lane configure
    exact ⟨after, ran⟩
  · refine ⟨queue, view.found, invariant.callbacks, invariant.once, invariant.called, ?_⟩
    intro currentQueue own renderLanes rootRenderLanes
    obtain ⟨first, last, clones, after, ran, viewAfter, -⟩ :=
      view.run_process own renderLanes rootRenderLanes
    have sameLength := (view.basePath.holds.append view.pendingRing.holds).length_eq
    have invariantAfter :=
      invariant.pass renderLanes rootRenderLanes sameLength first last
    have queuedAfter := invariantAfter.queued
    rw [append_nil] at queuedAfter
    refine ⟨_, after, _, clones, collectedCallbacks renderLanes rootRenderLanes
      (baseIds ++ pendingIds) (base ++ pending), ran, ?_, viewAfter.found,
      viewAfter.baseUpdates_eq_ok, queuedAfter ▸ viewAfter.basePath.holds, ?_, rfl, ?_, ?_⟩
    · change renderedRootState renderLanes rootRenderLanes queue.baseState
        (base ++ pending) = _
      rw [invariant.baseState, invariant.queued, ledger.renderedRootState_queued]
    · rw [invariantAfter.baseState, foldl_queued, ledger.appended_sweep]
    · rw [invariant.queued] at sameLength ⊢
      rw [ledger.collectedCallbacks_queued sameLength, ledger.map_callbackAt_calledBack]
    · exact pairwise_lt_range.filter _

/-- A run with one update that has a callback. -/
theorem RootQueueRun.rebased_with_callbacks_sample :
    ∃ handle store,
      RootQueueRun (.client .none .none) handle
        (RootUpdateLedger.append [] ((RootUpdate.new Lane.sync).data.setCallback ⟨7⟩))
        [] store ∧
      ∃ result after queueAfter ids collected,
        (processHostRootUpdateQueue handle none Lanes.sync Lanes.sync).run store =
          .ok result after ∧
        after.queue handle = .ok queueAfter ∧
        after.baseUpdates handle = .ok ids ∧
        queueAfter.callbacks = collected ∧
        collected.map (·.callback) = [⟨7⟩] := by
  obtain ⟨handle, store, ranInitialize, view⟩ :=
    RootQueueView.run_initializeHostRootQueue UpdateQueueStore.new (.client .none .none)
  have initialized : RootQueueRun (.client .none .none) handle [] [] store :=
    .create ranInitialize
  obtain ⟨id, after, ranAppend, viewAfter⟩ :=
    view.run_appendFreshRootUpdate Lane.sync (·.setCallback ⟨7⟩)
  have appended := RootQueueRun.append Lane.sync (·.setCallback ⟨7⟩) initialized ranAppend
  refine ⟨handle, after, appended, ?_⟩
  obtain ⟨-, queue, found, callbacks, -, -, pass⟩ :=
    RootQueueRun.rebased_with_callbacks _ _ _ _ _ appended
  obtain rfl : queue = (UpdateQueue.new (.client .none .none)).withPending (some id) :=
    Except.ok.inj (found.symm.trans viewAfter.found)
  obtain ⟨result, swept, queueAfter, ids, collected, ran, -, foundAfter, listed, -, -,
    grown, calledBack, -⟩ := pass none (.inl rfl) Lanes.sync Lanes.sync
  exact ⟨result, swept, queueAfter, ids, collected, ran, foundAfter, listed, grown,
    calledBack.trans (by decide)⟩

end FastReact
