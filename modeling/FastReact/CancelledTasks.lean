import FastReact.MockSchedulerRuns

namespace FastReact

open SchedulerQueues MockScheduler

/-!
# Cancelled tasks

Cancelling clears the callback of a task.  The work loop clears it too before it calls the
function, and writes it again when the function returns a continuation.  So a cancelled
task runs again only where its own function was at work and returns a continuation.
-/

variable {Time : Type} [CommRing Time] [LinearOrder Time]

namespace MockScheduler

variable {scheduler : MockScheduler Time} {frame : WorkLoopFrame Time}

theorem callbacks_enterFlushWork (wellFormed : scheduler.queues.WellFormed) (flush : MockFlush) :
    (scheduler.enterFlushWork flush).scheduler.queues.callbacks = scheduler.queues.callbacks := by
  obtain ⟨-, advances, -⟩ := wellFormed.advanceTimers scheduler.currentMockTime
  unfold enterFlushWork
  simp only
  split_ifs
  · exact advances.callbacks
  · exact advances.callbacks

theorem callbacks_returnFromFlushWork (wellFormed : scheduler.queues.WellFormed)
    (flushing : Flushing scheduler frame.flush) (hasMoreWork : Bool) :
    (scheduler.returnFromFlushWork frame hasMoreWork).scheduler.queues.callbacks =
      scheduler.queues.callbacks := by
  rcases returnFromFlushWork_cases wellFormed flushing hasMoreWork with
    ⟨-, -, again⟩ | ⟨-, leaves⟩
  · have left : (scheduler.leaveFlushWork frame).queues.WellFormed := wellFormed
    rw [again, callbacks_enterFlushWork left]
    rfl
  · rw [leaves.queues]

theorem callback_callbackReturns {task : SchedulerTask Time} (running : InCallback scheduler frame)
    (wellFormed : scheduler.queues.WellFormed) (isCurrent : scheduler.currentTask = some task)
    (continues : Bool) :
    (scheduler.callbackReturns frame continues).scheduler.queues.callbacks =
      (scheduler.queues.finishTask task continues).callbacks := by
  obtain ⟨current, member, same, spent⟩ := running.current
  obtain rfl := Option.some.inj (same.symm.trans isCurrent)
  obtain ⟨finished, -, -⟩ := wellFormed.finishTask member spent continues
  obtain ⟨advanced, advances, -⟩ := finished.advanceTimers scheduler.currentMockTime
  unfold callbackReturns
  rw [isCurrent]
  simp only
  split_ifs
  · have flushing : Flushing (scheduler.finishTask current continues).requestPaint frame.flush :=
      ⟨running.isFlushing, running.scheduledCallback, running.settings⟩
    exact (callbacks_returnFromFlushWork advanced flushing true).trans advances.callbacks
  · exact advances.callbacks

end MockScheduler

namespace MockProcess

variable {process : MockProcess Time} {action : MockAction Time} {id : Nat}

structure Invokes (process : MockProcess Time) (action : MockAction Time) (id : Nat) :
    Prop where
  isRound : action = .workLoop
  looping : ∃ frame, process.control = .looping frame
  called : ∃ frame, (process.step action).control = .inCallback frame
  current : process.scheduler.currentTask.map SchedulerTask.id = some id

/-- None of the actions calls a function of the task where it is taken. -/
def NeverInvokes (process : MockProcess Time) (later : List (MockAction Time)) (id : Nat) : Prop :=
  ∀ taken action, taken ++ [action] <+: later →
    ¬ (taken.foldl step process).Invokes action id

/-- Code that may cancel a task runs, and the task exists. -/
structure CanCancel (process : MockProcess Time) (id : Nat) : Prop where
  calls : ∀ frame, process.control ≠ .looping frame
  allocated : id < process.scheduler.queues.taskIdCounter

/-- The action is not the return of the task's own function with a continuation. -/
def NotContinued (id : Nat) (process : MockProcess Time) (action : MockAction Time) : Prop :=
  action = .callbackReturns true → (∃ frame, process.control = .inCallback frame) →
    process.scheduler.currentTask.map SchedulerTask.id ≠ some id

/-- A task that exists and has no callback. -/
structure Spent (process : MockProcess Time) (id : Nat) : Prop where
  coherent : process.Coherent
  allocated : id < process.scheduler.queues.taskIdCounter
  empty : ¬ process.scheduler.queues.IsLive id

theorem CanCancel.spent (coherent : process.Coherent) (canCancel : process.CanCancel id) :
    (process.step (.call (.cancelCallback id))).Spent id := by
  have advances := advances_call coherent (.cancelCallback id)
  refine ⟨advances.coherent,
    Nat.lt_of_lt_of_le canCancel.allocated advances.follows.taskIdCounter, ?_⟩
  have cancelled : ¬ (process.scheduler.queues.cancelCallback id).IsLive id := by
    unfold IsLive callback SchedulerQueues.cancelCallback
    rw [TokenLedger.slot_revoke, if_pos rfl]
    exact not_not.mpr rfl
  obtain ⟨scheduler, control⟩ := process
  cases control with
  | idle => exact cancelled
  | inCallback frame => exact cancelled
  | looping frame => exact absurd rfl (canCancel.calls frame)

omit [CommRing Time] [LinearOrder Time] in
theorem not_isLive_of_callbacks {before after : SchedulerQueues Time}
    (callbacks : after.callbacks = before.callbacks) (empty : ¬ before.IsLive id) :
    ¬ after.IsLive id := by
  unfold IsLive callback at empty ⊢
  rwa [callbacks]

section

variable (spent : process.Spent id)
include spent

theorem Spent.startFlush (flush : MockFlush) :
    ¬ (process.startFlush flush).scheduler.queues.IsLive id := by
  unfold MockProcess.startFlush
  split_ifs
  · exact spent.empty
  · have prepared := queues_prepareFlush process.scheduler flush
    have wellFormed : (process.scheduler.prepareFlush flush).queues.WellFormed :=
      prepared ▸ spent.coherent.queues
    exact not_isLive_of_callbacks
      ((callbacks_enterFlushWork wellFormed flush).trans (by rw [prepared])) spent.empty
  · exact spent.empty

theorem Spent.workLoop : ¬ (process.step .workLoop).scheduler.queues.IsLive id := by
  obtain ⟨scheduler, control⟩ := process
  cases control with
  | idle => exact spent.empty
  | inCallback frame => exact spent.empty
  | looping frame =>
    have head : AtLoopHead scheduler frame := spent.coherent.holds
    have wellFormed : scheduler.queues.WellFormed := spent.coherent.queues
    have empty : ¬ scheduler.queues.IsLive id := spent.empty
    have round := head.round
    change ¬ (scheduler.workLoopRound frame).scheduler.queues.IsLive id
    generalize scheduler.workLoopRound frame = after at round ⊢
    cases round with
    | @finished ended noTask endsLoop timeout =>
      exact not_isLive_of_callbacks ((callbacks_returnFromFlushWork
        (endsLoop.queues ▸ wellFormed) (endsLoop.flushing head.toFlushing) false).trans
          (by rw [endsLoop.queues])) empty
    | @stopped ended endsLoop notAll stops =>
      exact not_isLive_of_callbacks ((callbacks_returnFromFlushWork
        (endsLoop.queues ▸ wellFormed) (endsLoop.flushing head.toFlushing) true).trans
          (by rw [endsLoop.queues])) empty
    | dropped isFirst noCallback => exact empty
    | @called task token isFirst waits =>
      unfold IsLive callback at empty ⊢
      unfold takeCallback
      rw [TokenLedger.slot_use]
      split_ifs
      · exact not_not.mpr rfl
      · exact empty

theorem Spent.callbackReturns {continues : Bool}
    (notContinued : NotContinued id process (.callbackReturns continues)) :
    ¬ (process.step (.callbackReturns continues)).scheduler.queues.IsLive id := by
  obtain ⟨scheduler, control⟩ := process
  cases control with
  | idle => exact spent.empty
  | looping frame => exact spent.empty
  | inCallback frame =>
    have running : InCallback scheduler frame := spent.coherent.holds
    obtain ⟨task, member, isCurrent, -⟩ := running.current
    refine not_isLive_of_callbacks
      (callback_callbackReturns running spent.coherent.queues isCurrent continues) ?_
    have empty : ¬ scheduler.queues.IsLive id := spent.empty
    unfold SchedulerQueues.finishTask
    cases continues with
    | false =>
      rw [if_neg Bool.false_ne_true]
      split_ifs
      · exact empty
      · exact empty
    | true =>
      have other : id ≠ task.id := by
        intro same
        refine notContinued rfl ⟨frame, rfl⟩ ?_
        rw [isCurrent, same]
        rfl
      rw [if_pos rfl]
      unfold IsLive callback at empty ⊢
      unfold setCallback
      rwa [TokenLedger.slot_put, if_neg other]

/-- Only the task's own function, when it returns a continuation, gives it a callback. -/
theorem Spent.step (notContinued : NotContinued id process action) :
    (process.step action).Spent id := by
  have advances := advances_step spent.coherent action
  refine ⟨advances.coherent, Nat.lt_of_lt_of_le spent.allocated advances.follows.taskIdCounter, ?_⟩
  cases action with
  | flush flush => exact spent.startFlush flush
  | workLoop => exact spent.workLoop
  | callbackReturns continues => exact spent.callbackReturns notContinued
  | flushAll =>
    unfold MockProcess.step
    split_ifs
    · exact spent.startFlush _
    · exact spent.empty
  | call call =>
    have grows := (calls_perform spent.coherent.queues call).grows
    have performed := grows.spent id spent.allocated spent.empty
    obtain ⟨scheduler, control⟩ := process
    cases control with
    | idle => exact performed
    | looping frame => exact spent.empty
    | inCallback frame => exact performed
  | callbackThrows =>
    obtain ⟨scheduler, control⟩ := process
    cases control with
    | idle => exact spent.empty
    | looping frame => exact spent.empty
    | inCallback frame =>
      have running : InCallback scheduler frame := spent.coherent.holds
      have same := (leaves_callbackThrows running.toFlushing).queues
      exact not_isLive_of_callbacks (congrArg SchedulerQueues.callbacks same) spent.empty

theorem Spent.foldl {taken : List (MockAction Time)}
    (notContinued : Permitted (NotContinued id) MockProcess.step process taken) :
    (taken.foldl MockProcess.step process).Spent id :=
  @ActionRun.invariant _ _ _ _ _ _ _ (MockProcess.Spent · id)
    (ActionRun.of_permitted notContinued) spent fun _ _ spent permitted => spent.step permitted

theorem Spent.not_invokes : ¬ process.Invokes action id := by
  rintro ⟨rfl, ⟨frame, looping⟩, ⟨running, called⟩, current⟩
  obtain ⟨scheduler, control⟩ := process
  obtain rfl : control = .looping frame := looping
  have head : AtLoopHead scheduler frame := spent.coherent.holds
  have isFirst : (ArrayHeap.peek scheduler.queues.taskQueue).map SchedulerTask.id = some id :=
    head.currentTask ▸ current
  have round := head.round
  change (scheduler.workLoopRound frame).control = .inCallback running at called
  generalize scheduler.workLoopRound frame = after at round called
  cases round with
  | finished noTask endsLoop timeout =>
    rw [control_returnFromFlushWork_false] at called
    cases called
  | stopped endsLoop notAll stops =>
    rw [control_returnFromFlushWork_of_stops notAll stops] at called
    cases called
  | dropped first noCallback =>
    cases called
  | @called task token first waits =>
    rw [first] at isFirst
    obtain rfl : task.id = id := Option.some.inj isFirst
    exact spent.empty (isLive_of_callback waits)

end

end MockProcess

open MockProcess

/-- In every run, a task that has been cancelled does not run again, unless it was cancelled
while its own function was at work and that returns a continuation. -/
theorem cancelled_task_never_runs
    {earlier later : List (MockAction Time)}
    {id : Nat}
    (canCancel : (earlier.foldl step (new : MockProcess Time)).CanCancel id)
    (notContinued : Permitted (NotContinued id) step
      ((earlier.foldl step new).step (.call (.cancelCallback id))) later) :
    ((earlier.foldl step new).step (.call (.cancelCallback id))).NeverInvokes later id := by
  have spent := canCancel.spent (coherent_foldl coherent_new earlier)
  rintro taken action ⟨rest, rfl⟩
  rw [List.append_assoc] at notContinued
  exact (spent.foldl (Permitted.of_append notContinued)).not_invokes

theorem cancelled_task_never_runs_sample :
    ((([.call (.scheduleCallback .normal none)] : List (MockAction ℤ)).foldl step new).step
      (.call (.cancelCallback 1))).NeverInvokes [.flushAll, .workLoop, .workLoop] 1 :=
  cancelled_task_never_runs ⟨nofun, by decide⟩
    ⟨nofun, nofun, nofun, trivial⟩

/-- A task that cancels itself and returns a continuation runs the continuation. -/
theorem cancelled_task_continues :
    ¬ ∀ (earlier later : List (MockAction ℤ)) (id : Nat),
      (earlier.foldl step (new : MockProcess ℤ)).CanCancel id →
      ((earlier.foldl step new).step (.call (.cancelCallback id))).NeverInvokes later id := by
  intro claim
  refine claim [.call (.scheduleCallback .normal none), .flushAll, .workLoop]
    [.callbackReturns true, .workLoop] 1 ⟨nofun, by decide⟩ [.callbackReturns true] .workLoop
    (List.prefix_refl _) ⟨rfl, ⟨_, rfl⟩, ⟨_, rfl⟩, rfl⟩

end FastReact
