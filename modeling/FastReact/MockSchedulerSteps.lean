import FastReact.MockScheduler
import FastReact.SchedulerQueuesSteps

namespace FastReact

open ArrayHeap SchedulerQueues

/-!
# Steps of the mock scheduler

A call changes the queues and asks the host for work.  The work loop keeps the first task
of the queue current, and a callback runs while its task is still in the queue.
-/

variable {Time : Type} [CommRing Time] [LinearOrder Time]

namespace MockScheduler

variable {scheduler before between after : MockScheduler Time}

/-- What a call does not touch; it may ask for the host callback but never clears it. -/
structure AsksHost (before after : MockScheduler Time) : Prop where
  currentTask : after.currentTask = before.currentTask
  isPerformingWork : after.isPerformingWork = before.isPerformingWork
  isFlushing : after.isFlushing = before.isFlushing
  expectedNumberOfYields : after.expectedNumberOfYields = before.expectedNumberOfYields
  shouldYieldForPaint : after.shouldYieldForPaint = before.shouldYieldForPaint
  scheduledCallback : before.scheduledCallback = true → after.scheduledCallback = true

omit [CommRing Time] [LinearOrder Time] in
theorem asksHost_refl (scheduler : MockScheduler Time) : AsksHost scheduler scheduler :=
  ⟨rfl, rfl, rfl, rfl, rfl, fun scheduled => scheduled⟩

structure Calls (before after : MockScheduler Time) : Prop extends AsksHost before after where
  grows : Grows before.queues after.queues

section

omit [LinearOrder Time]

variable (currentTime : Time)

theorem asksHost_awaitQueues : AsksHost scheduler (scheduler.awaitQueues currentTime) := by
  unfold awaitQueues
  split_ifs
  · exact asksHost_refl scheduler
  · exact ⟨rfl, rfl, rfl, rfl, rfl, fun _ => rfl⟩
  · split
    · exact asksHost_refl scheduler
    · exact ⟨rfl, rfl, rfl, rfl, rfl, fun scheduled => scheduled⟩

theorem queues_awaitQueues : (scheduler.awaitQueues currentTime).queues = scheduler.queues := by
  unfold awaitQueues
  split_ifs
  · rfl
  · rfl
  · split <;> rfl

theorem currentMockTime_awaitQueues :
    (scheduler.awaitQueues currentTime).currentMockTime = scheduler.currentMockTime := by
  unfold awaitQueues
  split_ifs
  · rfl
  · rfl
  · split <;> rfl

end

section

variable (wellFormed : scheduler.queues.WellFormed)
include wellFormed

theorem calls_handleTimeout (currentTime : Time) :
    Calls scheduler (scheduler.handleTimeout currentTime) := by
  let advanced := advanceTimers { scheduler with isHostTimeoutScheduled := false } currentTime
  have asks : AsksHost advanced (advanced.awaitQueues currentTime) :=
    asksHost_awaitQueues currentTime
  have sameQueues : (advanced.awaitQueues currentTime).queues = advanced.queues :=
    queues_awaitQueues currentTime
  refine ⟨⟨asks.currentTask, asks.isPerformingWork, asks.isFlushing,
    asks.expectedNumberOfYields, asks.shouldYieldForPaint, asks.scheduledCallback⟩, ?_⟩
  have grows := wellFormed.grows_advanceTimers currentTime
  exact sameQueues ▸ grows

theorem calls_scheduleCallback (priorityLevel : PriorityLevel) (delay : Option Time) :
    Calls scheduler (scheduler.scheduleCallback priorityLevel delay) := by
  unfold scheduleCallback awaitTimer awaitTask
  simp only
  split_ifs
  · exact ⟨⟨rfl, rfl, rfl, rfl, rfl, fun scheduled => scheduled⟩,
      wellFormed.grows_pushTimer rfl rfl⟩
  · exact ⟨⟨rfl, rfl, rfl, rfl, rfl, fun scheduled => scheduled⟩,
      wellFormed.grows_pushTimer rfl rfl⟩
  · exact ⟨⟨rfl, rfl, rfl, rfl, rfl, fun scheduled => scheduled⟩,
      wellFormed.grows_pushTimer rfl rfl⟩
  · exact ⟨⟨rfl, rfl, rfl, rfl, rfl, fun _ => rfl⟩, wellFormed.grows_pushTask rfl rfl⟩
  · exact ⟨⟨rfl, rfl, rfl, rfl, rfl, fun scheduled => scheduled⟩, wellFormed.grows_pushTask rfl rfl⟩

theorem calls_advanceTime (ms : Time) : Calls scheduler (scheduler.advanceTime ms) := by
  have passedWellFormed : (scheduler.passTime ms).queues.WellFormed := wellFormed
  have fired := calls_handleTimeout passedWellFormed (scheduler.currentMockTime + ms)
  unfold advanceTime
  split_ifs
  · exact ⟨asksHost_refl scheduler, wellFormed.grows_refl⟩
  · exact ⟨⟨fired.currentTask, fired.isPerformingWork, fired.isFlushing,
      fired.expectedNumberOfYields, fired.shouldYieldForPaint, fired.scheduledCallback⟩,
      fired.grows⟩
  · exact ⟨⟨rfl, rfl, rfl, rfl, rfl, fun scheduled => scheduled⟩, wellFormed.grows_refl⟩

theorem calls_perform (call : MockCall Time) : Calls scheduler (call.perform scheduler) := by
  cases call with
  | scheduleCallback priorityLevel delay =>
    exact calls_scheduleCallback wellFormed priorityLevel delay
  | cancelCallback task =>
    exact ⟨⟨rfl, rfl, rfl, rfl, rfl, fun scheduled => scheduled⟩,
      wellFormed.grows_cancelCallback task⟩
  | advanceTime ms => exact calls_advanceTime wellFormed ms
  | log =>
    unfold MockCall.perform log
    split_ifs
    · exact ⟨asksHost_refl scheduler, wellFormed.grows_refl⟩
    · exact ⟨⟨rfl, rfl, rfl, rfl, rfl, fun scheduled => scheduled⟩, wellFormed.grows_refl⟩
  | clearLog => exact ⟨⟨rfl, rfl, rfl, rfl, rfl, fun scheduled => scheduled⟩, wellFormed.grows_refl⟩
  | requestPaint =>
    exact ⟨⟨rfl, rfl, rfl, rfl, rfl, fun scheduled => scheduled⟩, wellFormed.grows_refl⟩
  | shouldYield =>
    exact ⟨⟨rfl, rfl, rfl, rfl, rfl, fun scheduled => scheduled⟩, wellFormed.grows_refl⟩
  | setDisableYieldValue newValue =>
    exact ⟨⟨rfl, rfl, rfl, rfl, rfl, fun scheduled => scheduled⟩, wellFormed.grows_refl⟩

end

theorem currentMockTime_handleTimeout (currentTime : Time) :
    (scheduler.handleTimeout currentTime).currentMockTime = scheduler.currentMockTime :=
  currentMockTime_awaitQueues currentTime

theorem currentMockTime_scheduleCallback (priorityLevel : PriorityLevel) (delay : Option Time) :
    (scheduler.scheduleCallback priorityLevel delay).currentMockTime =
      scheduler.currentMockTime := by
  unfold scheduleCallback awaitTimer awaitTask
  simp only
  split_ifs <;> rfl

theorem currentMockTime_advanceTime (ms : Time) :
    (scheduler.advanceTime ms).currentMockTime =
      if scheduler.disableYieldValue then
        scheduler.currentMockTime
      else
        scheduler.currentMockTime + ms := by
  unfold advanceTime
  split_ifs
  · rfl
  · exact currentMockTime_handleTimeout _
  · rfl

theorem currentMockTime_le_perform {call : MockCall Time}
    (forward : ∀ ms, call = .advanceTime ms →
      scheduler.currentMockTime ≤ scheduler.currentMockTime + ms) :
    scheduler.currentMockTime ≤ (call.perform scheduler).currentMockTime := by
  cases call with
  | scheduleCallback priorityLevel delay =>
    exact le_of_eq (currentMockTime_scheduleCallback priorityLevel delay).symm
  | advanceTime ms =>
    unfold MockCall.perform
    rw [currentMockTime_advanceTime]
    split_ifs
    · exact le_refl _
    · exact forward ms rfl
  | log =>
    unfold MockCall.perform log
    split_ifs <;> exact le_refl _
  | _ => exact le_refl _

end MockScheduler

/-- The expected number of yields and whether to yield for a paint, as a flush sets them. -/
def MockFlush.settings : MockFlush → Int × Bool
  | .flushAllWithoutAsserting => (-1, false)
  | .flushExpired => (-1, false)
  | .flushNumberOfYields count => (count, false)
  | .flushUntilNextPaint => (-1, true)

namespace MockScheduler

variable {scheduler before between after : MockScheduler Time} {frame : WorkLoopFrame Time}

/-- A flush is on its way, and its host callback stays scheduled. -/
structure Flushing (scheduler : MockScheduler Time) (flush : MockFlush) : Prop where
  isFlushing : scheduler.isFlushing = true
  scheduledCallback : scheduler.scheduledCallback = true
  settings : (scheduler.expectedNumberOfYields, scheduler.shouldYieldForPaint) = flush.settings

/-- The work loop is about to look at the first task, and all started timers have moved. -/
structure AtLoopHead (scheduler : MockScheduler Time) (frame : WorkLoopFrame Time) : Prop
    extends Flushing scheduler frame.flush where
  hasTimeRemaining : frame.hasTimeRemaining = (frame.flush ≠ .flushExpired : Bool)
  currentTask : scheduler.currentTask = peek scheduler.queues.taskQueue
  currentTime : frame.currentTime = scheduler.currentMockTime
  timersWait : TimersWait scheduler.currentMockTime scheduler.queues

/-- A callback runs, whose task has lost it but is still in the queue. -/
structure InCallback (scheduler : MockScheduler Time) (frame : WorkLoopFrame Time) : Prop
    extends Flushing scheduler frame.flush where
  hasTimeRemaining : frame.hasTimeRemaining = (frame.flush ≠ .flushExpired : Bool)
  current : ∃ task ∈ scheduler.queues.taskQueue,
    scheduler.currentTask = some task ∧ ¬ scheduler.queues.IsLive task.id

/-- No flush is on its way. -/
structure Idle (scheduler : MockScheduler Time) : Prop where
  isFlushing : scheduler.isFlushing = false
  settings : (scheduler.expectedNumberOfYields, scheduler.shouldYieldForPaint) = (-1, false)

def Holds (scheduler : MockScheduler Time) : MockControl Time → Prop
  | .idle => Idle scheduler
  | .looping frame => AtLoopHead scheduler frame
  | .inCallback frame => InCallback scheduler frame

end MockScheduler

structure MockProcess.Coherent (process : MockProcess Time) : Prop where
  queues : process.scheduler.queues.WellFormed
  holds : process.scheduler.Holds process.control

namespace MockScheduler

variable {scheduler before between after : MockScheduler Time} {frame : WorkLoopFrame Time}

/-- A process whose queues have gone on from those of a scheduler. -/
structure Continues (before : MockScheduler Time) (process : MockProcess Time) : Prop where
  coherent : process.Coherent
  follows : Follows before.queues process.scheduler.queues
  used : process.scheduler.queues.callbacks.used = before.queues.callbacks.used
  currentMockTime : process.scheduler.currentMockTime = before.currentMockTime

omit [CommRing Time] in
theorem Continues.of_follows {process : MockProcess Time}
    (earlier : Follows before.queues between.queues)
    (used : between.queues.callbacks.used = before.queues.callbacks.used)
    (currentMockTime : between.currentMockTime = before.currentMockTime)
    (continues : Continues between process) : Continues before process where
  coherent := continues.coherent
  follows := earlier.trans continues.follows
  used := continues.used.trans used
  currentMockTime := continues.currentMockTime.trans currentMockTime

variable {flush : MockFlush}

theorem continues_enterFlushWork (wellFormed : scheduler.queues.WellFormed)
    (flushing : Flushing scheduler flush) :
    Continues scheduler (scheduler.enterFlushWork flush) ∧
      ∃ frame, (scheduler.enterFlushWork flush).control = .looping frame ∧ frame.flush = flush := by
  obtain ⟨advanced, advances, wait⟩ := wellFormed.advanceTimers scheduler.currentMockTime
  have used : (scheduler.queues.advanceTimers scheduler.currentMockTime).callbacks.used =
      scheduler.queues.callbacks.used := by
    rw [advances.callbacks]
  obtain ⟨isFlushing, scheduledCallback, settings⟩ := flushing
  unfold enterFlushWork
  simp only
  split_ifs
  · exact ⟨⟨⟨advanced, ⟨⟨isFlushing, scheduledCallback, settings⟩, rfl, rfl, rfl, wait⟩⟩,
      advances.follows, used, rfl⟩, _, rfl, rfl⟩
  · exact ⟨⟨⟨advanced, ⟨⟨isFlushing, scheduledCallback, settings⟩, rfl, rfl, rfl, wait⟩⟩,
      advances.follows, used, rfl⟩, _, rfl, rfl⟩

/-- What a flush leaves behind. -/
structure Leaves (before after : MockScheduler Time) (hasMoreWork : Bool) : Prop where
  idle : Idle after
  queues : after.queues = before.queues
  currentMockTime : after.currentMockTime = before.currentMockTime
  scheduledCallback : after.scheduledCallback = (before.scheduledCallback && hasMoreWork)
  scheduledTimeout : after.scheduledTimeout = before.scheduledTimeout
  timeoutTime : after.timeoutTime = before.timeoutTime
  isHostCallbackScheduled : after.isHostCallbackScheduled = before.isHostCallbackScheduled
  isPerformingWork : after.isPerformingWork = false

omit [CommRing Time] [LinearOrder Time] in
theorem leaves_leaveFlush (hasMoreWork : Bool) (flushing : Flushing scheduler flush) :
    Leaves scheduler
      (({ scheduler.leaveFlushWork frame with
        scheduledCallback := scheduler.scheduledCallback && hasMoreWork } :
          MockScheduler Time).leaveFlush flush)
      hasMoreWork := by
  have settings := flushing.settings
  cases flush with
  | flushAllWithoutAsserting => exact ⟨⟨rfl, settings⟩, rfl, rfl, rfl, rfl, rfl, rfl, rfl⟩
  | flushExpired => exact ⟨⟨rfl, settings⟩, rfl, rfl, rfl, rfl, rfl, rfl, rfl⟩
  | flushNumberOfYields count =>
    have paint : scheduler.shouldYieldForPaint = false := congrArg Prod.snd settings
    exact ⟨⟨rfl, congrArg (Prod.mk (-1)) paint⟩, rfl, rfl, rfl, rfl, rfl, rfl, rfl⟩
  | flushUntilNextPaint =>
    have yields : scheduler.expectedNumberOfYields = -1 := congrArg Prod.fst settings
    exact ⟨⟨rfl, congrArg (Prod.mk · false) yields⟩, rfl, rfl, rfl, rfl, rfl, rfl, rfl⟩

omit [CommRing Time] [LinearOrder Time] in
theorem repeatsFlushWork_false (flush : MockFlush) :
    scheduler.repeatsFlushWork false flush = false := by
  cases flush <;> rfl

section

variable (wellFormed : scheduler.queues.WellFormed) (flushing : Flushing scheduler frame.flush)
  (hasMoreWork : Bool)
include wellFormed flushing

theorem returnFromFlushWork_cases :
    (hasMoreWork = true ∧
      Continues scheduler (scheduler.returnFromFlushWork frame hasMoreWork) ∧
      scheduler.returnFromFlushWork frame hasMoreWork =
        (scheduler.leaveFlushWork frame).enterFlushWork frame.flush) ∨
      ((scheduler.returnFromFlushWork frame hasMoreWork).control = .idle ∧
        Leaves scheduler (scheduler.returnFromFlushWork frame hasMoreWork).scheduler
          hasMoreWork) := by
  unfold returnFromFlushWork
  simp only
  by_cases repeats :
      (scheduler.leaveFlushWork frame).repeatsFlushWork hasMoreWork frame.flush = true
  · rw [if_pos repeats]
    have more : hasMoreWork = true := by
      cases hasMoreWork with
      | true => rfl
      | false =>
        rw [repeatsFlushWork_false] at repeats
        cases repeats
    have left : Flushing (scheduler.leaveFlushWork frame) frame.flush :=
      ⟨flushing.isFlushing, flushing.scheduledCallback, flushing.settings⟩
    have leftWellFormed : (scheduler.leaveFlushWork frame).queues.WellFormed := wellFormed
    have same : Follows scheduler.queues (scheduler.leaveFlushWork frame).queues := follows_refl _
    have continues := (continues_enterFlushWork leftWellFormed left).1
    exact .inl ⟨more, .of_follows same rfl rfl continues, rfl⟩
  · rw [if_neg repeats]
    exact .inr ⟨rfl, leaves_leaveFlush hasMoreWork flushing⟩

theorem continues_returnFromFlushWork :
    Continues scheduler (scheduler.returnFromFlushWork frame hasMoreWork) := by
  rcases returnFromFlushWork_cases wellFormed flushing hasMoreWork with
    ⟨-, continues, -⟩ | ⟨isIdle, leaves⟩
  · exact continues
  · refine ⟨⟨?_, ?_⟩, ?_, ?_, leaves.currentMockTime⟩
    · rw [leaves.queues]
      exact wellFormed
    · rw [isIdle]
      exact leaves.idle
    · rw [leaves.queues]
      exact follows_refl _
    · rw [leaves.queues]

end

section

omit [CommRing Time] [LinearOrder Time]

theorem leaves_callbackThrows (flushing : Flushing scheduler frame.flush) :
    Leaves scheduler (scheduler.callbackThrows frame).scheduler true := by
  have leaves := @leaves_leaveFlush Time scheduler frame frame.flush true flushing
  rw [Bool.and_true] at leaves
  exact leaves

/-- What the end of the work loop may ask of the host before `flushWork` returns. -/
structure EndsLoop (before after : MockScheduler Time) : Prop where
  queues : after.queues = before.queues
  isFlushing : after.isFlushing = before.isFlushing
  scheduledCallback : after.scheduledCallback = before.scheduledCallback
  expectedNumberOfYields : after.expectedNumberOfYields = before.expectedNumberOfYields
  shouldYieldForPaint : after.shouldYieldForPaint = before.shouldYieldForPaint
  currentMockTime : after.currentMockTime = before.currentMockTime
  isHostCallbackScheduled : after.isHostCallbackScheduled = before.isHostCallbackScheduled

theorem EndsLoop.flushing (endsLoop : EndsLoop before after) (flushing : Flushing before flush) :
    Flushing after flush where
  isFlushing := endsLoop.isFlushing.trans flushing.isFlushing
  scheduledCallback := endsLoop.scheduledCallback.trans flushing.scheduledCallback
  settings := by
    rw [endsLoop.expectedNumberOfYields, endsLoop.shouldYieldForPaint]
    exact flushing.settings

inductive Round (scheduler : MockScheduler Time) (frame : WorkLoopFrame Time) :
    MockProcess Time → Prop where
  | finished {ended : MockScheduler Time} (noTask : scheduler.queues.taskQueue = [])
      (endsLoop : EndsLoop scheduler ended)
      (timeout : ∀ timer, peek scheduler.queues.timerQueue = some timer →
        ended.scheduledTimeout = true ∧ ended.timeoutTime = timer.startTime) :
      Round scheduler frame (ended.returnFromFlushWork frame false)
  | stopped {ended : MockScheduler Time} (endsLoop : EndsLoop scheduler ended)
      (notAll : frame.flush ≠ .flushAllWithoutAsserting)
      (stops : ended.didStop = true ∨ frame.flush = .flushExpired) :
      Round scheduler frame (ended.returnFromFlushWork frame true)
  | called {task : SchedulerTask Time} {token : Nat}
      (isFirst : peek scheduler.queues.taskQueue = some task)
      (waits : scheduler.queues.callback task.id = some token) :
      Round scheduler frame {
        scheduler := { scheduler with
          queues := scheduler.queues.takeCallback task.id
          currentPriorityLevel := task.priorityLevel }
        control := .inCallback frame }
  | dropped {task : SchedulerTask Time} (isFirst : peek scheduler.queues.taskQueue = some task)
      (spent : ¬ scheduler.queues.IsLive task.id) :
      Round scheduler frame
        (nextRound { scheduler with queues := scheduler.queues.popTask } frame)

theorem not_shouldYieldToHost
    (settings : (scheduler.expectedNumberOfYields, scheduler.shouldYieldForPaint) = (-1, false)) :
    scheduler.shouldYieldToHost = false := by
  obtain ⟨yields, paint⟩ := Prod.mk.inj settings
  unfold shouldYieldToHost
  rw [yields, paint]
  simp

end

theorem AtLoopHead.round (head : AtLoopHead scheduler frame) :
    Round scheduler frame (scheduler.workLoopRound frame) := by
  unfold workLoopRound
  rw [head.currentTask]
  cases isFirst : peek scheduler.queues.taskQueue with
  | none =>
    have noTask := peek_eq_none_iff.mp isFirst
    cases firstTimer : peek scheduler.queues.timerQueue with
    | none =>
      simp only
      refine .finished noTask ⟨rfl, rfl, rfl, rfl, rfl, rfl, rfl⟩ ?_
      intro timer isTimer
      rw [firstTimer] at isTimer
      cases isTimer
    | some timer =>
      simp only
      refine .finished noTask ⟨rfl, rfl, rfl, rfl, rfl, rfl, rfl⟩ ?_
      intro other isTimer
      obtain rfl := Option.some.inj (firstTimer.symm.trans isTimer)
      refine ⟨rfl, ?_⟩
      change scheduler.currentMockTime + (timer.startTime - frame.currentTime) = _
      rw [head.currentTime]
      exact add_sub_cancel _ _
  | some task =>
    simp only
    by_cases noTime : frame.currentTime < task.expirationTime ∧ frame.hasTimeRemaining = false
    · rw [if_pos noTime]
      have expired : frame.flush = .flushExpired := by
        have remaining := head.hasTimeRemaining.symm.trans noTime.2
        simpa using remaining
      refine .stopped ⟨rfl, rfl, rfl, rfl, rfl, rfl, rfl⟩ ?_ (.inr expired)
      rw [expired]
      exact MockFlush.noConfusion
    · rw [if_neg noTime]
      by_cases yields : frame.currentTime < task.expirationTime ∧ scheduler.shouldYieldToHost = true
      · rw [if_pos yields]
        refine .stopped ⟨rfl, rfl, rfl, rfl, rfl, rfl, rfl⟩ ?_ (.inl rfl)
        intro all
        have settings := head.settings
        rw [all] at settings
        exact absurd yields.2 (by rw [not_shouldYieldToHost settings]; exact Bool.false_ne_true)
      · rw [if_neg yields]
        unfold runTask
        cases waits : scheduler.queues.callback task.id with
        | none =>
          rw [if_neg (not_not.mpr rfl)]
          exact .dropped isFirst (not_not.mpr waits)
        | some token =>
          rw [if_pos (Option.some_ne_none token)]
          exact .called isFirst waits

omit [CommRing Time] [LinearOrder Time] in
theorem not_repeatsFlushWork_of_stops (notAll : flush ≠ .flushAllWithoutAsserting)
    (stops : scheduler.didStop = true ∨ flush = .flushExpired) :
    scheduler.repeatsFlushWork true flush = false := by
  rcases stops with stopped | rfl
  · cases flush with
    | flushAllWithoutAsserting => exact absurd rfl notAll
    | flushExpired => rfl
    | flushNumberOfYields count => simp [repeatsFlushWork, stopped]
    | flushUntilNextPaint => simp [repeatsFlushWork, stopped]
  · rfl

theorem control_returnFromFlushWork_of_stops (notAll : frame.flush ≠ .flushAllWithoutAsserting)
    (stops : scheduler.didStop = true ∨ frame.flush = .flushExpired) :
    (scheduler.returnFromFlushWork frame true).control = .idle := by
  have left : (scheduler.leaveFlushWork frame).repeatsFlushWork true frame.flush = false :=
    not_repeatsFlushWork_of_stops notAll stops
  unfold returnFromFlushWork
  simp only [left, Bool.false_eq_true, if_false]

theorem control_returnFromFlushWork_false :
    (scheduler.returnFromFlushWork frame false).control = .idle := by
  unfold returnFromFlushWork
  simp only [repeatsFlushWork_false, Bool.false_eq_true, if_false]

omit [CommRing Time] in
theorem continues_nextRound {queues : SchedulerQueues Time} (wellFormed : queues.WellFormed)
    (flushing : Flushing scheduler frame.flush)
    (hasTimeRemaining : frame.hasTimeRemaining = (frame.flush ≠ .flushExpired : Bool))
    (currentTime : frame.currentTime = scheduler.currentMockTime)
    (wait : TimersWait scheduler.currentMockTime queues) (follows : Follows scheduler.queues queues)
    (used : queues.callbacks.used = scheduler.queues.callbacks.used) :
    Continues scheduler (nextRound { scheduler with queues := queues } frame) := by
  obtain ⟨isFlushing, scheduledCallback, settings⟩ := flushing
  exact ⟨⟨wellFormed, ⟨⟨isFlushing, scheduledCallback, settings⟩, hasTimeRemaining, rfl,
    currentTime, wait⟩⟩, follows, used, rfl⟩

theorem AtLoopHead.coherent_of_round {process : MockProcess Time}
    (head : AtLoopHead scheduler frame) (wellFormed : scheduler.queues.WellFormed)
    (round : Round scheduler frame process) :
    process.Coherent ∧
      Follows scheduler.queues process.scheduler.queues ∧
      process.scheduler.currentMockTime = scheduler.currentMockTime := by
  cases round with
  | @finished ended noTask endsLoop timeout =>
    have continues := continues_returnFromFlushWork (endsLoop.queues ▸ wellFormed)
      (endsLoop.flushing head.toFlushing) false
    exact ⟨continues.coherent, endsLoop.queues ▸ continues.follows,
      continues.currentMockTime.trans endsLoop.currentMockTime⟩
  | @stopped ended endsLoop notAll stops =>
    have continues := continues_returnFromFlushWork (endsLoop.queues ▸ wellFormed)
      (endsLoop.flushing head.toFlushing) true
    exact ⟨continues.coherent, endsLoop.queues ▸ continues.follows,
      continues.currentMockTime.trans endsLoop.currentMockTime⟩
  | @called task token isFirst waits =>
    refine ⟨⟨wellFormed.takeCallback task.id, ?_⟩, follows_takeCallback _ task.id, rfl⟩
    refine ⟨⟨head.isFlushing, head.scheduledCallback, head.settings⟩,
      head.hasTimeRemaining, task, mem_of_peek isFirst, head.currentTask.trans isFirst, ?_⟩
    intro live
    unfold IsLive callback takeCallback at live
    rw [TokenLedger.slot_use, if_pos rfl] at live
    exact live rfl
  | @dropped task isFirst spent =>
    have wait : TimersWait scheduler.currentMockTime scheduler.queues.popTask := head.timersWait
    have continues := continues_nextRound (wellFormed.popTask isFirst spent) head.toFlushing
      head.hasTimeRemaining head.currentTime wait
      (wellFormed.toArranged.follows_popTask isFirst) rfl
    exact ⟨continues.coherent, continues.follows, rfl⟩

omit [CommRing Time] in
theorem InCallback.calls (running : InCallback before frame) (wellFormed : before.queues.WellFormed)
    (calls : Calls before after) : InCallback after frame where
  isFlushing := calls.isFlushing.trans running.isFlushing
  scheduledCallback := calls.scheduledCallback running.scheduledCallback
  settings := by
    rw [calls.expectedNumberOfYields, calls.shouldYieldForPaint]
    exact running.settings
  hasTimeRemaining := running.hasTimeRemaining
  current := by
    obtain ⟨task, member, isCurrent, spent⟩ := running.current
    refine ⟨task, calls.grows.tasks task member, calls.currentTask.trans isCurrent, ?_⟩
    exact calls.grows.spent task.id (wellFormed.counted task (mem_tasks.mpr (.inl member))) spent

omit [CommRing Time] in
theorem Idle.calls (idle : Idle before) (calls : Calls before after) : Idle after where
  isFlushing := calls.isFlushing.trans idle.isFlushing
  settings := by
    rw [calls.expectedNumberOfYields, calls.shouldYieldForPaint]
    exact idle.settings

theorem InCallback.continues_callbackReturns (running : InCallback scheduler frame)
    (wellFormed : scheduler.queues.WellFormed) (continues : Bool) :
    Continues scheduler (scheduler.callbackReturns frame continues) := by
  obtain ⟨task, member, isCurrent, spent⟩ := running.current
  obtain ⟨finished, follows, used⟩ := wellFormed.finishTask member spent continues
  obtain ⟨advanced, advances, wait⟩ := finished.advanceTimers scheduler.currentMockTime
  have advancedFollows := follows.trans advances.follows
  have advancedUsed : (scheduler.finishTask task continues).queues.callbacks.used =
      scheduler.queues.callbacks.used :=
    (congrArg TokenLedger.used advances.callbacks).trans used
  unfold callbackReturns
  rw [isCurrent]
  simp only
  split_ifs
  · have flushing : Flushing (scheduler.finishTask task continues).requestPaint frame.flush :=
      ⟨running.isFlushing, running.scheduledCallback, running.settings⟩
    refine @Continues.of_follows Time _ scheduler
      (scheduler.finishTask task continues).requestPaint _ advancedFollows advancedUsed rfl ?_
    exact continues_returnFromFlushWork advanced flushing true
  · exact continues_nextRound advanced running.toFlushing running.hasTimeRemaining rfl wait
      advancedFollows advancedUsed

end MockScheduler

end FastReact
