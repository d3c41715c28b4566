import FastReact.MockSchedulerRuns

namespace FastReact

open ArrayHeap MockScheduler SchedulerQueues

/-!
# The timeouts of the mock scheduler

Work is not lost as long as a host callback is scheduled for the task queue, and a host
callback or a host timeout for the timer queue.  An advance of the time clears the timeout
that it has fired, and with it the one that the handler may have requested meanwhile.
-/

variable {Time : Type} [CommRing Time] [LinearOrder Time]

namespace MockScheduler

variable {scheduler : MockScheduler Time}

/-- The timeout handler would request another timeout: nothing is scheduled or has started
by then, and a timer waits. -/
def Rearms (scheduler : MockScheduler Time) (ms : Time) : Prop :=
  scheduler.isHostCallbackScheduled = false ∧
    scheduler.queues.taskQueue = [] ∧
    (∀ timer ∈ scheduler.queues.timerQueue, scheduler.queues.IsLive timer.id →
      scheduler.currentMockTime + ms < timer.startTime) ∧
    ∃ timer ∈ scheduler.queues.timerQueue, scheduler.queues.IsLive timer.id

/-- Outside of a flush the host is asked for all the work that waits. -/
structure HostAwaits (scheduler : MockScheduler Time) : Prop where
  isPerformingWork : scheduler.isPerformingWork = false
  callback : scheduler.isHostCallbackScheduled = true → scheduler.scheduledCallback = true
  tasks : ∀ task ∈ scheduler.queues.taskQueue, scheduler.scheduledCallback = true
  timers : ∀ timer ∈ scheduler.queues.timerQueue, scheduler.scheduledCallback = true ∨
    scheduler.scheduledTimeout = true ∧ scheduler.timeoutTime ≤ timer.startTime

omit [CommRing Time] in
theorem hostAwaits_of_scheduledCallback (isPerformingWork : scheduler.isPerformingWork = false)
    (scheduled : scheduler.scheduledCallback = true) : HostAwaits scheduler where
  isPerformingWork := isPerformingWork
  callback := fun _ => scheduled
  tasks := fun _ _ => scheduled
  timers := fun _ _ => .inl scheduled

omit [CommRing Time] in
theorem timers_of_first (wellFormed : scheduler.queues.WellFormed)
    (first : ∀ timer, peek scheduler.queues.timerQueue = some timer →
      scheduler.scheduledCallback = true ∨
        scheduler.scheduledTimeout = true ∧ scheduler.timeoutTime ≤ timer.startTime) :
    ∀ timer ∈ scheduler.queues.timerQueue, scheduler.scheduledCallback = true ∨
      scheduler.scheduledTimeout = true ∧ scheduler.timeoutTime ≤ timer.startTime := by
  intro timer member
  cases isFirst : peek scheduler.queues.timerQueue with
  | none =>
    rw [peek_eq_none_iff.mp isFirst] at member
    cases member
  | some earliest =>
    rcases first earliest isFirst with scheduled | ⟨timeout, early⟩
    · exact .inl scheduled
    · exact .inr ⟨timeout, le_trans early (wellFormed.toArranged.first_startTime_le isFirst member)⟩

theorem hostAwaits_awaitTimer {timer : SchedulerTask Time}
    (wellFormed : scheduler.queues.WellFormed) (member : timer ∈ scheduler.queues.timerQueue)
    (isPerformingWork : scheduler.isPerformingWork = false)
    (callback : scheduler.isHostCallbackScheduled = true → scheduler.scheduledCallback = true)
    (tasks : ∀ task ∈ scheduler.queues.taskQueue, scheduler.scheduledCallback = true)
    (others : ∀ other ∈ scheduler.queues.timerQueue, other = timer ∨
      scheduler.scheduledCallback = true ∨
      scheduler.scheduledTimeout = true ∧ scheduler.timeoutTime ≤ other.startTime) :
    HostAwaits (scheduler.awaitTimer timer.id (timer.startTime - scheduler.currentMockTime)) := by
  unfold awaitTimer
  by_cases first : peek scheduler.queues.taskQueue = none ∧
      (peek scheduler.queues.timerQueue).map SchedulerTask.id = some timer.id
  · have requested : ∀ other ∈ scheduler.queues.timerQueue,
        scheduler.currentMockTime + (timer.startTime - scheduler.currentMockTime) ≤
          other.startTime := by
      obtain ⟨earliest, isFirst, sameId⟩ := Option.map_eq_some_iff.mp first.2
      have isTimer : earliest = timer :=
        wellFormed.eq_of_id (mem_tasks.mpr (.inr (mem_of_peek isFirst)))
          (mem_tasks.mpr (.inr member)) sameId
      intro other otherMember
      rw [add_sub_cancel, ← isTimer]
      exact wellFormed.toArranged.first_startTime_le isFirst otherMember
    rw [if_pos first]
    split_ifs
    · exact ⟨isPerformingWork, callback, tasks,
        fun other otherMember => .inr ⟨rfl, requested other otherMember⟩⟩
    · exact ⟨isPerformingWork, callback, tasks,
        fun other otherMember => .inr ⟨rfl, requested other otherMember⟩⟩
  · rw [if_neg first]
    refine ⟨isPerformingWork, callback, tasks, ?_⟩
    cases firstTask : peek scheduler.queues.taskQueue with
    | some task => exact fun _ _ => .inl (tasks task (mem_of_peek firstTask))
    | none =>
      apply timers_of_first wellFormed
      intro earliest isFirst
      rcases others earliest (mem_of_peek isFirst) with rfl | asked
      · exact absurd ⟨firstTask, congrArg _ isFirst⟩ first
      · exact asked

omit [CommRing Time] in
theorem hostAwaits_awaitTask (isPerformingWork : scheduler.isPerformingWork = false)
    (callback : scheduler.isHostCallbackScheduled = true → scheduler.scheduledCallback = true) :
    HostAwaits scheduler.awaitTask := by
  unfold awaitTask
  by_cases asked : scheduler.isHostCallbackScheduled = true
  · have notUnasked : ¬ (scheduler.isHostCallbackScheduled = false ∧
        scheduler.isPerformingWork = false) := by
      rintro ⟨unasked, -⟩
      rw [asked] at unasked
      cases unasked
    rw [if_neg notUnasked]
    exact hostAwaits_of_scheduledCallback isPerformingWork (callback asked)
  · rw [if_pos ⟨Bool.eq_false_of_not_eq_true asked, isPerformingWork⟩]
    exact hostAwaits_of_scheduledCallback isPerformingWork rfl

theorem HostAwaits.scheduleCallback (awaits : HostAwaits scheduler)
    (wellFormed : scheduler.queues.WellFormed) (priorityLevel : PriorityLevel)
    (delay : Option Time) : HostAwaits (scheduler.scheduleCallback priorityLevel delay) := by
  unfold MockScheduler.scheduleCallback
  simp only
  split_ifs
  · let timer := (SchedulerTask.new scheduler.queues.taskIdCounter priorityLevel
      (startTimeOf scheduler.currentMockTime delay)).delayed
    let pushed : MockScheduler Time :=
      { scheduler with queues := scheduler.queues.allocate.pushTimer timer }
    have pushedWellFormed : pushed.queues.WellFormed := wellFormed.pushTimer rfl rfl
    have members : ∀ other, other ∈ pushed.queues.timerQueue ↔
        other = timer ∨ other ∈ scheduler.queues.timerQueue :=
      fun other => wellFormed.toArranged.allocate.mem_pushTimer
    have others : ∀ other ∈ pushed.queues.timerQueue, other = timer ∨
        pushed.scheduledCallback = true ∨
        pushed.scheduledTimeout = true ∧ pushed.timeoutTime ≤ other.startTime := by
      intro other member
      rcases (members other).mp member with isNew | old
      · exact .inl isNew
      · exact .inr (awaits.timers other old)
    have pushedAwaits : HostAwaits
        (pushed.awaitTimer timer.id (timer.startTime - pushed.currentMockTime)) :=
      hostAwaits_awaitTimer pushedWellFormed ((members timer).mpr (.inl rfl))
        awaits.isPerformingWork awaits.callback awaits.tasks others
    exact pushedAwaits
  · exact hostAwaits_awaitTask awaits.isPerformingWork awaits.callback

/-- After the timers have advanced, the host is asked for everything but the first of the
timers that are left. -/
theorem hostAwaits_awaitQueues {currentTime : Time}
    (isPerformingWork : scheduler.isPerformingWork = false)
    (callback : scheduler.isHostCallbackScheduled = true → scheduler.scheduledCallback = true)
    (noTimer : scheduler.isHostCallbackScheduled = false → scheduler.queues.taskQueue = [] →
      scheduler.queues.timerQueue = []) :
    HostAwaits (scheduler.awaitQueues currentTime).cancelHostTimeout := by
  by_cases asked : scheduler.isHostCallbackScheduled = true
  · have same : scheduler.awaitQueues currentTime = scheduler := if_pos asked
    rw [same]
    exact hostAwaits_of_scheduledCallback isPerformingWork (callback asked)
  · cases firstTask : peek scheduler.queues.taskQueue with
    | some task =>
      have started : scheduler.awaitQueues currentTime = scheduler.scheduleFlushWork := by
        unfold awaitQueues
        rw [if_neg asked, firstTask, if_pos (Option.some_ne_none task)]
      rw [started]
      exact hostAwaits_of_scheduledCallback isPerformingWork rfl
    | none =>
      have noTask := peek_eq_none_iff.mp firstTask
      have empty := noTimer (Bool.eq_false_of_not_eq_true asked) noTask
      have same : scheduler.awaitQueues currentTime = scheduler := by
        unfold awaitQueues
        rw [if_neg asked, firstTask, if_neg (not_not.mpr rfl), empty]
        rfl
      rw [same]
      refine ⟨isPerformingWork, callback, ?_, ?_⟩
      · intro task member
        change task ∈ scheduler.queues.taskQueue at member
        rw [noTask] at member
        cases member
      · intro timer member
        change timer ∈ scheduler.queues.timerQueue at member
        rw [empty] at member
        cases member

theorem HostAwaits.advanceTime {ms : Time} (awaits : HostAwaits scheduler)
    (wellFormed : scheduler.queues.WellFormed)
    (keeps : scheduler.FiresTimeout ms → ¬ scheduler.Rearms ms) :
    HostAwaits (scheduler.advanceTime ms) := by
  unfold MockScheduler.advanceTime
  split_ifs with disabled fires
  · exact awaits
  · let advanced := advanceTimers
      { scheduler.passTime ms with isHostTimeoutScheduled := false }
      (scheduler.currentMockTime + ms)
    obtain ⟨advancedWellFormed, advances, wait⟩ :=
      wellFormed.advanceTimers (scheduler.currentMockTime + ms)
    have advancedAwaits :
        HostAwaits (advanced.awaitQueues (scheduler.currentMockTime + ms)).cancelHostTimeout := by
      refine @hostAwaits_awaitQueues Time _ _ advanced _ awaits.isPerformingWork awaits.callback ?_
      intro notAsked noTask
      by_contra someTimer
      obtain ⟨first, isFirst⟩ : ∃ first, peek advanced.queues.timerQueue = some first := by
        rw [← Option.ne_none_iff_exists']
        exact fun none => someTimer (peek_eq_none_iff.mp none)
      have noneStarted : ∀ task, task ∉ advanced.queues.taskQueue := by
        intro task member
        rw [noTask] at member
        cases member
      refine keeps fires ⟨notAsked, ?_, ?_, first, ?_, ?_⟩
      · exact List.eq_nil_iff_forall_not_mem.mpr fun task member =>
          noneStarted task (advances.tasks task member)
      · intro timer member live
        rcases advances.moved timer member live with still | ⟨-, moved⟩
        · exact wait.lt_startTime advancedWellFormed.toArranged still
        · exact absurd moved (noneStarted _)
      · exact advances.timers first (mem_of_peek isFirst)
      · exact advances.isLive.mp (wait first isFirst).1
    exact advancedAwaits
  · exact ⟨awaits.isPerformingWork, awaits.callback, awaits.tasks, awaits.timers⟩

theorem callbacks_advanceTime (wellFormed : scheduler.queues.WellFormed) (ms : Time) :
    (scheduler.advanceTime ms).queues.callbacks = scheduler.queues.callbacks := by
  obtain ⟨-, advances, -⟩ := wellFormed.advanceTimers (scheduler.currentMockTime + ms)
  unfold advanceTime
  split_ifs
  · rfl
  · let advanced := advanceTimers
      { scheduler.passTime ms with isHostTimeoutScheduled := false }
      (scheduler.currentMockTime + ms)
    have sameQueues : (advanced.awaitQueues (scheduler.currentMockTime + ms)).queues =
        advanced.queues :=
      queues_awaitQueues _
    exact (congrArg SchedulerQueues.callbacks sameQueues).trans advances.callbacks
  · rfl

theorem scheduledTimeout_advanceTime {ms : Time} (enabled : scheduler.disableYieldValue = false)
    (fires : scheduler.FiresTimeout ms) : (scheduler.advanceTime ms).scheduledTimeout = false := by
  unfold advanceTime
  rw [enabled, if_neg Bool.false_ne_true, if_pos fires]
  rfl

theorem not_rearms_of_started {ms : Time} {task : SchedulerTask Time}
    (member : task ∈ scheduler.queues.tasks) (live : scheduler.queues.IsLive task.id)
    (started : task.startTime ≤ scheduler.currentMockTime + ms) : ¬ scheduler.Rearms ms := by
  rintro ⟨-, noTask, wait, -⟩
  rcases mem_tasks.mp member with isTask | isTimer
  · rw [noTask] at isTask
    cases isTask
  · exact absurd started (not_le_of_gt (wait task isTimer live))

section

variable (awaits : HostAwaits scheduler) (wellFormed : scheduler.queues.WellFormed)
include awaits wellFormed

theorem HostAwaits.scheduledCallback_advanceTime {ms : Time} {task : SchedulerTask Time}
    (enabled : scheduler.disableYieldValue = false) (member : task ∈ scheduler.queues.tasks)
    (live : scheduler.queues.IsLive task.id)
    (started : task.startTime ≤ scheduler.currentMockTime + ms) :
    (scheduler.advanceTime ms).scheduledCallback = true := by
  by_cases fires : scheduler.FiresTimeout ms
  · have advanced := awaits.advanceTime wellFormed fun _ =>
      not_rearms_of_started member live started
    have stillLive : (scheduler.advanceTime ms).queues.IsLive task.id := by
      unfold IsLive SchedulerQueues.callback
      rw [callbacks_advanceTime wellFormed]
      exact live
    obtain ⟨now, nowMember, -⟩ :=
      (calls_advanceTime wellFormed ms).grows.wellFormed.held task.id stillLive
    rcases mem_tasks.mp nowMember with isTask | isTimer
    · exact advanced.tasks now isTask
    · rcases advanced.timers now isTimer with scheduled | ⟨timeout, -⟩
      · exact scheduled
      · rw [scheduledTimeout_advanceTime enabled fires] at timeout
        cases timeout
  · have passes : scheduler.advanceTime ms = scheduler.passTime ms := by
      unfold MockScheduler.advanceTime
      rw [enabled, if_neg Bool.false_ne_true, if_neg fires]
    rw [passes]
    rcases mem_tasks.mp member with isTask | isTimer
    · exact awaits.tasks task isTask
    · rcases awaits.timers task isTimer with scheduled | ⟨timeout, early⟩
      · exact scheduled
      · exact absurd ⟨timeout, le_trans early started⟩ fires

theorem HostAwaits.perform {call : MockCall Time}
    (keeps : ∀ ms, call = .advanceTime ms → scheduler.FiresTimeout ms → ¬ scheduler.Rearms ms) :
    HostAwaits (call.perform scheduler) := by
  cases call with
  | scheduleCallback priorityLevel delay =>
    exact awaits.scheduleCallback wellFormed priorityLevel delay
  | advanceTime ms => exact awaits.advanceTime wellFormed (keeps ms rfl)
  | log =>
    unfold MockCall.perform log
    split_ifs
    · exact awaits
    · exact ⟨awaits.isPerformingWork, awaits.callback, awaits.tasks, awaits.timers⟩
  | _ => exact ⟨awaits.isPerformingWork, awaits.callback, awaits.tasks, awaits.timers⟩

end

end MockScheduler

namespace MockProcess

variable {process after : MockProcess Time}

/-- Outside of a flush the host is asked for all the work that waits. -/
def Awaits (process : MockProcess Time) : Prop :=
  process.control = .idle → HostAwaits process.scheduler

/-- A step outside of a flush fires no timeout whose handler requests another one, and no
work loop ends after a callback has fired a timeout. -/
def KeepsTimeouts (process : MockProcess Time) : MockAction Time → Prop
  | .call (.advanceTime ms) =>
      process.control = .idle → process.scheduler.FiresTimeout ms →
        ¬ process.scheduler.Rearms ms
  | .workLoop =>
      ∀ frame, process.control = .looping frame → process.scheduler.queues.taskQueue = [] →
        process.scheduler.isHostCallbackScheduled = false
  | _ => True

variable {scheduler : MockScheduler Time} {frame : WorkLoopFrame Time} {start : MockProcess Time}

section

variable (wellFormed : scheduler.queues.WellFormed) (flushing : Flushing scheduler frame.flush)
include wellFormed flushing

theorem awaits_returnFromFlushWork_true : Awaits (scheduler.returnFromFlushWork frame true) := by
  intro isIdle
  rcases returnFromFlushWork_cases wellFormed flushing true with ⟨-, -, again⟩ | ⟨-, leaves⟩
  · rw [again] at isIdle
    cases isIdle
  · refine hostAwaits_of_scheduledCallback leaves.isPerformingWork ?_
    rw [leaves.scheduledCallback, flushing.scheduledCallback]
    rfl

theorem awaits_returnFromFlushWork_false (notAsked : scheduler.isHostCallbackScheduled = false)
    (noTask : scheduler.queues.taskQueue = [])
    (timeout : ∀ timer, peek scheduler.queues.timerQueue = some timer →
      scheduler.scheduledTimeout = true ∧ scheduler.timeoutTime = timer.startTime) :
    Awaits (scheduler.returnFromFlushWork frame false) := by
  intro _
  rcases returnFromFlushWork_cases wellFormed flushing false with ⟨noMore, -⟩ | ⟨-, leaves⟩
  · cases noMore
  · refine ⟨leaves.isPerformingWork, ?_, ?_, ?_⟩
    · rw [leaves.isHostCallbackScheduled, notAsked]
      exact nofun
    · rw [leaves.queues, noTask]
      exact nofun
    · apply timers_of_first (leaves.queues ▸ wellFormed)
      rw [leaves.queues, leaves.scheduledTimeout, leaves.timeoutTime]
      intro timer isFirst
      obtain ⟨isScheduled, atStart⟩ := timeout timer isFirst
      exact .inr ⟨isScheduled, le_of_eq atStart⟩

end

theorem awaits_round (head : AtLoopHead scheduler frame) (wellFormed : scheduler.queues.WellFormed)
    (notAsked : scheduler.queues.taskQueue = [] → scheduler.isHostCallbackScheduled = false)
    (round : Round scheduler frame after) : Awaits after := by
  cases round with
  | @finished ended noTask endsLoop timeout =>
    refine awaits_returnFromFlushWork_false (endsLoop.queues ▸ wellFormed)
      (endsLoop.flushing head.toFlushing) ?_ ?_ ?_
    · rw [endsLoop.isHostCallbackScheduled]
      exact notAsked noTask
    · rw [endsLoop.queues]
      exact noTask
    · rw [endsLoop.queues]
      exact timeout
  | @stopped ended endsLoop notAll stops =>
    exact awaits_returnFromFlushWork_true (endsLoop.queues ▸ wellFormed)
      (endsLoop.flushing head.toFlushing)
  | called isFirst waits => exact nofun
  | dropped isFirst spent => exact nofun

theorem awaits_startFlush (coherent : process.Coherent) (awaits : Awaits process)
    (flush : MockFlush) : Awaits (process.startFlush flush) := by
  rcases startFlush_cases coherent flush with ⟨same, -⟩ | ⟨-, -, -, frame, looping, -⟩
  · rw [same]
    exact awaits
  · intro isIdle
    rw [looping] at isIdle
    cases isIdle

theorem awaits_callbackReturns (running : InCallback scheduler frame)
    (wellFormed : scheduler.queues.WellFormed) (continues : Bool) :
    Awaits (scheduler.callbackReturns frame continues) := by
  obtain ⟨task, member, isCurrent, spent⟩ := running.current
  have finished := (wellFormed.finishTask member spent continues).1
  have advanced := (finished.advanceTimers scheduler.currentMockTime).1
  unfold callbackReturns
  rw [isCurrent]
  simp only
  split_ifs
  · have flushing : Flushing (scheduler.finishTask task continues).requestPaint frame.flush :=
      ⟨running.isFlushing, running.scheduledCallback, running.settings⟩
    exact awaits_returnFromFlushWork_true advanced flushing
  · exact nofun

/-- Every step that keeps the timeouts leaves the host asked for what waits. -/
theorem awaits_step {action : MockAction Time} (coherent : process.Coherent)
    (awaits : Awaits process) (keeps : KeepsTimeouts process action) :
    Awaits (process.step action) := by
  obtain ⟨scheduler, control⟩ := process
  cases action with
  | flush flush => exact awaits_startFlush coherent awaits flush
  | flushAll =>
    unfold step
    split_ifs
    · exact awaits_startFlush coherent awaits _
    · exact awaits
  | call call =>
    cases control with
    | idle =>
      intro _
      refine (awaits rfl).perform coherent.queues ?_
      rintro ms rfl
      exact keeps rfl
    | looping frame => exact nofun
    | inCallback frame => exact nofun
  | workLoop =>
    cases control with
    | idle => exact awaits
    | inCallback frame => exact awaits
    | looping frame =>
      have head : AtLoopHead scheduler frame := coherent.holds
      exact awaits_round head coherent.queues (keeps frame rfl) head.round
  | callbackReturns continues =>
    cases control with
    | idle => exact awaits
    | looping frame => exact awaits
    | inCallback frame => exact awaits_callbackReturns coherent.holds coherent.queues continues
  | callbackThrows =>
    cases control with
    | idle => exact awaits
    | looping frame => exact awaits
    | inCallback frame =>
      intro _
      have running : InCallback scheduler frame := coherent.holds
      have leaves := leaves_callbackThrows running.toFlushing
      have scheduled : (scheduler.callbackThrows frame).scheduler.scheduledCallback = true := by
        rw [leaves.scheduledCallback, running.scheduledCallback]
        rfl
      exact hostAwaits_of_scheduledCallback leaves.isPerformingWork scheduled

theorem Repeated.settled_of_round {flushes : Nat}
    (repeated : Repeated start ⟨scheduler, .looping frame⟩ flushes)
    (later : Repeated start after flushes) (round : Round scheduler frame after) :
    after.control ≠ .idle ∨ StartedSettled start after := by
  have head : AtLoopHead scheduler frame := repeated.coherent.holds
  have wellFormed : scheduler.queues.WellFormed := repeated.coherent.queues
  have follows := (head.coherent_of_round wellFormed round).2.1
  cases round with
  | @finished ended noTask endsLoop timeout =>
    rcases later.proceeds with settled | proceeds
    · exact .inr settled
    · rcases returnFromFlushWork_cases (endsLoop.queues ▸ wellFormed)
        (endsLoop.flushing head.toFlushing) false with ⟨noMore, -⟩ | ⟨isIdle, leaves⟩
      · cases noMore
      · unfold Proceeds at proceeds
        rw [isIdle] at proceeds
        have cleared := leaves.scheduledCallback
        rw [Bool.and_false, proceeds.1] at cleared
        cases cleared
  | @stopped ended endsLoop notAll stops =>
    rcases repeated.proceeds with settled | proceeds
    · exact .inr (settled.follows follows)
    · exact absurd proceeds.1 notAll
  | called isFirst waits => exact .inl nofun
  | dropped isFirst spent => exact .inl nofun

/-- Only a throw ends a flush of everything before the started tasks are settled. -/
theorem Repeated.settled_of_step {flushes : Nat} {action : MockAction Time}
    (repeated : Repeated start process flushes)
    (startWellFormed : start.scheduler.queues.WellFormed) (permitted : Repeats process action)
    (unthrown : action ≠ .callbackThrows) :
    (process.step action).control ≠ .idle ∨ StartedSettled start (process.step action) := by
  have stepped := repeated.step startWellFormed permitted
  obtain ⟨scheduler, control⟩ := process
  cases action with
  | flush flush =>
    obtain ⟨isIdle, rfl⟩ := permitted
    rcases startFlush_cases repeated.coherent .flushAllWithoutAsserting with
      ⟨same, notScheduled⟩ | ⟨-, -, -, frame, looping, -⟩
    · rcases repeated.proceeds with settled | proceeds
      · exact .inr (settled.follows (advances_startFlush repeated.coherent _).follows)
      · unfold Proceeds at proceeds
        rw [isIdle, notScheduled isIdle] at proceeds
        exact absurd proceeds.1 Bool.false_ne_true
    · left
      intro isIdle
      exact nomatch looping.symm.trans isIdle
  | flushAll => exact permitted.elim
  | workLoop =>
    obtain ⟨frame, looping⟩ := permitted
    obtain rfl : control = .looping frame := looping
    have head : AtLoopHead scheduler frame := repeated.coherent.holds
    exact repeated.settled_of_round stepped head.round
  | callbackReturns continues =>
    obtain ⟨frame, inCallback⟩ := permitted
    obtain rfl : control = .inCallback frame := inCallback
    have running : InCallback scheduler frame := repeated.coherent.holds
    rcases repeated.proceeds with settled | proceeds
    · exact .inr (settled.follows (advances_callbackReturns repeated.coherent _).follows)
    · obtain ⟨next, looping, -⟩ := control_callbackReturns running proceeds.1 continues
      left
      intro isIdle
      exact nomatch looping.symm.trans isIdle
  | callbackThrows => exact absurd rfl unthrown
  | call call =>
    have called : ∃ frame, control = .inCallback frame := by
      cases call with
      | advanceTime ms => exact permitted.1
      | _ => exact permitted
    obtain ⟨frame, rfl⟩ := called
    exact .inl nofun

/-- A flush of everything that no callback throws out of settles the started tasks. -/
theorem settled_of_run {actions : List (MockAction Time)} (coherent : start.Coherent)
    (isIdle : start.control = .idle) (scheduled : start.scheduler.scheduledCallback = true)
    (run : ActionRun Repeats step start actions process) (flushed : actions ≠ [])
    (unthrown : .callbackThrows ∉ actions) (ended : process.control = .idle) :
    StartedSettled start process := by
  cases run with
  | start => exact absurd rfl flushed
  | @next earlierActions state action earlier permitted =>
    have repeated := repeated_of_run coherent isIdle scheduled earlier
    have notThrow : action ≠ .callbackThrows := by
      rintro rfl
      exact unthrown (List.mem_append_right _ List.mem_cons_self)
    rcases repeated.settled_of_step coherent.queues permitted notThrow with
      notEnded | settled
    · exact absurd ended notEnded
    · exact settled

/-- What holds of the mock scheduler in every state that keeps the timeouts. -/
structure LosesNoTask (process : MockProcess Time) : Prop where
  /-- For a live timer the host callback is scheduled, or a timeout no later than it. -/
  timers : ∀ timer ∈ process.scheduler.queues.timerQueue,
    process.scheduler.queues.IsLive timer.id →
    process.scheduler.scheduledCallback = true ∨
      process.scheduler.scheduledTimeout = true ∧
        process.scheduler.timeoutTime ≤ timer.startTime
  /-- For a live task of the task queue the host callback is scheduled. -/
  tasks : ∀ task ∈ process.scheduler.queues.taskQueue,
    process.scheduler.queues.IsLive task.id → process.scheduler.scheduledCallback = true
  /-- When the time advances past the start of a live task, its callback is settled by
  flushes of everything: by one that no callback throws out of, and otherwise each of them
  runs a callback until then. -/
  wakes : ∀ ms, ∀ task ∈ process.scheduler.queues.tasks, ∀ token,
    process.control = .idle →
    process.scheduler.disableYieldValue = false →
    process.scheduler.queues.callback task.id = some token →
    task.startTime ≤ process.scheduler.currentMockTime + ms →
    (process.step (.call (.advanceTime ms))).scheduler.scheduledCallback = true ∧
      ∀ actions later,
        ActionRun Repeats step (process.step (.call (.advanceTime ms))) actions later →
        later.control = .idle →
        later.scheduler.queues.callbacks.Settled token ∨
          (actions = [] ∨ .callbackThrows ∈ actions) ∧
            later.scheduler.scheduledCallback = true ∧
            (process.step (.call (.advanceTime ms))).callbacksRun + countFlushes actions ≤
              later.callbacksRun

theorem awaits_new : Awaits (new : MockProcess Time) := by
  intro _
  refine ⟨rfl, nofun, ?_, ?_⟩
  · exact fun _ member => nomatch member
  · exact fun _ member => nomatch member

omit [CommRing Time] in
theorem Coherent.scheduledCallback_of_flush (coherent : process.Coherent)
    (flushing : process.control ≠ .idle) : process.scheduler.scheduledCallback = true := by
  obtain ⟨scheduler, control⟩ := process
  cases control with
  | idle => exact absurd rfl flushing
  | looping frame =>
    have head : AtLoopHead scheduler frame := coherent.holds
    exact head.scheduledCallback
  | inCallback frame =>
    have running : InCallback scheduler frame := coherent.holds
    exact running.scheduledCallback

omit [CommRing Time] in
theorem settled_of_startedSettled {start later : MockProcess Time} {task : SchedulerTask Time}
    {token : Nat} (processWellFormed : process.scheduler.queues.WellFormed)
    (startWellFormed : start.scheduler.queues.WellFormed)
    (follows : Follows process.scheduler.queues start.scheduler.queues)
    (laterFollows : Follows start.scheduler.queues later.scheduler.queues)
    (member : task ∈ process.scheduler.queues.tasks)
    (waits : process.scheduler.queues.callback task.id = some token)
    (started : task.startTime ≤ start.scheduler.currentMockTime)
    (settled : StartedSettled start later) : later.scheduler.queues.callbacks.Settled token := by
  by_cases already : start.scheduler.queues.callbacks.Settled token
  · exact laterFollows.settled token already
  · obtain ⟨before, beforeMember, now, nowMember, beforeId, nowId, sameStart⟩ :=
      follows.startTime_eq processWellFormed startWellFormed waits already
    obtain rfl := processWellFormed.eq_of_id beforeMember member beforeId
    have still : start.scheduler.queues.callback now.id = some token := by
      rcases follows.waits before.id token waits with still | settledNow
      · rw [nowId]
        exact still
      · exact absurd settledNow already
    exact settled now nowMember token still (sameStart ▸ started)

/-- The first timer is cancelled, and its timeout requests one for the second timer. -/
def cancelledTimer : List (MockAction Int) :=
  [.call (.scheduleCallback .normal (some 100)),
    .call (.scheduleCallback .normal (some 200)),
    .call (.cancelCallback 1),
    .call (.advanceTime 100)]

/-- A timeout that the end of a flush has requested fires in a callback of the next one. -/
def firesInCallback : List (MockAction Int) :=
  [.call (.scheduleCallback .normal none),
    .call (.scheduleCallback .normal (some 100)),
    .flush .flushAllWithoutAsserting,
    .workLoop,
    .callbackReturns false,
    .workLoop,
    .call (.scheduleCallback .normal none),
    .flush .flushAllWithoutAsserting,
    .workLoop,
    .call (.advanceTime 100),
    .callbackReturns false,
    .workLoop,
    .callbackReturns false,
    .workLoop,
    .call (.scheduleCallback .normal none)]

end MockProcess

end FastReact
