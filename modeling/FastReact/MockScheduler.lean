import FastReact.SchedulerQueues

namespace FastReact

/-!
# The mock scheduler

Callbacks are unknown code.  A flush runs until it comes to a callback; then that callback
may call the scheduler as any other code may, until it returns, with or without a
continuation, or throws.  The work loop takes one step for each of its rounds, so that
every order of calls and every endless program is a run.
-/

open ArrayHeap

/-- The module variables.  Only `flushWork` is ever the scheduled callback, and only
`handleTimeout` the scheduled timeout; of the logged values their number is kept. -/
structure MockScheduler (Time : Type) where
  queues : SchedulerQueues Time
  currentTask : Option (SchedulerTask Time)
  currentPriorityLevel : PriorityLevel
  isPerformingWork : Bool
  isHostCallbackScheduled : Bool
  isHostTimeoutScheduled : Bool
  currentMockTime : Time
  scheduledCallback : Bool
  scheduledTimeout : Bool
  timeoutTime : Time
  yieldedValues : Option Nat
  expectedNumberOfYields : Int
  didStop : Bool
  isFlushing : Bool
  needsPaint : Bool
  shouldYieldForPaint : Bool
  disableYieldValue : Bool

inductive MockFlush where
  | flushAllWithoutAsserting
  | flushExpired
  | flushNumberOfYields (count : Int)
  | flushUntilNextPaint
deriving DecidableEq

/-- The variables of a call of `flushWork` and of the work loop in it. -/
structure WorkLoopFrame (Time : Type) where
  flush : MockFlush
  hasTimeRemaining : Bool
  currentTime : Time
  previousPriorityLevel : PriorityLevel

/-- Where the scheduler is: outside of a flush, at the head of the work loop or in the
callback of the current task. -/
inductive MockControl (Time : Type) where
  | idle
  | looping (frame : WorkLoopFrame Time)
  | inCallback (frame : WorkLoopFrame Time)

structure MockProcess (Time : Type) where
  scheduler : MockScheduler Time
  control : MockControl Time

variable {Time : Type} [CommRing Time] [LinearOrder Time]

namespace MockScheduler

def new : MockScheduler Time where
  queues := .new
  currentTask := none
  currentPriorityLevel := .normal
  isPerformingWork := false
  isHostCallbackScheduled := false
  isHostTimeoutScheduled := false
  currentMockTime := 0
  scheduledCallback := false
  scheduledTimeout := false
  timeoutTime := -1
  yieldedValues := none
  expectedNumberOfYields := -1
  didStop := false
  isFlushing := false
  needsPaint := false
  shouldYieldForPaint := false
  disableYieldValue := false

variable (scheduler : MockScheduler Time)

def advanceTimers (currentTime : Time) : MockScheduler Time :=
  { scheduler with queues := scheduler.queues.advanceTimers currentTime }

def requestHostCallback : MockScheduler Time :=
  { scheduler with scheduledCallback := true }

def requestHostTimeout (ms : Time) : MockScheduler Time :=
  { scheduler with
    scheduledTimeout := true
    timeoutTime := scheduler.currentMockTime + ms }

def cancelHostTimeout : MockScheduler Time :=
  { scheduler with
    scheduledTimeout := false
    timeoutTime := -1 }

/-- Whether the host is to be yielded to; an answer of yes also sets `didStop`. -/
def shouldYieldToHost : Bool :=
  (scheduler.expectedNumberOfYields = 0 && scheduler.yieldedValues = none) ||
    (scheduler.expectedNumberOfYields ≠ -1 &&
      scheduler.yieldedValues.any fun values => scheduler.expectedNumberOfYields ≤ values) ||
    (scheduler.shouldYieldForPaint && scheduler.needsPaint)

/-- Ask for the callback of a flush where that has not been done. -/
def scheduleFlushWork : MockScheduler Time :=
  requestHostCallback { scheduler with isHostCallbackScheduled := true }

/-- Ask for a flush of what has started, or for a timeout for the first timer. -/
def awaitQueues (currentTime : Time) : MockScheduler Time :=
  if scheduler.isHostCallbackScheduled then
    scheduler
  else if peek scheduler.queues.taskQueue ≠ none then
    scheduler.scheduleFlushWork
  else
    match peek scheduler.queues.timerQueue with
    | none => scheduler
    | some firstTimer => scheduler.requestHostTimeout (firstTimer.startTime - currentTime)

def handleTimeout (currentTime : Time) : MockScheduler Time :=
  (advanceTimers { scheduler with isHostTimeoutScheduled := false } currentTime)
    |>.awaitQueues currentTime

/-- Ask for a timeout for a new timer that comes first, unless a task waits. -/
def awaitTimer (id : Nat) (ms : Time) : MockScheduler Time :=
  if peek scheduler.queues.taskQueue = none ∧
      (peek scheduler.queues.timerQueue).map SchedulerTask.id = some id then
    if scheduler.isHostTimeoutScheduled then
      scheduler.cancelHostTimeout.requestHostTimeout ms
    else
      requestHostTimeout { scheduler with isHostTimeoutScheduled := true } ms
  else
    scheduler

/-- Ask for a flush for a new task, unless that has been done or a flush is at work. -/
def awaitTask : MockScheduler Time :=
  if scheduler.isHostCallbackScheduled = false ∧ scheduler.isPerformingWork = false then
    scheduler.scheduleFlushWork
  else
    scheduler

def scheduleCallback (priorityLevel : PriorityLevel) (delay : Option Time) : MockScheduler Time :=
  let currentTime := scheduler.currentMockTime
  let startTime := startTimeOf currentTime delay
  let newTask := SchedulerTask.new scheduler.queues.taskIdCounter priorityLevel startTime
  if currentTime < startTime then
    awaitTimer { scheduler with queues := scheduler.queues.allocate.pushTimer newTask.delayed }
      newTask.id (startTime - currentTime)
  else
    awaitTask { scheduler with queues := scheduler.queues.allocate.pushTask newTask.started }

def cancelCallback (id : Nat) : MockScheduler Time :=
  { scheduler with queues := scheduler.queues.cancelCallback id }

/-- The timeout that is due when the time has advanced. -/
def FiresTimeout (ms : Time) : Prop :=
  scheduler.scheduledTimeout = true ∧ scheduler.timeoutTime ≤ scheduler.currentMockTime + ms

instance (ms : Time) : Decidable (scheduler.FiresTimeout ms) :=
  inferInstanceAs (Decidable (_ ∧ _))

def passTime (ms : Time) : MockScheduler Time :=
  { scheduler with currentMockTime := scheduler.currentMockTime + ms }

/-- A timeout that is due is cleared after its handler, whatever the handler has requested.
Here and in `log` a console whose log is disabled counts as `disableYieldValue`. -/
def advanceTime (ms : Time) : MockScheduler Time :=
  if scheduler.disableYieldValue then
    scheduler
  else if scheduler.FiresTimeout ms then
    ((scheduler.passTime ms).handleTimeout (scheduler.currentMockTime + ms)).cancelHostTimeout
  else
    scheduler.passTime ms

def log : MockScheduler Time :=
  if scheduler.disableYieldValue then
    scheduler
  else
    { scheduler with yieldedValues := some (scheduler.yieldedValues.getD 0 + 1) }

def requestPaint : MockScheduler Time :=
  { scheduler with needsPaint := true }

end MockScheduler

inductive MockCall (Time : Type) where
  | scheduleCallback (priorityLevel : PriorityLevel) (delay : Option Time)
  | cancelCallback (task : Nat)
  | advanceTime (ms : Time)
  | log
  | clearLog
  | requestPaint
  | shouldYield
  | setDisableYieldValue (newValue : Bool)

def MockCall.perform (scheduler : MockScheduler Time) : MockCall Time → MockScheduler Time
  | .scheduleCallback priorityLevel delay => scheduler.scheduleCallback priorityLevel delay
  | .cancelCallback task => scheduler.cancelCallback task
  | .advanceTime ms => scheduler.advanceTime ms
  | .log => scheduler.log
  | .clearLog => { scheduler with yieldedValues := none }
  | .requestPaint => scheduler.requestPaint
  | .shouldYield => { scheduler with didStop := scheduler.didStop || scheduler.shouldYieldToHost }
  | .setDisableYieldValue newValue => { scheduler with disableYieldValue := newValue }

namespace MockScheduler

variable (scheduler : MockScheduler Time) (frame : WorkLoopFrame Time)

/-- `flushWork` up to the head of its work loop. -/
def enterFlushWork (flush : MockFlush) : MockProcess Time :=
  let started : MockScheduler Time := { scheduler with isHostCallbackScheduled := false }
  let cleared : MockScheduler Time :=
    if started.isHostTimeoutScheduled then
      cancelHostTimeout { started with isHostTimeoutScheduled := false }
    else
      started
  let advanced :=
    advanceTimers { cleared with isPerformingWork := true } scheduler.currentMockTime
  { scheduler := { advanced with currentTask := peek advanced.queues.taskQueue }
    control := .looping {
      flush := flush
      hasTimeRemaining := flush ≠ .flushExpired
      currentTime := scheduler.currentMockTime
      previousPriorityLevel := scheduler.currentPriorityLevel } }

/-- What `flushWork` does in any case when it is left. -/
def leaveFlushWork : MockScheduler Time :=
  { scheduler with
    currentTask := none
    currentPriorityLevel := frame.previousPriorityLevel
    isPerformingWork := false }

/-- What a flush does in any case when it is left. -/
def leaveFlush : MockFlush → MockScheduler Time
  | .flushAllWithoutAsserting => { scheduler with isFlushing := false }
  | .flushExpired => { scheduler with isFlushing := false }
  | .flushNumberOfYields _ =>
      { scheduler with
        expectedNumberOfYields := -1
        didStop := false
        isFlushing := false }
  | .flushUntilNextPaint =>
      { scheduler with
        shouldYieldForPaint := false
        didStop := false
        isFlushing := false }

/-- Whether a flush calls `flushWork` again. -/
def repeatsFlushWork (hasMoreWork : Bool) : MockFlush → Bool
  | .flushAllWithoutAsserting => hasMoreWork
  | .flushExpired => false
  | .flushNumberOfYields _ => hasMoreWork && !scheduler.didStop
  | .flushUntilNextPaint => hasMoreWork && !scheduler.didStop

/-- `flushWork` returns to the flush that called it. -/
def returnFromFlushWork (hasMoreWork : Bool) : MockProcess Time :=
  let left := scheduler.leaveFlushWork frame
  if left.repeatsFlushWork hasMoreWork frame.flush then
    left.enterFlushWork frame.flush
  else
    let finished : MockScheduler Time :=
      { left with scheduledCallback := left.scheduledCallback && hasMoreWork }
    { scheduler := finished.leaveFlush frame.flush
      control := .idle }

/-- A callback that throws ends the flush. -/
def callbackThrows : MockProcess Time where
  scheduler := (scheduler.leaveFlushWork frame).leaveFlush frame.flush
  control := .idle

/-- The next round of the work loop starts with the first task. -/
def nextRound : MockProcess Time where
  scheduler := { scheduler with currentTask := peek scheduler.queues.taskQueue }
  control := .looping frame

/-- Run the callback of the current task, or drop a task that has none. -/
def runTask (task : SchedulerTask Time) : MockProcess Time :=
  if scheduler.queues.callback task.id ≠ none then
    { scheduler := { scheduler with
        queues := scheduler.queues.takeCallback task.id
        currentPriorityLevel := task.priorityLevel }
      control := .inCallback frame }
  else
    nextRound { scheduler with queues := scheduler.queues.popTask } frame

/-- A round of the work loop up to the callback, or the end of the loop. -/
def workLoopRound : MockProcess Time :=
  match scheduler.currentTask with
  | none =>
      match peek scheduler.queues.timerQueue with
      | none => scheduler.returnFromFlushWork frame false
      | some firstTimer =>
          (scheduler.requestHostTimeout (firstTimer.startTime - frame.currentTime))
            |>.returnFromFlushWork frame false
  | some task =>
      if frame.currentTime < task.expirationTime ∧ frame.hasTimeRemaining = false then
        scheduler.returnFromFlushWork frame true
      else if frame.currentTime < task.expirationTime ∧ scheduler.shouldYieldToHost then
        returnFromFlushWork { scheduler with didStop := true } frame true
      else
        scheduler.runTask frame task

/-- The queues when a callback has returned and the timers have advanced. -/
def finishTask (task : SchedulerTask Time) (continues : Bool) : MockScheduler Time :=
  { scheduler with
    queues := (scheduler.queues.finishTask task continues).advanceTimers
      scheduler.currentMockTime }

/-- The rest of a round, when the callback has returned.  A task is current as long as its
callback runs. -/
def callbackReturns (continues : Bool) : MockProcess Time :=
  let frame := { frame with currentTime := scheduler.currentMockTime }
  match scheduler.currentTask with
  | none => scheduler.callbackThrows frame
  | some task =>
      let finished := scheduler.finishTask task continues
      if continues && finished.shouldYieldForPaint then
        finished.requestPaint.returnFromFlushWork frame true
      else
        finished.nextRound frame

/-- What a flush sets before it calls `flushWork`. -/
def prepareFlush : MockFlush → MockScheduler Time
  | .flushAllWithoutAsserting => { scheduler with isFlushing := true }
  | .flushExpired => { scheduler with isFlushing := true }
  | .flushNumberOfYields count =>
      { scheduler with
        expectedNumberOfYields := count
        isFlushing := true }
  | .flushUntilNextPaint =>
      { scheduler with
        shouldYieldForPaint := true
        needsPaint := false
        isFlushing := true }

end MockScheduler

/-- What may happen next: a call, a round of the work loop or the end of a callback. -/
inductive MockAction (Time : Type) where
  | call (call : MockCall Time)
  | flush (flush : MockFlush)
  | flushAll
  | workLoop
  | callbackReturns (continues : Bool)
  | callbackThrows

namespace MockProcess

def new : MockProcess Time where
  scheduler := .new
  control := .idle

/-- A flush in a flush throws, and a flush without a scheduled callback does nothing. -/
def startFlush (process : MockProcess Time) (flush : MockFlush) : MockProcess Time :=
  if process.scheduler.isFlushing then
    process
  else if process.scheduler.scheduledCallback then
    (process.scheduler.prepareFlush flush).enterFlushWork flush
  else
    process

def step (process : MockProcess Time) : MockAction Time → MockProcess Time
  | .call call =>
      match process.control with
      | .looping _ => process
      | _ => { process with scheduler := call.perform process.scheduler }
  | .flush flush => process.startFlush flush
  | .flushAll =>
      if process.scheduler.yieldedValues = none then
        process.startFlush .flushAllWithoutAsserting
      else
        process
  | .workLoop =>
      match process.control with
      | .looping frame => process.scheduler.workLoopRound frame
      | _ => process
  | .callbackReturns continues =>
      match process.control with
      | .inCallback frame => process.scheduler.callbackReturns frame continues
      | _ => process
  | .callbackThrows =>
      match process.control with
      | .inCallback frame => process.scheduler.callbackThrows frame
      | _ => process

end MockProcess

end FastReact
