import FastReact.SchedulerQueues

namespace FastReact

open ArrayHeap

/-!
# The native scheduler without a native runtime

The scheduler posts `performWorkUntilDeadline` to its host and asks the host for timeouts.
The host calls what is outstanding in any order.  While a callback runs, it may call the
scheduler, and the time goes on; the scheduler's own code takes no time.
-/

structure HostTimeout (Time : Type) where
  id : Nat
  due : Time
deriving DecidableEq

/-- What the host knows: the time, how many posted calls are outstanding, and the timeouts
that have neither fired nor been cleared. -/
structure SchedulerHost (Time : Type) where
  now : Time
  posted : Nat
  timeouts : List (HostTimeout Time)
  nextTimeoutID : Nat

namespace SchedulerHost

variable {Time : Type} (host : SchedulerHost Time)

def post : SchedulerHost Time :=
  { host with posted := host.posted + 1 }

def takePosted : SchedulerHost Time :=
  { host with posted := host.posted - 1 }

def setTimeout [Add Time] (ms : Time) : SchedulerHost Time :=
  { host with
    timeouts := ⟨host.nextTimeoutID, host.now + ms⟩ :: host.timeouts
    nextTimeoutID := host.nextTimeoutID + 1 }

/-- A timeout that has fired or was cleared is no longer outstanding. -/
def dropTimeout (id : Nat) : SchedulerHost Time :=
  { host with timeouts := host.timeouts.filter fun timeout => timeout.id ≠ id }

end SchedulerHost

/-- The module variables and the host; a `taskTimeoutID` of `-1` names no timeout. -/
structure NativeScheduler (Time : Type) where
  queues : SchedulerQueues Time
  currentTask : Option (SchedulerTask Time)
  currentPriorityLevel : PriorityLevel
  isPerformingWork : Bool
  isHostCallbackScheduled : Bool
  isHostTimeoutScheduled : Bool
  needsPaint : Bool
  isMessageLoopRunning : Bool
  taskTimeoutID : Option Nat
  startTime : Time
  host : SchedulerHost Time

/-- The variables of a call of `performWorkUntilDeadline`. -/
structure PerformWorkFrame (Time : Type) where
  currentTime : Time
  previousPriorityLevel : PriorityLevel

/-- Where the scheduler is: outside of `performWorkUntilDeadline`, at the head of its loop
or in the callback of the current task. -/
inductive NativeControl (Time : Type) where
  | outside
  | looping (frame : PerformWorkFrame Time)
  | inCallback (frame : PerformWorkFrame Time)

structure NativeProcess (Time : Type) where
  scheduler : NativeScheduler Time
  control : NativeControl Time

inductive NativeCall (Time : Type) where
  | scheduleCallback (priorityLevel : PriorityLevel) (delay : Option Time)
  | cancelCallback (task : Nat)
  | requestPaint

variable {Time : Type} [CommRing Time] [LinearOrder Time]

namespace NativeScheduler

/-- The scheduler of a module that was just loaded, at some time. -/
def new (now : Time) : NativeScheduler Time where
  queues := .new
  currentTask := none
  currentPriorityLevel := .normal
  isPerformingWork := false
  isHostCallbackScheduled := false
  isHostTimeoutScheduled := false
  needsPaint := false
  isMessageLoopRunning := false
  taskTimeoutID := none
  startTime := -1
  host := {
    now := now
    posted := 0
    timeouts := []
    nextTimeoutID := 0 }

def frameInterval : Time := 5

variable (scheduler : NativeScheduler Time)

def getCurrentTime : Time :=
  scheduler.host.now

def advanceTimers (currentTime : Time) : NativeScheduler Time :=
  { scheduler with queues := scheduler.queues.advanceTimers currentTime }

def schedulePerformWorkUntilDeadline : NativeScheduler Time :=
  { scheduler with host := scheduler.host.post }

def requestHostTimeout (ms : Time) : NativeScheduler Time :=
  { scheduler with
    taskTimeoutID := some scheduler.host.nextTimeoutID
    host := scheduler.host.setTimeout ms }

def clearTaskTimeout : NativeScheduler Time :=
  match scheduler.taskTimeoutID with
  | none => scheduler
  | some id =>
      { scheduler with
        taskTimeoutID := none
        host := scheduler.host.dropTimeout id }

def startMessageLoop : NativeScheduler Time :=
  if scheduler.isMessageLoopRunning then
    scheduler
  else
    schedulePerformWorkUntilDeadline { scheduler with isMessageLoopRunning := true }

def requestHostCallback : NativeScheduler Time :=
  startMessageLoop { scheduler with isHostCallbackScheduled := true }

/-- Ask for work on what has started, or for a timeout for the first timer. -/
def awaitQueues (currentTime : Time) : NativeScheduler Time :=
  if scheduler.isHostCallbackScheduled then
    scheduler
  else if peek scheduler.queues.taskQueue ≠ none then
    scheduler.requestHostCallback
  else
    match peek scheduler.queues.timerQueue with
    | none => scheduler
    | some firstTimer => scheduler.requestHostTimeout (firstTimer.startTime - currentTime)

def handleTimeout (currentTime : Time) : NativeScheduler Time :=
  (advanceTimers { scheduler with isHostTimeoutScheduled := false } currentTime)
    |>.awaitQueues currentTime

/-- Ask for a timeout for a new timer that comes first, unless a task waits. -/
def awaitTimer (id : Nat) (ms : Time) : NativeScheduler Time :=
  if peek scheduler.queues.taskQueue = none ∧
      (peek scheduler.queues.timerQueue).map SchedulerTask.id = some id then
    if scheduler.isHostTimeoutScheduled then
      scheduler.clearTaskTimeout.requestHostTimeout ms
    else
      requestHostTimeout { scheduler with isHostTimeoutScheduled := true } ms
  else
    scheduler

/-- Ask for work on a new task, unless that has been done or work is being performed. -/
def awaitTask : NativeScheduler Time :=
  if scheduler.isHostCallbackScheduled = false ∧ scheduler.isPerformingWork = false then
    scheduler.requestHostCallback
  else
    scheduler

def scheduleCallback (priorityLevel : PriorityLevel) (delay : Option Time) : NativeScheduler Time :=
  let currentTime := scheduler.getCurrentTime
  let startTime := startTimeOf currentTime delay
  let newTask := SchedulerTask.new scheduler.queues.taskIdCounter priorityLevel startTime
  if currentTime < startTime then
    awaitTimer { scheduler with queues := scheduler.queues.allocate.pushTimer newTask.delayed }
      newTask.id (startTime - currentTime)
  else
    awaitTask { scheduler with queues := scheduler.queues.allocate.pushTask newTask.started }

def cancelCallback (id : Nat) : NativeScheduler Time :=
  { scheduler with queues := scheduler.queues.cancelCallback id }

def requestPaint : NativeScheduler Time :=
  { scheduler with needsPaint := true }

end NativeScheduler

def NativeCall.perform (scheduler : NativeScheduler Time) : NativeCall Time → NativeScheduler Time
  | .scheduleCallback priorityLevel delay => scheduler.scheduleCallback priorityLevel delay
  | .cancelCallback task => scheduler.cancelCallback task
  | .requestPaint => scheduler.requestPaint

namespace NativeScheduler

variable (scheduler : NativeScheduler Time) (frame : PerformWorkFrame Time)

def shouldYieldToHost : Bool :=
  scheduler.needsPaint || !(scheduler.getCurrentTime - scheduler.startTime < frameInterval : Bool)

/-- A timeout that is tracked is cleared before work is performed. -/
def clearTrackedTimeout : NativeScheduler Time :=
  if scheduler.isHostTimeoutScheduled then
    clearTaskTimeout { scheduler with isHostTimeoutScheduled := false }
  else
    scheduler

/-- The work up to the head of the loop. -/
def enterWork : NativeProcess Time :=
  let currentTime := scheduler.getCurrentTime
  let cleared := clearTrackedTimeout {
    scheduler with
    startTime := currentTime
    isHostCallbackScheduled := false }
  let advanced := advanceTimers { cleared with isPerformingWork := true } currentTime
  { scheduler := { advanced with currentTask := peek advanced.queues.taskQueue }
    control := .looping {
      currentTime := currentTime
      previousPriorityLevel := scheduler.currentPriorityLevel } }

/-- A call that the host has taken from the posted ones. -/
def performWorkUntilDeadline : NativeProcess Time :=
  let called := { scheduler with needsPaint := false }
  if called.isMessageLoopRunning then
    called.enterWork
  else
    { scheduler := called
      control := .outside }

/-- What is done in any case when the work is left: it is posted again, or the message loop
stops. -/
def leaveWork (hasMoreWork : Bool) : NativeProcess Time :=
  let left : NativeScheduler Time :=
    { scheduler with
      currentTask := none
      currentPriorityLevel := frame.previousPriorityLevel
      isPerformingWork := false }
  { scheduler :=
      if hasMoreWork then
        left.schedulePerformWorkUntilDeadline
      else
        { left with isMessageLoopRunning := false }
    control := .outside }

/-- The next round of the loop starts with the first task. -/
def nextRound : NativeProcess Time where
  scheduler := { scheduler with currentTask := peek scheduler.queues.taskQueue }
  control := .looping frame

/-- Run the callback of the current task, or drop a task that has none. -/
def runTask (task : SchedulerTask Time) : NativeProcess Time :=
  if scheduler.queues.callback task.id ≠ none then
    { scheduler := { scheduler with
        queues := scheduler.queues.takeCallback task.id
        currentPriorityLevel := task.priorityLevel }
      control := .inCallback frame }
  else
    nextRound { scheduler with queues := scheduler.queues.popTask } frame

/-- A round of the loop up to the callback, or the end of the loop. -/
def workLoopRound : NativeProcess Time :=
  match scheduler.currentTask with
  | none =>
      match peek scheduler.queues.timerQueue with
      | none => scheduler.leaveWork frame false
      | some firstTimer =>
          (scheduler.requestHostTimeout (firstTimer.startTime - frame.currentTime))
            |>.leaveWork frame false
  | some task =>
      if frame.currentTime < task.expirationTime ∧ scheduler.shouldYieldToHost then
        scheduler.leaveWork frame true
      else
        scheduler.runTask frame task

/-- The queues when a callback has returned and the timers have advanced. -/
def finishTask (task : SchedulerTask Time) (continues : Bool) : NativeScheduler Time :=
  { scheduler with
    queues := (scheduler.queues.finishTask task continues).advanceTimers
      scheduler.getCurrentTime }

/-- The rest of a round, when the callback has returned.  A task is current as long as its
callback runs. -/
def callbackReturns (continues : Bool) : NativeProcess Time :=
  let frame := { frame with currentTime := scheduler.getCurrentTime }
  match scheduler.currentTask with
  | none => scheduler.leaveWork frame true
  | some task =>
      let finished := scheduler.finishTask task continues
      if continues then
        finished.leaveWork frame true
      else
        finished.nextRound frame

/-- A callback that throws leaves the work. -/
def callbackThrows : NativeProcess Time :=
  scheduler.leaveWork frame true

end NativeScheduler

/-- What may happen next: a call, a host event, a round of the loop, the end of a callback
or the passing of time. -/
inductive NativeAction (Time : Type) where
  | call (call : NativeCall Time)
  | passTime (later : Time)
  | fireTimeout (id : Nat)
  | performWorkUntilDeadline
  | workLoop
  | callbackReturns (continues : Bool)
  | callbackThrows

namespace NativeProcess

def new (now : Time) : NativeProcess Time where
  scheduler := .new now
  control := .outside

def passTime (process : NativeProcess Time) (later : Time) : NativeProcess Time :=
  if process.scheduler.host.now ≤ later then
    { process with scheduler := { process.scheduler with
        host := { process.scheduler.host with now := later } } }
  else
    process

/-- The host calls the handler of a timeout that is outstanding. -/
def fireTimeout (process : NativeProcess Time) (id : Nat) : NativeProcess Time :=
  if ∃ timeout ∈ process.scheduler.host.timeouts, timeout.id = id then
    let fired := { process.scheduler with host := process.scheduler.host.dropTimeout id }
    { process with scheduler := fired.handleTimeout fired.getCurrentTime }
  else
    process

def step (process : NativeProcess Time) (action : NativeAction Time) : NativeProcess Time :=
  match process.control, action with
  | .outside, .call call => { process with scheduler := call.perform process.scheduler }
  | .outside, .passTime later => process.passTime later
  | .outside, .fireTimeout id => process.fireTimeout id
  | .outside, .performWorkUntilDeadline =>
      if process.scheduler.host.posted = 0 then
        process
      else
        NativeScheduler.performWorkUntilDeadline
          { process.scheduler with host := process.scheduler.host.takePosted }
  | .looping frame, .workLoop => process.scheduler.workLoopRound frame
  | .inCallback _, .call call => { process with scheduler := call.perform process.scheduler }
  | .inCallback _, .passTime later => process.passTime later
  | .inCallback frame, .callbackReturns continues =>
      process.scheduler.callbackReturns frame continues
  | .inCallback frame, .callbackThrows => process.scheduler.callbackThrows frame
  | _, _ => process

end NativeProcess

end FastReact
