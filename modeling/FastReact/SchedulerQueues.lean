import Mathlib.Algebra.Order.Ring.Int
import Mathlib.Data.Prod.Lex
import FastReact.ArrayHeap
import FastReact.TokenLedger

namespace FastReact

/-!
# The queues of a scheduler

The mock scheduler and the native one keep the same two heaps.  The task queue holds the
started tasks in the order of their expiration, the timer queue the delayed ones in the
order of their start.  Numbers are those of any ordered ring.
-/

inductive PriorityLevel where
  | immediate
  | userBlocking
  | normal
  | low
  | idle
deriving DecidableEq

/-- A task without its callback, which is the only field that changes while the task is in
a queue. -/
structure SchedulerTask (Time : Type) where
  id : Nat
  priorityLevel : PriorityLevel
  startTime : Time
  expirationTime : Time
  sortIndex : Time
deriving DecidableEq

/-- The queues and the callback fields of the tasks.  The functions are numbered as they
are handed to the scheduler, and those that ran or were cancelled are listed. -/
structure SchedulerQueues (Time : Type) where
  taskQueue : List (SchedulerTask Time)
  timerQueue : List (SchedulerTask Time)
  taskIdCounter : Nat
  callbacks : TokenLedger

variable {Time : Type}

/-- The comparison of tasks looks at the sort index first and then at the identity. -/
def SchedulerTask.key (task : SchedulerTask Time) : Time ×ₗ Nat :=
  toLex (task.sortIndex, task.id)

/-- A timer that has started is sorted by its expiration. -/
def SchedulerTask.started (timer : SchedulerTask Time) : SchedulerTask Time :=
  { timer with sortIndex := timer.expirationTime }

/-- A delayed task is sorted by its start. -/
def SchedulerTask.delayed (task : SchedulerTask Time) : SchedulerTask Time :=
  { task with sortIndex := task.startTime }

namespace SchedulerQueues

def new : SchedulerQueues Time where
  taskQueue := []
  timerQueue := []
  taskIdCounter := 1
  callbacks := .empty

def callback (queues : SchedulerQueues Time) (id : Nat) : Option Nat :=
  queues.callbacks.slot id

/-- Hand a function to the scheduler, as the callback of a task. -/
def setCallback (queues : SchedulerQueues Time) (id : Nat) : SchedulerQueues Time :=
  { queues with callbacks := queues.callbacks.put id }

/-- Clear the callback of a task that is cancelled. -/
def cancelCallback (queues : SchedulerQueues Time) (id : Nat) : SchedulerQueues Time :=
  { queues with callbacks := queues.callbacks.revoke id }

/-- Clear the callback of a task that is about to run. -/
def takeCallback (queues : SchedulerQueues Time) (id : Nat) : SchedulerQueues Time :=
  { queues with callbacks := queues.callbacks.use id }

/-- Take the identity of a new task, whose callback is a function. -/
def allocate (queues : SchedulerQueues Time) : SchedulerQueues Time :=
  { queues with
    taskIdCounter := queues.taskIdCounter + 1
    callbacks := queues.callbacks.put queues.taskIdCounter }

section Heaps

variable [LinearOrder Time] (queues : SchedulerQueues Time)

def pushTask (task : SchedulerTask Time) : SchedulerQueues Time :=
  { queues with taskQueue := ArrayHeap.push SchedulerTask.key queues.taskQueue task }

def pushTimer (timer : SchedulerTask Time) : SchedulerQueues Time :=
  { queues with timerQueue := ArrayHeap.push SchedulerTask.key queues.timerQueue timer }

def popTask : SchedulerQueues Time :=
  { queues with taskQueue := ArrayHeap.pop SchedulerTask.key queues.taskQueue }

def popTimer : SchedulerQueues Time :=
  { queues with timerQueue := ArrayHeap.pop SchedulerTask.key queues.timerQueue }

/-- A round of `advanceTimers`, unless it has come to an end. -/
def advanceRound (currentTime : Time) : Option (SchedulerQueues Time) :=
  match ArrayHeap.peek queues.timerQueue with
  | none => none
  | some timer =>
      if queues.callback timer.id = none then
        some queues.popTimer
      else if timer.startTime ≤ currentTime then
        some (queues.popTimer.pushTask timer.started)
      else
        none

def advanceRounds (currentTime : Time) : Nat → SchedulerQueues Time → SchedulerQueues Time
  | 0, queues => queues
  | rounds + 1, queues =>
      match queues.advanceRound currentTime with
      | none => queues
      | some next => advanceRounds currentTime rounds next

/-- Move the timers that have started to the task queue; every round removes one. -/
def advanceTimers (currentTime : Time) : SchedulerQueues Time :=
  advanceRounds currentTime queues.timerQueue.length queues

/-- What becomes of a task whose callback has returned: it gets a continuation, or it is
dropped where it still comes first. -/
def finishTask (task : SchedulerTask Time) (continues : Bool) : SchedulerQueues Time :=
  if continues then
    queues.setCallback task.id
  else if (ArrayHeap.peek queues.taskQueue).map SchedulerTask.id = some task.id then
    queues.popTask
  else
    queues

end Heaps

end SchedulerQueues

section Scheduling

variable [CommRing Time]

/-- How long a task of a priority may wait. -/
def PriorityLevel.timeout : PriorityLevel → Time
  | .immediate => -1
  | .userBlocking => 250
  | .normal => 5000
  | .low => 10000
  | .idle => 1073741823

/-- The start time of a task; only a positive delay counts. -/
def startTimeOf [LinearOrder Time] (currentTime : Time) : Option Time → Time
  | none => currentTime
  | some delay => if 0 < delay then currentTime + delay else currentTime

def SchedulerTask.new (id : Nat) (priorityLevel : PriorityLevel) (startTime : Time) :
    SchedulerTask Time where
  id := id
  priorityLevel := priorityLevel
  startTime := startTime
  expirationTime := startTime + priorityLevel.timeout
  sortIndex := -1
end Scheduling

end FastReact
