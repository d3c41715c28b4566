import FastReact.NativeScheduler
import FastReact.SchedulerQueuesSteps

namespace FastReact

open ArrayHeap SchedulerQueues

/-!
# Runs of the native scheduler

Outside of `performWorkUntilDeadline` the message loop runs as long as a task waits, and a
timeout is outstanding for the first timer.  Timeouts that nothing tracks do no harm: their
handler only asks for what is missing.
-/

variable {Time : Type} [CommRing Time] [LinearOrder Time]

namespace NativeScheduler

variable {scheduler : NativeScheduler Time} {frame : PerformWorkFrame Time}

/-- A timeout is outstanding that is due when a timer starts, or before. -/
def IsTimed (scheduler : NativeScheduler Time) (timer : SchedulerTask Time) : Prop :=
  ∃ timeout ∈ scheduler.host.timeouts, timeout.due ≤ timer.startTime

/-- Outside of `performWorkUntilDeadline` the flag tells how many calls are posted. -/
structure Posts (scheduler : NativeScheduler Time) : Prop where
  isPerformingWork : scheduler.isPerformingWork = false
  posted : scheduler.host.posted = if scheduler.isMessageLoopRunning then 1 else 0
  callback : scheduler.isHostCallbackScheduled = true → scheduler.isMessageLoopRunning = true

/-- The host will call for all the work that waits. -/
structure Outside (scheduler : NativeScheduler Time) : Prop extends Posts scheduler where
  tasks : ∀ task ∈ scheduler.queues.taskQueue, scheduler.isMessageLoopRunning = true
  timers : ∀ timer ∈ scheduler.queues.timerQueue,
    scheduler.isMessageLoopRunning = true ∨ scheduler.IsTimed timer

/-- Work is performed: nothing is posted, and nothing will be before the work is left. -/
structure Working (scheduler : NativeScheduler Time) : Prop where
  isPerformingWork : scheduler.isPerformingWork = true
  isHostCallbackScheduled : scheduler.isHostCallbackScheduled = false
  isMessageLoopRunning : scheduler.isMessageLoopRunning = true
  posted : scheduler.host.posted = 0

/-- The loop is about to look at the first task, and all started timers have moved. -/
structure AtLoopHead (scheduler : NativeScheduler Time) (frame : PerformWorkFrame Time) : Prop
    extends Working scheduler where
  currentTask : scheduler.currentTask = peek scheduler.queues.taskQueue
  currentTime : frame.currentTime = scheduler.host.now
  timersWait : TimersWait scheduler.host.now scheduler.queues

/-- A callback runs, whose task has lost it but is still in the queue. -/
structure InCallback (scheduler : NativeScheduler Time) : Prop extends Working scheduler where
  current : ∃ task ∈ scheduler.queues.taskQueue,
    scheduler.currentTask = some task ∧ ¬ scheduler.queues.IsLive task.id

def Holds (scheduler : NativeScheduler Time) : NativeControl Time → Prop
  | .outside => Outside scheduler
  | .looping frame => AtLoopHead scheduler frame
  | .inCallback _ => InCallback scheduler

end NativeScheduler

structure NativeProcess.Coherent (process : NativeProcess Time) : Prop where
  queues : process.scheduler.queues.WellFormed
  holds : process.scheduler.Holds process.control

namespace NativeScheduler

variable {scheduler before after : NativeScheduler Time} {frame : PerformWorkFrame Time}

/-- Only timeouts change, and the variables that track them. -/
structure ChangesTimeouts (before after : NativeScheduler Time) : Prop where
  queues : after.queues = before.queues
  currentTask : after.currentTask = before.currentTask
  isPerformingWork : after.isPerformingWork = before.isPerformingWork
  isHostCallbackScheduled : after.isHostCallbackScheduled = before.isHostCallbackScheduled
  isMessageLoopRunning : after.isMessageLoopRunning = before.isMessageLoopRunning
  posted : after.host.posted = before.host.posted
  now : after.host.now = before.host.now

section

omit [CommRing Time] [LinearOrder Time]

theorem changesTimeouts_refl (scheduler : NativeScheduler Time) :
    ChangesTimeouts scheduler scheduler :=
  ⟨rfl, rfl, rfl, rfl, rfl, rfl, rfl⟩

theorem changesTimeouts_clearTaskTimeout :
    ChangesTimeouts scheduler scheduler.clearTaskTimeout := by
  unfold clearTaskTimeout
  split
  · exact changesTimeouts_refl scheduler
  · exact ⟨rfl, rfl, rfl, rfl, rfl, rfl, rfl⟩

theorem changesTimeouts_clearTrackedTimeout :
    ChangesTimeouts scheduler scheduler.clearTrackedTimeout := by
  unfold clearTrackedTimeout
  split_ifs
  · let untracked : NativeScheduler Time := { scheduler with isHostTimeoutScheduled := false }
    obtain ⟨queues, currentTask, isPerformingWork, asked, running, posted, now⟩ :=
      @changesTimeouts_clearTaskTimeout Time untracked
    exact ⟨queues, currentTask, isPerformingWork, asked, running, posted, now⟩
  · exact changesTimeouts_refl scheduler

theorem ChangesTimeouts.posts (changes : ChangesTimeouts before after) (posts : Posts before) :
    Posts after where
  isPerformingWork := changes.isPerformingWork.trans posts.isPerformingWork
  posted := by
    rw [changes.posted, changes.isMessageLoopRunning]
    exact posts.posted
  callback := by
    rw [changes.isHostCallbackScheduled, changes.isMessageLoopRunning]
    exact posts.callback

theorem ChangesTimeouts.working (changes : ChangesTimeouts before after)
    (working : Working before) : Working after where
  isPerformingWork := changes.isPerformingWork.trans working.isPerformingWork
  isHostCallbackScheduled := changes.isHostCallbackScheduled.trans working.isHostCallbackScheduled
  isMessageLoopRunning := changes.isMessageLoopRunning.trans working.isMessageLoopRunning
  posted := changes.posted.trans working.posted

theorem Posts.isMessageLoopRunning_iff (posts : Posts scheduler) :
    scheduler.isMessageLoopRunning = true ↔ scheduler.host.posted = 1 := by
  rw [posts.posted]
  cases scheduler.isMessageLoopRunning <;> decide

end

omit [CommRing Time] in
theorem Posts.outside_of_running (posts : Posts scheduler)
    (running : scheduler.isMessageLoopRunning = true) : Outside scheduler where
  toPosts := posts
  tasks := fun _ _ => running
  timers := fun _ _ => .inl running

omit [CommRing Time] [LinearOrder Time] in
theorem queues_requestHostCallback : scheduler.requestHostCallback.queues = scheduler.queues := by
  unfold requestHostCallback startMessageLoop
  split_ifs <;> rfl

omit [CommRing Time] in
theorem Posts.requestHostCallback (posts : Posts scheduler) :
    Outside scheduler.requestHostCallback := by
  have posted := posts.posted
  unfold NativeScheduler.requestHostCallback startMessageLoop
  split_ifs with running
  · rw [if_pos running] at posted
    refine Posts.outside_of_running ⟨posts.isPerformingWork, ?_, fun _ => running⟩ running
    exact posted.trans (if_pos running).symm
  · rw [if_neg running] at posted
    refine Posts.outside_of_running ⟨posts.isPerformingWork, ?_, fun _ => rfl⟩ rfl
    exact congrArg Nat.succ posted

omit [CommRing Time] in
theorem isTimed_of_first {first timer : SchedulerTask Time}
    (wellFormed : scheduler.queues.WellFormed)
    (isFirst : peek scheduler.queues.timerQueue = some first) (timed : scheduler.IsTimed first)
    (member : timer ∈ scheduler.queues.timerQueue) : scheduler.IsTimed timer := by
  obtain ⟨timeout, outstanding, due⟩ := timed
  exact ⟨timeout, outstanding,
    le_trans due (wellFormed.toArranged.first_startTime_le isFirst member)⟩

theorem isTimed_requestHostTimeout (timer : SchedulerTask Time) :
    IsTimed (scheduler.requestHostTimeout (timer.startTime - scheduler.host.now)) timer :=
  ⟨_, List.mem_cons_self, le_of_eq (add_sub_cancel _ _)⟩

omit [LinearOrder Time] in
theorem queues_awaitQueues (currentTime : Time) :
    (scheduler.awaitQueues currentTime).queues = scheduler.queues := by
  unfold awaitQueues
  split_ifs
  · rfl
  · exact queues_requestHostCallback
  · split <;> rfl

theorem outside_awaitQueues (wellFormed : scheduler.queues.WellFormed) (posts : Posts scheduler) :
    Outside (scheduler.awaitQueues scheduler.host.now) := by
  by_cases asked : scheduler.isHostCallbackScheduled = true
  · have same : scheduler.awaitQueues scheduler.host.now = scheduler := if_pos asked
    rw [same]
    exact posts.outside_of_running (posts.callback asked)
  · unfold awaitQueues
    rw [if_neg asked]
    cases firstTask : peek scheduler.queues.taskQueue with
    | some task =>
      rw [if_pos (Option.some_ne_none task)]
      exact posts.requestHostCallback
    | none =>
      have noTask := peek_eq_none_iff.mp firstTask
      rw [if_neg (not_not.mpr rfl)]
      cases isFirst : peek scheduler.queues.timerQueue with
      | none =>
        refine ⟨posts, ?_, ?_⟩
        · rw [noTask]
          exact nofun
        · rw [peek_eq_none_iff.mp isFirst]
          exact nofun
      | some first =>
        refine ⟨⟨posts.isPerformingWork, posts.posted, posts.callback⟩, ?_, ?_⟩
        · intro task member
          change task ∈ scheduler.queues.taskQueue at member
          rw [noTask] at member
          cases member
        · intro timer member
          exact .inr (isTimed_of_first wellFormed isFirst (isTimed_requestHostTimeout first) member)

omit [LinearOrder Time] in
theorem awaitTimer_cases (id : Nat) (ms : Time) :
    ¬ (peek scheduler.queues.taskQueue = none ∧
        (peek scheduler.queues.timerQueue).map SchedulerTask.id = some id) ∧
        scheduler.awaitTimer id ms = scheduler ∨
      (peek scheduler.queues.timerQueue).map SchedulerTask.id = some id ∧
        ∃ cleared, ChangesTimeouts scheduler cleared ∧
          scheduler.awaitTimer id ms = cleared.requestHostTimeout ms := by
  unfold awaitTimer
  split_ifs with first tracked
  · exact .inr ⟨first.2, _, changesTimeouts_clearTaskTimeout, rfl⟩
  · let tracked : NativeScheduler Time := { scheduler with isHostTimeoutScheduled := true }
    exact .inr ⟨first.2, tracked, ⟨rfl, rfl, rfl, rfl, rfl, rfl, rfl⟩, rfl⟩
  · exact .inl ⟨first, rfl⟩

omit [LinearOrder Time] in
theorem changesTimeouts_awaitTimer (id : Nat) (ms : Time) :
    ChangesTimeouts scheduler (scheduler.awaitTimer id ms) := by
  rcases @awaitTimer_cases Time _ scheduler id ms with ⟨-, same⟩ | ⟨-, cleared, changes, asks⟩
  · rw [same]
    exact changesTimeouts_refl scheduler
  · rw [asks]
    exact ⟨changes.queues, changes.currentTask, changes.isPerformingWork,
      changes.isHostCallbackScheduled, changes.isMessageLoopRunning, changes.posted,
      changes.now⟩

theorem outside_awaitTimer {timer : SchedulerTask Time} (wellFormed : scheduler.queues.WellFormed)
    (member : timer ∈ scheduler.queues.timerQueue) (posts : Posts scheduler)
    (tasks : ∀ task ∈ scheduler.queues.taskQueue, scheduler.isMessageLoopRunning = true)
    (others : ∀ other ∈ scheduler.queues.timerQueue, other = timer ∨
      scheduler.isMessageLoopRunning = true ∨ scheduler.IsTimed other) :
    Outside (scheduler.awaitTimer timer.id (timer.startTime - scheduler.host.now)) := by
  have changes := @changesTimeouts_awaitTimer Time _ scheduler timer.id
    (timer.startTime - scheduler.host.now)
  refine ⟨changes.posts posts, ?_, ?_⟩
  · rw [changes.queues, changes.isMessageLoopRunning]
    exact tasks
  rw [changes.queues, changes.isMessageLoopRunning]
  rcases @awaitTimer_cases Time _ scheduler timer.id (timer.startTime - scheduler.host.now) with
    ⟨notFirst, same⟩ | ⟨isFirst, cleared, clearing, asks⟩
  · rw [same]
    intro other otherMember
    cases firstTask : peek scheduler.queues.taskQueue with
    | some task => exact .inl (tasks task (mem_of_peek firstTask))
    | none =>
      cases isFirst : peek scheduler.queues.timerQueue with
      | none =>
        rw [peek_eq_none_iff.mp isFirst] at otherMember
        cases otherMember
      | some first =>
        rcases others first (mem_of_peek isFirst) with rfl | running | timed
        · exact absurd ⟨firstTask, congrArg _ isFirst⟩ notFirst
        · exact .inl running
        · exact .inr (isTimed_of_first wellFormed isFirst timed otherMember)
  · obtain ⟨first, found, sameId⟩ := Option.map_eq_some_iff.mp isFirst
    obtain rfl : first = timer :=
      wellFormed.eq_of_id (mem_tasks.mpr (.inr (mem_of_peek found)))
        (mem_tasks.mpr (.inr member)) sameId
    have timed : IsTimed (cleared.requestHostTimeout (first.startTime - scheduler.host.now))
        first := by
      rw [← clearing.now]
      exact isTimed_requestHostTimeout first
    have stillFirst : peek (cleared.requestHostTimeout
        (first.startTime - scheduler.host.now)).queues.timerQueue = some first := by
      change peek cleared.queues.timerQueue = some first
      rw [clearing.queues]
      exact found
    intro other otherMember
    right
    rw [asks]
    refine isTimed_of_first ?_ stillFirst timed ?_
    · exact clearing.queues ▸ wellFormed
    · change other ∈ cleared.queues.timerQueue
      rw [clearing.queues]
      exact otherMember

omit [CommRing Time] [LinearOrder Time] in
theorem queues_awaitTask : scheduler.awaitTask.queues = scheduler.queues := by
  unfold awaitTask
  split_ifs
  · exact queues_requestHostCallback
  · rfl

omit [CommRing Time] in
theorem Posts.awaitTask (posts : Posts scheduler) : Outside scheduler.awaitTask := by
  unfold NativeScheduler.awaitTask
  by_cases asked : scheduler.isHostCallbackScheduled = true
  · have notUnasked : ¬ (scheduler.isHostCallbackScheduled = false ∧
        scheduler.isPerformingWork = false) := by
      rintro ⟨unasked, -⟩
      rw [asked] at unasked
      cases unasked
    rw [if_neg notUnasked]
    exact posts.outside_of_running (posts.callback asked)
  · rw [if_pos ⟨Bool.eq_false_of_not_eq_true asked, posts.isPerformingWork⟩]
    exact posts.requestHostCallback

omit [CommRing Time] [LinearOrder Time] in
theorem Working.awaitTask (working : Working scheduler) : scheduler.awaitTask = scheduler := by
  refine if_neg ?_
  rintro ⟨-, notPerforming⟩
  rw [working.isPerformingWork] at notPerforming
  cases notPerforming

theorem grows_scheduleCallback (wellFormed : scheduler.queues.WellFormed)
    (priorityLevel : PriorityLevel) (delay : Option Time) :
    Grows scheduler.queues (scheduler.scheduleCallback priorityLevel delay).queues := by
  unfold scheduleCallback
  simp only
  split_ifs
  · rw [(changesTimeouts_awaitTimer _ _).queues]
    exact wellFormed.grows_pushTimer rfl rfl
  · rw [queues_awaitTask]
    exact wellFormed.grows_pushTask rfl rfl

theorem Outside.scheduleCallback (outside : Outside scheduler)
    (wellFormed : scheduler.queues.WellFormed) (priorityLevel : PriorityLevel)
    (delay : Option Time) : Outside (scheduler.scheduleCallback priorityLevel delay) := by
  have posts := outside.toPosts
  unfold NativeScheduler.scheduleCallback
  simp only
  split_ifs
  · let timer := (SchedulerTask.new scheduler.queues.taskIdCounter priorityLevel
      (startTimeOf scheduler.host.now delay)).delayed
    let pushed : NativeScheduler Time :=
      { scheduler with queues := scheduler.queues.allocate.pushTimer timer }
    have members : ∀ other, other ∈ pushed.queues.timerQueue ↔
        other = timer ∨ other ∈ scheduler.queues.timerQueue :=
      fun other => wellFormed.toArranged.allocate.mem_pushTimer
    have others : ∀ other ∈ pushed.queues.timerQueue, other = timer ∨
        pushed.isMessageLoopRunning = true ∨ pushed.IsTimed other := by
      intro other member
      rcases (members other).mp member with isNew | old
      · exact .inl isNew
      · exact .inr (outside.timers other old)
    have pushedPosts : Posts pushed := ⟨posts.isPerformingWork, posts.posted, posts.callback⟩
    have pushedWellFormed : pushed.queues.WellFormed := wellFormed.pushTimer rfl rfl
    have pushedOutside : Outside
        (pushed.awaitTimer timer.id (timer.startTime - pushed.host.now)) :=
      outside_awaitTimer pushedWellFormed ((members timer).mpr (.inl rfl)) pushedPosts
        outside.tasks others
    exact pushedOutside
  · apply Posts.awaitTask
    exact ⟨posts.isPerformingWork, posts.posted, posts.callback⟩

theorem Working.scheduleCallback (working : Working scheduler) (priorityLevel : PriorityLevel)
    (delay : Option Time) :
    Working (scheduler.scheduleCallback priorityLevel delay) ∧
      (scheduler.scheduleCallback priorityLevel delay).currentTask = scheduler.currentTask := by
  obtain ⟨isPerformingWork, notAsked, running, posted⟩ := working
  unfold NativeScheduler.scheduleCallback
  simp only
  split_ifs
  · have changes := fun (pushed : NativeScheduler Time) => @changesTimeouts_awaitTimer Time _ pushed
    refine ⟨(changes _ _ _).working ⟨isPerformingWork, notAsked, running, posted⟩, ?_⟩
    exact (changes _ _ _).currentTask
  · let pushed : NativeScheduler Time :=
      { scheduler with
        queues := scheduler.queues.allocate.pushTask
          (SchedulerTask.new scheduler.queues.taskIdCounter priorityLevel
            (startTimeOf scheduler.host.now delay)).started }
    have pushedWorking : Working pushed := ⟨isPerformingWork, notAsked, running, posted⟩
    have kept : Working pushed.awaitTask ∧ pushed.awaitTask.currentTask = pushed.currentTask := by
      rw [pushedWorking.awaitTask]
      exact ⟨pushedWorking, rfl⟩
    exact kept

theorem grows_perform (wellFormed : scheduler.queues.WellFormed) (call : NativeCall Time) :
    Grows scheduler.queues (call.perform scheduler).queues := by
  cases call with
  | scheduleCallback priorityLevel delay =>
    exact grows_scheduleCallback wellFormed priorityLevel delay
  | cancelCallback task => exact wellFormed.grows_cancelCallback task
  | requestPaint => exact wellFormed.grows_refl

theorem Outside.perform (outside : Outside scheduler) (wellFormed : scheduler.queues.WellFormed)
    (call : NativeCall Time) : Outside (call.perform scheduler) := by
  have posts := outside.toPosts
  cases call with
  | scheduleCallback priorityLevel delay =>
    exact outside.scheduleCallback wellFormed priorityLevel delay
  | _ =>
    exact ⟨⟨posts.isPerformingWork, posts.posted, posts.callback⟩, outside.tasks, outside.timers⟩

theorem InCallback.perform (running : InCallback scheduler)
    (wellFormed : scheduler.queues.WellFormed) (call : NativeCall Time) :
    InCallback (call.perform scheduler) := by
  have kept : Working (call.perform scheduler) ∧
      (call.perform scheduler).currentTask = scheduler.currentTask := by
    obtain ⟨isPerformingWork, notAsked, messageLoop, posted⟩ := running.toWorking
    cases call with
    | scheduleCallback priorityLevel delay =>
      exact running.toWorking.scheduleCallback priorityLevel delay
    | _ => exact ⟨⟨isPerformingWork, notAsked, messageLoop, posted⟩, rfl⟩
  have grows := grows_perform wellFormed call
  obtain ⟨task, member, isCurrent, spent⟩ := running.current
  refine ⟨kept.1, task, grows.tasks task member, kept.2.trans isCurrent, ?_⟩
  exact grows.spent task.id (wellFormed.counted task (mem_tasks.mpr (.inl member))) spent

omit [CommRing Time] [LinearOrder Time] in
theorem Working.posts_leaveWork (working : Working scheduler) (hasMoreWork : Bool) :
    Posts (scheduler.leaveWork frame hasMoreWork).scheduler ∧
      (scheduler.leaveWork frame hasMoreWork).scheduler.isMessageLoopRunning = hasMoreWork := by
  obtain ⟨isPerformingWork, notAsked, running, posted⟩ := working
  cases hasMoreWork with
  | true =>
    refine ⟨⟨rfl, ?_, fun _ => running⟩, running⟩
    change scheduler.host.posted + 1 = if scheduler.isMessageLoopRunning then 1 else 0
    rw [posted, running, if_pos rfl]
  | false =>
    refine ⟨⟨rfl, posted, ?_⟩, rfl⟩
    intro asked
    exact absurd (notAsked.symm.trans asked) Bool.false_ne_true

section

omit [CommRing Time]

theorem Working.coherent_leaveWork (working : Working scheduler)
    (wellFormed : scheduler.queues.WellFormed) : (scheduler.leaveWork frame true).Coherent := by
  obtain ⟨posts, running⟩ := @Working.posts_leaveWork Time scheduler frame working true
  exact ⟨wellFormed, posts.outside_of_running running⟩

theorem Working.coherent_nextRound {queues : SchedulerQueues Time} (working : Working scheduler)
    (wellFormed : queues.WellFormed) (currentTime : frame.currentTime = scheduler.host.now)
    (wait : TimersWait scheduler.host.now queues) :
    (nextRound { scheduler with queues := queues } frame).Coherent := by
  obtain ⟨isPerformingWork, notAsked, running, posted⟩ := working
  exact ⟨wellFormed, ⟨⟨isPerformingWork, notAsked, running, posted⟩, rfl, currentTime, wait⟩⟩

theorem coherent_performWorkUntilDeadline (wellFormed : scheduler.queues.WellFormed)
    (running : scheduler.isMessageLoopRunning = true) (posted : scheduler.host.posted = 0) :
    scheduler.performWorkUntilDeadline.Coherent := by
  let called : NativeScheduler Time := { scheduler with needsPaint := false }
  let started : NativeScheduler Time :=
    { called with
      startTime := called.getCurrentTime
      isHostCallbackScheduled := false }
  have entered : scheduler.performWorkUntilDeadline = called.enterWork := if_pos running
  have changes := @changesTimeouts_clearTrackedTimeout Time started
  have clearedWellFormed : started.clearTrackedTimeout.queues.WellFormed :=
    changes.queues ▸ wellFormed
  obtain ⟨advanced, -, wait⟩ := clearedWellFormed.advanceTimers scheduler.host.now
  rw [entered]
  refine ⟨advanced, ⟨⟨rfl, changes.isHostCallbackScheduled,
    changes.isMessageLoopRunning.trans running, changes.posted.trans posted⟩, rfl,
    changes.now.symm, ?_⟩⟩
  change TimersWait started.clearTrackedTimeout.host.now _
  rw [changes.now]
  exact wait

end

section

variable (head : AtLoopHead scheduler frame) (wellFormed : scheduler.queues.WellFormed)
include head wellFormed

/-- Work ends when the task queue is empty, with a timeout for the first timer. -/
theorem AtLoopHead.coherent_ended (noTask : peek scheduler.queues.taskQueue = none) :
    (scheduler.workLoopRound frame).Coherent := by
  have empty := peek_eq_none_iff.mp noTask
  unfold workLoopRound
  rw [head.currentTask, noTask]
  simp only
  cases isFirst : peek scheduler.queues.timerQueue with
  | none =>
    obtain ⟨posts, -⟩ := @Working.posts_leaveWork Time scheduler frame head.toWorking false
    refine ⟨wellFormed, posts, ?_, ?_⟩
    · intro task member
      change task ∈ scheduler.queues.taskQueue at member
      rw [empty] at member
      cases member
    · intro timer member
      change timer ∈ scheduler.queues.timerQueue at member
      rw [peek_eq_none_iff.mp isFirst] at member
      cases member
  | some first =>
    let asked := scheduler.requestHostTimeout (first.startTime - frame.currentTime)
    have askedWorking : Working asked :=
      ⟨head.isPerformingWork, head.isHostCallbackScheduled, head.isMessageLoopRunning, head.posted⟩
    have timed : asked.IsTimed first := by
      change IsTimed (scheduler.requestHostTimeout (first.startTime - frame.currentTime)) first
      rw [head.currentTime]
      exact isTimed_requestHostTimeout first
    obtain ⟨posts, -⟩ := @Working.posts_leaveWork Time asked frame askedWorking false
    refine ⟨wellFormed, posts, ?_, ?_⟩
    · intro task member
      change task ∈ scheduler.queues.taskQueue at member
      rw [empty] at member
      cases member
    · intro timer member
      exact .inr (@isTimed_of_first Time _ asked first timer wellFormed isFirst timed member)

theorem AtLoopHead.coherent_workLoopRound : (scheduler.workLoopRound frame).Coherent := by
  cases isFirst : peek scheduler.queues.taskQueue with
  | none => exact head.coherent_ended wellFormed isFirst
  | some task =>
    unfold workLoopRound runTask
    rw [head.currentTask, isFirst]
    simp only
    split_ifs with yields live
    · exact head.toWorking.coherent_leaveWork wellFormed
    · refine ⟨wellFormed.takeCallback task.id, ⟨head.isPerformingWork,
        head.isHostCallbackScheduled, head.isMessageLoopRunning, head.posted⟩, task,
        mem_of_peek isFirst, rfl, ?_⟩
      intro stillLive
      unfold IsLive callback takeCallback at stillLive
      rw [TokenLedger.slot_use, if_pos rfl] at stillLive
      exact stillLive rfl
    · have wait : TimersWait scheduler.host.now scheduler.queues.popTask := head.timersWait
      exact head.toWorking.coherent_nextRound (wellFormed.popTask isFirst live)
        head.currentTime wait

end

omit [CommRing Time] in
theorem InCallback.coherent_callbackReturns (running : InCallback scheduler)
    (wellFormed : scheduler.queues.WellFormed) (continues : Bool) :
    (scheduler.callbackReturns frame continues).Coherent := by
  obtain ⟨task, member, isCurrent, spent⟩ := running.current
  have finished := (wellFormed.finishTask member spent continues).1
  obtain ⟨advanced, -, wait⟩ := finished.advanceTimers scheduler.host.now
  have finishedWorking : Working (scheduler.finishTask task continues) :=
    ⟨running.isPerformingWork, running.isHostCallbackScheduled, running.isMessageLoopRunning,
      running.posted⟩
  unfold callbackReturns
  rw [isCurrent]
  simp only
  split_ifs
  · exact finishedWorking.coherent_leaveWork advanced
  · exact running.toWorking.coherent_nextRound advanced rfl wait

theorem Outside.handleTimeout (outside : Outside scheduler)
    (wellFormed : scheduler.queues.WellFormed) (id : Nat) :
    ({ scheduler := handleTimeout { scheduler with host := scheduler.host.dropTimeout id }
          scheduler.host.now
       control := .outside } : NativeProcess Time).Coherent := by
  let advanced : NativeScheduler Time :=
    advanceTimers { scheduler with
      isHostTimeoutScheduled := false
      host := scheduler.host.dropTimeout id } scheduler.host.now
  have posts : Posts advanced := ⟨outside.isPerformingWork, outside.posted, outside.callback⟩
  have advancedWellFormed := (wellFormed.advanceTimers scheduler.host.now).1
  have asks : Outside (advanced.awaitQueues advanced.host.now) :=
    outside_awaitQueues advancedWellFormed posts
  have sameQueues : (advanced.awaitQueues advanced.host.now).queues = advanced.queues :=
    queues_awaitQueues _
  exact ⟨sameQueues ▸ advancedWellFormed, asks⟩

end NativeScheduler

namespace NativeProcess

variable {process : NativeProcess Time}

open NativeScheduler

theorem coherent_new (now : Time) : (new now).Coherent where
  queues := wellFormed_new
  holds := ⟨⟨rfl, rfl, nofun⟩, nofun, nofun⟩

omit [CommRing Time] in
theorem coherent_passTime (coherent : process.Coherent) (later : Time)
    (notLooping : ∀ frame, process.control ≠ .looping frame) :
    (process.passTime later).Coherent := by
  obtain ⟨scheduler, control⟩ := process
  unfold passTime
  split_ifs
  · refine ⟨coherent.queues, ?_⟩
    cases control with
    | outside =>
      have outside : Outside scheduler := coherent.holds
      exact ⟨⟨outside.isPerformingWork, outside.posted, outside.callback⟩, outside.tasks,
        outside.timers⟩
    | looping frame => exact absurd rfl (notLooping frame)
    | inCallback frame =>
      have running : InCallback scheduler := coherent.holds
      exact ⟨⟨running.isPerformingWork, running.isHostCallbackScheduled,
        running.isMessageLoopRunning, running.posted⟩, running.current⟩
  · exact coherent

theorem coherent_step (coherent : process.Coherent) (action : NativeAction Time) :
    (process.step action).Coherent := by
  obtain ⟨scheduler, control⟩ := process
  have wellFormed : scheduler.queues.WellFormed := coherent.queues
  cases control with
  | outside =>
    have outside : Outside scheduler := coherent.holds
    cases action with
    | call call =>
      exact ⟨(grows_perform wellFormed call).wellFormed, outside.perform wellFormed call⟩
    | passTime later => exact coherent_passTime coherent later nofun
    | fireTimeout id =>
      unfold step fireTimeout
      simp only
      split_ifs
      · exact outside.handleTimeout wellFormed id
      · exact coherent
    | performWorkUntilDeadline =>
      unfold step
      simp only
      split_ifs with none
      · exact coherent
      · have posted := outside.posted
        have running : scheduler.isMessageLoopRunning = true := by
          by_contra stopped
          rw [if_neg stopped] at posted
          exact none posted
        rw [if_pos running] at posted
        exact coherent_performWorkUntilDeadline wellFormed running (congrArg Nat.pred posted)
    | _ => exact coherent
  | looping frame =>
    have head : AtLoopHead scheduler frame := coherent.holds
    cases action with
    | workLoop => exact head.coherent_workLoopRound wellFormed
    | _ => exact coherent
  | inCallback frame =>
    have running : InCallback scheduler := coherent.holds
    cases action with
    | call call =>
      exact ⟨(grows_perform wellFormed call).wellFormed, running.perform wellFormed call⟩
    | passTime later => exact coherent_passTime coherent later nofun
    | callbackReturns continues => exact running.coherent_callbackReturns wellFormed continues
    | callbackThrows => exact running.toWorking.coherent_leaveWork wellFormed
    | _ => exact coherent

/-- What holds of the native scheduler after every list of actions. -/
structure LosesNoTask (process : NativeProcess Time) : Prop where
  /-- The message loop runs iff exactly one call is posted, and never more than one is. -/
  isMessageLoopRunning : process.control = .outside →
    (process.scheduler.isMessageLoopRunning = true ↔ process.scheduler.host.posted = 1) ∧
      process.scheduler.host.posted ≤ 1
  /-- The task queue is empty unless a call is posted. -/
  tasks : process.control = .outside → process.scheduler.host.posted = 0 →
    process.scheduler.queues.taskQueue = []
  /-- For a live timer a call is posted, or a timeout is outstanding that is due by then. -/
  timers : process.control = .outside →
    ∀ timer ∈ process.scheduler.queues.timerQueue,
      process.scheduler.queues.IsLive timer.id →
      process.scheduler.host.posted ≠ 0 ∨ process.scheduler.IsTimed timer
  /-- No callback and no continuation has run twice. -/
  once : process.scheduler.queues.callbacks.used.Nodup

omit [CommRing Time] in
theorem Coherent.losesNoTask (coherent : process.Coherent) : LosesNoTask process := by
  obtain ⟨scheduler, control⟩ := process
  have onlyOutside : control = .outside → Outside scheduler := by
    rintro rfl
    exact coherent.holds
  refine ⟨?_, ?_, ?_, coherent.queues.sound.once⟩
  · intro isOutside
    have posts := (onlyOutside isOutside).toPosts
    refine ⟨posts.isMessageLoopRunning_iff, ?_⟩
    have posted := posts.posted
    split_ifs at posted
    · exact le_of_eq posted
    · exact posted ▸ Nat.zero_le 1
  · intro isOutside notPosted
    have outside := onlyOutside isOutside
    refine List.eq_nil_iff_forall_not_mem.mpr fun task member => ?_
    have posted := outside.isMessageLoopRunning_iff.mp (outside.tasks task member)
    exact absurd (notPosted.symm.trans posted) Nat.zero_ne_one
  · intro isOutside timer member _
    have outside := onlyOutside isOutside
    rcases outside.timers timer member with running | timed
    · have posted := outside.isMessageLoopRunning_iff.mp running
      exact .inl (ne_of_eq_of_ne posted Nat.one_ne_zero)
    · exact .inr timed

/-- Every program loses no task. -/
theorem losesNoTask_of_actions (now : Time) (actions : List (NativeAction Time)) :
    LosesNoTask (actions.foldl step (new now)) := by
  apply Coherent.losesNoTask
  have started := coherent_new now
  generalize new now = process at started
  induction actions generalizing process with
  | nil => exact started
  | cons action later inductionHypothesis =>
    exact inductionHypothesis _ (coherent_step started action)

/-- A delayed callback runs once its timeout has fired. -/
example :
    let process := [.call (.scheduleCallback .normal (some 10)), .passTime 10, .fireTimeout 0,
      .performWorkUntilDeadline, .workLoop].foldl step (new (0 : Int))
    process.scheduler.queues.callbacks.used = [0] := by
  decide

end NativeProcess

end FastReact
