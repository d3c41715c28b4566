import FastReact.ActionRun
import FastReact.MockSchedulerSteps

namespace FastReact

open ArrayHeap SchedulerQueues MockScheduler

/-!
# Runs of the mock scheduler

In every run a callback and each of its continuations run at most once, the least task runs
first, and a callback that throws takes nothing with it.
-/

variable {Time : Type} [CommRing Time] [LinearOrder Time]

namespace MockProcess

variable {process : MockProcess Time}

theorem coherent_new : (new : MockProcess Time).Coherent where
  queues := wellFormed_new
  holds := ⟨rfl, rfl⟩

variable {scheduler : MockScheduler Time} {frame : WorkLoopFrame Time} {start : MockProcess Time}
  {flushes : Nat}

section

omit [CommRing Time] [LinearOrder Time]

theorem flushing_prepareFlush (idle : Idle scheduler)
    (scheduled : scheduler.scheduledCallback = true) (flush : MockFlush) :
    Flushing (scheduler.prepareFlush flush) flush := by
  have yields : scheduler.expectedNumberOfYields = -1 := congrArg Prod.fst idle.settings
  have paint : scheduler.shouldYieldForPaint = false := congrArg Prod.snd idle.settings
  cases flush with
  | flushAllWithoutAsserting => exact ⟨rfl, scheduled, idle.settings⟩
  | flushExpired => exact ⟨rfl, scheduled, idle.settings⟩
  | flushNumberOfYields count => exact ⟨rfl, scheduled, congrArg (Prod.mk count) paint⟩
  | flushUntilNextPaint => exact ⟨rfl, scheduled, congrArg (Prod.mk · true) yields⟩

section

variable (scheduler : MockScheduler Time) (flush : MockFlush)

theorem queues_prepareFlush : (scheduler.prepareFlush flush).queues = scheduler.queues := by
  cases flush <;> rfl

theorem currentMockTime_prepareFlush :
    (scheduler.prepareFlush flush).currentMockTime = scheduler.currentMockTime := by
  cases flush <;> rfl

end

end

theorem startFlush_cases (coherent : process.Coherent) (flush : MockFlush) :
    process.startFlush flush = process ∧
        (process.control = .idle → process.scheduler.scheduledCallback = false) ∨
      (process.control = .idle ∧
        process.scheduler.scheduledCallback = true ∧
        Continues process.scheduler (process.startFlush flush) ∧
        ∃ frame, (process.startFlush flush).control = .looping frame ∧ frame.flush = flush) := by
  obtain ⟨scheduler, control⟩ := process
  obtain ⟨wellFormed, holds⟩ := coherent
  unfold startFlush
  cases control with
  | looping frame =>
    rw [if_pos holds.isFlushing]
    exact .inl ⟨rfl, nofun⟩
  | inCallback frame =>
    rw [if_pos holds.isFlushing]
    exact .inl ⟨rfl, nofun⟩
  | idle =>
    rw [if_neg (by rw [holds.isFlushing]; exact Bool.false_ne_true)]
    cases scheduled : scheduler.scheduledCallback with
    | false =>
      rw [if_neg Bool.false_ne_true]
      exact .inl ⟨rfl, fun _ => rfl⟩
    | true =>
      rw [if_pos rfl]
      have preparedQueues := queues_prepareFlush scheduler flush
      have prepared : (scheduler.prepareFlush flush).queues.WellFormed :=
        preparedQueues ▸ wellFormed
      have entered := continues_enterFlushWork prepared
        (flushing_prepareFlush holds scheduled flush)
      have same : Follows scheduler.queues (scheduler.prepareFlush flush).queues :=
        preparedQueues ▸ follows_refl _
      exact .inr ⟨rfl, rfl, .of_follows same (by rw [preparedQueues])
        (currentMockTime_prepareFlush scheduler flush) entered.1, entered.2⟩

/-- A step leaves the process coherent, and its queues go on from the earlier ones. -/
structure Advances (before after : MockProcess Time) : Prop where
  coherent : after.Coherent
  follows : Follows before.scheduler.queues after.scheduler.queues

omit [CommRing Time] in
theorem advances_refl (coherent : process.Coherent) : Advances process process :=
  ⟨coherent, follows_refl _⟩

omit [CommRing Time] in
theorem advances_of_continues {after : MockProcess Time}
    (continues : Continues process.scheduler after) : Advances process after :=
  ⟨continues.coherent, continues.follows⟩

section

variable (coherent : process.Coherent)
include coherent

theorem advances_call (call : MockCall Time) : Advances process (process.step (.call call)) := by
  obtain ⟨scheduler, control⟩ := process
  have calls := calls_perform coherent.queues call
  cases control with
  | idle => exact ⟨⟨calls.grows.wellFormed, Idle.calls coherent.holds calls⟩, calls.grows.toFollows⟩
  | looping frame => exact advances_refl coherent
  | inCallback frame =>
    exact ⟨⟨calls.grows.wellFormed, InCallback.calls coherent.holds coherent.queues calls⟩,
      calls.grows.toFollows⟩

theorem advances_startFlush (flush : MockFlush) : Advances process (process.startFlush flush) := by
  rcases startFlush_cases coherent flush with ⟨same, -⟩ | ⟨-, -, continues, -⟩
  · rw [same]
    exact advances_refl coherent
  · exact advances_of_continues continues

theorem advances_workLoop : Advances process (process.step .workLoop) := by
  obtain ⟨scheduler, control⟩ := process
  cases control with
  | idle => exact advances_refl coherent
  | inCallback frame => exact advances_refl coherent
  | looping frame =>
    have head : AtLoopHead scheduler frame := coherent.holds
    have rounded := head.coherent_of_round coherent.queues head.round
    exact ⟨rounded.1, rounded.2.1⟩

theorem advances_callbackReturns (continues : Bool) :
    Advances process (process.step (.callbackReturns continues)) := by
  obtain ⟨scheduler, control⟩ := process
  cases control with
  | idle => exact advances_refl coherent
  | looping frame => exact advances_refl coherent
  | inCallback frame =>
    have running : InCallback scheduler frame := coherent.holds
    exact advances_of_continues (running.continues_callbackReturns coherent.queues continues)

theorem advances_callbackThrows : Advances process (process.step .callbackThrows) := by
  obtain ⟨scheduler, control⟩ := process
  cases control with
  | idle => exact advances_refl coherent
  | looping frame => exact advances_refl coherent
  | inCallback frame =>
    have running : InCallback scheduler frame := coherent.holds
    have leaves := leaves_callbackThrows running.toFlushing
    have same : (scheduler.callbackThrows frame).scheduler.queues = scheduler.queues :=
      leaves.queues
    exact ⟨⟨same ▸ coherent.queues, leaves.idle⟩, same ▸ follows_refl scheduler.queues⟩

theorem advances_step (action : MockAction Time) : Advances process (process.step action) := by
  cases action with
  | call call => exact advances_call coherent call
  | flush flush => exact advances_startFlush coherent flush
  | workLoop => exact advances_workLoop coherent
  | callbackReturns continues => exact advances_callbackReturns coherent continues
  | callbackThrows => exact advances_callbackThrows coherent
  | flushAll =>
    unfold step
    split_ifs
    · exact advances_startFlush coherent _
    · exact advances_refl coherent

theorem coherent_foldl (actions : List (MockAction Time)) :
    (actions.foldl step process).Coherent := by
  induction actions generalizing process with
  | nil => exact coherent
  | cons action later ih =>
    exact ih (advances_step coherent action).coherent

end

/-- Everything is flushed again and again, and no call goes back in time. -/
def Repeats (process : MockProcess Time) : MockAction Time → Prop
  | .flush flush => process.control = .idle ∧ flush = .flushAllWithoutAsserting
  | .workLoop => ∃ frame, process.control = .looping frame
  | .call (.advanceTime ms) =>
      (∃ frame, process.control = .inCallback frame) ∧
        process.scheduler.currentMockTime ≤ process.scheduler.currentMockTime + ms
  | .call _ => ∃ frame, process.control = .inCallback frame
  | .callbackReturns _ => ∃ frame, process.control = .inCallback frame
  | .callbackThrows => ∃ frame, process.control = .inCallback frame
  | .flushAll => False

/-- The tasks that had started have run or were cancelled. -/
def StartedSettled (start process : MockProcess Time) : Prop :=
  ∀ task ∈ start.scheduler.queues.tasks, ∀ token,
    start.scheduler.queues.callback task.id = some token →
    task.startTime ≤ start.scheduler.currentMockTime →
    process.scheduler.queues.callbacks.Settled token

def callbacksRun (process : MockProcess Time) : Nat :=
  process.scheduler.queues.callbacks.used.length

def countFlushes (actions : List (MockAction Time)) : Nat :=
  actions.countP fun
    | .flush _ => true
    | _ => false

/-- How far the repeated flushes have come: every flush but the one on its way has run a
callback, and the next flush goes on. -/
def Proceeds (start process : MockProcess Time) (flushes : Nat) : Prop :=
  match process.control with
  | .idle =>
      process.scheduler.scheduledCallback = true ∧
        start.callbacksRun + flushes ≤ process.callbacksRun
  | .looping frame =>
      frame.flush = .flushAllWithoutAsserting ∧
        start.callbacksRun + flushes ≤ process.callbacksRun + 1
  | .inCallback frame =>
      frame.flush = .flushAllWithoutAsserting ∧
        start.callbacksRun + flushes ≤ process.callbacksRun

structure Repeated (start process : MockProcess Time) (flushes : Nat) : Prop where
  coherent : process.Coherent
  follows : Follows start.scheduler.queues process.scheduler.queues
  later : start.scheduler.currentMockTime ≤ process.scheduler.currentMockTime
  proceeds : StartedSettled start process ∨ Proceeds start process flushes

omit [CommRing Time] in
theorem startedSettled_of_empty (startWellFormed : start.scheduler.queues.WellFormed)
    (wellFormed : process.scheduler.queues.WellFormed)
    (follows : Follows start.scheduler.queues process.scheduler.queues)
    (later : start.scheduler.currentMockTime ≤ process.scheduler.currentMockTime)
    (noTask : process.scheduler.queues.taskQueue = [])
    (wait : TimersWait process.scheduler.currentMockTime process.scheduler.queues) :
    StartedSettled start process := by
  intro task member token waits started
  by_contra unsettled
  obtain ⟨first, firstMember, last, lastMember, firstId, -, sameStart⟩ :=
    follows.startTime_eq startWellFormed wellFormed waits unsettled
  obtain rfl := startWellFormed.eq_of_id firstMember member firstId
  rcases mem_tasks.mp lastMember with isTask | isTimer
  · rw [noTask] at isTask
    cases isTask
  · have notStarted := wait.lt_startTime wellFormed.toArranged isTimer
    rw [sameStart] at notStarted
    exact absurd (le_trans started later) (not_le_of_gt notStarted)

variable {after : MockProcess Time}

omit [CommRing Time] in
theorem StartedSettled.follows (settled : StartedSettled start process)
    (follows : Follows process.scheduler.queues after.scheduler.queues) :
    StartedSettled start after :=
  fun task member token waits started =>
    follows.settled token (settled task member token waits started)

omit [CommRing Time] in
theorem Repeated.proceed {flushes later : Nat} (repeated : Repeated start process flushes)
    (advances : Advances process after)
    (time : process.scheduler.currentMockTime ≤ after.scheduler.currentMockTime)
    (proceeds : Proceeds start process flushes → Proceeds start after later) :
    Repeated start after later where
  coherent := advances.coherent
  follows := repeated.follows.trans advances.follows
  later := le_trans repeated.later time
  proceeds := by
    rcases repeated.proceeds with settled | flushing
    · exact .inl (settled.follows advances.follows)
    · exact .inr (proceeds flushing)

theorem Repeated.startFlush (repeated : Repeated start process flushes)
    (isIdle : process.control = .idle) :
    Repeated start (process.startFlush .flushAllWithoutAsserting) (flushes + 1) := by
  have advances := advances_startFlush repeated.coherent .flushAllWithoutAsserting
  rcases startFlush_cases repeated.coherent .flushAllWithoutAsserting with
    ⟨same, notScheduled⟩ | ⟨-, -, continues, frame, looping, all⟩
  · rw [same] at advances ⊢
    refine repeated.proceed advances (le_refl _) ?_
    intro proceeds
    unfold Proceeds at proceeds
    rw [isIdle] at proceeds
    exact absurd proceeds.1 (by rw [notScheduled isIdle]; exact Bool.false_ne_true)
  · refine repeated.proceed advances (le_of_eq continues.currentMockTime.symm) ?_
    intro proceeds
    unfold Proceeds callbacksRun at proceeds ⊢
    rw [isIdle] at proceeds
    rw [looping, continues.used]
    exact ⟨all, Nat.succ_le_succ proceeds.2⟩

/-- A round of the work loop runs a callback, drops a task or ends with the queue empty. -/
theorem Repeated.round (repeated : Repeated start ⟨scheduler, .looping frame⟩ flushes)
    (startWellFormed : start.scheduler.queues.WellFormed) (round : Round scheduler frame after) :
    Repeated start after flushes := by
  have head : AtLoopHead scheduler frame := repeated.coherent.holds
  have wellFormed : scheduler.queues.WellFormed := repeated.coherent.queues
  obtain ⟨coherent, follows, time⟩ := head.coherent_of_round wellFormed round
  have advances : Advances ⟨scheduler, .looping frame⟩ after := ⟨coherent, follows⟩
  cases round with
  | @finished ended noTask endsLoop timeout =>
    refine ⟨coherent, repeated.follows.trans follows, time ▸ repeated.later, .inl ?_⟩
    rcases returnFromFlushWork_cases (endsLoop.queues ▸ wellFormed)
      (endsLoop.flushing head.toFlushing) false with ⟨noMore, -⟩ | ⟨-, leaves⟩
    · cases noMore
    · have queues := leaves.queues.trans endsLoop.queues
      apply startedSettled_of_empty startWellFormed coherent.queues
        (repeated.follows.trans follows) (time ▸ repeated.later)
      · rw [queues]
        exact noTask
      · rw [queues, time]
        exact head.timersWait
  | @stopped ended endsLoop notAll stops =>
    exact repeated.proceed advances (le_of_eq time.symm) fun proceeds => absurd proceeds.1 notAll
  | @called task token isFirst waits =>
    refine repeated.proceed advances (le_refl _) ?_
    rintro ⟨all, enough⟩
    refine ⟨all, ?_⟩
    change start.callbacksRun + flushes ≤
      (scheduler.queues.callbacks.used ++ (scheduler.queues.callback task.id).toList).length
    rw [waits, List.length_append]
    exact enough
  | @dropped task isFirst spent =>
    exact repeated.proceed advances (le_refl _) fun proceeds => proceeds

theorem Repeated.call {call : MockCall Time}
    (repeated : Repeated start ⟨scheduler, .inCallback frame⟩ flushes)
    (forward : ∀ ms, call = .advanceTime ms →
      scheduler.currentMockTime ≤ scheduler.currentMockTime + ms) :
    Repeated start ⟨call.perform scheduler, .inCallback frame⟩ flushes := by
  have wellFormed : scheduler.queues.WellFormed := repeated.coherent.queues
  have calls := calls_perform wellFormed call
  refine repeated.proceed (advances_call repeated.coherent call)
    (currentMockTime_le_perform forward) ?_
  rintro ⟨all, enough⟩
  refine ⟨all, ?_⟩
  change start.callbacksRun + flushes ≤ (call.perform scheduler).queues.callbacks.used.length
  rw [calls.grows.used]
  exact enough

theorem control_callbackReturns (running : InCallback scheduler frame)
    (all : frame.flush = .flushAllWithoutAsserting) (continues : Bool) :
    ∃ next, (scheduler.callbackReturns frame continues).control = .looping next ∧
      next.flush = .flushAllWithoutAsserting := by
  obtain ⟨task, -, isCurrent, -⟩ := running.current
  have settings := running.settings
  rw [all] at settings
  have noPaint : (scheduler.finishTask task continues).shouldYieldForPaint = false :=
    congrArg Prod.snd settings
  unfold callbackReturns
  rw [isCurrent]
  simp only [noPaint, Bool.and_false, Bool.false_eq_true, if_false]
  exact ⟨_, rfl, all⟩

section

variable (repeated : Repeated start ⟨scheduler, .inCallback frame⟩ flushes)
include repeated

theorem Repeated.callbackReturns
    (continues : Bool) : Repeated start (scheduler.callbackReturns frame continues) flushes := by
  have running : InCallback scheduler frame := repeated.coherent.holds
  have returned := running.continues_callbackReturns repeated.coherent.queues continues
  refine repeated.proceed ⟨returned.coherent, returned.follows⟩
    (le_of_eq returned.currentMockTime.symm) ?_
  rintro ⟨all, enough⟩
  obtain ⟨next, looping, stillAll⟩ := control_callbackReturns running all continues
  unfold Proceeds callbacksRun
  rw [looping, returned.used]
  exact ⟨stillAll, Nat.le_succ_of_le enough⟩

theorem Repeated.callbackThrows : Repeated start (scheduler.callbackThrows frame) flushes := by
  have running : InCallback scheduler frame := repeated.coherent.holds
  have leaves := leaves_callbackThrows running.toFlushing
  refine repeated.proceed (advances_callbackThrows repeated.coherent)
    (le_of_eq leaves.currentMockTime.symm) ?_
  rintro ⟨-, enough⟩
  refine ⟨?_, ?_⟩
  · rw [leaves.scheduledCallback, running.scheduledCallback]
    rfl
  · change start.callbacksRun + flushes ≤
      (scheduler.callbackThrows frame).scheduler.queues.callbacks.used.length
    rw [leaves.queues]
    exact enough

end

theorem Repeated.step {action : MockAction Time} (repeated : Repeated start process flushes)
    (startWellFormed : start.scheduler.queues.WellFormed) (permitted : Repeats process action) :
    Repeated start (process.step action) (flushes + countFlushes [action]) := by
  obtain ⟨scheduler, control⟩ := process
  cases action with
  | flush flush =>
    obtain ⟨isIdle, rfl⟩ := permitted
    exact repeated.startFlush isIdle
  | flushAll => exact permitted.elim
  | workLoop =>
    obtain ⟨frame, looping⟩ := permitted
    obtain rfl : control = .looping frame := looping
    have head : AtLoopHead scheduler frame := repeated.coherent.holds
    exact repeated.round startWellFormed head.round
  | callbackReturns continues =>
    obtain ⟨frame, running⟩ := permitted
    obtain rfl : control = .inCallback frame := running
    exact repeated.callbackReturns continues
  | callbackThrows =>
    obtain ⟨frame, running⟩ := permitted
    obtain rfl : control = .inCallback frame := running
    exact repeated.callbackThrows
  | call call =>
    have called : (∃ frame, control = .inCallback frame) ∧
        ∀ ms, call = .advanceTime ms →
          scheduler.currentMockTime ≤ scheduler.currentMockTime + ms := by
      cases call with
      | advanceTime ms =>
        refine ⟨permitted.1, ?_⟩
        rintro other ⟨⟩
        exact permitted.2
      | _ => exact ⟨permitted, nofun⟩
    obtain ⟨⟨frame, rfl⟩, forward⟩ := called
    exact repeated.call forward

omit [CommRing Time] [LinearOrder Time] in
theorem countFlushes_append (actions later : List (MockAction Time)) :
    countFlushes (actions ++ later) = countFlushes actions + countFlushes later :=
  List.countP_append ..

theorem repeated_of_run {actions : List (MockAction Time)} (coherent : start.Coherent)
    (isIdle : start.control = .idle) (scheduled : start.scheduler.scheduledCallback = true)
    (run : ActionRun Repeats step start actions process) :
    Repeated start process (countFlushes actions) := by
  induction run with
  | start =>
    refine ⟨coherent, follows_refl _, le_refl _, .inr ?_⟩
    unfold Proceeds
    rw [isIdle]
    exact ⟨scheduled, le_refl _⟩
  | next earlier permitted ih =>
    rw [countFlushes_append]
    exact ih.step coherent.queues permitted

theorem round_leaves {after : MockProcess Time} (wellFormed : scheduler.queues.WellFormed)
    (round : Round scheduler frame after) :
    (∀ other, after.control ≠ .looping other) ∨
      after.control = .looping frame ∧
        after.scheduler.queues.taskQueue.length + 1 = scheduler.queues.taskQueue.length := by
  cases round with
  | finished noTask endsLoop timeout =>
    rw [control_returnFromFlushWork_false]
    exact .inl nofun
  | stopped endsLoop notAll stops =>
    rw [control_returnFromFlushWork_of_stops notAll stops]
    exact .inl nofun
  | called isFirst waits => exact .inl nofun
  | dropped isFirst spent =>
    exact .inr ⟨rfl, (perm_of_peek wellFormed.taskHeap isFirst).2.length_eq.symm⟩

theorem leaves_loop {count : Nat} (coherent : process.Coherent)
    (looping : process.control = .looping frame)
    (counted : process.scheduler.queues.taskQueue.length = count) :
    ∃ rounds, rounds ≤ count + 1 ∧
      ∀ other, ((List.replicate rounds .workLoop).foldl step process).control ≠ .looping other := by
  induction count generalizing process with
  | zero =>
    obtain ⟨scheduler, control⟩ := process
    obtain rfl : control = .looping frame := looping
    have head : AtLoopHead scheduler frame := coherent.holds
    refine ⟨1, Nat.le_refl 1, ?_⟩
    rcases round_leaves coherent.queues head.round with left | ⟨-, shorter⟩
    · exact left
    · rw [counted] at shorter
      cases shorter
  | succ count ih =>
    obtain ⟨scheduler, control⟩ := process
    obtain rfl : control = .looping frame := looping
    have head : AtLoopHead scheduler frame := coherent.holds
    rcases round_leaves coherent.queues head.round with left | ⟨still, shorter⟩
    · exact ⟨1, Nat.le_add_left 1 _, left⟩
    · have next := (advances_workLoop coherent).coherent
      obtain ⟨rounds, enough, left⟩ := ih next still (Nat.succ.inj (shorter.trans counted))
      exact ⟨rounds + 1, Nat.succ_le_succ enough, left⟩

/-- What holds of the mock scheduler after every list of actions. -/
structure RunsOnceInOrder (process : MockProcess Time) : Prop where
  /-- No callback and no continuation has run twice. -/
  once : process.scheduler.queues.callbacks.used.Nodup
  /-- A callback has run, was cancelled or waits with its task in a queue. -/
  accounted : ∀ token, token < process.scheduler.queues.callbacks.issued →
    process.scheduler.queues.callbacks.Settled token ∨
      ∃ task ∈ process.scheduler.queues.tasks,
        process.scheduler.queues.callback task.id = some token
  /-- The work loop runs the callback of the least task of the queue. -/
  least : ∀ frame running,
    process.control = .looping frame →
    (process.step .workLoop).control = .inCallback running →
    ∃ task ∈ process.scheduler.queues.taskQueue, ∃ token,
      process.scheduler.queues.callback task.id = some token ∧
      (process.step .workLoop).scheduler.queues.callbacks.used =
        process.scheduler.queues.callbacks.used ++ [token] ∧
      ∀ other ∈ process.scheduler.queues.taskQueue,
        task.expirationTime < other.expirationTime ∨
          task.expirationTime = other.expirationTime ∧ task.id ≤ other.id
  /-- A callback that throws ends the flush and changes no queue. -/
  kept : ∀ frame, process.control = .inCallback frame →
    (process.step .callbackThrows).control = .idle ∧
      (process.step .callbackThrows).scheduler.queues = process.scheduler.queues
  /-- Flushes that are repeated after a throw settle the tasks that had started: as long as
  they have not, each flush but the last runs a callback, and the next one goes on. -/
  repeated : ∀ frame actions later, process.control = .inCallback frame →
    ActionRun Repeats step (process.step .callbackThrows) actions later →
    later.control = .idle →
    StartedSettled (process.step .callbackThrows) later ∨
      later.scheduler.scheduledCallback = true ∧
        (process.step .callbackThrows).callbacksRun + countFlushes actions ≤ later.callbacksRun
  /-- The work loop does not go on without callbacks. -/
  leaves : ∀ frame, process.control = .looping frame →
    ∃ rounds, rounds ≤ process.scheduler.queues.taskQueue.length + 1 ∧
      ∀ other, ((List.replicate rounds .workLoop).foldl step process).control ≠
        .looping other

theorem Coherent.least {frame running : WorkLoopFrame Time} (coherent : process.Coherent)
    (looping : process.control = .looping frame)
    (called : (process.step .workLoop).control = .inCallback running) :
    ∃ task ∈ process.scheduler.queues.taskQueue, ∃ token,
      process.scheduler.queues.callback task.id = some token ∧
      (process.step .workLoop).scheduler.queues.callbacks.used =
        process.scheduler.queues.callbacks.used ++ [token] ∧
      ∀ other ∈ process.scheduler.queues.taskQueue,
        task.expirationTime < other.expirationTime ∨
          task.expirationTime = other.expirationTime ∧ task.id ≤ other.id := by
  obtain ⟨scheduler, control⟩ := process
  obtain rfl : control = .looping frame := looping
  have head : AtLoopHead scheduler frame := coherent.holds
  have wellFormed : scheduler.queues.WellFormed := coherent.queues
  have round := head.round
  change (scheduler.workLoopRound frame).control = .inCallback running at called
  change ∃ task ∈ scheduler.queues.taskQueue, ∃ token,
    scheduler.queues.callback task.id = some token ∧
      (scheduler.workLoopRound frame).scheduler.queues.callbacks.used = _ ∧ _
  generalize scheduler.workLoopRound frame = after at round called ⊢
  cases round with
  | finished noTask endsLoop timeout =>
    rw [control_returnFromFlushWork_false] at called
    cases called
  | stopped endsLoop notAll stops =>
    rw [control_returnFromFlushWork_of_stops notAll stops] at called
    cases called
  | dropped isFirst spent =>
    cases called
  | @called task token isFirst waits =>
    refine ⟨task, mem_of_peek isFirst, token, waits, ?_, ?_⟩
    · change scheduler.queues.callbacks.used ++
        (scheduler.queues.callback task.id).toList = _
      rw [waits]
      rfl
    · intro other member
      exact wellFormed.toArranged.first_task_least isFirst member

/-- Every program runs its callbacks exactly once and in order. -/
theorem runsOnceInOrder_of_actions (actions : List (MockAction Time)) :
    RunsOnceInOrder (actions.foldl step new) := by
  have coherent : (actions.foldl step (new : MockProcess Time)).Coherent :=
    coherent_foldl coherent_new actions
  generalize actions.foldl step new = process at coherent
  have wellFormed := coherent.queues
  refine ⟨wellFormed.sound.once, ?_, ?_, ?_, ?_, ?_⟩
  · intro token issued
    rcases wellFormed.sound.accounted token issued with settled | ⟨id, waits⟩
    · exact .inl settled
    · obtain ⟨task, member, rfl⟩ := wellFormed.held id (isLive_of_callback waits)
      exact .inr ⟨task, member, waits⟩
  · exact fun frame running looping called => coherent.least looping called
  · intro frame inCallback
    obtain ⟨scheduler, control⟩ := process
    obtain rfl : control = .inCallback frame := inCallback
    have running : InCallback scheduler frame := coherent.holds
    exact ⟨rfl, (leaves_callbackThrows running.toFlushing).queues⟩
  · intro frame later reached inCallback run isIdle
    obtain ⟨scheduler, control⟩ := process
    obtain rfl : control = .inCallback frame := inCallback
    have running : InCallback scheduler frame := coherent.holds
    have leaves := leaves_callbackThrows running.toFlushing
    have scheduled : (scheduler.callbackThrows frame).scheduler.scheduledCallback = true := by
      rw [leaves.scheduledCallback, running.scheduledCallback]
      rfl
    have repeated := repeated_of_run (advances_callbackThrows coherent).coherent rfl scheduled run
    rcases repeated.proceeds with settled | proceeds
    · exact .inl settled
    · unfold Proceeds at proceeds
      rw [isIdle] at proceeds
      exact .inr proceeds
  · exact fun frame looping => leaves_loop coherent looping rfl

end MockProcess

end FastReact
