import FastReact.SchedulerQueues

namespace FastReact

open ArrayHeap List Nat SchedulerQueues TokenLedger

/-!
# What the operations on the queues do

The queues are two heaps of tasks with distinct identities.  A task with a callback is in
one of them, and the moves between the queues lose no such task.
-/

namespace SchedulerQueues

variable {Time : Type}

def tasks (queues : SchedulerQueues Time) : List (SchedulerTask Time) :=
  queues.taskQueue ++ queues.timerQueue

/-- A task that was not cancelled and whose callback waits to be run. -/
def IsLive (queues : SchedulerQueues Time) (id : Nat) : Prop :=
  queues.callback id ≠ none

instance (queues : SchedulerQueues Time) (id : Nat) : Decidable (queues.IsLive id) :=
  inferInstanceAs (Decidable (_ ≠ _))

theorem isLive_of_callback {queues : SchedulerQueues Time} {id token : Nat}
    (waits : queues.callback id = some token) : queues.IsLive id := by
  unfold IsLive
  rw [waits]
  exact Option.some_ne_none token

variable {task : SchedulerTask Time}

theorem mem_tasks {queues : SchedulerQueues Time} :
    task ∈ queues.tasks ↔ task ∈ queues.taskQueue ∨ task ∈ queues.timerQueue :=
  mem_append

variable {tasks larger : List (SchedulerTask Time)}

theorem nodup_ids_cons
    (perm : larger.Perm (task :: tasks)) (ids : (tasks.map SchedulerTask.id).Nodup)
    (isNew : ∀ other ∈ tasks, other.id ≠ task.id) : (larger.map SchedulerTask.id).Nodup := by
  rw [(perm.map SchedulerTask.id).nodup_iff, map_cons, nodup_cons]
  refine ⟨?_, ids⟩
  intro member
  obtain ⟨other, otherMember, same⟩ := mem_map.mp member
  exact isNew other otherMember same

theorem nodup_ids_of_cons
    (perm : larger.Perm (task :: tasks)) (ids : (larger.map SchedulerTask.id).Nodup) :
    (tasks.map SchedulerTask.id).Nodup ∧ ∀ other ∈ tasks, other.id ≠ task.id := by
  rw [(perm.map SchedulerTask.id).nodup_iff, map_cons, nodup_cons] at ids
  refine ⟨ids.2, ?_⟩
  intro other member same
  exact ids.1 (same ▸ mem_map_of_mem member)

variable [LinearOrder Time]

/-- Both queues are heaps of tasks that were given out. -/
structure Arranged (queues : SchedulerQueues Time) : Prop where
  taskHeap : Ordered SchedulerTask.key queues.taskQueue
  timerHeap : Ordered SchedulerTask.key queues.timerQueue
  ids : (queues.tasks.map SchedulerTask.id).Nodup
  counted : ∀ task ∈ queues.tasks, task.id < queues.taskIdCounter
  byExpiration : ∀ task ∈ queues.taskQueue, task.sortIndex = task.expirationTime
  byStart : ∀ timer ∈ queues.timerQueue, timer.sortIndex = timer.startTime

/-- Every task with a callback is in a queue. -/
structure WellFormed (queues : SchedulerQueues Time) : Prop extends Arranged queues where
  sound : queues.callbacks.Sound
  held : ∀ id, queues.IsLive id → ∃ task ∈ queues.tasks, task.id = id

variable {queues before between after : SchedulerQueues Time} {timer : SchedulerTask Time}

variable {other : SchedulerTask Time} {currentTime : Time} {id : Nat}

theorem Arranged.eq_of_id (arranged : Arranged queues) (member : task ∈ queues.tasks)
    (otherMember : other ∈ queues.tasks) (same : task.id = other.id) : task = other :=
  inj_on_of_nodup_map arranged.ids member otherMember same

section

variable (arranged : Arranged queues)
include arranged

theorem Arranged.perm_pushTask : (queues.pushTask task).tasks.Perm (task :: queues.tasks) :=
  (push_perm_ordered arranged.taskHeap task).2.append_right queues.timerQueue

theorem Arranged.perm_pushTimer : (queues.pushTimer timer).tasks.Perm (timer :: queues.tasks) := by
  have perm := (push_perm_ordered arranged.timerHeap timer).2
  exact (perm.append_left queues.taskQueue).trans perm_middle

theorem Arranged.perm_popTask (isFirst : peek queues.taskQueue = some task) :
    queues.tasks.Perm (task :: queues.popTask.tasks) :=
  (perm_of_peek arranged.taskHeap isFirst).2.append_right queues.timerQueue

theorem Arranged.perm_popTimer (isFirst : peek queues.timerQueue = some timer) :
    queues.tasks.Perm (timer :: queues.popTimer.tasks) := by
  have perm := (perm_of_peek arranged.timerHeap isFirst).2
  exact (perm.append_left queues.taskQueue).trans perm_middle

theorem Arranged.mem_pushTask :
    other ∈ (queues.pushTask task).taskQueue ↔ other = task ∨ other ∈ queues.taskQueue :=
  (push_perm_ordered arranged.taskHeap task).2.mem_iff.trans mem_cons

theorem Arranged.mem_pushTimer :
    other ∈ (queues.pushTimer timer).timerQueue ↔ other = timer ∨ other ∈ queues.timerQueue :=
  (push_perm_ordered arranged.timerHeap timer).2.mem_iff.trans mem_cons

theorem Arranged.mem_popTask (isFirst : peek queues.taskQueue = some task) :
    other ∈ queues.taskQueue ↔ other = task ∨ other ∈ queues.popTask.taskQueue :=
  (perm_of_peek arranged.taskHeap isFirst).2.mem_iff.trans mem_cons

theorem Arranged.mem_popTimer (isFirst : peek queues.timerQueue = some timer) :
    other ∈ queues.timerQueue ↔ other = timer ∨ other ∈ queues.popTimer.timerQueue :=
  (perm_of_peek arranged.timerHeap isFirst).2.mem_iff.trans mem_cons

theorem Arranged.pushTask
    (isNew : ∀ other ∈ queues.tasks, other.id ≠ task.id) (counted : task.id < queues.taskIdCounter)
    (byExpiration : task.sortIndex = task.expirationTime) : Arranged (queues.pushTask task) where
  taskHeap := (push_perm_ordered arranged.taskHeap task).1
  timerHeap := arranged.timerHeap
  ids := nodup_ids_cons arranged.perm_pushTask arranged.ids isNew
  counted := by
    intro other member
    rcases mem_cons.mp (arranged.perm_pushTask.mem_iff.mp member) with rfl | earlier
    · exact counted
    · exact arranged.counted other earlier
  byExpiration := by
    intro other member
    rcases arranged.mem_pushTask.mp member with rfl | earlier
    · exact byExpiration
    · exact arranged.byExpiration other earlier
  byStart := arranged.byStart

theorem Arranged.pushTimer (isNew : ∀ other ∈ queues.tasks, other.id ≠ timer.id)
    (counted : timer.id < queues.taskIdCounter) (byStart : timer.sortIndex = timer.startTime) :
    Arranged (queues.pushTimer timer) where
  taskHeap := arranged.taskHeap
  timerHeap := (push_perm_ordered arranged.timerHeap timer).1
  ids := nodup_ids_cons arranged.perm_pushTimer arranged.ids isNew
  counted := by
    intro other member
    rcases mem_cons.mp (arranged.perm_pushTimer.mem_iff.mp member) with rfl | earlier
    · exact counted
    · exact arranged.counted other earlier
  byExpiration := arranged.byExpiration
  byStart := by
    intro other member
    rcases arranged.mem_pushTimer.mp member with rfl | earlier
    · exact byStart
    · exact arranged.byStart other earlier

theorem Arranged.popTask
    (isFirst : peek queues.taskQueue = some task) : Arranged queues.popTask where
  taskHeap := (perm_of_peek arranged.taskHeap isFirst).1
  timerHeap := arranged.timerHeap
  ids := (nodup_ids_of_cons (arranged.perm_popTask isFirst) arranged.ids).1
  counted := fun other member =>
    arranged.counted other ((arranged.perm_popTask isFirst).mem_iff.mpr (mem_cons_of_mem _ member))
  byExpiration := fun other member =>
    arranged.byExpiration other ((arranged.mem_popTask isFirst).mpr (.inr member))
  byStart := arranged.byStart

theorem Arranged.popTimer
    (isFirst : peek queues.timerQueue = some timer) : Arranged queues.popTimer where
  taskHeap := arranged.taskHeap
  timerHeap := (perm_of_peek arranged.timerHeap isFirst).1
  ids := (nodup_ids_of_cons (arranged.perm_popTimer isFirst) arranged.ids).1
  counted := fun other member =>
    arranged.counted other ((arranged.perm_popTimer isFirst).mem_iff.mpr (mem_cons_of_mem _ member))
  byExpiration := arranged.byExpiration
  byStart := fun other member =>
    arranged.byStart other ((arranged.mem_popTimer isFirst).mpr (.inr member))

end

/-- Timers that have started move to the task queue, and cancelled ones are dropped. -/
structure Advances (currentTime : Time) (before after : SchedulerQueues Time) : Prop where
  callbacks : after.callbacks = before.callbacks
  taskIdCounter : after.taskIdCounter = before.taskIdCounter
  tasks : ∀ task ∈ before.taskQueue, task ∈ after.taskQueue
  timers : ∀ timer ∈ after.timerQueue, timer ∈ before.timerQueue
  origin : ∀ task ∈ after.taskQueue,
    task ∈ before.taskQueue ∨
      ∃ timer ∈ before.timerQueue, timer.startTime ≤ currentTime ∧ task = timer.started
  moved : ∀ timer ∈ before.timerQueue, before.IsLive timer.id →
    timer ∈ after.timerQueue ∨
      timer.startTime ≤ currentTime ∧ timer.started ∈ after.taskQueue

theorem advances_refl (currentTime : Time) (queues : SchedulerQueues Time) :
    Advances currentTime queues queues where
  callbacks := rfl
  taskIdCounter := rfl
  tasks := fun _ member => member
  timers := fun _ member => member
  origin := fun _ member => .inl member
  moved := fun _ member _ => .inl member

theorem Advances.isLive (advances : Advances currentTime before after) :
    after.IsLive id ↔ before.IsLive id := by
  unfold IsLive callback
  rw [advances.callbacks]

theorem Advances.trans (earlier : Advances currentTime before between)
    (later : Advances currentTime between after) : Advances currentTime before after where
  callbacks := later.callbacks.trans earlier.callbacks
  taskIdCounter := later.taskIdCounter.trans earlier.taskIdCounter
  tasks := fun task member => later.tasks task (earlier.tasks task member)
  timers := fun timer member => earlier.timers timer (later.timers timer member)
  origin := by
    intro task member
    rcases later.origin task member with earlierMember | ⟨timer, timerMember, started⟩
    · exact earlier.origin task earlierMember
    · exact .inr ⟨timer, earlier.timers timer timerMember, started⟩
  moved := by
    intro timer member live
    rcases earlier.moved timer member live with still | ⟨started, startedMember⟩
    · exact later.moved timer still (earlier.isLive.mpr live)
    · exact .inr ⟨started, later.tasks _ startedMember⟩

theorem Advances.held (advances : Advances currentTime before after) (live : before.IsLive id)
    (held : ∃ task ∈ before.tasks, task.id = id) : ∃ task ∈ after.tasks, task.id = id := by
  obtain ⟨task, member, rfl⟩ := held
  rcases mem_tasks.mp member with isTask | isTimer
  · exact ⟨task, mem_tasks.mpr (.inl (advances.tasks task isTask)), rfl⟩
  · rcases advances.moved task isTimer live with still | ⟨-, started⟩
    · exact ⟨task, mem_tasks.mpr (.inr still), rfl⟩
    · exact ⟨task.started, mem_tasks.mpr (.inl started), rfl⟩

theorem Arranged.first_startTime_le {first : SchedulerTask Time} (arranged : Arranged queues)
    (isFirst : peek queues.timerQueue = some first) (member : timer ∈ queues.timerQueue) :
    first.startTime ≤ timer.startTime := by
  have least := Prod.Lex.monotone_fst _ _ (arranged.timerHeap.peek_le isFirst member)
  rw [← arranged.byStart first (mem_of_peek isFirst), ← arranged.byStart timer member]
  exact least

theorem Arranged.first_task_least (arranged : Arranged queues)
    (isFirst : peek queues.taskQueue = some task) (member : other ∈ queues.taskQueue) :
    task.expirationTime < other.expirationTime ∨
      task.expirationTime = other.expirationTime ∧ task.id ≤ other.id := by
  have least := Prod.Lex.le_iff.mp (arranged.taskHeap.peek_le isFirst member)
  rw [← arranged.byExpiration task (mem_of_peek isFirst), ← arranged.byExpiration other member]
  exact least

/-- One round drops a cancelled timer or moves a started one. -/
theorem Arranged.advanceRound (arranged : Arranged queues)
    (round : queues.advanceRound currentTime = some after) :
    Arranged after ∧
      Advances currentTime queues after ∧
      after.timerQueue.length + 1 = queues.timerQueue.length := by
  unfold SchedulerQueues.advanceRound at round
  cases isFirst : peek queues.timerQueue with
  | none =>
    rw [isFirst] at round
    cases round
  | some timer =>
    have shorter : queues.popTimer.timerQueue.length + 1 = queues.timerQueue.length :=
      (perm_of_peek arranged.timerHeap isFirst).2.length_eq.symm
    have popped := arranged.popTimer isFirst
    simp only [isFirst] at round
    by_cases cancelled : queues.callback timer.id = none
    · rw [if_pos cancelled, Option.some.injEq] at round
      rw [← round]
      refine ⟨popped, ⟨rfl, rfl, fun _ member => member, ?_, fun _ => .inl, ?_⟩, shorter⟩
      · exact fun other member => (arranged.mem_popTimer isFirst).mpr (.inr member)
      · intro other member live
        rcases (arranged.mem_popTimer isFirst).mp member with rfl | still
        · exact absurd cancelled live
        · exact .inl still
    · rw [if_neg cancelled] at round
      by_cases started : timer.startTime ≤ currentTime
      · rw [if_pos started, Option.some.injEq] at round
        rw [← round]
        have isNew := (nodup_ids_of_cons (arranged.perm_popTimer isFirst) arranged.ids).2
        have counted := arranged.counted timer (mem_tasks.mpr (.inr (mem_of_peek isFirst)))
        refine ⟨popped.pushTask isNew counted rfl, ⟨rfl, rfl, ?_, ?_, ?_, ?_⟩, shorter⟩
        · exact fun task member => popped.mem_pushTask.mpr (.inr member)
        · exact fun other member => (arranged.mem_popTimer isFirst).mpr (.inr member)
        · intro task member
          rcases popped.mem_pushTask.mp member with rfl | earlier
          · exact .inr ⟨timer, mem_of_peek isFirst, started, rfl⟩
          · exact .inl earlier
        · intro other member live
          rcases (arranged.mem_popTimer isFirst).mp member with rfl | still
          · exact .inr ⟨started, popped.mem_pushTask.mpr (.inl rfl)⟩
          · exact .inl still
      · rw [if_neg started] at round
        cases round

/-- The first timer is live and has not started. -/
def TimersWait (currentTime : Time) (queues : SchedulerQueues Time) : Prop :=
  ∀ timer, peek queues.timerQueue = some timer →
    queues.IsLive timer.id ∧ currentTime < timer.startTime

theorem timersWait_of_advanceRound (finished : queues.advanceRound currentTime = none) :
    TimersWait currentTime queues := by
  intro timer isFirst
  unfold advanceRound at finished
  simp only [isFirst] at finished
  by_cases cancelled : queues.callback timer.id = none
  · rw [if_pos cancelled] at finished
    cases finished
  · rw [if_neg cancelled] at finished
    by_cases started : timer.startTime ≤ currentTime
    · rw [if_pos started] at finished
      cases finished
    · exact ⟨cancelled, lt_of_not_ge started⟩

theorem Arranged.advanceRounds {rounds : Nat} (arranged : Arranged queues) (currentTime : Time)
    (enough : queues.timerQueue.length ≤ rounds) :
    Arranged (advanceRounds currentTime rounds queues) ∧
      Advances currentTime queues (advanceRounds currentTime rounds queues) ∧
      TimersWait currentTime (advanceRounds currentTime rounds queues) := by
  induction rounds generalizing queues with
  | zero =>
    refine ⟨arranged, advances_refl currentTime queues, ?_⟩
    intro timer isFirst
    have empty := eq_nil_of_length_eq_zero (le_zero.mp enough)
    unfold advanceRounds at isFirst
    rw [empty] at isFirst
    cases isFirst
  | succ rounds ih =>
    unfold advanceRounds
    cases round : queues.advanceRound currentTime with
    | none => exact ⟨arranged, advances_refl currentTime queues, timersWait_of_advanceRound round⟩
    | some next =>
      obtain ⟨nextArranged, advances, shorter⟩ := arranged.advanceRound round
      obtain ⟨lastArranged, later, wait⟩ := ih nextArranged (by omega)
      exact ⟨lastArranged, advances.trans later, wait⟩

theorem WellFormed.advanceTimers (wellFormed : WellFormed queues) (currentTime : Time) :
    WellFormed (queues.advanceTimers currentTime) ∧
      Advances currentTime queues (queues.advanceTimers currentTime) ∧
      TimersWait currentTime (queues.advanceTimers currentTime) := by
  obtain ⟨arranged, advances, wait⟩ :=
    wellFormed.toArranged.advanceRounds currentTime (le_refl queues.timerQueue.length)
  refine ⟨⟨arranged, ?_, ?_⟩, advances, wait⟩
  · rw [SchedulerQueues.advanceTimers, advances.callbacks]
    exact wellFormed.sound
  · intro id live
    have earlier := advances.isLive.mp live
    exact advances.held earlier (wellFormed.held id earlier)

theorem TimersWait.lt_startTime (wait : TimersWait currentTime queues) (arranged : Arranged queues)
    (member : timer ∈ queues.timerQueue) : currentTime < timer.startTime := by
  cases isFirst : peek queues.timerQueue with
  | none =>
    rw [peek_eq_none_iff.mp isFirst] at member
    cases member
  | some first =>
    exact lt_of_lt_of_le (wait first isFirst).2 (arranged.first_startTime_le isFirst member)

section

variable (wellFormed : WellFormed queues)
include wellFormed

theorem WellFormed.popTask
    (isFirst : peek queues.taskQueue = some task) (spent : ¬ queues.IsLive task.id) :
    WellFormed queues.popTask where
  toArranged := wellFormed.toArranged.popTask isFirst
  sound := wellFormed.sound
  held := by
    intro id live
    obtain ⟨other, member, rfl⟩ := wellFormed.held id live
    rcases mem_cons.mp ((wellFormed.perm_popTask isFirst).mem_iff.mp member) with
      rfl | still
    · exact absurd live spent
    · exact ⟨other, still, rfl⟩

theorem WellFormed.of_callbacks {callbacks : TokenLedger} (sound : callbacks.Sound)
    (live : ∀ id, callbacks.slot id ≠ none →
      queues.IsLive id ∨ ∃ task ∈ queues.tasks, task.id = id) :
    WellFormed { queues with callbacks := callbacks } where
  taskHeap := wellFormed.taskHeap
  timerHeap := wellFormed.timerHeap
  ids := wellFormed.ids
  counted := wellFormed.counted
  byExpiration := wellFormed.byExpiration
  byStart := wellFormed.byStart
  sound := sound
  held := by
    intro id isLive
    rcases live id isLive with earlier | member
    · exact wellFormed.held id earlier
    · exact member

theorem WellFormed.cancelCallback (id : Nat) : WellFormed (queues.cancelCallback id) := by
  refine wellFormed.of_callbacks wellFormed.sound.revoke ?_
  intro other live
  rw [slot_revoke] at live
  by_cases same : other = id
  · rw [if_pos same] at live
    exact absurd rfl live
  · rw [if_neg same] at live
    exact .inl live

theorem WellFormed.takeCallback (id : Nat) : WellFormed (queues.takeCallback id) := by
  refine wellFormed.of_callbacks wellFormed.sound.use ?_
  intro other live
  rw [slot_use] at live
  by_cases same : other = id
  · rw [if_pos same] at live
    exact absurd rfl live
  · rw [if_neg same] at live
    exact .inl live

theorem WellFormed.setCallback (member : task ∈ queues.tasks)
    (spent : ¬ queues.IsLive task.id) : WellFormed (queues.setCallback task.id) := by
  refine wellFormed.of_callbacks (wellFormed.sound.put (not_not.mp spent)) ?_
  intro other live
  by_cases same : other = task.id
  · exact .inr ⟨task, member, same.symm⟩
  · rw [slot_put, if_neg same] at live
    exact .inl live

theorem WellFormed.not_isLive_new : ¬ queues.IsLive queues.taskIdCounter := by
  intro live
  obtain ⟨task, member, same⟩ := wellFormed.held _ live
  exact absurd (wellFormed.counted task member) (same ▸ lt_irrefl _)

end

theorem Arranged.allocate (arranged : Arranged queues) : Arranged queues.allocate where
  taskHeap := arranged.taskHeap
  timerHeap := arranged.timerHeap
  ids := arranged.ids
  counted := fun task member => lt_succ_of_lt (arranged.counted task member)
  byExpiration := arranged.byExpiration
  byStart := arranged.byStart

section

variable (wellFormed : WellFormed queues)
include wellFormed

theorem WellFormed.of_pushed (arranged : Arranged after)
    (callbacks : after.callbacks = queues.allocate.callbacks)
    (perm : after.tasks.Perm (task :: queues.tasks)) (isNew : task.id = queues.taskIdCounter) :
    WellFormed after where
  toArranged := arranged
  sound := by
    rw [callbacks]
    exact wellFormed.sound.put (not_not.mp wellFormed.not_isLive_new)
  held := by
    intro id live
    by_cases same : id = queues.taskIdCounter
    · exact ⟨task, perm.mem_iff.mpr mem_cons_self, isNew.trans same.symm⟩
    · unfold IsLive callback at live
      rw [callbacks, allocate, slot_put, if_neg same] at live
      obtain ⟨other, member, sameId⟩ := wellFormed.held id live
      exact ⟨other, perm.mem_iff.mpr (mem_cons_of_mem _ member), sameId⟩

theorem WellFormed.pushTask
    (isNew : task.id = queues.taskIdCounter) (byExpiration : task.sortIndex = task.expirationTime) :
    WellFormed (queues.allocate.pushTask task) := by
  have allocated := wellFormed.toArranged.allocate
  refine wellFormed.of_pushed (allocated.pushTask ?_ ?_ byExpiration) rfl
    allocated.perm_pushTask isNew
  · intro other member same
    exact Nat.ne_of_lt (wellFormed.counted other member) (same.trans isNew)
  · rw [isNew]
    exact lt_succ_self _

theorem WellFormed.pushTimer
    (isNew : timer.id = queues.taskIdCounter) (byStart : timer.sortIndex = timer.startTime) :
    WellFormed (queues.allocate.pushTimer timer) := by
  have allocated := wellFormed.toArranged.allocate
  refine wellFormed.of_pushed (allocated.pushTimer ?_ ?_ byStart) rfl allocated.perm_pushTimer isNew
  · intro other member same
    exact Nat.ne_of_lt (wellFormed.counted other member) (same.trans isNew)
  · rw [isNew]
    exact lt_succ_self _

end

theorem wellFormed_new : WellFormed (new : SchedulerQueues Time) where
  taskHeap := by
    intro index _ node other nodeAt
    cases nodeAt
  timerHeap := by
    intro index _ node other nodeAt
    cases nodeAt
  ids := nodup_nil
  counted := by
    intro task member
    cases member
  byExpiration := by
    intro task member
    cases member
  byStart := by
    intro task member
    cases member
  sound := sound_empty
  held := fun id live => absurd rfl live

/-- Callbacks stay with their tasks until they are settled, and tasks keep their start. -/
structure Follows (before after : SchedulerQueues Time) : Prop where
  taskIdCounter : before.taskIdCounter ≤ after.taskIdCounter
  waits : ∀ id token, before.callback id = some token →
    after.callback id = some token ∨ after.callbacks.Settled token
  settled : ∀ token, before.callbacks.Settled token → after.callbacks.Settled token
  origin : ∀ task ∈ after.tasks, task.id < before.taskIdCounter →
    ∃ earlier ∈ before.tasks, earlier.id = task.id ∧ earlier.startTime = task.startTime

omit [LinearOrder Time] in
theorem follows_refl (queues : SchedulerQueues Time) : Follows queues queues where
  taskIdCounter := le_refl _
  waits := fun _ _ waits => .inl waits
  settled := fun _ settled => settled
  origin := fun task member _ => ⟨task, member, rfl, rfl⟩

omit [LinearOrder Time] in
theorem Follows.trans (earlier : Follows before between) (later : Follows between after) :
    Follows before after where
  taskIdCounter := le_trans earlier.taskIdCounter later.taskIdCounter
  waits := by
    intro id token waits
    rcases earlier.waits id token waits with still | settled
    · exact later.waits id token still
    · exact .inr (later.settled token settled)
  settled := fun token settled => later.settled token (earlier.settled token settled)
  origin := by
    intro task member known
    obtain ⟨between, betweenMember, sameId, sameStart⟩ :=
      later.origin task member (lt_of_lt_of_le known earlier.taskIdCounter)
    obtain ⟨first, firstMember, firstId, firstStart⟩ :=
      earlier.origin between betweenMember (sameId ▸ known)
    exact ⟨first, firstMember, firstId.trans sameId, firstStart.trans sameStart⟩

theorem Follows.startTime_eq {id token : Nat} (follows : Follows before after)
    (beforeWellFormed : WellFormed before) (afterWellFormed : WellFormed after)
    (waits : before.callback id = some token) (unsettled : ¬ after.callbacks.Settled token) :
    ∃ task ∈ before.tasks, ∃ later ∈ after.tasks,
      task.id = id ∧ later.id = id ∧ later.startTime = task.startTime := by
  obtain ⟨task, member, rfl⟩ := beforeWellFormed.held id (isLive_of_callback waits)
  rcases follows.waits task.id token waits with still | settled
  · obtain ⟨later, laterMember, same⟩ :=
      afterWellFormed.held task.id (isLive_of_callback still)
    have known := beforeWellFormed.counted task member
    obtain ⟨earlier, earlierMember, sameId, sameStart⟩ :=
      follows.origin later laterMember (same ▸ known)
    have isTask := beforeWellFormed.eq_of_id earlierMember member (sameId.trans same)
    exact ⟨task, member, later, laterMember, rfl, same, (isTask ▸ sameStart).symm⟩
  · exact absurd settled unsettled

omit [LinearOrder Time] in
theorem follows_of_tasks (callbacks : after.callbacks = before.callbacks)
    (taskIdCounter : after.taskIdCounter = before.taskIdCounter)
    (origin : ∀ task ∈ after.tasks, ∃ earlier ∈ before.tasks,
      earlier.id = task.id ∧ earlier.startTime = task.startTime) : Follows before after where
  taskIdCounter := le_of_eq taskIdCounter.symm
  waits := by
    intro id token waits
    unfold callback
    rw [callbacks]
    exact .inl waits
  settled := by
    intro token settled
    rwa [callbacks]
  origin := fun task member _ => origin task member

theorem Advances.follows (advances : Advances currentTime before after) : Follows before after := by
  refine follows_of_tasks advances.callbacks advances.taskIdCounter ?_
  intro task member
  rcases mem_tasks.mp member with isTask | isTimer
  · rcases advances.origin task isTask with earlier | ⟨timer, timerMember, -, rfl⟩
    · exact ⟨task, mem_tasks.mpr (.inl earlier), rfl, rfl⟩
    · exact ⟨timer, mem_tasks.mpr (.inr timerMember), rfl, rfl⟩
  · exact ⟨task, mem_tasks.mpr (.inr (advances.timers task isTimer)), rfl, rfl⟩

theorem Arranged.follows_popTask (arranged : Arranged queues)
    (isFirst : peek queues.taskQueue = some task) : Follows queues queues.popTask := by
  refine follows_of_tasks rfl rfl ?_
  intro other member
  refine ⟨other, ?_, rfl, rfl⟩
  exact (arranged.perm_popTask isFirst).mem_iff.mpr (mem_cons_of_mem _ member)

section

omit [LinearOrder Time]

theorem follows_of_callbacks {callbacks : TokenLedger}
    (waits : ∀ id token, queues.callback id = some token →
      callbacks.slot id = some token ∨ callbacks.Settled token)
    (settled : ∀ token, queues.callbacks.Settled token → callbacks.Settled token) :
    Follows queues { queues with callbacks := callbacks } where
  taskIdCounter := le_refl _
  waits := waits
  settled := settled
  origin := fun task member _ => ⟨task, member, rfl, rfl⟩

theorem follows_cancelCallback (queues : SchedulerQueues Time) (id : Nat) :
    Follows queues (queues.cancelCallback id) := by
  refine follows_of_callbacks ?_ fun token settled => settled_revoke.mpr (.inl settled)
  intro other token waits
  by_cases same : other = id
  · exact .inr (settled_revoke.mpr (.inr (same ▸ waits)))
  · rw [slot_revoke, if_neg same]
    exact .inl waits

theorem follows_takeCallback (queues : SchedulerQueues Time) (id : Nat) :
    Follows queues (queues.takeCallback id) := by
  refine follows_of_callbacks ?_ fun token settled => settled_use.mpr (.inl settled)
  intro other token waits
  by_cases same : other = id
  · exact .inr (settled_use.mpr (.inr (same ▸ waits)))
  · rw [slot_use, if_neg same]
    exact .inl waits

theorem follows_setCallback {id : Nat} (spent : ¬ queues.IsLive id) :
    Follows queues (queues.setCallback id) := by
  refine follows_of_callbacks ?_ fun _ settled => settled
  intro other token waits
  have elsewhere : other ≠ id := by
    rintro rfl
    exact spent (isLive_of_callback waits)
  rw [slot_put, if_neg elsewhere]
  exact .inl waits

end

theorem WellFormed.follows_pushed (wellFormed : WellFormed queues)
    (callbacks : after.callbacks = queues.allocate.callbacks)
    (taskIdCounter : after.taskIdCounter = queues.taskIdCounter + 1)
    (perm : after.tasks.Perm (task :: queues.tasks)) (isNew : task.id = queues.taskIdCounter) :
    Follows queues after where
  taskIdCounter := taskIdCounter ▸ le_succ _
  waits := by
    intro id token waits
    have elsewhere : id ≠ queues.taskIdCounter := by
      rintro rfl
      exact wellFormed.not_isLive_new (isLive_of_callback waits)
    unfold callback
    rw [callbacks, allocate, slot_put, if_neg elsewhere]
    exact .inl waits
  settled := by
    intro token settled
    rw [callbacks]
    exact settled
  origin := by
    intro other member known
    rcases mem_cons.mp (perm.mem_iff.mp member) with rfl | earlier
    · exact absurd (isNew ▸ known) (lt_irrefl _)
    · exact ⟨other, earlier, rfl, rfl⟩

/-- Calls from outside or from a callback run nothing and leave started tasks where they
are; a task whose callback is gone gets none back. -/
structure Grows (before after : SchedulerQueues Time) : Prop extends Follows before after where
  wellFormed : WellFormed after
  tasks : ∀ task ∈ before.taskQueue, task ∈ after.taskQueue
  spent : ∀ id, id < before.taskIdCounter → ¬ before.IsLive id → ¬ after.IsLive id
  used : after.callbacks.used = before.callbacks.used

section

variable (wellFormed : WellFormed queues)
include wellFormed

theorem WellFormed.grows_refl : Grows queues queues where
  toFollows := follows_refl queues
  wellFormed := wellFormed
  tasks := fun _ member => member
  spent := fun _ _ spent => spent
  used := rfl

theorem WellFormed.grows_advanceTimers (currentTime : Time) :
    Grows queues (queues.advanceTimers currentTime) := by
  obtain ⟨advanced, advances, -⟩ := wellFormed.advanceTimers currentTime
  refine ⟨advances.follows, advanced, advances.tasks, ?_, ?_⟩
  · intro id _ spent live
    exact spent (advances.isLive.mp live)
  · rw [advances.callbacks]

theorem WellFormed.grows_cancelCallback (id : Nat) : Grows queues (queues.cancelCallback id) where
  toFollows := follows_cancelCallback queues id
  wellFormed := wellFormed.cancelCallback id
  tasks := fun _ member => member
  spent := by
    intro other _ spent live
    unfold IsLive callback SchedulerQueues.cancelCallback at live
    rw [slot_revoke] at live
    by_cases same : other = id
    · rw [if_pos same] at live
      exact live rfl
    · rw [if_neg same] at live
      exact spent live
  used := rfl

end

omit [LinearOrder Time] in
theorem not_isLive_of_allocated (callbacks : after.callbacks = queues.allocate.callbacks)
    (known : id < queues.taskIdCounter) (spent : ¬ queues.IsLive id) : ¬ after.IsLive id := by
  intro live
  unfold IsLive callback at live
  rw [callbacks, allocate, slot_put, if_neg (Nat.ne_of_lt known)] at live
  exact spent live

section

variable (wellFormed : WellFormed queues)
include wellFormed

theorem WellFormed.grows_pushTask
    (isNew : task.id = queues.taskIdCounter) (byExpiration : task.sortIndex = task.expirationTime) :
    Grows queues (queues.allocate.pushTask task) where
  toFollows := wellFormed.follows_pushed rfl rfl wellFormed.toArranged.allocate.perm_pushTask isNew
  wellFormed := wellFormed.pushTask isNew byExpiration
  tasks := fun _ member => wellFormed.toArranged.allocate.mem_pushTask.mpr (.inr member)
  spent := fun _ => not_isLive_of_allocated rfl
  used := rfl

theorem WellFormed.grows_pushTimer
    (isNew : timer.id = queues.taskIdCounter) (byStart : timer.sortIndex = timer.startTime) :
    Grows queues (queues.allocate.pushTimer timer) where
  toFollows := wellFormed.follows_pushed rfl rfl wellFormed.toArranged.allocate.perm_pushTimer isNew
  wellFormed := wellFormed.pushTimer isNew byStart
  tasks := fun _ member => member
  spent := fun _ => not_isLive_of_allocated rfl
  used := rfl

theorem WellFormed.finishTask (member : task ∈ queues.taskQueue)
    (spent : ¬ queues.IsLive task.id) (continues : Bool) :
    WellFormed (queues.finishTask task continues) ∧
      Follows queues (queues.finishTask task continues) ∧
      (queues.finishTask task continues).callbacks.used = queues.callbacks.used := by
  unfold SchedulerQueues.finishTask
  cases continues with
  | true =>
    rw [if_pos rfl]
    exact ⟨wellFormed.setCallback (mem_tasks.mpr (.inl member)) spent,
      follows_setCallback spent, rfl⟩
  | false =>
    rw [if_neg Bool.false_ne_true]
    by_cases isFirst : (peek queues.taskQueue).map SchedulerTask.id = some task.id
    · rw [if_pos isFirst]
      obtain ⟨first, found, sameId⟩ := Option.map_eq_some_iff.mp isFirst
      have spentFirst : ¬ queues.IsLive first.id := sameId ▸ spent
      exact ⟨wellFormed.popTask found spentFirst, wellFormed.toArranged.follows_popTask found, rfl⟩
    · rw [if_neg isFirst]
      exact ⟨wellFormed, follows_refl queues, rfl⟩

end

end SchedulerQueues

end FastReact
