import FastReact.LinkQueue
import FastReact.StagedUpdates
import FastReact.SyncWork

namespace FastReact

open ErrorState FiberRootStore Function LinkQueue List SlotArena

/-!
# The list of scheduled roots

The scheduled roots are a queue along their links, and the microtask takes roots out while
it walks.  In every run each scheduled root is in the list once.
-/

def SchedulerBridge.setActQueueActive (bridge : SchedulerBridge) (active : Bool) :
    SchedulerBridge :=
  { bridge with actQueueActive := active }

/-- What a root links to. -/
def scheduleLink (arena : SlotArena FiberRootTag FiberRoot) (id : FiberRootId) :
    Option (Option FiberRootId) :=
  (arena.get? id).map (·.scheduling.nextScheduledRoot)

def FiberRootStore.Schedules (store : FiberRootStore) (roots : List FiberRootId) : Prop :=
  IsQueue (scheduleLink store.roots) store.rootScheduler.firstScheduledRoot
    store.rootScheduler.lastScheduledRoot roots

/-- The list stays as it is. -/
def KeepsSchedule (store after : FiberRootStore) : Prop :=
  ∀ roots, store.Schedules roots → after.Schedules roots

instance : IsPreorder FiberRootStore KeepsSchedule where
  refl _ _ := id
  trans _ _ _ keeps keepsLater roots schedules := keepsLater roots (keeps roots schedules)

/-- Whatever its outcome, a computation leaves the list alone. -/
abbrev Keeps {ε α : Type} (body : EStateM ε FiberRootStore α) : Prop :=
  Within KeepsSchedule body

/-- The roots have the same lanes to render. -/
def SameSelections (store after : FiberRootStore) : Prop :=
  ∀ id, (after.roots.get? id).map FiberRoot.selectLanes =
    (store.roots.get? id).map FiberRoot.selectLanes

variable {arena : SlotArena FiberRootTag FiberRoot} {store : FiberRootStore}
  {roots kept rest : List FiberRootId} {rounds : Nat} {id : FiberRootId} {root : FiberRoot}

theorem scheduleLink_setNext (live : (scheduleLink arena id).isSome) (next : Option FiberRootId) :
    scheduleLink (arena.modify id (FiberRoot.onScheduling (·.setNextScheduledRoot next))) =
      update (scheduleLink arena) id (some next) := by
  obtain ⟨root, found⟩ := Option.isSome_iff_exists.mp (Option.isSome_map ▸ live)
  funext other
  rw [scheduleLink, get?_modify, update_apply]
  split_ifs with same
  · rw [same, found]
    rfl
  · rfl

theorem FiberRootStore.Schedules.modify {change : FiberRoot → FiberRoot}
    (schedules : store.Schedules roots)
    (keeps : ∀ root, (change root).scheduling.nextScheduledRoot = root.scheduling.nextScheduledRoot)
    (id : FiberRootId) : { store with roots := store.roots.modify id change }.Schedules roots := by
  have links : scheduleLink (store.roots.modify id change) = scheduleLink store.roots :=
    funext fun other => map_get?_modify keeps store.roots id other
  rw [FiberRootStore.Schedules, links]
  exact schedules

theorem sameSelections_modify {change : FiberRoot → FiberRoot}
    (same : ∀ root, (change root).selectLanes = root.selectLanes) (id : FiberRootId)
    (store : FiberRootStore) :
    SameSelections store { store with roots := store.roots.modify id change } :=
  fun other => map_get?_modify same store.roots id other

/-- A new root is not linked. -/
theorem FiberRootStore.Schedules.insert (schedules : store.Schedules roots)
    (unlinked : root.scheduling.nextScheduledRoot = none) :
    { store with roots := (store.roots.insert root).2 }.Schedules roots := by
  have fresh : scheduleLink store.roots (store.roots.insert root).1 = none := by
    rw [scheduleLink, get?_insert_fresh]
    rfl
  have links : scheduleLink (store.roots.insert root).2 =
      update (scheduleLink store.roots) (store.roots.insert root).1 (some none) := by
    funext other
    rw [scheduleLink, get?_insert, update_apply]
    split_ifs
    · exact congrArg some unlinked
    · rfl
  rw [FiberRootStore.Schedules, links]
  exact schedules.add fresh

theorem run_appendScheduledRoot (schedules : store.Schedules roots)
    (live : (scheduleLink store.roots id).isSome) (absent : id ∉ roots) :
    ∃ after, (appendScheduledRoot id).run store = .ok () after ∧
      after.Schedules (roots ++ [id]) := by
  unfold appendScheduledRoot
  simp only [run_bind, run_get, schedules.ends]
  cases isTail : roots.getLast? with
  | none => exact ⟨_, rfl, schedules.pushFirst (getLast?_eq_none_iff.mp isTail) live⟩
  | some tail =>
    have tailLive := schedules.live tail (mem_of_getLast? isTail)
    obtain ⟨root, found⟩ := Option.isSome_iff_exists.mp (Option.isSome_map ▸ tailLive)
    have pushed := schedules.push isTail live absent
    rw [← scheduleLink_setNext tailLive] at pushed
    simp only [run_bind, run_modifyRoot found, modifyScheduler, run_modify]
    exact ⟨_, rfl, pushed⟩

/-- Scheduling a live root puts it at the end of the list unless it is there. -/
theorem run_ensureRootScheduleEntry (schedules : store.Schedules roots)
    (found : store.roots.get? id = some root) :
    ∃ result after, (ensureRootScheduleEntry id).run store = .ok result after ∧
      after.Schedules (if id ∈ roots then roots else roots ++ [id]) ∧
      (result.inserted = true ↔ id ∉ roots) := by
  have link : scheduleLink store.roots id = some root.scheduling.nextScheduledRoot := by
    rw [scheduleLink, found]
    rfl
  have scheduled : id ∈ roots ↔ _ := schedules.mem_iff
  rw [link, Option.join_some] at scheduled
  have ends : ∀ between : FiberRootStore, ∃ after,
      ensureScheduleMicrotaskIsScheduled.run { between with
        rootScheduler := { between.rootScheduler with mightHavePendingSyncWork := true } } =
          .ok () after ∧ KeepsSchedule between after := by
    intro between
    simp only [ensureScheduleMicrotaskIsScheduled, run_bind, run_get]
    split_ifs <;> exact ⟨_, rfl, fun _ schedules => schedules⟩
  simp only [ensureRootScheduleEntry, run_bind, run_get]
  by_cases already : id ∈ roots
  · obtain ⟨after, ranEnd, keeps⟩ := ends store
    have scheduledAfter := keeps _ schedules
    rw [if_pos already]
    by_cases isLast : store.rootScheduler.lastScheduledRoot = some id
    · rw [if_pos isLast]
      simp only [run_bind, run_pure, Bool.not_true, Bool.false_eq_true, if_false, modifyScheduler,
        run_modify, ranEnd, run_get]
      exact ⟨_, after, rfl, scheduledAfter, by simp [already]⟩
    · rw [if_neg isLast]
      simp only [run_bind, run_getRoot found, (scheduled.mp already).resolve_left isLast, run_pure,
        Bool.not_true, Bool.false_eq_true, if_false, modifyScheduler, run_modify, ranEnd, run_get]
      exact ⟨_, after, rfl, scheduledAfter, by simp [already]⟩
  · obtain ⟨notLast, notLinked⟩ := not_or.mp (mt scheduled.mpr already)
    obtain ⟨appended, ran, schedulesAppended⟩ :=
      run_appendScheduledRoot schedules (by rw [link]; rfl) already
    obtain ⟨after, ranEnd, keeps⟩ := ends appended
    rw [if_neg already, if_neg notLast]
    simp only [run_bind, run_getRoot found, notLinked, run_pure, Bool.not_false, if_true, ran,
      modifyScheduler, run_modify, ranEnd, run_get]
    exact ⟨_, after, rfl, keeps _ schedulesAppended, by simp [already]⟩

theorem run_ensureRootScheduleEntry_of_dead (schedules : store.Schedules roots)
    (dead : store.roots.get? id = none) :
    ∃ error, (ensureRootScheduleEntry id).run store = .error error store := by
  have notLast : store.rootScheduler.lastScheduledRoot ≠ some id := by
    intro isLast
    have live := schedules.live id (schedules.mem_iff.mpr (.inl isLast))
    simp [scheduleLink, dead] at live
  cases found : store.root id with
  | ok root => cases dead.symm.trans (root_eq_ok_iff.mp found)
  | error error =>
    refine ⟨.fiberRootStore error, ?_⟩
    simp [ensureRootScheduleEntry, run_bind, notLast, getRoot, found, Except.mapError]

/-- The microtask schedules a task for a live root, and the list and all selections stay. -/
theorem run_scheduleTask_keepsSchedule (found : store.roots.get? id = some root) :
    ∃ record after, (scheduleTaskForRootDuringMicrotask id).run store = .ok record after ∧
      record.root = id ∧ record.nextLanes = root.selectLanes.renderLanes ∧
      KeepsSchedule store after ∧ SameSelections store after := by
  have selected : store.selectLanesForScheduledTask id = .ok root.selectLanes := by
    simp [selectLanesForScheduledTask, root_eq_ok_iff.mpr found, Except.mapError, bind, Except.bind,
      pure, Except.pure]
  simp only [scheduleTaskForRootDuringMicrotask, replaceCallback, modifyBridge, run_bind, run_query,
    selected, run_getRoot found]
  split_ifs
  on_goal 3 => simp only [run_bind, run_get]
  on_goal 3 => split_ifs
  on_goal 3 => exact ⟨_, _, rfl, rfl, rfl, fun _ schedules => schedules, fun _ => rfl⟩
  all_goals
    simp only [run_bind, run_modify, run_modifyGet, run_pure, run_modifyRoot_afterRequest found]
    exact ⟨_, _, rfl, rfl, rfl, fun _ schedules => schedules.modify (fun _ => by rfl) id,
      sameSelections_modify (fun _ => by rfl) id store⟩

/-- Take a root out behind those kept before it. -/
theorem run_removeScheduledRoot (schedules : store.Schedules (kept ++ id :: rest)) :
    ∃ after, (removeScheduledRoot kept.getLast? id rest.head?).run store = .ok () after ∧
      after.Schedules (kept ++ rest) ∧ SameSelections store after := by
  have live := schedules.live id (by simp)
  obtain ⟨root, found⟩ := Option.isSome_iff_exists.mp (Option.isSome_map ▸ live)
  obtain ⟨arena, isArena⟩ : ∃ arena, arena = store.roots.modify id
    (FiberRoot.onScheduling (·.setNextScheduledRoot none)) := ⟨_, rfl⟩
  have same : SameSelections store { store with roots := arena } :=
    isArena ▸ sameSelections_modify (fun _ => by rfl) id store
  have links := scheduleLink_setNext live none
  rw [← isArena] at links
  simp only [removeScheduledRoot, run_bind, run_modifyRoot found, ← isArena]
  cases isLast : kept.getLast? with
  | none =>
    obtain rfl := getLast?_eq_none_iff.mp isLast
    have removed := IsQueue.removeFirst schedules
    rw [← links] at removed
    simp only [run_bind, modifyScheduler, run_modify]
    split_ifs at removed ⊢
    all_goals exact ⟨_, rfl, removed, same⟩
  | some previous =>
    have removed := IsQueue.removeBehind isLast schedules
    have distinct : previous ≠ id := by
      have distinct := schedules.walk.nodup
      grind [mem_of_getLast?]
    have previousLive : (scheduleLink arena previous).isSome := by
      rw [links, update_of_ne distinct]
      exact schedules.live previous (mem_append_left _ (mem_of_getLast? isLast))
    obtain ⟨_, foundPrevious⟩ := Option.isSome_iff_exists.mp (Option.isSome_map ▸ previousLive)
    rw [← links, ← scheduleLink_setNext previousLive] at removed
    simp only [run_bind, @run_modifyRoot _ { store with roots := arena } _ _ foundPrevious]
    split_ifs at removed ⊢
    all_goals exact ⟨_, rfl, removed, fun other =>
      (map_get?_modify (fun _ => by rfl) arena previous other).trans (same other)⟩

/-- The roots that still have work according to their tasks. -/
def rootsWithWork (records : List RootTaskScheduleRecord) : List FiberRootId :=
  (records.filter (!·.nextLanes.isEmpty)).map (·.root)

theorem run_processScheduledRoot (schedules : store.Schedules (kept ++ id :: rest))
    (found : store.roots.get? id = some root) :
    ∃ record after, (processScheduledRoot kept.getLast? id rest.head?).run store =
        .ok ((kept ++ rootsWithWork [record]).getLast?, record) after ∧
      record.root = id ∧ record.nextLanes = root.selectLanes.renderLanes ∧
      after.Schedules (kept ++ rootsWithWork [record] ++ rest) ∧ SameSelections store after := by
  obtain ⟨record, after, ran, rfl, lanes, keeps, same⟩ := run_scheduleTask_keepsSchedule found
  have scheduled := keeps _ schedules
  simp only [processScheduledRoot, run_bind, ran]
  cases noWork : record.nextLanes.isEmpty with
  | true =>
    obtain ⟨removed, ranRemove, schedulesRemoved, sameRemoved⟩ := run_removeScheduledRoot scheduled
    have isKept : kept ++ rootsWithWork [record] = kept := by simp [rootsWithWork, noWork]
    simp only [if_true, run_bind, ranRemove]
    refine ⟨record, removed, by rw [isKept]; rfl, rfl, lanes, by rwa [isKept], ?_⟩
    exact fun other => (sameRemoved other).trans (same other)
  | false =>
    have holds : rootsWithWork [record] = [record.root] := by simp [rootsWithWork, noWork]
    have isLast : some record.root = (kept ++ rootsWithWork [record]).getLast? := by simp [holds]
    rw [← singleton_append, ← append_assoc, ← holds] at scheduled
    simp only [Bool.false_eq_true, if_false]
    split
    all_goals
      simp only [modifyScheduler, run_bind, run_modify, run_pure, isLast]
      exact ⟨record, _, rfl, rfl, lanes, scheduled, same⟩

/-- The loop handles the rest of the list, and its roots with work stay. -/
theorem run_processScheduledRoots (schedules : store.Schedules (kept ++ rest))
    (enough : rest.length ≤ rounds) (records : List RootTaskScheduleRecord) :
    ∃ found after, (processScheduledRoots rounds kept.getLast? rest.head? records).run store =
        .ok (records ++ found) after ∧
      found.map (·.root) = rest ∧
      (∀ record ∈ found, ∃ root, store.roots.get? record.root = some root ∧
        record.nextLanes = root.selectLanes.renderLanes) ∧
      after.Schedules (kept ++ rootsWithWork found) := by
  induction rest generalizing kept records rounds store with
  | nil => exact ⟨[], store, by simp [processScheduledRoots], rfl, by simp, schedules⟩
  | cons id rest ih =>
    obtain ⟨rounds, rfl⟩ := Nat.exists_eq_add_of_lt enough
    obtain ⟨root, found, next⟩ := Option.map_eq_some_iff.mp schedules.link_eq
    obtain ⟨record, between, ran, rfl, lanes, scheduled, same⟩ :=
      run_processScheduledRoot schedules found
    have enoughLeft : rest.length ≤ rest.length + rounds := Nat.le_add_right _ _
    obtain ⟨later, after, ranRest, rfl, lanesLater, schedulesAfter⟩ :=
      ih scheduled enoughLeft (records ++ [record])
    refine ⟨record :: later, after, ?_, rfl, forall_mem_cons.mpr ⟨⟨root, found, lanes⟩, ?_⟩, ?_⟩
    · simp only [head?_cons, processScheduledRoots, run_bind, run_getRoot found, next, ran, ranRest,
        append_assoc, singleton_append]
    · intro other member
      obtain ⟨root, foundRoot, isLanes⟩ := lanesLater other member
      have selects := same other.root
      rw [foundRoot] at selects
      obtain ⟨before, foundBefore, isSame⟩ := Option.map_eq_some_iff.mp selects.symm
      exact ⟨before, foundBefore, by rw [isLanes, isSame]⟩
    · rw [rootsWithWork, ← singleton_append, filter_append, map_append, ← append_assoc]
      exact schedulesAfter

theorem FiberRootStore.Schedules.length_le (schedules : store.Schedules roots) :
    roots.length ≤ store.roots.slots.length := by
  refine length_le_of_nodup schedules.walk.nodup fun id member => ?_
  exact Option.isSome_iff_exists.mp (Option.isSome_map ▸ schedules.live id member)

/-- The microtask handles each scheduled root once, in order, and those with work stay. -/
theorem run_processRootScheduleInMicrotask (schedules : store.Schedules roots) :
    ∃ records after,
      (processRootScheduleInMicrotask (store.roots.slots.length + 1)).run store =
        .ok records after ∧
      records.map (·.root) = roots ∧
      (∀ record ∈ records, ∃ root, store.roots.get? record.root = some root ∧
        record.nextLanes = root.selectLanes.renderLanes) ∧
      after.Schedules (rootsWithWork records) := by
  simp only [processRootScheduleInMicrotask, modifyScheduler, run_bind, run_modify, run_get,
    schedules.walk.first_eq]
  refine @run_processScheduledRoots { store with rootScheduler := _ } [] roots _ ?_
    (Nat.le_succ_of_le schedules.length_le) []
  rw [← schedules.walk.first_eq]
  exact schedules

theorem FiberRootStore.Schedules.followScheduledRoots_eq
    (schedules : store.Schedules (kept ++ rest)) (enough : rest.length ≤ rounds) :
    store.followScheduledRoots rounds rest.head? kept = .ok (kept ++ rest) := by
  induction rest generalizing kept rounds with
  | nil => simp [followScheduledRoots]
  | cons id rest ih =>
    obtain ⟨rounds, rfl⟩ := Nat.exists_eq_add_of_lt enough
    obtain ⟨root, found, next⟩ := Option.map_eq_some_iff.mp schedules.link_eq
    rw [append_cons] at schedules ⊢
    rw [← ih schedules (Nat.le_add_right rest.length rounds), ← next]
    simp [followScheduledRoots, root_eq_ok_iff.mpr found, Except.mapError, bind, Except.bind]

theorem FiberRootStore.Schedules.scheduledRoots_eq (schedules : store.Schedules roots) :
    store.scheduledRoots = .ok roots := by
  have scheduled : store.Schedules ([] ++ roots) := schedules
  rw [scheduledRoots, schedules.walk.first_eq]
  exact scheduled.followScheduledRoots_eq (Nat.le_succ_of_le schedules.length_le)

section Frames

variable {ε α : Type} (rootId : FiberRootId)

theorem keeps_root {change : FiberRoot → FiberRoot}
    (keeps : ∀ root, (change root).scheduling.nextScheduledRoot = root.scheduling.nextScheduledRoot)
    (wrap : FiberRootStoreError → ε) : Keeps (modifyRoot wrap rootId change) :=
  within_modifyRoot wrap fun _ _ schedules => schedules.modify keeps rootId

theorem keeps_queues (wrap : UpdateQueueError → ε) (body : UpdateQueueM α) :
    Keeps (onUpdateQueues wrap body) :=
  within_onUpdateQueues wrap body fun _ _ _ same => same

theorem keeps_fibers (wrap : FiberTopologyError → ε) (body : FiberArenaM α) :
    Keeps (onFibers wrap body) :=
  within_onFibers wrap body fun _ _ _ same => same

theorem keeps_createClientRoot (formState : RootFormStateHandle) (mode : FiberMode) :
    Keeps (createClientRoot formState mode) :=
  .bind (.modifyGet fun _ _ same => same) fun _ => .bind (keeps_fibers _ _) fun _ =>
  .bind (.modifyGet fun _ _ schedules => schedules.insert rfl) fun _ =>
  .bind (keeps_fibers _ _) fun _ => .pure _

theorem keeps_ensureHostRootUpdateQueue :
    Keeps (ensureHostRootUpdateQueue rootId) := by
  refine .bind (within_getRoot _ _) fun root => .bind (within_getFiber _ _) fun node =>
    .ite (.pure _) (.bind (.query _) fun state =>
      .bind (.modifyGet fun _ _ same => same) fun queue =>
      .bind (keeps_fibers _ _) fun _ => .bind (within_getFiber _ _) fun after => ?_)
  cases after.alternate with
  | none => exact .pure _
  | some alternate => exact .bind (keeps_fibers _ _) fun _ => .pure _

theorem keeps_updateContainerImpl (rootFiber : FiberId)
    (laneChoice : RootUpdateLaneChoiceRecord) (element : RootElementHandle)
    (callback : Option RootUpdateCallbackHandle) :
    Keeps (updateContainerImpl rootId rootFiber laneChoice element callback) := by
  have ignores : IgnoresFibers KeepsSchedule := fun _ _ _ same => same
  have marks : ∀ fiber lanes, Keeps (markUpdateLanesFromFiberToRoot fiber lanes) :=
    ignores.within_markUpdateLanesFromFiberToRoot fun marked _ _ _ schedules =>
      schedules.modify (fun _ => by rfl) marked
  have drains : Keeps finishQueueingConcurrentUpdates :=
    .bind within_validateStagedConcurrentUpdatesForDrain fun _ =>
    .bind (.modifyGet fun _ _ same => same) fun _ => .foldlM (fun roots entry =>
      within_drainStagedEntry roots entry (marks _ _) fun _ _ _ _ => keeps_queues _ _) _ _
  have enqueues : ∀ fiber queue update lane,
      Keeps (enqueueConcurrentHostRootUpdate fiber queue update lane) :=
    ignores.within_enqueueConcurrentHostRootUpdate fun _ _ _ same => same
  refine .bind (within_getRoot _ _) fun root =>
    .bind (.mapError _ (keeps_ensureHostRootUpdateQueue rootId)) fun queue =>
    .bind (keeps_queues _ _) fun update => .bind (keeps_queues _ _) fun _ => ?_
  rcases callback with - | callback
  on_goal 2 => refine .ite (.bind (keeps_queues _ _) fun _ => ?_) ?_
  all_goals
    refine .bind (.mapError _ (enqueues _ _ _ _)) fun enqueued => .guard fun _ =>
      .bind (.mapError _ drains) fun _ => .bind (within_getRoot _ _) fun pending =>
      .bind (.bind (within_getRoot _ _) fun _ => .guard fun _ => .pure _) fun selected =>
      .bind (within_getRoot _ _) fun after => .bind (keeps_queues _ _) fun entangled => ?_
    rcases entangled with - | lanes
    · exact .bind (.pure _) fun _ => .pure _
    · exact .bind (keeps_root _ (fun _ => by rfl) _) fun _ =>
        .bind (.pure _) fun _ => .pure _

theorem keeps_renderHostRootForLanes (renderLanes : Lanes) :
    Keeps (renderHostRootForLanes rootId renderLanes) := by
  have ignores : IgnoresFibers KeepsSchedule := fun _ _ _ same => same
  have refreshes : ∀ current workInProgress queue,
      Keeps (refreshUpdateQueueForWorkInProgress rootId current workInProgress queue) := by
    intro current workInProgress queue
    unfold refreshUpdateQueueForWorkInProgress
    exact .guard fun _ => .bind (keeps_queues _ _) fun _ =>
      .bind (keeps_fibers _ _) fun _ => .pure _
  exact .bind (within_getRoot _ _) fun _ =>
    .bind (.mapError _ (keeps_ensureHostRootUpdateQueue rootId)) fun _ =>
    .bind (.mapError _ (ignores.within_createHostRootWorkInProgress _ _)) fun _ =>
    .bind (refreshes _ _ _) fun _ => .bind (keeps_queues _ _) fun _ =>
    .bind (.modifyGet fun _ _ same => same) fun _ => .bind (keeps_fibers _ _) fun _ =>
    .bind (keeps_root _ (fun _ => by rfl) _) fun _ => .pure _

theorem keeps_commitFinishedHostRoot (render : HostRootRenderPhaseRecord) :
    Keeps (commitFinishedHostRoot render) :=
  .bind (.query _) fun _ => .bind (within_getRoot _ _) fun _ => .bind (.query _) fun _ =>
  .bind (keeps_root _ (fun _ => by rfl) _) fun _ =>
  .bind (within_getRoot _ _) fun _ => .bind (keeps_queues _ _) fun _ => .pure _

theorem keeps_executeScheduledRootCallback (callback : SchedulerCallbackRequest) :
    Keeps (executeScheduledRootCallback callback) := by
  have validates : ∀ node, Keeps (validateScheduledHostRootCallback callback.root node) :=
    fun node => .bind (within_getRoot _ _) fun _ => .pure _
  exact .bind (.mapError _ (validates _)) fun _ => .ite (.pure _) (.bind (.query _) fun _ =>
    .ite (.bind (keeps_root _ (fun _ => by rfl) _) fun _ => .pure _)
    (.bind (.mapError _ (.bind (validates _) fun _ => .ite (.pure _)
      (.bind (keeps_renderHostRootForLanes _ _) fun _ => .pure _))) fun _ => .pure _))

theorem keeps_flushSyncWorkPass (rounds : Nat) (first : Option FiberRootId)
    (records : List SyncFlushRootRecord) : Keeps (flushSyncWorkPass rounds first records) := by
  fun_induction flushSyncWorkPass rounds first records with
  | case1 => exact .pure _
  | case2 => exact .throw _
  | case3 rounds rootId records ih =>
    refine .bind (within_getRoot _ _) fun root => .bind (.bind (.query _) fun lanes => ?_) (ih _)
    exact .ite (.bind (.mapError _ (keeps_renderHostRootForLanes _ _)) fun render =>
      .bind (.bind (.mapError _ (keeps_commitFinishedHostRoot render)) fun _ => .pure _)
        fun _ => .pure _) (.pure _)

theorem keeps_flushSyncCommitWorkOnAllRoots (passes : Nat) :
    Keeps (flushSyncCommitWorkOnAllRoots passes) := by
  have across : ∀ passes records, Keeps (flushSyncWorkAcrossScheduledRoots passes records) := by
    intro passes
    induction passes with
    | zero => exact fun _ => .throw _
    | succ passes ih =>
      exact fun records => .bind .get fun _ => .bind (keeps_flushSyncWorkPass _ _ _) fun _ =>
        .ite (.pure _) (ih _)
  refine .bind .get fun scheduler => .ite (.pure _) (.ite (.pure _)
    (.bind (.modify fun _ _ same => same) fun _ => ?_))
  intro store roots schedules
  have kept := across passes [] store roots schedules
  simp only [run_bind, run_get]
  split
  · next flushed =>
    rw [flushed] at kept
    refine (?_ : KeepsSchedule _ _) _ kept
    exact Within.after_first fun _ => .bind (.modify fun _ _ same => same) fun _ =>
      .bind (.mapError _ (.bind (.query _) fun _ =>
        .bind (.modify fun _ _ same => same) fun _ => .pure _)) fun _ => .pure _
  · next failed =>
    rw [failed] at kept
    exact kept

end Frames

/-- The calls that make updates, and schedule, render and commit roots. -/
inductive RootScheduleCall where
  | createClientRoot (formState : RootFormStateHandle) (mode : FiberMode)
  | updateContainer (root : FiberRootId) (rootFiber : FiberId)
      (laneChoice : RootUpdateLaneChoiceRecord) (element : RootElementHandle)
      (callback : Option RootUpdateCallbackHandle)
  | ensureRootIsScheduled (record : RootScheduleUpdateRecord)
  | ensureRootIsRescheduled (record : RootRescheduleRequestRecord)
  | setActQueueActive (active : Bool)
  | processRootScheduleInMicrotask
  | executeScheduledRootCallback (callback : SchedulerCallbackRequest)
  | flushSyncCommitWorkOnAllRoots (passes : Nat)
  | commitFinishedHostRoot (render : HostRootRenderPhaseRecord)

namespace FiberRootStore

/-- The store after a call, whatever its outcome. -/
def afterScheduleCall (store : FiberRootStore) : RootScheduleCall → FiberRootStore
  | .createClientRoot formState mode =>
      stateAfter ((FastReact.createClientRoot formState mode).run store)
  | .updateContainer root rootFiber laneChoice element callback =>
      stateAfter ((updateContainerImpl root rootFiber laneChoice element callback).run store)
  | .ensureRootIsScheduled record => stateAfter ((FastReact.ensureRootIsScheduled record).run store)
  | .ensureRootIsRescheduled record =>
      stateAfter ((FastReact.ensureRootIsRescheduled record).run store)
  | .setActQueueActive active =>
      { store with schedulerBridge := store.schedulerBridge.setActQueueActive active }
  | .processRootScheduleInMicrotask => stateAfter
      ((FastReact.processRootScheduleInMicrotask (store.roots.slots.length + 1)).run store)
  | .executeScheduledRootCallback callback =>
      stateAfter ((FastReact.executeScheduledRootCallback callback).run store)
  | .flushSyncCommitWorkOnAllRoots passes =>
      stateAfter ((FastReact.flushSyncCommitWorkOnAllRoots passes).run store)
  | .commitFinishedHostRoot render =>
      stateAfter ((FastReact.commitFinishedHostRoot render).run store)

/-- The list ends and has no root twice.  Scheduling a root adds it unless it is there, and the
microtask handles every root of the list, in order, and keeps those with lanes to render. -/
structure SchedulesOnce (store : FiberRootStore) (roots : List FiberRootId) : Prop where
  listed : store.scheduledRoots = .ok roots
  once : roots.Nodup
  ends : store.rootScheduler.lastScheduledRoot = roots.getLast?
  linked : ∀ id, id ∈ roots ↔
    store.rootScheduler.lastScheduledRoot = some id ∨ (scheduleLink store.roots id).join.isSome
  scheduled : ∀ id result after, (ensureRootScheduleEntry id).run store = .ok result after →
    after.scheduledRoots = .ok (if id ∈ roots then roots else roots ++ [id]) ∧
    (result.inserted = true ↔ id ∉ roots)
  handled : ∃ records after, (FastReact.processRootScheduleInMicrotask
      (store.roots.slots.length + 1)).run store = .ok records after ∧
    records.map (·.root) = roots ∧
    (∀ record ∈ records, ∃ root, store.roots.get? record.root = some root ∧
      record.nextLanes = root.selectLanes.renderLanes) ∧
    after.scheduledRoots = .ok (rootsWithWork records)

end FiberRootStore

/-- A root is scheduled after checks that leave the list alone. -/
theorem leads_ensureRootScheduleEntry {checks : RootSchedulerM PUnit}
    (keeps : Keeps checks) (id : FiberRootId) :
    Leads (∃ roots, Schedules · roots) (∃ roots, Schedules · roots)
      (checks >>= fun _ => ensureRootScheduleEntry id) := by
  refine .bind (∃ roots, Schedules · roots)
    (fun store ⟨roots, schedules⟩ => ⟨roots, keeps store roots schedules⟩) (fun _ => ?_)
    fun _ holds => holds
  rintro store ⟨roots, schedules⟩
  cases found : store.roots.get? id with
  | none =>
    obtain ⟨error, failed⟩ := run_ensureRootScheduleEntry_of_dead schedules found
    exact ⟨roots, by rwa [failed]⟩
  | some root =>
    obtain ⟨result, after, ran, schedulesAfter, -⟩ := run_ensureRootScheduleEntry schedules found
    exact ⟨_, by rwa [ran]⟩

theorem schedules_after_call (schedules : store.Schedules roots) (call : RootScheduleCall) :
    ∃ roots, (store.afterScheduleCall call).Schedules roots := by
  cases call with
  | createClientRoot formState mode =>
    exact ⟨roots, keeps_createClientRoot formState mode store roots schedules⟩
  | updateContainer root rootFiber laneChoice element callback =>
    exact ⟨roots, keeps_updateContainerImpl root rootFiber laneChoice element callback store
      roots schedules⟩
  | ensureRootIsScheduled record =>
    exact leads_ensureRootScheduleEntry
      (.bind (within_getRoot _ _) fun _ => .guard fun _ => .pure _) record.root store
      ⟨roots, schedules⟩
  | ensureRootIsRescheduled record =>
    exact leads_ensureRootScheduleEntry (.bind (.mapError _ (within_rootForUpdatedFiber _)) fun _ =>
      .guard fun _ => .bind (within_getRoot _ _) fun _ => .guard fun _ => .pure _) record.root store
      ⟨roots, schedules⟩
  | setActQueueActive active => exact ⟨roots, schedules⟩
  | processRootScheduleInMicrotask =>
    obtain ⟨records, after, ran, -, -, schedulesAfter⟩ :=
      run_processRootScheduleInMicrotask schedules
    exact ⟨_, by rwa [afterScheduleCall, ran]⟩
  | executeScheduledRootCallback callback =>
    exact ⟨roots, keeps_executeScheduledRootCallback callback store roots schedules⟩
  | flushSyncCommitWorkOnAllRoots passes =>
    exact ⟨roots, keeps_flushSyncCommitWorkOnAllRoots passes store roots schedules⟩
  | commitFinishedHostRoot render =>
    exact ⟨roots, keeps_commitFinishedHostRoot render store roots schedules⟩

theorem FiberRootStore.Schedules.schedulesOnce (schedules : store.Schedules roots) :
    store.SchedulesOnce roots where
  listed := schedules.scheduledRoots_eq
  once := schedules.walk.nodup
  ends := schedules.ends
  linked _ := schedules.mem_iff
  scheduled id result after ran := by
    cases found : store.roots.get? id with
    | none =>
      obtain ⟨error, failed⟩ := run_ensureRootScheduleEntry_of_dead schedules found
      cases ran.symm.trans failed
    | some root =>
      obtain ⟨_, _, ranEntry, schedulesAfter, inserted⟩ :=
        run_ensureRootScheduleEntry schedules found
      cases ran.symm.trans ranEntry
      exact ⟨schedulesAfter.scheduledRoots_eq, inserted⟩
  handled := by
    obtain ⟨records, after, ran, isRoots, lanes, schedulesAfter⟩ :=
      run_processRootScheduleInMicrotask schedules
    exact ⟨records, after, ran, isRoots, lanes, schedulesAfter.scheduledRoots_eq⟩

/-- Whatever calls are made, each scheduled root is in the list once. -/
theorem scheduled_once_of_calls (calls : List RootScheduleCall) :
    ∃ roots, (calls.foldl afterScheduleCall .new).SchedulesOnce roots := by
  have start : FiberRootStore.new.Schedules [] := ⟨rfl, rfl, by simp, fun _ _ => by rfl⟩
  obtain ⟨roots, schedules⟩ : ∃ roots, (calls.foldl afterScheduleCall .new).Schedules roots :=
    foldlRecOn (motive := fun store => ∃ roots, store.Schedules roots) calls afterScheduleCall
      ⟨[], start⟩ fun store ⟨roots, schedules⟩ call _ => schedules_after_call schedules call
  exact ⟨roots, schedules.schedulesOnce⟩

end FastReact
