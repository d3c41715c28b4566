import FastReact.ActionRun
import FastReact.HookListArenaSteps

namespace FastReact

open ErrorState Function HookListArena LinkChain List Option

/-!
# Runs on hook lists

A world is an arena together with what its callers know: the hooks they have appended to
each list, the payloads they have set, and the cursors they were given.  Cursors can be
copied, so that every one ever given may still be used.
-/

/-- A hook of the current list that an update has copied, with the payload it had and the
number of times it had been set. -/
structure HookCopy where
  source : Handle HookSlotTag
  seen : HookSlotPayload
  settings : Nat
  clone : Handle HookSlotTag
deriving DecidableEq

structure HookListUpdate where
  cursor : HookListUpdateCursor
  copies : List HookCopy
deriving DecidableEq

structure HookListWorld where
  arena : HookListArena
  appended : Members
  lastSet : Handle HookSlotTag → Option HookSlotPayload
  settings : Handle HookSlotTag → Nat
  mounts : List HookListMountCursor
  updates : List HookListUpdate

/-- A call; cursors are named by the order in which they were given. -/
inductive HookListCall where
  | createList (owner : FiberId)
  | appendHook (list : HookListId) (payload : HookSlotPayload)
  | setHookPayload (hook : HookSlotId) (payload : HookSlotPayload)
  | beginMount (list : HookListId)
  | mountHook (mount : Nat) (payload : HookSlotPayload)
  | beginUpdate (currentList workInProgressList : HookListId)
  | updateHook (update : Nat)
  | discardList (list : HookListId)

abbrev HookListWorldM := EStateM HookListError HookListWorld

namespace HookListWorld

def new (arenaId : HookListArenaId) : HookListWorld where
  arena := HookListArena.new arenaId
  appended := fun _ => []
  lastSet := fun _ => none
  settings := fun _ => 0
  mounts := []
  updates := []

variable (world : HookListWorld)

def withArena (arena : HookListArena) : HookListWorld :=
  { world with arena := arena }

def startList (list : Handle HookListTag) : HookListWorld :=
  { world with appended := Function.update world.appended list [] }

/-- The world in which a new hook was appended to a list. -/
def pushHook (list : Handle HookListTag) (hook : Handle HookSlotTag) : HookListWorld :=
  { world with
    appended := Function.update world.appended list (world.appended list ++ [hook])
    lastSet := Function.update world.lastSet hook none }

def pushMount (cursor : HookListMountCursor) : HookListWorld :=
  { world with mounts := world.mounts ++ [cursor] }

def pushUpdate (update : HookListUpdate) : HookListWorld :=
  { world with updates := world.updates ++ [update] }

def setPayload (hook : Handle HookSlotTag) (payload : HookSlotPayload) : HookListWorld :=
  { world with
    lastSet := Function.update world.lastSet hook (some payload)
    settings := Function.update world.settings hook (world.settings hook + 1) }

def copyOf (cursor : HookListUpdateCursor) (clone : Handle HookSlotTag) : Option HookCopy := do
  let source ← cursor.nextCurrent
  let slot ← world.arena.hooks.data? source
  some
    { source := source
      seen := slot.payload
      settings := world.settings source
      clone := clone }

def onArena {α : Type} (body : HookListM α) : HookListWorldM α :=
  focus arena (fun arena world => world.withArena arena) body

def perform : HookListCall → HookListWorldM PUnit
  | .createList owner => do
      let list ← onArena (HookListArena.createList owner)
      modify (·.startList list.handle)
  | .appendHook list payload => do
      let hook ← onArena (HookListArena.appendHook list payload)
      modify (·.pushHook list.handle hook.handle)
  | .setHookPayload hook payload => do
      onArena (HookListArena.setHookPayload hook payload)
      modify (·.setPayload hook.handle payload)
  | .beginMount list => do
      let cursor ← query (·.arena.beginMount list)
      modify (·.pushMount cursor)
  | .mountHook mount payload => do
      match (← get).mounts[mount]? with
      | none => pure ()
      | some cursor =>
          let (hook, cursor) ← onArena (HookListArena.mountHook cursor payload)
          modify fun world => (world.pushHook cursor.list.handle hook.handle).pushMount cursor
  | .beginUpdate currentList workInProgressList => do
      let cursor ← query (·.arena.beginUpdate currentList workInProgressList)
      modify (·.pushUpdate { cursor := cursor, copies := [] })
  | .updateHook index => do
      let world ← get
      match world.updates[index]? with
      | none => pure ()
      | some update =>
          let (hook, cursor) ← onArena (HookListArena.updateHook update.cursor)
          let copies := update.copies ++ (world.copyOf update.cursor hook.handle).toList
          modify fun world =>
            (world.pushHook cursor.workInProgressList.handle hook.handle).pushUpdate
              { cursor := cursor, copies := copies }
  | .discardList list => onArena (HookListArena.discardList list)

def step (call : HookListCall) : HookListWorld :=
  stateAfter ((perform call).run world)

/-- Discards do not run out of generations half-way. -/
def Permits : HookListCall → Prop
  | .discardList list => world.arena.CanDiscard list
  | _ => True

structure Aligned (update : HookListUpdate) : Prop where
  currentHere : update.cursor.currentList.arenaId = world.arena.arenaId
  workHere : update.cursor.workInProgressList.arenaId = world.arena.arenaId
  currentIssued : world.arena.lists.Live update.cursor.currentList.handle ∨
    world.arena.lists.Spent update.cursor.currentList.handle
  workIssued : world.arena.lists.Live update.cursor.workInProgressList.handle ∨
    world.arena.lists.Spent update.cursor.workInProgressList.handle
  counted : update.copies.length = update.cursor.consumed
  bounded : update.cursor.consumed ≤ update.cursor.expectedCount
  owners : ∀ current work,
    world.arena.lists.get? update.cursor.currentList.handle = some current →
    world.arena.lists.get? update.cursor.workInProgressList.handle = some work →
    current.owner = work.owner
  expected : ∀ current,
    world.arena.lists.get? update.cursor.currentList.handle = some current →
    update.cursor.expectedCount ≤
      (world.appended update.cursor.currentList.handle).length
  next : ∀ current,
    world.arena.lists.get? update.cursor.currentList.handle = some current →
    update.cursor.nextCurrent =
      ((world.appended update.cursor.currentList.handle).take
        update.cursor.expectedCount)[update.cursor.consumed]?
  sources : ∀ current,
    world.arena.lists.get? update.cursor.currentList.handle = some current →
    update.copies.map HookCopy.source =
      (world.appended update.cursor.currentList.handle).take update.cursor.consumed
  clones : ∀ work,
    world.arena.lists.get? update.cursor.workInProgressList.handle = some work →
    update.copies.map HookCopy.clone <+:
      world.appended update.cursor.workInProgressList.handle
  clonesIssued : ∀ copy ∈ update.copies,
    world.arena.hooks.Live copy.clone ∨ world.arena.hooks.Spent copy.clone
  payloads : ∀ copy ∈ update.copies, ∀ slot,
    world.arena.hooks.data? copy.clone = some slot →
    slot.payload = (world.lastSet copy.clone).getD copy.seen
  sourcesIssued : ∀ copy ∈ update.copies,
    world.arena.hooks.Live copy.source ∨ world.arena.hooks.Spent copy.source
  settings : ∀ copy ∈ update.copies, ∀ slot,
    world.arena.hooks.data? copy.source = some slot →
    copy.settings ≤ world.settings copy.source ∧
      (world.settings copy.source = copy.settings → slot.payload = copy.seen)

structure Keeps : Prop where
  holds : world.arena.Holds world.appended
  aligned : ∀ update ∈ world.updates, world.Aligned update

variable {world}

theorem keeps_new (arenaId : HookListArenaId) : (new arenaId).Keeps where
  holds := holds_new arenaId _
  aligned := by
    intro update member
    cases member

/-- What every call does to the lists and hooks that were there. -/
structure Evolves (before after : HookListWorld) : Prop where
  ages : Ages before.arena after.arena
  owners : ∀ handle record recordAfter,
    before.arena.lists.get? handle = some record →
    after.arena.lists.get? handle = some recordAfter →
    recordAfter.owner = record.owner
  grows : ∀ handle,
    before.arena.lists.Live handle →
    after.arena.lists.Live handle →
    before.appended handle <+: after.appended handle
  payloads : ∀ hook slot slotAfter,
    before.arena.hooks.data? hook = some slot →
    after.arena.hooks.data? hook = some slotAfter →
    (slotAfter.payload = slot.payload ∧ after.lastSet hook = before.lastSet hook ∧
      after.settings hook = before.settings hook) ∨
      (after.lastSet hook = some slotAfter.payload ∧
        before.settings hook < after.settings hook)

theorem take_of_isPrefix {α : Type} {before after : List α} {count : Nat} (grows : before <+: after)
    (enough : count ≤ before.length) : after.take count = before.take count := by
  obtain ⟨added, rfl⟩ := grows
  exact take_append_of_le_length enough

variable {after : HookListArena} {list : Handle HookListTag} {update : HookListUpdate}
  {record : HookList}

theorem Aligned.evolves {before after : HookListWorld} (aligned : before.Aligned update)
    (evolves : Evolves before after) : after.Aligned update := by
  have ages := evolves.ages
  -- A list of the update that is live now was live before.
  have currentBefore : ∀ current,
      after.arena.lists.get? update.cursor.currentList.handle = some current →
      ∃ record, before.arena.lists.get? update.cursor.currentList.handle = some record :=
    fun current found => ages.lists.live_of_issued aligned.currentIssued ⟨current, found⟩
  have workBefore : ∀ work,
      after.arena.lists.get? update.cursor.workInProgressList.handle = some work →
      ∃ record, before.arena.lists.get? update.cursor.workInProgressList.handle = some record :=
    fun work found => ages.lists.live_of_issued aligned.workIssued ⟨work, found⟩
  refine
    { currentHere := aligned.currentHere.trans ages.arenaId.symm
      workHere := aligned.workHere.trans ages.arenaId.symm
      currentIssued := ages.lists.issued aligned.currentIssued
      workIssued := ages.lists.issued aligned.workIssued
      counted := aligned.counted
      bounded := aligned.bounded
      owners := ?_
      expected := ?_
      next := ?_
      sources := ?_
      clones := ?_
      clonesIssued := fun copy member => ages.hooks.issued (aligned.clonesIssued copy member)
      payloads := ?_
      sourcesIssued := fun copy member => ages.hooks.issued (aligned.sourcesIssued copy member)
      settings := ?_ }
  · intro current work currentFound workFound
    obtain ⟨currentRecord, currentOld⟩ := currentBefore current currentFound
    obtain ⟨workRecord, workOld⟩ := workBefore work workFound
    rw [evolves.owners _ _ _ currentOld currentFound, evolves.owners _ _ _ workOld workFound]
    exact aligned.owners _ _ currentOld workOld
  · intro current found
    obtain ⟨record, old⟩ := currentBefore current found
    have grows := evolves.grows _ ⟨record, old⟩ ⟨current, found⟩
    exact (aligned.expected record old).trans grows.length_le
  · intro current found
    obtain ⟨record, old⟩ := currentBefore current found
    have grows := evolves.grows _ ⟨record, old⟩ ⟨current, found⟩
    rw [take_of_isPrefix grows (aligned.expected record old)]
    exact aligned.next record old
  · intro current found
    obtain ⟨record, old⟩ := currentBefore current found
    have grows := evolves.grows _ ⟨record, old⟩ ⟨current, found⟩
    rw [take_of_isPrefix grows (aligned.bounded.trans (aligned.expected record old))]
    exact aligned.sources record old
  · intro work found
    obtain ⟨record, old⟩ := workBefore work found
    exact (aligned.clones record old).trans (evolves.grows _ ⟨record, old⟩ ⟨work, found⟩)
  · intro copy member slotAfter stored
    have live := ages.hooks.live_of_issued (aligned.clonesIssued copy member)
      (hook_live_iff.mpr ⟨slotAfter, stored⟩)
    obtain ⟨slot, storedBefore⟩ := hook_live_iff.mp live
    rcases evolves.payloads copy.clone slot slotAfter storedBefore stored with
      ⟨samePayload, sameSet, -⟩ | ⟨isSet, -⟩
    · rw [samePayload, sameSet]
      exact aligned.payloads copy member slot storedBefore
    · rw [isSet]
      rfl
  · intro copy member slotAfter stored
    have live := ages.hooks.live_of_issued (aligned.sourcesIssued copy member)
      (hook_live_iff.mpr ⟨slotAfter, stored⟩)
    obtain ⟨slot, storedBefore⟩ := hook_live_iff.mp live
    have before := aligned.settings copy member slot storedBefore
    rcases evolves.payloads copy.source slot slotAfter storedBefore stored with
      ⟨samePayload, -, sameCount⟩ | ⟨-, setAgain⟩
    · rw [samePayload, sameCount]
      exact before
    · exact ⟨before.1.trans (Nat.le_of_lt setAgain), fun same => by omega⟩

theorem Keeps.evolves {before after : HookListWorld} (keeps : before.Keeps)
    (evolves : Evolves before after) (holds : after.arena.Holds after.appended)
    (updates : ∀ update ∈ after.updates, update ∈ before.updates ∨ after.Aligned update) :
    after.Keeps where
  holds := holds
  aligned := by
    intro update member
    rcases updates update member with old | aligned
    · exact (keeps.aligned update old).evolves evolves
    · exact aligned

theorem Evolves.same {before after : HookListWorld} (sameArena : after.arena = before.arena)
    (sameAppended : after.appended = before.appended) (sameSet : after.lastSet = before.lastSet)
    (sameSettings : after.settings = before.settings) : Evolves before after := by
  refine ⟨by rw [sameArena]; exact refl before.arena, ?_, ?_, ?_⟩
  · intro handle record recordAfter found foundAfter
    rw [sameArena, found, some.injEq] at foundAfter
    rw [foundAfter]
  · intro handle _ _
    rw [sameAppended]
  · intro hook slot slotAfter stored storedAfter
    rw [sameArena, stored, some.injEq] at storedAfter
    rw [storedAfter, sameSet, sameSettings]
    exact .inl ⟨rfl, rfl, rfl⟩

theorem keeps_createList (keeps : world.Keeps) (owner : FiberId) :
    ((world.withArena
      { world.arena with
        lists := (world.arena.lists.insert (HookList.new owner)).2 }).startList
      (world.arena.lists.insert (HookList.new owner)).1).Keeps := by
  have fresh := SlotArena.get?_insert_fresh world.arena.lists (HookList.new owner)
  refine keeps.evolves ⟨within_createList owner world.arena, ?_, ?_, ?_⟩
    (holds_createList keeps.holds owner) fun update member => .inl member
  · intro handle record recordAfter found foundAfter
    change (world.arena.lists.insert (HookList.new owner)).2.get? handle = _ at foundAfter
    rw [SlotArena.get?_insert_of_some _ found, some.injEq] at foundAfter
    rw [foundAfter]
  · rintro handle ⟨record, found⟩ _
    have different : handle ≠ (world.arena.lists.insert (HookList.new owner)).1 := by
      rintro rfl
      rw [fresh] at found
      cases found
    change _ <+: update world.appended _ [] handle
    rw [update_of_ne different]
  · intro hook slot slotAfter stored storedAfter
    obtain rfl := some.inj (stored.symm.trans storedAfter)
    exact .inl ⟨rfl, rfl, rfl⟩

theorem evolves_pushHook {hook : Handle HookSlotTag} {payload : HookSlotPayload}
    (ages : Ages world.arena after) (found : world.arena.lists.get? list = some record)
    (appended : Appended world.arena after list record hook payload) :
    Evolves world ((world.withArena after).pushHook list hook) := by
  refine ⟨ages, ?_, ?_, ?_⟩
  · intro handle recordBefore recordAfter foundBefore foundAfter
    change after.lists.get? handle = _ at foundAfter
    rw [appended.lists] at foundAfter
    by_cases same : handle = list
    · subst same
      rw [if_pos rfl, some.injEq] at foundAfter
      rw [found, some.injEq] at foundBefore
      rw [← foundAfter, ← foundBefore]
    · rw [if_neg same, foundBefore, some.injEq] at foundAfter
      rw [foundAfter]
  · intro handle _ _
    change _ <+: update world.appended list _ handle
    by_cases same : handle = list
    · subst same
      rw [update_self]
      exact prefix_append _ _
    · rw [update_of_ne same]
  · intro other slot slotAfter stored storedAfter
    have different : other ≠ hook := by
      rintro rfl
      rw [appended.isNew] at stored
      cases stored
    change after.hooks.data? other = _ at storedAfter
    rw [appended.data, if_neg different, stored, some.injEq] at storedAfter
    rw [storedAfter]
    exact .inl ⟨rfl, update_of_ne different _ _, rfl⟩

section

variable (keeps : world.Keeps)
include keeps

theorem keeps_setHookPayload (hook : HookSlotId) (payload : HookSlotPayload)
    (ages : Ages world.arena (world.arena.withPayload hook.handle payload)) :
    ((world.withArena (world.arena.withPayload hook.handle payload)).setPayload hook.handle
      payload).Keeps := by
  refine keeps.evolves ⟨ages, ?_, fun handle _ _ => prefix_rfl, ?_⟩
    (keeps.holds.withPayload hook.handle payload) fun update member => .inl member
  · intro handle record recordAfter found foundAfter
    obtain rfl := some.inj (found.symm.trans foundAfter)
    rfl
  · intro other slot slotAfter stored storedAfter
    change (world.arena.withPayload hook.handle payload).hooks.data? other = _ at storedAfter
    rw [data?_withPayload, stored] at storedAfter
    change (_ ∧ update world.lastSet hook.handle (some payload) other = _ ∧
        update world.settings hook.handle _ other = _) ∨
      (update world.lastSet hook.handle (some payload) other = _ ∧
        _ < update world.settings hook.handle _ other)
    by_cases same : other = hook.handle
    · subst same
      rw [if_pos rfl] at storedAfter
      cases storedAfter
      rw [update_self, update_self]
      exact .inr ⟨rfl, Nat.lt_succ_self _⟩
    · rw [if_neg same, some.injEq] at storedAfter
      rw [update_of_ne same, update_of_ne same, storedAfter]
      exact .inl ⟨rfl, rfl, rfl⟩

theorem keeps_discardList (ages : Ages world.arena after)
    (found : world.arena.lists.get? list = some record)
    (discarded : Discarded world.arena after list (world.appended list)) :
    (world.withArena after).Keeps := by
  refine keeps.evolves ⟨ages, ?_, fun handle _ _ => prefix_rfl, ?_⟩
    (discarded.holds keeps.holds found) fun update member => .inl member
  · intro handle recordBefore recordAfter foundBefore foundAfter
    change after.lists.get? handle = _ at foundAfter
    rw [discarded.lists] at foundAfter
    split at foundAfter
    · cases foundAfter
    · rw [foundBefore, some.injEq] at foundAfter
      rw [foundAfter]
  · intro hook slot slotAfter stored storedAfter
    change after.hooks.data? hook = _ at storedAfter
    unfold LinkedArena.data? at stored storedAfter
    rw [discarded.hooks] at storedAfter
    split at storedAfter
    · cases storedAfter
    · rw [stored, some.injEq] at storedAfter
      rw [storedAfter]
      exact .inl ⟨rfl, rfl, rfl⟩

theorem aligned_beginUpdate {currentList workInProgressList : HookListId}
    {cursor : HookListUpdateCursor}
    (begun : world.arena.beginUpdate currentList workInProgressList = .ok cursor) :
    world.Aligned { cursor := cursor, copies := [] } := by
  obtain ⟨currentHere, workHere, current, work, currentFound, workFound, sameOwner, noWork,
    rfl⟩ := (beginUpdate_eq_ok_iff keeps.holds).mp begun
  have path := keeps.holds.path _ _ currentFound
  have len := keeps.holds.len _ _ currentFound
  refine
    { currentHere := currentHere
      workHere := workHere
      currentIssued := .inl ⟨current, currentFound⟩
      workIssued := .inl ⟨work, workFound⟩
      counted := rfl
      bounded := Nat.zero_le _
      owners := ?_
      expected := fun _ _ => Nat.le_of_eq len
      next := ?_
      sources := fun _ _ => rfl
      clones := fun _ _ => nil_prefix
      clonesIssued := fun copy member => by cases member
      payloads := fun copy member => by cases member
      sourcesIssued := fun copy member => by cases member
      settings := fun copy member => by cases member }
  · intro currentRecord workRecord currentAgain workAgain
    obtain rfl := some.inj (currentFound.symm.trans currentAgain)
    obtain rfl := some.inj (workFound.symm.trans workAgain)
    exact sameOwner
  · intro _ _
    rw [take_of_length_le (Nat.le_of_eq len.symm), ← head?_eq_getElem?]
    exact path.first_eq

theorem aligned_updateHook {source hook : Handle HookSlotTag} {slot : HookSlot} {work : HookList}
    (aligned : world.Aligned update) (ages : Ages world.arena after)
    (sourceShape : update.cursor.nextCurrent = some source)
    (unchanged : world.arena.ensureUpdateCursorListsUnchanged update.cursor = .ok ())
    (stored : world.arena.hooks.data? source = some slot)
    (workFound : world.arena.lists.get? update.cursor.workInProgressList.handle = some work)
    (appended :
      Appended world.arena after update.cursor.workInProgressList.handle work hook slot.payload) :
    ((world.withArena after).pushHook update.cursor.workInProgressList.handle hook).Aligned
      { cursor :=
          { update.cursor with
            nextCurrent := world.arena.hooks.next? source
            consumed := update.cursor.consumed + 1 }
        copies := update.copies ++
          [{ source := source
             seen := slot.payload
             settings := world.settings source
             clone := hook }] } := by
  have kept := aligned.evolves (evolves_pushHook ages workFound appended)
  obtain ⟨-, -, current, workAgain, currentFound, workFoundAgain, -, currentLen, workLen⟩ :=
    (ensureUpdateCursorListsUnchanged_eq_ok_iff keeps.holds).mp unchanged
  obtain rfl := some.inj (workFound.symm.trans workFoundAgain)
  have path := keeps.holds.path _ _ currentFound
  have currentCount := keeps.holds.len _ _ currentFound
  have workCount := keeps.holds.len _ _ workFound
  -- The cursor is at a hook of the current list, which therefore has more hooks than the
  -- list in progress.
  have whole : (world.appended update.cursor.currentList.handle).take
      update.cursor.expectedCount = world.appended update.cursor.currentList.handle :=
    take_of_length_le (by rw [← currentCount, currentLen])
  have atSource : (world.appended update.cursor.currentList.handle)[update.cursor.consumed]? =
      some source := by
    rw [← whole, ← aligned.next current currentFound, sourceShape]
  have more : update.cursor.consumed < update.cursor.expectedCount := by
    rw [← currentLen, currentCount]
    exact (List.getElem?_eq_some_iff.mp atSource).1
  have different : update.cursor.currentList.handle ≠
      update.cursor.workInProgressList.handle := by
    intro same
    rw [same, workFound, some.injEq] at currentFound
    rw [← currentFound, workLen] at currentLen
    omega
  have sameCurrent : ((world.withArena after).pushHook
      update.cursor.workInProgressList.handle hook).appended update.cursor.currentList.handle =
        world.appended update.cursor.currentList.handle :=
    update_of_ne different _ _
  have grownWork : ((world.withArena after).pushHook
      update.cursor.workInProgressList.handle hook).appended
        update.cursor.workInProgressList.handle =
          world.appended update.cursor.workInProgressList.handle ++ [hook] :=
    update_self _ _ _
  have copied : update.copies.map HookCopy.clone =
      world.appended update.cursor.workInProgressList.handle := by
    refine (aligned.clones work workFound).eq_of_length ?_
    rw [length_map, aligned.counted, ← workCount, workLen]
  have hookStored : after.hooks.data? hook =
      some ⟨world.arena.listId update.cursor.workInProgressList.handle, work.len,
        slot.payload⟩ := by
    rw [appended.data, if_pos rfl]
  refine
    { currentHere := kept.currentHere
      workHere := kept.workHere
      currentIssued := kept.currentIssued
      workIssued := kept.workIssued
      counted := ?_
      bounded := more
      owners := kept.owners
      expected := kept.expected
      next := ?_
      sources := ?_
      clones := ?_
      clonesIssued := ?_
      payloads := ?_
      sourcesIssued := ?_
      settings := ?_ }
  · rw [length_append, aligned.counted]
    rfl
  · intro _ _
    rw [sameCurrent, whole]
    exact path.next_eq_getElem? atSource
  · intro _ _
    rw [sameCurrent, map_append, aligned.sources current currentFound, take_add_one, atSource]
    rfl
  · intro _ _
    rw [grownWork, map_append, copied]
    exact prefix_rfl
  · intro copy member
    rcases mem_append.mp member with old | new
    · exact kept.clonesIssued copy old
    · obtain rfl := mem_singleton.mp new
      exact .inl (hook_live_iff.mpr ⟨_, hookStored⟩)
  · intro copy member copySlot copyStored
    rcases mem_append.mp member with old | new
    · exact kept.payloads copy old copySlot copyStored
    · obtain rfl := mem_singleton.mp new
      obtain rfl := some.inj (hookStored.symm.trans copyStored)
      change _ = (Function.update world.lastSet hook none hook).getD _
      rw [update_self]
      rfl
  · intro copy member
    rcases mem_append.mp member with old | new
    · exact kept.sourcesIssued copy old
    · obtain rfl := mem_singleton.mp new
      exact ages.hooks.live source (hook_live_iff.mpr ⟨slot, stored⟩)
  · intro copy member copySlot copyStored
    rcases mem_append.mp member with old | new
    · exact kept.settings copy old copySlot copyStored
    · obtain rfl := mem_singleton.mp new
      have sourceOld : source ≠ hook := by
        rintro rfl
        rw [appended.isNew] at stored
        cases stored
      change after.hooks.data? source = _ at copyStored
      rw [appended.data, if_neg sourceOld, stored, some.injEq] at copyStored
      exact ⟨Nat.le_refl _, fun _ => by rw [copyStored]⟩

end

theorem run_onArena {α : Type} (body : HookListM α) (world : HookListWorld) :
    (onArena body).run world =
      match body.run world.arena with
      | .ok value after => .ok value (world.withArena after)
      | .error error after => .error error (world.withArena after) := by
  unfold onArena
  rw [run_focus]
  cases body.run world.arena <;> rfl

theorem Keeps.pushMount (keeps : world.Keeps) (cursor : HookListMountCursor) :
    (world.pushMount cursor).Keeps :=
  keeps.evolves (.same rfl rfl rfl rfl) keeps.holds fun _ member => .inl member

theorem Keeps.pushHook {hook : Handle HookSlotTag} {payload : HookSlotPayload} (keeps : world.Keeps)
    (ages : Ages world.arena after) (found : world.arena.lists.get? list = some record)
    (appended : Appended world.arena after list record hook payload) :
    ((world.withArena after).pushHook list hook).Keeps :=
  keeps.evolves (evolves_pushHook ages found appended) (appended.holds keeps.holds found)
    fun _ member => .inl member

theorem unchanged_of_failed {α : Type} {body : HookListM α} {next : α → HookListWorldM PUnit}
    {error : HookListError} (failed : body.run world.arena = .error error world.arena) :
    AllOrNothing Keeps (onArena body >>= next) world :=
  .of_error error (by
    rw [run_bind, run_onArena, failed]
    rfl)

theorem keeps_of_appendHook (keeps : world.Keeps) (list : HookListId) (payload : HookSlotPayload) :
    AllOrNothing Keeps (perform (.appendHook list payload)) world := by
  rcases appendHook_cases keeps.holds list payload with
    ⟨record, hook, after, -, found, ran, appended⟩ | ⟨error, failed⟩
  · have ages := within_appendHook list payload world.arena
    rw [ran] at ages
    have performed : (perform (.appendHook list payload)).run world =
        .ok () ((world.withArena after).pushHook list.handle hook) := by
      simp only [perform, run_bind, run_onArena, ran, run_modify]
      rfl
    exact .of_ok performed (keeps.pushHook ages found appended)
  · exact unchanged_of_failed failed

theorem keeps_of_setHookPayload (keeps : world.Keeps) (hook : HookSlotId)
    (payload : HookSlotPayload) :
    AllOrNothing Keeps (perform (.setHookPayload hook payload)) world := by
  rcases run_setHookPayload world.arena hook payload with
    ⟨-, -, ran⟩ | ⟨error, failed⟩
  · have ages := within_setHookPayload hook payload world.arena
    rw [ran] at ages
    have performed : (perform (.setHookPayload hook payload)).run world =
        .ok ()
          ((world.withArena (world.arena.withPayload hook.handle payload)).setPayload
            hook.handle payload) := by
      simp only [perform, run_bind, run_onArena, ran, run_modify]
    exact .of_ok performed (keeps_setHookPayload keeps hook payload ages)
  · exact unchanged_of_failed failed

theorem mountHook_cases {arena : HookListArena} {members : Members} (holds : arena.Holds members)
    (cursor : HookListMountCursor) (payload : HookSlotPayload) :
    (∃ record hook after,
      arena.lists.get? cursor.list.handle = some record ∧
      (mountHook cursor payload).run arena =
        .ok (after.hookId hook, { cursor with appended := cursor.appended + 1 }) after ∧
      Appended arena after cursor.list.handle record hook payload) ∨
      ∃ error, (mountHook cursor payload).run arena = .error error arena := by
  cases resolved : arena.list cursor.list with
  | error error => exact .inr ⟨error, by simp only [mountHook, run_bind, run_query, resolved]⟩
  | ok record =>
    by_cases sameLen : record.len = cursor.appended
    · rcases appendHook_cases holds cursor.list payload with
        ⟨record, hook, after, -, found, ran, appended⟩ | ⟨error, failed⟩
      · refine .inl ⟨record, hook, after, found, ?_, appended⟩
        simp only [mountHook, run_bind, run_query, resolved, sameLen, ne_eq,
          not_true_eq_false, if_false, ran, run_pure]
      · refine .inr ⟨error, ?_⟩
        simp only [mountHook, run_bind, run_query, resolved, sameLen, ne_eq,
          not_true_eq_false, if_false, failed]
    · refine .inr ⟨.traversalCursorOutOfSync cursor.list cursor.appended record.len, ?_⟩
      simp only [mountHook, run_bind, run_query, resolved, sameLen, ne_eq,
        not_false_eq_true, if_true, run_throw]

section

variable (keeps : world.Keeps)
include keeps

theorem keeps_of_mountHook (mount : Nat) (payload : HookSlotPayload) :
    AllOrNothing Keeps (perform (.mountHook mount payload)) world := by
  cases given : world.mounts[mount]? with
  | none =>
    have performed : (perform (.mountHook mount payload)).run world = .ok () world := by
      simp only [perform, run_bind, run_get, given, run_pure]
    exact .of_ok performed keeps
  | some cursor =>
    rcases mountHook_cases keeps.holds cursor payload with
      ⟨record, hook, after, found, ran, appended⟩ | ⟨error, failed⟩
    · have ages := within_mountHook cursor payload world.arena
      rw [ran] at ages
      have performed : (perform (.mountHook mount payload)).run world =
          .ok () (((world.withArena after).pushHook cursor.list.handle hook).pushMount
            { cursor with appended := cursor.appended + 1 }) := by
        simp only [perform, run_bind, run_get, given, run_onArena, ran, run_modify]
        rfl
      exact .of_ok performed ((keeps.pushHook ages found appended).pushMount _)
    · have performed : (perform (.mountHook mount payload)).run world =
          .error error world := by
        simp only [perform, run_bind, run_get, given, run_onArena, failed]
        rfl
      exact .of_error error performed

theorem keeps_of_beginUpdate (currentList workInProgressList : HookListId) :
    AllOrNothing Keeps (perform (.beginUpdate currentList workInProgressList)) world := by
  cases begun : world.arena.beginUpdate currentList workInProgressList with
  | error error =>
    exact .of_error error (by simp only [perform, run_bind, run_query, begun])
  | ok cursor =>
    have performed : (perform (.beginUpdate currentList workInProgressList)).run world =
        .ok () (world.pushUpdate { cursor := cursor, copies := [] }) := by
      simp only [perform, run_bind, run_query, begun, run_modify]
    have evolves : Evolves world (world.pushUpdate { cursor := cursor, copies := [] }) :=
      .same rfl rfl rfl rfl
    refine .of_ok performed (keeps.evolves evolves keeps.holds ?_)
    intro update member
    rcases mem_append.mp member with old | new
    · exact .inl old
    · obtain rfl := mem_singleton.mp new
      exact .inr ((aligned_beginUpdate keeps begun).evolves evolves)

theorem keeps_of_updateHook (index : Nat) :
    AllOrNothing Keeps (perform (.updateHook index)) world := by
  cases given : world.updates[index]? with
  | none =>
    have performed : (perform (.updateHook index)).run world = .ok () world := by
      simp only [perform, run_bind, run_get, given, run_pure]
    exact .of_ok performed keeps
  | some update =>
    have aligned := keeps.aligned update (mem_of_getElem? given)
    rcases updateHook_cases keeps.holds update.cursor with
      ⟨source, slot, record, hook, after, sourceShape, unchanged, stored, found, ran,
        appended⟩ | ⟨error, failed⟩
    · have ages := within_updateHook update.cursor world.arena
      rw [ran] at ages
      have copy : world.copyOf update.cursor hook =
          some
            { source := source
              seen := slot.payload
              settings := world.settings source
              clone := hook } := by
        rw [copyOf, sourceShape]
        change (world.arena.hooks.data? source).bind _ = _
        rw [stored]
        rfl
      have aligned := aligned_updateHook keeps aligned ages sourceShape unchanged stored
        found appended
      have performed : (perform (.updateHook index)).run world =
          .ok ()
            (((world.withArena after).pushHook update.cursor.workInProgressList.handle
              hook).pushUpdate
              { cursor :=
                  { update.cursor with
                    nextCurrent := world.arena.hooks.next? source
                    consumed := update.cursor.consumed + 1 }
                copies := update.copies ++
                  [{ source := source
                     seen := slot.payload
                     settings := world.settings source
                     clone := hook }] }) := by
        simp only [perform, run_bind, run_get, given, run_onArena, ran, run_modify]
        rw [HookListArena.hookId, copy]
        rfl
      have pushed := keeps.pushHook ages found appended
      refine .of_ok performed (pushed.evolves (.same rfl rfl rfl rfl) pushed.holds ?_)
      intro other member
      rcases mem_append.mp member with old | new
      · exact .inl old
      · obtain rfl := mem_singleton.mp new
        exact .inr (aligned.evolves (.same rfl rfl rfl rfl))
    · have performed : (perform (.updateHook index)).run world = .error error world := by
        simp only [perform, run_bind, run_get, given, run_onArena, failed]
        rfl
      exact .of_error error performed

theorem keeps_of_discardList {list : HookListId} (permitted : world.Permits (.discardList list)) :
    AllOrNothing Keeps (perform (.discardList list)) world := by
  rcases run_discardList keeps.holds permitted with
    ⟨after, ran, -, ⟨record, found⟩, discarded⟩ | ⟨error, failed⟩
  · have ages := within_discardList list world.arena
    rw [ran] at ages
    have performed : (perform (.discardList list)).run world =
        .ok () (world.withArena after) := by
      simp only [perform, run_onArena, ran]
    exact .of_ok performed (keeps_discardList keeps ages found discarded)
  · have performed : (perform (.discardList list)).run world = .error error world := by
      simp only [perform, run_onArena, failed]
      rfl
    exact .of_error error performed

/-- A call keeps the lists and the updates in order, or fails and changes nothing. -/
theorem keeps_or_unchanged (call : HookListCall)
    (permitted : world.Permits call) : AllOrNothing Keeps (perform call) world := by
  cases call with
  | createList owner => exact keeps_createList keeps owner
  | appendHook list payload => exact keeps_of_appendHook keeps list payload
  | setHookPayload hook payload => exact keeps_of_setHookPayload keeps hook payload
  | mountHook mount payload => exact keeps_of_mountHook keeps mount payload
  | beginUpdate currentList workInProgressList =>
    exact keeps_of_beginUpdate keeps currentList workInProgressList
  | updateHook index => exact keeps_of_updateHook keeps index
  | discardList list => exact keeps_of_discardList keeps permitted
  | beginMount list =>
    cases begun : world.arena.beginMount list with
    | error error =>
      exact .of_error error (by simp only [perform, run_bind, run_query, begun])
    | ok cursor =>
      have performed : (perform (.beginMount list)).run world =
          .ok () (world.pushMount cursor) := by
        simp only [perform, run_bind, run_query, begun, run_modify]
      exact .of_ok performed (keeps.pushMount cursor)

end

variable (world) in
/-- The lists of a world are what was appended to them, and its updates end with a copy of
the current list. -/
structure Agrees : Prop where
  ordered : ∀ list,
    list.arenaId = world.arena.arenaId →
    world.arena.lists.Live list.handle →
    world.arena.orderedHooks list =
      .ok ((world.appended list.handle).map world.arena.hookId)
  placed : ∀ list,
    list.arenaId = world.arena.arenaId →
    world.arena.lists.Live list.handle →
    ∀ position hook, (world.appended list.handle)[position]? = some hook →
      ∃ node, world.arena.hook (world.arena.hookId hook) = .ok node ∧
        node.data.list = list ∧ node.data.index = position
  apart : ∀ first second,
    world.arena.lists.Live first →
    world.arena.lists.Live second →
    first ≠ second →
    (world.appended first).Disjoint (world.appended second)
  finishes : ∀ update ∈ world.updates,
    (∃ result, world.arena.finishUpdate update.cursor = .ok result) ↔
      world.arena.lists.Live update.cursor.currentList.handle ∧
        world.arena.lists.Live update.cursor.workInProgressList.handle ∧
        (world.appended update.cursor.currentList.handle).length =
          update.cursor.consumed ∧
        (world.appended update.cursor.workInProgressList.handle).length =
          update.cursor.consumed
  copies : ∀ update ∈ world.updates, ∀ result,
    world.arena.finishUpdate update.cursor = .ok result →
    update.copies.map HookCopy.source =
        world.appended update.cursor.currentList.handle ∧
      update.copies.map HookCopy.clone =
        world.appended update.cursor.workInProgressList.handle
  payloads : ∀ update ∈ world.updates, ∀ result,
    world.arena.finishUpdate update.cursor = .ok result →
    ∀ copy ∈ update.copies, ∃ source clone,
      world.arena.hook (world.arena.hookId copy.source) = .ok source ∧
        world.arena.hook (world.arena.hookId copy.clone) = .ok clone ∧
        clone.data.payload = (world.lastSet copy.clone).getD copy.seen ∧
        (world.settings copy.source = copy.settings → source.data.payload = copy.seen)

/-- What a discard of a list leaves alone. -/
structure KeepsOthers (before after : HookListWorld) (list : Handle HookListTag) : Prop where
  gone : ¬ after.arena.lists.Live list
  others : ∀ other, other ≠ list →
    after.arena.lists.get? other = before.arena.lists.get? other
  hooks : ∀ other, other ≠ list → before.arena.lists.Live other →
    ∀ hook ∈ before.appended other,
      after.arena.hooks.get? hook = before.arena.hooks.get? hook
  appended : after.appended = before.appended

section

variable (keeps : world.Keeps)
include keeps

theorem Keeps.disjoint {first second : Handle HookListTag}
    (firstLive : world.arena.lists.Live first) (secondLive : world.arena.lists.Live second)
    (different : first ≠ second) : (world.appended first).Disjoint (world.appended second) := by
  obtain ⟨firstRecord, firstFound⟩ := firstLive
  obtain ⟨secondRecord, secondFound⟩ := secondLive
  intro hook inFirst inSecond
  obtain ⟨slot, stored, ofFirst⟩ := keeps.holds.stored firstFound inFirst
  obtain ⟨other, otherStored, ofSecond⟩ := keeps.holds.stored secondFound inSecond
  rw [stored, some.injEq] at otherStored
  rw [← otherStored, ofFirst] at ofSecond
  exact different (HookListId.mk.inj ofSecond).2

/-- An update can finish where both lists have the hooks that it has consumed. -/
theorem Keeps.finishes (member : update ∈ world.updates) :
    (∃ result, world.arena.finishUpdate update.cursor = .ok result) ↔
      ∃ current work,
        world.arena.lists.get? update.cursor.currentList.handle = some current ∧
          world.arena.lists.get? update.cursor.workInProgressList.handle = some work ∧
          (world.appended update.cursor.currentList.handle).length = update.cursor.consumed ∧
          (world.appended update.cursor.workInProgressList.handle).length =
            update.cursor.consumed := by
  have aligned := keeps.aligned update member
  simp only [finishUpdate_eq_ok_iff, ensureUpdateCursorListsUnchanged_eq_ok_iff keeps.holds]
  constructor
  · rintro ⟨-, ⟨-, -, current, work, currentFound, workFound, -, currentLen, workLen⟩,
      nothingLeft, -⟩
    have currentCount := keeps.holds.len _ _ currentFound
    have workCount := keeps.holds.len _ _ workFound
    have reached := aligned.next current currentFound
    rw [nothingLeft, eq_comm, getElem?_eq_none_iff, length_take] at reached
    have bounded := aligned.bounded
    exact ⟨current, work, currentFound, workFound, by omega, by omega⟩
  · rintro ⟨current, work, currentFound, workFound, currentLength, workLength⟩
    have currentCount := keeps.holds.len _ _ currentFound
    have workCount := keeps.holds.len _ _ workFound
    have bounded := aligned.bounded
    have expected := aligned.expected current currentFound
    have sameOwner := aligned.owners current work currentFound workFound
    refine ⟨_, ⟨aligned.currentHere, aligned.workHere, current, work, currentFound, workFound,
      sameOwner, by omega, by omega⟩, ?_, rfl⟩
    rw [aligned.next current currentFound, getElem?_eq_none_iff, length_take]
    omega

/-- Where the lists are in order, they agree with what their callers know. -/
theorem Keeps.agrees : world.Agrees where
  ordered := by
    intro list here live
    unfold orderedHooks
    rw [keeps.holds.collectListHooks_eq_ok_iff.mpr ⟨here, live, rfl⟩]
    rfl
  placed := by
    rintro list here ⟨record, found⟩ position hook placed
    obtain ⟨payload, stored⟩ := keeps.holds.placed _ record found position hook placed
    refine ⟨_, hook_eq_ok stored, ?_, rfl⟩
    cases list
    cases here
    rfl
  apart := fun first second firstLive secondLive => keeps.disjoint firstLive secondLive
  finishes := by
    intro update member
    rw [keeps.finishes member]
    constructor
    · rintro ⟨current, work, currentFound, workFound, lengths⟩
      exact ⟨⟨current, currentFound⟩, ⟨work, workFound⟩, lengths⟩
    · rintro ⟨⟨current, currentFound⟩, ⟨work, workFound⟩, lengths⟩
      exact ⟨current, work, currentFound, workFound, lengths⟩
  copies := by
    intro update member result finished
    have aligned := keeps.aligned update member
    obtain ⟨current, work, currentFound, workFound, currentLength, workLength⟩ :=
      (keeps.finishes member).mp ⟨result, finished⟩
    constructor
    · rw [aligned.sources current currentFound, ← currentLength, take_length]
    · refine (aligned.clones work workFound).eq_of_length ?_
      rw [length_map, aligned.counted, workLength]
  payloads := by
    intro update member result finished copy isCopy
    have aligned := keeps.aligned update member
    obtain ⟨current, work, currentFound, workFound, currentLength, workLength⟩ :=
      (keeps.finishes member).mp ⟨result, finished⟩
    have sourceMember : copy.source ∈ world.appended update.cursor.currentList.handle := by
      have isSource : copy.source ∈ update.copies.map HookCopy.source := mem_map_of_mem isCopy
      rw [aligned.sources current currentFound] at isSource
      exact mem_of_mem_take isSource
    have cloneMember : copy.clone ∈ world.appended update.cursor.workInProgressList.handle :=
      (aligned.clones work workFound).subset (mem_map_of_mem isCopy)
    obtain ⟨source, sourceStored, -⟩ := keeps.holds.stored currentFound sourceMember
    obtain ⟨clone, cloneStored, -⟩ := keeps.holds.stored workFound cloneMember
    exact ⟨_, _, hook_eq_ok sourceStored, hook_eq_ok cloneStored,
      aligned.payloads copy isCopy clone cloneStored,
      (aligned.settings copy isCopy source sourceStored).2⟩

theorem keepsOthers_of_discardList {after : HookListWorld} {list : HookListId}
    (permitted : world.Permits (.discardList list))
    (ran : (perform (.discardList list)).run world = .ok () after) :
    KeepsOthers world after list.handle := by
  rcases run_discardList keeps.holds permitted with
    ⟨arena, discardedRan, -, live, discarded⟩ | ⟨error, failed⟩
  · have performed : (perform (.discardList list)).run world =
        .ok () (world.withArena arena) := by
      simp only [perform, run_onArena, discardedRan]
    cases performed.symm.trans ran
    refine ⟨?_, ?_, ?_, rfl⟩
    · rintro ⟨record, found⟩
      change arena.lists.get? list.handle = _ at found
      rw [discarded.lists, if_pos rfl] at found
      cases found
    · intro other different
      change arena.lists.get? other = _
      rw [discarded.lists, if_neg different]
    · intro other different otherLive hook member
      change arena.hooks.get? hook = _
      rw [discarded.hooks, if_neg]
      exact fun freed => keeps.disjoint otherLive live different member freed
  · have performed : (perform (.discardList list)).run world = .error error world := by
      simp only [perform, run_onArena, failed]
      rfl
    cases performed.symm.trans ran

end

theorem keeps_of_run {arenaId : HookListArenaId} {calls : List HookListCall}
    (run : ActionRun Permits step (new arenaId) calls world) : world.Keeps := by
  refine run.invariant (keeps_new arenaId) ?_
  intro before call keeps permitted
  have outcome := keeps_or_unchanged keeps call permitted
  unfold step
  unfold AllOrNothing at outcome
  cases ran : (perform call).run before with
  | ok value after =>
    rw [ran] at outcome
    exact outcome
  | error error after =>
    rw [ran] at outcome
    change after.Keeps
    rw [outcome]
    exact keeps

/-- In every run the lists agree with what their callers know, a failed call changes
nothing, and a discard leaves the other lists alone. -/
theorem agrees_of_run
    {arenaId : HookListArenaId}
    {calls : List HookListCall}
    (run : ActionRun Permits step (new arenaId) calls world) :
    world.Agrees ∧
      (∀ call error after,
        world.Permits call →
        (perform call).run world = .error error after →
        after = world) ∧
      (∀ list after,
        world.Permits (.discardList list) →
        (perform (.discardList list)).run world = .ok () after →
        KeepsOthers world after list.handle) := by
  have keeps := keeps_of_run run
  refine ⟨keeps.agrees, ?_, ?_⟩
  · intro call error after permitted failed
    have outcome := keeps_or_unchanged keeps call permitted
    rw [AllOrNothing, failed] at outcome
    exact outcome
  · intro list after permitted ran
    exact keepsOthers_of_discardList keeps permitted ran

/-- An update of a list with one hook, after which the list is discarded. -/
def updatedOnce : List HookListCall :=
  [.createList ⟨0, 0⟩, .createList ⟨0, 0⟩,
    .appendHook ⟨⟨1⟩, ⟨0, 0⟩⟩ .empty,
    .beginUpdate ⟨⟨1⟩, ⟨0, 0⟩⟩ ⟨⟨1⟩, ⟨1, 0⟩⟩, .updateHook 0,
    .discardList ⟨⟨1⟩, ⟨0, 0⟩⟩]

theorem agrees_of_run_updatedOnce :
    (updatedOnce.foldl step (new ⟨1⟩)).Agrees := by
  refine (agrees_of_run (ActionRun.of_permitted ?_)).1
  refine ⟨trivial, trivial, trivial, trivial, trivial, ?_, trivial⟩
  intro hooks collected
  obtain rfl : hooks = [⟨0, 0⟩] := (Except.ok.inj collected).symm
  exact .inl (by decide)

/-- A hook appended to the list in progress of an update behind its back. -/
def strayAppend : List HookListCall :=
  [.createList ⟨0, 0⟩, .createList ⟨0, 0⟩,
    .beginUpdate ⟨⟨1⟩, ⟨0, 0⟩⟩ ⟨⟨1⟩, ⟨1, 0⟩⟩,
    .appendHook ⟨⟨1⟩, ⟨1, 0⟩⟩ .empty]

/-- An update that has consumed every hook of the current list cannot finish when its list
in progress holds another hook. -/
theorem finish_needs_more_than_consumed :
    ¬ ∀ (arenaId : HookListArenaId) (calls : List HookListCall) (world : HookListWorld),
      ActionRun Permits step (new arenaId) calls world →
      ∀ update ∈ world.updates,
        (∃ result, world.arena.finishUpdate update.cursor = .ok result) ↔
          update.cursor.consumed =
            (world.appended update.cursor.currentList.handle).length := by
  intro claimed
  have run : ActionRun Permits step (new ⟨1⟩) strayAppend
      (strayAppend.foldl step (new ⟨1⟩)) :=
    ActionRun.of_permitted ⟨trivial, trivial, trivial, trivial, trivial⟩
  have finishes := claimed ⟨1⟩ strayAppend _ run
    { cursor :=
        { currentList := ⟨⟨1⟩, ⟨0, 0⟩⟩
          workInProgressList := ⟨⟨1⟩, ⟨1, 0⟩⟩
          nextCurrent := none
          consumed := 0
          expectedCount := 0 }
      copies := [] } (by decide)
  obtain ⟨result, finished⟩ := finishes.mpr (by decide)
  cases finished

end HookListWorld

end FastReact
