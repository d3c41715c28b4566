import FastReact.HookListArena
import FastReact.SlotArenaLedger

namespace FastReact

open ErrorState Function HookListArena LinkChain LinkedArena List

/-!
# What the calls on hook lists do

The state of the lists is given by their members: the hooks of a live list form its path,
and each of them names the list and its position.  A call is described by what it does to
the members.
-/

variable {members : Members} {handle : Handle HookListTag} {record : HookList}

namespace HookListArena

abbrev Members := Handle HookListTag → List (Handle HookSlotTag)

/-- Every live list is the path of its members, which name it and their positions. -/
structure Holds (arena : HookListArena) (members : Members) : Prop where
  path : ∀ handle record, arena.lists.get? handle = some record →
    IsPathAt arena.hooks.next? record.first record.last (members handle)
  len : ∀ handle record, arena.lists.get? handle = some record →
    record.len = (members handle).length
  placed : ∀ handle record, arena.lists.get? handle = some record →
    ∀ position hook, (members handle)[position]? = some hook →
      ∃ payload, arena.hooks.data? hook = some ⟨arena.listId handle, position, payload⟩

variable {arena : HookListArena} {id : HookListId}

theorem holds_new (arenaId : HookListArenaId) (members : Members) :
    Holds (new arenaId) members where
  path := by
    intro handle record found
    simp [new] at found
  len := by
    intro handle record found
    simp [new] at found
  placed := by
    intro handle record found
    simp [new] at found

theorem list_eq_ok_iff :
    arena.list id = .ok record ↔
      id.arenaId = arena.arenaId ∧ arena.lists.get? id.handle = some record := by
  unfold list validateArena
  rw [← SlotArena.find_eq_ok_iff]
  by_cases here : id.arenaId = arena.arenaId
  · rw [if_pos here]
    change Except.mapError _ _ = _ ↔ _
    cases arena.lists.find id.handle <;> simp [Except.mapError, here]
  · rw [if_neg here]
    simp [here, bind, Except.bind]

theorem hook_eq_ok_iff {hook : HookSlotId} {node : Node HookSlotTag HookSlot} :
    arena.hook hook = .ok node ↔
      hook.arenaId = arena.arenaId ∧ arena.hooks.get? hook.handle = some node := by
  unfold HookListArena.hook validateArena
  rw [← SlotArena.find_eq_ok_iff]
  by_cases here : hook.arenaId = arena.arenaId
  · rw [if_pos here]
    change Except.mapError _ _ = _ ↔ _
    cases arena.hooks.find hook.handle <;> simp [Except.mapError, here]
  · rw [if_neg here]
    simp [here, bind, Except.bind]

variable {hook : Handle HookSlotTag}

theorem hook_eq_ok {slot : HookSlot} (stored : arena.hooks.data? hook = some slot) :
    arena.hook (arena.hookId hook) = .ok ⟨slot, arena.hooks.next? hook⟩ :=
  hook_eq_ok_iff.mpr ⟨rfl, get?_of_data? stored⟩

theorem hook_live_iff : arena.hooks.Live hook ↔ ∃ slot, arena.hooks.data? hook = some slot := by
  unfold SlotArena.Live data?
  cases arena.hooks.get? hook <;> simp

theorem ensureHookBelongsToList_eq_ok {slot : HookSlot}
    (stored : arena.hooks.data? hook = some slot) :
    arena.ensureHookBelongsToList (arena.hookId hook) slot.list = .ok () := by
  unfold ensureHookBelongsToList
  rw [hook_eq_ok stored]
  exact if_pos rfl

namespace Holds

variable (holds : Holds arena members) (found : arena.lists.get? handle = some record)

include holds found

theorem stored {hook : Handle HookSlotTag} (member : hook ∈ members handle) :
    ∃ slot, arena.hooks.data? hook = some slot ∧ slot.list = arena.listId handle := by
  obtain ⟨position, placed⟩ := mem_iff_getElem?.mp member
  obtain ⟨payload, stored⟩ := holds.placed handle record found position hook placed
  exact ⟨_, stored, rfl⟩

theorem collectListHooksLoop_eq {handled rest : List (Handle HookSlotTag)} {rounds : Nat}
    (shape : handled ++ rest = members handle) (enough : rest.length ≤ rounds) :
    arena.collectListHooksLoop (arena.listId handle) record.len rounds rest.head? handled =
      .ok (members handle) := by
  have path := holds.path handle record found
  induction rest generalizing handled rounds with
  | nil =>
    rw [← shape, append_nil, head?_nil]
    cases rounds <;> rfl
  | cons hook rest ih =>
    cases rounds with
    | zero => simp at enough
    | succ rounds =>
      have member : hook ∈ members handle := by simp [← shape]
      obtain ⟨slot, stored, ofList⟩ := holds.stored found member
      have notRepeated : hook ∉ handled := by
        have noDuplicates := path.nodup
        rw [← shape] at noDuplicates
        intro repeated
        exact (nodup_append'.mp noDuplicates).2.2 repeated (by simp)
      have notLonger : ¬ record.len ≤ handled.length := by
        rw [holds.len handle record found, ← shape, length_append, length_cons]
        omega
      have next : arena.hooks.next? hook = rest.head? := by
        rw [← shape] at path
        exact path.next_eq
      have shapeBehind : (handled ++ [hook]) ++ rest = members handle := by simpa using shape
      have continued := ih shapeBehind (by simpa using enough)
      rw [head?_cons, collectListHooksLoop, ← ofList,
        ensureHookBelongsToList_eq_ok stored, hook_eq_ok stored, ofList, next]
      simpa [bind, Except.bind, notRepeated, notLonger] using continued

theorem collectListHooks_eq :
    arena.collectListHooks (arena.listId handle) = .ok (members handle) := by
  have path := holds.path handle record found
  have len := holds.len handle record found
  have resolved : arena.list (arena.listId handle) = .ok record := list_eq_ok_iff.mpr ⟨rfl, found⟩
  unfold collectListHooks
  rw [resolved]
  cases lastShape : (members handle).getLast? with
  | none =>
    have nothing := getLast?_eq_none_iff.mp lastShape
    have first := path.first_eq
    have last := path.last_eq
    rw [nothing] at len first last
    simp [bind, Except.bind, HookList.isEmpty, len, first, last, nothing]
  | some last =>
    cases membersShape : members handle with
    | nil => simp [membersShape] at lastShape
    | cons first rest =>
      have firstShape := path.first_eq
      have lastPointer := path.last_eq
      rw [lastShape] at lastPointer
      rw [membersShape, head?_cons] at firstShape
      have looped := holds.collectListHooksLoop_eq found (nil_append _)
        (Nat.le_succ_of_le (Nat.le_of_eq len.symm))
      rw [membersShape, head?_cons] at looped
      have occupied : record.len ≠ 0 := by
        rw [len, membersShape]
        exact Nat.succ_ne_zero _
      rw [membersShape] at len lastShape
      simp [bind, Except.bind, HookList.isEmpty, firstShape, lastPointer, occupied,
        looped, ← len, lastShape]

end Holds

theorem Holds.collectListHooks_eq_ok_iff {hooks : List (Handle HookSlotTag)}
    (holds : Holds arena members) :
    arena.collectListHooks id = .ok hooks ↔
      id.arenaId = arena.arenaId ∧ arena.lists.Live id.handle ∧ hooks = members id.handle := by
  constructor
  · intro collected
    obtain ⟨record, resolved, -⟩ := bind_eq_ok_iff.mp collected
    obtain ⟨here, found⟩ := list_eq_ok_iff.mp resolved
    have same : id = arena.listId id.handle := by
      cases id
      cases here
      rfl
    rw [same, holds.collectListHooks_eq found, Except.ok.injEq] at collected
    exact ⟨here, ⟨record, found⟩, collected.symm⟩
  · rintro ⟨here, ⟨record, found⟩, rfl⟩
    have same : id = arena.listId id.handle := by
      cases id
      cases here
      rfl
    rw [same]
    exact holds.collectListHooks_eq found

theorem Holds.validateListLinks_eq_ok_iff (holds : Holds arena members) :
    arena.validateListLinks id = .ok () ↔
      id.arenaId = arena.arenaId ∧ arena.lists.Live id.handle := by
  unfold validateListLinks
  rw [bind_eq_ok_iff]
  constructor
  · rintro ⟨hooks, collected, -⟩
    obtain ⟨here, live, -⟩ := holds.collectListHooks_eq_ok_iff.mp collected
    exact ⟨here, live⟩
  · rintro ⟨here, live⟩
    exact ⟨_, holds.collectListHooks_eq_ok_iff.mpr ⟨here, live, rfl⟩, rfl⟩

/-- A call only moves the handles of lists and hooks on. -/
structure Ages (before after : HookListArena) : Prop where
  arenaId : after.arenaId = before.arenaId
  lists : SlotArena.Ages before.lists after.lists
  hooks : SlotArena.Ages before.hooks after.hooks

theorem ages_refl (arena : HookListArena) : Ages arena arena where
  arenaId := rfl
  lists := SlotArena.ages_refl arena.lists
  hooks := SlotArena.ages_refl arena.hooks

theorem Ages.trans {before between after : HookListArena} (earlier : Ages before between)
    (later : Ages between after) : Ages before after where
  arenaId := later.arenaId.trans earlier.arenaId
  lists := earlier.lists.trans later.lists
  hooks := earlier.hooks.trans later.hooks

instance : IsPreorder HookListArena Ages where
  refl := ages_refl
  trans _ _ _ := Ages.trans

end HookListArena

open HookListArena

theorem within_createList (owner : FiberId) : Within Ages (createList owner) :=
  .modifyGet fun arena => ⟨rfl, SlotArena.ages_insert arena.lists _, refl arena.hooks⟩

theorem within_setHookPayload (hook : HookSlotId) (payload : HookSlotPayload) :
    Within Ages (setHookPayload hook payload) :=
  .bind (.query _) fun _ => .modify fun arena =>
    ⟨rfl, refl arena.lists, SlotArena.ages_modify arena.hooks _ _⟩

variable (list : HookListId)

theorem within_modifyList (change : HookList → HookList) : Within Ages (modifyList list change) :=
  .bind (.query _) fun _ => .modify fun arena =>
    ⟨rfl, SlotArena.ages_modify arena.lists _ _, refl arena.hooks⟩

theorem within_setNextHook (hook : HookSlotId) (next : Handle HookSlotTag) :
    Within Ages (setNextHook hook next) :=
  .bind (.query _) fun _ => .modify fun arena =>
    ⟨rfl, refl arena.lists, SlotArena.ages_modify arena.hooks _ _⟩

theorem within_appendHook (payload : HookSlotPayload) : Within Ages (appendHook list payload) := by
  refine .bind (.query _) fun _ => .bind (.query _) fun record => ?_
  refine .bind (.modifyGet fun arena =>
    ⟨rfl, refl arena.lists, SlotArena.ages_insert arena.hooks _⟩) fun handle => ?_
  cases record.last with
  | some last =>
    exact .bind .get fun _ => .bind (within_setNextHook _ _) fun _ =>
      .bind (within_modifyList _ _) fun _ => .bind .get fun _ => .pure _
  | none =>
    exact .bind (within_modifyList _ _) fun _ =>
      .bind (within_modifyList _ _) fun _ => .bind .get fun _ => .pure _

theorem within_mountHook (cursor : HookListMountCursor) (payload : HookSlotPayload) :
    Within Ages (mountHook cursor payload) :=
  .bind (.query _) fun _ => .guard fun _ => .bind (within_appendHook _ _) fun _ => .pure _

theorem within_updateHook (cursor : HookListUpdateCursor) : Within Ages (updateHook cursor) := by
  refine .bind (.query _) fun _ => ?_
  cases cursor.nextCurrent with
  | none => exact .throw _
  | some handle =>
    refine .bind .get fun _ => .bind (.query _) fun current => .bind (.query _) fun _ => ?_
    cases current.next with
    | none => exact .bind (within_appendHook _ _) fun _ => .pure _
    | some next =>
      exact .bind .get fun _ => .bind (.query _) fun _ =>
        .bind (within_appendHook _ _) fun _ => .pure _

theorem within_discardHook (handle : Handle HookSlotTag) : Within Ages (discardHook handle) :=
  .bind .get fun _ => .bind (.query _) fun _ => .guard fun _ =>
    .modify fun arena => ⟨rfl, refl arena.lists, SlotArena.ages_remove arena.hooks handle⟩

theorem within_discardList : Within Ages (discardList list) :=
  .bind (.query _) fun hooks =>
    .bind (.forM within_discardHook hooks) fun _ =>
      .bind (.query _) fun _ => .guard fun _ => .modify fun arena =>
        ⟨rfl, SlotArena.ages_remove arena.lists list.handle, refl arena.hooks⟩

variable {arena : HookListArena}

theorem run_modifyList {list : HookListId} {record : HookList} (here : list.arenaId = arena.arenaId)
    (found : arena.lists.get? list.handle = some record) (change : HookList → HookList) :
    (modifyList list change).run arena =
      .ok () { arena with lists := arena.lists.modify list.handle change } := by
  have resolved : arena.list list = .ok record := list_eq_ok_iff.mpr ⟨here, found⟩
  simp only [modifyList, run_bind, run_query, resolved, run_modify]

theorem run_setNextHook {hook : HookSlotId} {slot : HookSlot} (here : hook.arenaId = arena.arenaId)
    (stored : arena.hooks.data? hook.handle = some slot) (next : Handle HookSlotTag) :
    (setNextHook hook next).run arena =
      .ok () { arena with hooks := arena.hooks.withNext hook.handle (some next) } := by
  have resolved := hook_eq_ok_iff.mpr ⟨here, get?_of_data? stored⟩
  simp only [setNextHook, run_bind, run_query, resolved, run_modify]

namespace HookListArena

/-- A new hook is linked behind the members of a list. -/
structure Appended (before after : HookListArena) (handle : Handle HookListTag) (record : HookList)
    (hook : Handle HookSlotTag)
    (payload : HookSlotPayload) : Prop where
  isNew : before.hooks.data? hook = none
  notSpent : ¬ before.hooks.Spent hook
  arenaId : after.arenaId = before.arenaId
  lists : ∀ other, after.lists.get? other =
    if other = handle then
      some
        { owner := record.owner
          first := record.first.or (some hook)
          last := some hook
          len := record.len + 1 }
    else
      before.lists.get? other
  data : ∀ other, after.hooks.data? other =
    if other = hook then
      some ⟨before.listId handle, record.len, payload⟩
    else
      before.hooks.data? other
  next : ∀ other, after.hooks.next? other =
    if other = hook then
      none
    else if record.last = some other then
      some hook
    else
      before.hooks.next? other

end HookListArena

theorem run_appendHook {handle : Handle HookListTag} {record : HookList}
    (holds : Holds arena members) (found : arena.lists.get? handle = some record)
    (payload : HookSlotPayload) :
    ∃ hook after,
      (appendHook (arena.listId handle) payload).run arena = .ok (arena.hookId hook) after ∧
      Appended arena after handle record hook payload := by
  have resolved : arena.list (arena.listId handle) = .ok record := list_eq_ok_iff.mpr ⟨rfl, found⟩
  have valid : arena.validateListLinks (arena.listId handle) = .ok () :=
    holds.validateListLinks_eq_ok_iff.mpr ⟨rfl, record, found⟩
  obtain ⟨hook, inserted, shape⟩ : ∃ hook inserted, arena.hooks.insert
      { data := { list := arena.listId handle, index := record.len, payload := payload }
        next := none } = (hook, inserted) :=
    ⟨_, _, rfl⟩
  have isNew : arena.hooks.data? hook = none := by
    have fresh := (insert_spec arena.hooks
      { data := { list := arena.listId handle, index := record.len, payload := payload }
        next := none }).1
    rwa [shape] at fresh
  have notSpent : ¬ arena.hooks.Spent hook := by
    have fresh := SlotArena.not_spent_insert arena.hooks
      { data := { list := arena.listId handle, index := record.len, payload := payload }
        next := none }
    rwa [shape] at fresh
  have data : ∀ other, data? inserted other =
      if other = hook then
        some ⟨arena.listId handle, record.len, payload⟩
      else
        arena.hooks.data? other := by
    intro other
    have inserting := data?_insert arena.hooks
      { data := { list := arena.listId handle, index := record.len, payload := payload }
        next := none } other
    rwa [shape] at inserting
  have next : ∀ other, next? inserted other =
      if other = hook then none else arena.hooks.next? other := by
    intro other
    have inserting := next?_insert arena.hooks
      { data := { list := arena.listId handle, index := record.len, payload := payload }
        next := none } other
    rwa [shape] at inserting
  cases lastShape : record.last with
  | none =>
    have first : record.first = none := by
      have path := holds.path handle record found
      rw [lastShape] at path
      exact path.1
    have opened : (arena.lists.modify handle fun record =>
        { record with first := some hook }).get? handle =
          some { record with first := some hook } := by
      rw [SlotArena.get?_modify, if_pos rfl, found]
      rfl
    refine ⟨hook, { arena with
      hooks := inserted
      lists := (arena.lists.modify handle fun record =>
        { record with first := some hook }).modify handle fun record =>
          { record with last := some hook, len := record.len + 1 } },
      ?_, isNew, notSpent, rfl, ?_, data, ?_⟩
    · simp only [appendHook, appendHookUnchecked, run_bind, run_query, valid,
        resolved, run_modifyGet, shape, lastShape]
      rw [run_modifyList rfl found]
      simp only
      rw [run_modifyList rfl opened]
      rfl
    · intro other
      rw [SlotArena.get?_modify, SlotArena.get?_modify]
      by_cases same : other = handle <;> simp [same, found, first]
    · intro other
      rw [next, lastShape]
      simp
  | some last =>
    have lastMember : last ∈ members handle := by
      have path := holds.path handle record found
      rw [lastShape] at path
      exact path.1.tail_mem
    obtain ⟨lastSlot, lastStored, -⟩ := holds.stored found lastMember
    obtain ⟨first, firstShape⟩ : ∃ first, record.first = some first := by
      have path := holds.path handle record found
      rw [lastShape] at path
      obtain ⟨head, headShape, -⟩ := path.1.exists_head
      exact ⟨head, path.2.1.trans headShape⟩
    have lastOld : last ≠ hook := by
      rintro rfl
      rw [isNew] at lastStored
      cases lastStored
    have storedStill : data? inserted last = some lastSlot := by
      rw [data, if_neg lastOld, lastStored]
    refine ⟨hook, { arena with
      hooks := withNext inserted last (some hook)
      lists := arena.lists.modify handle fun record =>
        { record with last := some hook, len := record.len + 1 } },
      ?_, isNew, notSpent, rfl, ?_, ?_, ?_⟩
    · simp only [appendHook, appendHookUnchecked, run_bind, run_query, valid,
        resolved, run_modifyGet, shape, lastShape, run_get]
      rw [run_setNextHook rfl storedStill]
      simp only
      rw [run_modifyList rfl found]
      rfl
    · intro other
      rw [SlotArena.get?_modify]
      by_cases same : other = handle <;> simp [same, found, firstShape]
    · intro other
      rw [data?_withNext, data]
    · intro other
      rw [next?_withNext storedStill, next, lastShape]
      by_cases isLast : other = last
      · subst isLast
        simp [lastOld]
      · simp [isLast, Ne.symm isLast]

namespace HookListArena

variable {after : HookListArena}

/-- The new hook is the last member of its list; the other lists keep theirs. -/
theorem Appended.holds {hook : Handle HookSlotTag} {payload : HookSlotPayload}
    (appended : Appended arena after handle record hook payload) (holds : Holds arena members)
    (found : arena.lists.get? handle = some record) :
    Holds after (update members handle (members handle ++ [hook])) := by
  have path := holds.path handle record found
  have listId : ∀ other, after.listId other = arena.listId other := by
    intro other
    rw [listId, listId, appended.arenaId]
  -- No member of any list is new, and the last one of this list is in no other.
  have old : ∀ other otherRecord, arena.lists.get? other = some otherRecord →
      ∀ member ∈ members other, member ≠ hook := by
    rintro other otherRecord otherFound member isMember rfl
    obtain ⟨slot, stored, -⟩ := holds.stored otherFound isMember
    rw [appended.isNew] at stored
    cases stored
  have elsewhere : ∀ other otherRecord, other ≠ handle →
      arena.lists.get? other = some otherRecord →
      ∀ member ∈ members other, record.last ≠ some member := by
    intro other otherRecord different otherFound member isMember isLast
    obtain ⟨slot, stored, ofOther⟩ := holds.stored otherFound isMember
    obtain ⟨lastSlot, lastStored, ofList⟩ :=
      holds.stored found (mem_of_getLast? (path.last_eq.symm.trans isLast))
    rw [stored, Option.some.injEq] at lastStored
    rw [← lastStored, ofOther] at ofList
    exact different (HookListId.mk.inj ofList).2
  refine ⟨?_, ?_, ?_⟩
  · intro other otherRecord otherFound
    rw [appended.lists] at otherFound
    by_cases same : other = handle
    · subst same
      rw [if_pos rfl, Option.some.injEq] at otherFound
      subst otherFound
      rw [update_self]
      refine path.push (fun isMember => old other record found hook isMember rfl) ?_ ?_ ?_
      · intro member isMember notLast
        rw [appended.next, if_neg (old other record found member isMember),
          if_neg (Ne.symm notLast)]
      · intro last isLast
        have lastMember := mem_of_getLast? (path.last_eq.symm.trans isLast)
        rw [appended.next, if_neg (old other record found last lastMember), if_pos isLast]
      · rw [appended.next, if_pos rfl]
    · rw [if_neg same] at otherFound
      rw [update_of_ne same]
      refine (holds.path other otherRecord otherFound).congr ?_
      intro member isMember
      rw [appended.next, if_neg (old other otherRecord otherFound member isMember),
        if_neg (elsewhere other otherRecord same otherFound member isMember)]
  · intro other otherRecord otherFound
    rw [appended.lists] at otherFound
    by_cases same : other = handle
    · subst same
      rw [if_pos rfl, Option.some.injEq] at otherFound
      rw [← otherFound, update_self, length_append, holds.len other record found]
      rfl
    · rw [if_neg same] at otherFound
      rw [update_of_ne same]
      exact holds.len other otherRecord otherFound
  · intro other otherRecord otherFound position member placed
    rw [appended.lists] at otherFound
    rw [appended.data, listId]
    by_cases same : other = handle
    · subst same
      rw [update_self] at placed
      rcases Nat.lt_or_ge position (members other).length with inside | beyond
      · rw [getElem?_append_left inside] at placed
        rw [if_neg (old other record found member (mem_of_getElem? placed))]
        exact holds.placed other record found position member placed
      · obtain ⟨atEnd, rfl⟩ : position = (members other).length ∧ hook = member := by
          rw [getElem?_append_right beyond, getElem?_singleton] at placed
          split at placed
          · exact ⟨by omega, Option.some.inj placed⟩
          · cases placed
        exact ⟨payload, by rw [if_pos rfl, holds.len other record found, atEnd]⟩
    · rw [if_neg same] at otherFound
      rw [update_of_ne same] at placed
      rw [if_neg (old other otherRecord otherFound member (mem_of_getElem? placed))]
      exact holds.placed other otherRecord otherFound position member placed

end HookListArena

namespace HookListArena

variable {after : HookListArena}

theorem holds_createList (holds : Holds arena members) (owner : FiberId) :
    Holds { arena with lists := (arena.lists.insert (HookList.new owner)).2 }
      (update members (arena.lists.insert (HookList.new owner)).1 []) := by
  have cases : ∀ other record,
      (arena.lists.insert (HookList.new owner)).2.get? other = some record →
      other = (arena.lists.insert (HookList.new owner)).1 ∧ record = HookList.new owner ∨
        other ≠ (arena.lists.insert (HookList.new owner)).1 ∧
          arena.lists.get? other = some record := by
    intro other record found
    rw [SlotArena.get?_insert] at found
    split at found
    · exact .inl ⟨‹_›, (Option.some.inj found).symm⟩
    · exact .inr ⟨‹_›, found⟩
  refine ⟨?_, ?_, ?_⟩
  · intro other record found
    rcases cases other record found with ⟨rfl, rfl⟩ | ⟨different, foundBefore⟩
    · rw [update_self]
      exact ⟨rfl, rfl⟩
    · rw [update_of_ne different]
      exact holds.path other record foundBefore
  · intro other record found
    rcases cases other record found with ⟨rfl, rfl⟩ | ⟨different, foundBefore⟩
    · rw [update_self]
      rfl
    · rw [update_of_ne different]
      exact holds.len other record foundBefore
  · intro other record found position member placed
    rcases cases other record found with ⟨rfl, rfl⟩ | ⟨different, foundBefore⟩
    · rw [update_self] at placed
      cases placed
    · rw [update_of_ne different] at placed
      exact holds.placed other record foundBefore position member placed

/-- The arena with another payload in a hook. -/
def withPayload (arena : HookListArena) (hook : Handle HookSlotTag) (payload : HookSlotPayload) :
    HookListArena :=
  { arena with hooks := arena.hooks.modify hook fun node =>
      { node with data := { node.data with payload := payload } } }

section

variable (hook other : Handle HookSlotTag) (payload : HookSlotPayload)

theorem next?_withPayload :
    (arena.withPayload hook payload).hooks.next? other = arena.hooks.next? other := by
  unfold withPayload LinkedArena.next?
  rw [SlotArena.get?_modify]
  by_cases same : other = hook
  · rw [if_pos same]
    cases arena.hooks.get? other <;> rfl
  · rw [if_neg same]

theorem data?_withPayload :
    (arena.withPayload hook payload).hooks.data? other =
      if other = hook then
        (arena.hooks.data? other).map fun slot => { slot with payload := payload }
      else
        arena.hooks.data? other := by
  unfold withPayload data?
  rw [SlotArena.get?_modify]
  by_cases same : other = hook
  · rw [if_pos same, if_pos same]
    cases arena.hooks.get? other <;> rfl
  · rw [if_neg same, if_neg same]

end

theorem run_setHookPayload (arena : HookListArena) (hook : HookSlotId) (payload : HookSlotPayload) :
    (hook.arenaId = arena.arenaId ∧ (∃ slot, arena.hooks.data? hook.handle = some slot) ∧
      (setHookPayload hook payload).run arena = .ok () (arena.withPayload hook.handle payload)) ∨
      ∃ error, (setHookPayload hook payload).run arena = .error error arena := by
  cases resolved : arena.hook hook with
  | error error => exact .inr ⟨error, by simp only [setHookPayload, run_bind, run_query, resolved]⟩
  | ok node =>
    obtain ⟨here, found⟩ := hook_eq_ok_iff.mp resolved
    refine .inl ⟨here, ⟨node.data, by simp [data?, found]⟩, ?_⟩
    simp only [setHookPayload, run_bind, run_query, resolved, run_modify]
    rfl

theorem Holds.withPayload (holds : Holds arena members) (hook : Handle HookSlotTag)
    (payload : HookSlotPayload) : Holds (arena.withPayload hook payload) members where
  path := fun handle record found =>
    (holds.path handle record found).congr fun id _ => next?_withPayload hook id payload
  len := holds.len
  placed := by
    intro handle record found position member placed
    obtain ⟨existing, stored⟩ := holds.placed handle record found position member placed
    rw [data?_withPayload, stored]
    by_cases same : member = hook
    · rw [if_pos same]
      exact ⟨payload, rfl⟩
    · rw [if_neg same]
      exact ⟨existing, rfl⟩

structure Discarded (before after : HookListArena) (handle : Handle HookListTag)
    (freed : List (Handle HookSlotTag)) : Prop where
  arenaId : after.arenaId = before.arenaId
  lists : ∀ other, after.lists.get? other =
    if other = handle then none else before.lists.get? other
  hooks : ∀ other, after.hooks.get? other =
    if other ∈ freed then none else before.hooks.get? other

/-- The first handle that a discard frees can go on to a later generation exactly when
all of them can. -/
def CanDiscard (arena : HookListArena) (list : HookListId) : Prop :=
  ∀ hooks, arena.collectListHooks list = .ok hooks →
    let generations := hooks.map Handle.generation ++ [list.handle.generation]
    (∀ generation ∈ generations, generation + 1 < generationBound) ∨
      ∃ first, generations.head? = some first ∧ generationBound ≤ first + 1

theorem run_discardHooks {hooks : List (Handle HookSlotTag)} (noDuplicates : hooks.Nodup)
    (live : ∀ hook ∈ hooks, ∃ slot, arena.hooks.data? hook = some slot)
    (inBounds : ∀ hook ∈ hooks, hook.generation + 1 < generationBound) :
    ∃ after,
      (hooks.forM discardHook).run arena = .ok () after ∧
      after.arenaId = arena.arenaId ∧
      after.lists = arena.lists ∧
      ∀ other, after.hooks.get? other = if other ∈ hooks then none else arena.hooks.get? other := by
  induction hooks generalizing arena with
  | nil => exact ⟨arena, rfl, rfl, rfl, by simp⟩
  | cons hook rest ih =>
    obtain ⟨notInRest, restNodup⟩ := nodup_cons.mp noDuplicates
    obtain ⟨slot, stored⟩ := live hook (by simp)
    have freed : (discardHook hook).run arena =
        .ok () { arena with hooks := arena.hooks.remove hook } := by
      have bounded : ¬ generationBound ≤ hook.generation + 1 :=
        Nat.not_le.mpr (inBounds hook (by simp))
      simp only [discardHook, run_bind, run_get, run_query,
        hook_eq_ok stored, if_neg bounded, run_modify]
    have restLive : ∀ other ∈ rest, ∃ slot,
        data? (arena.hooks.remove hook) other = some slot := by
      intro other member
      obtain ⟨otherSlot, otherStored⟩ := live other (by simp [member])
      have different : other ≠ hook := by
        rintro rfl
        exact notInRest member
      exact ⟨otherSlot, by
        rw [data?, SlotArena.get?_remove, if_neg different]; exact otherStored⟩
    obtain ⟨after, ran, sameArena, sameLists, hooksAfter⟩ :=
      @ih { arena with hooks := arena.hooks.remove hook } restNodup
        restLive fun other member => inBounds other (by simp [member])
    refine ⟨after, ?_, sameArena, sameLists, ?_⟩
    · rw [run_forM_cons, freed]
      exact ran
    · intro other
      rw [hooksAfter, SlotArena.get?_remove]
      by_cases isHook : other = hook <;> by_cases inRest : other ∈ rest <;> simp [isHook, inRest]

theorem run_discardList {list : HookListId} (holds : Holds arena members)
    (can : CanDiscard arena list) :
    (∃ after,
      (discardList list).run arena = .ok () after ∧
      list.arenaId = arena.arenaId ∧
      arena.lists.Live list.handle ∧
      Discarded arena after list.handle (members list.handle)) ∨
      ∃ error, (discardList list).run arena = .error error arena := by
  cases collected : arena.collectListHooks list with
  | error error => exact .inr ⟨error, by simp only [discardList, run_bind, run_query, collected]⟩
  | ok hooks =>
    obtain ⟨here, ⟨record, found⟩, rfl⟩ := holds.collectListHooks_eq_ok_iff.mp collected
    have resolved : arena.list list = .ok record := list_eq_ok_iff.mpr ⟨here, found⟩
    rcases can _ collected with inBounds | ⟨first, isFirst, overflow⟩
    · obtain ⟨freed, ran, sameArena, sameLists, hooksAfter⟩ :=
        run_discardHooks (holds.path _ _ found).nodup
          (fun hook member =>
            let ⟨slot, stored, _⟩ := holds.stored found member
            ⟨slot, stored⟩)
          (fun hook member => inBounds _ (by
            simp only [mem_append, mem_map]
            exact .inl ⟨hook, member, rfl⟩))
      have resolvedStill : freed.list list = .ok record :=
        list_eq_ok_iff.mpr ⟨here.trans sameArena.symm, by rw [sameLists, found]⟩
      have bounded : ¬ generationBound ≤ list.handle.generation + 1 :=
        Nat.not_le.mpr (inBounds _ (by simp))
      refine .inl ⟨{ freed with lists := freed.lists.remove list.handle }, ?_, here,
        ⟨record, found⟩, sameArena, ?_, hooksAfter⟩
      · simp only [discardList, run_bind, run_query, collected, ran,
          resolvedStill, if_neg bounded, run_modify]
      · intro other
        rw [SlotArena.get?_remove, sameLists]
    · refine .inr ⟨.generationOverflow, ?_⟩
      cases membersShape : members list.handle with
      | nil =>
        rw [membersShape] at collected isFirst
        obtain rfl : list.handle.generation = first := Option.some.inj isFirst
        have nothing : (List.forM [] discardHook).run arena = .ok () arena := rfl
        simp only [discardList, run_bind, run_query, collected, nothing, resolved,
          if_pos overflow, run_throw]
      | cons hook rest =>
        have member : hook ∈ members list.handle := by simp [membersShape]
        obtain ⟨slot, stored, -⟩ := holds.stored found member
        rw [membersShape] at collected isFirst
        obtain rfl : hook.generation = first := Option.some.inj isFirst
        have failed : (discardHook hook).run arena = .error .generationOverflow arena := by
          simp only [discardHook, run_bind, run_get, run_query,
            hook_eq_ok stored, if_pos overflow, run_throw]
        simp only [discardList, run_bind, run_query, collected, run_forM_cons, failed]

/-- The lists that are left keep their members. -/
theorem Discarded.holds {handle : Handle HookListTag} {record : HookList}
    (discarded : Discarded arena after handle (members handle)) (holds : Holds arena members)
    (found : arena.lists.get? handle = some record) : Holds after members := by
  have keptList : ∀ other otherRecord, after.lists.get? other = some otherRecord →
      other ≠ handle ∧ arena.lists.get? other = some otherRecord := by
    intro other otherRecord otherFound
    rw [discarded.lists] at otherFound
    split at otherFound
    · cases otherFound
    · exact ⟨‹_›, otherFound⟩
  have keptHook : ∀ other otherRecord, after.lists.get? other = some otherRecord →
      ∀ member ∈ members other, after.hooks.get? member = arena.hooks.get? member := by
    intro other otherRecord otherFound member isMember
    obtain ⟨different, foundBefore⟩ := keptList other otherRecord otherFound
    obtain ⟨slot, stored, ofOther⟩ := holds.stored foundBefore isMember
    rw [discarded.hooks, if_neg]
    intro freed
    obtain ⟨freedSlot, freedStored, ofList⟩ := holds.stored found freed
    rw [stored, Option.some.injEq] at freedStored
    rw [← freedStored, ofOther] at ofList
    exact different (HookListId.mk.inj ofList).2
  refine ⟨?_, ?_, ?_⟩
  · intro other otherRecord otherFound
    obtain ⟨-, foundBefore⟩ := keptList other otherRecord otherFound
    refine (holds.path other otherRecord foundBefore).congr ?_
    intro member isMember
    rw [LinkedArena.next?, LinkedArena.next?, keptHook other otherRecord otherFound member isMember]
  · intro other otherRecord otherFound
    exact holds.len other otherRecord (keptList other otherRecord otherFound).2
  · intro other otherRecord otherFound position member placed
    obtain ⟨payload, stored⟩ := holds.placed other otherRecord
      (keptList other otherRecord otherFound).2 position member placed
    refine ⟨payload, ?_⟩
    rw [data?, keptHook other otherRecord otherFound member (mem_of_getElem? placed), listId,
      discarded.arenaId]
    exact stored

variable {cursor : HookListUpdateCursor} {currentRecord workRecord : HookList}

theorem ensureUpdateCursorListsUnchanged_eq_ok_iff (holds : Holds arena members) :
    arena.ensureUpdateCursorListsUnchanged cursor = .ok () ↔
      cursor.currentList.arenaId = arena.arenaId ∧
        cursor.workInProgressList.arenaId = arena.arenaId ∧
        ∃ current work,
          arena.lists.get? cursor.currentList.handle = some current ∧
          arena.lists.get? cursor.workInProgressList.handle = some work ∧
          current.owner = work.owner ∧
          current.len = cursor.expectedCount ∧
          work.len = cursor.consumed := by
  unfold ensureUpdateCursorListsUnchanged
  simp only [bind_eq_ok_iff, exists_const, holds.validateListLinks_eq_ok_iff, list_eq_ok_iff,
    guard_eq_ok_iff, not_not, and_true]
  constructor
  · rintro ⟨-, -, current, ⟨currentHere, currentFound⟩, work, ⟨workHere, workFound⟩, checked⟩
    exact ⟨currentHere, workHere, current, work, currentFound, workFound, checked⟩
  · rintro ⟨currentHere, workHere, current, work, currentFound, workFound, checked⟩
    exact ⟨⟨currentHere, current, currentFound⟩, ⟨workHere, work, workFound⟩,
      current, ⟨currentHere, currentFound⟩, work, ⟨workHere, workFound⟩, checked⟩

theorem finishUpdate_eq_ok_iff {result : HookListTraversalResult} :
    arena.finishUpdate cursor = .ok result ↔
      arena.ensureUpdateCursorListsUnchanged cursor = .ok () ∧
        cursor.nextCurrent = none ∧
        result = { list := cursor.workInProgressList, traversedCount := cursor.consumed } := by
  unfold finishUpdate
  rw [bind_eq_ok_iff]
  constructor
  · rintro ⟨⟨⟩, unchanged, finished⟩
    split at finished
    · cases finished
    · exact ⟨unchanged, ‹_›, (Except.ok.inj finished).symm⟩
  · rintro ⟨unchanged, nothingLeft, rfl⟩
    exact ⟨(), unchanged, by rw [nothingLeft]⟩

theorem beginUpdate_eq_ok_iff {currentList workInProgressList : HookListId}
    (holds : Holds arena members) :
    arena.beginUpdate currentList workInProgressList = .ok cursor ↔
      currentList.arenaId = arena.arenaId ∧
        workInProgressList.arenaId = arena.arenaId ∧
        ∃ current work,
          arena.lists.get? currentList.handle = some current ∧
          arena.lists.get? workInProgressList.handle = some work ∧
          current.owner = work.owner ∧
          work.len = 0 ∧
          cursor =
            { currentList := currentList
              workInProgressList := workInProgressList
              nextCurrent := current.first
              consumed := 0
              expectedCount := current.len } := by
  unfold beginUpdate
  simp only [bind_eq_ok_iff, exists_const, holds.validateListLinks_eq_ok_iff, list_eq_ok_iff,
    guard_eq_ok_iff, not_not, HookList.isEmpty, Bool.not_eq_true', beq_eq_false_iff_ne,
    Except.ok.injEq, @eq_comm _ _ cursor]
  constructor
  · rintro ⟨-, -, current, ⟨currentHere, currentFound⟩, work, ⟨workHere, workFound⟩, checked⟩
    exact ⟨currentHere, workHere, current, work, currentFound, workFound, checked⟩
  · rintro ⟨currentHere, workHere, current, work, currentFound, workFound, checked⟩
    exact ⟨⟨currentHere, current, currentFound⟩, ⟨workHere, work, workFound⟩,
      current, ⟨currentHere, currentFound⟩, work, ⟨workHere, workFound⟩, checked⟩

end HookListArena

open HookListArena

theorem appendHook_cases (holds : Holds arena members) (list : HookListId)
    (payload : HookSlotPayload) :
    (∃ record hook after,
      list.arenaId = arena.arenaId ∧
      arena.lists.get? list.handle = some record ∧
      (appendHook list payload).run arena = .ok (after.hookId hook) after ∧
      Appended arena after list.handle record hook payload) ∨
      ∃ error, (appendHook list payload).run arena = .error error arena := by
  cases valid : arena.validateListLinks list with
  | error error => exact .inr ⟨error, by simp only [appendHook, run_bind, run_query, valid]⟩
  | ok =>
    obtain ⟨here, record, found⟩ := holds.validateListLinks_eq_ok_iff.mp valid
    have same : list = arena.listId list.handle := by
      cases list
      cases here
      rfl
    obtain ⟨hook, after, ran, appended⟩ := run_appendHook holds found payload
    refine .inl ⟨record, hook, after, here, found, ?_, appended⟩
    rw [same, ran, hookId, hookId, appended.arenaId]

theorem updateHook_cases (holds : Holds arena members) (cursor : HookListUpdateCursor) :
    (∃ source slot record hook after,
      cursor.nextCurrent = some source ∧
      arena.ensureUpdateCursorListsUnchanged cursor = .ok () ∧
      arena.hooks.data? source = some slot ∧
      arena.lists.get? cursor.workInProgressList.handle = some record ∧
      (updateHook cursor).run arena =
        .ok
          (after.hookId hook,
            { cursor with
              nextCurrent := arena.hooks.next? source
              consumed := cursor.consumed + 1 })
          after ∧
      Appended arena after cursor.workInProgressList.handle record hook slot.payload) ∨
      ∃ error, (updateHook cursor).run arena = .error error arena := by
  cases unchanged : arena.ensureUpdateCursorListsUnchanged cursor with
  | error error => exact .inr ⟨error, by simp only [updateHook, run_bind, run_query, unchanged]⟩
  | ok =>
    cases sourceShape : cursor.nextCurrent with
    | none =>
      exact .inr ⟨_, by simp only [updateHook, run_bind, run_query, unchanged, sourceShape]; rfl⟩
    | some source =>
      cases resolved : arena.hook (arena.hookId source) with
      | error error =>
        exact .inr ⟨error, by
          simp only [updateHook, run_bind, run_query, unchanged, sourceShape, run_get, resolved]⟩
      | ok current =>
        have found : arena.hooks.get? source = some current := (hook_eq_ok_iff.mp resolved).2
        have stored : arena.hooks.data? source = some current.data := by
          rw [data?, found, Option.map_some]
        have next : arena.hooks.next? source = current.next := by
          rw [LinkedArena.next?, found, Option.bind_some]
        cases belongs : arena.ensureHookBelongsToList (arena.hookId source) cursor.currentList with
        | error error =>
          exact .inr ⟨error, by
            simp only [updateHook, run_bind, run_query, unchanged,
              sourceShape, run_get, resolved, belongs]⟩
        | ok =>
          have nextBelongs : (∀ following, current.next = some following →
              arena.ensureHookBelongsToList (arena.hookId following) cursor.currentList = .ok ()) ∨
              ∃ error, (updateHook cursor).run arena = .error error arena := by
            cases nextShape : current.next with
            | none => exact .inl fun following shape => by cases shape
            | some following =>
              cases followingBelongs : arena.ensureHookBelongsToList
                  (arena.hookId following) cursor.currentList with
              | error error =>
                exact .inr ⟨error, by
                  simp only [updateHook, run_bind, run_query, unchanged, sourceShape, run_get,
                    resolved, belongs, nextShape, followingBelongs]⟩
              | ok =>
                refine .inl ?_
                rintro other shape
                cases shape
                exact followingBelongs
          rcases nextBelongs with followingBelongs | failed
          · have ran : (updateHook cursor).run arena =
                ((fun cloned => (cloned,
                  { cursor with
                    nextCurrent := current.next
                    consumed := cursor.consumed + 1 })) <$>
                  appendHook cursor.workInProgressList current.data.payload).run arena := by
              cases nextShape : current.next with
              | none =>
                simp only [updateHook, run_bind, run_query, unchanged, sourceShape, run_get,
                  resolved, belongs, nextShape, run_pure, map_eq_pure_bind]
              | some following =>
                simp only [updateHook, run_bind, run_query, unchanged, sourceShape, run_get,
                  resolved, belongs, nextShape, followingBelongs following nextShape, run_pure,
                  map_eq_pure_bind]
            rw [ran, map_eq_pure_bind, run_bind]
            rcases appendHook_cases holds cursor.workInProgressList
                current.data.payload with
              ⟨record, hook, after, here, workFound, appended, isAppended⟩ |
              ⟨error, failed⟩
            · refine .inl ⟨source, current.data, record, hook, after, rfl, rfl, stored,
                workFound, ?_, isAppended⟩
              rw [appended, next]
              rfl
            · exact .inr ⟨error, by rw [failed]⟩
          · exact .inr failed

end FastReact
