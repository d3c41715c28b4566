import FastReact.Fiber
import FastReact.HookStateQueue

namespace FastReact

open ErrorState

/-!
# The arena of hook lists

Lists and hooks live in two slot arenas.  A list names its first and its last hook, and
each hook the one behind it.  A render that updates walks the current list with a cursor
and appends a copy of each hook to the list in progress.  The links inside an arena leave
out its identity, which the handles given to callers carry.
-/

namespace HookListArena

inductive HookListTag
inductive HookSlotTag
inductive HookEffectTag

abbrev HookEffectId := OpaqueHandle HookEffectTag

/-- The identity of an arena. -/
structure HookListArenaId where
  raw : Nat
deriving DecidableEq

structure HookListId where
  arenaId : HookListArenaId
  handle : Handle HookListTag
deriving DecidableEq

structure HookSlotId where
  arenaId : HookListArenaId
  handle : Handle HookSlotTag
deriving DecidableEq

structure HookStatePayload where
  memoizedState : StateHandle
  baseState : StateHandle
  baseQueue : Option HookUpdateId
  queue : HookQueueId
deriving DecidableEq

/-- What a hook holds. -/
inductive HookSlotPayload where
  | empty
  | opaqueState (memoizedState : StateHandle)
  | state (payload : HookStatePayload)
  | effect (effect : HookEffectId)
deriving DecidableEq

structure HookList where
  owner : FiberId
  first : Option (Handle HookSlotTag)
  last : Option (Handle HookSlotTag)
  len : Nat
deriving DecidableEq

def HookList.new (owner : FiberId) : HookList where
  owner := owner
  first := none
  last := none
  len := 0

def HookList.isEmpty (list : HookList) : Bool :=
  list.len == 0

/-- A hook without its link. -/
structure HookSlot where
  list : HookListId
  index : Nat
  payload : HookSlotPayload
deriving DecidableEq

inductive HookListError where
  | wrongArena (expected actual : HookListArenaId)
  | invalidListSlot (arenaId : HookListArenaId) (slot : Nat)
  | staleListGeneration (id : HookListId) (currentGeneration : Nat)
  | vacantListSlot (id : HookListId)
  | invalidHookSlot (arenaId : HookListArenaId) (slot : Nat)
  | staleHookGeneration (id : HookSlotId) (currentGeneration : Nat)
  | vacantHookSlot (id : HookSlotId)
  | wrongHookListOwner (hook : HookSlotId) (expected actual : HookListId)
  | listOwnerMismatch (currentList workInProgressList : HookListId)
      (currentOwner workInProgressOwner : FiberId)
  | mountListNotEmpty (list : HookListId)
  | workInProgressListNotEmpty (list : HookListId)
  | renderedMoreHooksThanPreviousRender (currentList workInProgressList : HookListId)
      (attemptedIndex : Nat)
  | renderedFewerHooksThanExpected (currentList workInProgressList : HookListId)
      (nextUnvisited : HookSlotId) (remaining : Nat)
  | traversalCursorOutOfSync (list : HookListId) (expectedLen actualLen : Nat)
  | emptyListHasLinks (list : HookListId)
  | nonEmptyListMissingHead (list : HookListId)
  | nonEmptyListMissingTail (list : HookListId)
  | repeatedHookSlot (list : HookListId) (repeated : HookSlotId)
  | hookListLengthMismatch (list : HookListId) (expected actual : Nat)
  | hookListTailMismatch (list : HookListId) (expected : HookSlotId) (actual : Option HookSlotId)
  | generationOverflow
deriving DecidableEq

structure HookListMountCursor where
  list : HookListId
  appended : Nat
deriving DecidableEq

/-- A render that updates the hooks of a list. -/
structure HookListUpdateCursor where
  currentList : HookListId
  workInProgressList : HookListId
  nextCurrent : Option (Handle HookSlotTag)
  consumed : Nat
  expectedCount : Nat
deriving DecidableEq

structure HookListTraversalResult where
  list : HookListId
  traversedCount : Nat
deriving DecidableEq

def generationBound : Nat := 2 ^ 64

end HookListArena

open HookListArena

structure HookListArena where
  arenaId : HookListArenaId
  lists : SlotArena HookListTag HookList
  hooks : LinkedArena HookSlotTag HookSlot

abbrev HookListM := EStateM HookListError HookListArena

namespace HookListArena

def new (arenaId : HookListArenaId) : HookListArena where
  arenaId := arenaId
  lists := SlotArena.empty
  hooks := SlotArena.empty

variable (arena : HookListArena)

def listId (handle : Handle HookListTag) : HookListId :=
  ⟨arena.arenaId, handle⟩

def hookId (handle : Handle HookSlotTag) : HookSlotId :=
  ⟨arena.arenaId, handle⟩

def validateArena (actual : HookListArenaId) : Except HookListError Unit :=
  if actual = arena.arenaId then .ok () else .error (.wrongArena arena.arenaId actual)

def list (id : HookListId) : Except HookListError HookList := do
  arena.validateArena id.arenaId
  (arena.lists.find id.handle).mapError fun
    | .outOfRange => .invalidListSlot arena.arenaId id.handle.slot
    | .stale currentGeneration => .staleListGeneration id currentGeneration
    | .vacant => .vacantListSlot id

def hook (id : HookSlotId) : Except HookListError (Node HookSlotTag HookSlot) := do
  arena.validateArena id.arenaId
  (arena.hooks.find id.handle).mapError fun
    | .outOfRange => .invalidHookSlot arena.arenaId id.handle.slot
    | .stale currentGeneration => .staleHookGeneration id currentGeneration
    | .vacant => .vacantHookSlot id

def ensureHookBelongsToList (hook : HookSlotId) (list : HookListId) :
    Except HookListError Unit := do
  let actual := (← arena.hook hook).data.list
  if actual = list then
    .ok ()
  else
    .error (.wrongHookListOwner hook list actual)

/-- The loop over the links of a list.  Each round collects a hook or ends the loop, so
that one round more than the list has hooks always ends it. -/
def collectListHooksLoop (list : HookListId) (len : Nat) :
    Nat → Option (Handle HookSlotTag) → List (Handle HookSlotTag) →
      Except HookListError (List (Handle HookSlotTag))
  | _, none, hooks => .ok hooks
  | 0, some _, hooks => .error (.hookListLengthMismatch list len (hooks.length + 1))
  | rounds + 1, some handle, hooks => do
      arena.ensureHookBelongsToList (arena.hookId handle) list
      if handle ∈ hooks then
        .error (.repeatedHookSlot list (arena.hookId handle))
      else if len ≤ hooks.length then
        .error (.hookListLengthMismatch list len (hooks.length + 1))
      else
        let hook ← arena.hook (arena.hookId handle)
        collectListHooksLoop list len rounds hook.next (hooks ++ [handle])

/-- The hooks of a list, with the checks of its links. -/
def collectListHooks (list : HookListId) : Except HookListError (List (Handle HookSlotTag)) := do
  let record ← arena.list list
  if record.isEmpty then
    if record.first.isNone && record.last.isNone then
      .ok []
    else
      .error (.emptyListHasLinks list)
  else
    match record.first, record.last with
    | none, _ => .error (.nonEmptyListMissingHead list)
    | some _, none => .error (.nonEmptyListMissingTail list)
    | some first, some expectedLast => do
        let hooks ← arena.collectListHooksLoop list record.len (record.len + 1) (some first) []
        if hooks.length ≠ record.len then
          .error (.hookListLengthMismatch list record.len hooks.length)
        else if hooks.getLast? ≠ some expectedLast then
          .error (.hookListTailMismatch list (arena.hookId expectedLast)
            (hooks.getLast?.map arena.hookId))
        else
          .ok hooks

def orderedHooks (list : HookListId) : Except HookListError (List HookSlotId) := do
  return (← arena.collectListHooks list).map arena.hookId

def validateListLinks (list : HookListId) : Except HookListError Unit := do
  let _ ← arena.collectListHooks list

def beginMount (list : HookListId) : Except HookListError HookListMountCursor := do
  arena.validateListLinks list
  if !(← arena.list list).isEmpty then
    .error (.mountListNotEmpty list)
  else
    .ok { list := list, appended := 0 }

def finishMount (cursor : HookListMountCursor) : Except HookListError HookListTraversalResult := do
  arena.validateListLinks cursor.list
  let actualLen := (← arena.list cursor.list).len
  if actualLen ≠ cursor.appended then
    .error (.traversalCursorOutOfSync cursor.list cursor.appended actualLen)
  else
    .ok { list := cursor.list, traversedCount := cursor.appended }

def beginUpdate (currentList workInProgressList : HookListId) :
    Except HookListError HookListUpdateCursor := do
  arena.validateListLinks currentList
  arena.validateListLinks workInProgressList
  let current ← arena.list currentList
  let workInProgress ← arena.list workInProgressList
  if current.owner ≠ workInProgress.owner then
    .error (.listOwnerMismatch currentList workInProgressList current.owner
      workInProgress.owner)
  else if !workInProgress.isEmpty then
    .error (.workInProgressListNotEmpty workInProgressList)
  else
    .ok
      { currentList := currentList
        workInProgressList := workInProgressList
        nextCurrent := current.first
        consumed := 0
        expectedCount := current.len }

def ensureUpdateCursorListsUnchanged (cursor : HookListUpdateCursor) :
    Except HookListError Unit := do
  arena.validateListLinks cursor.currentList
  arena.validateListLinks cursor.workInProgressList
  let current ← arena.list cursor.currentList
  let workInProgress ← arena.list cursor.workInProgressList
  if current.owner ≠ workInProgress.owner then
    .error (.listOwnerMismatch cursor.currentList cursor.workInProgressList current.owner
      workInProgress.owner)
  else if current.len ≠ cursor.expectedCount then
    .error (.traversalCursorOutOfSync cursor.currentList cursor.expectedCount current.len)
  else if workInProgress.len ≠ cursor.consumed then
    .error (.traversalCursorOutOfSync cursor.workInProgressList cursor.consumed
      workInProgress.len)
  else
    .ok ()

def finishUpdate (cursor : HookListUpdateCursor) :
    Except HookListError HookListTraversalResult := do
  arena.ensureUpdateCursorListsUnchanged cursor
  match cursor.nextCurrent with
  | some nextCurrent =>
      .error (.renderedFewerHooksThanExpected cursor.currentList cursor.workInProgressList
        (arena.hookId nextCurrent) (cursor.expectedCount - cursor.consumed))
  | none => .ok { list := cursor.workInProgressList, traversedCount := cursor.consumed }

def createList (owner : FiberId) : HookListM HookListId :=
  modifyGet fun arena =>
    let (handle, lists) := arena.lists.insert (HookList.new owner)
    (arena.listId handle, { arena with lists := lists })

def setHookPayload (id : HookSlotId) (payload : HookSlotPayload) : HookListM Unit := do
  let _ ← query (·.hook id)
  modify fun arena =>
    { arena with hooks := arena.hooks.modify id.handle fun node =>
        { node with data := { node.data with payload := payload } } }

def modifyList (id : HookListId) (change : HookList → HookList) : HookListM Unit := do
  let _ ← query (·.list id)
  modify fun arena => { arena with lists := arena.lists.modify id.handle change }

def setNextHook (id : HookSlotId) (next : Handle HookSlotTag) : HookListM Unit := do
  let _ ← query (·.hook id)
  modify fun arena => { arena with hooks := arena.hooks.withNext id.handle (some next) }

def appendHookUnchecked (list : HookListId) (payload : HookSlotPayload) : HookListM HookSlotId := do
  let record ← query (·.list list)
  let handle ← modifyGet fun (arena : HookListArena) =>
    let (handle, hooks) := arena.hooks.insert
      { data := { list := list, index := record.len, payload := payload }, next := none }
    (handle, { arena with hooks := hooks })
  match record.last with
  | some last => setNextHook ((← get).hookId last) handle
  | none => modifyList list fun record => { record with first := some handle }
  modifyList list fun record =>
    { record with
      last := some handle
      len := record.len + 1 }
  return (← get).hookId handle

def appendHook (list : HookListId) (payload : HookSlotPayload) : HookListM HookSlotId := do
  query (·.validateListLinks list)
  appendHookUnchecked list payload

/-- Append a hook that a mount asks for; returns the cursor behind it. -/
def mountHook (cursor : HookListMountCursor) (payload : HookSlotPayload) :
    HookListM (HookSlotId × HookListMountCursor) := do
  let actualLen := (← query (·.list cursor.list)).len
  if actualLen ≠ cursor.appended then
    throw (.traversalCursorOutOfSync cursor.list cursor.appended actualLen)
  let hook ← appendHook cursor.list payload
  return (hook, { cursor with appended := cursor.appended + 1 })

/-- Copy the next hook of the current list; returns the cursor behind it. -/
def updateHook (cursor : HookListUpdateCursor) : HookListM (HookSlotId × HookListUpdateCursor) := do
  query (·.ensureUpdateCursorListsUnchanged cursor)
  match cursor.nextCurrent with
  | none =>
      throw (.renderedMoreHooksThanPreviousRender cursor.currentList
        cursor.workInProgressList cursor.consumed)
  | some handle =>
      let currentHook := (← get).hookId handle
      let current ← query (·.hook currentHook)
      query (·.ensureHookBelongsToList currentHook cursor.currentList)
      match current.next with
      | some next =>
          let nextHook := (← get).hookId next
          query (·.ensureHookBelongsToList nextHook cursor.currentList)
      | none => pure ()
      let cloned ← appendHook cursor.workInProgressList current.data.payload
      return (cloned,
        { cursor with
          nextCurrent := current.next
          consumed := cursor.consumed + 1 })

def discardHook (handle : Handle HookSlotTag) : HookListM Unit := do
  let id := (← get).hookId handle
  let _ ← query (·.hook id)
  if generationBound ≤ handle.generation + 1 then
    throw .generationOverflow
  modify fun arena => { arena with hooks := arena.hooks.remove handle }

def discardList (list : HookListId) : HookListM Unit := do
  let hooks ← query (·.collectListHooks list)
  hooks.forM discardHook
  let _ ← query (·.list list)
  if generationBound ≤ list.handle.generation + 1 then
    throw .generationOverflow
  modify fun arena => { arena with lists := arena.lists.remove list.handle }

end HookListArena

end FastReact
