import FastReact.HookStateQueueOperations
import FastReact.HookStateQueuePass
import FastReact.RingFamily
import Mathlib.Logic.Function.Basic

namespace FastReact

open ErrorState HookQueueStore HookQueueWorld LinkChain LinkedArena

/-!
# What the rings of hook updates hold

A ledger keeps the updates that every ring should hold, read off the calls and their
outcomes alone.  The rings of a world are described by a ledger when they form a family
of disjoint rings with exactly those updates, in that order; every call keeps that.
-/

variable {State Action ReducerId DispatchId OwnerId : Type}

inductive HookRingOwner where
  | pending (queue : HookQueueId)
  | base (slot : Nat)
deriving DecidableEq

/-- The tail pointers of a world; what does not exist has none. -/
def HookQueueWorld.tail (world : HookQueueWorld State Action ReducerId DispatchId) :
    HookRingOwner → Option HookUpdateId
  | .pending queue => (world.store.queues.get? queue).bind HookQueue.pending
  | .base slot => world.slots[slot]?.bind HookStateSlot.baseQueue

/-- The updates that the rings should hold, oldest first.  A base ring holds clones, so
only their content is known. -/
structure HookRingLedger (State Action : Type) where
  pending : HookQueueId → List (HookUpdateId × HookUpdateDispatchMetadata Action State)
  base : Nat → List (HookUpdateDispatchMetadata Action State)

namespace HookRingLedger

def empty : HookRingLedger State Action where
  pending := fun _ => []
  base := fun _ => []

def append (ledger : HookRingLedger State Action) (queue : HookQueueId)
    (update : HookUpdateId × HookUpdateDispatchMetadata Action State) :
    HookRingLedger State Action :=
  { ledger with
    pending := Function.update ledger.pending queue (ledger.pending queue ++ [update]) }

def appendFrom (world : HookQueueWorld State Action ReducerId DispatchId)
    (ledger : HookRingLedger State Action) (queue : HookQueueId) (id : HookUpdateId) :
    HookRingLedger State Action :=
  match world.store.updates.data? id with
  | none => ledger
  | some metadata => ledger.append queue (id, metadata)

def take (ledger : HookRingLedger State Action) (queue : HookQueueId) :
    HookRingLedger State Action :=
  { ledger with pending := Function.update ledger.pending queue [] }

/-- Other updates in the base ring of a slot. -/
def rebase
    (ledger : HookRingLedger State Action)
    (slot : Nat)
    (updates : List (HookUpdateDispatchMetadata Action State)) :
    HookRingLedger State Action :=
  { ledger with base := Function.update ledger.base slot updates }

def afterOk (world : HookQueueWorld State Action ReducerId DispatchId)
    (ledger : HookRingLedger State Action) :
    HookQueueCall State Action OwnerId → HookRingLedger State Action
  | .appendPendingUpdate queue id => ledger.appendFrom world queue id
  | .enqueueRenderPhaseUpdate queue id _ => ledger.appendFrom world queue id
  | .finishQueueing staging =>
      staging.entries.foldl
        (fun ledger entry => ledger.appendFrom world entry.queue entry.update) ledger
  | .processUpdateQueue index renderLanes rootRenderLanes _ =>
      match world.slots[index]? with
      | none => ledger
      | some slot =>
          (ledger.rebase index (retainedUpdates renderLanes rootRenderLanes
            (ledger.base index ++ (ledger.pending slot.queue).map Prod.snd))).take slot.queue
  | .processRenderPhaseUpdates index _ =>
      match world.slots[index]? with
      | none => ledger
      | some slot => ledger.take slot.queue
  | .clearRenderPhaseUpdates recorded => recorded.queues.foldl take ledger
  | .createQueue _ | .createStateSlot _ | .newStateSlot _ _ | .createUpdate _ _
  | .createUpdateFromDispatchMetadata _ | .reclaimUpdate _ | .reclaimQueue _ => ledger

/-- The ledger after a call that fails: recorded queues are cleared one by one until one
does not exist, and the other calls change no ring. -/
def afterError (world : HookQueueWorld State Action ReducerId DispatchId)
    (ledger : HookRingLedger State Action) :
    HookQueueCall State Action OwnerId → HookRingLedger State Action
  | .clearRenderPhaseUpdates recorded =>
      (recorded.queues.takeWhile fun queue =>
        (world.store.queues.get? queue).isSome).foldl take ledger
  | _ => ledger

def members (ledger : HookRingLedger State Action) (baseIds : Nat → List HookUpdateId) :
    HookRingOwner → List HookUpdateId
  | .pending queue => (ledger.pending queue).map Prod.fst
  | .base slot => baseIds slot

def contents (ledger : HookRingLedger State Action) :
    HookRingOwner → List (HookUpdateDispatchMetadata Action State)
  | .pending queue => (ledger.pending queue).map Prod.snd
  | .base slot => ledger.base slot

/-- The rings of a world are disjoint and hold what the ledger says. -/
def Describes (ledger : HookRingLedger State Action)
    (world : HookQueueWorld State Action ReducerId DispatchId)
    (baseIds : Nat → List HookUpdateId) : Prop :=
  RingFamily world.store.updates world.tail (ledger.members baseIds) ledger.contents

section Members

variable {ledger : HookRingLedger State Action} {baseIds : Nat → List HookUpdateId}
  {queue : HookQueueId} {owner : HookRingOwner}

section

variable (update : HookUpdateId × HookUpdateDispatchMetadata Action State)

@[simp] theorem members_append_pending :
    (ledger.append queue update).members baseIds (.pending queue) =
      ledger.members baseIds (.pending queue) ++ [update.1] := by
  simp [members, append]

@[simp] theorem contents_append_pending :
    (ledger.append queue update).contents (.pending queue) =
      ledger.contents (.pending queue) ++ [update.2] := by
  simp [contents, append]

theorem members_append_other (other : owner ≠ .pending queue) :
    (ledger.append queue update).members baseIds owner = ledger.members baseIds owner := by
  cases owner with
  | pending otherQueue =>
    have different : otherQueue ≠ queue := fun same => other (congrArg _ same)
    simp [members, append, different]
  | base slot => rfl

theorem contents_append_other (other : owner ≠ .pending queue) :
    (ledger.append queue update).contents owner = ledger.contents owner := by
  cases owner with
  | pending otherQueue =>
    have different : otherQueue ≠ queue := fun same => other (congrArg _ same)
    simp [contents, append, different]
  | base slot => rfl

end

@[simp] theorem members_take_pending :
    (ledger.take queue).members baseIds (.pending queue) = [] := by
  simp [members, take]

@[simp] theorem contents_take_pending : (ledger.take queue).contents (.pending queue) = [] := by
  simp [contents, take]

theorem members_take_other (other : owner ≠ .pending queue) :
    (ledger.take queue).members baseIds owner = ledger.members baseIds owner := by
  cases owner with
  | pending otherQueue =>
    have different : otherQueue ≠ queue := fun same => other (congrArg _ same)
    simp [members, take, different]
  | base slot => rfl

theorem contents_take_other (other : owner ≠ .pending queue) :
    (ledger.take queue).contents owner = ledger.contents owner := by
  cases owner with
  | pending otherQueue =>
    have different : otherQueue ≠ queue := fun same => other (congrArg _ same)
    simp [contents, take, different]
  | base slot => rfl

section

variable (updates : List (HookUpdateDispatchMetadata Action State))

theorem members_rebase_other {index : Nat} (ids : List HookUpdateId) (other : owner ≠ .base index) :
    (ledger.rebase index updates).members (Function.update baseIds index ids) owner =
      ledger.members baseIds owner := by
  cases owner with
  | pending otherQueue => rfl
  | base slot =>
    have different : slot ≠ index := fun same => other (congrArg _ same)
    simp [members, different]

theorem contents_rebase_other {index : Nat} (other : owner ≠ .base index) :
    (ledger.rebase index updates).contents owner = ledger.contents owner := by
  cases owner with
  | pending otherQueue => rfl
  | base slot =>
    have different : slot ≠ index := fun same => other (congrArg _ same)
    simp [contents, rebase, different]

end

end Members

end HookRingLedger

namespace HookQueueStore

variable {store : HookQueueStore State Action ReducerId DispatchId}

theorem exists_update_error {id : HookUpdateId} (absent : store.updates.get? id = none) :
    ∃ error, store.update id = .error error := by
  unfold SlotArena.get? at absent
  unfold HookQueueStore.update
  cases found : store.updates.find id with
  | ok node =>
    rw [found] at absent
    cases absent
  | error error => exact ⟨_, rfl⟩

theorem exists_queue_error {queue : HookQueueId} (absent : store.queues.get? queue = none) :
    ∃ error, store.queue queue = .error error := by
  unfold SlotArena.get? at absent
  unfold HookQueueStore.queue
  cases found : store.queues.find queue with
  | ok node =>
    rw [found] at absent
    cases absent
  | error error => exact ⟨_, rfl⟩

end HookQueueStore

namespace HookRingLedger

section Calls

variable {ledger : HookRingLedger State Action}
  {store after : HookQueueStore State Action ReducerId DispatchId}
  {slots : List (HookStateSlot State)} {baseIds : Nat → List HookUpdateId} {queue : HookQueueId}

theorem tail_of_onlyQueue {owner : HookRingOwner} (only : OnlyQueue queue store after)
    (other : owner ≠ .pending queue) : tail ⟨after, slots⟩ owner = tail ⟨store, slots⟩ owner := by
  cases owner with
  | pending otherQueue =>
    have different : otherQueue ≠ queue := fun same => other (congrArg _ same)
    simp only [tail, only otherQueue different]
  | base slot => rfl

variable {entry : HookQueue State ReducerId DispatchId}

section

variable (describes : ledger.Describes ⟨store, slots⟩ baseIds)
include describes

theorem Describes.pendingRing (found : store.queues.get? queue = some entry) :
    store.updates.HoldsRing entry.pending ((ledger.pending queue).map Prod.fst)
      ((ledger.pending queue).map Prod.snd) := by
  have ring := describes.rings (.pending queue)
  simpa [tail, found, members, contents] using ring

theorem Describes.baseRing {index : Nat} {slot : HookStateSlot State}
    (found : slots[index]? = some slot) :
    store.updates.HoldsRing slot.baseQueue (baseIds index) (ledger.base index) := by
  have ring := describes.rings (.base index)
  simpa [tail, found, members, contents] using ring

theorem Describes.get?_of_extends {owner : HookRingOwner} {touched : List HookUpdateId}
    {id : HookUpdateId} (extension : Extends touched store.updates after.updates)
    (member : id ∈ ledger.members baseIds owner) (untouched : id ∉ touched) :
    after.updates.get? id = store.updates.get? id := by
  obtain ⟨data, -, live⟩ := (describes.rings owner).holds.live member
  exact extension.get?_eq live untouched

theorem Describes.run_appendPendingUpdateUnchecked
    {id : HookUpdateId} {node : HookUpdate Action State}
    (found : store.queues.get? queue = some entry) (live : store.updates.get? id = some node)
    (unlinked : node.next = none) :
    ∃ after,
      (appendPendingUpdateUnchecked queue id).run store = .ok () after ∧
      after.queues.get? queue = some { entry with pending := some id } ∧
      OnlyQueue queue store after ∧
      (∀ other node, other ≠ id → store.updates.get? other = some node →
        node.next = none → after.updates.get? other = some node) ∧
      (ledger.append queue (id, node.data)).Describes ⟨after, slots⟩ baseIds := by
  have pending := describes.pendingRing found
  obtain ⟨after, ran, queues, only, extension, ring⟩ :=
    FastReact.run_appendPendingUpdateUnchecked found pending live unlinked
  have notLinked : store.updates.next? id = none := by simp [next?, live, unlinked]
  refine ⟨after, ran, queues, only, ?_, ?_⟩
  · intro other otherNode different otherLive otherUnlinked
    have otherData : store.updates.data? other = some otherNode.data := by simp [data?, otherLive]
    have notMember : other ∉ (ledger.pending queue).map Prod.fst :=
      pending.not_mem_of_unlinked (by simp [next?, otherLive, otherUnlinked])
    rw [extension.get?_eq otherData (by simp [notMember, different]), otherLive]
  · refine describes.replace_one (.pending queue) ?_ ?_ ?_ ?_
    · intro other different otherId member
      refine describes.get?_of_extends extension member ?_
      have notPending : otherId ∉ ledger.members baseIds (.pending queue) :=
        describes.disjoint other (.pending queue) different member
      have notNew : otherId ≠ id := by
        rintro rfl
        exact (describes.rings other).not_mem_of_unlinked notLinked member
      simpa [members, notNew] using notPending
    · intro other different
      exact ⟨tail_of_onlyQueue only different, members_append_other _ different,
        contents_append_other _ different⟩
    · rw [members_append_pending, contents_append_pending]
      simpa [tail, queues, members, contents] using ring
    · intro other member
      rw [members_append_pending, List.mem_append, List.mem_singleton] at member
      rcases member with earlier | rfl
      · exact .inl earlier
      · exact .inr notLinked

/-- Appending with the checks either changes nothing or adds to the ledger. -/
theorem Describes.appendPendingUpdate (queue : HookQueueId) (id : HookUpdateId) :
    AllOrNothing
      (fun after => (ledger.appendFrom ⟨store, slots⟩ queue id).Describes ⟨after, slots⟩ baseIds)
      (FastReact.appendPendingUpdate queue id) store := by
  cases live : store.updates.get? id with
  | none =>
    obtain ⟨error, refused⟩ := exists_update_error live
    have invalid : store.validateUpdateId id = .error error := by
      rw [validateUpdateId, refused]
      rfl
    refine .of_error error ?_
    simp only [FastReact.appendPendingUpdate, run_bind, run_query, invalid]
  | some node =>
    have liveData : store.updates.data? id = some node.data := by simp [data?, live]
    cases linkShape : node.next with
    | some next =>
      have linked : store.ensureUpdateIsUnlinked id =
          .error (.linkedUpdateCannotBeReclaimed id) := by
        simp [ensureUpdateIsUnlinked, update_eq_ok live, linkShape, bind, Except.bind]
      refine .of_error (.linkedUpdateCannotBeReclaimed id) ?_
      simp only [FastReact.appendPendingUpdate, run_bind, run_query,
        validateUpdateId_eq_ok liveData, linked]
    | none =>
      have unchecked := run_appendPendingUpdate_of_unlinked queue live linkShape
      cases found : store.queues.get? queue with
      | none =>
        obtain ⟨error, refused⟩ := exists_queue_error found
        refine .of_error error ?_
        rw [unchecked]
        simp only [appendPendingUpdateUnchecked, run_bind, run_query, refused]
      | some entry =>
        obtain ⟨after, ran, -, -, -, described⟩ :=
          describes.run_appendPendingUpdateUnchecked found live linkShape
        refine .of_ok (unchecked.trans ran) ?_
        simpa [appendFrom, data?, live] using described

end

end Calls

end HookRingLedger

end FastReact
