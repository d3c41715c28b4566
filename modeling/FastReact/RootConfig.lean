import FastReact.Fiber

namespace FastReact

/-!
# Records kept with a root

The passive effects a commit leaves to be flushed later are queued with the root in
two lists, unmounts and mounts, that share one sequence counter.  A commit writes the
finished work and its lanes into the same record.
-/

inductive RootSchedulerCallbackTag
inductive PendingCommitTag
inductive PendingCommitCancelTag
inductive TimeoutTag

abbrev RootSchedulerCallbackHandle := OpaqueHandle RootSchedulerCallbackTag
abbrev PendingCommitHandle := OpaqueHandle PendingCommitTag
abbrev PendingCommitCancelHandle := OpaqueHandle PendingCommitCancelTag
abbrev TimeoutHandle := OpaqueHandle TimeoutTag

inductive RootRenderExitStatus where
  | noWork
  | incomplete
  | completed
  | suspended
  | errored
deriving DecidableEq

/-- The lane a scheduled callback was made for. -/
structure RootCallbackPriority where
  lane : Lane
deriving DecidableEq

def RootCallbackPriority.no : RootCallbackPriority := ⟨Lane.no⟩

/-- Unmounts are flushed before mounts. -/
inductive PendingPassiveEffectPhase where
  | unmount
  | mount
deriving DecidableEq

def PendingPassiveEffectPhase.flushRank : PendingPassiveEffectPhase → Nat
  | .unmount => 0
  | .mount => 1

inductive PendingPassiveUnmountOrigin where
  | updatedFiber
  | deletedSubtree (nearestMountedAncestor : FiberId)
deriving DecidableEq

structure PendingPassiveEffectOrder where
  phase : PendingPassiveEffectPhase
  sequence : Nat
deriving DecidableEq

/-- The derived order of the source. -/
def PendingPassiveEffectOrder.lt (first second : PendingPassiveEffectOrder) : Prop :=
  first.phase.flushRank < second.phase.flushRank ∨
    first.phase = second.phase ∧ first.sequence < second.sequence

structure PendingPassiveEffectRecord where
  fiber : FiberId
  lanes : Lanes
  order : PendingPassiveEffectOrder
  unmountOrigin : Option PendingPassiveUnmountOrigin
deriving DecidableEq

structure PendingPassiveState where
  root : Option FiberRootId
  finishedWork : Option FiberId
  lanes : Lanes
  passiveUnmounts : List PendingPassiveEffectRecord
  passiveMounts : List PendingPassiveEffectRecord
  nextSequence : Nat
deriving DecidableEq

namespace PendingPassiveState

def new (root : Option FiberRootId) (lanes : Lanes) : PendingPassiveState where
  root := root
  finishedWork := none
  lanes := lanes
  passiveUnmounts := []
  passiveMounts := []
  nextSequence := 0

def none : PendingPassiveState := new Option.none Lanes.no

/-- Draw the next order of a phase; the counter has 64 bits. -/
def nextOrder (pending : PendingPassiveState) (phase : PendingPassiveEffectPhase)
    (lanes : Lanes) : Option (PendingPassiveEffectOrder × PendingPassiveState) :=
  if pending.root.isNone || lanes.isEmpty then
    Option.none
  else if pending.nextSequence + 1 < 2 ^ 64 then
    some (⟨phase, pending.nextSequence⟩,
      { pending with
        nextSequence := pending.nextSequence + 1
        lanes := pending.lanes.merge lanes })
  else
    Option.none

def queueUnmount (pending : PendingPassiveState) (fiber : FiberId)
    (origin : PendingPassiveUnmountOrigin) (lanes : Lanes) :
    Option (PendingPassiveEffectOrder × PendingPassiveState) :=
  (pending.nextOrder .unmount lanes).map fun (order, pending) =>
    (order, { pending with
      passiveUnmounts := pending.passiveUnmounts ++
        [{ fiber := fiber, lanes := lanes, order := order, unmountOrigin := some origin }] })

def queueMount (pending : PendingPassiveState) (fiber : FiberId) (lanes : Lanes) :
    Option (PendingPassiveEffectOrder × PendingPassiveState) :=
  (pending.nextOrder .mount lanes).map fun (order, pending) =>
    (order, { pending with
      passiveMounts := pending.passiveMounts ++
        [{ fiber := fiber, lanes := lanes, order := order, unmountOrigin := Option.none }] })

def flushOrderedRecords (pending : PendingPassiveState) : List PendingPassiveEffectRecord :=
  pending.passiveUnmounts ++ pending.passiveMounts

/-- Note what a commit finished; refused for another root or without lanes. -/
def recordCommitHandoff (pending : PendingPassiveState) (root : FiberRootId)
    (finishedWork : FiberId) (lanes : Lanes) : Option PendingPassiveState :=
  if pending.root ≠ some root || lanes.isEmpty then
    Option.none
  else
    some { pending with
      finishedWork := some finishedWork
      lanes := lanes }

inductive Call where
  | queueUnmount (fiber : FiberId) (origin : PendingPassiveUnmountOrigin) (lanes : Lanes)
  | queueMount (fiber : FiberId) (lanes : Lanes)
  | recordCommitHandoff (root : FiberRootId) (finishedWork : FiberId) (lanes : Lanes)

def perform (pending : PendingPassiveState) : Call → PendingPassiveState
  | .queueUnmount fiber origin lanes =>
      ((pending.queueUnmount fiber origin lanes).map Prod.snd).getD pending
  | .queueMount fiber lanes => ((pending.queueMount fiber lanes).map Prod.snd).getD pending
  | .recordCommitHandoff root finishedWork lanes =>
      (pending.recordCommitHandoff root finishedWork lanes).getD pending

/-- Records that are queued in the order of their sequences, and each with its own. -/
structure InOrder (pending : PendingPassiveState) : Prop where
  flushed : pending.flushOrderedRecords.Pairwise fun first second => first.order.lt second.order
  apart : (pending.flushOrderedRecords.map (·.order.sequence)).Nodup
  drawn : ∀ record ∈ pending.flushOrderedRecords, record.order.sequence < pending.nextSequence
  unmounts : ∀ record ∈ pending.passiveUnmounts, record.order.phase = .unmount
  mounts : ∀ record ∈ pending.passiveMounts, record.order.phase = .mount

variable (pending : PendingPassiveState)

/-- A call queues one record under the next sequence, or queues nothing. -/
theorem perform_cases (call : Call) :
    let after := pending.perform call
    after.nextSequence = pending.nextSequence + 1 ∧ (∃ record,
      (record.order = ⟨.unmount, pending.nextSequence⟩ ∧
        after.passiveUnmounts = pending.passiveUnmounts ++ [record] ∧
        after.passiveMounts = pending.passiveMounts) ∨
      (record.order = ⟨.mount, pending.nextSequence⟩ ∧
        after.passiveUnmounts = pending.passiveUnmounts ∧
        after.passiveMounts = pending.passiveMounts ++ [record])) ∨
      after.nextSequence = pending.nextSequence ∧
        after.passiveUnmounts = pending.passiveUnmounts ∧
        after.passiveMounts = pending.passiveMounts := by
  cases call <;> simp only [perform, queueUnmount, queueMount, recordCommitHandoff, nextOrder] <;>
    split_ifs <;> simp

theorem InOrder.perform {pending : PendingPassiveState} (inOrder : pending.InOrder) (call : Call) :
    (pending.perform call).InOrder := by
  obtain ⟨flushed, apart, drawn, unmounts, mounts⟩ := inOrder
  unfold flushOrderedRecords at flushed apart drawn
  obtain ⟨next, record, ⟨order, isUnmounts, isMounts⟩ | ⟨order, isUnmounts, isMounts⟩⟩ |
    ⟨next, isUnmounts, isMounts⟩ := perform_cases pending call
  all_goals constructor <;> simp only [flushOrderedRecords, next, isUnmounts, isMounts] <;>
    grind [PendingPassiveEffectOrder.lt, PendingPassiveEffectPhase.flushRank]

/-- Whatever calls a record takes, it lists distinct effects in the order of their flush. -/
theorem inOrder_of_calls (root : Option FiberRootId) (lanes : Lanes) (calls : List Call) :
    (calls.foldl PendingPassiveState.perform (new root lanes)).InOrder := by
  refine List.foldlRecOn calls _ ?_ fun pending inOrder call _ => inOrder.perform call
  constructor <;> simp [new, flushOrderedRecords]

end PendingPassiveState

end FastReact
