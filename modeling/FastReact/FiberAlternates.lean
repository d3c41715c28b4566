import FastReact.ActionRun
import FastReact.FiberTopologySteps

namespace FastReact

open ErrorState

/-!
# Alternates stay reciprocal

A fiber and its work in progress name each other.  Linking a fiber that already has
another alternate leaves that alternate behind with a link nobody returns, so a run
keeps alternates paired exactly when it links no such fiber.
-/

/-- The operations on alternates. -/
inductive AlternateOperation where
  | createFiber (tag : FiberTag) (key : Option String) (pendingProps : PropsHandle)
      (mode : FiberMode)
  | createWorkInProgress (current : FiberId) (pendingProps : PropsHandle)
  | linkAlternates (first second : FiberId)
  | reclaimFiber (id : FiberId)

namespace FiberArena

/-- The arena an operation on alternates leaves behind, also when it fails. -/
def performAlternate (arena : FiberArena) : AlternateOperation → FiberArena
  | .createFiber tag key pendingProps mode =>
      stateAfter ((createFiber tag key pendingProps mode).run arena)
  | .createWorkInProgress current pendingProps =>
      stateAfter ((createWorkInProgress current pendingProps).run arena)
  | .linkAlternates first second => stateAfter ((linkAlternates first second).run arena)
  | .reclaimFiber id => stateAfter ((reclaimFiberAfterCleanup id).run arena)

/-- Every alternate is live, names its fiber and is the alternate of no other one. -/
structure PairedAlternates (arena : FiberArena) : Prop where
  reciprocal : ∀ fiber alternate, arena.alternate? fiber = some alternate →
    ∃ node, arena.get? alternate = some node ∧ node.alternate = some fiber
  unshared : ∀ first second alternate, arena.alternate? first = some alternate →
    arena.alternate? second = some alternate → first = second

def KeepsPairs (arena : FiberArena) : AlternateOperation → Prop
  | .linkAlternates first second =>
      arena.AcceptsAlternates first second →
        (∀ third, arena.alternate? first = some third → third = second) ∧
        ∀ third, arena.alternate? second = some third → third = first
  | _ => True

variable {arena after : FiberArena}

theorem pairedAlternates_iff :
    arena.PairedAlternates ↔ ∀ fiber alternate,
      arena.alternate? fiber = some alternate → arena.alternate? alternate = some fiber := by
  constructor
  · intro paired fiber alternate linked
    obtain ⟨node, live, back⟩ := paired.reciprocal fiber alternate linked
    rw [alternate?_of_get? live, back]
  · intro reciprocal
    refine ⟨?_, ?_⟩
    · intro fiber alternate linked
      have back := reciprocal fiber alternate linked
      obtain ⟨node, live⟩ := isLive_of_alternate? back
      exact ⟨node, live, (alternate?_of_get? live).symm.trans back⟩
    · intro first second alternate firstLinked secondLinked
      have back := (reciprocal first alternate firstLinked).symm.trans
        (reciprocal second alternate secondLinked)
      exact Option.some.inj back

inductive AlternatesStep (arena after : FiberArena) : AlternateOperation → Prop where
  | same {operation : AlternateOperation}
      (unlinked : ∀ first second, operation = .linkAlternates first second →
        ¬ arena.AcceptsAlternates first second)
      (alternates : ∀ fiber, after.alternate? fiber = arena.alternate? fiber) :
      AlternatesStep arena after operation
  | workInProgress {current fresh : FiberId} {pendingProps : PropsHandle}
      (unpaired : arena.alternate? current = none) (dead : ¬ arena.IsLive fresh)
      (different : current ≠ fresh)
      (alternates : ∀ fiber, after.alternate? fiber =
        if fiber = fresh then some current
        else if fiber = current then some fresh
        else arena.alternate? fiber) :
      AlternatesStep arena after (.createWorkInProgress current pendingProps)
  | linked {first second : FiberId} (accepted : arena.AcceptsAlternates first second)
      (alternates : ∀ fiber, after.alternate? fiber =
        if fiber = second then some first
        else if fiber = first then some second
        else arena.alternate? fiber) :
      AlternatesStep arena after (.linkAlternates first second)

/-- Every operation changes the alternates in one of these ways. -/
theorem alternatesStep (arena : FiberArena) (operation : AlternateOperation) :
    AlternatesStep arena (arena.performAlternate operation) operation := by
  cases operation with
  | createFiber tag key pendingProps mode =>
    obtain ⟨id, after, ran, dead, -, nodes⟩ := run_createFiber arena tag key pendingProps mode
    refine .same (by simp) fun fiber => ?_
    rw [performAlternate, ran, stateAfter]
    by_cases isNew : fiber = id
    · rw [isNew, (links_none_of_not_isLive dead).2.2.2.1, alternate?, nodes, if_pos rfl]
      rfl
    · rw [alternate?, nodes, if_neg isNew]
      rfl
  | createWorkInProgress current pendingProps =>
    rcases run_createWorkInProgress arena current pendingProps with
      ⟨-, error, refused⟩ |
      ⟨currentNode, workInProgress, after, ran, live, different, found, -, nodes⟩
    · rw [performAlternate, refused, stateAfter]
      exact .same (by simp) fun _ => rfl
    · rw [performAlternate, ran, stateAfter]
      have alternates : ∀ fiber, after.alternate? fiber =
          if fiber = workInProgress then some current
          else if fiber = current then some workInProgress
          else arena.alternate? fiber := by
        intro fiber
        rw [alternate?, nodes]
        split
        · rfl
        · split
          · rfl
          · rfl
      rcases found with ⟨-, valid⟩ | ⟨unpaired, dead⟩
      · obtain ⟨-, forward, backward⟩ := of_validateAlternatePair valid
        refine .same (by simp) fun fiber => ?_
        rw [alternates]
        split
        · rename_i isWorkInProgress
          rw [isWorkInProgress, backward]
        · split
          · rename_i isCurrent
            rw [isCurrent, forward]
          · rfl
      · exact .workInProgress unpaired dead different alternates
  | linkAlternates first second =>
    rcases run_linkAlternates arena first second with
      ⟨refused, error, ran⟩ | ⟨accepted, after, ran, -, nodes⟩
    · rw [performAlternate, ran, stateAfter]
      refine .same ?_ fun _ => rfl
      rintro _ _ ⟨rfl, rfl⟩
      exact refused
    · rw [performAlternate, ran, stateAfter]
      refine .linked accepted fun fiber => ?_
      obtain ⟨⟨firstNode, firstLive⟩, secondNode, secondLive⟩ :=
        isLive_of_validateAlternateStableIdentity accepted.stableIdentity
      rw [alternate?, nodes]
      split
      · rename_i isSecond
        rw [isSecond, secondLive]
        rfl
      · split
        · rename_i isFirst
          rw [isFirst, firstLive]
          rfl
        · rfl
  | reclaimFiber id =>
    rcases run_reclaimFiberAfterCleanup arena id with
      ⟨error, refused⟩ | ⟨node, after, ran, live, unlinked, -, -, nodes⟩
    · rw [performAlternate, refused, stateAfter]
      exact .same (by simp) fun _ => rfl
    · rw [performAlternate, ran, stateAfter]
      refine .same (by simp) fun fiber => ?_
      rw [alternate?, nodes]
      split
      · rename_i isReclaimed
        rw [isReclaimed, alternate?_of_get? live, unlinked.alternate]
        rfl
      · rfl

namespace AlternatesStep

variable {operation : AlternateOperation}

section

variable (step : AlternatesStep arena after operation)
include step

/-- No operation makes a fiber its own alternate. -/
theorem irreflexive (irreflexive : ∀ fiber, arena.alternate? fiber ≠ some fiber) (fiber : FiberId) :
    after.alternate? fiber ≠ some fiber := by
  cases step with
  | same unlinked alternates =>
    rw [alternates]
    exact irreflexive fiber
  | workInProgress unpaired dead different alternates =>
    rw [alternates]
    split
    · rename_i isFresh
      rintro ⟨rfl⟩
      exact different isFresh
    · rename_i notFresh
      split
      · rintro ⟨rfl⟩
        exact notFresh rfl
      · exact irreflexive fiber
  | linked accepted alternates =>
    rw [alternates]
    split
    · rename_i isSecond
      rintro ⟨rfl⟩
      exact accepted.different isSecond
    · rename_i notSecond
      split
      · rintro ⟨rfl⟩
        exact notSecond rfl
      · exact irreflexive fiber

theorem pairedAlternates
    (paired : arena.PairedAlternates) (keepsPairs : arena.KeepsPairs operation) :
    after.PairedAlternates := by
  rw [pairedAlternates_iff] at paired ⊢
  intro fiber alternate
  cases step with
  | same unlinked alternates =>
    rw [alternates, alternates]
    exact paired fiber alternate
  | @workInProgress current fresh pendingProps unpaired dead different alternates =>
    rw [alternates, alternates]
    by_cases isFresh : fiber = fresh
    · rw [if_pos isFresh]
      rintro ⟨rfl⟩
      rw [if_neg different, if_pos rfl, isFresh]
    · rw [if_neg isFresh]
      by_cases isCurrent : fiber = current
      · rw [if_pos isCurrent]
        rintro ⟨rfl⟩
        rw [if_pos rfl, isCurrent]
      · rw [if_neg isCurrent]
        intro linked
        have back := paired fiber alternate linked
        have notFresh : alternate ≠ fresh := by
          rintro rfl
          exact dead (isLive_of_alternate? back)
        have notCurrent : alternate ≠ current := by
          rintro rfl
          simp [unpaired] at back
        rw [if_neg notFresh, if_neg notCurrent, back]
  | @linked first second accepted alternates =>
    obtain ⟨firstFree, secondFree⟩ := keepsPairs accepted
    rw [alternates, alternates]
    by_cases isSecond : fiber = second
    · rw [if_pos isSecond]
      rintro ⟨rfl⟩
      rw [if_neg accepted.different, if_pos rfl, isSecond]
    · rw [if_neg isSecond]
      by_cases isFirst : fiber = first
      · rw [if_pos isFirst]
        rintro ⟨rfl⟩
        rw [if_pos rfl, isFirst]
      · rw [if_neg isFirst]
        intro linked
        have back := paired fiber alternate linked
        have notSecond : alternate ≠ second := by
          rintro rfl
          exact isFirst (secondFree fiber back)
        have notFirst : alternate ≠ first := by
          rintro rfl
          exact isSecond (firstFree fiber back)
        rw [if_neg notSecond, if_neg notFirst, back]

/-- Alternates that are still paired were not linked away from a third fiber. -/
theorem keepsPairs
    (irreflexive : ∀ fiber, arena.alternate? fiber ≠ some fiber) (paired : arena.PairedAlternates)
    (pairedAfter : after.PairedAlternates) : arena.KeepsPairs operation := by
  rw [pairedAlternates_iff] at paired pairedAfter
  cases step with
  | same unlinked alternates =>
    cases operation with
    | linkAlternates first second =>
      intro accepted
      exact absurd accepted (unlinked first second rfl)
    | _ => trivial
  | workInProgress unpaired dead different alternates => trivial
  | @linked first second accepted alternates =>
    intro _
    constructor
    · intro third firstLinked
      by_contra notSecond
      have notFirst : third ≠ first := by
        rintro rfl
        exact irreflexive _ firstLinked
      have kept : after.alternate? third = some first := by
        rw [alternates, if_neg notSecond, if_neg notFirst]
        exact paired first third firstLinked
      have back := pairedAfter third first kept
      rw [alternates, if_neg accepted.different, if_pos rfl] at back
      exact notSecond (Option.some.inj back).symm
    · intro third secondLinked
      by_contra notFirst
      have notSecond : third ≠ second := by
        rintro rfl
        exact irreflexive _ secondLinked
      have kept : after.alternate? third = some second := by
        rw [alternates, if_neg notSecond, if_neg notFirst]
        exact paired second third secondLinked
      have back := pairedAfter third second kept
      rw [alternates, if_pos rfl] at back
      exact notFirst (Option.some.inj back).symm

end

end AlternatesStep

theorem alternate?_new (fiber : FiberId) : new.alternate? fiber = none := by
  simp [alternate?, new, get?]

/-- The alternates of every arena on the way are paired exactly when no linked fiber
has a third one as its alternate. -/
theorem pairedAlternates_throughout_iff (operations : List AlternateOperation) :
    (∀ taken, taken <+: operations →
      (taken.foldl performAlternate new).PairedAlternates) ↔
      Permitted KeepsPairs performAlternate new operations := by
  apply @Permitted.iff_everywhere _ _ _ _ PairedAlternates
    fun arena => ∀ fiber, arena.alternate? fiber ≠ some fiber
  · rw [pairedAlternates_iff]
    simp [alternate?_new]
  · simp [alternate?_new]
  · intro arena operation irreflexive
    exact (alternatesStep arena operation).irreflexive irreflexive
  · intro arena operation irreflexive paired
    have step := alternatesStep arena operation
    exact ⟨step.keepsPairs irreflexive paired, step.pairedAlternates paired⟩

/-- Three fragments, the first of which is linked to the second and then to the third. -/
def relinkedAlternates : List AlternateOperation :=
  [.createFiber .fragment none .none .no,
    .createFiber .fragment none .none .no,
    .createFiber .fragment none .none .no,
    .linkAlternates ⟨0, 0⟩ ⟨1, 0⟩,
    .linkAlternates ⟨0, 0⟩ ⟨2, 0⟩]

/-- The second fragment still names the first, which names the third. -/
theorem relinked_alternate_left_behind :
    (relinkedAlternates.foldl performAlternate new).alternate? ⟨1, 0⟩ = some ⟨0, 0⟩ ∧
    (relinkedAlternates.foldl performAlternate new).alternate? ⟨0, 0⟩ = some ⟨2, 0⟩ ∧
    (relinkedAlternates.foldl performAlternate new).alternate? ⟨2, 0⟩ = some ⟨0, 0⟩ ∧
    ¬ (relinkedAlternates.foldl performAlternate new).PairedAlternates := by
  have leftBehind :
      (relinkedAlternates.foldl performAlternate new).alternate? ⟨1, 0⟩ = some ⟨0, 0⟩ := by
    decide
  have relinked :
      (relinkedAlternates.foldl performAlternate new).alternate? ⟨0, 0⟩ = some ⟨2, 0⟩ := by
    decide
  refine ⟨leftBehind, relinked, by decide, ?_⟩
  intro paired
  have back := pairedAlternates_iff.mp paired _ _ leftBehind
  rw [relinked] at back
  exact absurd back (by decide)

end FiberArena

end FastReact
