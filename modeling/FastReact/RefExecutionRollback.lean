import FastReact.DispatchQueue
import Mathlib.Logic.Function.Basic

namespace FastReact

open List

/-!
# Rollback of latest props in a ref execution

Each step of an execution updates latest props and then runs its ref metadata.  An update
takes effect at once, and is recorded for the rollback when all updates of its step are done.
-/

/-- Props by identity; `none` stands for null. -/
abbrev LatestProps := Option Nat

structure ComponentTreeError where
  message : String
  code : String
deriving DecidableEq

inductive HostInstanceMount where
  | unknown
  | unmounted
  | mounted
deriving DecidableEq

structure LatestPropsUpdate where
  hostInstanceToken : HostInstanceToken
  latestProps : LatestProps

/-- The latest props of the nodes, by the tokens mounted on them; no two tokens share one. -/
abbrev LatestPropsByToken := HostInstanceToken → LatestProps

section Updates

variable (mount : HostInstanceToken → HostInstanceMount)

def getLatestPropsFromHostInstanceToken (props : LatestPropsByToken)
    (token : HostInstanceToken) : LatestProps :=
  if mount token = .mounted then props token else none

def updateLatestPropsForHostInstanceToken (props : LatestPropsByToken)
    (update : LatestPropsUpdate) : Except ComponentTreeError LatestPropsByToken :=
  match mount update.hostInstanceToken with
  | .unknown => .error ⟨"Cannot use an unknown or detached React DOM host instance token.",
      "FAST_REACT_DOM_INVALID_HOST_INSTANCE_TOKEN"⟩
  | .unmounted => .error ⟨"Cannot use an unmounted React DOM host instance token.",
      "FAST_REACT_DOM_UNMOUNTED_HOST_INSTANCE_TOKEN"⟩
  | .mounted => .ok (Function.update props update.hostInstanceToken update.latestProps)

/-- What is recorded of an update before it is made, as the update that undoes it. -/
def undoing (props : LatestPropsByToken) (update : LatestPropsUpdate) : LatestPropsUpdate :=
  ⟨update.hostInstanceToken,
    getLatestPropsFromHostInstanceToken mount props update.hostInstanceToken⟩

/-- What was applied is lost when a later update fails. -/
def applyHostOutputLatestPropsUpdates :
    List LatestPropsUpdate → List LatestPropsUpdate → LatestPropsByToken →
      EStateM.Result ComponentTreeError LatestPropsByToken (List LatestPropsUpdate)
  | [], appliedUpdates, props => .ok appliedUpdates props
  | update :: rest, appliedUpdates, props =>
      match updateLatestPropsForHostInstanceToken mount props update with
      | .error error => .error error props
      | .ok updated =>
          applyHostOutputLatestPropsUpdates rest
            (appliedUpdates ++ [undoing mount props update]) updated

/-- The updates are undone from the last to the first, and errors are ignored. -/
def rollbackHostOutputLatestPropsUpdates (updates : List LatestPropsUpdate)
    (props : LatestPropsByToken) : LatestPropsByToken :=
  updates.foldr (fun update props =>
    (updateLatestPropsForHostInstanceToken mount props update).toOption.getD props) props

/-- A step with its ref metadata and the other inputs of its records. -/
structure RefExecutionStep (Metadata : Type) where
  latestPropsUpdates : List LatestPropsUpdate
  refMetadata : Metadata

variable {Metadata Collected : Type}
  (runMetadata : LatestPropsByToken → Collected → RefExecutionStep Metadata →
    Except ComponentTreeError Collected)

/-- Whatever is thrown in a step is thrown again behind the rollback.  The metadata of a step
and the collection of its records may throw, and leave latest props alone. -/
def executeRefSteps :
    List (RefExecutionStep Metadata) → Collected → List LatestPropsUpdate →
      LatestPropsByToken → EStateM.Result ComponentTreeError LatestPropsByToken Collected
  | [], collected, _, props => .ok collected props
  | step :: rest, collected, applied, props =>
      match applyHostOutputLatestPropsUpdates mount step.latestPropsUpdates [] props with
      | .error error failed =>
          .error error (rollbackHostOutputLatestPropsUpdates mount applied failed)
      | .ok recorded updated =>
          match runMetadata updated collected step with
          | .error error =>
              .error error
                (rollbackHostOutputLatestPropsUpdates mount (applied ++ recorded) updated)
          | .ok collected => executeRefSteps rest collected (applied ++ recorded) updated

def createRefCallbackCleanupReturnExecutionGateSnapshot
    (steps : List (RefExecutionStep Metadata)) (collected : Collected)
    (props : LatestPropsByToken) : EStateM.Result ComponentTreeError LatestPropsByToken Collected :=
  executeRefSteps mount runMetadata steps collected [] props

def createRefCallbackHostOutputOrderingDiagnosticSnapshot
    (steps : List (RefExecutionStep Metadata)) (collected : Collected)
    (props : LatestPropsByToken) : EStateM.Result ComponentTreeError LatestPropsByToken Collected :=
  executeRefSteps mount runMetadata steps collected [] props

def isMounted (update : LatestPropsUpdate) : Bool :=
  mount update.hostInstanceToken = .mounted

def Updates (updates : List LatestPropsUpdate) (token : HostInstanceToken) : Bool :=
  updates.any (·.hostInstanceToken = token)

def propsBehind (updates : List LatestPropsUpdate) (token : HostInstanceToken)
    (latestProps : LatestProps) : LatestProps :=
  updates.foldl (fun props update =>
    if update.hostInstanceToken = token then update.latestProps else props) latestProps

/-- What undoes the updates between two states restores the instances that were updated and
keeps the others. -/
structure Undoes (before props : LatestPropsByToken) (applied : List LatestPropsUpdate) :
    Prop where
  kept : ∀ token, Updates applied token = false → props token = before token
  restores : ∀ later token, rollbackHostOutputLatestPropsUpdates mount applied later token =
    if Updates applied token then before token else later token

end Updates

variable {mount : HostInstanceToken → HostInstanceMount} {before props updated : LatestPropsByToken}
  {update : LatestPropsUpdate} {applied updates : List LatestPropsUpdate}

theorem updateLatestProps_eq_ok_iff :
    updateLatestPropsForHostInstanceToken mount props update = .ok updated ↔
      isMounted mount update ∧
        updated = Function.update props update.hostInstanceToken update.latestProps := by
  unfold updateLatestPropsForHostInstanceToken isMounted
  cases mount update.hostInstanceToken <;> simp [eq_comm]

theorem Undoes.snoc (undoes : Undoes mount before props applied)
    (mounted : isMounted mount update) :
    Undoes mount before (Function.update props update.hostInstanceToken update.latestProps)
      (applied ++ [undoing mount props update]) := by
  have undone (later : LatestPropsByToken) :
      updateLatestPropsForHostInstanceToken mount later (undoing mount props update) =
        .ok (Function.update later update.hostInstanceToken (props update.hostInstanceToken)) := by
    refine updateLatestProps_eq_ok_iff.mpr ⟨mounted, ?_⟩
    simp [isMounted] at mounted
    simp [undoing, getLatestPropsFromHostInstanceToken, mounted]
  constructor
  · intro token untouched
    have kept := undoes.kept token
    simp only [Updates, any_append, undoing] at untouched kept
    grind [Function.update_apply]
  · intro later token
    have rolledBack := undoes.restores (Function.update later update.hostInstanceToken
      (props update.hostInstanceToken)) token
    have kept := undoes.kept token
    simp only [rollbackHostOutputLatestPropsUpdates, foldr_append, foldr_cons, foldr_nil,
      undone, Except.toOption, Option.getD_some, Updates, any_append] at rolledBack kept ⊢
    rw [rolledBack]
    grind [Function.update_apply, undoing]

/-- The updates of a step are all recorded, or those before the first of an unmounted token
took effect. -/
theorem applyHostOutputLatestPropsUpdates_cases (undoes : Undoes mount before props applied)
    (recorded : List LatestPropsUpdate) :
    ((∀ update ∈ updates, isMounted mount update) ∧
      ∃ later final, applyHostOutputLatestPropsUpdates mount updates recorded props =
          .ok (recorded ++ later) final ∧
        Updates later = Updates updates ∧ Undoes mount before final (applied ++ later)) ∨
    (∃ update ∈ updates, ¬ isMounted mount update) ∧
      ∃ error final, applyHostOutputLatestPropsUpdates mount updates recorded props =
          .error error final ∧
        ∀ token, final token =
          propsBehind (updates.takeWhile (isMounted mount)) token (props token) := by
  induction updates generalizing props applied recorded with
  | nil =>
    exact .inl ⟨by simp, [], props, by simp [applyHostOutputLatestPropsUpdates], rfl,
      by simpa using undoes⟩
  | cons update rest ih =>
    unfold applyHostOutputLatestPropsUpdates
    cases ran : updateLatestPropsForHostInstanceToken mount props update with
    | error error =>
      have unmounted : ¬ isMounted mount update := by
        intro mounted
        cases ran.symm.trans (updateLatestProps_eq_ok_iff.mpr ⟨mounted, rfl⟩)
      refine .inr ⟨⟨update, mem_cons_self, unmounted⟩, error, props, rfl, ?_⟩
      simp [unmounted, propsBehind]
    | ok updated =>
      obtain ⟨mounted, rfl⟩ := updateLatestProps_eq_ok_iff.mp ran
      rcases ih (undoes.snoc mounted) (recorded ++ [undoing mount props update]) with
        ⟨allMounted, later, final, succeeded, same, undoesAll⟩ |
          ⟨⟨other, member, unmounted⟩, error, final, failed, latest⟩
      · refine .inl ⟨forall_mem_cons.mpr ⟨mounted, allMounted⟩,
          undoing mount props update :: later, final, by simpa using succeeded, ?_,
          by simpa using undoesAll⟩
        funext token
        have sameToken := congrFun same token
        simp_all [Updates, undoing]
      · refine .inr ⟨⟨other, mem_cons_of_mem _ member, unmounted⟩, error, final, failed, ?_⟩
        intro token
        rw [latest]
        simp [mounted, propsBehind, Function.update_apply, eq_comm]

section Steps

variable {Metadata Collected : Type}
  {runMetadata : LatestPropsByToken → Collected → RefExecutionStep Metadata →
    Except ComponentTreeError Collected}
  {steps : List (RefExecutionStep Metadata)}
  {collected : Collected}

def updatesMounted (mount : HostInstanceToken → HostInstanceMount)
    (step : RefExecutionStep Metadata) : Bool :=
  step.latestPropsUpdates.all (isMounted mount)

/-- Where all steps before the first that updates an unmounted token succeed, the updates of
that step before the token give instances that no earlier step updated the props they had. -/
def LeavesNothing (mount : HostInstanceToken → HostInstanceMount)
    (runMetadata : LatestPropsByToken → Collected → RefExecutionStep Metadata →
      Except ComponentTreeError Collected)
    (steps : List (RefExecutionStep Metadata)) (collected : Collected)
    (applied : List LatestPropsUpdate)
    (before props : LatestPropsByToken) : Prop :=
  ∀ step rest value final, steps.dropWhile (updatesMounted mount) = step :: rest →
    executeRefSteps mount runMetadata (steps.takeWhile (updatesMounted mount)) collected
      applied props = .ok value final →
    ∀ token, Updates (applied ++ (steps.takeWhile (updatesMounted mount)).flatMap
        (·.latestPropsUpdates)) token = false →
      propsBehind (step.latestPropsUpdates.takeWhile (isMounted mount)) token (before token) =
        before token

theorem executeRefSteps_restores_iff (undoes : Undoes mount before props applied) :
    (∀ error after, executeRefSteps mount runMetadata steps collected applied props =
        .error error after → ∀ token, after token = before token) ↔
      LeavesNothing mount runMetadata steps collected applied before props := by
  induction steps generalizing collected props applied with
  | nil =>
    refine iff_of_true ?_ ?_
    · rintro error after ⟨⟩
    · rintro step rest value final ⟨⟩
  | cons step rest ih =>
    unfold LeavesNothing
    rcases @applyHostOutputLatestPropsUpdates_cases mount before props applied
        step.latestPropsUpdates undoes [] with
      ⟨allMounted, recorded, updated, succeeded, same, undoesAll⟩ |
        ⟨⟨update, member, unmounted⟩, error, final, failed, latest⟩
    · have all : updatesMounted mount step := all_eq_true.mpr allMounted
      rw [nil_append] at succeeded
      rw [dropWhile_cons_of_pos all, takeWhile_cons_of_pos all]
      cases ran : runMetadata updated collected step with
      | error error =>
        simp only [executeRefSteps, succeeded, ran, reduceCtorEq, false_implies, implies_true,
          iff_true]
        rintro other after ⟨⟩ token
        have kept := undoesAll.kept token
        grind [undoesAll.restores updated token]
      | ok value =>
        have sameUpdates := congrFun same
        simp only [Updates] at sameUpdates
        simp only [executeRefSteps, succeeded, ran, ih undoesAll, LeavesNothing, Updates,
          any_append, flatMap_cons, Bool.or_assoc, sameUpdates]
    · have notAll : ¬ updatesMounted mount step :=
        fun all => unmounted (all_eq_true.mp all update member)
      rw [dropWhile_cons_of_neg notAll, takeWhile_cons_of_neg notAll]
      simp only [executeRefSteps, failed, flatMap_nil, append_nil]
      constructor
      · rintro restored _ _ _ _ ⟨⟩ - token untouched
        have restoredToken := restored error _ rfl token
        rwa [undoes.restores, untouched, if_neg Bool.false_ne_true, latest,
          undoes.kept token untouched] at restoredToken
      · rintro leaves _ _ ⟨⟩ token
        rw [undoes.restores]
        by_cases touched : Updates applied token
        · rw [if_pos touched]
        · have untouched := eq_false_of_ne_true touched
          rw [if_neg touched, latest, undoes.kept token untouched]
          exact leaves step rest collected props rfl rfl token untouched

end Steps

/-- A call that throws restores the latest props exactly when the updates that took effect in
the step of an unmounted token leave nothing behind. -/
theorem failed_ref_execution_restores_iff
    {Metadata Collected : Type}
    (mount : HostInstanceToken → HostInstanceMount)
    (runMetadata : LatestPropsByToken → Collected → RefExecutionStep Metadata →
      Except ComponentTreeError Collected)
    (steps : List (RefExecutionStep Metadata))
    (collected : Collected)
    (props : LatestPropsByToken) :
    ((∀ error after, createRefCallbackCleanupReturnExecutionGateSnapshot mount runMetadata
          steps collected props = .error error after → ∀ token, after token = props token) ↔
        LeavesNothing mount runMetadata steps collected [] props props) ∧
      ((∀ error after, createRefCallbackHostOutputOrderingDiagnosticSnapshot mount runMetadata
          steps collected props = .error error after → ∀ token, after token = props token) ↔
        LeavesNothing mount runMetadata steps collected [] props props) := by
  have iff := @executeRefSteps_restores_iff mount props props [] _ _ runMetadata steps collected
    ⟨fun _ _ => rfl, fun _ _ => rfl⟩
  exact ⟨iff, iff⟩

/-- The first of two updates stays when the token of the second is not mounted. -/
theorem failed_ref_execution_leaves_update :
    ∃ error after, createRefCallbackCleanupReturnExecutionGateSnapshot
        (fun token => if token = 0 then .mounted else .unmounted) (fun _ _ _ => .ok ())
        [⟨[⟨0, some 2⟩, ⟨1, some 3⟩], ()⟩] () (fun _ => some 1) =
      .error error after ∧ after 0 = some 2 :=
  ⟨_, _, rfl, rfl⟩

end FastReact
