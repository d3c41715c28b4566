import FastReact.Fiber

namespace FastReact

open ErrorState

/-!
# Host fiber tokens

The reconciler hands out tokens for host nodes.  A token is good for one root, one fiber,
one phase and one target, until it is invalidated, and tokens are numbered from one on in
the order they are issued.
-/

inductive HostFiberTokenTag

abbrev HostFiberTokenId := OpaqueHandle HostFiberTokenTag

inductive HostFiberTokenPhase where
  | creation
  | hydration
  | commit
  | deletion
deriving DecidableEq

/-- What kind of host node a token stands for. -/
inductive HostFiberTokenTarget where
  | hostInstance
  | textInstance
  | hydratableInstance
  | activityBoundary
  | suspenseBoundary
deriving DecidableEq

inductive HostFiberTokenViolation where
  | invalid
  | stale
  | wrongRenderer
  | wrongPhase
  | wrongTarget
deriving DecidableEq

structure HostFiberTokenRecord where
  root : FiberRootId
  fiber : FiberId
  phase : HostFiberTokenPhase
  target : HostFiberTokenTarget
  generation : Nat
  active : Bool
deriving DecidableEq

structure HostFiberTokenValidationError where
  token : HostFiberTokenId
  phase : HostFiberTokenPhase
  target : HostFiberTokenTarget
  violation : HostFiberTokenViolation
deriving DecidableEq

structure HostFiberTokenStore where
  records : List (Option HostFiberTokenRecord)
deriving DecidableEq

namespace HostFiberTokenStore

def new : HostFiberTokenStore := ⟨[]⟩

/-- Issue a token of a given scope. -/
def issue (tokens : HostFiberTokenStore) (root : FiberRootId) (fiber : FiberId)
    (phase : HostFiberTokenPhase) (target : HostFiberTokenTarget) :
    HostFiberTokenId × HostFiberTokenStore :=
  (⟨tokens.records.length + 1⟩,
    ⟨tokens.records ++ [some {
      root := root
      fiber := fiber
      phase := phase
      target := target
      generation := 0
      active := true }]⟩)

def record (tokens : HostFiberTokenStore) (token : HostFiberTokenId) (phase : HostFiberTokenPhase)
    (target : HostFiberTokenTarget) :
    Except HostFiberTokenValidationError (Option HostFiberTokenRecord) :=
  if token.isNone then
    .error ⟨token, phase, target, .invalid⟩
  else
    .ok (tokens.records[token.raw - 1]?).join

def validateRecordScope (token : HostFiberTokenId) (phase : HostFiberTokenPhase)
    (target : HostFiberTokenTarget) (recordPhase : HostFiberTokenPhase)
    (recordTarget : HostFiberTokenTarget) : Except HostFiberTokenValidationError Unit :=
  if recordPhase ≠ phase then
    .error ⟨token, phase, target, .wrongPhase⟩
  else if recordTarget ≠ target then
    .error ⟨token, phase, target, .wrongTarget⟩
  else
    .ok ()

/-- Check a token against the scope it is used in. -/
def validate (tokens : HostFiberTokenStore) (token : HostFiberTokenId) (root : FiberRootId)
    (fiber : FiberId) (phase : HostFiberTokenPhase) (target : HostFiberTokenTarget) :
    Except HostFiberTokenValidationError Unit := do
  let found ← tokens.record token phase target
  found.elim (.error ⟨token, phase, target, .invalid⟩) fun record =>
    if record.active = false then
      .error ⟨token, phase, target, .stale⟩
    else if record.root ≠ root then
      .error ⟨token, phase, target, .wrongRenderer⟩
    else if record.fiber ≠ fiber then
      .error ⟨token, phase, target, .invalid⟩
    else
      validateRecordScope token phase target record.phase record.target

variable {tokens : HostFiberTokenStore} {root : FiberRootId} {fiber : FiberId}
  {phase : HostFiberTokenPhase} {target : HostFiberTokenTarget}

/-- The records of a store are followed by those of a later one. -/
def Grows (before after : HostFiberTokenStore) : Prop :=
  before.records <+: after.records

theorem Grows.refl (tokens : HostFiberTokenStore) : tokens.Grows tokens :=
  List.prefix_rfl

theorem Grows.trans {first second third : HostFiberTokenStore} (grows : first.Grows second)
    (growsOn : second.Grows third) : first.Grows third :=
  List.IsPrefix.trans grows growsOn

theorem grows_issue : tokens.Grows (tokens.issue root fiber phase target).2 :=
  List.prefix_append _ _

/-- A token is active in just the scope it was issued for. -/
def Issued (tokens : HostFiberTokenStore) (token : HostFiberTokenId) (root : FiberRootId)
    (fiber : FiberId) (phase : HostFiberTokenPhase) (target : HostFiberTokenTarget) : Prop :=
  token.isNone = false ∧ ∃ record, tokens.records[token.raw - 1]? = some (some record) ∧
    record.active = true ∧ record.root = root ∧ record.fiber = fiber ∧
    record.phase = phase ∧ record.target = target

theorem issued_issue :
    (tokens.issue root fiber phase target).2.Issued (tokens.issue root fiber phase target).1
      root fiber phase target :=
  ⟨rfl, _, List.getElem?_concat_length, rfl, rfl, rfl, rfl, rfl⟩

theorem Issued.of_grows {after : HostFiberTokenStore} {token : HostFiberTokenId}
    (issued : tokens.Issued token root fiber phase target) (grows : tokens.Grows after) :
    after.Issued token root fiber phase target := by
  obtain ⟨named, record, found, scope⟩ := issued
  obtain ⟨inBounds, isRecord⟩ := List.getElem?_eq_some_iff.mp found
  refine ⟨named, record, ?_, scope⟩
  rw [List.prefix_iff_getElem?.mp grows _ inBounds, isRecord]

/-- A token validates in exactly the scope it is active in. -/
theorem validate_eq_ok_iff {token : HostFiberTokenId} :
    tokens.validate token root fiber phase target = .ok () ↔
      tokens.Issued token root fiber phase target := by
  rw [validate, record, Issued]
  cases named : token.isNone with
  | true => simp [bind, Except.bind]
  | false =>
    cases found : tokens.records[token.raw - 1]? with
    | none => simp [bind, Except.bind]
    | some entry =>
      cases entry with
      | none => simp [bind, Except.bind]
      | some record =>
        simp only [bind, Except.bind, Bool.false_eq_true, if_false, Option.join_some,
          Option.elim_some, guard_eq_ok_iff, validateRecordScope, not_not, Bool.not_eq_false]
        constructor
        · rintro ⟨active, sameRoot, sameFiber, samePhase, sameTarget, -⟩
          exact ⟨trivial, record, rfl, active, sameRoot, sameFiber, samePhase, sameTarget⟩
        · rintro ⟨-, other, isOther, active, sameRoot, sameFiber, samePhase, sameTarget⟩
          cases isOther
          exact ⟨active, sameRoot, sameFiber, samePhase, sameTarget, trivial⟩

end HostFiberTokenStore

end FastReact
