import Mathlib.Order.Defs.Unbundled

/-!
# Computations that keep their state when they fail

A fallible operation on a mutable store may have changed the store before it
reports an error.  `EStateM` keeps the state of both outcomes; this module adds
queries of the state, focusing on a part of the state and sequencing rules.
-/

namespace ErrorState

open List MonadExcept

export EStateM (run_bind run_get run_modify run_modifyGet run_pure run_throw)

variable {ε σ τ α β : Type}

/-- Run a fallible query of the state. -/
def query (ask : σ → Except ε α) : EStateM ε σ α := fun state =>
  match ask state with
  | .ok value => .ok value state
  | .error error => .error error state

/-- Run a computation on one part of a larger state. -/
def focus (part : τ → σ) (replace : σ → τ → τ) (body : EStateM ε σ α) :
    EStateM ε τ α := fun state =>
  match body.run (part state) with
  | .ok value after => .ok value (replace after state)
  | .error error after => .error error (replace after state)

/-- Report the errors of a computation as errors of another kind. -/
def mapError {δ : Type} (wrap : ε → δ) (body : EStateM ε σ α) : EStateM δ σ α :=
  fun state =>
    match body.run state with
    | .ok value after => .ok value after
    | .error error after => .error (wrap error) after

/-- Run a computation and report its outcome as a value. -/
def attempt {δ : Type} (body : EStateM ε σ α) : EStateM δ σ (Except ε α) :=
  fun state =>
    match body.run state with
    | .ok value after => .ok (.ok value) after
    | .error error after => .ok (.error error) after

/-- The state a computation leaves behind, whatever its outcome. -/
def stateAfter : EStateM.Result ε σ α → σ
  | .ok _ state => state
  | .error _ state => state

@[simp] theorem run_query (ask : σ → Except ε α) (state : σ) :
    (query ask).run state =
      match ask state with
      | .ok value => .ok value state
      | .error error => .error error state :=
  rfl

/-- A computation on a part replaces that part, whatever its outcome. -/
@[simp] theorem run_focus (part : τ → σ) (replace : σ → τ → τ) (body : EStateM ε σ α) (state : τ) :
    (focus part replace body).run state =
      match body.run (part state) with
      | .ok value after => .ok value (replace after state)
      | .error error after => .error error (replace after state) :=
  rfl

/-- Reporting errors otherwise changes nothing else. -/
@[simp] theorem run_mapError {δ : Type} (wrap : ε → δ) (body : EStateM ε σ α) (state : σ) :
    (mapError wrap body).run state =
      match body.run state with
      | .ok value after => .ok value after
      | .error error after => .error (wrap error) after :=
  rfl

/-- A computation whose outcome is reported does not fail. -/
@[simp] theorem run_attempt {δ : Type} (body : EStateM ε σ α) (state : σ) :
    (attempt body : EStateM δ σ (Except ε α)).run state =
      match body.run state with
      | .ok value after => .ok (.ok value) after
      | .error error after => .ok (.error error) after :=
  rfl

/-- Not looking at a result changes nothing. -/
theorem stateAfter_discard (body : EStateM ε σ α) (state : σ) :
    stateAfter ((do let _ ← body : EStateM ε σ PUnit).run state) = stateAfter (body.run state) := by
  rw [run_bind]
  cases body.run state <;> rfl

/-- A loop without a result visits the items one after another. -/
theorem run_forM_cons (visit : α → EStateM ε σ PUnit) (item : α) (rest : List α) (state : σ) :
    ((item :: rest).forM visit).run state =
      match (visit item).run state with
      | .ok _ after => (rest.forM visit).run after
      | .error error after => .error error after := by
  change (visit item >>= fun _ => rest.forM visit).run state = _
  rw [run_bind]
  cases (visit item).run state <;> rfl

variable {step : β → α → EStateM ε σ β} {items : List α} (invariant : List α → β → σ → Prop)

/-- A loop whose every round carries an invariant of the handled items on or stops ends with
that invariant of all items or with the stop of one round. -/
theorem foldlM_run_cases (stopped : List α → α → ε → σ → Prop)
    (round : ∀ handled item rest value state,
      items = handled ++ item :: rest →
      invariant handled value state →
      (∃ value' state',
        (step value item).run state = .ok value' state' ∧
        invariant (handled ++ [item]) value' state') ∨
      ∃ error state',
        (step value item).run state = .error error state' ∧ stopped handled item error state')
    {value : β} {state : σ}
    (initially : invariant [] value state) :
    (∃ value' state',
      (items.foldlM step value).run state = .ok value' state' ∧ invariant items value' state') ∨
    ∃ handled item rest error state',
      items = handled ++ item :: rest ∧
      (items.foldlM step value).run state = .error error state' ∧
      stopped handled item error state' := by
  have fromPoint : ∀ (rest handled : List α) (value : β) (state : σ),
      items = handled ++ rest →
      invariant handled value state →
      (∃ value' state',
        (rest.foldlM step value).run state = .ok value' state' ∧ invariant items value' state') ∨
      ∃ handled item later error state',
        items = handled ++ item :: later ∧
        (rest.foldlM step value).run state = .error error state' ∧
        stopped handled item error state' := by
    intro rest
    induction rest with
    | nil =>
      intro handled value state shape holds
      rw [append_nil] at shape
      exact .inl ⟨value, state, rfl, shape ▸ holds⟩
    | cons item rest ih =>
      intro handled value state shape holds
      rw [foldlM_cons, run_bind]
      rcases round handled item rest value state shape holds with
        ⟨nextValue, nextState, stepped, nextHolds⟩ | ⟨error, failedState, stepped, stops⟩
      · rw [stepped]
        exact ih (handled ++ [item]) nextValue nextState (by simp [shape]) nextHolds
      · rw [stepped]
        exact .inr ⟨handled, item, rest, error, failedState, shape, rfl, stops⟩
  exact fromPoint items [] value state rfl initially

/-- A loop whose every round succeeds and carries an invariant of the handled
items on succeeds with that invariant of all items. -/
theorem foldlM_run_of_invariant
    (round : ∀ handled item rest value state,
      items = handled ++ item :: rest →
      invariant handled value state →
      ∃ value' state',
        (step value item).run state = .ok value' state' ∧
        invariant (handled ++ [item]) value' state')
    {value : β} {state : σ}
    (initially : invariant [] value state) :
    ∃ value' state',
      (items.foldlM step value).run state = .ok value' state' ∧
      invariant items value' state' := by
  rcases foldlM_run_cases invariant (fun _ _ _ _ => False)
    (fun handled item rest value state shape holds =>
      .inl (round handled item rest value state shape holds)) initially with
    ended | ⟨_, _, _, _, _, _, _, impossible⟩
  · exact ended
  · exact impossible.elim

/-- A sequence of fallible steps succeeds when each of them does. -/
theorem bind_eq_ok_iff {first : Except ε α} {next : α → Except ε β} {result : β} :
    first >>= next = .ok result ↔ ∃ value, first = .ok value ∧ next value = .ok result := by
  cases first with
  | error error =>
    constructor
    · intro failed
      cases failed
    · rintro ⟨value, failed, -⟩
      cases failed
  | ok value =>
    constructor
    · exact fun finished => ⟨value, rfl, finished⟩
    · rintro ⟨other, same, finished⟩
      cases same
      exact finished

/-- Renaming the error of a query does not change its success. -/
theorem mapError_eq_ok_iff {δ : Type} {wrap : ε → δ} {result : Except ε α} {value : α} :
    result.mapError wrap = .ok value ↔ result = .ok value := by
  cases result with
  | ok other => constructor <;> intro same <;> cases same <;> rfl
  | error error => constructor <;> intro impossible <;> cases impossible

/-- Checks of a list pass when the check of every item does. -/
theorem forM_eq_ok_iff {Item Error : Type} {check : Item → Except Error PUnit} {items : List Item} :
    items.forM check = .ok () ↔ ∀ item ∈ items, check item = .ok () := by
  induction items with
  | nil => exact iff_of_true rfl (by simp)
  | cons item rest ih =>
    change (check item >>= fun _ => rest.forM check) = .ok () ↔ _
    rw [bind_eq_ok_iff, List.forall_mem_cons, ← ih]
    constructor
    · rintro ⟨checked, passes, later⟩
      exact ⟨passes, later⟩
    · rintro ⟨passes, later⟩
      exact ⟨(), passes, later⟩

variable {result : α} {condition : Prop}

/-- A fallible check is passed when its condition does not hold. -/
theorem guard_eq_ok_iff [Decidable condition] {error : ε} {next : Except ε α} :
    (if condition then .error error else next) = .ok result ↔ ¬ condition ∧ next = .ok result := by
  by_cases fails : condition
  · simp [fails]
  · simp [fails]

theorem demand_eq_ok_iff [Decidable condition] {error : ε} :
    (if condition then .ok result else .error error : Except ε α) = .ok result ↔ condition := by
  by_cases holds : condition
  · simp [holds]
  · simp [holds]

/-- A fallible fold succeeds when every round succeeds and carries an invariant of the
handled items on. -/
theorem foldlM_ok_of_invariant {step : β → α → Except ε β} (invariant : List α → β → Prop)
    {items : List α} {value : β}
    (round : ∀ handled item rest value,
      items = handled ++ item :: rest →
      invariant handled value →
      ∃ after, step value item = .ok after ∧ invariant (handled ++ [item]) after)
    (initially : invariant [] value) :
    ∃ after, items.foldlM step value = .ok after ∧ invariant items after := by
  have fromPoint : ∀ (rest handled : List α) (value : β),
      items = handled ++ rest →
      invariant handled value →
      ∃ after, rest.foldlM step value = .ok after ∧ invariant items after := by
    intro rest
    induction rest with
    | nil =>
      intro handled value shape holds
      rw [append_nil] at shape
      exact ⟨value, rfl, shape ▸ holds⟩
    | cons item rest ih =>
      intro handled value shape holds
      obtain ⟨next, stepped, nextHolds⟩ := round handled item rest value shape holds
      obtain ⟨after, finished, afterHolds⟩ :=
        ih (handled ++ [item]) next (by simp [shape]) nextHolds
      refine ⟨after, ?_, afterHolds⟩
      rw [foldlM_cons, stepped]
      exact finished
  exact fromPoint items [] value rfl initially

/-- Every round of a fallible fold that succeeds has succeeded. -/
theorem round_ok_of_foldlM_ok {step : β → α → Except ε β} {value after : β}
    (folded : items.foldlM step value = .ok after) {item : α} (member : item ∈ items) :
    ∃ before next, step before item = .ok next := by
  induction items generalizing value with
  | nil =>
    cases member
  | cons head rest ih =>
    rw [foldlM_cons] at folded
    cases stepped : step value head with
    | error error =>
      rw [stepped] at folded
      cases folded
    | ok next =>
      rw [stepped] at folded
      rcases mem_cons.mp member with rfl | later
      · exact ⟨value, next, stepped⟩
      · exact ih folded later

variable {state after : σ}

theorem run_query_eq_ok_iff {ask : σ → Except ε α} {value : α} :
    (query ask).run state = .ok value after ↔ ask state = .ok value ∧ state = after := by
  rw [run_query]
  cases ask state with
  | error error => simp
  | ok found => simp

variable {body : EStateM ε σ α} {next : α → EStateM ε σ β}

theorem run_bind_eq_ok_iff {result : β} :
    (body >>= next).run state = .ok result after ↔
      ∃ value between,
        body.run state = .ok value between ∧ (next value).run between = .ok result after := by
  rw [run_bind]
  cases ran : body.run state with
  | error error between =>
    constructor
    · intro failed
      cases failed
    · rintro ⟨value, other, failed, -⟩
      cases failed
  | ok value between =>
    constructor
    · exact fun finished => ⟨value, between, rfl, finished⟩
    · rintro ⟨other, otherState, same, finished⟩
      cases same
      exact finished

/-- What comes after a computation that keeps the state goes on from there. -/
theorem run_bind_eq_ok_iff_of_keeps {found : α → Prop} {result : β}
    (keeps : ∀ value between, body.run state = .ok value between ↔ found value ∧ state = between) :
    (body >>= next).run state = .ok result after ↔
      ∃ value, found value ∧ (next value).run state = .ok result after := by
  rw [run_bind_eq_ok_iff]
  constructor
  · rintro ⟨value, _, ran, later⟩
    obtain ⟨isFound, rfl⟩ := (keeps _ _).mp ran
    exact ⟨value, isFound, later⟩
  · rintro ⟨value, isFound, later⟩
    exact ⟨value, state, (keeps _ _).mpr ⟨isFound, rfl⟩, later⟩

theorem run_query_bind_eq_ok_iff {ask : σ → Except ε α} {result : β} :
    (query ask >>= next).run state = .ok result after ↔
      ∃ value, ask state = .ok value ∧ (next value).run state = .ok result after :=
  run_bind_eq_ok_iff_of_keeps fun _ _ => run_query_eq_ok_iff

/-- Renaming errors does not change a success. -/
theorem run_mapError_eq_ok_iff {δ : Type} {wrap : ε → δ} :
    (mapError wrap body).run state = .ok result after ↔ body.run state = .ok result after := by
  rw [run_mapError]
  cases body.run state with
  | ok value between => simp
  | error error between => simp

/-- A computation on a part succeeds as it does on the part. -/
theorem run_focus_eq_ok_iff {part : τ → σ} {replace : σ → τ → τ} {larger after : τ} :
    (focus part replace body).run larger = .ok result after ↔
      ∃ partAfter, body.run (part larger) = .ok result partAfter ∧ replace partAfter larger = after := by
  rw [run_focus]
  cases body.run (part larger) with
  | ok value between => simp [and_assoc]
  | error error between => simp

/-- A check is passed when its condition does not hold. -/
theorem run_guard_eq_ok_iff [Decidable condition] {error : ε} {next : PUnit → EStateM ε σ α} :
    (if condition then throw error >>= next else next PUnit.unit).run state =
        .ok result after ↔
      ¬ condition ∧ (next PUnit.unit).run state = .ok result after := by
  by_cases fails : condition
  · rw [if_pos fails]
    constructor
    · intro failed
      cases failed
    · exact fun finished => absurd fails finished.1
  · rw [if_neg fails]
    exact (and_iff_right fails).symm

/-- A computation either fails without a change or ends in an accepted state. -/
def AllOrNothing (accepted : σ → Prop) (body : EStateM ε σ α) (state : σ) : Prop :=
  match body.run state with
  | .ok _ after => accepted after
  | .error _ after => after = state

namespace AllOrNothing

variable {accepted : σ → Prop}

theorem of_error (error : ε) (ran : body.run state = .error error state) :
    AllOrNothing accepted body state := by
  rw [AllOrNothing, ran]

theorem of_ok {value : α} {after : σ} (ran : body.run state = .ok value after)
    (isAccepted : accepted after) : AllOrNothing accepted body state := by
  rw [AllOrNothing, ran]
  exact isAccepted

/-- Other states may be accepted as those in which the computation succeeds. -/
theorem of_eq_ok {acceptedOther : σ → Prop} (inner : AllOrNothing accepted body state)
    (isAccepted : ∀ value after, body.run state = .ok value after → acceptedOther after) :
    AllOrNothing acceptedOther body state := by
  unfold AllOrNothing at inner ⊢
  cases ran : body.run state with
  | ok value after => exact isAccepted value after ran
  | error error after =>
    rw [ran] at inner
    exact inner

theorem stateAfter_cases (inner : AllOrNothing accepted body state) :
    stateAfter (body.run state) = state ∨ accepted (stateAfter (body.run state)) := by
  unfold AllOrNothing at inner
  cases ran : body.run state with
  | ok value after =>
    rw [ran] at inner
    exact .inr inner
  | error error after =>
    rw [ran] at inner
    exact .inl inner

/-- A computation on a part, followed by nothing that changes the state. -/
theorem focus {part : τ → σ} {replace : σ → τ → τ} {larger : τ} {acceptedLarger : τ → Prop}
    (inner : AllOrNothing accepted body (part larger))
    (unchanged : replace (part larger) larger = larger)
    (lifts : ∀ after, accepted after → acceptedLarger (replace after larger)) :
    AllOrNothing acceptedLarger
      (do let _ ← focus part replace body : EStateM ε τ PUnit) larger := by
  unfold AllOrNothing at inner ⊢
  rw [run_bind, run_focus]
  cases ran : body.run (part larger) with
  | ok value after =>
    rw [ran] at inner
    exact lifts after inner
  | error error after =>
    rw [ran] at inner
    change after = part larger at inner
    change replace after larger = larger
    rw [inner, unchanged]

end AllOrNothing

/-- Whatever its outcome, a computation stays within a relation of states. -/
def Within (relation : σ → σ → Prop) (body : EStateM ε σ α) : Prop :=
  ∀ state, relation state (stateAfter (body.run state))

namespace Within

variable {relation : σ → σ → Prop} [IsPreorder σ relation]

theorem pure (value : α) : Within relation (Pure.pure value : EStateM ε σ α) :=
  fun state => refl state

theorem throw (error : ε) : Within relation (throw error : EStateM ε σ α) :=
  fun state => refl state

theorem get : Within relation (MonadState.get : EStateM ε σ σ) :=
  fun state => refl state

theorem query (ask : σ → Except ε α) : Within relation (query ask) := by
  intro state
  rw [run_query]
  cases ask state <;> exact refl state

/-- A computation that changes nothing unless it ends in a related state. -/
theorem of_allOrNothing
    (related : ∀ state, AllOrNothing (relation state) body state) : Within relation body := by
  intro state
  have ended := related state
  unfold AllOrNothing at ended
  cases ran : body.run state with
  | ok value after => rwa [ran] at ended
  | error error after =>
    rw [ran] at ended
    rw [ended]
    exact refl state

theorem bind (first : Within relation body)
    (second : ∀ value, Within relation (next value)) : Within relation (body >>= next) := by
  intro state
  have related := first state
  rw [run_bind]
  cases ran : body.run state with
  | ok value after =>
    rw [ran] at related
    exact Trans.trans related (second value after)
  | error error after =>
    rw [ran] at related
    exact related

/-- What follows a computation starts where the computation ended. -/
theorem after_first {state : σ} (second : ∀ value, Within relation (next value)) :
    relation (stateAfter (body.run state)) (stateAfter ((body >>= next).run state)) := by
  rw [run_bind]
  cases body.run state with
  | ok value after => exact second value after
  | error error after => exact refl after

/-- Two computations in sequence, the second from where the first one succeeds. -/
theorem bind_run (first : Within relation body)
    (second : ∀ state value after,
      body.run state = .ok value after → relation after (stateAfter ((next value).run after))) :
    Within relation (body >>= next) := by
  intro state
  have related := first state
  rw [run_bind]
  cases ran : body.run state with
  | ok value after =>
    rw [ran] at related
    exact Trans.trans related (second state value after ran)
  | error error after =>
    rw [ran] at related
    exact related

section

omit [IsPreorder σ relation]

theorem modify {change : σ → σ} (related : ∀ state, relation state (change state)) :
    Within relation (modify change : EStateM ε σ PUnit) :=
  related

theorem modifyGet {change : σ → α × σ} (related : ∀ state, relation state (change state).2) :
    Within relation (modifyGet change : EStateM ε σ α) :=
  related

theorem mapError {δ : Type} {body : EStateM ε σ α} (wrap : ε → δ) (inner : Within relation body) :
    Within relation (mapError wrap body) := by
  intro state
  have related := inner state
  rw [run_mapError]
  cases ran : body.run state <;> rw [ran] at related <;> exact related

theorem attempt {δ : Type} {body : EStateM ε σ α} (inner : Within relation body) :
    Within relation (attempt body : EStateM δ σ (Except ε α)) := by
  intro state
  have related := inner state
  rw [run_attempt]
  cases ran : body.run state <;> rw [ran] at related <;> exact related

/-- A computation on a part that may be replaced by anything. -/
theorem focus {part : σ → τ} {replace : τ → σ → σ} {body : EStateM ε τ α}
    (related : ∀ value state, relation state (replace value state)) :
    Within relation (focus part replace body) := by
  intro state
  rw [run_focus]
  cases body.run (part state) <;> exact related _ state

theorem ite {condition : Prop} [Decidable condition] {body other : EStateM ε σ α}
    (first : Within relation body) (second : Within relation other) :
    Within relation (if condition then body else other) := by
  by_cases holds : condition
  · rwa [if_pos holds]
  · rwa [if_neg holds]

end

theorem guard {condition : Prop} [Decidable condition] {error : ε} {next : PUnit → EStateM ε σ α}
    (later : ∀ result, Within relation (next result)) :
    Within relation (if condition then MonadExcept.throw error >>= next else next PUnit.unit) := by
  by_cases fails : condition
  · rw [if_pos fails]
    exact bind (throw error) later
  · rw [if_neg fails]
    exact later _

omit [IsPreorder σ relation] in
/-- A computation on a part that stays within a relation of the part. -/
theorem focus_within {part : σ → τ} {replace : τ → σ → σ} {body : EStateM ε τ α}
    {inner : τ → τ → Prop} (within : Within inner body)
    (related : ∀ state value, inner (part state) value → relation state (replace value state)) :
    Within relation (ErrorState.focus part replace body) := by
  intro state
  have kept := within (part state)
  rw [run_focus]
  cases ran : body.run (part state) <;> rw [ran] at kept <;> exact related state _ kept

theorem foldlM {step : β → α → EStateM ε σ β}
    (round : ∀ value item, Within relation (step value item)) (items : List α) (value : β) :
    Within relation (items.foldlM step value) := by
  induction items generalizing value with
  | nil => exact pure value
  | cons item rest ih =>
    rw [foldlM_cons]
    exact bind (round value item) fun next => ih next

theorem forM_of_mem {visit : α → EStateM ε σ PUnit} {items : List α}
    (round : ∀ item ∈ items, Within relation (visit item)) :
    Within relation (items.forM visit) := by
  induction items with
  | nil => exact pure PUnit.unit
  | cons item rest ih =>
    refine bind (round item (by simp)) fun _ => ih ?_
    exact fun later member => round later (mem_cons_of_mem item member)

theorem forM {visit : α → EStateM ε σ PUnit} (round : ∀ item, Within relation (visit item))
    (items : List α) : Within relation (items.forM visit) :=
  forM_of_mem fun item _ => round item

end Within

/-- Whatever its outcome, a computation leads from one property of states to another. -/
def Leads (before after : σ → Prop) (body : EStateM ε σ α) : Prop :=
  ∀ state, before state → after (stateAfter (body.run state))

namespace Leads

variable {before after : σ → Prop}

/-- Two computations in sequence; what holds between them is enough where the first one fails. -/
theorem bind {body : EStateM ε σ α} {next : α → EStateM ε σ β} (between : σ → Prop)
    (first : Leads before between body) (second : ∀ value, Leads between after (next value))
    (failed : ∀ state, between state → after state) : Leads before after (body >>= next) := by
  intro state holds
  have holdsBetween := first state holds
  rw [run_bind]
  cases ran : body.run state with
  | ok value middle =>
    rw [ran] at holdsBetween
    exact second value middle holdsBetween
  | error error middle =>
    rw [ran] at holdsBetween
    exact failed middle holdsBetween

theorem modify {change : σ → σ} (leads : ∀ state, before state → after (change state)) :
    Leads before after (modify change : EStateM ε σ PUnit) :=
  leads

theorem mapError {δ : Type} {body : EStateM ε σ α} (wrap : ε → δ)
    (inner : Leads before after body) : Leads before after (mapError wrap body) := by
  intro state holds
  have ended := inner state holds
  rw [run_mapError]
  cases ran : body.run state <;> rw [ran] at ended <;> exact ended

theorem ite {condition : Prop} [Decidable condition] {body other : EStateM ε σ α}
    (first : Leads before after body) (second : Leads before after other) :
    Leads before after (if condition then body else other) := by
  by_cases holds : condition
  · rwa [if_pos holds]
  · rwa [if_neg holds]

theorem guard {condition : Prop} [Decidable condition] {error : ε} {next : PUnit → EStateM ε σ α}
    (failed : ∀ state, before state → after state)
    (later : ∀ result, Leads before after (next result)) :
    Leads before after (if condition then throw error >>= next else next PUnit.unit) := by
  by_cases fails : condition
  · rw [if_pos fails]
    exact bind before (fun _ holds => holds) later failed
  · rw [if_neg fails]
    exact later _

end Leads

end ErrorState
