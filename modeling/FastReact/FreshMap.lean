import Mathlib.Data.List.Induction

/-!
# Maps with fresh keys

The actions of a run store values under keys and retire keys.  A key is live between the
action that stored a value under it and the first later one that retires it.  Where a key
is never stored twice, a lookup that each step treats so finds exactly the live keys.
-/

namespace FreshMap

open List

variable {State Action Key Value : Type}

section Histories

variable (step : State → Action → State) (stores : State → Action → Option (Key × Value))
  (retires : State → Action → Key → Prop) (start : State)

def Stored (actions : List Action) (key : Key) (value : Value) : Prop :=
  ∃ earlier action later, actions = earlier ++ action :: later ∧
    stores (earlier.foldl step start) action = some (key, value)

/-- Some action stored a value under the key, and no later one retired the key. -/
def Live (actions : List Action) (key : Key) (value : Value) : Prop :=
  ∃ earlier action later, actions = earlier ++ action :: later ∧
    stores (earlier.foldl step start) action = some (key, value) ∧
    ∀ before next after, later = before ++ next :: after →
      ¬ retires ((earlier ++ action :: before).foldl step start) next key

/-- Some action retired the key while it was live. -/
def Retired (actions : List Action) (key : Key) : Prop :=
  ∃ earlier action later value, actions = earlier ++ action :: later ∧
    Live step stores retires start earlier key value ∧
    retires (earlier.foldl step start) action key

variable {step stores retires start} {actions : List Action} {action : Action} {key : Key}
  {value : Value}

/-- A nonempty list ends with its last action or has it before. -/
theorem snoc_eq_append_cons_iff {earlier later : List Action} {first : Action} :
    actions ++ [action] = earlier ++ first :: later ↔
      (later = [] ∧ earlier = actions ∧ first = action) ∨
        ∃ rest, later = rest ++ [action] ∧ actions = earlier ++ first :: rest := by
  cases later using List.reverseRecOn with
  | nil =>
    rw [← concat_eq_append, ← concat_eq_append, concat_inj]
    constructor
    · rintro ⟨rfl, rfl⟩
      exact .inl ⟨rfl, rfl, rfl⟩
    · rintro (⟨-, rfl, rfl⟩ | ⟨rest, shape, -⟩)
      · exact ⟨rfl, rfl⟩
      · simp at shape
  | append_singleton rest last =>
    rw [← cons_append, ← append_assoc, ← concat_eq_append, ← concat_eq_append, concat_inj]
    constructor
    · rintro ⟨shape, rfl⟩
      exact .inr ⟨rest, rfl, shape⟩
    · rintro (⟨shape, -, -⟩ | ⟨other, shape, same⟩)
      · simp at shape
      · obtain ⟨rfl, sameLast⟩ := append_inj' shape rfl
        exact ⟨same, (singleton_inj.mp sameLast).symm⟩

theorem not_live_nil : ¬ Live step stores retires start [] key value := by
  rintro ⟨earlier, action, later, shape, -⟩
  simp at shape

/-- The last action stores a value or leaves a live key alone. -/
theorem live_snoc :
    Live step stores retires start (actions ++ [action]) key value ↔
      stores (actions.foldl step start) action = some (key, value) ∨
        Live step stores retires start actions key value ∧
          ¬ retires (actions.foldl step start) action key := by
  constructor
  · rintro ⟨earlier, first, later, shape, stored, kept⟩
    rcases snoc_eq_append_cons_iff.mp shape with ⟨rfl, rfl, rfl⟩ | ⟨rest, rfl, rfl⟩
    · exact .inl stored
    · refine .inr ⟨⟨earlier, first, rest, rfl, stored, ?_⟩, kept rest action [] rfl⟩
      rintro before next after rfl
      exact kept before next (after ++ [action]) (by simp)
  · rintro (stored | ⟨⟨earlier, first, later, rfl, stored, kept⟩, unretired⟩)
    · refine ⟨actions, action, [], rfl, stored, ?_⟩
      intro before next after shape
      simp at shape
    · refine ⟨earlier, first, later ++ [action], by simp, stored, ?_⟩
      intro before next after shape
      rcases snoc_eq_append_cons_iff.mp shape with ⟨-, rfl, rfl⟩ | ⟨rest, -, rfl⟩
      · exact unretired
      · exact kept before next rest rfl

theorem Live.stored (live : Live step stores retires start actions key value) :
    Stored step stores start actions key value := by
  obtain ⟨earlier, action, later, shape, stored, -⟩ := live
  exact ⟨earlier, action, later, shape, stored⟩

end Histories

/-- What each step does to the lookup of a map that stores under unused keys only. -/
structure Refines (step : State → Action → State) (stores : State → Action → Option (Key × Value))
    (retires : State → Action → Key → Prop) (holds : State → Key → Value → Prop)
    (used : State → Key → Prop) : Prop where
  fresh : ∀ {state action key value},
    stores state action = some (key, value) → ¬ used state key
  stored : ∀ {state action key value}, stores state action = some (key, value) →
    ∀ {other}, holds (step state action) key other ↔ other = value
  kept : ∀ {state action key}, (∀ value, stores state action ≠ some (key, value)) →
    ∀ {value}, holds (step state action) key value ↔
      holds state key value ∧ ¬ retires state action key
  used_of_holds : ∀ {state key value}, holds state key value → used state key
  used_step : ∀ {state action key}, used state key → used (step state action) key

namespace Refines

variable {step : State → Action → State} {stores : State → Action → Option (Key × Value)}
  {retires : State → Action → Key → Prop} {holds : State → Key → Value → Prop}
  {used : State → Key → Prop} {start : State} {actions later : List Action} {key : Key}
  {value : Value}

section

variable (refines : Refines step stores retires holds used)
include refines

theorem used_foldl {state : State}
    (isUsed : used state key) : used (later.foldl step state) key := by
  induction later generalizing state with
  | nil => exact isUsed
  | cons action later ih => exact ih (refines.used_step isUsed)

theorem used_of_stored (stored : Stored step stores start actions key value) :
    used (actions.foldl step start) key := by
  obtain ⟨earlier, action, later, rfl, stored⟩ := stored
  rw [foldl_append, foldl_cons]
  exact refines.used_foldl (refines.used_of_holds ((refines.stored stored).mpr rfl))

theorem not_stored_before {action : Action}
    {other : Value} (stored : stores (actions.foldl step start) action = some (key, value)) :
    ¬ Stored step stores start actions key other :=
  fun before => refines.fresh stored (refines.used_of_stored before)

theorem holds_iff_live (empty : ∀ key value, ¬ holds start key value) :
    holds (actions.foldl step start) key value ↔
      Live step stores retires start actions key value := by
  induction actions using List.reverseRecOn with
  | nil => exact iff_of_false (empty key value) not_live_nil
  | append_singleton actions action ih =>
    rw [live_snoc, foldl_append, foldl_cons, foldl_nil]
    by_cases stored : ∃ other, stores (actions.foldl step start) action = some (key, other)
    · obtain ⟨other, stored⟩ := stored
      rw [refines.stored stored, stored]
      constructor
      · rintro rfl
        exact .inl rfl
      · rintro (same | ⟨live, -⟩)
        · simpa using same.symm
        · exact absurd live.stored (refines.not_stored_before stored)
    · rw [not_exists] at stored
      rw [refines.kept stored, ih, or_iff_right (stored value)]

theorem not_holds_of_retired (retired : Retired step stores retires start actions key) :
    used (actions.foldl step start) key ∧
      ∀ value, ¬ holds (actions.foldl step start) key value := by
  obtain ⟨earlier, action, later, value, rfl, live, retires⟩ := retired
  have isUsed : used (earlier.foldl step start) key := refines.used_of_stored live.stored
  rw [foldl_append, foldl_cons]
  have gone : ∀ value, ¬ holds (step (earlier.foldl step start) action) key value := by
    intro other holdsNow
    have unstored : ∀ value,
        stores (earlier.foldl step start) action ≠ some (key, value) :=
      fun value stored => refines.fresh stored isUsed
    exact ((refines.kept unstored).mp holdsNow).2 retires
  have after : used (step (earlier.foldl step start) action) key := refines.used_step isUsed
  generalize step (earlier.foldl step start) action = state at gone after
  induction later generalizing state with
  | nil => exact ⟨after, gone⟩
  | cons action later ih =>
    refine ih (step state action) ?_ (refines.used_step after)
    intro other holdsNow
    have unstored : ∀ value, stores state action ≠ some (key, value) :=
      fun value stored => refines.fresh stored after
    exact gone other ((refines.kept unstored).mp holdsNow).1

end

end Refines

end FreshMap
