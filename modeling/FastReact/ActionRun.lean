import Mathlib.Data.List.Basic

/-!
# Runs of a transition function

A run takes actions one after another.  A condition on states and actions limits
the runs to those whose actions are all permitted where they are taken.
-/

inductive ActionRun {State Action : Type} (permits : State → Action → Prop)
    (step : State → Action → State) (initial : State) :
    List Action → State → Prop where
  | start :
      ActionRun permits step initial [] initial
  | next {actions : List Action} {state : State} {action : Action}
      (earlier : ActionRun permits step initial actions state)
      (permitted : permits state action) :
      ActionRun permits step initial (actions ++ [action]) (step state action)

/-- Every action of a list is permitted in the state the ones before it lead to. -/
def Permitted {State Action : Type} (permits : State → Action → Prop)
    (step : State → Action → State) :
    State → List Action → Prop
  | _, [] => True
  | state, action :: later =>
      permits state action ∧ Permitted permits step (step state action) later

theorem Permitted.of_append {State Action : Type} {permits : State → Action → Prop}
    {step : State → Action → State} {initial : State} {taken later : List Action}
    (permitted : Permitted permits step initial (taken ++ later)) :
    Permitted permits step initial taken := by
  induction taken generalizing initial with
  | nil => trivial
  | cons action rest ih => exact ⟨permitted.1, ih permitted.2⟩

/-- Where a step keeps a property exactly when it is permitted, every state on the way
has the property exactly when every action is permitted.  What the steps always keep
may be used for it. -/
theorem Permitted.iff_everywhere {State Action : Type} {permits : State → Action → Prop}
    {step : State → Action → State} {property kept : State → Prop} {initial : State}
    {actions : List Action} (initially : property initial) (keptInitially : kept initial)
    (keptByStep : ∀ state action, kept state → kept (step state action))
    (exact : ∀ state action, kept state → property state →
      (property (step state action) ↔ permits state action)) :
    (∀ taken, taken <+: actions → property (taken.foldl step initial)) ↔
      Permitted permits step initial actions := by
  induction actions generalizing initial with
  | nil =>
    constructor
    · exact fun _ => trivial
    · intro _ taken isPrefix
      rw [List.prefix_nil.mp isPrefix]
      exact initially
  | cons action later ih =>
    constructor
    · intro everywhere
      have stepped : property (step initial action) := everywhere [action] (by simp)
      refine ⟨(exact initial action keptInitially initially).mp stepped, ?_⟩
      apply (ih stepped (keptByStep _ _ keptInitially)).mp
      intro taken isPrefix
      exact everywhere (action :: taken) (by simpa using isPrefix)
    · rintro ⟨permitted, permittedLater⟩ taken isPrefix
      have stepped := (exact initial action keptInitially initially).mpr permitted
      cases taken with
      | nil => exact initially
      | cons head rest =>
        obtain ⟨rfl, restPrefix⟩ := List.cons_prefix_cons.mp isPrefix
        exact (ih stepped (keptByStep _ _ keptInitially)).mpr permittedLater rest restPrefix

namespace ActionRun

variable {State Action : Type} {permits : State → Action → Prop} {step : State → Action → State}
  {initial final : State} {actions : List Action}

/-- What holds at first and survives every permitted action holds throughout. -/
theorem invariant {property : State → Prop} (run : ActionRun permits step initial actions final)
    (initially : property initial)
    (preserved : ∀ state action,
      property state → permits state action → property (step state action)) : property final := by
  induction run with
  | start => exact initially
  | next earlier permitted ih => exact preserved _ _ ih permitted

/-- A run leads where its actions lead. -/
theorem final_eq (run : ActionRun permits step initial actions final) :
    final = actions.foldl step initial := by
  induction run with
  | start => rfl
  | next earlier permitted ih =>
    rw [List.foldl_append, ← ih]
    rfl

theorem append {later : List Action} (run : ActionRun permits step initial actions final)
    (permitted : Permitted permits step final later) :
    ActionRun permits step initial (actions ++ later) (later.foldl step final) := by
  induction later generalizing actions final with
  | nil => simpa using run
  | cons action later ih =>
    have extended := ih (run.next permitted.1) permitted.2
    rwa [List.append_assoc] at extended

/-- A list of actions is a run when each is permitted where it is taken. -/
theorem of_permitted (permitted : Permitted permits step initial actions) :
    ActionRun permits step initial actions (actions.foldl step initial) :=
  append .start permitted

end ActionRun
