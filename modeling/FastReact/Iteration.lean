import Mathlib.Data.List.Basic

/-!
# Iteration

An iterator gives one item after another, until it gives none.  A filtered iterator calls
another one until that gives an item to keep.
-/

namespace Iteration

variable {σ α : Type}

/-- Take all items; there is a result when the calls are enough to find that none is left. -/
def drain (next : σ → Option (α × σ)) : Nat → σ → Option (List α)
  | 0, _ => none
  | calls + 1, state =>
      match next state with
      | none => some []
      | some (item, rest) => (drain next calls rest).map (item :: ·)

def findKept (keep : α → Bool) (next : σ → Option (α × σ)) :
    Nat → σ → Option (Option (α × σ))
  | 0, _ => none
  | rounds + 1, state =>
      match next state with
      | none => some none
      | some (item, rest) =>
          if keep item then some (some (item, rest)) else findKept keep next rounds rest

/-- A filtered iterator that looks for its next item in as many rounds as the state says. -/
def filtered (keep : α → Bool) (next : σ → Option (α × σ)) (rounds : σ → Nat) (state : σ) :
    Option (α × σ) :=
  (findKept keep next (rounds state) state).join

variable {next : σ → Option (α × σ)} {rounds : σ → Nat} {state rest : σ} {item : α} {items : List α}
  {calls : Nat}

theorem drain_of_none (ended : next state = none) : drain next (calls + 1) state = some [] := by
  rw [drain, ended]

theorem drain_of_some (given : next state = some (item, rest)) :
    drain next (calls + 1) state = (drain next calls rest).map (item :: ·) := by
  rw [drain, given]

theorem drain_succ_eq_some_iff :
    drain next (calls + 1) state = some items ↔
      next state = none ∧ items = [] ∨
        ∃ item rest later, next state = some (item, rest) ∧ drain next calls rest = some later ∧
          items = item :: later := by
  cases given : next state with
  | none =>
    rw [drain_of_none given]
    simp [eq_comm]
  | some found =>
    rw [drain_of_some given, Option.map_eq_some_iff]
    constructor
    · rintro ⟨later, drained, rfl⟩
      exact .inr ⟨found.1, found.2, later, rfl, drained, rfl⟩
    · rintro (⟨ended, -⟩ | ⟨item, rest, later, same, drained, rfl⟩)
      · cases ended
      · cases same
        exact ⟨later, drained, rfl⟩

theorem drain_mono {more : Nat} (drained : drain next calls state = some items)
    (enough : calls ≤ more) : drain next more state = some items := by
  induction calls generalizing more state items with
  | zero =>
    cases drained
  | succ calls ih =>
    obtain ⟨more, rfl⟩ := Nat.exists_eq_succ_of_ne_zero (Nat.ne_of_gt (Nat.zero_lt_of_lt enough))
    rw [drain_succ_eq_some_iff] at drained ⊢
    refine drained.imp_right ?_
    rintro ⟨item, rest, later, given, drainedLater, rfl⟩
    exact ⟨item, rest, later, given, ih drainedLater (Nat.le_of_succ_le_succ enough), rfl⟩

/-- Where some calls drain an iterator, a search finds the first item to keep or that there is
none, in more rounds than there are items. -/
theorem findKept_eq (keep : α → Bool) (drained : drain next calls state = some items) {count : Nat}
    (enough : items.length < count) :
    (items.filter keep = [] ∧ findKept keep next count state = some none) ∨
      ∃ item rest behind,
        items.filter keep = item :: behind.filter keep ∧
          findKept keep next count state = some (some (item, rest)) ∧
          ∃ restCalls < calls, drain next restCalls rest = some behind := by
  induction calls generalizing state items count with
  | zero =>
    cases drained
  | succ calls ih =>
    obtain ⟨count, rfl⟩ := Nat.exists_eq_succ_of_ne_zero (Nat.ne_of_gt (Nat.zero_lt_of_lt enough))
    rcases drain_succ_eq_some_iff.mp drained with
      ⟨ended, rfl⟩ | ⟨item, rest, later, given, drainedLater, rfl⟩
    · refine .inl ⟨rfl, ?_⟩
      rw [findKept, ended]
    · rw [findKept, given]
      by_cases isKept : keep item = true
      · refine .inr ⟨item, rest, later, List.filter_cons_of_pos isKept, if_pos isKept, calls,
          Nat.lt_succ_self calls, drainedLater⟩
      · rw [List.filter_cons_of_neg isKept]
        dsimp only
        rw [if_neg isKept]
        rcases ih drainedLater (Nat.lt_of_succ_lt_succ enough) with
          isEmpty | ⟨first, after, behind, kept, found, restCalls, fewer, drainedAfter⟩
        · exact .inl isEmpty
        · exact .inr ⟨first, after, behind, kept, found, restCalls, Nat.lt_succ_of_lt fewer,
            drainedAfter⟩

/-- A filtered iterator gives the items to keep, where it looks for them long enough. -/
theorem drain_filtered (keep : α → Bool)
    (enough : ∀ state calls items, drain next calls state = some items →
      items.length < rounds state)
    (drained : drain next calls state = some items) :
    drain (filtered keep next rounds) calls state = some (items.filter keep) := by
  induction calls generalizing state items with
  | zero =>
    cases drained
  | succ calls ih =>
    rcases findKept_eq keep drained (enough _ _ _ drained) with
      ⟨nothing, found⟩ | ⟨item, rest, behind, kept, found, restCalls, fewer, drainedRest⟩
    · rw [nothing]
      exact drain_of_none (congrArg Option.join found)
    · have drainedBehind := ih (drain_mono drainedRest (Nat.le_of_lt_succ fewer))
      rw [kept, drain_of_some (congrArg Option.join found), drainedBehind]
      rfl

end Iteration
