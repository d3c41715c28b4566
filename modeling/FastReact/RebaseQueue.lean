import Mathlib.Data.List.TakeWhile

/-!
# Rebasing an update queue

A pass over a queue of updates may defer some of them.  From the first deferred
update on, everything is postponed and replayed by a later pass, so that the
updates before it are settled for good.  Replaying the postponed part on top of
the settled part then gives the effect of the whole queue in its order.
-/

namespace RebaseQueue

open List

variable {Update State : Type}

def settled (deferred : Update → Bool) (updates : List Update) : List Update :=
  updates.takeWhile fun update => !deferred update

def postponed (deferred : Update → Bool) (updates : List Update) : List Update :=
  updates.dropWhile fun update => !deferred update

variable {deferred : Update → Bool}

theorem settled_append_postponed (deferred : Update → Bool) (updates : List Update) :
    settled deferred updates ++ postponed deferred updates = updates :=
  takeWhile_append_dropWhile

variable {updates : List Update}

/-- Nothing is postponed exactly when nothing is deferred. -/
theorem postponed_eq_nil_iff :
    postponed deferred updates = [] ↔ ∀ update ∈ updates, deferred update = false := by
  simp [postponed, dropWhile_eq_nil_iff]

/-- A queue with nothing postponed is settled as a whole. -/
theorem settled_eq_self (nothing : postponed deferred updates = []) :
    settled deferred updates = updates := by
  have parts := settled_append_postponed deferred updates
  rwa [nothing, append_nil] at parts

theorem deferred_of_postponed_cons {updates rest : List Update} {update : Update}
    (shape : postponed deferred updates = update :: rest) : deferred update = true := by
  induction updates with
  | nil => simp [postponed] at shape
  | cons head others ih =>
    cases headDeferred : deferred head with
    | true =>
      have headShape : head :: others = update :: rest := by
        simpa [postponed, headDeferred] using shape
      rw [← (List.cons.inj headShape).1]
      exact headDeferred
    | false =>
      apply ih
      simpa [postponed, headDeferred] using shape

theorem not_deferred_of_mem_settled {update : Update}
    (member : update ∈ settled deferred updates) : deferred update = false := by
  have kept := mem_takeWhile_imp member
  simpa using kept

variable {first : List Update}

/-- A queue settles further while nothing is postponed. -/
theorem settled_append_of_eq_nil (nothing : postponed deferred first = []) (second : List Update) :
    settled deferred (first ++ second) = first ++ settled deferred second := by
  refine takeWhile_append_of_pos ?_
  intro update member
  simp [postponed_eq_nil_iff.mp nothing update member]

/-- A queue with something postponed settles no further. -/
theorem settled_append_of_ne_nil (something : postponed deferred first ≠ [])
    (second : List Update) : settled deferred (first ++ second) = settled deferred first := by
  have shorter : (settled deferred first).length ≠ first.length := by
    intro sameLength
    have parts := congrArg List.length (settled_append_postponed deferred first)
    rw [length_append] at parts
    exact something (eq_nil_of_length_eq_zero (by omega))
  unfold settled at shorter ⊢
  rw [takeWhile_append, if_neg shorter]

theorem postponed_append_of_eq_nil (nothing : postponed deferred first = [])
    (second : List Update) : postponed deferred (first ++ second) = postponed deferred second := by
  unfold postponed at nothing ⊢
  rw [dropWhile_append, nothing]
  rfl

theorem postponed_append_of_ne_nil (something : postponed deferred first ≠ [])
    (second : List Update) :
    postponed deferred (first ++ second) = postponed deferred first ++ second := by
  unfold postponed at something ⊢
  rw [dropWhile_append, if_neg (by simpa using something)]

section

variable {Source : Type} (deferred : Update → Bool) (change : Source → Update)
  (sources : List Source)

theorem postponed_map :
    postponed deferred (sources.map change) =
      (postponed (fun source => deferred (change source)) sources).map change := by
  unfold postponed
  rw [dropWhile_map]
  rfl

theorem settled_map :
    settled deferred (sources.map change) =
      (settled (fun source => deferred (change source)) sources).map change := by
  unfold settled
  rw [takeWhile_map]
  rfl

end

/-- Replaying the postponed updates, possibly as copies with the same effect, on
top of the settled ones has the effect of the whole queue. -/
theorem foldl_replay {apply : State → Update → State} {copy : Update → Update}
    (sameEffect : ∀ state update, apply state (copy update) = apply state update) (base : State)
    (updates : List Update) :
    ((postponed deferred updates).map copy).foldl apply
        ((settled deferred updates).foldl apply base) =
      updates.foldl apply base := by
  have copiesAgree : ∀ (replayed : List Update) (state : State),
      (replayed.map copy).foldl apply state = replayed.foldl apply state := by
    intro replayed
    induction replayed with
    | nil =>
      intro state
      rfl
    | cons head rest ih =>
      intro state
      simp only [map_cons, foldl_cons, sameEffect, ih]
  rw [copiesAgree, ← foldl_append, settled_append_postponed]

end RebaseQueue
