import FastReact.SchedulerQueues
import Mathlib.Data.List.Induction
import Mathlib.Data.List.Perm.Subperm

namespace FastReact

open ArrayHeap List SchedulerTask

/-!
# The heaps of the mock scheduler

Tasks are pushed to an array and popped from it in the order of their sort index and, among
equal ones, of their identity.
-/

namespace MockHeap

abbrev Task := SchedulerTask Int

def compare (a b : Task) : Int :=
  let diff := a.sortIndex - b.sortIndex
  if diff ≠ 0 then diff else (a.id : Int) - b.id

def push (heap : List Task) (node : Task) : List Task :=
  ArrayHeap.push SchedulerTask.key heap node

/-- What `pop` returns and what it leaves. -/
def pop (heap : List Task) : Option Task × List Task :=
  (ArrayHeap.peek heap, ArrayHeap.pop SchedulerTask.key heap)

/-- `push`, when its loop ends within some rounds. -/
def pushWithin (rounds : Nat) (heap : List Task) (node : Task) : Option (List Task) :=
  ArrayHeap.siftUpLoop SchedulerTask.key rounds (heap ++ [node]) node heap.length

/-- `pop`, when its loop ends within some rounds. -/
def popWithin (rounds : Nat) : List Task → Option (Option Task × List Task)
  | [] => some (none, [])
  | [first] => some (some first, [])
  | first :: second :: rest =>
      let last := (second :: rest).getLast (cons_ne_nil _ _)
      (ArrayHeap.siftDownLoop SchedulerTask.key rounds (last :: (second :: rest).dropLast) last
        0).map fun heap => (some first, heap)

inductive Call where
  | push (task : Task)
  | pop

def Call.perform (heap : List Task) : Call → List Task
  | .push task => MockHeap.push heap task
  | .pop => (MockHeap.pop heap).2

def Call.pushed : Call → Option Task
  | .push task => some task
  | .pop => none

def after (calls : List Call) : List Task :=
  calls.foldl Call.perform []

def PushesNew : List Task → List Call → Prop
  | _, [] => True
  | heap, call :: later =>
      (∀ task ∈ call.pushed, task.id ∉ heap.map SchedulerTask.id) ∧
        PushesNew (call.perform heap) later

theorem compare_neg_iff (a b : Task) : compare a b < 0 ↔ a.key < b.key := by
  unfold compare key
  rw [Prod.Lex.toLex_lt_toLex]
  dsimp only
  split_ifs <;> omega

theorem ordered_nil : ArrayHeap.Ordered key ([] : List Task) := by
  intro index _ node other nodeAt
  cases nodeAt

variable {heap : List Task}

theorem Call.perform_spec (ordered : ArrayHeap.Ordered key heap) (call : Call) :
    ArrayHeap.Ordered key (call.perform heap) ∧
      (call.perform heap).Subperm (heap ++ call.pushed.toList) := by
  cases call with
  | push task =>
    obtain ⟨stillOrdered, added⟩ := push_perm_ordered ordered task
    exact ⟨stillOrdered, (added.trans (perm_append_singleton task heap).symm).subperm⟩
  | pop =>
    cases heap with
    | nil => exact ⟨ordered, .refl _⟩
    | cons first rest =>
      obtain ⟨stillOrdered, removed⟩ := pop_perm_ordered ordered
      refine ⟨stillOrdered, removed.subperm.trans ?_⟩
      exact ((sublist_cons_self first rest).trans (sublist_append_left _ _)).subperm

theorem Call.nodup_perform {call : Call} (ordered : ArrayHeap.Ordered key heap)
    (distinct : (heap.map SchedulerTask.id).Nodup)
    (isNew : ∀ task ∈ call.pushed, task.id ∉ heap.map SchedulerTask.id) :
    ((call.perform heap).map SchedulerTask.id).Nodup := by
  obtain ⟨entries, same, sub⟩ := (call.perform_spec ordered).2
  refine ((same.map SchedulerTask.id).nodup_iff).mp (List.Nodup.sublist (sub.map _) ?_)
  cases call with
  | push task =>
    rw [Call.pushed, Option.toList_some, map_append, map_singleton]
    exact (nodup_append_comm.mp (nodup_cons.mpr ⟨isNew task rfl, distinct⟩))
  | pop =>
    rw [Call.pushed, Option.toList_none, append_nil]
    exact distinct

theorem PushesNew.spec {calls : List Call} (pushesNew : PushesNew heap calls)
    (ordered : ArrayHeap.Ordered key heap) (distinct : (heap.map SchedulerTask.id).Nodup) :
    ArrayHeap.Ordered key (calls.foldl Call.perform heap) ∧
      ((calls.foldl Call.perform heap).map SchedulerTask.id).Nodup := by
  induction calls generalizing heap with
  | nil => exact ⟨ordered, distinct⟩
  | cons call later ih =>
    obtain ⟨isNew, laterNew⟩ := pushesNew
    exact ih laterNew (call.perform_spec ordered).1 (Call.nodup_perform ordered distinct isNew)

theorem compare_neg_of_le {a b : Task} (inOrder : a.key ≤ b.key) (different : a.id ≠ b.id) :
    compare a b < 0 := by
  rw [compare_neg_iff]
  refine lt_of_le_of_ne inOrder fun same => different ?_
  exact (Prod.mk.inj same).2

theorem pushWithin_eq {rounds : Nat} (enough : heap.length < rounds) (task : Task) :
    pushWithin rounds heap task = some (push heap task) :=
  siftUpLoop_eq task (Nat.le_refl heap.length) enough

theorem popWithin_eq {rounds : Nat} (enough : heap.length < rounds) :
    popWithin rounds heap = some (pop heap) := by
  cases heap with
  | nil => rfl
  | cons first rest =>
    cases rest with
    | nil => rfl
    | cons second rest =>
      have shorter : ∀ last : Task,
          (last :: (second :: rest).dropLast).length = rest.length + 1 := by
        intro last
        rw [length_cons, length_dropLast, length_cons, Nat.add_sub_cancel]
      rw [length_cons, length_cons] at enough
      unfold popWithin
      dsimp only
      rw [siftDownLoop_eq getElem?_cons_zero (Nat.le_add_left _ _) (by rw [shorter]; omega)]
      rfl

end MockHeap

open MockHeap in
/-- After calls that push only identities the heap does not hold every task comes before its children;
a push adds its task; a pop takes the least task, or nothing when there is none; and their loops
end. -/
theorem mock_heap_of_calls
    (calls : List Call)
    (pushesNew : PushesNew [] calls) :
    (∀ index parent child, 0 < index →
      (after calls)[(index - 1) / 2]? = some parent → (after calls)[index]? = some child →
        compare parent child < 0) ∧
      (∀ task, (push (after calls) task).Perm (task :: after calls)) ∧
      ((pop (after calls)).1 = none ↔ after calls = []) ∧
      (∀ first, (pop (after calls)).1 = some first →
        (first :: (pop (after calls)).2).Perm (after calls) ∧
          ∀ other ∈ (pop (after calls)).2, compare first other < 0) ∧
      ∀ rounds, (after calls).length < rounds →
        (∀ task, pushWithin rounds (after calls) task = some (push (after calls) task)) ∧
          popWithin rounds (after calls) = some (pop (after calls)) := by
  obtain ⟨ordered, distinctIds⟩ :
      ArrayHeap.Ordered key (after calls) ∧
        ((after calls).map SchedulerTask.id).Nodup :=
    pushesNew.spec ordered_nil nodup_nil
  have different : ∀ (first second : Nat) (node other : Task), first ≠ second →
      (after calls)[first]? = some node → (after calls)[second]? = some other →
        node.id ≠ other.id := by
    intro first second node other notSame nodeAt otherAt sameId
    apply notSame
    have firstId : ((after calls).map SchedulerTask.id)[first]? = some node.id := by
      rw [List.getElem?_map, nodeAt, Option.map_some]
    have secondId : ((after calls).map SchedulerTask.id)[second]? = some node.id := by
      rw [List.getElem?_map, otherAt, Option.map_some, sameId]
    exact (List.getElem?_inj (List.getElem?_eq_some_iff.mp firstId).1 distinctIds).mp
      (firstId.trans secondId.symm)
  refine ⟨?_, ?_, peek_eq_none_iff, ?_, ?_⟩
  · intro index parent child positive parentAt childAt
    exact compare_neg_of_le (ordered index positive parent child parentAt childAt)
      (different _ _ parent child (by omega) parentAt childAt)
  · exact fun task => (push_perm_ordered ordered task).2
  · intro first isFirst
    have perm := (perm_of_peek ordered isFirst).2
    refine ⟨perm.symm, fun other isOther => ?_⟩
    have member : other ∈ after calls := perm.mem_iff.mpr (mem_cons_of_mem first isOther)
    refine compare_neg_of_le (ordered.peek_le isFirst member) ?_
    have ids := (perm.map SchedulerTask.id).nodup_iff.mp distinctIds
    rw [map_cons, nodup_cons] at ids
    intro same
    exact ids.1 (same ▸ mem_map_of_mem isOther)
  · exact fun rounds enough => ⟨pushWithin_eq enough, popWithin_eq enough⟩

open MockHeap in
/-- Three pushes and a pop. -/
theorem mock_heap_of_calls_sample :
    ((pop (after [.push ⟨1, .normal, 0, 5000, 5000⟩, .push ⟨2, .immediate, 0, -1, -1⟩,
      .push ⟨3, .low, 0, 5000, 5000⟩, .pop])).1.map SchedulerTask.id = some 1) ∧
      ∀ first,
        (pop (after [.push ⟨1, .normal, 0, 5000, 5000⟩, .push ⟨2, .immediate, 0, -1, -1⟩,
          .push ⟨3, .low, 0, 5000, 5000⟩, .pop])).1 = some first →
        ∀ other ∈ (pop (after [.push ⟨1, .normal, 0, 5000, 5000⟩,
          .push ⟨2, .immediate, 0, -1, -1⟩, .push ⟨3, .low, 0, 5000, 5000⟩, .pop])).2,
          compare first other < 0 :=
  ⟨by decide, fun first isFirst =>
    ((mock_heap_of_calls [.push ⟨1, .normal, 0, 5000, 5000⟩, .push ⟨2, .immediate, 0, -1, -1⟩,
      .push ⟨3, .low, 0, 5000, 5000⟩, .pop]
      ⟨by decide, by decide, by decide, by decide, trivial⟩).2.2.2.1 first isFirst).2⟩

end FastReact
