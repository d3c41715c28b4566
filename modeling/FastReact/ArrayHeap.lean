import Mathlib.Data.List.Basic
import Mathlib.Order.Lattice

/-!
# Binary heaps in a list

A heap keeps its entries in the order of their keys along the edges from an entry to its two
children.  A new entry rises from the end of the list; after the first entry has been
removed, the last one sinks from its place.
-/

namespace ArrayHeap

open List Nat Option

variable {α κ : Type} [LinearOrder κ] (key : α → κ)

/-- Let the node at an index rise above the parents with larger keys. -/
def siftUp : Nat → List α → α → Nat → List α
  | 0, heap, _, _ => heap
  | rounds + 1, heap, node, index =>
      if 0 < index then
        let parentIndex := (index - 1) / 2
        match heap[parentIndex]? with
        | none => heap
        | some parent =>
            if key node < key parent then
              siftUp rounds ((heap.set parentIndex node).set index parent) node parentIndex
            else
              heap
      else
        heap

def push (heap : List α) (node : α) : List α :=
  siftUp key heap.length (heap ++ [node]) node heap.length

def peek (heap : List α) : Option α :=
  heap[0]?

/-- The child with which a node changes places when it sinks. -/
def childBelow (heap : List α) (last : α) (index : Nat) : Option (Nat × α) :=
  let leftIndex := (index + 1) * 2 - 1
  let rightIndex := leftIndex + 1
  match heap[leftIndex]?, heap[rightIndex]? with
  | none, _ => none
  | some left, none => if key left < key last then some (leftIndex, left) else none
  | some left, some right =>
      if key left < key last then
        if key right < key left then some (rightIndex, right) else some (leftIndex, left)
      else if key right < key last then
        some (rightIndex, right)
      else
        none

/-- Let the node at an index sink below the children with smaller keys. -/
def siftDown : Nat → List α → α → Nat → List α
  | 0, heap, _, _ => heap
  | rounds + 1, heap, last, index =>
      match childBelow key heap last index with
      | none => heap
      | some (childIndex, child) =>
          siftDown rounds ((heap.set index child).set childIndex last) last childIndex

/-- The heap without its first entry.  The entries are distinct objects, so that the last one
is the first one just when there is no other. -/
def pop : List α → List α
  | [] => []
  | [_] => []
  | _ :: second :: rest =>
      let last := (second :: rest).getLast (cons_ne_nil _ _)
      let shorter := last :: (second :: rest).dropLast
      siftDown key shorter.length shorter last 0

section Exchange

variable {heap : List α} {node other : α} {index place : Nat}

section

variable (nodeAt : heap[index]? = some node) (otherAt : heap[place]? = some other)
include nodeAt otherAt

/-- What is found after two entries have changed places. -/
theorem getElem?_exchange (position : Nat) :
    ((heap.set place node).set index other)[position]? =
      if position = index then
        some other
      else if position = place then
        some node
      else
        heap[position]? := by
  obtain ⟨indexInside, -⟩ := List.getElem?_eq_some_iff.mp nodeAt
  obtain ⟨placeInside, -⟩ := List.getElem?_eq_some_iff.mp otherAt
  by_cases atIndex : position = index
  · rw [if_pos atIndex, atIndex, getElem?_set_self (by simpa using indexInside)]
  · rw [if_neg atIndex, getElem?_set_ne (Ne.symm atIndex)]
    by_cases atPlace : position = place
    · rw [if_pos atPlace, atPlace, getElem?_set_self placeInside]
    · rw [if_neg atPlace, getElem?_set_ne (Ne.symm atPlace)]

theorem perm_exchange : ((heap.set place node).set index other).Perm heap := by
  obtain ⟨indexInside, rfl⟩ := List.getElem?_eq_some_iff.mp nodeAt
  obtain ⟨placeInside, rfl⟩ := List.getElem?_eq_some_iff.mp otherAt
  exact set_set_perm placeInside indexInside

end

end Exchange

/-- The first of two entries does not come after the second one. -/
def InOrder (heap : List α) (first second : Nat) : Prop :=
  ∀ node other, heap[first]? = some node → heap[second]? = some other → key node ≤ key other

/-- Every entry comes after its parent. -/
def Ordered (heap : List α) : Prop :=
  ∀ index, 0 < index → InOrder key heap ((index - 1) / 2) index

/-- Every entry but one comes after its parent, and its children come after its parent. -/
structure Rises (heap : List α) (index : Nat) : Prop where
  others : ∀ child, 0 < child → child ≠ index → InOrder key heap ((child - 1) / 2) child
  around : ∀ child, 0 < index → 0 < child → (child - 1) / 2 = index →
    InOrder key heap ((index - 1) / 2) child

/-- Every entry but the children of one comes after its parent, and they come after the
parent of that one. -/
structure Sinks (heap : List α) (index : Nat) : Prop where
  others : ∀ child, 0 < child → (child - 1) / 2 ≠ index →
    InOrder key heap ((child - 1) / 2) child
  around : ∀ child, 0 < index → 0 < child → (child - 1) / 2 = index →
    InOrder key heap ((index - 1) / 2) child

variable {key} {heap : List α}

theorem Ordered.first_le {first node : α} {index : Nat} (ordered : Ordered key heap)
    (isFirst : heap[0]? = some first) (found : heap[index]? = some node) :
    key first ≤ key node := by
  induction index using Nat.strongRecOn generalizing node with
  | ind index ih =>
    rcases Nat.eq_zero_or_pos index with rfl | positive
    · rw [isFirst, some.injEq] at found
      rw [found]
    · obtain ⟨inside, -⟩ := List.getElem?_eq_some_iff.mp found
      have parentInside : (index - 1) / 2 < heap.length := by omega
      have parentFound := getElem?_eq_getElem parentInside
      exact le_trans (ih _ (by omega) parentFound) (ordered index positive _ node parentFound found)

/-- The first entry of a heap comes before all others. -/
theorem Ordered.peek_le {first node : α} (ordered : Ordered key heap)
    (isFirst : peek heap = some first) (member : node ∈ heap) : key first ≤ key node := by
  obtain ⟨index, inside, rfl⟩ := getElem_of_mem member
  exact ordered.first_le isFirst (getElem?_eq_getElem inside)

section

variable {index : Nat} (rises : Rises key heap index)
include rises

/-- A node that need not rise any further leaves a heap. -/
theorem Rises.ordered
    (stays : 0 < index → InOrder key heap ((index - 1) / 2) index) : Ordered key heap := by
  intro child positive
  by_cases same : child = index
  · rw [same] at positive ⊢
    exact stays positive
  · exact rises.others child positive same

/-- A node that changes places with its parent rises from there. -/
theorem Rises.exchange {node parent : α} (positive : 0 < index) (nodeAt : heap[index]? = some node)
    (parentAt : heap[(index - 1) / 2]? = some parent) (smaller : key node < key parent) :
    Rises key ((heap.set ((index - 1) / 2) node).set index parent) ((index - 1) / 2) := by
  have lookup := getElem?_exchange nodeAt parentAt
  have below : (index - 1) / 2 < index := by omega
  have siblings : ∀ child other, 0 < child → child ≠ index →
      (child - 1) / 2 = (index - 1) / 2 → heap[child]? = some other →
      key parent ≤ key other := by
    intro child other childPositive notNode sameParent found
    refine rises.others child childPositive notNode parent other ?_ found
    rw [sameParent, parentAt]
  constructor
  · intro child childPositive notParent first second firstAt secondAt
    rw [lookup] at firstAt secondAt
    by_cases isNode : child = index
    · rw [if_pos isNode, some.injEq] at secondAt
      rw [isNode, if_neg (Nat.ne_of_lt below), if_pos rfl, some.injEq] at firstAt
      rw [← firstAt, ← secondAt]
      exact le_of_lt smaller
    · rw [if_neg isNode, if_neg notParent] at secondAt
      by_cases underNode : (child - 1) / 2 = index
      · rw [if_pos underNode, some.injEq] at firstAt
        rw [← firstAt]
        exact rises.around child positive childPositive underNode _ _ parentAt secondAt
      · rw [if_neg underNode] at firstAt
        by_cases underParent : (child - 1) / 2 = (index - 1) / 2
        · rw [if_pos underParent, some.injEq] at firstAt
          rw [← firstAt]
          exact le_trans (le_of_lt smaller)
            (siblings child second childPositive isNode underParent secondAt)
        · rw [if_neg underParent] at firstAt
          exact rises.others child childPositive isNode first second firstAt secondAt
  · intro child parentPositive childPositive underParent first second firstAt secondAt
    rw [lookup] at firstAt secondAt
    have aboveNode : ((index - 1) / 2 - 1) / 2 ≠ index := by omega
    have aboveParent : ((index - 1) / 2 - 1) / 2 ≠ (index - 1) / 2 := by omega
    rw [if_neg aboveNode, if_neg aboveParent] at firstAt
    have grandparent : key first ≤ key parent :=
      rises.others _ parentPositive (Nat.ne_of_lt below) first parent firstAt parentAt
    by_cases isNode : child = index
    · rw [if_pos isNode, some.injEq] at secondAt
      rw [← secondAt]
      exact grandparent
    · have notParent : child ≠ (index - 1) / 2 := by omega
      rw [if_neg isNode, if_neg notParent] at secondAt
      exact le_trans grandparent (siblings child second childPositive isNode underParent secondAt)

/-- Rising ends in a heap of the same entries. -/
theorem siftUp_of_rises {rounds : Nat} {node : α}
    (nodeAt : heap[index]? = some node) (enough : index ≤ rounds) :
    Ordered key (siftUp key rounds heap node index) ∧
      (siftUp key rounds heap node index).Perm heap := by
  induction rounds generalizing heap index with
  | zero =>
    obtain rfl := le_zero.mp enough
    exact ⟨rises.ordered fun positive => absurd positive (lt_irrefl 0), .refl _⟩
  | succ rounds ih =>
    unfold siftUp
    by_cases positive : 0 < index
    · obtain ⟨inside, -⟩ := List.getElem?_eq_some_iff.mp nodeAt
      have parentInside : (index - 1) / 2 < heap.length := by omega
      have parentAt := getElem?_eq_getElem parentInside
      rw [if_pos positive]
      simp only [parentAt]
      by_cases smaller : key node < key heap[(index - 1) / 2]
      · rw [if_pos smaller]
        have risen := rises.exchange positive nodeAt parentAt smaller
        have nodeRisen := getElem?_exchange nodeAt parentAt ((index - 1) / 2)
        rw [if_neg (by omega), if_pos rfl] at nodeRisen
        obtain ⟨ordered, perm⟩ := ih risen nodeRisen (by omega)
        exact ⟨ordered, perm.trans (perm_exchange nodeAt parentAt)⟩
      · rw [if_neg smaller]
        refine ⟨rises.ordered ?_, .refl _⟩
        intro _ first second firstAt secondAt
        rw [parentAt, some.injEq] at firstAt
        rw [nodeAt, some.injEq] at secondAt
        rw [← firstAt, ← secondAt]
        exact le_of_not_gt smaller
    · rw [if_neg positive]
      exact ⟨rises.ordered fun isPositive => absurd isPositive positive, .refl _⟩

end

theorem push_perm_ordered (ordered : Ordered key heap) (node : α) :
    Ordered key (push key heap node) ∧ (push key heap node).Perm (node :: heap) := by
  have rises : Rises key (heap ++ [node]) heap.length := by
    constructor
    · intro child positive notLast first second firstAt secondAt
      obtain ⟨inside, -⟩ := List.getElem?_eq_some_iff.mp secondAt
      have childInside : child < heap.length := by
        rw [length_append, length_singleton] at inside
        omega
      rw [getElem?_append_left childInside] at secondAt
      rw [getElem?_append_left (by omega)] at firstAt
      exact ordered child positive first second firstAt secondAt
    · intro child _ positive underLast first second firstAt secondAt
      obtain ⟨inside, -⟩ := List.getElem?_eq_some_iff.mp secondAt
      rw [length_append, length_singleton] at inside
      omega
  have risen := siftUp_of_rises rises getElem?_concat_length (le_refl _)
  exact ⟨risen.1, risen.2.trans (perm_append_singleton node heap)⟩

/-- The children of an index stand side by side. -/
theorem child_eq {child index : Nat} (positive : 0 < child) (under : (child - 1) / 2 = index) :
    child = (index + 1) * 2 - 1 ∨ child = (index + 1) * 2 - 1 + 1 := by
  omega

theorem le_children {bound : κ} {left other : α} {index position : Nat}
    (leftAt : heap[(index + 1) * 2 - 1]? = some left) (belowLeft : bound ≤ key left)
    (belowRight : ∀ right, heap[(index + 1) * 2 - 1 + 1]? = some right → bound ≤ key right)
    (positive : 0 < position) (under : (position - 1) / 2 = index)
    (found : heap[position]? = some other) : bound ≤ key other := by
  rcases child_eq positive under with rfl | rfl
  · rw [leftAt, some.injEq] at found
    rwa [← found]
  · exact belowRight other found

theorem childBelow_eq_some {last child : α} {index childIndex : Nat}
    (chosen : childBelow key heap last index = some (childIndex, child)) :
    heap[childIndex]? = some child ∧
      0 < childIndex ∧
      (childIndex - 1) / 2 = index ∧
      key child < key last ∧
      ∀ position other, 0 < position → (position - 1) / 2 = index →
        heap[position]? = some other → key child ≤ key other := by
  simp only [childBelow] at chosen
  cases leftAt : heap[(index + 1) * 2 - 1]? with
  | none =>
    rw [leftAt] at chosen
    cases chosen
  | some left =>
    cases rightAt : heap[(index + 1) * 2 - 1 + 1]? with
    | none =>
      simp only [leftAt, rightAt] at chosen
      by_cases smaller : key left < key last
      · rw [if_pos smaller] at chosen
        cases chosen
        refine ⟨leftAt, by omega, by omega, smaller, fun _ _ => ?_⟩
        exact le_children leftAt (le_refl _) (by simp [rightAt])
      · rw [if_neg smaller] at chosen
        cases chosen
    | some right =>
      simp only [leftAt, rightAt] at chosen
      by_cases smaller : key left < key last
      · rw [if_pos smaller] at chosen
        by_cases rightSmaller : key right < key left
        · rw [if_pos rightSmaller] at chosen
          cases chosen
          refine ⟨rightAt, by omega, by omega, lt_trans rightSmaller smaller, fun _ _ => ?_⟩
          exact le_children leftAt (le_of_lt rightSmaller) (by simp [rightAt])
        · rw [if_neg rightSmaller] at chosen
          cases chosen
          refine ⟨leftAt, by omega, by omega, smaller, fun _ _ => ?_⟩
          exact le_children leftAt (le_refl _) (by simpa [rightAt] using rightSmaller)
      · rw [if_neg smaller] at chosen
        by_cases rightSmaller : key right < key last
        · have belowLeft : key right ≤ key left :=
            le_of_lt (lt_of_lt_of_le rightSmaller (le_of_not_gt smaller))
          rw [if_pos rightSmaller] at chosen
          cases chosen
          refine ⟨rightAt, by omega, by omega, rightSmaller, fun _ _ => ?_⟩
          exact le_children leftAt belowLeft (by simp [rightAt])
        · rw [if_neg rightSmaller] at chosen
          cases chosen

/-- A node stays when no child comes before it. -/
theorem childBelow_eq_none {last other : α} {index position : Nat}
    (chosen : childBelow key heap last index = none) (positive : 0 < position)
    (under : (position - 1) / 2 = index) (found : heap[position]? = some other) :
    key last ≤ key other := by
  obtain ⟨inside, -⟩ := List.getElem?_eq_some_iff.mp found
  have leftAt : heap[(index + 1) * 2 - 1]? = some heap[(index + 1) * 2 - 1] :=
    getElem?_eq_getElem (by omega)
  simp only [childBelow, leftAt] at chosen
  cases rightAt : heap[(index + 1) * 2 - 1 + 1]? with
  | none =>
    simp only [rightAt] at chosen
    by_cases leftSmaller : key heap[(index + 1) * 2 - 1] < key last
    · rw [if_pos leftSmaller] at chosen
      cases chosen
    · exact le_children leftAt (le_of_not_gt leftSmaller) (by simp [rightAt]) positive under found
  | some right =>
    simp only [rightAt] at chosen
    by_cases leftSmaller : key heap[(index + 1) * 2 - 1] < key last
    · rw [if_pos leftSmaller] at chosen
      split at chosen <;> cases chosen
    · rw [if_neg leftSmaller] at chosen
      by_cases rightSmaller : key right < key last
      · rw [if_pos rightSmaller] at chosen
        cases chosen
      · exact le_children leftAt (le_of_not_gt leftSmaller)
          (by simpa [rightAt] using rightSmaller) positive under found

section

variable {index : Nat} {last : α} (sinks : Sinks key heap index) (lastAt : heap[index]? = some last)
include sinks lastAt

/-- A node that changes places with its least child sinks from there. -/
theorem Sinks.exchange {childIndex : Nat} {child : α}
    (chosen : childBelow key heap last index = some (childIndex, child)) :
    Sinks key ((heap.set index child).set childIndex last) childIndex := by
  obtain ⟨childAt, childPositive, under, smaller, least⟩ := childBelow_eq_some chosen
  have lookup := getElem?_exchange childAt lastAt
  have deeper : index < childIndex := by omega
  constructor
  · intro position positive notUnder first second firstAt secondAt
    rw [lookup] at firstAt secondAt
    rw [if_neg notUnder] at firstAt
    by_cases underIndex : (position - 1) / 2 = index
    · rw [if_pos underIndex, some.injEq] at firstAt
      rw [← firstAt]
      by_cases isChild : position = childIndex
      · rw [if_pos isChild, some.injEq] at secondAt
        rw [← secondAt]
        exact le_of_lt smaller
      · rw [if_neg isChild, if_neg (by omega)] at secondAt
        exact least position second positive underIndex secondAt
    · rw [if_neg underIndex] at firstAt
      have notChild : position ≠ childIndex := by
        rintro rfl
        exact underIndex under
      rw [if_neg notChild] at secondAt
      by_cases isIndex : position = index
      · rw [if_pos isIndex, some.injEq] at secondAt
        rw [isIndex] at firstAt positive
        rw [← secondAt]
        exact sinks.around childIndex positive childPositive under first child firstAt childAt
      · rw [if_neg isIndex] at secondAt
        exact sinks.others position positive underIndex first second firstAt secondAt
  · intro position _ positive underChild first second firstAt secondAt
    rw [lookup] at firstAt secondAt
    rw [under, if_neg (Nat.ne_of_lt deeper), if_pos rfl, some.injEq] at firstAt
    rw [if_neg (by omega), if_neg (by omega)] at secondAt
    rw [← firstAt]
    refine sinks.others position positive (by omega) child second ?_ secondAt
    rw [underChild, childAt]

/-- Sinking ends in a heap of the same entries. -/
theorem siftDown_of_sinks {rounds : Nat} (enough : heap.length ≤ index + rounds) :
    Ordered key (siftDown key rounds heap last index) ∧
      (siftDown key rounds heap last index).Perm heap := by
  induction rounds generalizing heap index with
  | zero =>
    obtain ⟨inside, -⟩ := List.getElem?_eq_some_iff.mp lastAt
    exact absurd inside (not_lt.mpr enough)
  | succ rounds ih =>
    unfold siftDown
    cases chosen : childBelow key heap last index with
    | none =>
      refine ⟨?_, .refl _⟩
      intro position positive first second firstAt secondAt
      by_cases under : (position - 1) / 2 = index
      · rw [under, lastAt, some.injEq] at firstAt
        rw [← firstAt]
        exact childBelow_eq_none chosen positive under secondAt
      · exact sinks.others position positive under first second firstAt secondAt
    | some place =>
      obtain ⟨childIndex, child⟩ := place
      obtain ⟨childAt, childPositive, under, -, -⟩ := childBelow_eq_some chosen
      have lastSunk := getElem?_exchange childAt lastAt childIndex
      rw [if_pos rfl] at lastSunk
      have shorter : ((heap.set index child).set childIndex last).length ≤
          childIndex + rounds := by
        rw [length_set, length_set]
        omega
      obtain ⟨ordered, perm⟩ := ih (sinks.exchange lastAt chosen) lastSunk shorter
      exact ⟨ordered, perm.trans (perm_exchange childAt lastAt)⟩

end

/-- A pop removes the first entry. -/
theorem pop_perm_ordered {first : α} {rest : List α} (ordered : Ordered key (first :: rest)) :
    Ordered key (pop key (first :: rest)) ∧ (pop key (first :: rest)).Perm rest := by
  cases rest with
  | nil =>
    refine ⟨?_, .refl _⟩
    intro index _ node other nodeAt
    cases nodeAt
  | cons second rest =>
    let last := (second :: rest).getLast (cons_ne_nil _ _)
    have shape : (second :: rest).dropLast ++ [last] = second :: rest := dropLast_concat_getLast _
    have sinks : Sinks key (last :: (second :: rest).dropLast) 0 := by
      constructor
      · intro child positive notUnder node other nodeAt otherAt
        obtain ⟨inside, -⟩ := List.getElem?_eq_some_iff.mp otherAt
        have later : ∀ position, 0 < position → position < (second :: rest).length →
            (last :: (second :: rest).dropLast)[position]? =
              (first :: second :: rest)[position]? := by
          intro position isPositive isInside
          obtain ⟨before, rfl⟩ := Nat.exists_eq_add_of_lt isPositive
          rw [Nat.zero_add, getElem?_cons_succ, getElem?_cons_succ, getElem?_dropLast, if_pos]
          rw [length_cons] at isInside ⊢
          omega
        rw [length_cons, length_dropLast, length_cons] at inside
        rw [later _ (by omega) (by rw [length_cons]; omega)] at nodeAt
        rw [later _ positive (by rw [length_cons]; omega)] at otherAt
        exact ordered child positive node other nodeAt otherAt
      · intro child positive
        exact absurd positive (lt_irrefl 0)
    have enough : (last :: (second :: rest).dropLast).length ≤
        0 + (last :: (second :: rest).dropLast).length :=
      le_add_left _ _
    have sunk := siftDown_of_sinks sinks getElem?_cons_zero enough
    refine ⟨sunk.1, sunk.2.trans ?_⟩
    rw [← shape]
    simpa using (perm_append_singleton last _).symm

/-- A heap is its first entry and what a pop leaves of it. -/
theorem perm_of_peek {first : α} (ordered : Ordered key heap) (isFirst : peek heap = some first) :
    Ordered key (pop key heap) ∧ heap.Perm (first :: pop key heap) := by
  cases heap with
  | nil =>
    cases isFirst
  | cons head rest =>
    obtain rfl := some.inj isFirst
    obtain ⟨stillOrdered, perm⟩ := pop_perm_ordered ordered
    exact ⟨stillOrdered, perm.symm.cons head⟩

theorem peek_eq_none_iff : peek heap = none ↔ heap = [] := by
  cases heap with
  | nil => simp [peek]
  | cons head rest => simp [peek]

theorem mem_of_peek {first : α} (isFirst : peek heap = some first) : first ∈ heap :=
  mem_of_getElem? isFirst

variable (key) in
/-- Let a node rise; there is a result only when the loop ends within the rounds. -/
def siftUpLoop : Nat → List α → α → Nat → Option (List α)
  | 0, _, _, _ => none
  | rounds + 1, heap, node, index =>
      if 0 < index then
        heap[(index - 1) / 2]?.elim (some heap) fun parent =>
          if key node < key parent then
            siftUpLoop rounds ((heap.set ((index - 1) / 2) node).set index parent) node
              ((index - 1) / 2)
          else
            some heap
      else
        some heap

variable (key) in
/-- Let a node sink; there is a result only when the loop ends within the rounds. -/
def siftDownLoop : Nat → List α → α → Nat → Option (List α)
  | 0, _, _, _ => none
  | rounds + 1, heap, last, index =>
      (childBelow key heap last index).elim (some heap) fun place =>
        siftDownLoop rounds ((heap.set index place.2).set place.1 last) last place.1

/-- A node rises to smaller indices only. -/
theorem siftUpLoop_eq {rounds more index : Nat} (node : α) (enough : index ≤ rounds)
    (ends : index < more) :
    siftUpLoop key more heap node index = some (siftUp key rounds heap node index) := by
  induction more generalizing heap index rounds with
  | zero =>
    cases ends
  | succ more ih =>
    by_cases positive : 0 < index
    · obtain ⟨rounds, rfl⟩ : ∃ fewer, rounds = fewer + 1 := ⟨rounds - 1, by omega⟩
      rw [siftUpLoop, siftUp, if_pos positive, if_pos positive]
      cases parentAt : heap[(index - 1) / 2]? with
      | none => simp only [parentAt, elim_none]
      | some parent =>
        simp only [parentAt, elim_some]
        by_cases smaller : key node < key parent
        · rw [if_pos smaller, if_pos smaller]
          exact ih (by omega) (by omega)
        · rw [if_neg smaller, if_neg smaller]
    · rw [siftUpLoop, if_neg positive]
      cases rounds with
      | zero => rfl
      | succ rounds => rw [siftUp, if_neg positive]

/-- A node sinks to larger indices only. -/
theorem siftDownLoop_eq {rounds more index : Nat} {last : α} (lastAt : heap[index]? = some last)
    (enough : heap.length ≤ index + rounds) (ends : heap.length ≤ index + more) :
    siftDownLoop key more heap last index = some (siftDown key rounds heap last index) := by
  obtain ⟨inside, -⟩ := List.getElem?_eq_some_iff.mp lastAt
  induction more generalizing heap index rounds with
  | zero => exact absurd inside (not_lt.mpr ends)
  | succ more ih =>
    obtain ⟨rounds, rfl⟩ : ∃ fewer, rounds = fewer + 1 := ⟨rounds - 1, by omega⟩
    rw [siftDownLoop, siftDown]
    cases chosen : childBelow key heap last index with
    | none => rfl
    | some place =>
      obtain ⟨childAt, childPositive, under, -, -⟩ := childBelow_eq_some chosen
      have lastSunk := getElem?_exchange childAt lastAt place.1
      rw [if_pos rfl] at lastSunk
      obtain ⟨childInside, -⟩ := List.getElem?_eq_some_iff.mp lastSunk
      refine ih lastSunk ?_ ?_ childInside
      · rw [length_set, length_set]
        omega
      · rw [length_set, length_set]
        omega

end ArrayHeap
