import Mathlib.Data.List.Nodup

/-!
# Placing children

A list of distinct children is brought into a wanted order by moving some of them.  Each
moved child is put before the next wanted one that stays, or to the end when none behind
it stays.  One pass over the wanted order is enough, whatever else is in the list.
-/

namespace ChildPlacement

open List

variable {ν : Type} [DecidableEq ν]

/-- Put a child to the end, from wherever it is. -/
def append (child : ν) (children : List ν) : List ν :=
  children.erase child ++ [child]

/-- Put a child before a reference, from wherever it is; the reference has to be there. -/
def insertBefore (child reference : ν) (children : List ν) : Option (List ν) :=
  let others := children.erase child
  if reference ∈ others then
    some (others.takeWhile (· ≠ reference) ++ child :: others.dropWhile (· ≠ reference))
  else
    none

/-- Put a child before the first one behind it that stays. -/
def place (stays : ν → Bool) (child : ν) (behind children : List ν) : Option (List ν) :=
  match behind.find? stays with
  | some reference => insertBefore child reference children
  | none => some (append child children)

/-- Go through the wanted children and place those that do not stay. -/
def placeAll (stays : ν → Bool) : List ν → List ν → Option (List ν)
  | [], children => some children
  | child :: behind, children =>
      if stays child then
        placeAll stays behind children
      else
        (place stays child behind children).bind (placeAll stays behind)

section Moves

variable {child reference : ν} {children before behind : List ν}

/-- Where the reference is, the child goes. -/
theorem insertBefore_eq (split : children.erase child = before ++ reference :: behind)
    (first : reference ∉ before) :
    insertBefore child reference children = some (before ++ child :: reference :: behind) := by
  have isThere : reference ∈ children.erase child := by simp [split]
  have taken : (before ++ reference :: behind).takeWhile (· ≠ reference) = before := by
    rw [takeWhile_append_of_pos]
    · simp
    · intro other member
      simpa using fun same : other = reference => first (same ▸ member)
  have dropped : (before ++ reference :: behind).dropWhile (· ≠ reference) =
      reference :: behind := by
    rw [dropWhile_append_of_pos]
    · simp
    · intro other member
      simpa using fun same : other = reference => first (same ▸ member)
  rw [insertBefore, if_pos isThere, split, taken, dropped]

/-- A list without duplicates is split in one way at a member. -/
theorem split_unique {before' behind' : List ν} (distinct : (before ++ child :: behind).Nodup)
    (same : before ++ child :: behind = before' ++ child :: behind') :
    before = before' ∧ behind = behind' := by
  have absent : child ∉ before := by
    intro member
    exact (nodup_append.mp distinct).2.2 _ member _ (by simp) rfl
  have absent' : child ∉ before' := by
    intro member
    rw [same] at distinct
    exact (nodup_append.mp distinct).2.2 _ member _ (by simp) rfl
  have lengths : before.length = before'.length := by
    have position := congrArg (List.idxOf child) same
    rwa [idxOf_append_of_notMem absent, idxOf_append_of_notMem absent',
      idxOf_cons_self, idxOf_cons_self, Nat.add_zero, Nat.add_zero] at position
  obtain ⟨sameBefore, sameRest⟩ := append_inj same lengths
  exact ⟨sameBefore, (List.cons.inj sameRest).2⟩

end Moves

section Passes

variable {stays : ν → Bool} {child : ν} {done behind wanted children : List ν}

/-- What is settled once some wanted children are placed: these and the ones that stay. -/
def Settled (stays : ν → Bool) (done behind : List ν) (node : ν) : Prop :=
  node ∈ done ∨ node ∈ behind ∧ stays node

instance : DecidablePred (Settled stays done behind) :=
  fun _ => inferInstanceAs (Decidable (_ ∨ _))

structure InOrder (stays : ν → Bool) (done behind others children : List ν) : Prop where
  distinct : children.Nodup
  settled : children.filter (Settled stays done behind) = done ++ behind.filter stays
  others : children.filter (· ∉ done ++ behind) = others

/-- The other children are in order without the child that moves. -/
theorem InOrder.erase {others : List ν} (wantedDistinct : (done ++ child :: behind).Nodup)
    (moves : stays child = false) (inOrder : InOrder stays done (child :: behind) others children) :
    InOrder stays done (child :: behind) others (children.erase child) := by
  have notDone : child ∉ done := fun member =>
    (nodup_append.mp wantedDistinct).2.2 _ member _ (by simp) rfl
  have notSettled : ¬ Settled stays done (child :: behind) child := by
    rintro (isDone | ⟨-, stay⟩)
    · exact notDone isDone
    · rw [moves] at stay
      cases stay
  have unfiltered : ∀ keep : ν → Bool, keep child = false →
      (children.erase child).filter keep = children.filter keep := by
    intro keep dropped
    rw [inOrder.distinct.erase_eq_filter, filter_filter]
    apply filter_congr
    intro node _
    by_cases same : node = child
    · simp [same, dropped]
    · simp [same]
  refine ⟨inOrder.distinct.erase child, ?_, ?_⟩
  · rw [unfiltered _ (decide_eq_false notSettled), inOrder.settled]
  · rw [unfiltered _ (by simp), inOrder.others]

/-- A child that is put between what is done and what stays behind it is settled. -/
theorem inOrder_between {others before after : List ν} (moves : stays child = false)
    (inOrder : InOrder stays done (child :: behind) others (before ++ after))
    (absent : child ∉ before ++ after)
    (settledBefore : before.filter (Settled stays done (child :: behind)) = done) :
    InOrder stays (done ++ [child]) behind others (before ++ child :: after) := by
  have settledAfter : after.filter (Settled stays done (child :: behind)) = behind.filter stays := by
    have settled := inOrder.settled
    rw [filter_append, settledBefore, filter_cons, moves] at settled
    exact append_cancel_left settled
  have sameSettled : ∀ nodes : List ν, child ∉ nodes →
      nodes.filter (Settled stays (done ++ [child]) behind) =
        nodes.filter (Settled stays done (child :: behind)) := by
    intro nodes notThere
    apply filter_congr
    intro node member
    have different : node ≠ child := fun same => notThere (same ▸ member)
    simp [Settled, different]
  have settledChild : Settled stays (done ++ [child]) behind child := .inl (by simp)
  rw [mem_append, not_or] at absent
  refine ⟨?_, ?_, ?_⟩
  · refine nodup_middle.mpr (nodup_cons.mpr ⟨?_, inOrder.distinct⟩)
    rw [mem_append, not_or]
    exact absent
  · rw [filter_append, filter_cons, if_pos (decide_eq_true settledChild),
      sameSettled before absent.1, sameSettled after absent.2, settledBefore, settledAfter,
      append_assoc, singleton_append]
  · have sameWanted : done ++ [child] ++ behind = done ++ child :: behind := by simp
    rw [sameWanted, filter_append, filter_cons, if_neg (by simp), ← filter_append, inOrder.others]

theorem place_inOrder {others : List ν} (wantedDistinct : (done ++ child :: behind).Nodup)
    (moves : stays child = false) (inOrder : InOrder stays done (child :: behind) others children) :
    ∃ placed,
      place stays child behind children = some placed ∧
      InOrder stays (done ++ [child]) behind others placed := by
  have inOrderRest := inOrder.erase wantedDistinct moves
  have absent : child ∉ children.erase child := inOrder.distinct.not_mem_erase
  have settledRest : (children.erase child).filter (Settled stays done (child :: behind)) =
      done ++ behind.filter stays := by
    rw [inOrderRest.settled, filter_cons, moves]
    rfl
  cases found : behind.find? stays with
  | none =>
    have noneStays : behind.filter stays = [] := by
      rw [filter_eq_nil_iff]
      exact find?_eq_none.mp found
    refine ⟨append child children, by rw [place, found], ?_⟩
    apply inOrder_between moves
    · rw [append_nil]
      exact inOrderRest
    · rw [append_nil]
      exact absent
    · rw [settledRest, noneStays, append_nil]
  | some reference =>
    obtain ⟨more, shape⟩ : ∃ more, behind.filter stays = reference :: more := by
      rw [← head?_filter] at found
      exact ⟨_, (cons_head?_tail (Option.mem_def.mpr found)).symm⟩
    have isThere : reference ∈ children.erase child := by
      have settled : reference ∈ (children.erase child).filter
          (Settled stays done (child :: behind)) := by
        simp [settledRest, shape]
      exact mem_of_mem_filter settled
    obtain ⟨before, after, split⟩ := mem_iff_append.mp isThere
    have first : reference ∉ before := by
      have distinct := inOrderRest.distinct
      rw [split] at distinct
      exact fun member => (nodup_append.mp distinct).2.2 _ member _ (by simp) rfl
    refine ⟨_, by rw [place, found]; exact insertBefore_eq split first, ?_⟩
    apply inOrder_between moves
    · rw [← split]
      exact inOrderRest
    · rw [← split]
      exact absent
    · have settledReference : Settled stays done (child :: behind) reference := by
        have stay := find?_some found
        exact .inr ⟨mem_cons_of_mem _ (mem_of_find?_eq_some found), stay⟩
      have splitSettled := settledRest
      rw [split, shape, filter_append, filter_cons,
        if_pos (decide_eq_true settledReference)] at splitSettled
      have distinct : (before.filter (Settled stays done (child :: behind)) ++
          reference :: after.filter (Settled stays done (child :: behind))).Nodup := by
        have all := inOrderRest.distinct.filter (Settled stays done (child :: behind))
        rw [split, filter_append, filter_cons, if_pos (decide_eq_true settledReference)] at all
        exact all
      exact (split_unique distinct splitSettled).1

/-- One pass over the wanted children brings them into order. -/
theorem placeAll_inOrder {others : List ν} (wantedDistinct : (done ++ behind).Nodup)
    (inOrder : InOrder stays done behind others children) :
    ∃ placed,
      placeAll stays behind children = some placed ∧
      InOrder stays (done ++ behind) [] others placed := by
  induction behind generalizing done children with
  | nil =>
    refine ⟨children, rfl, ?_⟩
    rwa [append_nil]
  | cons child behind ih =>
    have sameWanted : done ++ child :: behind = done ++ [child] ++ behind := by simp
    rw [sameWanted] at wantedDistinct ⊢
    by_cases stay : stays child
    · rw [placeAll, if_pos stay]
      apply ih wantedDistinct
      refine ⟨inOrder.distinct, ?_, ?_⟩
      · have sameSettled : ∀ node,
            Settled stays (done ++ [child]) behind node ↔ Settled stays done (child :: behind) node := by
          intro node
          by_cases same : node = child
          · simp [Settled, same, stay]
          · simp [Settled, same]
        simp only [sameSettled, inOrder.settled, filter_cons, if_pos stay, append_assoc,
          singleton_append]
      · rw [← sameWanted]
        exact inOrder.others
    · rw [placeAll, if_neg stay]
      obtain ⟨placed, isPlaced, inOrderPlaced⟩ :=
        place_inOrder (sameWanted ▸ wantedDistinct) (Bool.eq_false_iff.mpr stay) inOrder
      rw [isPlaced]
      exact ih wantedDistinct inOrderPlaced

/-- When the children that stay are in the wanted order among themselves, one pass brings
all wanted children into order and leaves the others where they are among themselves. -/
theorem placeAll_eq (wantedDistinct : wanted.Nodup) (distinct : children.Nodup)
    (staying : (children.filter (· ∈ wanted)).filter stays = wanted.filter stays) :
    ∃ placed,
      placeAll stays wanted children = some placed ∧
      placed.Nodup ∧
      placed.filter (· ∈ wanted) = wanted ∧
      placed.filter (· ∉ wanted) = children.filter (· ∉ wanted) := by
  have inOrder : InOrder stays [] wanted (children.filter (· ∉ wanted)) children := by
    refine ⟨distinct, ?_, rfl⟩
    rw [nil_append, ← staying, filter_filter]
    apply filter_congr
    intro node _
    simp [Settled, and_comm]
  have wantedDistinct' : ([] ++ wanted).Nodup := wantedDistinct
  obtain ⟨placed, isPlaced, placedInOrder⟩ := placeAll_inOrder wantedDistinct' inOrder
  refine ⟨placed, isPlaced, placedInOrder.distinct, ?_, ?_⟩
  · simpa [Settled] using placedInOrder.settled
  · simpa using placedInOrder.others

end Passes

section Frame

variable {child other first second reference : ν} {children after : List ν}

/-- A child is taken from where it is and put somewhere. -/
def Moves (child : ν) (children after : List ν) : Prop :=
  ∃ before behind, children.erase child = before ++ behind ∧ after = before ++ child :: behind

theorem moves_append : Moves child children (append child children) :=
  ⟨children.erase child, [], (append_nil _).symm, rfl⟩

theorem moves_insertBefore (inserted : insertBefore child reference children = some after) :
    Moves child children after := by
  unfold insertBefore at inserted
  dsimp only at inserted
  split at inserted
  · cases inserted
    exact ⟨_, _, (takeWhile_append_dropWhile).symm, rfl⟩
  · cases inserted

/-- A move neither adds nor removes other children. -/
theorem Moves.mem_iff (moves : Moves child children after) (different : other ≠ child) :
    other ∈ after ↔ other ∈ children := by
  obtain ⟨before, behind, split, rfl⟩ := moves
  have kept : other ∈ children.erase child ↔ other ∈ children := mem_erase_of_ne different
  rw [← kept, split]
  simp [different]

/-- A move leaves the order of two other children alone. -/
theorem Moves.sublist (moves : Moves child children after) (firstDifferent : first ≠ child)
    (secondDifferent : second ≠ child) (ordered : [first, second].Sublist children) :
    [first, second].Sublist after := by
  obtain ⟨before, behind, split, rfl⟩ := moves
  have kept := ordered.erase child
  rw [erase_of_not_mem (by simp [firstDifferent.symm, secondDifferent.symm]), split] at kept
  exact kept.trans ((sublist_cons_self child behind).append_left before)

/-- What is appended comes behind everything else. -/
theorem sublist_append (member : other ∈ children) (different : other ≠ child) :
    [other, child].Sublist (append child children) := by
  have isThere := (mem_erase_of_ne different).mpr member
  exact (singleton_sublist.mpr isThere).append (.refl [child])

end Frame

section Steps

variable {Item : Type} {step : Item → List Item → List ν → Option (List ν)}
  {items before rest : List Item} {first second : ν} {children after : List ν}

/-- Go through the items with a step that sees what is behind an item. -/
def runSteps (step : Item → List Item → List ν → Option (List ν)) :
    List Item → List ν → Option (List ν)
  | [], children => some children
  | item :: behind, children => (step item behind children).bind (runSteps step behind)

omit [DecidableEq ν] in
/-- A run goes through the items before a point and then through the rest. -/
theorem runSteps_append :
    runSteps step (before ++ rest) children =
      (runSteps (fun item behind => step item (behind ++ rest)) before children).bind
        (runSteps step rest) := by
  induction before generalizing children with
  | nil => rfl
  | cons item behind ih =>
    rw [cons_append, runSteps, runSteps, Option.bind_assoc]
    congr 1
    funext between
    exact ih

theorem runSteps_eq_placeAll {node : Item → ν} {stays : ν → Bool}
    (each : ∀ before item behind, items = before ++ item :: behind → ∀ children,
      step item behind children =
        if stays (node item) then some children
        else place stays (node item) (behind.map node) children)
    (children : List ν) :
    runSteps step items children = placeAll stays (items.map node) children := by
  induction items generalizing children with
  | nil => rfl
  | cons item behind ih =>
    have ofBehind := ih fun before other rest shape =>
      each (item :: before) other rest (congrArg (item :: ·) shape)
    rw [runSteps, each [] item behind rfl children, map_cons, placeAll]
    by_cases stay : stays (node item) = true
    · rw [if_pos stay, if_pos stay]
      exact ofBehind children
    · rw [if_neg stay, if_neg stay]
      congr 1
      funext between
      exact ofBehind between

/-- Steps that move other children leave two children and their order alone. -/
theorem runSteps_frame
    (steps : ∀ item ∈ items, ∀ behind nodes moved, step item behind nodes = some moved →
      moved = nodes ∨ ∃ child, Moves child nodes moved ∧ first ≠ child ∧ second ≠ child)
    (ran : runSteps step items children = some after) :
    (first ∈ after ↔ first ∈ children) ∧
      ([first, second].Sublist children → [first, second].Sublist after) := by
  induction items generalizing children with
  | nil =>
    cases ran
    exact ⟨Iff.rfl, id⟩
  | cons item behind ih =>
    obtain ⟨between, stepped, ranBehind⟩ := Option.bind_eq_some_iff.mp ran
    obtain ⟨sameMember, sameOrder⟩ := ih
      (fun other member => steps other (mem_cons_of_mem item member)) ranBehind
    rcases steps item mem_cons_self behind children between stepped with
      rfl | ⟨child, moves, firstOther, secondOther⟩
    · exact ⟨sameMember, sameOrder⟩
    · refine ⟨sameMember.trans (moves.mem_iff firstOther), fun ordered => ?_⟩
      exact sameOrder (moves.sublist firstOther secondOther ordered)

end Steps

omit [DecidableEq ν] in
/-- Two members of a list without duplicates are in one order. -/
theorem not_sublist_of_behind {child other : ν} {before behind : List ν}
    (distinct : (before ++ child :: behind).Nodup) (member : other ∈ behind) :
    ¬ [other, child].Sublist (before ++ child :: behind) := by
  induction before with
  | nil =>
    obtain ⟨notBehind, -⟩ := nodup_cons.mp distinct
    intro ordered
    cases ordered with
    | cons _ inBehind => exact notBehind (inBehind.subset (by simp))
    | cons_cons _ _ => exact notBehind member
  | cons first before ih =>
    obtain ⟨notInRest, distinctRest⟩ := nodup_cons.mp distinct
    intro ordered
    cases ordered with
    | cons _ inRest => exact ih distinctRest inRest
    | cons_cons _ _ => exact notInRest (mem_append_right before (mem_cons_of_mem child member))

section Selected

variable {Item : Type} {items : List Item} {item : Item} {node : Item → ν} {selects : Item → Bool}

omit [DecidableEq ν] in
/-- Where the items have their own nodes, the nodes of the selected ones tell which these are. -/
theorem mem_selected_iff (distinct : (items.map node).Nodup) (member : item ∈ items) :
    node item ∈ (items.filter selects).map node ↔ selects item = true := by
  rw [mem_map]
  constructor
  · rintro ⟨other, isSelected, sameNode⟩
    obtain ⟨isOther, isSelected⟩ := mem_filter.mp isSelected
    rwa [← inj_on_of_nodup_map distinct isOther member sameNode]
  · intro isSelected
    exact ⟨item, mem_filter.mpr ⟨member, isSelected⟩, rfl⟩

theorem filter_selected (distinct : (items.map node).Nodup) :
    (items.map node).filter (· ∈ (items.filter selects).map node) =
      (items.filter selects).map node := by
  rw [filter_map]
  congr 1
  apply filter_congr
  intro item member
  rw [Bool.eq_iff_iff, Function.comp_apply, decide_eq_true_iff]
  exact mem_selected_iff distinct member

end Selected

end ChildPlacement
