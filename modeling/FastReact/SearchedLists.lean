import Mathlib.Data.List.Defs
import Mathlib.Data.List.Basic
import Mathlib.Data.List.Forall2

/-!
# Lists that are searched and numbered

The first item of a key stands for all later ones of that key; it is changed in place, and
added when it is missing.  Items that are picked from a list keep their numbers exactly when
the list has nothing before them that is not picked.
-/

namespace SearchedLists

open List

variable {α β κ : Type}

/-- Change the first item that is asked for, which is added when there is none. -/
def changeFirst (isAskedFor : α → Bool) (fresh : α) (change : α → α) (items : List α) : List α :=
  match items.findIdx? isAskedFor with
  | some index => items.modify index change
  | none => items ++ [change fresh]

section Keys

variable [DecidableEq κ] {key : α → κ} {asked : κ} {fresh : α} {change : α → α}

theorem changeFirst_cons (isAskedFor : α → Bool) (head : α) (rest : List α) :
    changeFirst isAskedFor fresh change (head :: rest) =
      if isAskedFor head then change head :: rest
      else head :: changeFirst isAskedFor fresh change rest := by
  unfold changeFirst
  rw [findIdx?_cons]
  by_cases isFirst : isAskedFor head = true
  · simp [isFirst]
  · simp only [isFirst, Bool.false_eq_true, if_false]
    cases rest.findIdx? isAskedFor <;> simp

theorem find?_changeFirst (isFresh : key fresh = asked)
    (keepsKey : ∀ item, key item = asked → key (change item) = asked) (items : List α) (other : κ) :
    (changeFirst (fun item => decide (key item = asked)) fresh change items).find?
        (fun item => decide (key item = other)) =
      if other = asked then
        some (change ((items.find? fun item => decide (key item = asked)).getD fresh))
      else
        items.find? fun item => decide (key item = other) := by
  induction items with
  | nil =>
    have isChanged := keepsKey fresh isFresh
    by_cases isAsked : other = asked
    · simp [changeFirst, isChanged, isAsked]
    · have isOther : asked ≠ other := fun same => isAsked same.symm
      simp [changeFirst, isChanged, isAsked, isOther]
  | cons head rest ih =>
    rw [changeFirst_cons]
    by_cases isFirst : key head = asked
    · have isChanged := keepsKey head isFirst
      by_cases isAsked : other = asked
      · simp [isFirst, isChanged, isAsked]
      · have isOther : asked ≠ other := fun same => isAsked same.symm
        simp [isFirst, isChanged, isAsked, isOther]
    · simp only [isFirst, decide_false, Bool.false_eq_true, if_false, find?_cons]
      by_cases isHead : key head = other
      · have notAsked : other ≠ asked := fun same => isFirst (isHead.trans same)
        simp [isHead, notAsked]
      · simp only [isHead, decide_false]
        exact ih

end Keys

/-- Nothing that is not picked stands before something that is. -/
def PickedFirst (picked : α → Bool) (items : List α) : Prop :=
  items.Pairwise fun earlier later => picked later = true → picked earlier = true

variable {items : List α} {numbered : Nat → α → β} {otherPicked : β → Bool} {picked : α → Bool}
  {others : List β}

/-- Numbering the picked items again leaves their numbers exactly when they come first. -/
theorem mapIdx_filter_eq_map_iff (picked : α → Bool) {number : α → Nat}
    (injective : ∀ first second item, numbered first item = numbered second item → first = second)
    (items : List α) (start : Nat) (numbers : items.map number = List.range' start items.length) :
    (items.filter picked).mapIdx (fun index item => numbered (start + index) item) =
        (items.filter picked).map (fun item => numbered (number item) item) ↔
      PickedFirst picked items := by
  induction items generalizing start with
  | nil => simp [PickedFirst]
  | cons head rest ih =>
    rw [map_cons, length_cons, range'_succ, List.cons.injEq] at numbers
    obtain ⟨headNumber, restNumbers⟩ := numbers
    have restKept := ih (start + 1) restNumbers
    unfold PickedFirst at restKept ⊢
    rw [pairwise_cons, ← restKept, filter_cons]
    by_cases isPicked : picked head = true
    · rw [if_pos isPicked, mapIdx_cons, map_cons, List.cons.injEq, Nat.add_zero, headNumber]
      simp only [true_and, isPicked, implies_true, Nat.add_assoc, Nat.add_comm 1]
    · rw [if_neg isPicked]
      constructor
      · intro same
        -- The first picked item has a number behind that of the head.
        have nothingPicked : rest.filter picked = [] := by
          cases shape : rest.filter picked with
          | nil => rfl
          | cons first others =>
            rw [shape, mapIdx_cons, map_cons, List.cons.injEq] at same
            have firstNumber := injective _ _ _ same.1
            have member : first ∈ rest := (mem_filter.mp (shape ▸ mem_cons_self)).1
            have above : number first ∈ List.range' (start + 1) rest.length :=
              restNumbers ▸ mem_map_of_mem member
            rw [mem_range'_1] at above
            omega
        refine ⟨?_, by simp [nothingPicked]⟩
        intro later member laterPicked
        have kept : later ∈ rest.filter picked := mem_filter.mpr ⟨member, laterPicked⟩
        rw [nothingPicked] at kept
        cases kept
      · rintro ⟨nothingPicked, -⟩
        have empty : rest.filter picked = [] := by
          rw [filter_eq_nil_iff]
          exact fun later member laterPicked => isPicked (nothingPicked later member laterPicked)
        simp [empty]

/-- Whether the picked items come first depends on where they stand only. -/
theorem pickedFirst_congr
    (same : List.Forall₂ (fun item other => picked item = otherPicked other) items others) :
    PickedFirst picked items ↔ PickedFirst otherPicked others := by
  have sameMarks : items.map picked = others.map otherPicked := by
    induction same with
    | nil => rfl
    | cons sameHead _ ih => rw [map_cons, map_cons, sameHead, ih]
  unfold PickedFirst
  rw [← pairwise_map (R := fun earlier later => later = true → earlier = true), sameMarks,
    pairwise_map]

/-- Picking and numbering items that stand for each other comes to the same. -/
theorem mapIdx_filter_congr {γ : Type} (numbered : Nat → α → γ) (otherNumbered : Nat → β → γ)
    (same : List.Forall₂ (fun item other => picked item = otherPicked other ∧
      ∀ index, numbered index item = otherNumbered index other) items others) :
    (items.filter picked).mapIdx numbered = (others.filter otherPicked).mapIdx otherNumbered := by
  induction items generalizing others numbered otherNumbered with
  | nil =>
    cases same
    rfl
  | cons head rest ih =>
    obtain ⟨other, otherRest, ⟨sameMark, sameNumbered⟩, sameRest, rfl⟩ :=
      forall₂_cons_left_iff.mp same
    rw [filter_cons, filter_cons, sameMark]
    by_cases isPicked : otherPicked other = true
    · rw [if_pos isPicked, if_pos isPicked, mapIdx_cons, mapIdx_cons, sameNumbered]
      congr 1
      exact ih _ _ (sameRest.imp fun _ _ agree =>
        ⟨agree.1, fun index => agree.2 (index + 1)⟩)
    · rw [if_neg isPicked, if_neg isPicked]
      exact ih _ _ sameRest

/-- Numbered items stand for the items. -/
theorem forall₂_mapIdx {related : α → β → Prop} (numbered : Nat → α → β)
    (holds : ∀ item ∈ items, ∀ index, related item (numbered index item)) :
    List.Forall₂ related items (items.mapIdx numbered) := by
  induction items generalizing numbered with
  | nil => exact .nil
  | cons head rest ih =>
    rw [mapIdx_cons]
    exact .cons (holds head mem_cons_self 0) (ih _ fun item member index =>
      holds item (mem_cons_of_mem head member) (index + 1))

/-- The numbers of numbered items. -/
theorem map_mapIdx_eq_range {number : β → Nat}
    (isNumber : ∀ index item, number (numbered index item) = index) (items : List α) :
    (items.mapIdx numbered).map number = List.range items.length := by
  rw [mapIdx_eq_zipIdx_map, map_map, range_eq_range']
  rw [← zipIdx_map_snd 0 items]
  exact map_congr_left fun item _ => isNumber item.2 item.1

end SearchedLists
