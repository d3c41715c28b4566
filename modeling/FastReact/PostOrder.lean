import Mathlib.Data.List.Induction
import Mathlib.Data.List.Nodup
import Mathlib.Data.List.Perm.Subperm

/-!
# Visiting in post-order

Every item has a list of children.  A place below an item is the list of the positions to
go through, so that an item that is reached twice has two places.  The post-order visits
the children of an item one after another and then the item; down to a given depth it
visits every place once, and a place after the places below it.
-/

namespace PostOrder

open List

variable {ι : Type} (children : ι → List ι)

/-- The item at a place below another. -/
def at? : ι → List Nat → Option ι
  | item, [] => some item
  | item, index :: rest => (children item)[index]?.bind fun child => at? child rest

/-- The places of the post-order below an item. -/
def places : Nat → ι → List (List Nat)
  | 0, _ => []
  | depth + 1, item =>
      ((children item).zipIdx.flatMap fun entry =>
        (places depth entry.1).map fun place => entry.2 :: place) ++ [[]]

def postOrder : Nat → ι → List ι
  | 0, _ => []
  | depth + 1, item => (children item).flatMap (postOrder depth) ++ [item]

/-- An item is reached from another. -/
def Below (root item : ι) : Prop :=
  ∃ place, at? children root place = some item

/-- No place is as deep as the given depth. -/
def ShallowerThan (depth : Nat) (root : ι) : Prop :=
  ∀ place item, at? children root place = some item → place.length < depth

variable {children}
variable {root item child : ι} {place below : List Nat} {depth index : Nat}

@[simp] theorem at?_nil : at? children item [] = some item :=
  rfl

theorem at?_cons :
    at? children item (index :: place) =
      (children item)[index]?.bind fun child => at? children child place :=
  rfl

theorem at?_append :
    at? children item (place ++ below) =
      (at? children item place).bind fun inner => at? children inner below := by
  induction place generalizing item with
  | nil => rfl
  | cons index rest ih =>
    rw [cons_append, at?_cons, at?_cons, Option.bind_assoc]
    congr 1
    funext child
    exact ih

/-- The last step of a place leads from an item to one of its children. -/
theorem at?_concat_eq_some_iff :
    at? children root (place ++ [index]) = some child ↔
      ∃ parent, at? children root place = some parent ∧ (children parent)[index]? = some child := by
  rw [at?_append, Option.bind_eq_some_iff]
  constructor
  · rintro ⟨parent, isParent, isChild⟩
    rw [at?_cons, Option.bind_eq_some_iff] at isChild
    obtain ⟨other, found, same⟩ := isChild
    cases same
    exact ⟨parent, isParent, found⟩
  · rintro ⟨parent, isParent, found⟩
    refine ⟨parent, isParent, ?_⟩
    rw [at?_cons, found]
    rfl

theorem Below.refl (root : ι) : Below children root root :=
  ⟨[], rfl⟩

theorem Below.step {parent : ι} (isBelow : Below children root parent)
    (isChild : child ∈ children parent) : Below children root child := by
  obtain ⟨place, reached⟩ := isBelow
  obtain ⟨index, found⟩ := mem_iff_getElem?.mp isChild
  exact ⟨place ++ [index], at?_concat_eq_some_iff.mpr ⟨parent, reached, found⟩⟩

theorem Below.trans {between : ι} (isBelow : Below children root between)
    (isInner : Below children between item) : Below children root item := by
  obtain ⟨place, reached⟩ := isBelow
  obtain ⟨inner, reachedItem⟩ := isInner
  refine ⟨place ++ inner, ?_⟩
  rw [at?_append, reached]
  exact reachedItem

theorem below_iff :
    Below children root item ↔ item = root ∨ ∃ child ∈ children root, Below children child item := by
  constructor
  · rintro ⟨place, reached⟩
    cases place with
    | nil =>
      cases reached
      exact .inl rfl
    | cons index rest =>
      obtain ⟨child, found, inner⟩ := Option.bind_eq_some_iff.mp reached
      exact .inr ⟨child, mem_of_getElem? found, rest, inner⟩
  · rintro (rfl | ⟨child, isChild, place, reached⟩)
    · exact Below.refl item
    · obtain ⟨index, found⟩ := mem_iff_getElem?.mp isChild
      refine ⟨index :: place, ?_⟩
      rw [at?_cons, found]
      exact reached

theorem below_iff_last :
    Below children root item ↔
      item = root ∨ ∃ parent, Below children root parent ∧ item ∈ children parent := by
  constructor
  · rintro ⟨place, reached⟩
    induction place using reverseRecOn with
    | nil =>
      cases reached
      exact .inl rfl
    | append_singleton place index _ =>
      obtain ⟨parent, isParent, found⟩ := at?_concat_eq_some_iff.mp reached
      exact .inr ⟨parent, ⟨place, isParent⟩, mem_of_getElem? found⟩
  · rintro (rfl | ⟨parent, isBelow, isChild⟩)
    · exact Below.refl item
    · exact isBelow.step isChild

/-- What holds of the root and is passed on to children holds of all that is below the root. -/
theorem Below.of_step {property : ι → Prop} (isBelow : Below children root item)
    (start : property root)
    (step : ∀ parent child, Below children root parent → child ∈ children parent →
      property parent → property child) : property item := by
  obtain ⟨place, reached⟩ := isBelow
  induction place using reverseRecOn generalizing item with
  | nil =>
    cases reached
    exact start
  | append_singleton place index ih =>
    obtain ⟨parent, isParent, found⟩ := at?_concat_eq_some_iff.mp reached
    exact step parent item ⟨place, isParent⟩ (mem_of_getElem? found) (ih isParent)

theorem mem_children_places_iff :
    (index :: place) ∈ ((children item).zipIdx.flatMap fun entry =>
        (places children depth entry.1).map fun place => entry.2 :: place) ↔
      ∃ child, (children item)[index]? = some child ∧ place ∈ places children depth child := by
  rw [mem_flatMap]
  constructor
  · rintro ⟨⟨child, position⟩, member, inBlock⟩
    obtain ⟨inner, isInner, same⟩ := mem_map.mp inBlock
    cases same
    exact ⟨child, mem_zipIdx_iff_getElem?.mp member, isInner⟩
  · rintro ⟨child, found, inner⟩
    exact ⟨(child, index), mem_zipIdx_iff_getElem?.mpr found, mem_map.mpr ⟨place, inner, rfl⟩⟩

theorem nil_notMem_children_places :
    [] ∉ ((children item).zipIdx.flatMap fun entry =>
      (places children depth entry.1).map fun place => entry.2 :: place) := by
  intro member
  obtain ⟨entry, -, inBlock⟩ := mem_flatMap.mp member
  obtain ⟨inner, -, impossible⟩ := mem_map.mp inBlock
  cases impossible

theorem mem_places_iff :
    place ∈ places children depth item ↔
      (∃ reached, at? children item place = some reached) ∧ place.length < depth := by
  induction depth generalizing item place with
  | zero => simp [places]
  | succ depth ih =>
    rw [places, mem_append, mem_singleton]
    cases place with
    | nil => simp
    | cons index rest =>
      rw [mem_children_places_iff, at?_cons, length_cons]
      constructor
      · rintro (⟨child, found, inner⟩ | impossible)
        · obtain ⟨⟨reached, isReached⟩, short⟩ := ih.mp inner
          rw [found]
          exact ⟨⟨reached, isReached⟩, by omega⟩
        · cases impossible
      · rintro ⟨⟨reached, isReached⟩, short⟩
        obtain ⟨child, found, inner⟩ := Option.bind_eq_some_iff.mp isReached
        exact .inl ⟨child, found, ih.mpr ⟨⟨reached, inner⟩, by omega⟩⟩

theorem nodup_places : (places children depth item).Nodup := by
  induction depth generalizing item with
  | zero => exact nodup_nil
  | succ depth ih =>
    rw [places]
    refine nodup_append.mpr ⟨?_, nodup_singleton _, ?_⟩
    · rw [nodup_flatMap]
      constructor
      · rintro entry -
        refine ih.map ?_
        intro first second same
        cases same
        rfl
      · -- The places below different children start with different positions.
        have positions : (children item).zipIdx.Pairwise fun first second =>
            first.2 ≠ second.2 := by
          have nodup : ((children item).zipIdx.map Prod.snd).Nodup := by
            rw [zipIdx_map_snd]
            exact nodup_range'
          exact pairwise_map.mp nodup
        refine positions.imp ?_
        intro first second different
        apply disjoint_left.mpr
        intro place inFirst inSecond
        obtain ⟨_, _, rfl⟩ := mem_map.mp inFirst
        obtain ⟨_, _, same⟩ := mem_map.mp inSecond
        exact different (cons.inj same).1.symm
    · intro place member other isNil same
      rw [mem_singleton] at isNil
      rw [same, isNil] at member
      exact nil_notMem_children_places member

theorem below_before_place (isBelow : below ≠ [])
    (visited : place ++ below ∈ places children depth item) :
    [place ++ below, place].Sublist (places children depth item) := by
  induction place generalizing item depth with
  | nil =>
    cases depth with
    | zero =>
      cases visited
    | succ depth =>
      rw [places] at visited ⊢
      rcases mem_append.mp visited with inChildren | isNil
      · exact (singleton_sublist.mpr inChildren).append (List.Sublist.refl _)
      · exact absurd (mem_singleton.mp isNil) isBelow
  | cons index rest ih =>
    cases depth with
    | zero =>
      cases visited
    | succ depth =>
      rw [places] at visited ⊢
      rcases mem_append.mp visited with inChildren | isNil
      · obtain ⟨child, found, inner⟩ := mem_children_places_iff.mp inChildren
        have ordered := (ih inner).map fun place => index :: place
        have isBlock : ((places children depth child).map fun place => index :: place).Sublist
            ((children item).zipIdx.flatMap fun entry =>
              (places children depth entry.1).map fun place => entry.2 :: place) :=
          sublist_flatten_of_mem (mem_map.mpr
            ⟨(child, index), mem_zipIdx_iff_getElem?.mpr found, rfl⟩)
        exact (ordered.trans isBlock).trans (sublist_append_left _ _)
      · cases mem_singleton.mp isNil

/-- The items of the post-order are those at its places. -/
theorem map_at?_places :
    (places children depth item).map (at? children item) =
      (postOrder children depth item).map some := by
  induction depth generalizing item with
  | zero => rfl
  | succ depth ih =>
    rw [places, postOrder, map_append, map_append]
    congr 1
    have block : ∀ entry ∈ (children item).zipIdx,
        (((places children depth entry.1).map fun place => entry.2 :: place).map
          (at? children item)) = (postOrder children depth entry.1).map some := by
      intro entry member
      have found := mem_zipIdx_iff_getElem?.mp member
      rw [map_map, ← ih]
      refine map_congr_left ?_
      intro place inner
      rw [Function.comp_apply, at?_cons, found]
      rfl
    rw [map_flatMap, map_flatMap, flatMap_congr block]
    conv => rhs; rw [← zipIdx_map_fst 0 (children item)]
    rw [flatMap_map]

/-- A listing of the wanted items below a root: each has its own place, every place of a
wanted item is among these, and what is below a place comes before it. -/
structure Lists (children : ι → List ι) (wanted : ι → Bool) (root : ι) (listed : List ι)
    (places : List (List Nat)) : Prop where
  items : places.map (at? children root) = listed.map some
  nodup : places.Nodup
  mem_iff : ∀ place,
    place ∈ places ↔ ∃ item, at? children root place = some item ∧ wanted item = true
  belowFirst : ∀ place below, below ≠ [] → place ∈ places → place ++ below ∈ places →
    [place ++ below, place].Sublist places

theorem lists_postOrder (shallow : ShallowerThan children depth root) (wanted : ι → Bool) :
    Lists children wanted root ((postOrder children depth root).filter wanted)
      ((places children depth root).filter fun place => (at? children root place).any wanted) where
  items := by
    have mapped : (places children depth root).map (at? children root) =
        (postOrder children depth root).map some :=
      map_at?_places
    have filtered := congrArg (filter (Option.any wanted)) mapped
    rw [filter_map, filter_map] at filtered
    exact filtered
  nodup := nodup_places.filter _
  mem_iff := by
    intro place
    rw [mem_filter, mem_places_iff, Option.any_eq_true]
    constructor
    · rintro ⟨-, item, reached, isWanted⟩
      exact ⟨item, reached, isWanted⟩
    · rintro ⟨item, reached, isWanted⟩
      exact ⟨⟨⟨item, reached⟩, shallow place item reached⟩, item, reached, isWanted⟩
  belowFirst := by
    intro place below isBelow member belowMember
    have ordered := (below_before_place isBelow (mem_filter.mp belowMember).1).filter
      fun place => (at? children root place).any wanted
    have isWanted := (mem_filter.mp member).2
    have belowWanted := (mem_filter.mp belowMember).2
    simp only [filter_cons, isWanted, belowWanted, if_true, filter_nil] at ordered
    exact ordered

namespace Lists

variable {wanted : ι → Bool} {listed : List ι} {placed : List (List Nat)}

section

variable (lists : Lists children wanted root listed placed)
include lists

theorem mem_listed_iff : item ∈ listed ↔ Below children root item ∧ wanted item = true := by
  have asPlace : item ∈ listed ↔ ∃ place ∈ placed, at? children root place = some item := by
    rw [← mem_map, lists.items, mem_map]
    simp
  rw [asPlace]
  constructor
  · rintro ⟨place, member, reached⟩
    obtain ⟨other, isOther, isWanted⟩ := (lists.mem_iff place).mp member
    rw [reached] at isOther
    cases isOther
    exact ⟨⟨place, reached⟩, isWanted⟩
  · rintro ⟨⟨place, reached⟩, isWanted⟩
    exact ⟨place, (lists.mem_iff place).mpr ⟨item, reached, isWanted⟩, reached⟩

/-- Listed items are listed before a listed item that they are below. -/
theorem sublist_of_below {above : ι} (reached : at? children root place = some above)
    (reachedBelow : at? children above below = some item) (isBelow : below ≠ [])
    (aboveWanted : wanted above = true) (isWanted : wanted item = true) :
    [item, above].Sublist listed := by
  have reachedItem : at? children root (place ++ below) = some item := by
    rw [at?_append, reached]
    exact reachedBelow
  have ordered := lists.belowFirst place below isBelow
    ((lists.mem_iff place).mpr ⟨above, reached, aboveWanted⟩)
    ((lists.mem_iff _).mpr ⟨item, reachedItem, isWanted⟩)
  have items := ordered.map (at? children root)
  rw [lists.items, map_cons, map_cons, reachedItem, reached] at items
  have listedItems := items.filterMap id
  simpa using listedItems

/-- Where no item has two places, no item is listed twice. -/
theorem nodup_listed
    (onePlace : ∀ first second item, at? children root first = some item →
      at? children root second = some item → first = second) : listed.Nodup := by
  have nodup : (placed.map (at? children root)).Nodup := by
    refine List.Nodup.map_on ?_ lists.nodup
    intro first isFirst second isSecond same
    obtain ⟨item, reached, -⟩ := (lists.mem_iff first).mp isFirst
    exact onePlace first second item reached (same ▸ reached)
  rw [lists.items] at nodup
  exact nodup.of_map

end

end Lists

/-- What is below a root is reached from one parent each. -/
def OneParentEach (children : ι → List ι) (root : ι) : Prop :=
  ∀ parent other child, Below children root parent → Below children root other →
    child ∈ children parent → child ∈ children other → parent = other

structure IsTree (children : ι → List ι) (root : ι) : Prop where
  childrenNodup : ∀ parent, Below children root parent → (children parent).Nodup
  oneParent : OneParentEach children root
  rootNoChild : ∀ parent, Below children root parent → root ∉ children parent

/-- A root that is below itself is below itself as deep as one likes. -/
theorem at?_replicate (cycle : at? children root place = some root) (count : Nat) :
    at? children root (replicate count place).flatten = some root := by
  induction count with
  | zero => rfl
  | succ count ih =>
    rw [replicate_succ, flatten_cons, at?_append, cycle]
    exact ih

/-- What has no deep place and one parent each is a tree. -/
theorem IsTree.of_shallow (shallow : ShallowerThan children depth root)
    (childrenNodup : ∀ parent, (children parent).Nodup) (oneParent : OneParentEach children root) :
    IsTree children root where
  childrenNodup parent _ := childrenNodup parent
  oneParent := oneParent
  rootNoChild := by
    rintro parent ⟨place, reached⟩ isChild
    obtain ⟨index, found⟩ := mem_iff_getElem?.mp isChild
    have cycle : at? children root (place ++ [index]) = some root :=
      at?_concat_eq_some_iff.mpr ⟨parent, reached, found⟩
    have deep := shallow _ root (at?_replicate cycle depth)
    rw [length_flatten, map_replicate, sum_replicate_nat, length_append,
      length_singleton, Nat.mul_add_one] at deep
    omega

theorem IsTree.onePlace (tree : IsTree children root) (first second : List Nat) (item : ι)
    (isFirst : at? children root first = some item)
    (isSecond : at? children root second = some item) : first = second := by
  induction first using reverseRecOn generalizing second item with
  | nil =>
    cases isFirst
    rcases eq_nil_or_concat second with isNil | ⟨place, index, shape⟩
    · exact isNil.symm
    · rw [concat_eq_append] at shape
      rw [shape, at?_concat_eq_some_iff] at isSecond
      obtain ⟨parent, reached, found⟩ := isSecond
      exact absurd (mem_of_getElem? found) (tree.rootNoChild parent ⟨place, reached⟩)
  | append_singleton place index ih =>
    obtain ⟨parent, reached, found⟩ := at?_concat_eq_some_iff.mp isFirst
    rcases eq_nil_or_concat second with isNil | ⟨otherPlace, otherIndex, shape⟩
    · rw [isNil] at isSecond
      cases isSecond
      exact absurd (mem_of_getElem? found) (tree.rootNoChild parent ⟨place, reached⟩)
    · rw [concat_eq_append] at shape
      rw [shape, at?_concat_eq_some_iff] at isSecond
      obtain ⟨other, otherReached, otherFound⟩ := isSecond
      have sameParent := tree.oneParent parent other item ⟨place, reached⟩
        ⟨otherPlace, otherReached⟩ (mem_of_getElem? found) (mem_of_getElem? otherFound)
      cases sameParent
      have sameIndex : index = otherIndex :=
        (List.getElem?_inj (List.getElem?_eq_some_iff.mp found).1
          (tree.childrenNodup parent ⟨place, reached⟩)).mp (found.trans otherFound.symm)
      rw [shape, ih otherPlace parent reached otherReached, sameIndex]

section

variable {parent : ι} (tree : IsTree children root) (isBelow : Below children root parent)
  (isChild : child ∈ children parent)
include tree isBelow isChild

theorem IsTree.not_below_child : ¬ Below children child parent := by
  rintro ⟨cycle, reachedAgain⟩
  obtain ⟨place, reached⟩ := isBelow
  obtain ⟨index, found⟩ := mem_iff_getElem?.mp isChild
  have again : at? children root (place ++ index :: cycle) = some parent := by
    rw [at?_append, reached, Option.bind_some, at?_cons, found]
    exact reachedAgain
  have same := tree.onePlace place (place ++ index :: cycle) parent reached again
  exact absurd (self_eq_append_right.mp same) (cons_ne_nil index cycle)

theorem IsTree.child_unique {other : ι}
    (otherChild : other ∈ children parent) (belowChild : Below children child item)
    (belowOther : Below children other item) : child = other := by
  obtain ⟨place, reached⟩ := isBelow
  obtain ⟨index, found⟩ := mem_iff_getElem?.mp isChild
  obtain ⟨otherIndex, otherFound⟩ := mem_iff_getElem?.mp otherChild
  obtain ⟨inner, reachedItem⟩ := belowChild
  obtain ⟨otherInner, otherReachedItem⟩ := belowOther
  have same : place ++ index :: inner = place ++ otherIndex :: otherInner := by
    apply tree.onePlace _ _ item
    · rw [at?_append, reached, Option.bind_some, at?_cons, found]
      exact reachedItem
    · rw [at?_append, reached, Option.bind_some, at?_cons, otherFound]
      exact otherReachedItem
  have sameIndex := (cons.inj (append_cancel_left same)).1
  rw [sameIndex, otherFound] at found
  exact (Option.some.inj found).symm

end

/-- A tree can be checked on items among which all children are. -/
theorem IsTree.of_closed {items : List ι} (start : root ∈ items)
    (closed : ∀ parent ∈ items, children parent ⊆ items)
    (childrenNodup : ∀ parent ∈ items, (children parent).Nodup)
    (oneParent : ∀ parent ∈ items, ∀ other ∈ items, ∀ child ∈ children parent,
      child ∈ children other → parent = other)
    (rootNoChild : ∀ parent ∈ items, root ∉ children parent) : IsTree children root := by
  have within : ∀ {item : ι}, Below children root item → item ∈ items := by
    intro item isBelow
    exact isBelow.of_step start fun parent child _ isChild inItems => closed parent inItems isChild
  exact ⟨fun parent isBelow => childrenNodup parent (within isBelow),
    fun parent other child isBelow otherBelow isChild otherChild =>
      oneParent parent (within isBelow) other (within otherBelow) child isChild otherChild,
    fun parent isBelow => rootNoChild parent (within isBelow)⟩

theorem ShallowerThan.mono {other : Nat} (shallow : ShallowerThan children depth item)
    (deeper : depth ≤ other) : ShallowerThan children other item :=
  fun place reached isReached => Nat.lt_of_lt_of_le (shallow place reached isReached) deeper

theorem ShallowerThan.of_child (shallow : ShallowerThan children (depth + 1) item)
    (isChild : child ∈ children item) : ShallowerThan children depth child := by
  intro place reached isReached
  obtain ⟨index, found⟩ := mem_iff_getElem?.mp isChild
  have isBelow : at? children item (index :: place) = some reached := by
    rw [at?_cons, found]
    exact isReached
  exact Nat.lt_of_succ_lt_succ (shallow _ reached isBelow)

/-- What holds of an item at every depth above that of its children holds at a depth that is
deep enough. -/
@[elab_as_elim] theorem ShallowerThan.descend {motive : Nat → ι → Prop}
    (shallow : ShallowerThan children depth root)
    (step : ∀ depth item, Below children root item →
      (∀ child ∈ children item, motive depth child) → motive (depth + 1) item) :
    motive depth root := by
  induction depth generalizing root with
  | zero => exact absurd (shallow [] root rfl) (Nat.not_lt_zero _)
  | succ depth ih =>
    refine step depth root (.refl root) fun child isChild => ?_
    refine ih (shallow.of_child isChild) fun depth item isBelow => ?_
    exact step depth item (((Below.refl root).step isChild).trans isBelow)

theorem postOrder_eq_of_shallow {other : Nat} (shallow : ShallowerThan children depth item)
    (alsoShallow : ShallowerThan children other item) :
    postOrder children depth item = postOrder children other item := by
  induction depth generalizing item other with
  | zero => exact absurd (shallow [] item rfl) (Nat.not_lt_zero _)
  | succ depth ih =>
    cases other with
    | zero => exact absurd (alsoShallow [] item rfl) (Nat.not_lt_zero _)
    | succ other =>
      rw [postOrder, postOrder]
      congr 1
      apply flatMap_congr
      intro child isChild
      exact ih (shallow.of_child isChild) (alsoShallow.of_child isChild)

theorem IsTree.shallowerThan (tree : IsTree children root) {items : List ι}
    (within : ∀ item, Below children root item → item ∈ items) :
    ShallowerThan children items.length root := by
  intro place last reachedLast
  -- Each beginning of the place leads to an item of its own.
  have beginning : ∀ length, ∃ item, at? children root (place.take length) = some item := by
    intro length
    rw [← take_append_drop length place, at?_append] at reachedLast
    obtain ⟨item, reached, -⟩ := Option.bind_eq_some_iff.mp reachedLast
    exact ⟨item, reached⟩
  choose onTheWay reached using beginning
  have nodup : ((range (place.length + 1)).map onTheWay).Nodup := by
    refine List.Nodup.map_on ?_ nodup_range
    intro first isFirst second isSecond same
    have samePlace := tree.onePlace _ _ _ (reached first) (same ▸ reached second)
    have sameLength := congrArg length samePlace
    rw [length_take, length_take] at sameLength
    have firstBound := mem_range.mp isFirst
    have secondBound := mem_range.mp isSecond
    omega
  have subset : (range (place.length + 1)).map onTheWay ⊆ items := by
    intro item member
    obtain ⟨length, -, rfl⟩ := mem_map.mp member
    exact within _ ⟨place.take length, reached length⟩
  have short := (subperm_of_subset nodup subset).length_le
  rw [length_map, length_range] at short
  exact short

section Embedding

variable {κ : Type} {innerChildren : κ → List κ} {inner : κ} {embed : κ → ι}

theorem Below.of_embedding {item : κ}
    (embeds : ∀ item, ((innerChildren item).map embed).Sublist (children (embed item)))
    (isBelow : Below innerChildren inner item) : Below children (embed inner) (embed item) := by
  have start : Below children (embed inner) (embed inner) := .refl _
  refine @Below.of_step κ innerChildren inner item
    (fun item => Below children (embed inner) (embed item)) isBelow start ?_
  intro parent child _ isChild parentBelow
  exact parentBelow.step ((embeds parent).subset (mem_map_of_mem isChild))

/-- Where all children are embedded, so are the items at all places. -/
theorem at?_of_embedding (same : ∀ item, children (embed item) = (innerChildren item).map embed)
    (place : List Nat) :
    at? children (embed inner) place = (at? innerChildren inner place).map embed := by
  induction place generalizing inner with
  | nil => rfl
  | cons index rest ih =>
    rw [at?_cons, at?_cons, same, getElem?_map]
    cases (innerChildren inner)[index]? with
    | none => rfl
    | some child => exact ih

theorem IsTree.of_embedding (tree : IsTree children root) (injective : Function.Injective embed)
    (embeds : ∀ item, ((innerChildren item).map embed).Sublist (children (embed item)))
    (innerBelow : Below children root (embed inner)) : IsTree innerChildren inner where
  childrenNodup parent isBelow :=
    ((tree.childrenNodup _ (innerBelow.trans (isBelow.of_embedding embeds))).sublist
      (embeds parent)).of_map
  oneParent := by
    intro parent other child isBelow otherBelow isChild otherChild
    apply injective
    exact tree.oneParent _ _ (embed child) (innerBelow.trans (isBelow.of_embedding embeds))
      (innerBelow.trans (otherBelow.of_embedding embeds))
      ((embeds parent).subset (mem_map_of_mem isChild))
      ((embeds other).subset (mem_map_of_mem otherChild))
  rootNoChild := by
    intro parent isBelow isChild
    exact tree.not_below_child (innerBelow.trans (isBelow.of_embedding embeds))
      ((embeds parent).subset (mem_map_of_mem isChild)) (isBelow.of_embedding embeds)

end Embedding

end PostOrder
