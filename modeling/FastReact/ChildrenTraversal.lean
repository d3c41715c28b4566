import FastReact.ChildrenPaths

namespace FastReact

open ChildrenHelper ChildrenLeaf ChildrenValue

/-!
# The traversal of children

Over fulfilled children `mapIntoArray` is a loop over the leaves.  From this the helpers
get their meaning: `toArray` is the keyed flattening, and the others call their function
for the same leaves in the same order.
-/

variable {Value Error World : Type}

section Loop

variable
  (flatten : JsString → ChildrenValue Value Error → List (ChildrenValue Value Error) →
    Except Error (List (ChildrenValue Value Error)))
  (escapedPrefix : JsString)
  (callback : ChildrenValue Value Error → EStateM Error World (ChildrenValue Value Error))

/-- Call back for a leaf and collect what is returned. -/
def visitLeaf (array : List (ChildrenValue Value Error)) (leaf : ChildrenLeaf Value Error) :
    EStateM Error World (List (ChildrenValue Value Error)) := do
  let mappedChild ← callback leaf.child
  ofExcept (pushMapped flatten escapedPrefix (pathName leaf.path) leaf.child mappedChild array)

/-- Visit the leaves one after another, and count them. -/
def visitLeaves (leaves : List (ChildrenLeaf Value Error))
    (array : List (ChildrenValue Value Error)) :
    EStateM Error World (List (ChildrenValue Value Error) × Nat) := do
  let array ← leaves.foldlM (visitLeaf flatten escapedPrefix callback) array
  pure (array, leaves.length)

theorem getElementKey_eq_text (child : ChildrenValue Value Error) (index : Nat) :
    getElementKey child index = (child.segment index).text := by
  unfold getElementKey ChildrenValue.segment
  cases child.key <;> rfl

section

variable (path : List Segment) (child : ChildrenValue Value Error)

theorem childKeyOf_pathName :
    childKeyOf (pathName path) child = pathName (leafAt path child).path := by
  cases path with
  | nil =>
    have root := pathName_append [] (child.segment 0)
    rw [← getElementKey_eq_text] at root
    exact root.symm
  | cons segment later =>
    unfold childKeyOf leafAt
    rw [if_neg (List.cons_ne_nil segment later)]
    exact if_neg (List.cons_ne_nil _ _)

theorem invokeCallback_eq (array : List (ChildrenValue Value Error)) :
    invokeCallback flatten escapedPrefix callback child array (pathName path) =
      visitLeaves flatten escapedPrefix callback [leafAt path child] array := by
  unfold invokeCallback visitLeaves
  rw [childKeyOf_pathName, List.foldlM_cons]
  simp only [visitLeaf, List.foldlM_nil, bind_assoc, bind_pure, List.length_singleton]
  rfl

end

theorem visitLeaves_append (first later : List (ChildrenLeaf Value Error))
    (array : List (ChildrenValue Value Error)) :
    visitLeaves flatten escapedPrefix callback (first ++ later) array = (do
      let (array, count) ← visitLeaves flatten escapedPrefix callback first array
      let (array, laterCount) ← visitLeaves flatten escapedPrefix callback later array
      pure (array, count + laterCount)) := by
  unfold visitLeaves
  simp only [List.foldlM_append, bind_assoc, pure_bind, List.length_append]

mutual

theorem mapIntoArrayWith_eq (path : List Segment) (children : ChildrenValue Value Error)
    (fulfilled : children.Fulfilled) (array : List (ChildrenValue Value Error)) :
    mapIntoArrayWith flatten escapedPrefix callback children array (pathName path) =
      visitLeaves flatten escapedPrefix callback (leavesAt path children) array := by
  cases children with
  | nullish => exact invokeCallback_eq flatten escapedPrefix callback path _ array
  | boolean value => exact invokeCallback_eq flatten escapedPrefix callback path _ array
  | function => rfl
  | primitive value => exact invokeCallback_eq flatten escapedPrefix callback path _ array
  | element key value => exact invokeCallback_eq flatten escapedPrefix callback path _ array
  | portal key value => exact invokeCallback_eq flatten escapedPrefix callback path _ array
  | array key items => exact mapMembers_eq path 0 items fulfilled.2 array
  | iterable key items => exact mapMembers_eq path 0 items fulfilled.2 array
  | lazy key resolved => exact mapIntoArrayWith_eq path resolved fulfilled.2 array
  | thenable key resolved => exact mapIntoArrayWith_eq path resolved fulfilled.2 array
  | throwing key error => exact absurd rfl (fulfilled key error)

theorem mapMembers_eq (path : List Segment) (index : Nat) (items : List (ChildrenValue Value Error))
    (fulfilled : EverywhereIn (fun child => ∀ key error, child ≠ .throwing key error) items)
    (array : List (ChildrenValue Value Error)) :
    mapMembers flatten escapedPrefix callback items array (nextNamePrefix (pathName path)) index =
      visitLeaves flatten escapedPrefix callback (memberLeaves path index items) array := by
  cases items with
  | nil => rfl
  | cons child later =>
    have first := mapIntoArrayWith_eq (path ++ [child.segment index]) child fulfilled.1
    have others := mapMembers_eq path (index + 1) later fulfilled.2
    rw [pathName_append, ← getElementKey_eq_text] at first
    unfold mapMembers memberLeaves
    rw [visitLeaves_append, first]
    simp only [others]

end

end Loop

/-- Call a function for a leaf with its number, and collect what it returns. -/
def callFor
    (func : ChildrenValue Value Error → Nat → EStateM Error World (ChildrenValue Value Error))
    (array : List (ChildrenValue Value Error)) (visit : ChildrenLeaf Value Error × Nat) :
    EStateM Error World (List (ChildrenValue Value Error)) := do
  let mappedChild ← func visit.1.child visit.2
  ofExcept (pushMapped flattenMapped [] (pathName visit.1.path) visit.1.child mappedChild array)

/-- A result without the number of calls. -/
def withoutCount {Result : Type} :
    EStateM.Result Error (World × Nat) Result → EStateM.Result Error World Result
  | .ok result (world, _) => .ok result world
  | .error error (world, _) => .error error world

theorem run_visitLeaf_numbered
    (func : ChildrenValue Value Error → Nat → EStateM Error World (ChildrenValue Value Error))
    (leaves : List (ChildrenLeaf Value Error)) (array : List (ChildrenValue Value Error))
    (world : World) (count : Nat) :
    withoutCount ((leaves.foldlM (visitLeaf flattenMapped [] (numbered func)) array).run
        (world, count)) =
      ((leaves.zipIdx count).foldlM (callFor func) array).run world := by
  induction leaves generalizing array world count with
  | nil => rfl
  | cons leaf later ih =>
    rw [List.zipIdx_cons, List.foldlM_cons, List.foldlM_cons]
    simp only [EStateM.run_bind, visitLeaf, callFor]
    have numberedRun : (numbered func leaf.child).run (world, count) =
        numbered func leaf.child (world, count) := rfl
    rw [numberedRun, numbered]
    cases called : (func leaf.child count).run world with
    | error error after => rfl
    | ok mappedChild after =>
      simp only
      cases pushMapped flattenMapped [] (pathName leaf.path) leaf.child mappedChild array with
      | error error => rfl
      | ok collected => exact ih collected after (count + 1)

/-- The leaves that the helpers visit: there are none when the children themselves are
`null` or `undefined`. -/
def ChildrenValue.visited : ChildrenValue Value Error → List (ChildrenLeaf Value Error)
  | .nullish => []
  | children => leavesAt [] children

/-- What `map` makes of an array: children that are `null` or `undefined` stay. -/
def ChildrenValue.mapped (children : ChildrenValue Value Error)
    (array : List (ChildrenValue Value Error)) : Option (List (ChildrenValue Value Error)) :=
  match children with
  | .nullish => none
  | _ => some array

/-- A function is called for the visited leaves in order, with the numbers 0, 1, 2 and so
on. -/
def callInOrder (children : ChildrenValue Value Error)
    (func : ChildrenValue Value Error → Nat → EStateM Error World (ChildrenValue Value Error)) :
    EStateM Error World (List (ChildrenValue Value Error)) :=
  children.visited.zipIdx.foldlM (callFor func) []

variable {children : ChildrenValue Value Error}

theorem mapChildrenImpl_eq (fulfilled : children.Fulfilled)
    (func : ChildrenValue Value Error → Nat → EStateM Error World (ChildrenValue Value Error)) :
    mapChildrenImpl children func = children.mapped <$> callInOrder children func := by
  by_cases isNullish : children = .nullish
  · rw [isNullish]
    rfl
  · have visits : children.visited = leavesAt [] children := by
      cases children with
      | nullish => exact absurd rfl isNullish
      | _ => rfl
    have mapped : children.mapped = some := by
      cases children with
      | nullish => exact absurd rfl isNullish
      | _ => rfl
    funext world
    have counts := run_visitLeaf_numbered func (leavesAt [] children) [] world 0
    have traversal := mapIntoArrayWith_eq flattenMapped [] (numbered func) [] children fulfilled []
    have unfolded : mapChildrenImpl children func world =
        withoutCount (((fun found => some found.1) <$>
          mapIntoArray children [] [] [] (numbered func)).run (world, 0)) := by
      rw [map_eq_pure_bind, EStateM.run_bind]
      cases children with
      | nullish => exact absurd rfl isNullish
      | _ =>
        simp only [mapChildrenImpl]
        cases EStateM.run (mapIntoArray _ [] [] [] (numbered func)) (world, 0) <;> rfl
    have named : mapIntoArray children [] [] [] (numbered func) =
        visitLeaves flattenMapped [] (numbered func) (leavesAt [] children) [] := traversal
    rw [unfolded, named, mapped, map_eq_pure_bind, EStateM.run_bind]
    unfold callInOrder
    rw [visits]
    unfold visitLeaves
    rw [EStateM.run_bind]
    change _ = (some <$> _ : EStateM Error World _).run world
    rw [map_eq_pure_bind, EStateM.run_bind, ← counts]
    cases ((leavesAt [] children).foldlM (visitLeaf flattenMapped [] (numbered func)) []).run
        (world, 0) with
    | ok array after => rfl
    | error error after => rfl

theorem foldlM_callFor_nullish
    (forEachFunc : ChildrenValue Value Error → Nat → EStateM Error World PUnit)
    (visits : List (ChildrenLeaf Value Error × Nat)) (array : List (ChildrenValue Value Error)) :
    visits.foldlM
        (callFor fun child index => do
          forEachFunc child index
          pure .nullish)
        array = (do
      forM visits fun visit => forEachFunc visit.1.child visit.2
      pure array) := by
  induction visits with
  | nil => rfl
  | cons visit later ih =>
    have collected : (ofExcept (pushMapped flattenMapped [] (pathName visit.1.path)
        visit.1.child .nullish array) : EStateM Error World _) = pure array := rfl
    rw [List.foldlM_cons, List.forM_cons]
    simp only [callFor, bind_assoc, pure_bind, collected, ih]

/-- A leaf as `toArray` returns it: not at all, or with the name of its path as the key. -/
def ChildrenLeaf.keyed (leaf : ChildrenLeaf Value Error) : Option (ChildrenValue Value Error) :=
  match leaf.child with
  | .nullish => none
  | .element _ value => some (.element (some (pathName leaf.path)) value)
  | child => some child

/-- What a callback is called for. -/
def ChildrenValue.IsLeaf : ChildrenValue Value Error → Prop
  | .nullish => True
  | .primitive _ => True
  | .element _ _ => True
  | .portal _ _ => True
  | _ => False

mutual

variable {leaf : ChildrenLeaf Value Error}

theorem isLeaf_of_leavesAt (path : List Segment) (children : ChildrenValue Value Error)
    (member : leaf ∈ leavesAt path children) : leaf.child.IsLeaf := by
  cases children with
  | nullish => exact List.mem_singleton.mp member ▸ trivial
  | boolean value => exact List.mem_singleton.mp member ▸ trivial
  | function => cases member
  | primitive value => exact List.mem_singleton.mp member ▸ trivial
  | element key value => exact List.mem_singleton.mp member ▸ trivial
  | portal key value => exact List.mem_singleton.mp member ▸ trivial
  | array key items => exact isLeaf_of_memberLeaves path 0 items member
  | iterable key items => exact isLeaf_of_memberLeaves path 0 items member
  | lazy key resolved => exact isLeaf_of_leavesAt path resolved member
  | thenable key resolved => exact isLeaf_of_leavesAt path resolved member
  | throwing key error => cases member

theorem isLeaf_of_memberLeaves (path : List Segment) (index : Nat)
    (items : List (ChildrenValue Value Error))
    (member : leaf ∈ memberLeaves path index items) : leaf.child.IsLeaf := by
  cases items with
  | nil => cases member
  | cons child later =>
    rcases List.mem_append.mp member with first | other
    · exact isLeaf_of_leavesAt _ child first
    · exact isLeaf_of_memberLeaves path (index + 1) later other

end

theorem isLeaf_of_visited (member : leaf ∈ children.visited) : leaf.child.IsLeaf := by
  cases children with
  | nullish => cases member
  | _ => exact isLeaf_of_leavesAt [] _ member

/-- A leaf that is mapped to itself, as it is collected. -/
def ChildrenLeaf.keyedBelow (escapedPrefix : JsString) (leaf : ChildrenLeaf Value Error) :
    Option (ChildrenValue Value Error) :=
  match leaf.child with
  | .nullish => none
  | .element _ value => some (.element (some (escapedPrefix ++ pathName leaf.path)) value)
  | child => some child

theorem ChildrenLeaf.keyedBelow_nil (leaf : ChildrenLeaf Value Error) :
    leaf.keyedBelow [] = leaf.keyed := by
  unfold keyedBelow keyed
  cases leaf.child <;> rfl

section Itself

variable
  {flatten : JsString → ChildrenValue Value Error → List (ChildrenValue Value Error) →
    Except Error (List (ChildrenValue Value Error))}
  {escapedPrefix : JsString}

theorem pushMapped_self {leaf : ChildrenLeaf Value Error} (isLeaf : leaf.child.IsLeaf)
    (array : List (ChildrenValue Value Error)) :
    pushMapped flatten escapedPrefix (pathName leaf.path) leaf.child leaf.child array =
      .ok (array ++ (leaf.keyedBelow escapedPrefix).toList) := by
  obtain ⟨child, path⟩ := leaf
  cases child with
  | nullish => exact congrArg Except.ok (List.append_nil array).symm
  | primitive value => rfl
  | portal key value => rfl
  | element key value =>
    have sameKey : mappedKey (.element key value : ChildrenValue Value Error) key = [] := by
      cases key with
      | none => rfl
      | some key => exact if_pos rfl
    unfold pushMapped replaceKey keyedBelow
    simp only [sameKey, List.append_nil, Option.toList_some]
  | boolean value => exact isLeaf.elim
  | function => exact isLeaf.elim
  | array key items => exact isLeaf.elim
  | iterable key items => exact isLeaf.elim
  | lazy key resolved => exact isLeaf.elim
  | thenable key resolved => exact isLeaf.elim
  | throwing key error => exact isLeaf.elim

theorem foldlM_visitLeaf_self {leaves : List (ChildrenLeaf Value Error)}
    (areLeaves : ∀ leaf ∈ leaves, leaf.child.IsLeaf) (array : List (ChildrenValue Value Error)) :
    (leaves.foldlM (visitLeaf flatten escapedPrefix pure) array :
        EStateM Error World (List (ChildrenValue Value Error))) =
      pure (array ++ leaves.filterMap (keyedBelow escapedPrefix)) := by
  induction leaves generalizing array with
  | nil => exact congrArg pure (List.append_nil array).symm
  | cons leaf later ih =>
    have collected := @pushMapped_self _ _ flatten escapedPrefix _
      (areLeaves leaf List.mem_cons_self) array
    have others := fun other member => areLeaves other (List.mem_cons_of_mem leaf member)
    rw [List.foldlM_cons]
    simp only [visitLeaf, pure_bind, collected]
    change (later.foldlM _ (array ++ (leaf.keyedBelow escapedPrefix).toList) :
      EStateM Error World _) = _
    rw [ih others]
    cases isKeyed : leaf.keyedBelow escapedPrefix with
    | none => rw [List.filterMap_cons_none isKeyed, Option.toList_none, List.append_nil]
    | some value =>
      rw [List.filterMap_cons_some isKeyed, Option.toList_some, List.append_assoc,
        List.singleton_append]

end Itself

theorem foldlM_callFor_self {leaves : List (ChildrenLeaf Value Error)}
    (areLeaves : ∀ leaf ∈ leaves, leaf.child.IsLeaf) (array : List (ChildrenValue Value Error)) :
    (leaves.zipIdx.foldlM (callFor fun child _ => pure child) array :
        EStateM Error World (List (ChildrenValue Value Error))) =
      pure (array ++ leaves.filterMap keyed) := by
  have visited := @foldlM_visitLeaf_self _ _ World flattenMapped [] _ areLeaves array
  rw [← List.zipIdx_map_fst 0 leaves, List.foldlM_map, List.zipIdx_map_fst] at visited
  refine visited.trans ?_
  rw [funext keyedBelow_nil]

def ChildrenValue.elementKey : ChildrenValue Value Error → Option JsString
  | .element key _ => key
  | _ => none

def elementKeys (array : List (ChildrenValue Value Error)) : List JsString :=
  array.filterMap ChildrenValue.elementKey

/-- Every key of the flattening is the name of the path of its leaf. -/
theorem elementKeys_sublist (leaves : List (ChildrenLeaf Value Error)) :
    (elementKeys (leaves.filterMap keyed)).Sublist ((pathsOf leaves).map pathName) := by
  induction leaves with
  | nil => exact .slnil
  | cons leaf later ih =>
    have named : ∀ value, leaf.keyed = some value →
        value.elementKey = none ∨ value.elementKey = some (pathName leaf.path) := by
      obtain ⟨child, path⟩ := leaf
      cases child with
      | nullish => exact nofun
      | element key value =>
        rintro _ ⟨⟩
        exact .inr rfl
      | _ =>
        rintro _ ⟨⟩
        exact .inl rfl
    cases isKeyed : leaf.keyed with
    | none =>
      rw [List.filterMap_cons_none isKeyed]
      exact ih.cons _
    | some value =>
      unfold elementKeys at ih ⊢
      rw [List.filterMap_cons_some isKeyed]
      rcases named value isKeyed with noKey | hasKey
      · rw [List.filterMap_cons_none noKey]
        exact ih.cons _
      · rw [List.filterMap_cons_some hasKey]
        exact ih.cons_cons _

theorem nodup_pathsOf_visited (distinct : children.KeysDistinct) :
    (pathsOf children.visited).Nodup := by
  cases children with
  | nullish => exact List.nodup_nil
  | _ => exact nodup_pathsOf_leavesAt [] _ distinct

theorem nodup_elementKeys (distinct : children.KeysDistinct) :
    (elementKeys (children.visited.filterMap keyed)).Nodup := by
  have names := (nodup_pathsOf_visited distinct).map fun _ _ same => pathName_injective same
  exact names.sublist (elementKeys_sublist children.visited)

/-- What the helpers do with children. -/
structure KeyedFlattening (children : ChildrenValue Value Error) : Prop where
  /-- `toArray` returns the leaves other than `null`, elements with the names of their
  paths as their keys. -/
  toArray : ∀ World,
    (ChildrenHelper.toArray children : EStateM Error World (List (ChildrenValue Value Error))) =
      pure (children.visited.filterMap ChildrenLeaf.keyed)
  /-- The keys of the elements are distinct when the explicit keys of all members are. -/
  distinct : children.KeysDistinct →
    (elementKeys (children.visited.filterMap ChildrenLeaf.keyed)).Nodup
  /-- `count` counts the visited leaves. -/
  count : ChildrenHelper.count children = .ok children.visited.length
  /-- `forEach` calls its function for the visited leaves with their numbers. -/
  forEach : ∀ World (func : ChildrenValue Value Error → Nat → EStateM Error World PUnit),
    ChildrenHelper.forEach children func =
      forM children.visited.zipIdx fun visit => func visit.1.child visit.2
  /-- `map` calls its function for the visited leaves with their numbers. -/
  map : ∀ World
    (func : ChildrenValue Value Error → Nat → EStateM Error World (ChildrenValue Value Error)),
    ChildrenHelper.map children func =
      children.mapped <$> children.visited.zipIdx.foldlM (callFor func) []

theorem run_forM_succ (visits : List (ChildrenLeaf Value Error × Nat)) (before : Nat) :
    ((forM visits fun _ => modify Nat.succ : EStateM Error Nat PUnit)).run before =
      .ok PUnit.unit (before + visits.length) := by
  induction visits generalizing before with
  | nil => rfl
  | cons visit later ih =>
    rw [List.forM_cons, EStateM.run_bind]
    change ((forM later fun _ => modify Nat.succ : EStateM Error Nat PUnit)).run (before + 1) = _
    rw [ih, List.length_cons, Nat.add_assoc, Nat.add_comm 1]

theorem keyedFlattening_of_fulfilled
    {children : ChildrenValue Value Error}
    (fulfilled : children.Fulfilled) :
    KeyedFlattening children where
  toArray := by
    intro World
    unfold toArray
    rw [mapChildrenImpl_eq fulfilled]
    unfold callInOrder
    rw [foldlM_callFor_self (fun leaf member => isLeaf_of_visited member), List.nil_append]
    cases children with
    | nullish => rfl
    | _ => rfl
  distinct := nodup_elementKeys
  count := by
    unfold count
    simp only
    rw [mapChildrenImpl_eq fulfilled]
    unfold callInOrder
    rw [foldlM_callFor_nullish]
    have counted := run_forM_succ children.visited.zipIdx 0
    rw [List.length_zipIdx, Nat.zero_add] at counted
    rw [map_eq_pure_bind, EStateM.run_bind, EStateM.run_bind, counted]
    rfl
  forEach := by
    intro World func
    unfold forEach
    rw [mapChildrenImpl_eq fulfilled]
    unfold callInOrder
    rw [foldlM_callFor_nullish]
    simp only [map_eq_pure_bind, bind_assoc, pure_bind]
    exact bind_pure _
  map := fun World func => mapChildrenImpl_eq fulfilled func

/-- Two elements that would have the same name if explicit keys were not marked and
escaped, with an empty child and a text between them. -/
theorem keyedFlattening_of_nested :
    KeyedFlattening
      (.array none [
        .element (some [unit '1', unit ':', unit '0']) 1,
        .array none [.nullish, .primitive 2, .lazy none (.element none 3)]] :
        ChildrenValue Nat Nat) := by
  apply keyedFlattening_of_fulfilled
  exact ⟨nofun, nofun, ⟨nofun, nofun, nofun, ⟨nofun, nofun⟩, trivial⟩, trivial⟩

/-- Children that are `null` themselves are one leaf, but nothing is called for it. -/
theorem count_nullish :
    count (.nullish : ChildrenValue Nat Nat) ≠
      .ok (leavesAt [] (.nullish : ChildrenValue Nat Nat)).length := by
  intro counted
  have zero : count (.nullish : ChildrenValue Nat Nat) = .ok 0 := rfl
  exact absurd (Except.ok.inj (zero.symm.trans counted)) (by decide)

end FastReact
