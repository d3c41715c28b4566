import FastReact.ChildrenTraversal
import FastReact.ErrorState
import Mathlib.Data.List.Pairwise

namespace FastReact

open ChildrenHelper ChildrenValue List

/-!
# The keys of mapped children

`map` joins up to three texts for the key of an element: what stands in front, with its runs of
slashes lengthened, a slash, and the name of a path, whose slashes are left alone.  Two keys
can therefore meet where an explicit key of the children holds a slash, or where a returned key
is the name of a path.
-/

variable {Value Error World : Type}

theorem escapeUserProvidedKey_cons (codeUnit : UInt16) (later : JsString) :
    escapeUserProvidedKey (codeUnit :: later) =
      if codeUnit = unit '/' ∧ later.head? ≠ some (unit '/') then
        codeUnit :: unit '/' :: escapeUserProvidedKey later
      else
        codeUnit :: escapeUserProvidedKey later :=
  rfl

theorem head?_escapeUserProvidedKey (key : JsString) :
    (escapeUserProvidedKey key).head? = key.head? := by
  cases key with
  | nil => rfl
  | cons codeUnit later =>
    rw [escapeUserProvidedKey_cons]
    split <;> rfl

theorem slash_cons_ne_escapeUserProvidedKey {later others : JsString}
    (ends : later.head? ≠ some (unit '/')) :
    unit '/' :: escapeUserProvidedKey later ≠ escapeUserProvidedKey others := by
  intro same
  have heads := congrArg head? same
  rw [head?_escapeUserProvidedKey] at heads
  obtain ⟨rest, rfl⟩ := head?_eq_some_iff.mp heads.symm
  rw [escapeUserProvidedKey_cons] at same
  split_ifs at same with restEnds
  · have next := congrArg head? (cons.inj same).2
    rw [head?_escapeUserProvidedKey] at next
    exact ends next
  · have next := congrArg head? (cons.inj same).2
    rw [head?_escapeUserProvidedKey, head?_escapeUserProvidedKey] at next
    exact ends (next.trans (not_not.mp fun stops => restEnds ⟨rfl, stops⟩))

theorem escapeUserProvidedKey_injective {first second : JsString}
    (same : escapeUserProvidedKey first = escapeUserProvidedKey second) : first = second := by
  induction first generalizing second with
  | nil =>
    have noHead := congrArg head? same
    rw [head?_escapeUserProvidedKey, head?_escapeUserProvidedKey] at noHead
    exact (head?_eq_none_iff.mp noHead.symm).symm
  | cons codeUnit later ih =>
    have heads := congrArg head? same
    rw [head?_escapeUserProvidedKey, head?_escapeUserProvidedKey] at heads
    obtain ⟨others, rfl⟩ := head?_eq_some_iff.mp heads.symm
    rw [escapeUserProvidedKey_cons, escapeUserProvidedKey_cons] at same
    split_ifs at same with ends othersEnd othersEnd
    · exact congrArg (cons codeUnit) (ih (cons.inj (cons.inj same).2).2)
    · exact absurd (cons.inj same).2 (slash_cons_ne_escapeUserProvidedKey ends.2)
    · exact absurd (cons.inj same).2.symm (slash_cons_ne_escapeUserProvidedKey othersEnd.2)
    · exact congrArg (cons codeUnit) (ih (cons.inj same).2)

structure KeyParts where
  front : Option JsString
  path : List Segment
deriving DecidableEq

namespace KeyParts

def frontText (parts : KeyParts) : JsString :=
  parts.front.elim [] fun key => escapeUserProvidedKey key ++ [unit '/']

def joined (parts : KeyParts) : JsString :=
  parts.frontText ++ pathName parts.path

/-- A slash in the path of one key stands where the front of the other one ends. -/
def CutBy (parts other : KeyParts) : Prop :=
  ∃ key cut, other.front = some key ∧
    escapeUserProvidedKey key = parts.frontText ++ cut ∧
    pathName parts.path = cut ++ unit '/' :: pathName other.path

variable {parts other : KeyParts}

theorem frontText_injective (same : parts.frontText = other.frontText) :
    parts.front = other.front := by
  unfold frontText at same
  cases isFront : parts.front with
  | none =>
    cases isOther : other.front with
    | none => rfl
    | some key => simp [isFront, isOther] at same
  | some key =>
    cases isOther : other.front with
    | none => simp [isFront, isOther] at same
    | some otherKey =>
      rw [isFront, isOther, Option.elim_some, Option.elim_some] at same
      rw [escapeUserProvidedKey_injective (append_cancel_right same)]

theorem cutBy_of_append {more : JsString} (notEmpty : more ≠ [])
    (isFront : other.frontText = parts.frontText ++ more)
    (isPath : pathName parts.path = more ++ pathName other.path) : parts.CutBy other := by
  cases hasFront : other.front with
  | none => simp [frontText, hasFront, notEmpty] at isFront
  | some key =>
    obtain ⟨cut, last, isMore⟩ := (eq_nil_or_concat more).resolve_left notEmpty
    rw [concat_eq_append] at isMore
    subst isMore
    rw [frontText, hasFront, Option.elim_some, ← append_assoc] at isFront
    obtain ⟨isKey, isSlash⟩ := append_inj' isFront rfl
    refine ⟨key, cut, hasFront, isKey, ?_⟩
    rw [isPath, ← isSlash, append_assoc, singleton_append]

theorem joined_of_cutBy (cut : parts.CutBy other) : parts.joined = other.joined := by
  obtain ⟨key, cut, hasFront, isKey, isPath⟩ := cut
  have front : other.frontText = escapeUserProvidedKey key ++ [unit '/'] := by
    rw [frontText, hasFront, Option.elim_some]
  rw [joined, joined, isPath, front, isKey]
  simp

/-- Two keys meet when they have the same parts, or when one is cut by the other. -/
theorem joined_eq_iff :
    parts.joined = other.joined ↔ parts = other ∨ parts.CutBy other ∨ other.CutBy parts := by
  constructor
  · intro same
    have split : ∀ {shorter longer : KeyParts} (more : JsString),
        longer.frontText = shorter.frontText ++ more →
        pathName shorter.path = more ++ pathName longer.path →
        shorter = longer ∨ shorter.CutBy longer := by
      intro shorter longer more isFront isPath
      by_cases isEmpty : more = []
      · rw [isEmpty, append_nil] at isFront
        rw [isEmpty, nil_append] at isPath
        have sameFront := frontText_injective isFront.symm
        have samePath := pathName_injective isPath
        cases shorter
        cases longer
        cases sameFront
        cases samePath
        exact .inl rfl
      · exact .inr (cutBy_of_append isEmpty isFront isPath)
    rcases append_eq_append_iff.mp same with ⟨more, isFront, isPath⟩ | ⟨more, isFront, isPath⟩
    · rcases split more isFront isPath with equal | cut
      · exact .inl equal
      · exact .inr (.inl cut)
    · rcases split more isFront isPath with equal | cut
      · exact .inl equal.symm
      · exact .inr (.inr cut)
  · rintro (rfl | cut | cut)
    · rfl
    · exact joined_of_cutBy cut
    · exact (joined_of_cutBy cut).symm

theorem not_cutBy_self (parts : KeyParts) : ¬ parts.CutBy parts := by
  rintro ⟨key, cut, -, -, isPath⟩
  have lengths := congrArg length isPath
  rw [length_append, length_cons] at lengths
  omega

end KeyParts

open KeyParts

/-- The key of an element that was returned for a leaf. -/
def elementParts? (leaf : ChildrenLeaf Value Error) : ChildrenValue Value Error → Option KeyParts
  | .element key _ => some ⟨key.filter fun key => leaf.child.key ≠ some key, leaf.path⟩
  | _ => none

def arrayParts (leaf : ChildrenLeaf Value Error) : ChildrenValue Value Error → List KeyParts
  | .array key items =>
      ((leavesAt [] (.array key items)).filterMap fun inner => elementParts? inner inner.child).map
        fun parts => { parts with front := some (pathName leaf.path) }
  | _ => []

def keyParts (mapped : ChildrenLeaf Value Error × ChildrenValue Value Error) : List KeyParts :=
  (elementParts? mapped.1 mapped.2).toList ++ arrayParts mapped.1 mapped.2

/-- What is collected for a leaf. -/
def pushedFor (mapped : ChildrenLeaf Value Error × ChildrenValue Value Error) :
    List (ChildrenValue Value Error) :=
  match mapped.2 with
  | .array key items =>
      (leavesAt [] (.array key items)).filterMap
        (ChildrenLeaf.keyedBelow (escapeUserProvidedKey (pathName mapped.1.path) ++ [unit '/']))
  | .nullish => []
  | value => [replaceKey [] (pathName mapped.1.path) mapped.1.child value]

theorem flattenMapped_eq {escapedChildKey : JsString} {key : Option JsString}
    {items : List (ChildrenValue Value Error)}
    (fulfilled : (ChildrenValue.array key items).Fulfilled)
    (array : List (ChildrenValue Value Error)) :
    flattenMapped escapedChildKey (.array key items) array =
      .ok (array ++
        (leavesAt [] (.array key items)).filterMap (ChildrenLeaf.keyedBelow escapedChildKey)) := by
  unfold flattenMapped
  have traversal := @mapIntoArrayWith_eq _ _ PUnit (fun _ _ array => .ok array) escapedChildKey
    pure [] _ fulfilled array
  change arrayOf (EStateM.run (mapIntoArrayWith _ _ _ _ _ (pathName [])) _) = _
  rw [traversal, visitLeaves,
    foldlM_visitLeaf_self fun leaf member => isLeaf_of_leavesAt [] _ member]
  rfl

variable {value : ChildrenValue Value Error} {leaf : ChildrenLeaf Value Error}

theorem pushMapped_eq (fulfilled : value.Fulfilled) (array : List (ChildrenValue Value Error)) :
    pushMapped flattenMapped [] (pathName leaf.path) leaf.child value array =
      .ok (array ++ pushedFor (leaf, value)) := by
  cases value with
  | array key items => exact flattenMapped_eq fulfilled array
  | nullish => exact congrArg Except.ok (append_nil array).symm
  | _ => rfl

theorem elementKey_keyedBelow (escapedPrefix : JsString) (leaf : ChildrenLeaf Value Error) :
    (leaf.keyedBelow escapedPrefix).bind ChildrenValue.elementKey =
      (elementParts? leaf leaf.child).map fun parts => escapedPrefix ++ pathName parts.path := by
  unfold ChildrenLeaf.keyedBelow elementParts?
  cases leaf.child <;> rfl

theorem elementKeys_pushedFor (mapped : ChildrenLeaf Value Error × ChildrenValue Value Error) :
    elementKeys (pushedFor mapped) = (keyParts mapped).map joined := by
  obtain ⟨leaf, value⟩ := mapped
  cases value with
  | array key items =>
    unfold elementKeys pushedFor
    rw [filterMap_filterMap, funext (elementKey_keyedBelow _)]
    change _ = map joined (map _ (filterMap _ _))
    rw [map_map, map_filterMap]
    rfl
  | element key value =>
    have front : mappedKey leaf.child key =
        (frontText ⟨key.filter fun key => leaf.child.key ≠ some key, leaf.path⟩) := by
      cases key with
      | none => rfl
      | some key =>
        by_cases same : leaf.child.key = some key
        · simp [mappedKey, frontText, Option.filter, same]
        · simp [mappedKey, frontText, Option.filter, same]
    unfold elementKeys pushedFor keyParts arrayParts elementParts? replaceKey joined
    simp only [nil_append, front]
    rfl
  | _ => rfl

theorem run_foldlM_callFor
    {func : ChildrenValue Value Error → Nat → EStateM Error World (ChildrenValue Value Error)}
    {visits : List (ChildrenLeaf Value Error × Nat)} {returned : List (ChildrenValue Value Error)}
    {world after : World}
    (ran : (visits.mapM fun visit => func visit.1.child visit.2).run world = .ok returned after)
    (fulfilled : ∀ value ∈ returned, value.Fulfilled) (array : List (ChildrenValue Value Error)) :
    (visits.foldlM (callFor func) array).run world =
      .ok (array ++ ((visits.map Prod.fst).zip returned).flatMap pushedFor) after := by
  induction visits generalizing world returned array with
  | nil =>
    cases ran
    exact congrArg (EStateM.Result.ok · _) (append_nil array).symm
  | cons visit later ih =>
    rw [mapM_cons] at ran
    obtain ⟨value, between, called, ran⟩ := ErrorState.run_bind_eq_ok_iff.mp ran
    obtain ⟨values, last, ranLater, ended⟩ := ErrorState.run_bind_eq_ok_iff.mp ran
    cases ended
    rw [foldlM_cons, callFor, EStateM.run_bind, EStateM.run_bind, called]
    simp only [pushMapped_eq (fulfilled value mem_cons_self)]
    refine (ih ranLater
      (fun other member => fulfilled other (mem_cons_of_mem value member)) _).trans ?_
    simp

structure KeysApart (mapped : List (ChildrenLeaf Value Error × ChildrenValue Value Error)) :
    Prop where
  named : ∀ parts ∈ mapped.filterMap fun visit => elementParts? visit.1 visit.2,
    parts ∉ mapped.flatMap fun visit => arrayParts visit.1 visit.2
  uncut : ∀ parts ∈ mapped.flatMap keyParts, ∀ other ∈ mapped.flatMap keyParts,
    ¬ parts.CutBy other

variable {mapped : List (ChildrenLeaf Value Error × ChildrenValue Value Error)}

theorem pairwise_zip {Item Other : Type} {relation : Item → Item → Prop} {items : List Item}
    (pairwise : items.Pairwise relation) (others : List Other) :
    (items.zip others).Pairwise fun first second => relation first.1 second.1 := by
  induction pairwise generalizing others with
  | nil => exact .nil
  | cons related _ ih =>
    cases others with
    | nil => exact .nil
    | cons other later =>
      refine .cons ?_ (ih later)
      exact fun pair member => related pair.1 (of_mem_zip member).1

theorem front_of_mem_arrayParts {parts : KeyParts}
    (member : parts ∈ arrayParts leaf value) : parts.front = some (pathName leaf.path) := by
  cases value with
  | array key items =>
    obtain ⟨inner, -, rfl⟩ := mem_map.mp member
    rfl
  | _ => cases member

theorem path_of_elementParts?
    {parts : KeyParts} (isElement : elementParts? leaf value = some parts) :
    parts.path = leaf.path := by
  cases value with
  | element key value =>
    cases isElement
    rfl
  | _ => cases isElement

theorem nodup_keyParts (visit : ChildrenLeaf Value Error × ChildrenValue Value Error)
    (distinct : visit.2.KeysDistinct) : (keyParts visit).Nodup := by
  obtain ⟨leaf, value⟩ := visit
  cases value with
  | array key items =>
    have paths := nodup_pathsOf_leavesAt [] _ distinct
    rw [pathsOf, List.Nodup, pairwise_map] at paths
    change (map _ (filterMap _ _)).Nodup
    rw [List.Nodup, pairwise_map, pairwise_filterMap]
    refine paths.imp ?_
    intro first second different parts isFirst other isSecond same
    rw [← path_of_elementParts? isFirst, ← path_of_elementParts? isSecond] at different
    exact different (mk.inj same).2
  | element key value => exact nodup_singleton _
  | _ => exact nodup_nil

section

variable (paths : mapped.Pairwise fun first second => first.1.path ≠ second.1.path)
  (distinct : ∀ visit ∈ mapped, visit.2.KeysDistinct)
include paths distinct

/-- The parts of different keys are different when no returned key names the place of an element
in a returned array. -/
theorem nodup_flatMap_keyParts_iff :
    (mapped.flatMap keyParts).Nodup ↔
      ∀ parts ∈ mapped.filterMap fun visit => elementParts? visit.1 visit.2,
        parts ∉ mapped.flatMap fun visit => arrayParts visit.1 visit.2 := by
  rw [nodup_flatMap]
  constructor
  · rintro ⟨-, apart⟩ parts isElement isMember
    obtain ⟨first, firstMember, isElement⟩ := mem_filterMap.mp isElement
    obtain ⟨second, secondMember, isMember⟩ := mem_flatMap.mp isMember
    have different : first ≠ second := by
      rintro rfl
      obtain ⟨leaf, value⟩ := first
      cases value with
      | array key items => cases isElement
      | _ => cases isMember
    have symmetric : ∀ visit other : ChildrenLeaf Value Error × ChildrenValue Value Error,
        List.Disjoint (keyParts visit) (keyParts other) →
        List.Disjoint (keyParts other) (keyParts visit) :=
      fun _ _ disjoint _ first second => disjoint second first
    exact @List.Pairwise.forall _ _ _ ⟨symmetric⟩ apart first firstMember second secondMember
      different parts (mem_append_left _ (Option.mem_toList.mpr isElement))
      (mem_append_right _ isMember)
  · intro named
    refine ⟨fun visit member => nodup_keyParts visit (distinct visit member), ?_⟩
    refine paths.imp_of_mem ?_
    intro first second firstMember secondMember different parts isFirst isSecond
    have isNamed : ∀ {element array}, element ∈ mapped → array ∈ mapped →
        elementParts? element.1 element.2 = some parts → parts ∉ arrayParts array.1 array.2 :=
      fun elementMember arrayMember isElement isMember =>
        named parts (mem_filterMap.mpr ⟨_, elementMember, isElement⟩)
          (mem_flatMap.mpr ⟨_, arrayMember, isMember⟩)
    rcases mem_append.mp isFirst with firstElement | firstArray
    · have isElement := Option.mem_toList.mp firstElement
      rcases mem_append.mp isSecond with secondElement | secondArray
      · have other := path_of_elementParts? (Option.mem_toList.mp secondElement)
        exact different ((path_of_elementParts? isElement).symm.trans other)
      · exact isNamed firstMember secondMember isElement secondArray
    · rcases mem_append.mp isSecond with secondElement | secondArray
      · exact isNamed secondMember firstMember (Option.mem_toList.mp secondElement) firstArray
      · have same := (front_of_mem_arrayParts firstArray).symm.trans
          (front_of_mem_arrayParts secondArray)
        exact different (pathName_injective (Option.some.inj same))

theorem keysApart_iff : (elementKeys (mapped.flatMap pushedFor)).Nodup ↔ KeysApart mapped := by
  have keys : elementKeys (mapped.flatMap pushedFor) =
      (mapped.flatMap keyParts).map joined := by
    rw [elementKeys, filterMap_flatMap, map_flatMap]
    exact flatMap_congr fun visit _ => elementKeys_pushedFor visit
  have named := nodup_flatMap_keyParts_iff paths distinct
  rw [keys]
  constructor
  · intro nodup
    have parts := nodup.of_map
    have injective := (nodup_map_iff_inj_on parts).mp nodup
    refine ⟨named.mp parts, ?_⟩
    intro first firstMember second secondMember cut
    have same := injective first firstMember second secondMember (joined_of_cutBy cut)
    exact first.not_cutBy_self (same ▸ cut)
  · intro apart
    rw [nodup_map_iff_inj_on (named.mpr apart.named)]
    intro first firstMember second secondMember same
    rcases joined_eq_iff.mp same with equal | cut | cut
    · exact equal
    · exact absurd cut (apart.uncut first firstMember second secondMember)
    · exact absurd cut (apart.uncut second secondMember first firstMember)

end

/-- Children whose explicit keys are distinct are mapped to elements with distinct keys exactly
when no returned key names the place of an element in a returned array, and no slash in the
path of a key stands where what is in front of another key ends. -/
theorem mapped_keys_distinct_iff
    {children : ChildrenValue Value Error}
    {func : ChildrenValue Value Error → Nat → EStateM Error World (ChildrenValue Value Error)}
    {returned : List (ChildrenValue Value Error)}
    {world after : World}
    (fulfilled : children.Fulfilled)
    (distinct : children.KeysDistinct)
    (ran : (children.visited.zipIdx.mapM fun visit => func visit.1.child visit.2).run world =
      .ok returned after)
    (allowed : ∀ value ∈ returned, value.Fulfilled ∧ value.KeysDistinct) :
    ∃ result,
      (ChildrenHelper.map children func).run world = .ok (children.mapped result) after ∧
        ((elementKeys result).Nodup ↔ KeysApart (children.visited.zip returned)) := by
  have called := run_foldlM_callFor ran (fun value member => (allowed value member).1) []
  rw [zipIdx_map_fst, nil_append] at called
  refine ⟨_, ?_, keysApart_iff ?_ ?_⟩
  · rw [ChildrenHelper.map, mapChildrenImpl_eq fulfilled, callInOrder, map_eq_pure_bind,
      EStateM.run_bind, called]
    rfl
  · have paths := nodup_pathsOf_visited distinct
    rw [pathsOf, List.Nodup, pairwise_map] at paths
    exact pairwise_zip paths returned
  · exact fun visit member => (allowed visit.2 (of_mem_zip member).2).2

/-- An element, and one with a slash in its key. -/
def slashedChildren : ChildrenValue Nat Nat :=
  .array none [.element none 1, .element (some (['x', '/', '.', '0'].map unit)) 2]

/-- Give the first child a key, and return the other one as it is. -/
def keyFirst (child : ChildrenValue Nat Nat) (index : Nat) :
    EStateM Nat Unit (ChildrenValue Nat Nat) :=
  pure (if index = 0 then .element (some (['.', '$', 'x'].map unit)) 1 else child)

theorem keysDistinct_slashedChildren : slashedChildren.KeysDistinct :=
  ⟨by decide, nodup_nil, nodup_nil, trivial⟩

/-- The key of the second child holds the text that the keys of the first one are joined with. -/
theorem mapped_keys_meet :
    slashedChildren.KeysDistinct ∧
      (ChildrenHelper.map slashedChildren keyFirst).run () = .ok (some [
        .element (some (['.', '$', 'x', '/', '.', '0'].map unit)) 1,
        .element (some (['.', '$', 'x', '/', '.', '0'].map unit)) 2]) () :=
  ⟨keysDistinct_slashedChildren, rfl⟩

theorem mapped_keys_distinct_iff_sample :
    ∃ result,
      (ChildrenHelper.map slashedChildren keyFirst).run () = .ok (some result) () ∧
        ((elementKeys result).Nodup ↔
          KeysApart (slashedChildren.visited.zip [
            .element (some (['.', '$', 'x'].map unit)) 1,
            .element (some (['x', '/', '.', '0'].map unit)) 2])) :=
  mapped_keys_distinct_iff ⟨nofun, nofun, nofun, trivial⟩ keysDistinct_slashedChildren rfl (by
    simp [Fulfilled, KeysDistinct, Everywhere, members])

end FastReact
