import FastReact.ChildrenHelper
import Mathlib.Data.List.Nodup

namespace FastReact

open ChildrenHelper ChildrenValue List Nat

/-!
# The leaves of children and their paths

A leaf is found by the explicit keys and positions on the way to it.  The name that the
traversal builds for a path determines the path, for no part of it holds the separator, and
the mark of explicit keys tells them from positions.
-/

variable {Value Error : Type}

/-- How a member is told from the others: by its key or by its position. -/
inductive Segment where
  | explicit (key : JsString)
  | position (index : Nat)
deriving DecidableEq

def Segment.text : Segment → JsString
  | .explicit key => escapeKey key
  | .position index => toString36 index

/-- The name of a path, as `nameSoFar` holds it. -/
def pathName : List Segment → JsString
  | [] => []
  | path => unit '.' :: [unit ':'].intercalate (path.map Segment.text)

def ChildrenValue.segment (child : ChildrenValue Value Error) (index : Nat) : Segment :=
  match child.key with
  | some key => .explicit key
  | none => .position index

/-- A leaf, as a callback sees it, with its path. -/
structure ChildrenLeaf (Value Error : Type) where
  child : ChildrenValue Value Error
  path : List Segment

/-- A leaf that is the root has the path of an only member. -/
def leafAt (path : List Segment) (child : ChildrenValue Value Error) :
    ChildrenLeaf Value Error where
  child := child
  path := if path = [] then [child.segment 0] else path

namespace ChildrenValue

mutual

/-- The leaves in depth-first order; booleans count as `null`. -/
def leavesAt (path : List Segment) :
    ChildrenValue Value Error → List (ChildrenLeaf Value Error)
  | .nullish => [leafAt path .nullish]
  | .boolean _ => [leafAt path .nullish]
  | .function => []
  | .primitive value => [leafAt path (.primitive value)]
  | .element key value => [leafAt path (.element key value)]
  | .portal key value => [leafAt path (.portal key value)]
  | .array _ items => memberLeaves path 0 items
  | .iterable _ items => memberLeaves path 0 items
  | .lazy _ resolved => leavesAt path resolved
  | .thenable _ resolved => leavesAt path resolved
  | .throwing _ _ => []

def memberLeaves (path : List Segment) (index : Nat) :
    List (ChildrenValue Value Error) → List (ChildrenLeaf Value Error)
  | [] => []
  | child :: later =>
      leavesAt (path ++ [child.segment index]) child ++ memberLeaves path (index + 1) later

end

mutual

def Everywhere (property : ChildrenValue Value Error → Prop) :
    ChildrenValue Value Error → Prop
  | .array key items => property (.array key items) ∧ EverywhereIn property items
  | .iterable key items => property (.iterable key items) ∧ EverywhereIn property items
  | .lazy key resolved => property (.lazy key resolved) ∧ Everywhere property resolved
  | .thenable key resolved => property (.thenable key resolved) ∧ Everywhere property resolved
  | child => property child

def EverywhereIn (property : ChildrenValue Value Error → Prop) :
    List (ChildrenValue Value Error) → Prop
  | [] => True
  | child :: later => Everywhere property child ∧ EverywhereIn property later

end

/-- Every lazy and every thenable is fulfilled, and every object is a child. -/
def Fulfilled (children : ChildrenValue Value Error) : Prop :=
  children.Everywhere fun child => ∀ key error, child ≠ .throwing key error

def members : ChildrenValue Value Error → List (ChildrenValue Value Error)
  | .array _ items => items
  | .iterable _ items => items
  | _ => []

/-- In every array and every iterable the explicit keys of the members are distinct. -/
def KeysDistinct (children : ChildrenValue Value Error) : Prop :=
  children.Everywhere fun child => (child.members.filterMap ChildrenValue.key).Nodup

end ChildrenValue

theorem separator_not_mem_escapeUnit (codeUnit : UInt16) : unit ':' ∉ escapeUnit codeUnit := by
  unfold escapeUnit
  split_ifs with equals separator
  · decide
  · decide
  · rintro (_ | _)
    · exact separator rfl
    · contradiction

theorem escapeUnit_append_injective {first second : UInt16} {firstLater secondLater : JsString}
    (same : escapeUnit first ++ firstLater = escapeUnit second ++ secondLater) :
    first = second ∧ firstLater = secondLater := by
  have digits : unit '0' ≠ unit '2' := by decide
  unfold escapeUnit at same
  split_ifs at same with firstEquals secondEquals secondSeparator firstSeparator secondEquals
    secondSeparator secondEquals secondSeparator
  all_goals simp only [cons_append, nil_append, cons.injEq] at same
  · exact ⟨firstEquals.trans secondEquals.symm, same.2.2⟩
  · exact absurd same.2.1 digits
  · exact absurd same.1.symm secondEquals
  · exact absurd same.2.1.symm digits
  · exact ⟨firstSeparator.trans secondSeparator.symm, same.2.2⟩
  · exact absurd same.1.symm secondEquals
  · exact absurd same.1 firstEquals
  · exact absurd same.1 firstEquals
  · exact same

theorem escapeUnit_ne_nil (codeUnit : UInt16) : escapeUnit codeUnit ≠ [] := by
  unfold escapeUnit
  split_ifs <;> exact cons_ne_nil _ _

theorem escapeKey_injective {first second : JsString} (same : escapeKey first = escapeKey second) :
    first = second := by
  have escaped : first.flatMap escapeUnit = second.flatMap escapeUnit := (cons.inj same).2
  clear same
  induction first generalizing second with
  | nil =>
    cases second with
    | nil => rfl
    | cons codeUnit later =>
      rw [flatMap_cons, flatMap_nil] at escaped
      exact absurd (append_eq_nil_iff.mp escaped.symm).1 (escapeUnit_ne_nil codeUnit)
  | cons codeUnit later ih =>
    cases second with
    | nil =>
      rw [flatMap_cons, flatMap_nil] at escaped
      exact absurd (append_eq_nil_iff.mp escaped).1 (escapeUnit_ne_nil codeUnit)
    | cons other secondLater =>
      rw [flatMap_cons, flatMap_cons] at escaped
      obtain ⟨rfl, sameLater⟩ := escapeUnit_append_injective escaped
      rw [ih sameLater]

theorem separator_not_mem_escapeKey (key : JsString) : unit ':' ∉ escapeKey key := by
  unfold escapeKey
  rw [mem_cons, mem_flatMap]
  rintro (mark | ⟨codeUnit, -, member⟩)
  · exact absurd mark (by decide)
  · exact separator_not_mem_escapeUnit codeUnit member

def digitValue (codeUnit : UInt16) : Nat :=
  if codeUnit.toNat < 58 then codeUnit.toNat - 48 else codeUnit.toNat - 87

theorem digitValue_digit36 : ∀ value < 36, digitValue (digit36 value) = value := by decide

theorem digit36_ne : ∀ value < 36, digit36 value ≠ unit ':' ∧ digit36 value ≠ unit '$' := by decide

theorem ofDigits_toString36 (index : Nat) :
    ofDigits 36 ((toString36 index).reverse.map digitValue) = index := by
  unfold toString36
  split_ifs with isZero
  · rw [isZero]
    decide
  · have digits : ((digits 36 index).map digit36).map digitValue = digits 36 index := by
      rw [map_map]
      refine (map_congr_left fun value isDigit => ?_).trans (map_id _)
      exact digitValue_digit36 value (digits_lt_base (by decide) isDigit)
    rw [reverse_reverse, digits, ofDigits_digits]

theorem toString36_injective {first second : Nat} (same : toString36 first = toString36 second) :
    first = second := by
  rw [← ofDigits_toString36 first, same, ofDigits_toString36]

theorem not_mem_toString36 (index : Nat) :
    unit ':' ∉ toString36 index ∧ unit '$' ∉ toString36 index := by
  unfold toString36
  split_ifs
  · decide
  · have digit : ∀ codeUnit ∈ (digits 36 index).map digit36,
        codeUnit ≠ unit ':' ∧ codeUnit ≠ unit '$' := by
      intro codeUnit member
      obtain ⟨value, isDigit, rfl⟩ := mem_map.mp member
      exact digit36_ne value (digits_lt_base (by decide) isDigit)
    constructor
    · intro member
      exact (digit _ (mem_reverse.mp member)).1 rfl
    · intro member
      exact (digit _ (mem_reverse.mp member)).2 rfl

theorem escapeKey_ne_toString36 (key : JsString) (index : Nat) :
    escapeKey key ≠ toString36 index := by
  intro same
  have marked : unit '$' ∈ escapeKey key := mem_cons_self
  rw [same] at marked
  exact (not_mem_toString36 index).2 marked

namespace Segment

theorem separator_not_mem_text (segment : Segment) : unit ':' ∉ segment.text := by
  cases segment with
  | explicit key => exact separator_not_mem_escapeKey key
  | position index => exact (not_mem_toString36 index).1

theorem text_injective {first second : Segment} (same : first.text = second.text) :
    first = second := by
  cases first with
  | explicit key =>
    cases second with
    | explicit other => exact congrArg Segment.explicit (escapeKey_injective same)
    | position index => exact absurd same (escapeKey_ne_toString36 key index)
  | position index =>
    cases second with
    | explicit key => exact absurd same.symm (escapeKey_ne_toString36 key index)
    | position other => exact congrArg Segment.position (toString36_injective same)

end Segment

theorem pathName_injective {first second : List Segment} (same : pathName first = pathName second) :
    first = second := by
  have texts : ∀ path : List Segment, path ≠ [] →
      ([unit ':'].intercalate (path.map Segment.text)).splitOn (unit ':') =
        path.map Segment.text := by
    intro path notEmpty
    apply splitOn_intercalate
    · intro text member
      obtain ⟨segment, -, rfl⟩ := mem_map.mp member
      exact segment.separator_not_mem_text
    · rwa [Ne, map_eq_nil_iff]
  cases first with
  | nil =>
    cases second with
    | nil => rfl
    | cons segment later => exact absurd same.symm (cons_ne_nil _ _)
  | cons segment later =>
    cases second with
    | nil => exact absurd same (cons_ne_nil _ _)
    | cons other secondLater =>
      have joined := congrArg (splitOn (unit ':')) (cons.inj same).2
      rw [texts _ (cons_ne_nil _ _), texts _ (cons_ne_nil _ _)] at joined
      exact map_injective_iff.mpr (fun _ _ => Segment.text_injective) joined

theorem pathName_append (path : List Segment) (segment : Segment) :
    pathName (path ++ [segment]) = nextNamePrefix (pathName path) ++ segment.text := by
  have joined : ∀ (texts : List JsString) (text : JsString), texts ≠ [] →
      [unit ':'].intercalate (texts ++ [text]) =
        [unit ':'].intercalate texts ++ [unit ':'] ++ text := by
    intro texts text
    induction texts with
    | nil => exact fun empty => absurd rfl empty
    | cons first later ih =>
      intro _
      cases later with
      | nil => simp [intercalate]
      | cons second others =>
        have shorter := ih (cons_ne_nil _ _)
        simp only [intercalate, cons_append, intersperse_cons_cons,
          flatten_cons, append_assoc] at shorter ⊢
        rw [shorter]
  cases path with
  | nil => simp [pathName, nextNamePrefix, intercalate]
  | cons first later =>
    have longer := joined ((first :: later).map Segment.text) segment.text (cons_ne_nil _ _)
    have texts := @map_append _ _ Segment.text (first :: later) [segment]
    change unit '.' :: [unit ':'].intercalate ((first :: later ++ [segment]).map Segment.text) = _
    rw [texts]
    exact congrArg (cons (unit '.')) longer

namespace ChildrenValue

/-- A segment that tells a member from the ones before it. -/
def FromIndex (items : List (ChildrenValue Value Error)) (index : Nat) : Segment → Prop
  | .explicit key => key ∈ items.filterMap ChildrenValue.key
  | .position position => index ≤ position

theorem fromIndex_segment (child : ChildrenValue Value Error)
    (later : List (ChildrenValue Value Error)) (index : Nat) :
    FromIndex (child :: later) index (child.segment index) := by
  unfold segment
  cases isKey : child.key with
  | none => exact le_refl index
  | some key => exact mem_filterMap.mpr ⟨child, mem_cons_self, isKey⟩

variable {child : ChildrenValue Value Error} {later : List (ChildrenValue Value Error)}

theorem FromIndex.of_later {index : Nat}
    {segment : Segment} (fromLater : FromIndex later (index + 1) segment) :
    FromIndex (child :: later) index segment := by
  cases segment with
  | explicit key =>
    obtain ⟨other, member, isKey⟩ := mem_filterMap.mp fromLater
    exact mem_filterMap.mpr ⟨other, mem_cons_of_mem child member, isKey⟩
  | position position => exact le_of_succ_le fromLater

theorem not_fromIndex_segment {index : Nat} (keys : ((child :: later).filterMap key).Nodup) :
    ¬ FromIndex later (index + 1) (child.segment index) := by
  unfold segment
  cases isKey : child.key with
  | none => exact not_succ_le_self index
  | some key =>
    rw [filterMap_cons_some isKey, nodup_cons] at keys
    exact keys.1

variable {leaf : ChildrenLeaf Value Error}

theorem path_of_leafAt {path : List Segment}
    (member : leaf ∈ [leafAt path child]) : path <+: leaf.path := by
  rw [mem_singleton.mp member]
  unfold leafAt
  split_ifs with isRoot
  · rw [isRoot]
    exact nil_prefix
  · exact prefix_refl path

mutual

theorem path_of_leavesAt (path : List Segment) (children : ChildrenValue Value Error)
    (member : leaf ∈ leavesAt path children) : path <+: leaf.path := by
  cases children with
  | nullish => exact path_of_leafAt member
  | boolean value => exact path_of_leafAt member
  | function => cases member
  | primitive value => exact path_of_leafAt member
  | element key value => exact path_of_leafAt member
  | portal key value => exact path_of_leafAt member
  | array key items =>
    obtain ⟨segment, -, below⟩ := path_of_memberLeaves path 0 items member
    exact (prefix_append path [segment]).trans below
  | iterable key items =>
    obtain ⟨segment, -, below⟩ := path_of_memberLeaves path 0 items member
    exact (prefix_append path [segment]).trans below
  | lazy key resolved => exact path_of_leavesAt path resolved member
  | thenable key resolved => exact path_of_leavesAt path resolved member
  | throwing key error => cases member

theorem path_of_memberLeaves (path : List Segment) (index : Nat)
    (items : List (ChildrenValue Value Error)) (member : leaf ∈ memberLeaves path index items) :
    ∃ segment, FromIndex items index segment ∧ path ++ [segment] <+: leaf.path := by
  cases items with
  | nil => cases member
  | cons child later =>
    rcases mem_append.mp member with first | other
    · exact ⟨child.segment index, fromIndex_segment child later index,
        path_of_leavesAt (path ++ [child.segment index]) child first⟩
    · obtain ⟨segment, fromLater, below⟩ := path_of_memberLeaves path (index + 1) later other
      exact ⟨segment, fromLater.of_later, below⟩

end

def pathsOf (leaves : List (ChildrenLeaf Value Error)) : List (List Segment) :=
  leaves.map ChildrenLeaf.path

theorem nodup_pathsOf_singleton (leaf : ChildrenLeaf Value Error) : (pathsOf [leaf]).Nodup :=
  nodup_singleton leaf.path

mutual

theorem nodup_pathsOf_leavesAt (path : List Segment) (children : ChildrenValue Value Error)
    (distinct : children.KeysDistinct) : (pathsOf (leavesAt path children)).Nodup := by
  cases children with
  | nullish => exact nodup_pathsOf_singleton _
  | boolean value => exact nodup_pathsOf_singleton _
  | function => exact nodup_nil
  | primitive value => exact nodup_pathsOf_singleton _
  | element key value => exact nodup_pathsOf_singleton _
  | portal key value => exact nodup_pathsOf_singleton _
  | array key items => exact nodup_pathsOf_memberLeaves path 0 items distinct.1 distinct.2
  | iterable key items => exact nodup_pathsOf_memberLeaves path 0 items distinct.1 distinct.2
  | lazy key resolved => exact nodup_pathsOf_leavesAt path resolved distinct.2
  | thenable key resolved => exact nodup_pathsOf_leavesAt path resolved distinct.2
  | throwing key error => exact nodup_nil

theorem nodup_pathsOf_memberLeaves (path : List Segment) (index : Nat)
    (items : List (ChildrenValue Value Error)) (keys : (items.filterMap key).Nodup)
    (distinct : EverywhereIn (fun child => (child.members.filterMap key).Nodup) items) :
    (pathsOf (memberLeaves path index items)).Nodup := by
  cases items with
  | nil => exact nodup_nil
  | cons child later =>
    have laterKeys : (later.filterMap key).Nodup := by
      cases isKey : child.key with
      | none => rwa [filterMap_cons_none isKey] at keys
      | some key =>
        rw [filterMap_cons_some isKey, nodup_cons] at keys
        exact keys.2
    have firstPaths := nodup_pathsOf_leavesAt (path ++ [child.segment index]) child distinct.1
    have laterPaths := nodup_pathsOf_memberLeaves path (index + 1) later laterKeys distinct.2
    unfold memberLeaves pathsOf
    rw [map_append]
    refine List.Nodup.append firstPaths laterPaths ?_
    intro leafPath inFirst inLater
    obtain ⟨first, firstMember, rfl⟩ := mem_map.mp inFirst
    obtain ⟨other, otherMember, samePath⟩ := mem_map.mp inLater
    have below := path_of_leavesAt (path ++ [child.segment index]) child firstMember
    obtain ⟨segment, fromLater, otherBelow⟩ :=
      path_of_memberLeaves path (index + 1) later otherMember
    rw [samePath] at otherBelow
    have sameSegment : path ++ [child.segment index] = path ++ [segment] :=
      (prefix_of_prefix_length_le below otherBelow (by simp)).eq_of_length (by simp)
    rw [append_cancel_left_eq, cons.injEq] at sameSegment
    rw [← sameSegment.1] at fromLater
    exact not_fromIndex_segment keys fromLater

end

end ChildrenValue

end FastReact
