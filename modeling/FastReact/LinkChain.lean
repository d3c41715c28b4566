import Mathlib.Data.List.Chain
import Mathlib.Data.List.Nodup

/-!
# Linked chains

Intrusive lists keep their links inside the members: a partial successor
function says who comes next.  A segment is a run of distinct linked members, a
ring is a segment whose tail points back to its head, and a path is a segment
whose tail points nowhere.  The list of members is the abstract value of each.
-/

namespace LinkChain

open List

variable {ι : Type}

/-- Distinct members, each linked to the following one, ending in `tail`. -/
structure IsSegment (next : ι → Option ι) (tail : ι)
    (members : List ι) : Prop where
  nodup : members.Nodup
  linked : members.IsChain (fun earlier later => next earlier = some later)
  last : members.getLast? = some tail

/-- A segment whose tail points back to its head. -/
structure IsRing (next : ι → Option ι) (tail : ι)
    (members : List ι) : Prop
    extends IsSegment next tail members where
  closed : next tail = members.head?

/-- The ring a possibly absent tail pointer stands for. -/
def IsRingAt (next : ι → Option ι) : Option ι → List ι → Prop
  | none, members => members = []
  | some tail, members => IsRing next tail members

/-- The path a pair of head and tail pointers stands for. -/
def IsPathAt (next : ι → Option ι) (first : Option ι) :
    Option ι → List ι → Prop
  | none, members => first = none ∧ members = []
  | some tail, members =>
      IsSegment next tail members ∧
        first = members.head? ∧
        next tail = none

namespace IsSegment

variable {next next' : ι → Option ι} {tail : ι} {members : List ι}

theorem singleton (next : ι → Option ι) (id : ι) : IsSegment next id [id] where
  nodup := nodup_singleton id
  linked := isChain_singleton id
  last := rfl

section

variable (segment : IsSegment next tail members)
include segment

theorem tail_mem : tail ∈ members :=
  mem_of_getLast? segment.last

theorem exists_head : ∃ head, members.head? = some head ∧ head ∈ members := by
  cases members with
  | nil => simpa using segment.last
  | cons head rest => exact ⟨head, rfl, by simp⟩

theorem congr
    (agree : ∀ id ∈ members, id ≠ tail → next' id = next id) : IsSegment next' tail members := by
  refine ⟨segment.nodup, ?_, segment.last⟩
  obtain ⟨noDuplicates, linked, last⟩ := segment
  induction members with
  | nil => exact .nil
  | cons head rest ih =>
    cases rest with
    | nil => exact .singleton head
    | cons second others =>
      rw [isChain_cons_cons] at linked ⊢
      rw [nodup_cons] at noDuplicates
      rw [getLast?_cons_cons] at last
      have headNotTail : head ≠ tail := by
        rintro rfl
        exact noDuplicates.1 (mem_of_getLast? last)
      refine ⟨?_, ih ?_ noDuplicates.2 linked.2 last⟩
      · rw [agree head (by simp) headNotTail]
        exact linked.1
      · intro id member
        exact agree id (mem_cons_of_mem head member)

end

/-- Two disjoint segments join when the first tail points to the second head. -/
theorem append {firstTail secondTail : ι} {firstMembers secondMembers : List ι}
    (first : IsSegment next firstTail firstMembers)
    (second : IsSegment next secondTail secondMembers)
    (disjoint : firstMembers.Disjoint secondMembers)
    (joined : next firstTail = secondMembers.head?) :
    IsSegment next secondTail (firstMembers ++ secondMembers) where
  nodup := List.Nodup.append first.nodup second.nodup disjoint
  linked := by
    refine isChain_append.mpr ⟨first.linked, second.linked, ?_⟩
    intro earlier earlierLast later laterHead
    rw [Option.mem_def, first.last, Option.some.injEq] at earlierLast
    subst earlier
    exact joined.trans laterHead
  last := by simp [getLast?_append, second.last]

/-- A member followed by another one points to it. -/
theorem next_eq {before after : List ι} {id other : ι}
    (segment : IsSegment next tail (before ++ id :: other :: after)) : next id = some other := by
  have suffixLinked := (isChain_append.mp segment.linked).2.1
  exact (isChain_cons_cons.mp suffixLinked).1

theorem eq_tail {before : List ι} {id : ι} (segment : IsSegment next tail (before ++ [id])) :
    id = tail := by
  simpa using segment.last

end IsSegment

namespace IsRing

variable {next next' : ι → Option ι} {tail : ι} {members : List ι}

theorem congr (ring : IsRing next tail members) (agree : ∀ id ∈ members, next' id = next id) :
    IsRing next' tail members where
  toIsSegment := ring.toIsSegment.congr fun id member _ => agree id member
  closed := (agree tail ring.tail_mem).trans ring.closed

/-- Redirecting the tails of two disjoint segments to each other's heads makes
one ring of them. -/
theorem of_segments {firstTail secondTail : ι} {firstMembers secondMembers : List ι}
    (first : IsSegment next firstTail firstMembers)
    (second : IsSegment next secondTail secondMembers)
    (disjoint : firstMembers.Disjoint secondMembers)
    (joined : next' firstTail = secondMembers.head?)
    (closed : next' secondTail = firstMembers.head?)
    (unchanged : ∀ id, id ≠ firstTail → id ≠ secondTail → next' id = next id) :
    IsRing next' secondTail (firstMembers ++ secondMembers) where
  toIsSegment := by
    refine IsSegment.append (first.congr ?_) (second.congr ?_) disjoint joined
    · intro id member notFirst
      refine unchanged id notFirst ?_
      rintro rfl
      exact disjoint member second.tail_mem
    · intro id member notSecond
      refine unchanged id ?_ notSecond
      rintro rfl
      exact disjoint first.tail_mem member
  closed := by
    obtain ⟨head, headShape, -⟩ := first.exists_head
    simp [closed, head?_append, headShape]

theorem next_mem (ring : IsRing next tail members) {id : ι} (member : id ∈ members) :
    ∃ successor ∈ members, next id = some successor := by
  obtain ⟨before, after, rfl⟩ := mem_iff_append.mp member
  cases after with
  | nil =>
    obtain ⟨head, headShape, headMember⟩ := ring.exists_head
    refine ⟨head, headMember, ?_⟩
    rw [ring.eq_tail, ring.closed, headShape]
  | cons other rest => exact ⟨other, by simp, ring.next_eq⟩

/-- Going round a ring of keyed items: a member that nothing follows points to the first one,
and every other one to the next, which is not the first. -/
theorem around {Item : Type} {key : Item → ι} {items : List Item}
    {motive : List Item → Item → List Item → Prop} (ring : IsRing next tail (items.map key))
    (closing : ∀ before item, items = before ++ [item] →
      next (key item) = (items.map key).head? → motive before item [])
    (onward : ∀ before item other later, items = before ++ item :: other :: later →
      next (key item) = some (key other) → some (key other) ≠ (items.map key).head? →
      motive (before ++ [item]) other later → motive before item (other :: later)) :
    ∀ later before item, items = before ++ item :: later → motive before item later := by
  intro later
  induction later with
  | nil =>
    rintro before item rfl
    refine closing before item rfl ?_
    rw [← ring.closed]
    rw [map_append] at ring
    exact congrArg next ring.eq_tail
  | cons other later ih =>
    rintro before item rfl
    rw [map_append] at ring
    refine onward before item other later rfl ring.next_eq ?_ (ih _ _ (by simp))
    intro isFirst
    have noDuplicates : ((before ++ [item]).map key ++ (other :: later).map key).Nodup := by
      simpa using ring.nodup
    have atFirst : ((before ++ [item]).map key).head? = some (key other) := by
      rw [isFirst]
      cases before <;> rfl
    exact disjoint_of_nodup_append noDuplicates (mem_of_head? atFirst) mem_cons_self

/-- A ring read from behind one of its members. -/
theorem rotate {first second : List ι} {middle : ι} (ring : IsRing next tail (first ++ second))
    (firstLast : first.getLast? = some middle) : IsRing next middle (second ++ first) := by
  by_cases nothing : second = []
  · subst second
    rw [append_nil] at ring
    obtain rfl : tail = middle := Option.some.inj (ring.last.symm.trans firstLast)
    exact ring
  · have chains := isChain_append.mp ring.linked
    have noDuplicates := nodup_append'.mp ring.nodup
    have firstSegment : IsSegment next middle first := ⟨noDuplicates.1, chains.1, firstLast⟩
    have secondLast : second.getLast? = some tail := by
      have last := ring.last
      rwa [getLast?_append_of_ne_nil _ nothing] at last
    have secondSegment : IsSegment next tail second := ⟨noDuplicates.2.1, chains.2.1, secondLast⟩
    obtain ⟨firstHead, firstHeadShape, -⟩ := firstSegment.exists_head
    obtain ⟨secondHead, secondHeadShape, -⟩ := secondSegment.exists_head
    refine IsRing.of_segments secondSegment firstSegment
      (fun _ inSecond inFirst => noDuplicates.2.2 inFirst inSecond) ?_ ?_
      fun _ _ _ => rfl
    · rw [ring.closed, head?_append, firstHeadShape]
      rfl
    · rw [secondHeadShape]
      exact chains.2.2 middle firstLast secondHead secondHeadShape

/-- A member that points to the head closes a ring of the members up to it. -/
theorem cut {before after : List ι} {id : ι} (ring : IsRing next tail (before ++ id :: after))
    (closed : next' id = (before ++ [id]).head?)
    (unchanged : ∀ other ∈ before, next' other = next other) :
    IsRing next' id (before ++ [id]) := by
  have shape : before ++ id :: after = (before ++ [id]) ++ after := by simp
  have linked := ring.linked
  have noDuplicates := ring.nodup
  rw [shape] at linked noDuplicates
  have segment : IsSegment next id (before ++ [id]) :=
    ⟨(nodup_append'.mp noDuplicates).1, (isChain_append.mp linked).1, by simp⟩
  refine ⟨segment.congr ?_, closed⟩
  intro other member notTail
  rcases mem_append.mp member with isBefore | isLast
  · exact unchanged other isBefore
  · exact absurd (mem_singleton.mp isLast) notTail

end IsRing

namespace IsRingAt

variable {next next' : ι → Option ι} {tail : Option ι} {members : List ι}

section

variable (ring : IsRingAt next tail members)
include ring

theorem congr (agree : ∀ id ∈ members, next' id = next id) : IsRingAt next' tail members := by
  cases tail with
  | none => exact ring
  | some tail => exact IsRing.congr ring agree

/-- The tail pointer of a ring is absent exactly when it has no members. -/
theorem eq_none_iff : tail = none ↔ members = [] := by
  cases tail with
  | none => exact iff_of_true rfl ring
  | some tail =>
    have tailMember : tail ∈ members := IsSegment.tail_mem ring.toIsSegment
    constructor
    · simp
    · rintro rfl
      simp at tailMember

theorem nodup : members.Nodup := by
  cases tail with
  | none =>
    obtain rfl : members = [] := ring
    exact nodup_nil
  | some tail => exact IsSegment.nodup ring.toIsSegment

end

end IsRingAt

namespace IsPathAt

variable {next next' : ι → Option ι} {first last : Option ι} {members : List ι}

section

variable (path : IsPathAt next first last members)
include path

theorem congr
    (agree : ∀ id ∈ members, next' id = next id) : IsPathAt next' first last members := by
  cases last with
  | none => exact path
  | some tail =>
    obtain ⟨segment, firstShape, ended⟩ := path
    exact ⟨segment.congr fun id member _ => agree id member, firstShape,
      (agree tail segment.tail_mem).trans ended⟩

theorem nodup : members.Nodup := by
  cases last with
  | none =>
    rw [path.2]
    exact nodup_nil
  | some tail => exact path.1.nodup

theorem first_eq : first = members.head? := by
  cases last with
  | none =>
    rw [path.1, path.2]
    rfl
  | some tail => exact path.2.1

theorem last_eq : last = members.getLast? := by
  cases last with
  | none =>
    rw [path.2]
    rfl
  | some tail => exact path.1.last.symm

end

/-- A member of a path points to the member behind it, the last one nowhere. -/
theorem next_eq {before after : List ι} {id : ι}
    (path : IsPathAt next first last (before ++ id :: after)) : next id = after.head? := by
  cases last with
  | none => simp [IsPathAt] at path
  | some tail =>
    cases after with
    | nil =>
      rw [path.1.eq_tail]
      exact path.2.2
    | cons other rest => exact path.1.next_eq

section

variable (path : IsPathAt next first last members)
include path

/-- The member at a position points to the member at the position behind it. -/
theorem next_eq_getElem? {position : Nat} {id : ι}
    (found : members[position]? = some id) : next id = members[position + 1]? := by
  obtain ⟨inside, rfl⟩ := List.getElem?_eq_some_iff.mp found
  have shape : members.take position ++ members[position] :: members.drop (position + 1) =
      members := by
    rw [← List.drop_eq_getElem_cons inside, List.take_append_drop]
  rw [← shape] at path
  rw [path.next_eq, head?_drop]

/-- Only the last member of a path points nowhere. -/
theorem eq_last {id : ι} (member : id ∈ members)
    (ended : next id = none) : last = some id := by
  obtain ⟨before, after, rfl⟩ := mem_iff_append.mp member
  cases after with
  | nil => rw [path.last_eq, getLast?_concat]
  | cons other rest =>
    rw [path.next_eq] at ended
    cases ended

/-- A path grows at its end when the old tail is linked to the new member. -/
theorem push {id : ι} (fresh : id ∉ members)
    (unchanged : ∀ member ∈ members, some member ≠ last → next' member = next member)
    (linked : ∀ tail, last = some tail → next' tail = some id) (ended : next' id = none) :
    IsPathAt next' (first.or (some id)) (some id) (members ++ [id]) := by
  cases last with
  | none =>
    obtain ⟨rfl, rfl⟩ := path
    exact ⟨.singleton next' id, rfl, ended⟩
  | some tail =>
    obtain ⟨segment, rfl, -⟩ := path
    have oldSegment : IsSegment next' tail members :=
      segment.congr fun member present different =>
        unchanged member present (by simpa using different)
    refine ⟨oldSegment.append (.singleton next' id) ?_ ?_, ?_, ended⟩
    · simpa using fresh
    · exact linked tail rfl
    · obtain ⟨head, headShape, -⟩ := segment.exists_head
      simp [head?_append, headShape]

end

/-- Pointing the tail of a path back to its head closes it to a ring. -/
theorem close {tail : ι} (path : IsPathAt next first (some tail) members)
    (closed : next' tail = first) (unchanged : ∀ id ∈ members, id ≠ tail → next' id = next id) :
    IsRing next' tail members where
  toIsSegment := path.1.congr unchanged
  closed := closed.trans path.2.1

/-- Distinct members that point to their successors form a path. -/
theorem of_next (noDuplicates : members.Nodup)
    (linked : ∀ before id after, members = before ++ id :: after → next id = after.head?) :
    IsPathAt next members.head? members.getLast? members := by
  cases lastShape : members.getLast? with
  | none =>
    rw [getLast?_eq_none_iff] at lastShape
    subst members
    exact ⟨rfl, rfl⟩
  | some tail =>
    have ended : next tail = none := by
      obtain ⟨before, shape⟩ := getLast?_eq_some_iff.mp lastShape
      simpa using linked before tail [] shape
    refine ⟨⟨noDuplicates, ?_, lastShape⟩, rfl, ended⟩
    clear ended lastShape
    induction members with
    | nil => exact .nil
    | cons head rest ih =>
      cases rest with
      | nil => exact .singleton head
      | cons second others =>
        refine isChain_cons_cons.mpr ⟨?_, ?_⟩
        · simpa using linked [] head (second :: others) rfl
        · refine ih (nodup_cons.mp noDuplicates).2 ?_
          intro before id after shape
          exact linked (head :: before) id after (by rw [shape]; rfl)

/-- The end of a path is a path. -/
theorem suffix {before : List ι} (path : IsPathAt next first last (before ++ members))
    (nonempty : members ≠ []) : IsPathAt next members.head? last members := by
  have sameLast : last = members.getLast? := by
    rw [path.last_eq, getLast?_append_of_ne_nil before nonempty]
  rw [sameLast]
  refine of_next (nodup_append'.mp path.nodup).2.1 ?_
  rintro middle id after rfl
  rw [← append_assoc] at path
  exact path.next_eq

end IsPathAt

end LinkChain
