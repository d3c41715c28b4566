import FastReact.LinkChain
import Mathlib.Logic.Function.Basic

/-!
# Rings that share no member

Several owners point at the tails of rings over one successor function.  A link may only
be changed at a member of an owner's own ring or at an element without a link, unless the
ring of another owner is spliced into it: then this ring grows by all of the other.
-/

namespace LinkChain

open Function List

variable {ι Owner : Type} {next next' : ι → Option ι} {tail tail' : Owner → Option ι}
  {members : Owner → List ι} {owner other : Owner} {id : ι}

/-- Every tail pointer has its ring, and no two rings share a member. -/
structure RingsApart (next : ι → Option ι) (tail : Owner → Option ι)
    (members : Owner → List ι) : Prop where
  ring : ∀ owner, IsRingAt next (tail owner) (members owner)
  apart : ∀ owner other, owner ≠ other → (members owner).Disjoint (members other)

namespace IsRingAt

variable {pointer : Option ι} {ids : List ι}

theorem isSome_next (ring : IsRingAt next pointer ids) (member : id ∈ ids) :
    (next id).isSome = true := by
  cases pointer with
  | none =>
    have nothing : ids = [] := ring
    rw [nothing] at member
    cases member
  | some tail =>
    have closed : IsRing next tail ids := ring
    obtain ⟨successor, -, linked⟩ := closed.next_mem member
    rw [linked, Option.isSome_some]

end IsRingAt

theorem IsRing.insert {ringTail base inner : ι} {outerIds innerIds : List ι}
    (outer : IsRing next ringTail outerIds) (inside : IsRing next inner innerIds)
    (disjoint : outerIds.Disjoint innerIds) (member : base ∈ outerIds)
    (toInner : next' base = innerIds.head?) (toOuter : next' inner = next base)
    (unchanged : ∀ other, other ≠ base → other ≠ inner → next' other = next other) :
    ∃ ids, IsRing next' ringTail ids ∧ ∀ id, id ∈ ids ↔ id ∈ outerIds ∨ id ∈ innerIds := by
  obtain ⟨before, after, rfl⟩ := mem_iff_append.mp member
  have shape : before ++ base :: after = (before ++ [base]) ++ after := by simp
  rw [shape] at outer
  -- The outer ring read from behind the member, so that the member is its tail.
  have turned : IsRing next base (after ++ (before ++ [base])) := outer.rotate (by simp)
  have turnedDisjoint : (after ++ (before ++ [base])).Disjoint innerIds := by
    intro id inTurned inInner
    refine disjoint ?_ inInner
    simp only [mem_append, mem_cons, not_mem_nil, or_false] at inTurned ⊢
    tauto
  have joined : IsRing next' inner ((after ++ (before ++ [base])) ++ innerIds) :=
    .of_segments turned.toIsSegment inside.toIsSegment turnedDisjoint toInner
      (toOuter.trans turned.closed) unchanged
  have sameMembers : ∀ id, id ∈ (after ++ (before ++ [base])) ++ innerIds ↔
      id ∈ before ++ base :: after ∨ id ∈ innerIds := by
    intro id
    simp only [mem_append, mem_cons, not_mem_nil, or_false]
    tauto
  cases afterLast : after.getLast? with
  | none =>
    -- The member is the tail of the outer ring.
    obtain rfl := getLast?_eq_none_iff.mp afterLast
    obtain rfl : base = ringTail := by
      have last := outer.last
      simpa using last
    refine ⟨innerIds ++ (before ++ [base]), ?_, ?_⟩
    · simp only [nil_append] at joined
      exact joined.rotate (by simp)
    · intro id
      rw [← sameMembers]
      simp only [nil_append, mem_append]
      tauto
  | some last =>
    obtain rfl : last = ringTail := by
      have outerLast := outer.last
      rw [getLast?_append, afterLast] at outerLast
      exact Option.some.inj outerLast
    refine ⟨((before ++ [base]) ++ innerIds) ++ after, ?_, ?_⟩
    · rw [append_assoc] at joined
      exact joined.rotate afterLast
    · intro id
      rw [← sameMembers]
      simp only [mem_append]
      tauto

namespace RingsApart

section

variable (rings : RingsApart next tail members)
include rings

theorem congr (kept : ∀ id, (next id).isSome = true → next' id = next id)
    (sameTail : ∀ owner, tail' owner = tail owner) : RingsApart next' tail' members where
  ring := by
    intro owner
    rw [sameTail]
    exact (rings.ring owner).congr fun id member => kept id ((rings.ring owner).isSome_next member)
  apart := rings.apart

/-- An owner gets another ring, of its own members and of elements without a link. -/
theorem replace [DecidableEq Owner] {pointer : Option ι} {ids : List ι}
    (kept : ∀ other, other ≠ owner → ∀ id ∈ members other, next' id = next id)
    (ring : IsRingAt next' pointer ids)
    (available : ∀ id ∈ ids, id ∈ members owner ∨ next id = none) :
    RingsApart next' (update tail owner pointer) (update members owner ids) := by
  have notElsewhere : ∀ other, other ≠ owner → ∀ id ∈ members other, id ∉ ids := by
    intro other different id present inIds
    rcases available id inIds with own | unlinked
    · exact rings.apart other owner different present own
    · have isLinked := (rings.ring other).isSome_next present
      rw [unlinked] at isLinked
      cases isLinked
  constructor
  · intro other
    by_cases same : other = owner
    · rw [same, update_self, update_self]
      exact ring
    · rw [update_of_ne same, update_of_ne same]
      exact (rings.ring other).congr (kept other same)
  · intro first second different id inFirst inSecond
    by_cases isFirst : first = owner
    · have isSecond : second ≠ owner := fun same => different (isFirst.trans same.symm)
      rw [isFirst, update_self] at inFirst
      rw [update_of_ne isSecond] at inSecond
      exact notElsewhere second isSecond id inSecond inFirst
    · rw [update_of_ne isFirst] at inFirst
      by_cases isSecond : second = owner
      · rw [isSecond, update_self] at inSecond
        exact notElsewhere first isFirst id inFirst inSecond
      · rw [update_of_ne isSecond] at inSecond
        exact rings.apart first second different inFirst inSecond

/-- An owner lets go of its ring. -/
theorem clear [DecidableEq Owner] (owner : Owner) :
    RingsApart next (update tail owner none) (update members owner []) :=
  rings.replace (fun _ _ _ _ => rfl) rfl (by simp)

/-- The ring of an owner is spliced in behind any linked element, and the owner lets go of
it.  The ring that the element is in grows, if there is one. -/
theorem splice [DecidableEq Owner] {base last baseFirst lastFirst : ι}
    (isLast : tail owner = some last)
    (baseLink : next base = some baseFirst) (lastLink : next last = some lastFirst)
    (toBase : next' last = some baseFirst) (toLast : base ≠ last → next' base = some lastFirst)
    (unchanged : ∀ other, other ≠ base → other ≠ last → next' other = next other) :
    ∃ membersAfter, RingsApart next' (update tail owner none) membersAfter := by
  have ownRing : IsRing next last (members owner) := by
    have ring := rings.ring owner
    rwa [isLast] at ring
  have cleared := rings.clear owner
  have lastMember := ownRing.tail_mem
  by_cases elsewhere : ∃ other, other ≠ owner ∧ base ∈ members other
  · obtain ⟨outer, different, member⟩ := elsewhere
    have baseNotLast : base ≠ last := by
      rintro rfl
      exact rings.apart outer owner different member lastMember
    have outerTail : ∃ outerLast, tail outer = some outerLast := by
      cases shape : tail outer with
      | some outerLast => exact ⟨outerLast, rfl⟩
      | none =>
        have nothing := (rings.ring outer).eq_none_iff.mp shape
        rw [nothing] at member
        cases member
    obtain ⟨outerLast, outerShape⟩ := outerTail
    have outerRing : IsRing next outerLast (members outer) := by
      have ring := rings.ring outer
      rwa [outerShape] at ring
    obtain ⟨ids, ringAfter, membership⟩ := outerRing.insert ownRing
      (rings.apart outer owner different) member
      ((toLast baseNotLast).trans (lastLink.symm.trans ownRing.closed))
      (toBase.trans baseLink.symm) unchanged
    have notInserted : ∀ other, other ≠ outer → ∀ id ∈ update members owner [] other,
        id ∉ ids := by
      intro other isOther id present
      rw [membership]
      by_cases isOwner : other = owner
      · rw [isOwner, update_self] at present
        cases present
      · rw [update_of_ne isOwner] at present
        rintro (inOuter | inOwner)
        · exact rings.apart other outer isOther present inOuter
        · exact rings.apart other owner isOwner present inOwner
    refine ⟨update (update members owner []) outer ids, ?_, ?_⟩
    · intro other
      by_cases isOuter : other = outer
      · rw [isOuter, update_self, update_of_ne different, outerShape]
        exact ringAfter
      · rw [update_of_ne isOuter]
        refine (cleared.ring other).congr fun id present => unchanged id ?_ ?_
        · rintro rfl
          have inOuter : id ∈ update members owner [] outer := by rwa [update_of_ne different]
          exact cleared.apart other outer isOuter present inOuter
        · rintro rfl
          by_cases isOwner : other = owner
          · rw [isOwner, update_self] at present
            cases present
          · rw [update_of_ne isOwner] at present
            exact rings.apart other owner isOwner present lastMember
    · intro first second isDifferent id inFirst inSecond
      by_cases isFirst : first = outer
      · have isSecond : second ≠ outer := fun same => isDifferent (isFirst.trans same.symm)
        rw [isFirst, update_self] at inFirst
        rw [update_of_ne isSecond] at inSecond
        exact notInserted second isSecond id inSecond inFirst
      · rw [update_of_ne isFirst] at inFirst
        by_cases isSecond : second = outer
        · rw [isSecond, update_self] at inSecond
          exact notInserted first isFirst id inFirst inSecond
        · rw [update_of_ne isSecond] at inSecond
          exact cleared.apart first second isDifferent inFirst inSecond
  · refine ⟨_, ?_, cleared.apart⟩
    intro other
    by_cases isOwner : other = owner
    · rw [isOwner, update_self, update_self]
      rfl
    · refine (cleared.ring other).congr fun id present => ?_
      rw [update_of_ne isOwner] at present
      refine unchanged id ?_ ?_
      · rintro rfl
        exact elsewhere ⟨other, isOwner, present⟩
      · rintro rfl
        exact rings.apart other owner isOwner present lastMember

end

end RingsApart

end LinkChain
