import FastReact.LinkedArena

/-!
# Families of disjoint rings

Several owners keep one ring each in one arena of linked nodes, and no node is in two
rings.  A change of some rings keeps the family when the members of the other rings are
left alone and the changed rings take their members from each other or from nodes that
were not linked.
-/

open LinkChain SlotArena

namespace LinkedArena

variable {Tag Data Owner : Type} {arena after : LinkedArena Tag Data} {id : Handle Tag}

/-- Every owner's tail pointer has its ring, and no two rings share a member. -/
structure RingFamily (arena : LinkedArena Tag Data) (tail : Owner → Option (Handle Tag))
    (members : Owner → List (Handle Tag))
    (datas : Owner → List Data) : Prop where
  rings : ∀ owner, HoldsRing arena (tail owner) (members owner) (datas owner)
  disjoint : ∀ owner other, owner ≠ other → (members owner).Disjoint (members other)

namespace RingFamily

variable {tail laterTail : Owner → Option (Handle Tag)}
  {members laterMembers : Owner → List (Handle Tag)} {datas laterDatas : Owner → List Data}

/-- The nodes that some owners may build their rings from: their own members and the
nodes that are not linked. -/
def Available (arena : LinkedArena Tag Data) (members : Owner → List (Handle Tag))
    (changed : Owner → Prop)
    (id : Handle Tag) : Prop :=
  (∃ owner, changed owner ∧ id ∈ members owner) ∨ arena.next? id = none

theorem not_mem_of_available {changed : Owner → Prop} {owner : Owner}
    (family : RingFamily arena tail members datas) (unchanged : ¬ changed owner)
    (available : Available arena members changed id) : id ∉ members owner := by
  rcases available with ⟨other, isChanged, member⟩ | unlinked
  · intro again
    have different : other ≠ owner := fun same => unchanged (same ▸ isChanged)
    exact family.disjoint other owner different member again
  · exact (family.rings owner).not_mem_of_unlinked unlinked

/-- Changing the rings of some owners, within the nodes available to them. -/
theorem replace (changed : Owner → Prop) (family : RingFamily arena tail members datas)
    (kept : ∀ owner, ¬ changed owner → ∀ id ∈ members owner, get? after id = get? arena id)
    (unchanged : ∀ owner, ¬ changed owner → laterTail owner = tail owner ∧
      laterMembers owner = members owner ∧ laterDatas owner = datas owner)
    (rings : ∀ owner, changed owner →
      HoldsRing after (laterTail owner) (laterMembers owner) (laterDatas owner))
    (available : ∀ owner, changed owner → ∀ id ∈ laterMembers owner,
      Available arena members changed id)
    (apart : ∀ owner other, changed owner → changed other → owner ≠ other →
      (laterMembers owner).Disjoint (laterMembers other)) :
    RingFamily after laterTail laterMembers laterDatas where
  rings := by
    intro owner
    by_cases isChanged : changed owner
    · exact rings owner isChanged
    · obtain ⟨sameTail, sameMembers, sameDatas⟩ := unchanged owner isChanged
      rw [sameTail, sameMembers, sameDatas]
      exact (family.rings owner).congr (kept owner isChanged)
  disjoint := by
    intro owner other different
    by_cases isChanged : changed owner <;> by_cases otherChanged : changed other
    · exact apart owner other isChanged otherChanged different
    · intro id member otherMember
      rw [(unchanged other otherChanged).2.1] at otherMember
      exact family.not_mem_of_available otherChanged
        (available owner isChanged id member) otherMember
    · intro id member otherMember
      rw [(unchanged owner isChanged).2.1] at member
      exact family.not_mem_of_available isChanged
        (available other otherChanged id otherMember) member
    · rw [(unchanged owner isChanged).2.1, (unchanged other otherChanged).2.1]
      exact family.disjoint owner other different

/-- Changing one ring, within the nodes available to its owner. -/
theorem replace_one (owner : Owner) (family : RingFamily arena tail members datas)
    (kept : ∀ other, other ≠ owner → ∀ id ∈ members other, get? after id = get? arena id)
    (unchanged : ∀ other, other ≠ owner → laterTail other = tail other ∧
      laterMembers other = members other ∧ laterDatas other = datas other)
    (ring : HoldsRing after (laterTail owner) (laterMembers owner) (laterDatas owner))
    (available : ∀ id ∈ laterMembers owner, id ∈ members owner ∨ arena.next? id = none) :
    RingFamily after laterTail laterMembers laterDatas := by
  refine family.replace (· = owner) kept unchanged ?_ ?_ ?_
  · intro changed same
    rw [same]
    exact ring
  · intro changed same id member
    rw [same] at member
    rcases available id member with own | unlinked
    · exact .inl ⟨owner, rfl, own⟩
    · exact .inr unlinked
  · intro first second isFirst isSecond different
    exact absurd (isFirst.trans isSecond.symm) different

theorem congr (family : RingFamily arena tail members datas)
    (kept : ∀ owner, ∀ id ∈ members owner, get? after id = get? arena id)
    (sameTail : ∀ owner, laterTail owner = tail owner) :
    RingFamily after laterTail members datas where
  rings := by
    intro owner
    rw [sameTail]
    exact (family.rings owner).congr (kept owner)
  disjoint := family.disjoint

end RingFamily

end LinkedArena
