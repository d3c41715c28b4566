import Mathlib.Data.List.Chain
import Mathlib.Data.Set.Insert

/-!
# Chains of overlapping groups

Groups arrive one after another.  Two members are linked when groups lead from the
one to the other, each overlapping the next; they are linked in order when the groups
can be taken in the order of their arrival.
-/

namespace GroupChain

open List

variable {ι : Type} {groups chosen : List (Set ι)} {group : Set ι} {first middle last : ι}

structure Leads (chosen : List (Set ι)) (first last : ι) : Prop where
  overlapping : chosen.IsChain fun earlier later => (earlier ∩ later).Nonempty
  starts : ∃ group ∈ chosen.head?, first ∈ group
  ends : ∃ group ∈ chosen.getLast?, last ∈ group

/-- Some of the groups lead from one member to the other, in any order. -/
def Linked (groups : List (Set ι)) (first last : ι) : Prop :=
  ∃ chosen, (∀ group ∈ chosen, group ∈ groups) ∧ Leads chosen first last

/-- Some of the groups lead from one member to the other in the order of arrival. -/
def LinkedInOrder (groups : List (Set ι)) (first last : ι) : Prop :=
  ∃ chosen : List (Set ι), chosen.Sublist groups ∧ Leads chosen first last

theorem Leads.singleton (firstIn : first ∈ group) (lastIn : last ∈ group) :
    Leads [group] first last where
  overlapping := .singleton group
  starts := ⟨group, rfl, firstIn⟩
  ends := ⟨group, rfl, lastIn⟩

/-- A further group extends a lead that ends in it. -/
theorem Leads.snoc (leads : Leads chosen first middle) (middleIn : middle ∈ group)
    (lastIn : last ∈ group) : Leads (chosen ++ [group]) first last := by
  obtain ⟨start, isHead, firstIn⟩ := leads.starts
  obtain ⟨final, isLast, middleInFinal⟩ := leads.ends
  refine ⟨?_, ⟨start, ?_, firstIn⟩, ⟨group, by simp, lastIn⟩⟩
  · refine isChain_append.mpr ⟨leads.overlapping, .singleton group, ?_⟩
    intro earlier isEarlier later isLater
    have sameEarlier : earlier = final := by simpa using Option.mem_unique isEarlier isLast
    have sameLater : later = group := by simpa using isLater.symm
    exact sameEarlier ▸ sameLater ▸ ⟨middle, middleInFinal, middleIn⟩
  · simp [head?_append, Option.mem_def.mp isHead]

/-- A lead through a last group enters it from the groups before, if there are any. -/
theorem Leads.of_snoc (leads : Leads (chosen ++ [group]) first last) :
    last ∈ group ∧ (first ∈ group ∨ ∃ middle ∈ group, Leads chosen first middle) := by
  obtain ⟨start, isHead, firstIn⟩ := leads.starts
  obtain ⟨final, isLast, lastIn⟩ := leads.ends
  have sameFinal : final = group := by simpa using isLast.symm
  refine ⟨sameFinal ▸ lastIn, ?_⟩
  rcases chosen.eq_nil_or_concat with rfl | ⟨before, previous, rfl⟩
  · left
    have sameStart : start = group := by simpa using isHead.symm
    exact sameStart ▸ firstIn
  · right
    obtain ⟨chained, -, joined⟩ := isChain_append.mp leads.overlapping
    obtain ⟨middle, middleInPrevious, middleIn⟩ := joined previous (by simp) group (by simp)
    refine ⟨middle, middleIn, chained, ⟨start, ?_, firstIn⟩, previous, by simp, middleInPrevious⟩
    rw [head?_append_of_ne_nil _ (by simp)] at isHead
    exact isHead

@[simp] theorem not_linkedInOrder_nil : ¬ LinkedInOrder [] first last := by
  rintro ⟨chosen, sublist, leads⟩
  obtain ⟨start, isHead, -⟩ := leads.starts
  simp [sublist_nil.mp sublist] at isHead

/-- A group that arrives last links its members and whatever already led into it. -/
theorem linkedInOrder_snoc :
    LinkedInOrder (groups ++ [group]) first last ↔
      LinkedInOrder groups first last ∨
        last ∈ group ∧ (first ∈ group ∨ ∃ middle ∈ group, LinkedInOrder groups first middle) := by
  constructor
  · rintro ⟨chosen, sublist, leads⟩
    obtain ⟨before, tail, rfl, beforeSublist, tailSublist⟩ := sublist_append_iff.mp sublist
    rcases sublist_singleton.mp tailSublist with rfl | rfl
    · left
      rw [append_nil] at leads
      exact ⟨before, beforeSublist, leads⟩
    · right
      obtain ⟨lastIn, entered⟩ := leads.of_snoc
      refine ⟨lastIn, entered.imp_right ?_⟩
      rintro ⟨middle, middleIn, earlier⟩
      exact ⟨middle, middleIn, before, beforeSublist, earlier⟩
  · rintro (⟨chosen, sublist, leads⟩ | ⟨lastIn, firstIn | ⟨middle, middleIn, linked⟩⟩)
    · exact ⟨chosen, sublist.trans (sublist_append_left _ _), leads⟩
    · exact ⟨[group], sublist_append_right _ _, .singleton firstIn lastIn⟩
    · obtain ⟨chosen, sublist, leads⟩ := linked
      exact ⟨chosen ++ [group], sublist.append (List.Sublist.refl _), leads.snoc middleIn lastIn⟩

theorem LinkedInOrder.of_mem (member : group ∈ groups) (firstIn : first ∈ group)
    (lastIn : last ∈ group) : LinkedInOrder groups first last :=
  ⟨[group], singleton_sublist.mpr member, .singleton firstIn lastIn⟩

/-- What leads somewhere is a member of a group. -/
theorem LinkedInOrder.exists_group (linked : LinkedInOrder groups first last) :
    ∃ group ∈ groups, first ∈ group := by
  obtain ⟨chosen, sublist, leads⟩ := linked
  obtain ⟨start, isHead, firstIn⟩ := leads.starts
  exact ⟨start, sublist.subset (mem_of_mem_head? isHead), firstIn⟩

/-- A member that leads somewhere leads to itself. -/
theorem LinkedInOrder.refl_left (linked : LinkedInOrder groups first last) :
    LinkedInOrder groups first first := by
  obtain ⟨group, member, firstIn⟩ := linked.exists_group
  exact .of_mem member firstIn firstIn

end GroupChain
