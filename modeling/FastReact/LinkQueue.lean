import FastReact.LinkWalk

/-!
# Queues along links

Members that are linked to the next one, with the first and the last member noted.  A
member is in the queue when it has a link or is the last one.
-/

namespace LinkQueue

open Function LinkWalk List

variable {ι : Type} {link : ι → Option (Option ι)} {first last : Option ι}
  {members kept rest : List ι} {id : ι}

/-- The links and the ends make up a queue of some of the things that have a place for a link. -/
structure IsQueue (link : ι → Option (Option ι)) (first last : Option ι) (members : List ι) :
    Prop where
  walk : IsWalk (Option.join ∘ link) first members
  ends : last = members.getLast?
  live : ∀ id ∈ members, (link id).isSome
  only : ∀ id ∉ members, (link id).join = none

namespace IsQueue

theorem link_eq (queue : IsQueue link first last (kept ++ id :: rest)) :
    link id = some rest.head? := by
  obtain ⟨next, found⟩ := Option.isSome_iff_exists.mp (queue.live id (by simp))
  have linked := queue.walk.next_eq
  rw [comp_apply, found, Option.join_some] at linked
  rw [found, linked]

variable (queue : IsQueue link first last members)
include queue

theorem mem_iff : id ∈ members ↔ last = some id ∨ (link id).join.isSome := by
  constructor
  · intro member
    obtain ⟨before, behind, rfl⟩ := mem_iff_append.mp member
    rw [queue.ends, queue.link_eq]
    cases behind <;> simp
  · rintro (isLast | linked)
    · exact mem_of_getLast? (queue.ends.symm.trans isLast)
    · by_contra absent
      rw [queue.only id absent] at linked
      cases linked

/-- Things that come with a place for a link are not in the queue. -/
theorem add [DecidableEq ι] (fresh : link id = none) :
    IsQueue (update link id (some none)) first last members := by
  have absent : id ∉ members := fun member => by simpa [fresh] using queue.live id member
  refine ⟨?_, queue.ends, ?_, ?_⟩
  · rw [comp_update]
    exact queue.walk.congr fun other member => update_of_ne (by grind) _ _
  · grind [queue.live, update_apply]
  · grind [queue.only, update_apply]

/-- The first member of all. -/
theorem pushFirst (isEmpty : members = []) (live : (link id).isSome) :
    IsQueue link (some id) (some id) (members ++ [id]) := by
  subst isEmpty
  exact ⟨⟨rfl, queue.only id not_mem_nil⟩, rfl, by simpa using live,
    fun other _ => queue.only other not_mem_nil⟩

variable [DecidableEq ι]

/-- A member is linked behind the last one. -/
theorem push {tail : ι} (isTail : members.getLast? = some tail) (live : (link id).isSome)
    (absent : id ∉ members) :
    IsQueue (update link tail (some (some id))) first (some id) (members ++ [id]) := by
  obtain ⟨before, rfl⟩ := getLast?_eq_some_iff.mp isTail
  have apart : tail ≠ id := by grind
  refine ⟨?_, by simp, ?_, ?_⟩
  · rw [comp_update, append_assoc]
    have onward : IsWalk (Option.join ∘ link) (some id) [id] := ⟨rfl, queue.only id absent⟩
    exact queue.walk.relink onward (by simpa using apart)
  · intro other member
    have := queue.live other
    grind [update_apply]
  · intro other outside
    rw [update_of_ne (by grind), queue.only other (by grind)]

omit queue

/-- The first member is taken out. -/
theorem removeFirst (queue : IsQueue link first last (id :: rest)) :
    IsQueue (update link id (some none)) rest.head?
      (if rest.head?.isNone then none else last) rest := by
  have distinct := nodup_cons.mp queue.walk.nodup
  have onward : IsWalk (Option.join ∘ link) rest.head? rest := queue.walk.2.first_eq ▸ queue.walk.2
  refine ⟨?_, ?_, ?_, ?_⟩
  · rw [comp_update]
    exact onward.congr fun other member => update_of_ne (by grind) _ _
  · rw [queue.ends]
    cases rest <;> simp
  · grind [queue.live, update_apply]
  · grind [queue.only, update_apply]

/-- A member is taken out behind another one. -/
theorem removeBehind {previous : ι} (isLast : kept.getLast? = some previous)
    (queue : IsQueue link first last (kept ++ id :: rest)) :
    IsQueue (update (update link id (some none)) previous (some rest.head?)) first
      (if rest.head?.isNone then some previous else last) (kept ++ rest) := by
  obtain ⟨before, rfl⟩ := getLast?_eq_some_iff.mp isLast
  have distinct := queue.walk.nodup
  have onward : IsWalk (Option.join ∘ link) rest.head? rest := by
    rw [← queue.walk.next_eq]
    exact queue.walk.of_append
  refine ⟨?_, ?_, ?_, ?_⟩
  · have walk := queue.walk
    rw [append_assoc] at walk ⊢
    rw [update_comm (by grind), comp_update, comp_update]
    exact (walk.relink onward (by grind)).congr fun other member => update_of_ne (by grind) _ _
  · rw [queue.ends]
    cases rest <;> simp
  · intro other member
    rw [update_apply, update_apply]
    split_ifs
    · rfl
    · rfl
    · exact queue.live other (by simp only [mem_append, mem_cons] at member ⊢; tauto)
  · intro other outside
    rw [update_of_ne (by grind), update_apply]
    split_ifs with isRemoved
    · rfl
    · exact queue.only other (by simp_all)

end IsQueue

end LinkQueue
