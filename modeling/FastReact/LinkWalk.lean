import Mathlib.Data.List.Nodup
import Mathlib.Data.Set.Finite.Basic
import Mathlib.Logic.Relation
import Mathlib.Order.WellFoundedSet

/-!
# Walks along links

A partial successor function says where each member leads.  A walk lists the members
met until a link is missing; it exists for a start that no cycle is reached from.
Links are acyclic when no member leads back to itself.
-/

namespace LinkWalk

open List

variable {ι : Type} {next next' : ι → Option ι} {first : Option ι} {members : List ι}

/-- The members met by following the links from a start until a link is missing. -/
def IsWalk (next : ι → Option ι) : Option ι → List ι → Prop
  | first, [] => first = none
  | first, id :: rest => first = some id ∧ IsWalk next (next id) rest

/-- One member leads to another directly. -/
def Links (next : ι → Option ι) (id target : ι) : Prop :=
  next id = some target

/-- No member leads back to itself. -/
def Acyclic (next : ι → Option ι) : Prop :=
  ∀ id, ¬ Relation.TransGen (Links next) id id

namespace IsWalk

@[simp] theorem none_iff : IsWalk next none members ↔ members = [] := by
  cases members <;> simp [IsWalk]

theorem first_eq (walk : IsWalk next first members) : first = members.head? := by
  cases members with
  | nil => exact walk
  | cons id rest => exact walk.1

/-- Walks are determined by their start. -/
theorem unique {others : List ι} (walk : IsWalk next first members)
    (other : IsWalk next first others) : members = others := by
  induction members generalizing first others with
  | nil =>
    rw [show first = none from walk, none_iff] at other
    exact other.symm
  | cons id rest ih =>
    obtain ⟨rfl, walkRest⟩ := walk
    cases others with
    | nil =>
      cases other
    | cons otherId otherRest =>
      obtain ⟨shape, otherWalk⟩ := other
      cases shape
      rw [ih walkRest otherWalk]

variable {start target : ι} {id : ι}

section

variable {before after : List ι} (walk : IsWalk next first (before ++ id :: after))
include walk

/-- What comes behind a member of a walk is the walk from its link. -/
theorem of_append : IsWalk next (next id) after := by
  induction before generalizing first with
  | nil => exact walk.2
  | cons head rest ih => exact ih walk.2

/-- The link of a member names the member behind it. -/
theorem next_eq : next id = after.head? :=
  walk.of_append.first_eq

end

/-- A walk meets no member twice: it would repeat from there on. -/
theorem nodup (walk : IsWalk next first members) : members.Nodup := by
  induction members generalizing first with
  | nil => exact nodup_nil
  | cons id rest ih =>
    refine nodup_cons.mpr ⟨?_, ih walk.2⟩
    intro again
    obtain ⟨before, after, shape⟩ := mem_iff_append.mp again
    have repeated : IsWalk next (next id) after := by
      have walkRest := walk.2
      rw [shape] at walkRest
      exact walkRest.of_append
    have lengths := congrArg List.length (repeated.unique walk.2)
    rw [shape] at lengths
    simp at lengths
    omega

theorem congr (walk : IsWalk next first members) (agree : ∀ id ∈ members, next' id = next id) :
    IsWalk next' first members := by
  induction members generalizing first with
  | nil => exact walk
  | cons id rest ih =>
    refine ⟨walk.1, ?_⟩
    rw [agree id (by simp)]
    exact ih walk.2 fun other member => agree other (by simp [member])

/-- Members that each link to the one behind form a walk. -/
theorem of_links
    (linked : ∀ before id after, members = before ++ id :: after → next id = after.head?) :
    IsWalk next members.head? members := by
  induction members with
  | nil => rfl
  | cons id rest ih =>
    refine ⟨rfl, ?_⟩
    rw [linked [] id rest rfl]
    refine ih fun before other after shape => ?_
    exact linked (id :: before) other after (by simp [shape])

/-- Dropping links cuts a walk short. -/
theorem cut {first' : Option ι} (walk : IsWalk next first members)
    (start : ∀ id, first' = some id → first = some id)
    (fewer : ∀ id target, next' id = some target → next id = some target) :
    ∃ met, IsWalk next' first' met ∧ met <+: members := by
  induction members generalizing first first' with
  | nil =>
    cases first' with
    | none => exact ⟨[], rfl, prefix_refl []⟩
    | some id =>
      have started : first = some id := start id rfl
      rw [started] at walk
      cases walk
  | cons id rest ih =>
    cases first' with
    | none => exact ⟨[], rfl, nil_prefix⟩
    | some other =>
      obtain rfl : other = id := Option.some.inj ((start other rfl).symm.trans walk.1)
      obtain ⟨met, walkMet, isPrefix⟩ := ih walk.2 (fewer other)
      exact ⟨other :: met, ⟨rfl, walkMet⟩, cons_prefix_cons.mpr ⟨rfl, isPrefix⟩⟩

/-- A walk that keeps its links up to a member goes on from there as the links now
say. -/
theorem divert {before behind after : List ι} (walk : IsWalk next first (before ++ id :: behind))
    (agree : ∀ other ∈ before, next' other = next other) (onward : IsWalk next' (next' id) after) :
    IsWalk next' first (before ++ id :: after) := by
  induction before generalizing first with
  | nil => exact ⟨walk.1, onward⟩
  | cons head rest ih =>
    obtain ⟨headAgrees, restAgrees⟩ := forall_mem_cons.mp agree
    refine ⟨walk.1, ?_⟩
    rw [headAgrees]
    exact ih walk.2 restAgrees

/-- A member may be linked to another start that does not lead back to it. -/
theorem relink [DecidableEq ι] {target : Option ι} {before behind after : List ι}
    (walk : IsWalk next first (before ++ id :: behind)) (onward : IsWalk next target after)
    (apart : id ∉ after) :
    IsWalk (Function.update next id target) first (before ++ id :: after) := by
  have distinct := walk.nodup
  have agree : ∀ other, other ≠ id → Function.update next id target other = next other :=
    fun other different => Function.update_of_ne different target next
  refine walk.divert (fun other member => agree other ?_) ?_
  · rintro rfl
    grind
  · rw [Function.update_self]
    exact onward.congr fun other member => agree other (ne_of_mem_of_not_mem member apart)

/-- Whatever a walk's start leads to is met by the walk. -/
theorem mem_of_reaches (walk : IsWalk next (some start) members)
    (reaches : Relation.ReflTransGen (Links next) start target) : target ∈ members := by
  induction reaches with
  | refl =>
    cases members with
    | nil =>
      cases walk
    | cons id rest => simp [Option.some.inj walk.1]
  | tail earlier link ih =>
    obtain ⟨before, after, shape⟩ := mem_iff_append.mp ih
    rw [shape] at walk ⊢
    have headed : some _ = after.head? := link.symm.trans walk.next_eq
    have behind := mem_of_mem_head? headed.symm
    simp [behind]

/-- The walk behind a start meets exactly what the start leads to. -/
theorem mem_iff_leads (walk : IsWalk next (next start) members) :
    target ∈ members ↔ Relation.TransGen (Links next) start target := by
  constructor
  · intro member
    induction members generalizing start with
    | nil =>
      cases member
    | cons id rest ih =>
      rcases mem_cons.mp member with rfl | later
      · exact .single walk.1
      · exact .head walk.1 (ih walk.2 later)
  · intro leads
    obtain ⟨first, link, reaches⟩ := Relation.TransGen.head'_iff.mp leads
    rw [show next start = some first from link] at walk
    exact walk.mem_of_reaches reaches

/-- Where a start leads to an end, its walk stops there. -/
theorem getLastD_eq (walk : IsWalk next (next start) members)
    (reaches : target = start ∨ Relation.TransGen (Links next) start target)
    (ends : next target = none) : members.getLastD start = target := by
  induction members generalizing start with
  | nil =>
    rcases reaches with rfl | leads
    · rfl
    · exact absurd (walk.mem_iff_leads.mpr leads) not_mem_nil
  | cons id rest ih =>
    rw [getLastD_cons]
    apply ih walk.2
    rcases reaches with rfl | leads
    · cases ends.symm.trans walk.1
    · obtain rfl | later := mem_cons.mp (walk.mem_iff_leads.mpr leads)
      · exact .inl rfl
      · exact .inr (walk.2.mem_iff_leads.mp later)

theorem exists_link_of_mem_dropLast (walk : IsWalk next first members)
    (member : id ∈ members.dropLast) : ∃ target, next id = some target := by
  have notEmpty : members ≠ [] := by
    rintro rfl
    cases member
  obtain ⟨before, behind, shape⟩ := mem_iff_append.mp member
  rw [← dropLast_append_getLast notEmpty, shape, append_assoc, cons_append] at walk
  rw [walk.next_eq]
  cases behind with
  | nil => exact ⟨_, rfl⟩
  | cons target rest => exact ⟨target, rfl⟩

/-- A start that leads to an end has a walk. -/
theorem exists_of_ends (reaches : target = start ∨ Relation.TransGen (Links next) start target)
    (ends : next target = none) : ∃ members, IsWalk next (next start) members := by
  rcases reaches with rfl | leads
  · exact ⟨[], ends⟩
  · induction leads using Relation.TransGen.head_induction_on with
    | single link => exact ⟨[target], link, ends⟩
    | @head _ between link rest ih =>
      obtain ⟨members, walk⟩ := ih
      exact ⟨between :: members, link, walk⟩

end IsWalk

/-- What leads to a target does so whatever the target links to. -/
theorem reaches_of_agree {start target : ι} (agree : ∀ id, id ≠ target → next' id = next id)
    (reaches : Relation.ReflTransGen (Links next) start target) :
    Relation.ReflTransGen (Links next') start target := by
  induction reaches using Relation.ReflTransGen.head_induction_on with
  | refl => exact .refl
  | @head id linked link later ih =>
    by_cases isTarget : id = target
    · rw [isTarget]
    · exact .head ((agree id isTarget).trans link) ih

theorem Acyclic.of_rank (rank : ι → Nat)
    (decreases : ∀ id target, next id = some target → rank target < rank id) : Acyclic next := by
  have below : ∀ id target, Relation.TransGen (Links next) id target →
      rank target < rank id := by
    intro id target path
    induction path with
    | single link => exact decreases _ _ link
    | tail earlier link ih => exact (decreases _ _ link).trans ih
  intro id cycle
  exact Nat.lt_irrefl _ (below id id cycle)

theorem Acyclic.mono (acyclic : Acyclic next)
    (fewer : ∀ id target, next' id = some target → next id = some target) : Acyclic next' := by
  intro id cycle
  apply acyclic id
  exact Relation.TransGen.mono fewer id id cycle

/-- Members may be relinked to a target that does not lead to any of them. -/
theorem Acyclic.relink {moved : Set ι} {target : ι} (acyclic : Acyclic next)
    (links : ∀ id linked, next' id = some linked →
      next id = some linked ∨ id ∈ moved ∧ linked = target)
    (apart : ∀ id ∈ moved, ¬ Relation.ReflTransGen (Links next) target id) : Acyclic next' := by
  -- From the target only old links are followed, so that no moved member is reached.
  have oldFromTarget : ∀ id, Relation.ReflTransGen (Links next') target id →
      Relation.ReflTransGen (Links next) target id := by
    intro id reaches
    induction reaches with
    | refl => exact .refl
    | tail earlier link ih =>
      rcases links _ _ link with old | ⟨isMoved, -⟩
      · exact ih.tail old
      · exact absurd ih (apart _ isMoved)
  have split : ∀ first last, Relation.TransGen (Links next') first last →
      Relation.TransGen (Links next) first last ∨
        ∃ id ∈ moved, Relation.ReflTransGen (Links next') first id ∧
          Relation.ReflTransGen (Links next') target last := by
    intro first last path
    induction path with
    | single link =>
      rcases links _ _ link with old | ⟨isMoved, rfl⟩
      · exact .inl (.single old)
      · exact .inr ⟨first, isMoved, .refl, .refl⟩
    | tail earlier link ih =>
      rcases ih with old | ⟨id, isMoved, before, after⟩
      · rcases links _ _ link with oldLink | ⟨isMoved, rfl⟩
        · exact .inl (old.tail oldLink)
        · exact .inr ⟨_, isMoved, earlier.to_reflTransGen, .refl⟩
      · exact .inr ⟨id, isMoved, before, after.tail link⟩
  intro id cycle
  rcases split id id cycle with old | ⟨member, isMoved, before, after⟩
  · exact acyclic id old
  · exact apart member isMoved (oldFromTarget member (after.trans before))

/-- Acyclic links among finitely many members lead to an end. -/
theorem Acyclic.exists_walk {among : Set ι} (acyclic : Acyclic next) (finite : among.Finite)
    (closed : ∀ id target, next id = some target → target ∈ among)
    (inside : ∀ id, first = some id → id ∈ among) : ∃ members, IsWalk next first members := by
  have fromMember : ∀ id ∈ among, ∃ members, IsWalk next (some id) members := by
    let leadsBack := fun target id : ι => Relation.TransGen (Links next) id target
    have irreflexive : Std.Irrefl leadsBack := ⟨acyclic⟩
    have transitive : IsTrans ι leadsBack := ⟨fun _ _ _ later earlier => earlier.trans later⟩
    have strict : IsStrictOrder ι leadsBack := { irreflexive, transitive with }
    have wellFounded : among.WellFoundedOn leadsBack := finite.wellFoundedOn
    intro id member
    refine @Set.WellFoundedOn.induction _ _ _ _ wellFounded member
      (fun id => ∃ members, IsWalk next (some id) members)
      fun id member ih => ?_
    cases link : next id with
    | none => exact ⟨[id], rfl, link⟩
    | some target =>
      obtain ⟨members, walk⟩ := ih target (closed id target link) (.single link)
      exact ⟨id :: members, rfl, by rwa [link]⟩
  cases first with
  | none => exact ⟨[], rfl⟩
  | some id => exact fromMember id (inside id rfl)

/-- Distinct members may be chained anew; the others only keep or lose their links. -/
theorem Acyclic.rechain {chain : List ι} (acyclic : Acyclic next) (noDuplicates : chain.Nodup)
    (chained : ∀ (index : Nat) id, chain[index]? = some id → next' id = chain[index + 1]?)
    (fewer : ∀ id ∉ chain, ∀ target, next' id = some target → next id = some target) :
    Acyclic next' := by
  -- A member of the chain only leads to later ones.
  have later : ∀ (index : Nat) id target, chain[index]? = some id →
      Relation.TransGen (Links next') id target →
      ∃ position, index < position ∧ chain[position]? = some target := by
    intro index id target found path
    induction path with
    | single link =>
      exact ⟨index + 1, Nat.lt_succ_self index, (chained index id found).symm.trans link⟩
    | tail earlier link ih =>
      obtain ⟨position, behind, foundMiddle⟩ := ih
      exact ⟨position + 1, by omega, (chained position _ foundMiddle).symm.trans link⟩
  have old : ∀ id target, target ∉ chain → Relation.TransGen (Links next') id target →
      Relation.TransGen (Links next) id target := by
    intro id target outside path
    induction path using Relation.TransGen.head_induction_on with
    | single link =>
      refine .single (fewer _ (fun member => ?_) _ link)
      obtain ⟨index, found⟩ := List.mem_iff_getElem?.mp member
      obtain ⟨position, -, foundTarget⟩ := later index _ _ found (.single link)
      exact outside (mem_of_getElem? foundTarget)
    | head link rest ih =>
      refine .head (fewer _ (fun member => ?_) _ link) ih
      obtain ⟨index, found⟩ := List.mem_iff_getElem?.mp member
      obtain ⟨position, -, foundTarget⟩ := later index _ _ found (.head link rest)
      exact outside (mem_of_getElem? foundTarget)
  intro id cycle
  by_cases member : id ∈ chain
  · obtain ⟨index, found⟩ := List.mem_iff_getElem?.mp member
    obtain ⟨position, behind, again⟩ := later index id id found cycle
    have same := (List.getElem?_inj (List.getElem?_eq_some_iff.mp found).1 noDuplicates).mp
      (found.trans again.symm)
    omega
  · exact acyclic id (old id id member cycle)

end LinkWalk
