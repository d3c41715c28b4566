import FastReact.LinkChain
import FastReact.SlotArena
import Mathlib.Data.Option.Basic

/-!
# Arenas of linked nodes

The values of the arena are nodes that carry data and a link to another node.
The arena is read as a link function and a data function; rings and paths of it
are chains of links together with the list of data their members hold.  Changes
are specified by the links they touch: everything else survives them.
-/

open LinkChain List SlotArena

structure Node (Tag Data : Type) where
  data : Data
  next : Option (Handle Tag)
deriving DecidableEq

abbrev LinkedArena (Tag Data : Type) := SlotArena Tag (Node Tag Data)

namespace LinkedArena

variable {Tag Data : Type} {arena middle after : LinkedArena Tag Data} {id : Handle Tag}
  {data : Data}

def next? (arena : LinkedArena Tag Data) (id : Handle Tag) : Option (Handle Tag) :=
  (arena.get? id).bind Node.next

def data? (arena : LinkedArena Tag Data) (id : Handle Tag) : Option Data :=
  (arena.get? id).map Node.data

/-- Assign the link of a node. -/
def withNext (arena : LinkedArena Tag Data) (id : Handle Tag) (next : Option (Handle Tag)) :
    LinkedArena Tag Data :=
  arena.modify id fun node => { node with next := next }

def Holds (arena : LinkedArena Tag Data) (ids : List (Handle Tag))
    (datas : List Data) : Prop :=
  ids.map arena.data? = datas.map some

/-- The ring behind a tail pointer, with its members and their data. -/
structure HoldsRing (arena : LinkedArena Tag Data) (tail : Option (Handle Tag))
    (ids : List (Handle Tag))
    (datas : List Data) : Prop where
  ring : IsRingAt arena.next? tail ids
  holds : Holds arena ids datas

/-- The path between a head and a tail pointer, with its members and their data. -/
structure HoldsPath (arena : LinkedArena Tag Data) (first last : Option (Handle Tag))
    (ids : List (Handle Tag))
    (datas : List Data) : Prop where
  path : IsPathAt arena.next? first last ids
  holds : Holds arena ids datas

/-- Later arenas keep the data of every node, and its link unless it is touched. -/
structure Extends (touched : List (Handle Tag))
    (arena after : LinkedArena Tag Data) : Prop where
  data :
    ∀ id data, arena.data? id = some data → after.data? id = some data
  links :
    ∀ id data, arena.data? id = some data →
      id ∉ touched → after.next? id = arena.next? id

theorem exists_node_of_data? (live : arena.data? id = some data) :
    ∃ node, arena.get? id = some node ∧ node.data = data :=
  Option.map_eq_some_iff.mp live

theorem get?_of_data? (live : arena.data? id = some data) :
    arena.get? id = some ⟨data, arena.next? id⟩ := by
  obtain ⟨node, found, rfl⟩ := exists_node_of_data? live
  simp [next?, found]

theorem exists_data?_of_next? {next : Handle Tag} (linked : arena.next? id = some next) :
    ∃ data, arena.data? id = some data := by
  obtain ⟨node, found, -⟩ := Option.bind_eq_some_iff.mp linked
  exact ⟨node.data, by simp [data?, found]⟩

theorem next?_withNext (live : arena.data? id = some data) (next : Option (Handle Tag))
    (other : Handle Tag) :
    (arena.withNext id next).next? other = if other = id then next else arena.next? other := by
  obtain ⟨node, found, -⟩ := exists_node_of_data? live
  unfold next? withNext
  rw [get?_modify]
  by_cases same : other = id
  · subst other
    simp [found]
  · simp [same]

theorem next?_withNext_of_ne {other : Handle Tag} (arena : LinkedArena Tag Data)
    (different : other ≠ id) (next : Option (Handle Tag)) :
    (arena.withNext id next).next? other = arena.next? other := by
  unfold next? withNext
  rw [get?_modify, if_neg different]

@[simp] theorem data?_withNext (arena : LinkedArena Tag Data) (id : Handle Tag)
    (next : Option (Handle Tag)) (other : Handle Tag) :
    (arena.withNext id next).data? other = arena.data? other := by
  unfold data? withNext
  rw [get?_modify]
  by_cases same : other = id
  · subst other
    cases arena.get? id <;> simp
  · simp [same]

theorem extends_withNext (live : arena.data? id = some data) (next : Option (Handle Tag)) :
    Extends [id] arena (arena.withNext id next) where
  data := by simp
  links := by
    intro other _ _ untouched
    rw [next?_withNext live, if_neg (by simpa using untouched)]

namespace Extends

variable {touched touchedLater : List (Handle Tag)}

theorem refl (arena : LinkedArena Tag Data) : Extends [] arena arena where
  data := by simp
  links := by simp

theorem trans (earlier : Extends touched arena middle) (later : Extends touchedLater middle after) :
    Extends (touched ++ touchedLater) arena after where
  data := by
    intro id data live
    exact later.data id data (earlier.data id data live)
  links := by
    intro id data live untouched
    simp only [mem_append, not_or] at untouched
    rw [later.links id data (earlier.data id data live) untouched.2]
    exact earlier.links id data live untouched.1

section

variable (extension : Extends touched arena after)
include extension

theorem mono (subset : touched ⊆ touchedLater) : Extends touchedLater arena after where
  data := extension.data
  links := by
    intro id data live untouched
    exact extension.links id data live fun member => untouched (subset member)

/-- Touching only nodes that are new keeps everything that was there. -/
theorem of_new
    (isNew : ∀ id ∈ touched, arena.data? id = none) : Extends [] arena after where
  data := extension.data
  links := by
    intro id data live _
    refine extension.links id data live ?_
    intro member
    rw [isNew id member] at live
    exact Option.some_ne_none data live.symm

/-- A node that is new later was not there before. -/
theorem data?_eq_none (isNew : after.data? id = none) : arena.data? id = none := by
  cases shape : arena.data? id with
  | none => rfl
  | some data =>
    rw [extension.data id data shape] at isNew
    exact isNew

end

theorem get?_eq {touched : List (Handle Tag)} (extension : Extends touched arena after)
    (live : arena.data? id = some data) (untouched : id ∉ touched) :
    get? after id = get? arena id := by
  rw [get?_of_data? live, get?_of_data? (extension.data id data live),
    extension.links id data live untouched]

end Extends

section

variable (arena : LinkedArena Tag Data) (node : Node Tag Data)

theorem insert_spec :
    arena.data? (arena.insert node).1 = none ∧
      (arena.insert node).2.get? (arena.insert node).1 = some node ∧
      Extends [] arena (arena.insert node).2 := by
  refine ⟨?_, get?_insert_self arena node, ?_, ?_⟩
  · simp [data?, get?_insert_fresh]
  · intro id data live
    obtain ⟨existing, found, shape⟩ := exists_node_of_data? live
    simp [data?, get?_insert_of_some node found, shape]
  · intro id data live _
    obtain ⟨existing, found, -⟩ := exists_node_of_data? live
    simp [next?, get?_insert_of_some node found, found]

theorem data?_insert (other : Handle Tag) :
    LinkedArena.data? (arena.insert node).2 other =
      if other = (arena.insert node).1 then some node.data else arena.data? other := by
  unfold data?
  rw [get?_insert]
  by_cases same : other = (arena.insert node).1 <;> simp [same]

theorem next?_insert (other : Handle Tag) :
    LinkedArena.next? (arena.insert node).2 other =
      if other = (arena.insert node).1 then node.next else arena.next? other := by
  unfold next?
  rw [get?_insert]
  by_cases same : other = (arena.insert node).1 <;> simp [same]

end

/-- Later arenas have no nodes but the earlier ones and the listed ones. -/
def GrowsBy (ids : List (Handle Tag)) (arena after : LinkedArena Tag Data) : Prop :=
  ∀ id data, after.data? id = some data →
    (∃ earlier, arena.data? id = some earlier) ∨ id ∈ ids

namespace GrowsBy

variable {ids idsLater : List (Handle Tag)}

theorem of_data (kept : ∀ id, after.data? id = arena.data? id) : GrowsBy ids arena after := by
  intro id data live
  rw [kept] at live
  exact .inl ⟨data, live⟩

theorem trans {between : LinkedArena Tag Data} (earlier : GrowsBy ids arena between)
    (later : GrowsBy idsLater between after) : GrowsBy (ids ++ idsLater) arena after := by
  intro id data live
  rcases later id data live with ⟨data, live⟩ | new
  · exact (earlier id data live).imp_right (mem_append_left _)
  · exact .inr (mem_append_right _ new)

theorem mono (growsBy : GrowsBy ids arena after) (subset : ids ⊆ idsLater) :
    GrowsBy idsLater arena after :=
  fun id data live => (growsBy id data live).imp_right fun new => subset new

end GrowsBy

theorem growsBy_insert (arena : LinkedArena Tag Data) (node : Node Tag Data) :
    GrowsBy [(arena.insert node).1] arena (arena.insert node).2 := by
  intro id data live
  rw [data?_insert] at live
  by_cases same : id = (arena.insert node).1
  · exact .inr (mem_singleton.mpr same)
  · rw [if_neg same] at live
    exact .inl ⟨data, live⟩

/-- Changing a node that is new keeps everything that was there. -/
theorem Extends.modify_new (extension : Extends [] arena after) (isNew : arena.data? id = none)
    (change : Node Tag Data → Node Tag Data) : Extends [] arena (modify after id change) := by
  have elsewhere : ∀ other data, arena.data? other = some data →
      (modify after id change).get? other = get? after other := by
    intro other data live
    rw [get?_modify, if_neg]
    rintro rfl
    rw [isNew] at live
    exact Option.some_ne_none data live.symm
  refine ⟨?_, ?_⟩
  · intro other data live
    rw [data?, elsewhere other data live]
    exact extension.data other data live
  · intro other data live untouched
    rw [next?, elsewhere other data live]
    exact extension.links other data live untouched

namespace Holds

variable {ids touched : List (Handle Tag)} {datas : List Data}

section

variable (holds : Holds arena ids datas)
include holds

theorem live (member : id ∈ ids) : ∃ data ∈ datas, arena.data? id = some data := by
  have mapped : arena.data? id ∈ ids.map arena.data? := mem_map_of_mem member
  rw [holds, mem_map] at mapped
  obtain ⟨data, present, shape⟩ := mapped
  exact ⟨data, present, shape.symm⟩

theorem exists_id (member : data ∈ datas) : ∃ id ∈ ids, arena.data? id = some data := by
  have mapped : some data ∈ datas.map some := mem_map_of_mem member
  rw [← holds, mem_map] at mapped
  exact mapped

/-- New nodes are not held. -/
theorem not_mem_of_new (isNew : arena.data? id = none) : id ∉ ids := by
  intro member
  obtain ⟨data, -, live⟩ := holds.live member
  rw [isNew] at live
  exact Option.some_ne_none data live.symm

end

/-- Items with identities and data are held one by one. -/
theorem of_mem {Item : Type} {items : List Item} {item : Item} {key : Item → Handle Tag}
    {value : Item → Data} (holds : Holds arena (items.map key) (items.map value))
    (member : item ∈ items) : arena.data? (key item) = some (value item) := by
  unfold Holds at holds
  rw [map_map, map_map] at holds
  exact map_inj_left.mp holds item member

theorem of_extends (holds : Holds arena ids datas) (extension : Extends touched arena after) :
    Holds after ids datas := by
  rw [Holds, ← holds]
  apply map_congr_left
  intro id member
  obtain ⟨data, -, live⟩ := holds.live member
  rw [live]
  exact extension.data id data live

theorem congr (holds : Holds arena ids datas) (same : ∀ id ∈ ids, get? after id = get? arena id) :
    Holds after ids datas := by
  rw [Holds, ← holds]
  apply map_congr_left
  intro id member
  rw [data?, data?, same id member]

theorem append {later : List (Handle Tag)} {laterDatas : List Data} (holds : Holds arena ids datas)
    (holdsLater : Holds arena later laterDatas) :
    Holds arena (ids ++ later) (datas ++ laterDatas) := by
  rw [Holds, map_append, map_append, holds, holdsLater]

theorem singleton (live : arena.data? id = some data) : Holds arena [id] [data] := by
  simp [Holds, live]

section

variable (holds : Holds arena ids datas)
include holds

theorem length_eq : ids.length = datas.length := by
  have lengths := congrArg List.length holds
  simpa using lengths

theorem eq_nil_iff : ids = [] ↔ datas = [] := by
  rw [← length_eq_zero_iff, holds.length_eq, length_eq_zero_iff]

/-- The data behind the identities are determined. -/
theorem unique {others : List Data}
    (holdsOthers : Holds arena ids others) : datas = others := by
  refine map_injective_iff.mpr (Option.some_injective _) ?_
  exact holds.symm.trans holdsOthers

end

/-- Whatever is there holds something. -/
theorem exists_of_live (live : ∀ id ∈ ids, ∃ data, arena.data? id = some data) :
    ∃ datas, Holds arena ids datas := by
  induction ids with
  | nil => exact ⟨[], rfl⟩
  | cons id ids ih =>
    obtain ⟨data, idLive⟩ := live id mem_cons_self
    obtain ⟨datas, holds⟩ := ih fun other member => live other (mem_cons_of_mem id member)
    exact ⟨data :: datas, (singleton idLive).append holds⟩

/-- Distinct held identities fit into the slots. -/
theorem length_le (holds : Holds arena ids datas) (noDuplicates : ids.Nodup) :
    ids.length ≤ arena.slots.length := by
  refine length_le_of_nodup noDuplicates ?_
  intro id member
  obtain ⟨data, -, live⟩ := holds.live member
  obtain ⟨node, found, -⟩ := exists_node_of_data? live
  exact ⟨node, found⟩

end Holds

namespace HoldsRing

variable {tail : Option (Handle Tag)} {ids touched : List (Handle Tag)} {datas : List Data}

section

variable (holds : HoldsRing arena tail ids datas)
include holds

theorem of_extends (extension : Extends touched arena after) (untouched : ids.Disjoint touched) :
    HoldsRing after tail ids datas where
  ring := by
    refine holds.ring.congr ?_
    intro id member
    obtain ⟨data, -, live⟩ := holds.holds.live member
    exact extension.links id data live (untouched member)
  holds := holds.holds.of_extends extension

theorem congr
    (same : ∀ id ∈ ids, get? after id = get? arena id) : HoldsRing after tail ids datas where
  ring := by
    refine holds.ring.congr ?_
    intro id member
    rw [next?, next?, same id member]
  holds := holds.holds.congr same

theorem not_mem_of_unlinked
    (unlinked : arena.next? id = none) : id ∉ ids := by
  intro member
  cases tail with
  | none =>
    obtain rfl : ids = [] := holds.ring
    cases member
  | some tail =>
    have ring : IsRing arena.next? tail ids := holds.ring
    obtain ⟨successor, -, linked⟩ := ring.next_mem member
    rw [unlinked] at linked
    cases linked

/-- The tail pointer is absent exactly when there are no data. -/
theorem eq_none_iff : tail = none ↔ datas = [] := by
  rw [holds.ring.eq_none_iff, holds.holds.eq_nil_iff]

end

end HoldsRing

namespace HoldsPath

variable {first last : Option (Handle Tag)} {ids touched : List (Handle Tag)} {datas : List Data}

theorem of_extends (holds : HoldsPath arena first last ids datas)
    (extension : Extends touched arena after) (untouched : ids.Disjoint touched) :
    HoldsPath after first last ids datas where
  path := by
    refine holds.path.congr ?_
    intro id member
    obtain ⟨data, -, live⟩ := holds.holds.live member
    exact extension.links id data live (untouched member)
  holds := holds.holds.of_extends extension

theorem congr (holds : HoldsPath arena first last ids datas)
    (same : ∀ id ∈ ids, get? after id = get? arena id) : HoldsPath after first last ids datas where
  path := by
    refine holds.path.congr ?_
    intro id member
    rw [next?, next?, same id member]
  holds := holds.holds.congr same

end HoldsPath

/-- A path of nodes that are new to an earlier arena. -/
structure NewPath (start arena : LinkedArena Tag Data) (first last : Option (Handle Tag))
    (ids : List (Handle Tag))
    (datas : List Data) : Prop where
  kept : Extends [] start arena
  holds : HoldsPath arena first last ids datas
  isNew : ∀ id ∈ ids, start.data? id = none

namespace NewPath

variable {start : LinkedArena Tag Data} {first last : Option (Handle Tag)} {tail : Handle Tag}
  {ids : List (Handle Tag)} {datas : List Data}

theorem nil (start : LinkedArena Tag Data) : NewPath start start none none [] [] where
  kept := .refl start
  holds := ⟨⟨rfl, rfl⟩, rfl⟩
  isNew := by simp

/-- The path has an end exactly when there are data. -/
theorem last_eq_none_iff (newPath : NewPath start arena first last ids datas) :
    last = none ↔ datas = [] := by
  rw [newPath.holds.path.last_eq, getLast?_eq_none_iff, newPath.holds.holds.eq_nil_iff]

theorem push_first (newPath : NewPath start arena first none ids datas)
    (isNew : arena.data? id = none) (live : after.data? id = some data)
    (unlinked : after.next? id = none) (extension : Extends [id] arena after) :
    NewPath start after (some id) (some id) (ids ++ [id]) (datas ++ [data]) := by
  have newAtStart := newPath.kept.data?_eq_none isNew
  obtain ⟨-, rfl⟩ := newPath.holds.path
  obtain rfl : datas = [] := newPath.holds.holds.eq_nil_iff.mp rfl
  refine ⟨?_, ⟨⟨.singleton _ id, rfl, unlinked⟩, .singleton live⟩, by simpa using newAtStart⟩
  exact (newPath.kept.trans extension).of_new (by simpa using newAtStart)

section

variable (newPath : NewPath start arena first (some tail) ids datas)
include newPath

/-- One more new node that points nowhere, linked behind the tail. -/
theorem push_behind (isNew : arena.data? id = none) (live : after.data? id = some data)
    (unlinked : after.next? id = none) (extension : Extends [id] arena after) :
    NewPath start (after.withNext tail (some id)) first (some id)
      (ids ++ [id]) (datas ++ [data]) := by
  have newAtStart := newPath.kept.data?_eq_none isNew
  have tailMember : tail ∈ ids := newPath.holds.path.1.tail_mem
  have idNotMember : id ∉ ids := newPath.holds.holds.not_mem_of_new isNew
  have tailNe : tail ≠ id := fun same => idNotMember (same ▸ tailMember)
  obtain ⟨tailData, -, tailLive⟩ := newPath.holds.holds.live tailMember
  have tailLiveAfter : after.data? tail = some tailData := extension.data tail tailData tailLive
  have linkedExtension : Extends ([id] ++ [tail]) arena (after.withNext tail (some id)) :=
    extension.trans (extends_withNext tailLiveAfter (some id))
  have firstShape : first.or (some id) = first := by
    obtain ⟨head, headShape, -⟩ := newPath.holds.path.1.exists_head
    rw [newPath.holds.path.2.1, headShape]
    rfl
  refine ⟨?_, ⟨?_, ?_⟩, ?_⟩
  · refine (newPath.kept.trans linkedExtension).of_new ?_
    simp [newAtStart, newPath.isNew tail tailMember]
  · rw [← firstShape]
    refine newPath.holds.path.push idNotMember ?_ ?_ ?_
    · intro other member notTail
      have notId : other ≠ id := fun same => idNotMember (same ▸ member)
      have otherNe : other ≠ tail := by simpa using notTail
      obtain ⟨otherData, -, otherLive⟩ := newPath.holds.holds.live member
      rw [next?_withNext tailLiveAfter, if_neg otherNe]
      exact extension.links other otherData otherLive (by simpa using notId)
    · intro candidate shape
      obtain rfl : tail = candidate := by simpa using shape
      rw [next?_withNext tailLiveAfter, if_pos rfl]
    · rw [next?_withNext tailLiveAfter, if_neg tailNe.symm, unlinked]
  · refine (newPath.holds.holds.of_extends linkedExtension).append (.singleton ?_)
    simpa using live
  · intro other member
    rcases mem_append.mp member with old | new
    · exact newPath.isNew other old
    · rw [mem_singleton.mp new]
      exact newAtStart

/-- Pointing the tail back to the head closes the path to a ring. -/
theorem close :
    Extends [] start (arena.withNext tail first) ∧
      HoldsRing (arena.withNext tail first) (some tail) ids datas := by
  have tailMember : tail ∈ ids := newPath.holds.path.1.tail_mem
  obtain ⟨tailData, -, live⟩ := newPath.holds.holds.live tailMember
  have extension := extends_withNext live first
  refine ⟨?_, ?_, newPath.holds.holds.of_extends extension⟩
  · exact (newPath.kept.trans extension).of_new (by simpa using newPath.isNew tail tailMember)
  · refine newPath.holds.path.close ?_ ?_
    · simp [next?_withNext live]
    · intro id _ notTail
      simp [next?_withNext live, notTail]

end

end NewPath

theorem links_behind {tail : Handle Tag} {tailData : Data} (live : arena.data? id = some data)
    (tailLive : arena.data? tail = some tailData) (next : Option (Handle Tag)) :
    Extends [id, tail] arena ((arena.withNext id next).withNext tail (some id)) ∧
      ∀ other, ((arena.withNext id next).withNext tail (some id)).next? other =
        if other = tail then some id else if other = id then next else arena.next? other := by
  have tailLiveLinked : (arena.withNext id next).data? tail = some tailData := by
    simpa using tailLive
  refine ⟨(extends_withNext live _).trans (extends_withNext tailLiveLinked _), fun other => ?_⟩
  rw [next?_withNext tailLiveLinked, next?_withNext live]

/-- Linking a node that points nowhere behind the tail of a ring. -/
theorem HoldsRing.push {tail head : Handle Tag} {ids : List (Handle Tag)} {datas : List Data}
    (holds : HoldsRing arena (some tail) ids datas) (headShape : ids.head? = some head)
    (live : arena.data? id = some data) (fresh : id ∉ ids) :
    HoldsRing ((arena.withNext id (some head)).withNext tail (some id)) (some id)
        (ids ++ [id]) (datas ++ [data]) ∧
      Extends (ids ++ [id]) arena ((arena.withNext id (some head)).withNext tail (some id)) := by
  obtain ⟨ring, held⟩ := holds
  change IsRing arena.next? tail ids at ring
  have tailNe : tail ≠ id := fun same => fresh (same ▸ ring.tail_mem)
  obtain ⟨tailData, -, tailLive⟩ := held.live ring.tail_mem
  obtain ⟨extension, links⟩ := links_behind live tailLive (some head)
  refine ⟨⟨?_, ?_⟩, extension.mono (by simp [ring.tail_mem])⟩
  · refine IsRing.of_segments ring.toIsSegment (.singleton arena.next? id)
      (by simpa using fresh) ?_ ?_ ?_
    · simp [links]
    · simp [links, tailNe.symm, headShape]
    · intro other notTail notNew
      simp [links, notTail, notNew]
  · exact (held.of_extends extension).append (.singleton (extension.data id data live))

theorem HoldsRing.relink {tail head : Handle Tag} {ids : List (Handle Tag)} {datas : List Data}
    (holds : HoldsRing arena (some tail) ids datas) (headShape : ids.head? = some head)
    (member : id ∈ ids) :
    ∃ kept keptDatas,
      HoldsRing ((arena.withNext id (some head)).withNext tail (some id)) (some id) kept keptDatas ∧
      kept ⊆ ids ∧
      Extends ids arena ((arena.withNext id (some head)).withNext tail (some id)) := by
  obtain ⟨ring, held⟩ := holds
  change IsRing arena.next? tail ids at ring
  obtain ⟨data, -, live⟩ := held.live member
  obtain ⟨tailData, -, tailLive⟩ := held.live ring.tail_mem
  obtain ⟨touches, links⟩ := links_behind live tailLive (some head)
  have extension := touches.mono (show [id, tail] ⊆ ids by simp [member, ring.tail_mem])
  suffices closed : ∃ kept,
      IsRing (next? ((arena.withNext id (some head)).withNext tail (some id))) id kept ∧
      kept ⊆ ids by
    obtain ⟨kept, keptRing, isKept⟩ := closed
    obtain ⟨keptDatas, keptHeld⟩ := Holds.exists_of_live fun other otherMember =>
      let ⟨otherData, _, otherLive⟩ := held.live (isKept otherMember)
      ⟨otherData, extension.data other otherData otherLive⟩
    exact ⟨kept, keptDatas, ⟨keptRing, keptHeld⟩, isKept, extension⟩
  by_cases isTail : id = tail
  · subst isTail
    refine ⟨[id], ⟨.singleton _ id, by simp [links]⟩, by simpa using member⟩
  · obtain ⟨before, after, rfl⟩ := mem_iff_append.mp member
    have noDuplicates := ring.nodup
    refine ⟨before ++ [id], ring.cut ?_ ?_, by simp⟩
    · rw [links, if_neg isTail, if_pos rfl, ← headShape]
      cases before <;> rfl
    · intro other isBefore
      have notId : other ≠ id := by
        rintro rfl
        exact (nodup_append'.mp noDuplicates).2.2 isBefore mem_cons_self
      have notTail : other ≠ tail := by
        rintro rfl
        have last := ring.last
        rw [getLast?_append_of_ne_nil _ (cons_ne_nil id after)] at last
        exact (nodup_append'.mp noDuplicates).2.2 isBefore (mem_of_getLast? last)
      rw [links, if_neg notTail, if_neg notId]

/-- Assigning the link a node already has changes nothing. -/
theorem extends_withNext_same {next : Option (Handle Tag)} (live : arena.data? id = some data)
    (same : arena.next? id = next) : Extends [] arena (arena.withNext id next) where
  data := by simp
  links := by
    intro other _ _ _
    rw [next?_withNext live]
    split
    · rename_i isSame
      rw [isSame, same]
    · rfl

/-- The arena after cutting a ring open and linking it behind a path. -/
def linkOpened (arena : LinkedArena Tag Data) (last : Option (Handle Tag))
    (head tail : Handle Tag) : LinkedArena Tag Data :=
  match last with
  | none => arena.withNext tail none
  | some previous => (arena.withNext tail none).withNext previous (some head)

theorem HoldsPath.append_ring {first last : Option (Handle Tag)} {tail head : Handle Tag}
    {pathIds ringIds : List (Handle Tag)} {pathDatas ringDatas : List Data}
    (pathHolds : HoldsPath arena first last pathIds pathDatas)
    (ringHolds : HoldsRing arena (some tail) ringIds ringDatas)
    (disjoint : pathIds.Disjoint ringIds) (headShape : ringIds.head? = some head) :
    HoldsPath (linkOpened arena last head tail) (first.or (some head)) (some tail)
        (pathIds ++ ringIds) (pathDatas ++ ringDatas) ∧
      Extends (pathIds ++ ringIds) arena (linkOpened arena last head tail) := by
  obtain ⟨path, pathHeld⟩ := pathHolds
  obtain ⟨ring, ringHeld⟩ := ringHolds
  change IsRing arena.next? tail ringIds at ring
  obtain ⟨tailData, -, tailLive⟩ := ringHeld.live ring.tail_mem
  have openedExtension := extends_withNext tailLive none
  have openedEnd : (arena.withNext tail none).next? tail = none := by simp [next?_withNext tailLive]
  have openedSegment : IsSegment (arena.withNext tail none).next? tail ringIds := by
    refine ring.toIsSegment.congr ?_
    intro id _ notTail
    simp [next?_withNext tailLive, notTail]
  cases last with
  | none =>
    obtain ⟨rfl, rfl⟩ := path
    obtain rfl : pathDatas = [] := pathHeld.eq_nil_iff.mp rfl
    refine ⟨⟨⟨openedSegment, ?_, openedEnd⟩, ringHeld.of_extends openedExtension⟩, ?_⟩
    · rw [nil_append, headShape]
      rfl
    · exact openedExtension.mono (by simp [ring.tail_mem])
  | some previous =>
    obtain ⟨segment, firstShape, -⟩ := path
    obtain ⟨previousData, -, previousLive⟩ := pathHeld.live segment.tail_mem
    have previousNe : tail ≠ previous := by
      rintro rfl
      exact disjoint segment.tail_mem ring.tail_mem
    have previousLiveOpened :
        (arena.withNext tail none).data? previous = some previousData := by
      simpa using previousLive
    have extension : Extends ([tail] ++ [previous]) arena
        ((arena.withNext tail none).withNext previous (some head)) :=
      openedExtension.trans (extends_withNext previousLiveOpened _)
    have links : ∀ other,
        next? ((arena.withNext tail none).withNext previous (some head)) other =
          if other = previous then some head
          else if other = tail then none
          else arena.next? other := by
      intro other
      rw [next?_withNext previousLiveOpened, next?_withNext tailLive]
    refine ⟨⟨⟨?_, ?_, ?_⟩, ?_⟩, extension.mono ?_⟩
    · refine IsSegment.append (segment.congr ?_) (ring.toIsSegment.congr ?_) disjoint ?_
      · intro id member notPrevious
        have notTail : id ≠ tail := by
          rintro rfl
          exact disjoint member ring.tail_mem
        simp [linkOpened, links, notPrevious, notTail]
      · intro id member notTail
        have notPrevious : id ≠ previous := by
          rintro rfl
          exact disjoint segment.tail_mem member
        simp [linkOpened, links, notPrevious, notTail]
      · simp [linkOpened, links, headShape]
    · obtain ⟨pathHead, pathHeadShape, -⟩ := segment.exists_head
      simp [firstShape, head?_append, pathHeadShape]
    · simp [linkOpened, links, previousNe]
    · exact (pathHeld.of_extends extension).append (ringHeld.of_extends extension)
    · intro id member
      simp only [mem_append, mem_singleton] at member ⊢
      rcases member with rfl | rfl
      · exact .inr ring.tail_mem
      · exact .inl segment.tail_mem

/-- The arena after linking a node behind a path. -/
def linkBehind (arena : LinkedArena Tag Data) (last : Option (Handle Tag)) (head : Handle Tag) :
    LinkedArena Tag Data :=
  match last with
  | none => arena
  | some previous => arena.withNext previous (some head)

theorem HoldsPath.append_path {first last laterLast : Option (Handle Tag)} {head : Handle Tag}
    {ids laterIds : List (Handle Tag)} {datas laterDatas : List Data}
    (earlier : HoldsPath arena first last ids datas)
    (later : HoldsPath arena (some head) laterLast laterIds laterDatas)
    (disjoint : ids.Disjoint laterIds) :
    HoldsPath (linkBehind arena last head) (first.or (some head)) laterLast
        (ids ++ laterIds) (datas ++ laterDatas) ∧
      Extends ids arena (linkBehind arena last head) := by
  cases last with
  | none =>
    obtain ⟨rfl, rfl⟩ := earlier.path
    obtain rfl : datas = [] := earlier.holds.eq_nil_iff.mp rfl
    exact ⟨later, .refl arena⟩
  | some previous =>
    cases laterLast with
    | none =>
      obtain ⟨absurdShape, -⟩ := later.path
      cases absurdShape
    | some tail =>
      obtain ⟨⟨segment, firstShape, -⟩, held⟩ := earlier
      obtain ⟨⟨laterSegment, headShape, ended⟩, laterHeld⟩ := later
      obtain ⟨data, -, live⟩ := held.live segment.tail_mem
      have extension := extends_withNext live (some head)
      have links := next?_withNext live (some head)
      have tailNe : tail ≠ previous := by
        rintro rfl
        exact disjoint segment.tail_mem laterSegment.tail_mem
      refine ⟨⟨⟨?_, ?_, ?_⟩, ?_⟩, extension.mono (by simpa using segment.tail_mem)⟩
      · refine IsSegment.append (segment.congr ?_) (laterSegment.congr ?_) disjoint ?_
        · intro id member notPrevious
          exact (links id).trans (if_neg notPrevious)
        · intro id member _
          refine (links id).trans (if_neg ?_)
          rintro rfl
          exact disjoint segment.tail_mem member
        · exact (links previous).trans ((if_pos rfl).trans headShape)
      · obtain ⟨pathHead, pathHeadShape, -⟩ := segment.exists_head
        simp [firstShape, head?_append, pathHeadShape]
      · exact (links tail).trans ((if_neg tailNe).trans ended)
      · exact (held.of_extends extension).append (laterHeld.of_extends extension)

variable {firstIds secondIds : List (Handle Tag)} {firstDatas secondDatas : List Data}

theorem HoldsRing.rotate {tail : Option (Handle Tag)} {middle : Handle Tag}
    (ring : HoldsRing arena tail (firstIds ++ secondIds) (firstDatas ++ secondDatas))
    (sameLength : firstIds.length = firstDatas.length)
    (firstLast : firstIds.getLast? = some middle) :
    HoldsRing arena (some middle) (secondIds ++ firstIds) (secondDatas ++ firstDatas) := by
  obtain ⟨ringAt, held⟩ := ring
  have parts : firstIds.map arena.data? = firstDatas.map some ∧
      secondIds.map arena.data? = secondDatas.map some := by
    rw [Holds, map_append, map_append] at held
    exact append_inj held (by simpa using sameLength)
  refine ⟨?_, Holds.append parts.2 parts.1⟩
  cases tail with
  | none =>
    have noFirst : firstIds = [] := (append_eq_nil_iff.mp ringAt).1
    simp [noFirst] at firstLast
  | some tail => exact IsRing.rotate ringAt firstLast

theorem HoldsRing.splice {firstTail secondTail firstHead secondHead : Handle Tag}
    (first : HoldsRing arena (some firstTail) firstIds firstDatas)
    (second : HoldsRing arena (some secondTail) secondIds secondDatas)
    (disjoint : firstIds.Disjoint secondIds) (firstHeadShape : firstIds.head? = some firstHead)
    (secondHeadShape : secondIds.head? = some secondHead) :
    HoldsRing ((arena.withNext firstTail (some secondHead)).withNext
        secondTail (some firstHead)) (some secondTail)
        (firstIds ++ secondIds) (firstDatas ++ secondDatas) ∧
      Extends (firstIds ++ secondIds) arena
        ((arena.withNext firstTail (some secondHead)).withNext secondTail (some firstHead)) := by
  obtain ⟨firstRing, firstHeld⟩ := first
  obtain ⟨secondRing, secondHeld⟩ := second
  change IsRing arena.next? firstTail firstIds at firstRing
  change IsRing arena.next? secondTail secondIds at secondRing
  obtain ⟨firstTailData, -, firstTailLive⟩ := firstHeld.live firstRing.tail_mem
  obtain ⟨secondTailData, -, secondTailLive⟩ := secondHeld.live secondRing.tail_mem
  have tailsDiffer : firstTail ≠ secondTail := by
    rintro rfl
    exact disjoint firstRing.tail_mem secondRing.tail_mem
  have secondTailLinked :
      (arena.withNext firstTail (some secondHead)).data? secondTail = some secondTailData := by
    simpa using secondTailLive
  have extension : Extends ([firstTail] ++ [secondTail]) arena
      ((arena.withNext firstTail (some secondHead)).withNext secondTail (some firstHead)) :=
    (extends_withNext firstTailLive _).trans (extends_withNext secondTailLinked _)
  have links : ∀ other,
      next? ((arena.withNext firstTail (some secondHead)).withNext
          secondTail (some firstHead)) other =
        if other = secondTail then some firstHead
        else if other = firstTail then some secondHead
        else arena.next? other := by
    intro other
    rw [next?_withNext secondTailLinked, next?_withNext firstTailLive]
  refine ⟨⟨?_, ?_⟩, extension.mono ?_⟩
  · refine IsRing.of_segments firstRing.toIsSegment secondRing.toIsSegment disjoint ?_ ?_ ?_
    · simp [links, tailsDiffer, secondHeadShape]
    · simp [links, firstHeadShape]
    · intro other notFirst notSecond
      simp [links, notFirst, notSecond]
  · exact (firstHeld.of_extends extension).append (secondHeld.of_extends extension)
  · intro id member
    simp only [mem_append, mem_singleton] at member ⊢
    rcases member with rfl | rfl
    · exact .inl firstRing.tail_mem
    · exact .inr secondRing.tail_mem

end LinkedArena
