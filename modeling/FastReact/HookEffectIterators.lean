import FastReact.FunctionEffectRings
import FastReact.Iteration

namespace FastReact

open ErrorState Iteration LinkChain LinkedArena List

/-!
# Iterating hook effects

An iterator starts at the first effect of a ring and ends where the next one is the first
again, or with an error after as many effects as the arena has.  All rings are in one arena;
each of them is iterated in the order in which its effects were pushed, whatever was pushed
to the others in between.
-/

namespace FunctionEffects

open FunctionComponent (HookEffectTag)
open PassiveEffects (HookEffectArenaId HookEffectCallbackHandle HookEffectInstanceId)

/-- A stored effect with its identity. -/
structure HookEffectNode extends Node HookEffectTag HookEffect where
  id : HookEffectId

def HookEffectNode.matchesFlags (node : HookEffectNode) (flags : HookEffectFlags) : Bool :=
  node.data.tag.containsAll flags

abbrev HookEffectItem := Except HookEffectArenaError HookEffectNode

/-- The filtered iterator passes errors on. -/
def HookEffectItem.matchesFlags (flags : HookEffectFlags) : HookEffectItem → Bool
  | .ok node => node.matchesFlags flags
  | .error _ => true

structure HookEffectIter where
  first : Option HookEffectId
  next : Option HookEffectId
  remaining : Nat
deriving DecidableEq

namespace HookEffectArena

variable (arena : HookEffectArena)

def iter (ring : HookEffectRing) : Except HookEffectArenaError HookEffectIter := do
  let first ← arena.firstEffect ring
  return { first := first, next := first, remaining := arena.effectLen }

/-- The item for the next effect, when there are effects left to look at. -/
def nextItem (iter : HookEffectIter) (effectId : HookEffectId) : HookEffectItem × HookEffectIter :=
  match arena.getEffect effectId with
  | .ok node =>
      (.ok { toNode := node, id := effectId },
        { iter with
          next := if node.next = iter.first then none else node.next
          remaining := iter.remaining - 1 })
  | .error error => (.error error, { iter with next := none, remaining := iter.remaining - 1 })

/-- `HookEffectIter::next`; an iterator with a next effect has a first one. -/
def iterNext (iter : HookEffectIter) : Option (HookEffectItem × HookEffectIter) :=
  iter.next.map fun effectId =>
    if iter.remaining = 0 then
      (.error (.corruptEffectRing (iter.first.getD effectId) effectId), { iter with next := none })
    else
      arena.nextItem iter effectId

/-- `HookEffectFilteredIter::next`; its loop ends within two rounds more than there are effects
to look at. -/
def iterMatchingNext (flags : HookEffectFlags) :
    HookEffectIter → Option (HookEffectItem × HookEffectIter) :=
  filtered (HookEffectItem.matchesFlags flags) arena.iterNext (·.remaining + 2)

end HookEffectArena

structure HookEffectRings (Owner : Type) where
  arena : HookEffectArena
  rings : Owner → HookEffectRing

inductive HookEffectCall (Owner : Type) where
  | createEffectInstance
  | setDestroy (effectInstance : HookEffectInstanceId) (destroy : Option HookEffectCallbackHandle)
  | pushEffect (ring : Owner) (effect : HookEffect)

variable {Owner : Type} [DecidableEq Owner]

namespace HookEffectRings

def new (arenaId : HookEffectArenaId) : HookEffectRings Owner where
  arena := .new arenaId
  rings := fun _ => { lastEffect := none }

variable (world : HookEffectRings Owner)

/-- A push that fails changes neither the arena nor the ring. -/
def pushEffect (ring : Owner) (effect : HookEffect) : HookEffectRings Owner :=
  match world.arena.pushEffect (world.rings ring) effect with
  | .ok (effectId, arena) =>
      { arena := arena
        rings := fun other =>
          if other = ring then { lastEffect := some effectId } else world.rings other }
  | .error _ => world

def perform : HookEffectCall Owner → HookEffectRings Owner
  | .createEffectInstance => { world with arena := world.arena.createEffectInstance.2 }
  | .setDestroy effectInstance destroy =>
      { world with arena := world.arena.setDestroy effectInstance destroy }
  | .pushEffect ring effect => world.pushEffect ring effect

def pushedBy (ring : Owner) : HookEffectCall Owner → List (HookEffectId × HookEffect)
  | .pushEffect other effect =>
      if other = ring then
        (world.arena.pushEffect (world.rings other) effect).toOption.toList.map fun pushed =>
          (pushed.1, effect)
      else
        []
  | _ => []

def run (calls : List (HookEffectCall Owner)) : HookEffectRings Owner :=
  calls.foldl perform world

def pushed (ring : Owner) :
    HookEffectRings Owner → List (HookEffectCall Owner) → List (HookEffectId × HookEffect)
  | _, [] => []
  | world, call :: later => world.pushedBy ring call ++ pushed ring (world.perform call) later

/-- What calls make of a new arena. -/
def reached (arenaId : HookEffectArenaId) (calls : List (HookEffectCall Owner)) :
    HookEffectRings Owner :=
  (new arenaId).run calls

def effectsOf (arenaId : HookEffectArenaId) (calls : List (HookEffectCall Owner)) (ring : Owner) :
    List (HookEffectId × HookEffect) :=
  pushed ring (new arenaId) calls

end HookEffectRings

namespace HookEffectArena

variable {arena after : HookEffectArena} {ids : List HookEffectId} {effects : List HookEffect}
  {last effectId : HookEffectId} {effect : HookEffect} {iter : HookEffectIter}

def nodeOf (arena : HookEffectArena) (entry : HookEffectId × HookEffect) : HookEffectNode where
  data := entry.2
  next := arena.effects.next? entry.1
  id := entry.1

theorem iterNext_eq (first : Option HookEffectId) {remaining : Nat} (enough : 0 < remaining)
    (stored : arena.effects.data? effectId = some effect) :
    arena.iterNext { first := first, next := some effectId, remaining := remaining } =
      some (.ok (arena.nodeOf (effectId, effect)),
        { first := first
          next := if arena.effects.next? effectId = first then none
            else arena.effects.next? effectId
          remaining := remaining - 1 }) := by
  rw [iterNext, Option.map_some, if_neg (Nat.ne_of_gt enough), nextItem, getEffect_eq_ok stored]
  rfl

variable {entries : List (HookEffectId × HookEffect)} {items : List HookEffectItem} {calls : Nat}

theorem eq_nil_of_drain (ended : iter.next = none)
    (drained : drain arena.iterNext calls iter = some items) : items = [] := by
  have noItem : arena.iterNext iter = none := by rw [iterNext, ended, Option.map_none]
  cases calls with
  | zero =>
    cases drained
  | succ calls =>
    rw [drain_of_none noItem] at drained
    exact (Option.some.inj drained).symm

theorem remaining_nextItem (arena : HookEffectArena) (iter : HookEffectIter)
    (effectId : HookEffectId) :
    (arena.nextItem iter effectId).2.remaining = iter.remaining - 1 := by
  unfold nextItem
  cases arena.getEffect effectId <;> rfl

theorem length_lt_of_drain (drained : drain arena.iterNext calls iter = some items) :
    items.length < iter.remaining + 2 := by
  induction calls generalizing iter items with
  | zero =>
    cases drained
  | succ calls ih =>
    rcases drain_succ_eq_some_iff.mp drained with
      ⟨-, rfl⟩ | ⟨item, rest, later, given, drainedLater, rfl⟩
    · exact Nat.succ_pos _
    · obtain ⟨effectId, -, given⟩ := Option.map_eq_some_iff.mp given
      by_cases noneLeft : iter.remaining = 0
      · rw [if_pos noneLeft] at given
        cases given
        rw [eq_nil_of_drain rfl drainedLater, noneLeft]
        exact Nat.lt_succ_self 1
      · rw [if_neg noneLeft] at given
        have fewer := arena.remaining_nextItem iter effectId
        rw [given] at fewer
        have bound := ih drainedLater
        rw [length_cons]
        dsimp only at fewer
        omega

theorem drain_iterNext (entries : List (HookEffectId × HookEffect))
    (ring : IsRing arena.effects.next? last (entries.map Prod.fst))
    (stored : ∀ entry ∈ entries, arena.effects.data? entry.1 = some entry.2) :
    ∀ later before entry, entries = before ++ entry :: later →
      ∀ remaining calls, later.length < remaining → later.length + 1 < calls →
        drain arena.iterNext calls
            { first := (entries.map Prod.fst).head?, next := some entry.1, remaining := remaining } =
          some ((entry :: later).map fun other => .ok (arena.nodeOf other)) := by
  refine ring.around ?_ ?_
  · intro before entry shape closing remaining calls enough enoughCalls
    obtain ⟨calls, rfl⟩ : ∃ more, calls = more + 2 := ⟨calls - 2, by omega⟩
    have given := iterNext_eq (entries.map Prod.fst).head? enough (stored entry (by simp [shape]))
    rw [closing, if_pos rfl] at given
    rw [drain_of_some given, drain_of_none rfl]
    rfl
  · intro before entry other later shape linked notFirst drained remaining calls enough enoughCalls
    obtain ⟨calls, rfl⟩ : ∃ more, calls = more + 1 := ⟨calls - 1, by omega⟩
    have given := iterNext_eq (entries.map Prod.fst).head? (Nat.zero_lt_of_lt enough)
      (stored entry (by simp [shape]))
    rw [linked, if_neg notFirst] at given
    rw [drain_of_some given, drained _ calls (Nat.lt_sub_of_add_lt enough)
      (Nat.lt_of_succ_lt_succ enoughCalls)]
    rfl

theorem drain_iter {ring : HookEffectRing}
    (holds : HoldsRing arena.effects ring.lastEffect (entries.map Prod.fst)
      (entries.map Prod.snd)) :
    ∃ iter, arena.iter ring = .ok iter ∧
      ∀ calls, entries.length < calls →
        drain arena.iterNext calls iter =
          some (entries.map fun entry => .ok (arena.nodeOf entry)) := by
  have found := firstEffect_eq_ok holds
  have bound := length_le_effectLen holds
  refine ⟨⟨(entries.map Prod.fst).head?, (entries.map Prod.fst).head?, arena.effectLen⟩, ?_, ?_⟩
  · rw [iter, found]
    rfl
  · intro calls enoughCalls
    cases entries with
    | nil =>
      obtain ⟨calls, rfl⟩ : ∃ more, calls = more + 1 := ⟨calls - 1, by omega⟩
      exact drain_of_none rfl
    | cons entry later =>
      cases lastShape : ring.lastEffect with
      | none =>
        rw [lastShape] at holds
        cases holds.ring
      | some last =>
        rw [lastShape] at holds
        rw [length_map] at bound
        exact drain_iterNext _ holds.ring (fun _ => holds.holds.of_mem) later [] entry rfl _ calls
          bound enoughCalls

end HookEffectArena

namespace HookEffectRings

open HookEffectArena

variable {world : HookEffectRings Owner} {entries : Owner → List (HookEffectId × HookEffect)}

/-- Every ring holds its entries, and no two rings share one. -/
def Holding (world : HookEffectRings Owner) (entries : Owner → List (HookEffectId × HookEffect)) :
    Prop :=
  RingFamily world.arena.effects (fun ring => (world.rings ring).lastEffect)
    (fun ring => (entries ring).map Prod.fst) (fun ring => (entries ring).map Prod.snd)

omit [DecidableEq Owner] in
theorem holding_new (arenaId : HookEffectArenaId) :
    (new arenaId : HookEffectRings Owner).Holding fun _ => [] where
  rings := fun _ => ⟨rfl, rfl⟩
  disjoint := fun _ _ _ => disjoint_nil_left _

section

variable (holding : world.Holding entries)
include holding

theorem Holding.pushEffect {ring : Owner} {effect : HookEffect} {effectId : HookEffectId}
    {arena : HookEffectArena}
    (pushed : world.arena.pushEffect (world.rings ring) effect = .ok (effectId, arena)) :
    Holding
      { arena := arena
        rings := fun other =>
          if other = ring then { lastEffect := some effectId } else world.rings other }
      fun other =>
        if other = ring then entries ring ++ [(effectId, effect)] else entries other := by
  obtain ⟨pushedRing, change⟩ := pushEffect_spec (holding.rings ring) pushed
  refine holding.replace_one ring ?_ ?_ ?_ ?_
  · intro other isOther member isMember
    obtain ⟨data, -, live⟩ := (holding.rings other).holds.live isMember
    refine change.extension.get?_eq live ?_
    rw [mem_append, mem_singleton]
    rintro (own | rfl)
    · exact holding.disjoint other _ isOther isMember own
    · rw [change.isNew] at live
      cases live
  · intro other isOther
    simp only [if_neg isOther, and_self]
  · simpa only [if_pos, map_append, map_cons, map_nil] using pushedRing
  · intro member isMember
    simp only [if_pos, map_append, mem_append, map_cons, map_nil, mem_singleton] at isMember
    refine isMember.imp_right ?_
    rintro rfl
    cases linked : world.arena.effects.next? member with
    | none => rfl
    | some next =>
      obtain ⟨data, live⟩ := exists_data?_of_next? linked
      rw [change.isNew] at live
      cases live

omit [DecidableEq Owner] in
theorem Holding.of_eq {others : Owner → List (HookEffectId × HookEffect)}
    (same : ∀ ring, others ring = entries ring) : world.Holding others := by
  obtain rfl : others = entries := funext same
  exact holding

theorem Holding.perform (call : HookEffectCall Owner) :
    (world.perform call).Holding fun ring => entries ring ++ world.pushedBy ring call := by
  cases call with
  | createEffectInstance =>
    change world.Holding fun ring => entries ring ++ []
    simpa only [append_nil] using holding
  | setDestroy effectInstance destroy =>
    change world.Holding fun ring => entries ring ++ []
    simpa only [append_nil] using holding
  | pushEffect ring effect =>
    change (world.pushEffect ring effect).Holding _
    unfold HookEffectRings.pushEffect pushedBy
    cases pushed : world.arena.pushEffect (world.rings ring) effect with
    | error error =>
      refine holding.of_eq fun other => ?_
      simp [pushed, Except.toOption]
    | ok result =>
      have added := holding.pushEffect pushed
      refine added.of_eq ?_
      intro other
      by_cases isOwn : other = ring
      · subst isOwn
        simp [pushed, Except.toOption]
      · simp [isOwn, Ne.symm isOwn]

end

theorem Holding.run (calls : List (HookEffectCall Owner)) (holding : world.Holding entries) :
    (world.run calls).Holding fun ring => entries ring ++ pushed ring world calls := by
  induction calls generalizing world entries with
  | nil => simpa [HookEffectRings.run, pushed] using holding
  | cons call later ih =>
    have after := ih (holding.perform call)
    simpa [HookEffectRings.run, pushed, append_assoc] using after

theorem holding_reached (arenaId : HookEffectArenaId) (calls : List (HookEffectCall Owner)) :
    (reached arenaId calls).Holding (effectsOf arenaId calls) :=
  (holding_new arenaId).run calls

end HookEffectRings

end FunctionEffects

open FunctionEffects HookEffectRings in
/-- Every iterator of a ring gives the effects that were pushed to it, in order and each of them
once, and a filtered one gives those with the marks. -/
theorem hook_effect_rings_iterate_in_push_order
    {Owner : Type}
    [DecidableEq Owner]
    (arenaId : PassiveEffects.HookEffectArenaId)
    (calls : List (HookEffectCall Owner))
    (ring : Owner)
    (flags : HookEffectFlags) :
    ((effectsOf arenaId calls ring).map Prod.fst).Nodup ∧
      ∃ iter,
        (reached arenaId calls).arena.iter ((reached arenaId calls).rings ring) = .ok iter ∧
          ∀ count, (effectsOf arenaId calls ring).length < count →
            drain (reached arenaId calls).arena.iterNext count iter =
                some ((effectsOf arenaId calls ring).map fun entry =>
                  .ok ((reached arenaId calls).arena.nodeOf entry)) ∧
              drain ((reached arenaId calls).arena.iterMatchingNext flags) count iter =
                some (((effectsOf arenaId calls ring).filter fun entry =>
                  entry.2.tag.containsAll flags).map fun entry =>
                    .ok ((reached arenaId calls).arena.nodeOf entry)) := by
  have ringHolds := (holding_reached arenaId calls).rings ring
  obtain ⟨iter, isIter, drains⟩ := HookEffectArena.drain_iter ringHolds
  refine ⟨ringHolds.ring.nodup, iter, isIter, fun count enough => ⟨drains count enough, ?_⟩⟩
  have matching := drain_filtered (HookEffectItem.matchesFlags flags)
    (fun _ _ _ drained => HookEffectArena.length_lt_of_drain drained) (drains count enough)
  rw [HookEffectArena.iterMatchingNext, matching, filter_map]
  rfl

end FastReact
