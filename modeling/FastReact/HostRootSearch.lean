import FastReact.LaneMarkingPaths

namespace FastReact

open ErrorState FiberArena LinkWalk List

/-!
# Looking for the root of a fiber

The parents of a fiber have one end, or none where they form a cycle.  A walk that only
looks finds that end in as many rounds as there are slots, and reports it when it is no
HostRoot fiber with a root.
-/

namespace FiberRootStore

variable {store after : FiberRootStore} {fiber last : FiberId} {ancestors : List FiberId}

/-- One fiber is another or one of its ancestors. -/
def MetFrom (store : FiberRootStore) (fiber last : FiberId) : Prop :=
  last = fiber ∨ store.fiberArena.Ancestor last fiber

/-- Where the parents of a fiber end, there is a HostRoot fiber that carries a root. -/
def ReachesHostRoot (store : FiberRootStore) (fiber : FiberId) : Prop :=
  ∀ last, store.MetFrom fiber last → store.fiberArena.returnFiber? last = none →
    ∃ node root, store.fiberArena.get? last = some node ∧ node.tag = .hostRoot ∧
      node.stateNode = some root

/-- More lanes do not change where the parents of a fiber end. -/
theorem reachesHostRoot_iff (grows : store.fiberArena.GrowsTo after.fiberArena) :
    after.ReachesHostRoot fiber ↔ store.ReachesHostRoot fiber := by
  have sameMet : ∀ last, after.MetFrom fiber last ↔ store.MetFrom fiber last := by
    intro last
    rw [MetFrom, MetFrom, FiberArena.Ancestor, FiberArena.Ancestor, grows.returnFiber?]
  simp only [ReachesHostRoot, sameMet, grows.returnFiber?]
  constructor
  · intro reaches last met ends
    obtain ⟨nodeAfter, root, liveAfter, isHostRoot, stateNode⟩ := reaches last met ends
    obtain ⟨node, live⟩ := grows.isLive_iff.mp ⟨nodeAfter, liveAfter⟩
    obtain ⟨_, liveGrown, grown⟩ := grows.kept last node live
    cases liveAfter.symm.trans liveGrown
    rw [grown.same] at isHostRoot stateNode
    exact ⟨node, root, live, isHostRoot, stateNode⟩
  · intro reaches last met ends
    obtain ⟨node, root, live, isHostRoot, stateNode⟩ := reaches last met ends
    obtain ⟨nodeAfter, liveAfter, grown⟩ := grows.kept last node live
    refine ⟨nodeAfter, root, liveAfter, ?_, ?_⟩
    · rw [grown.same]
      exact isHostRoot
    · rw [grown.same]
      exact stateNode

theorem MetFrom.step {parent : FiberId} (linked : store.fiberArena.returnFiber? fiber = some parent)
    (met : store.MetFrom parent last) : store.MetFrom fiber last := by
  rcases met with rfl | leads
  · exact .inr (.single linked)
  · exact .inr (.head linked leads)

section

variable {node : FiberNode} (live : store.fiberArena.get? fiber = some node)
include live

theorem run_walkToHostRoot_succ {parent : FiberId} (leads : node.returnFiber = some parent)
    (rounds : Nat) :
    (walkToHostRoot (fun _ => pure ()) (rounds + 1) fiber).run store =
      (walkToHostRoot (fun _ => pure ()) rounds parent).run store := by
  simp only [walkToHostRoot, run_bind, run_getFiber live, leads]
  rfl

theorem run_walkToHostRoot_of_end (ends : node.returnFiber = none) (rounds : Nat) :
    (walkToHostRoot (fun _ => pure ()) (rounds + 1) fiber).run store = .ok fiber store := by
  simp only [walkToHostRoot, run_bind, run_getFiber live, ends]
  rfl

end

theorem run_walkToHostRoot_of_dead (dead : ¬ store.fiberArena.IsLive fiber) (rounds : Nat) :
    ∃ error, error ≠ .endlessReturnPath ∧
      (walkToHostRoot (fun _ => pure ()) (rounds + 1) fiber).run store =
        .error (.fiberTopology error) store := by
  obtain ⟨error, notEndless, failed⟩ := get_eq_error_of_dead dead
  refine ⟨error, notEndless, ?_⟩
  simp only [walkToHostRoot, run_bind, getFiber, run_query, failed, Except.mapError]

/-- A walk up finds a live end, an end that does not resolve, or none in its rounds. -/
theorem run_walkToHostRoot_cases (store : FiberRootStore) (rounds : Nat) (fiber : FiberId) :
    (∃ last node, store.MetFrom fiber last ∧ store.fiberArena.get? last = some node ∧
      node.returnFiber = none ∧
      (walkToHostRoot (fun _ => pure ()) rounds fiber).run store = .ok last store) ∨
    (∃ last error, store.MetFrom fiber last ∧ ¬ store.fiberArena.IsLive last ∧
      error ≠ .endlessReturnPath ∧
      (walkToHostRoot (fun _ => pure ()) rounds fiber).run store =
        .error (.fiberTopology error) store) ∨
    (walkToHostRoot (fun _ => pure ()) rounds fiber).run store =
      .error (.fiberTopology .endlessReturnPath) store := by
  induction rounds generalizing fiber with
  | zero => exact .inr (.inr rfl)
  | succ rounds ih =>
    by_cases live : store.fiberArena.IsLive fiber
    · obtain ⟨node, found⟩ := live
      cases leads : node.returnFiber with
      | none =>
        exact .inl ⟨fiber, node, .inl rfl, found, leads,
          run_walkToHostRoot_of_end found leads rounds⟩
      | some parent =>
        have linked := (returnFiber?_of_get? found).trans leads
        rw [run_walkToHostRoot_succ found leads]
        rcases ih parent with
          ⟨last, lastNode, met, lastFound, ends, ran⟩ | ⟨last, error, met, dead, notEndless, ran⟩ |
          ran
        · exact .inl ⟨last, lastNode, met.step linked, lastFound, ends, ran⟩
        · exact .inr (.inl ⟨last, error, met.step linked, dead, notEndless, ran⟩)
        · exact .inr (.inr ran)
    · obtain ⟨error, notEndless, failed⟩ := run_walkToHostRoot_of_dead live rounds
      exact .inr (.inl ⟨fiber, error, .inl rfl, live, notEndless, failed⟩)

theorem run_walkToHostRoot_ne_endless {rounds : Nat}
    (walk : IsWalk store.fiberArena.returnFiber? (store.fiberArena.returnFiber? fiber) ancestors)
    (enough : ancestors.length < rounds) :
    (walkToHostRoot (fun _ => pure ()) rounds fiber).run store ≠
      .error (.fiberTopology .endlessReturnPath) store := by
  induction ancestors generalizing fiber rounds with
  | nil =>
    obtain ⟨remaining, rfl⟩ := Nat.exists_eq_succ_of_ne_zero (Nat.ne_of_gt enough)
    by_cases live : store.fiberArena.IsLive fiber
    · obtain ⟨node, found⟩ := live
      have ends := (returnFiber?_of_get? found).symm.trans walk
      rw [run_walkToHostRoot_of_end found ends]
      simp
    · obtain ⟨error, notEndless, failed⟩ := run_walkToHostRoot_of_dead live remaining
      rw [failed]
      simpa using notEndless
  | cons parent rest ih =>
    obtain ⟨remaining, rfl⟩ :=
      Nat.exists_eq_succ_of_ne_zero (Nat.ne_of_gt (Nat.zero_lt_of_lt enough))
    obtain ⟨node, found⟩ := isLive_of_returnFiber? walk.1
    have leads := (returnFiber?_of_get? found).symm.trans walk.1
    rw [run_walkToHostRoot_succ found leads]
    exact ih walk.2 (Nat.lt_of_succ_lt_succ enough)

section

variable (met : store.MetFrom fiber last)
include met

section

variable (ends : store.fiberArena.returnFiber? last = none)
include ends

/-- An end of the parents of a fiber is met by a walk that is no longer than the arena and
whose fibers before the end are live. -/
theorem MetFrom.exists_walk :
    ∃ ancestors,
      IsWalk store.fiberArena.returnFiber? (store.fiberArena.returnFiber? fiber) ancestors ∧
      (∀ id ∈ (fiber :: ancestors).dropLast, store.fiberArena.IsLive id) ∧
      ancestors.length ≤ store.fiberArena.nodes.slots.length ∧
      ancestors.getLastD fiber = last := by
  obtain ⟨ancestors, walk⟩ := IsWalk.exists_of_ends met ends
  have whole : IsWalk store.fiberArena.returnFiber? (some fiber) (fiber :: ancestors) := ⟨rfl, walk⟩
  have distinct : (fiber :: ancestors).dropLast.Nodup := whole.nodup.sublist (dropLast_sublist _)
  have live : ∀ id ∈ (fiber :: ancestors).dropLast, store.fiberArena.IsLive id := by
    intro id member
    obtain ⟨parent, linked⟩ := whole.exists_link_of_mem_dropLast member
    exact isLive_of_returnFiber? linked
  have short := SlotArena.length_le_of_nodup distinct live
  rw [length_dropLast, length_cons, Nat.add_sub_cancel] at short
  exact ⟨ancestors, walk, live, short, walk.getLastD_eq met ends⟩

theorem MetFrom.run_ne_endless :
    (walkToHostRoot (fun _ => pure ()) (store.fiberArena.nodes.slots.length + 1) fiber).run store ≠
      .error (.fiberTopology .endlessReturnPath) store := by
  obtain ⟨ancestors, walk, -, short, -⟩ := met.exists_walk ends
  exact run_walkToHostRoot_ne_endless walk (Nat.lt_succ_of_le short)

end

theorem MetFrom.exists_livePath
    (live : store.fiberArena.IsLive last) (ends : store.fiberArena.returnFiber? last = none) :
    ∃ ancestors,
      IsWalk store.fiberArena.returnFiber? (store.fiberArena.returnFiber? fiber) ancestors ∧
      (∀ id ∈ fiber :: ancestors, store.fiberArena.IsLive id) ∧
      ancestors.length ≤ store.fiberArena.nodes.slots.length ∧
      ancestors.getLastD fiber = last := by
  obtain ⟨ancestors, walk, liveBefore, short, isLast⟩ := met.exists_walk ends
  refine ⟨ancestors, walk, ?_, short, isLast⟩
  intro id member
  rw [← dropLast_append_getLast (cons_ne_nil fiber ancestors), mem_append,
    mem_singleton, getLast_eq_getLastD, isLast] at member
  rcases member with before | rfl
  · exact liveBefore id before
  · exact live

theorem MetFrom.end_unique {other : FiberId}
    (ends : store.fiberArena.returnFiber? last = none) (metOther : store.MetFrom fiber other)
    (endsOther : store.fiberArena.returnFiber? other = none) : last = other := by
  obtain ⟨ancestors, walk⟩ := IsWalk.exists_of_ends met ends
  exact (walk.getLastD_eq met ends).symm.trans (walk.getLastD_eq metOther endsOther)

end

theorem run_hostRootIdForFiber_cases {node : FiberNode}
    (live : store.fiberArena.get? last = some node) :
    (∃ root, node.tag = .hostRoot ∧ node.stateNode = some root ∧
      (hostRootIdForFiber last).run store = .ok root store) ∨
    ∃ error, (∀ root, ¬ (node.tag = .hostRoot ∧ node.stateNode = some root)) ∧
      error ≠ .fiberTopology .endlessReturnPath ∧
      (hostRootIdForFiber last).run store = .error error store := by
  by_cases isHostRoot : node.tag = .hostRoot
  · cases stateNode : node.stateNode with
    | none =>
      refine .inr ⟨.invalidHostRootStateNode last, by simp, by simp, ?_⟩
      simp only [hostRootIdForFiber, run_bind, run_getFiber live, isHostRoot, stateNode,
        ne_eq, not_true_eq_false, if_false]
      rfl
    | some root =>
      refine .inl ⟨root, isHostRoot, rfl, ?_⟩
      simp only [hostRootIdForFiber, run_bind, run_getFiber live, isHostRoot, stateNode,
        ne_eq, not_true_eq_false, if_false]
      rfl
  · refine .inr ⟨.missingRootForFiber last, by simp [isHostRoot], by simp, ?_⟩
    simp only [hostRootIdForFiber, run_bind, run_getFiber live, ne_eq, isHostRoot,
      not_false_eq_true, if_true]
    rfl

theorem run_rootForUpdatedFiber_cases (store : FiberRootStore) (fiber : FiberId) :
    (∃ root, store.ReachesHostRoot fiber ∧ (rootForUpdatedFiber fiber).run store = .ok root store) ∨
    (store.ReachesHostRoot fiber ∧
      (rootForUpdatedFiber fiber).run store = .error (.fiberTopology .endlessReturnPath) store) ∨
    ∃ error, ¬ store.ReachesHostRoot fiber ∧
      error ≠ .fiberTopology .endlessReturnPath ∧
      (rootForUpdatedFiber fiber).run store = .error error store := by
  rcases run_walkToHostRoot_cases store (store.fiberArena.nodes.slots.length + 1) fiber with
    ⟨last, node, met, found, noParent, walked⟩ | ⟨last, error, met, dead, notEndless, walked⟩ | walked
  · have ends := (returnFiber?_of_get? found).trans noParent
    rcases run_hostRootIdForFiber_cases found with
      ⟨root, isHostRoot, stateNode, named⟩ | ⟨error, unnamed, notEndless, refused⟩
    · refine .inl ⟨root, ?_, ?_⟩
      · intro other metOther endsOther
        obtain rfl := met.end_unique ends metOther endsOther
        exact ⟨node, root, found, isHostRoot, stateNode⟩
      · simp only [rootForUpdatedFiber, hostRootForUpdatedFiber, run_bind, run_get, walked, named]
        rfl
    · refine .inr (.inr ⟨error, ?_, notEndless, ?_⟩)
      · intro reaches
        obtain ⟨other, root, foundOther, isHostRoot, stateNode⟩ := reaches last met ends
        cases found.symm.trans foundOther
        exact unnamed root ⟨isHostRoot, stateNode⟩
      · simp only [rootForUpdatedFiber, hostRootForUpdatedFiber, run_bind, run_get, walked, refused]
  · refine .inr (.inr ⟨.fiberTopology error, ?_, by simpa using notEndless, ?_⟩)
    · intro reaches
      obtain ⟨node, -, found, -⟩ := reaches last met (links_none_of_not_isLive dead).1
      exact dead ⟨node, found⟩
    · simp only [rootForUpdatedFiber, hostRootForUpdatedFiber, run_bind, run_get, walked]
  · refine .inr (.inl ⟨?_, ?_⟩)
    · exact fun last met ends => absurd walked (met.run_ne_endless ends)
    · simp only [rootForUpdatedFiber, hostRootForUpdatedFiber, run_bind, run_get, walked]

theorem of_hostRootForUpdatedFiber {found : FiberRootId × FiberId}
    (ran : (hostRootForUpdatedFiber fiber).run store = .ok found after) :
    after = store ∧ ∃ node, store.MetFrom fiber found.2 ∧
      store.fiberArena.get? found.2 = some node ∧ node.returnFiber = none ∧
      node.tag = .hostRoot ∧ node.stateNode = some found.1 := by
  obtain ⟨seen, _, isStore, walkRan⟩ := run_bind_eq_ok_iff.mp ran
  cases isStore
  obtain ⟨last, _, walked, namedRan⟩ := run_bind_eq_ok_iff.mp walkRan
  obtain ⟨root, _, named, finished⟩ := run_bind_eq_ok_iff.mp namedRan
  cases finished
  rcases run_walkToHostRoot_cases store (store.fiberArena.nodes.slots.length + 1) fiber with
    ⟨other, node, met, live, ends, walkedOther⟩ | ⟨_, _, -, -, -, failed⟩ | failed
  · cases walkedOther.symm.trans walked
    rcases run_hostRootIdForFiber_cases live with
      ⟨otherRoot, isHostRoot, stateNode, namedOther⟩ | ⟨_, -, -, failed⟩
    · cases namedOther.symm.trans named
      exact ⟨rfl, node, met, live, ends, isHostRoot, stateNode⟩
    · cases failed.symm.trans named
  · cases failed.symm.trans walked
  · cases failed.symm.trans walked

end FiberRootStore

end FastReact
