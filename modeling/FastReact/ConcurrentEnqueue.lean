import FastReact.HostRootSearch

namespace FastReact

open ErrorState LinkWalk

/-!
# What a failed enqueue leaves behind

Staging an update marks its fiber and pushes the staged entry before the root of the
fiber is looked up.  A fiber whose parents do not end at a HostRoot fiber with a root is
reported only then, and its entry stays for the next drain.
-/

namespace FiberRootStore

variable {store after : FiberRootStore} {fiber : FiberId}

structure NoTrace (store after : FiberRootStore) : Prop where
  lanes : ∀ fiber, (after.fiberArena.get? fiber).map (·.lanes) =
    (store.fiberArena.get? fiber).map (·.lanes)
  staged : after.concurrentUpdates = store.concurrentUpdates
  queues : after.updateQueues = store.updateQueues

/-- An enqueue is refused before it changes anything, or not at all: the fiber does not
resolve, or it has the lane and its alternate does not resolve, or both resolve and the
parents end at a HostRoot fiber with a root. -/
def EnqueuesCleanly (store : FiberRootStore) (fiber : FiberId) (lane : Lane) : Prop :=
  ¬ store.fiberArena.IsLive fiber ∨
  (∃ alternate node, store.fiberArena.alternate? fiber = some alternate ∧
    ¬ store.fiberArena.IsLive alternate ∧ store.fiberArena.get? fiber = some node ∧
    node.lanes.merge lane.toLanes = node.lanes) ∨
  ((∀ alternate, store.fiberArena.alternate? fiber = some alternate →
    store.fiberArena.IsLive alternate) ∧ store.ReachesHostRoot fiber)

theorem noTrace_changeFiber_iff {node : FiberNode} (live : store.fiberArena.get? fiber = some node)
    (lanes : Lanes) :
    store.NoTrace { store with
      fiberArena := store.fiberArena.changeFiber fiber (·.mergeLanes lanes) } ↔
      node.lanes.merge lanes = node.lanes := by
  constructor
  · intro noTrace
    have same := noTrace.lanes fiber
    rw [FiberArena.get?_changeFiber, if_pos rfl, live] at same
    exact Option.some.inj same
  · intro contained
    refine ⟨?_, rfl, rfl⟩
    intro other
    rw [FiberArena.get?_changeFiber]
    by_cases isFiber : other = fiber
    · rw [if_pos isFiber, isFiber, live]
      exact congrArg some contained
    · rw [if_neg isFiber]

def staged (store : FiberRootStore) (fiber : FiberId) (queue : UpdateQueueHandle)
    (update : UpdateId) (lane : Lane) : FiberRootStore :=
  { store with
    fiberArena := store.fiberArena.changePair fiber (·.mergeLanes lane.toLanes)
    concurrentUpdates := store.concurrentUpdates.push
      { fiber := fiber, queue := some queue, update := some update, lane := lane } }

/-- A failed enqueue leaves no trace exactly when it is refused before it marks the fiber.
The source does not return where the parents of the fiber form a cycle. -/
theorem failed_enqueue_leaves_no_trace_iff
    (store : FiberRootStore)
    (fiber : FiberId)
    (queue : UpdateQueueHandle)
    (update : UpdateId)
    (lane : Lane) :
    (∀ error after, error ≠ .fiberTopology .endlessReturnPath →
      (enqueueConcurrentHostRootUpdate fiber queue update lane).run store = .error error after →
      store.NoTrace after) ↔
      store.EnqueuesCleanly fiber lane := by
  have keeps : ∀ node : FiberNode,
      (node.mergeLanes lane.toLanes).alternate = node.alternate := fun _ => rfl
  rcases run_modifyPair_cases keeps store fiber with
    ⟨refused, dead, marked⟩ | ⟨live, alternateLive, marked⟩ |
    ⟨alternate, refused, live, linked, dead, notEndless, marked⟩
  · have failed : (enqueueConcurrentHostRootUpdate fiber queue update lane).run store =
        .error refused store := by
      rw [enqueueConcurrentHostRootUpdate, markSourceFiberLanes_eq, run_bind, marked]
    refine iff_of_true ?_ (.inl dead)
    intro error after _ ran
    cases failed.symm.trans ran
    exact ⟨fun _ => rfl, rfl, rfl⟩
  · have lookedUp : (enqueueConcurrentHostRootUpdate fiber queue update lane).run store =
        (rootForUpdatedFiber fiber).run (store.staged fiber queue update lane) := by
      rw [enqueueConcurrentHostRootUpdate, markSourceFiberLanes_eq, run_bind, marked]
      rfl
    have condition : store.EnqueuesCleanly fiber lane ↔ store.ReachesHostRoot fiber := by
      constructor
      · rintro (dead | ⟨alternate, node, linked, dead, -⟩ | ⟨-, reaches⟩)
        · exact absurd live dead
        · exact absurd (alternateLive alternate linked) dead
        · exact reaches
      · exact fun reaches => .inr (.inr ⟨alternateLive, reaches⟩)
    have grows : store.fiberArena.GrowsTo (store.staged fiber queue update lane).fiberArena :=
      .changePair (FiberNode.GrowsTo.mergeLanes · lane.toLanes) _ fiber
    rw [lookedUp, condition, ← reachesHostRoot_iff grows]
    rcases run_rootForUpdatedFiber_cases (store.staged fiber queue update lane) fiber with
      ⟨root, reaches, ran⟩ | ⟨reaches, ran⟩ | ⟨refused, unreached, notEndless, ran⟩
    · simp [ran, reaches]
    · refine iff_of_true ?_ reaches
      intro error after notEndless failed
      cases ran.symm.trans failed
      exact absurd rfl notEndless
    · refine iff_of_false ?_ unreached
      intro noTrace
      have same := congrArg (·.staged.length) (noTrace refused _ notEndless ran).staged
      simp [staged, ConcurrentUpdateStaging.push] at same
  · have failed : (enqueueConcurrentHostRootUpdate fiber queue update lane).run store =
        .error (.fiberTopology refused) { store with
          fiberArena := store.fiberArena.changeFiber fiber (·.mergeLanes lane.toLanes) } := by
      rw [enqueueConcurrentHostRootUpdate, markSourceFiberLanes_eq, run_bind, marked]
    obtain ⟨node, found⟩ := live
    have condition : store.EnqueuesCleanly fiber lane ↔
        node.lanes.merge lane.toLanes = node.lanes := by
      constructor
      · rintro (notLive | ⟨other, otherNode, -, -, foundAgain, contained⟩ | ⟨alternateLive, -⟩)
        · exact absurd ⟨node, found⟩ notLive
        · cases found.symm.trans foundAgain
          exact contained
        · exact absurd (alternateLive alternate linked) dead
      · exact fun contained => .inr (.inl ⟨alternate, node, linked, dead, found, contained⟩)
    rw [condition, ← noTrace_changeFiber_iff found]
    constructor
    · intro noTrace
      exact noTrace _ _ (by simpa using notEndless) failed
    · intro noTrace error after _ ran
      cases failed.symm.trans ran
      exact noTrace

/-- A root with a staged update, a second update, and a fiber outside of every tree. -/
def orphanBesideStagedUpdate : FiberRootStore :=
  stateAfter ((do
    let root ← mapError .fiberRootStore (createClientRoot .none .concurrent)
    let queue ← mapError .fiberRootStore (ensureHostRootUpdateQueue root)
    let update ← onUpdateQueues .updateQueue (createRootUpdate Lane.default)
    let _ ← onUpdateQueues .updateQueue (createRootUpdate Lane.default)
    let _ ← enqueueConcurrentHostRootUpdate ⟨0, 0⟩ queue update Lane.default
    let _ ← onFibers .fiberTopology (createFiber .functionComponent none .none .concurrent) :
      ConcurrentUpdateM Unit).run .new)

/-- The staged update can be drained.  An enqueue for the other fiber is refused, yet its entry
stays staged and makes the drain fail for the root as well. -/
theorem refused_enqueue_blocks_drain :
    (∃ roots after, finishQueueingConcurrentUpdates.run orphanBesideStagedUpdate =
      .ok roots after) ∧
    ∃ after, (enqueueConcurrentHostRootUpdate ⟨1, 0⟩ ⟨1⟩ ⟨1, 0⟩ Lane.default).run
        orphanBesideStagedUpdate = .error (.missingRootForFiber ⟨1, 0⟩) after ∧
      ¬ orphanBesideStagedUpdate.NoTrace after ∧
      ∃ error again, finishQueueingConcurrentUpdates.run after = .error error again := by
  refine ⟨⟨_, _, rfl⟩, _, rfl, ?_, _, _, rfl⟩
  intro noTrace
  have same := congrArg (·.staged.length) noTrace.staged
  revert same
  decide

end FiberRootStore

end FastReact
