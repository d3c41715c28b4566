import FastReact.RootEntanglement
import FastReact.SyncWork

namespace FastReact

open ErrorState Lanes RootLaneState

/-!
# Entangled lanes in a selection

The lanes picked for a root are extended once by the rows of their entangled members.
A callback renders this extension, and a flush renders the synchronous lanes of it.
-/

namespace RootLaneState

def Entangles (state : RootLaneState) (row index : LaneIndex) : Prop :=
  state.entangledLanes.containsIndex row = true ∧
    (state.entanglements row).containsIndex index = true

/-- A set contains the pending lanes that are entangled with its members. -/
def RendersTogether (state : RootLaneState) (chosen : Lanes) : Prop :=
  ((state.entangledLanesFor chosen).intersect state.pendingLanes).isSubsetOf chosen = true

variable {state : RootLaneState} {chosen lanes : Lanes} {index : LaneIndex}

theorem mem_entangledLanesFor_iff :
    (state.entangledLanesFor lanes).containsIndex index = true ↔
      lanes.containsIndex index = true ∨
        ∃ row, lanes.containsIndex row = true ∧ state.Entangles row index :=
  containsIndex_entangledLanesFor ..

theorem rendersTogether_iff :
    state.RendersTogether chosen ↔
      ∀ row index, chosen.containsIndex row = true → state.Entangles row index →
        state.pendingLanes.containsIndex index = true → chosen.containsIndex index = true := by
  unfold RendersTogether
  rw [isSubsetOf_iff]
  constructor
  · intro closed row index member entangles pending
    apply closed
    rw [containsIndex_intersect, Bool.and_eq_true]
    exact ⟨mem_entangledLanesFor_iff.mpr (.inr ⟨row, member, entangles⟩), pending⟩
  · intro closed index reached
    rw [containsIndex_intersect, Bool.and_eq_true] at reached
    obtain ⟨entangled, pending⟩ := reached
    rcases mem_entangledLanesFor_iff.mp entangled with own | ⟨row, member, entangles⟩
    · exact own
    · exact closed row index member entangles pending

theorem rendersTogether_entangledLanesFor :
    state.RendersTogether (state.entangledLanesFor lanes) ↔
      ∀ first middle last, lanes.containsIndex first = true →
        state.Entangles first middle → state.Entangles middle last →
        state.pendingLanes.containsIndex last = true →
        lanes.containsIndex last = true ∨
          ∃ row, lanes.containsIndex row = true ∧ state.Entangles row last := by
  rw [rendersTogether_iff]
  constructor
  · intro closed first middle last member earlier later pending
    exact mem_entangledLanesFor_iff.mp
      (closed middle last (mem_entangledLanesFor_iff.mpr (.inr ⟨first, member, earlier⟩))
        later pending)
  · intro further middle last reached later pending
    rw [mem_entangledLanesFor_iff] at reached ⊢
    rcases reached with own | ⟨first, member, earlier⟩
    · exact .inr ⟨middle, own, later⟩
    · exact further first middle last member earlier later pending

end RootLaneState

namespace FiberRoot

variable {root : FiberRoot}

theorem mem_renderLanes_iff {index : LaneIndex} :
    root.selectLanes.renderLanes.containsIndex index = true ↔
      root.selectLanes.priorityLanes.containsIndex index = true ∨
        ∃ row, root.selectLanes.priorityLanes.containsIndex row = true ∧
          root.lanes.Entangles row index := by
  rw [selectLanes_eq]
  dsimp only
  split
  · simp [RootLaneSelection.noWork]
  · exact mem_entangledLanesFor_iff

theorem rendersTogether_renderLanes :
    root.lanes.RendersTogether root.selectLanes.renderLanes ↔
      ∀ first middle last, root.selectLanes.priorityLanes.containsIndex first = true →
        root.lanes.Entangles first middle → root.lanes.Entangles middle last →
        root.lanes.pendingLanes.containsIndex last = true →
        root.selectLanes.priorityLanes.containsIndex last = true ∨
          ∃ row, root.selectLanes.priorityLanes.containsIndex row = true ∧
            root.lanes.Entangles row last := by
  rw [selectLanes_eq]
  dsimp only
  split
  · simp [RootLaneSelection.noWork, rendersTogether_iff]
  · exact rendersTogether_entangledLanesFor

/-- A lane is among the most urgent pending lanes or in the row of one of them. -/
def ReachesUrgently (root : FiberRoot) (index : LaneIndex) : Prop :=
  root.lanes.highestPriorityPendingLanes.containsIndex index = true ∨
    ∃ row, root.lanes.highestPriorityPendingLanes.containsIndex row = true ∧
      root.lanes.Entangles row index

theorem mem_syncFlushLanes_iff {index : LaneIndex} :
    root.syncFlushLanes.containsIndex index = true ↔
      (index = 0 ∨ index = 1) ∧ root.ReachesUrgently index := by
  rw [containsIndex_syncFlushLanes, containsIndex_nextLanes, and_comm]
  exact Iff.rfl

theorem rendersTogether_syncFlushLanes :
    root.lanes.RendersTogether root.syncFlushLanes ↔
      ∀ row index, (row = 0 ∨ row = 1) ∧ root.ReachesUrgently row →
        root.lanes.Entangles row index →
        root.lanes.pendingLanes.containsIndex index = true →
        (index = 0 ∨ index = 1) ∧ root.ReachesUrgently index := by
  rw [rendersTogether_iff]
  simp only [mem_syncFlushLanes_iff]

end FiberRoot

/-- What a scheduler path renders for a root: each choice, and when it contains the
pending lanes entangled with it. -/
theorem entangled_lanes_of_selection
    {store : FiberRootStore}
    {rootId : FiberRootId}
    {root : FiberRoot}
    (live : store.root rootId = .ok root) :
    ∃ selection flushLanes,
      store.selectLanesForScheduledTask rootId = .ok selection ∧
      store.syncFlushLanesForRoot rootId = .ok flushLanes ∧
      (∀ index, selection.renderLanes.containsIndex index = true ↔
        selection.priorityLanes.containsIndex index = true ∨
          ∃ row, selection.priorityLanes.containsIndex row = true ∧
            root.lanes.Entangles row index) ∧
      (root.lanes.RendersTogether selection.renderLanes ↔
        ∀ first middle last, selection.priorityLanes.containsIndex first = true →
          root.lanes.Entangles first middle → root.lanes.Entangles middle last →
          root.lanes.pendingLanes.containsIndex last = true →
          selection.priorityLanes.containsIndex last = true ∨
            ∃ row, selection.priorityLanes.containsIndex row = true ∧
              root.lanes.Entangles row last) ∧
      (∀ index, flushLanes.containsIndex index = true ↔
        (index = 0 ∨ index = 1) ∧ root.ReachesUrgently index) ∧
      (root.lanes.RendersTogether flushLanes ↔
        ∀ row index, (row = 0 ∨ row = 1) ∧ root.ReachesUrgently row →
          root.lanes.Entangles row index →
          root.lanes.pendingLanes.containsIndex index = true →
          (index = 0 ∨ index = 1) ∧ root.ReachesUrgently index) := by
  refine ⟨root.selectLanes, root.syncFlushLanes, ?_, ?_,
    fun _ => FiberRoot.mem_renderLanes_iff, FiberRoot.rendersTogether_renderLanes,
    fun _ => FiberRoot.mem_syncFlushLanes_iff, FiberRoot.rendersTogether_syncFlushLanes⟩
  · simp [FiberRootStore.selectLanesForScheduledTask, live, Except.mapError, bind,
      Except.bind, pure, Except.pure]
  · simp [FiberRootStore.syncFlushLanesForRoot, live, Except.mapError, bind, Except.bind,
      pure, Except.pure]

/-- A new root with pending lanes after some entangling calls. -/
def entangleUpdates (updates : List Lane) (calls : List Lanes) : RootSchedulerM Unit := do
  let rootId ← mapError .fiberRootStore (createClientRoot .none .concurrent)
  modifyRoot .fiberRootStore rootId fun root =>
    { root with
      lanes := calls.foldl RootLaneState.markEntangled
        (updates.foldl RootLaneState.markUpdated root.lanes) }

def entangledStore (updates : List Lane) (calls : List Lanes) : FiberRootStore :=
  stateAfter ((entangleUpdates updates calls).run FiberRootStore.new)

/-- A callback leaves out a lane that is two rows away, and a flush leaves out the lanes
that are not synchronous. -/
theorem entangled_lanes_left_out :
    (∃ root selection,
      (entangledStore [.default, .transition1, .transition2]
        overlappingCalls).root ⟨0, 0⟩ = .ok root ∧
      (entangledStore [.default, .transition1, .transition2]
        overlappingCalls).selectLanesForScheduledTask ⟨0, 0⟩ = .ok selection ∧
      ¬ root.lanes.RendersTogether selection.renderLanes) ∧
    (∃ root flushLanes,
      (entangledStore [.sync, .transition1]
        [Lanes.sync.mergeLane .transition1]).root ⟨0, 0⟩ = .ok root ∧
      (entangledStore [.sync, .transition1]
        [Lanes.sync.mergeLane .transition1]).syncFlushLanesForRoot ⟨0, 0⟩ = .ok flushLanes ∧
      ¬ root.lanes.RendersTogether flushLanes) := by
  refine ⟨⟨_, _, rfl, rfl, ?_⟩, ⟨_, _, rfl, rfl, ?_⟩⟩
  · unfold RootLaneState.RendersTogether
    decide
  · unfold RootLaneState.RendersTogether
    decide

/-- The selections of a root with a pending and an entangled lane. -/
theorem entangled_lanes_of_selection_sample :
    ∃ root, (entangledStore [.sync, .transition1]
        [Lanes.sync.mergeLane .transition1]).root ⟨0, 0⟩ = .ok root ∧
      ∃ selection flushLanes,
        (entangledStore [.sync, .transition1]
          [Lanes.sync.mergeLane .transition1]).selectLanesForScheduledTask ⟨0, 0⟩ =
            .ok selection ∧
        (entangledStore [.sync, .transition1]
          [Lanes.sync.mergeLane .transition1]).syncFlushLanesForRoot ⟨0, 0⟩ = .ok flushLanes ∧
        ∀ index, selection.renderLanes.containsIndex index = true ↔
          selection.priorityLanes.containsIndex index = true ∨
            ∃ row, selection.priorityLanes.containsIndex row = true ∧
              root.lanes.Entangles row index := by
  refine ⟨_, rfl, ?_⟩
  obtain ⟨selection, flushLanes, selected, flushed, chosen, -⟩ :=
    entangled_lanes_of_selection
      (rfl : (entangledStore [.sync, .transition1]
      [Lanes.sync.mergeLane .transition1]).root ⟨0, 0⟩ = .ok _)
  exact ⟨selection, flushLanes, selected, flushed, chosen⟩

end FastReact
