import FastReact.GroupChain
import FastReact.RootLanes

namespace FastReact

open GroupChain Lanes List

/-!
# Entanglement of lanes

Entangling a set adds it to the rows of its lanes and to the rows that already touch
it, but does not look up what the lanes of the set are entangled with.  A row therefore
holds what later sets lead to, taken in the order of the calls.
-/

namespace Lanes

def positions (lanes : Lanes) : Set LaneIndex :=
  {index | lanes.containsIndex index = true}

@[simp] theorem mem_positions {lanes : Lanes} {index : LaneIndex} :
    index ∈ lanes.positions ↔ lanes.containsIndex index = true :=
  Iff.rfl

end Lanes

namespace RootLaneState

def entangledBy (features : RootLaneFeatureFlags) (calls : List Lanes) : RootLaneState :=
  calls.foldl markEntangled (withFeatures features)

variable {features : RootLaneFeatureFlags} {calls : List Lanes} {first last : LaneIndex}

theorem entangledBy_snoc (calls : List Lanes) (call : Lanes) :
    entangledBy features (calls ++ [call]) = (entangledBy features calls).markEntangled call := by
  simp [entangledBy]

theorem containsIndex_entangledLanes_entangledBy :
    (entangledBy features calls).entangledLanes.containsIndex first = true ↔
      ∃ call ∈ calls, call.containsIndex first = true := by
  induction calls using List.reverseRecOn with
  | nil => simp [entangledBy, withFeatures, new]
  | append_singleton calls call ih =>
    rw [entangledBy_snoc]
    simp [markEntangled, ih, or_and_right, exists_or]

theorem containsIndex_entanglements_entangledBy :
    ((entangledBy features calls).entanglements first).containsIndex last = true ↔
      LinkedInOrder (calls.map Lanes.positions) first last := by
  induction calls using List.reverseRecOn generalizing last with
  | nil => simp [entangledBy, withFeatures, new]
  | append_singleton calls call ih =>
    have touches :
        ((entangledBy features calls).entanglements first).containsAny call = true ↔
          ∃ middle ∈ call.positions, LinkedInOrder (calls.map Lanes.positions) first middle := by
      simp only [containsAny_iff, ih, mem_positions, and_comm]
    -- A row that touches the call belongs to an entangled lane.
    have entangled :
        (call.containsIndex first = true ∨
          ((entangledBy features calls).entanglements first).containsAny call = true) →
        ((entangledBy features calls).entangledLanes.merge call).containsIndex first = true := by
      rw [touches, containsIndex_merge, Bool.or_eq_true, containsIndex_entangledLanes_entangledBy]
      rintro (own | ⟨middle, -, linked⟩)
      · exact .inr own
      · obtain ⟨group, member, firstIn⟩ := linked.exists_group
        obtain ⟨earlier, earlierCall, rfl⟩ := mem_map.mp member
        exact .inl ⟨earlier, earlierCall, firstIn⟩
    rw [entangledBy_snoc, entanglements_markEntangled, map_append,
      map_singleton, linkedInOrder_snoc, ← touches]
    by_cases joined : call.containsIndex first = true ∨
        ((entangledBy features calls).entanglements first).containsAny call = true
    · rw [if_pos ⟨entangled joined, joined⟩, containsIndex_merge, Bool.or_eq_true,
        ih, mem_positions, mem_positions, and_iff_left joined]
    · rw [if_neg fun both => joined both.2, ih, mem_positions,
        mem_positions, or_iff_left fun both => joined both.2]

theorem containsIndex_entangledLanesFor_entangledBy (lanes : Lanes) :
    ((entangledBy features calls).entangledLanesFor lanes).containsIndex last = true ↔
      lanes.containsIndex last = true ∨
        ∃ first, lanes.containsIndex first = true ∧
          LinkedInOrder (calls.map Lanes.positions) first last := by
  simp only [containsIndex_entangledLanesFor, containsIndex_entanglements_entangledBy,
    containsIndex_entangledLanes_entangledBy]
  refine or_congr_right (exists_congr fun first => and_congr_right fun _ => ?_)
  refine and_iff_right_of_imp fun linked => ?_
  obtain ⟨group, member, firstIn⟩ := linked.exists_group
  obtain ⟨call, isCall, rfl⟩ := mem_map.mp member
  exact ⟨call, isCall, firstIn⟩

/-- After any calls a row holds what the calls lead to in their order, and extending
lane sets by rows is idempotent exactly when this relation is transitive. -/
theorem entanglement_of_calls (features : RootLaneFeatureFlags) (calls : List Lanes) :
    (∀ first last,
      ((entangledBy features calls).entanglements first).containsIndex last = true ↔
        LinkedInOrder (calls.map Lanes.positions) first last) ∧
    ((∀ lanes,
      (entangledBy features calls).entangledLanesFor
          ((entangledBy features calls).entangledLanesFor lanes) =
        (entangledBy features calls).entangledLanesFor lanes) ↔
      ∀ first middle last,
        LinkedInOrder (calls.map Lanes.positions) first middle →
        LinkedInOrder (calls.map Lanes.positions) middle last →
        LinkedInOrder (calls.map Lanes.positions) first last) := by
  refine ⟨fun first last => containsIndex_entanglements_entangledBy, ?_⟩
  constructor
  · intro idempotent first middle last earlier later
    have reached : ((entangledBy features calls).entangledLanesFor
        ((entangledBy features calls).entangledLanesFor first.lane.toLanes)).containsIndex
        last = true := by
      rw [containsIndex_entangledLanesFor_entangledBy]
      refine .inr ⟨middle, ?_, later⟩
      rw [containsIndex_entangledLanesFor_entangledBy]
      exact .inr ⟨first, by simp, earlier⟩
    rw [idempotent, containsIndex_entangledLanesFor_entangledBy] at reached
    rcases reached with isFirst | ⟨start, isFirst, linked⟩
    · have same : last = first := by simpa using isFirst
      exact same ▸ earlier.refl_left
    · have same : start = first := by simpa using isFirst
      exact same ▸ linked
  · intro transitive lanes
    apply ext_index
    intro index
    rw [Bool.eq_iff_iff, containsIndex_entangledLanesFor_entangledBy,
      containsIndex_entangledLanesFor_entangledBy]
    constructor
    · rintro (direct | ⟨middle, reached, later⟩)
      · exact direct
      · rw [containsIndex_entangledLanesFor_entangledBy] at reached
        rcases reached with own | ⟨first, own, earlier⟩
        · exact .inr ⟨middle, own, later⟩
        · exact .inr ⟨first, own, transitive first middle index earlier later⟩
    · exact .inl

/-- Two overlapping calls: the later lane does not learn of the earlier one. -/
def overlappingCalls : List Lanes :=
  [Lane.transition1.toLanes.merge Lane.transition2.toLanes,
    Lane.transition2.toLanes.merge Lane.default.toLanes]

/-- Linked lanes need not be entangled, and extending a lane set twice can add more. -/
theorem entanglement_not_symmetric :
    Linked (overlappingCalls.map Lanes.positions) 5 8 ∧
    ((entangledBy .new overlappingCalls).entanglements 5).containsIndex 8 = false ∧
    ((entangledBy .new overlappingCalls).entanglements 8).containsIndex 5 = true ∧
    (entangledBy .new overlappingCalls).entangledLanesFor
        ((entangledBy .new overlappingCalls).entangledLanesFor Lanes.default) ≠
      (entangledBy .new overlappingCalls).entangledLanesFor Lanes.default := by
  refine ⟨?_, by decide, by decide, by decide⟩
  have entered : Leads [overlappingCalls[1].positions] 5 9 := .singleton rfl rfl
  have backward : Leads [overlappingCalls[1].positions, overlappingCalls[0].positions] 5 8 :=
    entered.snoc rfl rfl
  exact ⟨_, by simp [overlappingCalls], backward⟩

end RootLaneState

end FastReact
