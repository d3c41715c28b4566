import FastReact.RefExecutionRollback
import Mathlib.Data.List.TakeWhile

namespace FastReact

open List

/-!
# Handoffs of latest props

A property update changes cells of a node and leaves a handoff, which keeps the new latest
props and what the cells held before.  A commit publishes the props of its handoffs; when it
fails it rolls cells back, and so may the owner of a handoff.
-/

/-- What an entry of a payload sets. -/
inductive DomCell where
  | attribute (name : String)
  | property (name : String)
  | style (name : String)
  | innerHTML
deriving DecidableEq

/-- An entry of a payload, or the record that takes it back; the value of an attribute also
says whether it is there. -/
structure DomCellValue (Value : Type) where
  cell : DomCell
  value : Value

structure LatestPropsHandoffPayload (Value : Type) where
  node : DomNode
  latestProps : LatestProps
  rollbackRecords : List (DomCellValue Value)

/-- The nodes, and the payloads of the handoffs in the order in which these were made. -/
structure DomNodes (Value : Type) where
  cells : DomNode → DomCell → Value
  isAttached : DomNode → Bool
  latestProps : DomNode → LatestProps
  handoffs : List (LatestPropsHandoffPayload Value)

/-- A value passed as a handoff: the number of a handoff, or anything else. -/
abbrev HandoffValue := Option Nat

structure DomPropertyUpdate (Value : Type) where
  node : DomNode
  entries : List (DomCellValue Value)
  latestProps : LatestProps

def invalidMutationHandoff : ComponentTreeError :=
  ⟨"Cannot commit latest props from an invalid mutation handoff.",
    "FAST_REACT_DOM_INVALID_LATEST_PROPS_MUTATION_HANDOFF"⟩

def unattachedHostInstanceNode : ComponentTreeError :=
  ⟨"Cannot commit latest props for an unattached React DOM host instance node.",
    "FAST_REACT_DOM_UNATTACHED_HOST_INSTANCE_NODE"⟩

namespace DomNodes

variable {Value : Type}

section Calls

variable [DecidableEq Value] (nodes : DomNodes Value)

def setCell (node : DomNode) (entry : DomCellValue Value) : DomNodes Value :=
  { nodes with
    cells := Function.update nodes.cells node
      (Function.update (nodes.cells node) entry.cell entry.value) }

/-- The rollback records are made before the first entry takes effect. -/
def applyDomPropertyPayloadForLatestProps (update : DomPropertyUpdate Value) : DomNodes Value :=
  { (update.entries.foldl (fun nodes => nodes.setCell update.node) nodes) with
    handoffs := nodes.handoffs ++ [⟨update.node, update.latestProps,
      update.entries.map fun entry => ⟨entry.cell, nodes.cells update.node entry.cell⟩⟩] }

def getDomPropertyUpdateLatestPropsHandoffPayload (handoff : HandoffValue) :
    Option (LatestPropsHandoffPayload Value) :=
  handoff.bind (nodes.handoffs[·]?)

def applyDomPropertyPayloadRollbackRecord (node : DomNode) (record : DomCellValue Value) :
    DomNodes Value :=
  if nodes.cells node record.cell = record.value then nodes else nodes.setCell node record

/-- The payload stays in the map. -/
def rollbackDomPropertyUpdateLatestPropsHandoff (payload : LatestPropsHandoffPayload Value) :
    DomNodes Value :=
  payload.rollbackRecords.foldr (fun record nodes =>
    nodes.applyDomPropertyPayloadRollbackRecord payload.node record) nodes

def rollbackLatestPropsMutationHandoffs (payloads : List (LatestPropsHandoffPayload Value)) :
    DomNodes Value :=
  payloads.foldr (fun payload nodes =>
    nodes.rollbackDomPropertyUpdateLatestPropsHandoff payload) nodes

def updateLatestPropsForNode (payload : LatestPropsHandoffPayload Value) : DomNodes Value :=
  { nodes with
    latestProps := Function.update nodes.latestProps payload.node payload.latestProps }

def commitLatestPropsFromMutationHandoff (handoff : HandoffValue) :
    EStateM.Result ComponentTreeError (DomNodes Value) LatestProps :=
  match nodes.getDomPropertyUpdateLatestPropsHandoffPayload handoff with
  | none => .error invalidMutationHandoff nodes
  | some payload =>
      if nodes.isAttached payload.node then
        .ok payload.latestProps (nodes.updateLatestPropsForNode payload)
      else .error unattachedHostInstanceNode (nodes.rollbackLatestPropsMutationHandoffs [payload])

/-- The payloads, or those before the first value that is no handoff. -/
def normalizeHandoffs : List HandoffValue → List (LatestPropsHandoffPayload Value) →
    Except (List (LatestPropsHandoffPayload Value)) (List (LatestPropsHandoffPayload Value))
  | [], normalized => .ok normalized
  | handoff :: rest, normalized =>
      match nodes.getDomPropertyUpdateLatestPropsHandoffPayload handoff with
      | none => .error normalized
      | some payload => normalizeHandoffs rest (normalized ++ [payload])

def commitLatestPropsFromMutationHandoffs (handoffs : List HandoffValue) :
    EStateM.Result ComponentTreeError (DomNodes Value) Nat :=
  match nodes.normalizeHandoffs handoffs [] with
  | .error normalized =>
      .error invalidMutationHandoff (nodes.rollbackLatestPropsMutationHandoffs normalized)
  | .ok normalized =>
      if normalized.all (nodes.isAttached ·.node) then
        .ok normalized.length
          (normalized.foldl (fun nodes => nodes.updateLatestPropsForNode) nodes)
      else
        .error unattachedHostInstanceNode (nodes.rollbackLatestPropsMutationHandoffs normalized)

end Calls

def recordedValue? (records : List (DomCellValue Value)) (cell : DomCell) : Option Value :=
  records.findSome? fun record => if record.cell = cell then some record.value else none

def firstRecorded? (payloads : List (LatestPropsHandoffPayload Value)) (node : DomNode)
    (cell : DomCell) : Option Value :=
  payloads.findSome? fun payload =>
    if payload.node = node then recordedValue? payload.rollbackRecords cell else none

theorem latestProps_applyUpdates (nodes : DomNodes Value)
    (updates : List (DomPropertyUpdate Value)) :
    (updates.foldl applyDomPropertyPayloadForLatestProps nodes).latestProps =
      nodes.latestProps := by
  have entries : ∀ (node : DomNode) (entries : List (DomCellValue Value)) (nodes : DomNodes Value),
      (entries.foldl (fun nodes => nodes.setCell node) nodes).latestProps = nodes.latestProps := by
    intro node entries
    induction entries with
    | nil => exact fun _ => rfl
    | cons entry rest ih => exact fun nodes => ih _
  induction updates generalizing nodes with
  | nil => rfl
  | cons update rest ih =>
    exact (ih _).trans (entries update.node update.entries nodes)

section Rollbacks

variable (nodes : DomNodes Value)

theorem cells_setCell (target node : DomNode) (entry : DomCellValue Value) (cell : DomCell) :
    (nodes.setCell target entry).cells node cell =
      if target = node ∧ entry.cell = cell then entry.value else nodes.cells node cell := by
  simp only [setCell, Function.update_apply]
  grind

variable [DecidableEq Value]

theorem cells_applyRecord (target node : DomNode) (record : DomCellValue Value) (cell : DomCell) :
    (nodes.applyDomPropertyPayloadRollbackRecord target record).cells node cell =
      if target = node ∧ record.cell = cell then record.value else nodes.cells node cell := by
  unfold applyDomPropertyPayloadRollbackRecord
  split
  · grind
  · exact cells_setCell nodes target node record cell

theorem cells_rollbackHandoff (payload : LatestPropsHandoffPayload Value) (node : DomNode)
    (cell : DomCell) :
    (nodes.rollbackDomPropertyUpdateLatestPropsHandoff payload).cells node cell =
      (if payload.node = node then recordedValue? payload.rollbackRecords cell else none).getD
        (nodes.cells node cell) := by
  unfold rollbackDomPropertyUpdateLatestPropsHandoff recordedValue?
  induction payload.rollbackRecords with
  | nil => split <;> rfl
  | cons record rest ih =>
    rw [foldr_cons, cells_applyRecord, ih]
    grind

section

variable (payloads : List (LatestPropsHandoffPayload Value))

/-- Rolled back from the last to the first, a cell gets what the first handoff recorded. -/
theorem cells_rollbackHandoffs (node : DomNode) (cell : DomCell) :
    (nodes.rollbackLatestPropsMutationHandoffs payloads).cells node cell =
      (firstRecorded? payloads node cell).getD (nodes.cells node cell) := by
  induction payloads with
  | nil => rfl
  | cons payload rest ih =>
    have first := cells_rollbackHandoff (nodes.rollbackLatestPropsMutationHandoffs rest)
      payload node cell
    rw [ih] at first
    unfold firstRecorded? at first ⊢
    rw [findSome?_cons]
    exact first.trans (by grind)

theorem rollbackHandoffs_eq :
    ∃ cells, nodes.rollbackLatestPropsMutationHandoffs payloads = { nodes with cells } := by
  induction payloads with
  | nil => exact ⟨nodes.cells, rfl⟩
  | cons payload rest ih =>
    obtain ⟨cells, isRest⟩ := ih
    unfold rollbackLatestPropsMutationHandoffs at isRest ⊢
    rw [foldr_cons, isRest]
    unfold rollbackDomPropertyUpdateLatestPropsHandoff
    induction payload.rollbackRecords with
    | nil => exact ⟨cells, rfl⟩
    | cons record records ih =>
      obtain ⟨cells, isRecords⟩ := ih
      rw [foldr_cons, isRecords]
      unfold applyDomPropertyPayloadRollbackRecord setCell
      split <;> exact ⟨_, rfl⟩

end

/-- The values before the first that is no handoff. -/
def genuinePrefix (handoffs : List HandoffValue) : List HandoffValue :=
  handoffs.takeWhile fun handoff =>
    (nodes.getDomPropertyUpdateLatestPropsHandoffPayload handoff).isSome

def genuinePayloads (handoffs : List HandoffValue) : List (LatestPropsHandoffPayload Value) :=
  (nodes.genuinePrefix handoffs).filterMap nodes.getDomPropertyUpdateLatestPropsHandoffPayload

/-- Every value is a handoff of a node that has its token. -/
def Accepts (handoffs : List HandoffValue) : Prop :=
  ∀ handoff ∈ handoffs, ∃ payload,
    nodes.getDomPropertyUpdateLatestPropsHandoffPayload handoff = some payload ∧
      nodes.isAttached payload.node = true

omit [DecidableEq Value] in
theorem normalizeHandoffs_eq (handoffs : List HandoffValue)
    (normalized : List (LatestPropsHandoffPayload Value)) :
    nodes.normalizeHandoffs handoffs normalized =
      if nodes.genuinePrefix handoffs = handoffs then
        .ok (normalized ++ nodes.genuinePayloads handoffs)
      else .error (normalized ++ nodes.genuinePayloads handoffs) := by
  induction handoffs generalizing normalized with
  | nil => simp [normalizeHandoffs, genuinePrefix, genuinePayloads]
  | cons handoff rest ih =>
    unfold normalizeHandoffs
    unfold genuinePayloads genuinePrefix at ih ⊢
    rw [takeWhile_cons]
    cases found : nodes.getDomPropertyUpdateLatestPropsHandoffPayload handoff with
    | none => simp
    | some payload => simp [ih, found]

/-- A batch that is not accepted is rolled back up to the first value that is no handoff. -/
theorem commitHandoffs_cases (handoffs : List HandoffValue) :
    nodes.Accepts handoffs ∧
        (∃ count, nodes.commitLatestPropsFromMutationHandoffs handoffs = .ok count
          ((nodes.genuinePayloads handoffs).foldl
            (fun nodes => nodes.updateLatestPropsForNode) nodes)) ∨
      ¬ nodes.Accepts handoffs ∧
        ∃ error, nodes.commitLatestPropsFromMutationHandoffs handoffs = .error error
          (nodes.rollbackLatestPropsMutationHandoffs (nodes.genuinePayloads handoffs)) := by
  have accepts : nodes.Accepts handoffs ↔ nodes.genuinePrefix handoffs = handoffs ∧
      (nodes.genuinePayloads handoffs).all (nodes.isAttached ·.node) = true := by
    unfold Accepts genuinePayloads genuinePrefix
    rw [takeWhile_eq_self_iff]
    constructor
    · intro accepted
      have genuine : ∀ handoff ∈ handoffs,
          (nodes.getDomPropertyUpdateLatestPropsHandoffPayload handoff).isSome = true := by
        intro handoff member
        obtain ⟨payload, found, -⟩ := accepted handoff member
        rw [found, Option.isSome_some]
      refine ⟨genuine, ?_⟩
      rw [takeWhile_eq_self_iff.mpr genuine]
      grind
    · rintro ⟨genuine, attached⟩ handoff member
      rw [takeWhile_eq_self_iff.mpr genuine] at attached
      obtain ⟨payload, found⟩ := Option.isSome_iff_exists.mp (genuine handoff member)
      exact ⟨payload, found, all_eq_true.mp attached payload
        (mem_filterMap.mpr ⟨handoff, member, found⟩)⟩
  unfold commitLatestPropsFromMutationHandoffs
  rw [normalizeHandoffs_eq, nil_append]
  by_cases genuine : nodes.genuinePrefix handoffs = handoffs
  · rw [if_pos genuine]
    by_cases attached : (nodes.genuinePayloads handoffs).all (nodes.isAttached ·.node) = true
    · exact .inl ⟨accepts.mpr ⟨genuine, attached⟩, _, if_pos attached⟩
    · exact .inr ⟨fun accepted => attached (accepts.mp accepted).2, _, if_neg attached⟩
  · rw [if_neg genuine]
    exact .inr ⟨fun accepted => genuine (accepts.mp accepted).1, _, rfl⟩

end Rollbacks

section Batches

variable [DecidableEq Value]

/-- A failed batch leaves all as it was before the updates exactly when, of each cell, the
first handoff before the first value that is no handoff recorded what it held before them. -/
theorem failed_handoff_batch_restores_iff (start : DomNodes Value)
    (updates : List (DomPropertyUpdate Value)) (handoffs : List HandoffValue) :
    (∀ error after, (updates.foldl applyDomPropertyPayloadForLatestProps
          start).commitLatestPropsFromMutationHandoffs handoffs = .error error after →
        after.latestProps = start.latestProps ∧ after.cells = start.cells) ↔
      ((updates.foldl applyDomPropertyPayloadForLatestProps start).Accepts handoffs ∨
        ∀ node cell, (firstRecorded?
            ((updates.foldl applyDomPropertyPayloadForLatestProps start).genuinePayloads handoffs)
            node cell).getD
          ((updates.foldl applyDomPropertyPayloadForLatestProps start).cells node cell) =
            start.cells node cell) := by
  have sameProps : (updates.foldl applyDomPropertyPayloadForLatestProps start).latestProps =
      start.latestProps := latestProps_applyUpdates start updates
  generalize updates.foldl applyDomPropertyPayloadForLatestProps start = nodes at sameProps ⊢
  obtain ⟨cells, rolledBack⟩ :=
    rollbackHandoffs_eq nodes (nodes.genuinePayloads handoffs)
  rcases commitHandoffs_cases nodes handoffs with
    ⟨accepted, count, ran⟩ | ⟨rejected, error, ran⟩
  · refine ⟨fun _ => .inl accepted, fun _ error after failed => ?_⟩
    rw [ran] at failed
    cases failed
  · rw [ran]
    constructor
    · intro restores
      refine .inr fun node cell => ?_
      rw [← cells_rollbackHandoffs, (restores error _ rfl).2]
    · rintro (accepted | restored) other after isAfter
      · exact absurd accepted rejected
      · cases isAfter
        refine ⟨by rw [rolledBack, ← sameProps], funext fun node => funext fun cell => ?_⟩
        rw [cells_rollbackHandoffs, restored]

/-- A handoff behind another value is not rolled back. -/
theorem failed_handoff_batch_leaves_mutation :
    ∃ error after, ([⟨0, [⟨.attribute "id", 1⟩], some 1⟩].foldl
        applyDomPropertyPayloadForLatestProps (⟨fun _ _ => 0, fun _ => true, fun _ => none, []⟩ :
          DomNodes Nat)).commitLatestPropsFromMutationHandoffs [none, some 0] =
      .error error after ∧ after.cells 0 (.attribute "id") = 1 :=
  ⟨_, _, rfl, by decide⟩

end Batches

end DomNodes

end FastReact
