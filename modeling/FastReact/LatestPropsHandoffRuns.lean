import FastReact.ActionRun
import FastReact.LatestPropsHandoffs

namespace FastReact

open List DomNodes

/-!
# Runs of updates, commits and rollbacks of latest props

The payload of a handoff stays in the map when it is rolled back, so a later commit accepts it.
Latest props follow the updates as long as no handoff is both committed and rolled back, and the
handoffs of a node are committed in the order of their updates.
-/

inductive HandoffCall (Value : Type) where
  | update (update : DomPropertyUpdate Value)
  | commit (handoff : HandoffValue)
  | commitBatch (handoffs : List HandoffValue)
  | rollback (handoff : HandoffValue)

/-- Beside the nodes a run keeps what was committed, the last one first, and what was rolled back. -/
structure HandoffWorld (Value : Type) where
  nodes : DomNodes Value
  committed : List HandoffValue
  rolledBack : List HandoffValue

/-- The place of a handoff among all that were made. -/
def HandoffValue.number (handoff : HandoffValue) : Nat := handoff.getD 0

namespace HandoffWorld

variable {Value : Type}

def propsFor (nodes : DomNodes Value) (node : DomNode) (handoff : HandoffValue) : Option LatestProps :=
  (nodes.getDomPropertyUpdateLatestPropsHandoffPayload handoff).bind fun payload =>
    if payload.node = node then some payload.latestProps else none

/-- Of two handoffs of a node, the one before in the list was made later. -/
def InOrder (nodes : DomNodes Value) (handoffs : List HandoffValue) : Prop :=
  handoffs.Pairwise fun later earlier => ∀ node, (propsFor nodes node later).isSome = true →
    (propsFor nodes node earlier).isSome = true → earlier.number ≤ later.number

def new (start : DomNodes Value) : HandoffWorld Value where
  nodes := { start with handoffs := [] }
  committed := []
  rolledBack := []

section Steps

variable [DecidableEq Value] (world : HandoffWorld Value)

def takeBack (handoffs : List HandoffValue) (nodes : DomNodes Value) : HandoffWorld Value :=
  { world with nodes, rolledBack := world.nodes.genuinePrefix handoffs ++ world.rolledBack }

/-- A commit that fails has rolled back what stands before the first value that is no handoff. -/
def afterCommit {α : Type} (handoffs : List HandoffValue) :
    EStateM.Result ComponentTreeError (DomNodes Value) α → HandoffWorld Value
  | .ok _ nodes => { world with nodes, committed := handoffs.reverse ++ world.committed }
  | .error _ nodes => world.takeBack handoffs nodes

def step : HandoffCall Value → HandoffWorld Value
  | .update update => { world with nodes := world.nodes.applyDomPropertyPayloadForLatestProps update }
  | .commit handoff =>
      world.afterCommit [handoff] (world.nodes.commitLatestPropsFromMutationHandoff handoff)
  | .commitBatch handoffs =>
      world.afterCommit handoffs (world.nodes.commitLatestPropsFromMutationHandoffs handoffs)
  | .rollback handoff =>
      world.takeBack [handoff]
        (world.nodes.rollbackLatestPropsMutationHandoffs (world.nodes.genuinePayloads [handoff]))

structure PermitsCommit (handoffs : List HandoffValue) : Prop where
  accepted : world.nodes.Accepts handoffs → (∀ handoff ∈ handoffs, handoff ∉ world.rolledBack) ∧
    InOrder world.nodes (handoffs.reverse ++ world.committed)
  failed : ¬ world.nodes.Accepts handoffs →
    ∀ handoff ∈ world.nodes.genuinePrefix handoffs, handoff ∉ world.committed

def Permits : HandoffCall Value → Prop
  | .update _ => True
  | .commit handoff => world.PermitsCommit [handoff]
  | .commitBatch handoffs => world.PermitsCommit handoffs
  | .rollback handoff => handoff ∉ world.committed

/-- The update that made the handoff changed the node and was not rolled back. -/
def InEffect (node : DomNode) (handoff : HandoffValue) : Prop :=
  (propsFor world.nodes node handoff).isSome = true ∧ handoff ∉ world.rolledBack

/-- Every update of the node that is in effect was committed. -/
def Settled (node : DomNode) : Prop :=
  ∀ handoff, world.InEffect node handoff → handoff ∈ world.committed

end Steps

/-- No commit accepted what was rolled back, before or after. A settled node has the latest props
of its last update in effect, and without one those of the start. -/
structure FollowsUpdates (start : DomNodes Value) (world : HandoffWorld Value) : Prop where
  apart : ∀ handoff ∈ world.committed, handoff ∉ world.rolledBack
  last : ∀ node handoff props, world.Settled node → world.InEffect node handoff →
    (∀ other, world.InEffect node other → other.number ≤ handoff.number) →
    propsFor world.nodes node handoff = some props → world.nodes.latestProps node = props
  initial : ∀ node, (∀ handoff, ¬ world.InEffect node handoff) →
    world.nodes.latestProps node = start.latestProps node

/-- Latest props are those that the last commit published. -/
structure Sound (start : DomNodes Value) (world : HandoffWorld Value) : Prop where
  apart : ∀ handoff ∈ world.committed, handoff ∉ world.rolledBack
  inOrder : InOrder world.nodes world.committed
  genuine : ∀ handoff ∈ world.committed,
    (world.nodes.getDomPropertyUpdateLatestPropsHandoffPayload handoff).isSome = true
  published : ∀ node, world.nodes.latestProps node =
    (world.committed.findSome? (propsFor world.nodes node)).getD (start.latestProps node)

section Soundness

variable {start : DomNodes Value} {world : HandoffWorld Value} {handoffs : List HandoffValue}

theorem handoff_eq_of_number {nodes : DomNodes Value} {node : DomNode} {handoff other : HandoffValue}
    (isHandoff : (propsFor nodes node handoff).isSome = true)
    (isOther : (propsFor nodes node other).isSome = true) (same : handoff.number = other.number) :
    handoff = other := by
  cases handoff with
  | none => cases isHandoff
  | some index =>
    cases other with
    | none => cases isOther
    | some otherIndex => exact congrArg some same

theorem Sound.followsUpdates (sound : Sound start world) : FollowsUpdates start world := by
  refine ⟨sound.apart, fun node handoff props settled inEffect isLast found => ?_, fun node none => ?_⟩
  · have isCommitted := settled handoff inEffect
    rw [sound.published]
    cases search : world.committed.findSome? (propsFor world.nodes node) with
    | none => rw [findSome?_eq_none_iff.mp search handoff isCommitted] at found; cases found
    | some published =>
      obtain ⟨newer, latest, older, committed, supplied, absent⟩ := findSome?_eq_some_iff.mp search
      have latestFound : (propsFor world.nodes node latest).isSome = true := by rw [supplied]; rfl
      have latestInEffect : world.InEffect node latest :=
        ⟨latestFound, sound.apart latest (by simp [committed])⟩
      have notLater : handoff.number ≤ latest.number := by
        rw [committed] at isCommitted
        rcases mem_append.mp isCommitted with isNewer | isOlder
        · rw [absent handoff isNewer] at found
          cases found
        · rcases mem_cons.mp isOlder with rfl | isOlder
          · exact Nat.le_refl _
          · have ordered := (pairwise_append.mp (committed ▸ sound.inOrder)).2.1
            exact (pairwise_cons.mp ordered).1 handoff isOlder node latestFound inEffect.1
      obtain rfl := handoff_eq_of_number inEffect.1 latestFound
        (Nat.le_antisymm notLater (isLast latest latestInEffect))
      exact Option.some.inj (supplied.symm.trans found)
  · rw [sound.published, findSome?_eq_none_iff.mpr]
    · rfl
    · intro handoff isCommitted
      by_contra found
      exact none handoff ⟨Option.isSome_iff_ne_none.mpr found, sound.apart handoff isCommitted⟩

/-- A step that commits nothing keeps the nodes sound when it takes back no committed handoff. -/
theorem Sound.keeps {later : HandoffWorld Value} (sound : Sound start world)
    (committed : later.committed = world.committed)
    (latestProps : later.nodes.latestProps = world.nodes.latestProps)
    (payloads : ∀ handoff ∈ world.committed,
      later.nodes.getDomPropertyUpdateLatestPropsHandoffPayload handoff =
        world.nodes.getDomPropertyUpdateLatestPropsHandoffPayload handoff)
    (apart : ∀ handoff ∈ world.committed, handoff ∉ later.rolledBack) : Sound start later := by
  have same : ∀ node, ∀ handoff ∈ world.committed,
      propsFor later.nodes node handoff = propsFor world.nodes node handoff := by
    intro node handoff member
    rw [propsFor, payloads handoff member]
    rfl
  refine ⟨committed ▸ apart, ?_, ?_, fun node => ?_⟩
  · rw [committed]
    refine sound.inOrder.imp_of_mem fun isLater isEarlier ordered node => ?_
    rw [same node _ isLater, same node _ isEarlier]
    exact ordered node
  · rw [committed]
    intro handoff member
    rw [payloads handoff member]
    exact sound.genuine handoff member
  · rw [latestProps, sound.published, committed, ← head?_filterMap, ← head?_filterMap,
      filterMap_congr (same node)]

theorem latestProps_publish (nodes : DomNodes Value)
    (payloads : List (LatestPropsHandoffPayload Value)) :
    ∃ latestProps, payloads.foldl (fun nodes => nodes.updateLatestPropsForNode) nodes =
        { nodes with latestProps } ∧
      ∀ node, latestProps node = (payloads.reverse.findSome? fun payload =>
        if payload.node = node then some payload.latestProps else none).getD
          (nodes.latestProps node) := by
  induction payloads generalizing nodes with
  | nil => exact ⟨nodes.latestProps, rfl, fun _ => rfl⟩
  | cons payload rest ih =>
    obtain ⟨latestProps, published, isLast⟩ := ih (nodes.updateLatestPropsForNode payload)
    refine ⟨latestProps, published, fun node => (isLast node).trans ?_⟩
    rw [reverse_cons, findSome?_append]
    cases rest.reverse.findSome? _ with
    | some props => rfl
    | none =>
      by_cases ofNode : payload.node = node
      · simp [updateLatestPropsForNode, ofNode]
      · simp [updateLatestPropsForNode, ofNode, Function.update_of_ne (Ne.symm ofNode)]

theorem Sound.accept (sound : Sound start world) (accepts : world.nodes.Accepts handoffs)
    (apart : ∀ handoff ∈ handoffs, handoff ∉ world.rolledBack)
    (inOrder : InOrder world.nodes (handoffs.reverse ++ world.committed)) :
    Sound start { world with
      nodes := (world.nodes.genuinePayloads handoffs).foldl
        (fun nodes => nodes.updateLatestPropsForNode) world.nodes
      committed := handoffs.reverse ++ world.committed } := by
  obtain ⟨latestProps, published, isLast⟩ :=
    latestProps_publish world.nodes (world.nodes.genuinePayloads handoffs)
  have genuine : ∀ handoff ∈ handoffs,
      (world.nodes.getDomPropertyUpdateLatestPropsHandoffPayload handoff).isSome = true := by
    intro handoff member
    obtain ⟨payload, found, -⟩ := accepts handoff member
    rw [found, Option.isSome_some]
  rw [published]
  refine ⟨?_, inOrder, ?_, fun node => (isLast node).trans ?_⟩
  · intro handoff member
    rcases mem_append.mp member with isNew | earlier
    · exact apart handoff (mem_reverse.mp isNew)
    · exact sound.apart handoff earlier
  · intro handoff member
    rcases mem_append.mp member with isNew | earlier
    · exact genuine handoff (mem_reverse.mp isNew)
    · exact sound.genuine handoff earlier
  · have found : (world.nodes.genuinePayloads handoffs).reverse.findSome? (fun payload =>
        if payload.node = node then some payload.latestProps else none) =
          handoffs.reverse.findSome? (propsFor world.nodes node) := by
      rw [genuinePayloads, genuinePrefix, takeWhile_eq_self_iff.mpr genuine, ← filterMap_reverse,
        ← head?_filterMap, filterMap_filterMap, head?_filterMap]
      rfl
    change _ = ((handoffs.reverse ++ world.committed).findSome? (propsFor world.nodes node)).getD _
    rw [found, findSome?_append, sound.published]
    cases handoffs.reverse.findSome? (propsFor world.nodes node) <;> rfl

variable [DecidableEq Value]

theorem Sound.update (sound : Sound start world) (update : DomPropertyUpdate Value) :
    Sound start (world.step (.update update)) := by
  refine sound.keeps rfl (latestProps_applyUpdates world.nodes [update]) ?_ sound.apart
  rintro (- | index) member
  · rfl
  · obtain ⟨payload, found⟩ := Option.isSome_iff_exists.mp (sound.genuine _ member)
    exact getElem?_append_left (List.getElem?_eq_some_iff.mp found).1

theorem Sound.takeBack (sound : Sound start world)
    (notCommitted : ∀ handoff ∈ world.nodes.genuinePrefix handoffs, handoff ∉ world.committed) :
    Sound start (world.takeBack handoffs
      (world.nodes.rollbackLatestPropsMutationHandoffs (world.nodes.genuinePayloads handoffs))) := by
  obtain ⟨cells, rolledBack⟩ := rollbackHandoffs_eq world.nodes (world.nodes.genuinePayloads handoffs)
  rw [rolledBack]
  refine sound.keeps rfl rfl (fun _ _ => rfl) fun handoff member takenBack => ?_
  rcases mem_append.mp takenBack with isNew | earlier
  · exact notCommitted handoff isNew member
  · exact sound.apart handoff member earlier

theorem step_commit (handoff : HandoffValue) :
    world.step (.commit handoff) = world.step (.commitBatch [handoff]) := by
  change world.afterCommit [handoff] (world.nodes.commitLatestPropsFromMutationHandoff handoff) =
    world.afterCommit [handoff] (world.nodes.commitLatestPropsFromMutationHandoffs [handoff])
  unfold commitLatestPropsFromMutationHandoff commitLatestPropsFromMutationHandoffs
  rw [normalizeHandoffs]
  cases found : world.nodes.getDomPropertyUpdateLatestPropsHandoffPayload handoff with
  | none => simp [afterCommit, rollbackLatestPropsMutationHandoffs]
  | some payload =>
    cases attached : world.nodes.isAttached payload.node <;>
      simp [normalizeHandoffs, afterCommit, attached]

theorem Sound.commitBatch (sound : Sound start world) (permitted : world.PermitsCommit handoffs) :
    Sound start (world.step (.commitBatch handoffs)) := by
  rcases commitHandoffs_cases world.nodes handoffs with
    ⟨accepts, count, ran⟩ | ⟨rejects, error, ran⟩
  · simp only [step, ran]
    obtain ⟨apart, inOrder⟩ := permitted.accepted accepts
    exact sound.accept accepts apart inOrder
  · simp only [step, ran]
    exact sound.takeBack (permitted.failed rejects)

theorem Sound.step (sound : Sound start world) {call : HandoffCall Value}
    (permitted : world.Permits call) : Sound start (world.step call) := by
  cases call with
  | update update => exact sound.update update
  | commit handoff =>
    rw [step_commit]
    exact sound.commitBatch permitted
  | commitBatch handoffs => exact sound.commitBatch permitted
  | rollback handoff =>
    refine sound.takeBack fun other member => ?_
    rw [mem_singleton.mp (takeWhile_subset _ member)]
    exact permitted

end Soundness

/-- Nodes that hold nothing yet. -/
def blankNodes : DomNodes Nat := ⟨fun _ _ => 0, fun _ => true, fun _ => none, []⟩

end HandoffWorld

end FastReact
