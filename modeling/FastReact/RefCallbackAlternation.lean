import FastReact.RefCallbackGateRuns

namespace FastReact

open List Option RefCleanupStore RefEvent RefGateWorld

/-!
# Alternating attaches and detaches

For one ref handle the log shows attaches and detaches in the order of their starts. While they
alternate, the store holds the cleanup of the attach that has not been detached yet.
-/

variable {refHandle : RefHandle} {metadata : RefMetadata} {world later : RefGateWorld}

def RefEvent.startOf (refHandle : RefHandle) : RefEvent → Option RefAction
  | .attachCalled metadata => if metadata.identity.refHandle = refHandle then some .attach else none
  | .cleanupCalled metadata _ => if metadata.identity.refHandle = refHandle then some .detach else none
  | .nullCalled metadata => if metadata.identity.refHandle = refHandle then some .detach else none
  | _ => none

def RefEvent.metadata? : RefEvent → Option RefMetadata
  | .attachCalled metadata => some metadata
  | .cleanupCalled metadata _ => some metadata
  | .nullCalled metadata => some metadata
  | .detachRefused metadata _ => some metadata
  | .objectRefSkipped metadata => some metadata
  | .attachEnded _ _ => none

def refStarts (refHandle : RefHandle) (log : List RefEvent) : List RefAction :=
  log.filterMap (RefEvent.startOf refHandle)

/-- The first start is an attach, and attaches and detaches take turns. -/
def Alternates (refHandle : RefHandle) (log : List RefEvent) : Prop :=
  ∀ index action, (refStarts refHandle log)[index]? = some action → (action = .attach ↔ index % 2 = 0)

/-- All metadata of the ref handle that reached the gate is of one identity. -/
def SameIdentity (refHandle : RefHandle) (log : List RefEvent) : Prop :=
  ∃ identity, ∀ event ∈ log, ∀ metadata, event.metadata? = some metadata →
    metadata.identity.refHandle = refHandle → metadata.identity = identity

/-- No attach of the ref returns a cleanup after a detach of the ref has started inside it. -/
def ReturnsBeforeDetach (refHandle : RefHandle) (log : List RefEvent) : Prop :=
  ∀ (ended invocation : Nat) (cleanup : RefCleanup) (metadata : RefMetadata),
    log[ended]? = some (.attachEnded invocation (some cleanup)) →
    log[invocation]? = some (.attachCalled metadata) → metadata.identity.refHandle = refHandle →
    ∀ between event, invocation < between → between < ended → log[between]? = some event →
      event.startOf refHandle ≠ some .detach

/-- Nothing starts for the ref handle between two places. -/
def QuietBetween (refHandle : RefHandle) (log : List RefEvent) (first last : Nat) : Prop :=
  ∀ between event, first < between → between < last → log[between]? = some event →
    event.startOf refHandle = none

/-- The attach of the ref handle that was started last before a place. -/
structure PrecedingAttach (refHandle : RefHandle) (log : List RefEvent) (place invocation : Nat)
    (metadata : RefMetadata) : Prop where
  earlier : invocation < place
  called : log[invocation]? = some (.attachCalled metadata)
  ofRef : metadata.identity.refHandle = refHandle
  quiet : QuietBetween refHandle log invocation place

/-- Each detach calls the cleanup of the attach before it, or null when that attach returned none. -/
def ReplacesNull (refHandle : RefHandle) (log : List RefEvent) : Prop :=
  ∀ (place : Nat) (event : RefEvent), log[place]? = some event → event.startOf refHandle = some .detach →
    ∃ invocation attached, PrecedingAttach refHandle log place invocation attached ∧
      ((∃ metadata cleanup, event = .cleanupCalled metadata cleanup ∧
          .attachEnded invocation (some cleanup) ∈ log) ∨
        (∃ metadata, event = .nullCalled metadata) ∧
          ∀ cleanup, .attachEnded invocation (some cleanup) ∉ log)

/-- A detach is refused only for a handle of its own that has been consumed. -/
def RefusesOnlyConsumed (refHandle : RefHandle) (log : List RefEvent) : Prop :=
  ∀ metadata error, .detachRefused metadata error ∈ log → metadata.identity.refHandle = refHandle →
    metadata.refCleanup ≠ none ∧ error = .consumedRefCleanupHandle

section Starts

variable {log more : List RefEvent} {event : RefEvent}
variable {place invocation : Nat}

theorem refStarts_append : refStarts refHandle (log ++ more) = refStarts refHandle log ++ refStarts refHandle more :=
  filterMap_append ..

theorem Alternates.of_append (alternates : Alternates refHandle (log ++ more)) : Alternates refHandle log := by
  intro index action found
  apply alternates index action
  rw [refStarts_append, List.getElem?_append_left (List.getElem?_eq_some_iff.mp found).1]
  exact found

theorem ReturnsBeforeDetach.of_append (returns : ReturnsBeforeDetach refHandle (log ++ more)) :
    ReturnsBeforeDetach refHandle log := by
  have kept : ∀ {index : Nat} {event : RefEvent}, log[index]? = some event →
      (log ++ more)[index]? = some event := by
    intro index event found
    rw [List.getElem?_append_left (List.getElem?_eq_some_iff.mp found).1, found]
  intro ended invocation cleanup metadata endedFound called ofRef between event after before found
  exact returns ended invocation cleanup metadata (kept endedFound) (kept called) ofRef between event after before
    (kept found)

theorem PrecedingAttach.append (more : List RefEvent) (inLog : place ≤ log.length)
    (preceding : PrecedingAttach refHandle log place invocation metadata) :
    PrecedingAttach refHandle (log ++ more) place invocation metadata where
  earlier := preceding.earlier
  called := by
    rw [List.getElem?_append_left (List.getElem?_eq_some_iff.mp preceding.called).1]
    exact preceding.called
  ofRef := preceding.ofRef
  quiet := by
    intro between event after before found
    rw [getElem?_append_left (Nat.lt_of_lt_of_le before inLog)] at found
    exact preceding.quiet between event after before found

theorem Alternates.quiet_of_no_detach (alternates : Alternates refHandle log)
    (called : log[invocation]? = some (.attachCalled metadata))
    (ofRef : metadata.identity.refHandle = refHandle)
    (noDetach : ∀ between event, invocation < between → log[between]? = some event →
      event.startOf refHandle ≠ some .detach) :
    (refStarts refHandle log).length % 2 = 1 ∧ QuietBetween refHandle log invocation log.length := by
  obtain ⟨inLog, found⟩ := List.getElem?_eq_some_iff.mp called
  have split : log = log.take invocation ++ .attachCalled metadata :: log.drop (invocation + 1) := by
    rw [← found, getElem_cons_drop, take_append_drop]
  have starts : refStarts refHandle log =
      refStarts refHandle (log.take invocation) ++ .attach :: refStarts refHandle (log.drop (invocation + 1)) := by
    conv_lhs => rw [split]
    rw [refStarts_append]
    simp [refStarts, startOf, ofRef]
  have even : (refStarts refHandle (log.take invocation)).length % 2 = 0 := by
    apply (alternates _ .attach _).mp rfl
    rw [starts, getElem?_append_right (Nat.le_refl _), Nat.sub_self, getElem?_cons_zero]
  have noneAfter : refStarts refHandle (log.drop (invocation + 1)) = [] := by
    cases after : refStarts refHandle (log.drop (invocation + 1)) with
    | nil => rfl
    | cons action rest =>
      exfalso
      have isDetach : action = .detach := by
        have turn := alternates ((refStarts refHandle (log.take invocation)).length + 1) action (by
          rw [starts, getElem?_append_right (Nat.le_succ _), after]
          simp)
        cases action with
        | detach => rfl
        | attach =>
          have := turn.mp rfl
          omega
      have member : action ∈ refStarts refHandle (log.drop (invocation + 1)) := after ▸ mem_cons_self
      obtain ⟨event, eventMember, starts⟩ := mem_filterMap.mp member
      obtain ⟨index, found⟩ := getElem?_of_mem eventMember
      rw [getElem?_drop] at found
      exact noDetach _ event (by omega) found (isDetach ▸ starts)
  constructor
  · rw [starts, noneAfter, length_append, length_singleton]
    omega
  · intro between event after _ found
    cases start : event.startOf refHandle with
    | none => rfl
    | some action =>
      have member : action ∈ refStarts refHandle (log.drop (invocation + 1)) := by
        apply mem_filterMap.mpr
        refine ⟨event, ?_, start⟩
        apply mem_of_getElem?
        rw [getElem?_drop, show invocation + 1 + (between - (invocation + 1)) = between by omega]
        exact found
      rw [noneAfter] at member
      exact absurd member not_mem_nil

end Starts

/-- Every handle of the ref but one is consumed, or its cleanup is running. -/
def Spent (refHandle : RefHandle) (world : RefGateWorld) (kept : Option CleanupReturnHandle) : Prop :=
  ∀ handle payload, world.store.cleanupReturnHandlePayloads handle = some payload →
    payload.identity.refHandle = refHandle → kept ≠ some handle →
    world.store.consumedCleanupReturnHandles handle = true ∨ handle ∈ runningCleanups world.frames

inductive RefPhase (refHandle : RefHandle) (world : RefGateWorld) : Prop where
  | detached (even : (refStarts refHandle world.log).length % 2 = 0)
      (spent : Spent refHandle world none)
  | attached (invocation : Nat) (metadata : RefMetadata)
      (odd : (refStarts refHandle world.log).length % 2 = 1)
      (preceding : PrecedingAttach refHandle world.log world.log.length invocation metadata)
      (noCleanup : ∀ cleanup, .attachEnded invocation (some cleanup) ∉ world.log)
      (spent : Spent refHandle world none)
  | holding (invocation : Nat) (metadata : RefMetadata) (cleanup : RefCleanup)
      (odd : (refStarts refHandle world.log).length % 2 = 1)
      (preceding : PrecedingAttach refHandle world.log world.log.length invocation metadata)
      (ended : .attachEnded invocation (some cleanup) ∈ world.log)
      (stored : world.store.cleanupReturnHandlesByRefHandle refHandle = some cleanup.refCleanupHandle)
      (payload : world.store.cleanupReturnHandlePayloads cleanup.refCleanupHandle =
        some { cleanupReturn := cleanup.refCleanup, identity := metadata.identity })
      (idle : cleanup.refCleanupHandle ∉ runningCleanups world.frames)
      (spent : Spent refHandle world (some cleanup.refCleanupHandle))

structure LeavesRef (refHandle : RefHandle) (world later : RefGateWorld) (more : List RefEvent) : Prop where
  log_eq : later.log = world.log ++ more
  noStart : refStarts refHandle more = []
  noCleanup : ∀ invocation cleanup metadata, .attachEnded invocation (some cleanup) ∈ more →
    world.log[invocation]? = some (.attachCalled metadata) → metadata.identity.refHandle ≠ refHandle
  payloadKept : ∀ handle payload, world.store.cleanupReturnHandlePayloads handle = some payload →
    later.store.cleanupReturnHandlePayloads handle = some payload
  payloadOld : ∀ handle payload, later.store.cleanupReturnHandlePayloads handle = some payload →
    payload.identity.refHandle = refHandle → world.store.cleanupReturnHandlePayloads handle = some payload
  stored : ∀ handle, world.store.cleanupReturnHandlesByRefHandle refHandle = some handle →
    handle ∉ runningCleanups world.frames → later.store.cleanupReturnHandlesByRefHandle refHandle = some handle
  spent : ∀ handle payload, world.store.cleanupReturnHandlePayloads handle = some payload →
    payload.identity.refHandle = refHandle →
    world.store.consumedCleanupReturnHandles handle = true ∨ handle ∈ runningCleanups world.frames →
    later.store.consumedCleanupReturnHandles handle = true ∨ handle ∈ runningCleanups later.frames
  idle : ∀ handle payload, world.store.cleanupReturnHandlePayloads handle = some payload →
    payload.identity.refHandle = refHandle →
    handle ∉ runningCleanups world.frames → handle ∉ runningCleanups later.frames

namespace LeavesRef

variable {more : List RefEvent}
variable {kept : Option CleanupReturnHandle} {invocation : Nat}

section

variable (leaves : LeavesRef refHandle world later more)
include leaves

theorem keepsSpent (spent : Spent refHandle world kept) : Spent refHandle later kept := by
  intro handle payload known ofRef different
  have old := leaves.payloadOld handle payload known ofRef
  exact leaves.spent handle payload old ofRef (spent handle payload old ofRef different)

theorem keepsPreceding
    (preceding : PrecedingAttach refHandle world.log world.log.length invocation metadata) :
    PrecedingAttach refHandle later.log later.log.length invocation metadata := by
  rw [leaves.log_eq]
  have kept := preceding.append more (Nat.le_refl _)
  refine { kept with earlier := ?_, quiet := ?_ }
  · rw [length_append]
    exact Nat.lt_add_right _ preceding.earlier
  · intro between event after before found
    by_cases old : between < world.log.length
    · exact kept.quiet between event after old found
    · rw [getElem?_append_right (Nat.le_of_not_lt old)] at found
      cases start : event.startOf refHandle with
      | none => rfl
      | some action =>
        have member : action ∈ refStarts refHandle more :=
          mem_filterMap.mpr ⟨event, mem_of_getElem? found, start⟩
        rw [leaves.noStart] at member
        exact absurd member not_mem_nil

theorem phase (phase : RefPhase refHandle world) : RefPhase refHandle later := by
  have starts : refStarts refHandle later.log = refStarts refHandle world.log := by
    rw [leaves.log_eq, refStarts_append, leaves.noStart, append_nil]
  cases phase with
  | detached even spent => exact .detached (starts ▸ even) (leaves.keepsSpent spent)
  | attached invocation metadata odd preceding noCleanup spent =>
    refine .attached invocation metadata (starts ▸ odd) (leaves.keepsPreceding preceding) ?_
      (leaves.keepsSpent spent)
    intro cleanup member
    rw [leaves.log_eq] at member
    rcases mem_append.mp member with old | new
    · exact noCleanup cleanup old
    · exact leaves.noCleanup invocation cleanup metadata new preceding.called preceding.ofRef
  | holding invocation metadata cleanup odd preceding ended stored payload idle spent =>
    have ofRef := preceding.ofRef
    refine .holding invocation metadata cleanup (starts ▸ odd) (leaves.keepsPreceding preceding) ?_
      (leaves.stored _ stored idle) (leaves.payloadKept _ _ payload) (leaves.idle _ _ payload ofRef idle)
      (leaves.keepsSpent spent)
    rw [leaves.log_eq]
    exact mem_append_left _ ended

end

end LeavesRef

/-- What a detach called stays the right call when the log grows. -/
theorem ReplacesNull.append {refHandle : RefHandle} {log more : List RefEvent}
    (replaces : ReplacesNull refHandle log) (returns : ReturnsBeforeDetach refHandle (log ++ more))
    {place : Nat} {event : RefEvent} (found : log[place]? = some event)
    (start : event.startOf refHandle = some .detach) :
    ∃ invocation attached, PrecedingAttach refHandle (log ++ more) place invocation attached ∧
      ((∃ metadata cleanup, event = .cleanupCalled metadata cleanup ∧
          .attachEnded invocation (some cleanup) ∈ log ++ more) ∨
        (∃ metadata, event = .nullCalled metadata) ∧
          ∀ cleanup, .attachEnded invocation (some cleanup) ∉ log ++ more) := by
  obtain ⟨invocation, attached, preceding, outcome⟩ := replaces place event found start
  have inLog := (List.getElem?_eq_some_iff.mp found).1
  refine ⟨invocation, attached, preceding.append more (Nat.le_of_lt inLog), ?_⟩
  rcases outcome with ⟨metadata, cleanup, same, ended⟩ | ⟨isNull, noCleanup⟩
  · exact .inl ⟨metadata, cleanup, same, List.mem_append_left _ ended⟩
  · refine .inr ⟨isNull, ?_⟩
    intro cleanup member
    rcases mem_append.mp member with old | new
    · exact noCleanup cleanup old
    · -- The attach would return its cleanup after the detach inside it has started.
      obtain ⟨offset, endFound⟩ := getElem?_of_mem new
      have lateEnd : (log ++ more)[log.length + offset]? = some (.attachEnded invocation (some cleanup)) := by
        rw [getElem?_append_right (Nat.le_add_right _ _), Nat.add_sub_cancel_left]
        exact endFound
      have kept := preceding.append more (Nat.le_of_lt inLog)
      have stillFound : (log ++ more)[place]? = some event := by
        rw [getElem?_append_left inLog, found]
      exact returns _ invocation cleanup attached lateEnd kept.called kept.ofRef place event preceding.earlier
        (by omega) stillFound start

theorem ReplacesNull.extend {refHandle : RefHandle} {log more : List RefEvent}
    (replaces : ReplacesNull refHandle log) (returns : ReturnsBeforeDetach refHandle (log ++ more))
    (fresh : ∀ (offset : Nat) (event : RefEvent), more[offset]? = some event →
      event.startOf refHandle = some .detach →
      ∃ invocation attached, PrecedingAttach refHandle (log ++ more) (log.length + offset) invocation attached ∧
        ((∃ metadata cleanup, event = .cleanupCalled metadata cleanup ∧
            .attachEnded invocation (some cleanup) ∈ log ++ more) ∨
          (∃ metadata, event = .nullCalled metadata) ∧
            ∀ cleanup, .attachEnded invocation (some cleanup) ∉ log ++ more)) :
    ReplacesNull refHandle (log ++ more) := by
  intro place event found start
  by_cases old : place < log.length
  · rw [getElem?_append_left old] at found
    exact replaces.append returns found start
  · rw [getElem?_append_right (Nat.le_of_not_lt old)] at found
    have settled := fresh _ event found start
    rwa [Nat.add_sub_cancel' (Nat.le_of_not_lt old)] at settled

theorem LeavesRef.replacesNull {refHandle : RefHandle} {world later : RefGateWorld}
    {more : List RefEvent} (leaves : LeavesRef refHandle world later more)
    (returns : ReturnsBeforeDetach refHandle later.log)
    (replaces : ReplacesNull refHandle world.log) : ReplacesNull refHandle later.log := by
  rw [leaves.log_eq] at returns ⊢
  apply replaces.extend returns
  intro offset event found start
  have member : RefAction.detach ∈ refStarts refHandle more :=
    mem_filterMap.mpr ⟨event, mem_of_getElem? found, start⟩
  rw [leaves.noStart] at member
  exact absurd member not_mem_nil

namespace RefGateWorld

variable {more : List RefEvent}

/-- Steps over the same maps that call no cleanup leave every ref alone that they do not start. -/
theorem leavesRef_of_same (log_eq : later.log = world.log ++ more)
    (noStart : refStarts refHandle more = [])
    (noCleanup : ∀ invocation cleanup, .attachEnded invocation (some cleanup) ∉ more)
    (store_eq : later.store = world.store)
    (running_eq : runningCleanups later.frames = runningCleanups world.frames) :
    LeavesRef refHandle world later more where
  log_eq := log_eq
  noStart := noStart
  noCleanup := fun invocation cleanup _ member => absurd member (noCleanup invocation cleanup)
  payloadKept := by
    intro _ _ found
    rwa [store_eq]
  payloadOld := by
    intro _ _ found _
    rwa [store_eq] at found
  stored := by
    intro _ stored _
    rwa [store_eq]
  spent := by
    intro _ _ _ _ spent
    rwa [store_eq, running_eq]
  idle := by
    intro _ _ _ _ idle
    rwa [running_eq]

variable {below : List GateFrame} {action : RefGateAction} {cleanup : RefCleanup}

theorem leavesRef_leaveCleanup (frames_eq : world.frames = .cleanupReturn cleanup :: below) :
    LeavesRef refHandle world
      { world with
        store := world.store.markRefCleanupReturnHandleConsumed cleanup.refCleanupHandle
        frames := below } [] where
  log_eq := (append_nil _).symm
  noStart := rfl
  noCleanup := by simp
  payloadKept := fun _ _ found => found
  payloadOld := fun _ _ found _ => found
  stored := by
    intro handle stored idle
    rw [markConsumed_stored_of_ne]
    · exact stored
    · intro own
      obtain rfl := some.inj (stored.symm.trans own)
      rw [frames_eq] at idle
      exact idle mem_cons_self
  spent := by
    intro handle _ _ _ spent
    rcases spent with consumed | running
    · exact .inl (extends_markConsumed.consumed handle consumed)
    · rw [frames_eq] at running
      rcases mem_cons.mp running with rfl | others
      · left
        simp [markRefCleanupReturnHandleConsumed]
      · exact .inr others
  idle := by
    intro handle _ _ _ idle running
    rw [frames_eq] at idle
    exact idle (mem_cons_of_mem _ running)

theorem leavesRef_callCleanup {remaining : List RefMetadata} (sound : world.Sound)
    (frames_eq : world.frames = .gate (metadata :: remaining) :: below)
    (resolved : world.store.resolveRefCleanupForDetachPayload metadata = .ok (some cleanup))
    (other : metadata.identity.refHandle ≠ refHandle) :
    LeavesRef refHandle world
      { world with
        frames := .cleanupReturn cleanup :: .gate remaining :: below
        log := world.log ++ [.cleanupCalled metadata cleanup] }
      [.cleanupCalled metadata cleanup] where
  log_eq := rfl
  noStart := by simp [refStarts, startOf, other]
  noCleanup := by simp
  payloadKept := fun _ _ found => found
  payloadOld := fun _ _ found _ => found
  stored := fun _ stored _ => stored
  spent := by
    intro handle _ _ _ spent
    rcases spent with consumed | running
    · exact .inl consumed
    · rw [frames_eq] at running
      exact .inr (mem_cons_of_mem _ running)
  idle := by
    intro handle payload known ofRef idle running
    rw [frames_eq] at idle
    rcases mem_cons.mp running with rfl | others
    · obtain ⟨own, _⟩ := resolve_eq_some (sound.genuine frames_eq) resolved
      obtain rfl := some.inj (own.symm.trans known)
      exact other ofRef
    · exact idle others

/-- A cleanup that is returned for another ref handle does not touch this one. -/
theorem leavesRef_keepCleanup {invocation : Nat} {function : RefCleanupFunction}
    (sound : world.Sound) (frames_eq : world.frames = .attach metadata invocation :: below)
    (other : metadata.identity.refHandle ≠ refHandle) :
    LeavesRef refHandle world
      { world with
        store := world.store.recordRefCleanupReturnHandle metadata.identity function
        frames := below
        log := world.log ++ [.attachEnded invocation (some (world.store.nextCleanup function))] }
      [.attachEnded invocation (some (world.store.nextCleanup function))] := by
  have records := sound.store.records metadata.identity function
  obtain ⟨found, _⟩ := sound.attaching metadata invocation (frames_eq ▸ mem_cons_self)
  have sameRunning : runningCleanups below = runningCleanups world.frames := by
    rw [frames_eq]
    rfl
  constructor
  · rfl
  · rfl
  · intro ended cleanup attached member called
    have same := (attachEnded.inj (mem_singleton.mp member)).1
    rw [same, found] at called
    obtain rfl := attachCalled.inj (some.inj called)
    exact other
  · exact records.extends_.payloads
  · intro handle payload known ofRef
    rw [← records.payload_old handle]
    · exact known
    · rintro rfl
      obtain rfl := some.inj (records.payload_new.symm.trans known)
      exact other ofRef
  · intro handle stored _
    exact (records.stored_old refHandle (Ne.symm other)).trans stored
  · intro handle _ _ _ spent
    rcases spent with consumed | running
    · exact .inl (records.extends_.consumed handle consumed)
    · exact .inr (sameRunning ▸ running)
  · intro handle _ _ _ idle running
    exact idle (sameRunning ▸ running)

theorem phase_callAttach {frames : List GateFrame} (phase : RefPhase refHandle world)
    (sound : world.Sound) (ofRef : metadata.identity.refHandle = refHandle)
    (running_eq : runningCleanups frames = runningCleanups world.frames)
    (alternates : Alternates refHandle (world.log ++ [.attachCalled metadata])) :
    RefPhase refHandle { world with frames := frames, log := world.log ++ [.attachCalled metadata] } := by
  have starts : refStarts refHandle (world.log ++ [.attachCalled metadata]) =
      refStarts refHandle world.log ++ [.attach] := by
    rw [refStarts_append]
    simp [refStarts, startOf, ofRef]
  have turn : (refStarts refHandle world.log).length % 2 = 0 := by
    apply (alternates _ .attach _).mp rfl
    rw [starts, getElem?_append_right (Nat.le_refl _), Nat.sub_self, getElem?_cons_zero]
  have spent : Spent refHandle world none := by
    cases phase with
    | detached _ spent => exact spent
    | attached _ _ odd => omega
    | holding _ _ _ odd => omega
  refine .attached world.log.length metadata ?_ ?_ ?_ ?_
  · rw [starts, length_append, length_singleton]
    omega
  · refine ⟨by simp, by simp, ofRef, ?_⟩
    intro between event after before found
    rw [length_append, length_singleton] at before
    omega
  · intro cleanup member
    rcases mem_append.mp member with old | new
    · exact Nat.lt_irrefl _ (sound.ended _ _ old)
    · exact absurd (mem_singleton.mp new) (by simp)
  · intro handle payload known own different
    rcases spent handle payload known own different with consumed | running
    · exact .inl consumed
    · exact .inr (running_eq.symm ▸ running)

theorem odd_of_detach {event : RefEvent} (start : event.startOf refHandle = some .detach)
    (alternates : Alternates refHandle (world.log ++ [event])) :
    (refStarts refHandle world.log).length % 2 = 1 ∧
      (refStarts refHandle (world.log ++ [event])).length % 2 = 0 := by
  have starts : refStarts refHandle (world.log ++ [event]) = refStarts refHandle world.log ++ [.detach] := by
    rw [refStarts_append]
    simp [refStarts, start]
  have turn : (refStarts refHandle world.log).length % 2 ≠ 0 := by
    intro even
    have isAttach := (alternates (refStarts refHandle world.log).length .detach (by
      rw [starts, getElem?_append_right (Nat.le_refl _), Nat.sub_self, getElem?_cons_zero])).mpr even
    exact absurd isAttach (by simp)
  rw [starts, length_append, length_singleton]
  omega

section

variable (phase : RefPhase refHandle world) (replaces : ReplacesNull refHandle world.log)
include phase replaces

theorem phase_callCleanup {remaining : List RefMetadata} (sound : world.Sound)
    (frames_eq : world.frames = .gate (metadata :: remaining) :: below)
    (resolved : world.store.resolveRefCleanupForDetachPayload metadata = .ok (some cleanup))
    (notRunning : cleanup.refCleanupHandle ∉ runningCleanups world.frames)
    (ofRef : metadata.identity.refHandle = refHandle)
    (alternates : Alternates refHandle (world.log ++ [.cleanupCalled metadata cleanup]))
    (returns : ReturnsBeforeDetach refHandle (world.log ++ [.cleanupCalled metadata cleanup])) :
    RefPhase refHandle
        { world with
          frames := .cleanupReturn cleanup :: .gate remaining :: below
          log := world.log ++ [.cleanupCalled metadata cleanup] } ∧
      ReplacesNull refHandle (world.log ++ [.cleanupCalled metadata cleanup]) := by
  have start : (cleanupCalled metadata cleanup).startOf refHandle = some .detach := by
    simp [startOf, ofRef]
  obtain ⟨odd, even⟩ := odd_of_detach start alternates
  obtain ⟨known, unconsumed⟩ := resolve_eq_some (sound.genuine frames_eq) resolved
  have unspent : ¬ (world.store.consumedCleanupReturnHandles cleanup.refCleanupHandle = true ∨
      cleanup.refCleanupHandle ∈ runningCleanups world.frames) := by
    rintro (consumed | running)
    · exact absurd (consumed.symm.trans unconsumed) Bool.noConfusion
    · exact notRunning running
  cases phase with
  | detached evenBefore spent => omega
  | attached _ _ _ _ _ spent => exact absurd (spent _ _ known ofRef (by simp)) unspent
  | holding invocation attached held _ preceding ended stored payload idle spent =>
    have sameHandle : held.refCleanupHandle = cleanup.refCleanupHandle := by
      by_contra different
      exact unspent (spent _ _ known ofRef (fun same => different (some.inj same)))
    have same : held = cleanup := by
      rw [sameHandle, known] at payload
      have sameFunction := (CleanupReturnHandlePayload.mk.inj (some.inj payload)).1
      cases held
      cases cleanup
      simp_all
    subst same
    constructor
    · refine .detached even ?_
      intro handle handlePayload handleKnown own _
      by_cases isHeld : handle = held.refCleanupHandle
      · exact .inr (isHeld ▸ mem_cons_self)
      · rcases spent handle handlePayload handleKnown own
          (fun same => isHeld (some.inj same).symm) with consumed | running
        · exact .inl consumed
        · rw [frames_eq] at running
          exact .inr (mem_cons_of_mem _ running)
    · apply replaces.extend returns
      intro offset event found _
      obtain ⟨rfl, rfl⟩ : offset = 0 ∧ event = .cleanupCalled metadata held := by
        cases offset with
        | zero => exact ⟨rfl, (some.inj found).symm⟩
        | succ offset => exact absurd found (by simp)
      exact ⟨invocation, attached, preceding.append _ (Nat.le_refl _),
        .inl ⟨metadata, held, rfl, mem_append_left _ ended⟩⟩

theorem phase_callNull {frames : List GateFrame}
    (resolved : world.store.resolveRefCleanupForDetachPayload metadata = .ok none)
    (running_eq : runningCleanups frames = runningCleanups world.frames)
    (ofRef : metadata.identity.refHandle = refHandle)
    (alternates : Alternates refHandle (world.log ++ [.nullCalled metadata]))
    (returns : ReturnsBeforeDetach refHandle (world.log ++ [.nullCalled metadata])) :
    RefPhase refHandle { world with frames := frames, log := world.log ++ [.nullCalled metadata] } ∧
      ReplacesNull refHandle (world.log ++ [.nullCalled metadata]) := by
  have start : (nullCalled metadata).startOf refHandle = some .detach := by
    simp [startOf, ofRef]
  obtain ⟨odd, even⟩ := odd_of_detach start alternates
  have unstored := resolve_eq_none resolved
  rw [ofRef] at unstored
  cases phase with
  | detached evenBefore spent => omega
  | holding _ _ _ _ _ _ stored => exact absurd (unstored.symm.trans stored) (by simp)
  | attached invocation attached _ preceding noCleanup spent =>
    constructor
    · refine .detached even ?_
      intro handle payload known own different
      rcases spent handle payload known own different with consumed | running
      · exact .inl consumed
      · exact .inr (running_eq.symm ▸ running)
    · apply replaces.extend returns
      intro offset event found _
      obtain ⟨rfl, rfl⟩ : offset = 0 ∧ event = .nullCalled metadata := by
        cases offset with
        | zero => exact ⟨rfl, (some.inj found).symm⟩
        | succ offset => exact absurd found (by simp)
      refine ⟨invocation, attached, preceding.append _ (Nat.le_refl _), .inr ⟨⟨metadata, rfl⟩, ?_⟩⟩
      intro cleanup member
      rcases mem_append.mp member with old | new
      · exact noCleanup cleanup old
      · exact absurd (mem_singleton.mp new) (by simp)

end

theorem phase_keepCleanup {invocation : Nat} {function : RefCleanupFunction}
    (phase : RefPhase refHandle world) (sound : world.Sound)
    (frames_eq : world.frames = .attach metadata invocation :: below)
    (ofRef : metadata.identity.refHandle = refHandle) (alternates : Alternates refHandle world.log)
    (returns : ReturnsBeforeDetach refHandle (world.log ++ [.attachEnded invocation (some (world.store.nextCleanup function))])) :
    RefPhase refHandle
      { world with
        store := world.store.recordRefCleanupReturnHandle metadata.identity function
        frames := below
        log := world.log ++ [.attachEnded invocation (some (world.store.nextCleanup function))] } := by
  have records := sound.store.records metadata.identity function
  obtain ⟨found, unended⟩ := sound.attaching metadata invocation (frames_eq ▸ List.mem_cons_self)
  have inLog := (List.getElem?_eq_some_iff.mp found).1
  have sameRunning : runningCleanups below = runningCleanups world.frames := by
    rw [frames_eq]
    rfl
  obtain ⟨odd, quiet⟩ := alternates.quiet_of_no_detach found ofRef (by
    intro between event after betweenFound
    have inside := (List.getElem?_eq_some_iff.mp betweenFound).1
    refine returns world.log.length invocation (world.store.nextCleanup function) metadata ?_ ?_ ofRef between
      event after inside ?_
    · rw [getElem?_append_right (Nat.le_refl _), Nat.sub_self, getElem?_cons_zero]
    · rw [List.getElem?_append_left inLog, found]
    · rw [getElem?_append_left inside, betweenFound])
  have spent : Spent refHandle world none := by
    cases phase with
    | detached even => omega
    | attached _ _ _ _ _ spent => exact spent
    | holding last attached cleanup _ preceding ended =>
      -- The attach in progress is the last one, and it has not ended yet.
      have same : last = invocation := by
        rcases Nat.lt_trichotomy last invocation with before | same | after
        · have silent := preceding.quiet invocation _ before inLog found
          simp [startOf, ofRef] at silent
        · exact same
        · have silent := quiet last _ after preceding.earlier preceding.called
          simp [startOf, preceding.ofRef] at silent
      exact absurd (same ▸ ended) (unended (some cleanup))
  have starts : refStarts refHandle (world.log ++ [.attachEnded invocation (some (world.store.nextCleanup function))]) = refStarts refHandle world.log := by
    rw [refStarts_append]
    exact append_nil _
  refine .holding invocation metadata (world.store.nextCleanup function) ?_ ⟨?_, ?_, ofRef, ?_⟩ ?_ ?_ ?_ ?_ ?_
  · rw [starts]
    exact odd
  · rw [length_append]
    exact Nat.lt_add_right _ inLog
  · rw [getElem?_append_left inLog, found]
  · intro between event after before betweenFound
    by_cases old : between < world.log.length
    · rw [getElem?_append_left old] at betweenFound
      exact quiet between event after old betweenFound
    · rw [length_append, length_singleton] at before
      obtain rfl : between = world.log.length := by omega
      rw [getElem?_append_right (Nat.le_refl _), Nat.sub_self, getElem?_cons_zero] at betweenFound
      obtain rfl := some.inj betweenFound
      rfl
  · exact mem_append_right _ mem_cons_self
  · exact ofRef ▸ records.stored_new
  · exact records.payload_new
  · intro running
    rw [sameRunning] at running
    obtain ⟨cleanup, member, own⟩ := mem_runningCleanups.mp running
    obtain ⟨_, payload, known⟩ := sound.running cleanup member
    exact Nat.lt_irrefl _ (own ▸ sound.store.issued _ payload known)
  · intro handle payload known own different
    have old : handle ≠ world.store.nextCleanupReturnHandleSequence :=
      fun same => different (congrArg some same.symm)
    rw [records.payload_old handle old] at known
    rcases spent handle payload known own (by simp) with consumed | running
    · exact .inl (records.extends_.consumed handle consumed)
    · exact .inr (sameRunning ▸ running)

/-- A step keeps the phase of an alternating ref handle, and each detach of it makes the right call. -/
theorem phase_of_stepsTo (phase : RefPhase refHandle world)
    (replaces : ReplacesNull refHandle world.log) (sound : world.Sound)
    (leavesRunning : LeavesRunningCleanups world action) (stepsTo : world.StepsTo action later)
    (alternates : Alternates refHandle later.log)
    (returns : ReturnsBeforeDetach refHandle later.log) :
    RefPhase refHandle later ∧ ReplacesNull refHandle later.log := by
  have aside : ∀ {more : List RefEvent}, LeavesRef refHandle world later more →
      RefPhase refHandle later ∧ ReplacesNull refHandle later.log :=
    fun leaves => ⟨leaves.phase phase, leaves.replacesNull returns replaces⟩
  cases stepsTo with
  | idle => exact ⟨phase, replaces⟩
  | stuck => exact ⟨phase, replaces⟩
  | createMetadata created =>
    exact aside (leavesRef_of_same (append_nil _).symm rfl (by simp) rfl rfl)
  | callGate genuine => exact aside (leavesRef_of_same (append_nil _).symm rfl (by simp) rfl rfl)
  | leaveGate frames_eq =>
    exact aside (leavesRef_of_same (append_nil _).symm rfl (by simp) rfl (by rw [frames_eq]; rfl))
  | skipObjectRef frames_eq object =>
    exact aside (leavesRef_of_same rfl rfl (by simp) rfl (by rw [frames_eq]; rfl))
  | refuseDetach frames_eq refused =>
    exact aside (leavesRef_of_same rfl rfl (by simp) rfl (by rw [frames_eq]; rfl))
  | keepNothing frames_eq =>
    exact aside (leavesRef_of_same rfl rfl (by simp) rfl (by rw [frames_eq]; rfl))
  | leaveNullDetach frames_eq =>
    exact aside (leavesRef_of_same (append_nil _).symm rfl (by simp) rfl (by rw [frames_eq]; rfl))
  | leaveCleanup frames_eq => exact aside (leavesRef_leaveCleanup frames_eq)
  | @callAttach metadata remaining below frames_eq attaches =>
    by_cases ofRef : metadata.identity.refHandle = refHandle
    · refine ⟨phase_callAttach phase sound ofRef (by rw [frames_eq]; rfl) alternates, ?_⟩
      apply replaces.extend returns
      intro offset event found start
      cases offset with
      | zero =>
        obtain rfl := some.inj found
        simp [startOf, ofRef] at start
      | succ offset => exact absurd found (by simp)
    · exact aside (leavesRef_of_same rfl (by simp [refStarts, startOf, ofRef]) (by simp) rfl
        (by rw [frames_eq]; rfl))
  | @callCleanup metadata remaining below cleanup frames_eq detaches callback resolved =>
    by_cases ofRef : metadata.identity.refHandle = refHandle
    · exact phase_callCleanup phase replaces sound frames_eq resolved
        (leavesRunning rfl metadata remaining below cleanup frames_eq detaches callback resolved) ofRef alternates
        returns
    · exact aside (leavesRef_callCleanup sound frames_eq resolved ofRef)
  | @callNull metadata remaining below frames_eq resolved =>
    by_cases ofRef : metadata.identity.refHandle = refHandle
    · exact phase_callNull phase replaces resolved (by rw [frames_eq]; rfl) ofRef alternates returns
    · exact aside (leavesRef_of_same rfl (by simp [refStarts, startOf, ofRef]) (by simp) rfl
        (by rw [frames_eq]; rfl))
  | @keepCleanup metadata invocation below function frames_eq =>
    by_cases ofRef : metadata.identity.refHandle = refHandle
    · refine ⟨phase_keepCleanup phase sound frames_eq ofRef alternates.of_append returns, ?_⟩
      apply replaces.extend returns
      intro offset event found start
      cases offset with
      | zero =>
        obtain rfl := some.inj found
        exact absurd start (by simp [startOf])
      | succ offset => exact absurd found (by simp)
    · exact aside (leavesRef_keepCleanup sound frames_eq ofRef)

/-- A stored handle is never the reason to refuse metadata of one identity. -/
theorem refusesOnlyConsumed_of_stepsTo
    (refuses : SameIdentity refHandle world.log → RefusesOnlyConsumed refHandle world.log)
    (sound : world.Sound) (stepsTo : world.StepsTo action later)
    (same : SameIdentity refHandle later.log) : RefusesOnlyConsumed refHandle later.log := by
  have aside : ∀ {more : List RefEvent}, later.log = world.log ++ more →
      (∀ metadata error, detachRefused metadata error ∉ more) →
      RefusesOnlyConsumed refHandle later.log := by
    intro more grown silent metadata error member ofRef
    rw [grown] at member same
    have before : SameIdentity refHandle world.log := by
      obtain ⟨identity, all⟩ := same
      exact ⟨identity, fun event member => all event (mem_append_left _ member)⟩
    rcases mem_append.mp member with old | new
    · exact refuses before metadata error old ofRef
    · exact absurd new (silent metadata error)
  cases stepsTo with
  | @refuseDetach metadata remaining below error frames_eq refused =>
    obtain ⟨identity, all⟩ := same
    have before : SameIdentity refHandle world.log :=
      ⟨identity, fun event member => all event (mem_append_left _ member)⟩
    intro other otherError member ofRef
    rcases mem_append.mp member with old | new
    · exact refuses before other otherError old ofRef
    · obtain ⟨rfl, rfl⟩ := detachRefused.inj (mem_singleton.mp new)
      rcases resolve_eq_error sound.store (sound.genuine frames_eq) refused with
        consumed | ⟨handle, payload, known, sameRef, different⟩
      · exact consumed
      · obtain ⟨attached, called, sameIdentity⟩ := sound.origin handle payload known
        have ofAttach := all _ (mem_append_left _ called) attached rfl
          (by rw [sameIdentity, sameRef, ofRef])
        have ofDetach := all _ (mem_append_right _ mem_cons_self) other rfl ofRef
        exact absurd (sameIdentity.symm.trans (ofAttach.trans ofDetach.symm)) different
  | idle => exact refuses same
  | stuck => exact refuses same
  | createMetadata created => exact refuses same
  | callGate genuine => exact refuses same
  | leaveGate frames_eq => exact refuses same
  | leaveNullDetach frames_eq => exact refuses same
  | leaveCleanup frames_eq => exact refuses same
  | skipObjectRef frames_eq object => exact aside rfl (by simp)
  | callAttach frames_eq attaches => exact aside rfl (by simp)
  | callCleanup frames_eq detaches callback resolved => exact aside rfl (by simp)
  | callNull frames_eq resolved => exact aside rfl (by simp)
  | keepCleanup frames_eq => exact aside rfl (by simp)
  | keepNothing frames_eq => exact aside rfl (by simp)

/-- What a run has kept about every ref handle. -/
structure Follows (world : RefGateWorld) : Prop where
  sound : world.Sound
  replaces : ∀ refHandle, Alternates refHandle world.log → ReturnsBeforeDetach refHandle world.log →
    RefPhase refHandle world ∧ ReplacesNull refHandle world.log
  refuses : ∀ refHandle, SameIdentity refHandle world.log → RefusesOnlyConsumed refHandle world.log

theorem follows_new : new.Follows where
  sound := Sound.new
  replaces := by
    intro refHandle _ _
    refine ⟨.detached rfl ?_, ?_⟩
    · intro handle payload known
      simp [new, RefCleanupStore.new] at known
    · intro place event found
      simp [new] at found
  refuses := by
    intro refHandle _ metadata error member
    simp [new] at member

theorem StepsTo.grows {action : RefGateAction} (stepsTo : world.StepsTo action later) :
    ∃ more, later.log = world.log ++ more := by
  cases stepsTo with
  | skipObjectRef | callAttach | refuseDetach | callCleanup | callNull | keepCleanup | keepNothing =>
    exact ⟨_, rfl⟩
  | _ => exact ⟨[], (append_nil _).symm⟩

theorem Follows.step (follows : world.Follows)
    (leavesRunning : LeavesRunningCleanups world action) : (world.step action).Follows where
  sound := sound_step follows.sound action
  replaces := by
    intro refHandle alternates returns
    obtain ⟨more, grown⟩ := (world.stepsTo action).grows
    obtain ⟨phase, replaces⟩ := follows.replaces refHandle (Alternates.of_append (grown ▸ alternates))
      (ReturnsBeforeDetach.of_append (grown ▸ returns))
    exact phase_of_stepsTo phase replaces follows.sound leavesRunning (world.stepsTo action) alternates returns
  refuses := fun refHandle =>
    refusesOnlyConsumed_of_stepsTo (follows.refuses refHandle) follows.sound (world.stepsTo action)

/-- Cleanups run at most once exactly when no detach resolves to a running one, and then they replace null. -/
theorem ref_cleanups_once_and_for_null (actions : List RefGateAction) :
    ((∀ taken, taken <+: actions → CleanupsRunOnce (taken.foldl step new)) ↔
      Permitted LeavesRunningCleanups step new actions) ∧
    (Permitted LeavesRunningCleanups step new actions →
      ∀ refHandle, Alternates refHandle (actions.foldl step new).log →
        SameIdentity refHandle (actions.foldl step new).log →
        ReturnsBeforeDetach refHandle (actions.foldl step new).log →
        ReplacesNull refHandle (actions.foldl step new).log ∧
          RefusesOnlyConsumed refHandle (actions.foldl step new).log) := by
  constructor
  · exact Permitted.iff_everywhere nodup_nil Sound.new
      (fun world action sound => sound_step sound action)
      (fun world action sound once => cleanupsRunOnce_step_iff sound once action)
  · intro permitted refHandle alternates same returns
    have follows := (ActionRun.of_permitted permitted).invariant follows_new
      (fun world action follows leavesRunning => follows.step leavesRunning)
    exact ⟨(follows.replaces refHandle alternates returns).2, follows.refuses refHandle same⟩

/-- One ref attaches, and the cleanup it returned calls the gate with the detach that is calling it. -/
def reenteredDetach : List RefGateAction :=
  let identity : RefIdentity :=
    { rootOwner := 1, hostOwner := 2, hostInstanceToken := 3, refHandle := 4, ref := .callback 5 }
  let attach : RefMetadata := { action := .attach, identity, refCleanup := none }
  let detach : RefMetadata := { action := .detach, identity, refCleanup := none }
  [.createMetadata .attach identity none, .createMetadata .detach identity none,
    .callGate [] [attach], .runNext, .complete (.returnedFunction 6), .runNext,
    .callGate [detach] [], .runNext,
    .callGate [detach] [], .runNext]

theorem running_cleanup_called_again :
    let world := reenteredDetach.foldl step new
    cleanupCalls world.log = [1, 1] ∧ ¬ CleanupsRunOnce world := by
  refine ⟨rfl, ?_⟩
  unfold CleanupsRunOnce
  decide

end RefGateWorld

end FastReact
