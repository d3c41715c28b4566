import FastReact.FunctionEffectRuns

namespace FastReact

open ErrorState Except FunctionComponent HookEffectFlags LinkChain LinkedArena List SearchedLists

/-!
# The metadata of rendered and of committed effects

A render state and the queue that is committed from it list the same passive effects.  Their
layout effects are numbered differently: the render state counts those that it lists, the
committed queue all effects of the component.
-/

namespace HookEffectFlags

theorem containsAll_merge (flags first second : HookEffectFlags) :
    flags.containsAll (first.merge second) =
      (flags.containsAll first && flags.containsAll second) := by
  rw [Bool.eq_iff_iff, Bool.and_eq_true]
  unfold containsAll merge
  simp only [beq_iff_eq]
  constructor
  · intro both
    constructor
    · ext position inside
      have bit := congrArg (fun bits => bits[position]) both
      simp only [BitVec.getElem_and, BitVec.getElem_or] at bit ⊢
      grind
    · ext position inside
      have bit := congrArg (fun bits => bits[position]) both
      simp only [BitVec.getElem_and, BitVec.getElem_or] at bit ⊢
      grind
  · rintro ⟨hasFirst, hasSecond⟩
    rw [BitVec.and_or_distrib_left, hasFirst, hasSecond]

theorem containsAll_no (flags : HookEffectFlags) : flags.containsAll .no = true := by
  simp [containsAll, no]

end HookEffectFlags

namespace FunctionEffects

open PassiveEffects (HookEffectCallbackHandle HookEffectInstance HookEffectInstanceId)
open HookEffectArena EffectRenderWorld

variable {State Action α : Type} {world : EffectRenderWorld State Action}
  {state : FunctionComponentHookRenderState}
  {registrations : List FunctionComponentEffectRegistration} {lanes : Lanes}

theorem mountedTag_containsAll (phase other : FunctionComponentEffectPhase) :
    (hasEffect.merge phase.hookFlags).containsAll
      (hasEffect.merge other.hookFlags) = decide (phase = other) := by
  cases phase <;> cases other <;> rfl

theorem fromFlags_mountedTag (phase : FunctionComponentEffectPhase) :
    FunctionComponentEffectPhase.fromFlags (hasEffect.merge phase.hookFlags) = phase := by
  cases phase <;> rfl

theorem mountedTag_listed {registration : FunctionComponentEffectRegistration}
    (isMounted : registration.tag = hasEffect.merge registration.phase.hookFlags)
    (phase : FunctionComponentEffectPhase) :
    registration.tag.containsAll (hasEffect.merge phase.hookFlags) =
      (decide (FunctionComponentEffectPhase.fromFlags registration.tag = phase) &&
        registration.tag.containsAll (hasEffect.merge phase.hookFlags)) := by
  rw [isMounted, fromFlags_mountedTag, mountedTag_containsAll, Bool.and_self]

namespace EffectRenderWorld

/-- The destroy of an effect, as far as its instance resolves. -/
def storedDestroy (world : EffectRenderWorld State Action) (effect : HookEffect) :
    Option HookEffectCallbackHandle :=
  (world.hookEffects.effectInstance effect.effectInstance).toOption.bind
    HookEffectInstance.destroy

theorem effectDestroy_eq_ok {effectId : HookEffectId} {effect : HookEffect}
    {found : HookEffectInstance} (stored : world.hookEffects.effects.data? effectId = some effect)
    (resolves : world.hookEffects.effectInstance effect.effectInstance = .ok found) :
    world.hookEffects.effectDestroy effectId = .ok (world.storedDestroy effect) := by
  unfold effectDestroy storedDestroy
  rw [getEffect_eq_ok stored]
  simp only [bind, Except.bind, pure, Except.pure, resolves]
  rfl

section

variable (fiber : FiberId) (flags : HookEffectFlags)

theorem ringRecordsLoop_succ {effectId next : HookEffectId} {effect : HookEffect}
    (first : HookEffectId)
    (record : Nat → HookEffectId → HookEffect → Option HookEffectCallbackHandle → α)
    (rounds index : Nat) (stored : world.hookEffects.effects.data? effectId = some effect)
    (instances : ∀ id effect, world.hookEffects.effects.data? id = some effect →
      ∃ found, world.hookEffects.effectInstance effect.effectInstance = .ok found)
    (linked : world.hookEffects.effects.next? effectId = some next) :
    world.ringRecordsLoop fiber flags first record (rounds + 1) index effectId =
      if effect.tag.containsAll flags then
        (if next = first then .ok []
          else world.ringRecordsLoop fiber flags first record rounds (index + 1) next).map
          (record index effectId effect (world.storedDestroy effect) :: ·)
      else if next = first then
        .ok []
      else
        world.ringRecordsLoop fiber flags first record rounds index next := by
  obtain ⟨found, resolves⟩ := instances effectId effect stored
  rw [ringRecordsLoop, getEffect_eq_ok stored, linked]
  by_cases matching : effect.tag.containsAll flags = true
  · have made : world.recordOfEffect fiber flags record index effectId effect =
        .ok [record index effectId effect (world.storedDestroy effect)] := by
      rw [recordOfEffect, if_pos matching, effectDestroy_eq_ok stored resolves]
      rfl
    rw [if_pos matching]
    change (world.recordOfEffect fiber flags record index effectId effect >>= fun _ => _) = _
    rw [made]
    by_cases isFirst : next = first
    · simp [isFirst, bind, Except.bind, pure, Except.pure, Except.map]
    · simp only [isFirst, if_false, Option.elim_some, bind, Except.bind, length_singleton]
      cases world.ringRecordsLoop fiber flags first record rounds (index + 1) next <;> rfl
  · have made : world.recordOfEffect fiber flags record index effectId effect = .ok [] := by
      rw [recordOfEffect, if_neg matching]
    rw [if_neg matching]
    change (world.recordOfEffect fiber flags record index effectId effect >>= fun _ => _) = _
    rw [made]
    by_cases isFirst : next = first
    · simp [isFirst, bind, Except.bind, pure, Except.pure]
    · simp only [isFirst, if_false, Option.elim_some, bind, Except.bind, length_nil, Nat.add_zero]
      cases world.ringRecordsLoop fiber flags first record rounds index next <;> rfl

/-- Going round from a member of a ring makes the records of all members from there on. -/
theorem ringRecordsLoop_eq_ok {first last : HookEffectId}
    (record : Nat → HookEffectId → HookEffect → Option HookEffectCallbackHandle → α)
    (instances : ∀ id effect, world.hookEffects.effects.data? id = some effect →
      ∃ found, world.hookEffects.effectInstance effect.effectInstance = .ok found)
    (ring : IsRing world.hookEffects.effects.next? last
      (registrations.map FunctionComponentEffectRegistration.effect))
    (holds : ∀ registration ∈ registrations,
      world.hookEffects.effects.data? registration.effect = some registration.hookEffect)
    (isFirst : (registrations.map FunctionComponentEffectRegistration.effect).head? = some first) :
    ∀ later before next, registrations = before ++ next :: later →
      ∀ remaining index, later.length < remaining →
        world.ringRecordsLoop fiber flags first record remaining index next.effect =
          .ok (((next :: later).filter (·.tag.containsAll flags)).mapIdx
            fun position registration =>
              record (index + position) registration.effect registration.hookEffect
                (world.storedDestroy registration.hookEffect)) := by
  refine ring.around ?_ ?_
  · intro before next shape closing remaining index enough
    obtain ⟨rounds, rfl⟩ := Nat.exists_eq_succ_of_ne_zero (by omega : remaining ≠ 0)
    have round := ringRecordsLoop_succ fiber flags first record rounds index
      (holds next (by simp [shape])) instances (closing.trans isFirst)
    rw [round, if_pos rfl, if_pos rfl, filter_cons]
    by_cases matching : next.tag.containsAll flags = true
    · rw [if_pos matching]
      exact if_pos matching
    · rw [if_neg matching]
      exact if_neg matching
  · intro before next other others shape linked notFirst recursion remaining index enough
    obtain ⟨rounds, rfl⟩ := Nat.exists_eq_succ_of_ne_zero (by omega : remaining ≠ 0)
    have otherNotFirst : other.effect ≠ first := fun same => notFirst (same ▸ isFirst.symm)
    have recursion := fun index => recursion rounds index (by simpa using enough)
    have round := ringRecordsLoop_succ fiber flags first record rounds index
      (holds next (by simp [shape])) instances linked
    have picked : (next :: other :: others).filter (·.tag.containsAll flags) =
        if next.tag.containsAll flags then
          next :: (other :: others).filter (·.tag.containsAll flags)
        else
          (other :: others).filter (·.tag.containsAll flags) :=
      filter_cons
    rw [round, if_neg otherNotFirst, if_neg otherNotFirst, recursion, recursion, picked]
    by_cases matching : next.tag.containsAll flags = true
    · have matchingEffect : next.hookEffect.tag.containsAll flags = true := matching
      rw [if_pos matching, if_pos matchingEffect, mapIdx_cons]
      simp only [Nat.add_assoc, Nat.add_comm 1, Nat.add_zero]
      rfl
    · have notMatching : ¬ next.hookEffect.tag.containsAll flags = true := matching
      rw [if_neg matching, if_neg notMatching]

end

end EffectRenderWorld

theorem RenderedEffects.ringRecords_eq_ok (rendered : RenderedEffects state registrations world)
    (flags : HookEffectFlags)
    (record : Nat → HookEffectId → HookEffect → Option HookEffectCallbackHandle → α) :
    world.ringRecords state flags record =
      .ok ((registrations.filter (·.tag.containsAll flags)).mapIdx fun index registration =>
        record index registration.effect registration.hookEffect
          (world.storedDestroy registration.hookEffect)) := by
  obtain ⟨members, effects, listed, sameMembers, sameEffects⟩ := rendered.listed
  have ring := listed.family.rings state.workInProgressList
  rw [sameMembers, sameEffects] at ring
  unfold ringRecords
  cases shape : world.effectRing state.workInProgressList with
  | none =>
    have noLast : world.lastEffect state.workInProgressList = none := by
      rw [lastEffect, shape]
      rfl
    rw [noLast] at ring
    obtain rfl : registrations = [] := map_eq_nil_iff.mp ring.ring
    rfl
  | some found =>
    have sameLast : world.lastEffect state.workInProgressList = found.lastEffect := by
      rw [lastEffect, shape]
      rfl
    rw [sameLast] at ring
    dsimp only
    rw [firstEffect_eq_ok ring]
    cases registrations with
    | nil => rfl
    | cons head rest =>
      cases lastShape : found.lastEffect with
      | none =>
        rw [lastShape] at ring
        cases ring.ring
      | some last =>
        have enough : rest.length < world.hookEffects.effectLen := by
          have bounded := length_le_effectLen ring
          rw [length_map, length_cons] at bounded
          exact bounded
        rw [lastShape] at ring
        have recorded := ringRecordsLoop_eq_ok state.renderFiber flags record listed.instances
          ring.ring (fun _ => ring.holds.of_mem) rfl rest [] head rfl _ 0 enough
        simp only [Nat.zero_add] at recorded
        exact recorded

/-! Both kinds of metadata, read from the records of a commit. -/

namespace FunctionComponentCommittedEffectRecord

def listedInLayout (record : FunctionComponentCommittedEffectRecord) : Bool :=
  record.phase = .layout && record.tag.containsAll .layoutEffect

def listedInPassive (record : FunctionComponentCommittedEffectRecord) : Bool :=
  record.phase = .passive && record.tag.containsAll .passiveEffect

/-- What the layout metadata says of a record. -/
def layoutMetadata (state : FunctionComponentHookRenderState) (lanes : Lanes) (index : Nat)
    (record : FunctionComponentCommittedEffectRecord) : FunctionComponentLayoutEffectMetadata where
  fiber := state.renderFiber
  renderPhase := state.phase
  hookList := record.hookList
  effectIndex := index
  effect := record.effect
  previousEffect := record.previousEffect
  effectInstance := record.effectInstance
  tag := record.tag
  create := record.create
  destroy := record.destroy
  previousDependencies := record.previousDependencies
  dependencies := record.dependencies
  dependencyStatus := record.dependencyStatus
  lanes := lanes

def passiveMetadata (state : FunctionComponentHookRenderState) (lanes : Lanes) (index : Nat)
    (record : FunctionComponentCommittedEffectRecord) : FunctionComponentPassiveEffectMetadata where
  fiber := state.renderFiber
  renderPhase := state.phase
  hookList := record.hookList
  effectIndex := index
  effect := record.effect
  previousEffect := record.previousEffect
  effectInstance := record.effectInstance
  tag := record.tag
  create := record.create
  destroy := record.destroy
  dependencies := record.dependencies
  lanes := lanes

end FunctionComponentCommittedEffectRecord

open FunctionComponentCommittedEffectRecord

open FunctionComponentCommittedEffectRecord

/-- The records of a commit are those of the rendered effects, numbered one after another, and
the render state lists the same effects as they do. -/
structure CommitsEffects (state : FunctionComponentHookRenderState)
    (registrations : List FunctionComponentEffectRegistration) (lanes : Lanes)
    (world : EffectRenderWorld State Action)
    (records : List FunctionComponentCommittedEffectRecord) : Prop where
  committed : world.committedEffectRecordsForRenderState state lanes = .ok records
  numbered : records.map FunctionComponentCommittedEffectRecord.effectIndex =
    List.range records.length
  agree : List.Forall₂
    (fun registration record => record.phase = registration.phase ∧ record.tag = registration.tag)
    registrations records
  layout : lanes.isEmpty = false →
    world.layoutEffectMetadata state lanes =
      .ok ((records.filter listedInLayout).mapIdx (layoutMetadata state lanes))
  passive : lanes.isEmpty = false →
    world.passiveEffectMetadata state lanes =
      .ok ((records.filter listedInPassive).mapIdx (passiveMetadata state lanes))

def mountedRecord (world : EffectRenderWorld State Action)
    (state : FunctionComponentHookRenderState) (lanes : Lanes) (index : Nat)
    (registration : FunctionComponentEffectRegistration) :
    FunctionComponentCommittedEffectRecord where
  effectIndex := index
  hookList := state.workInProgressList
  effect := registration.effect
  previousEffect := none
  effectInstance := registration.effectInstance
  phase := .fromFlags registration.tag
  tag := registration.tag
  create := registration.create
  destroy := world.storedDestroy registration.hookEffect
  previousDependencies := none
  dependencies := registration.dependencies
  dependencyStatus := none
  lanes := lanes

def updatedRecord (lanes : Lanes) (record : FunctionComponentEffectUpdateQueueRecord) :
    FunctionComponentCommittedEffectRecord where
  effectIndex := record.updateIndex
  hookList := record.hookList
  effect := record.effect
  previousEffect := some record.previousEffect
  effectInstance := record.effectInstance
  phase := record.phase
  tag := record.tag
  create := record.create
  destroy := record.destroy
  previousDependencies := some record.previousDependencies
  dependencies := record.dependencies
  dependencyStatus := some record.dependencyStatus
  lanes := lanes

theorem RenderedEffects.commits_of_mount (rendered : RenderedEffects state registrations world)
    (isMount : state.phase = .mount) (lanes : Lanes) :
    CommitsEffects state registrations lanes world
      (registrations.mapIdx (mountedRecord world state lanes)) := by
  have checked : world.checkList state = .ok () := checkList_eq_ok_iff.mpr rendered.created
  have notUpdate : state.phase ≠ .update := by
    rw [isMount]
    exact fun same => by cases same
  have tags := rendered.mounts isMount
  refine ⟨?_, ?_, ?_, ?_, ?_⟩
  · have recorded := rendered.ringRecords_eq_ok .no (fun index id effect destroy =>
      ({ effectIndex := index
         hookList := state.workInProgressList
         effect := id
         previousEffect := none
         effectInstance := effect.effectInstance
         phase := .fromFlags effect.tag
         tag := effect.tag
         create := effect.create
         destroy := destroy
         previousDependencies := none
         dependencies := effect.dependencies
         dependencyStatus := none
         lanes := lanes } : FunctionComponentCommittedEffectRecord))
    rw [filter_eq_self.mpr fun registration _ => containsAll_no registration.tag] at recorded
    unfold committedEffectRecordsForRenderState
    rw [checked, if_neg notUpdate]
    exact recorded
  · rw [length_mapIdx]
    exact map_mapIdx_eq_range (fun _ _ => rfl) registrations
  · refine forall₂_mapIdx _ fun registration member index => ⟨?_, rfl⟩
    change FunctionComponentEffectPhase.fromFlags registration.tag = _
    rw [tags registration member, fromFlags_mountedTag]
  · intro hasLanes
    unfold layoutEffectMetadata
    rw [hasLanes, checked, if_neg notUpdate]
    refine (rendered.ringRecords_eq_ok .layoutEffect _).trans (congrArg ok ?_)
    refine mapIdx_filter_congr _ _
      (forall₂_mapIdx _ fun registration member index => ⟨?_, fun _ => rfl⟩)
    exact mountedTag_listed (tags registration member) .layout
  · intro hasLanes
    unfold passiveEffectMetadata
    rw [hasLanes, checked, if_neg notUpdate]
    refine (rendered.ringRecords_eq_ok .passiveEffect _).trans (congrArg ok ?_)
    refine mapIdx_filter_congr _ _
      (forall₂_mapIdx _ fun registration member index => ⟨?_, fun _ => rfl⟩)
    exact mountedTag_listed (tags registration member) .passive

theorem effectUpdateQueueRecords_eq_ok
    (created : state.workInProgressList < world.hooks.hookLists.length) :
    world.effectUpdateQueueRecords state = .ok (world.updateRecords state.workInProgressList) := by
  unfold effectUpdateQueueRecords
  rw [checkList_eq_ok_iff.mpr created]
  rfl

theorem RenderedEffects.commits_of_update (rendered : RenderedEffects state registrations world)
    (isUpdate : state.phase = .update) (lanes : Lanes) :
    CommitsEffects state registrations lanes world
      ((world.updateRecords state.workInProgressList).map (updatedRecord lanes)) := by
  have checked : world.checkList state = .ok () := checkList_eq_ok_iff.mpr rendered.created
  have queued := effectUpdateQueueRecords_eq_ok rendered.created
  have reported := rendered.updates isUpdate
  have owned : ∀ record ∈ world.updateRecords state.workInProgressList,
      record.fiber = state.renderFiber := by
    have flipped : List.Forall₂
        (fun record registration => record.fiber = state.renderFiber ∧
          Reports state registration record)
        (world.updateRecords state.workInProgressList) registrations :=
      reported.flip.imp fun _ _ reports => ⟨reports.fiber, reports⟩
    exact ((forall₂_and_left _ _).mp flipped).1
  refine ⟨?_, ?_, ?_, ?_, ?_⟩
  · unfold committedEffectRecordsForRenderState
    rw [checked, if_pos isUpdate, queued]
    cases shape : world.updateRecords state.workInProgressList with
    | nil =>
      rw [shape] at reported
      cases reported
      exact rendered.ringRecords_eq_ok .no _
    | cons record rest => rfl
  · rw [map_map, length_map]
    exact rendered.numbered
  · rw [forall₂_map_right_iff]
    exact reported.imp fun _ _ reports => ⟨reports.phase, reports.tag⟩
  · intro hasLanes
    unfold layoutEffectMetadata layoutEffectMetadataFromUpdateQueue
    rw [hasLanes, checked, if_pos isUpdate, queued]
    refine congrArg ok (mapIdx_filter_congr _ _ ?_)
    rw [forall₂_map_right_iff, forall₂_same]
    intro record member
    refine ⟨?_, fun index => ?_⟩
    · exact congrArg (decide (record.phase = .layout) && ·) (containsAll_merge _ _ _).symm
    · rw [owned record member]
      rfl
  · intro hasLanes
    unfold passiveEffectMetadata passiveEffectMetadataFromUpdateQueue
    rw [hasLanes, checked, if_pos isUpdate, queued]
    refine congrArg ok (mapIdx_filter_congr _ _ ?_)
    rw [forall₂_map_right_iff, forall₂_same]
    intro record member
    refine ⟨?_, fun index => ?_⟩
    · exact congrArg (decide (record.phase = .passive) && ·) (containsAll_merge _ _ _).symm
    · rw [owned record member]
      rfl

/-- The records that a commit makes of the rendered effects. -/
def committedRecords (world : EffectRenderWorld State Action)
    (state : FunctionComponentHookRenderState)
    (registrations : List FunctionComponentEffectRegistration) (lanes : Lanes) :
    List FunctionComponentCommittedEffectRecord :=
  if state.phase = .update then
    (world.updateRecords state.workInProgressList).map (updatedRecord lanes)
  else
    registrations.mapIdx (mountedRecord world state lanes)

theorem RenderedEffects.commits (rendered : RenderedEffects state registrations world)
    (lanes : Lanes) :
    CommitsEffects state registrations lanes world
      (committedRecords world state registrations lanes) := by
  unfold committedRecords
  cases phase : state.phase with
  | mount => exact rendered.commits_of_mount phase lanes
  | update => exact rendered.commits_of_update phase lanes

/-! What a commit makes of the metadata. -/

def FunctionComponentEffectRegistration.firesInLayout
    (registration : FunctionComponentEffectRegistration) : Bool :=
  registration.phase = .layout && registration.tag.firesInLayout

/-- The queue that a commit makes of the records. -/
def committedQueue (state : FunctionComponentHookRenderState) (lanes : Lanes)
    (records : List FunctionComponentCommittedEffectRecord) :
    FunctionComponentCommittedEffectQueue where
  fiber := state.renderFiber
  phase := state.phase
  hookList := state.workInProgressList
  lanes := lanes
  records := records

section

variable (records : List FunctionComponentCommittedEffectRecord) (hasLanes : lanes.isEmpty = false)
include hasLanes

theorem passiveEffectMetadata_committedQueue :
    (committedQueue state lanes records).passiveEffectMetadata .passiveEffect =
      (records.filter listedInPassive).mapIdx (passiveMetadata state lanes) := by
  refine if_neg ?_
  change ¬ lanes.isEmpty = true
  rw [hasLanes]
  exact Bool.false_ne_true

theorem layoutEffectMetadata_committedQueue :
    (committedQueue state lanes records).layoutEffectMetadata .layoutEffect =
      (records.filter listedInLayout).map fun record =>
        layoutMetadata state lanes record.effectIndex record := by
  refine if_neg ?_
  change ¬ lanes.isEmpty = true
  rw [hasLanes]
  exact Bool.false_ne_true

end

variable {records : List FunctionComponentCommittedEffectRecord}

section

variable (commits : CommitsEffects state registrations lanes world records)
include commits

theorem CommitsEffects.passive_agrees :
    world.passiveEffectMetadata state lanes =
      .ok ((committedQueue state lanes records).passiveEffectMetadata .passiveEffect) := by
  cases hasLanes : lanes.isEmpty with
  | true => exact (if_pos hasLanes).trans (congrArg ok (if_pos hasLanes).symm)
  | false =>
    rw [passiveEffectMetadata_committedQueue records hasLanes]
    exact commits.passive hasLanes

/-- The layout effects are numbered alike exactly when nothing that does not fire in the
layout phase stands before one that does. -/
theorem CommitsEffects.layout_agrees_iff :
    world.layoutEffectMetadata state lanes =
        .ok ((committedQueue state lanes records).layoutEffectMetadata .layoutEffect) ↔
      lanes.isEmpty = true ∨
        PickedFirst FunctionComponentEffectRegistration.firesInLayout registrations := by
  cases hasLanes : lanes.isEmpty with
  | true =>
    exact iff_of_true ((if_pos hasLanes).trans (congrArg ok (if_pos hasLanes).symm)) (.inl rfl)
  | false =>
    have sameMarks : List.Forall₂
        (fun registration record => FunctionComponentEffectRegistration.firesInLayout registration =
          listedInLayout record)
        registrations records := by
      refine commits.agree.imp fun registration record same => ?_
      unfold FunctionComponentEffectRegistration.firesInLayout listedInLayout
      rw [same.1, same.2]
      exact congrArg (decide (registration.phase = .layout) && ·) (containsAll_merge _ _ _).symm
    have numbers : records.map effectIndex =
        List.range' 0 records.length := by
      rw [commits.numbered, range_eq_range']
    have injective : ∀ first second record,
        layoutMetadata state lanes first record = layoutMetadata state lanes second record →
          first = second :=
      fun first second record same =>
        congrArg FunctionComponentLayoutEffectMetadata.effectIndex same
    have numbered := mapIdx_filter_eq_map_iff listedInLayout injective records 0 numbers
    simp only [Nat.zero_add] at numbered
    rw [commits.layout hasLanes, layoutEffectMetadata_committedQueue records hasLanes,
      ok.injEq, pickedFirst_congr sameMarks]
    simpa using numbered

end

/-- The metadata of a render state and of the queue committed from it is the same. -/
def MetadataAgrees (state : FunctionComponentHookRenderState) (lanes : Lanes)
    (queue : FunctionComponentCommittedEffectQueue) (world : EffectRenderWorld State Action) :
    Prop :=
  world.layoutEffectMetadata state lanes = .ok (queue.layoutEffectMetadata .layoutEffect) ∧
    world.passiveEffectMetadata state lanes = .ok (queue.passiveEffectMetadata .passiveEffect)

theorem RenderedEffects.run_commit (rendered : RenderedEffects state registrations world)
    (lanes : Lanes) :
    ∃ after,
      (commitEffectQueueForRenderState state lanes).run world =
        .ok (committedQueue state lanes (committedRecords world state registrations lanes)) after ∧
      CommitsEffects state registrations lanes after
        (committedRecords world state registrations lanes) := by
  have renderedAfter : RenderedEffects state registrations
      ((EffectOperation.commitEffectQueueForRenderState state lanes).run world) :=
    rendered.other fun otherState impossible => by cases impossible
  have commitsAfter := renderedAfter.commits lanes
  unfold EffectOperation.run at commitsAfter
  dsimp only at commitsAfter
  have committed := (rendered.commits lanes).committed
  have ran : ∃ after, (commitEffectQueueForRenderState state lanes).run world =
      .ok (committedQueue state lanes (committedRecords world state registrations lanes)) after ∧
      after.hookEffects = world.hookEffects ∧
      after.effectUpdateQueues = world.effectUpdateQueues := by
    unfold commitEffectQueueForRenderState
    rw [run_bind, run_query, committed]
    exact ⟨_, rfl, rfl, rfl⟩
  obtain ⟨after, ran, sameEffects, sameQueues⟩ := ran
  rw [ran] at commitsAfter
  have sameRecords : committedRecords after state registrations lanes =
      committedRecords world state registrations lanes := by
    unfold committedRecords mountedRecord storedDestroy updateRecords effectUpdateQueue
    rw [sameEffects, sameQueues]
  refine ⟨after, ran, ?_⟩
  rw [← sameRecords]
  exact commitsAfter

end FunctionEffects

open FunctionEffects

/-- The effects of a component that is rendered in any store that can be reached are committed
with the metadata of the render state exactly when the commit has no lanes or nothing that does
not fire in the layout phase is rendered before a layout effect that does. -/
theorem effect_metadata_agrees_iff
    {State Action : Type}
    {world started finished : EffectRenderWorld State Action}
    {workInProgress : FiberId}
    {state : FunctionComponentHookRenderState}
    {registrations : List FunctionComponentEffectRegistration}
    (reached : FunctionEffects.Reachable world)
    (prepared : (FunctionEffects.prepareRenderState workInProgress).run world = .ok state started)
    (rendered : RendersEffects state started registrations finished)
    (lanes : Lanes) :
    ∃ queue after,
      (commitEffectQueueForRenderState state lanes).run finished = .ok queue after ∧
      (MetadataAgrees state lanes queue after ↔
        lanes.isEmpty = true ∨
          PickedFirst FunctionComponentEffectRegistration.firesInLayout registrations) := by
  have effects := RenderedEffects.of_run (renderedEffects_nil reached prepared) rendered
  obtain ⟨after, ran, commits⟩ := effects.run_commit lanes
  refine ⟨_, after, ran, ?_⟩
  rw [← commits.layout_agrees_iff]
  exact and_iff_left commits.passive_agrees

section Sample

def sampleEffectWorld : EffectRenderWorld Unit Unit :=
  .new ⟨0⟩ (stateAfter
    ((createFiber .functionComponent none .none FiberMode.no : FiberArenaM FiberId).run .new))

/-- The first render of the component. -/
def sampleEffectState : FunctionComponentHookRenderState where
  phase := .mount
  renderFiber := ⟨0, 0⟩
  current := none
  currentList := none
  workInProgressList := 0

/-- The cursor of the first render once it has mounted some hooks. -/
def sampleEffectCursor (appended : Nat) : FunctionComponentHookRenderCursor :=
  .mount sampleEffectState rfl { list := 0, appended := appended }

/-- A layout effect that is mounted before a passive one has the same metadata at the commit. -/
theorem effect_metadata_agrees_sample :
    ∃ started first second finished queue after,
      (FunctionEffects.prepareRenderState ⟨0, 0⟩).run sampleEffectWorld =
        .ok sampleEffectState started ∧
      RendersEffects sampleEffectState started [first, second] finished ∧
      (first.phase = .layout ∧ second.phase = .passive) ∧
      (commitEffectQueueForRenderState sampleEffectState .default).run finished =
        .ok queue after ∧
      MetadataAgrees sampleEffectState .default queue after := by
  obtain ⟨started, first, firstNext, between, second, secondNext, finished, prepared, ranFirst,
      ranSecond, isFirst, isSecond⟩ :
      ∃ started first firstNext between second secondNext finished,
        (FunctionEffects.prepareRenderState ⟨0, 0⟩).run sampleEffectWorld =
          .ok sampleEffectState started ∧
        (mountEffectMetadata (sampleEffectCursor 0) .layout ⟨1⟩ .alwaysRun).run started =
          .ok (first, firstNext) between ∧
        (mountEffectMetadata (sampleEffectCursor 1) .passive ⟨2⟩ .alwaysRun).run between =
          .ok (second, secondNext) finished ∧
        (first.phase = .layout ∧ first.firesInLayout = true) ∧
        second.phase = .passive ∧ second.firesInLayout = false :=
    ⟨_, _, _, _, _, _, _, rfl, rfl, rfl, ⟨rfl, rfl⟩, rfl, rfl⟩
  have rendered : RendersEffects sampleEffectState started [first, second] finished :=
    .mount (sampleEffectCursor 1) _ _ _ _
      (.mount (sampleEffectCursor 0) _ _ _ _ .start rfl ranFirst) rfl ranSecond
  obtain ⟨queue, after, ran, agrees⟩ := effect_metadata_agrees_iff
    ⟨⟨0⟩, _, [], rfl⟩ prepared rendered .default
  refine ⟨started, first, second, finished, queue, after, prepared, rendered,
    ⟨isFirst.1, isSecond.1⟩, ran, agrees.mpr (.inr ?_)⟩
  simp [PickedFirst, isFirst.2]

/-- A passive effect that is mounted before a layout effect pushes the number of the layout
effect up at the commit. -/
theorem layout_effect_renumbered_at_commit :
    ∃ started first second finished queue after,
      (FunctionEffects.prepareRenderState ⟨0, 0⟩).run sampleEffectWorld =
        .ok sampleEffectState started ∧
      RendersEffects sampleEffectState started [first, second] finished ∧
      (commitEffectQueueForRenderState sampleEffectState .default).run finished =
        .ok queue after ∧
      ¬ MetadataAgrees sampleEffectState .default queue after := by
  refine ⟨_, _, _, _, _, _, rfl,
    .mount (sampleEffectCursor 1) _ .layout ⟨2⟩ .alwaysRun
      (.mount (sampleEffectCursor 0) _ .passive ⟨1⟩ .alwaysRun .start rfl rfl) rfl rfl, rfl, ?_⟩
  intro agrees
  have numbers := congrArg
    (fun listed => listed.toOption.map (List.map FunctionComponentLayoutEffectMetadata.effectIndex))
    agrees.1
  exact absurd numbers (by decide +kernel)

end Sample

end FastReact
