import FastReact.ActionRun
import FastReact.RootListeners
import Mathlib.Data.List.Count
import Mathlib.Data.List.Nodup

namespace FastReact

open List ListenerTarget RootListenerRecord RootListenerWorld

/-!
# Active roots keep their listeners

The key set of a target holds the keys of its listeners, each once, whatever is registered and
reverted. A registration always leaves the active roots their listeners. A revert does so exactly
when it installed nothing another active root needs and found that root's targets listening.
-/

/-- The listener is one for this event in this phase. -/
def InstalledListener.listensTo (installed : InstalledListener) (wanted : String × Bool) : Bool :=
  decide (installed.domEventName = wanted.1) && decide (installed.options.capture = wanted.2)

def InstalledListener.listenerSetKey (installed : InstalledListener) : String :=
  getListenerSetKey installed.domEventName installed.options.capture

namespace RootListenerRegistration

def Targets (registration : RootListenerRegistration) (target : EventTargetId) : Prop :=
  target = registration.rootContainerElement ∨ registration.ownerDocument = some target

/-- What the registration installs on a target that nobody has listened on. -/
def Needs (registration : RootListenerRegistration) (target : EventTargetId)
    (wanted : String × Bool) : Prop :=
  (target = registration.rootContainerElement ∧ wanted ∈ supportedListeners) ∨
    (registration.ownerDocument = some target ∧ wanted = ("selectionchange", false))

/-- It installed nothing the other one needs, and it found the other's targets marked. -/
structure Spares (registration other : RootListenerRegistration) : Prop where
  listeners : ∀ record ∈ registration.installedListeners,
    ¬ other.Needs record.target (record.domEventName, record.isCapturePhaseListener)
  markers : ∀ snapshot ∈ registration.targetSnapshots, other.Targets snapshot.target →
    snapshot.listeningMarker = some true

end RootListenerRegistration

namespace RootListenerWorld

structure KeepsListeners (world : RootListenerWorld) (registration : RootListenerRegistration) : Prop where
  listened : ∀ target wanted, registration.Needs target wanted →
    (world.targets target).registrations.countP (·.listensTo wanted) = 1
  keyed : ∀ target, registration.Targets target →
    (world.targets target).getEventListenerSet =
      (world.targets target).registrations.map InstalledListener.listenerSetKey
  marked : ∀ target, registration.Targets target →
    (world.targets target).listeningMarker = some true

def ActiveRootsKeepListeners (world : RootListenerWorld) : Prop :=
  ∀ (index : Nat) (registration : RootListenerRegistration),
    world.registrations[index]? = some registration → registration.active = true →
    world.KeepsListeners registration

def SparesActiveRoots (world : RootListenerWorld) : RootListenerCall → Prop
  | .register _ _ => True
  | .revert index => ∀ registration, world.registrations[index]? = some registration →
      registration.active = true →
      ∀ (otherIndex : Nat) (other : RootListenerRegistration), otherIndex ≠ index → world.registrations[otherIndex]? = some other →
        other.active = true → registration.Spares other

end RootListenerWorld

theorem getListenerSetKey_inj {name other : String} {capture otherCapture : Bool} :
    getListenerSetKey name capture = getListenerSetKey other otherCapture ↔
      name = other ∧ capture = otherCapture := by
  constructor
  · intro same
    have letters := congrArg String.toList same
    cases capture <;> cases otherCapture <;>
      simp [getListenerSetKey, String.toList_append] at letters
    · exact ⟨String.toList_inj.mp letters, rfl⟩
    · have reversed := congrArg List.reverse letters
      simp at reversed
    · have reversed := congrArg List.reverse letters
      simp at reversed
    · exact ⟨String.toList_inj.mp letters, rfl⟩
  · rintro ⟨rfl, rfl⟩
    rfl

variable {wanted : String × Bool}

theorem InstalledListener.listensTo_iff {installed : InstalledListener} :
    installed.listensTo wanted = true ↔
      installed.listenerSetKey = getListenerSetKey wanted.1 wanted.2 := by
  simp [listensTo, listenerSetKey, getListenerSetKey_inj]

theorem countP_listensTo_eq_one {registrations : List InstalledListener}
    (distinct : (registrations.map InstalledListener.listenerSetKey).Nodup)
    (present : getListenerSetKey wanted.1 wanted.2 ∈ registrations.map InstalledListener.listenerSetKey) :
    registrations.countP (·.listensTo wanted) = 1 := by
  have counted := count_eq_one_of_mem distinct present
  rw [List.count, countP_map] at counted
  rw [← counted]
  apply countP_congr
  intro installed _
  simp [InstalledListener.listensTo_iff]

theorem isKnownNativeEvent_of_mem {name : String} (known : name ∈ allNativeEvents) :
    isKnownNativeEvent name = true := by
  simpa [isKnownNativeEvent] using known

/-- Events and phases that a registration may ask for. -/
def Listenable (wanted : String × Bool) : Prop :=
  isKnownNativeEvent wanted.1 = true ∧ (isNonDelegatedEvent wanted.1 = true → wanted.2 = true)

theorem listenable_of_mem_supportedListeners
    (supported : wanted ∈ supportedListeners) : Listenable wanted := by
  obtain ⟨name, known, among⟩ := mem_flatMap.mp supported
  by_cases selection : name = "selectionchange"
  · simp [selection] at among
  · by_cases direct : isNonDelegatedEvent name = true
    · obtain rfl : wanted = (name, true) := by simpa [selection, direct] using among
      exact ⟨isKnownNativeEvent_of_mem known, fun _ => rfl⟩
    · have named : wanted.1 = name := by
        rcases (by simpa [selection, direct] using among : wanted = (name, false) ∨ wanted = (name, true))
          with rfl | rfl <;> rfl
      refine ⟨named ▸ isKnownNativeEvent_of_mem known, fun nonDelegated => ?_⟩
      exact absurd (named ▸ nonDelegated) direct

theorem listenable_selectionchange : Listenable ("selectionchange", false) := by
  constructor
  · exact isKnownNativeEvent_of_mem (by simp [allNativeEvents])
  · simp [isNonDelegatedEvent, nonDelegatedEvents, mediaEventTypes]

namespace RootListenerRecord

structure Sound (record : RootListenerRecord) : Prop where
  key : record.listenerSetKey = getListenerSetKey record.domEventName record.isCapturePhaseListener
  capture : record.listenerOptions.capture = record.isCapturePhaseListener

theorem Sound.installed_listenerSetKey {record : RootListenerRecord} (sound : record.Sound) :
    record.installed.listenerSetKey = record.listenerSetKey := by
  rw [sound.key, ← sound.capture]
  rfl

def on (records : List RootListenerRecord) (target : EventTargetId) : List RootListenerRecord :=
  records.filter fun record => record.target = target

@[simp]
theorem on_nil (target : EventTargetId) : on [] target = [] := rfl

@[simp]
theorem on_append (records more : List RootListenerRecord) (target : EventTargetId) :
    on (records ++ more) target = on records target ++ on more target := by
  simp [on]

end RootListenerRecord

theorem getAddEventListenerOptions_capture (name : String) (capture passive : Bool) :
    (getAddEventListenerOptions name capture passive).capture = capture := by
  rw [getAddEventListenerOptions]
  split <;> rfl

namespace RootListenerWorld

variable {world later last : RootListenerWorld} {records more : List RootListenerRecord}
variable {target : EventTargetId} {passive : Bool}
variable {registration other : RootListenerRegistration} {index otherIndex : Nat}

def Listening (world : RootListenerWorld) (target : EventTargetId) (wanted : String × Bool) : Prop :=
  getListenerSetKey wanted.1 wanted.2 ∈ (world.targets target).getEventListenerSet

/-- The records were added to their targets under new keys, and nothing was taken away. -/
structure Installs (world later : RootListenerWorld) (records : List RootListenerRecord) : Prop where
  registrations : later.registrations = world.registrations
  listeners : ∀ target, (later.targets target).registrations =
    (world.targets target).registrations ++ (RootListenerRecord.on records target).map (·.installed)
  keys : ∀ target, (later.targets target).getEventListenerSet =
    (world.targets target).getEventListenerSet ++ (RootListenerRecord.on records target).map (·.listenerSetKey)
  fresh : ∀ target, (world.targets target).getEventListenerSet.Nodup →
    (later.targets target).getEventListenerSet.Nodup
  sound : ∀ record ∈ records, record.Sound
  marked : ∀ target, (world.targets target).listeningMarker = some true →
    (later.targets target).listeningMarker = some true

namespace Installs

theorem refl (world : RootListenerWorld) : world.Installs world [] where
  registrations := rfl
  listeners := by simp
  keys := by simp
  fresh := fun _ distinct => distinct
  sound := by simp
  marked := fun _ marked => marked

theorem trans (first : world.Installs later records) (second : later.Installs last more) :
    world.Installs last (records ++ more) where
  registrations := second.registrations.trans first.registrations
  listeners := fun target => by simp [second.listeners target, first.listeners target]
  keys := fun target => by simp [second.keys target, first.keys target]
  fresh := fun target distinct => second.fresh target (first.fresh target distinct)
  sound := fun record among => (mem_append.mp among).elim (first.sound record) (second.sound record)
  marked := fun target marked => second.marked target (first.marked target marked)

theorem withRegistration (installs : world.Installs later records) (registration : RootListenerRegistration) :
    { world with registrations := world.registrations ++ [registration] }.Installs
      { later with registrations := later.registrations ++ [registration] } records where
  registrations := by rw [installs.registrations]
  listeners := installs.listeners
  keys := installs.keys
  fresh := installs.fresh
  sound := installs.sound
  marked := installs.marked

theorem listening {wanted : String × Bool} (installs : world.Installs later records)
    (listening : world.Listening target wanted) : later.Listening target wanted := by
  rw [Listening, installs.keys target]
  exact mem_append_left _ listening

end Installs

section

variable (world : RootListenerWorld) (target : EventTargetId)

theorem markTargetAsListening_installs :
    world.Installs (world.markTargetAsListening target) [] := by
  constructor <;> intros <;>
    simp_all [markTargetAsListening, changeTarget, markAsListening, getEventListenerSet] <;>
    split <;> simp_all

theorem markTargetAsListening_marked :
    ((world.markTargetAsListening target).targets target).listeningMarker = some true := by
  simp [markTargetAsListening, changeTarget, markAsListening]

theorem withEventListenerSet_installs :
    world.Installs
      (world.changeTarget target (·.withEventListenerSet (world.targets target).getEventListenerSet)) [] := by
  constructor <;> intros <;>
    simp_all [changeTarget, withEventListenerSet, getEventListenerSet] <;>
    split <;> simp_all

end

theorem addTrappedEventListenerRecord_installs {record : RootListenerRecord} (sound : record.Sound)
    (new : record.listenerSetKey ∉ (world.targets record.target).getEventListenerSet) :
    world.Installs (world.addTrappedEventListenerRecord record) [record] where
  registrations := rfl
  listeners := fun target => by
    by_cases same : target = record.target
    · simp [addTrappedEventListenerRecord, changeTarget, on, same,
        addEventListener, withEventListenerSet]
    · simp [addTrappedEventListenerRecord, changeTarget, on, same, Ne.symm same]
  keys := fun target => by
    by_cases same : target = record.target
    · simp [addTrappedEventListenerRecord, changeTarget, on, same,
        getEventListenerSet, withEventListenerSet]
    · simp [addTrappedEventListenerRecord, changeTarget, on, same, Ne.symm same]
  fresh := fun target distinct => by
    by_cases same : target = record.target
    · subst same
      simp [addTrappedEventListenerRecord, changeTarget, withEventListenerSet, getEventListenerSet]
      exact nodup_append.mpr ⟨distinct, by simp, by
        intro key among other isNew
        simp at isNew
        rintro rfl
        exact new (isNew ▸ among)⟩
    · simpa [addTrappedEventListenerRecord, changeTarget, same] using distinct
  sound := by simpa using sound
  marked := fun target marked => by
    by_cases same : target = record.target
    · subst same
      simpa [addTrappedEventListenerRecord, changeTarget, addEventListener,
        withEventListenerSet] using marked
    · simpa [addTrappedEventListenerRecord, changeTarget, same] using marked

theorem listenToNativeEventRecord_installs {wanted : String × Bool}
    (listenable : Listenable wanted) :
    ∃ record later,
      listenToNativeEventRecord wanted.1 wanted.2 target passive world = .ok (record, later) ∧
        world.Installs later record.toList ∧ later.Listening target wanted ∧
        ∀ created, record = some created →
          created.target = target ∧ (created.domEventName, created.isCapturePhaseListener) = wanted := by
  have permitted : (isNonDelegatedEvent wanted.1 && !wanted.2) = false := by
    cases direct : isNonDelegatedEvent wanted.1 with
    | false => rfl
    | true => simp [listenable.2 direct]
  simp only [listenToNativeEventRecord, listenable.1, permitted, Bool.not_true, Bool.false_eq_true,
    if_false]
  split
  case isTrue present =>
    refine ⟨none, _, rfl, withEventListenerSet_installs world target, ?_, by simp⟩
    simpa [Listening, changeTarget, withEventListenerSet, getEventListenerSet] using present
  case isFalse absent =>
    refine ⟨some _, _, rfl, addTrappedEventListenerRecord_installs ?_ ?_, ?_, ?_⟩
    · exact ⟨rfl, getAddEventListenerOptions_capture ..⟩
    · simpa [createListenerRecord] using absent
    · simp [Listening, addTrappedEventListenerRecord, changeTarget, createListenerRecord,
        withEventListenerSet, getEventListenerSet]
    · rintro created ⟨⟩
      exact ⟨rfl, rfl⟩

theorem listenToEach_installs {wanted : List (String × Bool)} (installed : List RootListenerRecord)
    (world : RootListenerWorld) (listenable : ∀ one ∈ wanted, Listenable one) :
    ∃ records later,
      listenToEach target passive wanted installed world = (none, installed ++ records, later) ∧
        world.Installs later records ∧ (∀ one ∈ wanted, later.Listening target one) ∧
        ∀ record ∈ records, record.target = target ∧
          (record.domEventName, record.isCapturePhaseListener) ∈ wanted := by
  induction wanted generalizing installed world with
  | nil => exact ⟨[], world, by simp [listenToEach], .refl world, by simp, by simp⟩
  | cons one rest ih =>
    obtain ⟨record, middle, listened, installs, listening, onTarget⟩ :=
      @listenToNativeEventRecord_installs world target passive one (listenable one mem_cons_self)
    obtain ⟨records, later, looped, installsRest, listeningRest, onTargetRest⟩ :=
      ih (installed ++ record.toList) middle
        (fun other among => listenable other (mem_cons_of_mem _ among))
    refine ⟨record.toList ++ records, later, ?_, installs.trans installsRest, ?_, ?_⟩
    · rw [listenToEach, listened, ← append_assoc]
      exact looped
    · intro other among
      rcases mem_cons.mp among with rfl | among
      · exact installsRest.listening listening
      · exact listeningRest other among
    · intro other among
      rcases mem_append.mp among with among | among
      · obtain ⟨same, isOne⟩ := onTarget other (by simpa using among)
        exact ⟨same, isOne ▸ mem_cons_self⟩
      · exact (onTargetRest other among).imp_right (mem_cons_of_mem _)

/-- The records that a registration makes are those it needs, and all it needs is listened to. -/
theorem installRootListeners_installs (container : EventTargetId)
    (ownerDocument : Option EventTargetId) (world : RootListenerWorld) :
    ∃ records later,
      world.installRootListeners container ownerDocument passive = (none, records, later) ∧
        world.Installs later records ∧
        ∀ registration : RootListenerRegistration,
          registration.rootContainerElement = container → registration.ownerDocument = ownerDocument →
          (∀ target wanted, registration.Needs target wanted → later.Listening target wanted) ∧
          (∀ target, registration.Targets target → (later.targets target).listeningMarker = some true) ∧
          ∀ record ∈ records,
            registration.Needs record.target (record.domEventName, record.isCapturePhaseListener) := by
  obtain ⟨first, middle, looped, installs, listening, needed⟩ :=
    @listenToEach_installs container passive supportedListeners [] (world.markTargetAsListening container)
      fun _ => listenable_of_mem_supportedListeners
  have installsFirst := (markTargetAsListening_installs world container).trans installs
  have markedFirst := installs.marked container (markTargetAsListening_marked world container)
  cases ownerDocument with
  | none =>
    refine ⟨first, middle, by simp [installRootListeners, looped], installsFirst, ?_⟩
    rintro registration rfl noDocument
    refine ⟨?_, ?_, fun record among => .inl (needed record among)⟩
    · rintro target wanted (⟨rfl, supported⟩ | ⟨isDocument, _⟩)
      · exact listening wanted supported
      · simp [noDocument] at isDocument
    · rintro target (rfl | isDocument)
      · exact markedFirst
      · simp [noDocument] at isDocument
  | some document =>
    obtain ⟨second, last, loopedDocument, installsDocument, listeningDocument, neededDocument⟩ :=
      @listenToEach_installs document passive [("selectionchange", false)] first
        (middle.markTargetAsListening document) (by simpa using listenable_selectionchange)
    have installsSecond := (markTargetAsListening_installs middle document).trans installsDocument
    refine ⟨first ++ second, last, ?_, installsFirst.trans installsSecond, ?_⟩
    · simpa [installRootListeners, looped] using loopedDocument
    rintro registration rfl isOwner
    refine ⟨?_, ?_, ?_⟩
    · rintro target wanted (⟨rfl, supported⟩ | ⟨isDocument, rfl⟩)
      · exact installsSecond.listening (listening wanted supported)
      · obtain rfl : document = target := by simpa [isOwner] using isDocument
        exact listeningDocument _ (by simp)
    · rintro target (rfl | isDocument)
      · exact installsSecond.marked _ markedFirst
      · obtain rfl : document = target := by simpa [isOwner] using isDocument
        exact installsDocument.marked _ (markTargetAsListening_marked middle document)
    · intro record among
      rcases mem_append.mp among with among | among
      · exact .inl (needed record among)
      · obtain ⟨onDocument, isSelection⟩ := neededDocument record among
        exact .inr ⟨by rw [isOwner, onDocument], by simpa using isSelection⟩

/-- What a registration that was not refused left behind. -/
structure Registers (world later : RootListenerWorld)
    (registration : RootListenerRegistration) : Prop where
  active : registration.active = true
  installs : { world with registrations := world.registrations ++ [registration] }.Installs later
    registration.installedListeners
  listening : ∀ target wanted, registration.Needs target wanted → later.Listening target wanted
  marked : ∀ target, registration.Targets target → (later.targets target).listeningMarker = some true
  needed : ∀ record ∈ registration.installedListeners,
    registration.Needs record.target (record.domEventName, record.isCapturePhaseListener)
  snapshots : ∀ snapshot ∈ registration.targetSnapshots,
    snapshot.listeningMarker = (world.targets snapshot.target).listeningMarker
  distinct : (registration.targetSnapshots.map (·.target)).Nodup
  snapshotted : ∀ target, target ∈ registration.targetSnapshots.map (·.target) ↔ registration.Targets target

theorem uniqueTargets_nodup (container : EventTargetObject) (ownerDocument : Option EventTargetObject) :
    ((uniqueTargets container ownerDocument).map (·.target)).Nodup := by
  cases ownerDocument with
  | none => simp [uniqueTargets]
  | some document =>
    by_cases same : document.target = container.target
    · simp [uniqueTargets, same]
    · simp [uniqueTargets, same, Ne.symm same]

theorem mem_uniqueTargets {container : EventTargetObject}
    {ownerDocument : Option EventTargetObject} :
    target ∈ (uniqueTargets container ownerDocument).map (·.target) ↔
      target = container.target ∨ ownerDocument.map (·.target) = some target := by
  cases ownerDocument with
  | none => simp [uniqueTargets]
  | some document =>
    by_cases same : document.target = container.target
    · simp [uniqueTargets, same, eq_comm]
    · simp [uniqueTargets, same, eq_comm]

theorem registerRootListenersForPrivateRoot_registers {container : RootContainer}
    (world : RootListenerWorld) (passive : Bool)
    (adds : (uniqueTargets container.toEventTargetObject (getOwnerDocument container)).all (·.hasAddEventListener))
    (removes :
      (uniqueTargets container.toEventTargetObject (getOwnerDocument container)).all (·.hasRemoveEventListener)) :
    ∃ later registration,
      world.registerRootListenersForPrivateRoot container passive = (none, later) ∧
        registration.rootContainerElement = container.target ∧
        registration.ownerDocument = (getOwnerDocument container).map (·.target) ∧
        world.Registers later registration := by
  obtain ⟨records, later, installed, installs, leaves⟩ :=
    @installRootListeners_installs passive container.target ((getOwnerDocument container).map (·.target)) world
  let registration : RootListenerRegistration :=
    { active := true
      installedListeners := records
      ownerDocument := (getOwnerDocument container).map (·.target)
      rootContainerElement := container.target
      targetSnapshots := (uniqueTargets container.toEventTargetObject (getOwnerDocument container)).map
        fun target => world.snapshotListenerTarget target.target }
  obtain ⟨listening, marked, needed⟩ := leaves registration rfl rfl
  have snapshotTargets : registration.targetSnapshots.map (·.target) =
      (uniqueTargets container.toEventTargetObject (getOwnerDocument container)).map (·.target) := by
    simp [registration, snapshotListenerTarget]
  refine ⟨{ later with registrations := later.registrations ++ [registration] }, registration, ?_, rfl, rfl, ?_⟩
  · simp only [registerRootListenersForPrivateRoot, adds, removes, Bool.not_true, Bool.false_eq_true,
      if_false, installed, registration]
  exact {
    active := rfl
    installs := installs.withRegistration registration
    listening := listening
    marked := marked
    needed := needed
    snapshots := by
      intro snapshot among
      obtain ⟨target, _, rfl⟩ := mem_map.mp among
      rfl
    distinct := snapshotTargets ▸ uniqueTargets_nodup _ _
    snapshotted := fun target => by
      rw [snapshotTargets]
      exact mem_uniqueTargets }

theorem registerRootListenersForPrivateRoot_cases (world : RootListenerWorld)
    (container : RootContainer) (passive : Bool) :
    (∃ error, world.registerRootListenersForPrivateRoot container passive = (some error, world)) ∨
      ∃ later registration,
        world.registerRootListenersForPrivateRoot container passive = (none, later) ∧
          registration.rootContainerElement = container.target ∧
          registration.ownerDocument = (getOwnerDocument container).map (·.target) ∧
          world.Registers later registration := by
  by_cases adds : (uniqueTargets container.toEventTargetObject (getOwnerDocument container)).all
      (·.hasAddEventListener)
  · by_cases removes : (uniqueTargets container.toEventTargetObject (getOwnerDocument container)).all
        (·.hasRemoveEventListener)
    · exact .inr (registerRootListenersForPrivateRoot_registers world passive adds removes)
    · exact .inl ⟨.listenerRevertUnsupported, by simp [registerRootListenersForPrivateRoot, adds, removes]⟩
  · exact .inl ⟨.invalidEventTarget, by simp [registerRootListenersForPrivateRoot, adds]⟩

/-- The listeners of a target that none of the records on it stands for. -/
def unclaimed (records : List RootListenerRecord) (target : EventTargetId) (installed : InstalledListener) : Bool :=
  records.all fun record => !(decide (record.target = target) &&
    (decide (installed.domEventName = record.installed.domEventName) &&
      decide (installed.listener = record.installed.listener) &&
      decide (installed.options.capture = record.installed.options.capture)))

def unclaimedKey (records : List RootListenerRecord) (target : EventTargetId) (key : String) : Bool :=
  records.all fun record => !(decide (record.target = target) && decide (key = record.listenerSetKey))

theorem removeInstalledListeners_registrations (world : RootListenerWorld) (records : List RootListenerRecord) :
    (records.foldl removeInstalledListener world).registrations = world.registrations := by
  induction records generalizing world with
  | nil => rfl
  | cons record rest ih => exact ih _

def withoutRecords (records : List RootListenerRecord) (target : EventTargetId)
    (listened : ListenerTarget) : ListenerTarget :=
  { listened with
    registrations := listened.registrations.filter (unclaimed records target)
    eventHandlers := listened.eventHandlers.map (·.filter (unclaimedKey records target)) }

theorem withoutRecords_getEventListenerSet (listened : ListenerTarget) :
    (withoutRecords records target listened).getEventListenerSet =
      listened.getEventListenerSet.filter (unclaimedKey records target) := by
  cases handlers : listened.eventHandlers <;> simp [withoutRecords, getEventListenerSet, handlers]

section

variable (world : RootListenerWorld)

theorem removeInstalledListener_targets (record : RootListenerRecord) (target : EventTargetId) :
    (world.removeInstalledListener record).targets target =
      withoutRecords [record] target (world.targets target) := by
  delta withoutRecords unclaimed unclaimedKey
  by_cases same : target = record.target
  · simp [removeInstalledListener, changeTarget, removeEventListener, same]
  · simp [removeInstalledListener, changeTarget, same, Ne.symm same]

theorem removeInstalledListeners_targets
    (records : List RootListenerRecord) (target : EventTargetId) :
    (records.foldl removeInstalledListener world).targets target =
      withoutRecords records target (world.targets target) := by
  induction records generalizing world with
  | nil =>
    delta withoutRecords unclaimed unclaimedKey
    simp
  | cons record rest ih =>
    rw [foldl_cons, ih, removeInstalledListener_targets]
    delta withoutRecords unclaimed unclaimedKey
    simp [filter_filter, Bool.and_comm, Function.comp_def]

variable (snapshots : List ListenerTargetSnapshot)

theorem restoreTargets_registrations :
    (snapshots.foldl restoreTarget world).registrations = world.registrations := by
  induction snapshots generalizing world with
  | nil => rfl
  | cons snapshot rest ih => exact ih _

theorem restoreTargets_targets (target : EventTargetId) :
    ((snapshots.foldl restoreTarget world).targets target).registrations = (world.targets target).registrations ∧
      ((snapshots.foldl restoreTarget world).targets target).getEventListenerSet =
        (world.targets target).getEventListenerSet := by
  induction snapshots generalizing world with
  | nil => exact ⟨rfl, rfl⟩
  | cons snapshot rest ih =>
    rw [foldl_cons, (ih _).1, (ih _).2]
    by_cases same : target = snapshot.target
    · simp only [restoreTarget, changeTarget, same, if_true, getEventListenerSet, true_and]
      split
      · next emptied =>
        obtain ⟨_, isEmpty⟩ : snapshot.hadEventHandlersKey = false ∧
          (world.targets snapshot.target).eventHandlers = some [] := by simpa using emptied
        simp [isEmpty]
      · rfl
    · simp [restoreTarget, changeTarget, same]

end

variable {snapshots : List ListenerTargetSnapshot}

theorem restoreTargets_of_not_mem
    (world : RootListenerWorld) (apart : target ∉ snapshots.map (·.target)) :
    (snapshots.foldl restoreTarget world).targets target = world.targets target := by
  induction snapshots generalizing world with
  | nil => rfl
  | cons snapshot rest ih =>
    obtain ⟨other, apartRest⟩ : target ≠ snapshot.target ∧ target ∉ rest.map (·.target) := by
      simpa using apart
    rw [foldl_cons, ih _ apartRest]
    simp [restoreTarget, changeTarget, other]

theorem restoreTargets_of_mem {snapshot : ListenerTargetSnapshot} (world : RootListenerWorld)
    (distinct : (snapshots.map (·.target)).Nodup) (among : snapshot ∈ snapshots) :
    (snapshots.foldl restoreTarget world).targets snapshot.target =
      (world.restoreTarget snapshot).targets snapshot.target := by
  induction snapshots generalizing world with
  | nil => simp at among
  | cons first rest ih =>
    obtain ⟨apart, distinctRest⟩ := nodup_cons.mp (map_cons ▸ distinct)
    rcases mem_cons.mp among with rfl | among
    · rw [foldl_cons, restoreTargets_of_not_mem _ apart]
    · have other : snapshot.target ≠ first.target := by
        rintro same
        exact apart (same ▸ mem_map_of_mem among)
      rw [foldl_cons, ih _ distinctRest among]
      simp [restoreTarget, changeTarget, other]

structure Consistent (world : RootListenerWorld) : Prop where
  keyed : ∀ target, (world.targets target).getEventListenerSet =
    (world.targets target).registrations.map InstalledListener.listenerSetKey
  distinct : ∀ target, (world.targets target).getEventListenerSet.Nodup
  owned : ∀ (index : Nat) (registration : RootListenerRegistration),
    world.registrations[index]? = some registration → registration.active = true →
    ∀ record ∈ registration.installedListeners,
      record.Sound ∧ record.installed ∈ (world.targets record.target).registrations
  apart : ∀ (index otherIndex : Nat) (registration other : RootListenerRegistration),
    world.registrations[index]? = some registration → world.registrations[otherIndex]? = some other →
    index ≠ otherIndex → registration.active = true → other.active = true →
    ∀ record ∈ registration.installedListeners, ∀ otherRecord ∈ other.installedListeners,
      otherRecord.target = record.target → otherRecord.listenerSetKey ≠ record.listenerSetKey
  snapshots : ∀ (index : Nat) (registration : RootListenerRegistration),
    world.registrations[index]? = some registration → registration.active = true →
    (registration.targetSnapshots.map (·.target)).Nodup

theorem Consistent.new : Consistent .new where
  keyed := by simp [RootListenerWorld.new, ListenerTarget.new, ListenerTarget.getEventListenerSet]
  distinct := by simp [RootListenerWorld.new, ListenerTarget.new, ListenerTarget.getEventListenerSet]
  owned := by simp [RootListenerWorld.new]
  apart := by simp [RootListenerWorld.new]
  snapshots := by simp [RootListenerWorld.new]

namespace Consistent

theorem countP_eq_one {wanted : String × Bool} (consistent : world.Consistent)
    (listening : world.Listening target wanted) :
    (world.targets target).registrations.countP (·.listensTo wanted) = 1 := by
  apply countP_listensTo_eq_one
  · rw [← consistent.keyed target]
    exact consistent.distinct target
  · rw [← consistent.keyed target]
    exact listening

section

variable (consistent : world.Consistent) (found : world.registrations[index]? = some registration)
  (active : registration.active = true)
include consistent found active

theorem key_mem {record : RootListenerRecord} (among : record ∈ registration.installedListeners) :
    record.listenerSetKey ∈ (world.targets record.target).getEventListenerSet := by
  obtain ⟨sound, present⟩ := consistent.owned index registration found active record among
  rw [consistent.keyed, ← sound.installed_listenerSetKey]
  exact mem_map_of_mem present

/-- A record claims the listener whose key it has, as keys are distinct. -/
theorem unclaimed_iff {installed : InstalledListener}
    (present : installed ∈ (world.targets target).registrations) :
    unclaimed registration.installedListeners.reverse target installed =
      unclaimedKey registration.installedListeners.reverse target installed.listenerSetKey := by
  rw [Bool.eq_iff_iff]
  simp only [unclaimed, unclaimedKey, all_eq_true, mem_reverse]
  apply forall₂_congr
  intro record among
  obtain ⟨sound, recordPresent⟩ := consistent.owned index registration found active record among
  by_cases onTarget : record.target = target
  · subst onTarget
    have sameListener : installed.listenerSetKey = record.listenerSetKey → installed = record.installed := by
      intro sameKey
      have distinct := consistent.distinct record.target
      rw [consistent.keyed] at distinct
      exact inj_on_of_nodup_map distinct present recordPresent
        (sameKey.trans sound.installed_listenerSetKey.symm)
    have sameKey : installed.domEventName = record.installed.domEventName →
        installed.options.capture = record.installed.options.capture →
        installed.listenerSetKey = record.listenerSetKey := by
      intro sameEvent samePhase
      rw [← sound.installed_listenerSetKey, InstalledListener.listenerSetKey, sameEvent, samePhase]
      rfl
    by_cases same : installed.listenerSetKey = record.listenerSetKey
    · simp [sameListener same, sound.installed_listenerSetKey]
    · simp only [same, decide_false, Bool.and_false, Bool.not_false, iff_true]
      by_cases sameEvent : installed.domEventName = record.installed.domEventName
      · by_cases samePhase : installed.options.capture = record.installed.options.capture
        · exact absurd (sameKey sameEvent samePhase) same
        · simp [samePhase]
      · simp [sameEvent]
  · simp [onTarget]

end

end Consistent

/-- What a revert of an active registration leaves behind. -/
structure Reverts (world later : RootListenerWorld) (index : Nat)
    (registration : RootListenerRegistration) : Prop where
  registrations : later.registrations = world.registrations.set index { registration with active := false }
  listeners : ∀ target, (later.targets target).registrations = (world.targets target).registrations.filter
    fun installed => unclaimedKey registration.installedListeners.reverse target installed.listenerSetKey
  keys : ∀ target, (later.targets target).getEventListenerSet =
    (world.targets target).getEventListenerSet.filter
      (unclaimedKey registration.installedListeners.reverse target)
  restored : ∀ snapshot ∈ registration.targetSnapshots,
    (later.targets snapshot.target).listeningMarker = snapshot.listeningMarker
  untouched : ∀ target, target ∉ registration.targetSnapshots.map (·.target) →
    (later.targets target).listeningMarker = (world.targets target).listeningMarker

theorem revertRootListenersForPrivateRoot_reverts (consistent : world.Consistent)
    (found : world.registrations[index]? = some registration)
    (active : registration.active = true) :
    ∃ later, world.revertRootListenersForPrivateRoot index = (none, later) ∧
      world.Reverts later index registration := by
  let cleaned := world.cleanupInstalledRootListeners registration.installedListeners
    registration.targetSnapshots
  refine ⟨{ cleaned with
    registrations := cleaned.registrations.set index { registration with active := false } }, ?_, ?_⟩
  · simp [revertRootListenersForPrivateRoot, found, active, cleaned]
  have distinct := consistent.snapshots index registration found active
  constructor
  · simp only [cleaned, cleanupInstalledRootListeners, restoreTargets_registrations,
      removeInstalledListeners_registrations]
  · intro target
    simp only [cleaned, cleanupInstalledRootListeners, (restoreTargets_targets _ _ target).1,
      removeInstalledListeners_targets]
    exact filter_congr fun installed present => consistent.unclaimed_iff found active present
  · intro target
    simp only [cleaned, cleanupInstalledRootListeners, (restoreTargets_targets _ _ target).2,
      removeInstalledListeners_targets, withoutRecords_getEventListenerSet]
  · intro snapshot among
    simp [cleaned, cleanupInstalledRootListeners, restoreTargets_of_mem _ distinct among, restoreTarget,
      changeTarget]
  · intro target apart
    simp only [cleaned, cleanupInstalledRootListeners, restoreTargets_of_not_mem _ apart,
      removeInstalledListeners_targets, withoutRecords]

theorem revertRootListenersForPrivateRoot_of_not_active
    (inactive : ∀ registration, world.registrations[index]? = some registration →
      registration.active = false) : (world.revertRootListenersForPrivateRoot index).2 = world := by
  rw [revertRootListenersForPrivateRoot]
  cases found : world.registrations[index]? with
  | none => rfl
  | some registration => simp [inactive registration found]

theorem unclaimedKey_iff {key : String} :
    unclaimedKey registration.installedListeners.reverse target key = true ↔
      ∀ record ∈ registration.installedListeners, record.target = target → key ≠ record.listenerSetKey := by
  simp [unclaimedKey, ← not_and_or]

theorem Consistent.register (consistent : world.Consistent)
    (registers : world.Registers later registration) : later.Consistent := by
  have installs := registers.installs
  have known := installs.registrations
  have kept : ∀ target, ∀ installed ∈ (world.targets target).registrations,
      installed ∈ (later.targets target).registrations := by
    intro target installed present
    rw [installs.listeners target]
    exact mem_append_left _ present
  have foundCases : ∀ (index : Nat) (found : RootListenerRegistration),
      later.registrations[index]? = some found →
      world.registrations[index]? = some found ∨ (index = world.registrations.length ∧ found = registration) := by
    intro index found isFound
    rw [known] at isFound
    rcases Nat.lt_or_ge index world.registrations.length with within | beyond
    · left
      simpa [getElem?_append_left within] using isFound
    · right
      rw [getElem?_append_right beyond] at isFound
      have atEnd : index - world.registrations.length = 0 := by
        by_contra further
        simp [further] at isFound
      simp [atEnd] at isFound
      exact ⟨by omega, isFound.symm⟩
  have newKeys : ∀ record ∈ registration.installedListeners,
      record.listenerSetKey ∉ (world.targets record.target).getEventListenerSet := by
    intro record among old
    have distinct := installs.fresh record.target (consistent.distinct record.target)
    rw [installs.keys record.target] at distinct
    refine (disjoint_of_nodup_append distinct) old ?_
    exact mem_map_of_mem (by simpa [on] using among)
  constructor
  · intro target
    rw [installs.keys target, installs.listeners target, map_append]
    refine congrArg₂ _ (consistent.keyed target) ?_
    rw [map_map]
    apply map_congr_left
    intro record among
    exact (installs.sound record (mem_of_mem_filter among)).installed_listenerSetKey.symm
  · exact fun target => installs.fresh target (consistent.distinct target)
  · intro index found isFound active record among
    rcases foundCases index found isFound with old | ⟨_, rfl⟩
    · obtain ⟨sound, present⟩ := consistent.owned index found old active record among
      exact ⟨sound, kept _ _ present⟩
    · refine ⟨installs.sound record among, ?_⟩
      rw [installs.listeners record.target]
      exact mem_append_right _ (mem_map_of_mem (by simpa [on] using among))
  · intro index otherIndex found other isFound isOther differ active otherActive record among
      otherRecord otherAmong sameTarget sameKey
    rcases foundCases index found isFound with old | ⟨atEnd, rfl⟩
    · rcases foundCases otherIndex other isOther with otherOld | ⟨_, rfl⟩
      · exact consistent.apart index otherIndex found other old otherOld differ active otherActive
          record among otherRecord otherAmong sameTarget sameKey
      · refine newKeys otherRecord otherAmong ?_
        rw [sameTarget, sameKey]
        exact consistent.key_mem old active among
    · rcases foundCases otherIndex other isOther with otherOld | ⟨otherAtEnd, _⟩
      · refine newKeys record among ?_
        rw [← sameTarget, ← sameKey]
        exact consistent.key_mem otherOld otherActive otherAmong
      · exact differ (atEnd.trans otherAtEnd.symm)
  · intro index found isFound active
    rcases foundCases index found isFound with old | ⟨_, rfl⟩
    · exact consistent.snapshots index found old active
    · exact registers.distinct

theorem Reverts.found_iff (reverts : world.Reverts later index registration)
    (otherActive : other.active = true) :
    later.registrations[otherIndex]? = some other ↔
      otherIndex ≠ index ∧ world.registrations[otherIndex]? = some other := by
  rw [reverts.registrations, getElem?_set]
  by_cases same : index = otherIndex
  · subst same
    simp only [if_true, ne_eq, not_true_eq_false, false_and, iff_false]
    split
    · rintro ⟨⟩
      simp at otherActive
    · simp
  · simp [same, Ne.symm same]

theorem Consistent.revert (consistent : world.Consistent)
    (found : world.registrations[index]? = some registration) (active : registration.active = true)
    (reverts : world.Reverts later index registration) : later.Consistent := by
  constructor
  · intro target
    rw [reverts.keys, reverts.listeners, consistent.keyed, filter_map]
    rfl
  · intro target
    rw [reverts.keys]
    exact (consistent.distinct target).filter _
  · intro otherIndex other isOther otherActive record among
    obtain ⟨differ, otherFound⟩ := (reverts.found_iff otherActive).mp isOther
    obtain ⟨sound, present⟩ := consistent.owned otherIndex other otherFound otherActive record among
    refine ⟨sound, ?_⟩
    rw [reverts.listeners, mem_filter]
    refine ⟨present, ?_⟩
    rw [sound.installed_listenerSetKey, unclaimedKey_iff]
    intro claiming claims sameTarget
    exact consistent.apart index otherIndex registration other found otherFound differ.symm active otherActive
      claiming claims record among sameTarget.symm
  · intro firstIndex secondIndex first second isFirst isSecond differ firstActive secondActive
    exact consistent.apart firstIndex secondIndex first second
      ((reverts.found_iff firstActive).mp isFirst).2 ((reverts.found_iff secondActive).mp isSecond).2
      differ firstActive secondActive
  · intro otherIndex other isOther otherActive
    exact consistent.snapshots otherIndex other ((reverts.found_iff otherActive).mp isOther).2 otherActive

theorem Consistent.perform (call : RootListenerCall)
    (consistent : world.Consistent) : (world.perform call).Consistent := by
  cases call with
  | register container passive =>
    rcases registerRootListenersForPrivateRoot_cases world container passive with
      ⟨error, refused⟩ | ⟨later, registration, registered, _, _, registers⟩
    · simpa [RootListenerWorld.perform, refused] using consistent
    · simpa [RootListenerWorld.perform, registered] using consistent.register registers
  | revert index =>
    by_cases active : ∃ registration, world.registrations[index]? = some registration ∧ registration.active = true
    · obtain ⟨registration, found, active⟩ := active
      obtain ⟨later, reverted, reverts⟩ := revertRootListenersForPrivateRoot_reverts consistent found active
      simpa [RootListenerWorld.perform, reverted] using consistent.revert found active reverts
    · have unchanged : (world.revertRootListenersForPrivateRoot index).2 = world :=
        revertRootListenersForPrivateRoot_of_not_active fun registration found => by
          simpa using fun isActive => active ⟨registration, found, isActive⟩
      simpa [RootListenerWorld.perform, unchanged] using consistent

section

variable (consistent : world.Consistent)
include consistent

theorem KeepsListeners.listening {wanted : String × Bool}
    (keeps : world.KeepsListeners registration)
    (needs : registration.Needs target wanted) : world.Listening target wanted := by
  have once := keeps.listened target wanted needs
  obtain ⟨installed, present, listens⟩ := countP_pos_iff.mp (once ▸ Nat.one_pos)
  rw [Listening, consistent.keyed, ← InstalledListener.listensTo_iff.mp listens]
  exact mem_map_of_mem present

theorem ActiveRootsKeepListeners.register (keep : world.ActiveRootsKeepListeners)
    (registers : world.Registers later registration) : later.ActiveRootsKeepListeners := by
  have consistentLater := consistent.register registers
  intro index found isFound active
  rw [registers.installs.registrations] at isFound
  rcases mem_append.mp (mem_of_getElem? isFound) with old | isNew
  · obtain ⟨oldIndex, oldFound⟩ := mem_iff_getElem?.mp old
    have keeps := keep oldIndex found oldFound active
    exact {
      listened := fun target wanted needs => by
        have listening : world.Listening target wanted := keeps.listening consistent needs
        exact consistentLater.countP_eq_one (registers.installs.listening listening)
      keyed := fun target _ => consistentLater.keyed target
      marked := fun target targets => registers.installs.marked target (keeps.marked target targets) }
  · obtain rfl : found = registration := by simpa using isNew
    exact {
      listened := fun target wanted needs => consistentLater.countP_eq_one (registers.listening target wanted needs)
      keyed := fun target _ => consistentLater.keyed target
      marked := registers.marked }

theorem keepsListeners_revert_iff
    (found : world.registrations[index]? = some registration) (active : registration.active = true)
    (reverts : world.Reverts later index registration) (keeps : world.KeepsListeners other) :
    later.KeepsListeners other ↔ registration.Spares other := by
  have consistentLater := consistent.revert found active reverts
  constructor
  · intro keepsLater
    constructor
    · intro record among needs
      have sound := (consistent.owned index registration found active record among).1
      have listening := keepsLater.listening consistentLater needs
      rw [Listening, reverts.keys, mem_filter, unclaimedKey_iff] at listening
      exact listening.2 record among rfl sound.key.symm
    · intro snapshot among targets
      rw [← reverts.restored snapshot among]
      exact keepsLater.marked _ targets
  · intro spares
    constructor
    · intro target wanted needs
      refine consistentLater.countP_eq_one ?_
      rw [Listening, reverts.keys, mem_filter, unclaimedKey_iff]
      refine ⟨keeps.listening consistent needs, ?_⟩
      rintro record among rfl sameKey
      have sound := (consistent.owned index registration found active record among).1
      obtain ⟨sameEvent, samePhase⟩ := getListenerSetKey_inj.mp (sameKey.trans sound.key)
      refine spares.listeners record among ?_
      rwa [← sameEvent, ← samePhase]
    · exact fun target _ => consistentLater.keyed target
    · intro target targets
      by_cases snapshotted : target ∈ registration.targetSnapshots.map (·.target)
      · obtain ⟨snapshot, among, rfl⟩ := mem_map.mp snapshotted
        rw [reverts.restored snapshot among]
        exact spares.markers snapshot among targets
      · rw [reverts.untouched target snapshotted]
        exact keeps.marked target targets

end

theorem activeRootsKeepListeners_perform_iff (call : RootListenerCall)
    (consistent : world.Consistent) (keep : world.ActiveRootsKeepListeners) :
    (world.perform call).ActiveRootsKeepListeners ↔ world.SparesActiveRoots call := by
  cases call with
  | register container passive =>
    refine iff_of_true ?_ trivial
    rcases registerRootListenersForPrivateRoot_cases world container passive with
      ⟨error, refused⟩ | ⟨later, registration, registered, _, _, registers⟩
    · simpa [perform, refused] using keep
    · simpa [perform, registered] using keep.register consistent registers
  | revert index =>
    by_cases active : ∃ registration, world.registrations[index]? = some registration ∧ registration.active = true
    · obtain ⟨registration, found, active⟩ := active
      obtain ⟨later, reverted, reverts⟩ := revertRootListenersForPrivateRoot_reverts consistent found active
      simp only [perform, reverted]
      constructor
      · intro keepLater reverted isReverted _ otherIndex other differ otherFound otherActive
        obtain rfl : registration = reverted := by simpa [found] using isReverted
        exact (keepsListeners_revert_iff consistent found active reverts (keep otherIndex other otherFound otherActive)).mp
          (keepLater otherIndex other ((reverts.found_iff otherActive).mpr ⟨differ, otherFound⟩) otherActive)
      · intro spares otherIndex other isOther otherActive
        obtain ⟨differ, otherFound⟩ := (reverts.found_iff otherActive).mp isOther
        exact (keepsListeners_revert_iff consistent found active reverts (keep otherIndex other otherFound otherActive)).mpr
          (spares registration found active otherIndex other differ otherFound otherActive)
    · have unchanged : (world.revertRootListenersForPrivateRoot index).2 = world :=
        revertRootListenersForPrivateRoot_of_not_active fun registration found => by
          simpa using fun isActive => active ⟨registration, found, isActive⟩
      simp only [perform, unchanged]
      refine iff_of_true keep ?_
      intro registration found isActive
      exact absurd ⟨registration, found, isActive⟩ active

/-- All active roots keep their listeners throughout exactly when every revert spares them. -/
theorem active_roots_keep_listeners_iff_spared (calls : List RootListenerCall) :
    (∀ taken, taken <+: calls → (taken.foldl perform new).ActiveRootsKeepListeners) ↔
      Permitted SparesActiveRoots perform new calls := by
  apply @Permitted.iff_everywhere _ _ _ _ ActiveRootsKeepListeners Consistent
  · simp [ActiveRootsKeepListeners, new]
  · exact Consistent.new
  · exact fun _ call consistent => consistent.perform call
  · exact fun _ call consistent keep => activeRootsKeepListeners_perform_iff call consistent keep

/-- A root whose container is not the document. -/
def containerIn (document container : EventTargetId) : RootContainer where
  target := container
  hasAddEventListener := true
  hasRemoveEventListener := true
  isDocumentNode := false
  ownerDocumentProperty := some ⟨document, true, true⟩

/-- Of two roots in one document, the first one's revert takes the document's listener from the second. -/
theorem first_revert_takes_document_listener :
    ¬ ActiveRootsKeepListeners
      ([.register (containerIn 0 1) true, .register (containerIn 0 2) true, .revert 0].foldl perform new) := by
  obtain ⟨one, first, registeredFirst, _, ownerFirst, registersFirst⟩ :=
    @registerRootListenersForPrivateRoot_registers (containerIn 0 1) new true (by decide) (by decide)
  obtain ⟨two, second, registeredSecond, _, ownerSecond, registersSecond⟩ :=
    @registerRootListenersForPrivateRoot_registers (containerIn 0 2) one true (by decide) (by decide)
  have firstPlace : two.registrations = [first, second] := by
    rw [registersSecond.installs.registrations, registersFirst.installs.registrations]
    rfl
  have consistentOne := Consistent.new.register registersFirst
  have consistent := consistentOne.register registersSecond
  have keepNew : ActiveRootsKeepListeners new := by simp [ActiveRootsKeepListeners, new]
  have keepTwo := (keepNew.register Consistent.new registersFirst).register consistentOne registersSecond
  simp only [foldl_cons, foldl_nil, perform, registeredFirst, registeredSecond]
  intro keepLast
  have spares := (activeRootsKeepListeners_perform_iff (.revert 0) consistent keepTwo).mp keepLast
    first (by simp [firstPlace]) registersFirst.active 1 second (by decide) (by simp [firstPlace])
    registersSecond.active
  have documentSnapshotted := (registersFirst.snapshotted 0).mpr (.inr ownerFirst)
  obtain ⟨snapshot, among, onDocument⟩ := mem_map.mp documentSnapshotted
  have found := registersFirst.snapshots snapshot among
  have needed := spares.markers snapshot among (onDocument ▸ .inr ownerSecond)
  rw [needed] at found
  simp [new, ListenerTarget.new] at found

end RootListenerWorld

end FastReact
