import Mathlib.Data.List.Basic

namespace FastReact

/-!
# Root listeners

A private root registers a listener for every supported event on its container and for
selectionchange on the owner document. A key set on the target keeps a second registration
from installing a listener twice, and reverting a registration removes what it installed.
-/

/-- Event targets and listener shells are told apart by identity. -/
abbrev EventTargetId := Nat

abbrev ListenerShell := Nat

def mediaEventTypes : List String :=
  ["abort", "canplay", "canplaythrough", "durationchange", "emptied", "encrypted", "ended", "error",
    "loadeddata", "loadedmetadata", "loadstart", "pause", "play", "playing", "progress", "ratechange",
    "resize", "seeked", "seeking", "stalled", "suspend", "timeupdate", "volumechange", "waiting"]

def nonDelegatedEvents : List String :=
  ["beforetoggle", "cancel", "close", "invalid", "load", "scroll", "scrollend", "toggle"] ++ mediaEventTypes

def passiveBrowserEvents : List String :=
  ["touchstart", "touchmove", "wheel"]

def allNativeEvents : List String :=
  ["abort", "animationend", "animationiteration", "animationstart", "auxclick", "beforetoggle", "cancel",
    "canplay", "canplaythrough", "change", "click", "close", "compositionend", "compositionstart",
    "compositionupdate", "contextmenu", "copy", "cut", "dblclick", "drag", "dragend", "dragenter",
    "dragexit", "dragleave", "dragover", "dragstart", "drop", "durationchange", "emptied", "encrypted",
    "ended", "error", "focusin", "focusout", "gotpointercapture", "input", "invalid", "keydown",
    "keypress", "keyup", "load", "loadeddata", "loadedmetadata", "loadstart", "lostpointercapture",
    "mousedown", "mousemove", "mouseout", "mouseover", "mouseup", "paste", "pause", "play", "playing",
    "pointercancel", "pointerdown", "pointermove", "pointerout", "pointerover", "pointerup", "progress",
    "ratechange", "reset", "resize", "scroll", "scrollend", "seeked", "seeking", "selectionchange",
    "stalled", "submit", "suspend", "textInput", "timeupdate", "toggle", "touchcancel", "touchend",
    "touchmove", "touchstart", "transitioncancel", "transitionend", "transitionrun", "transitionstart",
    "volumechange", "waiting", "wheel"]

def isKnownNativeEvent (domEventName : String) : Bool :=
  allNativeEvents.any fun known => known = domEventName

def isNonDelegatedEvent (domEventName : String) : Bool :=
  nonDelegatedEvents.any fun known => known = domEventName

def isPassiveBrowserEvent (domEventName : String) : Bool :=
  passiveBrowserEvents.any fun known => known = domEventName

/-- The events and phases that are listened to on a root container, in the order of the loop. -/
def supportedListeners : List (String × Bool) :=
  allNativeEvents.flatMap fun domEventName =>
    if domEventName = "selectionchange" then []
    else if isNonDelegatedEvent domEventName then [(domEventName, true)]
    else [(domEventName, false), (domEventName, true)]

def getListenerSetKey (domEventName : String) (capture : Bool) : String :=
  domEventName ++ "__" ++ (if capture then "capture" else "bubble")

/-- Options are the capture flag alone, or an object when the browser supports passive events. -/
inductive ListenerOptions where
  | boolean (capture : Bool)
  | object (capture passive : Bool)
  deriving DecidableEq, Repr

def ListenerOptions.capture : ListenerOptions → Bool
  | .boolean capture => capture
  | .object capture _ => capture

def getAddEventListenerOptions (domEventName : String)
    (isCapturePhaseListener passiveBrowserEventsSupported : Bool) : ListenerOptions :=
  if passiveBrowserEventsSupported && isPassiveBrowserEvent domEventName then
    .object isCapturePhaseListener true
  else .boolean isCapturePhaseListener

/-- A listener the browser holds for a target. -/
structure InstalledListener where
  domEventName : String
  listener : ListenerShell
  options : ListenerOptions
  deriving DecidableEq, Repr

/-- The listeners of a target, its key set, and its marker; the last two are properties that may be absent. -/
structure ListenerTarget where
  registrations : List InstalledListener
  eventHandlers : Option (List String)
  listeningMarker : Option Bool
  deriving DecidableEq, Repr

namespace ListenerTarget

def new : ListenerTarget where
  registrations := []
  eventHandlers := none
  listeningMarker := none

/-- Each shell is a new function, so the browser never takes a listener for one it has. -/
def addEventListener (target : ListenerTarget) (installed : InstalledListener) : ListenerTarget :=
  { target with registrations := target.registrations ++ [installed] }

/-- The browser compares the event, the listener and the capture flag. -/
def removeEventListener (target : ListenerTarget) (removed : InstalledListener) : ListenerTarget :=
  { target with
    registrations := target.registrations.filter fun installed =>
      !(decide (installed.domEventName = removed.domEventName) &&
        decide (installed.listener = removed.listener) &&
        decide (installed.options.capture = removed.options.capture)) }

/-- Reading the key set creates it. -/
def getEventListenerSet (target : ListenerTarget) : List String :=
  target.eventHandlers.getD []

def withEventListenerSet (target : ListenerTarget) (keys : List String) : ListenerTarget :=
  { target with eventHandlers := some keys }

def markAsListening (target : ListenerTarget) : ListenerTarget :=
  { target with listeningMarker := some true }

end ListenerTarget

/-- The parts of a DOM object that the registration checks. -/
structure EventTargetObject where
  target : EventTargetId
  hasAddEventListener : Bool
  hasRemoveEventListener : Bool
  deriving DecidableEq, Repr

structure RootContainer extends EventTargetObject where
  isDocumentNode : Bool
  ownerDocumentProperty : Option EventTargetObject
  deriving DecidableEq, Repr

def getOwnerDocument (container : RootContainer) : Option EventTargetObject :=
  if container.isDocumentNode then some container.toEventTargetObject else container.ownerDocumentProperty

inductive RootListenerError where
  | invalidEventTarget
  | listenerRevertUnsupported
  | unknownNativeEvent
  | nonDelegatedBubbleListener
  | invalidRootListenerRecord
  deriving DecidableEq, Repr

/-- What a registration keeps about a listener it installed. -/
structure RootListenerRecord where
  target : EventTargetId
  domEventName : String
  isCapturePhaseListener : Bool
  listener : ListenerShell
  listenerOptions : ListenerOptions
  listenerSetKey : String
  deriving DecidableEq, Repr

def RootListenerRecord.installed (record : RootListenerRecord) : InstalledListener where
  domEventName := record.domEventName
  listener := record.listener
  options := record.listenerOptions

/-- The properties of a target before the registration touched it. -/
structure ListenerTargetSnapshot where
  target : EventTargetId
  hadEventHandlersKey : Bool
  listeningMarker : Option Bool
  deriving DecidableEq, Repr

structure RootListenerRegistration where
  active : Bool
  installedListeners : List RootListenerRecord
  ownerDocument : Option EventTargetId
  rootContainerElement : EventTargetId
  targetSnapshots : List ListenerTargetSnapshot
  deriving DecidableEq, Repr

/-- All targets, the next listener shell, and the registration records in the order of their making. -/
structure RootListenerWorld where
  targets : EventTargetId → ListenerTarget
  nextShell : ListenerShell
  registrations : List RootListenerRegistration

namespace RootListenerWorld

def new : RootListenerWorld where
  targets := fun _ => .new
  nextShell := 0
  registrations := []

def changeTarget (world : RootListenerWorld) (target : EventTargetId)
    (change : ListenerTarget → ListenerTarget) : RootListenerWorld :=
  { world with targets := fun other => if other = target then change (world.targets other) else world.targets other }

def markTargetAsListening (world : RootListenerWorld) (target : EventTargetId) : RootListenerWorld :=
  world.changeTarget target ListenerTarget.markAsListening

def createListenerRecord (world : RootListenerWorld) (domEventName : String)
    (isCapturePhaseListener : Bool) (target : EventTargetId)
    (passiveBrowserEventsSupported : Bool) : RootListenerRecord where
  target := target
  domEventName := domEventName
  isCapturePhaseListener := isCapturePhaseListener
  listener := world.nextShell
  listenerOptions :=
    getAddEventListenerOptions domEventName isCapturePhaseListener passiveBrowserEventsSupported
  listenerSetKey := getListenerSetKey domEventName isCapturePhaseListener

/-- The listener is installed, and then its key enters the set. -/
def addTrappedEventListenerRecord (world : RootListenerWorld)
    (record : RootListenerRecord) : RootListenerWorld :=
  { world.changeTarget record.target (fun target =>
      (target.addEventListener record.installed).withEventListenerSet
        (target.getEventListenerSet ++ [record.listenerSetKey])) with
    nextShell := world.nextShell + 1 }

/-- A key that is there already stands for a listener, and nothing is installed. -/
def listenToNativeEventRecord (domEventName : String) (isCapturePhaseListener : Bool)
    (target : EventTargetId) (passiveBrowserEventsSupported : Bool)
    (world : RootListenerWorld) : Except RootListenerError (Option RootListenerRecord × RootListenerWorld) :=
  if !isKnownNativeEvent domEventName then .error .unknownNativeEvent
  else if isNonDelegatedEvent domEventName && !isCapturePhaseListener then .error .nonDelegatedBubbleListener
  else
    let listenerSet := (world.targets target).getEventListenerSet
    if listenerSet.any fun key => key = getListenerSetKey domEventName isCapturePhaseListener then
      .ok (none, world.changeTarget target (·.withEventListenerSet listenerSet))
    else
      let record :=
        world.createListenerRecord domEventName isCapturePhaseListener target passiveBrowserEventsSupported
      .ok (some record, world.addTrappedEventListenerRecord record)

/-- The loop stops at an error and says what had been installed by then. -/
def listenToEach (target : EventTargetId) (passiveBrowserEventsSupported : Bool) :
    List (String × Bool) → List RootListenerRecord → RootListenerWorld →
      Option RootListenerError × List RootListenerRecord × RootListenerWorld
  | [], installed, world => (none, installed, world)
  | (domEventName, capture) :: rest, installed, world =>
    match listenToNativeEventRecord domEventName capture target passiveBrowserEventsSupported world with
    | .error error => (some error, installed, world)
    | .ok (record, later) =>
      listenToEach target passiveBrowserEventsSupported rest (installed ++ record.toList) later

def uniqueTargets (container : EventTargetObject)
    (ownerDocument : Option EventTargetObject) : List EventTargetObject :=
  match ownerDocument with
  | none => [container]
  | some document => if document.target = container.target then [container] else [container, document]

def snapshotListenerTarget (world : RootListenerWorld) (target : EventTargetId) : ListenerTargetSnapshot where
  target := target
  hadEventHandlersKey := (world.targets target).eventHandlers.isSome
  listeningMarker := (world.targets target).listeningMarker

def removeInstalledListener (world : RootListenerWorld) (record : RootListenerRecord) : RootListenerWorld :=
  world.changeTarget record.target fun target =>
    { target.removeEventListener record.installed with
      eventHandlers := target.eventHandlers.map fun keys => keys.filter fun key => key ≠ record.listenerSetKey }

/-- The marker becomes what it was, and a key set that the registration created goes when it is empty. -/
def restoreTarget (world : RootListenerWorld) (snapshot : ListenerTargetSnapshot) : RootListenerWorld :=
  world.changeTarget snapshot.target fun target =>
    { target with
      listeningMarker := snapshot.listeningMarker
      eventHandlers :=
        if !snapshot.hadEventHandlersKey && decide (target.eventHandlers = some []) then none
        else target.eventHandlers }

def cleanupInstalledRootListeners (world : RootListenerWorld)
    (installedListeners : List RootListenerRecord)
    (targetSnapshots : List ListenerTargetSnapshot) : RootListenerWorld :=
  targetSnapshots.foldl restoreTarget (installedListeners.reverse.foldl removeInstalledListener world)

/-- Container listeners come first, then the owner document is marked and gets its one listener. -/
def installRootListeners (container : EventTargetId) (ownerDocument : Option EventTargetId)
    (passiveBrowserEventsSupported : Bool)
    (world : RootListenerWorld) : Option RootListenerError × List RootListenerRecord × RootListenerWorld :=
  let first := listenToEach container passiveBrowserEventsSupported supportedListeners []
    (world.markTargetAsListening container)
  match first.1, ownerDocument with
  | some error, _ => (some error, first.2)
  | none, none => first
  | none, some document =>
    listenToEach document passiveBrowserEventsSupported [("selectionchange", false)] first.2.1
      (first.2.2.markTargetAsListening document)

/-- A registration that fails on the way takes back what it did. -/
def registerRootListenersForPrivateRoot (world : RootListenerWorld)
    (rootContainerElement : RootContainer)
    (passiveBrowserEventsSupported : Bool) : Option RootListenerError × RootListenerWorld :=
  let ownerDocument := getOwnerDocument rootContainerElement
  let targets := uniqueTargets rootContainerElement.toEventTargetObject ownerDocument
  if !targets.all (·.hasAddEventListener) then (some .invalidEventTarget, world)
  else if !targets.all (·.hasRemoveEventListener) then (some .listenerRevertUnsupported, world)
  else
    let targetSnapshots := targets.map fun target => world.snapshotListenerTarget target.target
    let result := world.installRootListeners rootContainerElement.target (ownerDocument.map (·.target))
      passiveBrowserEventsSupported
    match result.1 with
    | some error => (some error, result.2.2.cleanupInstalledRootListeners result.2.1 targetSnapshots)
    | none =>
      (none, { result.2.2 with
        registrations := result.2.2.registrations ++ [{
          active := true
          installedListeners := result.2.1
          ownerDocument := ownerDocument.map (·.target)
          rootContainerElement := rootContainerElement.target
          targetSnapshots := targetSnapshots }] })

/-- A registration that has been reverted already is left alone. -/
def revertRootListenersForPrivateRoot (world : RootListenerWorld)
    (index : Nat) : Option RootListenerError × RootListenerWorld :=
  match world.registrations[index]? with
  | none => (some .invalidRootListenerRecord, world)
  | some payload =>
    if !payload.active then (none, world)
    else
      let cleaned := world.cleanupInstalledRootListeners payload.installedListeners payload.targetSnapshots
      (none, { cleaned with registrations := cleaned.registrations.set index { payload with active := false } })

end RootListenerWorld

/-- The calls of a run; a registration record is named by the place of its making. -/
inductive RootListenerCall where
  | register (container : RootContainer) (passiveBrowserEventsSupported : Bool)
  | revert (index : Nat)
  deriving DecidableEq, Repr

def RootListenerWorld.perform (world : RootListenerWorld) : RootListenerCall → RootListenerWorld
  | .register container passive => (world.registerRootListenersForPrivateRoot container passive).2
  | .revert index => (world.revertRootListenersForPrivateRoot index).2

end FastReact
