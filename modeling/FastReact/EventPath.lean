import FastReact.DispatchQueue

namespace FastReact

open List

/-!
# Paths of events

The path of an event is the list of the mounted nodes from the target upwards.  The search
for its start looks for a mounted node before a container, and the walk up from there for a
container before a mounted node.
-/

structure EventPathNode where
  node : DomNode
  hostInstanceToken : Option HostInstanceToken
  containerRoot : Option Nat
deriving DecidableEq

namespace EventPathNode

def isMounted (node : EventPathNode) : Bool :=
  node.hostInstanceToken.isSome

def isContainer (node : EventPathNode) : Bool :=
  node.containerRoot.isSome

end EventPathNode

/-- A node is given with its ancestors, from the inside out; null has none. -/
def getClosestMountedHostInstanceTokenFromNode : List EventPathNode → List EventPathNode
  | [] => []
  | node :: parents =>
      if node.isMounted then node :: parents
      else if node.isContainer then []
      else getClosestMountedHostInstanceTokenFromNode parents

structure EventTargetNormalizationRecord where
  closestMountedHostInstance : List EventPathNode
  directMountedHostInstanceToken : Option HostInstanceToken

def createEventTargetNormalizationRecord (target : List EventPathNode) :
    EventTargetNormalizationRecord where
  closestMountedHostInstance := getClosestMountedHostInstanceTokenFromNode target
  directMountedHostInstanceToken := target.head?.bind (·.hostInstanceToken)

structure EventTargetDispatchPathEntry where
  index : Nat
  targetHostInstanceNode : EventPathNode
  isDirectEventTarget : Bool
  isTargetHostInstance : Bool

/-- The fields of the record that follow from these are left out. -/
structure EventTargetDispatchPathRecord where
  entries : List EventTargetDispatchPathEntry
  containerRootBoundary : Option EventPathNode

/-- The mounted ancestors below the first container, with that container. -/
def walkDispatchPathParents :
    List EventPathNode → List EventPathNode × Option EventPathNode
  | [] => ([], none)
  | parent :: parents =>
      if parent.isContainer then ([], some parent)
      else if parent.isMounted then (walkDispatchPathParents parents).map (parent :: ·) id
      else walkDispatchPathParents parents

def createEventTargetDispatchPathRecord (record : EventTargetNormalizationRecord) :
    EventTargetDispatchPathRecord :=
  match record.closestMountedHostInstance with
  | [] => ⟨[], none⟩
  | node :: parents =>
      let path := walkDispatchPathParents parents
      ⟨(if node.isMounted then node :: path.1 else path.1).mapIdx fun index node =>
        ⟨index, node, record.directMountedHostInstanceToken = node.hostInstanceToken, index = 0⟩,
        path.2⟩

def eventPath (target : List EventPathNode) : List EventPathNode :=
  (createEventTargetDispatchPathRecord (createEventTargetNormalizationRecord target)).entries.map
    (·.targetHostInstanceNode)

/-- The mounted nodes among a target and its ancestors that lie strictly below the first
container above the target. -/
def mountedBelowContainer : List EventPathNode → List EventPathNode
  | [] => []
  | target :: ancestors => (target :: ancestors.takeWhile (!·.isContainer)).filter (·.isMounted)

/-- Where the target is not mounted, the first marked node above it has one mark only, or
the target is a container with no mounted node below the next one. -/
def StartsInContainer : List EventPathNode → Prop
  | [] => True
  | target :: ancestors =>
      target.isMounted ∨
        if target.isContainer then
          (ancestors.takeWhile (!·.isContainer)).filter (·.isMounted) = []
        else
          ∀ node, ancestors.find? (fun node => node.isMounted || node.isContainer) = some node →
            ¬ (node.isMounted ∧ node.isContainer)

theorem walkDispatchPathParents_eq (parents : List EventPathNode) :
    (walkDispatchPathParents parents).1 =
      (parents.takeWhile (!·.isContainer)).filter (·.isMounted) := by
  induction parents with
  | nil => rfl
  | cons parent parents ih =>
    unfold walkDispatchPathParents
    by_cases container : parent.isContainer
    · simp [container]
    · by_cases mounted : parent.isMounted
      · simp [container, mounted, ih]
      · simp [container, mounted, ih]

theorem eventPath_eq (target : List EventPathNode) :
    eventPath target =
      mountedBelowContainer (getClosestMountedHostInstanceTokenFromNode target) := by
  unfold eventPath createEventTargetDispatchPathRecord createEventTargetNormalizationRecord
  cases getClosestMountedHostInstanceTokenFromNode target with
  | nil => rfl
  | cons node parents =>
    simp only [mountedBelowContainer, filter_cons, ← walkDispatchPathParents_eq]
    apply ext_getElem?
    intro index
    rw [getElem?_map, getElem?_mapIdx, Option.map_map]
    exact congrFun Option.map_id _

theorem mountedBelowContainer_closest_iff (ancestors : List EventPathNode) :
    mountedBelowContainer (getClosestMountedHostInstanceTokenFromNode ancestors) =
        (ancestors.takeWhile (!·.isContainer)).filter (·.isMounted) ↔
      ∀ node, ancestors.find? (fun node => node.isMounted || node.isContainer) = some node →
        ¬ (node.isMounted ∧ node.isContainer) := by
  induction ancestors with
  | nil => simp [getClosestMountedHostInstanceTokenFromNode, mountedBelowContainer]
  | cons node ancestors ih =>
    unfold getClosestMountedHostInstanceTokenFromNode
    by_cases mounted : node.isMounted
    · by_cases container : node.isContainer
      · simp [mounted, container, mountedBelowContainer]
      · simp [mounted, container, mountedBelowContainer]
    · by_cases container : node.isContainer
      · simp [mounted, container, mountedBelowContainer]
      · simpa [mounted, container] using ih

/-- The path of an event is as it should be exactly when its start is found inside the
container. -/
theorem event_path_below_container_iff (target : List EventPathNode) :
    eventPath target = mountedBelowContainer target ↔ StartsInContainer target := by
  rw [eventPath_eq]
  cases target with
  | nil => exact iff_of_true rfl trivial
  | cons target ancestors =>
    unfold StartsInContainer getClosestMountedHostInstanceTokenFromNode
    by_cases mounted : target.isMounted
    · simp [mounted]
    · by_cases container : target.isContainer
      · simp [mounted, container, mountedBelowContainer, @eq_comm _ []]
      · have inner := mountedBelowContainer_closest_iff ancestors
        simpa [mounted, container, mountedBelowContainer] using inner

/-- A text in a container that is mounted itself: the container is on the path. -/
theorem event_path_leaves_container :
    eventPath [⟨1, none, none⟩, ⟨2, some 2, some 7⟩] ≠
      mountedBelowContainer [⟨1, none, none⟩, ⟨2, some 2, some 7⟩] := by
  decide

end FastReact
