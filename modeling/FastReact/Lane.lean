import Mathlib.Data.BitVec
import Mathlib.Data.List.FinRange

namespace FastReact

open BitVec Bool List

/-!
# Lanes

A lane is one bit of a 31-bit set and lower bits have higher priority.  The
source keeps lanes in a `u32` and every constructor masks the top bit away, so
the set of lanes is exactly a 31-bit vector here.  A single lane is either the
empty lane or one bit, which its structure carries as a field.
-/

abbrev totalLanes : Nat := 31

instance : NeZero totalLanes :=
  ⟨by decide⟩

abbrev LaneIndex := Fin totalLanes

/-- A set of lanes. -/
structure Lanes where
  bits : BitVec totalLanes
deriving Repr, DecidableEq

/-- At most one lane. -/
structure Lane where
  bits : BitVec totalLanes
  single : bits = 0 ∨ ∃ index : LaneIndex, bits = BitVec.twoPow totalLanes index
deriving DecidableEq

namespace LaneIndex

def lane (index : LaneIndex) : Lane where
  bits := BitVec.twoPow totalLanes index
  single := .inr ⟨index, rfl⟩

end LaneIndex

theorem and_neg_single {width : Nat} (bits : BitVec width) :
    bits &&& -bits = 0 ∨ ∃ index : Fin width, bits &&& -bits = twoPow width index := by
  by_cases vacant : ∀ position, bits.getLsbD position = false
  · left
    apply eq_of_getLsbD_eq
    intro position _
    simp [vacant position]
  · right
    have exists_set : ∃ position, bits.getLsbD position = true := by simpa using vacant
    have lowest := Nat.find_spec exists_set
    have inside : Nat.find exists_set < width := lt_of_getLsbD lowest
    refine ⟨⟨Nat.find exists_set, inside⟩, ?_⟩
    apply eq_of_getLsbD_eq
    intro position inRange
    rw [getLsbD_and, getLsbD_neg, getLsbD_twoPow]
    rcases Nat.lt_trichotomy position (Nat.find exists_set) with below | same | above
    · have clear : bits.getLsbD position = false := by simpa using Nat.find_min exists_set below
      simp [clear, Nat.ne_of_gt below]
    · subst same
      have noneBelow : ¬ ∃ lower < Nat.find exists_set, bits.getLsbD lower = true := by
        rintro ⟨lower, below, isSet⟩
        exact Nat.find_min exists_set below isSet
      rw [decide_eq_false noneBelow, lowest, decide_eq_true inside, decide_eq_true rfl]
      rfl
    · have someBelow : ∃ lower < position, bits.getLsbD lower = true :=
        ⟨Nat.find exists_set, above, lowest⟩
      rw [decide_eq_true someBelow, decide_eq_true inRange,
        decide_eq_false (Nat.ne_of_lt above), Bool.and_false]
      cases bits.getLsbD position <;> rfl

namespace Lane

def no : Lane := ⟨0, .inl rfl⟩
def syncHydration : Lane := LaneIndex.lane 0
def sync : Lane := LaneIndex.lane 1
def inputContinuousHydration : Lane := LaneIndex.lane 2
def inputContinuous : Lane := LaneIndex.lane 3
def defaultHydration : Lane := LaneIndex.lane 4
def default : Lane := LaneIndex.lane 5
def gesture : Lane := LaneIndex.lane 6
def transitionHydration : Lane := LaneIndex.lane 7
def transition1 : Lane := LaneIndex.lane 8
def transition2 : Lane := LaneIndex.lane 9
def selectiveHydration : Lane := LaneIndex.lane 26
def idleHydration : Lane := LaneIndex.lane 27
def idle : Lane := LaneIndex.lane 28
def offscreen : Lane := LaneIndex.lane 29
def deferred : Lane := LaneIndex.lane 30

def isEmpty (lane : Lane) : Bool := lane.bits == 0
def isNonEmpty (lane : Lane) : Bool := lane.bits != 0
def toLanes (lane : Lane) : Lanes := ⟨lane.bits⟩

def toIndex (lane : Lane) : Option LaneIndex :=
  (List.finRange totalLanes).find? fun index => lane.bits.getLsbD index

def isTransition (lane : Lane) : Bool := lane.bits &&& 0x003fff00 != 0

end Lane

namespace Lanes

def no : Lanes := ⟨0⟩
def syncHydration : Lanes := Lane.syncHydration.toLanes
def sync : Lanes := Lane.sync.toLanes
def default : Lanes := Lane.default.toLanes
def transition : Lanes := ⟨0x003fff00⟩
def transitionUpdate : Lanes := ⟨0x0003ff00⟩
def transitionDeferred : Lanes := ⟨0x003c0000⟩
def retry : Lanes := ⟨0x03c00000⟩
def nonIdle : Lanes := ⟨0x07ffffff⟩
def update : Lanes := ⟨0x0003ff2a⟩
def syncUpdate : Lanes :=
  ⟨Lane.sync.bits ||| Lane.inputContinuous.bits ||| Lane.default.bits⟩

def isEmpty (lanes : Lanes) : Bool := lanes.bits == 0
def isNonEmpty (lanes : Lanes) : Bool := lanes.bits != 0
def merge (lanes other : Lanes) : Lanes := ⟨lanes.bits ||| other.bits⟩
def mergeLane (lanes : Lanes) (lane : Lane) : Lanes := ⟨lanes.bits ||| lane.bits⟩
def remove (lanes subset : Lanes) : Lanes := ⟨lanes.bits &&& ~~~subset.bits⟩
def removeLane (lanes : Lanes) (lane : Lane) : Lanes := ⟨lanes.bits &&& ~~~lane.bits⟩
def intersect (lanes other : Lanes) : Lanes := ⟨lanes.bits &&& other.bits⟩
def containsAny (lanes other : Lanes) : Bool := (lanes.intersect other).isNonEmpty
def containsLane (lanes : Lanes) (lane : Lane) : Bool := lanes.bits &&& lane.bits != 0
def containsAll (lanes subset : Lanes) : Bool :=
  lanes.bits &&& subset.bits == subset.bits
def isSubsetOf (lanes set : Lanes) : Bool := set.containsAll lanes

def highestPriorityLane (lanes : Lanes) : Lane where
  bits := lanes.bits &&& -lanes.bits
  single := and_neg_single lanes.bits

def includesSyncLane (lanes : Lanes) : Bool :=
  lanes.bits &&& (Lane.syncHydration.bits ||| Lane.sync.bits) != 0

def countOnes (lanes : Lanes) : Nat := lanes.bits.cpop.toNat

def containsIndex (lanes : Lanes) (index : LaneIndex) : Bool :=
  lanes.bits.getLsbD index

theorem ext_index {lanes other : Lanes}
    (agree : ∀ index, lanes.containsIndex index = other.containsIndex index) : lanes = other := by
  cases lanes
  cases other
  simp only [Lanes.mk.injEq]
  apply eq_of_getLsbD_eq
  intro position inRange
  exact agree ⟨position, inRange⟩

variable (index : LaneIndex)

@[simp] theorem containsIndex_no : no.containsIndex index = false := by
  simp [containsIndex, no]

variable (lanes other : Lanes)

@[simp] theorem containsIndex_merge :
    (lanes.merge other).containsIndex index =
      (lanes.containsIndex index || other.containsIndex index) := by
  simp [containsIndex, merge]

@[simp] theorem containsIndex_intersect :
    (lanes.intersect other).containsIndex index =
      (lanes.containsIndex index && other.containsIndex index) := by
  simp [containsIndex, intersect]

@[simp] theorem containsIndex_remove (lanes subset : Lanes) (index : LaneIndex) :
    (lanes.remove subset).containsIndex index =
      (lanes.containsIndex index && !subset.containsIndex index) := by
  simp [containsIndex, remove]

@[simp] theorem mergeLane_eq (lane : Lane) : lanes.mergeLane lane = lanes.merge lane.toLanes :=
  rfl

@[simp] theorem removeLane_eq (lane : Lane) : lanes.removeLane lane = lanes.remove lane.toLanes :=
  rfl

@[simp] theorem merge_no : lanes.merge no = lanes :=
  ext_index (by simp)

theorem isEmpty_iff {lanes : Lanes} :
    lanes.isEmpty = true ↔ ∀ index, lanes.containsIndex index = false := by
  constructor
  · intro empty index
    have bitsZero : lanes.bits = 0 := by simpa [isEmpty] using empty
    simp [containsIndex, bitsZero]
  · intro vacant
    have isNo : lanes = no := ext_index (by simpa using vacant)
    rw [isNo]
    rfl

theorem isEmpty_iff_eq_no {lanes : Lanes} : lanes.isEmpty = true ↔ lanes = no := by
  cases lanes
  simp [isEmpty, no]

@[simp] theorem isNonEmpty_eq : lanes.isNonEmpty = !lanes.isEmpty :=
  rfl

theorem isSubsetOf_iff {lanes set : Lanes} :
    lanes.isSubsetOf set = true ↔
      ∀ index, lanes.containsIndex index = true → set.containsIndex index = true := by
  constructor
  · intro subset index member
    have bitsEq : set.bits &&& lanes.bits = lanes.bits := by
      simpa [isSubsetOf, containsAll] using subset
    have memberBit : (set.bits &&& lanes.bits).getLsbD index = true := by
      rw [bitsEq]
      exact member
    rw [getLsbD_and, and_eq_true] at memberBit
    exact memberBit.1
  · intro subset
    have intersectEq : set.intersect lanes = lanes := by
      apply ext_index
      intro index
      rw [containsIndex_intersect]
      cases member : lanes.containsIndex index with
      | false => simp
      | true => simp [subset index member]
    have bitsEq : set.bits &&& lanes.bits = lanes.bits := congrArg Lanes.bits intersectEq
    simp [isSubsetOf, containsAll, bitsEq]

@[simp] theorem no_isSubsetOf (set : Lanes) : no.isSubsetOf set = true := by simp [isSubsetOf_iff]

theorem isSubsetOf_refl : lanes.isSubsetOf lanes = true := by simp [isSubsetOf_iff]

theorem isSubsetOf_trans {lanes set larger : Lanes} (inner : lanes.isSubsetOf set = true)
    (outer : set.isSubsetOf larger = true) : lanes.isSubsetOf larger = true := by
  rw [isSubsetOf_iff] at inner outer ⊢
  exact fun index member => outer index (inner index member)

theorem merge_isSubsetOf_iff {lanes other set : Lanes} :
    (lanes.merge other).isSubsetOf set = true ↔
      lanes.isSubsetOf set = true ∧ other.isSubsetOf set = true := by
  simp only [isSubsetOf_iff, containsIndex_merge, or_eq_true, or_imp, forall_and]

theorem isSubsetOf_merge_left : lanes.isSubsetOf (lanes.merge other) = true := by
  simp +contextual [isSubsetOf_iff]

theorem isSubsetOf_merge_right : other.isSubsetOf (lanes.merge other) = true := by
  simp +contextual [isSubsetOf_iff]

theorem remove_isSubsetOf (lanes subset : Lanes) :
    (lanes.remove subset).isSubsetOf lanes = true := by
  simp +contextual [isSubsetOf_iff]

theorem intersect_isSubsetOf_left : (lanes.intersect other).isSubsetOf lanes = true := by
  simp +contextual [isSubsetOf_iff]

theorem intersect_isSubsetOf_right : (lanes.intersect other).isSubsetOf other = true := by
  simp +contextual [isSubsetOf_iff]

theorem containsIndex_eq_false_of_isSubsetOf {lanes set : Lanes} {index : LaneIndex}
    (subset : lanes.isSubsetOf set = true) (absent : set.containsIndex index = false) :
    lanes.containsIndex index = false := by
  rw [isSubsetOf_iff] at subset
  rw [← not_eq_true]
  intro member
  simp [subset index member] at absent

@[simp] theorem containsIndex_lane (index other : LaneIndex) :
    index.lane.toLanes.containsIndex other = decide (other = index) := by
  simp [containsIndex, Lane.toLanes, LaneIndex.lane, Fin.ext_iff, eq_comm]

theorem lane_isSubsetOf_iff {index : LaneIndex} {set : Lanes} :
    index.lane.toLanes.isSubsetOf set = true ↔ set.containsIndex index = true := by
  simp [isSubsetOf_iff]

theorem containsAny_iff {lanes other : Lanes} :
    lanes.containsAny other = true ↔
      ∃ index, lanes.containsIndex index = true ∧ other.containsIndex index = true := by
  rw [containsAny, isNonEmpty_eq, not_eq_true', ← not_eq_true, isEmpty_iff]
  simp

theorem containsAny_lane (lanes : Lanes) :
    index.lane.toLanes.containsAny lanes = lanes.containsIndex index := by
  rw [Bool.eq_iff_iff, containsAny_iff]
  simp

end Lanes

namespace Lane

theorem ext_toLanes {lane other : Lane} (same : lane.toLanes = other.toLanes) : lane = other := by
  cases lane
  cases other
  simpa [toLanes] using same

theorem toIndex_eq_some_iff {lane : Lane} {index : LaneIndex} :
    lane.toIndex = some index ↔ lane = index.lane := by
  constructor
  · intro found
    have isSet : lane.bits.getLsbD index = true := by
      simpa using @find?_some _ (fun index : LaneIndex => lane.bits.getLsbD index) _ _ found
    rcases lane.single with empty | ⟨position, shape⟩
    · simp [empty] at isSet
    · have samePosition : position = index := by simpa [shape, Fin.ext_iff, eq_comm] using isSet
      apply ext_toLanes
      simp [toLanes, LaneIndex.lane, shape, samePosition]
  · rintro rfl
    rw [toIndex, find?_eq_some_iff_append]
    refine ⟨by simp [LaneIndex.lane], ?_⟩
    obtain ⟨earlier, later, shape⟩ := mem_iff_append.mp (mem_finRange index)
    refine ⟨earlier, later, shape, ?_⟩
    intro other member
    have noDuplicates := nodup_finRange totalLanes
    rw [shape, nodup_append] at noDuplicates
    have different : other ≠ index := noDuplicates.2.2 other member index (by simp)
    have differentPosition : (other : Nat) ≠ index := fun same => different (Fin.ext same)
    simp [LaneIndex.lane, differentPosition]

end Lane

end FastReact
