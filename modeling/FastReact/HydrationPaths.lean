import FastReact.PropertyPayload
import Mathlib.Data.List.Basic

namespace FastReact

open List Nat Option

/-!
# Paths of hydration targets

The event system and the hydration marker parser name the nodes below a container by paths
such as `container.childNodes[0].childNodes[2]`.  Each has a walk over the child nodes that
forms them, and a parser.
-/

/-- The text that leads to a child node, from the digits of its index. -/
def pathSegment (digits : JsString) : JsString :=
  js ".childNodes[" ++ (digits ++ js "]")

/-- An index as a text. -/
def decimal (index : Nat) : JsString :=
  (Nat.toDigits 10 index).map unit

/-- `${parentPath}.childNodes[${index}]`. -/
def childPath (parentPath : JsString) (index : Nat) : JsString :=
  parentPath ++ pathSegment (decimal index)

def isDigit (codeUnit : UInt16) : Bool :=
  unit '0' ≤ codeUnit && codeUnit ≤ unit '9'

/-- `Number` of a few digits, which is exact as far as an index can reach. -/
def decimalValue (digits : JsString) : Nat :=
  digits.foldl (fun value codeUnit => 10 * value + (codeUnit.toNat - 48)) 0

/-- The digits of a match of `\.childNodes\[(\d+)\]` at the start of a text. -/
def matchPathPattern (text : JsString) : Option JsString :=
  let digits := (text.drop (js ".childNodes[").length).takeWhile isDigit
  if digits ≠ [] ∧ pathSegment digits <+: text then some digits else none

/-- `pathPattern.exec` on what a text has from an offset on. -/
def execPathPattern : JsString → Nat → Option (Nat × JsString)
  | [], _ => none
  | first :: rest, offset =>
    match matchPathPattern (first :: rest) with
    | some digits => some (offset, digits)
    | none => execPathPattern rest (offset + 1)

theorem pathSegment_pos {text : JsString} (nonempty : text ≠ []) (digits : JsString) :
    0 < text.length ∧ 0 < (pathSegment digits).length :=
  ⟨length_pos_iff.mpr nonempty, by simp [pathSegment, js]⟩

theorem lt_of_execPathPattern {text : JsString} {offset : Nat} {found : Nat × JsString}
    (ran : execPathPattern (text.drop offset) offset = some found) : offset < text.length := by
  by_contra beyond
  rw [drop_eq_nil_of_le (by omega)] at ran
  cases ran

theorem toNat_unit {index : Nat} {digit : Char} (member : digit ∈ toDigits 10 index) :
    (unit digit).toNat = digit.toNat ∧ 48 ≤ digit.toNat ∧ digit.toNat ≤ 57 := by
  have isDigit := isDigit_of_mem_toDigits (by decide) (by decide) member
  simp only [Char.isDigit, Bool.and_eq_true, decide_eq_true_eq, ge_iff_le, UInt32.le_iff_toNat_le] at isDigit
  have bounds : 48 ≤ digit.toNat ∧ digit.toNat ≤ 57 := isDigit
  refine ⟨?_, bounds⟩
  simp only [unit, UInt16.toNat_ofNat']
  omega

theorem decimalValue_decimal (index : Nat) : decimalValue (decimal index) = index := by
  have same := @ofDigitChars_ten_toDigits index
  rw [ofDigitChars_eq_foldl] at same
  rw [decimalValue, decimal, foldl_map]
  refine Eq.trans (foldl_ext _ _ _ fun value digit member => ?_) same
  rw [(toNat_unit member).1]
  rfl

theorem matchPathPattern_append (index : Nat) (rest : JsString) :
    matchPathPattern (pathSegment (decimal index) ++ rest) = some (decimal index) := by
  have digits : ∀ codeUnit ∈ decimal index, isDigit codeUnit = true := by
    intro codeUnit member
    obtain ⟨digit, printed, rfl⟩ := mem_map.mp member
    have bounds := toNat_unit printed
    simp only [isDigit, Bool.and_eq_true, decide_eq_true_eq, UInt16.le_iff_toNat_le, bounds.1]
    exact bounds.2
  have taken : ((pathSegment (decimal index) ++ rest).drop (js ".childNodes[").length).takeWhile
      isDigit = decimal index := by
    rw [pathSegment, append_assoc, append_assoc, drop_left, takeWhile_append_of_pos digits]
    simp [js, isDigit, unit]
  have nonempty : decimal index ≠ [] := by simp [decimal, toDigits_ne_nil]
  simp only [matchPathPattern, taken]
  exact if_pos ⟨nonempty, prefix_append _ _⟩

section Parsers

variable {Index : Type} (number : JsString → Index)

/-- The loop over the slices of a path. -/
def childPathLoop (slice : JsString) (segments : List Index) : Option (List Index) :=
  if nonempty : slice ≠ [] then
    match matchPathPattern slice with
    | none => none
    | some digits =>
      have := pathSegment_pos nonempty digits
      childPathLoop (slice.drop (pathSegment digits).length) (segments ++ [number digits])
  else some segments
termination_by slice.length

def parseHydrationContainerChildPath (path : JsString) : Option (List Index) :=
  if js "container" <+: path then
    match childPathLoop number (path.drop (js "container").length) [] with
    | some [] => none
    | segments => segments
  else none

/-- The loop over the matches in a suffix. -/
def pathSegmentsLoop (suffix : JsString) (segments : List Index) (offset : Nat) :
    Option (List Index) :=
  match found : execPathPattern (suffix.drop offset) offset with
  | none => if offset = suffix.length then some segments else none
  | some (index, digits) =>
    if index ≠ offset then none
    else
      have := lt_of_execPathPattern found
      have := (pathSegment_pos (ne_nil_of_length_pos (Nat.zero_lt_of_lt this)) digits).2
      pathSegmentsLoop suffix (segments ++ [number digits]) (offset + (pathSegment digits).length)
termination_by suffix.length - offset

def parseHydrationContainerPathSegments (path : JsString) : Option (List Index) :=
  if js "container" <+: path then
    let suffix := path.drop (js "container").length
    if suffix = [] then some [] else pathSegmentsLoop number suffix [] 0
  else none

theorem prefix_of_matchPathPattern {text digits : JsString}
    (found : matchPathPattern text = some digits) : pathSegment digits <+: text := by
  simp only [matchPathPattern, ite_none_right_eq_some, some.injEq] at found
  obtain ⟨⟨-, starts⟩, rfl⟩ := found
  exact starts

/-- A search finds the match at its start, or else one that starts later. -/
theorem execPathPattern_eq (text : JsString) (offset : Nat) :
    execPathPattern text offset = (matchPathPattern text).map (Prod.mk offset) ∨
      text ≠ [] ∧ matchPathPattern text = none ∧
        ∀ found, execPathPattern text offset = some found → offset < found.1 := by
  induction text generalizing offset with
  | nil => exact .inl rfl
  | cons first rest ih =>
    rw [execPathPattern]
    cases here : matchPathPattern (first :: rest) with
    | some digits => exact .inl rfl
    | none =>
      refine .inr ⟨cons_ne_nil _ _, rfl, fun found ran => ?_⟩
      rcases ih (offset + 1) with next | ⟨-, -, later⟩
      · rw [next] at ran
        obtain ⟨digits, -, rfl⟩ := map_eq_some_iff.mp ran
        exact lt_succ_self offset
      · exact lt_of_succ_lt (later found ran)

/-- Searching from the end of the last match comes to the same as slicing there. -/
theorem pathSegmentsLoop_eq (suffix : JsString) (segments : List Index) (offset : Nat)
    (within : offset ≤ suffix.length) :
    pathSegmentsLoop number suffix segments offset =
      childPathLoop number (suffix.drop offset) segments := by
  induction rest : suffix.length - offset using Nat.strongRecOn generalizing segments offset with
  | ind rest ih =>
    have here := execPathPattern_eq (suffix.drop offset) offset
    rw [pathSegmentsLoop, childPathLoop]
    split
    · next ran =>
      have noMatch : matchPathPattern (suffix.drop offset) = none := by
        rcases here with here | ⟨-, noMatch, -⟩
        · exact map_eq_none_iff.mp (here.symm.trans ran)
        · exact noMatch
      have atEnd : offset = suffix.length ↔ suffix.drop offset = [] := by
        rw [drop_eq_nil_iff]
        omega
      simp only [noMatch, atEnd, dite_eq_ite, ite_not]
    · next index digits ran =>
      rcases here with here | ⟨nonempty, noMatch, later⟩
      · obtain ⟨found, matched, same⟩ := map_eq_some_iff.mp (here.symm.trans ran)
        cases same
        have nonempty : suffix.drop offset ≠ [] := by
          rintro nothing
          simp [nothing, matchPathPattern] at matched
        have fits := (prefix_of_matchPathPattern matched).length_le
        have long := (pathSegment_pos nonempty digits).2
        rw [length_drop] at fits
        rw [dif_pos nonempty, if_neg (not_not_intro rfl), matched]
        have next := ih _ (by omega) (segments ++ [number digits])
          (offset + (pathSegment digits).length) (by omega) rfl
        rw [next, ← drop_drop]
      · have different : index ≠ offset := (Nat.ne_of_lt (later _ ran)).symm
        rw [if_pos different, dif_pos nonempty, noMatch]

theorem prefix_of_childPathLoop {slice : JsString} {segments read : List Index}
    (ran : childPathLoop number slice segments = some read) : segments <+: read := by
  fun_induction childPathLoop number slice segments with
  | case1 => cases ran
  | case2 slice segments nonempty digits matched long ih =>
    exact (prefix_append segments _).trans (ih ran)
  | case3 => cases ran; exact prefix_rfl

theorem parseHydrationContainerPathSegments_eq {path : JsString} (below : path ≠ js "container") :
    parseHydrationContainerPathSegments number path =
      parseHydrationContainerChildPath number path := by
  unfold parseHydrationContainerPathSegments parseHydrationContainerChildPath
  split
  · next starts =>
    obtain ⟨suffix, rfl⟩ := starts
    have nonempty : suffix ≠ [] := by
      rintro rfl
      simp at below
    rw [drop_left]
    simp only [nonempty, if_false]
    rw [pathSegmentsLoop_eq number suffix [] 0 (zero_le _), List.drop_zero]
    split
    · next ran =>
      -- A text behind the container leads to an index or is refused.
      rw [childPathLoop, dif_pos nonempty] at ran
      split at ran
      · cases ran
      · simpa using prefix_of_childPathLoop number ran
    · rfl
  · rfl

end Parsers

/-- A list of child nodes: a node with child nodes of its own, and its later siblings. -/
inductive ChildNodes where
  | nil
  | cons (node : Nat) (childNodes siblings : ChildNodes)

namespace ChildNodes

def first : ChildNodes → Option Nat
  | nil => none
  | cons node _ _ => some node

/-- `childNodes[index] || null`, with its own child nodes. -/
def item : ChildNodes → Nat → Option (Nat × ChildNodes)
  | nil, _ => none
  | cons node childNodes _, 0 => some (node, childNodes)
  | cons _ _ siblings, index + 1 => siblings.item index

/-- The nodes in the order of the tree. -/
def nodes : ChildNodes → List Nat
  | nil => []
  | cons node childNodes siblings => node :: (childNodes.nodes ++ siblings.nodes)

/-- The nodes with their paths, in the order of the tree. -/
def paths : ChildNodes → Nat → JsString → List (Nat × JsString)
  | nil, _, _ => []
  | cons node childNodes siblings, index, parentPath =>
    (node, childPath parentPath index) ::
      (childNodes.paths 0 (childPath parentPath index) ++ siblings.paths (index + 1) parentPath)

end ChildNodes

/-- A container and the nodes below it, no two of them the same. -/
structure DomTree where
  container : Nat
  childNodes : ChildNodes
  distinct : (container :: childNodes.nodes).Nodup

structure DomTarget where
  node : Nat
  parentNodes : List Nat

inductive HydrationTargetPathStatus where
  | unavailableNoRootContainer
  | unavailableNonObjectTarget
  | foundContainerTarget
  | foundInContainerChildList
  | ownedByParentChainNotChildList
  | notContainedInDehydratedRoot

structure HydrationTargetPath where
  found : Bool
  path : Option JsString
  status : HydrationTargetPathStatus

/-- The walk over a rest of the child nodes of a parent, with the nodes visited in the end. -/
def findHydrationTargetPathInChildren (targetNode : Nat) :
    ChildNodes → Nat → JsString → List Nat → Option JsString × List Nat
  | .nil, _, _, visitedNodes => (none, visitedNodes)
  | .cons childNode childNodes siblings, index, parentPath, visitedNodes =>
    let path := childPath parentPath index
    if childNode = targetNode then (some path, visitedNodes)
    else
      let below :=
        if childNode ∈ visitedNodes then (none, visitedNodes)
        else findHydrationTargetPathInChildren targetNode childNodes 0 path
          (childNode :: visitedNodes)
      if below.1.isSome then below
      else findHydrationTargetPathInChildren targetNode siblings (index + 1) parentPath below.2

def isHydrationTargetDescendantOfRoot (rootContainer : Nat) (targetNode : DomTarget) : Bool :=
  (targetNode.node :: targetNode.parentNodes).contains rootContainer

def findHydrationTargetPath (rootContainer : Option DomTree) (targetNode : Option DomTarget) :
    HydrationTargetPath :=
  match rootContainer, targetNode with
  | none, _ => ⟨false, none, .unavailableNoRootContainer⟩
  | some _, none => ⟨false, none, .unavailableNonObjectTarget⟩
  | some root, some target =>
    if target.node = root.container then ⟨true, some (js "container"), .foundContainerTarget⟩
    else
      match (findHydrationTargetPathInChildren target.node root.childNodes 0 (js "container")
        [root.container]).1 with
      | some path => ⟨true, some path, .foundInContainerChildList⟩
      | none =>
        if isHydrationTargetDescendantOfRoot root.container target then
          ⟨false, none, .ownedByParentChainNotChildList⟩
        else ⟨false, none, .notContainedInDehydratedRoot⟩

/-- What a scan hands to the inspection of a node. -/
structure HydrationNode where
  depth : Nat
  index : Nat
  nextNode : Option Nat
  nextPath : JsString
  node : Nat
  path : JsString

/-- The state of a scan: the nodes it visited with the path it gave to each, and what the
inspections recorded. -/
structure HydrationScan (Inspected : Type) where
  visitedNodes : List (Nat × JsString)
  inspected : Inspected

section Scan

variable {Inspected : Type} (isCompanion : Inspected → JsString → Bool)
  (inspectHydrationNode : HydrationNode → Inspected → Inspected)

/-- The walk over a rest of the child nodes of a parent.  A companion is not inspected. -/
def scanChildNodes :
    ChildNodes → Nat → JsString → Nat → HydrationScan Inspected → HydrationScan Inspected
  | .nil, _, _, _, state => state
  | .cons node childNodes siblings, index, parentPath, depth, state =>
    if node ∈ state.visitedNodes.map Prod.fst then
      scanChildNodes siblings (index + 1) parentPath depth state
    else
      let path := childPath parentPath index
      let visited : HydrationScan Inspected :=
        { visitedNodes := state.visitedNodes ++ [(node, path)]
          inspected :=
            if isCompanion state.inspected path then state.inspected
            else inspectHydrationNode
              ⟨depth, index, siblings.first, childPath parentPath (index + 1), node, path⟩
              state.inspected }
      scanChildNodes siblings (index + 1) parentPath depth
        (scanChildNodes childNodes 0 path (depth + 1) visited)

end Scan

inductive HydrationNodePathStatus where
  | missingNode
  | resolved
  | resolvedPathMismatch

structure HydrationNodePath (NodeInfo : Type) where
  path : JsString
  resolvedPath : JsString
  status : HydrationNodePathStatus
  node : Option Nat
  nodeInfo : Option NodeInfo
  parentNode : Option Nat
  parentPath : Option JsString
  index : Option Nat
  segmentCount : Nat

section Resolution

variable {NodeInfo : Type} (createNodeInfo : Nat → NodeInfo)

def resolveSegments (path : JsString) (segmentCount : Nat) :
    List Nat → Nat → ChildNodes → Option Nat → Option JsString → JsString → Option Nat →
      HydrationNodePath NodeInfo
  | [], node, _, parentNode, parentPath, resolvedPath, index =>
    ⟨path, resolvedPath, if resolvedPath = path then .resolved else .resolvedPathMismatch, node,
      createNodeInfo node, parentNode, parentPath, index, segmentCount⟩
  | childIndex :: segments, node, childNodes, _, _, resolvedPath, _ =>
    let childPath := childPath resolvedPath childIndex
    match childNodes.item childIndex with
    | none => ⟨path, childPath, .missingNode, none, none, node, resolvedPath, childIndex,
        segmentCount⟩
    | some child => resolveSegments path segmentCount segments child.1 child.2 node resolvedPath
        childPath childIndex

/-- The container is a valid one. -/
def resolveHydrationContainerNodePath (tree : DomTree) (path : JsString) :
    Option (HydrationNodePath NodeInfo) :=
  (parseHydrationContainerChildPath decimalValue path).map fun segments =>
    resolveSegments createNodeInfo path segments.length segments tree.container tree.childNodes
      none none (js "container") none

end Resolution

namespace ChildNodes

theorem map_paths (children : ChildNodes) (index : Nat) (parentPath : JsString) :
    (children.paths index parentPath).map Prod.fst = children.nodes := by
  induction children generalizing index parentPath with
  | nil => rfl
  | cons node childNodes siblings below beside => simp [paths, nodes, below, beside]

theorem findHydrationTargetPathInChildren_eq (target : Nat) (children : ChildNodes) (index : Nat)
    (parentPath : JsString) (visited : List Nat) (distinct : children.nodes.Nodup)
    (unvisited : ∀ node ∈ children.nodes, node ∉ visited) :
    let found := findHydrationTargetPathInChildren target children index parentPath visited
    found.1 = (children.paths index parentPath).lookup target ∧
      (found.1 = none → found.2 = children.nodes.reverse ++ visited) := by
  induction children generalizing index parentPath visited with
  | nil => simp [findHydrationTargetPathInChildren, paths, nodes]
  | cons node childNodes siblings below beside =>
    simp only [nodes, nodup_cons, nodup_append, mem_append, mem_cons] at distinct unvisited
    obtain ⟨fresh, distinctBelow, distinctBeside, apart⟩ := distinct
    simp only [findHydrationTargetPathInChildren, paths, nodes, lookup_cons, lookup_append]
    by_cases same : node = target
    · simp [same]
    rw [if_neg same, if_neg (unvisited node (.inl rfl)), beq_eq_false_iff_ne.mpr (Ne.symm same)]
    obtain ⟨foundBelow, leftBelow⟩ := below 0 (childPath parentPath index) (node :: visited)
      distinctBelow (by grind)
    cases belowPath : (childNodes.paths 0 (childPath parentPath index)).lookup target with
    | some path => simp [foundBelow, belowPath]
    | none =>
      rw [belowPath] at foundBelow
      obtain ⟨foundBeside, leftBeside⟩ := beside (index + 1) parentPath
        (childNodes.nodes.reverse ++ node :: visited) distinctBeside (by grind)
      rw [if_neg (by simp [foundBelow]), leftBelow foundBelow, foundBeside]
      exact ⟨rfl, fun missing => by simpa using leftBeside (foundBeside.trans missing)⟩

theorem visitedNodes_scanChildNodes {Inspected : Type} (isCompanion : Inspected → JsString → Bool)
    (inspectHydrationNode : HydrationNode → Inspected → Inspected) (children : ChildNodes)
    (index : Nat) (parentPath : JsString) (depth : Nat) (state : HydrationScan Inspected)
    (distinct : (state.visitedNodes.map Prod.fst ++ children.nodes).Nodup) :
    (scanChildNodes isCompanion inspectHydrationNode children index parentPath depth
      state).visitedNodes = state.visitedNodes ++ children.paths index parentPath := by
  induction children generalizing index parentPath depth state with
  | nil => simp [scanChildNodes, paths]
  | cons node childNodes siblings below beside =>
    simp only [nodes] at distinct
    have fresh : node ∉ state.visitedNodes.map Prod.fst := by
      grind
    simp only [scanChildNodes, if_neg fresh]
    rw [beside, below, paths]
    · simp
    · exact distinct.sublist (by simp)
    · rw [below]
      · simpa [map_paths] using distinct
      · exact distinct.sublist (by simp)

/-- The path of a node leads back to it, also from a rest of the child nodes of a parent. -/
theorem resolveSegments_of_mem {NodeInfo : Type} (createNodeInfo : Nat → NodeInfo) {node : Nat}
    {path : JsString} (whole children : ChildNodes) (index : Nat) (parentPath : JsString)
    (held : ∀ offset, whole.item (index + offset) = children.item offset)
    (member : (node, path) ∈ children.paths index parentPath) :
    ∃ segments, segments ≠ [] ∧ segments.foldl childPath parentPath = path ∧
      ∀ segmentCount parent grandparent above last,
        let resolution := resolveSegments createNodeInfo path segmentCount segments parent whole
          grandparent above parentPath last
        resolution.node = some node ∧ resolution.status = .resolved := by
  induction children generalizing whole index parentPath with
  | nil => cases member
  | cons first childNodes siblings below beside =>
    have here : whole.item index = some (first, childNodes) := held 0
    simp only [paths, mem_cons, mem_append, Prod.mk.injEq] at member
    rcases member with ⟨rfl, rfl⟩ | member | member
    · exact ⟨[index], cons_ne_nil _ _, rfl, by simp [resolveSegments, here]⟩
    · obtain ⟨segments, -, leads, resolves⟩ := below childNodes 0 _ (by simp) member
      refine ⟨index :: segments, cons_ne_nil _ _, leads, fun segmentCount parent _ _ _ => ?_⟩
      simp only [resolveSegments, here]
      exact resolves segmentCount first (some parent) (some parentPath) (some index)
    · refine beside whole (index + 1) parentPath (fun offset => ?_) member
      rw [add_right_comm]
      exact held (offset + 1)

end ChildNodes

/-- A path that was formed from indices is read as these. -/
theorem childPathLoop_segments (indices segments : List Nat) :
    childPathLoop decimalValue (indices.flatMap fun index => pathSegment (decimal index)) segments =
      some (segments ++ indices) := by
  induction indices generalizing segments with
  | nil =>
    rw [childPathLoop]
    simp
  | cons index rest ih =>
    have nonempty : pathSegment (decimal index) ++
        rest.flatMap (fun index => pathSegment (decimal index)) ≠ [] := by simp [pathSegment, js]
    rw [flatMap_cons, childPathLoop, dif_pos nonempty, matchPathPattern_append]
    simp [ih, decimalValue_decimal]

theorem foldl_childPath (indices : List Nat) (parentPath : JsString) :
    indices.foldl childPath parentPath =
      parentPath ++ indices.flatMap fun index => pathSegment (decimal index) := by
  induction indices generalizing parentPath with
  | nil => simp
  | cons index rest ih => simp [ih, childPath]

theorem parseHydrationContainerChildPath_foldl {indices : List Nat} (nonempty : indices ≠ []) :
    parseHydrationContainerChildPath decimalValue (indices.foldl childPath (js "container")) =
      some indices := by
  rw [parseHydrationContainerChildPath, foldl_childPath, if_pos (prefix_append _ _), drop_left,
    childPathLoop_segments, nil_append]
  split
  · next none =>
    exact absurd (some.inj none) nonempty
  · rfl

/-- The event system and the marker parser agree on paths. -/
theorem hydration_paths_agree {Inspected NodeInfo : Type} (tree : DomTree)
    (isCompanion : Inspected → JsString → Bool)
    (inspectHydrationNode : HydrationNode → Inspected → Inspected) (inspected : Inspected)
    (createNodeInfo : Nat → NodeInfo) :
    (∀ target : DomTarget, target.node ∈ tree.childNodes.nodes →
      ∃ path resolution,
        findHydrationTargetPath (some tree) (some target) =
          ⟨true, some path, .foundInContainerChildList⟩ ∧
        (scanChildNodes isCompanion inspectHydrationNode tree.childNodes 0 (js "container") 0
          ⟨[], inspected⟩).visitedNodes.lookup target.node = some path ∧
        resolveHydrationContainerNodePath createNodeInfo tree path = some resolution ∧
        resolution.node = some target.node ∧ resolution.status = .resolved) ∧
    (∀ target : DomTarget, target.node ∉ tree.container :: tree.childNodes.nodes →
      (findHydrationTargetPath (some tree) (some target)).found = false) ∧
    ∀ (Index : Type) (number : JsString → Index) (path : JsString), path ≠ js "container" →
      parseHydrationContainerPathSegments number path =
        parseHydrationContainerChildPath number path := by
  obtain ⟨container, children, distinct⟩ := tree
  obtain ⟨apart, distinctBelow⟩ := nodup_cons.mp distinct
  have searched : ∀ target, (findHydrationTargetPathInChildren target children 0 (js "container")
      [container]).1 = (children.paths 0 (js "container")).lookup target := by
    intro target
    refine (children.findHydrationTargetPathInChildren_eq target 0 _ _ distinctBelow ?_).1
    intro node member
    rw [mem_singleton]
    rintro rfl
    exact apart member
  have scanned : (scanChildNodes isCompanion inspectHydrationNode children 0 (js "container") 0
      ⟨[], inspected⟩).visitedNodes = children.paths 0 (js "container") := by
    rw [children.visitedNodes_scanChildNodes isCompanion inspectHydrationNode]
    · rfl
    · simpa using distinctBelow
  have listed : ∀ target, (children.paths 0 (js "container")).lookup target = none ↔
      target ∉ children.nodes := by
    intro target
    rw [← children.map_paths 0 (js "container"), lookup_eq_none_iff]
    grind
  refine ⟨fun target member => ?_, fun target absent => ?_, fun Index number path below => ?_⟩
  · have different : target.node ≠ container := fun same => apart (same ▸ member)
    obtain ⟨path, found⟩ := Option.ne_none_iff_exists'.mp
      (mt (listed target.node).mp (not_not_intro member))
    obtain ⟨before, behind, shape, -⟩ := lookup_eq_some_iff.mp found
    obtain ⟨segments, nonempty, rfl, resolves⟩ := ChildNodes.resolveSegments_of_mem createNodeInfo
      children children 0 (js "container") (by simp)
      (shape ▸ mem_append_right before mem_cons_self)
    refine ⟨_, _, ?_, scanned ▸ found, ?_,
      resolves segments.length container none none none⟩
    · simp [findHydrationTargetPath, different, searched, found]
    · rw [resolveHydrationContainerNodePath, parseHydrationContainerChildPath_foldl nonempty]
      rfl
  · simp only [mem_cons, not_or] at absent
    have missing := (listed target.node).mpr absent.2
    simp only [findHydrationTargetPath, if_neg absent.1, searched, missing]
    split <;> rfl
  · exact parseHydrationContainerPathSegments_eq number below

end FastReact
