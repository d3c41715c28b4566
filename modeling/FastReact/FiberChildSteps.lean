import FastReact.FiberTopologySteps

namespace FastReact

open ErrorState FiberNode LinkWalk List

/-!
# What the operations on children do

Setting the children of a fiber checks all of them first and then relinks the chain: the
old children that are left out are detached, the new ones attached in their order.
Marking a child for deletion takes it out of the chain of its parent, if it is in it, and
adds it to the deletion list of the parent.
-/

/-- The node of a fiber after another one was recorded as deleted. -/
def FiberNode.recordDeletion (node : FiberNode) (parent deleted : FiberId)
    (listId : DeletionListId) (id : FiberId) : FiberNode :=
  let listed := if id = parent then
    (node.setDeletions (some listId)).mergeFlags FiberFlags.childDeletion else node
  if id = deleted then (listed.setReturnFiber (some parent)).setSibling none else listed

namespace FiberArena

variable {arena : FiberArena} {id parent child : FiberId} {oldChildren children : List FiberId}

structure AcceptsChild (arena : FiberArena) (parent child : FiberId) : Prop where
  different : parent ≠ child
  notAncestor : arena.isAncestor child parent = .ok false
  unowned : ∃ node, arena.get? child = some node ∧
    (node.returnFiber = none ∨ node.returnFiber = some parent)

/-- The checks of the new children all pass. -/
def ValidatesChildren (arena : FiberArena) (parent : FiberId) (children : List FiberId) : Prop :=
  children.foldlM (arena.validateNewChild parent) [] = .ok children

theorem AcceptsChild.isLive (accepted : arena.AcceptsChild parent child) : arena.IsLive child := by
  obtain ⟨node, live, -⟩ := accepted.unowned
  exact ⟨node, live⟩

theorem of_validateNewChild {seen after : List FiberId}
    (valid : arena.validateNewChild parent seen child = .ok after) :
    child ∉ seen ∧ after = seen ++ [child] ∧ arena.AcceptsChild parent child := by
  rw [validateNewChild] at valid
  cases found : arena.get child with
  | error error =>
    rw [found] at valid
    cases valid
  | ok node =>
    have live := get_eq_ok_iff.mp found
    rw [found, rejectSelfLink] at valid
    by_cases same : parent = child
    · rw [if_pos same] at valid
      cases valid
    · rw [if_neg same] at valid
      change (if child ∈ seen then _ else _) = _ at valid
      split at valid
      · cases valid
      · rename_i unseen
        cases searched : arena.isAncestor child parent with
        | error error =>
          rw [searched] at valid
          cases valid
        | ok isAncestor =>
          rw [searched] at valid
          cases isAncestor with
          | true =>
            cases valid
          | false =>
            cases owner : node.returnFiber with
            | none =>
              rw [owner] at valid
              cases valid
              exact ⟨unseen, rfl, same, searched, node, live, .inl owner⟩
            | some currentParent =>
              rw [owner] at valid
              change (if currentParent ≠ parent then _ else _) = _ at valid
              split at valid
              · cases valid
              · rename_i isParent
                cases valid
                rw [not_not.mp isParent] at owner
                exact ⟨unseen, rfl, same, searched, node, live, .inr owner⟩

theorem of_validateNewChildren {seen after : List FiberId}
    (valid : children.foldlM (arena.validateNewChild parent) seen = .ok after) :
    after = seen ++ children ∧ (∀ child ∈ children, child ∉ seen) ∧ children.Nodup ∧
      ∀ child ∈ children, arena.AcceptsChild parent child := by
  induction children generalizing seen with
  | nil =>
    cases valid
    exact ⟨by simp, by simp, nodup_nil, by simp⟩
  | cons child rest ih =>
    rw [foldlM_cons] at valid
    cases checked : arena.validateNewChild parent seen child with
    | error error =>
      rw [checked] at valid
      cases valid
    | ok seenAfter =>
      rw [checked] at valid
      obtain ⟨unseen, rfl, accepted⟩ := of_validateNewChild checked
      obtain ⟨shape, restUnseen, noDuplicates, restAccepted⟩ := ih valid
      refine ⟨by simp [shape], ?_, ?_, ?_⟩
      · refine forall_mem_cons.mpr ⟨unseen, fun other member earlier => ?_⟩
        exact restUnseen other member (by simp [earlier])
      · refine nodup_cons.mpr ⟨fun again => ?_, noDuplicates⟩
        exact restUnseen child again (by simp)
      · exact forall_mem_cons.mpr ⟨accepted, restAccepted⟩

namespace ValidatesChildren

variable (valid : arena.ValidatesChildren parent children)

include valid

theorem nodup : children.Nodup :=
  (of_validateNewChildren valid).2.2.1

theorem accepts {other : FiberId} (member : other ∈ children) : arena.AcceptsChild parent other :=
  (of_validateNewChildren valid).2.2.2 other member

end ValidatesChildren

/-- The arena after the chain of a parent was relinked. -/
def relink (arena : FiberArena) (parent : FiberId) (oldChildren children : List FiberId) :
    FiberArena :=
  ((arena.changeAll (oldChildren.filter fun oldChild => oldChild ∉ children) (fun id => id)
      fun _ => FiberNode.detached).changeFiber parent (·.setChild children.head?)).changeAll
    children.zipIdx Prod.fst fun entry node => node.attached parent children[entry.2 + 1]? entry.2

theorem isLive_changeAll {Item : Type} {items : List Item} {target : Item → FiberId}
    {change : Item → FiberNode → FiberNode} :
    (arena.changeAll items target change).IsLive id ↔ arena.IsLive id := by
  induction items generalizing arena with
  | nil => rfl
  | cons item rest ih => exact ih.trans isLive_changeFiber

theorem run_relink (parentLive : arena.IsLive parent)
    (oldLive : ∀ child ∈ oldChildren, arena.IsLive child)
    (childrenLive : ∀ child ∈ children, arena.IsLive child) :
    (do
      (oldChildren.filter fun oldChild => oldChild ∉ children).forM fun oldChild =>
        modifyFiber oldChild (·.detached)
      modifyFiber parent (·.setChild children.head?)
      children.zipIdx.forM fun (child, index) =>
        modifyFiber child (·.attached parent children[index + 1]? index)
      : FiberArenaM Unit).run arena = .ok () (arena.relink parent oldChildren children) := by
  have detach := @run_forM_modifyFiber arena FiberId
    (oldChildren.filter fun oldChild => oldChild ∉ children) (fun id => id)
    (fun _ => detached) fun child member => oldLive child (mem_of_mem_filter member)
  obtain ⟨parentNode, parentKept⟩ := isLive_changeAll.mpr parentLive
  rw [run_bind, detach, relink]
  change (modifyFiber parent (·.setChild children.head?) >>= fun _ =>
    children.zipIdx.forM fun (child, index) =>
      modifyFiber child (·.attached parent children[index + 1]? index)
      : FiberArenaM Unit).run _ = _
  rw [run_bind, run_modifyFiber parentKept]
  apply run_forM_modifyFiber
  rintro ⟨child, index⟩ member
  rw [isLive_changeFiber, isLive_changeAll]
  exact childrenLive child (mem_of_getElem? (mem_zipIdx_iff_getElem?.mp member))

theorem run_setChildren (arena : FiberArena) (parent : FiberId) (children : List FiberId) :
    (¬ (arena.ValidatesChildren parent children ∧
        ∃ oldChildren, arena.childIds parent = .ok oldChildren) ∧
      ∃ error, (setChildren parent children).run arena = .error error arena) ∨
    ∃ oldChildren,
      arena.ValidatesChildren parent children ∧
      arena.childIds parent = .ok oldChildren ∧
      (setChildren parent children).run arena =
        .ok () (arena.relink parent oldChildren children) := by
  simp only [setChildren, run_bind, run_query]
  cases parentValid : arena.validateFiberId parent with
  | error error =>
    refine .inl ⟨?_, error, rfl⟩
    rintro ⟨-, oldChildren, collected⟩
    rw [validateFiberId_eq_ok_iff.mpr (childIds_eq_ok_iff.mp collected).1] at parentValid
    cases parentValid
  | ok checked =>
    cases valid : children.foldlM (arena.validateNewChild parent) [] with
    | error error =>
      refine .inl ⟨?_, error, by simp only [valid]⟩
      rintro ⟨validated, -⟩
      rw [ValidatesChildren, valid] at validated
      cases validated
    | ok seen =>
      obtain ⟨shape, -, -, accepted⟩ := of_validateNewChildren valid
      rw [nil_append] at shape
      rw [shape] at valid
      cases collected : arena.childIds parent with
      | error error =>
        refine .inl ⟨?_, error, by simp only [valid, collected]⟩
        rintro ⟨-, oldChildren, collectedOk⟩
        cases collectedOk
      | ok oldChildren =>
        obtain ⟨parentLive, -, oldLive⟩ := childIds_eq_ok_iff.mp collected
        refine .inr ⟨oldChildren, valid, rfl, ?_⟩
        simp only [valid, collected]
        exact run_relink parentLive oldLive fun child member => (accepted child member).isLive

/-! The links after a chain was relinked. -/

section Relink

variable (collected : arena.childIds parent = .ok oldChildren)
  (valid : arena.ValidatesChildren parent children)

include valid in
theorem get?_relink_of_getElem? {index : Nat} (found : children[index]? = some child) :
    (arena.relink parent oldChildren children).get? child =
      (arena.get? child).map (·.attached parent children[index + 1]? index) := by
  have member : (child, index) ∈ children.zipIdx := mem_zipIdx_iff_getElem?.mpr found
  have targets : (children.zipIdx.map Prod.fst).Nodup := by
    rw [zipIdx_map_fst]
    exact valid.nodup
  have isChild : child ∈ children := mem_of_getElem? found
  have different := (valid.accepts isChild).different.symm
  rw [relink, get?_changeAll_of_mem targets member, get?_changeFiber, if_neg different,
    get?_changeAll_of_not_mem]
  simp [isChild]

include collected in
theorem get?_relink_of_left_out (wasChild : id ∈ oldChildren) (leftOut : id ∉ children) :
    (arena.relink parent oldChildren children).get? id =
      (arena.get? id).map fun node =>
        if id = parent then node.detached.setChild children.head? else node.detached := by
  have member : id ∈ oldChildren.filter fun oldChild => oldChild ∉ children := by
    simp [wasChild, leftOut]
  have targets : ((oldChildren.filter fun oldChild => oldChild ∉ children).map
      fun id => id).Nodup := by
    rw [map_id']
    exact (childIds_eq_ok_iff.mp collected).2.1.nodup.filter _
  rw [relink, get?_changeAll_of_not_mem (by simpa using leftOut), get?_changeFiber,
    get?_changeAll_of_mem targets member]
  split
  · rw [Option.map_map]
    rfl
  · rfl

theorem get?_relink_of_not_mem (notOld : id ∉ oldChildren) (notNew : id ∉ children) :
    (arena.relink parent oldChildren children).get? id =
      (arena.get? id).map fun node =>
        if id = parent then node.setChild children.head? else node := by
  rw [relink, get?_changeAll_of_not_mem (by simpa using notNew), get?_changeFiber,
    get?_changeAll_of_not_mem (by simp [notOld])]
  split
  · rfl
  · simp

include collected valid in
theorem get?_relink_cases (id : FiberId) :
    (∃ index, children[index]? = some id ∧ id ≠ parent ∧
      (arena.relink parent oldChildren children).get? id =
        (arena.get? id).map (·.attached parent children[index + 1]? index)) ∨
    (id ∈ oldChildren ∧ id ∉ children ∧
      (arena.relink parent oldChildren children).get? id =
        (arena.get? id).map fun node =>
          if id = parent then node.detached.setChild children.head? else node.detached) ∨
    (id ∉ oldChildren ∧ id ∉ children ∧
      (arena.relink parent oldChildren children).get? id =
        (arena.get? id).map fun node =>
          if id = parent then node.setChild children.head? else node) := by
  by_cases isNew : id ∈ children
  · obtain ⟨index, found⟩ := mem_iff_getElem?.mp isNew
    exact .inl ⟨index, found, (valid.accepts isNew).different.symm,
      get?_relink_of_getElem? valid found⟩
  · by_cases wasOld : id ∈ oldChildren
    · exact .inr (.inl ⟨wasOld, isNew, get?_relink_of_left_out collected wasOld isNew⟩)
    · exact .inr (.inr ⟨wasOld, isNew, get?_relink_of_not_mem wasOld isNew⟩)

include collected valid

theorem bind_get?_relink {β : Type} {projection : FiberNode → Option β}
    (attached : ∀ node parent sibling index,
      projection (node.attached parent sibling index) = projection node)
    (detached : ∀ node, projection node.detached = projection node)
    (setChild : ∀ node child, projection (node.setChild child) = projection node)
    (id : FiberId) :
    ((arena.relink parent oldChildren children).get? id).bind projection =
      (arena.get? id).bind projection := by
  rcases get?_relink_cases collected valid id with
    ⟨index, -, -, changed⟩ | ⟨-, -, changed⟩ | ⟨-, -, changed⟩
  · rw [changed, Option.bind_map]
    congr 1
    funext node
    exact attached node _ _ _
  · rw [changed, Option.bind_map]
    congr 1
    funext node
    by_cases isParent : id = parent
    · simp [isParent, detached, setChild]
    · simp [isParent, detached]
  · rw [changed, Option.bind_map]
    congr 1
    funext node
    by_cases isParent : id = parent
    · simp [isParent, setChild]
    · simp [isParent]

theorem alternate?_relink (id : FiberId) :
    (arena.relink parent oldChildren children).alternate? id = arena.alternate? id :=
  bind_get?_relink collected valid (fun _ _ _ _ => rfl) (fun _ => rfl) (fun _ _ => rfl) id

theorem deletions?_relink (id : FiberId) :
    (arena.relink parent oldChildren children).deletions? id = arena.deletions? id :=
  bind_get?_relink collected valid (fun _ _ _ _ => rfl) (fun _ => rfl) (fun _ _ => rfl) id

theorem child?_relink (id : FiberId) :
    (arena.relink parent oldChildren children).child? id =
      if id = parent then children.head? else arena.child? id := by
  obtain ⟨⟨parentNode, parentLive⟩, -⟩ := childIds_eq_ok_iff.mp collected
  by_cases isParent : id = parent
  · subst isParent
    rw [if_pos rfl]
    rcases get?_relink_cases collected valid id with
      ⟨index, -, different, -⟩ | ⟨-, -, changed⟩ | ⟨-, -, changed⟩
    · exact absurd rfl different
    all_goals
      rw [child?, changed, parentLive]
      simp [setChild]
  · rw [if_neg isParent]
    rcases get?_relink_cases collected valid id with
      ⟨index, -, -, changed⟩ | ⟨-, -, changed⟩ | ⟨-, -, changed⟩
    · rw [child?, child?, changed, Option.bind_map]
      rfl
    all_goals
      rw [child?, child?, changed, Option.bind_map]
      simp only [if_neg isParent]
      rfl

omit collected in
theorem sibling?_relink_of_getElem? {index : Nat} (found : children[index]? = some child) :
    (arena.relink parent oldChildren children).sibling? child = children[index + 1]? := by
  obtain ⟨node, live, -⟩ := (valid.accepts (mem_of_getElem? found)).unowned
  rw [sibling?, get?_relink_of_getElem? valid found, live]
  rfl

omit collected in
theorem returnFiber?_relink_of_mem (isNew : child ∈ children) :
    (arena.relink parent oldChildren children).returnFiber? child = some parent := by
  obtain ⟨index, found⟩ := mem_iff_getElem?.mp isNew
  obtain ⟨node, live, -⟩ := (valid.accepts isNew).unowned
  rw [returnFiber?, get?_relink_of_getElem? valid found, live]
  rfl

omit valid in
theorem links_relink_of_left_out (wasOld : id ∈ oldChildren) (leftOut : id ∉ children) :
    (arena.relink parent oldChildren children).sibling? id = none ∧
      (arena.relink parent oldChildren children).returnFiber? id = none := by
  rw [sibling?, returnFiber?, get?_relink_of_left_out collected wasOld leftOut]
  cases arena.get? id with
  | none => exact ⟨rfl, rfl⟩
  | some node =>
    by_cases isParent : id = parent
    · simp [isParent, detached, setChild]
    · simp [isParent, detached]

omit collected valid in
theorem links_relink_of_not_mem (notOld : id ∉ oldChildren) (notNew : id ∉ children) :
    (arena.relink parent oldChildren children).sibling? id = arena.sibling? id ∧
      (arena.relink parent oldChildren children).returnFiber? id = arena.returnFiber? id := by
  rw [sibling?, returnFiber?, sibling?, returnFiber?, get?_relink_of_not_mem notOld notNew]
  cases arena.get? id with
  | none => exact ⟨rfl, rfl⟩
  | some node =>
    by_cases isParent : id = parent
    · simp [isParent, setChild]
    · simp [isParent]

theorem returnFiber?_relink (id : FiberId) :
    (arena.relink parent oldChildren children).returnFiber? id =
      if id ∈ children then some parent
      else if id ∈ oldChildren then none
      else arena.returnFiber? id := by
  split
  · rename_i isNew
    exact returnFiber?_relink_of_mem valid isNew
  · rename_i notNew
    split
    · rename_i wasOld
      exact (links_relink_of_left_out collected wasOld notNew).2
    · rename_i notOld
      exact (links_relink_of_not_mem notOld notNew).2

omit collected valid in
theorem isLive_relink : (arena.relink parent oldChildren children).IsLive id ↔ arena.IsLive id := by
  rw [relink, isLive_changeAll, isLive_changeFiber, isLive_changeAll]

omit collected valid in
@[simp] theorem deletionLists_relink :
    (arena.relink parent oldChildren children).deletionLists = arena.deletionLists := by
  simp [relink]

theorem childIds_relink :
    (arena.relink parent oldChildren children).childIds parent = .ok children := by
  rw [childIds_eq_ok_iff]
  refine ⟨isLive_relink.mpr (childIds_eq_ok_iff.mp collected).1, ?_, ?_⟩
  · rw [child?_relink collected valid, if_pos rfl]
    apply IsWalk.of_links
    rintro before child after rfl
    have found : (before ++ child :: after)[before.length]? = some child := by simp
    rw [sibling?_relink_of_getElem? valid found, head?_eq_getElem?,
      getElem?_append_right (Nat.le_succ _)]
    simp
  · intro child member
    exact isLive_relink.mpr (valid.accepts member).isLive

end Relink

section OtherChains

variable {other : FiberId} {before behind front rest : List FiberId} {entry : FiberId}
  (collected : arena.childIds parent = .ok oldChildren)
  (valid : arena.ValidatesChildren parent children) (different : other ≠ parent)

include collected valid different

section

variable (members : arena.childIds other = .ok (before ++ entry :: behind))
  (clean : ∀ id ∈ before, id ∉ oldChildren ∧ id ∉ children)
include members clean

theorem childIds_relink_of_divert {onward : List FiberId}
    (walk : IsWalk (arena.relink parent oldChildren children).sibling?
      ((arena.relink parent oldChildren children).sibling? entry) onward)
    (live : ∀ id ∈ onward, arena.IsLive id) :
    (arena.relink parent oldChildren children).childIds other =
      .ok (before ++ entry :: onward) := by
  obtain ⟨otherLive, otherWalk, membersLive⟩ := childIds_eq_ok_iff.mp members
  refine childIds_eq_ok_iff.mpr ⟨isLive_relink.mpr otherLive, ?_, ?_⟩
  · rw [child?_relink collected valid, if_neg different]
    refine otherWalk.divert (fun id member => ?_) walk
    obtain ⟨notOld, notNew⟩ := clean id member
    exact (links_relink_of_not_mem notOld notNew).1
  · intro id member
    rw [isLive_relink]
    rcases mem_append.mp member with earlier | later
    · exact membersLive id (by simp [earlier])
    · rcases mem_cons.mp later with rfl | inside
      · exact membersLive id (by simp)
      · exact live id inside

theorem childIds_relink_of_enter (shape : children = front ++ entry :: rest) :
    (arena.relink parent oldChildren children).childIds other = .ok (before ++ entry :: rest) := by
  subst shape
  have walk := (childIds_eq_ok_iff.mp (childIds_relink collected valid)).2.1
  refine childIds_relink_of_divert collected valid different members clean walk.of_append ?_
  intro id member
  exact (valid.accepts (by simp [member])).isLive

end

section

variable {members : List FiberId} (otherChildren : arena.childIds other = .ok members)
include otherChildren

theorem childIds_relink_of_clean (clean : ∀ id ∈ members, id ∉ oldChildren ∧ id ∉ children) :
    (arena.relink parent oldChildren children).childIds other = .ok members := by
  obtain ⟨live, walk, membersLive⟩ := childIds_eq_ok_iff.mp otherChildren
  refine childIds_eq_ok_iff.mpr ⟨isLive_relink.mpr live, ?_, ?_⟩
  · rw [child?_relink collected valid, if_neg different]
    refine walk.congr fun id member => ?_
    obtain ⟨notOld, notNew⟩ := clean id member
    exact (links_relink_of_not_mem notOld notNew).1
  · exact fun id member => isLive_relink.mpr (membersLive id member)

theorem childIds_relink_cases :
    (arena.relink parent oldChildren children).childIds other = .ok members ∨
    (∃ before entry behind, members = before ++ entry :: behind ∧
      (arena.relink parent oldChildren children).childIds other = .ok (before ++ [entry])) ∨
    ∃ before entry behind front rest, members = before ++ entry :: behind ∧
      (∀ id ∈ before, id ∉ oldChildren ∧ id ∉ children) ∧
      children = front ++ entry :: rest ∧
      (arena.relink parent oldChildren children).childIds other =
        .ok (before ++ entry :: rest) := by
  cases met : members.find? fun id => decide (id ∈ oldChildren ∨ id ∈ children) with
  | none =>
    left
    have clean : ∀ id ∈ members, id ∉ oldChildren ∧ id ∉ children := by
      simpa using find?_eq_none.mp met
    exact childIds_relink_of_clean collected valid different otherChildren clean
  | some entry =>
    right
    obtain ⟨isMet, before, behind, rfl, earlier⟩ := find?_eq_some_iff_append.mp met
    have clean : ∀ id ∈ before, id ∉ oldChildren ∧ id ∉ children := by simpa using earlier
    by_cases isNew : entry ∈ children
    · obtain ⟨front, rest, shape⟩ := mem_iff_append.mp isNew
      exact .inr ⟨before, entry, behind, front, rest, rfl, clean, shape,
        childIds_relink_of_enter collected valid different otherChildren clean shape⟩
    · have wasOld : entry ∈ oldChildren := by simpa [isNew] using isMet
      refine .inl ⟨before, entry, behind, rfl, ?_⟩
      refine childIds_relink_of_divert collected valid different otherChildren clean ?_ (by simp)
      exact (links_relink_of_left_out collected wasOld isNew).1

end

end OtherChains

theorem run_removeChildFromChain (arena : FiberArena) (parent child : FiberId) :
    (∃ error, (removeChildFromChain parent child).run arena = .error error arena) ∨
    ∃ children, arena.childIds parent = .ok children ∧
      (child ∉ children ∧ (removeChildFromChain parent child).run arena = .ok false arena ∨
        child ∈ children ∧
        arena.ValidatesChildren parent (children.filter (· ≠ child)) ∧
        (removeChildFromChain parent child).run arena =
          .ok true ((arena.relink parent children (children.filter (· ≠ child))).changeFiber
            child (·.setSibling none))) := by
  simp only [removeChildFromChain, run_bind, run_query]
  cases collected : arena.childIds parent with
  | error error => exact .inl ⟨error, rfl⟩
  | ok children =>
    have lengths : (children.filter (· ≠ child)).length = children.length ↔
        child ∉ children := by
      rw [length_filter_eq_length_iff]
      constructor
      · intro allKept member
        simpa using allKept child member
      · rintro absent other member
        simp only [ne_eq, decide_not, Bool.not_eq_eq_eq_not, Bool.not_true, decide_eq_false_iff_not]
        rintro rfl
        exact absent member
    by_cases member : child ∈ children
    · have shorter : ¬ (children.filter (· ≠ child)).length = children.length :=
        fun same => lengths.mp same member
      rcases run_setChildren arena parent (children.filter (· ≠ child)) with
        ⟨-, error, refused⟩ | ⟨oldChildren, valid, collectedAgain, ran⟩
      · exact .inl ⟨error, by simp only [if_neg shorter, run_bind, refused]⟩
      · cases collected.symm.trans collectedAgain
        obtain ⟨node, live⟩ := (childIds_eq_ok_iff.mp collected).2.2 child member
        obtain ⟨kept, keptLive⟩ : (arena.relink parent children
            (children.filter (· ≠ child))).IsLive child := isLive_relink.mpr ⟨node, live⟩
        refine .inr ⟨children, rfl, .inr ⟨member, valid, ?_⟩⟩
        simp only [if_neg shorter, run_bind, ran, run_modifyFiber keptLive]
        rfl
    · have same := lengths.mpr member
      refine .inr ⟨children, rfl, .inl ⟨member, ?_⟩⟩
      simp only [if_pos same]
      rfl

variable {lists : List (Option DeletionList)} {nodes : SlotArena FiberNodeTag FiberNode}

theorem deletionList_modify (listId other : DeletionListId) (change : DeletionList → DeletionList) :
    deletionList ⟨nodes, lists.modify listId.index (·.map change)⟩ other =
      if other = listId then (deletionList ⟨nodes, lists⟩ other).map change
      else deletionList ⟨nodes, lists⟩ other := by
  obtain ⟨index⟩ := listId
  obtain ⟨otherIndex⟩ := other
  simp only [deletionList, getElem?_modify, DeletionListId.mk.injEq]
  by_cases same : otherIndex = index
  · subst same
    rw [if_pos rfl]
    rcases lists[otherIndex]? with _ | _ | list <;> simp
  · simp [same, Ne.symm same]

theorem deletionList_set {nodes nodesAfter : SlotArena FiberNodeTag FiberNode}
    (listId other : DeletionListId) :
    deletionList ⟨nodesAfter, lists.set listId.index none⟩ other =
      if other = listId then none else deletionList ⟨nodes, lists⟩ other := by
  obtain ⟨index⟩ := listId
  obtain ⟨otherIndex⟩ := other
  simp only [deletionList, getElem?_set, DeletionListId.mk.injEq]
  by_cases same : otherIndex = index
  · subst same
    rw [if_pos rfl, if_pos rfl]
    split <;> rfl
  · rw [if_neg (Ne.symm same), if_neg same]

theorem deletionList_append (list : DeletionList) (other : DeletionListId) :
    deletionList ⟨nodes, lists ++ [some list]⟩ other =
      if other = ⟨lists.length⟩ then some list else deletionList ⟨nodes, lists⟩ other := by
  obtain ⟨index⟩ := other
  simp only [deletionList, DeletionListId.mk.injEq]
  rcases Nat.lt_trichotomy index lists.length with inside | rfl | outside
  · rw [if_neg (Nat.ne_of_lt inside), getElem?_append_left inside]
  · simp
  · have beyond : lists[index]? = none :=
      getElem?_eq_none_iff.mpr (Nat.le_of_lt outside)
    have grownBeyond : (lists ++ [some list])[index]? = none :=
      getElem?_eq_none_iff.mpr (by simpa using Nat.succ_le_of_lt outside)
    rw [if_neg (Nat.ne_of_gt outside), beyond, grownBeyond]

/-- What marking a fiber changes once it is out of the chain of the parent. -/
structure MarksDeletion (arena after : FiberArena) (parent deleted : FiberId)
    (listId : DeletionListId) : Prop where
  live : ∀ id, after.IsLive id ↔ arena.IsLive id
  child : ∀ id, after.child? id = arena.child? id
  alternate : ∀ id, after.alternate? id = arena.alternate? id
  sibling : ∀ id, after.sibling? id = if id = deleted then none else arena.sibling? id
  returnFiber : ∀ id,
    after.returnFiber? id = if id = deleted then some parent else arena.returnFiber? id
  deletions : ∀ id,
    after.deletions? id = if id = parent then some listId else arena.deletions? id
  list : arena.deletions? parent = some listId ∧ (∃ list, arena.deletionList listId = some list) ∨
    arena.deletions? parent = none ∧ arena.deletionList listId = none
  lists : ∀ other, after.deletionList other =
    if other = listId then
      some (((arena.deletionList listId).getD (DeletionList.new parent)).pushUnique deleted)
    else arena.deletionList other

theorem MarksDeletion.of_nodes {after : FiberArena} {listId : DeletionListId}
    (live : arena.IsLive parent) (deletedLive : arena.IsLive child)
    (own : arena.deletions? parent = some listId ∧
        (∃ list, arena.deletionList listId = some list) ∨
      arena.deletions? parent = none ∧ arena.deletionList listId = none)
    (nodes : ∀ id, after.get? id =
      (arena.get? id).map fun node => node.recordDeletion parent child listId id)
    (lists : ∀ other, after.deletionList other =
      if other = listId then
        some (((arena.deletionList listId).getD (DeletionList.new parent)).pushUnique child)
      else arena.deletionList other) : MarksDeletion arena after parent child listId := by
  refine ⟨?_, ?_, ?_, ?_, ?_, ?_, own, lists⟩
  · intro id
    rw [IsLive, IsLive, nodes]
    cases arena.get? id <;> simp
  · intro id
    rw [child?, child?, nodes]
    cases arena.get? id with
    | none => rfl
    | some node =>
      simp only [recordDeletion]
      split <;> split <;> rfl
  · intro id
    rw [alternate?, alternate?, nodes]
    cases arena.get? id with
    | none => rfl
    | some node =>
      simp only [recordDeletion]
      split <;> split <;> rfl
  · intro id
    rw [sibling?, sibling?, nodes]
    by_cases isDeleted : id = child
    · rw [if_pos isDeleted]
      cases arena.get? id with
      | none => rfl
      | some node => simp [recordDeletion, isDeleted, setSibling]
    · rw [if_neg isDeleted]
      cases arena.get? id with
      | none => rfl
      | some node =>
        simp only [recordDeletion, if_neg isDeleted, Option.map_some]
        split <;> rfl
  · intro id
    rw [returnFiber?, returnFiber?, nodes]
    by_cases isDeleted : id = child
    · obtain ⟨node, found⟩ := deletedLive
      rw [if_pos isDeleted, isDeleted, found]
      simp [recordDeletion, setReturnFiber, setSibling]
    · rw [if_neg isDeleted]
      cases arena.get? id with
      | none => rfl
      | some node =>
        simp only [recordDeletion, if_neg isDeleted, Option.map_some]
        split <;> rfl
  · intro id
    rw [deletions?, deletions?, nodes]
    by_cases isParent : id = parent
    · obtain ⟨node, found⟩ := live
      rw [if_pos isParent, isParent, found]
      simp only [recordDeletion, if_true, Option.map_some]
      split <;> rfl
    · rw [if_neg isParent]
      cases arena.get? id with
      | none => rfl
      | some node =>
        simp only [recordDeletion, if_neg isParent, Option.map_some]
        split <;> rfl

theorem MarksDeletion.of_changeSibling {after : FiberArena} {deleted : FiberId}
    {listId : DeletionListId}
    (marks : MarksDeletion (arena.changeFiber deleted (·.setSibling none)) after parent
      deleted listId) : MarksDeletion arena after parent deleted listId := by
  refine ⟨?_, ?_, ?_, ?_, ?_, ?_, ?_, marks.lists⟩
  · intro id
    exact (marks.live id).trans isLive_changeFiber
  · intro id
    exact (marks.child id).trans (bind_get?_changeFiber (by intro node; rfl) deleted id)
  · intro id
    exact (marks.alternate id).trans (bind_get?_changeFiber (by intro node; rfl) deleted id)
  · intro id
    rw [marks.sibling]
    split
    · rfl
    · rename_i different
      rw [sibling?, get?_changeFiber, if_neg different]
      rfl
  · intro id
    rw [marks.returnFiber, returnFiber?, bind_get?_changeFiber]
    · rfl
    · intro node
      rfl
  · intro id
    rw [marks.deletions, deletions?, bind_get?_changeFiber]
    · rfl
    · intro node
      rfl
  · have own := marks.list
    rw [deletions?, bind_get?_changeFiber] at own
    · exact own
    · intro node
      rfl

theorem run_ensureDeletionList (live : arena.IsLive parent)
    (owned : ∀ list, arena.deletions? parent = some list →
      ∃ deletions, arena.deletionList list = some deletions) :
    ∃ listId after,
      (ensureDeletionList parent).run arena = .ok listId after ∧
      (arena.deletions? parent = some listId ∧
          (∃ list, arena.deletionList listId = some list) ∨
        arena.deletions? parent = none ∧ arena.deletionList listId = none) ∧
      (∀ other, after.get? other =
        if other = parent then (arena.get? other).map (·.setDeletions (some listId))
        else arena.get? other) ∧
      ∀ other, after.deletionList other =
        if other = listId then
          some ((arena.deletionList listId).getD (DeletionList.new parent))
        else arena.deletionList other := by
  obtain ⟨node, parentLive⟩ := live
  rw [deletions?_of_get? parentLive] at owned ⊢
  simp only [ensureDeletionList, run_bind, run_query, get_eq_ok_iff.mpr parentLive]
  cases deletions : node.deletions with
  | some listId =>
    obtain ⟨list, found⟩ := owned listId deletions
    refine ⟨listId, arena, ?_, .inl ⟨rfl, list, found⟩, ?_, ?_⟩
    · simp only [run_bind, run_query, validateDeletionListId, found]
      rfl
    · intro other
      split
      · rename_i isParent
        rw [isParent, parentLive, Option.map_some, setDeletions, ← deletions]
      · rfl
    · intro other
      split
      · rename_i isList
        rw [isList, found]
        rfl
      · rfl
  | none =>
    let grown : FiberArena := { arena with
      deletionLists := arena.deletionLists ++ [some (DeletionList.new parent)] }
    have kept : grown.get? parent = some node := parentLive
    have unused : arena.deletionList ⟨arena.deletionLists.length⟩ = none := by simp [deletionList]
    refine ⟨⟨arena.deletionLists.length⟩, _, ?_, .inr ⟨rfl, unused⟩,
      fun other => get?_changeFiber grown parent other _, ?_⟩
    · simp only [run_bind, run_modifyGet]
      rw [show (⟨arena.nodes, arena.deletionLists ++ [some (DeletionList.new parent)]⟩ :
        FiberArena) = grown from rfl, run_modifyFiber kept]
      rfl
    · intro other
      rw [unused]
      exact deletionList_append _ other

/-- What marking does once the child is unlinked. -/
def recordDeletion (parent deleted : FiberId) : FiberArenaM DeletionListId := do
  let list ← ensureDeletionList parent
  pushDeletion list deleted
  modifyFiber parent (·.mergeFlags FiberFlags.childDeletion)
  modifyFiber deleted fun node => (node.setReturnFiber (some parent)).setSibling none
  return list

/-- Adding a live fiber to the deletion list of its new parent and linking it there. -/
theorem run_recordDeletion (live : arena.IsLive parent) (deletedLive : arena.IsLive child)
    (owned : ∀ list, arena.deletions? parent = some list →
      ∃ deletions, arena.deletionList list = some deletions) :
    ∃ listId after,
      (recordDeletion parent child).run arena = .ok listId after ∧
      MarksDeletion arena after parent child listId := by
  obtain ⟨listId, ensured, ranEnsure, own, nodes, lists⟩ := run_ensureDeletionList live owned
  let pushed : FiberArena := { ensured with
    deletionLists := ensured.deletionLists.modify listId.index (·.map (·.pushUnique child)) }
  have pushedNodes : ∀ other, pushed.get? other = ensured.get? other := fun _ => rfl
  have ranPush : (pushDeletion listId child).run ensured = .ok () pushed := by
    have listed := lists listId
    rw [if_pos rfl] at listed
    simp only [pushDeletion, run_bind, run_query, validateDeletionListId, listed]
    rfl
  obtain ⟨parentNode, parentLive⟩ : pushed.IsLive parent := by
    obtain ⟨node, found⟩ := live
    exact ⟨_, by rw [pushedNodes, nodes, if_pos rfl, found]; rfl⟩
  let flagged := pushed.changeFiber parent (·.mergeFlags FiberFlags.childDeletion)
  obtain ⟨childNode, childLive⟩ : flagged.IsLive child := by
    obtain ⟨node, found⟩ := deletedLive
    rw [isLive_changeFiber, IsLive, pushedNodes, nodes]
    split
    · exact ⟨_, by rw [found]; rfl⟩
    · exact ⟨node, found⟩
  let linked := flagged.changeFiber child fun node =>
    (node.setReturnFiber (some parent)).setSibling none
  refine ⟨listId, linked, ?_, ?_⟩
  · simp only [recordDeletion, run_bind, ranEnsure, ranPush, run_modifyFiber parentLive]
    rw [show FiberArena.changeFiber pushed parent _ = flagged from rfl, run_modifyFiber childLive]
    rfl
  · have linkedNodes : ∀ id, linked.get? id =
        (arena.get? id).map fun node => node.recordDeletion parent child listId id := by
      intro id
      rw [get?_changeFiber, get?_changeFiber, pushedNodes, nodes]
      cases arena.get? id with
      | none => simp
      | some node =>
        by_cases isParent : id = parent
        · by_cases isChild : id = child
          · simp only [FiberNode.recordDeletion, if_pos isParent, if_pos isChild, Option.map_some]
          · simp only [FiberNode.recordDeletion, if_pos isParent, if_neg isChild, Option.map_some]
        · by_cases isChild : id = child
          · simp only [FiberNode.recordDeletion, if_neg isParent, if_pos isChild, Option.map_some]
          · simp only [FiberNode.recordDeletion, if_neg isParent, if_neg isChild, Option.map_some]
    refine .of_nodes live deletedLive own linkedNodes fun other => ?_
    refine (deletionList_modify listId other (·.pushUnique child)).trans ?_
    change (if other = listId then (ensured.deletionList other).map _
      else ensured.deletionList other) = _
    rw [lists]
    split
    · rfl
    · rfl

theorem owned_removeChild (collected : arena.childIds parent = .ok oldChildren)
    (valid : arena.ValidatesChildren parent children)
    (owned : ∀ list, arena.deletions? parent = some list →
      ∃ deletions, arena.deletionList list = some deletions)
    (list : DeletionListId)
    (listed : ((arena.relink parent oldChildren children).changeFiber child
      (·.setSibling none)).deletions? parent = some list) :
    ∃ deletions, ((arena.relink parent oldChildren children).changeFiber child
      (·.setSibling none)).deletionList list = some deletions := by
  have kept : arena.deletions? parent = some list := by
    rw [← deletions?_relink collected valid, ← listed]
    exact (bind_get?_changeFiber (by intro node; rfl) child parent).symm
  obtain ⟨deletions, found⟩ := owned list kept
  refine ⟨deletions, ?_⟩
  rwa [deletionList, deletionLists_changeFiber, deletionLists_relink]

section

variable (arena : FiberArena) (parent deleted : FiberId)

theorem markChildForDeletion_cases :
    (∃ error, (markChildForDeletion parent deleted).run arena = .error error arena) ∨
    ∃ children unlinked,
      (markChildForDeletion parent deleted).run arena =
        (recordDeletion parent deleted).run unlinked ∧
      parent ≠ deleted ∧
      arena.IsLive parent ∧
      arena.IsLive deleted ∧
      arena.childIds parent = .ok children ∧
      (deleted ∉ children ∧ unlinked = arena ∨
        deleted ∈ children ∧
        arena.ValidatesChildren parent (children.filter (· ≠ deleted)) ∧
        unlinked = (arena.relink parent children (children.filter (· ≠ deleted))).changeFiber
          deleted (·.setSibling none)) := by
  simp only [markChildForDeletion, run_bind, run_query]
  cases parentValid : arena.validateFiberId parent with
  | error error => exact .inl ⟨error, rfl⟩
  | ok parentChecked =>
    have parentLive := validateFiberId_eq_ok_iff.mp parentValid
    cases deletedValid : arena.validateFiberId deleted with
    | error error => exact .inl ⟨error, by simp only [deletedValid]⟩
    | ok deletedChecked =>
      have deletedLive := validateFiberId_eq_ok_iff.mp deletedValid
      by_cases same : parent = deleted
      · exact .inl ⟨.selfLink parent "deletion", by
          simp only [deletedValid, rejectSelfLink, if_pos same]⟩
      · cases collected : arena.childIds parent with
        | error error =>
          refine .inl ⟨error, ?_⟩
          simp only [deletedValid, rejectSelfLink, if_neg same, containsInChildChain, collected]
          rfl
        | ok children =>
          have contains : arena.containsInChildChain parent deleted =
              .ok (decide (deleted ∈ children)) := by
            rw [containsInChildChain, collected]
            rfl
          by_cases member : deleted ∈ children
          · rcases run_removeChildFromChain arena parent deleted with
              ⟨error, refused⟩ | ⟨childrenAgain, collectedAgain, removed⟩
            · refine .inl ⟨error, ?_⟩
              simp only [deletedValid, rejectSelfLink, if_neg same, contains, member,
                decide_true, if_true, run_bind, refused]
            · cases collected.symm.trans collectedAgain
              rcases removed with ⟨absent, -⟩ | ⟨-, valid, ranRemove⟩
              · exact absurd member absent
              · refine .inr ⟨children, _, ?_, same, parentLive, deletedLive, rfl,
                  .inr ⟨member, valid, rfl⟩⟩
                simp only [deletedValid, rejectSelfLink, if_neg same, contains, member,
                  decide_true, if_true, run_bind, ranRemove]
                rfl
          · refine .inr ⟨children, arena, ?_, same, parentLive, deletedLive, rfl,
              .inl ⟨member, rfl⟩⟩
            simp only [deletedValid, rejectSelfLink, if_neg same, contains, member]
            rfl

theorem run_markChildForDeletion
    (owned : ∀ list, arena.deletions? parent = some list →
      ∃ deletions, arena.deletionList list = some deletions) :
    (∃ error, (markChildForDeletion parent deleted).run arena = .error error arena) ∨
    ∃ children unlinked listId after,
      (markChildForDeletion parent deleted).run arena = .ok listId after ∧
      parent ≠ deleted ∧
      arena.IsLive deleted ∧
      arena.childIds parent = .ok children ∧
      (deleted ∉ children ∧ unlinked = arena ∨
        deleted ∈ children ∧
        arena.ValidatesChildren parent (children.filter (· ≠ deleted)) ∧
        unlinked = arena.relink parent children (children.filter (· ≠ deleted))) ∧
      MarksDeletion unlinked after parent deleted listId := by
  rcases markChildForDeletion_cases arena parent deleted with refused |
    ⟨children, unlinked, ran, different, parentLive, deletedLive, collected, removed⟩
  · exact .inl refused
  · rw [ran]
    rcases removed with ⟨absent, rfl⟩ | ⟨member, valid, rfl⟩
    · obtain ⟨listId, after, recorded, marks⟩ := run_recordDeletion parentLive deletedLive owned
      exact .inr ⟨children, _, listId, after, recorded, different, deletedLive, collected,
        .inl ⟨absent, rfl⟩, marks⟩
    · obtain ⟨listId, after, recorded, marks⟩ := run_recordDeletion
        (isLive_changeFiber.mpr (isLive_relink.mpr parentLive))
        (isLive_changeFiber.mpr (isLive_relink.mpr deletedLive))
        (owned_removeChild collected valid owned)
      exact .inr ⟨children, _, listId, after, recorded, different, deletedLive, collected,
        .inr ⟨member, valid, rfl⟩, marks.of_changeSibling⟩

end

/-- What clearing a deletion list changes. -/
structure ClearsDeletions (arena after : FiberArena) (parent : FiberId)
    (listId : DeletionListId) : Prop where
  live : ∀ id, after.IsLive id ↔ arena.IsLive id
  child : ∀ id, after.child? id = arena.child? id
  alternate : ∀ id, after.alternate? id = arena.alternate? id
  sibling : ∀ id, after.sibling? id = arena.sibling? id
  returnFiber : ∀ id, after.returnFiber? id = arena.returnFiber? id
  deletions : ∀ id,
    after.deletions? id = if id = parent then none else arena.deletions? id
  lists : ∀ other,
    after.deletionList other = if other = listId then none else arena.deletionList other

theorem run_clearDeletionsAfterCleanup (arena : FiberArena) (parent : FiberId) :
    (∃ error, (clearDeletionsAfterCleanup parent).run arena = .error error arena) ∨
    (clearDeletionsAfterCleanup parent).run arena = .ok () arena ∨
    ∃ listId after,
      (clearDeletionsAfterCleanup parent).run arena = .ok () after ∧
      arena.deletions? parent = some listId ∧
      ClearsDeletions arena after parent listId := by
  simp only [clearDeletionsAfterCleanup, run_bind, run_query]
  cases found : arena.get parent with
  | error error => exact .inl ⟨error, rfl⟩
  | ok node =>
    have live := get_eq_ok_iff.mp found
    cases deletions : node.deletions with
    | none => exact .inr (.inl (by simp only [deletions]; rfl))
    | some listId =>
      cases valid : arena.validateDeletionListId listId with
      | error error => exact .inl ⟨error, by simp only [deletions, run_bind, run_query, valid]⟩
      | ok checked =>
        let cleared : FiberArena := { arena with
          deletionLists := arena.deletionLists.set listId.index none }
        have kept : cleared.get? parent = some node := live
        refine .inr (.inr ⟨listId, cleared.changeFiber parent fun node =>
          (node.setDeletions none).removeFlags FiberFlags.childDeletion, ?_,
          (deletions?_of_get? live).trans deletions, ?_⟩)
        · simp only [deletions, run_bind, run_query, valid, run_modify]
          exact run_modifyFiber kept _
        · refine ⟨fun id => isLive_changeFiber, ?_, ?_, ?_, ?_, ?_, ?_⟩
          · exact bind_get?_changeFiber (by intro node; rfl) parent
          · exact bind_get?_changeFiber (by intro node; rfl) parent
          · exact bind_get?_changeFiber (by intro node; rfl) parent
          · exact bind_get?_changeFiber (by intro node; rfl) parent
          · intro id
            rw [deletions?, get?_changeFiber]
            split
            · rename_i isParent
              rw [isParent, kept]
              rfl
            · rfl
          · intro other
            exact deletionList_set listId other

theorem run_appendChild (arena : FiberArena) (parent child : FiberId) :
    (∃ error, (appendChild parent child).run arena = .error error arena) ∨
    ∃ children, arena.childIds parent = .ok children ∧
      (appendChild parent child).run arena =
        (setChildren parent (children ++ [child])).run arena := by
  simp only [appendChild, run_bind, run_query]
  cases collected : arena.childIds parent with
  | error error => exact .inl ⟨error, rfl⟩
  | ok children => exact .inr ⟨children, rfl, rfl⟩

end FiberArena

end FastReact
