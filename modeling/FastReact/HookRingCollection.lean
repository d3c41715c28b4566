import FastReact.HookStateQueueRings

namespace FastReact

open ErrorState HookQueueStore LinkChain LinkedArena List

/-!
# Collecting a ring

Whatever the links of a store look like, the loop that collects a ring ends within one round
more than there are slots.  It succeeds for a ring through the tail and for nothing else.
-/

variable {State Action ReducerId DispatchId : Type}

namespace HookQueueStore

variable {store : HookQueueStore State Action ReducerId DispatchId} {id tail first : HookUpdateId}
  {ids : List HookUpdateId}

theorem next?_of_nextInRing_eq_ok {next : HookUpdateId} (linked : store.nextInRing id = .ok next) :
    store.updates.next? id = some next := by
  obtain ⟨update, resolved, rest⟩ := bind_eq_ok_iff.mp linked
  have found := get?_of_update_eq_ok resolved
  rw [LinkedArena.next?, found]
  cases linkShape : update.next with
  | none => simp [linkShape] at rest
  | some other => simpa [linkShape] using rest

/-- The loop, without a result when the rounds do not suffice. -/
def collectRingIdsWithin (store : HookQueueStore State Action ReducerId DispatchId)
    (tail first : HookUpdateId) :
    Nat → HookUpdateId → List HookUpdateId → Option (Except HookQueueError (List HookUpdateId))
  | 0, _, _ => none
  | rounds + 1, next, ids =>
    match store.validateUpdateId next with
    | .error error => some (.error error)
    | .ok _ =>
      if next ∈ ids then some (if next = first then .ok ids else .error (.corruptRing tail))
      else
        match store.nextInRing next with
        | .error error => some (.error error)
        | .ok following =>
          if following = first then some (.ok (ids ++ [next]))
          else if (ids ++ [next]).length > store.updates.slots.length then
            some (.error (.corruptRing tail))
          else collectRingIdsWithin store tail first rounds following (ids ++ [next])

/-- The links of distinct members lead from the link of the tail back to it, through the tail. -/
structure ReturnsThrough (next : HookUpdateId → Option HookUpdateId) (tail : HookUpdateId)
    (ids : List HookUpdateId) : Prop where
  nodup : ids.Nodup
  linked : ids.IsChain fun earlier later => next earlier = some later
  starts : next tail = ids.head?
  returns : ∃ last, ids.getLast? = some last ∧ next last = ids.head?
  through : tail ∈ ids

/-- Only one member links back to the first, as those before the last link to later ones. -/
theorem ReturnsThrough.isRing {next : HookUpdateId → Option HookUpdateId}
    (returned : ReturnsThrough next tail ids) : IsRing next tail ids := by
  obtain ⟨before, after, rfl⟩ := mem_iff_append.mp returned.through
  cases after with
  | nil => exact ⟨⟨returned.nodup, returned.linked, by simp⟩, returned.starts⟩
  | cons other rest =>
    have linked : next tail = some other :=
      (isChain_cons_cons.mp (isChain_append.mp returned.linked).2.1).1
    have starts := returned.starts
    rw [linked] at starts
    have distinct := returned.nodup
    cases before with
    | nil =>
      obtain rfl : other = tail := by simpa using starts
      simp at distinct
    | cons head earlier =>
      obtain rfl : other = head := by simpa using starts
      simp at distinct

theorem returnsThrough_of_isRing (ring : IsRing store.updates.next? tail ids) :
    ReturnsThrough store.updates.next? tail ids where
  nodup := ring.nodup
  linked := ring.linked
  starts := ring.closed
  returns := ⟨tail, ring.last, ring.closed⟩
  through := ring.tail_mem

/-- Every round collects one more member, and the length guard stops the last of them. -/
theorem collectRingIdsWithin_eq (rounds : Nat) :
    ∀ (collected : List HookUpdateId) (next : HookUpdateId),
      store.updates.slots.length < rounds + collected.length →
      collected.length ≤ store.updates.slots.length →
      store.collectRingIdsWithin tail first rounds next collected =
        some (store.collectRingIdsLoop tail first rounds next collected) := by
  induction rounds with
  | zero =>
    intro collected next enough within
    omega
  | succ rounds ih =>
    intro collected next enough within
    rw [collectRingIdsWithin, collectRingIdsLoop]
    cases store.validateUpdateId next with
    | error error => rfl
    | ok =>
      simp only [bind, Except.bind]
      split
      · rfl
      · cases store.nextInRing next with
        | error error => rfl
        | ok following =>
          simp only [gt_iff_lt]
          split
          · rfl
          · split
            · rfl
            · next withinLater =>
              refine ih _ _ ?_ (Nat.le_of_not_lt withinLater)
              simp only [length_append, length_singleton]
              omega

/-- What the loop has collected is a chain of distinct members that the next one is linked behind. -/
theorem returns_of_collectRingIdsLoop (rounds : Nat) :
    ∀ (collected : List HookUpdateId) (next : HookUpdateId),
      (collected ++ [next]).IsChain (fun earlier later => store.updates.next? earlier = some later) →
      collected.Nodup → (collected ++ [next]).head? = some first →
      (next = first → collected = []) →
      store.collectRingIdsLoop tail first rounds next collected = .ok ids →
      ids.Nodup ∧ ids.IsChain (fun earlier later => store.updates.next? earlier = some later) ∧
        ids.head? = some first ∧
        ∃ last, ids.getLast? = some last ∧ store.updates.next? last = some first := by
  induction rounds with
  | zero =>
    intro collected next _ _ _ _ ran
    cases ran
  | succ rounds ih =>
    intro collected next chain distinct starts begins ran
    obtain ⟨_, -, ran⟩ := bind_eq_ok_iff.mp ran
    by_cases seen : next ∈ collected
    · rw [if_pos seen] at ran
      split at ran
      case isTrue isFirst => simp [begins isFirst] at seen
      case isFalse => cases ran
    · rw [if_neg seen] at ran
      obtain ⟨following, linked, ran⟩ := bind_eq_ok_iff.mp ran
      have nextLink := next?_of_nextInRing_eq_ok linked
      have distinctBoth : (collected ++ [next]).Nodup :=
        nodup_append.mpr ⟨distinct, nodup_singleton _, by
          rintro earlier member _ isNext rfl
          exact seen (mem_singleton.mp isNext ▸ member)⟩
      split at ran
      · next back =>
        cases ran
        exact ⟨distinctBoth, chain, starts, next, by simp, back ▸ nextLink⟩
      · next notBack =>
        split at ran
        · cases ran
        · refine ih _ following ?_ distinctBoth ?_ (absurd · notBack) ran
          · refine isChain_append.mpr ⟨chain, isChain_singleton _, ?_⟩
            simpa using nextLink
          · rw [head?_append, starts]
            rfl

theorem isRing_of_collectRingIds_eq_ok (ran : store.collectRingIds tail = .ok ids) :
    IsRing store.updates.next? tail ids := by
  obtain ⟨_, -, ran⟩ := bind_eq_ok_iff.mp ran
  obtain ⟨first, linked, ran⟩ := bind_eq_ok_iff.mp ran
  obtain ⟨_, -, ran⟩ := bind_eq_ok_iff.mp ran
  obtain ⟨collected, looped, ran⟩ := bind_eq_ok_iff.mp ran
  obtain ⟨distinct, chain, starts, last, isLast, back⟩ := returns_of_collectRingIdsLoop _ [] first
    (isChain_singleton _) nodup_nil rfl (fun _ => rfl) looped
  split at ran
  · next inside =>
    cases ran
    refine ReturnsThrough.isRing ⟨distinct, chain, ?_, ⟨last, isLast, back.trans starts.symm⟩, inside⟩
    rw [next?_of_nextInRing_eq_ok linked, starts]
  · cases ran

theorem live_of_isRing (ring : IsRing store.updates.next? tail ids) :
    ∀ id ∈ ids, ∃ data, store.updates.data? id = some data := by
  intro id member
  obtain ⟨successor, -, linked⟩ := ring.next_mem member
  obtain ⟨node, found, -⟩ := Option.bind_eq_some_iff.mp linked
  exact ⟨node.data, by simp [data?, found]⟩

theorem collectRingIds_of_isRing (ring : IsRing store.updates.next? tail ids) :
    store.collectRingIds tail = .ok ids := by
  obtain ⟨updates, holds⟩ := Holds.exists_of_live (live_of_isRing ring)
  exact collectRingIds_eq_ok ⟨ring, holds⟩

/-- For any links the loop ends, and a ring is collected exactly when there is one through the tail. -/
theorem collectRingIds_total_and_exact (store : HookQueueStore State Action ReducerId DispatchId)
    (tail : HookUpdateId) :
    (∀ first, store.collectRingIdsWithin tail first (store.updates.slots.length + 1) first [] =
      some (store.collectRingIdsLoop tail first (store.updates.slots.length + 1) first [])) ∧
      ∀ ids, (store.collectRingIds tail = .ok ids ↔ ReturnsThrough store.updates.next? tail ids) ∧
        (store.collectRingIds tail = .ok ids →
          ids.head? = store.updates.next? tail ∧ ids.getLast? = some tail) := by
  refine ⟨fun first => collectRingIdsWithin_eq _ [] first (by simp) (by simp), fun ids => ⟨?_, ?_⟩⟩
  · constructor
    · exact fun ran => returnsThrough_of_isRing (isRing_of_collectRingIds_eq_ok ran)
    · exact fun returned => collectRingIds_of_isRing returned.isRing
  · intro ran
    have ring := isRing_of_collectRingIds_eq_ok ran
    exact ⟨ring.closed.symm, ring.last⟩

end HookQueueStore

end FastReact
