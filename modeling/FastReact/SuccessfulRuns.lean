import FastReact.ErrorState
import Mathlib.Data.List.Forall2

/-!
# Runs that succeed

A loop that may fail succeeds when all its rounds do.  This module relates the results of
such a loop to its items, and says what later rounds keep of the results of earlier ones.
-/

namespace ErrorState

open List

variable {ε σ α β γ : Type}

variable {items : List α} {list : α → Except ε (List γ)} {blocks : List (List γ)} {found : List β}
  {keep : γ → Bool} {item : α}

theorem mapM_cons_eq_ok_iff {list : α → Except ε β} {rest : List α} {found : List β} :
    (item :: rest).mapM list = .ok found ↔
      ∃ first later, list item = .ok first ∧ rest.mapM list = .ok later ∧ found = first :: later := by
  rw [mapM_cons, bind_eq_ok_iff]
  constructor
  · rintro ⟨first, listed, ran⟩
    obtain ⟨later, listedLater, finished⟩ := bind_eq_ok_iff.mp ran
    cases finished
    exact ⟨first, later, listed, listedLater, rfl⟩
  · rintro ⟨first, later, listed, listedLater, rfl⟩
    exact ⟨first, listed, bind_eq_ok_iff.mpr ⟨later, listedLater, rfl⟩⟩

section

variable {list : α → Except ε β} (ran : items.mapM list = .ok found)
include ran

/-- The items of a mapping and what was found for them are at the same positions. -/
theorem getElem?_of_mapM_ok
    (index : Nat) : items[index]?.map list = found[index]?.map .ok := by
  induction items generalizing found index with
  | nil =>
    cases ran
    rfl
  | cons item rest ih =>
    obtain ⟨first, later, listed, listedLater, rfl⟩ := mapM_cons_eq_ok_iff.mp ran
    cases index with
    | zero => exact congrArg some listed
    | succ index => exact ih listedLater index

/-- Something was found for every item. -/
theorem exists_value_of_mapM_ok {index : Nat} (isItem : items[index]? = some item) :
    ∃ value, found[index]? = some value ∧ list item = .ok value := by
  have listed := getElem?_of_mapM_ok ran index
  rw [isItem, Option.map_some] at listed
  obtain ⟨value, isFound, isValue⟩ := Option.map_eq_some_iff.mp listed.symm
  exact ⟨value, isFound, isValue.symm⟩

/-- Everything that was found was found for an item. -/
theorem exists_item_of_mapM_ok {index : Nat} {value : β} (isFound : found[index]? = some value) :
    ∃ item, items[index]? = some item ∧ list item = .ok value := by
  have listed := getElem?_of_mapM_ok ran index
  rw [isFound, Option.map_some] at listed
  exact Option.map_eq_some_iff.mp listed

/-- What is said of each item holds of all that was found. -/
theorem map_eq_of_mapM_ok {seen : β → γ} {expected : α → γ}
    (same : ∀ item ∈ items, ∀ value, list item = .ok value → seen value = expected item) :
    found.map seen = items.map expected := by
  induction items generalizing found with
  | nil =>
    cases ran
    rfl
  | cons item rest ih =>
    obtain ⟨first, later, listed, listedLater, rfl⟩ := mapM_cons_eq_ok_iff.mp ran
    rw [map_cons, map_cons, same item mem_cons_self first listed,
      ih listedLater fun other member => same other (mem_cons_of_mem item member)]

end

/-- A fallible mapping succeeds with good values when that is so for every item. -/
theorem mapM_ok_of_forall {visit : α → Except ε β} {good : β → Prop}
    (visits : ∀ item ∈ items, ∃ value, visit item = .ok value ∧ good value) :
    ∃ values, items.mapM visit = .ok values ∧ ∀ value ∈ values, good value := by
  induction items with
  | nil => exact ⟨[], rfl, fun _ member => nomatch member⟩
  | cons item rest ih =>
    obtain ⟨value, visited, isGood⟩ := visits item mem_cons_self
    obtain ⟨values, visitedRest, areGood⟩ := ih fun other member =>
      visits other (mem_cons_of_mem item member)
    refine ⟨value :: values, ?_, forall_mem_cons.mpr ⟨isGood, areGood⟩⟩
    exact mapM_cons_eq_ok_iff.mpr ⟨value, values, visited, visitedRest, rfl⟩

/-- What is in one of the lists found is in the list of one of the items. -/
theorem mem_flatten_iff_of_mapM_ok (ran : items.mapM list = .ok blocks) {entry : γ} :
    entry ∈ blocks.flatten ↔ ∃ item ∈ items, ∃ block, list item = .ok block ∧ entry ∈ block := by
  rw [mem_flatten]
  constructor
  · rintro ⟨block, isBlock, inBlock⟩
    obtain ⟨index, found⟩ := mem_iff_getElem?.mp isBlock
    obtain ⟨item, isItem, listed⟩ := exists_item_of_mapM_ok ran found
    exact ⟨item, mem_of_getElem? isItem, block, listed, inBlock⟩
  · rintro ⟨item, member, block, listed, inBlock⟩
    obtain ⟨index, isItem⟩ := mem_iff_getElem?.mp member
    obtain ⟨other, found, listedOther⟩ := exists_value_of_mapM_ok ran isItem
    rw [listed] at listedOther
    cases listedOther
    exact ⟨block, mem_of_getElem? found, inBlock⟩

/-- What holds of every list found holds of all that is in the lists. -/
theorem forall_mem_flatten_of_mapM_ok {good : γ → Prop} (ran : items.mapM list = .ok blocks)
    (visits : ∀ item ∈ items, ∀ block, list item = .ok block → ∀ entry ∈ block, good entry) :
    ∀ entry ∈ blocks.flatten, good entry := by
  intro entry member
  obtain ⟨item, isItem, block, listed, inBlock⟩ := (mem_flatten_iff_of_mapM_ok ran).mp member
  exact visits item isItem block listed entry inBlock

/-- The entries that are kept are those that are kept of each list. -/
theorem filter_flatten_of_mapM_ok {list kept : α → Except ε (List γ)}
    (ran : items.mapM list = .ok blocks)
    (each : ∀ item ∈ items, ∀ block, list item = .ok block → kept item = .ok (block.filter keep)) :
    ∃ found, items.mapM kept = .ok found ∧ blocks.flatten.filter keep = found.flatten := by
  induction items generalizing blocks with
  | nil =>
    cases ran
    exact ⟨[], rfl, rfl⟩
  | cons item rest ih =>
    obtain ⟨first, later, listed, listedLater, rfl⟩ := mapM_cons_eq_ok_iff.mp ran
    have keptFirst := each item mem_cons_self first listed
    obtain ⟨found, keptLater, same⟩ := ih listedLater fun other member =>
      each other (mem_cons_of_mem item member)
    refine ⟨first.filter keep :: found, ?_, ?_⟩
    · exact mapM_cons_eq_ok_iff.mpr ⟨_, _, keptFirst, keptLater, rfl⟩
    · rw [flatten_cons, filter_append, same, flatten_cons]

section

variable (ran : items.mapM list = .ok blocks)
include ran

/-- Nothing is kept when nothing is kept of any list. -/
theorem filter_flatten_eq_nil_of_mapM_ok
    (each : ∀ item ∈ items, ∀ block, list item = .ok block → block.filter keep = []) :
    blocks.flatten.filter keep = [] := by
  rw [filter_eq_nil_iff]
  exact forall_mem_flatten_of_mapM_ok ran fun item member block listed =>
    filter_eq_nil_iff.mp (each item member block listed)

/-- Where only one item has entries that are kept, these are all that is kept. -/
theorem filter_flatten_of_single (nodup : items.Nodup) (member : item ∈ items)
    (others : ∀ other ∈ items, other ≠ item → ∀ block, list other = .ok block →
      block.filter keep = []) :
    ∃ block, list item = .ok block ∧ blocks.flatten.filter keep = block.filter keep := by
  induction items generalizing blocks with
  | nil =>
    cases member
  | cons first rest ih =>
    obtain ⟨block, later, listed, listedLater, rfl⟩ := mapM_cons_eq_ok_iff.mp ran
    obtain ⟨notBehind, nodupRest⟩ := nodup_cons.mp nodup
    rw [flatten_cons, filter_append]
    rcases mem_cons.mp member with rfl | behind
    · refine ⟨block, listed, ?_⟩
      rw [filter_flatten_eq_nil_of_mapM_ok listedLater, append_nil]
      intro other isOther
      exact others other (mem_cons_of_mem _ isOther) (ne_of_mem_of_not_mem isOther notBehind)
    · have different : first ≠ item := fun same => notBehind (same ▸ behind)
      rw [others first mem_cons_self different block listed, nil_append]
      exact ih listedLater nodupRest behind fun other isOther =>
        others other (mem_cons_of_mem _ isOther)

/-- What is sought is in one of the lists when one of the items has it. -/
theorem mem_map_flatten_iff_of_mapM_ok {δ : Type} {key : γ → δ} {sought : δ} {has : α → Prop}
    (each : ∀ item block, list item = .ok block → (sought ∈ block.map key ↔ has item)) :
    sought ∈ blocks.flatten.map key ↔ ∃ item ∈ items, has item := by
  rw [mem_map]
  constructor
  · rintro ⟨entry, member, isSought⟩
    obtain ⟨item, isItem, block, listed, inBlock⟩ := (mem_flatten_iff_of_mapM_ok ran).mp member
    exact ⟨item, isItem, (each item block listed).mp (mem_map.mpr ⟨entry, inBlock, isSought⟩)⟩
  · rintro ⟨item, isItem, hasIt⟩
    obtain ⟨index, found⟩ := mem_iff_getElem?.mp isItem
    obtain ⟨block, -, listed⟩ := exists_value_of_mapM_ok ran found
    obtain ⟨entry, inBlock, isSought⟩ := mem_map.mp ((each item block listed).mpr hasIt)
    exact ⟨entry, (mem_flatten_iff_of_mapM_ok ran).mpr ⟨item, isItem, block, listed, inBlock⟩, isSought⟩

end

/-- What holds of an entry of a numbered list holds of an item of the list. -/
theorem exists_mem_zipIdx_iff {items : List α} {holds : α → Prop} :
    (∃ entry ∈ items.zipIdx, holds entry.1) ↔ ∃ item ∈ items, holds item := by
  constructor
  · rintro ⟨entry, member, isHeld⟩
    exact ⟨entry.1, fst_mem_of_mem_zipIdx member, isHeld⟩
  · rintro ⟨item, member, isHeld⟩
    obtain ⟨index, found⟩ := mem_iff_getElem?.mp member
    exact ⟨(item, index), mem_zipIdx_iff_getElem?.mpr found, isHeld⟩

/-- A mapping of a state succeeds when every round does; its results stay good when the later
rounds keep them so. -/
theorem run_mapM_of_rounds {relation : σ → σ → Prop} [IsPreorder σ relation]
    {visit : α → EStateM ε σ β} {good : α → β → σ → Prop}
    (kept : ∀ {item value before after},
      good item value before → relation before after → good item value after)
    (round : ∀ item state, ∃ value after,
      (visit item).run state = .ok value after ∧ relation state after ∧ good item value after)
    (items : List α)
    (state : σ) :
    ∃ values after,
      (items.mapM visit).run state = .ok values after ∧ relation state after ∧
      List.Forall₂ (fun item value => good item value after) items values := by
  induction items generalizing state with
  | nil => exact ⟨[], state, rfl, refl_of relation state, .nil⟩
  | cons item rest ih =>
    obtain ⟨value, between, visited, related, isGood⟩ := round item state
    obtain ⟨values, after, visitedRest, relatedOn, areGood⟩ := ih between
    refine ⟨value :: values, after, ?_, trans_of relation related relatedOn,
      .cons (kept isGood relatedOn) areGood⟩
    rw [mapM_cons, EStateM.run_bind, visited]
    change (rest.mapM visit >>= fun later => pure (value :: later)).run between = _
    rw [EStateM.run_bind, visitedRest]
    rfl

/-- A loop whose rounds succeed for certain items only succeeds for lists of such items only. -/
theorem exists_run_foldlM_iff {step : β → α → EStateM ε σ β} {accepted : α → Prop}
    (round : ∀ value item state,
      (∃ next after, (step value item).run state = .ok next after) ↔ accepted item) (items : List α)
    (value : β)
    (state : σ) :
    (∃ last after, (items.foldlM step value).run state = .ok last after) ↔
      ∀ item ∈ items, accepted item := by
  induction items generalizing value state with
  | nil =>
    constructor
    · rintro - _ member
      cases member
    · rintro -
      exact ⟨value, state, rfl⟩
  | cons item rest ih =>
    rw [forall_mem_cons, foldlM_cons]
    constructor
    · rintro ⟨last, after, ran⟩
      obtain ⟨next, between, stepped, ranRest⟩ := run_bind_eq_ok_iff.mp ran
      have accepts := (round value item state).mp ⟨next, between, stepped⟩
      exact ⟨accepts, (ih next between).mp ⟨last, after, ranRest⟩⟩
    · rintro ⟨accepts, acceptsRest⟩
      obtain ⟨next, between, stepped⟩ := (round value item state).mpr accepts
      obtain ⟨last, after, ranRest⟩ := (ih next between).mpr acceptsRest
      exact ⟨last, after, run_bind_eq_ok_iff.mpr ⟨next, between, stepped, ranRest⟩⟩

/-- All that is found for the items. -/
def gather (visit : α → Except ε (List β)) (items : List α) : Except ε (List β) := do
  let blocks ← items.mapM visit
  return blocks.flatten

section Gather

variable {visit : α → Except ε (List β)}

@[simp] theorem gather_nil : gather visit [] = .ok [] :=
  rfl

theorem gather_cons {item : α} :
    gather visit (item :: items) =
      visit item >>= fun block => gather visit items >>= fun later => .ok (block ++ later) := by
  rw [gather, gather, mapM_cons]
  cases visit item with
  | error error => rfl
  | ok block =>
    cases items.mapM visit <;> rfl

@[simp] theorem gather_singleton {item : α} : gather visit [item] = visit item := by
  rw [gather_cons]
  cases visit item with
  | error error => rfl
  | ok block => exact congrArg Except.ok (append_nil block)

theorem gather_append {more : List α} :
    gather visit (items ++ more) =
      gather visit items >>= fun block => gather visit more >>= fun later => .ok (block ++ later) := by
  induction items with
  | nil =>
    rw [nil_append, gather_nil]
    cases gather visit more <;> rfl
  | cons item rest ih =>
    rw [cons_append, gather_cons, gather_cons, ih]
    cases visit item with
    | error error => rfl
    | ok block =>
      cases gather visit rest with
      | error error => rfl
      | ok first =>
        cases gather visit more with
        | error error => rfl
        | ok later => exact congrArg Except.ok (append_assoc block first later).symm

theorem gather_flatMap {lists : γ → List α} (keys : List γ) :
    gather visit (keys.flatMap lists) = gather (fun key => gather visit (lists key)) keys := by
  induction keys with
  | nil => rfl
  | cons key rest ih =>
    rw [flatMap_cons, gather_append, gather_cons, ih]

theorem gather_congr {other : α → Except ε (List β)}
    (same : ∀ item ∈ items, visit item = other item) : gather visit items = gather other items := by
  induction items with
  | nil => rfl
  | cons item rest ih =>
    rw [gather_cons, gather_cons, same item mem_cons_self,
      ih fun other member => same other (mem_cons_of_mem item member)]

/-- Where at most one entry is found for each item, it is found for all or the gathering fails. -/
theorem gather_eq_ok_iff {seen : α → β} {accepted : α → Prop} {found : List β}
    (single : ∀ item ∈ items, ∀ block, visit item = .ok block ↔ accepted item ∧ block = [seen item]) :
    gather visit items = .ok found ↔ (∀ item ∈ items, accepted item) ∧ found = items.map seen := by
  induction items generalizing found with
  | nil =>
    constructor
    · rintro ⟨⟩
      exact ⟨forall_mem_nil _, rfl⟩
    · rintro ⟨-, rfl⟩
      rfl
  | cons item rest ih =>
    have singleRest := fun other member => single other (mem_cons_of_mem item member)
    rw [gather_cons, bind_eq_ok_iff, forall_mem_cons, map_cons]
    constructor
    · rintro ⟨block, visited, ran⟩
      obtain ⟨later, visitedRest, finished⟩ := bind_eq_ok_iff.mp ran
      cases finished
      obtain ⟨isAccepted, rfl⟩ := (single item mem_cons_self block).mp visited
      obtain ⟨areAccepted, rfl⟩ := (ih singleRest).mp visitedRest
      exact ⟨⟨isAccepted, areAccepted⟩, rfl⟩
    · rintro ⟨⟨isAccepted, areAccepted⟩, rfl⟩
      refine ⟨[seen item], (single item mem_cons_self _).mpr ⟨isAccepted, rfl⟩, ?_⟩
      exact bind_eq_ok_iff.mpr ⟨rest.map seen, (ih singleRest).mpr ⟨areAccepted, rfl⟩, rfl⟩

end Gather

end ErrorState
