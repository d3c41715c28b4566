import FastReact.BridgeHandleTable

namespace FastReact

open ErrorState List

/-!
# Chunks of a response stream

Each response of a batch is sent as a chunk of metadata and a chunk of payload.  The
validator counts by the kind of a chunk and checks the order that the chunk states.
-/

namespace NativeRootBridgeJsonTransportStream

inductive ChunkKind where
  | metadata
  | payload
deriving DecidableEq

def ChunkKind.code : ChunkKind → String
  | .metadata => "metadata"
  | .payload => "payload"

inductive ResponseStatus where
  | accepted
  | error
deriving DecidableEq

inductive TeardownState where
  | uninitialized
  | active
  | retired
deriving DecidableEq

inductive AssemblyState where
  | incomplete
  | assembled
  | rejected
deriving DecidableEq

inductive TeardownBlocker where
  | none
  | rootRetiredAfterAssembly
  | postTeardownChunkBlocked
deriving DecidableEq

structure BatchRoundtripChunk where
  requestId : Nat
  requestOrder : Nat
  responseOrder : Nat
  sourceEnvironmentId : Option BridgeEnvironmentId
  sourceRootHandle : Option BridgeHandle
  sourceRootId : Option Nat
  chunkOrder : Nat
  batchSequence : Nat
  chunkKind : ChunkKind
  responseStatus : ResponseStatus
  teardownState : TeardownState
deriving DecidableEq

/-- What is reported of a chunk; the fields that all rows share are left out. -/
structure BatchRoundtripChunkRow where
  id : String
  chunk : BatchRoundtripChunk
  assemblyState : AssemblyState
  teardownBlocker : TeardownBlocker
  code : Option String
deriving DecidableEq

def BatchRoundtripChunkRow.accepted (chunk : BatchRoundtripChunk) : BatchRoundtripChunkRow where
  id := "stream-batch-chunk-" ++ toString chunk.batchSequence ++ "-request-" ++
    toString chunk.requestId ++ "-" ++ chunk.chunkKind.code
  chunk := chunk
  assemblyState := if chunk.chunkKind = .payload then .assembled else .incomplete
  teardownBlocker :=
    if chunk.chunkKind = .payload ∧ chunk.teardownState = .retired then
      .rootRetiredAfterAssembly
    else
      .none
  code := none

def rejected {α : Type} (id : String) (chunk : BatchRoundtripChunk) (code : String)
    (teardownBlocker : TeardownBlocker) : Except BatchRoundtripChunkRow α :=
  .error ⟨id, chunk, .rejected, teardownBlocker, some code⟩

/-- The validator between two chunks. -/
structure ChunkValidation where
  rows : List BatchRoundtripChunkRow
  seenChunks : List (Nat × Nat)
  expectedBatchSequence : Nat
  expectedResponseOrder : Nat
  expectedChunkOrder : Nat
  teardownSeen : Bool

namespace ChunkValidation

def new : ChunkValidation :=
  ⟨[], [], 0, 0, 0, false⟩

variable (validation : ChunkValidation) (chunk : BatchRoundtripChunk)

/-- The validator behind an accepted chunk. -/
def push : ChunkValidation where
  rows := validation.rows ++ [.accepted chunk]
  seenChunks := validation.seenChunks ++ [(chunk.responseOrder, chunk.chunkOrder)]
  expectedBatchSequence := validation.expectedBatchSequence + 1
  expectedResponseOrder :=
    validation.expectedResponseOrder + if chunk.chunkKind = .payload then 1 else 0
  expectedChunkOrder := if chunk.chunkKind = .payload then 0 else 1
  teardownSeen := validation.teardownSeen ||
    (chunk.chunkKind = .payload && chunk.teardownState = .retired)

def acceptChunk : Except BatchRoundtripChunkRow ChunkValidation :=
  if chunk.batchSequence ≠ validation.expectedBatchSequence then
    rejected "stream-chunk-out-of-order" chunk
      "FAST_REACT_NAPI_ROOT_RESPONSE_STREAM_CHUNK_OUT_OF_ORDER" .none
  else if validation.teardownSeen then
    rejected "stream-chunk-after-teardown" chunk
      "FAST_REACT_NAPI_ROOT_RESPONSE_STREAM_CHUNK_AFTER_TEARDOWN" .postTeardownChunkBlocked
  else if (chunk.responseOrder, chunk.chunkOrder) ∈ validation.seenChunks then
    rejected "stream-chunk-duplicate" chunk
      "FAST_REACT_NAPI_ROOT_RESPONSE_STREAM_DUPLICATE_CHUNK" .none
  else if chunk.responseOrder ≠ validation.expectedResponseOrder ∨
      chunk.chunkOrder ≠ validation.expectedChunkOrder then
    rejected "stream-chunk-out-of-order" chunk
      "FAST_REACT_NAPI_ROOT_RESPONSE_STREAM_CHUNK_OUT_OF_ORDER" .none
  else
    .ok (validation.push chunk)

/-- The end of the chunks; without a last chunk no response is open. -/
def finish : Option BatchRoundtripChunk →
    Except BatchRoundtripChunkRow (List BatchRoundtripChunkRow)
  | none => .ok validation.rows
  | some previous =>
      if validation.expectedChunkOrder ≠ 0 then
        rejected "stream-chunk-missing"
          { previous with
            chunkOrder := validation.expectedChunkOrder
            batchSequence := validation.expectedBatchSequence
            chunkKind := .payload }
          "FAST_REACT_NAPI_ROOT_RESPONSE_STREAM_MISSING_CHUNK" .none
      else
        .ok validation.rows

end ChunkValidation

def validateBatchRoundtripChunks (chunks : List BatchRoundtripChunk) :
    Except BatchRoundtripChunkRow (List BatchRoundtripChunkRow) := do
  let validation ← chunks.foldlM ChunkValidation.acceptChunk .new
  validation.finish chunks.getLast?

def BatchRoundtripChunk.StandsAt (chunk : BatchRoundtripChunk) (position response : Nat)
    (kind : ChunkKind) (order : Nat) : Prop :=
  chunk.batchSequence = position ∧ chunk.responseOrder = response ∧
    chunk.chunkOrder = order ∧ chunk.chunkKind = kind

/-- The chunks from a position on are the responses from an order on: each has a metadata
chunk of order zero and a payload chunk of order one, or, where that is allowed, a payload
chunk of order zero alone.  Nothing stands behind a payload of a retired root. -/
def AreResponses (alone : Prop) :
    (position response : Nat) → (opened : Bool) → List BatchRoundtripChunk → Prop
  | _, _, opened, [] => opened = false
  | position, response, true, payload :: rest =>
      payload.StandsAt position response .payload 1 ∧
        (payload.teardownState = .retired → rest = []) ∧
        AreResponses alone (position + 1) (response + 1) false rest
  | position, response, false, chunk :: rest =>
      (chunk.StandsAt position response .metadata 0 ∧
        AreResponses alone (position + 1) response true rest) ∨
      (alone ∧ chunk.StandsAt position response .payload 0 ∧
        (chunk.teardownState = .retired → rest = []) ∧
        AreResponses alone (position + 1) (response + 1) false rest)

/-- A chunk that is the payload of a response without metadata. -/
def BatchRoundtripChunk.IsLonePayload (chunk : BatchRoundtripChunk) : Prop :=
  chunk.chunkKind = .payload ∧ chunk.chunkOrder = 0

variable {chunk : BatchRoundtripChunk} {chunks : List BatchRoundtripChunk} {position response : Nat}
  {opened : Bool}

theorem areResponses_paired_iff :
    AreResponses False position response opened chunks ↔
      AreResponses True position response opened chunks ∧ ∀ chunk ∈ chunks,
        ¬ chunk.IsLonePayload := by
  induction chunks generalizing position response opened with
  | nil => simp [AreResponses]
  | cons chunk rest ih =>
    cases opened <;>
      simp only [AreResponses, ih, forall_mem_cons, BatchRoundtripChunk.StandsAt,
        BatchRoundtripChunk.IsLonePayload] <;>
      grind

namespace ChunkValidation

variable {validation next : ChunkValidation}

/-- The validator accepts all chunks and is left with no open response. -/
def Finishes (validation : ChunkValidation) (chunks : List BatchRoundtripChunk) : Prop :=
  ∃ final, chunks.foldlM acceptChunk validation = .ok final ∧ final.expectedChunkOrder = 0

theorem finishes_nil : validation.Finishes [] ↔ validation.expectedChunkOrder = 0 := by
  constructor
  · rintro ⟨final, same, closed⟩
    obtain rfl := Except.ok.inj same
    exact closed
  · exact fun closed => ⟨validation, rfl, closed⟩

theorem finishes_cons :
    validation.Finishes (chunk :: chunks) ↔
      (chunk.batchSequence = validation.expectedBatchSequence ∧
        validation.teardownSeen = false ∧
        (chunk.responseOrder, chunk.chunkOrder) ∉ validation.seenChunks ∧
        chunk.responseOrder = validation.expectedResponseOrder ∧
        chunk.chunkOrder = validation.expectedChunkOrder) ∧
      (validation.push chunk).Finishes chunks := by
  unfold Finishes
  simp only [foldlM_cons, bind_eq_ok_iff, acceptChunk, rejected, guard_eq_ok_iff,
    Except.ok.injEq, not_or, ne_eq, Decidable.not_not, Bool.not_eq_true]
  grind

/-- A second chunk of order one is a duplicate, and without one the response stays open. -/
theorem not_finishes_of_seen (openedTwice : validation.expectedChunkOrder = 1)
    (seen : (validation.expectedResponseOrder, 1) ∈ validation.seenChunks) :
    ¬ validation.Finishes chunks := by
  cases chunks with
  | nil =>
    rw [finishes_nil, openedTwice]
    decide
  | cons chunk rest =>
    rw [finishes_cons]
    grind

theorem finishes_of_teardown (teardownSeen : validation.teardownSeen = true)
    (closed : validation.expectedChunkOrder = 0) : validation.Finishes chunks ↔ chunks = [] := by
  cases chunks with
  | nil =>
    rw [finishes_nil]
    exact iff_of_true closed rfl
  | cons chunk rest =>
    rw [finishes_cons, teardownSeen]
    simp

/-- The validator expects the chunk at a position, in a response that is open or not. -/
structure Expects (validation : ChunkValidation) (position response : Nat) (opened : Bool) :
    Prop where
  sequence : validation.expectedBatchSequence = position
  responseOrder : validation.expectedResponseOrder = response
  order : validation.expectedChunkOrder = opened.toNat
  running : validation.teardownSeen = false
  seen : ∀ pair ∈ validation.seenChunks, pair.1 < response ∨ pair = (response, 0) ∧ opened

theorem Expects.push_metadata (expects : validation.Expects position response false)
    (stands : chunk.StandsAt position response .metadata 0) :
    (validation.push chunk).Expects (position + 1) response true := by
  obtain ⟨rfl, rfl, order, running, seen⟩ := expects
  obtain ⟨here, sameResponse, first, kind⟩ := stands
  constructor <;> simp only [push, kind] <;> grind

theorem Expects.push_payload (expects : validation.Expects position response opened)
    (stands : chunk.StandsAt position response .payload opened.toNat)
    (running : chunk.teardownState ≠ .retired) :
    (validation.push chunk).Expects (position + 1) (response + 1) false := by
  obtain ⟨rfl, rfl, order, before, seen⟩ := expects
  obtain ⟨here, sameResponse, first, kind⟩ := stands
  constructor <;> simp only [push, kind] <;> grind

theorem finishes_iff_areResponses (expects : validation.Expects position response opened) :
    validation.Finishes chunks ↔ AreResponses True position response opened chunks := by
  induction chunks generalizing validation position response opened with
  | nil =>
    rw [finishes_nil, expects.order, AreResponses]
    cases opened <;> decide
  | cons chunk rest ih =>
    have fits : validation.Finishes (chunk :: rest) ↔
        chunk.StandsAt position response chunk.chunkKind opened.toNat ∧
          (validation.push chunk).Finishes rest := by
      obtain ⟨rfl, rfl, order, running, seen⟩ := expects
      rw [finishes_cons, BatchRoundtripChunk.StandsAt, order, running]
      cases opened <;> grind
    -- Behind a payload the next response begins, unless the root was retired.
    have behindPayload (stands : chunk.StandsAt position response .payload opened.toNat) :
        (validation.push chunk).Finishes rest ↔
          (chunk.teardownState = .retired → rest = []) ∧
            AreResponses True (position + 1) (response + 1) false rest := by
      by_cases retired : chunk.teardownState = .retired
      · rw [finishes_of_teardown (by simp [push, stands.2.2.2, retired]) (if_pos stands.2.2.2)]
        constructor
        · rintro rfl
          exact ⟨fun _ => rfl, rfl⟩
        · exact fun ends => ends.1 retired
      · rw [ih (expects.push_payload stands retired)]
        simp [retired]
    rw [fits]
    cases kind : chunk.chunkKind with
    | payload =>
      rw [and_congr_right behindPayload]
      cases opened <;> simp [AreResponses, BatchRoundtripChunk.StandsAt, kind]
    | metadata =>
      cases opened with
      | false =>
        refine (and_congr_right fun stands => ih (expects.push_metadata stands)).trans ?_
        simp [AreResponses, BatchRoundtripChunk.StandsAt, kind]
      | true =>
        refine iff_of_false ?_ fun responses => by
          cases kind.symm.trans responses.1.2.2.2
        rintro ⟨⟨-, here, second, -⟩, finishes⟩
        refine not_finishes_of_seen ?_ ?_ finishes
        · simp [push, kind]
        · simp [push, kind, expects.responseOrder, here, second]

theorem validate_eq_ok_iff :
    (∃ rows, validateBatchRoundtripChunks chunks = .ok rows) ↔
      AreResponses True 0 0 false chunks := by
  have expects : new.Expects 0 0 false := ⟨rfl, rfl, rfl, rfl, by simp [new]⟩
  rw [← finishes_iff_areResponses expects]
  unfold validateBatchRoundtripChunks Finishes
  simp only [bind_eq_ok_iff]
  cases last : chunks.getLast? with
  | none =>
    rw [getLast?_eq_none_iff] at last
    rw [last]
    exact iff_of_true ⟨_, new, rfl, rfl⟩ ⟨new, rfl, rfl⟩
  | some previous =>
    simp only [finish, rejected, guard_eq_ok_iff, Decidable.not_not, Except.ok.injEq, ne_eq]
    grind

end ChunkValidation

end NativeRootBridgeJsonTransportStream

open NativeRootBridgeJsonTransportStream

/-- The validator accepts exactly the chunked responses, unless the chunks are responses of
which some is a lone payload. -/
theorem stream_validator_exact_iff_paired (chunks : List BatchRoundtripChunk) :
    ((∃ rows, validateBatchRoundtripChunks chunks = .ok rows) ↔
        AreResponses False 0 0 false chunks) ↔
      ¬ (AreResponses True 0 0 false chunks ∧ ∃ chunk ∈ chunks, chunk.IsLonePayload) := by
  rw [ChunkValidation.validate_eq_ok_iff, areResponses_paired_iff]
  grind

theorem stream_validator_accepts_lone_payload :
    ¬ ((∃ rows, validateBatchRoundtripChunks
        [⟨1, 0, 0, none, none, none, 0, 0, .payload, .accepted, .active⟩] = .ok rows) ↔
      AreResponses False 0 0 false
        [⟨1, 0, 0, none, none, none, 0, 0, .payload, .accepted, .active⟩]) := by
  intro agrees
  have responses := agrees.mp ⟨_, rfl⟩
  simp [AreResponses, BatchRoundtripChunk.StandsAt] at responses

end FastReact
