import FastReact.ContextProviderBeginWork
import Mathlib.Data.List.Forall2

namespace FastReact

open ContextRender ContextStack ErrorState List

/-!
# Balanced providers

Rendering a component leaves the scopes of the context stack and only adds reads of the
values it finds there.  A provider around it adds its provision to every scope below it and
is gone again afterwards, so that what is begun with some providers in turn leaves the
stack as it was and has read the innermost values.
-/

variable {provision : ContextProvision} {snapshot : ContextStackSnapshot}
  {Invoker InvokerError Error α β : Type}

/-- Reads found the values of a stack under some provisions. -/
def ContextStack.Sees (stack : ContextStack) (provisions : List ContextProvision)
    (reads : List FunctionComponentContextReadRecord) : Prop :=
  ∀ read ∈ reads, stack.valueUnder provisions read.context = .ok read.value

theorem ContextStack.SameScopes.sees {stack after : ContextStack}
    {provisions : List ContextProvision} {reads : List FunctionComponentContextReadRecord}
    (same : stack.SameScopes after) (sees : after.Sees provisions reads) :
    stack.Sees provisions reads := by
  intro read member
  rw [← same.valueUnder]
  exact sees read member

namespace FunctionComponentContextRenderStore

/-- The scopes are left as they were, and the reads that were added, one group for each of
the given lists of provisions, found the innermost values. -/
structure Balanced (scopes : List (List ContextProvision))
    (store after : FunctionComponentContextRenderStore) : Prop where
  restored : store.stack.SameScopes after.stack
  reads : ∃ seen : List (List FunctionComponentContextReadRecord),
    after.reads = store.reads ++ seen.flatten ∧ List.Forall₂ store.stack.Sees scopes seen

/-- The scopes are left as they were, and the reads that were added found their values. -/
structure Renders (store after : FunctionComponentContextRenderStore) : Prop where
  kept : store.stack.SameScopes after.stack
  reads : ∃ seen, after.reads = store.reads ++ seen ∧ store.stack.Sees [] seen

variable {store between after : FunctionComponentContextRenderStore}

theorem Renders.refl (store : FunctionComponentContextRenderStore) : Renders store store :=
  ⟨.refl _, [], by simp, by simp [ContextStack.Sees]⟩

theorem Renders.trans (first : Renders store between) (second : Renders between after) :
    Renders store after := by
  obtain ⟨seen, reads, sees⟩ := first.reads
  obtain ⟨later, readsLater, seesLater⟩ := second.reads
  refine ⟨first.kept.trans second.kept, seen ++ later, ?_, ?_⟩
  · rw [readsLater, reads, append_assoc]
  · intro read member
    rcases mem_append.mp member with early | late
    · exact sees read early
    · exact first.kept.sees seesLater read late

instance : IsPreorder FunctionComponentContextRenderStore Renders where
  refl := .refl
  trans _ _ _ := .trans

namespace Balanced

variable {scopes later : List (List ContextProvision)}

theorem refl (scopes : List (List ContextProvision)) (store : FunctionComponentContextRenderStore) :
    Balanced scopes store store := by
  refine ⟨.refl _, scopes.map fun _ => [], ?_, ?_⟩
  · induction scopes with
    | nil => simp
    | cons scope rest ih => exact ih
  · induction scopes with
    | nil => exact .nil
    | cons scope rest ih =>
      refine .cons ?_ ih
      intro read member
      cases member

theorem trans (first : Balanced scopes store between) (second : Balanced later between after) :
    Balanced (scopes ++ later) store after := by
  obtain ⟨seen, reads, sees⟩ := first.reads
  obtain ⟨seenLater, readsLater, seesLater⟩ := second.reads
  refine ⟨first.restored.trans second.restored, seen ++ seenLater, ?_, ?_⟩
  · rw [readsLater, reads, flatten_append, append_assoc]
  · refine rel_append sees (seesLater.imp ?_)
    intro provisions group
    exact first.restored.sees

theorem of_renders (renders : Renders store after) : Balanced [[]] store after := by
  obtain ⟨seen, reads, sees⟩ := renders.reads
  exact ⟨renders.kept, [seen], by rw [reads, flatten_singleton], .cons sees .nil⟩

end Balanced

variable {pushed restored : ContextStack} {scopes : List (List ContextProvision)}

theorem sees_of_push {stack : ContextStack} {provisions : List ContextProvision}
    {reads : List FunctionComponentContextReadRecord}
    (ran : (pushProvider provision.context provision.value).run stack = .ok snapshot pushed)
    (sees : pushed.Sees provisions reads) : stack.Sees (provisions ++ [provision]) reads := by
  intro read member
  rw [← valueUnder_of_push ran]
  exact sees read member

theorem Balanced.of_push
    (ran : (pushProvider provision.context provision.value).run store.stack = .ok snapshot pushed)
    (below : Balanced scopes { store with stack := pushed } between)
    (same : store.stack.SameScopes restored) :
    Balanced (scopes.map fun scope => scope ++ [provision]) store
      { between with stack := restored } := by
  obtain ⟨seen, reads, sees⟩ := below.reads
  refine ⟨same, seen, reads, ?_⟩
  rw [forall₂_map_left_iff]
  refine sees.imp ?_
  intro provisions group
  exact sees_of_push ran

end FunctionComponentContextRenderStore

open FunctionComponentContextRenderStore

namespace ContextRender

def KeepsContexts (world after : ContextRenderWorld Invoker) : Prop :=
  after.contextStore = world.contextStore

def RendersComponents (world after : ContextRenderWorld Invoker) : Prop :=
  Renders world.contextStore after.contextStore

instance : IsPreorder (ContextRenderWorld Invoker) KeepsContexts where
  refl _ := rfl
  trans _ _ _ first second := Eq.trans second first

instance : IsPreorder (ContextRenderWorld Invoker) RendersComponents where
  refl world := .refl world.contextStore
  trans _ _ _ := Renders.trans

theorem KeepsContexts.renders {world after : ContextRenderWorld Invoker}
    (kept : KeepsContexts world after) : RendersComponents world after := by
  unfold RendersComponents
  rw [show after.contextStore = world.contextStore from kept]
  exact .refl _

theorem within_renders {body : ContextRenderM Invoker Error α} (kept : Within KeepsContexts body) :
    Within RendersComponents body :=
  fun world => (kept world).renders

theorem within_onArena (wrap : FiberTopologyError → Error) (body : FiberArenaM α) :
    Within KeepsContexts (onArena wrap body : ContextRenderM Invoker Error α) :=
  .focus fun _ _ => rfl

variable (state : FunctionComponentContextRenderState) (request : ContextProviderBeginWorkRequest)

theorem renders_readContext (context : ContextHandle) :
    Within Renders (readContext state context : EStateM
      (FunctionComponentContextRenderError InvokerError) _ _) := by
  refine .bind_run (.query _) fun store slot asked ran => ?_
  obtain ⟨resolved, rfl⟩ := run_query_eq_ok_iff.mp ran
  refine ⟨.refl _, [_], rfl, ?_⟩
  intro read member
  rw [mem_singleton] at member
  subst member
  exact currentValue_eq_ok_iff.mpr ⟨slot, mapError_eq_ok_iff.mp resolved, rfl⟩

theorem within_readContext (context : ContextHandle) :
    Within RendersComponents (onContextStore id (readContext state context) : ContextRenderM Invoker
      (FunctionComponentContextRenderError InvokerError) _) :=
  .focus_within (.mapError _ (renders_readContext state context)) fun _ _ renders => renders

theorem within_run (program : ContextConsumerProgram Invoker InvokerError) :
    Within RendersComponents (program.run state) := by
  induction program with
  | done invoker result =>
    apply Within.bind
    · exact .modify fun world => .refl world.contextStore
    · exact fun _ => .query _
  | useContext context next ih =>
    apply Within.bind
    · exact .attempt (within_readContext state context)
    · exact fun answer => ih answer

variable (workInProgress : FiberId) (renderLanes : Lanes)

theorem within_prepareRender :
    Within KeepsContexts (prepareRender workInProgress renderLanes : ContextRenderM Invoker
      (FunctionComponentContextRenderError InvokerError) _) := by
  refine .bind (.query _) fun checked => ?_
  refine .bind .get fun world => ?_
  exact .bind (within_onArena _ _) fun _ => .pure _

theorem within_finishRender (request : FunctionComponentContextInvocationRequest)
    (contextReadCount : Nat) (output : FunctionComponentOutputHandle) :
    Within KeepsContexts (finishRender request contextReadCount output : ContextRenderM Invoker
      (FunctionComponentContextRenderError InvokerError) _) := by
  apply Within.bind
  · exact .bind (.query _) fun _ => .modify fun _ => rfl
  · intro assigned
    exact .bind (.query _) fun _ => .pure _

theorem within_renderWithContextReads
    (contexts : List ContextHandle) (invoker : FunctionComponentInvoker Invoker InvokerError) :
    Within RendersComponents
      (renderFunctionComponentWithContextReads workInProgress renderLanes contexts invoker) := by
  refine .bind (within_renders (within_prepareRender _ _)) fun prepared => ?_
  apply Within.bind
  · apply Within.forM
    intro context
    exact .bind (within_readContext _ _) fun _ => .pure _
  · intro read
    refine .bind .get fun world => ?_
    apply Within.bind
    · exact .modify fun world => .refl world.contextStore
    · intro invoked
      refine .bind (.query _) fun output => ?_
      exact .bind .get fun _ => within_renders (within_finishRender _ _ _)

theorem within_renderWithUseContext (expectedContext : Option ContextHandle)
    (invoker : FunctionComponentContextConsumerInvoker Invoker InvokerError) :
    Within RendersComponents
      (renderFunctionComponentWithUseContextImpl workInProgress renderLanes expectedContext
        invoker) := by
  refine .bind (within_renders (within_prepareRender _ _)) fun prepared => ?_
  refine .bind .get fun world => ?_
  refine .bind (within_run _ _) fun output => ?_
  refine .bind (.query _) fun contextRead => ?_
  exact .bind (within_renders (within_finishRender _ _ _)) fun _ => .pure _

theorem within_beginWorkWithContextReads (request : BeginWorkRequest)
    (contexts : List ContextHandle) (invoker : FunctionComponentInvoker Invoker InvokerError) :
    Within RendersComponents (beginWorkWithContextReads request contexts invoker) := by
  exact .bind (.query _) fun _ => .mapError _ (within_renderWithContextReads _ _ _ _)

theorem within_beginWorkUseContext (request : BeginWorkRequest)
    (expectedContext : Option ContextHandle)
    (invoker : FunctionComponentContextConsumerInvoker Invoker InvokerError) :
    Within RendersComponents
      (beginWorkFunctionComponentUseContextImpl request expectedContext invoker) := by
  exact .bind (.query _) fun _ => .mapError _ (within_renderWithUseContext _ _ _ _)

theorem within_beginChild {Record : Type}
    {body : ContextRenderM Invoker (ContextBeginWorkError InvokerError) Record} (child : FiberId)
    (wrap : FiberId → ContextBeginWorkError InvokerError → Error)
    (renders : Within RendersComponents body) :
    Within RendersComponents (beginChild child wrap body) := by
  exact .bind (.mapError _ renders) fun _ => .pure _

theorem within_reconcileSingleChild (render : FunctionComponentContextRenderRecord)
    (resolver : FunctionComponentSingleChildOutputResolver) :
    Within (@KeepsContexts Invoker) (reconcileSingleChild render resolver) := by
  refine .bind (.query _) fun record => ?_
  exact .bind (within_onArena _ _) fun _ => .pure _

section

variable (invoker : FunctionComponentContextConsumerInvoker Invoker InvokerError)

theorem within_visitSubtreeFiber (fiber : FiberId)
    (depth : Nat) (traversal : ContextProviderSubtreeTraversal) :
    Within RendersComponents (visitSubtreeFiber request invoker fiber depth traversal) := by
  refine .bind (.query _) fun node => ?_
  apply Within.ite
  · exact .bind (.mapError _ (within_beginWorkUseContext _ _ _)) fun _ => .pure _
  · apply Within.ite
    · exact .bind (.query _) fun _ => .pure _
    · exact .ite (.pure _) (.throw _)

theorem within_visitSubtreeFibers (remaining : Nat)
    (pending : List (FiberId × Nat)) (traversal : ContextProviderSubtreeTraversal) :
    Within RendersComponents (visitSubtreeFibers request invoker remaining pending traversal) := by
  induction remaining generalizing pending traversal with
  | zero =>
    cases pending with
    | nil => exact .pure _
    | cons next later => exact .throw _
  | succ remaining ih =>
    cases pending with
    | nil => exact .pure _
    | cons next later =>
      exact .bind (within_visitSubtreeFiber _ _ _ _ _) fun visited => ih _ _

theorem within_subtreeChildren :
    Within RendersComponents (beginWorkContextProviderUseContextSubtreeChildren request invoker) := by
  refine .bind (.query _) fun children => ?_
  refine .bind (within_visitSubtreeFibers _ _ _ _ _) fun traversal => ?_
  exact .guard fun _ => .pure _

end

end ContextRender

section Stack

variable {world : ContextRenderWorld Invoker} {stack : ContextStack} {body : ContextStackM α}

theorem ContextRender.run_onContextStack_ok {value : α} (wrap : ContextStackError → Error)
    (ran : body.run world.contextStore.stack = .ok value stack) :
    (onContextStack wrap body).run world =
      .ok value { world with contextStore := { world.contextStore with stack := stack } } := by
  simp only [onContextStack, onContextStore, run_focus, run_mapError, ran]

theorem ContextRender.run_onContextStack_error {error : ContextStackError}
    (wrap : ContextStackError → Error)
    (ran : body.run world.contextStore.stack = .error error stack) :
    (onContextStack wrap body).run world =
      .error (wrap error)
        { world with contextStore := { world.contextStore with stack := stack } } := by
  simp only [onContextStack, onContextStore, run_focus, run_mapError, ran]

theorem ContextRender.exists_run_attempt {ε δ σ : Type} (body : EStateM ε σ α) (state : σ) :
    ∃ outcome, (attempt body : EStateM δ σ (Except ε α)).run state =
      .ok outcome (stateAfter (body.run state)) := by
  rw [run_attempt]
  cases body.run state with
  | ok value after => exact ⟨.ok value, rfl⟩
  | error error after => exact ⟨.error error, rfl⟩

theorem ContextRender.pushProvider_refused {context : ContextHandle} {value : ContextValueHandle}
    {error : ContextStackError} {after : ContextStack}
    (refused : (pushProvider context value).run stack = .error error after) : after = stack := by
  rcases run_pushProvider stack context value with
    ⟨other, unchanged⟩ | ⟨_, _, _, _, _, pushed⟩
  · rw [unchanged] at refused
    cases refused
    rfl
  · rw [pushed] at refused
    cases refused

end Stack

/-- Whatever its outcome, a computation is balanced. -/
def EndsBalanced (scopes : List (List ContextProvision))
    (body : ContextRenderM Invoker Error α) : Prop :=
  ∀ world, Balanced scopes world.contextStore (stateAfter (body.run world)).contextStore

namespace EndsBalanced

variable {scopes later : List (List ContextProvision)} {body : ContextRenderM Invoker Error α}

theorem of_renders (renders : Within RendersComponents body) : EndsBalanced [[]] body :=
  fun world => .of_renders (renders world)

theorem of_keeps (keeps : Within KeepsContexts body) : EndsBalanced scopes body := by
  intro world
  rw [show (stateAfter (body.run world)).contextStore = world.contextStore from keeps world]
  exact .refl _ _

variable {next : α → ContextRenderM Invoker Error β}

theorem bind (first : EndsBalanced scopes body)
    (second : ∀ value, EndsBalanced later (next value)) :
    EndsBalanced (scopes ++ later) (body >>= next) := by
  intro world
  have balanced := first world
  rw [run_bind]
  cases ran : body.run world with
  | ok value after =>
    rw [ran] at balanced
    exact balanced.trans (second value after)
  | error error after =>
    rw [ran] at balanced
    exact balanced.trans (.refl _ _)

theorem andThen (first : EndsBalanced scopes body)
    (second : ∀ value, Within KeepsContexts (next value)) :
    EndsBalanced scopes (body >>= next) := by
  have both : EndsBalanced (scopes ++ []) (body >>= next) :=
    bind first fun value => of_keeps (second value)
  rwa [append_nil] at both

theorem after {first : ContextRenderM Invoker Error β} {next : β → ContextRenderM Invoker Error α}
    (keeps : Within KeepsContexts first) (second : ∀ value, EndsBalanced scopes (next value)) :
    EndsBalanced scopes (first >>= next) :=
  have started : EndsBalanced [] first := of_keeps keeps
  bind started second


variable {beginChildren : ContextRenderM Invoker (FiberId × ContextBeginWorkError InvokerError) α}
  {request : NestedContextProviderBeginWorkRequest} {innerProvider : FiberId}

theorem belowProvider {δ : Type} {wrap : ContextStackError → δ} (inner : EndsBalanced scopes body) :
    EndsBalanced (scopes.map fun scope => scope ++ [provision])
      (beginBelowProvider provision wrap body) := by
  intro world
  cases ran : (pushProvider provision.context provision.value).run world.contextStore.stack with
  | error error refused =>
    cases pushProvider_refused ran
    rw [beginBelowProvider, run_bind, run_onContextStack_error wrap ran]
    exact .refl _ _
  | ok snapshot pushed =>
    rw [beginBelowProvider, run_bind, run_onContextStack_ok wrap ran]
    -- The children start in the scope of the provider.
    generalize inScope : ({ world with
      contextStore := { world.contextStore with stack := pushed } } : ContextRenderWorld Invoker) =
        opened
    have below := inner opened
    obtain ⟨outcome, began⟩ : ∃ outcome, (attempt body : ContextRenderM Invoker δ _).run opened = _ :=
      exists_run_attempt body opened
    have openedStore : opened.contextStore = { world.contextStore with stack := pushed } := by
      rw [← inScope]
    rw [openedStore] at below
    obtain ⟨restored, ranRestore, same⟩ := restoreSnapshot_of_push ran below.restored
    simp only [topFrame, ContextRender.stackDepth, run_bind, run_get, run_pure, began,
      run_attempt (onContextStack id _), run_onContextStack_ok id ranRestore]
    exact .of_push ran below same

theorem contextProvider {Record : Type} {request : ContextProviderBeginWorkRequest}
    {beginChild : FiberId → ContextRenderM Invoker (ContextBeginWorkError InvokerError) Record}
    (renders : ∀ child, Within RendersComponents (beginChild child)) :
    EndsBalanced [[request.toContextProvision]] (beginWorkContextProvider request beginChild) := by
  refine .after (.query _) fun child => ?_
  refine .andThen ?_ fun _ => .query _
  exact .belowProvider (.of_renders (renders child))

theorem nestedContextProviders {Between : Type}
    {beginBetween : ContextRenderM Invoker (BelowOuterError InvokerError) Between}
    (between : EndsBalanced scopes beginBetween)
    (renders : Within RendersComponents beginChildren) :
    EndsBalanced ((scopes ++ [[request.inner]]).map fun scope => scope ++ [request.outer])
      (beginWorkNestedContextProviders request innerProvider beginBetween beginChildren) := by
  refine .andThen (.belowProvider ?_) fun _ => .query _
  refine .bind between fun _ => ?_
  refine .andThen ?_ fun _ => .pure _
  exact .belowProvider (.of_renders renders)

theorem nestedContextProviders_only (renders : Within RendersComponents beginChildren) :
    EndsBalanced [[request.inner, request.outer]]
      (beginWorkNestedContextProviders request innerProvider (pure ()) beginChildren) := by
  have nothing : EndsBalanced []
      (pure () : ContextRenderM Invoker (BelowOuterError InvokerError) Unit) :=
    of_keeps (.pure ())
  exact nestedContextProviders nothing renders

theorem twoConsumers (request : NestedContextProviderBeginWorkRequest)
    (firstRequiredContext secondRequiredContext : ContextHandle)
    (invoker : FunctionComponentContextConsumerInvoker Invoker InvokerError) :
    EndsBalanced [[request.inner, request.outer]]
      (beginWorkNestedContextProviderTwoConsumerUseContextChildrenWithRequiredContexts request
        firstRequiredContext secondRequiredContext invoker) := by
  refine .after (.query _) fun shape => nestedContextProviders_only ?_
  refine .bind (within_beginChild _ _ (within_beginWorkUseContext _ _ _)) fun first => ?_
  refine .bind (within_beginChild _ _ (within_beginWorkUseContext _ _ _)) fun second => ?_
  exact .pure _

theorem siblingContextProvider {Record : Type} {provider child : FiberId}
    {beginChild : ContextRenderM Invoker (ContextBeginWorkError InvokerError) Record}
    (renders : Within RendersComponents beginChild) :
    EndsBalanced [[provision]]
      (beginWorkSiblingContextProvider provider child provision beginChild) := by
  refine .andThen ?_ fun _ => .query _
  exact .belowProvider (.of_renders renders)

end EndsBalanced

/-- The stack is the one of the push of a provider, and restoring its snapshot gives back
the stack before it. -/
structure LeftOpen (provision : ContextProvision) (snapshot : ContextStackSnapshot)
    (store after : FunctionComponentContextRenderStore) : Prop where
  pushed : ∃ pushed,
    (pushProvider provision.context provision.value).run store.stack = .ok snapshot pushed ∧
      pushed.SameScopes after.stack
  restores : ∃ restored,
    (restoreSnapshot snapshot).run after.stack = .ok () restored ∧
      store.stack.SameScopes restored
  reads : ∃ seen, after.reads = store.reads ++ seen ∧ store.stack.Sees [provision] seen

/-- A success leaves the provider open and a failure is balanced. -/
def OpenOutcome (provision : ContextProvision) (snapshot : α → ContextStackSnapshot)
    (store : FunctionComponentContextRenderStore) :
    EStateM.Result Error (ContextRenderWorld Invoker) α → Prop
  | .ok value after => LeftOpen provision (snapshot value) store after.contextStore
  | .error _ after => Balanced [[provision]] store after.contextStore

/-- A computation is balanced when it fails and leaves its provider open when it succeeds. -/
def EndsOpen (provision : ContextProvision) (snapshot : α → ContextStackSnapshot)
    (body : ContextRenderM Invoker Error α) : Prop :=
  ∀ world, OpenOutcome provision snapshot world.contextStore (body.run world)

section Open

variable {store after : FunctionComponentContextRenderStore}

theorem LeftOpen.of_push {pushed : ContextStack}
    (ran : (pushProvider provision.context provision.value).run store.stack = .ok snapshot pushed)
    (renders : Renders { store with stack := pushed } after) :
    LeftOpen provision snapshot store after := by
  obtain ⟨seen, reads, sees⟩ := renders.reads
  exact ⟨⟨pushed, ran, renders.kept⟩, restoreSnapshot_of_push ran renders.kept,
    seen, reads, sees_of_push ran sees⟩

theorem LeftOpen.restoreAfterChildError {world : ContextRenderWorld Invoker}
    {snapshots : α → ContextStackSnapshot}
    (isOpen : LeftOpen provision snapshot store world.contextStore)
    (request : ContextProviderBeginWorkRequest) (child : FiberId)
    (error : ContextBeginWorkError InvokerError) :
    OpenOutcome provision snapshots store
      ((ContextRender.restoreAfterChildError request snapshot child error).run world) := by
  obtain ⟨restored, ran, same⟩ := isOpen.restores
  obtain ⟨seen, reads, sees⟩ := isOpen.reads
  rw [ContextRender.restoreAfterChildError, run_bind, run_mapError, run_onContextStack_ok id ran]
  refine ⟨same, [seen], ?_, .cons sees .nil⟩
  rw [flatten_singleton]
  exact reads

end Open

namespace EndsOpen

section

variable (request : ContextProviderBeginWorkRequest)
  (invoker : FunctionComponentContextConsumerInvoker Invoker InvokerError)

theorem useContextChild :
    EndsOpen request.toContextProvision (·.providerSnapshot)
      (beginWorkContextProviderUseContextChildForCompleteTraversal request invoker) := by
  intro world
  unfold beginWorkContextProviderUseContextChildForCompleteTraversal
  rw [run_bind, run_query]
  cases world.validateContextProviderHandoffShape request.provider with
  | error error => exact .refl _ _
  | ok child =>
    dsimp only
    cases ran : (pushProvider request.context request.value).run world.contextStore.stack with
    | error error refused =>
      cases pushProvider_refused ran
      rw [run_bind, run_onContextStack_error _ ran]
      exact .refl _ _
    | ok snapshot pushed =>
      rw [run_bind, run_onContextStack_ok _ ran]
      generalize inScope : ({ world with
        contextStore := { world.contextStore with stack := pushed } } :
          ContextRenderWorld Invoker) = opened
      have openedStore : opened.contextStore = { world.contextStore with stack := pushed } := by
        rw [← inScope]
      have renders := within_beginWorkUseContext ⟨child, request.renderLanes⟩
        (some request.context) invoker opened
      unfold RendersComponents at renders
      rw [openedStore] at renders
      have isOpen := LeftOpen.of_push ran renders
      simp only [topFrame, ContextRender.stackDepth, run_bind, run_get,
        run_pure, run_attempt, beginWorkFunctionComponentRequiredUseContext]
      cases began : (beginWorkFunctionComponentUseContextImpl ⟨child, request.renderLanes⟩
          (some request.context) invoker).run opened with
      | ok record after =>
        rw [began] at isOpen
        exact isOpen
      | error error after =>
        rw [began] at isOpen
        exact isOpen.restoreAfterChildError request child error

theorem useContextSingleChild (resolver : FunctionComponentSingleChildOutputResolver) :
    EndsOpen request.toContextProvision (·.1.providerSnapshot)
      (beginWorkContextProviderUseContextSingleChildForCompleteTraversal request invoker resolver) := by
  intro world
  have opens := useContextChild request invoker world
  unfold beginWorkContextProviderUseContextSingleChildForCompleteTraversal
  rw [run_bind]
  cases ran : (beginWorkContextProviderUseContextChildForCompleteTraversal request invoker).run
      world with
  | error error after =>
    rw [ran] at opens
    exact opens
  | ok record after =>
    rw [ran] at opens
    have keeps := within_reconcileSingleChild record.child.childBeginWork.render resolver after
    dsimp only
    rw [run_bind, run_attempt]
    cases reconciled : (reconcileSingleChild record.child.childBeginWork.render resolver).run
        after with
    | ok singleChild finished =>
      rw [reconciled] at keeps
      have sameStore : finished.contextStore = after.contextStore := keeps
      rw [OpenOutcome, ← sameStore] at opens
      exact opens
    | error error finished =>
      rw [reconciled] at keeps
      have sameStore : finished.contextStore = after.contextStore := keeps
      rw [OpenOutcome, ← sameStore] at opens
      exact opens.restoreAfterChildError request _ _

end

end EndsOpen

/-- Every way to begin work on providers leaves the frames of the context stack and the
values of the contexts as they were, whether it succeeds or fails, and what was read below
the providers are the innermost provided values.  Only the two ways that leave a provider
open for the completion of its fiber keep it on the stack when they succeed. -/
theorem context_provider_begin_work_balanced
    (request : ContextProviderBeginWorkRequest)
    (nested : NestedContextProviderBeginWorkRequest)
    (sibling : SiblingContextProviderBeginWorkRequest)
    (invoker : FunctionComponentInvoker Invoker InvokerError)
    (consumer : FunctionComponentContextConsumerInvoker Invoker InvokerError)
    (resolver : FunctionComponentSingleChildOutputResolver) :
    EndsBalanced [[request.toContextProvision]]
      (beginWorkContextProviderChild request invoker) ∧
    EndsBalanced [[request.toContextProvision]]
      (beginWorkContextProviderUseContextChild request consumer) ∧
    EndsBalanced [[request.toContextProvision]]
      (beginWorkContextProviderUseContextSingleChild request consumer resolver) ∧
    EndsBalanced [[request.toContextProvision]]
      (beginWorkContextProviderUseContextSubtree request consumer) ∧
    EndsBalanced [[nested.inner, nested.outer]]
      (beginWorkNestedContextProviderChild nested invoker) ∧
    EndsBalanced [[nested.inner, nested.outer]]
      (beginWorkNestedContextProviderUseContextChild nested consumer) ∧
    EndsBalanced [[nested.inner, nested.outer]]
      (beginWorkNestedContextProviderTwoConsumerUseContextChildren nested consumer) ∧
    EndsBalanced [[nested.inner, nested.outer]]
      (beginWorkNestedContextProviderTwoProviderUseContextChildren nested consumer) ∧
    EndsBalanced [[nested.outer], [nested.inner, nested.outer]]
      (beginWorkNestedContextProviderOuterInnerConsumerUseContextChildren nested consumer) ∧
    EndsBalanced [[sibling.first], [sibling.second]]
      (beginWorkSiblingContextProviderTwoConsumerUseContextChildren sibling consumer) ∧
    EndsOpen request.toContextProvision (·.providerSnapshot)
      (beginWorkContextProviderUseContextChildForCompleteTraversal request consumer) ∧
    EndsOpen request.toContextProvision (·.1.providerSnapshot)
      (beginWorkContextProviderUseContextSingleChildForCompleteTraversal request consumer
        resolver) := by
  have useContextChild : EndsBalanced [[request.toContextProvision]]
      (beginWorkContextProviderUseContextChild request consumer) :=
    .contextProvider fun _ => within_beginWorkUseContext _ _ _
  refine ⟨?child, useContextChild, ?singleChild, ?subtree, ?nestedChild, ?nestedUseContextChild,
    .twoConsumers _ _ _ _, .twoConsumers _ _ _ _, ?outerInner, ?sibling,
    .useContextChild _ _, .useContextSingleChild _ _ _⟩
  case child => exact .contextProvider fun _ => within_beginWorkWithContextReads _ _ _
  case singleChild =>
    refine .andThen useContextChild fun _ => ?_
    refine .bind (.mapError _ (within_reconcileSingleChild _ _)) fun _ => ?_
    exact .pure _
  case subtree =>
    refine .after (.query _) fun _ => ?_
    refine .andThen ?_ fun _ => .query _
    exact .belowProvider (.of_renders (within_subtreeChildren _ _))
  case nestedChild =>
    refine .after (.query _) fun shape => .nestedContextProviders_only ?_
    exact within_beginChild _ _ (within_beginWorkWithContextReads _ _ _)
  case nestedUseContextChild =>
    refine .after (.query _) fun shape => .nestedContextProviders_only ?_
    exact within_beginChild _ _ (within_beginWorkUseContext _ _ _)
  case outerInner =>
    refine .after (.query _) fun shape => ?_
    have outer : EndsBalanced [[]] (beginChild shape.outerChild BelowOuterError.childBeginWork
        (beginWorkFunctionComponentRequiredUseContext ⟨shape.outerChild, nested.renderLanes⟩
          nested.outer.context consumer)) :=
      .of_renders (within_beginChild _ _ (within_beginWorkUseContext _ _ _))
    exact .nestedContextProviders outer (within_beginChild _ _ (within_beginWorkUseContext _ _ _))
  case sibling =>
    refine .after (.query _) fun shape => ?_
    refine .bind (.siblingContextProvider (within_beginWorkUseContext _ _ _)) fun first => ?_
    refine .andThen ?_ fun _ => .pure _
    exact .siblingContextProvider (within_beginWorkUseContext _ _ _)

/-- A provider with one component below it, and one context. -/
def sampleContextWorld : ContextRenderWorld Unit where
  arena := stateAfter
    ((do
      let provider ← createFiber .contextProvider none .none FiberMode.no
      let component ← createFiber .functionComponent none .none FiberMode.no
      modifyFiber provider fun node => { node with child := some component } :
        FiberArenaM Unit).run .new)
  fiberType := fun _ => ⟨1⟩
  memoizedProps := fun _ => .none
  contextStore :=
    { stack := { ContextStack.new ⟨1⟩ with slots := [ContextSlot.new ⟨1⟩ ⟨10⟩] }
      reads := []
      dependencies := [] }
  invoker := ()

/-- The provider gives the context another value. -/
def sampleContextRequest : ContextProviderBeginWorkRequest where
  context := ⟨1⟩
  value := ⟨20⟩
  provider := ⟨0, 0⟩
  renderLanes := Lanes.no

def sampleContextConsumer : FunctionComponentContextConsumerInvoker Unit Unit :=
  fun invoker _ => .useContext ⟨1⟩ fun _ => .done invoker (.ok ⟨1⟩)

/-- A provider that is left open is still on the stack. -/
theorem open_provider_stays_on_stack :
    (stateAfter ((beginWorkContextProviderUseContextChildForCompleteTraversal sampleContextRequest
      sampleContextConsumer).run sampleContextWorld)).contextStore.stack.frames ≠
      sampleContextWorld.contextStore.stack.frames := by
  decide +kernel

end FastReact
