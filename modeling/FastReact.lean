import FastReact.UpdateQueueRebase
import FastReact.FunctionComponentEager
import FastReact.FiberDeletionFrame
import FastReact.FiberDeletionLists
import FastReact.MockSchedulerTimeouts
import FastReact.NativeRootRequestRuns
import FastReact.NativeSchedulerRuns
import FastReact.AbandonedRenders
import FastReact.PassiveFlushErrors
import FastReact.HydrationPaths
import FastReact.EntangledSelection
import FastReact.DispatchQueueRuns
import FastReact.RefCallbackAlternation
import FastReact.RootListenersRuns
import FastReact.FunctionComponentLanes
import FastReact.HookStateQueueCaughtUp
import FastReact.HookStateQueueReclaim
import FastReact.ConcurrentEnqueue
import FastReact.DrainAtOnce
import FastReact.HookStagingAtOnce
import FastReact.FlushSyncLanes
import FastReact.StarvedLanes
import FastReact.FiberReclaim
import FastReact.WorkInProgressTopology
import FastReact.ContextProviderBalance
import FastReact.EffectMetadataAgreement
import FastReact.CommitAtomicity
import FastReact.ContainerPlacement
import FastReact.HookEffectIterators
import FastReact.MockSchedulerHeap
import FastReact.RefTraversal
import FastReact.CancelledTasks
import FastReact.MappedKeys
import FastReact.BridgeHandleAdmission
import FastReact.ResponseChunks
import FastReact.EventPath
import FastReact.RefCallbackBatch
import FastReact.BatchLifecycle
import FastReact.LatestPropsHandoffRuns
import FastReact.ScheduledRoots
