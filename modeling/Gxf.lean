import Gxf.Lib.Run
import Gxf.Lib.FreeRuns
import Gxf.Lib.RangeCover
import Gxf.Lib.Combining
import Gxf.Core.Runtime.EntityLife
import Gxf.Core.ParameterStorage.Runs
import Gxf.Core.Runtime.ComponentAdd
import Gxf.Common.FixedVector.Runs
import Gxf.Common.FixedMap.Iterators
import Gxf.Common.StackVector.Lifetimes
import Gxf.Common.UniqueIndexMap
import Gxf.Std.StagingQueue.Refinement
import Gxf.Std.Pool.Containment
import Gxf.Std.Suballocators.Overflow
import Gxf.Std.SchedulingTerms.Announcement
import Gxf.Std.SchedulingTerms.RecessPeriod
import Gxf.Std.SchedulingTerms.TargetTime
import Gxf.Std.TimedJobList.Dueness
import Gxf.Std.DeadlockPatience
import Gxf.Std.GreedyScheduler.Placement
import Gxf.Std.GreedyScheduler.Notifications
import Gxf.Std.MultiThreadScheduler.Conditions
import Gxf.Lib.Custody
import Gxf.Std.Notifications
import Gxf.Std.MultiThreadScheduler.Notifications
import Gxf.Std.MessageRouter.Tables
import Gxf.Std.MessageRouter.BackPressure
import Gxf.Std.MessageRouter.EntityRouter
import Gxf.Std.EntityExecutor.Stopping
import Gxf.Std.EntityExecutor.Terms
import Gxf.Std.EntityExecutor.CheckOrder
import Gxf.Std.EpochScheduler.ActiveEntities
import Gxf.Std.EventBasedScheduler.Verdicts
import Gxf.Std.EntityWarden.Atomicity
import Gxf.Std.EntityWarden.ComponentLifecycle
import Gxf.Std.EntityWarden.FindComponent
import Gxf.Std.EntityWarden.EntityGroups
import Gxf.Std.EntityWarden.GroupResources
import Gxf.Std.EntityWarden.Names
import Gxf.Std.EntityWarden.RefCount
import Gxf.Std.Program.Activation
import Gxf.Std.DoubleBufferReceiver.Messages
import Gxf.Std.MemoryBuffer
import Gxf.Std.ExtensionLoader
import Gxf.Std.QueueThread
import Gxf.Std.Vault
import Gxf.Std.Synchronization.Streams
import Gxf.Std.Synchronization.ClockOrigin
import Gxf.Std.Tensor.Bounds
import Gxf.Std.Tensor.RoundTrip
import Gxf.Std.Tensor.FailedImport
import Gxf.Serialization.EntityIds
import Gxf.Serialization.Truncation
import Gxf.Serialization.Recording
import Gxf.Network.TcpCodelet
import Gxf.Cuda.CudaSchedulingTerms
import Gxf.Std.AsyncBufferReceiver.Register
import Gxf.Ucx.ComponentNames
import Gxf.Ucx.Receiving
import Gxf.Multimedia.PlaneLayout
import Gxf.Ucx.ScatterGather
import Gxf.Std.MessageRouter.SyncOutbox
import Gxf.Std.YamlFileLoader.StartOrder
import Gxf.Std.GraphDriver.Protocol
import Gxf.BehaviorTree.Completion
import Gxf.BehaviorTree.Parallel
import Gxf.Std.GraphDriver.Registration
import Gxf.Std.FastRunningMedian
import Gxf.Std.TimedThrottler
import Gxf.Std.Tensor.Singleton
import Gxf.Std.Tensor.Disjoint
import Gxf.Std.Tensor.KeptElements
