import Samgr.Lib.Runs
import Samgr.Lib.TaskQueue
import Samgr.Lib.Tally
import Samgr.Lib.Threads
import Samgr.Lib.Quota
import Samgr.Lib.Keyed
import Samgr.Lib.Stamped
import Samgr.Lib.Notices
import Samgr.Lib.Throttle
import Samgr.Lib.Turns
import Samgr.Lib.Maxima
import Samgr.Lib.Decimal
import Samgr.Lib.Fallible
import Samgr.Lib.Fifo
import Samgr.Lib.Json
import Samgr.Lib.Remote
import Samgr.Lib.Visits
import Samgr.Schedule.Context
import Samgr.Schedule.StateMachine
import Samgr.Schedule.Scheduler
import Samgr.Schedule.Operations
import Samgr.Schedule.Chart
import Samgr.Schedule.Refinement
import Samgr.Schedule.Counters
import Samgr.Schedule.PendedLoads
import Samgr.Schedule.PendedReplay
import Samgr.Schedule.Supersede
import Samgr.Schedule.Stopping
import Samgr.Schedule.EnableOnce
import Samgr.Schedule.ProcessListeners
import Samgr.Schedule.Board
import Samgr.Schedule.Activity
import Samgr.Schedule.Ledger
import Samgr.Schedule.Restarts
import Samgr.Schedule.PendedCounts
import Samgr.Manager.State
import Samgr.Manager.Sections
import Samgr.Manager.Machine
import Samgr.Manager.Frames
import Samgr.Manager.Effects
import Samgr.Manager.Entries
import Samgr.Manager.Tickets
import Samgr.Manager.Simulation
import Samgr.Manager.Lifecycle
import Samgr.Manager.Ownership
import Samgr.Manager.Agreement
import Samgr.Manager.Processes
import Samgr.Manager.Freshness
import Samgr.Manager.Subscriptions
import Samgr.Manager.StatusNotices
import Samgr.Manager.Notifications
import Samgr.Manager.CallbackQuota
import Samgr.Manager.Callbacks
import Samgr.Manager.Exclusion
import Samgr.Manager.Loading
import Samgr.Manager.StartingMarks
import Samgr.Manager.RejectedLoads
import Samgr.Manager.CallbackDeath
import Samgr.Cache.Service
import Samgr.Cache.Tracking
import Samgr.Cache.Updates
import Samgr.Cache.Coherence
import Samgr.Cache.Routing
import Samgr.Handler.NamedTasks
import Samgr.Handler.AlarmTimers
import Samgr.Handler.AlarmStages
import Samgr.Handler.IpcPrior
import Samgr.Facade.Collect
import Samgr.Facade.DeviceOnline
import Samgr.Facade.DeviceReports
import Samgr.Facade.EventParcel
import Samgr.Facade.CheckExist
import Samgr.Facade.ExtraData
import Samgr.Facade.ExtraDataIds
import Samgr.Facade.Provider
import Samgr.Facade.RemoteLoad
import Samgr.Collect.Timed
import Samgr.Collect.State
import Samgr.Collect.Atomicity
import Samgr.Collect.Updates
import Samgr.Collect.Controls
import Samgr.Collect.CommonEvents
import Samgr.Collect.LoopTimers
import Samgr.Collect.TimerChains
import Samgr.Collect.StartTimers
import Samgr.Collect.ParamWatch
import Samgr.Collect.LogicRelation
import Samgr.Collect.PolicyRoundTrip
import Samgr.Collect.PersistedControls
import Samgr.Collect.TimedDelays
import Samgr.Collect.LoopGrid
import Samgr.Profile.ParseUtil
import Samgr.Profile.WellFormed
import Samgr.Profile.StartReason
import Samgr.User.Lifecycle
import Samgr.User.Stages
import Samgr.User.Moves
import Samgr.User.Outcome
import Samgr.User.Lookup
import Samgr.User.StopAll
import Samgr.User.Subscribers
import Samgr.User.Tables
import Samgr.User.WholeCalls
import Samgr.User.Notices
import Samgr.User.DirectNotices
import Samgr.User.AllUsers
import Samgr.User.GlobalReach
import Samgr.User.GlobalQuota
import Samgr.User.LruIdle
import Samgr.Ipc.Parcel
import Samgr.Ipc.Interface
import Samgr.Ipc.Stub
import Samgr.Ipc.Access
import Samgr.Ipc.Proxy
import Samgr.Ipc.Delivery
import Samgr.Ipc.Listeners
import Samgr.Ipc.Users
import Samgr.Ipc.Isolation
import Samgr.Ipc.Providers
import Samgr.Lib.Latest
import Samgr.Collect.EventHistory
import Samgr.Collect.EventSubscription
import Samgr.Collect.IpcReclaim
import Samgr.Lib.Obituary
import Samgr.Manager.DeathWatch
import Samgr.Lib.Fair
import Samgr.Lib.TaskOrder
import Samgr.Schedule.UnloadTasks
import Samgr.Schedule.UnloadProgress
import Samgr.Lib.Table
import Samgr.Profile.Files
import Samgr.Profile.Tables
