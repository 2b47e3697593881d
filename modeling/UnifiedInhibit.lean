import UnifiedInhibit.Lib.Run
import UnifiedInhibit.DaemonFaults
import UnifiedInhibit.DBusTheorems
import UnifiedInhibit.SimpleDBusInhibitInterface
import UnifiedInhibit.GnomeSessionManagerInhibitInterface
import UnifiedInhibit.FeedersTheorems
import UnifiedInhibit.DBusOwnersTheorems
import UnifiedInhibit.Lib.OwnedLocks
import UnifiedInhibit.OwnerIsolation
import UnifiedInhibit.OwnerRefinement
import UnifiedInhibit.Fork
import UnifiedInhibit.ForkTheorems
import UnifiedInhibit.Lib.Decimal
import UnifiedInhibit.Lib.Descriptors
import UnifiedInhibit.SystemdInhibitFork
import UnifiedInhibit.SystemdInhibitInterface
import UnifiedInhibit.LinuxKernelInhibitInterface
import UnifiedInhibit.SystemdInhibitForkTheorems
import UnifiedInhibit.LinuxKernelInhibitTheorems
import UnifiedInhibit.SystemdInhibitRuns
import UnifiedInhibit.SystemdInhibitDescriptors
import UnifiedInhibit.SystemdInhibitIds
import UnifiedInhibit.SystemdInhibitReplies
import UnifiedInhibit.CinnamonScreenSaverInhibitInterface
import UnifiedInhibit.GnomeScreenSaverInhibitInterface
import UnifiedInhibit.SimActivityTheorems
import UnifiedInhibit.CinnamonThreads
import UnifiedInhibit.FailedForwards
import UnifiedInhibit.GnomeScreenSaverOwners
import UnifiedInhibit.SxmoInhibitInterface
import UnifiedInhibit.NamedLocks
import UnifiedInhibit.LockWatcher
import UnifiedInhibit.LockWatcherTheorems
import UnifiedInhibit.SxmoWatcher
import UnifiedInhibit.Lib.Since
import UnifiedInhibit.MonitorTraces
import UnifiedInhibit.Lib.Grants
import UnifiedInhibit.RemoteLocks
import UnifiedInhibit.GnomeQueries
import UnifiedInhibit.LockConvergence
import UnifiedInhibit.OwnLocks
import UnifiedInhibit.StateChanges
import UnifiedInhibit.UserCommandsInhibitInterface
import UnifiedInhibit.UserCommandsTheorems
import UnifiedInhibit.Lib.Shell
import UnifiedInhibit.SxmoCommands
import UnifiedInhibit.InterruptedForwards
import UnifiedInhibit.Lib.Introspection
import UnifiedInhibit.CallReplies
import UnifiedInhibit.IntrospectionTexts
import UnifiedInhibit.AdvertisedCalls
import UnifiedInhibit.AnsweredCalls
import UnifiedInhibit.DaemonCalls
import UnifiedInhibit.Lib.CommandLine
import UnifiedInhibit.ParseArgs
import UnifiedInhibit.Lib.Environ
import UnifiedInhibit.MainEnvironment
import UnifiedInhibit.LineReaders
import UnifiedInhibit.OwnerLists
import UnifiedInhibit.OwnerIds
import UnifiedInhibit.WakeLockFile
import UnifiedInhibit.OwnerWorlds
import UnifiedInhibit.UnifiedState
import UnifiedInhibit.WiredDaemon
import UnifiedInhibit.LocalIds
import UnifiedInhibit.WiredClients
import UnifiedInhibit.WiredContract
import UnifiedInhibit.WiredDepartures
import UnifiedInhibit.Lib.MessageLoop
import UnifiedInhibit.MainLoop
import UnifiedInhibit.MainLoopFaults
import UnifiedInhibit.SystemdInhibitLocks
import UnifiedInhibit.MainLoopProgress
import UnifiedInhibit.WiredCommands
import UnifiedInhibit.WiredQueries
import UnifiedInhibit.GivenCommands
import UnifiedInhibit.OwnLocks
