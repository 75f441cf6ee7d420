import LiriSession.Library.OrderedMap
import LiriSession.Library.Run
import LiriSession.Library.Changes
import LiriSession.Library.Channel
import LiriSession.Library.Handles
import LiriSession.Library.Latest
import LiriSession.QtValue
import LiriSession.PluginRegistry
import LiriSession.Daemon
import LiriSession.DaemonLifecycle
import LiriSession.DaemonLoading
import LiriSession.DaemonRuns
import LiriSession.Session
import LiriSession.SessionShutdown
import LiriSession.SessionStart
import LiriSession.Environment
import LiriSession.ActivationEnvironment
import LiriSession.SystemdEnvironment
import LiriSession.ProcessLauncher
import LiriSession.SessionBus
import LiriSession.AutostartStop
import LiriSession.Locale
import LiriSession.Logind
import LiriSession.LogindService
import LiriSession.Inhibition
import LiriSession.InhibitionSteps
import LiriSession.SessionLookup
import LiriSession.InhibitorCounts
import LiriSession.IdleHint
import LiriSession.SessionProperties
import LiriSession.LockLoop
import LiriSession.SessionControl
import LiriSession.CookieWrap
import LiriSession.QmlSessionManager
import LiriSession.Descriptors
import LiriSession.DescriptorTracking
import LiriSession.OwnInhibitors
import LiriSession.ShutdownHistory
import LiriSession.PowerEvents
import LiriSession.CookieSafety
import LiriSession.CookieBinding
import LiriSession.CookieRelease
import LiriSession.ShellStart
import LiriSession.LogindDescriptors
import LiriSession.LogindSubscriptions
import LiriSession.DesktopFileId
import LiriSession.ScreenSaverActivity
import LiriSession.PluginDiscovery
import LiriSession.LauncherProcesses
import LiriSession.Library.Settling
import LiriSession.LinkSettling
import LiriSession.Library.Framing
import LiriSession.SignalWatcher
import LiriSession.SignalShutdown
import LiriSession.Library.Writer
import LiriSession.SessionMain
import LiriSession.SessionRestart
import LiriSession.SessionModules
import LiriSession.SessionInstances
import LiriSession.LogindDevices
import LiriSession.Library.Posting
import LiriSession.EnvironmentRelay
import LiriSession.EnvironmentFailures
import LiriSession.Library.Vocabulary
import LiriSession.InhibitorLocks
import LiriSession.ServicesPlugin
import LiriSession.ShellShutdown
import LiriSession.Library.Publishing
import LiriSession.LockRelay
import LiriSession.LaunchRelay
