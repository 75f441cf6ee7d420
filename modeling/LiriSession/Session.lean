import LiriSession.PluginRegistry

/-! The session manager: plugins grouped by startup phase, the start loop with
the shutdown triggers that nested event loops deliver inside it, and shutdown.
What is asked of modules, bus and application is kept as calls, oldest first. -/
namespace LiriSession
open Library

inductive StartupPhase
  | earlyInitialization
  | initialization
  | windowManager
  | daemons
  | applications
deriving DecidableEq, Repr

namespace StartupPhase

def rank : StartupPhase → Nat
  | .earlyInitialization => 0
  | .initialization => 1
  | .windowManager => 2
  | .daemons => 3
  | .applications => 4

theorem rank_injective : Function.Injective rank := by
  intro first second same
  cases first <;> cases second <;> first | rfl | cases same

instance : LinearOrder StartupPhase := LinearOrder.lift' rank rank_injective

end StartupPhase

namespace Session

inductive UnixSignal
  | sigint
  | sigterm
deriving DecidableEq, Repr

/-- What reaches `Session::shutdown` from outside: a watched signal, the D-Bus
method `Logout`, or `shutdownRequested` of a module. -/
inductive ShutdownTrigger
  | unixSignal (signal : UnixSignal)
  | logout
  | shutdownRequested (module : QObject)
deriving DecidableEq, Repr

/-- One call of a module's `start`: the triggers that an event loop nested in it
delivers, in order, and the result. -/
structure StartOutcome where
  nested : List ShutdownTrigger
  success : Bool

structure Behaviour where
  startupPhase : QObject → StartupPhase
  start : QObject → StartOutcome
  stop : QObject → Bool
  unitLoaded : Bool

inductive Call
  | setModuleSystemd (module : QObject) (value : Bool)
  | uploadEnvironment
  | loadUnit (name : String)
  | startUnit (name mode : String)
  | start (module : QObject) (args : List String)
  | started (module : QObject)
  | failed (module : QObject)
  | closing
  | stop (module : QObject) (success : Bool)
  | quit
deriving DecidableEq, Repr

end Session

/-- The members of `Session` that bear on its modules, and the modules whose
`shutdownRequested` is connected, once for each connection. -/
structure Session where
  m_systemdEnabled : Bool := false
  m_disabledModules : List String := []
  m_moduleArgs : OrderedMap String (List String) := .empty
  m_pluginRegistry : Session.PluginRegistry := {}
  m_modules : OrderedMap StartupPhase (List QObject) := .empty
  m_loadedModules : List QObject := []
  connected : List QObject := []
  calls : List Session.Call := []

namespace Session

def call (session : Session) (made : Call) : Session := { session with calls := session.calls ++ [made] }

def setSystemdEnabled (session : Session) (value : Bool) : Session :=
  if session.m_systemdEnabled && !value then session else { session with m_systemdEnabled := value }

def disableModule (session : Session) (name : String) : Session :=
  { session with m_disabledModules := session.m_disabledModules ++ [name] }

def setModuleArguments (session : Session) (name : String) (args : List String) : Session :=
  { session with m_moduleArgs := session.m_moduleArgs.insert name args }

/-- What `discover` found, with the order in which the hash is enumerated. Each
plugin file gives its own root object. -/
structure Discovery where
  candidates : List Candidate
  plugins : PluginsMap
  enumerates : plugins.entries.Perm (PluginRegistry.discover {} candidates).m_plugins.entries
  distinct : plugins.objects.Nodup

/-- One turn of the loop of `loadPlugins` over the plugin hash. -/
def addModule (behaviour : Behaviour) (session : Session) (plugin : String × Option QObject) :
    Session :=
  match asModule plugin.2 with
  | none => session
  | some module =>
    let session := session.call (.setModuleSystemd module session.m_systemdEnabled)
    let phase := behaviour.startupPhase module
    let modules := (session.m_modules.find? phase).getD []
    { session with m_modules := session.m_modules.insert phase (modules ++ [module]) }

def loadPlugins (behaviour : Behaviour) (session : Session) (found : Discovery) : Session :=
  found.plugins.entries.foldl (addModule behaviour) { session with m_pluginRegistry := ⟨found.plugins⟩ }

/-- The list is reversed in place and stays as it is after the walk. -/
def shutdown (behaviour : Behaviour) (session : Session) : Session :=
  let session := session.call .closing
  let session := { session with m_loadedModules := session.m_loadedModules.reverse }
  let session := session.m_loadedModules.foldl
    (fun session module => session.call (.stop module (behaviour.stop module))) session
  session.call .quit

def invocations (connected : List QObject) : ShutdownTrigger → Nat
  | .unixSignal _ => 1
  | .logout => 1
  | .shutdownRequested module => connected.count module

def deliver (behaviour : Behaviour) (session : Session) (trigger : ShutdownTrigger) : Session :=
  (shutdown behaviour)^[invocations session.connected trigger] session

/-- One turn of the loop of `start`: false when the loop is left. -/
def startModule (behaviour : Behaviour) (session : Session) (module : QObject) : Bool × Session :=
  let name := session.m_pluginRegistry.getNameForInstance (some module)
  if name ∈ session.m_disabledModules then (true,session)
  else
    let args := (session.m_moduleArgs.find? name).getD []
    let session := { session with
      connected := session.connected ++ [module]
      m_moduleArgs := session.m_moduleArgs.insert name args }
    let session := session.call (.start module args)
    let outcome := behaviour.start module
    -- the module is not in the list while its own event loop runs
    let session := outcome.nested.foldl (deliver behaviour) session
    if outcome.success then
      let session := { session with m_loadedModules := session.m_loadedModules ++ [module] }
      (true,session.call (.started module))
    else (false,(session.call (.failed module)).shutdown behaviour)

def startModules (behaviour : Behaviour) (session : Session) : List QObject → Bool × Session
  | [] => (true,session)
  | module::modules =>
    match session.startModule behaviour module with
    | (true,session) => session.startModules behaviour modules
    | (false,session) => (false,session)

/-- The modules in the order in which `start` visits them: by phase, and within
a phase in the order of its list. -/
def modulesInOrder (session : Session) : List QObject := session.m_modules.values.flatten

def startTarget (behaviour : Behaviour) (session : Session) : Session :=
  if session.m_systemdEnabled then
    let session := session.call (.loadUnit "liri-session.target")
    if behaviour.unitLoaded then session.call (.startUnit "liri-session.target" "replace") else session
  else session

def start (behaviour : Behaviour) (session : Session) : Bool × Session :=
  let session := session.call .uploadEnvironment
  let session := session.startTarget behaviour
  session.startModules behaviour session.modulesInOrder

end Session

end LiriSession
