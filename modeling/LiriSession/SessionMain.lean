import LiriSession.Environment
import LiriSession.SessionStart
import Mathlib.Data.List.Infix

/-! The main function of the session manager: the environment it prepares, what its
options make of the session, and how it gets to a D-Bus session. -/
namespace LiriSession
open Library

namespace ProcessEnvironment

def isSet (environment : ProcessEnvironment) (key : String) : Bool :=
  (environment.environ.find? key).isSome

def qgetenv (environment : ProcessEnvironment) (key : String) : String :=
  (environment.environ.find? key).getD ""

def isEmpty (environment : ProcessEnvironment) (key : String) : Bool := environment.qgetenv key = ""

theorem find?_qputenv (environment : ProcessEnvironment) (key value other : String)
    (accepted : Session.Accepted key) : (environment.qputenv key value).environ.find? other =
      if other = key then some (cString value) else environment.environ.find? other := by
  obtain ⟨valid,whole⟩ := accepted
  simp only [qputenv,whole,valid,dif_pos,OrderedMap.find?_insert]

end ProcessEnvironment

/-- What the command line parser makes of the options. -/
structure CommandLine where
  noSystemd : Bool := false
  disableModules : Option String := none
  listModules : Bool := false
  positionalArguments : List String := []

/-- What the build fixes, and what Qt makes of the home directory and of the arguments:
the parser itself exits, with a code, after it has printed the help or an error. -/
structure Platform where
  enableSystemd : Bool
  developmentBuild : Bool
  dataDir : String
  homeFilePath : Option String → String → String
  parse : List String → Except Nat CommandLine

/-- A process, with what can be read of the command line of its parent. -/
structure Process where
  root : Bool
  arguments : List String
  environment : ProcessEnvironment
  parent : Option String

namespace SessionMain

/-- The variables that get a value when they have none. -/
def defaults (platform : Platform) (home : Option String) : List (String × String) :=
  [("XDG_DATA_HOME",platform.homeFilePath home ".local/share"),
    ("XDG_CONFIG_HOME",platform.homeFilePath home ".config"),
    ("XDG_CACHE_HOME",platform.homeFilePath home ".cache"),
    ("XDG_DATA_DIRS","/usr/local/share/:/usr/share/"),
    ("XDG_CONFIG_DIRS","/etc/xdg"),
    ("XDG_DESKTOP_PORTAL_DIR",platform.dataDir ++ "/xdg-desktop-portal/portals")]

def settings : List (String × String) :=
  [("DESKTOP_SESSION","Liri"),
    ("XDG_MENU_PREFIX","liri-"),
    ("XDG_CURRENT_DESKTOP","X-Liri"),
    ("XDG_SESSION_DESKTOP","liri"),
    ("QT_QPA_PLATFORM","wayland"),
    ("QT_QPA_PLATFORMTHEME","liri"),
    ("XCURSOR_THEME","Paper")]

def setDefault (environment : ProcessEnvironment) (entry : String × String) : ProcessEnvironment :=
  if environment.isEmpty entry.1 then environment.qputenv entry.1 entry.2 else environment

/-- None of the variables is the home directory. -/
def setupEnvironment (platform : Platform) (environment : ProcessEnvironment) : ProcessEnvironment :=
  let environment := (defaults platform (environment.environ.find? "HOME")).foldl setDefault environment
  settings.foldl (fun environment entry => environment.qputenv entry.1 entry.2) environment

def getParentProcessName (process : Process) : String := (process.parent.map trimmed).getD ""

def contains (text part : String) : Bool := part.toList <:+: text.toList

inductive Request
  | quit
  | startDetached (program : String) (arguments : List String)
deriving DecidableEq, Repr

def requireDBusSession (systemdEnabled available : Bool) (process : Process) : Bool × List Request :=
  if process.environment.isSet "DBUS_SESSION_BUS_ADDRESS" then (false,[])
  else if systemdEnabled then
    if available then (true,[]) else (false,[])
  -- the infinite recursion that this is to avoid
  else if contains (getParentProcessName process) "dbus-run-session" then (false,[])
  else (true,[.quit,.startDetached "dbus-run-session" ("--"::process.arguments)])

/-- `QString::split` at a character, with the empty parts. -/
def split (text : String) (separator : Char) : List String :=
  (text.toList.splitOn separator).map String.ofList

/-- The order in which a set of names is enumerated. -/
structure HashOrder where
  enumerate : List String → List String
  mem : ∀ names name, name ∈ enumerate names ↔ name ∈ names
  distinct : ∀ names, (enumerate names).Nodup

/-- What the process finds when it gets to its event loop. -/
structure Circumstances where
  systemdAvailable : Bool
  launcherRegistered : Bool
  managerRegistered : Bool
  order : HashOrder
  found : Session.Discovery
  behaviour : Session.Behaviour

def systemdSupport (platform : Platform) (commandLine : CommandLine) : Bool :=
  platform.enableSystemd && !commandLine.noSystemd

def disabledModulesList (commandLine : CommandLine) : List String :=
  split (trimmed (commandLine.disableModules.getD "")) ','

def disabledModules (platform : Platform) (commandLine : CommandLine) : List String :=
  disabledModulesList commandLine ++
    if systemdSupport platform commandLine then ["services","shell"] else []

/-- The session as the options configure it. -/
def configured (platform : Platform) (order : HashOrder) (commandLine : CommandLine) : Session :=
  let session := ({} : Session).setSystemdEnabled (systemdSupport platform commandLine)
  let session := if systemdSupport platform commandLine then session
    else session.setModuleArguments "shell" commandLine.positionalArguments
  (order.enumerate (disabledModules platform commandLine)).foldl Session.disableModule session

def systemdConfigDirs (platform : Platform) (environment : ProcessEnvironment) : String :=
  let newValue := platform.homeFilePath (environment.environ.find? "HOME")
      ".local/share/liri-session/systemd-user" ++ ":" ++ platform.dataDir ++ "/liri-session/systemd-user"
  let value := environment.qgetenv "XDG_CONFIG_DIRS"
  if value = "" then newValue else newValue ++ ":" ++ value

/-- The process at the time when its event loop starts. -/
def prepared (platform : Platform) (commandLine : CommandLine) (process : Process) : Process :=
  let environment := setupEnvironment platform process.environment
  { process with environment :=
      if systemdSupport platform commandLine then
        environment.qputenv "XDG_CONFIG_DIRS" (systemdConfigDirs platform environment)
      else environment }

def moduleNames (session : Session) : List String :=
  session.modulesInOrder.map fun module => session.m_pluginRegistry.getNameForInstance (some module)

/-- What `--list-modules` prints: the plugins are loaded as in a start. -/
def listedModules (circumstances : Circumstances) : List String :=
  moduleNames (({} : Session).loadPlugins circumstances.behaviour circumstances.found)

/-- That the screen saver cannot be registered makes no difference. -/
def initializeSession (circumstances : Circumstances) (session : Session) : Bool × Session :=
  if !circumstances.launcherRegistered then (false,session)
  else if !circumstances.managerRegistered then (false,session)
  else (true,session.loadPlugins circumstances.behaviour circumstances.found)

/-- How far a process gets: it ends before it has a session, it lists the modules, it
does not go on for want of a D-Bus session, it exits with 1 or it has started its session. -/
inductive Outcome
  | exits (code : Nat)
  | lists (names : List String)
  | waits (process : Process) (requests : List Request)
  | fails (session : Session)
  | runs (session : Session)

def go (circumstances : Circumstances) (session : Session) (process : Process) : Outcome :=
  match requireDBusSession session.m_systemdEnabled circumstances.systemdAvailable process with
  | (true,requests) => .waits process requests
  | (false,_) =>
    match initializeSession circumstances session with
    | (false,session) => .fails session
    | (true,session) =>
      match session.start circumstances.behaviour with
      | (false,session) => .fails session
      | (true,session) => .runs session

def main (platform : Platform) (circumstances : Circumstances) (process : Process) : Outcome :=
  if !platform.developmentBuild && process.root then .exits 1
  else match platform.parse process.arguments with
    | .error code => .exits code
    | .ok commandLine =>
      if commandLine.listModules then .lists (listedModules circumstances)
      else go circumstances (configured platform circumstances.order commandLine)
        (prepared platform commandLine process)

end SessionMain

end LiriSession
