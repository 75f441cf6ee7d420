import LiriSession.PluginRegistry
import LiriSession.Library.Run

/-! The daemon: its module lists, the mode flag, start-up, loading and unloading
on demand, and shutdown. Modules are opaque; what the daemon asks of them and of
the bus is kept as a list of calls, oldest first. -/
namespace LiriSession
open Library

inductive Daemon.Call
  | registerService (name : String)
  | registerObject (path : String)
  | start (module : QObject)
  | stop (module : QObject)
  | quit
deriving DecidableEq, Repr

/-- The members of `Daemon`, the modules whose objects have been deleted, and
the calls made so far. A module list holds no null pointer. -/
structure Daemon where
  m_systemdEnabled : Bool := true
  m_running : Bool := true
  m_disabledModules : List String := []
  m_pluginRegistry : Daemon.PluginRegistry := {}
  m_modules : List QObject := []
  m_modulesOnDemand : List QObject := []
  m_loadedModules : List QObject := []
  m_interface : Bool := false
  deleted : List QObject := []
  calls : List Daemon.Call := []

namespace Daemon

def starts (calls : List Call) : List QObject :=
  calls.filterMap fun | .start module => some module | _ => none

def stops (calls : List Call) : List QObject :=
  calls.filterMap fun | .stop module => some module | _ => none

structure Registration where
  service : Bool
  object : Bool

def call (daemon : Daemon) (made : Call) : Daemon := { daemon with calls := daemon.calls ++ [made] }

def isSystemdEnabled (daemon : Daemon) : Bool := daemon.m_systemdEnabled

def setSystemdEnabled (daemon : Daemon) (value : Bool) : Daemon :=
  if daemon.m_systemdEnabled && !value then daemon else { daemon with m_systemdEnabled := value }

def isShuttingDown (daemon : Daemon) : Bool := !daemon.m_running

def disableModule (daemon : Daemon) (name : String) : Daemon :=
  { daemon with m_disabledModules := daemon.m_disabledModules ++ [name] }

def registerWithDBus (daemon : Daemon) (bus : Registration) : Bool × Daemon :=
  let daemon := daemon.call (.registerService "io.liri.Daemon")
  if !bus.service then (false,daemon)
  else (bus.object,daemon.call (.registerObject "/io/liri/Daemon"))

/-- One turn of the loop of `initialize()` over the plugin hash. -/
def addModule (daemon : Daemon) (plugin : String × Option QObject) : Daemon :=
  match asModule plugin.2 with
  | none => daemon
  | some module =>
    let metaData := daemon.m_pluginRegistry.getMetaData plugin.1
    if (metaData.value "X-Liri-DaemonModule-AutoLoad" (.bool true)).toBool then
      { daemon with m_modules := daemon.m_modules ++ [module] }
    else { daemon with m_modulesOnDemand := daemon.m_modulesOnDemand ++ [module] }

def initializeDaemon (daemon : Daemon) (bus : Registration) (found : Discovery) : Bool × Daemon :=
  let daemon := if daemon.isSystemdEnabled then daemon else { daemon with m_interface := true }
  match if daemon.m_interface then daemon.registerWithDBus bus else (true,daemon) with
  | (false,daemon) => (false,daemon)
  | (true,daemon) =>
    let daemon := { daemon with m_pluginRegistry := found.registry }
    (true,found.plugins.entries.foldl addModule daemon)

def startModule (daemon : Daemon) (module : QObject) : Daemon :=
  let name := daemon.m_pluginRegistry.getNameForInstance (some module)
  if name ∈ daemon.m_disabledModules then daemon
  else
    let daemon := daemon.call (.start module)
    { daemon with m_loadedModules := daemon.m_loadedModules ++ [module] }

def start (daemon : Daemon) : Daemon :=
  if daemon.isSystemdEnabled then daemon else daemon.m_modules.foldl startModule daemon

/-- The module registered under a name. The registry keeps the pointer of a
deleted object, and the cast of that pointer is undefined: no answer. -/
def findModule (daemon : Daemon) (name : String) : Option (Option QObject) :=
  match daemon.m_pluginRegistry.getInstance name with
  | none => some none
  | some object => if object ∈ daemon.deleted then none else some (qobjectCast (some object))

def startLoaded (daemon : Daemon) (module : QObject) : Daemon :=
  let daemon := daemon.call (.start module)
  { daemon with m_loadedModules := daemon.m_loadedModules ++ [module] }

/-- `registered` is the bus's answer to the claim of the service name. -/
def loadModule (daemon : Daemon) (name : String) (registered : Bool) : Option Daemon :=
  if name ∈ daemon.m_disabledModules then some daemon
  else
    (daemon.findModule name).map fun found =>
      match found with
      | none => daemon
      | some module =>
        if module ∈ daemon.m_loadedModules then daemon
        else if module ∉ daemon.m_modules then daemon
        else if daemon.isSystemdEnabled then
          let metaData := daemon.m_pluginRegistry.getMetaData name
          let serviceName := (metaData.value "X-Liri-DaemonModule-ServiceName" .invalid).toString
          let daemon := daemon.call (.registerService serviceName)
          if !registered then daemon else daemon.startLoaded module
        else daemon.startLoaded module

def unloadModule (daemon : Daemon) (name : String) : Option Daemon :=
  if daemon.isShuttingDown then some daemon
  else
    (daemon.findModule name).map fun found =>
      match found with
      | none => daemon
      | some module =>
        if module ∉ daemon.m_loadedModules then daemon
        else
          let daemon := daemon.call (.stop module)
          let daemon := { daemon with m_loadedModules := daemon.m_loadedModules.erase module }
          if daemon.isSystemdEnabled then daemon.call .quit else daemon

def moduleDeleted (daemon : Daemon) (module : QObject) : Daemon :=
  { daemon with
    m_loadedModules := daemon.m_loadedModules.erase module
    m_modules := daemon.m_modules.erase module
    m_modulesOnDemand := daemon.m_modulesOnDemand.erase module
    deleted := daemon.deleted ++ [module] }

def stopModule (daemon : Daemon) (module : QObject) : Option Daemon :=
  daemon.unloadModule (daemon.m_pluginRegistry.getNameForInstance (some module))

/-- The list is reversed in place and then walked. -/
def shutdown (daemon : Daemon) : Option Daemon :=
  let daemon := { daemon with m_running := false }
  let daemon := { daemon with m_loadedModules := daemon.m_loadedModules.reverse }
  (daemon.m_loadedModules.foldlM stopModule daemon).map (call · .quit)

end Daemon

end LiriSession
