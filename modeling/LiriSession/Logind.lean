import Mathlib.Data.List.Basic
import Mathlib.Data.String.Basic

/-! The client of logind: finding the session when the service appears, losing
it, and inhibitors. Each function gives the next members and the effects that
it has outside, in order. -/
namespace LiriSession

namespace Logind

inductive InhibitFlag
  | inhibitShutdown
  | inhibitSleep
  | inhibitIdle
  | inhibitPowerKey
  | inhibitSuspendKey
  | inhibitHibernateKey
  | inhibitLidSwitch
deriving DecidableEq, Repr

inductive InhibitMode
  | block
  | delay
deriving DecidableEq, Repr

/-- The asynchronous and the blocking method calls; a path names the object. A time
limit is given where the call has one of its own. -/
inductive Message
  | activate (path : String)
  | getProperty (path name : String)
  | setIdleHint (path : String) (arguments : List Bool) (timeout : Int)
  | takeControl (path : String) (force : Bool)
  | releaseControl (path : String)
  | inhibit (what who why mode : String)
deriving DecidableEq, Repr

inductive Signal
  | connectedChanged (connected : Bool)
  | hasSessionControlChanged (control : Bool)
  | sessionActiveChanged (active : Bool)
  | vtNumberChanged (vt : Int)
  | seatChanged (seat : String)
  | inhibitedChanged (inhibited : Bool)
  | inhibited (who why : String) (fd : Int)
  | uninhibited (fd : Int)
deriving DecidableEq, Repr

inductive Effect
  | send (message : Message)
  | close (fd : Int)
  | emit (signal : Signal)
deriving DecidableEq, Repr

structure Subscription where
  path : String
  interface : String
  member : String
deriving DecidableEq, Repr

/-- An element of the property `Sessions` of a user, with what `getSessionType`
and `getSessionState` return for it: an empty string after an error reply. -/
structure UserSession where
  id : String
  objectPath : String
  type : String
  state : String

/-- What the blocking lookups are answered: none where a call fails. -/
structure Lookups where
  sessions : Option (List UserSession)
  xdgSessionId : Option String
  getSession : String → Option String
  getSessionByPid : Option String

/-- The answer to `Inhibit`: an error, or a descriptor with what `dup` returns. -/
inductive InhibitReply
  | error
  | granted (dup : Int)
deriving DecidableEq, Repr

def manager : String := "org.freedesktop.login1.Manager"

def session : String := "org.freedesktop.login1.Session"

def properties : String := "org.freedesktop.DBus.Properties"

def object : String := "/org/freedesktop/login1"

end Logind

open Logind

/-- The members of `LogindPrivate`, and the signals that its bus delivers. -/
structure LogindPrivate where
  isConnected : Bool := false
  hasSessionControl : Bool := false
  sessionPath : String := ""
  sessionActive : Bool := false
  vt : Int := -1
  seat : String := ""
  inhibitFds : List Int := []
  subscriptions : List Subscription := []

namespace LogindPrivate

/-- `QDBusConnection::connect`: an identical subscription is not added again. -/
def subscribe (logind : LogindPrivate) (path interface member : String) : LogindPrivate :=
  let hook : Subscription := ⟨path,interface,member⟩
  if hook ∈ logind.subscriptions then logind
  else { logind with subscriptions := logind.subscriptions ++ [hook] }

def unsubscribe (logind : LogindPrivate) (path interface member : String) : LogindPrivate :=
  { logind with subscriptions := logind.subscriptions.erase ⟨path,interface,member⟩ }

def getUserSession (lookups : Lookups) : Option UserSession :=
  lookups.sessions.bind fun sessions =>
    sessions.foldl (fun found current =>
      if current.type ∉ ["tty","wayland","x11"] then found
      else if current.state ≠ "active" then found
      else some current) none

/-- An earlier path stays when no lookup finds a session. -/
def lookUpSession (logind : LogindPrivate) (lookups : Lookups) : LogindPrivate :=
  match getUserSession lookups with
  | some found => { logind with sessionPath := found.objectPath }
  | none =>
    let byId := lookups.xdgSessionId.bind lookups.getSession
    let logind := { logind with sessionPath := byId.getD logind.sessionPath }
    if byId.getD "" ≠ "" then logind
    else { logind with sessionPath := lookups.getSessionByPid.getD logind.sessionPath }

def _q_sessionPropertiesChanged (logind : LogindPrivate) : List Effect :=
  if !logind.isConnected || logind.sessionPath = "" then []
  else ["Active","VTNr","Seat"].map fun name => .send (.getProperty logind.sessionPath name)

def _q_serviceRegistered (logind : LogindPrivate) (lookups : Lookups) : LogindPrivate × List Effect :=
  if logind.isConnected then (logind,[])
  else
    let logind := logind.lookUpSession lookups
    if logind.sessionPath = "" then (logind,[])
    else
      let logind := { logind with isConnected := true }
      let logind := logind.subscribe logind.sessionPath session "Lock"
      let logind := logind.subscribe logind.sessionPath session "Unlock"
      let logind := logind.subscribe logind.sessionPath properties "PropertiesChanged"
      let logind := logind.subscribe object manager "PrepareForSleep"
      let logind := logind.subscribe object manager "PrepareForShutdown"
      (logind,.send (.activate logind.sessionPath)::logind._q_sessionPropertiesChanged ++
        [.emit (.connectedChanged true)])

/-- The handlers of the replies to `Get`; an error reply brings no value. -/
def handleSessionActiveReply (logind : LogindPrivate) : Option Bool → LogindPrivate × List Effect
  | none => (logind,[])
  | some active =>
    if logind.sessionActive ≠ active then
      ({ logind with sessionActive := active },[.emit (.sessionActiveChanged active)])
    else (logind,[])

def handleVirtualTerminalReply (logind : LogindPrivate) :
    Option UInt32 → LogindPrivate × List Effect
  | none => (logind,[])
  | some vtnr =>
    if logind.vt ≠ vtnr.toInt32.toInt then
      ({ logind with vt := vtnr.toInt32.toInt },[.emit (.vtNumberChanged vtnr.toInt32.toInt)])
    else (logind,[])

def handleSeatReply (logind : LogindPrivate) : Option String → LogindPrivate × List Effect
  | none => (logind,[])
  | some id =>
    if logind.seat ≠ id then ({ logind with seat := id },[.emit (.seatChanged id)])
    else (logind,[])

/-- The subscriptions on the session object stay. -/
def _q_serviceUnregistered (logind : LogindPrivate) : LogindPrivate × List Effect :=
  let next := logind.unsubscribe object manager "PrepareForSleep"
  let next := next.unsubscribe object manager "PrepareForShutdown"
  ({ next with isConnected := false, sessionActive := false, vt := -1, seat := "" },
    [.emit (.connectedChanged false)] ++
      (if logind.sessionActive then [.emit (.sessionActiveChanged false)] else []) ++
      (if logind.vt ≠ -1 then [.emit (.vtNumberChanged (-1))] else []) ++
      (if logind.seat ≠ "" then [.emit (.seatChanged "")] else []))

def isInhibited (logind : LogindPrivate) : Bool := logind.inhibitFds.length > 0

/-- The value is passed as the second argument of `asyncCall`, which is the time limit. -/
def setIdleHint (logind : LogindPrivate) (idle : Bool) : List Effect :=
  if !logind.isConnected || logind.sessionPath = "" then []
  else [.send (.setIdleHint logind.sessionPath [] (if idle then 1 else 0))]

def takeControl (logind : LogindPrivate) : List Effect :=
  if !logind.isConnected || logind.sessionPath = "" || logind.hasSessionControl then []
  else [.send (.takeControl logind.sessionPath false)]

def handleTakeControlReply (logind : LogindPrivate) (valid : Bool) : LogindPrivate × List Effect :=
  if !valid then
    ({ logind with hasSessionControl := false },[.emit (.hasSessionControlChanged false)])
  else
    let logind := { logind with hasSessionControl := true }
    let logind := logind.subscribe logind.sessionPath session "PauseDevice"
    let logind := logind.subscribe logind.sessionPath session "ResumeDevice"
    (logind,[.emit (.hasSessionControlChanged true)])

def releaseControl (logind : LogindPrivate) : LogindPrivate × List Effect :=
  if !logind.isConnected || logind.sessionPath = "" || !logind.hasSessionControl then (logind,[])
  else
    ({ logind with hasSessionControl := false },
      [.send (.releaseControl logind.sessionPath),.emit (.hasSessionControlChanged false)])

def what (flags : List InhibitFlag) : List String :=
  [(InhibitFlag.inhibitShutdown,"shutdown"),(.inhibitSleep,"sleep"),(.inhibitIdle,"idle"),
    (.inhibitPowerKey,"handle-power-key"),(.inhibitSuspendKey,"handle-suspend-key"),
    (.inhibitHibernateKey,"handle-hibernate-key"),(.inhibitLidSwitch,"handle-lid-switch")].filterMap
      fun entry => if entry.1 ∈ flags then some entry.2 else none

def modeStr : InhibitMode → String
  | .block => "block"
  | .delay => "delay"

def inhibit (logind : LogindPrivate) (who why : String) (flags : List InhibitFlag)
    (mode : InhibitMode) : List Effect :=
  if !logind.isConnected then []
  else [.send (.inhibit (":".intercalate (what flags)) who why (modeStr mode))]

/-- The handler of the reply to an `Inhibit` call that was made with `who` and `why`. -/
def handleInhibitReply (logind : LogindPrivate) (who why : String) :
    InhibitReply → LogindPrivate × List Effect
  | .error => (logind,[])
  | .granted fd =>
    let logind := { logind with inhibitFds := logind.inhibitFds ++ [fd] }
    (logind,(if logind.inhibitFds.length = 1 then [.emit (.inhibitedChanged true)] else []) ++
      [.emit (.inhibited who why fd)])

def uninhibit (logind : LogindPrivate) (fd : Int) : LogindPrivate × List Effect :=
  if !logind.isConnected || fd ∉ logind.inhibitFds then (logind,[])
  else
    let logind := { logind with inhibitFds := logind.inhibitFds.erase fd }
    (logind,[.close fd] ++
      (if logind.inhibitFds.length = 0 then [.emit (.inhibitedChanged false)] else []) ++
      [.emit (.uninhibited fd)])

end LogindPrivate

end LiriSession
