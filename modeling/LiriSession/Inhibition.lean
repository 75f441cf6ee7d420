import LiriSession.Logind
import LiriSession.Library.OrderedMap
import LiriSession.Library.Run

/-! The screen saver interface over its backend, joined with the client of
logind, the requests that logind has not answered, and the descriptors that are
open. A descriptor and a request in flight remember who asked. -/
namespace LiriSession
open Library Logind

structure InhibitEntry where
  who : String
  why : String
deriving DecidableEq, Repr

/-- The members of `ScreenSaver`, the cookie counter of `Inhibit`, and when the
elapsed timer was started, if it is valid. -/
structure ScreenSaver where
  m_active : Bool := false
  m_inhibit : OrderedMap Nat InhibitEntry := .empty
  m_inhibitFd : OrderedMap Nat Int := .empty
  m_elapsedTimer : Option Nat := none
  cookieSeed : Nat := 0

namespace ScreenSaver

/-- `Inhibit` up to its call of the backend. The counter is 32 bits wide. -/
def addEntry (saver : ScreenSaver) (appName reason : String) : ScreenSaver :=
  { saver with
    cookieSeed := (saver.cookieSeed + 1) % 2^32
    m_inhibit := saver.m_inhibit.insert saver.cookieSeed ⟨appName,reason⟩ }

/-- `UnInhibit` after its call of the backend. -/
def removeEntry (saver : ScreenSaver) (cookie : Nat) : ScreenSaver :=
  { saver with
    m_inhibit := saver.m_inhibit.erase cookie
    m_inhibitFd := saver.m_inhibitFd.erase cookie }

/-- The first cookie whose entry has the two texts takes the descriptor. -/
def handleInhibited (saver : ScreenSaver) (who why : String) (fd : Int) : ScreenSaver :=
  match saver.m_inhibit.findKey? (fun entry => entry.who = who && entry.why = why) with
  | none => saver
  | some cookie => { saver with m_inhibitFd := saver.m_inhibitFd.insert cookie fd }

/-- `restart` starts a timer that is not running, too; only its result means nothing then. -/
def handleLock (saver : ScreenSaver) (now : Nat) : ScreenSaver :=
  { saver with m_active := true, m_elapsedTimer := some now }

def handleUnlock (saver : ScreenSaver) : ScreenSaver :=
  { saver with m_active := false, m_elapsedTimer := none }

end ScreenSaver

inductive SessionBackend
  | logind
  | fake
deriving DecidableEq, Repr

namespace LogindBackend

/-- The map from `who` to descriptor after `uninhibited`: the first key that
holds the descriptor goes, unless that key is empty, which is no key to `isEmpty`. -/
def handleUninhibited (m_fds : OrderedMap String Int) (fd : Int) : OrderedMap String Int :=
  let who := (m_fds.findKey? (fun value => value = fd)).getD ""
  if who = "" then m_fds else m_fds.erase who

structure Inhibitor where
  who : String
  why : String
  flags : List InhibitFlag
  mode : InhibitMode

def powerButton : Inhibitor where
  who := "Liri/PowerButton"
  why := "Liri handles the power button itself"
  flags := [.inhibitPowerKey,.inhibitSuspendKey,.inhibitHibernateKey]
  mode := .block

def sleep : Inhibitor where
  who := "Liri/Sleep"
  why := "Liri needs to logout before shutdown and lock the screen before sleep"
  flags := [.inhibitShutdown,.inhibitSleep]
  mode := .delay

def lid : Inhibitor where
  who := "Liri/Lid"
  why := "Liri wants to handle when the lid is closed"
  flags := [.inhibitLidSwitch]
  mode := .block

def inhibitors : List Inhibitor := [powerButton,sleep,lid]

end LogindBackend

/-- A call of `Inhibit` to logind: its number, the cookie it was made for unless
the backend made it for itself, and its arguments. -/
structure Request where
  serial : Nat
  cookie : Option Nat
  what : String
  who : String
  why : String
  mode : String
deriving DecidableEq, Repr

inductive Output
  | logind (effect : Effect)
  | sessionLocked
  | sessionUnlocked
  | activeChanged (active : Bool)
deriving DecidableEq, Repr

/-- The screen saver, its backend and the client of logind; the requests in
flight by number, the open descriptors with the requests they were granted for,
for each cookie the number of the request that its last `Inhibit` sent, and the
cookies that clients have got and not given back. -/
structure Inhibition where
  backend : SessionBackend := .logind
  logind : LogindPrivate := {}
  m_fds : OrderedMap String Int := .empty
  saver : ScreenSaver := {}
  issued : Nat := 0
  inFlight : OrderedMap Nat Request := .empty
  openFds : OrderedMap Int Request := .empty
  asked : OrderedMap Nat (Option Nat) := .empty
  live : List Nat := []
  log : List Output := []

namespace Inhibition

def output (state : Inhibition) (made : Output) : Inhibition := { state with log := state.log ++ [made] }

/-- What an effect of `Logind` does: messages go out, and signals reach the
slots of the backend and through them those of the screen saver. -/
def perform (cookie : Option Nat) (state : Inhibition) (effect : Effect) : Inhibition :=
  let state := state.output (.logind effect)
  match effect with
  | .send (.inhibit what who why mode) => { state with
      issued := state.issued + 1
      inFlight := state.inFlight.insert state.issued ⟨state.issued,cookie,what,who,why,mode⟩ }
  | .close fd => { state with openFds := state.openFds.erase fd }
  | .emit (.inhibited who why fd) => { state with
      m_fds := state.m_fds.insert who fd
      saver := state.saver.handleInhibited who why fd }
  | .emit (.uninhibited fd) => { state with m_fds := LogindBackend.handleUninhibited state.m_fds fd }
  | .emit (.connectedChanged true) => { state with
      log := state.log ++ (state.logind.setIdleHint false).map .logind }
  | _ => state

/-- The members change first, then the effects follow. -/
def advance (state : Inhibition) (cookie : Option Nat) (result : LogindPrivate × List Effect) :
    Inhibition :=
  result.2.foldl (perform cookie) { state with logind := result.1 }

def logindInhibit (state : Inhibition) (cookie : Option Nat) (call : LogindBackend.Inhibitor) :
    Inhibition :=
  state.advance cookie (state.logind,state.logind.inhibit call.who call.why call.flags call.mode)

def uninhibit (state : Inhibition) (fd : Int) : Inhibition :=
  state.advance none (state.logind.uninhibit fd)

def setupInhibitors (state : Inhibition) : Inhibition :=
  LogindBackend.inhibitors.foldl (logindInhibit · none) state

def inhibitIdle (state : Inhibition) (cookie : Nat) (who why : String) : Inhibition :=
  match state.backend with
  | .logind => state.logindInhibit (some cookie) ⟨who,why,[.inhibitIdle],.block⟩
  | .fake => state

def uninhibitIdle (state : Inhibition) (fd : Int) : Inhibition :=
  match state.backend with
  | .logind => state.uninhibit fd
  | .fake => state

/-- `ScreenSaver::Inhibit`, which returns the cookie. -/
def inhibit (state : Inhibition) (appName reason : String) : Nat × Inhibition :=
  let newCookie := state.saver.cookieSeed
  let entered := { state with saver := state.saver.addEntry appName reason }
  let sent := entered.inhibitIdle newCookie appName reason
  let asked := if sent.issued = state.issued then none else some state.issued
  (newCookie,{ sent with
    asked := sent.asked.insert newCookie asked
    live := sent.live ++ [newCookie] })

/-- `ScreenSaver::UnInhibit`. -/
def unInhibit (state : Inhibition) (cookie : Nat) : Inhibition :=
  let fd := (state.saver.m_inhibitFd.find? cookie).getD (-1)
  if fd ≠ -1 then
    let state := state.uninhibitIdle fd
    { state with
      saver := state.saver.removeEntry cookie
      live := state.live.filter (· ≠ cookie) }
  else { state with live := state.live.filter (· ≠ cookie) }

/-- How a loop ends: it may return, still be running after the given number of
turns, or read through an iterator whose entry has been erased. -/
inductive LoopOutcome
  | returned (state : Inhibition)
  | running
  | undefined

/-- The loop of `handleSessionLocked`. The iterator stands on an entry, or past
the last one, and nothing moves it. -/
def releaseLoop : Option String → Nat → Inhibition → LoopOutcome
  | none, _, state => .returned state
  | some _, 0, _ => .running
  | some who, turns+1, state =>
    match state.m_fds.find? who with
    | none => .undefined
    | some fd => releaseLoop (some who) turns (state.uninhibit fd)

/-- The loop as it is meant: every entry that the map has at first is released. -/
def releaseEach (state : Inhibition) : Inhibition := state.m_fds.values.foldl uninhibit state

/-- How the lock handler is read: as the source has it, run for some turns of its
loop, or with the loop as it is meant. -/
inductive LockReading
  | asWritten (turns : Nat)
  | releaseEach

def release (state : Inhibition) : LockReading → LoopOutcome
  | .asWritten turns => releaseLoop state.m_fds.firstKey? turns state
  | .releaseEach => .returned state.releaseEach

def emitLocked (state : Inhibition) (now : Nat) : Inhibition :=
  { (state.output .sessionLocked).output (.activeChanged true) with saver := state.saver.handleLock now }

def handleSessionLocked (state : Inhibition) (reading : LockReading) (now : Nat) : Option Inhibition :=
  match state.release reading with
  | .returned state => some (state.emitLocked now)
  | .running => none
  | .undefined => none

def emitUnlocked (state : Inhibition) : Inhibition :=
  { (state.output .sessionUnlocked).output (.activeChanged false) with saver := state.saver.handleUnlock }

def handleSessionUnlocked (state : Inhibition) : Inhibition := state.setupInhibitors.emitUnlocked

/-- What `dup` may return: a number that is not open, or -1 when it fails. -/
def dupAllowed (state : Inhibition) (fd : Int) : Bool :=
  fd = -1 || (0 ≤ fd && (state.openFds.find? fd).isNone)

def dupped (state : Inhibition) (fd : Int) (request : Request) : OrderedMap Int Request :=
  if fd = -1 then state.openFds else state.openFds.insert fd request

def deliver (state : Inhibition) (serial : Nat) (request : Request) (answer : InhibitReply) :
    Inhibition :=
  let state := { state with inFlight := state.inFlight.erase serial }
  match answer with
  | .error => state
  | .granted fd =>
    { state with openFds := state.dupped fd request }.advance none
      (state.logind.handleInhibitReply request.who request.why (.granted fd))

inductive Event
  | serviceRegistered (lookups : Lookups)
  | serviceUnregistered
  | inhibit (appName reason : String)
  | unInhibit (cookie : Nat)
  | uninhibit (fd : Int)
  | reply (serial : Nat) (answer : InhibitReply)
  | lock (now : Nat)
  | unlock

/-- The signal reaches the client: it has subscribed to it on some path. -/
def hears (state : Inhibition) (member : String) : Bool :=
  state.logind.subscriptions.any fun hook => hook.member = member

/-- One event. Without `Logind` only the calls of clients can happen. -/
def step (reading : LockReading) (state : Inhibition) (event : Event) : Option Inhibition :=
  match state.backend,event with
  | _,.inhibit appName reason => some (state.inhibit appName reason).2
  | _,.unInhibit cookie => some (state.unInhibit cookie)
  | .fake,_ => none
  | .logind,.serviceRegistered lookups =>
    some (state.advance none (state.logind._q_serviceRegistered lookups))
  | .logind,.serviceUnregistered => some (state.advance none state.logind._q_serviceUnregistered)
  | .logind,.uninhibit fd => some (state.uninhibit fd)
  | .logind,.reply serial answer =>
    match state.inFlight.find? serial,answer with
    | none,_ => none
    | some request,.error => some (state.deliver serial request .error)
    | some request,.granted fd =>
      if state.dupAllowed fd then some (state.deliver serial request (.granted fd)) else none
  | .logind,.lock now => if state.hears "Lock" then state.handleSessionLocked reading now else none
  | .logind,.unlock => if state.hears "Unlock" then some state.handleSessionUnlocked else none

def constructed : SessionBackend → Inhibition
  | .logind => setupInhibitors {}
  | .fake => { backend := .fake }

end Inhibition

end LiriSession
