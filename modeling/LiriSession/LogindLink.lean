import LiriSession.LogindSignals
import LiriSession.Library.Channel

/-! The client of logind and logind itself, with the bus between them: what either side
has sent is delivered in order, while logind comes and goes and its sessions change. -/
namespace LiriSession
open Library Logind

namespace LogindBackend

def setIdle (logind : LogindPrivate) (value : Bool) : List Effect := logind.setIdleHint value

def handleConnectedChanged (logind : LogindPrivate) (connected : Bool) : List Effect :=
  if connected then setIdle logind false else []

end LogindBackend

namespace SessionManager

def setIdle (logind : LogindPrivate) (idle : Bool) : List Effect := LogindBackend.setIdle logind idle

end SessionManager

/-- The properties of a session that the client reads. -/
structure SessionState where
  active : Bool
  vtNr : UInt32
  seat : String

namespace LogindLink

/-- What the client sends; the bus itself answers the first and takes the second. -/
inductive Outgoing
  | listNames
  | addMatch (path : String)
  | call (message : Message)

inductive Reply
  | active (value : Bool)
  | vtNr (value : UInt32)
  | seat (id : String)

inductive Delivery
  | names (found : Bool)
  | registered
  | unregistered
  | propertiesChanged (path : String)
  | reply (reply : Reply)
  | error

/-- Each lookup is answered with a proper object path, which is never empty. -/
def proper (lookups : Lookups) : Bool :=
  (lookups.sessions.getD []).all (·.objectPath ≠ "") &&
    (lookups.xdgSessionId.bind lookups.getSession).all (· ≠ "") &&
      lookups.getSessionByPid.all (· ≠ "")

end LogindLink

open LogindLink

/-- The client; whether logind owns its name, its sessions and their idle hints; the paths
from which the bus forwards `PropertiesChanged`, those that owe one, and the messages under
way. -/
structure LogindLink where
  client : LogindPrivate := {}
  registered : Bool
  sessions : String → SessionState
  hints : String → Bool := fun _ => false
  watched : List String := []
  owed : List String := []
  toServer : List Outgoing := [.listNames]
  toClient : List Delivery := []

namespace LogindLink

def send (link : LogindLink) (outgoing : List Outgoing) : LogindLink :=
  { link with toServer := link.toServer ++ outgoing }

def deliver (link : LogindLink) (delivery : Delivery) : LogindLink :=
  { link with toClient := link.toClient ++ [delivery] }

def calls (effects : List Effect) : List Outgoing :=
  effects.filterMap fun | .send message => some (.call message) | _ => none

/-- The messages go out, and the backend answers a new connection. -/
def outgoing (client : LogindPrivate) (effects : List Effect) : List Outgoing :=
  calls (effects.flatMap fun
    | .send message => [.send message]
    | .emit (.connectedChanged connected) => LogindBackend.handleConnectedChanged client connected
    | _ => [])

def newMatches (before after : LogindPrivate) : List Outgoing :=
  (after.subscriptions.filter fun hook =>
    hook.member = "PropertiesChanged" && hook ∉ before.subscriptions).map fun hook =>
      .addMatch hook.path

def advance (link : LogindLink) (result : LogindPrivate × List Effect) : LogindLink :=
  { link with client := result.1 }.send
    (newMatches link.client result.1 ++ outgoing result.1 result.2)

/-- The answer to `Get`. -/
def answer (session : SessionState) (name : String) : Option Reply :=
  if name = "Active" then some (.active session.active)
  else if name = "VTNr" then some (.vtNr session.vtNr)
  else if name = "Seat" then some (.seat session.seat)
  else none

/-- What logind does with a call; `SetIdleHint` takes one argument. -/
def handle (link : LogindLink) : Message → LogindLink
  | .getProperty path name =>
    link.deliver (((answer (link.sessions path) name).map Delivery.reply).getD .error)
  | .setIdleHint path arguments _ =>
    match arguments with
    | [hint] => { link with hints := Function.update link.hints path hint }
    | _ => link
  | _ => link

def serve (link : LogindLink) : Outgoing → LogindLink
  | .listNames => link.deliver (.names link.registered)
  | .addMatch path => { link with watched := link.watched ++ [path] }
  | .call message => if link.registered then link.handle message else link.deliver .error

def handleReply (client : LogindPrivate) : Reply → LogindPrivate × List Effect
  | .active value => client.handleSessionActiveReply (some value)
  | .vtNr value => client.handleVirtualTerminalReply (some value)
  | .seat id => client.handleSeatReply (some id)

/-- What the client does; the lookups are for a new connection. -/
def receive (link : LogindLink) (lookups : Lookups) : Delivery → LogindLink
  | .names found =>
    if found then link.advance (link.client._q_serviceRegistered lookups) else link
  | .registered => link.advance (link.client._q_serviceRegistered lookups)
  | .unregistered => link.advance link.client._q_serviceUnregistered
  | .propertiesChanged path =>
    if LogindPrivate.watch path ∈ link.client.subscriptions then
      link.advance (link.client,link.client._q_sessionPropertiesChanged)
    else link
  | .reply reply => link.advance (handleReply link.client reply)
  | .error => link

inductive Event
  | register (sessions : String → SessionState)
  | unregister
  | change (path : String) (session : SessionState)
  | announce
  | served
  | received (lookups : Lookups)
  | setIdle (value : Bool)

/-- One event. A new logind has its sessions and no idle hint; a change is announced
later, unless logind is gone by then. -/
def step (link : LogindLink) : Event → Option LogindLink
  | .register sessions =>
    if link.registered then none
    else some ({ link with registered := true, sessions, hints := fun _ => false }.deliver .registered)
  | .unregister =>
    if link.registered then some ({ link with registered := false, owed := [] }.deliver .unregistered)
    else none
  | .change path session =>
    if link.registered then
      some { link with
        sessions := Function.update link.sessions path session
        owed := link.owed ++ [path] }
    else none
  | .announce =>
    match link.owed with
    | [] => none
    | path::owed =>
      let link := { link with owed }
      some (if path ∈ link.watched then link.deliver (.propertiesChanged path) else link)
  | .served =>
    match link.toServer with
    | [] => none
    | outgoing::toServer => some ({ link with toServer }.serve outgoing)
  | .received lookups =>
    match link.toClient with
    | [] => none
    | delivery::toClient =>
      if proper lookups then some ({ link with toClient }.receive lookups delivery) else none
  | .setIdle value => some (link.send (calls (SessionManager.setIdle link.client value)))

def start (registered : Bool) (sessions : String → SessionState) : LogindLink where
  registered := registered
  sessions := sessions

def Quiet (link : LogindLink) : Prop := link.owed = [] ∧ link.toServer = [] ∧ link.toClient = []

/-- The calls that read the properties of a session. -/
def gets (path : String) : List Outgoing :=
  ["Active","VTNr","Seat"].map fun name => .call (.getProperty path name)

theorem newMatches_of_subset (before after : LogindPrivate)
    (kept : after.subscriptions ⊆ before.subscriptions) : newMatches before after = [] := by
  unfold newMatches
  rw [List.map_eq_nil_iff,List.filter_eq_nil_iff]
  intro hook member
  simp [kept member]

theorem advance_silent (link : LogindLink) (result : LogindPrivate × List Effect)
    (kept : result.1.subscriptions ⊆ link.client.subscriptions)
    (silent : outgoing result.1 result.2 = []) : link.advance result = { link with client := result.1 } := by
  rw [advance,newMatches_of_subset link.client result.1 kept,silent]
  simp [send]

theorem receive_unregistered (link : LogindLink) (lookups : Lookups) :
    link.receive lookups .unregistered =
      { link with client := link.client._q_serviceUnregistered.1 } := by
  apply advance_silent
  · exact List.Subset.trans (List.erase_subset ..) (List.erase_subset ..)
  · unfold LogindPrivate._q_serviceUnregistered outgoing
    by_cases active : link.client.sessionActive = true <;> by_cases terminal : link.client.vt = -1 <;>
      by_cases seated : link.client.seat = "" <;>
        simp [calls,LogindBackend.handleConnectedChanged,active,terminal,seated]

theorem receive_reply (link : LogindLink) (lookups : Lookups) (reply : Reply) :
    link.receive lookups (.reply reply) = { link with client := (handleReply link.client reply).1 } := by
  apply advance_silent
  · cases reply <;> simp only [handleReply,LogindPrivate.handleSessionActiveReply,
      LogindPrivate.handleVirtualTerminalReply,LogindPrivate.handleSeatReply] <;> split <;>
        exact List.Subset.refl _
  · cases reply <;> simp only [handleReply,LogindPrivate.handleSessionActiveReply,
      LogindPrivate.handleVirtualTerminalReply,LogindPrivate.handleSeatReply] <;> split <;> rfl

theorem outgoing_gets (client : LogindPrivate) (path : String) :
    outgoing client (LogindPrivate.getProperties path) = gets path := rfl

theorem receive_propertiesChanged (link : LogindLink) (lookups : Lookups) (path : String)
    (connected : link.client.isConnected = true) (found : link.client.sessionPath ≠ "") :
    link.receive lookups (.propertiesChanged path) =
      if LogindPrivate.watch path ∈ link.client.subscriptions then
        link.send (gets link.client.sessionPath)
      else link := by
  unfold receive advance
  rw [newMatches_of_subset _ _ (List.Subset.refl _),LogindPrivate.propertiesChanged_eq _ connected found,
    outgoing_gets,List.nil_append]

theorem receive_propertiesChanged_disconnected (link : LogindLink) (lookups : Lookups) (path : String)
    (disconnected : link.client.isConnected = false) :
    link.receive lookups (.propertiesChanged path) = link := by
  have none : link.client._q_sessionPropertiesChanged = [] := by
    simp [LogindPrivate._q_sessionPropertiesChanged,disconnected]
  unfold receive
  dsimp only
  split
  · rw [none]
    exact advance_silent link (link.client,[]) (List.Subset.refl _) rfl
  · rfl

def connect (link : LogindLink) (lookups : Lookups) : LogindLink :=
  link.advance (link.client._q_serviceRegistered lookups)

theorem connect_again (link : LogindLink) (lookups : Lookups)
    (connected : link.client.isConnected = true) : link.connect lookups = link := by
  rw [connect,LogindPrivate.registered_again link.client lookups connected]
  exact advance_silent link (link.client,[]) (List.Subset.refl _) rfl

theorem connect_lost (link : LogindLink) (lookups : Lookups)
    (disconnected : link.client.isConnected = false)
    (lost : (link.client.lookUpSession lookups).sessionPath = "") :
    link.connect lookups = { link with client := { link.client with sessionPath := "" } } := by
  rw [connect,LogindPrivate.registered_lost link.client lookups disconnected lost]
  exact advance_silent link _ (List.Subset.refl _) rfl

/-- A new connection: the matches come first, then the session is read, and the idle hint
is to be cleared. -/
theorem connect_found (link : LogindLink) (lookups : Lookups)
    (disconnected : link.client.isConnected = false)
    (found : (link.client.lookUpSession lookups).sessionPath ≠ "") :
    let path := (link.client.lookUpSession lookups).sessionPath
    ∃ hooks, LogindPrivate.watch path ∈ hooks ∧
      let client := { link.client with isConnected := true, sessionPath := path, subscriptions := hooks }
      link.connect lookups = { link with client }.send (newMatches link.client client ++
        (Outgoing.call (.activate path)::gets path ++ [Outgoing.call (.setIdleHint path [] 0)])) := by
  intro path
  obtain ⟨hooks,listed,same⟩ := link.client.registered_found lookups disconnected found
  have watched : LogindPrivate.watch path ∈ LogindPrivate.sessionHooks path := by
    simp [LogindPrivate.sessionHooks]
  refine ⟨hooks,listed watched,?_⟩
  dsimp only
  rw [connect,same,advance]
  congr 2
  simp [outgoing,calls,LogindPrivate.getProperties,gets,LogindBackend.handleConnectedChanged,
    LogindBackend.setIdle,LogindPrivate.setIdleHint,found,path]

/-- What one event can do. -/
inductive Moves (link : LogindLink) : Event → LogindLink → Prop
  | register (sessions : String → SessionState) (absent : ¬link.registered = true) :
      Moves link (.register sessions)
        ({ link with registered := true, sessions, hints := fun _ => false }.deliver .registered)
  | unregister (there : link.registered = true) :
      Moves link .unregister ({ link with registered := false, owed := [] }.deliver .unregistered)
  | change (path : String) (session : SessionState) (there : link.registered = true) :
      Moves link (.change path session) { link with
        sessions := Function.update link.sessions path session
        owed := link.owed ++ [path] }
  | announce (path : String) (owed : List String) (first : link.owed = path::owed) :
      Moves link .announce
        (if path ∈ link.watched then { link with owed }.deliver (.propertiesChanged path)
        else { link with owed })
  | served (outgoing : Outgoing) (toServer : List Outgoing)
      (first : link.toServer = outgoing::toServer) :
      Moves link .served ({ link with toServer }.serve outgoing)
  | received (lookups : Lookups) (delivery : Delivery) (toClient : List Delivery)
      (first : link.toClient = delivery::toClient) (answers : proper lookups = true) :
      Moves link (.received lookups) ({ link with toClient }.receive lookups delivery)
  | setIdle (value : Bool) :
      Moves link (.setIdle value) (link.send (calls (SessionManager.setIdle link.client value)))

theorem moves_of_step (link next : LogindLink) (event : Event) (taken : step link event = some next) :
    Moves link event next := by
  cases event with
  | register sessions =>
    obtain ⟨absent,same⟩ := Option.ite_none_left_eq_some.mp taken
    rw [← Option.some.inj same]
    exact .register sessions absent
  | unregister =>
    obtain ⟨there,same⟩ := Option.ite_none_right_eq_some.mp taken
    rw [← Option.some.inj same]
    exact .unregister there
  | change path session =>
    obtain ⟨there,same⟩ := Option.ite_none_right_eq_some.mp taken
    rw [← Option.some.inj same]
    exact .change path session there
  | announce =>
    unfold step at taken
    dsimp only at taken
    split at taken
    next => cases taken
    next path owed first =>
      cases taken
      exact .announce path owed first
  | served =>
    unfold step at taken
    dsimp only at taken
    split at taken
    next => cases taken
    next outgoing toServer first =>
      cases taken
      exact .served outgoing toServer first
  | received lookups =>
    unfold step at taken
    dsimp only at taken
    split at taken
    next => cases taken
    next delivery toClient first =>
      obtain ⟨answers,same⟩ := Option.ite_none_right_eq_some.mp taken
      rw [← Option.some.inj same]
      exact .received lookups delivery toClient first answers
  | setIdle value =>
    cases taken
    exact .setIdle value

end LogindLink

end LiriSession
