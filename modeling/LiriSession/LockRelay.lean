import LiriSession.LockLoop
import LiriSession.ScreenSaverActivity
import LiriSession.SessionBus
import LiriSession.Library.Posting
import LiriSession.Library.Publishing

/-! Locking as the programs of the desktop see it. They ask the session manager, which asks
logind; only when logind has announced the lock does the screen saver become active, and
the programs are told. -/
namespace LiriSession
open Library Logind

namespace LogindPrivate

def callSession (logind : LogindPrivate) (member : String) : Option QDBusMessage :=
  if !logind.isConnected || logind.sessionPath = "" then none
  else some {
    service := "org.freedesktop.login1"
    path := logind.sessionPath
    interface := session
    member
    arguments := [] }

def lockSession (logind : LogindPrivate) : Option QDBusMessage := logind.callSession "Lock"

def unlockSession (logind : LogindPrivate) : Option QDBusMessage := logind.callSession "Unlock"

end LogindPrivate

namespace Inhibition

def lockSession (state : Inhibition) : Option QDBusMessage :=
  match state.backend with
  | .logind => state.logind.lockSession
  | .fake => none

def unlockSession (state : Inhibition) : Option QDBusMessage :=
  match state.backend with
  | .logind => state.logind.unlockSession
  | .fake => none

/-- `ScreenSaver::SetActive`: what it returns, and the call that it makes. -/
def setActive (state : Inhibition) (active : Bool) : Bool × Option QDBusMessage :=
  if active then (true,state.lockSession) else (false,none)

/-- A signal of logind that the backend is connected to. -/
inductive Notice
  | lock
  | unlock
  | prepareForSleep (arg : Bool)

def Notice.member : Notice → String
  | .lock => "Lock"
  | .unlock => "Unlock"
  | .prepareForSleep _ => "PrepareForSleep"

/-- Whether the session is locked from then on, if the notice is about that. -/
def Notice.locks : Notice → Option Bool
  | .lock => some true
  | .unlock => some false
  | .prepareForSleep arg => if arg then some true else none

/-- The events that are notices of logind. -/
def ofLogind : Event → Bool
  | .lock _ => true
  | .unlock => true
  | _ => false

def handleNotice (state : Inhibition) (reading : LockReading) (now : Nat) : Notice → Option Inhibition
  | .lock => state.handleSessionLocked reading now
  | .unlock => some state.handleSessionUnlocked
  | .prepareForSleep arg => some (if arg then state.emitLocked now else state)

end Inhibition

/-- A call of a program to the session manager or its screen saver. -/
inductive LockCall
  | lock
  | unlock
  | screenSaverLock
  | setActive (active : Bool)

namespace LockCall

/-- What is sent to logind for it. -/
def handle (state : Inhibition) : LockCall → Option QDBusMessage
  | .lock => state.lockSession
  | .unlock => state.unlockSession
  | .screenSaverLock => state.lockSession
  | .setActive active => (state.setActive active).2

def wants : LockCall → Option Bool
  | .lock => some true
  | .unlock => some false
  | .screenSaverLock => some true
  | .setActive active => if active then some true else none

end LockCall

/-- A call that has reached the session manager, with its backend and what it knew of
logind by then. -/
structure DeliveredCall where
  call : LockCall
  backend : SessionBackend
  logind : LogindPrivate

/-- The one message that the call is to lead to: to the session of that moment, if the
backend is that of logind, is connected and has found it. -/
def DeliveredCall.message (one : DeliveredCall) : Option QDBusMessage :=
  match one.call.wants with
  | none => none
  | some value =>
    if one.backend = .logind ∧ one.logind.isConnected = true ∧ one.logind.sessionPath ≠ "" then some {
      service := "org.freedesktop.login1"
      path := one.logind.sessionPath
      interface := session
      member := if value then "Lock" else "Unlock"
      arguments := [] }
    else none

/-- The signals in the order in which `QmlSessionManager` connects to them: that of a lock
and that of an unlock. -/
def QmlSessionManager.signals : List Bool := [true,false]

/-- The session manager, the calls that programs make to it, those that have reached it and
those that it has made to logind, the notices of logind under way and those acted upon, and
the signals to the programs. -/
structure LockRelay (Client : Type) where
  inhibition : Inhibition
  posting : Posting Client LockCall := {}
  delivered : List DeliveredCall := []
  toLogind : List QDBusMessage := []
  fromLogind : List Inhibition.Notice := []
  acted : List Inhibition.Notice := []
  publishing : Publishing Client Bool := {}

namespace LockRelay
open Inhibition
variable {Client : Type} [DecidableEq Client]

inductive Event (Client : Type)
  | inhibition (event : Inhibition.Event)
  | connect (client : Client)
  | call (client : Client) (call : LockCall)
  | delivered (client : Client)
  | failed (client : Client)
  | announced (notice : Notice)
  | handled (now : Nat)
  | received (client : Client)

def publish (relay : LockRelay Client) : Option Bool → LockRelay Client
  | none => relay
  | some value => { relay with publishing := relay.publishing.publish QmlSessionManager.signals value }

/-- A call is taken when it reaches the session manager. The notices of logind arrive in
order, and the slots of the backend are called if it is still subscribed. -/
def step (reading : LockReading) (relay : LockRelay Client) : Event Client → Option (LockRelay Client)
  | .inhibition event =>
    if ofLogind event then none
    else (Inhibition.step reading relay.inhibition event).map fun next => { relay with inhibition := next }
  | .connect client =>
    (relay.publishing.ask QmlSessionManager.signals client).map fun next => { relay with publishing := next }
  | .call client call => some { relay with posting := relay.posting.post client call }
  | .delivered client =>
    match relay.posting.underWay client with
    | [] => none
    | call::rest =>
      some { relay with
        posting := relay.posting.deal client call rest true
        delivered := relay.delivered ++ [⟨call,relay.inhibition.backend,relay.inhibition.logind⟩]
        toLogind := relay.toLogind ++ (call.handle relay.inhibition).toList }
  | .failed client =>
    match relay.posting.underWay client with
    | [] => none
    | call::rest => some { relay with posting := relay.posting.deal client call rest false }
  | .announced notice =>
    if relay.inhibition.hears notice.member then
      some { relay with fromLogind := relay.fromLogind ++ [notice] }
    else none
  | .handled now =>
    match relay.fromLogind with
    | [] => none
    | notice::rest =>
      if relay.inhibition.hears notice.member then
        (relay.inhibition.handleNotice reading now notice).map fun next =>
          { relay with
            inhibition := next
            fromLogind := rest
            acted := relay.acted ++ [notice] }.publish notice.locks
      else some { relay with fromLogind := rest }
  | .received client =>
    (relay.publishing.hear client).map fun next => { relay with publishing := next }

def changes (outputs : List Output) : List Bool :=
  outputs.filterMap fun | .activeChanged active => some active | _ => none

/-- The calls of a program are in its own order, and logind is sent the message of each that
has reached the session manager, once and in the order of the calls. The session is as the
last notice acted upon has it, whatever has been asked for; both interfaces announce the
same, and a program that has been told anything since it connected, and to which nothing is
under way, agrees with the screen saver. -/
structure Informed (relay : LockRelay Client) : Prop where
  ordered : relay.posting.Ordered
  received : relay.posting.received = relay.delivered.map DeliveredCall.call
  asked : relay.toLogind = relay.delivered.filterMap DeliveredCall.message
  caused : relay.publishing.sent = relay.acted.filterMap Notice.locks
  announced : changes relay.inhibition.log = relay.publishing.sent
  active : relay.inhibition.saver.GetActive = newest relay.publishing.sent false
  served : relay.publishing.Served QmlSessionManager.signals
  agrees : ∀ client count held, (relay.publishing.listener client).since = some count →
    count < relay.publishing.sent.length → (relay.publishing.listener client).underWay = [] →
    newest (relay.publishing.listener client).heard held = relay.inhibition.saver.GetActive
  fake : relay.inhibition.backend = .fake → relay.publishing.sent = [] ∧ relay.toLogind = []

/-- Nothing is announced. -/
structure Unmoved (state next : Inhibition) : Prop where
  active : next.saver.m_active = state.saver.m_active
  announced : changes next.log = changes state.log
  backend : next.backend = state.backend

theorem Unmoved.refl (state : Inhibition) : Unmoved state state := ⟨rfl,rfl,rfl⟩

theorem Unmoved.trans {first second third : Inhibition} (left : Unmoved first second)
    (right : Unmoved second third) : Unmoved first third :=
  ⟨right.active.trans left.active,right.announced.trans left.announced,right.backend.trans left.backend⟩

theorem handleInhibited_active (saver : ScreenSaver) (who why : String) (fd : Int) :
    (saver.handleInhibited who why fd).m_active = saver.m_active := by
  rcases saver.handleInhibited_cases who why fd with ⟨_,same⟩ | ⟨_,_,_,same⟩ <;> rw [same]

theorem changes_logind (effects : List Effect) : changes (effects.map .logind) = [] := by
  simp [changes]

theorem changes_append (first second : List Output) :
    changes (first ++ second) = changes first ++ changes second :=
  List.filterMap_append

theorem perform_unmoved (cookie : Option Nat) (state : Inhibition) (effect : Effect) :
    Unmoved state (perform cookie state effect) := by
  have noted : changes (state.log ++ [.logind effect]) = changes state.log := by simp [changes]
  unfold perform output
  dsimp only
  split
  · exact ⟨rfl,noted,rfl⟩
  · exact ⟨rfl,noted,rfl⟩
  · exact ⟨handleInhibited_active ..,noted,rfl⟩
  · exact ⟨rfl,noted,rfl⟩
  · refine ⟨rfl,?_,rfl⟩
    rw [changes_append,changes_logind,List.append_nil]
    exact noted
  · exact ⟨rfl,noted,rfl⟩

theorem advance_unmoved (state : Inhibition) (cookie : Option Nat) (result : LogindPrivate × List Effect) :
    Unmoved state (state.advance cookie result) := by
  have start : Unmoved state { state with logind := result.1 } := ⟨rfl,rfl,rfl⟩
  unfold advance
  refine List.foldlRecOn result.2 _ start ?_
  intro next before effect _
  exact before.trans (perform_unmoved cookie next effect)

theorem setupInhibitors_unmoved (state : Inhibition) : Unmoved state state.setupInhibitors := by
  unfold setupInhibitors
  refine List.foldlRecOn LogindBackend.inhibitors _ (.refl state) ?_
  intro next before call _
  exact before.trans (advance_unmoved next none _)

theorem releaseEach_unmoved (state : Inhibition) : Unmoved state state.releaseEach := by
  unfold releaseEach
  refine List.foldlRecOn state.m_fds.values _ (.refl state) ?_
  intro next before fd _
  exact before.trans (advance_unmoved next none _)

theorem inhibitIdle_unmoved (state : Inhibition) (cookie : Nat) (who why : String) :
    Unmoved state (state.inhibitIdle cookie who why) := by
  unfold inhibitIdle
  split
  · exact advance_unmoved ..
  · exact .refl state

theorem uninhibitIdle_unmoved (state : Inhibition) (fd : Int) : Unmoved state (state.uninhibitIdle fd) := by
  unfold uninhibitIdle
  split
  · exact advance_unmoved ..
  · exact .refl state

theorem inhibit_unmoved (state : Inhibition) (appName reason : String) :
    Unmoved state (state.inhibit appName reason).2 := by
  have entered : Unmoved state { state with saver := state.saver.addEntry appName reason } := ⟨rfl,rfl,rfl⟩
  have sent := entered.trans (inhibitIdle_unmoved _ state.saver.cookieSeed appName reason)
  exact ⟨sent.active,sent.announced,sent.backend⟩

theorem unInhibit_unmoved (state : Inhibition) (cookie : Nat) : Unmoved state (state.unInhibit cookie) := by
  rcases unInhibit_cases state cookie with ⟨_,same⟩ | ⟨fd,_,_,same⟩
  · rw [same]
    exact ⟨rfl,rfl,rfl⟩
  · have released := uninhibitIdle_unmoved state fd
    rw [same]
    exact ⟨released.active,released.announced,released.backend⟩

theorem deliver_unmoved (state : Inhibition) (serial : Nat) (request : Request) (answer : InhibitReply) :
    Unmoved state (state.deliver serial request answer) := by
  cases answer with
  | error => exact ⟨rfl,rfl,rfl⟩
  | granted fd =>
    have taken : Unmoved state { state with
        inFlight := state.inFlight.erase serial
        openFds := state.dupped fd request } := ⟨rfl,rfl,rfl⟩
    exact taken.trans (advance_unmoved ..)

/-- Every event but the two notices leaves the lock as it is. -/
theorem step_unmoved (reading : LockReading) (state next : Inhibition) (event : Inhibition.Event)
    (other : ofLogind event = false) (taken : Inhibition.step reading state event = some next) :
    Unmoved state next := by
  have logind := step_logind reading state next event
  cases event with
  | inhibit appName reason =>
    simp only [Inhibition.step,Option.some.injEq] at taken
    exact taken ▸ inhibit_unmoved state appName reason
  | unInhibit cookie =>
    simp only [Inhibition.step,Option.some.injEq] at taken
    exact taken ▸ unInhibit_unmoved state cookie
  | serviceRegistered lookups =>
    simp only [Inhibition.step,logind rfl taken,Option.some.injEq] at taken
    exact taken ▸ advance_unmoved ..
  | serviceUnregistered =>
    simp only [Inhibition.step,logind rfl taken,Option.some.injEq] at taken
    exact taken ▸ advance_unmoved ..
  | uninhibit fd =>
    simp only [Inhibition.step,logind rfl taken,Option.some.injEq] at taken
    exact taken ▸ advance_unmoved ..
  | reply serial answer =>
    have backend := logind rfl taken
    cases found : state.inFlight.find? serial with
    | none => simp [Inhibition.step,backend,found] at taken
    | some request =>
      cases answer with
      | error =>
        simp only [Inhibition.step,backend,found,Option.some.injEq] at taken
        exact taken ▸ deliver_unmoved state serial request .error
      | granted fd =>
        simp only [Inhibition.step,backend,found,Option.ite_none_right_eq_some,Option.some.injEq] at taken
        exact taken.2 ▸ deliver_unmoved state serial request (.granted fd)
  | lock now => cases other
  | unlock => cases other

/-- What a notice does to the lock. -/
structure Obeys (state next : Inhibition) (locks : Option Bool) : Prop where
  active : next.saver.m_active = locks.getD state.saver.m_active
  announced : changes next.log = changes state.log ++ locks.toList
  backend : next.backend = state.backend

theorem Unmoved.locked {state before : Inhibition} (unmoved : Unmoved state before) (now : Nat) :
    Obeys state (before.emitLocked now) (some true) := by
  refine ⟨rfl,?_,unmoved.backend⟩
  rw [← unmoved.announced]
  simp [emitLocked,output,changes]

theorem Unmoved.unlocked {state before : Inhibition} (unmoved : Unmoved state before) :
    Obeys state before.emitUnlocked (some false) := by
  refine ⟨rfl,?_,unmoved.backend⟩
  rw [← unmoved.announced]
  simp [emitUnlocked,output,changes]

theorem handleNotice_follows (reading : LockReading) (state next : Inhibition) (now : Nat) (notice : Notice)
    (taken : state.handleNotice reading now notice = some next) : Obeys state next notice.locks := by
  cases notice with
  | lock =>
    cases reading with
    | asWritten turns =>
      rw [← ((handleSessionLocked_asWritten state next turns now).mp taken).2]
      exact (Unmoved.refl state).locked now
    | releaseEach =>
      rw [← handleSessionLocked_releaseEach state next now taken]
      exact (releaseEach_unmoved state).locked now
  | unlock =>
    cases taken
    exact (setupInhibitors_unmoved state).unlocked
  | prepareForSleep arg =>
    cases taken
    cases arg with
    | false => exact ⟨rfl,(List.append_nil _).symm,rfl⟩
    | true => exact (Unmoved.refl state).locked now

/-- Without logind the client of it has no part. -/
theorem step_fake (reading : LockReading) (state next : Inhibition) (event : Inhibition.Event)
    (fake : state.backend = .fake) (taken : Inhibition.step reading state event = some next) :
    next.logind = state.logind := by
  cases moves_of_step reading state next event taken with
  | unsent => rfl
  | unbound => rfl
  | bound cookie fd =>
    simp only [forgotten,uninhibitIdle,fake]
  | sent _ _ _ backend => cases fake.symm.trans backend
  | registered _ _ backend => cases fake.symm.trans backend
  | unregistered _ backend => cases fake.symm.trans backend
  | uninhibit _ backend => cases fake.symm.trans backend
  | error _ _ _ backend => cases fake.symm.trans backend
  | granted _ _ _ _ _ backend => cases fake.symm.trans backend
  | lock _ _ backend => cases fake.symm.trans backend
  | unlock backend => cases fake.symm.trans backend

/-- The slots lead to the message that a delivered call is to lead to, and to no other. -/
theorem handle_eq (state : Inhibition) (call : LockCall) :
    call.handle state = DeliveredCall.message ⟨call,state.backend,state.logind⟩ := by
  have called (member : String) : state.logind.callSession member =
      if state.logind.isConnected = true ∧ state.logind.sessionPath ≠ "" then some {
        service := "org.freedesktop.login1"
        path := state.logind.sessionPath
        interface := session
        member
        arguments := [] }
      else none := by
    unfold LogindPrivate.callSession
    cases state.logind.isConnected <;> by_cases lost : state.logind.sessionPath = "" <;> simp [lost]
  have locks : state.lockSession = DeliveredCall.message ⟨.lock,state.backend,state.logind⟩ := by
    cases backend : state.backend with
    | fake => simp [lockSession,DeliveredCall.message,LockCall.wants,backend]
    | logind =>
      simp [lockSession,DeliveredCall.message,LockCall.wants,backend,LogindPrivate.lockSession,called]
  cases call with
  | lock => exact locks
  | screenSaverLock => exact locks
  | unlock =>
    cases backend : state.backend with
    | fake => simp [LockCall.handle,unlockSession,DeliveredCall.message,LockCall.wants,backend]
    | logind =>
      simp [LockCall.handle,unlockSession,DeliveredCall.message,LockCall.wants,backend,
        LogindPrivate.unlockSession,called]
  | setActive active =>
    cases active with
    | false => rfl
    | true => exact locks

theorem message_fake (one : DeliveredCall) (fake : one.backend = .fake) : one.message = none := by
  unfold DeliveredCall.message
  split
  · rfl
  · rw [fake]
    rfl

/-- What every state has; without logind there are no subscriptions to it. -/
structure Sound (relay : LockRelay Client) : Prop where
  ordered : relay.posting.Ordered
  received : relay.posting.received = relay.delivered.map DeliveredCall.call
  asked : relay.toLogind = relay.delivered.filterMap DeliveredCall.message
  caused : relay.publishing.sent = relay.acted.filterMap Notice.locks
  announced : changes relay.inhibition.log = relay.publishing.sent
  active : relay.inhibition.saver.m_active = newest relay.publishing.sent false
  served : relay.publishing.Served QmlSessionManager.signals
  fake : relay.inhibition.backend = .fake →
    relay.inhibition.logind = {} ∧ relay.publishing.sent = [] ∧ relay.toLogind = []

theorem Sound.informed {relay : LockRelay Client} (sound : Sound relay) : Informed relay where
  ordered := sound.ordered
  received := sound.received
  asked := sound.asked
  caused := sound.caused
  announced := sound.announced
  active := sound.active
  served := sound.served
  agrees := by
    intro client count held since later quiet
    rw [ScreenSaver.GetActive,sound.active]
    exact (sound.served client).newest_eq count since later quiet held false
  fake := fun fake => (sound.fake fake).2

theorem Sound.inhibition {relay : LockRelay Client} (sound : Sound relay) (reading : LockReading)
    (next : Inhibition) (event : Inhibition.Event) (other : ofLogind event = false)
    (taken : Inhibition.step reading relay.inhibition event = some next) :
    Sound { relay with inhibition := next } := by
  have unmoved := step_unmoved reading relay.inhibition next event other taken
  refine { sound with announced := ?_, active := ?_, fake := ?_ }
  · exact unmoved.announced.trans sound.announced
  · exact unmoved.active.trans sound.active
  · intro fake
    have before : relay.inhibition.backend = .fake := unmoved.backend.symm.trans fake
    have same := step_fake reading relay.inhibition next event before taken
    exact ⟨same.trans (sound.fake before).1,(sound.fake before).2⟩

theorem Sound.deliver {relay : LockRelay Client} (sound : Sound relay) (client : Client)
    (call : LockCall) (rest : List LockCall) (first : relay.posting.underWay client = call::rest) :
    Sound { relay with
      posting := relay.posting.deal client call rest true
      delivered := relay.delivered ++ [⟨call,relay.inhibition.backend,relay.inhibition.logind⟩]
      toLogind := relay.toLogind ++ (call.handle relay.inhibition).toList } := by
  have sent : ([⟨call,relay.inhibition.backend,relay.inhibition.logind⟩] : List DeliveredCall).filterMap
      DeliveredCall.message = (call.handle relay.inhibition).toList := by
    rw [handle_eq,List.filterMap_cons]
    split
    next nothing => rw [nothing]; rfl
    next message made => rw [made]; rfl
  refine { sound with
    ordered := sound.ordered.deal client call rest first true, received := ?_, asked := ?_, fake := ?_ }
  · have taken : (relay.posting.deal client call rest true).received =
        relay.posting.received ++ [call] := by
      simp [Posting.received,Posting.deal,Dealt.arrived]
    rw [taken,List.map_append,sound.received]
    rfl
  · rw [List.filterMap_append,sent,sound.asked]
  · intro fake
    have before := sound.fake fake
    refine ⟨before.1,before.2.1,?_⟩
    dsimp only
    rw [handle_eq,message_fake _ fake,before.2.2]
    rfl

theorem Sound.fail {relay : LockRelay Client} (sound : Sound relay) (client : Client)
    (call : LockCall) (rest : List LockCall) (first : relay.posting.underWay client = call::rest) :
    Sound { relay with posting := relay.posting.deal client call rest false } := by
  refine { sound with ordered := sound.ordered.deal client call rest first false, received := ?_ }
  rw [← sound.received]
  simp [Posting.received,Posting.deal,Dealt.arrived]

theorem Sound.handled {relay : LockRelay Client} (sound : Sound relay) (reading : LockReading) (now : Nat)
    (notice : Notice) (rest : List Notice) (next : Inhibition)
    (hears : relay.inhibition.hears notice.member = true)
    (taken : relay.inhibition.handleNotice reading now notice = some next) :
    Sound ({ relay with
      inhibition := next
      fromLogind := rest
      acted := relay.acted ++ [notice] }.publish notice.locks) := by
  have follows := handleNotice_follows reading relay.inhibition next now notice taken
  have backend : next.backend ≠ .fake := by
    intro fake
    have before := (sound.fake (follows.backend.symm.trans fake)).1
    simp [Inhibition.hears,before] at hears
  have caused := sound.caused
  have announced := sound.announced
  have active := sound.active
  cases locks : notice.locks with
  | none =>
    refine { sound with caused := ?_, announced := ?_, active := ?_, fake := fun fake => absurd fake backend }
    · simpa [publish,locks] using caused
    · simpa [publish,locks] using follows.announced.trans (by rw [locks]; simpa using announced)
    · simpa [publish,locks] using follows.active.trans (by rw [locks]; simpa using active)
  | some value =>
    have all : ∀ value, value ∈ QmlSessionManager.signals := by decide
    refine { sound with
      caused := ?_, announced := ?_, active := ?_, served := sound.served.publish all value
      fake := fun fake => absurd fake backend }
    · simp [publish,Publishing.publish,locks,caused]
    · change changes next.log = relay.publishing.sent ++ [value]
      rw [follows.announced,locks,announced]
      rfl
    · change next.saver.m_active = newest (relay.publishing.sent ++ [value]) false
      rw [follows.active,locks,newest_append]
      rfl

/-- What a listener does changes nothing of what is sent. -/
theorem Sound.listening {relay : LockRelay Client} (sound : Sound relay) (publishing : Publishing Client Bool)
    (same : publishing.sent = relay.publishing.sent) (served : publishing.Served QmlSessionManager.signals) :
    Sound { relay with publishing } := by
  refine { sound with caused := ?_, announced := ?_, active := ?_, served, fake := ?_ }
  · exact same.trans sound.caused
  · exact sound.announced.trans same.symm
  · rw [same]
    exact sound.active
  · rw [same]
    exact sound.fake

theorem sound_step (reading : LockReading) (relay next : LockRelay Client) (event : Event Client)
    (sound : Sound relay) (taken : step reading relay event = some next) : Sound next := by
  cases event with
  | inhibition event =>
    unfold step at taken
    obtain ⟨other,moved⟩ := Option.ite_none_left_eq_some.mp taken
    obtain ⟨state,stepped,rfl⟩ := Option.map_eq_some_iff.mp moved
    exact sound.inhibition reading state event (Bool.not_eq_true _ ▸ other) stepped
  | connect client =>
    obtain ⟨publishing,asked,rfl⟩ := Option.map_eq_some_iff.mp taken
    exact sound.listening publishing (Publishing.ask_sent asked) (sound.served.ask client asked)
  | call client call =>
    cases taken
    exact { sound with ordered := sound.ordered.post client call }
  | delivered client =>
    unfold step at taken
    cases under : relay.posting.underWay client with
    | nil => simp [under] at taken
    | cons call rest =>
      simp only [under,Option.some.injEq] at taken
      subst taken
      exact sound.deliver client call rest under
  | failed client =>
    unfold step at taken
    cases under : relay.posting.underWay client with
    | nil => simp [under] at taken
    | cons call rest =>
      simp only [under,Option.some.injEq] at taken
      subst taken
      exact sound.fail client call rest under
  | announced notice =>
    unfold step at taken
    obtain ⟨_,same⟩ := Option.ite_none_right_eq_some.mp taken
    cases same
    exact { sound with }
  | handled now =>
    unfold step at taken
    cases under : relay.fromLogind with
    | nil => simp [under] at taken
    | cons notice rest =>
      simp only [under] at taken
      split at taken
      next hears =>
        obtain ⟨state,handled,rfl⟩ := Option.map_eq_some_iff.mp taken
        exact sound.handled reading now notice rest state hears handled
      next =>
        cases taken
        exact { sound with }
  | received client =>
    obtain ⟨publishing,heard,rfl⟩ := Option.map_eq_some_iff.mp taken
    exact sound.listening publishing (Publishing.hear_sent heard) (sound.served.hear client heard)

theorem sound_constructed (backend : SessionBackend) :
    Sound ({ inhibition := constructed backend } : LockRelay Client) := by
  refine ⟨Posting.ordered_start,rfl,rfl,rfl,?_,?_,Publishing.served_start (by decide),?_⟩
  · cases backend <;> rfl
  · cases backend <;> rfl
  · cases backend with
    | logind => exact fun fake => nomatch fake
    | fake => exact fun _ => ⟨rfl,rfl,rfl⟩

/-- In every run, with calls that fail and logind coming and going: what logind is asked for
is what the programs' calls want of it at the time, and nothing but its notices changes what
the programs and the screen saver say of the session. -/
theorem informed_along (reading : LockReading) (backend : SessionBackend) (events : List (Event Client)) :
    Along (step reading) Informed { inhibition := constructed backend } events :=
  along_of_steps (step reading) (fun relay _ => Sound relay) Informed (fun _ _ => True)
    (fun relay event _ next sound _ taken => sound_step reading relay next event sound taken)
    (fun _ _ sound => sound.informed) _ events (sound_constructed backend)
    (steps_of_all _ _ _ events fun _ _ _ => trivial)

end LockRelay

end LiriSession
