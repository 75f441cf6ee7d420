import LiriSession.Inhibition
import LiriSession.LogindService

/-! What each operation of the joint state does to it, in one equation for each
way the operation can go, and what one event can do. -/
namespace LiriSession
open Library Logind

namespace ScreenSaver

theorem handleInhibited_cases (saver : ScreenSaver) (who why : String) (fd : Int) :
    (∀ cookie, saver.m_inhibit.find? cookie ≠ some ⟨who,why⟩) ∧
      saver.handleInhibited who why fd = saver ∨
    ∃ cookie, saver.m_inhibit.find? cookie = some ⟨who,why⟩ ∧
      (∀ other, saver.m_inhibit.find? other = some ⟨who,why⟩ → cookie ≤ other) ∧
      saver.handleInhibited who why fd =
        { saver with m_inhibitFd := saver.m_inhibitFd.insert cookie fd } := by
  unfold handleInhibited
  cases found : saver.m_inhibit.findKey? (fun entry => entry.who = who && entry.why = why) with
  | none =>
    refine .inl ⟨?_,rfl⟩
    intro cookie entry
    have stored := (saver.m_inhibit.mem_values _).mpr ⟨cookie,entry⟩
    have differs := (saver.m_inhibit.findKey?_eq_none _).mp found _ stored
    simp at differs
  | some cookie =>
    obtain ⟨⟨name,reason⟩,entry,same⟩ := saver.m_inhibit.findKey?_spec _ cookie found
    simp only [Bool.and_eq_true,decide_eq_true_eq] at same
    rw [same.1,same.2] at entry
    refine .inr ⟨cookie,entry,?_,rfl⟩
    intro other present
    exact saver.m_inhibit.findKey?_le _ cookie other _ found present (by simp)

theorem handleInhibited_entries (saver : ScreenSaver) (who why : String) (fd : Int) :
    (saver.handleInhibited who why fd).m_inhibit = saver.m_inhibit := by
  rcases saver.handleInhibited_cases who why fd with ⟨_,same⟩ | ⟨_,_,_,same⟩ <;> rw [same]

end ScreenSaver

namespace Inhibition

/-- Effects other than a new connection are noted, and nothing else is sent. -/
def noted (effects : List Effect) : List Output := effects.map .logind

theorem uninhibit_refused (state : Inhibition) (fd : Int)
    (refused : state.logind.isConnected = false ∨ fd ∉ state.logind.inhibitFds) :
    state.uninhibit fd = state := by
  unfold uninhibit
  rw [state.logind.uninhibit_refused fd refused]
  rfl

def released (state : Inhibition) (fd : Int) : Inhibition :=
  { state with
    logind := { state.logind with inhibitFds := state.logind.inhibitFds.erase fd }
    openFds := state.openFds.erase fd
    m_fds := LogindBackend.handleUninhibited state.m_fds fd
    log := state.log ++ noted (state.logind.uninhibit fd).2 }

theorem uninhibit_held (state : Inhibition) (fd : Int) (connected : state.logind.isConnected = true)
    (held : fd ∈ state.logind.inhibitFds) : state.uninhibit fd = state.released fd := by
  unfold released uninhibit advance
  rw [state.logind.uninhibit_held fd connected held]
  dsimp only
  split <;> simp [perform,output,noted]

theorem uninhibit_cases (state : Inhibition) (fd : Int) :
    (state.logind.isConnected = false ∨ fd ∉ state.logind.inhibitFds) ∧ state.uninhibit fd = state ∨
      state.logind.isConnected = true ∧ fd ∈ state.logind.inhibitFds ∧
        state.uninhibit fd = state.released fd := by
  cases connected : state.logind.isConnected with
  | false => exact .inl ⟨.inl rfl,uninhibit_refused state fd (.inl connected)⟩
  | true =>
    by_cases held : fd ∈ state.logind.inhibitFds
    · exact .inr ⟨rfl,held,uninhibit_held state fd connected held⟩
    · exact .inl ⟨.inr held,uninhibit_refused state fd (.inr held)⟩

/-- What a release keeps, a call of `uninhibit` keeps. -/
theorem uninhibit_keeps (holds : Inhibition → Prop) (state : Inhibition) (fd : Int)
    (kept : state.logind.isConnected = true → fd ∈ state.logind.inhibitFds →
      holds state → holds (state.released fd))
    (initial : holds state) : holds (state.uninhibit fd) := by
  rcases uninhibit_cases state fd with ⟨_,same⟩ | ⟨connected,held,same⟩
  · rw [same]
    exact initial
  · rw [same]
    exact kept connected held initial

def requested (state : Inhibition) (cookie : Option Nat) (call : LogindBackend.Inhibitor) : Request :=
  ⟨state.issued,cookie,":".intercalate (LogindPrivate.what call.flags),call.who,call.why,
    LogindPrivate.modeStr call.mode⟩

theorem logindInhibit_disconnected (state : Inhibition) (cookie : Option Nat)
    (call : LogindBackend.Inhibitor) (disconnected : state.logind.isConnected = false) :
    state.logindInhibit cookie call = state := by
  simp [logindInhibit,advance,LogindPrivate.inhibit,disconnected]

def asking (state : Inhibition) (cookie : Option Nat) (call : LogindBackend.Inhibitor) : Inhibition :=
  { state with
    issued := state.issued + 1
    inFlight := state.inFlight.insert state.issued (state.requested cookie call)
    log := state.log ++ noted (state.logind.inhibit call.who call.why call.flags call.mode) }

theorem logindInhibit_connected (state : Inhibition) (cookie : Option Nat)
    (call : LogindBackend.Inhibitor) (connected : state.logind.isConnected = true) :
    state.logindInhibit cookie call = state.asking cookie call := by
  simp [logindInhibit,advance,LogindPrivate.inhibit,connected,perform,output,noted,requested,asking]

theorem setupInhibitors_keeps (holds : Inhibition → Prop)
    (kept : ∀ state call, call ∈ LogindBackend.inhibitors → state.logind.isConnected = true →
      holds state → holds (state.asking none call))
    (state : Inhibition) (initial : holds state) : holds state.setupInhibitors := by
  unfold setupInhibitors
  refine List.foldlRecOn LogindBackend.inhibitors _ initial ?_
  intro state before call own
  cases connected : state.logind.isConnected with
  | false =>
    rw [logindInhibit_disconnected state none call connected]
    exact before
  | true =>
    rw [logindInhibit_connected state none call connected]
    exact kept state call own connected before

theorem handleSessionUnlocked_keeps (holds : Inhibition → Prop)
    (kept : ∀ state call, call ∈ LogindBackend.inhibitors → state.logind.isConnected = true →
      holds state → holds (state.asking none call))
    (emitted : ∀ state, holds state → holds state.emitUnlocked)
    (state : Inhibition) (initial : holds state) : holds state.handleSessionUnlocked :=
  emitted state.setupInhibitors (setupInhibitors_keeps holds kept state initial)

theorem releaseEach_keeps (holds : Inhibition → Prop)
    (kept : ∀ state fd, state.logind.isConnected = true → fd ∈ state.logind.inhibitFds →
      holds state → holds (state.released fd))
    (state : Inhibition) (initial : holds state) : holds state.releaseEach := by
  unfold releaseEach
  refine List.foldlRecOn state.m_fds.values _ initial ?_
  intro state before fd _
  exact uninhibit_keeps holds state fd (kept state fd) before

theorem deliver_granted (state : Inhibition) (serial : Nat) (request : Request) (fd : Int) :
    state.deliver serial request (.granted fd) = { state with
      inFlight := state.inFlight.erase serial
      openFds := state.dupped fd request
      logind := { state.logind with inhibitFds := state.logind.inhibitFds ++ [fd] }
      m_fds := state.m_fds.insert request.who fd
      saver := state.saver.handleInhibited request.who request.why fd
      log := state.log ++
        noted (state.logind.handleInhibitReply request.who request.why (.granted fd)).2 } := by
  unfold deliver advance
  dsimp only
  rw [LogindPrivate.inhibitReply_granted]
  split <;> simp [perform,output,noted,dupped]

/-- Effects that neither send an `Inhibit` nor touch a descriptor. -/
def quiet : Effect → Bool
  | .send (.inhibit _ _ _ _) => false
  | .close _ => false
  | .emit (.inhibited _ _ _) => false
  | .emit (.uninhibited _) => false
  | _ => true

theorem perform_quiet (cookie : Option Nat) (state : Inhibition) (effect : Effect)
    (silent : quiet effect = true) : ∃ log, perform cookie state effect = { state with log := log } := by
  unfold perform output
  split <;> first | exact ⟨_,rfl⟩ | cases silent

theorem advance_quiet (state : Inhibition) (cookie : Option Nat) (next : LogindPrivate)
    (effects : List Effect) (silent : ∀ effect ∈ effects, quiet effect = true) :
    ∃ log, state.advance cookie (next,effects) = { state with logind := next, log := log } := by
  unfold advance
  induction effects generalizing state with
  | nil => exact ⟨state.log,rfl⟩
  | cons effect effects ih =>
    obtain ⟨log,first⟩ := perform_quiet cookie { state with logind := next } effect
      (silent effect (by simp))
    have rest := ih { state with log := log } (fun other member => silent other (by simp [member]))
    rw [List.foldl_cons,first]
    exact rest

theorem registered_quiet (logind : LogindPrivate) (lookups : Lookups) :
    ∀ effect ∈ (logind._q_serviceRegistered lookups).2, quiet effect = true := by
  rcases logind.registered_cases lookups with ⟨_,same⟩ | ⟨_,same⟩ | ⟨_,path,_,_,_,same⟩
  · simp [same]
  · simp [same]
  · rw [same]
    intro effect member
    rcases List.mem_append.mp member with sent | announced
    · rcases List.mem_cons.mp sent with rfl | property
      · rfl
      · obtain ⟨name,_,rfl⟩ := List.mem_map.mp property
        rfl
    · rw [List.mem_singleton.mp announced]
      rfl

theorem unregistered_quiet (logind : LogindPrivate) :
    ∀ effect ∈ logind._q_serviceUnregistered.2, quiet effect = true := by
  unfold LogindPrivate._q_serviceUnregistered
  intro effect member
  simp only [List.mem_append,List.mem_singleton] at member
  rcases member with ((same | active) | vt) | seat
  · rw [same]
    rfl
  · split at active <;> simp_all [quiet]
  · split at vt <;> simp_all [quiet]
  · split at seat <;> simp_all [quiet]

theorem registered_eq (state : Inhibition) (lookups : Lookups) :
    ∃ log, state.advance none (state.logind._q_serviceRegistered lookups) = { state with
      logind := (state.logind._q_serviceRegistered lookups).1
      log := log } :=
  advance_quiet state none _ _ (registered_quiet state.logind lookups)

theorem unregistered_eq (state : Inhibition) :
    ∃ log, state.advance none state.logind._q_serviceUnregistered = { state with
      logind := state.logind._q_serviceUnregistered.1
      log := log } :=
  advance_quiet state none _ _ (unregistered_quiet state.logind)

theorem inhibit_unsent (state : Inhibition) (appName reason : String)
    (unsent : state.backend = .fake ∨ state.logind.isConnected = false) :
    (state.inhibit appName reason).2 = { state with
      saver := state.saver.addEntry appName reason
      asked := state.asked.insert state.saver.cookieSeed none
      live := state.live ++ [state.saver.cookieSeed] } := by
  unfold inhibit inhibitIdle
  rcases unsent with fake | disconnected
  · simp [fake]
  · cases backend : state.backend with
    | fake => simp
    | logind => simp [logindInhibit_disconnected,disconnected]

def idle (who why : String) : LogindBackend.Inhibitor := ⟨who,why,[.inhibitIdle],.block⟩

theorem inhibit_sent (state : Inhibition) (appName reason : String)
    (backend : state.backend = .logind) (connected : state.logind.isConnected = true) :
    (state.inhibit appName reason).2 = { state with
      saver := state.saver.addEntry appName reason
      issued := state.issued + 1
      inFlight := state.inFlight.insert state.issued
        (state.requested (some state.saver.cookieSeed) (idle appName reason))
      asked := state.asked.insert state.saver.cookieSeed (some state.issued)
      live := state.live ++ [state.saver.cookieSeed]
      log := state.log ++ noted (state.logind.inhibit appName reason [.inhibitIdle] .block) } := by
  let entered := { state with saver := state.saver.addEntry appName reason }
  have sent : entered.inhibitIdle state.saver.cookieSeed appName reason =
      entered.logindInhibit (some state.saver.cookieSeed) (idle appName reason) := by
    unfold inhibitIdle
    rw [show entered.backend = .logind from backend]
    rfl
  unfold inhibit
  dsimp only
  rw [sent,logindInhibit_connected entered _ _ connected]
  simp [asking,requested,idle,entered]

theorem uninhibitIdle_logind (state : Inhibition) (fd : Int) (backend : state.backend = .logind) :
    state.uninhibitIdle fd = state.uninhibit fd := by
  unfold uninhibitIdle
  rw [backend]

/-- Whatever the backend in use, what a release keeps is kept. -/
theorem uninhibitIdle_keeps (holds : Inhibition → Prop) (state : Inhibition) (fd : Int)
    (kept : state.backend = .logind → state.logind.isConnected = true →
      fd ∈ state.logind.inhibitFds → holds state → holds (state.released fd))
    (initial : holds state) : holds (state.uninhibitIdle fd) := by
  unfold uninhibitIdle
  split
  next backend => exact uninhibit_keeps holds state fd (kept backend) initial
  next => exact initial

theorem uninhibitIdle_saver (state : Inhibition) (fd : Int) :
    (state.uninhibitIdle fd).saver = state.saver :=
  uninhibitIdle_keeps (·.saver = state.saver) state fd (fun _ _ _ same => same) rfl

theorem uninhibitIdle_live (state : Inhibition) (fd : Int) :
    (state.uninhibitIdle fd).live = state.live :=
  uninhibitIdle_keeps (·.live = state.live) state fd (fun _ _ _ same => same) rfl

def returned (state : Inhibition) (cookie : Nat) : Inhibition :=
  { state with live := state.live.filter (· ≠ cookie) }

def forgotten (state : Inhibition) (cookie : Nat) : Inhibition :=
  { state with
    saver := state.saver.removeEntry cookie
    live := state.live.filter (· ≠ cookie) }

theorem unInhibit_unbound (state : Inhibition) (cookie : Nat)
    (unbound : (state.saver.m_inhibitFd.find? cookie).getD (-1) = -1) :
    state.unInhibit cookie = state.returned cookie := by
  simp [unInhibit,unbound,returned]

theorem unInhibit_bound (state : Inhibition) (cookie : Nat) (fd : Int)
    (bound : state.saver.m_inhibitFd.find? cookie = some fd) (valid : fd ≠ -1) :
    state.unInhibit cookie = (state.uninhibitIdle fd).forgotten cookie := by
  simp [unInhibit,bound,valid,forgotten]

theorem unInhibit_cases (state : Inhibition) (cookie : Nat) :
    (state.saver.m_inhibitFd.find? cookie).getD (-1) = -1 ∧
        state.unInhibit cookie = state.returned cookie ∨
      ∃ fd, state.saver.m_inhibitFd.find? cookie = some fd ∧ fd ≠ -1 ∧
        state.unInhibit cookie = (state.uninhibitIdle fd).forgotten cookie := by
  cases bound : state.saver.m_inhibitFd.find? cookie with
  | none => exact .inl ⟨rfl,unInhibit_unbound state cookie (by rw [bound]; rfl)⟩
  | some fd =>
    by_cases failed : fd = -1
    · exact .inl ⟨failed,unInhibit_unbound state cookie (by rw [bound]; exact failed)⟩
    · exact .inr ⟨fd,rfl,failed,unInhibit_bound state cookie fd bound failed⟩

/-- The requests of the constructor are not sent: logind is not connected yet. -/
theorem constructed_logind : constructed .logind = {} := rfl

/-- What one event can do. -/
inductive Moves (reading : LockReading) (state : Inhibition) : Event → Inhibition → Prop
  | unsent (appName reason : String)
      (unsent : state.backend = .fake ∨ state.logind.isConnected = false) :
      Moves reading state (.inhibit appName reason) { state with
        saver := state.saver.addEntry appName reason
        asked := state.asked.insert state.saver.cookieSeed none
        live := state.live ++ [state.saver.cookieSeed] }
  | sent (appName reason : String) (log : List Output) (backend : state.backend = .logind)
      (connected : state.logind.isConnected = true) :
      Moves reading state (.inhibit appName reason) { state with
        saver := state.saver.addEntry appName reason
        issued := state.issued + 1
        inFlight := state.inFlight.insert state.issued
          (state.requested (some state.saver.cookieSeed) (idle appName reason))
        asked := state.asked.insert state.saver.cookieSeed (some state.issued)
        live := state.live ++ [state.saver.cookieSeed]
        log := log }
  | unbound (cookie : Nat) (unbound : (state.saver.m_inhibitFd.find? cookie).getD (-1) = -1) :
      Moves reading state (.unInhibit cookie) (state.returned cookie)
  | bound (cookie : Nat) (fd : Int) (bound : state.saver.m_inhibitFd.find? cookie = some fd)
      (valid : fd ≠ -1) :
      Moves reading state (.unInhibit cookie) ((state.uninhibitIdle fd).forgotten cookie)
  | registered (lookups : Lookups) (log : List Output) (backend : state.backend = .logind) :
      Moves reading state (.serviceRegistered lookups) { state with
        logind := (state.logind._q_serviceRegistered lookups).1
        log := log }
  | unregistered (log : List Output) (backend : state.backend = .logind) :
      Moves reading state .serviceUnregistered { state with
        logind := state.logind._q_serviceUnregistered.1
        log := log }
  | uninhibit (fd : Int) (backend : state.backend = .logind) :
      Moves reading state (.uninhibit fd) (state.uninhibit fd)
  | error (serial : Nat) (request : Request) (asked : state.inFlight.find? serial = some request)
      (backend : state.backend = .logind) : Moves reading state (.reply serial .error)
        { state with inFlight := state.inFlight.erase serial }
  | granted (serial : Nat) (request : Request) (fd : Int) (log : List Output)
      (asked : state.inFlight.find? serial = some request) (backend : state.backend = .logind)
      (fresh : fd = -1 ∨ 0 ≤ fd ∧ state.openFds.find? fd = none) :
      Moves reading state (.reply serial (.granted fd)) { state with
        inFlight := state.inFlight.erase serial
        openFds := state.dupped fd request
        logind := { state.logind with inhibitFds := state.logind.inhibitFds ++ [fd] }
        m_fds := state.m_fds.insert request.who fd
        saver := state.saver.handleInhibited request.who request.why fd
        log := log }
  | lock (now : Nat) (next : Inhibition) (backend : state.backend = .logind)
      (hears : state.hears "Lock" = true)
      (returned : state.handleSessionLocked reading now = some next) :
      Moves reading state (.lock now) next
  | unlock (backend : state.backend = .logind) (hears : state.hears "Unlock" = true) :
      Moves reading state .unlock state.handleSessionUnlocked

/-- The events that happen with either backend. -/
def ofClient : Event → Bool
  | .inhibit _ _ => true
  | .unInhibit _ => true
  | _ => false

theorem step_logind (reading : LockReading) (state next : Inhibition) (event : Event)
    (other : ofClient event = false) (taken : step reading state event = some next) :
    state.backend = .logind := by
  cases backend : state.backend with
  | logind => rfl
  | fake =>
    cases event with
    | inhibit => cases other
    | unInhibit => cases other
    | _ =>
      simp only [step,backend] at taken
      cases taken

theorem moves_of_inhibit (reading : LockReading) (state : Inhibition) (appName reason : String) :
    Moves reading state (.inhibit appName reason) (state.inhibit appName reason).2 := by
  cases backend : state.backend with
  | fake =>
    rw [inhibit_unsent state appName reason (.inl backend)]
    exact .unsent appName reason (.inl backend)
  | logind =>
    cases connected : state.logind.isConnected with
    | false =>
      rw [inhibit_unsent state appName reason (.inr connected)]
      exact .unsent appName reason (.inr connected)
    | true =>
      rw [inhibit_sent state appName reason backend connected]
      exact .sent appName reason _ backend connected

theorem moves_of_unInhibit (reading : LockReading) (state : Inhibition) (cookie : Nat) :
    Moves reading state (.unInhibit cookie) (state.unInhibit cookie) := by
  rcases unInhibit_cases state cookie with ⟨unbound,same⟩ | ⟨fd,bound,valid,same⟩
  · rw [same]
    exact .unbound cookie unbound
  · rw [same]
    exact .bound cookie fd bound valid

theorem moves_of_reply (reading : LockReading) (state next : Inhibition) (serial : Nat)
    (answer : InhibitReply) (backend : state.backend = .logind)
    (taken : step reading state (.reply serial answer) = some next) :
    Moves reading state (.reply serial answer) next := by
  cases asked : state.inFlight.find? serial with
  | none => simp [step,backend,asked] at taken
  | some request =>
    cases answer with
    | error =>
      have result : state.deliver serial request .error = next := by
        simpa [step,backend,asked] using taken
      rw [← result]
      exact .error serial request asked backend
    | granted fd =>
      have result : state.dupAllowed fd = true ∧ state.deliver serial request (.granted fd) = next := by
        simpa [step,backend,asked] using taken
      have fresh : fd = -1 ∨ 0 ≤ fd ∧ state.openFds.find? fd = none := by
        simpa [dupAllowed] using result.1
      rw [← result.2,deliver_granted]
      exact .granted serial request fd _ asked backend fresh

theorem moves_of_step (reading : LockReading) (state next : Inhibition) (event : Event)
    (taken : step reading state event = some next) : Moves reading state event next := by
  have logind := step_logind reading state next event
  cases event with
  | inhibit appName reason =>
    have result : (state.inhibit appName reason).2 = next := by simpa [step] using taken
    rw [← result]
    exact moves_of_inhibit reading state appName reason
  | unInhibit cookie =>
    have result : state.unInhibit cookie = next := by simpa [step] using taken
    rw [← result]
    exact moves_of_unInhibit reading state cookie
  | serviceRegistered lookups =>
    have backend := logind rfl taken
    obtain ⟨log,same⟩ := registered_eq state lookups
    have result : state.advance none (state.logind._q_serviceRegistered lookups) = next := by
      simpa [step,backend] using taken
    rw [← result,same]
    exact .registered lookups log backend
  | serviceUnregistered =>
    have backend := logind rfl taken
    obtain ⟨log,same⟩ := unregistered_eq state
    have result : state.advance none state.logind._q_serviceUnregistered = next := by
      simpa [step,backend] using taken
    rw [← result,same]
    exact .unregistered log backend
  | uninhibit fd =>
    have backend := logind rfl taken
    have result : state.uninhibit fd = next := by simpa [step,backend] using taken
    rw [← result]
    exact .uninhibit fd backend
  | reply serial answer => exact moves_of_reply reading state next serial answer (logind rfl taken) taken
  | lock now =>
    have backend := logind rfl taken
    have result : state.hears "Lock" = true ∧ state.handleSessionLocked reading now = some next := by
      simpa [step,backend] using taken
    exact .lock now next backend result.1 result.2
  | unlock =>
    have backend := logind rfl taken
    have result : state.hears "Unlock" = true ∧ state.handleSessionUnlocked = next := by
      simpa [step,backend] using taken
    rw [← result.2]
    exact .unlock backend result.1

def graphicalSession : Lookups where
  sessions := some [⟨"2","/org/freedesktop/login1/session/_32","wayland","active"⟩]
  xdgSessionId := none
  getSession := fun _ => none
  getSessionByPid := none

end Inhibition

end LiriSession
