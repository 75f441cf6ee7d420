import LiriSession.SessionLookup
import LiriSession.Library.Changes

/-! The notify signals of the client of logind over whole runs: which handlers emit them
exactly when the property changes, and which emit them in any case. -/
namespace LiriSession
open Library Logind

/-- The client and everything it has done outside, in order. -/
structure ObservedLogind where
  logind : LogindPrivate := {}
  effects : List Effect := []

namespace ObservedLogind

inductive Event
  | serviceRegistered (lookups : Lookups)
  | serviceUnregistered
  | sessionPropertiesChanged
  | sessionActiveReply (reply : Option Bool)
  | virtualTerminalReply (reply : Option UInt32)
  | seatReply (reply : Option String)
  | takeControl
  | takeControlReply (valid : Bool)
  | releaseControl
  | setIdleHint (idle : Bool)
  | inhibit (who why : String) (flags : List InhibitFlag) (mode : InhibitMode)
  | inhibitReply (who why : String) (answer : InhibitReply)
  | uninhibit (fd : Int)

def handle (logind : LogindPrivate) : Event → LogindPrivate × List Effect
  | .serviceRegistered lookups => logind._q_serviceRegistered lookups
  | .serviceUnregistered => logind._q_serviceUnregistered
  | .sessionPropertiesChanged => (logind,logind._q_sessionPropertiesChanged)
  | .sessionActiveReply reply => logind.handleSessionActiveReply reply
  | .virtualTerminalReply reply => logind.handleVirtualTerminalReply reply
  | .seatReply reply => logind.handleSeatReply reply
  | .takeControl => (logind,logind.takeControl)
  | .takeControlReply valid => logind.handleTakeControlReply valid
  | .releaseControl => logind.releaseControl
  | .setIdleHint idle => (logind,logind.setIdleHint idle)
  | .inhibit who why flags mode => (logind,logind.inhibit who why flags mode)
  | .inhibitReply who why answer => logind.handleInhibitReply who why answer
  | .uninhibit fd => logind.uninhibit fd

def step (observed : ObservedLogind) (event : Event) : Option ObservedLogind :=
  let result := handle observed.logind event
  some ⟨result.1,observed.effects ++ result.2⟩

/-- A property with the signal that announces it. -/
structure Notify (α : Type) where
  value : LogindPrivate → α
  read : Signal → Option α

def connected : Notify Bool where
  value logind := logind.isConnected
  read | .connectedChanged value => some value | _ => none

def hasSessionControl : Notify Bool where
  value logind := logind.hasSessionControl
  read | .hasSessionControlChanged value => some value | _ => none

def sessionActive : Notify Bool where
  value logind := logind.sessionActive
  read | .sessionActiveChanged value => some value | _ => none

def vtNumber : Notify Int where
  value logind := logind.vt
  read | .vtNumberChanged value => some value | _ => none

def seat : Notify String where
  value logind := logind.seat
  read | .seatChanged value => some value | _ => none

def inhibited : Notify Bool where
  value logind := logind.isInhibited
  read | .inhibitedChanged value => some value | _ => none

def emissions {α : Type} (read : Signal → Option α) (effects : List Effect) : List α :=
  effects.filterMap fun | .emit signal => read signal | _ => none

/-- The history of one signal follows its property from the start. -/
def InPace {α : Type} (notify : Notify α) (observed : ObservedLogind) : Prop :=
  Follows (notify.value {}) (emissions notify.read observed.effects) (notify.value observed.logind)

/-- What a handler emits for a property is what its change owes. -/
def Reports {α : Type} [DecidableEq α] (notify : Notify α) (before : LogindPrivate)
    (result : LogindPrivate × List Effect) : Prop :=
  emissions notify.read result.2 = change (notify.value before) (notify.value result.1)

theorem emissions_append {α : Type} (read : Signal → Option α) (first second : List Effect) :
    emissions read (first ++ second) = emissions read first ++ emissions read second :=
  List.filterMap_append

theorem inPace_iff {α : Type} [DecidableEq α] (notify : Notify α) (observed : ObservedLogind)
    (result : LogindPrivate × List Effect) (pace : InPace notify observed)
    (single : (emissions notify.read result.2).length ≤ 1) :
    InPace notify ⟨result.1,observed.effects ++ result.2⟩ ↔ Reports notify observed.logind result := by
  unfold InPace
  rw [emissions_append]
  exact Follows.append_iff pace _ single _

theorem reports_quiet {α : Type} [DecidableEq α] (notify : Notify α) (before : LogindPrivate)
    (result : LogindPrivate × List Effect) (quiet : emissions notify.read result.2 = [])
    (same : notify.value result.1 = notify.value before) : Reports notify before result := by
  rw [Reports,quiet,same,change_self]

/-- All five signals that are to be emitted when their property changes. -/
structure Exact (before : LogindPrivate) (result : LogindPrivate × List Effect) : Prop where
  connected : Reports connected before result
  hasSessionControl : Reports hasSessionControl before result
  sessionActive : Reports sessionActive before result
  vtNumber : Reports vtNumber before result
  seat : Reports seat before result

/-- No handler announces one property twice. -/
structure Brief (effects : List Effect) : Prop where
  connected : (emissions connected.read effects).length ≤ 1
  hasSessionControl : (emissions hasSessionControl.read effects).length ≤ 1
  sessionActive : (emissions sessionActive.read effects).length ≤ 1
  vtNumber : (emissions vtNumber.read effects).length ≤ 1
  seat : (emissions seat.read effects).length ≤ 1

structure Notified (observed : ObservedLogind) : Prop where
  connected : InPace connected observed
  hasSessionControl : InPace hasSessionControl observed
  sessionActive : InPace sessionActive observed
  vtNumber : InPace vtNumber observed
  seat : InPace seat observed

theorem notified_next_iff (observed : ObservedLogind) (result : LogindPrivate × List Effect)
    (notified : Notified observed) (brief : Brief result.2) :
    Notified ⟨result.1,observed.effects ++ result.2⟩ ↔ Exact observed.logind result := by
  apply Iff.intro
  · intro next
    exact ⟨(inPace_iff _ _ _ notified.connected brief.connected).mp next.connected,
      (inPace_iff _ _ _ notified.hasSessionControl brief.hasSessionControl).mp next.hasSessionControl,
      (inPace_iff _ _ _ notified.sessionActive brief.sessionActive).mp next.sessionActive,
      (inPace_iff _ _ _ notified.vtNumber brief.vtNumber).mp next.vtNumber,
      (inPace_iff _ _ _ notified.seat brief.seat).mp next.seat⟩
  · intro exactly
    exact ⟨(inPace_iff _ _ _ notified.connected brief.connected).mpr exactly.connected,
      (inPace_iff _ _ _ notified.hasSessionControl brief.hasSessionControl).mpr exactly.hasSessionControl,
      (inPace_iff _ _ _ notified.sessionActive brief.sessionActive).mpr exactly.sessionActive,
      (inPace_iff _ _ _ notified.vtNumber brief.vtNumber).mpr exactly.vtNumber,
      (inPace_iff _ _ _ notified.seat brief.seat).mpr exactly.seat⟩

theorem reports_length {α : Type} [DecidableEq α] (notify : Notify α) (before : LogindPrivate)
    (result : LogindPrivate × List Effect) (reports : Reports notify before result) :
    (emissions notify.read result.2).length ≤ 1 := by
  rw [reports,change]
  split <;> simp

theorem Exact.brief (before : LogindPrivate) (result : LogindPrivate × List Effect)
    (exactly : Exact before result) : Brief result.2 :=
  ⟨reports_length _ before _ exactly.connected,reports_length _ before _ exactly.hasSessionControl,
    reports_length _ before _ exactly.sessionActive,reports_length _ before _ exactly.vtNumber,
    reports_length _ before _ exactly.seat⟩

/-- Messages only, which announce nothing. -/
def Sends (effects : List Effect) : Prop := ∀ effect ∈ effects, ∃ message, effect = .send message

theorem emissions_sends {α : Type} (read : Signal → Option α) (effects : List Effect)
    (sends : Sends effects) : emissions read effects = [] := by
  apply List.filterMap_eq_nil_iff.mpr
  intro effect member
  obtain ⟨message,rfl⟩ := sends effect member
  rfl

theorem propertiesChanged_sends (logind : LogindPrivate) : Sends logind._q_sessionPropertiesChanged := by
  intro effect member
  unfold LogindPrivate._q_sessionPropertiesChanged at member
  split at member
  · cases member
  · obtain ⟨name,_,rfl⟩ := List.mem_map.mp member
    exact ⟨_,rfl⟩

end ObservedLogind

namespace LogindPrivate

/-- What the appearance of the service can do: the path may change, and if there is one
the client is connected and says so. -/
theorem registered_result (logind : LogindPrivate) (lookups : Lookups) :
    (∃ path, logind._q_serviceRegistered lookups = ({ logind with sessionPath := path },[])) ∨
    logind.isConnected = false ∧ ∃ path hooks sends, ObservedLogind.Sends sends ∧
      logind._q_serviceRegistered lookups =
        ({ logind with isConnected := true, sessionPath := path, subscriptions := hooks },
          sends ++ [.emit (.connectedChanged true)]) := by
  rcases registered_cases logind lookups with
    ⟨_,same⟩ | ⟨_,same⟩ | ⟨disconnected,path,subscriptions,_,_,same⟩
  · exact .inl ⟨logind.sessionPath,same⟩
  · exact .inl ⟨"",same⟩
  · refine .inr ⟨disconnected,path,subscriptions,_,?_,same⟩
    intro effect member
    rcases List.mem_cons.mp member with rfl | later
    · exact ⟨_,rfl⟩
    · obtain ⟨name,_,rfl⟩ := List.mem_map.mp later
      exact ⟨_,rfl⟩

end LogindPrivate

namespace ObservedLogind

theorem exact_sends (logind : LogindPrivate) (effects : List Effect) (sends : Sends effects) :
    Exact logind (logind,effects) :=
  ⟨reports_quiet _ _ _ (emissions_sends _ _ sends) rfl,
    reports_quiet _ _ _ (emissions_sends _ _ sends) rfl,
    reports_quiet _ _ _ (emissions_sends _ _ sends) rfl,
    reports_quiet _ _ _ (emissions_sends _ _ sends) rfl,
    reports_quiet _ _ _ (emissions_sends _ _ sends) rfl⟩

theorem exact_same (logind : LogindPrivate) : Exact logind (logind,[]) :=
  exact_sends logind [] fun _ member => absurd member List.not_mem_nil

theorem exact_serviceRegistered (logind : LogindPrivate) (lookups : Lookups) :
    Exact logind (logind._q_serviceRegistered lookups) := by
  rcases logind.registered_result lookups with ⟨path,same⟩ | ⟨disconnected,path,hooks,sends,only,same⟩
  · rw [same]
    exact ⟨reports_quiet _ _ _ rfl rfl,reports_quiet _ _ _ rfl rfl,reports_quiet _ _ _ rfl rfl,
      reports_quiet _ _ _ rfl rfl,reports_quiet _ _ _ rfl rfl⟩
  · have announced : ∀ {α : Type} (read : Signal → Option α),
        emissions read (sends ++ [.emit (.connectedChanged true)]) =
          emissions read [.emit (.connectedChanged true)] := by
      intro α read
      rw [emissions_append,emissions_sends _ sends only,List.nil_append]
    rw [same]
    refine ⟨?_,reports_quiet _ _ _ (announced _) rfl,reports_quiet _ _ _ (announced _) rfl,
      reports_quiet _ _ _ (announced _) rfl,reports_quiet _ _ _ (announced _) rfl⟩
    rw [Reports,announced]
    exact (change_of_ne _ _ (by simp [connected,disconnected])).symm

theorem exact_sessionActiveReply (logind : LogindPrivate) (reply : Option Bool) :
    Exact logind (logind.handleSessionActiveReply reply) := by
  rcases logind.sessionActiveReply_cases reply with same | ⟨active,changed,same⟩
  · rw [same]
    exact exact_same logind
  · rw [same]
    exact ⟨reports_quiet _ _ _ rfl rfl,reports_quiet _ _ _ rfl rfl,(change_of_ne _ _ changed).symm,
      reports_quiet _ _ _ rfl rfl,reports_quiet _ _ _ rfl rfl⟩

theorem exact_virtualTerminalReply (logind : LogindPrivate) (reply : Option UInt32) :
    Exact logind (logind.handleVirtualTerminalReply reply) := by
  rcases logind.virtualTerminalReply_cases reply with same | ⟨vt,changed,same⟩
  · rw [same]
    exact exact_same logind
  · rw [same]
    exact ⟨reports_quiet _ _ _ rfl rfl,reports_quiet _ _ _ rfl rfl,reports_quiet _ _ _ rfl rfl,
      (change_of_ne _ _ changed).symm,reports_quiet _ _ _ rfl rfl⟩

theorem exact_seatReply (logind : LogindPrivate) (reply : Option String) :
    Exact logind (logind.handleSeatReply reply) := by
  rcases logind.seatReply_cases reply with same | ⟨id,changed,same⟩
  · rw [same]
    exact exact_same logind
  · rw [same]
    exact ⟨reports_quiet _ _ _ rfl rfl,reports_quiet _ _ _ rfl rfl,reports_quiet _ _ _ rfl rfl,
      reports_quiet _ _ _ rfl rfl,(change_of_ne _ _ changed).symm⟩

theorem exact_releaseControl (logind : LogindPrivate) : Exact logind logind.releaseControl := by
  rcases logind.releaseControl_cases with ⟨_,same⟩ | ⟨_,_,controlled,same⟩
  · rw [same]
    exact exact_same logind
  · have changed : logind.hasSessionControl ≠ false := by simp [controlled]
    rw [same]
    exact ⟨reports_quiet _ _ _ rfl rfl,(change_of_ne _ _ changed).symm,reports_quiet _ _ _ rfl rfl,
      reports_quiet _ _ _ rfl rfl,reports_quiet _ _ _ rfl rfl⟩

theorem sends_unless (refused : Prop) [Decidable refused] (message : Message) :
    Sends (if refused then [] else [.send message]) := by
  intro effect member
  split at member
  · cases member
  · exact ⟨message,List.mem_singleton.mp member⟩

theorem exact_inhibitReply (logind : LogindPrivate) (who why : String) (answer : InhibitReply) :
    Exact logind (logind.handleInhibitReply who why answer) := by
  cases answer with
  | error => exact exact_same logind
  | granted fd =>
    rw [logind.inhibitReply_granted]
    split <;> exact ⟨reports_quiet _ _ _ rfl rfl,reports_quiet _ _ _ rfl rfl,reports_quiet _ _ _ rfl rfl,
      reports_quiet _ _ _ rfl rfl,reports_quiet _ _ _ rfl rfl⟩

theorem exact_uninhibit (logind : LogindPrivate) (fd : Int) : Exact logind (logind.uninhibit fd) := by
  rcases logind.uninhibit_cases fd with ⟨_,same⟩ | ⟨_,_,same⟩
  · rw [same]
    exact exact_same logind
  · rw [same]
    split <;> exact ⟨reports_quiet _ _ _ rfl rfl,reports_quiet _ _ _ rfl rfl,reports_quiet _ _ _ rfl rfl,
      reports_quiet _ _ _ rfl rfl,reports_quiet _ _ _ rfl rfl⟩

/-- The answer is announced whether or not it brings a change. -/
theorem exact_takeControlReply_iff (logind : LogindPrivate) (valid : Bool) :
    Exact logind (logind.handleTakeControlReply valid) ↔ valid ≠ logind.hasSessionControl := by
  obtain ⟨_,same⟩ := logind.takeControlReply_eq valid
  rw [same]
  apply Iff.intro
  · intro exactly unchanged
    have announced : [valid] = change logind.hasSessionControl valid := exactly.hasSessionControl
    rw [unchanged,change_self] at announced
    cases announced
  · intro changed
    exact ⟨reports_quiet _ _ _ rfl rfl,(change_of_ne _ _ changed.symm).symm,reports_quiet _ _ _ rfl rfl,
      reports_quiet _ _ _ rfl rfl,reports_quiet _ _ _ rfl rfl⟩

theorem brief_takeControlReply (logind : LogindPrivate) (valid : Bool) :
    Brief (logind.handleTakeControlReply valid).2 := by
  obtain ⟨_,same⟩ := logind.takeControlReply_eq valid
  rw [same]
  exact ⟨Nat.zero_le 1,Nat.le_refl 1,Nat.zero_le 1,Nat.zero_le 1,Nat.zero_le 1⟩

theorem emissions_if {α : Type} (read : Signal → Option α) (owed : Prop) [Decidable owed]
    (signal : Signal) : emissions read (if owed then [.emit signal] else []) =
      if owed then (read signal).toList else [] := by
  split
  · cases announced : read signal <;> simp [emissions,announced]
  · rfl

/-- What is announced when the service goes, of any signal. -/
theorem emissions_serviceUnregistered {α : Type} (read : Signal → Option α) (logind : LogindPrivate) :
    emissions read logind._q_serviceUnregistered.2 =
      emissions read [.emit (.connectedChanged false)] ++
        (if logind.sessionActive = true then (read (.sessionActiveChanged false)).toList else []) ++
        (if logind.vt ≠ -1 then (read (.vtNumberChanged (-1))).toList else []) ++
        (if logind.seat ≠ "" then (read (.seatChanged "")).toList else []) := by
  unfold LogindPrivate._q_serviceUnregistered
  rw [emissions_append,emissions_append,emissions_append,emissions_if,emissions_if,emissions_if]

theorem reports_serviceUnregistered (logind : LogindPrivate) :
    Reports hasSessionControl logind logind._q_serviceUnregistered ∧
    Reports sessionActive logind logind._q_serviceUnregistered ∧
    Reports vtNumber logind logind._q_serviceUnregistered ∧
    Reports seat logind logind._q_serviceUnregistered := by
  unfold Reports
  rw [emissions_serviceUnregistered,emissions_serviceUnregistered,emissions_serviceUnregistered,
    emissions_serviceUnregistered]
  refine ⟨?_,?_,?_,?_⟩
  · simp [hasSessionControl,emissions,LogindPrivate._q_serviceUnregistered,LogindPrivate.unsubscribe,
      change_self]
  · cases active : logind.sessionActive <;>
      simp [sessionActive,emissions,LogindPrivate._q_serviceUnregistered,active,change]
  · by_cases terminal : logind.vt = -1 <;>
      simp [vtNumber,emissions,LogindPrivate._q_serviceUnregistered,terminal,change]
  · by_cases seated : logind.seat = "" <;>
      simp [seat,emissions,LogindPrivate._q_serviceUnregistered,seated,change]

theorem connected_serviceUnregistered (logind : LogindPrivate) :
    emissions connected.read logind._q_serviceUnregistered.2 = [false] := by
  rw [emissions_serviceUnregistered]
  simp [emissions,connected]

/-- The loss of the connection is announced even if there was none. -/
theorem exact_serviceUnregistered_iff (logind : LogindPrivate) :
    Exact logind logind._q_serviceUnregistered ↔ logind.isConnected = true := by
  have announced : Reports connected logind logind._q_serviceUnregistered ↔
      [false] = change logind.isConnected false := by
    rw [Reports,connected_serviceUnregistered]
    rfl
  apply Iff.intro
  · intro exactly
    have owed := announced.mp exactly.connected
    cases now : logind.isConnected with
    | true => rfl
    | false =>
      rw [now,change_self] at owed
      cases owed
  · intro now
    obtain ⟨controlled,active,terminal,seated⟩ := reports_serviceUnregistered logind
    exact ⟨announced.mpr (by rw [now]; rfl),controlled,active,terminal,seated⟩

theorem brief_serviceUnregistered (logind : LogindPrivate) : Brief logind._q_serviceUnregistered.2 := by
  obtain ⟨controlled,active,terminal,seated⟩ := reports_serviceUnregistered logind
  exact ⟨by rw [connected_serviceUnregistered]; exact Nat.le_refl 1,
    reports_length _ logind _ controlled,reports_length _ logind _ active,
    reports_length _ logind _ terminal,reports_length _ logind _ seated⟩

/-- A loss of the service finds the client connected, and an answer to `TakeControl`
brings a change. -/
def Changing (observed : ObservedLogind) : Event → Prop
  | .serviceUnregistered => observed.logind.isConnected = true
  | .takeControlReply valid => valid ≠ observed.logind.hasSessionControl
  | _ => True

theorem handle_exact_iff (observed : ObservedLogind) (event : Event) :
    Exact observed.logind (handle observed.logind event) ↔ Changing observed event := by
  cases event with
  | serviceRegistered lookups => exact iff_of_true (exact_serviceRegistered _ lookups) trivial
  | serviceUnregistered => exact exact_serviceUnregistered_iff _
  | sessionPropertiesChanged =>
    exact iff_of_true (exact_sends _ _ (propertiesChanged_sends _)) trivial
  | sessionActiveReply reply => exact iff_of_true (exact_sessionActiveReply _ reply) trivial
  | virtualTerminalReply reply => exact iff_of_true (exact_virtualTerminalReply _ reply) trivial
  | seatReply reply => exact iff_of_true (exact_seatReply _ reply) trivial
  | takeControl => exact iff_of_true (exact_sends _ _ (sends_unless _ _)) trivial
  | takeControlReply valid => exact exact_takeControlReply_iff _ valid
  | releaseControl => exact iff_of_true (exact_releaseControl _) trivial
  | setIdleHint idle => exact iff_of_true (exact_sends _ _ (sends_unless _ _)) trivial
  | inhibit who why flags mode => exact iff_of_true (exact_sends _ _ (sends_unless _ _)) trivial
  | inhibitReply who why answer => exact iff_of_true (exact_inhibitReply _ who why answer) trivial
  | uninhibit fd => exact iff_of_true (exact_uninhibit _ fd) trivial

theorem handle_brief (logind : LogindPrivate) (event : Event) : Brief (handle logind event).2 := by
  have announced := handle_exact_iff ⟨logind,[]⟩ event
  cases event with
  | serviceUnregistered => exact brief_serviceUnregistered logind
  | takeControlReply valid => exact brief_takeControlReply logind valid
  | _ => exact (announced.mpr trivial).brief

/-- Every run from the start announces each change once and nothing else, as long as
only changes are answered and lost. -/
theorem notified_iff (events : List Event) :
    Along step Notified {} events ↔ Steps step Changing {} events := by
  apply along_iff_steps step (fun _ _ => True) Notified Changing
  · exact fun _ _ _ _ _ _ => trivial
  · intro observed event _ next _ notified taken
    cases taken
    exact (handle_exact_iff observed event).symm.trans
      (notified_next_iff observed _ notified (handle_brief observed.logind event)).symm
  · trivial
  · exact ⟨follows_nil _,follows_nil _,follows_nil _,follows_nil _,follows_nil _⟩

/-- A service that comes without a session and goes again is announced as lost twice. -/
theorem lost_twice : ¬ ∀ events, Along step Notified {} events := by
  intro all
  have along := all [.serviceUnregistered,.serviceRegistered ⟨none,none,fun _ => none,none⟩,
    .serviceUnregistered]
  have final := (along_iff_front step Notified {} _).mp along _ [] _ (List.append_nil _).symm rfl
  have repeated : [false,false,false].IsChain (· ≠ ·) := final.connected.changing
  exact absurd repeated (by decide)

end ObservedLogind

end LiriSession
