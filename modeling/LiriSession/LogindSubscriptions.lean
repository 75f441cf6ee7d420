import LiriSession.LogindSignals

/-! Which signals of logind the client has subscribed to, over its connections and the
times it has control of the session. -/
namespace LiriSession
open Library Logind

/-- The client, and how many calls of `TakeControl` have not been answered. -/
structure LogindSubscriptions where
  logind : LogindPrivate := {}
  pending : Nat := 0

namespace LogindSubscriptions

/-- A reply to `TakeControl` needs a call. -/
def step (state : LogindSubscriptions) : ObservedLogind.Event → Option LogindSubscriptions
  | .takeControl => some { state with pending := state.pending + state.logind.takeControl.length }
  | .takeControlReply valid =>
    match state.pending with
    | 0 => none
    | pending+1 => some ⟨(state.logind.handleTakeControlReply valid).1,pending⟩
  | event => some { state with logind := (ObservedLogind.handle state.logind event).1 }

/-- The signals of the session object come from the current session; those of a connection
are subscribed once while there is one, and those of devices only under control. -/
structure Subscribed (state : LogindSubscriptions) : Prop where
  current : ∀ hook ∈ state.logind.subscriptions, hook.interface ≠ manager →
    hook.path = state.logind.sessionPath
  disconnected : state.logind.isConnected = false → state.logind.subscriptions = []
  connected : state.logind.isConnected = true →
    ∀ hook ∈ LogindPrivate.sessionHooks state.logind.sessionPath,
      (state.logind.subscriptions.filter fun other => other.member = hook.member) = [hook]
  devices : ∀ hook ∈ state.logind.subscriptions,
    hook.member ∈ ["PauseDevice","ResumeDevice"] → state.logind.hasSessionControl = true

/-- The connection is not lost, and neither is control. -/
def Keeps (state : LogindSubscriptions) : ObservedLogind.Event → Prop
  | .serviceUnregistered => state.logind.isConnected = false
  | .takeControlReply valid => state.logind.hasSessionControl = true → valid = true
  | .releaseControl => state.logind.hasSessionControl = false
  | _ => True

/-- What is subscribed for a session stays for ever. -/
structure Linked (state : LogindSubscriptions) : Prop where
  session : state.logind.isConnected = true ∨ 0 < state.pending →
    ∃ hook ∈ state.logind.subscriptions, hook.interface ≠ manager
  device : state.logind.hasSessionControl = true →
    ∃ hook ∈ state.logind.subscriptions, hook.interface ≠ manager ∧ hook.member = "PauseDevice"
  found : state.logind.isConnected = true → state.logind.sessionPath ≠ ""

/-- Handlers that do not touch the connection and the control. -/
def plain : ObservedLogind.Event → Bool
  | .serviceRegistered _ => false
  | .serviceUnregistered => false
  | .takeControl => false
  | .takeControlReply _ => false
  | .releaseControl => false
  | _ => true

theorem handle_plain (logind : LogindPrivate) (event : ObservedLogind.Event) (other : plain event = true) :
    ∃ sessionActive vt seat inhibitFds, (ObservedLogind.handle logind event).1 =
      { logind with sessionActive, vt, seat, inhibitFds } := by
  cases event with
  | serviceRegistered => cases other
  | serviceUnregistered => cases other
  | takeControl => cases other
  | takeControlReply => cases other
  | releaseControl => cases other
  | sessionPropertiesChanged => exact ⟨_,_,_,_,rfl⟩
  | sessionActiveReply reply =>
    rcases logind.sessionActiveReply_cases reply with same | ⟨_,_,same⟩ <;>
      rw [ObservedLogind.handle,same] <;> exact ⟨_,_,_,_,rfl⟩
  | virtualTerminalReply reply =>
    rcases logind.virtualTerminalReply_cases reply with same | ⟨_,_,same⟩ <;>
      rw [ObservedLogind.handle,same] <;> exact ⟨_,_,_,_,rfl⟩
  | seatReply reply =>
    rcases logind.seatReply_cases reply with same | ⟨_,_,same⟩ <;>
      rw [ObservedLogind.handle,same] <;> exact ⟨_,_,_,_,rfl⟩
  | setIdleHint => exact ⟨_,_,_,_,rfl⟩
  | inhibit => exact ⟨_,_,_,_,rfl⟩
  | inhibitReply who why answer => cases answer <;> exact ⟨_,_,_,_,rfl⟩
  | uninhibit fd =>
    rcases logind.uninhibit_cases fd with ⟨_,same⟩ | ⟨_,_,same⟩ <;>
      rw [ObservedLogind.handle,same] <;> exact ⟨_,_,_,_,rfl⟩

/-- What one event can do. -/
inductive Moves (state : LogindSubscriptions) : ObservedLogind.Event → LogindSubscriptions → Prop
  | plain (event : ObservedLogind.Event) (sessionActive : Bool) (vt : Int) (seat : String)
      (inhibitFds : List Int) (other : LogindSubscriptions.plain event = true) :
      Moves state event { state with logind := { state.logind with sessionActive, vt, seat, inhibitFds } }
  | again (lookups : Lookups) : Moves state (.serviceRegistered lookups) state
  | lost (lookups : Lookups) (disconnected : state.logind.isConnected = false) :
      Moves state (.serviceRegistered lookups) { state with logind := { state.logind with sessionPath := "" } }
  | found (lookups : Lookups) (path : String) (disconnected : state.logind.isConnected = false)
      (found : path ≠ "") : Moves state (.serviceRegistered lookups) { state with
        logind := { state.logind with isConnected := true, sessionPath := path }.subscribeEach
          (LogindPrivate.sessionHooks path) }
  | unregistered : Moves state .serviceUnregistered
      { state with logind := state.logind._q_serviceUnregistered.1 }
  | asked (calls : Nat) (sent : 0 < calls → state.logind.isConnected = true) :
      Moves state .takeControl { state with pending := state.pending + calls }
  | refused (pending : Nat) (called : state.pending = pending + 1) :
      Moves state (.takeControlReply false) ⟨{ state.logind with hasSessionControl := false },pending⟩
  | granted (pending : Nat) (called : state.pending = pending + 1) :
      Moves state (.takeControlReply true)
        ⟨{ state.logind with hasSessionControl := true }.subscribeEach
          (LogindPrivate.controlHooks state.logind.sessionPath),pending⟩
  | uncontrolled (none : state.logind.isConnected = false ∨ state.logind.sessionPath = "" ∨
      state.logind.hasSessionControl = false) : Moves state .releaseControl state
  | released (connected : state.logind.isConnected = true)
      (controlled : state.logind.hasSessionControl = true) : Moves state .releaseControl
        { state with logind := { state.logind with hasSessionControl := false } }

theorem moves_of_takeControl (state : LogindSubscriptions) :
    Moves state .takeControl { state with pending := state.pending + state.logind.takeControl.length } := by
  apply Moves.asked
  intro sent
  cases connected : state.logind.isConnected with
  | true => rfl
  | false => simp [LogindPrivate.takeControl,connected] at sent

theorem moves_of_plain (state : LogindSubscriptions) (event : ObservedLogind.Event)
    (other : LogindSubscriptions.plain event = true) :
    Moves state event { state with logind := (ObservedLogind.handle state.logind event).1 } := by
  obtain ⟨sessionActive,vt,seat,inhibitFds,same⟩ := handle_plain state.logind event other
  rw [same]
  exact .plain event sessionActive vt seat inhibitFds other

theorem moves_of_step (state next : LogindSubscriptions) (event : ObservedLogind.Event)
    (taken : step state event = some next) : Moves state event next := by
  cases event with
  | takeControl =>
    cases taken
    exact moves_of_takeControl state
  | takeControlReply valid =>
    unfold step at taken
    dsimp only at taken
    split at taken
    next => cases taken
    next pending called =>
      cases taken
      cases valid with
      | false => exact .refused pending called
      | true =>
        rw [state.logind.takeControlReply_subscribes]
        exact .granted pending called
  | serviceRegistered lookups =>
    cases taken
    unfold ObservedLogind.handle
    dsimp only
    rcases Bool.eq_false_or_eq_true state.logind.isConnected with connected | disconnected
    · rw [state.logind.registered_again lookups connected]
      exact .again lookups
    · by_cases lost : (state.logind.lookUpSession lookups).sessionPath = ""
      · rw [state.logind.registered_lost lookups disconnected lost]
        exact .lost lookups disconnected
      · rw [state.logind.registered_subscribes lookups disconnected lost]
        dsimp only
        exact .found lookups _ disconnected lost
  | serviceUnregistered =>
    cases taken
    exact .unregistered
  | releaseControl =>
    cases taken
    unfold ObservedLogind.handle
    dsimp only
    rcases state.logind.releaseControl_cases with ⟨none,same⟩ | ⟨connected,_,controlled,same⟩
    · rw [same]
      exact .uncontrolled none
    · rw [same]
      exact .released connected controlled
  | _ =>
    cases taken
    exact moves_of_plain state _ rfl

theorem session_ne_manager : session ≠ manager := by decide

theorem properties_ne_manager : properties ≠ manager := by decide

theorem sessionHooks_nodup (path : String) : (LogindPrivate.sessionHooks path).Nodup :=
  List.Nodup.of_map Subscription.member
    (show ["Lock","Unlock","PropertiesChanged","PrepareForSleep","PrepareForShutdown"].Nodup by decide)

/-- Only the subscriptions for the manager go with the service. -/
theorem unregistered_keeps (logind : LogindPrivate) (hook : Subscription) (other : hook.interface ≠ manager)
    (listed : hook ∈ logind.subscriptions) : hook ∈ logind._q_serviceUnregistered.1.subscriptions := by
  have apart (member : String) : hook ≠ ⟨object,manager,member⟩ := by
    intro same
    rw [same] at other
    exact other rfl
  exact (List.mem_erase_of_ne (apart "PrepareForShutdown")).mpr
    ((List.mem_erase_of_ne (apart "PrepareForSleep")).mpr listed)

theorem linked_step (state next : LogindSubscriptions) (event : ObservedLogind.Event)
    (linked : Linked state) (taken : step state event = some next) : Linked next := by
  cases moves_of_step state next event taken with
  | plain => exact ⟨linked.session,linked.device,linked.found⟩
  | again => exact linked
  | lost lookups disconnected =>
    refine ⟨linked.session,linked.device,fun connected => ?_⟩
    rw [show state.logind.isConnected = true from connected] at disconnected
    cases disconnected
  | found lookups path disconnected found =>
    obtain ⟨added,same,_,listed⟩ := LogindPrivate.subscribeEach_eq
      { state.logind with isConnected := true, sessionPath := path } (LogindPrivate.sessionHooks path)
    rw [same]
    refine ⟨fun _ => ?_,fun controlled => ?_,fun _ => found⟩
    · exact ⟨LogindPrivate.watch path,listed (by simp [LogindPrivate.sessionHooks]),properties_ne_manager⟩
    · obtain ⟨hook,before,paused⟩ := linked.device controlled
      exact ⟨hook,List.mem_append_left _ before,paused⟩
  | unregistered =>
    refine ⟨fun live => ?_,fun controlled => ?_,fun connected => Bool.noConfusion connected⟩
    · have called := live.resolve_left Bool.false_ne_true
      obtain ⟨hook,listed,other⟩ := linked.session (.inr called)
      exact ⟨hook,unregistered_keeps state.logind hook other listed,other⟩
    · obtain ⟨hook,listed,other,paused⟩ := linked.device controlled
      exact ⟨hook,unregistered_keeps state.logind hook other listed,other,paused⟩
  | asked calls sent =>
    refine ⟨fun live => ?_,linked.device,linked.found⟩
    rcases live with connected | pending
    · exact linked.session (.inl connected)
    · by_cases none : calls = 0
      · exact linked.session (.inr (by simpa [none] using pending))
      · exact linked.session (.inl (sent (Nat.pos_of_ne_zero none)))
  | refused pending called =>
    refine ⟨fun live => linked.session ?_,fun controlled => Bool.noConfusion controlled,linked.found⟩
    exact live.imp_right fun _ => called ▸ Nat.succ_pos pending
  | granted pending called =>
    obtain ⟨added,same,_,listed⟩ := LogindPrivate.subscribeEach_eq
      { state.logind with hasSessionControl := true }
      (LogindPrivate.controlHooks state.logind.sessionPath)
    rw [same]
    refine ⟨fun live => ?_,fun _ => ?_,linked.found⟩
    · obtain ⟨hook,before,other⟩ := linked.session (live.imp_right fun _ => called ▸ Nat.succ_pos pending)
      exact ⟨hook,List.mem_append_left _ before,other⟩
    · exact ⟨⟨state.logind.sessionPath,session,"PauseDevice"⟩,
        listed (by simp [LogindPrivate.controlHooks]),session_ne_manager,rfl⟩
  | uncontrolled => exact linked
  | released => exact ⟨linked.session,fun controlled => Bool.noConfusion controlled,linked.found⟩

/-- A connection that has made its subscriptions and no others. -/
theorem Subscribed.connect (state : LogindSubscriptions) (path : String) (subscribed : Subscribed state)
    (disconnected : state.logind.isConnected = false) : Subscribed { state with
      logind := { state.logind with isConnected := true, sessionPath := path }.subscribeEach
        (LogindPrivate.sessionHooks path) } := by
  have none := subscribed.disconnected disconnected
  rw [LogindPrivate.subscribeEach_new _ _ (sessionHooks_nodup path) (by simp [none])]
  simp only [none,List.nil_append]
  refine ⟨?_,fun connected => Bool.noConfusion connected,?_,?_⟩
  · intro hook listed other
    simp only [LogindPrivate.sessionHooks,LogindPrivate.watch,List.mem_cons,List.not_mem_nil,or_false] at listed
    rcases listed with rfl | rfl | rfl | rfl | rfl
    · rfl
    · rfl
    · rfl
    · exact absurd rfl other
    · exact absurd rfl other
  · intro _ hook listed
    simp only [LogindPrivate.sessionHooks,LogindPrivate.watch,List.mem_cons,List.not_mem_nil,or_false] at listed
    rcases listed with rfl | rfl | rfl | rfl | rfl <;> rfl
  · intro hook listed paused
    simp only [LogindPrivate.sessionHooks,LogindPrivate.watch,List.mem_cons,List.not_mem_nil,or_false] at listed
    rcases listed with rfl | rfl | rfl | rfl | rfl <;> simp at paused

theorem Subscribed.control (state : LogindSubscriptions) (pending : Nat) (subscribed : Subscribed state)
    (connected : state.logind.isConnected = true) : Subscribed
      ⟨{ state.logind with hasSessionControl := true }.subscribeEach
        (LogindPrivate.controlHooks state.logind.sessionPath),pending⟩ := by
  obtain ⟨added,same,only,_⟩ := LogindPrivate.subscribeEach_eq
    { state.logind with hasSessionControl := true }
    (LogindPrivate.controlHooks state.logind.sessionPath)
  have device (hook : Subscription) (listed : hook ∈ added) :
      hook.path = state.logind.sessionPath ∧ hook.member ∈ ["PauseDevice","ResumeDevice"] := by
    rcases List.mem_cons.mp (only listed) with rfl | last
    · exact ⟨rfl,List.mem_cons_self ..⟩
    · rw [List.mem_singleton.mp last]
      exact ⟨rfl,List.mem_cons_of_mem _ (List.mem_cons_self ..)⟩
  rw [same]
  refine ⟨?_,fun lost => ?_,fun _ hook listed => ?_,fun _ _ _ => rfl⟩
  · intro hook listed other
    rcases List.mem_append.mp listed with before | new
    · exact subscribed.current hook before other
    · exact (device hook new).1
  · rw [show state.logind.isConnected = false from lost] at connected
    cases connected
  · have others : added.filter (fun other => other.member = hook.member) = [] := by
      apply List.filter_eq_nil_iff.mpr
      intro other new matched
      have paused := (device other new).2
      rw [of_decide_eq_true matched] at paused
      have member : hook.member ∈ (LogindPrivate.sessionHooks state.logind.sessionPath).map
          Subscription.member := List.mem_map_of_mem listed
      simp [LogindPrivate.sessionHooks,LogindPrivate.watch] at member paused
      rcases paused with same | same <;> simp [same] at member
    dsimp only
    rw [List.filter_append,others,List.append_nil]
    exact subscribed.connected connected hook listed

theorem keeps_of_plain (state : LogindSubscriptions) (event : ObservedLogind.Event)
    (other : plain event = true) : Keeps state event := by
  cases event with
  | serviceUnregistered => cases other
  | takeControlReply => cases other
  | releaseControl => cases other
  | _ => trivial

theorem Linked.uncontrolled (state : LogindSubscriptions) (linked : Linked state)
    (subscribed : Subscribed state) (disconnected : state.logind.isConnected = false) :
    state.logind.hasSessionControl = false := by
  cases controlled : state.logind.hasSessionControl with
  | false => rfl
  | true =>
    obtain ⟨hook,listed,_⟩ := linked.device controlled
    rw [subscribed.disconnected disconnected] at listed
    cases listed

theorem Linked.connected (state : LogindSubscriptions) (linked : Linked state)
    (subscribed : Subscribed state) (called : 0 < state.pending) : state.logind.isConnected = true := by
  obtain ⟨hook,listed,_⟩ := linked.session (.inr called)
  by_contra lost
  rw [subscribed.disconnected (by simpa using lost)] at listed
  cases listed

/-- Without control, a device signal that is still subscribed is one too many. -/
theorem Linked.released (state : LogindSubscriptions) (pending : Nat) (linked : Linked state)
    (controlled : state.logind.hasSessionControl = true) :
    ¬Subscribed ⟨{ state.logind with hasSessionControl := false },pending⟩ := by
  intro subscribed
  obtain ⟨hook,listed,_,paused⟩ := linked.device controlled
  exact Bool.false_ne_true (subscribed.devices hook listed (paused ▸ List.mem_cons_self ..))

theorem step_subscribed_iff (state next : LogindSubscriptions) (event : ObservedLogind.Event)
    (linked : Linked state) (subscribed : Subscribed state) (taken : step state event = some next) :
    Keeps state event ↔ Subscribed next := by
  cases moves_of_step state next event taken with
  | plain event _ _ _ _ other =>
    exact iff_of_true (keeps_of_plain state event other)
      ⟨subscribed.current,subscribed.disconnected,subscribed.connected,subscribed.devices⟩
  | again => exact iff_of_true trivial subscribed
  | lost lookups disconnected =>
    have none := subscribed.disconnected disconnected
    refine iff_of_true trivial ⟨?_,fun _ => none,fun connected => ?_,subscribed.devices⟩
    · intro hook listed
      rw [show state.logind.subscriptions = [] from none] at listed
      cases listed
    · rw [show state.logind.isConnected = true from connected] at disconnected
      cases disconnected
  | found lookups path disconnected =>
    exact iff_of_true trivial (subscribed.connect state path disconnected)
  | unregistered =>
    apply Iff.intro
    · intro disconnected
      have none : state.logind._q_serviceUnregistered.1.subscriptions = [] := by
        have before := subscribed.disconnected disconnected
        simp [LogindPrivate._q_serviceUnregistered,LogindPrivate.unsubscribe,before]
      refine ⟨?_,fun _ => none,fun connected => Bool.noConfusion connected,?_⟩ <;>
        intro hook listed <;> rw [none] at listed <;> cases listed
    · intro after
      by_contra connected
      obtain ⟨hook,listed,other⟩ := linked.session (.inl (by simpa [Keeps] using connected))
      have kept := unregistered_keeps state.logind hook other listed
      rw [after.disconnected rfl] at kept
      cases kept
  | asked =>
    exact iff_of_true trivial
      ⟨subscribed.current,subscribed.disconnected,subscribed.connected,subscribed.devices⟩
  | refused pending called =>
    apply Iff.intro
    · intro keeps
      refine ⟨subscribed.current,subscribed.disconnected,subscribed.connected,?_⟩
      intro hook listed paused
      exact absurd (keeps (subscribed.devices hook listed paused)) Bool.false_ne_true
    · intro after controlled
      exact absurd after (linked.released state pending controlled)
  | granted pending called =>
    have connected := linked.connected state subscribed (called ▸ Nat.succ_pos pending)
    exact iff_of_true (fun _ => rfl) (subscribed.control state pending connected)
  | uncontrolled none =>
    refine iff_of_true ?_ subscribed
    rcases none with disconnected | unfound | uncontrolled
    · exact linked.uncontrolled state subscribed disconnected
    · cases connected : state.logind.isConnected with
      | true => exact absurd unfound (linked.found connected)
      | false => exact linked.uncontrolled state subscribed connected
    · exact uncontrolled
  | released connected controlled =>
    refine iff_of_false ?_ (linked.released state state.pending controlled)
    intro uncontrolled
    rw [show state.logind.hasSessionControl = false from uncontrolled] at controlled
    cases controlled

/-- The subscriptions are right in every state of a run exactly when no connection is lost
in it, and no control. -/
theorem subscribed_iff (events : List ObservedLogind.Event) :
    Along step Subscribed {} events ↔ Steps step Keeps {} events := by
  apply along_iff_steps step (fun state _ => Linked state) Subscribed Keeps
  · exact fun state event _ next linked taken => linked_step state next event linked taken
  · exact fun state event _ next linked subscribed taken =>
      step_subscribed_iff state next event linked subscribed taken
  · refine ⟨fun live => ?_,fun controlled => Bool.noConfusion controlled,
      fun connected => Bool.noConfusion connected⟩
    rcases live with connected | called
    · cases connected
    · cases called
  · refine ⟨?_,fun _ => rfl,fun connected => Bool.noConfusion connected,?_⟩ <;>
      intro hook listed <;> cases listed

/-- The service goes, and the client still listens to the session that it had. -/
theorem lock_still_subscribed : ¬ ∀ events, Along step Subscribed {} events := by
  intro all
  have along := all [.serviceRegistered Inhibition.graphicalSession,.serviceUnregistered]
  have reached := along_start step Subscribed _ [] ((along.2 _ rfl).2 _ rfl)
  have none := reached.disconnected rfl
  cases none

end LogindSubscriptions

end LiriSession
