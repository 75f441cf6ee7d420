import LiriSession.SessionProperties
import LiriSession.Library.Settling

/-! Once logind and its sessions stay as they are, what is under way between logind and its
client runs out, whatever the order of the deliveries, and both then agree on the session. -/
namespace LiriSession.LogindLink
open Library Logind

/-- Deliveries, by either side or by the bus. -/
def Own : Event → Prop
  | .announce => True
  | .served => True
  | .received _ => True
  | _ => False

/-- How many events a message can still bring about, its own delivery included. A change
that is announced makes three requests, and a new connection six and a match. -/
def outgoingWork : Outgoing → Nat
  | .listNames => 13
  | .addMatch _ => 1
  | .call _ => 2

def deliveryWork : Delivery → Nat
  | .names _ => 12
  | .registered => 12
  | .propertiesChanged _ => 7
  | _ => 1

def work (link : LogindLink) : Nat :=
  8 * link.owed.length + weigh outgoingWork link.toServer + weigh deliveryWork link.toClient

theorem work_send (link : LogindLink) (outgoing : List Outgoing) :
    (link.send outgoing).work = link.work + weigh outgoingWork outgoing := by
  simp only [work,send,weigh_append]
  omega

theorem work_deliver (link : LogindLink) (delivery : Delivery) :
    (link.deliver delivery).work = link.work + deliveryWork delivery := by
  simp only [work,deliver,weigh_append,weigh_singleton]
  omega

theorem work_gets (path : String) : weigh outgoingWork (gets path) = 6 := rfl

theorem work_handle (link : LogindLink) (message : Message) : (link.handle message).work ≤ link.work + 1 := by
  cases message with
  | getProperty path name =>
    unfold handle
    rw [work_deliver]
    cases answer (link.sessions path) name <;> exact Nat.le_refl _
  | setIdleHint path arguments timeout =>
    unfold handle
    dsimp only
    split <;> exact Nat.le_succ _
  | _ => exact Nat.le_succ _

theorem work_serve (link : LogindLink) (outgoing : Outgoing) :
    (link.serve outgoing).work < link.work + outgoingWork outgoing := by
  cases outgoing with
  | listNames =>
    unfold serve
    rw [work_deliver]
    simp [deliveryWork,outgoingWork]
  | addMatch path => exact Nat.lt_succ_self _
  | call message =>
    unfold serve
    dsimp only
    split
    · have handled := work_handle link message
      simp only [outgoingWork]
      omega
    · rw [work_deliver]
      simp [deliveryWork,outgoingWork]

/-- A connection adds at most one subscription that the bus is told of. -/
theorem work_newMatches (before : LogindPrivate) (after : LogindPrivate) (path : String)
    (added : List Subscription) (only : added.Sublist (LogindPrivate.sessionHooks path))
    (same : after.subscriptions = before.subscriptions ++ added) :
    weigh outgoingWork (newMatches before after) ≤ 1 := by
  have each : ∀ outgoing ∈ newMatches before after, outgoingWork outgoing = 1 := by
    intro outgoing member
    obtain ⟨hook,_,rfl⟩ := List.mem_map.mp member
    rfl
  have old : before.subscriptions.filter (fun hook =>
      hook.member = "PropertiesChanged" && hook ∉ before.subscriptions) = [] := by
    apply List.filter_eq_nil_iff.mpr
    intro hook member
    simp [member]
  have new : (added.filter fun hook =>
      hook.member = "PropertiesChanged" && hook ∉ before.subscriptions).length ≤
        ((LogindPrivate.sessionHooks path).filter fun hook => hook.member = "PropertiesChanged").length := by
    rw [← List.countP_eq_length_filter,← List.countP_eq_length_filter]
    refine Nat.le_trans (List.countP_mono_left ?_) (only.countP_le)
    intro hook _ matched
    exact ((Bool.and_eq_true ..).mp matched).1
  have one : ((LogindPrivate.sessionHooks path).filter fun hook =>
      hook.member = "PropertiesChanged").length = 1 := rfl
  rw [weigh_const outgoingWork _ 1 each,newMatches,same,List.filter_append,old,List.nil_append,
    List.length_map,Nat.mul_one]
  exact one ▸ new

theorem work_connect (link : LogindLink) (lookups : Lookups) :
    (link.connect lookups).work ≤ link.work + 11 := by
  rcases Bool.eq_false_or_eq_true link.client.isConnected with connected | disconnected
  · rw [link.connect_again lookups connected]
    exact Nat.le_add_right ..
  · by_cases lost : (link.client.lookUpSession lookups).sessionPath = ""
    · rw [link.connect_lost lookups disconnected lost]
      exact Nat.le_add_right ..
    · have subscribes := link.client.registered_subscribes lookups disconnected lost
      generalize (link.client.lookUpSession lookups).sessionPath = path at lost subscribes
      obtain ⟨added,only,same⟩ := LogindPrivate.subscribeEach_sublist
        { link.client with isConnected := true, sessionPath := path } (LogindPrivate.sessionHooks path)
      have sent : weigh outgoingWork (outgoing { link.client with
          isConnected := true, sessionPath := path, subscriptions := link.client.subscriptions ++ added }
          (.send (.activate path)::LogindPrivate.getProperties path ++
            [.emit (.connectedChanged true)])) = 10 := by
        simp [outgoing,calls,LogindPrivate.getProperties,LogindBackend.handleConnectedChanged,
          LogindBackend.setIdle,LogindPrivate.setIdleHint,lost,outgoingWork,weigh]
      have watched := work_newMatches link.client { link.client with
        isConnected := true, sessionPath := path, subscriptions := link.client.subscriptions ++ added }
        path added only rfl
      rw [connect,subscribes,same,advance,work_send,weigh_append,sent]
      exact Nat.add_le_add_left (Nat.add_le_add_right watched 10) link.work

theorem work_receive (link : LogindLink) (lookups : Lookups) (delivery : Delivery) :
    (link.receive lookups delivery).work < link.work + deliveryWork delivery := by
  have connects := work_connect link lookups
  cases delivery with
  | names found =>
    cases found with
    | true => exact Nat.lt_succ_of_le connects
    | false => exact Nat.lt_add_of_pos_right (Nat.succ_pos _)
  | registered => exact Nat.lt_succ_of_le connects
  | unregistered =>
    rw [receive_unregistered]
    exact Nat.lt_succ_self _
  | propertiesChanged path =>
    by_cases asks : link.client.isConnected = true ∧ link.client.sessionPath ≠ ""
    · rw [receive_propertiesChanged link lookups path asks.1 asks.2]
      split
      · rw [work_send,work_gets]
        exact Nat.lt_succ_self _
      · exact Nat.lt_add_of_pos_right (Nat.succ_pos _)
    · have none : link.client._q_sessionPropertiesChanged = [] := by
        apply if_pos
        by_contra other
        exact asks (by simpa using other)
      unfold receive
      dsimp only
      split
      · rw [none,advance_silent link (link.client,[]) (List.Subset.refl _) rfl]
        exact Nat.lt_add_of_pos_right (Nat.succ_pos _)
      · exact Nat.lt_add_of_pos_right (Nat.succ_pos _)
  | reply reply =>
    rw [receive_reply]
    exact Nat.lt_succ_self _
  | error => exact Nat.lt_succ_self _

theorem work_decreases (link : LogindLink) (event : Event) (next : LogindLink) (own : Own event)
    (taken : step link event = some next) : next.work < link.work := by
  cases moves_of_step link next event taken with
  | announce path owed first =>
    have before : link.work = { link with owed }.work + 8 := by
      simp only [work,first,List.length_cons]
      omega
    split
    · rw [work_deliver,before]
      exact Nat.lt_succ_self _
    · omega
  | served outgoing toServer first =>
    have served := work_serve { link with toServer } outgoing
    have before : link.work = { link with toServer }.work + outgoingWork outgoing := by
      simp only [work,first,weigh]
      omega
    omega
  | received lookups delivery toClient first =>
    have received := work_receive { link with toClient } lookups delivery
    have before : link.work = { link with toClient }.work + deliveryWork delivery := by
      simp only [work,first,weigh]
      omega
    omega
  | register => exact own.elim
  | unregister => exact own.elim
  | change => exact own.elim
  | setIdle => exact own.elim

theorem delivery_continues (link : LogindLink) (unquiet : ¬link.Quiet) :
    ∃ event next, Own event ∧ step link event = some next := by
  cases owed : link.owed with
  | cons path rest => exact ⟨.announce,_,trivial,by rw [step,owed]⟩
  | nil =>
    cases toServer : link.toServer with
    | cons outgoing rest => exact ⟨.served,_,trivial,by rw [step,toServer]⟩
    | nil =>
      cases toClient : link.toClient with
      | nil => exact absurd ⟨owed,toServer,toClient⟩ unquiet
      | cons delivery rest =>
        let lookups : Lookups := ⟨none,none,fun _ => none,none⟩
        refine ⟨.received lookups,{ link with toClient := rest }.receive lookups delivery,trivial,?_⟩
        rw [step,toClient]
        exact if_pos (by decide)

theorem settling : Settling step Own work Quiet :=
  ⟨work_decreases,delivery_continues⟩

/-- Whatever is delivered first, the deliveries end, and both sides then agree. -/
structure Converges (link : LogindLink) : Prop where
  bounded : ∀ events final, (∀ event ∈ events, Own event) → run step link events = some final →
    events.length ≤ link.work
  agrees : ∀ events final, (∀ event ∈ events, Own event) → run step link events = some final →
    Stuck step Own final → final.Quiet ∧ Coherent final ∧
      (final.client.isConnected = true → final.registered = true)
  reached : ∃ events final, (∀ event ∈ events, Own event) ∧ run step link events = some final ∧
    final.Quiet

theorem step_sound (link next : LogindLink) (event : Event) (sound : Sound link)
    (taken : step link event = some next) : Sound next :=
  ⟨step_located link next event sound.located taken,
    step_held active link next event sound.active sound.located taken,
    step_held vtNr link next event sound.vtNr sound.located taken,
    step_held seat link next event sound.seat sound.located taken⟩

theorem run_sound (link final : LogindLink) (events : List Event) (sound : Sound link)
    (ran : run step link events = some final) : Sound final :=
  run_invariant step (fun link _ => Sound link)
    (fun link event _ next sound taken => step_sound link next event sound taken) link final events sound ran

theorem Sound.coherent (link : LogindLink) (sound : Sound link) (quiet : link.Quiet) : Coherent link := by
  have number := sound.vtNr.settled LogindLink.vtNr link quiet
  refine ⟨sound.active.settled LogindLink.active link quiet,number,?_,sound.seat.settled LogindLink.seat link quiet⟩
  intro connected small
  rw [if_pos connected] at number
  exact number.trans (vtNr_cast _ small)

theorem Sound.converges (link : LogindLink) (sound : Sound link) : Converges link := by
  refine ⟨?_,?_,settling.reaches link⟩
  · intro events final only ran
    have bound := settling.bounded link final events only ran
    omega
  · intro events final only ran stuck
    have after := run_sound link final events sound ran
    have quiet := settling.stuck_rest final stuck
    refine ⟨quiet,after.coherent final quiet,fun connected => ?_⟩
    apply after.located.registered final
    exact ⟨connected,by rw [quiet.2.2]; exact List.not_mem_nil⟩

/-- From every state of every run the deliveries come to an end, after as many as that
state bounds, and wherever they end the client knows the session as logind has it. -/
theorem converges_along (registered : Bool) (sessions : String → SessionState) (events : List Event) :
    Along step Converges (start registered sessions) events := by
  apply along_of_steps step (fun link _ => Sound link) Converges fun _ _ => True
  · exact fun link event _ next sound _ taken => step_sound link next event sound taken
  · exact fun link _ sound => sound.converges link
  · exact sound_start registered sessions
  · exact steps_of_all step _ _ events fun _ _ _ => trivial

end LiriSession.LogindLink
