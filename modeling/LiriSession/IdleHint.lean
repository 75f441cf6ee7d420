import LiriSession.LogindLink

/-! The idle hint that logind holds for the session, over the runs of the client and
logind: the calls carry no value, so it stays as a new logind has it. -/
namespace LiriSession.LogindLink
open Library Logind

def idleValue : Event → Option Bool
  | .setIdle value => some value
  | _ => none

/-- The value of the last `SetIdle`, or false. -/
def lastIdle (events : List Event) : Bool := newest (events.filterMap idleValue) false

def HoldsHint (link : LogindLink) (value : Bool) : Prop :=
  link.client.isConnected = true → link.Quiet → link.hints link.client.sessionPath = value

def Bare (outgoing : List Outgoing) : Prop :=
  ∀ path arguments timeout, .call (.setIdleHint path arguments timeout) ∈ outgoing → arguments = []

structure Unset (link : LogindLink) : Prop where
  hints : ∀ path, link.hints path = false
  bare : Bare link.toServer

theorem Bare.append (first second : List Outgoing) (before : Bare first) (after : Bare second) :
    Bare (first ++ second) := by
  intro path arguments timeout member
  rcases List.mem_append.mp member with earlier | later
  · exact before path arguments timeout earlier
  · exact after path arguments timeout later

theorem Unset.send (link : LogindLink) (outgoing : List Outgoing) (unset : Unset link)
    (bare : Bare outgoing) : Unset (link.send outgoing) :=
  ⟨unset.hints,unset.bare.append link.toServer outgoing bare⟩

theorem bare_gets (path : String) : Bare (gets path) := by
  intro _ arguments _ member
  simp [gets] at member

theorem bare_newMatches (before after : LogindPrivate) : Bare (newMatches before after) := by
  intro _ arguments _ member
  simp [newMatches] at member

theorem bare_setIdle (client : LogindPrivate) (value : Bool) :
    Bare (calls (SessionManager.setIdle client value)) := by
  intro path arguments timeout member
  simp only [calls,SessionManager.setIdle,LogindBackend.setIdle,LogindPrivate.setIdleHint] at member
  split at member
  · cases member
  · simp at member
    exact member.2.1

theorem Unset.connect (link : LogindLink) (lookups : Lookups) (unset : Unset link) :
    Unset (link.connect lookups) := by
  rcases Bool.eq_false_or_eq_true link.client.isConnected with connected | disconnected
  · rw [connect_again link lookups connected]
    exact unset
  · by_cases lost : (link.client.lookUpSession lookups).sessionPath = ""
    · rw [connect_lost link lookups disconnected lost]
      exact ⟨unset.hints,unset.bare⟩
    · obtain ⟨hooks,_,same⟩ := connect_found link lookups disconnected lost
      rw [same]
      refine Unset.send _ _ ⟨unset.hints,unset.bare⟩ (Bare.append _ _ (bare_newMatches _ _) ?_)
      intro path arguments timeout member
      simp [gets] at member
      exact member.2.1

theorem Unset.receive (link : LogindLink) (lookups : Lookups) (delivery : Delivery)
    (unset : Unset link) : Unset (link.receive lookups delivery) := by
  cases delivery with
  | names found =>
    cases found with
    | true => exact unset.connect link lookups
    | false => exact unset
  | registered => exact unset.connect link lookups
  | unregistered =>
    rw [receive_unregistered]
    exact ⟨unset.hints,unset.bare⟩
  | propertiesChanged path =>
    unfold LogindLink.receive
    dsimp only
    split
    · refine Unset.send _ _ ⟨unset.hints,unset.bare⟩ (Bare.append _ _ (bare_newMatches _ _) ?_)
      unfold LogindPrivate._q_sessionPropertiesChanged
      split
      · exact fun _ _ _ member => absurd member List.not_mem_nil
      · exact bare_gets link.client.sessionPath
    · exact unset
  | reply reply =>
    rw [receive_reply]
    exact ⟨unset.hints,unset.bare⟩
  | error => exact unset

theorem Unset.serve (link : LogindLink) (outgoing : Outgoing) (toServer : List Outgoing)
    (first : link.toServer = outgoing::toServer) (unset : Unset link) :
    Unset ({ link with toServer }.serve outgoing) := by
  have rest : Bare toServer := fun path arguments timeout member =>
    unset.bare path arguments timeout (by rw [first]; exact List.mem_cons_of_mem outgoing member)
  cases outgoing with
  | listNames => exact ⟨unset.hints,rest⟩
  | addMatch path => exact ⟨unset.hints,rest⟩
  | call message =>
    unfold LogindLink.serve
    dsimp only
    split
    · cases message with
      | setIdleHint path arguments timeout =>
        have empty := unset.bare path arguments timeout (by rw [first]; exact List.mem_cons_self ..)
        rw [empty]
        exact ⟨unset.hints,rest⟩
      | _ => exact ⟨unset.hints,rest⟩
    · exact ⟨unset.hints,rest⟩

theorem step_unset (link next : LogindLink) (event : Event) (unset : Unset link)
    (taken : step link event = some next) : Unset next := by
  cases moves_of_step link next event taken with
  | register sessions => exact ⟨fun _ => rfl,unset.bare⟩
  | unregister => exact ⟨unset.hints,unset.bare⟩
  | change path session => exact ⟨unset.hints,unset.bare⟩
  | announce path owed => split <;> exact ⟨unset.hints,unset.bare⟩
  | served outgoing toServer first => exact unset.serve link outgoing toServer first
  | received lookups delivery => exact Unset.receive _ lookups delivery ⟨unset.hints,unset.bare⟩
  | setIdle value => exact unset.send link _ (bare_setIdle link.client value)

theorem run_unset (registered : Bool) (sessions : String → SessionState) (events : List Event)
    (link : LogindLink) (ran : run step (start registered sessions) events = some link) : Unset link :=
  run_invariant step (fun link _ => Unset link)
    (fun link event _ next unset taken => step_unset link next event unset taken)
    _ link events ⟨fun _ => rfl,fun _ _ _ member => by simp [start] at member⟩ ran

/-- In every run, logind holds the value of the last `SetIdle` when all is quiet exactly
when this is the value that it starts with. -/
theorem holdsHint_iff (registered : Bool) (sessions : String → SessionState) (events : List Event)
    (link : LogindLink) (ran : run step (start registered sessions) events = some link)
    (connected : link.client.isConnected = true) (quiet : link.Quiet) :
    link.HoldsHint (lastIdle events) ↔ lastIdle events = false := by
  have unset := (run_unset registered sessions events link ran).hints link.client.sessionPath
  apply Iff.intro
  · intro holds
    rw [← holds connected quiet,unset]
  · intro cleared _ _
    rw [unset,cleared]

def seated : String → SessionState := fun _ => ⟨true,2,"seat0"⟩

/-- The client finds logind, connects, and reads the properties of its session. -/
def connecting : List Event :=
  [.served,.received Inhibition.graphicalSession] ++ List.replicate 6 .served ++
    List.replicate 3 (.received Inhibition.graphicalSession)

/-- The session is idle and busy again. -/
def busyAgain : List Event := connecting ++ [.setIdle true,.served,.setIdle false,.served]

theorem hint_holds_when_busy : ∃ link, run step (start true seated) busyAgain = some link ∧
    link.client.isConnected = true ∧ link.Quiet ∧ link.HoldsHint false :=
  ⟨_,rfl,rfl,⟨rfl,rfl,rfl⟩,(holdsHint_iff true seated busyAgain _ rfl rfl ⟨rfl,rfl,rfl⟩).mpr rfl⟩

/-- The session is idle and logind is told so, but not in the argument of the call. -/
theorem idle_not_held : ¬ ∀ (registered : Bool) (sessions : String → SessionState)
    (events : List Event) (link : LogindLink),
      run step (start registered sessions) events = some link → link.HoldsHint (lastIdle events) := by
  intro all
  have holds := all true seated (connecting ++ [.setIdle true,.served]) _ rfl rfl ⟨rfl,rfl,rfl⟩
  cases holds

end LiriSession.LogindLink
