import LiriSession.LogindSignals
import LiriSession.Library.Channel

/-! Who controls the session: the client of logind keeps a flag, which a release clears at
once and only an answer sets, while its requests and logind's answers are under way. -/
namespace LiriSession
open Library Logind

/-- The client, whether logind regards this process as the controller, the requests it has
not handled and its answers to `TakeControl`. Nobody waits for one to `ReleaseControl`. -/
structure SessionControl where
  client : LogindPrivate
  controller : Bool
  requests : List Message := []
  replies : List Bool := []

namespace SessionControl

def messages (effects : List Effect) : List Message :=
  effects.filterMap fun | .send message => some message | _ => none

inductive Event
  | takeControl
  | releaseControl
  | handled (grants : Bool)
  | replied

/-- The controller is granted what it has, and anyone else what logind chooses. -/
def handle (state : SessionControl) (grants : Bool) : Message → SessionControl
  | .takeControl _ _ =>
    let granted := state.controller || grants
    { state with controller := granted, replies := state.replies ++ [granted] }
  | .releaseControl _ => { state with controller := false }
  | _ => state

def step (state : SessionControl) : Event → Option SessionControl
  | .takeControl => some { state with requests := state.requests ++ messages state.client.takeControl }
  | .releaseControl =>
    let result := state.client.releaseControl
    some { state with client := result.1, requests := state.requests ++ messages result.2 }
  | .handled grants =>
    match state.requests with
    | [] => none
    | request::requests => some (handle { state with requests } grants request)
  | .replied =>
    match state.replies with
    | [] => none
    | valid::replies =>
      some { state with replies, client := (state.client.handleTakeControlReply valid).1 }

/-- The flag and logind agree when a client connects. -/
def start (client : LogindPrivate) : SessionControl where
  client := client
  controller := client.hasSessionControl

def Quiet (state : SessionControl) : Prop := state.requests = [] ∧ state.replies = []

def isDelivery : Event → Bool
  | .handled _ => true
  | .replied => true
  | _ => false

/-- However what is under way is dealt with, the flag and logind agree in the end. -/
def Settles (state : SessionControl) : Prop :=
  ∀ deliveries final, (∀ event ∈ deliveries, isDelivery event = true) →
    run step state deliveries = some final → final.Quiet →
      final.client.hasSessionControl = final.controller

def isTake : Message → Bool
  | .takeControl _ _ => true
  | _ => false

def NoTake (requests : List Message) : Prop := ∀ request ∈ requests, isTake request = false

/-- A client that has control does not release it while a request to take it is not
handled, or when the last answer under way is that it has it. -/
def Allowed (state : SessionControl) : Event → Prop
  | .releaseControl => state.client.hasSessionControl = true →
    NoTake state.requests ∧ state.replies.getLast? ≠ some true
  | _ => True

/-- The last request decides: the answer to a take comes last, and a release wants the
flag to stay clear. -/
def Aligned (state : SessionControl) : Prop :=
  match state.requests.getLast? with
  | none => newest state.replies state.client.hasSessionControl = state.controller
  | some last => isTake last = true ∨
    NoTake state.requests ∧ newest state.replies state.client.hasSessionControl = false

/-- The client stays connected, and only the two requests are made. -/
structure Sound (state : SessionControl) : Prop where
  connected : state.client.isConnected = true
  found : state.client.sessionPath ≠ ""
  requests : ∀ request ∈ state.requests, isTake request = true ∨ ∃ path, request = .releaseControl path

theorem takeControl_messages (client : LogindPrivate) (connected : client.isConnected = true)
    (found : client.sessionPath ≠ "") : messages client.takeControl =
      if client.hasSessionControl then [] else [.takeControl client.sessionPath false] := by
  unfold LogindPrivate.takeControl
  cases control : client.hasSessionControl <;> simp [connected,found,messages]

theorem releaseControl_result (client : LogindPrivate) (connected : client.isConnected = true)
    (found : client.sessionPath ≠ "") :
    client.releaseControl.1 = { client with hasSessionControl := false } ∧
      messages client.releaseControl.2 =
        if client.hasSessionControl then [.releaseControl client.sessionPath] else [] := by
  rcases client.releaseControl_cases with ⟨refused,same⟩ | ⟨_,_,controlled,same⟩
  · have free : client.hasSessionControl = false := by simpa [connected,found] using refused
    rw [same,free]
    refine ⟨?_,rfl⟩
    obtain ⟨_,_,_⟩ := client
    rw [← free]
  · rw [same,controlled]
    exact ⟨rfl,rfl⟩

theorem replied_client (client : LogindPrivate) (valid : Bool) :
    ∃ hooks, (client.handleTakeControlReply valid).1 =
      { client with hasSessionControl := valid, subscriptions := hooks } := by
  obtain ⟨hooks,same⟩ := client.takeControlReply_eq valid
  exact ⟨hooks,congrArg Prod.fst same⟩

theorem step_takeControl (state next : SessionControl) (sound : Sound state)
    (taken : step state .takeControl = some next) :
    state.client.hasSessionControl = true ∧ next = state ∨
      state.client.hasSessionControl = false ∧ next = { state with
        requests := state.requests ++ [.takeControl state.client.sessionPath false] } := by
  cases taken
  rw [takeControl_messages state.client sound.connected sound.found]
  cases control : state.client.hasSessionControl <;> simp

theorem step_releaseControl (state next : SessionControl) (sound : Sound state)
    (taken : step state .releaseControl = some next) :
    state.client.hasSessionControl = false ∧ next = state ∨
      state.client.hasSessionControl = true ∧ next = { state with
        client := { state.client with hasSessionControl := false }
        requests := state.requests ++ [.releaseControl state.client.sessionPath] } := by
  cases taken
  obtain ⟨released,sent⟩ := releaseControl_result state.client sound.connected sound.found
  rw [released,sent]
  obtain ⟨⟨_,hasSessionControl,_⟩,_⟩ := state
  cases hasSessionControl <;> simp

theorem step_handled (state next : SessionControl) (grants : Bool)
    (taken : step state (.handled grants) = some next) : ∃ request requests,
      state.requests = request::requests ∧ next = handle { state with requests } grants request := by
  unfold step at taken
  dsimp only at taken
  split at taken
  next => cases taken
  next request requests found =>
    cases taken
    exact ⟨request,requests,found,rfl⟩

theorem step_replied (state next : SessionControl) (taken : step state .replied = some next) :
    ∃ valid replies hooks, state.replies = valid::replies ∧ next = { state with
      replies
      client := { state.client with hasSessionControl := valid, subscriptions := hooks } } := by
  unfold step at taken
  dsimp only at taken
  split at taken
  next => cases taken
  next valid replies found =>
    cases taken
    obtain ⟨hooks,same⟩ := replied_client state.client valid
    rw [same]
    exact ⟨valid,replies,hooks,found,rfl⟩

theorem step_sound (state next : SessionControl) (event : Event) (sound : Sound state)
    (taken : step state event = some next) : Sound next := by
  obtain ⟨connected,found,requests⟩ := sound
  cases event with
  | takeControl =>
    rcases step_takeControl state next ⟨connected,found,requests⟩ taken with ⟨_,rfl⟩ | ⟨_,rfl⟩
    · exact ⟨connected,found,requests⟩
    · refine ⟨connected,found,?_⟩
      intro request member
      rcases List.mem_append.mp member with earlier | last
      · exact requests request earlier
      · exact .inl (List.mem_singleton.mp last ▸ rfl)
  | releaseControl =>
    rcases step_releaseControl state next ⟨connected,found,requests⟩ taken with ⟨_,rfl⟩ | ⟨_,rfl⟩
    · exact ⟨connected,found,requests⟩
    · refine ⟨connected,found,?_⟩
      intro request member
      rcases List.mem_append.mp member with earlier | last
      · exact requests request earlier
      · exact .inr ⟨_,List.mem_singleton.mp last⟩
  | handled grants =>
    obtain ⟨request,rest,first,rfl⟩ := step_handled state next grants taken
    rw [first] at requests
    have later := fun other member => requests other (List.mem_cons_of_mem request member)
    rcases requests request (List.mem_cons_self ..) with take | ⟨path,rfl⟩
    · cases request with
      | takeControl path force => exact ⟨connected,found,later⟩
      | _ => cases take
    · exact ⟨connected,found,later⟩
  | replied =>
    obtain ⟨valid,replies,hooks,_,rfl⟩ := step_replied state next taken
    exact ⟨connected,found,requests⟩

theorem aligned_empty (state : SessionControl) (none : state.requests = []) :
    Aligned state ↔ newest state.replies state.client.hasSessionControl = state.controller := by
  unfold Aligned
  rw [none]
  rfl

theorem aligned_last (state : SessionControl) (last : Message)
    (found : state.requests.getLast? = some last) :
    Aligned state ↔ isTake last = true ∨
      NoTake state.requests ∧ newest state.replies state.client.hasSessionControl = false := by
  unfold Aligned
  rw [found]

theorem last_of_cons (request : Message) (requests : List Message) :
    ∃ last, (request::requests).getLast? = some last :=
  ⟨_,List.getLast?_cons⟩

theorem aligned_release (state : SessionControl) (grants : Bool) (path : String)
    (requests : List Message) (first : state.requests = .releaseControl path::requests) :
    Aligned (handle { state with requests } grants (.releaseControl path)) ↔ Aligned state := by
  cases requests with
  | nil =>
    rw [aligned_empty _ rfl,aligned_last state (.releaseControl path) (by rw [first]; rfl),first]
    simp [handle,isTake,NoTake]
  | cons second rest =>
    obtain ⟨last,found⟩ := last_of_cons second rest
    rw [aligned_last _ last found,aligned_last state last (by rw [first,List.getLast?_cons_cons,found]),first]
    simp [handle,isTake,NoTake]

theorem aligned_take (state : SessionControl) (grants force : Bool) (path : String)
    (requests : List Message) (first : state.requests = .takeControl path force::requests)
    (aligned : Aligned state) :
    Aligned (handle { state with requests } grants (.takeControl path force)) := by
  cases requests with
  | nil =>
    rw [aligned_empty _ rfl]
    simp [handle]
  | cons second rest =>
    obtain ⟨last,found⟩ := last_of_cons second rest
    rw [aligned_last state last (by rw [first,List.getLast?_cons_cons,found]),first] at aligned
    rw [aligned_last _ last found]
    refine .inl (aligned.resolve_right ?_)
    intro both
    exact absurd (both.1 _ (List.mem_cons_self ..)) Bool.noConfusion

/-- A request to take control that is granted before a release settles the matter. -/
theorem unaligned_take (state : SessionControl) (force : Bool) (path : String)
    (requests : List Message) (first : state.requests = .takeControl path force::requests)
    (unaligned : ¬Aligned state) :
    ¬Aligned (handle { state with requests } true (.takeControl path force)) := by
  cases requests with
  | nil =>
    rw [aligned_last state (.takeControl path force) (by rw [first]; rfl)] at unaligned
    exact absurd (.inl rfl) unaligned
  | cons second rest =>
    obtain ⟨last,found⟩ := last_of_cons second rest
    rw [aligned_last state last (by rw [first,List.getLast?_cons_cons,found])] at unaligned
    rw [aligned_last _ last found]
    rintro (take | both)
    · exact unaligned (.inl take)
    · simp [handle] at both

theorem aligned_replied (state : SessionControl) (valid : Bool) (replies : List Bool)
    (hooks : List Subscription) (first : state.replies = valid::replies) :
    Aligned { state with
      replies
      client := { state.client with hasSessionControl := valid, subscriptions := hooks } } ↔
        Aligned state := by
  unfold Aligned
  rw [first,newest_cons]

theorem step_aligned (state next : SessionControl) (event : Event) (sound : Sound state)
    (delivery : isDelivery event = true) (aligned : Aligned state)
    (taken : step state event = some next) : Aligned next := by
  cases event with
  | takeControl => cases delivery
  | releaseControl => cases delivery
  | handled grants =>
    obtain ⟨request,requests,first,rfl⟩ := step_handled state next grants taken
    rcases sound.requests request (by rw [first]; exact List.mem_cons_self ..) with take | ⟨path,rfl⟩
    · cases request with
      | takeControl path force => exact aligned_take state grants force path requests first aligned
      | _ => cases take
    · exact (aligned_release state grants path requests first).mpr aligned
  | replied =>
    obtain ⟨valid,replies,hooks,first,rfl⟩ := step_replied state next taken
    exact (aligned_replied state valid replies hooks first).mpr aligned

theorem settles_of_aligned (state : SessionControl) (sound : Sound state) (aligned : Aligned state) :
    Settles state := by
  intro deliveries final only ran quiet
  induction deliveries generalizing state with
  | nil =>
    cases ran
    have settled := (aligned_empty final quiet.1).mp aligned
    rw [quiet.2] at settled
    exact settled
  | cons event deliveries ih =>
    obtain ⟨next,taken,rest⟩ := run_cons_some step state final event deliveries ran
    have delivery := only event (List.mem_cons_self ..)
    exact ih next (step_sound state next event sound taken)
      (step_aligned state next event sound delivery aligned taken)
      (fun other member => only other (List.mem_cons_of_mem event member)) rest

/-- How much is still to be dealt with: a request may leave an answer behind. -/
def load (state : SessionControl) : Nat := 2 * state.requests.length + state.replies.length

/-- If all requests are granted, what does not agree still does not agree later. -/
theorem unaligned_delivery (state : SessionControl) (sound : Sound state) (unaligned : ¬Aligned state)
    (unquiet : ¬state.Quiet) : ∃ event next, isDelivery event = true ∧ step state event = some next ∧
      ¬Aligned next ∧ next.load < state.load := by
  cases requests : state.requests with
  | cons request rest =>
    have taken : step state (.handled true) = some (handle { state with requests := rest } true request) := by
      simp [step,requests]
    refine ⟨.handled true,_,rfl,taken,?_⟩
    rcases sound.requests request (by rw [requests]; exact List.mem_cons_self ..) with take | ⟨path,rfl⟩
    · cases request with
      | takeControl path force =>
        refine ⟨unaligned_take state force path rest requests unaligned,?_⟩
        simp [load,handle,requests]
        omega
      | _ => cases take
    · refine ⟨fun aligned => unaligned ((aligned_release state true path rest requests).mp aligned),?_⟩
      simp [load,handle,requests]
  | nil =>
    cases replies : state.replies with
    | nil => exact absurd ⟨requests,replies⟩ unquiet
    | cons valid rest =>
      obtain ⟨hooks,same⟩ := replied_client state.client valid
      have taken : step state .replied = some { state with
          replies := rest
          client := { state.client with hasSessionControl := valid, subscriptions := hooks } } := by
        simp [step,replies,same]
      refine ⟨.replied,_,rfl,taken,?_,?_⟩
      · exact fun aligned => unaligned ((aligned_replied state valid rest hooks replies).mp aligned)
      · simp [load,replies]

theorem aligned_of_settles (state : SessionControl) (sound : Sound state) (settles : Settles state) :
    Aligned state := by
  by_contra unaligned
  by_cases quiet : state.Quiet
  · have agreed := settles [] state (fun _ member => absurd member List.not_mem_nil) rfl quiet
    rw [aligned_empty state quiet.1,quiet.2] at unaligned
    exact unaligned agreed
  · obtain ⟨event,next,delivery,taken,later,less⟩ := unaligned_delivery state sound unaligned quiet
    refine absurd (aligned_of_settles next (step_sound state next event sound taken) ?_) later
    intro deliveries final only ran
    apply settles (event::deliveries) final (List.forall_mem_cons.mpr ⟨delivery,only⟩)
    rw [run_cons,taken]
    exact ran
termination_by state.load

theorem settles_iff (state : SessionControl) (sound : Sound state) : Settles state ↔ Aligned state :=
  ⟨aligned_of_settles state sound,settles_of_aligned state sound⟩

theorem requested_aligned (state : SessionControl) (path : String) :
    Aligned { state with requests := state.requests ++ [.takeControl path false] } := by
  rw [aligned_last _ _ (List.getLast?_concat ..)]
  exact .inl rfl

theorem released_aligned_iff (state : SessionControl) (path : String) : Aligned { state with
    client := { state.client with hasSessionControl := false }
    requests := state.requests ++ [.releaseControl path] } ↔
      NoTake state.requests ∧ state.replies.getLast? ≠ some true := by
  rw [aligned_last _ _ (List.getLast?_concat ..)]
  have clear : newest state.replies false = false ↔ state.replies.getLast? ≠ some true :=
    not_ne_iff.symm.trans (newest_ne_iff state.replies false).not
  have takes : NoTake (state.requests ++ [.releaseControl path]) ↔ NoTake state.requests := by
    unfold NoTake
    rw [List.forall_mem_append]
    exact and_iff_left fun request member => List.mem_singleton.mp member ▸ rfl
  dsimp only
  rw [clear,takes]
  exact or_iff_right Bool.noConfusion

theorem allowed_iff (state next : SessionControl) (event : Event) (sound : Sound state)
    (settles : Settles state) (taken : step state event = some next) :
    Allowed state event ↔ Settles next := by
  rw [settles_iff next (step_sound state next event sound taken)]
  have aligned := aligned_of_settles state sound settles
  cases event with
  | takeControl =>
    apply iff_of_true trivial
    rcases step_takeControl state next sound taken with ⟨_,rfl⟩ | ⟨_,rfl⟩
    · exact aligned
    · exact requested_aligned state state.client.sessionPath
  | releaseControl =>
    rcases step_releaseControl state next sound taken with ⟨free,rfl⟩ | ⟨control,rfl⟩
    · exact iff_of_true (fun control => absurd control (by simp [free])) aligned
    · rw [released_aligned_iff]
      exact ⟨fun allowed => allowed control,fun allowed _ => allowed⟩
  | handled grants => exact iff_of_true trivial (step_aligned state next _ sound rfl aligned taken)
  | replied => exact iff_of_true trivial (step_aligned state next _ sound rfl aligned taken)

/-- While the client is connected, the flag and logind agree whenever things come to rest,
exactly when control is not released before the answers to all requests for it. -/
theorem settles_along_iff (client : LogindPrivate) (connected : client.isConnected = true)
    (found : client.sessionPath ≠ "") (events : List Event) :
    Along step Settles (start client) events ↔ Steps step Allowed (start client) events := by
  have sound : Sound (start client) := ⟨connected,found,fun _ member => absurd member List.not_mem_nil⟩
  apply along_iff_steps step (fun state _ => Sound state) Settles Allowed
  · exact fun state event _ next sound taken => step_sound state next event sound taken
  · exact fun state event _ next sound settles taken => allowed_iff state next event sound settles taken
  · exact sound
  · exact settles_of_aligned _ sound ((aligned_empty _ rfl).mpr rfl)

def connectedClient : LogindPrivate where
  isConnected := true
  sessionPath := "/org/freedesktop/login1/session/_32"

theorem taken_once_settles : Along step Settles (start connectedClient)
    [.takeControl,.handled true,.replied,.releaseControl] := by
  apply (settles_along_iff connectedClient rfl (by decide) _).mpr
  refine (steps_cons _ _ _ _ _ _ rfl).mpr ⟨trivial,?_⟩
  refine (steps_cons _ _ _ _ _ _ rfl).mpr ⟨trivial,?_⟩
  refine (steps_cons _ _ _ _ _ _ rfl).mpr ⟨trivial,?_⟩
  exact (steps_cons _ _ _ _ _ _ rfl).mpr ⟨fun _ => ⟨by unfold NoTake; decide,by decide⟩,trivial⟩

/-- Two requests to take control, and a release between their answers. -/
theorem second_answer_late : ¬ ∀ (client : LogindPrivate) (events : List Event),
    client.isConnected = true → client.sessionPath ≠ "" →
      Along step (fun state => state.Quiet →
        state.client.hasSessionControl = state.controller) (start client) events := by
  intro all
  have along := all connectedClient [.takeControl,.takeControl,.handled true,.handled true,.replied,
    .releaseControl,.replied,.handled true] rfl (by decide)
  have final := (along_iff_front step _ _ _).mp along _ [] _ (List.append_nil _).symm rfl
  exact absurd (final ⟨rfl,rfl⟩) (by decide)

end SessionControl

end LiriSession
