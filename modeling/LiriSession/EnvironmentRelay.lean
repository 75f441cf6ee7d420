import LiriSession.Library.Posting
import LiriSession.Library.Run
import LiriSession.Locale

/-! The environment as the programs of the desktop see it. Each of them sets a variable in
its own process and asks the session manager to do the same; the calls of several programs
meet there, and some are not delivered. -/
namespace LiriSession
open Library

/-- The call by which a program asks for a change; `QmlSessionManager` only sets. -/
def requestMessage (call : Session.EnvironmentCall) : QDBusMessage where
  service := "io.liri.SessionManager"
  path := "/io/liri/SessionManager"
  interface := "io.liri.SessionManager"
  member := match call with
    | .set .. => "SetEnvironment"
    | .unset .. => "UnsetEnvironment"
  arguments := match call with
    | .set key value => [.string key,.string value]
    | .unset key => [.string key]

/-- The processes of the programs, the calls they post, and what the session manager keeps. -/
structure EnvironmentRelay (Client : Type) where
  own : Client → ProcessEnvironment
  session : Session.Environments
  posting : Posting Client Session.EnvironmentCall := {}

namespace EnvironmentRelay
open Session
variable {Client : Type} [DecidableEq Client]

inductive Event (Client : Type)
  | setEnvironment (client : Client) (key value : String)
  | delivered (client : Client)
  | failed (client : Client)
  | other (call : EnvironmentCall)

/-- A failed call is only logged: the program has set the variable for itself by then. -/
def step (relay : EnvironmentRelay Client) : Event Client → Option (EnvironmentRelay Client)
  | .setEnvironment client key value => some { relay with
      own := Function.update relay.own client ((relay.own client).qputenv key value)
      posting := relay.posting.post client (.set key value) }
  | .delivered client =>
    match relay.posting.underWay client with
    | [] => none
    | call::rest => some { relay with
        session := deliverMessage relay.session (requestMessage call)
        posting := relay.posting.deal client call rest true }
  | .failed client =>
    match relay.posting.underWay client with
    | [] => none
    | call::rest => some { relay with posting := relay.posting.deal client call rest false }
  | .other call => some { relay with
      session := deliverMessage relay.session (requestMessage call)
      posting := relay.posting.receive call }

/-- The variable that a call is about and what becomes of it, if `setenv` takes the name. -/
def written (call : EnvironmentCall) : Option (String × Option String) :=
  if validName (cString call.key) then
    some (cString call.key,match call with
      | .set _ value => some (cString value)
      | .unset _ => none)
  else none

def applied (process : ProcessEnvironment) : EnvironmentCall → ProcessEnvironment
  | .set key value => process.qputenv key value
  | .unset key => process.qunsetenv key

theorem deliver_request (environments : Environments) (call : EnvironmentCall) :
    deliverMessage environments (requestMessage call) = environmentStep environments call := by
  have found : sessionConnection.receiver (requestMessage call) = some sessionManagerObject := by
    cases call <;> simp [QDBusConnection.receiver,sessionConnection,requestMessage,ExportedObject.answers,
      launcherObject,sessionManagerObject]
  rw [deliverMessage,found]
  cases call <;> rfl

theorem step_applied (environments : Environments) (call : EnvironmentCall) :
    (environmentStep environments call).process = applied environments.process call := by
  cases call with
  | set key value => exact set_process environments key value
  | unset key =>
    rw [environmentStep,unset_eq]
    rfl

theorem foldl_applied (calls : List EnvironmentCall) (environments : Environments) :
    (calls.foldl environmentStep environments).process = calls.foldl applied environments.process := by
  induction calls generalizing environments with
  | nil => rfl
  | cons first calls ih => rw [List.foldl_cons,List.foldl_cons,ih,step_applied]

theorem applied_find? (process : ProcessEnvironment) (call : EnvironmentCall) (key : String) :
    (applied process call).environ.find? key =
      (latest (written call).toList key).getD (process.environ.find? key) := by
  cases call with
  | set name value =>
    by_cases valid : validName (cString name) = true
    · simp only [applied,ProcessEnvironment.qputenv,valid,dif_pos,OrderedMap.find?_insert,written,
        EnvironmentCall.key,if_true,Option.toList_some,latest_singleton]
      split <;> rfl
    · simp [applied,ProcessEnvironment.qputenv,valid,written,EnvironmentCall.key,latest]
  | unset name =>
    by_cases valid : validName (cString name) = true
    · simp only [applied,ProcessEnvironment.qunsetenv,valid,OrderedMap.find?_erase,written,
        EnvironmentCall.key,if_true,Option.toList_some,latest_singleton]
      split <;> rfl
    · simp [applied,ProcessEnvironment.qunsetenv,valid,written,EnvironmentCall.key,latest]

theorem foldl_applied_find? (calls : List EnvironmentCall) (process : ProcessEnvironment) (key : String) :
    (calls.foldl applied process).environ.find? key =
      (latest (calls.filterMap written) key).getD (process.environ.find? key) := by
  have found := find_foldl applied written (fun process key => some (process.environ.find? key))
    (fun process call key => by
      rw [applied_find?]
      cases latest (written call).toList key <;> rfl) calls process key
  cases last : latest (calls.filterMap written) key with
  | none => simpa [last] using found
  | some value => simpa [last] using found

/-- The copies have what the process has. -/
def Copied (environments : Environments) : Prop :=
  ∀ key value, Accepted key → ¬Excluded key → environments.process.environ.find? key = some value →
    environments.activation.find? key = some value ∧
      (environments.m_systemdEnabled = true → environments.systemd.find? key = some value)

theorem upload_copied (environments : Environments) : Copied (uploadEnvironment environments) := by
  intro key value accepted allowed present
  rw [upload_process] at present
  have sent : uploaded environments.process key = some value := by
    rw [uploaded,if_neg allowed,present]
  rw [upload_activation,upload_systemd,upload_enabled,sent]
  refine ⟨rfl,fun enabled => ?_⟩
  rw [if_pos enabled]
  rfl

theorem step_copied (environments : Environments) (call : EnvironmentCall) (copied : Copied environments) :
    Copied (environmentStep environments call) := by
  cases call with
  | set key value => exact upload_copied _
  | unset name =>
    intro key value accepted allowed present
    have written_eq := step_applied environments (.unset name)
    rw [written_eq,applied_find?] at present
    have apart : key ≠ name := by
      intro same
      subst same
      simp [written,EnvironmentCall.key,accepted.1,accepted.2,latest_singleton] at present
    have before : environments.process.environ.find? key = some value := by
      cases last : latest (written (.unset name)).toList key with
      | none => simpa [last] using present
      | some found =>
        rw [last,Option.getD_some] at present
        subst present
        have member := latest_mem _ _ _ last
        simp [written] at member
    obtain ⟨activation,systemd⟩ := copied key value accepted allowed before
    rw [environmentStep,unset_eq]
    refine ⟨activation,fun enabled => ?_⟩
    change environments.m_systemdEnabled = true at enabled
    simp only [enabled,if_true,OrderedMap.find?_eraseAll,List.mem_singleton,apart,if_false]
    exact systemd enabled

/-- The session manager is where the calls that it took, one after another, have brought it;
each program's calls are among them in its own order. Where the last call about a variable
to be dealt with is a program's own, and it was taken and no later one is under way, the
program, the session and both copies agree, if `setenv` takes the key and the upload does
not leave it out. -/
structure Relays (start relay : EnvironmentRelay Client) : Prop where
  ordered : relay.posting.Ordered
  own : ∀ client, relay.own client = (relay.posting.posted client).foldl applied (start.own client)
  session : relay.session = relay.posting.received.foldl environmentStep start.session
  agrees : ∀ client key before call after, Accepted key → ¬Excluded key → cString call.key = key →
    relay.posting.dealt = before ++ ⟨some client,call,true⟩::after →
    (∀ one ∈ after, cString one.call.key ≠ key) →
    (∀ other ∈ relay.posting.underWay client, cString other.key ≠ key) →
    ∃ value, (relay.own client).environ.find? key = some value ∧
      relay.session.process.environ.find? key = some value ∧
      relay.session.activation.find? key = some value ∧
      (relay.session.m_systemdEnabled = true → relay.session.systemd.find? key = some value)

/-- What every state has, said of the lists of calls. -/
structure Sound (start relay : EnvironmentRelay Client) : Prop where
  ordered : relay.posting.Ordered
  own : ∀ client, relay.own client = (relay.posting.posted client).foldl applied (start.own client)
  session : relay.session = relay.posting.received.foldl environmentStep start.session
  sets : ∀ client, ∀ call ∈ relay.posting.posted client, ∃ key value, call = .set key value
  copied : Copied relay.session

/-- What one event can do. -/
inductive Moves (relay : EnvironmentRelay Client) : EnvironmentRelay Client → Prop
  | posted (client : Client) (key value : String) : Moves relay { relay with
      own := Function.update relay.own client ((relay.own client).qputenv key value)
      posting := relay.posting.post client (.set key value) }
  | dealt (client : Client) (call : EnvironmentCall) (rest : List EnvironmentCall) (taken : Bool)
      (first : relay.posting.underWay client = call::rest) : Moves relay { relay with
        session := if taken then environmentStep relay.session call else relay.session
        posting := relay.posting.deal client call rest taken }
  | received (call : EnvironmentCall) : Moves relay { relay with
      session := environmentStep relay.session call
      posting := relay.posting.receive call }

theorem moves_of_step (relay next : EnvironmentRelay Client) (event : Event Client)
    (taken : step relay event = some next) : Moves relay next := by
  cases event with
  | setEnvironment client key value =>
    cases taken
    exact .posted client key value
  | delivered client =>
    unfold step at taken
    cases under : relay.posting.underWay client with
    | nil => simp [under] at taken
    | cons call rest =>
      simp only [under,Option.some.injEq,deliver_request] at taken
      subst taken
      exact .dealt client call rest true under
  | failed client =>
    unfold step at taken
    cases under : relay.posting.underWay client with
    | nil => simp [under] at taken
    | cons call rest =>
      simp only [under,Option.some.injEq] at taken
      subst taken
      exact .dealt client call rest false under
  | other call =>
    unfold step at taken
    simp only [Option.some.injEq,deliver_request] at taken
    subst taken
    exact .received call

theorem sound_moves (start relay next : EnvironmentRelay Client) (sound : Sound start relay)
    (moves : Moves relay next) : Sound start next := by
  obtain ⟨ordered,own,session,sets,copied⟩ := sound
  cases moves with
  | posted client key value =>
    refine ⟨ordered.post client _,?_,session,?_,copied⟩
    · intro other
      by_cases same : other = client
      · subst same
        simp only [Posting.post,Function.update_self,List.foldl_concat,← own other]
        rfl
      · simpa only [Posting.post,Function.update_of_ne same] using own other
    · intro other call member
      by_cases same : other = client
      · subst same
        simp only [Posting.post,Function.update_self,List.mem_append,List.mem_singleton] at member
        rcases member with before | new
        · exact sets other call before
        · exact ⟨key,value,new⟩
      · simp only [Posting.post,Function.update_of_ne same] at member
        exact sets other call member
  | dealt client call rest taken first =>
    refine ⟨ordered.deal client call rest first taken,own,?_,sets,?_⟩
    · cases taken <;> simp [Posting.received,Posting.deal,Dealt.arrived,session]
    · cases taken with
      | true => exact step_copied relay.session call copied
      | false => exact copied
  | received call =>
    refine ⟨ordered.receive call,own,?_,sets,step_copied relay.session call copied⟩
    simp [Posting.received,Posting.receive,Dealt.arrived,session]

theorem Sound.relays {start relay : EnvironmentRelay Client} (sound : Sound start relay) :
    Relays start relay := by
  refine ⟨sound.ordered,sound.own,sound.session,?_⟩
  intro client key before call after accepted allowed about split others quiet
  have other_key : ∀ other : EnvironmentCall, cString other.key ≠ key →
      ∀ value, written other ≠ some (key,value) := by
    intro other apart value same
    obtain ⟨_,entry⟩ := Option.ite_none_right_eq_some.mp same
    exact apart (Prod.mk.inj (Option.some.inj entry)).1
  have mine : call ∈ relay.posting.posted client := by
    rw [sound.ordered client]
    apply List.mem_append_left
    rw [Posting.answered,split]
    simp [Dealt.byParty]
  obtain ⟨name,text,rfl⟩ := sound.sets client call mine
  change cString name = key at about
  have asked : written (.set name text) = some (key,some (cString text)) := by
    simp [written,EnvironmentCall.key,about,accepted.1]
  obtain ⟨posted,received⟩ := sound.ordered.latest_eq written client key before after _ split
    (fun one member => other_key one.call (others one member))
    (fun other member => other_key other (quiet other member)) _ asked
  have session : relay.session.process.environ.find? key = some (cString text) := by
    rw [sound.session,foldl_applied,foldl_applied_find?,received]
    rfl
  refine ⟨cString text,?_,session,sound.copied key _ accepted allowed session⟩
  rw [sound.own,foldl_applied_find?,posted]
  rfl

/-- In every run, in which calls of several programs meet and some of them are lost: the
session manager is where the calls that it took have brought it, and a program that was the
last to set a variable and got through agrees with it. -/
theorem agreed_along (own : Client → ProcessEnvironment) (initial : Environments)
    (events : List (Event Client)) :
    let start : EnvironmentRelay Client := { own, session := uploadEnvironment initial }
    Along step (Relays start) start events := by
  intro start
  have sound : Sound start start :=
    { ordered := Posting.ordered_start
      own := fun _ => rfl
      session := rfl
      sets := fun _ _ member => nomatch member
      copied := upload_copied initial }
  exact along_of_steps step (fun relay _ => Sound start relay) (Relays start) (fun _ _ => True)
    (fun relay event _ next sound _ taken => sound_moves start relay next sound
      (moves_of_step relay next event taken))
    (fun _ _ sound => sound.relays) start events sound (steps_of_all step _ start events fun _ _ _ => trivial)

end EnvironmentRelay

end LiriSession
