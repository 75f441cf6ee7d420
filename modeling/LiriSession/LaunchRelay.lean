import LiriSession.EnvironmentRelay
import LiriSession.ProcessLauncher
import Mathlib.Data.List.Nodup

/-! Programs that set variables and launch others. Both kinds of calls go to the session
manager over one connection, and what it starts gets its environment from one of the
copies as they are then. -/
namespace LiriSession
open Library ProcessLauncher

/-- A call of `QmlLauncher`. -/
inductive LaunchCall
  | application (appId : String)
  | desktopFile (fileName : String)
  | command (command : String)

def launcherMessage (call : LaunchCall) : QDBusMessage where
  service := "io.liri.Launcher"
  path := "/io/liri/Launcher"
  interface := "io.liri.Launcher"
  member := match call with
    | .application _ => "LaunchApplication"
    | .desktopFile _ => "LaunchDesktopFile"
    | .command _ => "LaunchCommand"
  arguments := match call with
    | .application appId => [.string appId]
    | .desktopFile fileName => [.string fileName]
    | .command command => [.string command]

namespace ProcessLauncher

/-- A call that reaches an object of the session manager; the list of URLs may be left out. -/
def handle (system : System) (systemdEnabled : Bool) (message : QDBusMessage) (object : ExportedObject) :
    Launched :=
  if object.path = launcherObject.path then
    match message.member, message.arguments with
    | "LaunchApplication", [.string appId] => LaunchApplication system systemdEnabled appId
    | "LaunchDesktopFile", [.string path] => LaunchDesktopFile system systemdEnabled path []
    | "LaunchCommand", [.string command] => LaunchCommand system systemdEnabled command
    | _, _ => rejected
  else rejected

def deliver (system : System) (systemdEnabled : Bool) (message : QDBusMessage) : Launched :=
  match sessionConnection.receiver message with
  | none => rejected
  | some object => handle system systemdEnabled message object

/-- What the method for a call does. -/
def launch (system : System) (systemdEnabled : Bool) : LaunchCall → Launched
  | .application appId => LaunchApplication system systemdEnabled appId
  | .desktopFile fileName => LaunchDesktopFile system systemdEnabled fileName []
  | .command command => LaunchCommand system systemdEnabled command

theorem deliver_launcherMessage (system : System) (systemdEnabled : Bool) (call : LaunchCall) :
    deliver system systemdEnabled (launcherMessage call) = launch system systemdEnabled call := by
  have found : sessionConnection.receiver (launcherMessage call) = some launcherObject := by
    cases call <;> simp [QDBusConnection.receiver,sessionConnection,launcherMessage,
      ExportedObject.answers,launcherObject]
  rw [deliver,found]
  cases call <;> rfl

end ProcessLauncher

/-- A launch that has reached the session manager: how many calls had been dealt with by
then, whose it is, and what files and processes were like. -/
structure ArrivedLaunch (Client : Type) where
  place : Nat
  party : Option Client
  call : LaunchCall
  system : System

/-- A process that a launch has started, with the environments at that time. -/
structure StartedProcess (Client : Type) extends ArrivedLaunch Client where
  launched : Launched
  environments : Session.Environments

/-- The process that the method for a launch is to start in these environments, if it does. -/
def ArrivedLaunch.process {Client : Type} (environments : Session.Environments)
    (one : ArrivedLaunch Client) : Option (StartedProcess Client) :=
  let launched := launch one.system environments.m_systemdEnabled one.call
  if launched.result then some { one with launched, environments } else none

theorem ArrivedLaunch.process_some {Client : Type} {environments : Session.Environments}
    {one : ArrivedLaunch Client} {process : StartedProcess Client}
    (starts : one.process environments = some process) :
    process.toArrivedLaunch = one ∧ process.environments = environments := by
  obtain ⟨_,same⟩ := Option.ite_none_right_eq_some.mp starts
  cases same
  exact ⟨rfl,rfl⟩

inductive RelayCall
  | environment (call : Session.EnvironmentCall)
  | launch (call : LaunchCall)

def RelayCall.change : RelayCall → Option Session.EnvironmentCall
  | .environment call => some call
  | .launch _ => none

/-- The processes of the programs, the calls they post, what the session manager keeps, the
launches that have reached it and the processes that it has started. -/
structure LaunchRelay (Client : Type) where
  own : Client → ProcessEnvironment
  session : Session.Environments
  posting : Posting Client RelayCall := {}
  arrived : List (ArrivedLaunch Client) := []
  started : List (StartedProcess Client) := []

namespace LaunchRelay
open Session EnvironmentRelay
variable {Client : Type}

inductive Event (Client : Type)
  | setEnvironment (client : Client) (key value : String)
  | launch (client : Client) (call : LaunchCall)
  | delivered (client : Client) (system : System)
  | failed (client : Client)
  | other (call : RelayCall) (system : System)

/-- A launch leaves the environments as they are. -/
def serve (relay : LaunchRelay Client) (party : Option Client) (system : System) :
    RelayCall → LaunchRelay Client
  | .environment call => { relay with session := deliverMessage relay.session (requestMessage call) }
  | .launch call =>
    let arrival : ArrivedLaunch Client := ⟨relay.posting.dealt.length,party,call,system⟩
    let launched := deliver system relay.session.m_systemdEnabled (launcherMessage call)
    { relay with
      arrived := relay.arrived ++ [arrival]
      started := if launched.result
        then relay.started ++ [{ arrival with launched, environments := relay.session }]
        else relay.started }

/-- The changes among the calls that have arrived. -/
def changes (dealt : List (Dealt Client RelayCall)) : List EnvironmentCall :=
  (dealt.filterMap Dealt.arrived).filterMap RelayCall.change

/-- The environments that the first calls have left. -/
def environmentsAt (start : LaunchRelay Client) (dealt : List (Dealt Client RelayCall)) (place : Nat) :
    Environments :=
  (changes (dealt.take place)).foldl environmentStep start.session

/-- Later calls do not bear on them. -/
theorem environmentsAt_append (start : LaunchRelay Client) (dealt more : List (Dealt Client RelayCall))
    (place : Nat) (within : place ≤ dealt.length) :
    environmentsAt start (dealt ++ more) place = environmentsAt start dealt place := by
  rw [environmentsAt,List.take_append_of_le_length within]
  rfl

theorem getElem?_concat_some {α : Type} (list : List α) (last found : α) (place : Nat) :
    (list ++ [last])[place]? = some found ↔ list[place]? = some found ∨ place = list.length ∧ found = last := by
  by_cases within : place < list.length
  · rw [List.getElem?_append_left within]
    exact ⟨.inl,fun either => either.resolve_right fun beyond => within.ne beyond.1⟩
  · have beyond := Nat.le_of_not_lt within
    rw [List.getElem?_append_right beyond,List.getElem?_eq_none beyond,List.getElem?_singleton]
    by_cases here : place = list.length
    · simp [here,eq_comm]
    · have apart : place - list.length ≠ 0 := by omega
      simp [here,apart]

theorem changes_append (first second : List (Dealt Client RelayCall)) :
    changes (first ++ second) = changes first ++ changes second := by
  simp [changes]

/-- The launch that a call is, as it arrives. -/
def arrival (place : Nat) (party : Option Client) (system : System) : RelayCall → List (ArrivedLaunch Client)
  | .environment _ => []
  | .launch call => [⟨place,party,call,system⟩]

/-- What serving a call does to the session, the launches and the processes. -/
structure Serves (relay next : LaunchRelay Client) (party : Option Client) (system : System)
    (call : RelayCall) : Prop where
  own : next.own = relay.own
  session : next.session = (call.change.toList).foldl environmentStep relay.session
  arrived : next.arrived = relay.arrived ++ arrival relay.posting.dealt.length party system call
  started : next.started = relay.started ++
    (arrival relay.posting.dealt.length party system call).filterMap (·.process relay.session)

theorem serve_serves (relay : LaunchRelay Client) (party : Option Client) (system : System)
    (call : RelayCall) : Serves relay (relay.serve party system call) party system call := by
  cases call with
  | environment call =>
    refine ⟨rfl,?_,(List.append_nil _).symm,(List.append_nil _).symm⟩
    rw [serve,deliver_request]
    rfl
  | launch call =>
    refine ⟨rfl,rfl,rfl,?_⟩
    simp only [serve,deliver_launcherMessage,arrival,ArrivedLaunch.process,List.filterMap_cons,
      List.filterMap_nil]
    split
    next => rfl
    next => exact (List.append_nil _).symm

variable [DecidableEq Client]

def step (relay : LaunchRelay Client) : Event Client → Option (LaunchRelay Client)
  | .setEnvironment client key value => some { relay with
      own := Function.update relay.own client ((relay.own client).qputenv key value)
      posting := relay.posting.post client (.environment (.set key value)) }
  | .launch client call => some { relay with posting := relay.posting.post client (.launch call) }
  | .delivered client system =>
    match relay.posting.underWay client with
    | [] => none
    | call::rest => some { relay.serve (some client) system call with
        posting := relay.posting.deal client call rest true }
  | .failed client =>
    match relay.posting.underWay client with
    | [] => none
    | call::rest => some { relay with posting := relay.posting.deal client call rest false }
  | .other call system => some { relay.serve none system call with posting := relay.posting.receive call }

/-- The launches that have arrived are those dealt with, each once, and the processes those
that the method for each starts on the files as they were and with the environments that
the calls before it had left. Where the last call about a variable to be dealt with before
was by the program that asked for the process, and got through, the variable is everywhere
as that program had it when it asked; `setenv` has to take the name, and the upload not to
leave it out. -/
structure Inherits (start relay : LaunchRelay Client) : Prop where
  ordered : relay.posting.Ordered
  own : ∀ client, relay.own client =
    ((relay.posting.posted client).filterMap RelayCall.change).foldl applied (start.own client)
  session : relay.session = (changes relay.posting.dealt).foldl environmentStep start.session
  arrived : ∀ place party call, relay.posting.dealt[place]? = some ⟨party,.launch call,true⟩ ↔
    ∃ one ∈ relay.arrived, one.place = place ∧ one.party = party ∧ one.call = call
  once : (relay.arrived.map (·.place)).Nodup
  started : relay.started = relay.arrived.filterMap fun one =>
    one.process (environmentsAt start relay.posting.dealt one.place)
  sees : ∀ one ∈ relay.started, ∀ client, one.party = some client → ∃ earlier later,
    relay.posting.posted client = earlier ++ .launch one.call::later ∧
    ∀ key before call between, Accepted key → ¬Excluded key → cString call.key = key →
      relay.posting.dealt.take one.place = before ++ ⟨some client,.environment call,true⟩::between →
      (∀ other ∈ between, ∀ change, other.call.change = some change → cString change.key ≠ key) →
      ∃ value, ((earlier.filterMap RelayCall.change).foldl applied
          (start.own client)).environ.find? key = some value ∧
        one.environments.process.environ.find? key = some value ∧
        one.environments.activation.find? key = some value ∧
        (one.environments.m_systemdEnabled = true → one.environments.systemd.find? key = some value)

/-- What every state has, said of the lists of calls. -/
structure Sound (start relay : LaunchRelay Client) : Prop where
  ordered : relay.posting.Ordered
  own : ∀ client, relay.own client =
    ((relay.posting.posted client).filterMap RelayCall.change).foldl applied (start.own client)
  session : relay.session = (changes relay.posting.dealt).foldl environmentStep start.session
  sets : ∀ client call, .environment call ∈ relay.posting.posted client → ∃ key value, call = .set key value
  arrived : ∀ place party call, relay.posting.dealt[place]? = some ⟨party,.launch call,true⟩ ↔
    ∃ one ∈ relay.arrived, one.place = place ∧ one.party = party ∧ one.call = call
  once : (relay.arrived.map (·.place)).Nodup
  started : relay.started = relay.arrived.filterMap fun one =>
    one.process (environmentsAt start relay.posting.dealt one.place)

theorem Sound.dealt_at {start relay : LaunchRelay Client} (sound : Sound start relay)
    (one : ArrivedLaunch Client) (member : one ∈ relay.arrived) :
    relay.posting.dealt[one.place]? = some ⟨one.party,.launch one.call,true⟩ :=
  (sound.arrived _ _ _).mpr ⟨one,member,rfl,rfl,rfl⟩

theorem Sound.place_lt {start relay : LaunchRelay Client} (sound : Sound start relay)
    (one : ArrivedLaunch Client) (member : one ∈ relay.arrived) : one.place < relay.posting.dealt.length :=
  (List.getElem?_eq_some_iff.mp (sound.dealt_at one member)).1

/-- What has been started is as it was when one more call has been dealt with. -/
theorem Sound.started_append {start relay : LaunchRelay Client} (sound : Sound start relay)
    (more : List (Dealt Client RelayCall)) : relay.started = relay.arrived.filterMap fun one =>
      one.process (environmentsAt start (relay.posting.dealt ++ more) one.place) := by
  rw [sound.started]
  apply List.filterMap_congr
  intro one member
  rw [environmentsAt_append start _ more one.place (sound.place_lt one member).le]

/-- The launches that have arrived, after a call that is not taken. -/
theorem Sound.arrived_failed {start relay : LaunchRelay Client} (sound : Sound start relay)
    (party : Option Client) (call : RelayCall) (place : Nat) (whose : Option Client) (launch : LaunchCall) :
    (relay.posting.dealt ++ [⟨party,call,false⟩])[place]? = some ⟨whose,.launch launch,true⟩ ↔
      ∃ one ∈ relay.arrived, one.place = place ∧ one.party = whose ∧ one.call = launch := by
  rw [getElem?_concat_some,sound.arrived]
  simp

/-- The launches that have arrived, after a call that has arrived. -/
theorem Sound.arrived_append {start relay : LaunchRelay Client} (sound : Sound start relay)
    (party : Option Client) (system : System) (call : RelayCall) (place : Nat) (whose : Option Client)
    (launch : LaunchCall) :
    (relay.posting.dealt ++ [⟨party,call,true⟩])[place]? = some ⟨whose,.launch launch,true⟩ ↔
      ∃ one ∈ relay.arrived ++ arrival relay.posting.dealt.length party system call,
        one.place = place ∧ one.party = whose ∧ one.call = launch := by
  rw [getElem?_concat_some,sound.arrived]
  simp only [List.mem_append,or_and_right,exists_or]
  refine or_congr_right ?_
  cases call with
  | environment call => simp [arrival]
  | launch call =>
    simp only [arrival,List.mem_singleton,exists_eq_left,Dealt.mk.injEq,RelayCall.launch.injEq,and_true]
    constructor
    · rintro ⟨rfl,rfl,rfl⟩
      exact ⟨rfl,rfl,rfl⟩
    · rintro ⟨rfl,rfl,rfl⟩
      exact ⟨rfl,rfl,rfl⟩

theorem Sound.dealt {start relay : LaunchRelay Client} (sound : Sound start relay) (next : LaunchRelay Client)
    (party : Option Client) (system : System) (call : RelayCall)
    (serves : Serves relay next party system call) (posting : Posting Client RelayCall)
    (ordered : posting.Ordered) (posted : posting.posted = relay.posting.posted)
    (dealt : posting.dealt = relay.posting.dealt ++ [⟨party,call,true⟩]) :
    Sound start { next with posting } := by
  refine ⟨ordered,?_,?_,?_,?_,?_,?_⟩
  · intro client
    change next.own client = _
    rw [serves.own,posted]
    exact sound.own client
  · change next.session = _
    rw [serves.session,dealt,changes_append,List.foldl_append,← sound.session]
    cases call <;> rfl
  · intro client
    rw [posted]
    exact sound.sets client
  · intro place whose launch
    rw [dealt,serves.arrived]
    exact sound.arrived_append party system call place whose launch
  · change (next.arrived.map (·.place)).Nodup
    rw [serves.arrived,List.map_append]
    refine List.Nodup.append sound.once ?_ ?_
    · cases call with
      | environment call => exact .nil
      | launch call => exact List.nodup_singleton _
    · intro place old new
      obtain ⟨one,member,rfl⟩ := List.mem_map.mp old
      cases call with
      | environment call => exact absurd new List.not_mem_nil
      | launch call => exact absurd (List.mem_singleton.mp new) (sound.place_lt one member).ne
  · change next.started = next.arrived.filterMap _
    rw [serves.started,serves.arrived,List.filterMap_append,dealt,← sound.started_append]
    refine congrArg (relay.started ++ ·) ?_
    apply List.filterMap_congr
    intro one member
    have last : one.place = relay.posting.dealt.length := by
      cases call with
      | environment call => exact absurd member List.not_mem_nil
      | launch call =>
        rw [List.mem_singleton.mp member]
    rw [last,environmentsAt,List.take_append_of_le_length (Nat.le_refl _),List.take_length,← sound.session]

theorem Sound.post {start relay : LaunchRelay Client} (sound : Sound start relay) (client : Client)
    (call : RelayCall) (sets : ∀ change, call = .environment change → ∃ key value, change = .set key value) :
    Sound start { relay with
      own := Function.update relay.own client (call.change.toList.foldl applied (relay.own client))
      posting := relay.posting.post client call } := by
  refine { sound with ordered := sound.ordered.post client call, own := ?_, sets := ?_ }
  · intro other
    by_cases same : other = client
    · subst same
      simp only [Posting.post,Function.update_self,List.filterMap_append,List.foldl_append,← sound.own other]
      cases call <;> rfl
    · simpa only [Posting.post,Function.update_of_ne same] using sound.own other
  · intro other change member
    by_cases same : other = client
    · subst same
      simp only [Posting.post,Function.update_self,List.mem_append,List.mem_singleton] at member
      rcases member with before | new
      · exact sound.sets other change before
      · exact sets change new.symm
    · simp only [Posting.post,Function.update_of_ne same] at member
      exact sound.sets other change member

theorem sound_step (start relay next : LaunchRelay Client) (event : Event Client) (sound : Sound start relay)
    (taken : step relay event = some next) : Sound start next := by
  cases event with
  | setEnvironment client key value =>
    cases taken
    refine sound.post client (.environment (.set key value)) ?_
    intro change same
    cases same
    exact ⟨key,value,rfl⟩
  | launch client call =>
    cases taken
    have after := sound.post client (.launch call) (fun _ same => nomatch same)
    simpa only [RelayCall.change,Option.toList_none,List.foldl_nil,Function.update_eq_self] using after
  | delivered client system =>
    unfold step at taken
    cases under : relay.posting.underWay client with
    | nil => simp [under] at taken
    | cons call rest =>
      simp only [under,Option.some.injEq] at taken
      subst taken
      exact sound.dealt _ (some client) system call (serve_serves relay (some client) system call) _
        (sound.ordered.deal client call rest under true) rfl rfl
  | failed client =>
    unfold step at taken
    cases under : relay.posting.underWay client with
    | nil => simp [under] at taken
    | cons call rest =>
      simp only [under,Option.some.injEq] at taken
      subst taken
      refine { sound with
        ordered := sound.ordered.deal client call rest under false
        session := ?_
        arrived := sound.arrived_failed (some client) call
        started := sound.started_append _ }
      change relay.session = (changes (relay.posting.dealt ++ [_])).foldl environmentStep start.session
      rw [changes_append,List.foldl_append,← sound.session]
      rfl
  | other call system =>
    unfold step at taken
    cases taken
    exact sound.dealt _ none system call (serve_serves relay none system call) _ (sound.ordered.receive call) rfl rfl

theorem foldl_copied (calls : List EnvironmentCall) (environments : Environments) (copied : Copied environments) :
    Copied (calls.foldl environmentStep environments) :=
  List.foldlRecOn calls _ copied fun environments before call _ => step_copied environments call before

/-- What the calls before a launch have in common with those that its program had posted. -/
theorem latest_before (dealt before between : List (Dealt Client RelayCall)) (client : Client)
    (key name text : String) (accepted : Accepted key) (about : cString name = key)
    (split : dealt = before ++ ⟨some client,.environment (.set name text),true⟩::between)
    (others : ∀ other ∈ between, ∀ change, other.call.change = some change → cString change.key ≠ key) :
    latest (((dealt.filterMap (Dealt.byParty client)).filterMap RelayCall.change).filterMap written) key =
        some (some (cString text)) ∧
      latest ((changes dealt).filterMap written) key = some (some (cString text)) := by
  have asked : written (.set name text) = some (key,some (cString text)) := by
    simp [written,EnvironmentCall.key,about,accepted.1]
  have later : ∀ one ∈ between, ∀ value, one.call.change.bind written ≠ some (key,value) := by
    intro one member value same
    obtain ⟨change,made,entry⟩ := Option.bind_eq_some_iff.mp same
    obtain ⟨_,named⟩ := Option.ite_none_right_eq_some.mp entry
    exact others one member change made (Prod.mk.inj (Option.some.inj named)).1
  have both := (Posting.ordered_upTo dealt).latest_eq (fun call => call.change.bind written) client key
    before between _ split later (fun _ member => absurd member List.not_mem_nil) _ asked
  have once (calls : List RelayCall) : (calls.filterMap RelayCall.change).filterMap written =
      calls.filterMap fun call => call.change.bind written := List.filterMap_filterMap ..
  rw [changes,once,once]
  exact both

theorem Sound.inherits {start relay : LaunchRelay Client} (sound : Sound start relay)
    (copied : Copied start.session) : Inherits start relay := by
  refine ⟨sound.ordered,sound.own,sound.session,sound.arrived,sound.once,sound.started,?_⟩
  intro one member client party
  rw [sound.started] at member
  obtain ⟨launch,listed,starts⟩ := List.mem_filterMap.mp member
  obtain ⟨rfl,environments⟩ := ArrivedLaunch.process_some starts
  obtain ⟨place,found⟩ := List.getElem?_eq_some_iff.mp (sound.dealt_at _ listed)
  have split : relay.posting.dealt = relay.posting.dealt.take one.place ++
      ⟨some client,.launch one.call,true⟩::relay.posting.dealt.drop (one.place + 1) := by
    rw [← party,← found,← List.drop_eq_getElem_cons place,List.take_append_drop]
  have posted := sound.ordered.posted_split client _ _ _ true split
  refine ⟨_,_,posted,?_⟩
  intro key before call between accepted allowed about earlier others
  have mine : .environment call ∈ relay.posting.posted client := by
    rw [posted,earlier]
    simp [Dealt.byParty]
  obtain ⟨name,text,rfl⟩ := sound.sets client call mine
  obtain ⟨own,received⟩ := latest_before _ before between client key name text accepted about earlier others
  have process : one.environments.process.environ.find? key = some (cString text) := by
    rw [environments,environmentsAt,foldl_applied,foldl_applied_find?,received]
    rfl
  have kept : Copied one.environments := by
    rw [environments]
    exact foldl_copied _ start.session copied
  refine ⟨cString text,?_,process,kept key _ accepted allowed process⟩
  rw [foldl_applied_find?,own]
  rfl

/-- In every run, with calls of any program failing or overtaking those of others: each
launch that gets through is the method for it on the system as it arrives, and what it
starts finds the variables as its program had them when it asked. -/
theorem inherited_along (own : Client → ProcessEnvironment) (initial : Environments)
    (events : List (Event Client)) :
    let start : LaunchRelay Client := { own, session := uploadEnvironment initial }
    Along step (Inherits start) start events := by
  intro start
  have sound : Sound start start :=
    { ordered := Posting.ordered_start
      own := fun _ => rfl
      session := rfl
      sets := fun _ _ member => nomatch member
      arrived := fun _ _ _ => by simp [start]
      once := .nil
      started := rfl }
  exact along_of_steps step (fun relay _ => Sound start relay) (Inherits start) (fun _ _ => True)
    (fun relay event _ next sound _ taken => sound_step start relay next event sound taken)
    (fun _ _ sound => sound.inherits (upload_copied initial)) start events sound
    (steps_of_all step _ start events fun _ _ _ => trivial)

end LaunchRelay

end LiriSession
