import LiriSession.Library.Writer
import LiriSession.SessionMain

/-! The session manager restarts itself with `dbus-run-session` when there is no D-Bus
session: how often, and what becomes of its arguments and its environment. -/
namespace LiriSession
open Library

/-- The variables of D-Bus itself. -/
def isBusVariable (key : String) : Bool := "DBUS_".toList.isPrefixOf key.toList

/-- A `dbus-run-session`: what it makes of the environment, whether it sets the address of
the bus that it has started, and whether its command line can be read. -/
structure DBusRunSession where
  environ : ProcessEnvironment → ProcessEnvironment
  addresses : Bool
  readable : Bool
  address : ∀ environment, (environ environment).isSet "DBUS_SESSION_BUS_ADDRESS" =
    (addresses || environment.isSet "DBUS_SESSION_BUS_ADDRESS")
  others : ∀ environment key, isBusVariable key = false →
    (environ environment).environ.find? key = environment.environ.find? key

theorem address_accepted : Session.Accepted "DBUS_SESSION_BUS_ADDRESS" := by
  unfold Session.Accepted
  decide

/-- One that sets the address; without one it leaves the environment as it is. -/
def dbusRunSession (address : Option String) (readable : Bool) : DBusRunSession where
  environ environment := address.elim environment (environment.qputenv "DBUS_SESSION_BUS_ADDRESS")
  addresses := address.isSome
  readable
  address environment := by
    cases address with
    | none => rfl
    | some address =>
      have set := environment.find?_qputenv _ address "DBUS_SESSION_BUS_ADDRESS" address_accepted
      rw [if_pos rfl] at set
      exact congrArg Option.isSome set
  others environment key other := by
    cases address with
    | none => rfl
    | some address =>
      have apart : key ≠ "DBUS_SESSION_BUS_ADDRESS" := by
        rintro rfl
        cases other
      exact (environment.find?_qputenv _ address key address_accepted).trans (if_neg apart)

/-- The contents of `cmdline`: each argument ends with a zero byte. -/
def cmdline (arguments : List String) : String :=
  String.ofList (arguments.flatMap fun argument => argument.toList ++ [Char.ofNat 0])

namespace SessionMain

/-- The process that a request starts, if it is one for a `dbus-run-session`. -/
def launched (outer : DBusRunSession) (process : Process) : Request → Option Process
  | .startDetached "dbus-run-session" ("--"::command) => some {
      root := process.root
      arguments := command
      environment := outer.environ process.environment
      parent := if outer.readable then some (cmdline ("dbus-run-session"::"--"::command)) else none }
  | _ => none

/-- The process that comes out of one that does not go on, if any does. -/
def next (outer : DBusRunSession) : Outcome → Option Process
  | .waits process requests => requests.findSome? (launched outer process)
  | _ => none

def restarted (platform : Platform) (circumstances : Circumstances) (outer : DBusRunSession)
    (process : Process) : Option Process := next outer (main platform circumstances process)

/-- The processes in the order in which they start each other. -/
def restarts (platform : Platform) (circumstances : Nat → Circumstances) (outer : Nat → DBusRunSession)
    (process : Process) : Nat → Option Process
  | 0 => some process
  | n+1 => (restarts platform circumstances outer process n).bind
      (restarted platform (circumstances n) (outer n))

theorem put_writes (environment : ProcessEnvironment) (entry : String × String)
    (accepted : Session.Accepted entry.1) :
    (environment.qputenv entry.1 entry.2).environ.find? entry.1 = some (cString entry.2) :=
  (environment.find?_qputenv entry.1 entry.2 entry.1 accepted).trans (if_pos rfl)

theorem put_apart (environment : ProcessEnvironment) (entry : String × String) (key : String)
    (accepted : Session.Accepted entry.1) (other : key ≠ entry.1) :
    (environment.qputenv entry.1 entry.2).environ.find? key = environment.environ.find? key :=
  (environment.find?_qputenv entry.1 entry.2 key accepted).trans (if_neg other)

def putWriter : Writer ProcessEnvironment String (Option String) String where
  get environment key := environment.environ.find? key
  write environment entry := environment.qputenv entry.1 entry.2
  valid := Session.Accepted
  held found value := found = some (cString value)
  writes := put_writes
  keeps environment entry accepted held := (put_writes environment entry accepted).trans held.symm
  others := put_apart

theorem setDefault_writes (environment : ProcessEnvironment) (entry : String × String)
    (accepted : Session.Accepted entry.1)
    (empty : (((setDefault environment entry).environ.find? entry.1).getD "" = "")) :
    (setDefault environment entry).environ.find? entry.1 = some (cString entry.2) := by
  unfold setDefault at empty ⊢
  split
  next => exact put_writes environment entry accepted
  next held =>
    rw [if_neg held] at empty
    exact absurd (decide_eq_true empty) held

theorem setDefault_keeps (environment : ProcessEnvironment) (entry : String × String)
    (accepted : Session.Accepted entry.1) (held : (environment.environ.find? entry.1).getD "" = "" →
      environment.environ.find? entry.1 = some (cString entry.2)) :
    (setDefault environment entry).environ.find? entry.1 = environment.environ.find? entry.1 := by
  unfold setDefault
  split
  next empty =>
    exact (put_writes environment entry accepted).trans (held (of_decide_eq_true empty)).symm
  next => rfl

theorem setDefault_others (environment : ProcessEnvironment) (entry : String × String) (key : String)
    (accepted : Session.Accepted entry.1) (other : key ≠ entry.1) :
    (setDefault environment entry).environ.find? key = environment.environ.find? key := by
  unfold setDefault
  split
  next => exact put_apart environment entry key accepted other
  next => rfl

def defaultWriter : Writer ProcessEnvironment String (Option String) String where
  get environment key := environment.environ.find? key
  write := setDefault
  valid := Session.Accepted
  held found value := found.getD "" = "" → found = some (cString value)
  writes := setDefault_writes
  keeps := setDefault_keeps
  others := setDefault_others

theorem setupEnvironment_eq (platform : Platform) (environment : ProcessEnvironment) :
    setupEnvironment platform environment = putWriter.writeAll
      (defaultWriter.writeAll environment (defaults platform (environment.environ.find? "HOME"))) settings :=
  rfl

theorem settings_accepted : ∀ entry ∈ settings, Session.Accepted entry.1 := by
  unfold Session.Accepted
  decide

theorem defaults_accepted (platform : Platform) (home : Option String) :
    ∀ entry ∈ defaults platform home, Session.Accepted entry.1 := by
  have names : ∀ key ∈ (defaults platform home).map Prod.fst, Session.Accepted key := by
    change ∀ key ∈ ["XDG_DATA_HOME","XDG_CONFIG_HOME","XDG_CACHE_HOME","XDG_DATA_DIRS","XDG_CONFIG_DIRS",
      "XDG_DESKTOP_PORTAL_DIR"], Session.Accepted key
    unfold Session.Accepted
    decide
  exact fun entry member => names entry.1 (List.mem_map_of_mem member)

/-- The keys of both tables, each of which is written by one of them only. -/
def tableKeys : List String :=
  ["XDG_DATA_HOME","XDG_CONFIG_HOME","XDG_CACHE_HOME","XDG_DATA_DIRS","XDG_CONFIG_DIRS",
    "XDG_DESKTOP_PORTAL_DIR"] ++ settings.map Prod.fst

theorem tableKeys_eq (platform : Platform) (home : Option String) :
    (defaults platform home).map Prod.fst ++ settings.map Prod.fst = tableKeys := rfl

theorem tableKeys_nodup : tableKeys.Nodup := by decide

theorem put_others (environment : ProcessEnvironment) (entries : List (String × String)) (key : String)
    (accepted : ∀ entry ∈ entries, Session.Accepted entry.1) (absent : key ∉ entries.map Prod.fst) :
    (putWriter.writeAll environment entries).environ.find? key = environment.environ.find? key :=
  putWriter.writeAll_others environment entries key accepted absent

theorem default_others (environment : ProcessEnvironment) (entries : List (String × String)) (key : String)
    (accepted : ∀ entry ∈ entries, Session.Accepted entry.1) (absent : key ∉ entries.map Prod.fst) :
    (defaultWriter.writeAll environment entries).environ.find? key = environment.environ.find? key :=
  defaultWriter.writeAll_others environment entries key accepted absent

theorem setup_others (platform : Platform) (environment : ProcessEnvironment) (key : String)
    (other : key ∉ tableKeys) :
    (setupEnvironment platform environment).environ.find? key = environment.environ.find? key := by
  rw [← tableKeys_eq platform (environment.environ.find? "HOME"),List.mem_append,not_or] at other
  rw [setupEnvironment_eq,put_others _ settings key settings_accepted other.2,
    default_others environment _ key (defaults_accepted platform _) other.1]

/-- Every variable of the tables is as the main function leaves it. -/
structure Settled (platform : Platform) (environment : ProcessEnvironment) : Prop where
  defaults : ∀ entry ∈ SessionMain.defaults platform (environment.environ.find? "HOME"),
    (environment.environ.find? entry.1).getD "" = "" →
      environment.environ.find? entry.1 = some (cString entry.2)
  settings : ∀ entry ∈ SessionMain.settings, environment.environ.find? entry.1 = some (cString entry.2)

theorem put_held (environment : ProcessEnvironment) (entries : List (String × String))
    (accepted : ∀ entry ∈ entries, Session.Accepted entry.1) (distinct : (entries.map Prod.fst).Nodup)
    (entry : String × String) (member : entry ∈ entries) :
    (putWriter.writeAll environment entries).environ.find? entry.1 = some (cString entry.2) :=
  putWriter.writeAll_held environment entries accepted distinct entry member

theorem default_held (environment : ProcessEnvironment) (entries : List (String × String))
    (accepted : ∀ entry ∈ entries, Session.Accepted entry.1) (distinct : (entries.map Prod.fst).Nodup)
    (entry : String × String) (member : entry ∈ entries)
    (empty : ((defaultWriter.writeAll environment entries).environ.find? entry.1).getD "" = "") :
    (defaultWriter.writeAll environment entries).environ.find? entry.1 = some (cString entry.2) :=
  defaultWriter.writeAll_held environment entries accepted distinct entry member empty

theorem setup_settled (platform : Platform) (environment : ProcessEnvironment) :
    Settled platform (setupEnvironment platform environment) := by
  have home := setup_others platform environment "HOME" (by decide)
  have accepted := defaults_accepted platform (environment.environ.find? "HOME")
  have apart := tableKeys_nodup
  rw [← tableKeys_eq platform (environment.environ.find? "HOME"),List.nodup_append] at apart
  obtain ⟨first,second,apart⟩ := apart
  refine ⟨?_,?_⟩
  · rw [home]
    intro entry member
    have unsettled : entry.1 ∉ settings.map Prod.fst := fun settled =>
      apart entry.1 (List.mem_map_of_mem member) entry.1 settled rfl
    rw [setupEnvironment_eq,put_others _ settings entry.1 settings_accepted unsettled]
    exact default_held environment _ accepted first entry member
  · intro entry member
    rw [setupEnvironment_eq]
    exact put_held _ settings settings_accepted second entry member

theorem put_keeps (environment : ProcessEnvironment) (entries : List (String × String))
    (accepted : ∀ entry ∈ entries, Session.Accepted entry.1)
    (held : ∀ entry ∈ entries, environment.environ.find? entry.1 = some (cString entry.2)) (key : String) :
    (putWriter.writeAll environment entries).environ.find? key = environment.environ.find? key :=
  putWriter.writeAll_keeps environment entries accepted held key

theorem default_keeps (environment : ProcessEnvironment) (entries : List (String × String))
    (accepted : ∀ entry ∈ entries, Session.Accepted entry.1)
    (held : ∀ entry ∈ entries, (environment.environ.find? entry.1).getD "" = "" →
      environment.environ.find? entry.1 = some (cString entry.2)) (key : String) :
    (defaultWriter.writeAll environment entries).environ.find? key = environment.environ.find? key :=
  defaultWriter.writeAll_keeps environment entries accepted held key

/-- The second time there is nothing left to set. -/
theorem setup_keeps (platform : Platform) (environment : ProcessEnvironment)
    (settled : Settled platform environment) (key : String) :
    (setupEnvironment platform environment).environ.find? key = environment.environ.find? key := by
  have given (key : String) := default_keeps environment _ (defaults_accepted platform _) settled.defaults key
  rw [setupEnvironment_eq,put_keeps _ settings settings_accepted _ key,given]
  intro entry member
  rw [given]
  exact settled.settings entry member

theorem table_private (key : String) (member : key ∈ tableKeys) : isBusVariable key = false := by
  have all : ∀ key ∈ tableKeys, isBusVariable key = false := by decide
  exact all key member

theorem outer_settled (platform : Platform) (outer : DBusRunSession) (environment : ProcessEnvironment)
    (settled : Settled platform environment) : Settled platform (outer.environ environment) := by
  have same (key : String) (member : key ∈ tableKeys) :=
    outer.others environment key (table_private key member)
  refine ⟨?_,?_⟩
  · rw [outer.others environment "HOME" (by decide)]
    intro entry member
    rw [same entry.1 (List.mem_append_left _ (List.mem_map_of_mem member))]
    exact settled.defaults entry member
  · intro entry member
    rw [same entry.1 (List.mem_append_right _ (List.mem_map_of_mem member))]
    exact settled.settings entry member

/-- A main function that is run again under a `dbus-run-session` leaves the variables that
are not those of D-Bus as it did before. -/
theorem setup_again (platform : Platform) (outer : DBusRunSession) (environment : ProcessEnvironment)
    (key : String) (private_ : isBusVariable key = false) :
    (setupEnvironment platform (outer.environ (setupEnvironment platform environment))).environ.find? key =
      (setupEnvironment platform environment).environ.find? key := by
  have settled := outer_settled platform outer _ (setup_settled platform environment)
  rw [setup_keeps platform _ settled,outer.others _ key private_]

/-- What the main function looks at before it restarts. -/
def wantsRestart (platform : Platform) (process : Process) : Bool :=
  (platform.developmentBuild || !process.root) &&
    (match platform.parse process.arguments with
      | .error _ => false
      | .ok commandLine => !commandLine.listModules && !systemdSupport platform commandLine) &&
    !process.environment.isSet "DBUS_SESSION_BUS_ADDRESS" &&
    !contains (getParentProcessName process) "dbus-run-session"

theorem setup_address (platform : Platform) (environment : ProcessEnvironment) :
    (setupEnvironment platform environment).isSet "DBUS_SESSION_BUS_ADDRESS" =
      environment.isSet "DBUS_SESSION_BUS_ADDRESS" :=
  congrArg Option.isSome (setup_others platform environment _ (by decide))

theorem disable_enabled (names : List String) (session : Session) :
    (names.foldl Session.disableModule session).m_systemdEnabled = session.m_systemdEnabled := by
  induction names generalizing session with
  | nil => rfl
  | cons name names ih => exact ih _

theorem configured_enabled (platform : Platform) (order : HashOrder) (commandLine : CommandLine) :
    (configured platform order commandLine).m_systemdEnabled = systemdSupport platform commandLine := by
  unfold configured
  dsimp only
  rw [disable_enabled]
  cases systemdSupport platform commandLine <;> rfl

theorem parent_same (process : Process) (environment : ProcessEnvironment) :
    getParentProcessName { process with environment } = getParentProcessName process := rfl

theorem go_next (circumstances : Circumstances) (outer : DBusRunSession) (session : Session)
    (process : Process) : next outer (go circumstances session process) =
      if session.m_systemdEnabled = false ∧ process.environment.isSet "DBUS_SESSION_BUS_ADDRESS" = false ∧
          contains (getParentProcessName process) "dbus-run-session" = false then some {
        process with
        environment := outer.environ process.environment
        parent := if outer.readable
          then some (cmdline ("dbus-run-session"::"--"::process.arguments)) else none }
      else none := by
  have started : ∀ requests, requireDBusSession session.m_systemdEnabled circumstances.systemdAvailable
      process = (false,requests) → next outer (go circumstances session process) = none := by
    intro requests goes
    unfold go
    rw [goes]
    dsimp only
    split
    · rfl
    · split <;> rfl
  cases set : process.environment.isSet "DBUS_SESSION_BUS_ADDRESS" with
  | true =>
    rw [if_neg (by simp),started [] (by simp [requireDBusSession,set])]
  | false =>
    cases systemd : session.m_systemdEnabled with
    | true =>
      rw [if_neg (by simp)]
      cases available : circumstances.systemdAvailable with
      | true =>
        have waits : requireDBusSession session.m_systemdEnabled circumstances.systemdAvailable process =
            (true,[]) := by simp [requireDBusSession,set,systemd,available]
        rw [go,waits]
        rfl
      | false =>
        exact started [] (by simp [requireDBusSession,set,systemd,available])
    | false =>
      cases inside : contains (getParentProcessName process) "dbus-run-session" with
      | true =>
        rw [if_neg (by simp),started [] (by simp [requireDBusSession,set,systemd,inside])]
      | false =>
        have restarts : requireDBusSession session.m_systemdEnabled circumstances.systemdAvailable process =
            (true,[.quit,.startDetached "dbus-run-session" ("--"::process.arguments)]) := by
          simp [requireDBusSession,set,systemd,inside]
        rw [if_pos ⟨rfl,rfl,rfl⟩,go,restarts]
        rfl

theorem permitted_eq (platform : Platform) (process : Process) :
    (platform.developmentBuild || !process.root) =
      !(!platform.developmentBuild && process.root) := by
  rw [Bool.not_and,Bool.not_not]

theorem restarted_eq (platform : Platform) (circumstances : Circumstances) (outer : DBusRunSession)
    (process : Process) : restarted platform circumstances outer process =
      if wantsRestart platform process = true then some {
        root := process.root
        arguments := process.arguments
        environment := outer.environ (setupEnvironment platform process.environment)
        parent := if outer.readable
          then some (cmdline ("dbus-run-session"::"--"::process.arguments)) else none }
      else none := by
  unfold restarted main wantsRestart
  cases refused : (!platform.developmentBuild && process.root) with
  | true =>
    have unwanted : (platform.developmentBuild || !process.root) = false := by
      rw [permitted_eq,refused,Bool.not_true]
    simp [unwanted,next]
  | false =>
    have wanted : (platform.developmentBuild || !process.root) = true := by
      rw [permitted_eq,refused,Bool.not_false]
    cases parsed : platform.parse process.arguments with
    | error code => simp [next]
    | ok commandLine =>
      cases lists : commandLine.listModules with
      | true => simp [next,lists]
      | false =>
        simp only [lists,wanted,Bool.false_eq_true,if_false,go_next,configured_enabled,Bool.not_false,
          Bool.true_and]
        cases systemd : systemdSupport platform commandLine with
        | true => simp
        | false =>
          simp only [prepared,systemd,Bool.false_eq_true,if_false,setup_address,Bool.not_false,
            Bool.true_and,Bool.and_eq_true,Bool.not_eq_true',true_and,parent_same]

theorem trimmed_front (word rest : List Char) (front : (word ++ rest).dropWhile isSpace = word ++ rest)
    (back : word.reverse.dropWhile isSpace = word.reverse) :
    word <:+: (trimmed (String.ofList (word ++ rest))).toList := by
  rw [trimmed,String.toList_ofList,String.toList_ofList,front,List.reverse_append,List.dropWhile_append,back]
  split
  · rw [List.reverse_reverse]
  · rw [List.reverse_append,List.reverse_reverse]
    exact (List.prefix_append ..).isInfix

/-- The parent is recognised if its command line can be read. -/
theorem recognised (outer : DBusRunSession) (process : Process)
    (parent : process.parent = if outer.readable
      then some (cmdline ("dbus-run-session"::"--"::process.arguments)) else none) :
    contains (getParentProcessName process) "dbus-run-session" = outer.readable := by
  unfold getParentProcessName contains
  rw [parent]
  cases outer.readable with
  | false =>
    rw [if_neg Bool.false_ne_true]
    decide
  | true =>
    have text : cmdline ("dbus-run-session"::"--"::process.arguments) =
        String.ofList ("dbus-run-session".toList ++ (Char.ofNat 0::(
          "--"::process.arguments).flatMap fun argument => argument.toList ++ [Char.ofNat 0])) := by
      rw [cmdline,List.flatMap_cons,List.append_assoc]
      rfl
    rw [if_pos rfl,text]
    exact decide_eq_true (trimmed_front "dbus-run-session".toList _ rfl (by decide))

/-- What a process has of the one that it was restarted for. -/
structure Restarted (platform : Platform) (process : Process) (outer : DBusRunSession) (next : Process) :
    Prop where
  root : next.root = process.root
  arguments : next.arguments = process.arguments
  environment : next.environment = outer.environ (setupEnvironment platform process.environment)
  parent : next.parent = if outer.readable
    then some (cmdline ("dbus-run-session"::"--"::next.arguments)) else none
  wanted : wantsRestart platform process = true

theorem restarted_some (platform : Platform) (circumstances : Circumstances) (outer : DBusRunSession)
    (process next : Process) (started : restarted platform circumstances outer process = some next) :
    Restarted platform process outer next := by
  rw [restarted_eq] at started
  obtain ⟨wanted,same⟩ := Option.ite_none_right_eq_some.mp started
  cases Option.some.inj same
  exact ⟨rfl,rfl,rfl,rfl,wanted⟩

theorem Restarted.address (platform : Platform) (process next : Process) (outer : DBusRunSession)
    (restarted : Restarted platform process outer next) :
    next.environment.isSet "DBUS_SESSION_BUS_ADDRESS" = outer.addresses := by
  have wanted := restarted.wanted
  simp only [wantsRestart,Bool.and_eq_true,Bool.not_eq_true'] at wanted
  rw [restarted.environment,outer.address,setup_address,wanted.1.2,Bool.or_false]

/-- It restarts once more only if it has neither been given an address nor can see what it
was started by. -/
theorem Restarted.wants (platform : Platform) (process next : Process) (outer : DBusRunSession)
    (restarted : Restarted platform process outer next) :
    wantsRestart platform next = (!outer.addresses && !outer.readable) := by
  have wanted := restarted.wanted
  simp only [wantsRestart,Bool.and_eq_true] at wanted
  rw [wantsRestart,restarted.address,recognised outer next restarted.parent,restarted.root,
    restarted.arguments,wanted.1.1.1,wanted.1.1.2]
  rfl

structure RestartChain (platform : Platform) (process : Process) (outer : Nat → DBusRunSession)
    (chain : Nat → Option Process) : Prop where
  goesOn : ∀ n, (chain (n+1)).isSome = true ↔ wantsRestart platform process = true ∧
    ∀ earlier < n, (outer earlier).addresses = false ∧ (outer earlier).readable = false
  address : ∀ n next, chain (n+1) = some next →
    next.environment.isSet "DBUS_SESSION_BUS_ADDRESS" = (outer n).addresses
  same : ∀ n next, chain n = some next → next.arguments = process.arguments ∧
    ∀ key, isBusVariable key = false → (setupEnvironment platform next.environment).environ.find? key =
      (setupEnvironment platform process.environment).environ.find? key

theorem chain_wants (platform : Platform) (circumstances : Nat → Circumstances)
    (outer : Nat → DBusRunSession) (process : Process) (n : Nat) (last : Process)
    (reached : restarts platform circumstances outer process (n+1) = some last) :
    wantsRestart platform last = (!(outer n).addresses && !(outer n).readable) := by
  obtain ⟨before,_,started⟩ := Option.bind_eq_some_iff.mp reached
  exact (restarted_some platform _ _ before last started).wants

theorem chain_isSome (platform : Platform) (circumstances : Nat → Circumstances)
    (outer : Nat → DBusRunSession) (process : Process) (n : Nat) :
    (restarts platform circumstances outer process (n+1)).isSome = true ↔
      ∃ last, restarts platform circumstances outer process n = some last ∧
        wantsRestart platform last = true := by
  rw [restarts]
  cases restarts platform circumstances outer process n with
  | none => simp
  | some last =>
    rw [Option.bind_some,restarted_eq]
    by_cases wanted : wantsRestart platform last = true
    · simp [wanted]
    · simp [wanted]

/-- The session manager is restarted once if it has no D-Bus session, with its arguments and
with the environment that it would have had; it is restarted again only by one that was
given no address and cannot see that its parent is a `dbus-run-session`. -/
theorem restart_chain (platform : Platform) (circumstances : Nat → Circumstances)
    (outer : Nat → DBusRunSession) (process : Process) :
    RestartChain platform process outer (restarts platform circumstances outer process) := by
  refine ⟨?_,?_,?_⟩
  · intro n
    induction n with
    | zero =>
      rw [chain_isSome]
      apply Iff.intro
      · rintro ⟨last,reached,wanted⟩
        cases reached
        exact ⟨wanted,fun _ below => absurd below (Nat.not_lt_zero _)⟩
      · rintro ⟨wanted,_⟩
        exact ⟨process,rfl,wanted⟩
    | succ n ih =>
      rw [chain_isSome]
      apply Iff.intro
      · rintro ⟨last,reached,wanted⟩
        obtain ⟨first,silent⟩ := ih.mp (Option.isSome_of_eq_some reached)
        refine ⟨first,fun earlier below => ?_⟩
        rcases Nat.lt_succ_iff_lt_or_eq.mp below with before | rfl
        · exact silent earlier before
        · rw [chain_wants platform circumstances outer process earlier last reached] at wanted
          simpa using wanted
      · rintro ⟨first,silent⟩
        obtain ⟨last,reached⟩ := Option.isSome_iff_exists.mp
          (ih.mpr ⟨first,fun earlier below => silent earlier (Nat.lt_succ_of_lt below)⟩)
        refine ⟨last,reached,?_⟩
        obtain ⟨unaddressed,unreadable⟩ := silent n (Nat.lt_succ_self n)
        rw [chain_wants platform circumstances outer process n last reached,unaddressed,unreadable]
        rfl
  · intro n next reached
    obtain ⟨before,_,started⟩ := Option.bind_eq_some_iff.mp reached
    exact (restarted_some platform _ _ before next started).address
  · intro n
    induction n with
    | zero =>
      intro next reached
      cases reached
      exact ⟨rfl,fun _ _ => rfl⟩
    | succ n ih =>
      intro next reached
      obtain ⟨before,reached,started⟩ := Option.bind_eq_some_iff.mp reached
      obtain ⟨arguments,environment⟩ := ih before reached
      have came := restarted_some platform _ _ before next started
      refine ⟨came.arguments.trans arguments,fun key other => ?_⟩
      rw [came.environment,setup_again platform (outer n) before.environment key other]
      exact environment key other

end SessionMain

end LiriSession
