import LiriSession.Library.OrderedMap
import Mathlib.Data.String.Basic

/-! The environment of the session manager's process and its two copies: what
D-Bus activates services with, and the environment of the systemd user manager. -/
namespace LiriSession
open Library

/-- What the C library sees of a text. -/
def cString (text : String) : String := String.ofList (text.toList.takeWhile fun char => char.toNat ≠ 0)

/-- The names that `setenv` and `unsetenv` do not refuse. -/
def validName (name : String) : Bool := !name.isEmpty && '=' ∉ name.toList

/-- The environment of a process; a name ends at the first equals sign. -/
structure ProcessEnvironment where
  environ : OrderedMap String String
  named : ∀ name ∈ environ.keys, '=' ∉ name.toList

namespace ProcessEnvironment

theorem insert_named (environment : ProcessEnvironment) (name value : String)
    (valid : validName name = true) :
    ∀ other ∈ (environment.environ.insert name value).keys, '=' ∉ other.toList := by
  intro other member
  obtain ⟨entry,present,rfl⟩ := List.mem_map.mp member
  rcases (OrderedMap.mem_insert ..).mp present with rfl | ⟨_,old⟩
  · have accepted := (Bool.and_eq_true ..).mp valid
    simpa using accepted.2
  · exact environment.named entry.1 (List.mem_map_of_mem old)

theorem erase_named (environment : ProcessEnvironment) (name : String) :
    ∀ other ∈ (environment.environ.erase name).keys, '=' ∉ other.toList := by
  intro other member
  obtain ⟨entry,present,rfl⟩ := List.mem_map.mp member
  exact environment.named entry.1 (List.mem_map_of_mem ((OrderedMap.mem_erase ..).mp present).2)

def qputenv (environment : ProcessEnvironment) (key value : String) : ProcessEnvironment :=
  if valid : validName (cString key) = true then
    ⟨environment.environ.insert (cString key) (cString value),environment.insert_named _ _ valid⟩
  else environment

def qunsetenv (environment : ProcessEnvironment) (key : String) : ProcessEnvironment :=
  if validName (cString key) then
    ⟨environment.environ.erase (cString key),environment.erase_named _⟩
  else environment

end ProcessEnvironment

namespace Session

def loginSessionVariables : List String :=
  ["XDG_SEAT","XDG_SESSION_CLASS","XDG_SESSION_DESKTOP","XDG_SESSION_ID","XDG_SESSION_TYPE",
    "XDG_VTNR"]

def isShellCode (key : String) : Bool := "BASH_FUNC".toList.isPrefixOf key.toList

def sysEnv (env : OrderedMap String String) : OrderedMap String String :=
  let sysEnv := env.eraseAll loginSessionVariables
  sysEnv.eraseAll (sysEnv.keys.filter isShellCode)

inductive BusCall
  | updateActivationEnvironment (envMap : List (String × String))
  | setEnvironment (assignments : List String)
  | unsetEnvironment (names : List String)

/-- The process environment, both copies, and the calls made to keep them. -/
structure Environments where
  m_systemdEnabled : Bool
  process : ProcessEnvironment
  activation : OrderedMap String String
  systemd : OrderedMap String String
  calls : List BusCall := []

/-- How systemd reads one element of its list. -/
def assignment (text : String) : String × String :=
  (String.ofList (text.toList.takeWhile (· ≠ '=')),
    String.ofList (text.toList.dropWhile (· ≠ '=')).tail)

/-- The receiver's part of a call: both managers add or overwrite the variables they
are given, and systemd removes the ones it is told to. -/
def receive (environments : Environments) : BusCall → Environments
  | .updateActivationEnvironment envMap =>
    { environments with activation := environments.activation.insertAll envMap }
  | .setEnvironment assignments =>
    { environments with systemd := environments.systemd.insertAll (assignments.map assignment) }
  | .unsetEnvironment names =>
    { environments with systemd := environments.systemd.eraseAll names }

def busCall (environments : Environments) (made : BusCall) : Environments :=
  receive { environments with calls := environments.calls ++ [made] } made

def toStringList (sysEnv : OrderedMap String String) : List String :=
  sysEnv.entries.map fun entry => entry.1 ++ "=" ++ entry.2

def uploadEnvironment (environments : Environments) : Environments :=
  let sysEnv := sysEnv environments.process.environ
  let environments := busCall environments (.updateActivationEnvironment sysEnv.entries)
  if environments.m_systemdEnabled then
    busCall environments (.setEnvironment (toStringList sysEnv))
  else environments

def setEnvironment (environments : Environments) (key value : String) : Environments :=
  uploadEnvironment { environments with process := environments.process.qputenv key value }

def unsetEnvironment (environments : Environments) (key : String) : Environments :=
  let environments := { environments with process := environments.process.qunsetenv key }
  if environments.m_systemdEnabled then busCall environments (.unsetEnvironment [key])
  else environments

inductive EnvironmentCall
  | set (key value : String)
  | unset (key : String)

def EnvironmentCall.key : EnvironmentCall → String
  | .set key _ => key
  | .unset key => key

def environmentStep (environments : Environments) : EnvironmentCall → Environments
  | .set key value => setEnvironment environments key value
  | .unset key => unsetEnvironment environments key

/-- The state after `start` has uploaded the environment and the calls have been made. -/
def environmentRun (initial : Environments) (made : List EnvironmentCall) : Environments :=
  made.foldl environmentStep (uploadEnvironment initial)

def Excluded (key : String) : Prop := key ∈ loginSessionVariables ∨ isShellCode key = true

instance (key : String) : Decidable (Excluded key) := inferInstanceAs (Decidable (_ ∨ _))

/-- The keys that `setenv` accepts as they are. -/
def Accepted (key : String) : Prop := validName key = true ∧ cString key = key

def Touched (made : List EnvironmentCall) (key : String) : Prop :=
  ∃ call ∈ made, call.key = key

def uploaded (process : ProcessEnvironment) (key : String) : Option String :=
  if Excluded key then none else process.environ.find? key

theorem find?_sysEnv (process : ProcessEnvironment) (key : String) :
    (sysEnv process.environ).find? key = uploaded process key := by
  unfold sysEnv uploaded
  rw [OrderedMap.find?_eraseAll,OrderedMap.find?_eraseAll]
  by_cases specific : key ∈ loginSessionVariables
  · simp [specific,Excluded]
  · by_cases code : isShellCode key = true
    · have excluded : Excluded key := .inr code
      rw [if_pos excluded,if_neg specific]
      split
      · rfl
      · next kept =>
        have absent : key ∉ (process.environ.eraseAll loginSessionVariables).keys := by
          intro member
          exact kept (List.mem_filter.mpr ⟨member,code⟩)
        have missing := (OrderedMap.find?_eq_none ..).mpr absent
        rwa [OrderedMap.find?_eraseAll,if_neg specific] at missing
    · simp [specific,code,Excluded]

theorem assignment_eq (name value : String) (plain : '=' ∉ name.toList) :
    assignment (name ++ "=" ++ value) = (name,value) := by
  have distinct : ∀ char ∈ name.toList, decide (char ≠ '=') = true := by
    intro char member
    exact decide_eq_true fun same => plain (same ▸ member)
  have text : (name ++ "=" ++ value).toList = name.toList ++ '=' :: value.toList := by simp
  unfold assignment
  rw [text,List.takeWhile_append_of_pos distinct,List.dropWhile_append_of_pos distinct]
  simp

theorem sysEnv_named (process : ProcessEnvironment) (entry : String × String)
    (member : entry ∈ (sysEnv process.environ).entries) : ¬Excluded entry.1 ∧ '=' ∉ entry.1.toList := by
  have present := (OrderedMap.find?_eq_some ..).mpr member
  rw [find?_sysEnv,uploaded] at present
  split at present
  · cases present
  · next allowed =>
    have listed := (OrderedMap.find?_eq_some ..).mp present
    exact ⟨allowed,process.named entry.1 (List.mem_map_of_mem listed)⟩

theorem toStringList_assignments (process : ProcessEnvironment) :
    (toStringList (sysEnv process.environ)).map assignment = (sysEnv process.environ).entries := by
  have same : ∀ entry ∈ (sysEnv process.environ).entries,
      assignment (entry.1 ++ "=" ++ entry.2) = entry := by
    intro entry member
    exact assignment_eq entry.1 entry.2 (sysEnv_named process entry member).2
  rw [toStringList,List.map_map]
  exact (List.map_congr_left same).trans (List.map_id _)

theorem upload_spec (environments : Environments) :
    let after := uploadEnvironment environments
    let made : List BusCall :=
      if environments.m_systemdEnabled then
        [.updateActivationEnvironment (sysEnv environments.process.environ).entries,
          .setEnvironment (toStringList (sysEnv environments.process.environ))]
      else [.updateActivationEnvironment (sysEnv environments.process.environ).entries]
    after = { environments with
      activation := environments.activation.insertAll (sysEnv environments.process.environ).entries
      systemd := if environments.m_systemdEnabled then
        environments.systemd.insertAll (sysEnv environments.process.environ).entries
        else environments.systemd
      calls := environments.calls ++ made } := by
  cases enabled : environments.m_systemdEnabled <;>
    simp [uploadEnvironment,busCall,receive,enabled,toStringList_assignments]

theorem upload_process (environments : Environments) :
    (uploadEnvironment environments).process = environments.process := by
  rw [upload_spec]

theorem upload_enabled (environments : Environments) :
    (uploadEnvironment environments).m_systemdEnabled = environments.m_systemdEnabled := by
  rw [upload_spec]

theorem upload_activation (environments : Environments) (key : String) :
    (uploadEnvironment environments).activation.find? key =
      (uploaded environments.process key).or (environments.activation.find? key) := by
  rw [upload_spec]
  simp only [OrderedMap.find?_insertAll,find?_sysEnv]

theorem upload_systemd (environments : Environments) (key : String) :
    (uploadEnvironment environments).systemd.find? key =
      if environments.m_systemdEnabled then
        (uploaded environments.process key).or (environments.systemd.find? key)
      else environments.systemd.find? key := by
  rw [upload_spec]
  cases environments.m_systemdEnabled with
  | true => simp only [if_true,OrderedMap.find?_insertAll,find?_sysEnv]
  | false => rfl

theorem set_process (environments : Environments) (name value : String) :
    (setEnvironment environments name value).process = environments.process.qputenv name value :=
  upload_process _

theorem set_activation (environments : Environments) (name value key : String) :
    (setEnvironment environments name value).activation.find? key =
      (uploaded (setEnvironment environments name value).process key).or
        (environments.activation.find? key) := by
  rw [set_process]
  exact upload_activation _ key

theorem set_systemd (environments : Environments) (name value key : String) :
    (setEnvironment environments name value).systemd.find? key =
      if environments.m_systemdEnabled then
        (uploaded (setEnvironment environments name value).process key).or
          (environments.systemd.find? key)
      else environments.systemd.find? key := by
  rw [set_process]
  exact upload_systemd _ key

theorem unset_eq (environments : Environments) (name : String) :
    unsetEnvironment environments name = { environments with
      process := environments.process.qunsetenv name
      systemd := if environments.m_systemdEnabled then environments.systemd.eraseAll [name]
        else environments.systemd
      calls := if environments.m_systemdEnabled then environments.calls ++ [.unsetEnvironment [name]]
        else environments.calls } := by
  cases enabled : environments.m_systemdEnabled <;>
    simp [unsetEnvironment,busCall,receive,enabled]

def current (key : String) (last : Option String) : EnvironmentCall → Option String
  | .set other value => if other = key then some (cString value) else last
  | .unset other => if other = key then none else last

theorem step_process (environments : Environments) (made : EnvironmentCall)
    (accepted : Accepted made.key) (key : String) :
    (environmentStep environments made).process.environ.find? key =
      current key (environments.process.environ.find? key) made := by
  obtain ⟨valid,whole⟩ := accepted
  cases made with
  | set other value =>
    change validName other = true at valid
    change cString other = other at whole
    rw [environmentStep,set_process]
    simp only [ProcessEnvironment.qputenv,whole,valid,dif_pos,OrderedMap.find?_insert,current,
      eq_comm]
  | unset other =>
    change validName other = true at valid
    change cString other = other at whole
    rw [environmentStep,unset_eq]
    simp only [ProcessEnvironment.qunsetenv,whole,valid,if_true,OrderedMap.find?_erase,current,
      eq_comm]

theorem uploaded_step (environments : Environments) (made : EnvironmentCall)
    (accepted : Accepted made.key) (key : String) (allowed : ¬Excluded key) :
    uploaded (environmentStep environments made).process key =
      current key (environments.process.environ.find? key) made := by
  rw [uploaded,if_neg allowed,step_process environments made accepted]

theorem step_enabled (environments : Environments) (made : EnvironmentCall) :
    (environmentStep environments made).m_systemdEnabled = environments.m_systemdEnabled := by
  cases made with
  | set key value => exact upload_enabled _
  | unset key => rw [environmentStep,unset_eq]

theorem run_process (initial : Environments) (made : List EnvironmentCall)
    (accepted : ∀ call ∈ made, Accepted call.key) (key : String) :
    (made.foldl environmentStep initial).process.environ.find? key =
      made.foldl (current key) (initial.process.environ.find? key) := by
  induction made generalizing initial with
  | nil => rfl
  | cons first made ih =>
    obtain ⟨valid,rest⟩ := List.forall_mem_cons.mp accepted
    rw [List.foldl_cons,List.foldl_cons,ih _ rest,step_process initial first valid]

def noEnvironment (systemd : Bool) : Environments where
  m_systemdEnabled := systemd
  process := ⟨.empty,fun _ member => nomatch member⟩
  activation := .empty
  systemd := .empty

end Session

end LiriSession
