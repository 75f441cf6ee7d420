import LiriSession.QtValue
import Mathlib.Data.String.Basic

/-! The launcher object of the session manager: applications, desktop files and
commands are started directly or, with systemd, as the command of `systemd-run`. -/
namespace LiriSession

structure DesktopFile where
  fileName : String
  isVisible : Bool
  isSuitable : String → Bool
  value : String → QVariant
  isDBusActivatable : Bool
  expandExecString : List String → List String

namespace ProcessLauncher

/-- What a launch asks for: a process of its own, a desktop entry that is started
detached, or a command that is. -/
inductive Execution
  | process (program : String) (arguments : List String)
  | desktopDetached (desktop : DesktopFile) (urls : List String)
  | commandDetached (command : String)

/-- The answers of files and processes: the desktop file of an application, the entry
in a file, the canonical path of a file and of its directory, and whether an
execution starts. -/
structure System where
  locate : String → String
  getFile : String → Option DesktopFile
  canonicalFilePath : String → String
  canonicalPath : String → String
  starts : Execution → Bool

structure Launched where
  result : Bool
  execution : Option Execution

def rejected : Launched := ⟨false,none⟩

def System.launch (system : System) (execution : Execution) : Launched :=
  ⟨system.starts execution,some execution⟩

/-- `QString::replace` of a text by an empty one; `skip` characters belong to an
occurrence that is being removed. -/
def removeAll (text : List Char) : Nat → List Char → List Char
  | _, [] => []
  | skip+1, _::rest => removeAll text skip rest
  | 0, char::rest =>
    if text.isPrefixOf (char::rest) && !text.isEmpty then removeAll text (text.length - 1) rest
    else char::removeAll text 0 rest

/-- What the regular expression `.desktop$` leaves of a reversed text that ends there:
the dot stands for any character but a line feed. -/
def beforeSuffix (reversed : List Char) : Option (List Char) :=
  match reversed with
  | 'p' :: 'o' :: 't' :: 'k' :: 's' :: 'e' :: 'd' :: char :: front => if char = '\n' then none else some front
  | _ => none

/-- The expression also matches before a line feed at the very end. -/
def removeSuffix (text : List Char) : List Char :=
  match text.reverse with
  | '\n' :: reversed => ((beforeSuffix reversed).map fun front => front.reverse ++ ['\n']).getD text
  | reversed => ((beforeSuffix reversed).map List.reverse).getD text

def id (system : System) (fileName : String) : String :=
  let id := (system.canonicalFilePath fileName).toList
  let id := removeAll (system.canonicalPath fileName).toList 0 id
  let id := if id.head? = some '/' then id.tail else id
  let id := id.map fun char => if char = '/' then '-' else char
  String.ofList (removeSuffix id)

def unitArguments (description : String) (source : List String) (command : String) : List String :=
  ["--user","--scope","--description=" ++ description] ++ source ++
    ["--property=Requisite=liri-shell.target","--property=After=liri-shell.target",
      "--property=BindsTo=liri-session.target",command]

def LaunchApplication (system : System) (systemdEnabled : Bool) (appId : String) : Launched :=
  if appId = "" then rejected
  else
    let fileName := system.locate (appId ++ ".desktop")
    if fileName = "" then rejected
    else match system.getFile fileName with
      | none => rejected
      | some desktop =>
        if systemdEnabled && !desktop.isDBusActivatable then
          let args := unitArguments ("Application " ++ appId) []
            (" ".intercalate (desktop.expandExecString []))
          system.launch (.process "systemd-run" args)
        else system.launch (.desktopDetached desktop [])

def LaunchDesktopFile (system : System) (systemdEnabled : Bool) (path : String)
    (urls : List String) : Launched :=
  if path = "" then rejected
  else match system.getFile path with
    | none => rejected
    | some desktop =>
      if systemdEnabled && !desktop.isDBusActivatable then
        let appId := id system path
        let args := unitArguments ("Application " ++ appId) ["--property=SourcePath=" ++ path]
          (" ".intercalate (desktop.expandExecString urls))
        system.launch (.process "systemd-run" args)
      else system.launch (.desktopDetached desktop urls)

def LaunchCommand (system : System) (systemdEnabled : Bool) (command : String) : Launched :=
  if command = "" then rejected
  else if systemdEnabled then
    let args := unitArguments ("Run command: " ++ command) [] command
    system.launch (.process "systemd-run" args)
  else system.launch (.commandDetached command)

def isOption (argument : String) : Bool := argument.toList.head? = some '-'

/-- The command that `systemd-run` executes: options come first. -/
def systemdRun (arguments : List String) : List String := arguments.dropWhile isOption

/-- `QProcess` takes a text without arguments as the program, whatever is in it. -/
def Execution.command : Execution → List String
  | .process program arguments =>
    if program = "systemd-run" then systemdRun arguments else program::arguments
  | .desktopDetached desktop urls => desktop.expandExecString urls
  | .commandDetached command => [command]

def Launched.command (launched : Launched) : Option (List String) :=
  launched.execution.map Execution.command

def SameCommand (method : Bool → Launched) : Prop :=
  (method true).command = (method false).command

/-- Joining leaves the tokens as they are: there is one, and it is no option. -/
def SingleToken (tokens : List String) : Prop := ∃ token, tokens = [token] ∧ isOption token = false

def Joinable (entry : Option DesktopFile) (urls : List String) : Prop :=
  ∀ desktop, entry = some desktop →
    desktop.isDBusActivatable = true ∨ SingleToken (desktop.expandExecString urls)

def applicationEntry (system : System) (appId : String) : Option DesktopFile :=
  if appId = "" then none
  else
    let fileName := system.locate (appId ++ ".desktop")
    if fileName = "" then none else system.getFile fileName

def fileEntry (system : System) (path : String) : Option DesktopFile :=
  if path = "" then none else system.getFile path

theorem systemdRun_options (options : List String) (command : String)
    (all : ∀ option ∈ options, isOption option = true) :
    systemdRun (options ++ [command]) = if isOption command then [] else [command] := by
  rw [systemdRun,List.dropWhile_append_of_pos all]
  cases test : isOption command <;> simp [test]

theorem systemdRun_unit (description : String) (source : List String) (command : String)
    (options : ∀ option ∈ source, isOption option = true) :
    systemdRun (unitArguments description source command) =
      if isOption command then [] else [command] := by
  have described : isOption ("--description=" ++ description) = true := by
    simp [isOption]
  have split : unitArguments description source command =
      (["--user","--scope","--description=" ++ description] ++ source ++
        ["--property=Requisite=liri-shell.target","--property=After=liri-shell.target",
          "--property=BindsTo=liri-session.target"]) ++ [command] := by
    simp [unitArguments]
  rw [split]
  apply systemdRun_options
  intro option member
  simp only [List.mem_append,List.mem_cons,List.not_mem_nil,or_false] at member
  rcases member with ((rfl | rfl | rfl) | given) | rfl | rfl | rfl
  · decide
  · decide
  · exact described
  · exact options option given
  · decide
  · decide
  · decide

theorem joined_eq_iff (tokens : List String) :
    (if isOption (" ".intercalate tokens) then [] else [" ".intercalate tokens]) = tokens ↔
      SingleToken tokens := by
  apply Iff.intro
  · intro same
    cases test : isOption (" ".intercalate tokens) with
    | true =>
      -- nothing is left to execute, but no tokens join to an empty text, which is no option
      simp only [test,if_true] at same
      rw [← same] at test
      exact absurd test (by decide)
    | false =>
      simp only [test,Bool.false_eq_true,if_false] at same
      exact ⟨_,same.symm,test⟩
  · intro single
    obtain ⟨token,rfl,plain⟩ := single
    simp [String.intercalate_singleton,plain]

def launchEntry (system : System) (description : String) (source : List String)
    (entry : Option DesktopFile) (urls : List String) (systemdEnabled : Bool) : Launched :=
  match entry with
  | none => rejected
  | some desktop =>
    if systemdEnabled && !desktop.isDBusActivatable then
      system.launch (.process "systemd-run"
        (unitArguments description source (" ".intercalate (desktop.expandExecString urls))))
    else system.launch (.desktopDetached desktop urls)

theorem launchDesktopFile_eq (system : System) (systemdEnabled : Bool) (path : String)
    (urls : List String) : LaunchDesktopFile system systemdEnabled path urls =
      launchEntry system ("Application " ++ id system path) ["--property=SourcePath=" ++ path]
        (fileEntry system path) urls systemdEnabled := by
  unfold LaunchDesktopFile fileEntry
  by_cases empty : path = ""
  · rw [if_pos empty,if_pos empty]
    rfl
  · rw [if_neg empty,if_neg empty]
    rfl

theorem launchApplication_eq (system : System) (systemdEnabled : Bool) (appId : String) :
    LaunchApplication system systemdEnabled appId =
      launchEntry system ("Application " ++ appId) [] (applicationEntry system appId) []
        systemdEnabled := by
  unfold LaunchApplication applicationEntry
  by_cases empty : appId = ""
  · rw [if_pos empty,if_pos empty]
    rfl
  · rw [if_neg empty,if_neg empty]
    by_cases missing : system.locate (appId ++ ".desktop") = ""
    · dsimp only
      rw [if_pos missing,if_pos missing]
      rfl
    · dsimp only
      rw [if_neg missing,if_neg missing]
      rfl

theorem launchEntry_iff (system : System) (description : String) (source : List String)
    (options : ∀ option ∈ source, isOption option = true) (entry : Option DesktopFile)
    (urls : List String) :
    SameCommand (launchEntry system description source entry urls) ↔ Joinable entry urls := by
  cases entry with
  | none => simp [SameCommand,Joinable,launchEntry]
  | some desktop =>
    simp only [SameCommand,Joinable,launchEntry,Option.some.injEq,forall_eq']
    cases activatable : desktop.isDBusActivatable with
    | true => simp
    | false =>
      simp only [Bool.not_false,Bool.and_self,if_true,Bool.false_and,Bool.false_eq_true,if_false,
        false_or,System.launch,Launched.command,Option.map_some,Execution.command,Option.some.injEq]
      rw [systemdRun_unit description source _ options]
      exact joined_eq_iff _

theorem launchDesktopFile_iff (system : System) (path : String) (urls : List String) :
    SameCommand (LaunchDesktopFile system · path urls) ↔ Joinable (fileEntry system path) urls := by
  simp only [launchDesktopFile_eq]
  apply launchEntry_iff
  intro option member
  rw [List.mem_singleton.mp member]
  simp [isOption]

theorem launchApplication_iff (system : System) (appId : String) :
    SameCommand (LaunchApplication system · appId) ↔
      Joinable (applicationEntry system appId) [] := by
  simp only [launchApplication_eq]
  exact launchEntry_iff system _ [] (fun _ member => nomatch member) _ []

/-- Both launching methods run one command in both modes exactly when the entry's
command line is a single token that is no option, or the mode makes no difference. -/
theorem launch_sameCommand_iff (system : System) (path appId : String) (urls : List String) :
    (SameCommand (LaunchDesktopFile system · path urls) ↔ Joinable (fileEntry system path) urls) ∧
      (SameCommand (LaunchApplication system · appId) ↔
        Joinable (applicationEntry system appId) []) :=
  ⟨launchDesktopFile_iff system path urls,launchApplication_iff system appId⟩

def viewer : DesktopFile where
  fileName := "/usr/share/applications/viewer.desktop"
  isVisible := true
  isSuitable := fun _ => true
  value := fun _ => .invalid
  isDBusActivatable := false
  expandExecString := fun urls => "viewer"::urls

def viewerSystem : System where
  locate := fun name => "/usr/share/applications/" ++ name
  getFile := fun _ => some viewer
  canonicalFilePath := fun fileName => fileName
  canonicalPath := fun _ => "/usr/share/applications"
  starts := fun _ => true

theorem url_joined_to_program : ¬SameCommand (LaunchDesktopFile viewerSystem ·
    "/usr/share/applications/viewer.desktop" ["file:///tmp/holiday photo.png"]) := by
  intro same
  have joinable := (launchDesktopFile_iff viewerSystem _ _).mp same
  rcases joinable viewer rfl with activatable | single
  · cases activatable
  · obtain ⟨token,split,_⟩ := single
    cases split

end ProcessLauncher

end LiriSession
