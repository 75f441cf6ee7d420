import LiriSession.ProcessLauncher
import LiriSession.Library.Run
import Mathlib.Data.List.Nodup

/-! The process objects of the launcher: each launch may leave one, and the end of its process
is what deletes it. -/
namespace LiriSession
open Library ProcessLauncher

/-- The `QProcess` objects whose parent is the launcher, by number, and those of them whose
process has started and not finished. -/
structure LauncherProcesses where
  systemdEnabled : Bool
  objects : List Nat := []
  running : List Nat := []
  created : Nat := 0

namespace LauncherProcesses

inductive Event
  | launchApplication (system : System) (appId : String)
  | launchDesktopFile (system : System) (path : String) (urls : List String)
  | launchCommand (system : System) (command : String)
  | finished (process : Nat)

/-- The object that a launch creates. `QProcess::startDetached` is static, so that the object
it is called through has no process; a desktop entry creates none. -/
def launch (state : LauncherProcesses) (launched : Launched) : LauncherProcesses :=
  match launched.execution with
  | none => state
  | some (.process _ _) => { state with
      created := state.created + 1
      objects := state.objects ++ [state.created]
      running := if launched.result then state.running ++ [state.created] else state.running }
  | some (.desktopDetached _ _) => state
  | some (.commandDetached _) => { state with
      created := state.created + 1
      objects := state.objects ++ [state.created] }

/-- The sender of `finished` is deleted. -/
def handleProcessFinished (state : LauncherProcesses) (process : Nat) : LauncherProcesses :=
  { state with
    objects := state.objects.erase process
    running := state.running.erase process }

/-- Only a process that has started finishes. -/
def step (state : LauncherProcesses) : Event → Option LauncherProcesses
  | .launchApplication system appId =>
    some (state.launch (LaunchApplication system state.systemdEnabled appId))
  | .launchDesktopFile system path urls =>
    some (state.launch (LaunchDesktopFile system state.systemdEnabled path urls))
  | .launchCommand system command =>
    some (state.launch (LaunchCommand system state.systemdEnabled command))
  | .finished process =>
    if process ∈ state.running then some (state.handleProcessFinished process) else none

/-- The objects are those of the processes that are running. -/
def Reclaimed (state : LauncherProcesses) : Prop :=
  ∀ process, process ∈ state.objects ↔ process ∈ state.running

/-- If the entry is one for `systemd-run`, that starts. -/
def EntryStarts (system : System) (description : String) (source : List String)
    (entry : Option DesktopFile) (urls : List String) (systemdEnabled : Bool) : Prop :=
  ∀ desktop, entry = some desktop → systemdEnabled = true → desktop.isDBusActivatable = false →
    system.starts (.process "systemd-run" (unitArguments description source
      (" ".intercalate (desktop.expandExecString urls)))) = true

/-- `systemd-run` starts whenever it is used, and it is used for every command. -/
def Starts (state : LauncherProcesses) : Event → Prop
  | .launchApplication system appId => EntryStarts system ("Application " ++ appId) []
    (applicationEntry system appId) [] state.systemdEnabled
  | .launchDesktopFile system path urls => EntryStarts system ("Application " ++ id system path)
    ["--property=SourcePath=" ++ path] (fileEntry system path) urls state.systemdEnabled
  | .launchCommand system command => command ≠ "" → state.systemdEnabled = true ∧
    system.starts (.process "systemd-run" (unitArguments ("Run command: " ++ command) [] command)) = true
  | .finished _ => True

/-- Different numbers that have been given out. -/
structure Numbered (created : Nat) (processes : List Nat) : Prop where
  given : ∀ process ∈ processes, process < created
  distinct : processes.Nodup

/-- A launch leaves no object behind without a process. -/
def Clean (launched : Launched) : Prop :=
  match launched.execution with
  | none => True
  | some (.process _ _) => launched.result = true
  | some (.desktopDetached _ _) => True
  | some (.commandDetached _) => False

theorem Numbered.add {created : Nat} {processes : List Nat} (numbered : Numbered created processes) :
    Numbered (created + 1) (processes ++ [created]) := by
  apply Numbered.mk
  · intro process member
    rcases List.mem_append.mp member with old | new
    · exact Nat.lt_succ_of_lt (numbered.given process old)
    · rw [List.mem_singleton.mp new]
      exact Nat.lt_succ_self created
  · have fresh : created ∉ processes := fun old => Nat.lt_irrefl created (numbered.given created old)
    exact List.Nodup.append numbered.distinct (List.nodup_singleton created) (by simpa using fresh)

theorem Numbered.later {created : Nat} {processes : List Nat} (numbered : Numbered created processes) :
    Numbered (created + 1) processes :=
  ⟨fun process member => Nat.lt_succ_of_lt (numbered.given process member),numbered.distinct⟩

theorem Numbered.erase {created : Nat} {processes : List Nat} (numbered : Numbered created processes)
    (gone : Nat) : Numbered created (processes.erase gone) :=
  ⟨fun process member => numbered.given process (List.mem_of_mem_erase member),
    numbered.distinct.erase gone⟩

structure Sound (state : LauncherProcesses) : Prop where
  objects : Numbered state.created state.objects
  running : Numbered state.created state.running

theorem Sound.launch (state : LauncherProcesses) (launched : Launched) (sound : Sound state) :
    Sound (state.launch launched) := by
  unfold LauncherProcesses.launch
  split
  next => exact sound
  next =>
    refine ⟨sound.objects.add,?_⟩
    dsimp only
    split
    · exact sound.running.add
    · exact sound.running.later
  next => exact sound
  next => exact ⟨sound.objects.add,sound.running.later⟩

theorem sound_step (state next : LauncherProcesses) (event : Event) (sound : Sound state)
    (taken : step state event = some next) : Sound next := by
  cases event with
  | launchApplication =>
    cases taken
    exact sound.launch state _
  | launchDesktopFile =>
    cases taken
    exact sound.launch state _
  | launchCommand =>
    cases taken
    exact sound.launch state _
  | finished process =>
    unfold step at taken
    dsimp only at taken
    split at taken
    next =>
      cases taken
      exact ⟨sound.objects.erase process,sound.running.erase process⟩
    next => cases taken

theorem launch_reclaimed_iff (state : LauncherProcesses) (launched : Launched) (sound : Sound state)
    (reclaimed : Reclaimed state) : Clean launched ↔ Reclaimed (state.launch launched) := by
  have unknown : state.created ∉ state.running :=
    fun old => Nat.lt_irrefl _ (sound.running.given _ old)
  -- an object that is added has to be matched by its process
  have unmatched : ¬∀ process, process ∈ state.objects ++ [state.created] ↔ process ∈ state.running :=
    fun same => unknown ((same _).mp (List.mem_append_right _ (List.mem_singleton_self _)))
  unfold Clean LauncherProcesses.launch Reclaimed
  split
  next => exact iff_of_true trivial reclaimed
  next =>
    dsimp only
    split
    next started =>
      refine iff_of_true started fun process => ?_
      rw [List.mem_append,List.mem_append,reclaimed process]
    next failed => exact iff_of_false failed unmatched
  next => exact iff_of_true trivial reclaimed
  next => exact iff_of_false not_false unmatched

theorem finished_reclaimed (state : LauncherProcesses) (process : Nat) (sound : Sound state)
    (reclaimed : Reclaimed state) : Reclaimed (state.handleProcessFinished process) := by
  intro other
  change other ∈ state.objects.erase process ↔ other ∈ state.running.erase process
  rw [sound.objects.distinct.mem_erase_iff,sound.running.distinct.mem_erase_iff,reclaimed other]

theorem launchEntry_clean_iff (system : System) (description : String) (source : List String)
    (entry : Option DesktopFile) (urls : List String) (systemdEnabled : Bool) :
    EntryStarts system description source entry urls systemdEnabled ↔
      Clean (launchEntry system description source entry urls systemdEnabled) := by
  unfold EntryStarts launchEntry
  cases entry with
  | none => exact iff_of_true (fun _ listed => nomatch listed) trivial
  | some desktop =>
    simp only [Option.some.injEq,forall_eq']
    cases systemdEnabled with
    | false => simp [Clean,System.launch]
    | true =>
      cases activatable : desktop.isDBusActivatable <;> simp [Clean,System.launch]

theorem launchCommand_clean_iff (system : System) (systemdEnabled : Bool) (command : String) :
    (command ≠ "" → systemdEnabled = true ∧ system.starts
      (.process "systemd-run" (unitArguments ("Run command: " ++ command) [] command)) = true) ↔
      Clean (LaunchCommand system systemdEnabled command) := by
  unfold LaunchCommand
  by_cases empty : command = ""
  · rw [if_pos empty]
    exact iff_of_true (fun given => absurd empty given) trivial
  · rw [if_neg empty]
    cases systemdEnabled with
    | false => simp [empty,Clean,System.launch]
    | true => simp [empty,Clean,System.launch]

theorem step_reclaimed_iff (state next : LauncherProcesses) (event : Event) (sound : Sound state)
    (reclaimed : Reclaimed state) (taken : step state event = some next) :
    Starts state event ↔ Reclaimed next := by
  cases event with
  | launchApplication system appId =>
    cases taken
    rw [← launch_reclaimed_iff state _ sound reclaimed,launchApplication_eq]
    exact launchEntry_clean_iff ..
  | launchDesktopFile system path urls =>
    cases taken
    rw [← launch_reclaimed_iff state _ sound reclaimed,launchDesktopFile_eq]
    exact launchEntry_clean_iff ..
  | launchCommand system command =>
    cases taken
    rw [← launch_reclaimed_iff state _ sound reclaimed]
    exact launchCommand_clean_iff system state.systemdEnabled command
  | finished process =>
    unfold step at taken
    dsimp only at taken
    split at taken
    next =>
      cases taken
      exact iff_of_true trivial (finished_reclaimed state process sound reclaimed)
    next => cases taken

/-- In every run the objects are those of the running processes exactly when every process
that is to be started starts, and no command is started without systemd. -/
theorem reclaimed_iff (systemdEnabled : Bool) (events : List Event) :
    Along step Reclaimed { systemdEnabled } events ↔ Steps step Starts { systemdEnabled } events := by
  have empty : Numbered 0 [] := ⟨fun _ member => absurd member List.not_mem_nil,.nil⟩
  apply along_iff_steps step (fun state _ => Sound state) Reclaimed Starts
  · exact fun state event _ next sound taken => sound_step state next event sound taken
  · exact fun state event _ next sound reclaimed taken =>
      step_reclaimed_iff state next event sound reclaimed taken
  · exact ⟨empty,empty⟩
  · exact fun _ => Iff.rfl

/-- A command without systemd leaves an object that has no process. -/
theorem command_object_kept : ¬ ∀ systemdEnabled events,
    Along step Reclaimed { systemdEnabled } events := by
  intro all
  have along := all false [.launchCommand viewerSystem "viewer"]
  have reached := along_start step Reclaimed _ [] (along.2 _ rfl)
  exact absurd ((reached 0).mp (by decide)) (by decide)

end LauncherProcesses

end LiriSession
