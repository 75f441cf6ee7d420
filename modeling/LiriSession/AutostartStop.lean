import LiriSession.Autostart

/-! The end of the autostart module: what `stop` asks for, and what the launcher makes of
everything that the module has asked it. -/
namespace LiriSession

/-- The messages that an object of the session manager has executed, and the others. -/
structure LauncherLog where
  executed : List QDBusMessage := []
  rejected : List QDBusMessage := []

def LauncherLog.deliver (log : LauncherLog) (message : QDBusMessage) : LauncherLog :=
  match sessionConnection.receiver message with
  | none => { log with rejected := log.rejected ++ [message] }
  | some _ => { log with executed := log.executed ++ [message] }

namespace AutostartPlugin

def terminateMessage (fileName : String) : QDBusMessage where
  service := "io.liri.Launcher"
  path := "/io/liri/Launcher"
  interface := "io.liri.Launcher"
  member := "TerminateDesktopFile"
  arguments := [.string fileName]

def terminateDesktopFile (plugin : AutostartPlugin) (fileName : String) : AutostartPlugin :=
  { plugin with sent := plugin.sent ++ [terminateMessage fileName] }

def stop (plugin : AutostartPlugin) : AutostartPlugin :=
  let plugin := { plugin with m_desktopFiles := plugin.m_desktopFiles.reverse }
  let plugin := plugin.m_desktopFiles.foldl terminateDesktopFile plugin
  { plugin with m_desktopFiles := [] }

/-- The entries that a start has launched. -/
def launchedBy (plugin : AutostartPlugin) (desktopFileList : List DesktopFile) : List DesktopFile :=
  (plugin.start desktopFileList).launched.drop plugin.launched.length

/-- What the launcher has done once it has got everything that was sent by a start and
the stop after it. -/
def delivered (plugin : AutostartPlugin) (desktopFileList : List DesktopFile) : LauncherLog :=
  (((plugin.start desktopFileList).stop.sent.drop plugin.sent.length)).foldl LauncherLog.deliver {}

/-- Each entry is launched and then, in the reverse order, terminated; nothing is
rejected, and nothing is left for another stop. -/
structure Undone (plugin : AutostartPlugin) (desktopFileList : List DesktopFile) : Prop where
  executed : (delivered plugin desktopFileList).executed =
    ((launchedBy plugin desktopFileList).map fun entry => launchMessage entry.fileName) ++
      (launchedBy plugin desktopFileList).reverse.map fun entry => terminateMessage entry.fileName
  accepted : (delivered plugin desktopFileList).rejected = []
  cleared : (plugin.start desktopFileList).stop.m_desktopFiles = []
  silent : ∀ turns, (stop^[turns] (plugin.start desktopFileList).stop).sent =
    (plugin.start desktopFileList).stop.sent

theorem foldl_terminateDesktopFile (files : List String) (plugin : AutostartPlugin) :
    files.foldl terminateDesktopFile plugin =
      { plugin with sent := plugin.sent ++ files.map terminateMessage } := by
  induction files generalizing plugin with
  | nil => simp
  | cons fileName files ih =>
    rw [List.foldl_cons,ih]
    simp [terminateDesktopFile]

theorem stop_eq (plugin : AutostartPlugin) :
    plugin.stop = { plugin with
      m_desktopFiles := []
      sent := plugin.sent ++ plugin.m_desktopFiles.reverse.map terminateMessage } := by
  rw [stop,foldl_terminateDesktopFile]

theorem stop_idle (plugin : AutostartPlugin) (idle : plugin.m_desktopFiles = []) :
    plugin.stop = plugin := by
  obtain ⟨systemd,files,sent,launched⟩ := plugin
  cases idle
  simp [stop_eq]

theorem stop_again (plugin : AutostartPlugin) (turns : Nat) : stop^[turns] plugin.stop = plugin.stop :=
  Function.iterate_fixed (stop_idle plugin.stop rfl) turns

theorem launchMessage_executed (fileName : String) :
    sessionConnection.receiver (launchMessage fileName) = some launcherObject := by
  simp [QDBusConnection.receiver,sessionConnection,launchMessage,ExportedObject.answers,launcherObject]

theorem terminateMessage_rejected (fileName : String) :
    sessionConnection.receiver (terminateMessage fileName) = none := by
  simp [QDBusConnection.receiver,sessionConnection,terminateMessage,ExportedObject.answers,
    launcherObject,sessionManagerObject]

theorem deliver_launches (files : List String) (log : LauncherLog) :
    (files.map launchMessage).foldl LauncherLog.deliver log =
      { log with executed := log.executed ++ files.map launchMessage } := by
  induction files generalizing log with
  | nil => simp
  | cons fileName files ih =>
    rw [List.map_cons,List.foldl_cons,ih,LauncherLog.deliver,launchMessage_executed]
    simp

theorem deliver_terminations (files : List String) (log : LauncherLog) :
    (files.map terminateMessage).foldl LauncherLog.deliver log =
      { log with rejected := log.rejected ++ files.map terminateMessage } := by
  induction files generalizing log with
  | nil => simp
  | cons fileName files ih =>
    rw [List.map_cons,List.foldl_cons,ih,LauncherLog.deliver,terminateMessage_rejected]
    simp

theorem launchedBy_eq (plugin : AutostartPlugin) (desktopFileList : List DesktopFile) :
    launchedBy plugin desktopFileList = chosen plugin.systemd desktopFileList := by
  rw [launchedBy,(start_launches plugin desktopFileList).launched,List.drop_left]

/-- The launcher executes the launches and rejects the terminations. -/
theorem delivered_eq (plugin : AutostartPlugin) (desktopFileList : List DesktopFile)
    (idle : plugin.m_desktopFiles = []) :
    let files := (chosen plugin.systemd desktopFileList).map DesktopFile.fileName
    delivered plugin desktopFileList =
      ⟨files.map launchMessage,files.reverse.map terminateMessage⟩ := by
  intro files
  have launches := start_launches plugin desktopFileList
  have recorded : (plugin.start desktopFileList).m_desktopFiles = files := by
    rw [launches.recorded,idle,List.nil_append]
  have sent : (plugin.start desktopFileList).stop.sent.drop plugin.sent.length =
      files.map launchMessage ++ files.reverse.map terminateMessage := by
    rw [stop_eq]
    dsimp only
    rw [recorded,launches.sent,List.append_assoc,List.drop_left]
    simp [files]
  rw [delivered,sent,List.foldl_append,deliver_launches,deliver_terminations]
  simp

/-- A stop undoes a start exactly when the start has launched nothing. -/
theorem undone_iff (plugin : AutostartPlugin) (desktopFileList : List DesktopFile)
    (idle : plugin.m_desktopFiles = []) : Undone plugin desktopFileList ↔
      ∀ entry ∈ desktopFileList, ¬(Eligible entry ∧ ¬(plugin.systemd = true ∧ hidden entry = true)) := by
  have log := delivered_eq plugin desktopFileList idle
  have none : chosen plugin.systemd desktopFileList = [] ↔ ∀ entry ∈ desktopFileList,
      ¬(Eligible entry ∧ ¬(plugin.systemd = true ∧ hidden entry = true)) := by
    simp [chosen,List.filter_eq_nil_iff]
  rw [← none]
  apply Iff.intro
  · intro undone
    have accepted := undone.accepted
    rw [log] at accepted
    simpa using accepted
  · intro empty
    apply Undone.mk
    · rw [log,launchedBy_eq,empty]
      rfl
    · rw [log,empty]
      rfl
    · rw [stop_eq]
    · intro turns
      rw [stop_again]

def foreignEntry : DesktopFile := { keyringEntry with isSuitable := fun _ => false }

/-- Under systemd the one entry counts as hidden, and the other is for another desktop. -/
theorem nothing_started_undone : Undone { systemd := true } [keyringEntry,foreignEntry] := by
  refine (undone_iff { systemd := true } [keyringEntry,foreignEntry] rfl).mpr ?_
  intro entry member
  rcases List.mem_cons.mp member with first | second
  · rw [first]
    exact fun launched => launched.2 ⟨rfl,by decide⟩
  · rw [List.mem_singleton.mp second]
    exact fun launched => Bool.false_ne_true launched.1.2

/-- One entry is launched, and the request to terminate it is rejected. -/
theorem started_entry_kept : ¬ ∀ (plugin : AutostartPlugin) (desktopFileList : List DesktopFile),
    plugin.m_desktopFiles = [] → Undone plugin desktopFileList := by
  intro all
  have accepted := (all {} [keyringEntry] rfl).accepted
  rw [delivered_eq {} [keyringEntry] rfl] at accepted
  exact absurd accepted (by simp [chosen,Eligible,keyringEntry])

end AutostartPlugin

end LiriSession
