import LiriSession.ProcessLauncher
import LiriSession.SessionBus

/-! The autostart module of the session: which desktop entries it launches when
it starts, and what it records for the time it stops. -/
namespace LiriSession

/-- Case folding. Only ASCII letters fold to those of `true`. -/
def foldCase (char : Char) : Char := char.toLower

def compareFolded : List Char → List Char → Int
  | [], second => -second.length
  | first, [] => first.length
  | char::first, other::second =>
    if foldCase char = foldCase other then compareFolded first second
    else (foldCase char).toNat - (foldCase other).toNat

/-- `QString::compare` with `Qt::CaseInsensitive`. -/
def compareInsensitive (first second : String) : Int := compareFolded first.toList second.toList

/-- The module's members. `launched` holds the entries it has launched, oldest first. -/
structure AutostartPlugin where
  systemd : Bool := false
  m_desktopFiles : List String := []
  sent : List QDBusMessage := []
  launched : List DesktopFile := []

namespace AutostartPlugin

def setSystemdEnabled (plugin : AutostartPlugin) (enabled : Bool) : AutostartPlugin :=
  if plugin.systemd = enabled then plugin else { plugin with systemd := enabled }

def isSystemdEnabled (plugin : AutostartPlugin) : Bool := plugin.systemd

def launchMessage (fileName : String) : QDBusMessage where
  service := "io.liri.Launcher"
  path := "/io/liri/Launcher"
  interface := "io.liri.Launcher"
  member := "LaunchDesktopFile"
  arguments := [.string fileName]

def launchDesktopFile (plugin : AutostartPlugin) (fileName : String) : AutostartPlugin :=
  { plugin with sent := plugin.sent ++ [launchMessage fileName] }

/-- The value is that of the comparison, which is zero for equal texts. -/
def hidden (entry : DesktopFile) : Bool :=
  compareInsensitive (trimmed (entry.value "X-GNOME-HiddenUnderSystemd").toString) "true" ≠ 0

def startEntry (plugin : AutostartPlugin) (entry : DesktopFile) : AutostartPlugin :=
  if !entry.isVisible then plugin
  else if !entry.isSuitable "X-Liri" then plugin
  else if plugin.isSystemdEnabled && hidden entry then plugin
  else
    let plugin := { plugin with
      m_desktopFiles := plugin.m_desktopFiles ++ [entry.fileName]
      launched := plugin.launched ++ [entry] }
    plugin.launchDesktopFile entry.fileName

def start (plugin : AutostartPlugin) (desktopFileList : List DesktopFile) : AutostartPlugin :=
  desktopFileList.foldl startEntry plugin

def HiddenUnderSystemd (entry : DesktopFile) : Prop :=
  (trimmed (entry.value "X-GNOME-HiddenUnderSystemd").toString).toList.map foldCase = "true".toList

instance (entry : DesktopFile) : Decidable (HiddenUnderSystemd entry) :=
  inferInstanceAs (Decidable (_ = _))

def Eligible (entry : DesktopFile) : Prop :=
  entry.isVisible = true ∧ entry.isSuitable "X-Liri" = true

instance (entry : DesktopFile) : Decidable (Eligible entry) := inferInstanceAs (Decidable (_ ∧ _))

def meant (systemd : Bool) (desktopFileList : List DesktopFile) : List DesktopFile :=
  desktopFileList.filter fun entry => Eligible entry ∧ ¬(systemd = true ∧ HiddenUnderSystemd entry)

/-- `start` launches these entries, each once and in order, and records their files. -/
structure Launches (before after : AutostartPlugin) (entries : List DesktopFile) : Prop where
  launched : after.launched = before.launched ++ entries
  recorded : after.m_desktopFiles = before.m_desktopFiles ++ entries.map DesktopFile.fileName
  sent : after.sent = before.sent ++ entries.map fun entry => launchMessage entry.fileName

theorem compareFolded_eq_zero (first second : List Char) :
    compareFolded first second = 0 ↔ first.map foldCase = second.map foldCase := by
  induction first generalizing second with
  | nil =>
    cases second with
    | nil => simp [compareFolded]
    | cons other second =>
      simp only [compareFolded,List.length_cons,List.map_nil,List.map_cons,List.nil_eq,reduceCtorEq,
        iff_false]
      omega
  | cons char first ih =>
    cases second with
    | nil =>
      simp only [compareFolded,List.length_cons,List.map_nil,List.map_cons,reduceCtorEq,iff_false]
      omega
    | cons other second =>
      simp only [compareFolded,List.map_cons,List.cons.injEq]
      by_cases same : foldCase char = foldCase other
      · rw [if_pos same,ih]
        simp [same]
      · rw [if_neg same]
        have apart : (foldCase char).toNat ≠ (foldCase other).toNat :=
          fun equal => same (Char.toNat_inj.mp equal)
        simp only [same,false_and,iff_false]
        omega

theorem hidden_iff (entry : DesktopFile) : hidden entry = true ↔ ¬HiddenUnderSystemd entry := by
  rw [hidden,decide_eq_true_eq,compareInsensitive,ne_eq,compareFolded_eq_zero]
  exact Iff.rfl

def chosen (systemd : Bool) (desktopFileList : List DesktopFile) : List DesktopFile :=
  desktopFileList.filter fun entry => Eligible entry ∧ ¬(systemd = true ∧ hidden entry = true)

theorem startEntry_skips (plugin : AutostartPlugin) (entry : DesktopFile)
    (skipped : ¬(Eligible entry ∧ ¬(plugin.systemd = true ∧ hidden entry = true))) :
    plugin.startEntry entry = plugin := by
  unfold startEntry
  split
  · rfl
  · split
    · rfl
    · next visible suitable =>
      have eligible : Eligible entry := ⟨by simpa using visible,by simpa using suitable⟩
      rw [if_pos]
      simpa [isSystemdEnabled] using not_and_not_right.mp skipped eligible

theorem startEntry_launches (plugin : AutostartPlugin) (entry : DesktopFile)
    (taken : Eligible entry ∧ ¬(plugin.systemd = true ∧ hidden entry = true)) :
    plugin.startEntry entry = { plugin with
      m_desktopFiles := plugin.m_desktopFiles ++ [entry.fileName]
      sent := plugin.sent ++ [launchMessage entry.fileName]
      launched := plugin.launched ++ [entry] } := by
  obtain ⟨⟨visible,suitable⟩,shown⟩ := taken
  have open_ : ¬(plugin.isSystemdEnabled && hidden entry) = true := by
    rw [Bool.and_eq_true]
    exact shown
  unfold startEntry
  rw [visible,suitable,if_neg open_]
  rfl

theorem start_launches (plugin : AutostartPlugin) (desktopFileList : List DesktopFile) :
    Launches plugin (plugin.start desktopFileList) (chosen plugin.systemd desktopFileList) := by
  induction desktopFileList generalizing plugin with
  | nil =>
    apply Launches.mk <;> simp [start,chosen]
  | cons entry entries ih =>
    have rest := ih (plugin.startEntry entry)
    by_cases taken : Eligible entry ∧ ¬(plugin.systemd = true ∧ hidden entry = true)
    · have first : chosen plugin.systemd (entry::entries) = entry::chosen plugin.systemd entries :=
        List.filter_cons_of_pos (decide_eq_true taken)
      rw [startEntry_launches plugin entry taken] at rest
      rw [first,start,List.foldl_cons,startEntry_launches plugin entry taken]
      apply Launches.mk
      · simpa [start] using rest.launched
      · simpa [start] using rest.recorded
      · simpa [start] using rest.sent
    · have skipped : chosen plugin.systemd (entry::entries) = chosen plugin.systemd entries :=
        List.filter_cons_of_neg (by rwa [decide_eq_true_eq])
      rw [startEntry_skips plugin entry taken] at rest
      rw [skipped,start,List.foldl_cons,startEntry_skips plugin entry taken]
      exact rest

theorem chosen_eq_meant_iff (systemd : Bool) (desktopFileList : List DesktopFile) :
    chosen systemd desktopFileList = meant systemd desktopFileList ↔
      systemd = false ∨ ∀ entry ∈ desktopFileList, ¬Eligible entry := by
  apply Iff.intro
  · intro same
    by_cases plain : systemd = false
    · exact .inl plain
    · have enabled : systemd = true := by simpa using plain
      refine .inr ?_
      intro entry member eligible
      have launched : entry ∈ chosen systemd desktopFileList ↔ HiddenUnderSystemd entry := by
        rw [chosen,List.mem_filter,decide_eq_true_eq,hidden_iff]
        simp [member,eligible,enabled]
      have expected : entry ∈ meant systemd desktopFileList ↔ ¬HiddenUnderSystemd entry := by
        rw [meant,List.mem_filter,decide_eq_true_eq]
        simp [member,eligible,enabled]
      rw [same,expected] at launched
      exact iff_not_self launched.symm
  · intro condition
    apply List.filter_congr
    intro entry member
    rcases condition with plain | none
    · simp [plain]
    · simp [none entry member]

/-- The module launches the entries it is meant to exactly when systemd is not
enabled or no entry is eligible at all. -/
theorem start_launches_meant_iff (plugin : AutostartPlugin) (desktopFileList : List DesktopFile) :
    Launches plugin (plugin.start desktopFileList) (meant plugin.systemd desktopFileList) ↔
      plugin.systemd = false ∨ ∀ entry ∈ desktopFileList, ¬Eligible entry := by
  have actual := start_launches plugin desktopFileList
  rw [← chosen_eq_meant_iff]
  apply Iff.intro
  · intro launches
    exact List.append_cancel_left (actual.launched.symm.trans launches.launched)
  · intro same
    rw [← same]
    exact actual

def keyringEntry : DesktopFile where
  fileName := "/etc/xdg/autostart/keyring.desktop"
  isVisible := true
  isSuitable := fun _ => true
  value := fun _ => .invalid
  isDBusActivatable := false
  expandExecString := fun _ => ["keyring"]

theorem plain_entry_left_out : ¬Launches { systemd := true }
    (start { systemd := true } [keyringEntry]) (meant true [keyringEntry]) := by
  intro launches
  exact absurd launches.recorded (by decide)

end AutostartPlugin

end LiriSession
