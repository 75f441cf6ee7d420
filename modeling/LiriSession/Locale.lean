import LiriSession.Environment
import LiriSession.SessionBus

/-! The locale module of the daemon, and what becomes of its messages when they reach
the objects of the session manager. -/
namespace LiriSession
open Library

/-- The two parts of an entry of the system locale, if it has exactly two. -/
def nameValue (entry : String) : Option (String × String) :=
  let name := entry.toList.takeWhile (· ≠ '=')
  match entry.toList.dropWhile (· ≠ '=') with
  | [] => none
  | _::value => if '=' ∈ value then none else some (String.ofList name,String.ofList value)

/-- The module's members, with the values of its settings and the messages it has sent,
oldest first. -/
structure LocalePlugin where
  m_settings : OrderedMap String String
  m_systemLocale : OrderedMap String String := .empty
  m_language : String := ""
  m_region : String := ""
  sent : List QDBusMessage := []

namespace LocalePlugin

def getSystemLocale (plugin : LocalePlugin) (locale : List String) : LocalePlugin :=
  locale.foldl (fun plugin entry =>
    match nameValue entry with
    | none => plugin
    | some (name,value) => { plugin with m_systemLocale := plugin.m_systemLocale.insert name value })
    plugin

def constructed (locale : List String) (settings : OrderedMap String String) : LocalePlugin :=
  getSystemLocale { m_settings := settings } locale

def setEnvironmentMessage (key value : String) : QDBusMessage where
  service := "io.liri.Launcher"
  path := "/io/liri/Launcher"
  interface := "io.liri.Launcher"
  member := "SetEnvironment"
  arguments := [.string key,.string value]

def setEnvironment (plugin : LocalePlugin) (key value : String) : LocalePlugin :=
  { plugin with sent := plugin.sent ++ [setEnvironmentMessage key value] }

/-- Reading a missing key of the map gives it an empty value. -/
def systemLang (plugin : LocalePlugin) : String × LocalePlugin :=
  match plugin.m_systemLocale.find? "LANG" with
  | some value => (value,plugin)
  | none => ("",{ plugin with m_systemLocale := plugin.m_systemLocale.insert "LANG" "" })

def languageVariables : List String := ["LANG","LANGUAGE","LC_MESSAGES"]

def regionVariables : List String :=
  ["LC_CTYPE","LC_NUMERIC","LC_TIME","LC_COLLATE","LC_MONETARY","LC_PAPER","LC_NAME","LC_ADDRESS",
    "LC_TELEPHONE","LC_MEASUREMENT","LC_IDENTIFICATION"]

def setAll (plugin : LocalePlugin) (keys : List String) (value : String) : LocalePlugin :=
  keys.foldl (fun plugin key => plugin.setEnvironment key value) plugin

def settingOrLang (plugin : LocalePlugin) (key : String) : String × LocalePlugin :=
  let value := (plugin.m_settings.find? key).getD ""
  if value = "" then plugin.systemLang else (value,plugin)

def handleSettingChanged (plugin : LocalePlugin) (key : String) : LocalePlugin :=
  if key = "language" then
    let (language,plugin) := plugin.settingOrLang "language"
    { plugin with m_language := language }.setAll languageVariables language
  else if key = "region" then
    let (region,plugin) := plugin.settingOrLang "region"
    { plugin with m_region := region }.setAll regionVariables region
  else plugin

def start (plugin : LocalePlugin) : LocalePlugin :=
  (plugin.handleSettingChanged "language").handleSettingChanged "region"

/-- A setting takes a new value, and the module is told. -/
def settingChanged (plugin : LocalePlugin) (change : String × String) : LocalePlugin :=
  { plugin with m_settings := plugin.m_settings.insert change.1 change.2 }.handleSettingChanged change.1

end LocalePlugin

namespace Session

/-- A call that reaches an object of the session manager. Only its own two methods
bear on the environment; the launcher's start processes. -/
def handle (environments : Environments) (message : QDBusMessage) (object : ExportedObject) :
    Environments :=
  if object.path = sessionManagerObject.path then
    match message.member, message.arguments with
    | "SetEnvironment", [.string key,.string value] => setEnvironment environments key value
    | "UnsetEnvironment", [.string key] => unsetEnvironment environments key
    | _, _ => environments
  else environments

def deliverMessage (environments : Environments) (message : QDBusMessage) : Environments :=
  match sessionConnection.receiver message with
  | none => environments
  | some object => handle environments message object

end Session

namespace LocalePlugin
open Session

/-- What the settings ask for: the system's value where a setting is empty. -/
def effective (locale : List String) (settings : OrderedMap String String) (key : String) : String :=
  let value := (settings.find? key).getD ""
  if value = "" then ((constructed locale settings).m_systemLocale.find? "LANG").getD "" else value

structure InForce (process : ProcessEnvironment) (language region : String) : Prop where
  language : ∀ key ∈ languageVariables, process.environ.find? key = some language
  region : ∀ key ∈ regionVariables, process.environ.find? key = some region

def changed (locale : List String) (settings : OrderedMap String String)
    (changes : List (String × String)) : LocalePlugin :=
  changes.foldl settingChanged (constructed locale settings).start

def settingsAfter (settings : OrderedMap String String) (changes : List (String × String)) :
    OrderedMap String String :=
  settings.insertAll changes

def SetsThroughLauncher (plugin : LocalePlugin) : Prop :=
  ∀ message ∈ plugin.sent, ∃ key value, message = setEnvironmentMessage key value

theorem setAll_sent (plugin : LocalePlugin) (keys : List String) (value : String)
    (sets : SetsThroughLauncher plugin) : SetsThroughLauncher (plugin.setAll keys value) := by
  induction keys generalizing plugin with
  | nil => exact sets
  | cons key keys ih =>
    apply ih (plugin.setEnvironment key value)
    intro message member
    rcases List.mem_append.mp member with old | new
    · exact sets message old
    · exact ⟨key,value,List.mem_singleton.mp new⟩

theorem settingOrLang_sent (plugin : LocalePlugin) (key : String) :
    (plugin.settingOrLang key).2.sent = plugin.sent := by
  dsimp only [settingOrLang,systemLang]
  split
  · split <;> rfl
  · rfl

theorem handleSettingChanged_sent (plugin : LocalePlugin) (key : String)
    (sets : SetsThroughLauncher plugin) : SetsThroughLauncher (plugin.handleSettingChanged key) := by
  have kept (setting : String) : SetsThroughLauncher (plugin.settingOrLang setting).2 := by
    unfold SetsThroughLauncher
    rw [settingOrLang_sent]
    exact sets
  unfold handleSettingChanged
  split
  · exact setAll_sent _ _ _ (kept "language")
  · split
    · exact setAll_sent _ _ _ (kept "region")
    · exact sets

theorem getSystemLocale_sent (plugin : LocalePlugin) (locale : List String) :
    (plugin.getSystemLocale locale).sent = plugin.sent := by
  unfold getSystemLocale
  refine List.foldlRecOn locale _ (motive := fun other : LocalePlugin => other.sent = plugin.sent) rfl ?_
  intro other same entry _
  split
  · exact same
  · exact same

theorem changed_sent (locale : List String) (settings : OrderedMap String String)
    (changes : List (String × String)) : SetsThroughLauncher (changed locale settings changes) := by
  have fresh : SetsThroughLauncher (constructed locale settings) := by
    intro message member
    rw [constructed,getSystemLocale_sent] at member
    cases member
  have started : SetsThroughLauncher (constructed locale settings).start :=
    handleSettingChanged_sent _ "region" (handleSettingChanged_sent _ "language" fresh)
  unfold changed
  refine List.foldlRecOn changes settingChanged (motive := SetsThroughLauncher) started ?_
  intro plugin sets change _
  exact handleSettingChanged_sent _ change.1 sets

theorem setEnvironmentMessage_rejected (key value : String) :
    sessionConnection.receiver (setEnvironmentMessage key value) = none := by
  simp [QDBusConnection.receiver,sessionConnection,setEnvironmentMessage,ExportedObject.answers,
    launcherObject,sessionManagerObject]

theorem delivered_eq (environments : Environments) (messages : List QDBusMessage)
    (sets : ∀ message ∈ messages, ∃ key value, message = setEnvironmentMessage key value) :
    messages.foldl deliverMessage environments = environments := by
  induction messages with
  | nil => rfl
  | cons message messages ih =>
    obtain ⟨⟨key,value,rfl⟩,rest⟩ := List.forall_mem_cons.mp sets
    have ignored : deliverMessage environments (setEnvironmentMessage key value) = environments := by
      rw [deliverMessage,setEnvironmentMessage_rejected]
    rw [List.foldl_cons,ignored]
    exact ih rest

/-- After any changes of the settings the session manager has the variables they ask
for exactly when it had them before. -/
theorem delivered_inForce_iff (locale : List String) (settings : OrderedMap String String)
    (changes : List (String × String)) (environments : Environments) :
    let delivered := (changed locale settings changes).sent.foldl deliverMessage environments
    let language := effective locale (settingsAfter settings changes) "language"
    let region := effective locale (settingsAfter settings changes) "region"
    InForce delivered.process language region ↔ InForce environments.process language region := by
  intro delivered language region
  have same : delivered = environments :=
    delivered_eq environments _ (changed_sent locale settings changes)
  rw [same]

theorem system_locale_not_set :
    let delivered := (changed ["LANG=en_US.UTF-8"] .empty []).sent.foldl deliverMessage
      (noEnvironment false)
    ¬InForce delivered.process (effective ["LANG=en_US.UTF-8"] (settingsAfter .empty []) "language")
      (effective ["LANG=en_US.UTF-8"] (settingsAfter .empty []) "region") := by
  intro delivered both
  have same : delivered = noEnvironment false := delivered_eq _ _ (changed_sent _ _ _)
  have present := both.language "LANG" (by decide)
  rw [same] at present
  exact absurd present (by simp [noEnvironment])

end LocalePlugin

end LiriSession
