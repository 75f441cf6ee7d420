import LiriSession.QtValue
import LiriSession.Library.OrderedMap
import LiriSession.Library.Latest
import Mathlib.Data.String.Basic

/-! Plugin discovery of the session manager and of the daemon: candidates are
checked and put into a hash whose enumeration order nothing promises. -/
namespace LiriSession
open Library

/-- A loaded plugin object: its address, whether it passes the `dynamic_cast` to
the module class of the registry's own program, and whether its class declares
that module's interface with `Q_INTERFACES`. -/
structure QObject where
  address : Nat
  isModule : Bool
  declaresInterface : Bool
deriving DecidableEq, Repr

/-- `dynamic_cast<Module *>(instance)`; a plugin that failed to load is null. -/
def asModule (pointer : Option QObject) : Option QObject := pointer.filter QObject.isModule

/-- `qobject_cast<Module *>(instance)`: the interface is declared with an id, so
the cast asks the object for it and not for its class. -/
def qobjectCast (pointer : Option QObject) : Option QObject :=
  pointer.filter QObject.declaresInterface

/-- A plugin hash, as it is enumerated: each id occurs once. -/
structure PluginsMap where
  entries : List (String × Option QObject)
  distinct : (entries.map Prod.fst).Nodup

namespace PluginsMap

def empty : PluginsMap := ⟨[],.nil⟩

def insertEntry (id : String) (pointer : Option QObject) :
    List (String × Option QObject) → List (String × Option QObject)
  | [] => [(id,pointer)]
  | (k,p)::rest => if k = id then (id,pointer)::rest else (k,p)::insertEntry id pointer rest

theorem insertEntry_ids (id : String) (pointer : Option QObject)
    (entries : List (String × Option QObject)) :
    (insertEntry id pointer entries).map Prod.fst =
      if id ∈ entries.map Prod.fst then entries.map Prod.fst else entries.map Prod.fst ++ [id] := by
  induction entries with
  | nil => rfl
  | cons head rest ih =>
    simp only [insertEntry]
    split
    next same => simp [same]
    next apart =>
      simp only [List.map_cons,ih,List.mem_cons]
      split <;> simp_all [Ne.symm apart]

theorem insertEntry_distinct (id : String) (pointer : Option QObject)
    (entries : List (String × Option QObject)) (distinct : (entries.map Prod.fst).Nodup) :
    ((insertEntry id pointer entries).map Prod.fst).Nodup := by
  rw [insertEntry_ids]
  split
  next => exact distinct
  next absent =>
    have apart : List.Disjoint (entries.map Prod.fst) [id] := by simpa using absent
    exact distinct.append (List.nodup_singleton id) apart

def insert (map : PluginsMap) (id : String) (pointer : Option QObject) : PluginsMap :=
  ⟨insertEntry id pointer map.entries,insertEntry_distinct id pointer map.entries map.distinct⟩

def find? (map : PluginsMap) (id : String) : Option (Option QObject) := map.entries.lookup id

/-- `QHash::key`: the first id found that maps to the value, or an empty one. -/
def key (map : PluginsMap) (pointer : Option QObject) : String :=
  ((map.entries.find? (fun entry => entry.2 = pointer)).map Prod.fst).getD ""

def objects (map : PluginsMap) : List QObject := map.entries.filterMap Prod.snd

theorem object_id_unique (entries : List (String × Option QObject)) (object : QObject)
    (distinct : (entries.filterMap Prod.snd).Nodup) (first second : String)
    (left : (first,some object) ∈ entries) (right : (second,some object) ∈ entries) :
    first = second := by
  induction entries with
  | nil => simp at left
  | cons head rest ih =>
    obtain ⟨name,pointer⟩ := head
    cases pointer with
    | none =>
      have left : (first,some object) ∈ rest := by simpa using left
      have right : (second,some object) ∈ rest := by simpa using right
      exact ih distinct left right
    | some found =>
      obtain ⟨fresh,distinct⟩ := List.nodup_cons.mp distinct
      have absent (id : String) (same : object = found) : (id,some object) ∉ rest := by
        intro present
        exact fresh (same ▸ List.mem_filterMap.mpr ⟨_,present,rfl⟩)
      simp only [List.mem_cons,Prod.mk.injEq,Option.some.injEq] at left right
      rcases left with here | there <;> rcases right with head | tail
      · exact here.1.trans head.1.symm
      · exact absurd tail (absent second here.2)
      · exact absurd there (absent first head.2)
      · exact ih distinct there tail

/-- A pointer that only one id maps to is found under it. -/
theorem key_eq (map : PluginsMap) (id : String) (pointer : Option QObject)
    (member : (id,pointer) ∈ map.entries) (unique : ∀ other, (other,pointer) ∈ map.entries → other = id) :
    map.key pointer = id := by
  cases located : map.entries.find? (fun entry => entry.2 = pointer) with
  | none => simpa using List.find?_eq_none.mp located _ member
  | some entry =>
    obtain ⟨found,value⟩ := entry
    have present := List.mem_of_find?_eq_some located
    have same : value = pointer := by simpa using List.find?_some located
    subst same
    simpa [key,located] using unique found present

theorem key_of_mem (map : PluginsMap) (distinct : map.objects.Nodup) (id : String)
    (object : QObject) (member : (id,some object) ∈ map.entries) : map.key (some object) = id :=
  map.key_eq id (some object) member fun other present =>
    object_id_unique map.entries object distinct other id present member

theorem find?_eq_some (map : PluginsMap) (id : String) (pointer : Option QObject) :
    map.find? id = some pointer ↔ (id,pointer) ∈ map.entries := by
  apply Iff.intro
  · intro found
    obtain ⟨before,after,split,_⟩ := List.lookup_eq_some_iff.mp found
    rw [split]
    simp
  · intro member
    cases found : map.find? id with
    | none =>
      have absent := List.lookup_eq_none_iff.mp found (id,pointer) member
      simp at absent
    | some other =>
      obtain ⟨before,after,split,_⟩ := List.lookup_eq_some_iff.mp found
      have listed : (id,other) ∈ map.entries := by
        rw [split]
        simp
      have same := List.inj_on_of_nodup_map map.distinct listed member rfl
      exact congrArg (some ·.2) same

theorem find?_insert (map : PluginsMap) (id other : String) (pointer : Option QObject) :
    (map.insert id pointer).find? other = if other = id then some pointer else map.find? other := by
  change (insertEntry id pointer map.entries).lookup other = _
  unfold find?
  induction map.entries with
  | nil => exact lookup_cons_eq id other pointer []
  | cons head rest ih =>
    obtain ⟨found,old⟩ := head
    by_cases same : found = id
    · subst same
      rw [insertEntry,if_pos rfl,lookup_cons_eq,lookup_cons_eq]
      by_cases here : other = found
      · rw [if_pos here,if_pos here]
      · rw [if_neg here,if_neg here,if_neg here]
    · rw [insertEntry,if_neg same,lookup_cons_eq,lookup_cons_eq,ih]
      by_cases here : other = found
      · have apart : other ≠ id := fun given => same (here ▸ given)
        rw [if_pos here,if_neg apart,if_pos here]
      · rw [if_neg here,if_neg here]

end PluginsMap

structure Candidate where
  object : Option QObject
  json : QVariantMap

/-- The checks both registries make before they add a candidate: interface id,
metadata and plugin type. The id and the metadata of an accepted one. -/
def acceptedPlugin (iid type : String) (json : QVariantMap) : Option (String × QVariantMap) :=
  if !json.contains "IID" || !json.contains "MetaData" then none
  else if !(json.value "IID" .invalid).isString iid then none
  else
    let metaData := (json.value "MetaData" .invalid).toMap
    let id := (metaData.value "Id" .invalid).toString
    if (metaData.value "Type" .invalid).toString ≠ type then none else some (id,metaData)

namespace Daemon

/-- The daemon's registry also keeps the metadata of each plugin. -/
structure PluginRegistry where
  m_plugins : PluginsMap := .empty
  m_pluginsMetaData : OrderedMap String QVariantMap := .empty

namespace PluginRegistry

def addPlugin (registry : PluginRegistry) (candidate : Candidate) : PluginRegistry :=
  match acceptedPlugin "io.liri.Daemon.Module/1.0" "DaemonModule" candidate.json with
  | none => registry
  | some (id,metaData) =>
    { m_plugins := registry.m_plugins.insert id candidate.object
      m_pluginsMetaData := registry.m_pluginsMetaData.insert id metaData }

/-- Static plugins come first, then the files of the plugin directory. -/
def discover (registry : PluginRegistry) (candidates : List Candidate) : PluginRegistry :=
  candidates.foldl addPlugin registry

def getMetaData (registry : PluginRegistry) (name : String) : QVariantMap :=
  (registry.m_pluginsMetaData.find? name).getD []

def getInstance (registry : PluginRegistry) (name : String) : Option QObject :=
  (registry.m_plugins.find? name).getD none

def getNameForInstance (registry : PluginRegistry) (pointer : Option QObject) : String :=
  registry.m_plugins.key pointer

end PluginRegistry

structure Discovery where
  candidates : List Candidate
  plugins : PluginsMap
  enumerates :
    plugins.entries.Perm (PluginRegistry.discover {} candidates).m_plugins.entries

def Discovery.registry (found : Discovery) : PluginRegistry :=
  { PluginRegistry.discover {} found.candidates with m_plugins := found.plugins }

end Daemon

namespace Session

structure PluginRegistry where
  m_plugins : PluginsMap := .empty

namespace PluginRegistry

def addPlugin (registry : PluginRegistry) (candidate : Candidate) : PluginRegistry :=
  match acceptedPlugin "io.liri.Session.Module/1.0" "SessionModule" candidate.json with
  | none => registry
  | some (id,_) => { m_plugins := registry.m_plugins.insert id candidate.object }

def discover (registry : PluginRegistry) (candidates : List Candidate) : PluginRegistry :=
  candidates.foldl addPlugin registry

def getInstance (registry : PluginRegistry) (name : String) : Option QObject :=
  (registry.m_plugins.find? name).getD none

def getNameForInstance (registry : PluginRegistry) (pointer : Option QObject) : String :=
  registry.m_plugins.key pointer

end PluginRegistry

end Session

end LiriSession
