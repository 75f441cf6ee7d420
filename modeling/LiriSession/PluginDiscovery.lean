import LiriSession.PluginRegistry
import Mathlib.Data.List.Induction

/-! What the registries hold after a discovery: the last plugin accepted under each id, also
when its file could not be loaded. -/
namespace LiriSession
open Library

/-- A checked candidate as an entry for the plugin hash. -/
def offeredEntry (iid type : String) (candidate : Candidate) : Option (String × Option QObject) :=
  (acceptedPlugin iid type candidate.json).map fun accepted => (accepted.1,candidate.object)

def offered (iid type : String) (candidates : List Candidate) : List (String × Option QObject) :=
  candidates.filterMap (offeredEntry iid type)

/-- The hash in the order in which it is enumerated. -/
structure Enumeration (discovered : PluginsMap) where
  plugins : PluginsMap
  same : plugins.entries.Perm discovered.entries

/-- Candidates that were not loaded come before the loaded ones of their id, and there is one. -/
def FailuresFirst (entries : List (String × Option QObject)) : Prop :=
  ∀ before id after, entries = before ++ (id,none)::after →
    (∀ object, (id,some object) ∉ before) ∧ ∃ object, (id,some object) ∈ after

/-- Each id ends with a loaded plugin, and none gives way to a failure. -/
structure Loaded (entries : List (String × Option QObject)) : Prop where
  last : ∀ id, latest entries id ≠ some none
  kept : ∀ before id after, entries = before ++ (id,none)::after →
    ∀ object, latest before id ≠ some (some object)

/-- As long as no failure displaces a plugin, an id for which one was loaded has one. -/
theorem Loaded.latest_loaded {entries : List (String × Option QObject)} (loaded : Loaded entries)
    (before after : List (String × Option QObject)) (split : entries = before ++ after) (id : String)
    (object : QObject) (member : (id,some object) ∈ before) :
    ∃ current, latest before id = some (some current) := by
  induction before using List.reverseRecOn generalizing after with
  | nil => cases member
  | append_singleton before entry ih =>
    rw [List.append_assoc] at split
    obtain ⟨other,pointer⟩ := entry
    rw [latest_concat]
    rcases List.mem_append.mp member with earlier | new
    · obtain ⟨current,found⟩ := ih _ split earlier
      by_cases same : id = other
      · subst same
        cases pointer with
        | none => exact absurd found (loaded.kept before id after split current)
        | some replaced => exact ⟨replaced,if_pos rfl⟩
      · exact ⟨current,by rw [if_neg same,found]⟩
    · cases List.mem_singleton.mp new
      exact ⟨object,if_pos rfl⟩

theorem loaded_iff (entries : List (String × Option QObject)) : Loaded entries ↔ FailuresFirst entries := by
  apply Iff.intro
  · intro loaded before id after split
    apply And.intro
    · intro object member
      obtain ⟨current,found⟩ := loaded.latest_loaded before _ split id object member
      exact loaded.kept before id after split current found
    · have last : latest entries id = (latest after id).or (some none) := by
        rw [split,List.append_cons,latest_append,latest_concat,if_pos rfl]
      cases later : latest after id with
      | none =>
        rw [later] at last
        exact absurd last (loaded.last id)
      | some pointer =>
        cases pointer with
        | none =>
          rw [later] at last
          exact absurd last (loaded.last id)
        | some object => exact ⟨object,latest_mem after id _ later⟩
  · intro first
    apply Loaded.mk
    · intro id last
      obtain ⟨before,after,split,absent⟩ := (latest_eq_some entries id none).mp last
      obtain ⟨object,member⟩ := (first before id after split).2
      exact absent _ member
    · intro before id after split object found
      exact (first before id after split).1 object (latest_mem before id _ found)

theorem Enumeration.find? (discovered : PluginsMap) (order : Enumeration discovered) (id : String) :
    order.plugins.find? id = discovered.find? id := by
  apply Option.ext
  intro pointer
  rw [PluginsMap.find?_eq_some,PluginsMap.find?_eq_some]
  exact order.same.mem_iff

/-- Of both registries: the plugins are loaded, none has been displaced by a failure, and the
name of each leads back to it. -/
structure Sound (discover : List Candidate → PluginsMap) (candidates : List Candidate)
    (plugins : PluginsMap) : Prop where
  loaded : ∀ id pointer, plugins.find? id = some pointer → pointer ≠ none
  kept : ∀ before candidate after, candidates = before ++ candidate::after → candidate.object = none →
    ∀ id object, ((discover before).find? id).getD none = some object →
      ((discover (before ++ [candidate])).find? id).getD none = some object
  named : ∀ id pointer, plugins.find? id = some pointer →
    plugins.key ((plugins.find? id).getD none) = id

theorem offeredEntry_object (iid type : String) (candidate : Candidate) (id : String)
    (pointer : Option QObject) (given : offeredEntry iid type candidate = some (id,pointer)) :
    candidate.object = pointer := by
  obtain ⟨accepted,_,same⟩ := Option.map_eq_some_iff.mp given
  exact congrArg Prod.snd same

/-- If each candidate that is accepted goes into the hash under its id, the last ones stay. -/
theorem find?_offered {μ : Type} (iid type : String) (add : μ → Candidate → μ) (plugins : μ → PluginsMap)
    (adds : ∀ registry candidate, plugins (add registry candidate) =
      (offeredEntry iid type candidate).elim (plugins registry)
        fun entry => (plugins registry).insert entry.1 entry.2)
    (registry : μ) (candidates : List Candidate) (id : String) :
    (plugins (candidates.foldl add registry)).find? id =
      (latest (offered iid type candidates) id).or ((plugins registry).find? id) := by
  apply find_foldl add (offeredEntry iid type) fun registry id => (plugins registry).find? id
  intro registry candidate other
  rw [adds]
  cases offeredEntry iid type candidate with
  | none => rfl
  | some entry =>
    obtain ⟨name,pointer⟩ := entry
    rw [Option.elim_some,PluginsMap.find?_insert,Option.toList_some,latest_singleton]
    split <;> rfl

theorem offered_concat (iid type : String) (candidates : List Candidate) (candidate : Candidate) :
    offered iid type (candidates ++ [candidate]) =
      offered iid type candidates ++ (offeredEntry iid type candidate).toList := by
  rw [offered,List.filterMap_append]
  cases given : offeredEntry iid type candidate <;> simp [given,offered]

theorem offered_split (iid type : String) (candidates : List Candidate)
    (before after : List (String × Option QObject)) (entry : String × Option QObject)
    (split : offered iid type candidates = before ++ entry::after) :
    ∃ earlier candidate later, candidates = earlier ++ candidate::later ∧
      offered iid type earlier = before ∧ offeredEntry iid type candidate = some entry ∧
      offered iid type later = after := by
  obtain ⟨first,rest,whole,given,others⟩ := List.filterMap_eq_append_iff.mp split
  obtain ⟨passed,candidate,later,parts,refused,accepted,last⟩ := List.filterMap_eq_cons_iff.mp others
  refine ⟨first ++ passed,candidate,later,?_,?_,accepted,last⟩
  · rw [whole,parts,List.append_assoc]
  · rw [offered,List.filterMap_append,given,List.filterMap_eq_nil_iff.mpr refused,List.append_nil]

theorem offered_objects (iid type : String) (candidates : List Candidate) :
    ((offered iid type candidates).filterMap Prod.snd).Sublist
      (candidates.filterMap Candidate.object) := by
  induction candidates with
  | nil => exact .slnil
  | cons candidate candidates ih =>
    have own : (candidate::candidates).filterMap Candidate.object =
        candidate.object.toList ++ candidates.filterMap Candidate.object := by
      cases object : candidate.object <;> simp [object]
    cases given : offeredEntry iid type candidate with
    | none =>
      rw [offered,List.filterMap_cons_none given,own]
      exact ih.trans (List.sublist_append_right _ _)
    | some entry =>
      have object := offeredEntry_object iid type candidate entry.1 entry.2 given
      have first : (entry::offered iid type candidates).filterMap Prod.snd =
          candidate.object.toList ++ (offered iid type candidates).filterMap Prod.snd := by
        cases pointer : entry.2 <;> simp [object,pointer]
      rw [offered,List.filterMap_cons_some given,own]
      exact first ▸ ih.append_left _

theorem Loaded.sound (iid type : String) (discover : List Candidate → PluginsMap)
    (finds : ∀ candidates id, (discover candidates).find? id = latest (offered iid type candidates) id)
    (candidates : List Candidate) (plugins : PluginsMap)
    (final : ∀ id, plugins.find? id = latest (offered iid type candidates) id)
    (distinct : (candidates.filterMap Candidate.object).Nodup)
    (loaded : Loaded (offered iid type candidates)) : Sound discover candidates plugins := by
  have present (id : String) (pointer : Option QObject) (found : plugins.find? id = some pointer) :
      pointer ≠ none := by
    intro failed
    rw [failed,final] at found
    exact loaded.last id found
  refine ⟨present,?_,?_⟩
  · intro before candidate after whole failed id object found
    rw [finds] at found ⊢
    rw [offered_concat]
    cases given : offeredEntry iid type candidate with
    | none => rw [Option.toList_none,List.append_nil,found]
    | some entry =>
      obtain ⟨other,pointer⟩ := entry
      have null := (offeredEntry_object iid type candidate other pointer given).symm.trans failed
      subst null
      rw [Option.toList_some,latest_concat]
      by_cases same : id = other
      · subst same
        have split : offered iid type candidates =
            offered iid type before ++ (id,none)::offered iid type after := by
          rw [whole,offered,List.filterMap_append,List.filterMap_cons_some given]
          rfl
        have current : latest (offered iid type before) id = some (some object) := by
          cases last : latest (offered iid type before) id with
          | none => simp [last] at found
          | some pointer => simpa [last] using found
        exact absurd current (loaded.kept _ id _ split object)
      · rw [if_neg same,found]
  · intro id pointer found
    rw [found,Option.getD_some]
    cases pointer with
    | none => exact absurd rfl (present id none found)
    | some object =>
      have entry (other : String) (member : (other,some object) ∈ plugins.entries) :
          (other,some object) ∈ offered iid type candidates :=
        latest_mem _ _ _ ((final other).symm.trans ((plugins.find?_eq_some other _).mpr member))
      have member := (plugins.find?_eq_some id _).mp found
      apply plugins.key_eq id (some object) member
      intro other present
      have once := distinct.sublist (offered_objects iid type candidates)
      exact PluginsMap.object_id_unique _ object once other id (entry other present) (entry id member)

theorem sound_iff (iid type : String) (discover : List Candidate → PluginsMap)
    (finds : ∀ candidates id, (discover candidates).find? id = latest (offered iid type candidates) id)
    (candidates : List Candidate) (order : Enumeration (discover candidates))
    (distinct : (candidates.filterMap Candidate.object).Nodup) :
    Sound discover candidates order.plugins ↔ FailuresFirst (offered iid type candidates) := by
  have final (id : String) : order.plugins.find? id = latest (offered iid type candidates) id :=
    (order.find? _ id).trans (finds candidates id)
  rw [← loaded_iff]
  apply Iff.intro
  · intro sound
    apply Loaded.mk
    · intro id last
      exact sound.loaded id none ((final id).trans last) rfl
    · intro before id after split object found
      obtain ⟨earlier,candidate,later,whole,first,given,_⟩ := offered_split iid type candidates before after _ split
      have failed := offeredEntry_object iid type candidate id none given
      have kept := sound.kept earlier candidate later whole failed id object
        (by rw [finds,first,found]; rfl)
      rw [finds,offered_concat,given,Option.toList_some,latest_concat,if_pos rfl] at kept
      cases kept
  · exact Loaded.sound iid type discover finds candidates order.plugins final distinct

namespace Session.PluginRegistry

def accepts (candidates : List Candidate) : List (String × Option QObject) :=
  offered "io.liri.Session.Module/1.0" "SessionModule" candidates

/-- The registry after a discovery, with its hash in some order. -/
def discovered (candidates : List Candidate) (order : Enumeration (discover {} candidates).m_plugins) :
    PluginRegistry := ⟨order.plugins⟩

structure Consistent (candidates : List Candidate)
    (order : Enumeration (discover {} candidates).m_plugins) : Prop where
  loaded : ∀ id pointer, (discovered candidates order).m_plugins.find? id = some pointer → pointer ≠ none
  kept : ∀ before candidate after, candidates = before ++ candidate::after → candidate.object = none →
    ∀ id object, (discover {} before).getInstance id = some object →
      (discover {} (before ++ [candidate])).getInstance id = some object
  named : ∀ id pointer, (discovered candidates order).m_plugins.find? id = some pointer →
    (discovered candidates order).getNameForInstance ((discovered candidates order).getInstance id) = id

theorem find?_discover (candidates : List Candidate) (id : String) :
    (discover {} candidates).m_plugins.find? id = latest (accepts candidates) id := by
  have found := find?_offered "io.liri.Session.Module/1.0" "SessionModule" addPlugin
    PluginRegistry.m_plugins ?_ {} candidates id
  · exact found.trans Option.or_none
  · intro registry candidate
    unfold addPlugin offeredEntry
    cases acceptedPlugin "io.liri.Session.Module/1.0" "SessionModule" candidate.json <;> rfl

theorem consistent_iff_failuresFirst (candidates : List Candidate)
    (order : Enumeration (discover {} candidates).m_plugins)
    (distinct : (candidates.filterMap Candidate.object).Nodup) :
    Consistent candidates order ↔ FailuresFirst (accepts candidates) := by
  have sound := sound_iff "io.liri.Session.Module/1.0" "SessionModule"
    (fun candidates => (discover {} candidates).m_plugins) find?_discover candidates order distinct
  refine Iff.trans ⟨?_,?_⟩ sound
  · exact fun consistent => ⟨consistent.loaded,consistent.kept,consistent.named⟩
  · exact fun sound => ⟨sound.loaded,sound.kept,sound.named⟩

end Session.PluginRegistry

namespace Daemon.PluginRegistry

def accepts (candidates : List Candidate) : List (String × Option QObject) :=
  offered "io.liri.Daemon.Module/1.0" "DaemonModule" candidates

def discovered (candidates : List Candidate) (order : Enumeration (discover {} candidates).m_plugins) :
    PluginRegistry := { discover {} candidates with m_plugins := order.plugins }

/-- The daemon's registry also has the metadata of each plugin that it holds, and no others. -/
structure Consistent (candidates : List Candidate)
    (order : Enumeration (discover {} candidates).m_plugins) : Prop where
  loaded : ∀ id pointer, (discovered candidates order).m_plugins.find? id = some pointer → pointer ≠ none
  kept : ∀ before candidate after, candidates = before ++ candidate::after → candidate.object = none →
    ∀ id object, (discover {} before).getInstance id = some object →
      (discover {} (before ++ [candidate])).getInstance id = some object
  named : ∀ id pointer, (discovered candidates order).m_plugins.find? id = some pointer →
    (discovered candidates order).getNameForInstance ((discovered candidates order).getInstance id) = id
  ids : ∀ id, ((discovered candidates order).m_pluginsMetaData.find? id).isSome =
    ((discovered candidates order).m_plugins.find? id).isSome
  metaData : ∀ id pointer, (discovered candidates order).m_plugins.find? id = some pointer →
    ∃ candidate ∈ candidates, ∃ metaData, candidate.object = pointer ∧
      acceptedPlugin "io.liri.Daemon.Module/1.0" "DaemonModule" candidate.json = some (id,metaData) ∧
      (discovered candidates order).m_pluginsMetaData.find? id = some metaData

theorem find?_discover (candidates : List Candidate) (id : String) :
    (discover {} candidates).m_plugins.find? id = latest (accepts candidates) id := by
  have found := find?_offered "io.liri.Daemon.Module/1.0" "DaemonModule" addPlugin
    PluginRegistry.m_plugins ?_ {} candidates id
  · exact found.trans Option.or_none
  · intro registry candidate
    unfold addPlugin offeredEntry
    cases acceptedPlugin "io.liri.Daemon.Module/1.0" "DaemonModule" candidate.json <;> rfl

def describedEntry (candidate : Candidate) : Option (String × QVariantMap) :=
  acceptedPlugin "io.liri.Daemon.Module/1.0" "DaemonModule" candidate.json

/-- What is accepted of the candidates, with the metadata. -/
def described (candidates : List Candidate) : List (String × QVariantMap) :=
  candidates.filterMap describedEntry

theorem find?_metaData (candidates : List Candidate) (id : String) :
    (discover {} candidates).m_pluginsMetaData.find? id = latest (described candidates) id := by
  have found := find_foldl addPlugin describedEntry
    (fun registry id => registry.m_pluginsMetaData.find? id) ?_ candidates {} id
  · exact found.trans (Option.or_none)
  · intro registry candidate id
    unfold addPlugin describedEntry
    cases acceptedPlugin "io.liri.Daemon.Module/1.0" "DaemonModule" candidate.json with
    | none => rfl
    | some accepted =>
      change (registry.m_pluginsMetaData.insert accepted.1 accepted.2).find? id =
        (latest [(accepted.1,accepted.2)] id).or (registry.m_pluginsMetaData.find? id)
      rw [OrderedMap.find?_insert,latest_singleton]
      split <;> rfl

theorem accepts_ids (candidates : List Candidate) :
    (accepts candidates).map Prod.fst = (described candidates).map Prod.fst := by
  unfold accepts offered described
  rw [List.map_filterMap,List.map_filterMap]
  congr 1
  funext candidate
  unfold offeredEntry
  rw [Option.map_map]
  rfl

/-- The metadata of an id is that of the candidate whose object it has. -/
theorem described_latest (candidates : List Candidate) (id : String) (pointer : Option QObject)
    (last : latest (accepts candidates) id = some pointer) :
    ∃ candidate ∈ candidates, ∃ metaData, candidate.object = pointer ∧
      describedEntry candidate = some (id,metaData) ∧ latest (described candidates) id = some metaData := by
  obtain ⟨before,after,split,absent⟩ := (latest_eq_some _ id pointer).mp last
  obtain ⟨earlier,candidate,later,whole,_,given,rest⟩ := offered_split _ _ candidates before after _ split
  obtain ⟨⟨name,metaData⟩,accepted,same⟩ := Option.map_eq_some_iff.mp given
  obtain ⟨named,object⟩ := Prod.mk.inj same
  dsimp only at named
  subst named object
  refine ⟨candidate,whole ▸ List.mem_append_right _ (List.mem_cons_self ..),metaData,rfl,accepted,?_⟩
  apply (latest_eq_some _ name metaData).mpr
  refine ⟨described earlier,described later,?_,?_⟩
  · have own : describedEntry candidate = some (name,metaData) := accepted
    rw [whole,described,List.filterMap_append,List.filterMap_cons_some own]
    rfl
  · intro other member
    have listed : name ∈ (described later).map Prod.fst := List.mem_map_of_mem member
    rw [← accepts_ids,accepts,rest] at listed
    obtain ⟨⟨_,value⟩,present,rfl⟩ := List.mem_map.mp listed
    exact absent value present

theorem consistent_iff_failuresFirst (candidates : List Candidate)
    (order : Enumeration (discover {} candidates).m_plugins)
    (distinct : (candidates.filterMap Candidate.object).Nodup) :
    Consistent candidates order ↔ FailuresFirst (accepts candidates) := by
  have sound := sound_iff "io.liri.Daemon.Module/1.0" "DaemonModule"
    (fun candidates => (discover {} candidates).m_plugins) find?_discover candidates order distinct
  refine Iff.trans ⟨?_,?_⟩ sound
  · exact fun consistent => ⟨consistent.loaded,consistent.kept,consistent.named⟩
  · intro sound
    refine ⟨sound.loaded,sound.kept,sound.named,?_,?_⟩
    · intro id
      change ((discover {} candidates).m_pluginsMetaData.find? id).isSome = (order.plugins.find? id).isSome
      rw [order.find?,find?_discover,find?_metaData,Bool.eq_iff_iff,latest_isSome,latest_isSome]
      have ids : id ∈ (described candidates).map Prod.fst ↔ id ∈ (accepts candidates).map Prod.fst := by
        rw [accepts_ids]
      simpa using ids
    · intro id pointer found
      change order.plugins.find? id = some pointer at found
      change ∃ candidate ∈ candidates, ∃ metaData, candidate.object = pointer ∧ _ ∧
        (discover {} candidates).m_pluginsMetaData.find? id = some metaData
      rw [order.find?,find?_discover] at found
      rw [find?_metaData]
      exact described_latest candidates id pointer found

end Daemon.PluginRegistry

namespace PluginDiscovery

/-- Both registries hold what they should exactly when no id keeps a failure and none comes
after a loaded plugin of its id. -/
theorem registries_consistent_iff (sessionCandidates daemonCandidates : List Candidate)
    (sessionOrder : Enumeration (Session.PluginRegistry.discover {} sessionCandidates).m_plugins)
    (daemonOrder : Enumeration (Daemon.PluginRegistry.discover {} daemonCandidates).m_plugins)
    (sessionDistinct : (sessionCandidates.filterMap Candidate.object).Nodup)
    (daemonDistinct : (daemonCandidates.filterMap Candidate.object).Nodup) :
    (Session.PluginRegistry.Consistent sessionCandidates sessionOrder ↔
      FailuresFirst (Session.PluginRegistry.accepts sessionCandidates)) ∧
    (Daemon.PluginRegistry.Consistent daemonCandidates daemonOrder ↔
      FailuresFirst (Daemon.PluginRegistry.accepts daemonCandidates)) :=
  ⟨Session.PluginRegistry.consistent_iff_failuresFirst sessionCandidates sessionOrder sessionDistinct,
    Daemon.PluginRegistry.consistent_iff_failuresFirst daemonCandidates daemonOrder daemonDistinct⟩

def sessionPlugin (object : Option QObject) : Candidate where
  object := object
  json := [("IID",.string "io.liri.Session.Module/1.0"),
    ("MetaData",.map [("Id",.string "shell"),("Type",.string "SessionModule")])]

def daemonPlugin : Candidate where
  object := some ⟨2,true,true⟩
  json := [("IID",.string "io.liri.Daemon.Module/1.0"),
    ("MetaData",.map [("Id",.string "locale"),("Type",.string "DaemonModule")])]

/-- One plugin that was loaded, after a number of failures of its id. -/
theorem failuresFirst_last (id : String) (object : QObject) (failures : Nat) :
    FailuresFirst (List.replicate failures (id,none) ++ [(id,some object)]) := by
  intro before other after split
  rcases List.eq_nil_or_concat after with none | ⟨between,last,more⟩
  · rw [none] at split
    have same := List.append_inj_right' split rfl
    cases same
  · rw [more,List.concat_eq_append,← List.cons_append,← List.append_assoc] at split
    obtain ⟨front,same⟩ := List.append_inj' split rfl
    have failed : ∀ entry ∈ before ++ (other,none)::between, entry = (id,none) := by
      rw [← front]
      exact fun entry member => List.eq_of_mem_replicate member
    cases same
    refine ⟨?_,object,?_⟩
    · intro loaded member
      have entry := failed _ (List.mem_append_left _ member)
      cases entry
    · have named := failed (other,none) (List.mem_append_right _ (List.mem_cons_self ..))
      cases named
      rw [more,List.concat_eq_append]
      exact List.mem_append_right _ (List.mem_singleton.mpr rfl)

/-- A file for the shell that cannot be loaded comes before the one that can. -/
theorem failed_first_consistent :
    Session.PluginRegistry.Consistent [sessionPlugin none,sessionPlugin (some ⟨1,true,true⟩)] ⟨_,.refl _⟩ ∧
      Daemon.PluginRegistry.Consistent [daemonPlugin] ⟨_,.refl _⟩ := by
  have both := registries_consistent_iff [sessionPlugin none,sessionPlugin (some ⟨1,true,true⟩)]
    [daemonPlugin] ⟨_,.refl _⟩ ⟨_,.refl _⟩ (by decide) (by decide)
  exact ⟨both.1.mpr (failuresFirst_last "shell" ⟨1,true,true⟩ 1),
    both.2.mpr (failuresFirst_last "locale" ⟨2,true,true⟩ 0)⟩

/-- A second file for the shell that cannot be loaded takes the place of the first. -/
theorem failure_displaces : ¬ ∀ (candidates : List Candidate)
    (order : Enumeration (Session.PluginRegistry.discover {} candidates).m_plugins),
    (candidates.filterMap Candidate.object).Nodup →
      Session.PluginRegistry.Consistent candidates order := by
  intro all
  have consistent := all [sessionPlugin (some ⟨1,true,true⟩),sessionPlugin none] ⟨_,.refl _⟩ (by decide)
  exact consistent.loaded "shell" none (by decide) rfl

end PluginDiscovery

end LiriSession
