import LiriSession.Environment

/-! The environment of the systemd user manager: sets upload a filtered copy of the
whole process environment, unsets send a single key. -/
namespace LiriSession.Session
open Library

def Mirrored (environments : Environments) (key : String) : Prop :=
  environments.systemd.find? key = environments.process.environ.find? key

theorem upload_mirrored (environments : Environments) (key : String)
    (enabled : environments.m_systemdEnabled = true) (allowed : ¬Excluded key)
    (present : environments.process.environ.find? key ≠ none) :
    Mirrored (uploadEnvironment environments) key := by
  obtain ⟨value,held⟩ := Option.ne_none_iff_exists'.mp present
  rw [Mirrored,upload_systemd,if_pos enabled,upload_process,uploaded,if_neg allowed,held]
  rfl

theorem upload_unmirrored (environments : Environments) (key : String)
    (absent : environments.process.environ.find? key = none) :
    (uploadEnvironment environments).systemd.find? key = environments.systemd.find? key := by
  rw [upload_systemd,uploaded,absent,ite_self,Option.none_or,ite_self]

/-- One call keeps the mirror of an uploaded key, and restores that of its own key. -/
theorem step_mirrored (environments : Environments) (made : EnvironmentCall)
    (enabled : environments.m_systemdEnabled = true) (accepted : Accepted made.key) (key : String)
    (allowed : ¬Excluded key) (before : made.key = key ∨ Mirrored environments key) :
    Mirrored (environmentStep environments made) key := by
  have after := step_process environments made accepted key
  have sent := uploaded_step environments made accepted key allowed
  rw [Mirrored,after]
  cases made with
  | set other value =>
    change other = key ∨ _ at before
    rw [environmentStep] at sent ⊢
    rw [set_systemd,if_pos enabled,sent]
    simp only [current]
    split
    · rfl
    · next apart =>
      have mirrored := before.resolve_left apart
      rw [Mirrored] at mirrored
      rw [mirrored]
      cases environments.process.environ.find? key <;> rfl
  | unset other =>
    change other = key ∨ _ at before
    rw [environmentStep,unset_eq]
    simp only [enabled,if_true,OrderedMap.find?_eraseAll,current,List.mem_singleton,@eq_comm _ key other]
    split
    · rfl
    · next apart => exact before.resolve_left apart

theorem step_unmirrored (environments : Environments) (made : EnvironmentCall)
    (accepted : Accepted made.key) (key : String) (apart : made.key ≠ key)
    (absent : environments.process.environ.find? key = none) :
    (environmentStep environments made).systemd.find? key = environments.systemd.find? key ∧
      (environmentStep environments made).process.environ.find? key = none := by
  have gone : (environmentStep environments made).process.environ.find? key = none := by
    rw [step_process environments made accepted key,absent]
    cases made <;> exact if_neg apart
  refine ⟨?_,gone⟩
  cases made with
  | set other value =>
    rw [environmentStep] at gone ⊢
    have sent : uploaded (setEnvironment environments other value).process key = none := by
      rw [uploaded,gone,ite_self]
    rw [set_systemd,sent,Option.none_or,ite_self]
  | unset other =>
    change other ≠ key at apart
    rw [environmentStep,unset_eq]
    cases environments.m_systemdEnabled with
    | true => simp [OrderedMap.find?_eraseAll,Ne.symm apart]
    | false => rfl

theorem run_mirrored (initial : Environments) (made : List EnvironmentCall)
    (enabled : initial.m_systemdEnabled = true) (accepted : ∀ call ∈ made, Accepted call.key)
    (key : String) (allowed : ¬Excluded key) (before : Touched made key ∨ Mirrored initial key) :
    Mirrored (made.foldl environmentStep initial) key := by
  induction made generalizing initial with
  | nil =>
    rcases before with ⟨_,member,_⟩ | mirrored
    · cases member
    · exact mirrored
  | cons first made ih =>
    obtain ⟨valid,rest⟩ := List.forall_mem_cons.mp accepted
    apply ih (environmentStep initial first) ((step_enabled initial first).trans enabled) rest
    rcases before with ⟨call,member,same⟩ | mirrored
    · rcases List.mem_cons.mp member with rfl | later
      · exact .inr (step_mirrored initial call enabled valid key allowed (.inl same))
      · exact .inl ⟨call,later,same⟩
    · exact .inr (step_mirrored initial first enabled valid key allowed (.inr mirrored))

theorem run_unmirrored (initial : Environments) (made : List EnvironmentCall)
    (accepted : ∀ call ∈ made, Accepted call.key) (key : String) (untouched : ¬Touched made key)
    (absent : initial.process.environ.find? key = none) :
    (made.foldl environmentStep initial).systemd.find? key = initial.systemd.find? key := by
  induction made generalizing initial with
  | nil => rfl
  | cons first made ih =>
    obtain ⟨valid,rest⟩ := List.forall_mem_cons.mp accepted
    have apart : first.key ≠ key := fun same => untouched ⟨first,by simp,same⟩
    obtain ⟨kept,gone⟩ := step_unmirrored initial first valid key apart absent
    have later : ¬Touched made key := by
      intro touched
      obtain ⟨call,member,same⟩ := touched
      exact untouched ⟨call,List.mem_cons_of_mem first member,same⟩
    rw [List.foldl_cons,ih _ rest later gone,kept]

/-- No excluded key was ever sent to the systemd manager. -/
def NoneExcludedSent (environments : Environments) : Prop :=
  ∀ assignments, .setEnvironment assignments ∈ environments.calls →
    ∀ text ∈ assignments, ¬Excluded (assignment text).1

theorem upload_noneExcluded (environments : Environments) (clean : NoneExcludedSent environments) :
    NoneExcludedSent (uploadEnvironment environments) := by
  intro assignments sent text member
  rw [upload_spec] at sent
  rcases List.mem_append.mp sent with old | new
  · exact clean assignments old text member
  · have given : assignments = toStringList (sysEnv environments.process.environ) := by
      cases enabled : environments.m_systemdEnabled <;> simp [enabled] at new
      exact new
    have parsed : assignment text ∈ (sysEnv environments.process.environ).entries := by
      rw [← toStringList_assignments,← given]
      exact List.mem_map_of_mem member
    exact (sysEnv_named environments.process _ parsed).1

theorem step_noneExcluded (environments : Environments) (made : EnvironmentCall)
    (clean : NoneExcludedSent environments) :
    NoneExcludedSent (environmentStep environments made) := by
  cases made with
  | set key value => exact upload_noneExcluded _ clean
  | unset key =>
    dsimp only [environmentStep,unsetEnvironment]
    split
    · intro assignments sent
      rcases List.mem_append.mp sent with old | new
      · exact clean assignments old
      · cases List.mem_singleton.mp new
    · exact clean

theorem run_noneExcluded (initial : Environments) (made : List EnvironmentCall)
    (clean : NoneExcludedSent initial) :
    NoneExcludedSent (made.foldl environmentStep initial) := by
  induction made generalizing initial with
  | nil => exact clean
  | cons first made ih => exact ih _ (step_noneExcluded initial first clean)

/-- With systemd, its environment mirrors that of the process at every key that may be
uploaded and was there at the start or in a call; no other key is touched, and none
that is excluded is sent. -/
theorem systemd_mirrors (process : ProcessEnvironment) (activation systemd : OrderedMap String String)
    (made : List EnvironmentCall) (accepted : ∀ call ∈ made, Accepted call.key) :
    let final := environmentRun ⟨true,process,activation,systemd,[]⟩ made
    (∀ key, ¬Excluded key → process.environ.find? key ≠ none ∨ Touched made key →
      ∀ value, final.systemd.find? key = some value ↔ final.process.environ.find? key = some value) ∧
    (∀ key, process.environ.find? key = none → ¬Touched made key →
      final.systemd.find? key = systemd.find? key) ∧
    NoneExcludedSent final := by
  intro final
  let initial : Environments := ⟨true,process,activation,systemd,[]⟩
  have enabled : (uploadEnvironment initial).m_systemdEnabled = true := upload_enabled initial
  refine ⟨?_,?_,?_⟩
  · intro key allowed concerned value
    have before : Touched made key ∨ Mirrored (uploadEnvironment initial) key := by
      rcases concerned with present | touched
      · exact .inr (upload_mirrored initial key rfl allowed present)
      · exact .inl touched
    have mirrored : Mirrored final key :=
      run_mirrored (uploadEnvironment initial) made enabled accepted key allowed before
    rw [mirrored]
  · intro key absent untouched
    have first := upload_unmirrored initial key absent
    have gone : (uploadEnvironment initial).process.environ.find? key = none := by
      rw [upload_process]
      exact absent
    exact (run_unmirrored (uploadEnvironment initial) made accepted key untouched gone).trans first
  · apply run_noneExcluded
    apply upload_noneExcluded
    intro assignments sent
    cases sent

/-- One variable is set, one is set and unset again, and one is not to be uploaded. -/
def madeCalls : List EnvironmentCall :=
  [.set "TZ" "UTC",.set "LANG" "C",.unset "LANG",.set "XDG_SESSION_ID" "2"]

theorem set_mirrored :
    let process := (noEnvironment true).process.qputenv "HOME" "/home/user"
    let final := environmentRun ⟨true,process,.empty,.empty,[]⟩ madeCalls
    final.systemd.find? "TZ" = some "UTC" ∧ final.systemd.find? "HOME" = some "/home/user" ∧
      final.systemd.find? "LANG" = none ∧ final.systemd.find? "PATH" = none ∧
      final.process.environ.find? "XDG_SESSION_ID" = some "2" ∧ NoneExcludedSent final := by
  intro process final
  have accepted : ∀ call ∈ madeCalls, Accepted call.key := by
    unfold Accepted
    decide
  obtain ⟨mirrored,kept,clean⟩ := systemd_mirrors process .empty .empty madeCalls accepted
  have home : process.environ.find? "HOME" ≠ none := by decide
  have zone : Touched madeCalls "TZ" := ⟨.set "TZ" "UTC",by simp [madeCalls],rfl⟩
  have language : Touched madeCalls "LANG" := ⟨.unset "LANG",by simp [madeCalls],rfl⟩
  refine ⟨?_,?_,?_,?_,by decide,clean⟩
  · exact (mirrored "TZ" (by decide) (.inr zone) "UTC").mpr (by decide)
  · exact (mirrored "HOME" (by decide) (.inl home) "/home/user").mpr (by decide)
  · have unset : final.process.environ.find? "LANG" = none := by decide
    apply Option.eq_none_iff_forall_ne_some.mpr
    intro value found
    have there := (mirrored "LANG" (by decide) (.inr language) value).mp found
    exact absurd (unset.symm.trans there) (Option.some_ne_none value).symm
  · refine kept "PATH" (by decide) ?_
    unfold Touched
    decide

end LiriSession.Session
