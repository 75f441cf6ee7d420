import LiriSession.Environment

/-! The copies of the environment when bus calls fail. A failed call is only logged, but
each upload sends all variables, so that the next one that succeeds makes good for it;
what systemd is told to forget it is told once. -/
namespace LiriSession.Session
open Library

/-- A call on the environment, and which of the bus calls that it makes are taken. -/
structure Attempt where
  call : EnvironmentCall
  activation : Bool
  systemd : Bool

def attempt (environments : Environments) (taken : Bool) (made : BusCall) : Environments :=
  if taken then busCall environments made else { environments with calls := environments.calls ++ [made] }

def attemptUpload (environments : Environments) (activation systemd : Bool) : Environments :=
  let sysEnv := sysEnv environments.process.environ
  let environments := attempt environments activation (.updateActivationEnvironment sysEnv.entries)
  if environments.m_systemdEnabled then attempt environments systemd (.setEnvironment (toStringList sysEnv))
  else environments

def attemptStep (environments : Environments) (made : Attempt) : Environments :=
  match made.call with
  | .set key value => attemptUpload
      { environments with process := environments.process.qputenv key value } made.activation made.systemd
  | .unset key =>
    let environments := { environments with process := environments.process.qunsetenv key }
    if environments.m_systemdEnabled then attempt environments made.systemd (.unsetEnvironment [key])
    else environments

def Attempt.uploads (made : Attempt) : Bool :=
  match made.call with
  | .set _ _ => true
  | .unset _ => false

/-- Where nothing fails these are the calls that the session makes. -/
theorem attempt_taken (environments : Environments) (call : EnvironmentCall) :
    attemptStep environments ⟨call,true,true⟩ = environmentStep environments call := by
  cases call <;> rfl

/-- What an upload leaves of the copies. -/
theorem attemptUpload_spec (environments : Environments) (activation systemd : Bool) :
    let after := attemptUpload environments activation systemd
    let sent := (sysEnv environments.process.environ).entries
    after.m_systemdEnabled = environments.m_systemdEnabled ∧ after.process = environments.process ∧
      after.activation = (if activation then environments.activation.insertAll sent
        else environments.activation) ∧
      after.systemd = if environments.m_systemdEnabled && systemd then environments.systemd.insertAll sent
        else environments.systemd := by
  cases enabled : environments.m_systemdEnabled <;> cases activation <;> cases systemd <;>
    simp [attemptUpload,attempt,busCall,receive,enabled,toStringList_assignments]

theorem attempt_process (environments : Environments) (made : Attempt) (accepted : Accepted made.call.key)
    (key : String) : (attemptStep environments made).process.environ.find? key =
      current key (environments.process.environ.find? key) made.call := by
  rw [← step_process environments made.call accepted]
  cases call : made.call with
  | set name value =>
    obtain ⟨_,process,_⟩ := attemptUpload_spec
      { environments with process := environments.process.qputenv name value } made.activation made.systemd
    rw [environmentStep,set_process,attemptStep,call]
    exact congrArg (fun process => process.environ.find? key) process
  | unset name =>
    rw [environmentStep,unset_eq,attemptStep,call]
    cases environments.m_systemdEnabled <;> cases made.systemd <;> simp [attempt,busCall,receive]

theorem attempt_enabled (environments : Environments) (made : Attempt) :
    (attemptStep environments made).m_systemdEnabled = environments.m_systemdEnabled := by
  unfold attemptStep
  split
  · exact (attemptUpload_spec _ made.activation made.systemd).1
  · cases environments.m_systemdEnabled <;> cases made.systemd <;> simp [attempt,busCall,receive]

theorem attempt_activation (environments : Environments) (made : Attempt) (key : String) :
    (attemptStep environments made).activation.find? key =
      if made.uploads && made.activation then
        (uploaded (attemptStep environments made).process key).or (environments.activation.find? key)
      else environments.activation.find? key := by
  cases call : made.call with
  | set name value =>
    obtain ⟨_,process,activation,_⟩ := attemptUpload_spec
      { environments with process := environments.process.qputenv name value } made.activation made.systemd
    simp only [attemptStep,Attempt.uploads,call,activation,process,Bool.true_and]
    split
    · rw [OrderedMap.find?_insertAll,find?_sysEnv]
    · rfl
  | unset name =>
    simp only [attemptStep,Attempt.uploads,call,Bool.false_and]
    cases enabled : environments.m_systemdEnabled <;> cases made.systemd <;>
      simp [attempt,busCall,receive]

theorem attempt_systemd (environments : Environments) (made : Attempt) (key : String)
    (enabled : environments.m_systemdEnabled = true) :
    (attemptStep environments made).systemd.find? key =
      if made.systemd = false then environments.systemd.find? key
      else if made.uploads then
        (uploaded (attemptStep environments made).process key).or (environments.systemd.find? key)
      else if made.call.key = key then none
      else environments.systemd.find? key := by
  cases call : made.call with
  | set name value =>
    obtain ⟨_,process,_,systemd⟩ := attemptUpload_spec
      { environments with process := environments.process.qputenv name value } made.activation made.systemd
    simp only [attemptStep,Attempt.uploads,call,systemd,process]
    cases made.systemd with
    | true => simp [enabled,OrderedMap.find?_insertAll,find?_sysEnv]
    | false => simp
  | unset name =>
    simp only [attemptStep,Attempt.uploads,call,enabled,EnvironmentCall.key]
    cases made.systemd with
    | true => simp [attempt,busCall,receive,OrderedMap.find?_eraseAll,eq_comm]
    | false => simp [attempt]

/-- The variable as calls leave it that set it to what is found or are not about it. -/
structure Settles (key : String) (found : Option String) (before after : Environments) (made : List Attempt) :
    Prop where
  enabled : after.m_systemdEnabled = before.m_systemdEnabled
  process : after.process.environ.find? key = found
  activation : after.activation.find? key =
    if ∃ one ∈ made, one.uploads = true ∧ one.activation = true
      then found.or (before.activation.find? key) else before.activation.find? key
  systemd : before.m_systemdEnabled = true → after.systemd.find? key =
    if ∃ one ∈ made, one.uploads = true ∧ one.systemd = true
      then found.or (before.systemd.find? key) else before.systemd.find? key

theorem attempt_settles (environments : Environments) (made : Attempt) (key : String) (found : Option String)
    (accepted : Accepted made.call.key) (allowed : ¬Excluded key)
    (outcome : current key (environments.process.environ.find? key) made.call = found)
    (kept : made.uploads = true ∨ made.call.key ≠ key) :
    Settles key found environments (attemptStep environments made) [made] := by
  have process : (attemptStep environments made).process.environ.find? key = found := by
    rw [attempt_process environments made accepted,outcome]
  have sent : uploaded (attemptStep environments made).process key = found := by
    rw [uploaded,if_neg allowed,process]
  refine ⟨attempt_enabled environments made,process,?_,?_⟩
  · rw [attempt_activation,sent]
    simp
  · intro enabled
    rw [attempt_systemd environments made key enabled,sent]
    cases taken : made.systemd with
    | false => simp [taken]
    | true =>
      cases upload : made.uploads with
      | true => simp [taken,upload]
      | false =>
        have other : made.call.key ≠ key := kept.resolve_left (by simp [upload])
        simp [upload,other]

theorem Settles.trans {key : String} {found : Option String} {before middle after : Environments}
    {made rest : List Attempt} (first : Settles key found before middle made)
    (second : Settles key found middle after rest) : Settles key found before after (made ++ rest) := by
  refine ⟨second.enabled.trans first.enabled,second.process,?_,?_⟩
  · rw [second.activation,first.activation]
    simp only [List.mem_append,or_and_right,exists_or]
    split <;> split <;> cases found <;> simp_all
  · intro enabled
    rw [second.systemd (first.enabled.trans enabled),first.systemd enabled]
    simp only [List.mem_append,or_and_right,exists_or]
    split <;> split <;> cases found <;> simp_all

theorem Settles.refl (environments : Environments) (key : String) :
    Settles key (environments.process.environ.find? key) environments environments [] := by
  refine ⟨rfl,rfl,?_,fun _ => ?_⟩ <;> simp

/-- Calls about other variables leave it to whether one of their uploads gets through. -/
theorem others_settle (environments : Environments) (made : List Attempt) (key : String)
    (accepted : ∀ one ∈ made, Accepted one.call.key) (allowed : ¬Excluded key)
    (others : ∀ one ∈ made, one.call.key ≠ key) :
    Settles key (environments.process.environ.find? key) environments (made.foldl attemptStep environments)
      made := by
  induction made generalizing environments with
  | nil => exact .refl environments key
  | cons first rest ih =>
    obtain ⟨valid,accepted⟩ := List.forall_mem_cons.mp accepted
    obtain ⟨other,others⟩ := List.forall_mem_cons.mp others
    have outcome : current key (environments.process.environ.find? key) first.call =
        environments.process.environ.find? key := by
      cases call : first.call <;> simp_all [current,EnvironmentCall.key]
    have step := attempt_settles environments first key _ valid allowed outcome (.inr other)
    have later := ih (attemptStep environments first) accepted others
    rw [step.process] at later
    exact step.trans later

/-- What becomes of the last call that is about a variable: the copies have its outcome if
they had it before, or if the call or a later upload got through. -/
structure Healed (reached final : Environments) (last : Attempt) (after : List Attempt) : Prop where
  activation : ∀ key value, last.call = .set key value →
    (final.activation.find? key = some (cString value) ↔
      reached.activation.find? key = some (cString value) ∨
        ∃ made ∈ last::after, made.uploads = true ∧ made.activation = true)
  systemd : ∀ key value, last.call = .set key value → reached.m_systemdEnabled = true →
    (final.systemd.find? key = some (cString value) ↔
      reached.systemd.find? key = some (cString value) ∨
        ∃ made ∈ last::after, made.uploads = true ∧ made.systemd = true)
  unset : ∀ key, last.call = .unset key → reached.m_systemdEnabled = true →
    (final.systemd.find? key = none ↔ reached.systemd.find? key = none ∨ last.systemd = true)

/-- A later upload makes good for a lost set, whatever it is about, and nothing makes good
for a lost unset; `setenv` has to take the names, and the upload not to leave the key out. -/
theorem healed_after (reached : Environments) (last : Attempt) (after : List Attempt)
    (accepted : ∀ made ∈ last::after, Accepted made.call.key) (allowed : ¬Excluded last.call.key)
    (others : ∀ made ∈ after, made.call.key ≠ last.call.key) :
    Healed reached ((last::after).foldl attemptStep reached) last after := by
  obtain ⟨valid,rest⟩ := List.forall_mem_cons.mp accepted
  have later := others_settle (attemptStep reached last) after last.call.key rest allowed others
  have whole : ∀ key value, last.call = .set key value →
      Settles key (some (cString value)) reached ((last::after).foldl attemptStep reached) (last::after) := by
    intro key value call
    have same : last.call.key = key := by rw [call]; rfl
    rw [same] at later allowed
    have step := attempt_settles reached last key (some (cString value)) valid allowed
      (by simp [call,current]) (.inl (by simp [Attempt.uploads,call]))
    rw [step.process] at later
    exact step.trans later
  refine ⟨?_,?_,?_⟩
  · intro key value call
    rw [(whole key value call).activation]
    split <;> simp_all
  · intro key value call enabled
    rw [(whole key value call).systemd enabled]
    split <;> simp_all
  · intro key call enabled
    have same : last.call.key = key := by rw [call]; rfl
    have gone : (attemptStep reached last).process.environ.find? key = none := by
      rw [attempt_process reached last valid]
      simp [call,current]
    rw [same,gone] at later
    have systemd := later.systemd ((attempt_enabled reached last).trans enabled)
    rw [Option.none_or,ite_self] at systemd
    rw [List.foldl_cons,systemd,attempt_systemd reached last key enabled,same]
    cases taken : last.systemd <;> simp [Attempt.uploads,call]

theorem healed_after_path : Healed (noEnvironment true)
    ([⟨.set "LANG" "C",false,false⟩,⟨.set "PATH" "/bin",true,true⟩].foldl attemptStep (noEnvironment true))
    ⟨.set "LANG" "C",false,false⟩ [⟨.set "PATH" "/bin",true,true⟩] := by
  have lang : Accepted "LANG" := by
    unfold Accepted
    decide
  have path : Accepted "PATH" := by
    unfold Accepted
    decide
  refine healed_after _ _ _ ?_ (by decide) (by simp [EnvironmentCall.key])
  intro one member
  simp only [List.mem_cons,List.not_mem_nil,or_false] at member
  rcases member with rfl | rfl
  · exact lang
  · exact path

end LiriSession.Session
