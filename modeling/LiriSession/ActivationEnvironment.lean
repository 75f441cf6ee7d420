import LiriSession.Environment

/-! The environment that D-Bus activates services with. It is a copy to which
uploads only add: a variable that is unset in the process stays in it. -/
namespace LiriSession.Session
open Library

/-- The last value a key was given: nothing makes it forgotten. -/
def remember (key : String) (last : Option String) : EnvironmentCall → Option String
  | .set other value => if other = key then some (cString value) else last
  | .unset _ => last

def Propagated (environments : Environments) (key : String) : Prop :=
  (uploaded environments.process key).or (environments.activation.find? key) =
    environments.activation.find? key

theorem upload_propagated (environments : Environments) (key : String) :
    Propagated (uploadEnvironment environments) key := by
  rw [Propagated,upload_process,upload_activation]
  cases uploaded environments.process key <;> rfl

theorem step_activation (environments : Environments) (made : EnvironmentCall)
    (accepted : Accepted made.key) (key : String) (allowed : ¬Excluded key)
    (propagated : Propagated environments key) :
    (environmentStep environments made).activation.find? key =
        remember key (environments.activation.find? key) made ∧
      Propagated (environmentStep environments made) key := by
  have sent := uploaded_step environments made accepted key allowed
  rw [Propagated,uploaded,if_neg allowed] at propagated
  cases made with
  | set other value =>
    apply And.intro
    · rw [environmentStep] at sent ⊢
      rw [set_activation,sent]
      simp only [current,remember]
      split
      · rfl
      · exact propagated
    · exact upload_propagated _ key
  | unset other =>
    have same : (environmentStep environments (.unset other)).activation = environments.activation := by
      rw [environmentStep,unset_eq]
    rw [Propagated,sent,same]
    apply And.intro
    · rfl
    · simp only [current]
      split
      · rfl
      · exact propagated

theorem run_activation (initial : Environments) (made : List EnvironmentCall)
    (accepted : ∀ call ∈ made, Accepted call.key) (key : String) (allowed : ¬Excluded key)
    (propagated : Propagated initial key) :
    (made.foldl environmentStep initial).activation.find? key =
        made.foldl (remember key) (initial.activation.find? key) ∧
      Propagated (made.foldl environmentStep initial) key := by
  induction made generalizing initial with
  | nil => exact ⟨rfl,propagated⟩
  | cons first made ih =>
    obtain ⟨valid,rest⟩ := List.forall_mem_cons.mp accepted
    obtain ⟨step,kept⟩ := step_activation initial first valid key allowed propagated
    obtain ⟨run,final⟩ := ih (environmentStep initial first) rest kept
    rw [step] at run
    exact ⟨run,final⟩

def LeftUnset (made : List EnvironmentCall) (key : String) : Prop :=
  ∃ before after, made = before ++ .unset key::after ∧ ∀ call ∈ after, call.key ≠ key

theorem current_untouched (key : String) (last : Option String) (made : List EnvironmentCall)
    (untouched : ∀ call ∈ made, call.key ≠ key) : made.foldl (current key) last = last := by
  induction made generalizing last with
  | nil => rfl
  | cons first made ih =>
    obtain ⟨apart,rest⟩ := List.forall_mem_cons.mp untouched
    have same : current key last first = last := by
      cases first <;> exact if_neg apart
    rw [List.foldl_cons,same,ih last rest]

theorem last_call (made : List EnvironmentCall) (key : String) (touched : Touched made key) :
    ∃ before call after, made = before ++ call::after ∧ call.key = key ∧
      ∀ other ∈ after, other.key ≠ key := by
  induction made with
  | nil =>
    obtain ⟨call,member,_⟩ := touched
    cases member
  | cons first made ih =>
    by_cases later : Touched made key
    · obtain ⟨before,call,after,split,same,untouched⟩ := ih later
      exact ⟨first::before,call,after,by rw [split,List.cons_append],same,untouched⟩
    · have untouched : ∀ other ∈ made, other.key ≠ key :=
        fun other member same => later ⟨other,member,same⟩
      obtain ⟨call,member,same⟩ := touched
      rcases List.mem_cons.mp member with rfl | there
      · exact ⟨[],call,made,rfl,same,untouched⟩
      · exact absurd same (untouched call there)

theorem current_eq_none_iff (made : List EnvironmentCall) (key : String) (last : Option String)
    (touched : Touched made key) : made.foldl (current key) last = none ↔ LeftUnset made key := by
  apply Iff.intro
  · intro unset
    obtain ⟨before,call,after,split,same,untouched⟩ := last_call made key touched
    rw [split,List.foldl_append,List.foldl_cons,current_untouched key _ after untouched] at unset
    cases call with
    | set other value =>
      change other = key at same
      simp [current,same] at unset
    | unset other =>
      change other = key at same
      exact ⟨before,after,same ▸ split,untouched⟩
  · intro unset
    obtain ⟨before,after,split,untouched⟩ := unset
    rw [split,List.foldl_append,List.foldl_cons,current_untouched key _ after untouched]
    exact if_pos rfl

theorem LeftUnset.touched (made : List EnvironmentCall) (key : String)
    (unset : LeftUnset made key) : Touched made key := by
  obtain ⟨before,after,split,_⟩ := unset
  exact ⟨.unset key,by simp [split],rfl⟩

def Blank (value : Option String) : Prop := value = none ∨ value = some ""

def Agrees (process copy : Option String) : Prop :=
  (∀ value, process = some value → copy = some value) ∧ (process = none → Blank copy)

/-- The last value a key was given by a call, else its first value in the process, else
its first value in the activation environment. -/
def lastGiven (initial : Environments) (made : List EnvironmentCall) (key : String) :
    Option String :=
  made.foldl (remember key)
    ((initial.process.environ.find? key).or (initial.activation.find? key))

/-- The activation environment agrees with the process on every key of a call exactly
when the keys that were left unset had been given no value but the empty one. -/
theorem activation_agrees_iff (initial : Environments) (made : List EnvironmentCall)
    (accepted : ∀ call ∈ made, Accepted call.key) :
    let final := environmentRun initial made
    (∀ key, Touched made key → ¬Excluded key →
      Agrees (final.process.environ.find? key) (final.activation.find? key)) ↔
    ∀ key, LeftUnset made key → ¬Excluded key → Blank (lastGiven initial made key) := by
  intro final
  have copied (key : String) (allowed : ¬Excluded key) :
      final.activation.find? key = lastGiven initial made key ∧ Propagated final key := by
    obtain ⟨run,kept⟩ := run_activation (uploadEnvironment initial) made accepted key allowed
      (upload_propagated initial key)
    rw [upload_activation,uploaded,if_neg allowed] at run
    exact ⟨run,kept⟩
  have emptied (key : String) (touched : Touched made key) :
      final.process.environ.find? key = none ↔ LeftUnset made key := by
    have run := run_process (uploadEnvironment initial) made accepted key
    change final.process.environ.find? key = _ at run
    rw [run]
    exact current_eq_none_iff made key _ touched
  apply Iff.intro
  · intro agrees key unset allowed
    have touched := unset.touched
    rw [← (copied key allowed).1]
    exact (agrees key touched allowed).2 ((emptied key touched).mpr unset)
  · intro blank key touched allowed
    apply And.intro
    · intro value present
      have propagated := (copied key allowed).2
      rw [Propagated,uploaded,if_neg allowed,present] at propagated
      exact propagated.symm
    · intro absent
      rw [(copied key allowed).1]
      exact blank key ((emptied key touched).mp absent) allowed

theorem set_propagated :
    let final := environmentRun (noEnvironment false) [.unset "TZ",.set "TZ" "UTC"]
    ∀ key, Touched [.unset "TZ",.set "TZ" "UTC"] key → ¬Excluded key →
      Agrees (final.process.environ.find? key) (final.activation.find? key) := by
  have accepted : ∀ call ∈ [EnvironmentCall.unset "TZ",.set "TZ" "UTC"], Accepted call.key := by
    unfold Accepted
    decide
  apply (activation_agrees_iff (noEnvironment false) _ accepted).mpr
  intro key unset _
  obtain ⟨before,after,split,untouched⟩ := unset
  rcases before with _ | ⟨first,before⟩
  · obtain ⟨same,rest⟩ := List.cons.inj split
    cases same
    exact absurd rfl (untouched (.set "TZ" "UTC") (by simp [← rest]))
  · obtain ⟨_,split⟩ := List.cons.inj split
    rcases before with _ | ⟨second,before⟩
    · cases split
    · simp at split

/-- The variable is gone, and services are still activated with it. -/
theorem unset_kept_for_services :
    let final := environmentRun (noEnvironment true) [.set "TZ" "UTC",.unset "TZ"]
    ¬∀ key, Touched [.set "TZ" "UTC",.unset "TZ"] key → ¬Excluded key →
      Agrees (final.process.environ.find? key) (final.activation.find? key) := by
  intro final agrees
  have touched : Touched [.set "TZ" "UTC",.unset "TZ"] "TZ" := ⟨.unset "TZ",by simp,rfl⟩
  have blank := (agrees "TZ" touched (by decide)).2 (by decide)
  rcases blank with absent | empty
  · exact absurd absent (by decide)
  · exact absurd empty (by decide)

end LiriSession.Session
