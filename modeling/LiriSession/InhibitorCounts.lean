import LiriSession.LogindSignals

/-! The signals about inhibitors count for the descriptors that are held: over whole runs,
grants and releases differ by what is in the list, and `inhibitedChanged` takes turns. -/
namespace LiriSession.ObservedLogind
open Library Logind

def granted : Signal → Option Int
  | .inhibited _ _ fd => some fd
  | _ => none

def released : Signal → Option Int
  | .uninhibited fd => some fd
  | _ => none

structure Counted (observed : ObservedLogind) : Prop where
  balance : ∀ fd, (emissions granted observed.effects).count fd =
    (emissions released observed.effects).count fd + observed.logind.inhibitFds.count fd
  turns : ∀ (i : Nat) (bound : i < (emissions inhibited.read observed.effects).length),
    (emissions inhibited.read observed.effects)[i] = decide (i % 2 = 0)
  last : observed.logind.isInhibited =
    (emissions inhibited.read observed.effects).getLast?.getD false
  foreign : ∀ fd, fd ∉ observed.logind.inhibitFds →
    handle observed.logind (.uninhibit fd) = (observed.logind,[])

/-- A handler grants and releases what it adds to the list and takes from it. -/
structure Balanced (before : LogindPrivate) (result : LogindPrivate × List Effect) : Prop where
  balance : ∀ fd, (emissions granted result.2).count fd + before.inhibitFds.count fd =
    (emissions released result.2).count fd + result.1.inhibitFds.count fd
  inhibited : Reports inhibited before result

theorem balanced_quiet (before : LogindPrivate) (result : LogindPrivate × List Effect)
    (same : result.1.inhibitFds = before.inhibitFds) (grants : emissions granted result.2 = [])
    (releases : emissions released result.2 = []) (turns : emissions inhibited.read result.2 = []) :
    Balanced before result := by
  apply Balanced.mk
  · intro fd
    rw [same,grants,releases]
  · apply reports_quiet inhibited before result turns
    show result.1.isInhibited = before.isInhibited
    rw [LogindPrivate.isInhibited,same,LogindPrivate.isInhibited]

theorem balanced_sends (logind : LogindPrivate) (effects : List Effect) (sends : Sends effects) :
    Balanced logind (logind,effects) :=
  balanced_quiet _ _ rfl (emissions_sends _ _ sends) (emissions_sends _ _ sends)
    (emissions_sends _ _ sends)

theorem balanced_same (logind : LogindPrivate) : Balanced logind (logind,[]) :=
  balanced_quiet _ _ rfl rfl rfl rfl

theorem balanced_serviceRegistered (logind : LogindPrivate) (lookups : Lookups) :
    Balanced logind (logind._q_serviceRegistered lookups) := by
  rcases logind.registered_result lookups with ⟨path,same⟩ | ⟨_,path,hooks,sends,only,same⟩
  · rw [same]
    exact balanced_quiet _ _ rfl rfl rfl rfl
  · rw [same]
    refine balanced_quiet _ _ rfl ?_ ?_ ?_ <;> rw [emissions_append,emissions_sends _ sends only] <;> rfl

theorem balanced_serviceUnregistered (logind : LogindPrivate) :
    Balanced logind logind._q_serviceUnregistered := by
  refine balanced_quiet _ _ rfl ?_ ?_ ?_ <;> rw [emissions_serviceUnregistered] <;>
    simp [emissions,granted,released,inhibited]

theorem balanced_inhibitReply (logind : LogindPrivate) (who why : String) (answer : InhibitReply) :
    Balanced logind (logind.handleInhibitReply who why answer) := by
  cases answer with
  | error => exact balanced_same logind
  | granted fd =>
    rw [logind.inhibitReply_granted]
    apply Balanced.mk
    · intro other
      dsimp only
      rw [List.count_append]
      split <;> simp [emissions,ObservedLogind.granted,released,Nat.add_comm]
    · by_cases empty : logind.inhibitFds = []
      · rw [if_pos empty]
        simp [Reports,emissions,ObservedLogind.inhibited,LogindPrivate.isInhibited,empty,change]
      · rw [if_neg empty]
        apply reports_quiet _ _ _ rfl
        simp [ObservedLogind.inhibited,LogindPrivate.isInhibited,List.length_pos_iff.mpr empty]

theorem balanced_uninhibit (logind : LogindPrivate) (fd : Int) :
    Balanced logind (logind.uninhibit fd) := by
  rcases logind.uninhibit_cases fd with ⟨_,same⟩ | ⟨_,held,same⟩
  · rw [same]
    exact balanced_same logind
  · have before : logind.isInhibited = true :=
      decide_eq_true (List.length_pos_of_mem held)
    rw [same]
    apply Balanced.mk
    · intro other
      have counts : (logind.inhibitFds.erase fd).count other + [fd].count other =
          logind.inhibitFds.count other := by
        rw [← List.count_append,((List.perm_cons_erase held).trans
          (List.perm_append_singleton fd _).symm).count_eq]
      dsimp only
      split <;> simp [emissions,ObservedLogind.granted,released] at counts ⊢ <;> omega
    · split
      next none =>
        simp [Reports,emissions,ObservedLogind.inhibited,LogindPrivate.isInhibited,none,change,
          List.ne_nil_of_mem held]
      next some =>
        apply reports_quiet _ _ _ rfl
        show LogindPrivate.isInhibited _ = logind.isInhibited
        rw [before]
        exact decide_eq_true (List.length_pos_iff.mpr some)

theorem handle_balanced (logind : LogindPrivate) (event : Event) :
    Balanced logind (handle logind event) := by
  cases event with
  | serviceRegistered lookups => exact balanced_serviceRegistered logind lookups
  | serviceUnregistered => exact balanced_serviceUnregistered logind
  | sessionPropertiesChanged => exact balanced_sends _ _ (propertiesChanged_sends logind)
  | sessionActiveReply reply =>
    rcases logind.sessionActiveReply_cases reply with same | ⟨_,_,same⟩ <;> rw [handle,same]
    · exact balanced_same logind
    · exact balanced_quiet _ _ rfl rfl rfl rfl
  | virtualTerminalReply reply =>
    rcases logind.virtualTerminalReply_cases reply with same | ⟨_,_,same⟩ <;> rw [handle,same]
    · exact balanced_same logind
    · exact balanced_quiet _ _ rfl rfl rfl rfl
  | seatReply reply =>
    rcases logind.seatReply_cases reply with same | ⟨_,_,same⟩ <;> rw [handle,same]
    · exact balanced_same logind
    · exact balanced_quiet _ _ rfl rfl rfl rfl
  | takeControl => exact balanced_sends _ _ (sends_unless _ _)
  | takeControlReply valid =>
    obtain ⟨hooks,same⟩ := logind.takeControlReply_eq valid
    exact balanced_quiet _ _ (by simp [handle,same]) (by simp [handle,same]; rfl)
      (by simp [handle,same]; rfl) (by simp [handle,same]; rfl)
  | releaseControl =>
    rcases logind.releaseControl_cases with ⟨_,same⟩ | ⟨_,_,_,same⟩ <;> rw [handle,same]
    · exact balanced_same logind
    · exact balanced_quiet _ _ rfl rfl rfl rfl
  | setIdleHint idle => exact balanced_sends _ _ (sends_unless _ _)
  | inhibit who why flags mode => exact balanced_sends _ _ (sends_unless _ _)
  | inhibitReply who why answer => exact balanced_inhibitReply logind who why answer
  | uninhibit fd => exact balanced_uninhibit logind fd

/-- What carries the counts from one state to the next. -/
structure Even (observed : ObservedLogind) : Prop where
  balance : ∀ fd, (emissions granted observed.effects).count fd =
    (emissions released observed.effects).count fd + observed.logind.inhibitFds.count fd
  pace : InPace inhibited observed

theorem Even.next (observed : ObservedLogind) (result : LogindPrivate × List Effect)
    (even : Even observed) (balanced : Balanced observed.logind result) :
    Even ⟨result.1,observed.effects ++ result.2⟩ := by
  apply Even.mk
  · intro fd
    have before := even.balance fd
    have made := balanced.balance fd
    simp only [emissions_append,List.count_append]
    omega
  · exact (inPace_iff inhibited observed result even.pace
      (reports_length _ _ _ balanced.inhibited)).mpr balanced.inhibited

theorem Even.counted (observed : ObservedLogind) (even : Even observed) : Counted observed := by
  refine ⟨even.balance,?_,even.pace.last.symm,?_⟩
  · intro i bound
    rw [alternates_of_isChain false _ even.pace.changing i bound,Bool.false_xor]
  · intro fd foreign
    exact observed.logind.uninhibit_refused fd (.inr foreign)

/-- The counts are right at the end of every handler of every run. -/
theorem counted_along (events : List Event) : Along step Counted {} events := by
  apply along_of_steps step (fun observed _ => Even observed) Counted fun _ _ => True
  · intro observed event _ next even _ taken
    cases taken
    exact even.next observed _ (handle_balanced observed.logind event)
  · exact fun observed _ even => even.counted observed
  · exact ⟨fun _ => rfl,follows_nil _⟩
  · exact steps_of_all step _ {} events fun _ _ _ => trivial

end LiriSession.ObservedLogind
