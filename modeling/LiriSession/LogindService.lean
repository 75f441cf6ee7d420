import LiriSession.Logind

/-! What the client of logind does when the service appears, in one equation for each
way it can go. -/
namespace LiriSession
open Logind

namespace LogindPrivate

theorem lookUpSession_eq (logind : LogindPrivate) (lookups : Lookups) :
    logind.lookUpSession lookups =
      { logind with sessionPath := (logind.lookUpSession lookups).sessionPath } := by
  unfold lookUpSession
  split
  · rfl
  · dsimp only
    split <;> rfl

theorem subscribe_eq (logind : LogindPrivate) (hook : Subscription) :
    ∃ added, logind.subscribe hook.path hook.interface hook.member =
        { logind with subscriptions := logind.subscriptions ++ added } ∧
      added ⊆ [hook] ∧ hook ∈ logind.subscriptions ++ added := by
  unfold subscribe
  dsimp only
  split
  next known =>
    refine ⟨[],?_,List.nil_subset _,List.mem_append_left _ known⟩
    rw [List.append_nil]
  next => exact ⟨[hook],rfl,List.Subset.refl _,List.mem_append_right _ (List.mem_singleton_self _)⟩

theorem subscribe_path (logind : LogindPrivate) (path interface member : String) :
    (logind.subscribe path interface member).sessionPath = logind.sessionPath := by
  obtain ⟨_,same,_⟩ := subscribe_eq logind ⟨path,interface,member⟩
  rw [same]

/-- One subscription after another. -/
def subscribeEach (logind : LogindPrivate) (hooks : List Subscription) : LogindPrivate :=
  hooks.foldl (fun logind hook => logind.subscribe hook.path hook.interface hook.member) logind

theorem subscribeEach_eq (logind : LogindPrivate) (hooks : List Subscription) :
    ∃ added, logind.subscribeEach hooks = { logind with subscriptions := logind.subscriptions ++ added } ∧
      added ⊆ hooks ∧ hooks ⊆ logind.subscriptions ++ added := by
  induction hooks generalizing logind with
  | nil =>
    refine ⟨[],?_,List.nil_subset _,List.nil_subset _⟩
    rw [List.append_nil]
    rfl
  | cons hook hooks ih =>
    obtain ⟨first,once,only,listed⟩ := logind.subscribe_eq hook
    obtain ⟨rest,later,others,kept⟩ := ih { logind with subscriptions := logind.subscriptions ++ first }
    refine ⟨first ++ rest,?_,?_,?_⟩
    · rw [subscribeEach,List.foldl_cons,once,← List.append_assoc]
      exact later
    · exact List.append_subset.mpr ⟨fun _ member => List.mem_cons.mpr (.inl (List.mem_singleton.mp (only member))),
        fun _ member => List.mem_cons_of_mem _ (others member)⟩
    · rw [← List.append_assoc]
      exact List.cons_subset.mpr ⟨List.mem_append_left _ listed,kept⟩

/-- None is added twice, and they are added in order. -/
theorem subscribeEach_sublist (logind : LogindPrivate) (hooks : List Subscription) :
    ∃ added, added.Sublist hooks ∧
      logind.subscribeEach hooks = { logind with subscriptions := logind.subscriptions ++ added } := by
  induction hooks generalizing logind with
  | nil =>
    refine ⟨[],.slnil,?_⟩
    rw [List.append_nil]
    rfl
  | cons hook hooks ih =>
    by_cases known : hook ∈ logind.subscriptions
    · obtain ⟨added,only,later⟩ := ih logind
      have once : logind.subscribe hook.path hook.interface hook.member = logind := if_pos known
      refine ⟨added,only.cons hook,?_⟩
      rw [subscribeEach,List.foldl_cons,once]
      exact later
    · obtain ⟨added,only,later⟩ := ih { logind with subscriptions := logind.subscriptions ++ [hook] }
      have once : logind.subscribe hook.path hook.interface hook.member =
          { logind with subscriptions := logind.subscriptions ++ [hook] } := if_neg known
      refine ⟨hook::added,only.cons_cons hook,?_⟩
      rw [List.append_cons,subscribeEach,List.foldl_cons,once]
      exact later

/-- Distinct subscriptions that are not there yet are all added. -/
theorem subscribeEach_new (logind : LogindPrivate) (hooks : List Subscription) (distinct : hooks.Nodup)
    (fresh : ∀ hook ∈ hooks, hook ∉ logind.subscriptions) :
    logind.subscribeEach hooks = { logind with subscriptions := logind.subscriptions ++ hooks } := by
  induction hooks generalizing logind with
  | nil => simp [subscribeEach]
  | cons hook hooks ih =>
    obtain ⟨apart,distinct⟩ := List.nodup_cons.mp distinct
    have once : logind.subscribe hook.path hook.interface hook.member =
        { logind with subscriptions := logind.subscriptions ++ [hook] } :=
      if_neg (fresh hook (List.mem_cons_self ..))
    have others : ∀ other ∈ hooks, other ∉ logind.subscriptions ++ [hook] := by
      intro other member listed
      rcases List.mem_append.mp listed with before | new
      · exact fresh other (List.mem_cons_of_mem hook member) before
      · exact apart (List.mem_singleton.mp new ▸ member)
    rw [subscribeEach,List.foldl_cons,once]
    have rest := ih { logind with subscriptions := logind.subscriptions ++ [hook] } distinct others
    rw [List.append_assoc] at rest
    exact rest

/-- The subscription that brings the changes of a session's properties. -/
def watch (path : String) : Subscription := ⟨path,properties,"PropertiesChanged"⟩

def sessionHooks (path : String) : List Subscription :=
  [⟨path,session,"Lock"⟩,⟨path,session,"Unlock"⟩,watch path,⟨object,manager,"PrepareForSleep"⟩,
    ⟨object,manager,"PrepareForShutdown"⟩]

def controlHooks (path : String) : List Subscription :=
  [⟨path,session,"PauseDevice"⟩,⟨path,session,"ResumeDevice"⟩]

def getProperties (path : String) : List Effect :=
  ["Active","VTNr","Seat"].map fun name => .send (.getProperty path name)

theorem propertiesChanged_eq (logind : LogindPrivate) (connected : logind.isConnected = true)
    (found : logind.sessionPath ≠ "") :
    logind._q_sessionPropertiesChanged = getProperties logind.sessionPath := by
  simp [_q_sessionPropertiesChanged,getProperties,connected,found]

theorem registered_again (logind : LogindPrivate) (lookups : Lookups)
    (connected : logind.isConnected = true) :
    logind._q_serviceRegistered lookups = (logind,[]) := if_pos connected

theorem registered_lost (logind : LogindPrivate) (lookups : Lookups)
    (disconnected : logind.isConnected = false)
    (lost : (logind.lookUpSession lookups).sessionPath = "") :
    logind._q_serviceRegistered lookups = ({ logind with sessionPath := "" },[]) := by
  unfold _q_serviceRegistered
  rw [if_neg (by simp [disconnected]),lookUpSession_eq,lost]
  rfl

/-- With a session the client connects, watches the session and reads its properties. -/
theorem registered_subscribes (logind : LogindPrivate) (lookups : Lookups)
    (disconnected : logind.isConnected = false)
    (found : (logind.lookUpSession lookups).sessionPath ≠ "") :
    let path := (logind.lookUpSession lookups).sessionPath
    logind._q_serviceRegistered lookups =
      ({ logind with isConnected := true, sessionPath := path }.subscribeEach (sessionHooks path),
        .send (.activate path)::getProperties path ++ [.emit (.connectedChanged true)]) := by
  unfold _q_serviceRegistered
  rw [if_neg (by simp [disconnected]),lookUpSession_eq]
  generalize (logind.lookUpSession lookups).sessionPath = path at found
  intro path
  dsimp only
  rw [if_neg found]
  simp only [subscribe_path]
  obtain ⟨added,subscribed,_⟩ :=
    subscribeEach_eq { logind with isConnected := true, sessionPath := path } (sessionHooks path)
  have chained := subscribed
  simp only [subscribeEach,sessionHooks,watch,List.foldl_cons,List.foldl_nil] at chained
  rw [chained,subscribed,propertiesChanged_eq _ rfl found]

theorem registered_found (logind : LogindPrivate) (lookups : Lookups)
    (disconnected : logind.isConnected = false)
    (found : (logind.lookUpSession lookups).sessionPath ≠ "") :
    let path := (logind.lookUpSession lookups).sessionPath
    ∃ subscriptions, sessionHooks path ⊆ subscriptions ∧ logind._q_serviceRegistered lookups =
      ({ logind with isConnected := true, sessionPath := path, subscriptions },
        .send (.activate path)::getProperties path ++ [.emit (.connectedChanged true)]) := by
  intro path
  obtain ⟨added,subscribed,_,listed⟩ :=
    subscribeEach_eq { logind with isConnected := true, sessionPath := path } (sessionHooks path)
  refine ⟨_,listed,?_⟩
  rw [registered_subscribes logind lookups disconnected found,subscribed]

/-- A connected client does nothing, and only a session makes another connect. -/
theorem registered_cases (logind : LogindPrivate) (lookups : Lookups) :
    logind.isConnected = true ∧ logind._q_serviceRegistered lookups = (logind,[]) ∨
    logind.isConnected = false ∧
      logind._q_serviceRegistered lookups = ({ logind with sessionPath := "" },[]) ∨
    logind.isConnected = false ∧ ∃ path subscriptions, path ≠ "" ∧ sessionHooks path ⊆ subscriptions ∧
      logind._q_serviceRegistered lookups =
        ({ logind with isConnected := true, sessionPath := path, subscriptions },
          .send (.activate path)::getProperties path ++ [.emit (.connectedChanged true)]) := by
  rcases Bool.eq_false_or_eq_true logind.isConnected with connected | disconnected
  · exact .inl ⟨connected,registered_again logind lookups connected⟩
  · by_cases lost : (logind.lookUpSession lookups).sessionPath = ""
    · exact .inr (.inl ⟨disconnected,registered_lost logind lookups disconnected lost⟩)
    · obtain ⟨subscriptions,listed,same⟩ := registered_found logind lookups disconnected lost
      exact .inr (.inr ⟨disconnected,_,subscriptions,lost,listed,same⟩)

theorem registered_fds (logind : LogindPrivate) (lookups : Lookups) :
    (logind._q_serviceRegistered lookups).1.inhibitFds = logind.inhibitFds := by
  rcases registered_cases logind lookups with ⟨_,same⟩ | ⟨_,same⟩ | ⟨_,_,_,_,_,same⟩ <;> rw [same]

theorem unregistered_fds (logind : LogindPrivate) :
    logind._q_serviceUnregistered.1.inhibitFds = logind.inhibitFds := rfl

theorem takeControlReply_subscribes (logind : LogindPrivate) : logind.handleTakeControlReply true =
    ({ logind with hasSessionControl := true }.subscribeEach (controlHooks logind.sessionPath),
      [.emit (.hasSessionControlChanged true)]) := by
  unfold handleTakeControlReply
  rw [if_neg (by decide)]
  simp only [subscribe_path]
  rfl

theorem takeControlReply_eq (logind : LogindPrivate) (valid : Bool) :
    ∃ subscriptions, logind.handleTakeControlReply valid =
      ({ logind with hasSessionControl := valid, subscriptions },
        [.emit (.hasSessionControlChanged valid)]) := by
  cases valid with
  | false => exact ⟨logind.subscriptions,rfl⟩
  | true =>
    obtain ⟨added,subscribed,_⟩ :=
      subscribeEach_eq { logind with hasSessionControl := true } (controlHooks logind.sessionPath)
    refine ⟨logind.subscriptions ++ added,?_⟩
    rw [takeControlReply_subscribes,subscribed]

theorem sessionActiveReply_cases (logind : LogindPrivate) (reply : Option Bool) :
    logind.handleSessionActiveReply reply = (logind,[]) ∨ ∃ active, logind.sessionActive ≠ active ∧
      logind.handleSessionActiveReply reply =
        ({ logind with sessionActive := active },[.emit (.sessionActiveChanged active)]) := by
  cases reply with
  | none => exact .inl rfl
  | some active =>
    by_cases same : logind.sessionActive = active
    · exact .inl (if_neg (not_not_intro same))
    · exact .inr ⟨active,same,if_pos same⟩

theorem virtualTerminalReply_cases (logind : LogindPrivate) (reply : Option UInt32) :
    logind.handleVirtualTerminalReply reply = (logind,[]) ∨ ∃ vt, logind.vt ≠ vt ∧
      logind.handleVirtualTerminalReply reply = ({ logind with vt },[.emit (.vtNumberChanged vt)]) := by
  cases reply with
  | none => exact .inl rfl
  | some vtnr =>
    by_cases same : logind.vt = vtnr.toInt32.toInt
    · exact .inl (if_neg (not_not_intro same))
    · exact .inr ⟨vtnr.toInt32.toInt,same,if_pos same⟩

theorem seatReply_cases (logind : LogindPrivate) (reply : Option String) :
    logind.handleSeatReply reply = (logind,[]) ∨ ∃ seat, logind.seat ≠ seat ∧
      logind.handleSeatReply reply = ({ logind with seat },[.emit (.seatChanged seat)]) := by
  cases reply with
  | none => exact .inl rfl
  | some id =>
    by_cases same : logind.seat = id
    · exact .inl (if_neg (not_not_intro same))
    · exact .inr ⟨id,same,if_pos same⟩

theorem releaseControl_cases (logind : LogindPrivate) :
    (logind.isConnected = false ∨ logind.sessionPath = "" ∨ logind.hasSessionControl = false) ∧
      logind.releaseControl = (logind,[]) ∨
    logind.isConnected = true ∧ logind.sessionPath ≠ "" ∧ logind.hasSessionControl = true ∧
      logind.releaseControl = ({ logind with hasSessionControl := false },
        [.send (.releaseControl logind.sessionPath),.emit (.hasSessionControlChanged false)]) := by
  unfold releaseControl
  split
  next refused => exact .inl ⟨by simpa [or_assoc] using refused,rfl⟩
  next accepted =>
    simp only [Bool.or_eq_true,Bool.not_eq_true',decide_eq_true_eq,not_or] at accepted
    obtain ⟨⟨connected,found⟩,controlled⟩ := accepted
    exact .inr ⟨by simpa using connected,found,by simpa using controlled,rfl⟩

theorem inhibitReply_granted (logind : LogindPrivate) (who why : String) (fd : Int) :
    logind.handleInhibitReply who why (.granted fd) =
      ({ logind with inhibitFds := logind.inhibitFds ++ [fd] },
        (if logind.inhibitFds = [] then [.emit (.inhibitedChanged true)] else []) ++
          [.emit (.inhibited who why fd)]) := by
  have one : (logind.inhibitFds ++ [fd]).length = 1 ↔ logind.inhibitFds = [] := by
    rw [List.length_append,List.length_singleton,Nat.succ_inj,List.length_eq_zero_iff]
  unfold handleInhibitReply
  dsimp only
  rw [if_congr one rfl rfl]

theorem uninhibit_refused (logind : LogindPrivate) (fd : Int)
    (refused : logind.isConnected = false ∨ fd ∉ logind.inhibitFds) :
    logind.uninhibit fd = (logind,[]) := by
  apply if_pos
  rcases refused with disconnected | foreign
  · simp [disconnected]
  · simp [foreign]

theorem uninhibit_held (logind : LogindPrivate) (fd : Int) (connected : logind.isConnected = true)
    (held : fd ∈ logind.inhibitFds) : logind.uninhibit fd =
      ({ logind with inhibitFds := logind.inhibitFds.erase fd },
        [.close fd] ++
          (if logind.inhibitFds.erase fd = [] then [.emit (.inhibitedChanged false)] else []) ++
          [.emit (.uninhibited fd)]) := by
  have accepted : ¬((!logind.isConnected || decide (fd ∉ logind.inhibitFds)) = true) := by
    simp [connected,held]
  unfold uninhibit
  rw [if_neg accepted]
  dsimp only
  rw [if_congr List.length_eq_zero_iff rfl rfl]

theorem uninhibit_cases (logind : LogindPrivate) (fd : Int) :
    (logind.isConnected = false ∨ fd ∉ logind.inhibitFds) ∧ logind.uninhibit fd = (logind,[]) ∨
    logind.isConnected = true ∧ fd ∈ logind.inhibitFds ∧ logind.uninhibit fd =
      ({ logind with inhibitFds := logind.inhibitFds.erase fd },
        [.close fd] ++
          (if logind.inhibitFds.erase fd = [] then [.emit (.inhibitedChanged false)] else []) ++
          [.emit (.uninhibited fd)]) := by
  rcases Bool.eq_false_or_eq_true logind.isConnected with connected | disconnected
  · by_cases held : fd ∈ logind.inhibitFds
    · exact .inr ⟨connected,held,uninhibit_held logind fd connected held⟩
    · exact .inl ⟨.inr held,uninhibit_refused logind fd (.inr held)⟩
  · exact .inl ⟨.inl disconnected,uninhibit_refused logind fd (.inl disconnected)⟩

end LogindPrivate

end LiriSession
