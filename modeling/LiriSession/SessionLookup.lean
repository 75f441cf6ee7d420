import LiriSession.InhibitionSteps

/-! Which session the client of logind takes for its own when the service appears. The
lookups are answered anew each time, and the path of an earlier session is still
there when none of them finds one. -/
namespace LiriSession
open Logind

namespace LogindPrivate

def suitable (session : UserSession) : Bool :=
  session.type ∈ ["tty","wayland","x11"] && session.state = "active"

/-- The last session of the user that is suitable. -/
def listedSession (lookups : Lookups) : Option UserSession :=
  ((lookups.sessions.getD []).filter suitable).getLast?

def sessionById (lookups : Lookups) : Option String := lookups.xdgSessionId.bind lookups.getSession

/-- One of the lookups is answered with a session. -/
def Answered (lookups : Lookups) : Prop :=
  listedSession lookups ≠ none ∨ sessionById lookups ≠ none ∨ lookups.getSessionByPid ≠ none

/-- The path that the answers lead to; empty when there is none. -/
def lookedUpPath (lookups : Lookups) : String :=
  match listedSession lookups with
  | some session => session.objectPath
  | none =>
    let byId := (sessionById lookups).getD ""
    if byId ≠ "" then byId else lookups.getSessionByPid.getD ""

/-- What `_q_serviceRegistered` is to do with the answers. -/
structure FindsSession (result : LogindPrivate × List Effect) (lookups : Lookups) : Prop where
  connected : result.1.isConnected = true ↔ lookedUpPath lookups ≠ ""
  path : lookedUpPath lookups ≠ "" → result.1.sessionPath = lookedUpPath lookups
  silent : lookedUpPath lookups = "" → ∀ value, .emit (.connectedChanged value) ∉ result.2

theorem suitable_fold (sessions : List UserSession) (found : Option UserSession) :
    sessions.foldl (fun found current =>
      if current.type ∉ ["tty","wayland","x11"] then found
      else if current.state ≠ "active" then found
      else some current) found =
      (sessions.filter suitable).getLast?.or found := by
  induction sessions generalizing found with
  | nil => rfl
  | cons current sessions ih =>
    rw [List.foldl_cons,ih]
    by_cases type : current.type ∈ ["tty","wayland","x11"]
    · by_cases active : current.state = "active"
      · have chosen : suitable current = true := by simp [suitable,type,active]
        rw [List.filter_cons_of_pos chosen,List.getLast?_cons,if_neg (not_not.mpr type),
          if_neg (not_not.mpr active)]
        cases (sessions.filter suitable).getLast? <;> rfl
      · have passed : ¬suitable current = true := by simp [suitable,active]
        rw [List.filter_cons_of_neg passed,if_neg (not_not.mpr type),if_pos active]
    · have passed : ¬suitable current = true := by simp [suitable,type]
      rw [List.filter_cons_of_neg passed,if_pos type]

theorem getUserSession_eq (lookups : Lookups) : getUserSession lookups = listedSession lookups := by
  unfold getUserSession listedSession
  cases lookups.sessions with
  | none => rfl
  | some sessions =>
    change sessions.foldl _ none = _
    rw [suitable_fold,Option.or_none]
    rfl

theorem lookUpSession_path (logind : LogindPrivate) (lookups : Lookups) (answered : Answered lookups) :
    (logind.lookUpSession lookups).sessionPath = lookedUpPath lookups := by
  unfold Answered at answered
  unfold lookUpSession lookedUpPath
  rw [getUserSession_eq]
  cases listed : listedSession lookups with
  | some session => rfl
  | none =>
    change (if (sessionById lookups).getD "" ≠ "" then _ else _ : LogindPrivate).sessionPath = _
    dsimp only
    split
    next present =>
      change (sessionById lookups).getD logind.sessionPath = (sessionById lookups).getD ""
      cases byId : sessionById lookups with
      | none => simp [byId] at present
      | some path => rfl
    next absent =>
      change lookups.getSessionByPid.getD ((sessionById lookups).getD logind.sessionPath) = _
      cases byPid : lookups.getSessionByPid with
      | some path => rfl
      | none =>
        cases byId : sessionById lookups with
        | none => simp [listed,byId,byPid] at answered
        | some path => simpa [byId] using absent

/-- Nothing has changed the path of an earlier session. -/
theorem lookUpSession_unanswered (logind : LogindPrivate) (lookups : Lookups)
    (unanswered : ¬Answered lookups) :
    (logind.lookUpSession lookups).sessionPath = logind.sessionPath ∧ lookedUpPath lookups = "" := by
  unfold Answered at unanswered
  obtain ⟨listed,others⟩ := not_or.mp unanswered
  obtain ⟨byId,byPid⟩ := not_or.mp others
  have listed := not_not.mp listed
  have byId := not_not.mp byId
  have byPid := not_not.mp byPid
  unfold lookUpSession lookedUpPath
  rw [getUserSession_eq,listed,byId,byPid]
  unfold sessionById at byId
  simp [byId]

theorem registered_path (logind : LogindPrivate) (lookups : Lookups)
    (disconnected : logind.isConnected = false) :
    let path := (logind.lookUpSession lookups).sessionPath
    let result := logind._q_serviceRegistered lookups
    result.1.sessionPath = path ∧ (result.1.isConnected = true ↔ path ≠ "") ∧
      (path = "" → result.2 = []) := by
  intro path result
  dsimp only [path,result]
  by_cases lost : (logind.lookUpSession lookups).sessionPath = ""
  · rw [registered_lost logind lookups disconnected lost]
    exact ⟨lost.symm,by simp [disconnected,lost],fun _ => rfl⟩
  · obtain ⟨subscriptions,_,same⟩ := registered_found logind lookups disconnected lost
    rw [same]
    exact ⟨rfl,by simp [lost],fun empty => absurd empty lost⟩

/-- When the service appears the client finds the session that the answers lead to,
exactly when a lookup is answered or no path is left over from an earlier connection. -/
theorem findsSession_iff (logind : LogindPrivate) (lookups : Lookups)
    (disconnected : logind.isConnected = false) :
    FindsSession (logind._q_serviceRegistered lookups) lookups ↔
      Answered lookups ∨ logind.sessionPath = "" := by
  obtain ⟨path,connected,silent⟩ := registered_path logind lookups disconnected
  by_cases answered : Answered lookups
  · rw [lookUpSession_path logind lookups answered] at path connected silent
    refine ⟨fun _ => .inl answered,fun _ => ⟨connected,fun _ => path,?_⟩⟩
    intro empty value
    rw [silent empty]
    exact List.not_mem_nil
  · obtain ⟨kept,empty⟩ := lookUpSession_unanswered logind lookups answered
    rw [kept] at path connected silent
    apply Iff.intro
    · intro finds
      refine .inr (by_contra fun left => ?_)
      exact finds.connected.mp (connected.mpr left) empty
    · intro condition
      have fresh := condition.resolve_left answered
      refine ⟨by rw [connected,fresh,empty],fun found => absurd empty found,?_⟩
      intro _ value
      rw [silent fresh]
      exact List.not_mem_nil

def noSession : Lookups where
  sessions := none
  xdgSessionId := none
  getSession := fun _ => none
  getSessionByPid := none

/-- Logind comes back without a session, and the client connects to the one it had. -/
theorem earlier_session_taken :
    let before := (({} : LogindPrivate)._q_serviceRegistered Inhibition.graphicalSession).1
    let lost := before._q_serviceUnregistered.1
    lost.isConnected = false ∧ ¬FindsSession (lost._q_serviceRegistered noSession) noSession := by
  intro before lost
  refine ⟨rfl,?_⟩
  intro finds
  exact finds.connected.mp rfl rfl

theorem graphical_session_found :
    FindsSession (({} : LogindPrivate)._q_serviceRegistered Inhibition.graphicalSession)
      Inhibition.graphicalSession :=
  (findsSession_iff {} Inhibition.graphicalSession rfl).mpr (.inr rfl)

end LogindPrivate

end LiriSession
