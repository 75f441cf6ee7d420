import LiriSession.LinkLocation

/-! The properties of the session that the client holds agree with logind's once nothing
is under way. What is said of one property is said once, for any property that is read
and reset in the same way. -/
namespace LiriSession.LogindLink
open Library Logind

/-- A property that the client holds: how it is read, and that nothing else changes it. -/
structure Reading (α : Type) where
  name : String
  held : LogindPrivate → α
  initial : α
  current : SessionState → α
  value : Reply → Option α
  read : name ∈ ["Active","VTNr","Seat"]
  fresh : held {} = initial
  kept : ∀ client lookups, held (client._q_serviceRegistered lookups).1 = held client
  reset : ∀ client : LogindPrivate, held client._q_serviceUnregistered.1 = initial
  replied : ∀ client reply, held (handleReply client reply).1 = (value reply).getD (held client)
  answered : ∀ session other, (answer session other).bind value =
    if other = name then some (current session) else none

def values {α : Type} (reading : Reading α) (toClient : List Delivery) : List α :=
  toClient.filterMap fun | .reply reply => reading.value reply | _ => none

/-- The objects that are still to be asked for the property. -/
def asked (name : String) (toServer : List Outgoing) : List String :=
  toServer.filterMap fun
    | .call (.getProperty path other) => if other = name then some path else none
    | _ => none

/-- The client learns the current value: a change is still to be announced to it, the
session is still to be asked, or the last answer has the value. -/
def Learns {α : Type} (reading : Reading α) (link : LogindLink) : Prop :=
  link.client.sessionPath ∈ link.owed ∨
  .propertiesChanged link.client.sessionPath ∈ link.toClient ∨
  (asked reading.name link.toServer).getLast? = some link.client.sessionPath ∨
  asked reading.name link.toServer = [] ∧ newest (values reading link.toClient)
    (reading.held link.client) = reading.current (link.sessions link.client.sessionPath)

structure Held {α : Type} (reading : Reading α) (link : LogindLink) : Prop where
  unknown : link.client.isConnected = false → reading.held link.client = reading.initial
  learns : Steady link → Learns reading link
  announced : Steady link → link.client.sessionPath ∈ link.watched ∨
    (asked reading.name link.toServer).getLast? = some link.client.sessionPath

theorem held_registered {α : Type} (held : LogindPrivate → α)
    (same : ∀ (client : LogindPrivate) connected path hooks, held { client with
      isConnected := connected, sessionPath := path, subscriptions := hooks } = held client)
    (client : LogindPrivate) (lookups : Lookups) :
    held (client._q_serviceRegistered lookups).1 = held client := by
  rcases client.registered_result lookups with ⟨path,result⟩ | ⟨_,path,hooks,_,_,result⟩
  · rw [result]
    exact same client client.isConnected path client.subscriptions
  · rw [result]
    exact same client true path hooks

def active : Reading Bool where
  name := "Active"
  held client := client.sessionActive
  initial := false
  current session := session.active
  value | .active value => some value | _ => none
  read := by decide
  fresh := rfl
  kept := held_registered _ fun _ _ _ _ => rfl
  reset _ := rfl
  replied client reply := by
    rw [handleReply_eq]
    cases reply <;> rfl
  answered session other := by
    unfold answer
    split <;> (try split) <;> (try split) <;> simp_all

def vtNr : Reading Int where
  name := "VTNr"
  held client := client.vt
  initial := -1
  current session := session.vtNr.toInt32.toInt
  value | .vtNr value => some value.toInt32.toInt | _ => none
  read := by decide
  fresh := rfl
  kept := held_registered _ fun _ _ _ _ => rfl
  reset _ := rfl
  replied client reply := by
    rw [handleReply_eq]
    cases reply <;> rfl
  answered session other := by
    unfold answer
    split <;> (try split) <;> (try split) <;> simp_all

def seat : Reading String where
  name := "Seat"
  held client := client.seat
  initial := ""
  current session := session.seat
  value | .seat id => some id | _ => none
  read := by decide
  fresh := rfl
  kept := held_registered _ fun _ _ _ _ => rfl
  reset _ := rfl
  replied client reply := by
    rw [handleReply_eq]
    cases reply <;> rfl
  answered session other := by
    unfold answer
    split <;> (try split) <;> (try split) <;> simp_all

theorem values_append {α : Type} (reading : Reading α) (first second : List Delivery) :
    values reading (first ++ second) = values reading first ++ values reading second :=
  List.filterMap_append

theorem asked_append (name : String) (first second : List Outgoing) :
    asked name (first ++ second) = asked name first ++ asked name second := List.filterMap_append

section
variable {α : Type} (reading : Reading α)

theorem asked_gets (path : String) : asked reading.name (gets path) = [path] := by
  have listed := reading.read
  simp only [List.mem_cons,List.not_mem_nil,or_false] at listed
  rcases listed with name | name | name <;> simp [asked,gets,name]

theorem asked_silent (name : String) (outgoing : List Outgoing)
    (silent : ∀ path other, .call (.getProperty path other) ∉ outgoing) : asked name outgoing = [] := by
  apply List.filterMap_eq_nil_iff.mpr
  intro message member
  split
  · exact absurd member (silent _ _)
  · rfl

theorem values_silent (delivery : Delivery) (toClient : List Delivery)
    (silent : isReply delivery = false) :
    values reading (delivery::toClient) = values reading toClient := by
  apply List.filterMap_cons_none
  cases delivery with
  | reply reply => cases silent
  | _ => rfl

theorem values_reply (reply : Reply) (toClient : List Delivery) :
    values reading (.reply reply::toClient) =
      (reading.value reply).toList ++ values reading toClient := by
  cases brings : reading.value reply <;> simp [values,brings]

theorem asked_other (name : String) (outgoing : Outgoing) (toServer : List Outgoing)
    (other : ∀ path, outgoing ≠ .call (.getProperty path name)) :
    asked name (outgoing::toServer) = asked name toServer := by
  apply List.filterMap_cons_none
  split
  next path found => exact if_neg fun same => other path (by rw [same])
  next => rfl

/-- A client that is not connected, or will not be, has only its default to hold. -/
theorem Held.unsteady (link next : LogindLink) (held : Held reading link)
    (client : next.client = link.client) (unsteady : ¬Steady next) : Held reading next := by
  refine ⟨?_,fun steady => absurd steady unsteady,fun steady => absurd steady unsteady⟩
  rw [client]
  exact held.unknown

theorem Held.send (link : LogindLink) (held : Held reading link) (outgoing : List Outgoing)
    (asks : asked reading.name outgoing = [] ∨
      (asked reading.name outgoing).getLast? = some link.client.sessionPath) :
    Held reading (link.send outgoing) := by
  have later : (asked reading.name link.toServer).getLast? = some link.client.sessionPath ∨
      (asked reading.name outgoing).getLast? = some link.client.sessionPath →
        (asked reading.name (link.toServer ++ outgoing)).getLast? = some link.client.sessionPath := by
    rw [asked_append,List.getLast?_append]
    rcases asks with none | last
    · simp [none]
    · simp [last]
  refine ⟨held.unknown,fun steady => ?_,fun steady => ?_⟩
  · rcases held.learns steady with owed | announced | last | ⟨none,settled⟩
    · exact .inl owed
    · exact .inr (.inl announced)
    · exact .inr (.inr (.inl (later (.inl last))))
    · rcases asks with silent | last
      · refine .inr (.inr (.inr ⟨?_,settled⟩))
        unfold LogindLink.send
        dsimp only
        rw [asked_append,none,silent]
        rfl
      · exact .inr (.inr (.inl (later (.inr last))))
  · exact (held.announced steady).imp_right fun last => later (.inl last)

theorem steady_of_deliver (link : LogindLink) (delivery : Delivery)
    (steady : Steady (link.deliver delivery)) : Steady link := by
  refine ⟨steady.1,fun lost => steady.2 ?_⟩
  unfold LogindLink.deliver
  rw [statuses_append]
  exact List.mem_append_left _ lost

/-- Something is under way to the client that brings no value. -/
theorem Held.deliver (link : LogindLink) (held : Held reading link) (delivery : Delivery)
    (silent : values reading [delivery] = []) : Held reading (link.deliver delivery) := by
  have before := steady_of_deliver link delivery
  refine ⟨held.unknown,fun steady => ?_,fun steady => held.announced (before steady)⟩
  rcases held.learns (before steady) with owed | announced | last | ⟨none,settled⟩
  · exact .inl owed
  · exact .inr (.inl (List.mem_append_left _ announced))
  · exact .inr (.inr (.inl last))
  · refine .inr (.inr (.inr ⟨none,?_⟩))
    unfold LogindLink.deliver
    rw [values_append,silent,List.append_nil]
    exact settled

theorem Held.change (link : LogindLink) (held : Held reading link) (path : String)
    (session : SessionState) : Held reading { link with
      sessions := Function.update link.sessions path session
      owed := link.owed ++ [path] } := by
  refine ⟨held.unknown,fun steady => ?_,held.announced⟩
  by_cases own : link.client.sessionPath = path
  · exact .inl (List.mem_append_right _ (List.mem_singleton.mpr own))
  · rcases held.learns steady with owed | announced | last | ⟨none,settled⟩
    · exact .inl (List.mem_append_left _ owed)
    · exact .inr (.inl announced)
    · exact .inr (.inr (.inl last))
    · refine .inr (.inr (.inr ⟨none,?_⟩))
      dsimp only
      rw [Function.update_of_ne own]
      exact settled

theorem Held.announce (link : LogindLink) (held : Held reading link) (path : String)
    (owed : List String) (first : link.owed = path::owed) : Held reading
      (if path ∈ link.watched then { link with owed }.deliver (.propertiesChanged path)
      else { link with owed }) := by
  have paid : Held reading { link with owed, toClient := link.toClient } ∨
      link.client.sessionPath = path ∧ path ∈ link.watched := by
    by_cases own : link.client.sessionPath = path ∧ path ∈ link.watched
    · exact .inr own
    · refine .inl ⟨held.unknown,fun steady => ?_,held.announced⟩
      rcases held.learns steady with due | announced | last | settled
      · rw [first] at due
        rcases List.mem_cons.mp due with same | later
        · rcases held.announced steady with watched | last
          · exact absurd ⟨same,same ▸ watched⟩ own
          · exact .inr (.inr (.inl last))
        · exact .inl later
      · exact .inr (.inl announced)
      · exact .inr (.inr (.inl last))
      · exact .inr (.inr (.inr settled))
  split
  next watched =>
    rcases paid with paid | ⟨own,_⟩
    · exact paid.deliver reading _ (.propertiesChanged path) rfl
    · have delivered := held.deliver reading link (.propertiesChanged path) rfl
      refine ⟨held.unknown,fun _ => .inr (.inl ?_),delivered.announced⟩
      exact List.mem_append_right _ (own ▸ List.mem_singleton_self _)
  next unwatched => exact paid.resolve_right fun both => unwatched both.2

/-- A message other than a request for the property is taken. -/
theorem Held.pop (link : LogindLink) (held : Held reading link) (outgoing : Outgoing)
    (toServer : List Outgoing) (first : link.toServer = outgoing::toServer) (added : List String)
    (other : ∀ path, outgoing ≠ .call (.getProperty path reading.name)) :
    Held reading { link with toServer, watched := link.watched ++ added } := by
  have same : asked reading.name link.toServer = asked reading.name toServer := by
    rw [first]
    exact asked_other reading.name outgoing toServer other
  refine ⟨held.unknown,fun steady => ?_,fun steady => ?_⟩
  · have learns := held.learns steady
    unfold Learns at learns
    rw [same] at learns
    exact learns
  · have announced := held.announced steady
    rw [same] at announced
    exact announced.imp_left (List.mem_append_left _)

theorem Held.drop (link : LogindLink) (held : Held reading link) (outgoing : Outgoing)
    (toServer : List Outgoing) (first : link.toServer = outgoing::toServer)
    (other : ∀ path, outgoing ≠ .call (.getProperty path reading.name)) :
    Held reading { link with toServer } := by
  have popped := held.pop reading link outgoing toServer first [] other
  rw [List.append_nil] at popped
  exact popped

/-- A request for the property is answered with its value. -/
theorem Held.answer (link : LogindLink) (held : Held reading link) (located : Located link)
    (path : String) (toServer : List Outgoing)
    (first : link.toServer = .call (.getProperty path reading.name)::toServer) (reply : Reply)
    (brings : reading.value reply = some (reading.current (link.sessions path))) :
    Held reading ({ link with toServer }.deliver (.reply reply)) := by
  have before := steady_of_deliver { link with toServer } (.reply reply)
  have request : asked reading.name link.toServer = path::asked reading.name toServer := by
    rw [first]
    exact List.filterMap_cons_some (if_pos rfl)
  have later : (asked reading.name link.toServer).getLast? = some link.client.sessionPath →
      asked reading.name toServer = [] ∧ path = link.client.sessionPath ∨
        (asked reading.name toServer).getLast? = some link.client.sessionPath := by
    rw [request]
    cases asked reading.name toServer with
    | nil => exact fun last => .inl ⟨rfl,Option.some.inj last⟩
    | cons second rest =>
      rw [List.getLast?_cons_cons]
      exact .inr
  refine ⟨held.unknown,fun steady => ?_,fun steady => ?_⟩
  · rcases held.learns (before steady) with owed | announced | last | ⟨none,_⟩
    · exact .inl owed
    · exact .inr (.inl (List.mem_append_left _ announced))
    · rcases later last with ⟨none,own⟩ | last
      · refine .inr (.inr (.inr ⟨none,?_⟩))
        unfold LogindLink.deliver
        rw [values_append,newest_append]
        simp [values,brings,own]
      · exact .inr (.inr (.inl last))
    · rw [request] at none
      cases none
  · rcases held.announced (before steady) with watched | last
    · exact .inl watched
    · rcases later last with ⟨_,own⟩ | last
      · refine .inl (own ▸ ?_)
        exact (located.covered [] path reading.name toServer first).resolve_right List.not_mem_nil
      · exact .inr last

theorem Held.serve (link : LogindLink) (held : Held reading link) (located : Located link)
    (outgoing : Outgoing) (toServer : List Outgoing) (first : link.toServer = outgoing::toServer) :
    Held reading ({ link with toServer }.serve outgoing) := by
  cases outgoing with
  | listNames =>
    have popped := held.drop reading link _ toServer first fun _ => Outgoing.noConfusion
    exact popped.deliver reading _ _ rfl
  | addMatch path =>
    exact held.pop reading link _ toServer first [path] fun _ => Outgoing.noConfusion
  | call message =>
    unfold LogindLink.serve
    dsimp only
    split
    next =>
      by_cases own : ∃ path, message = .getProperty path reading.name
      · obtain ⟨path,rfl⟩ := own
        have answered := reading.answered (link.sessions path) reading.name
        rw [if_pos rfl] at answered
        obtain ⟨reply,given,brings⟩ := Option.bind_eq_some_iff.mp answered
        unfold handle
        dsimp only
        rw [given]
        exact held.answer reading link located path toServer first reply brings
      · have popped := held.drop reading link _ toServer first fun path same =>
          own ⟨path,Outgoing.call.inj same⟩
        cases message with
        | getProperty path name =>
          have answered := reading.answered (link.sessions path) name
          rw [if_neg fun same => own ⟨path,by rw [same]⟩] at answered
          unfold handle
          dsimp only
          cases given : LogindLink.answer (link.sessions path) name with
          | none => exact popped.deliver reading _ _ rfl
          | some reply =>
            rw [given] at answered
            apply popped.deliver reading
            exact List.filterMap_cons_none answered
        | setIdleHint path arguments timeout =>
          unfold handle
          dsimp only
          split
          · exact ⟨popped.unknown,popped.learns,popped.announced⟩
          · exact popped
        | _ => exact popped
    next unregistered =>
      refine held.unsteady reading link ({ link with toServer }.deliver .error) rfl ?_
      intro steady
      exact unregistered (located.registered link (steady_of_deliver { link with toServer } .error steady))

/-- The client takes something that changes nothing for it. -/
theorem Held.skip (link : LogindLink) (held : Held reading link) (delivery : Delivery)
    (toClient : List Delivery) (first : link.toClient = delivery::toClient)
    (stays : status delivery ≠ some false) (plain : isReply delivery = false)
    (other : delivery ≠ .propertiesChanged link.client.sessionPath) :
    Held reading { link with toClient } := by
  have before : Steady { link with toClient } → Steady link := by
    intro steady
    refine ⟨steady.1,?_⟩
    rw [first]
    cases known : status delivery with
    | none =>
      rw [statuses_silent delivery toClient known]
      exact steady.2
    | some value =>
      rw [statuses_notice delivery toClient value known,List.mem_cons,not_or]
      refine ⟨?_,steady.2⟩
      intro lost
      rw [known,← lost] at stays
      exact stays rfl
  refine ⟨held.unknown,fun steady => ?_,fun steady => held.announced (before steady)⟩
  rcases held.learns (before steady) with owed | announced | last | ⟨none,settled⟩
  · exact .inl owed
  · rw [first] at announced
    exact .inr (.inl ((List.mem_cons.mp announced).resolve_left fun same => other same.symm))
  · exact .inr (.inr (.inl last))
  · rw [first,values_silent reading delivery toClient plain] at settled
    exact .inr (.inr (.inr ⟨none,settled⟩))

/-- The properties are asked for anew. -/
theorem held_of_asking (link : LogindLink) (connected : link.client.isConnected = true)
    (last : (asked reading.name link.toServer).getLast? = some link.client.sessionPath) :
    Held reading link := by
  refine ⟨?_,fun _ => .inr (.inr (.inl last)),fun _ => .inr last⟩
  rw [connected]
  exact Bool.noConfusion

theorem Held.connect (link : LogindLink) (held : Held reading link) (lookups : Lookups)
    (delivery : Delivery) (toClient : List Delivery) (first : link.toClient = delivery::toClient)
    (notice : status delivery = some true) : Held reading ({ link with toClient }.connect lookups) := by
  rcases Bool.eq_false_or_eq_true link.client.isConnected with connected | disconnected
  · rw [connect_again { link with toClient } lookups connected]
    apply held.skip reading link delivery toClient first
    · simp [notice]
    · cases delivery <;> first | rfl | cases notice
    · intro same
      rw [same] at notice
      cases notice
  · by_cases lost : (link.client.lookUpSession lookups).sessionPath = ""
    · have kept := reading.kept link.client lookups
      rw [link.client.registered_lost lookups disconnected lost] at kept
      rw [connect_lost { link with toClient } lookups disconnected lost]
      have unsteady : ¬Steady { link with toClient, client := { link.client with sessionPath := "" } } := by
        intro steady
        have connected := steady.1
        dsimp only at connected
        rw [disconnected] at connected
        cases connected
      refine ⟨fun _ => ?_,fun steady => absurd steady unsteady,fun steady => absurd steady unsteady⟩
      dsimp only at kept ⊢
      rw [kept]
      exact held.unknown disconnected
    · obtain ⟨hooks,_,same⟩ := connect_found { link with toClient } lookups disconnected lost
      rw [same]
      apply held_of_asking reading _ rfl
      dsimp only [LogindLink.send]
      have matches_ (after : LogindPrivate) : asked reading.name (newMatches link.client after) = [] :=
        asked_silent _ _ fun path name member => by simp [newMatches] at member
      rw [asked_append,asked_append,matches_,List.nil_append,List.cons_append,
        asked_other _ _ _ (fun _ => by simp),asked_append,asked_gets]
      simp [asked]

theorem Held.lose (link : LogindLink) (toClient : List Delivery) :
    Held reading { link with client := link.client._q_serviceUnregistered.1, toClient } :=
  ⟨fun _ => reading.reset link.client,fun steady => Bool.noConfusion steady.1,
    fun steady => Bool.noConfusion steady.1⟩

/-- A reply is taken: it arrives while the client is connected. -/
theorem Held.reply (link : LogindLink) (held : Held reading link) (located : Located link)
    (reply : Reply) (toClient : List Delivery) (first : link.toClient = .reply reply::toClient) :
    Held reading { link with client := (handleReply link.client reply).1, toClient } := by
  obtain ⟨connected,path,_⟩ := handleReply_frame link.client reply
  have expected := located.expected
  rw [first] at expected
  have before : Steady { link with client := (handleReply link.client reply).1, toClient } →
      Steady link := by
    intro steady
    refine ⟨expected.1 rfl,?_⟩
    rw [first]
    exact steady.2
  refine ⟨?_,fun steady => ?_,fun steady => ?_⟩
  · dsimp only
    rw [connected,expected.1 rfl]
    exact Bool.noConfusion
  · have learns := held.learns (before steady)
    unfold Learns at learns ⊢
    dsimp only
    rw [path,reading.replied]
    rcases learns with owed | announced | last | ⟨none,settled⟩
    · exact .inl owed
    · rw [first] at announced
      exact .inr (.inl ((List.mem_cons.mp announced).resolve_left Delivery.noConfusion))
    · exact .inr (.inr (.inl last))
    · refine .inr (.inr (.inr ⟨none,?_⟩))
      rw [← settled,first,values_reply,newest_append]
      cases reading.value reply <;> rfl
  · dsimp only
    rw [path]
    exact held.announced (before steady)

theorem Held.receive (link : LogindLink) (held : Held reading link) (located : Located link)
    (lookups : Lookups) (delivery : Delivery) (toClient : List Delivery)
    (first : link.toClient = delivery::toClient) :
    Held reading ({ link with toClient }.receive lookups delivery) := by
  cases delivery with
  | names found =>
    cases found with
    | true => exact held.connect reading link lookups _ toClient first rfl
    | false => exact held.skip reading link _ toClient first nofun rfl nofun
  | registered => exact held.connect reading link lookups _ toClient first rfl
  | unregistered =>
    rw [receive_unregistered]
    exact Held.lose reading link toClient
  | propertiesChanged path =>
    rcases Bool.eq_false_or_eq_true link.client.isConnected with connected | disconnected
    · obtain ⟨found,hook⟩ := located.session connected
      rw [receive_propertiesChanged { link with toClient } lookups path connected found]
      split
      next =>
        refine held_of_asking reading ({ link with toClient }.send (gets link.client.sessionPath))
          connected ?_
        dsimp only [LogindLink.send]
        rw [asked_append,asked_gets,List.getLast?_concat]
      next unheard =>
        apply held.skip reading link _ toClient first nofun rfl
        intro own
        cases own
        exact unheard hook
    · rw [receive_propertiesChanged_disconnected { link with toClient } lookups path disconnected]
      refine held.unsteady reading link { link with toClient } rfl ?_
      intro steady
      have connected := steady.1
      dsimp only at connected
      rw [disconnected] at connected
      cases connected
  | reply reply =>
    rw [receive_reply]
    exact held.reply reading link located reply toClient first
  | error => exact held.skip reading link _ toClient first nofun rfl nofun

theorem step_held (link next : LogindLink) (event : Event) (held : Held reading link)
    (located : Located link) (taken : step link event = some next) : Held reading next := by
  cases moves_of_step link next event taken with
  | register sessions absent =>
    refine held.unsteady reading link _ ?_ ?_
    · rfl
    · exact fun steady => absent (located.registered link (steady_of_deliver link .registered steady))
  | unregister =>
    refine held.unsteady reading link _ ?_ ?_
    · rfl
    · intro steady
      apply steady.2
      unfold LogindLink.deliver
      rw [statuses_append]
      exact List.mem_append_right _ (List.mem_singleton_self _)
  | change path session => exact held.change reading link path session
  | announce path owed first => exact held.announce reading link path owed first
  | served outgoing toServer first => exact held.serve reading link located outgoing toServer first
  | received lookups delivery toClient first =>
    exact held.receive reading link located lookups delivery toClient first
  | setIdle value =>
    exact held.send reading link _ (.inl (asked_silent _ _ (setIdle_asks link.client value)))

theorem Held.settled (link : LogindLink) (held : Held reading link) (quiet : link.Quiet) :
    reading.held link.client = if link.client.isConnected then
      reading.current (link.sessions link.client.sessionPath) else reading.initial := by
  obtain ⟨owed,toServer,toClient⟩ := quiet
  rcases Bool.eq_false_or_eq_true link.client.isConnected with connected | disconnected
  · rw [if_pos connected]
    have steady : Steady link := ⟨connected,by rw [toClient]; exact List.not_mem_nil⟩
    have learns := held.learns steady
    unfold Learns at learns
    rw [owed,toServer,toClient] at learns
    rcases learns with owed | announced | last | ⟨_,settled⟩
    · cases owed
    · cases announced
    · cases last
    · exact settled
  · rw [if_neg (by simp [disconnected])]
    exact held.unknown disconnected

end

/-- A terminal's number is small enough for the cast to keep it. -/
theorem vtNr_cast (number : UInt32) (small : number.toNat < 2^31) :
    number.toInt32.toInt = number.toNat := by
  change number.toBitVec.toInt = number.toBitVec.toNat
  exact BitVec.toInt_eq_toNat_of_lt (by change 2 * number.toNat < 2^32; omega)

/-- What a client knows when nothing is under way: while it is connected what logind has
for its session, and otherwise nothing. -/
structure Coherent (link : LogindLink) : Prop where
  sessionActive : link.client.sessionActive = if link.client.isConnected then
    (link.sessions link.client.sessionPath).active else false
  vtNumber : link.client.vt = if link.client.isConnected then
    (link.sessions link.client.sessionPath).vtNr.toInt32.toInt else -1
  sameNumber : link.client.isConnected = true →
    (link.sessions link.client.sessionPath).vtNr.toNat < 2^31 →
      link.client.vt = (link.sessions link.client.sessionPath).vtNr.toNat
  seat : link.client.seat = if link.client.isConnected then
    (link.sessions link.client.sessionPath).seat else ""

structure Sound (link : LogindLink) : Prop where
  located : Located link
  active : Held active link
  vtNr : Held vtNr link
  seat : Held seat link

theorem sound_start (registered : Bool) (sessions : String → SessionState) :
    Sound (start registered sessions) := by
  have located : Located (start registered sessions) := by
    refine ⟨fun some => ?_,Bool.noConfusion,fun _ => ⟨?_,?_⟩,?_,?_,trivial⟩
    · rcases some with some | some <;> exact absurd rfl some
    · intro path name member
      simp [start] at member
    · exact fun _ member => absurd member List.not_mem_nil
    · exact fun _ member => absurd member List.not_mem_nil
    · intro before path name after split
      cases before <;> simp [start] at split
  have held {α : Type} (reading : Reading α) : Held reading (start registered sessions) :=
    ⟨fun _ => reading.fresh,fun steady => Bool.noConfusion steady.1,
      fun steady => Bool.noConfusion steady.1⟩
  exact ⟨located,held active,held vtNr,held seat⟩

/-- In every state of every run in which nothing is under way, the client and logind agree
on the session. -/
theorem coherent_along (registered : Bool) (sessions : String → SessionState) (events : List Event) :
    Along step (fun link => link.Quiet → Coherent link) (start registered sessions) events := by
  apply along_of_steps step (fun link _ => Sound link) _ fun _ _ => True
  · intro link event _ next sound _ taken
    exact ⟨step_located link next event sound.located taken,
      step_held active link next event sound.active sound.located taken,
      step_held vtNr link next event sound.vtNr sound.located taken,
      step_held seat link next event sound.seat sound.located taken⟩
  · intro link _ sound quiet
    have number := sound.vtNr.settled vtNr link quiet
    refine ⟨sound.active.settled active link quiet,number,?_,sound.seat.settled seat link quiet⟩
    intro connected small
    rw [if_pos connected] at number
    exact number.trans (vtNr_cast _ small)
  · exact sound_start registered sessions
  · exact steps_of_all step _ _ events fun _ _ _ => trivial

end LiriSession.LogindLink
