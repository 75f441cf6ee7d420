import LiriSession.LogindLink

/-! Where the client of logind stands while notifications, requests and replies are under
way: what is known of its connection, its session and its subscriptions in every run. -/
namespace LiriSession.LogindLink
open Library Logind

/-- What a notification says about the name of logind. -/
def status : Delivery → Option Bool
  | .names found => if found then some true else none
  | .registered => some true
  | .unregistered => some false
  | _ => none

def statuses (toClient : List Delivery) : List Bool := toClient.filterMap status

def isReply : Delivery → Bool
  | .reply _ => true
  | _ => false

/-- Every reply arrives while the client is connected. -/
def Expected : Bool → List Delivery → Prop
  | _, [] => True
  | connected, delivery::toClient =>
    (isReply delivery = true → connected = true) ∧
      Expected ((status delivery).getD connected) toClient

/-- Every property is asked for after the bus has been told to forward its changes. -/
def Covered (watched : List String) (toServer : List Outgoing) : Prop :=
  ∀ before path name after, toServer = before ++ .call (.getProperty path name)::after →
    path ∈ watched ∨ .addMatch path ∈ before

/-- Where the client stands, whatever it reads. -/
structure Located (link : LogindLink) : Prop where
  standing : statuses link.toClient ≠ [] ∨ link.client.sessionPath ≠ "" →
    newest (statuses link.toClient) link.client.isConnected = link.registered
  session : link.client.isConnected = true → link.client.sessionPath ≠ "" ∧
    LogindPrivate.watch link.client.sessionPath ∈ link.client.subscriptions
  unasked : link.client.sessionPath = "" →
    (∀ path name, .call (.getProperty path name) ∉ link.toServer) ∧
      ∀ delivery ∈ link.toClient, isReply delivery = false
  watched : ∀ path, LogindPrivate.watch path ∈ link.client.subscriptions →
    path ∈ link.watched ∨ .addMatch path ∈ link.toServer
  covered : Covered link.watched link.toServer
  expected : Expected link.client.isConnected link.toClient

/-- The client is connected and will be. -/
def Steady (link : LogindLink) : Prop :=
  link.client.isConnected = true ∧ false ∉ statuses link.toClient

theorem handleReply_eq (client : LogindPrivate) (reply : Reply) : (handleReply client reply).1 =
    match reply with
    | .active value => { client with sessionActive := value }
    | .vtNr value => { client with vt := value.toInt32.toInt }
    | .seat id => { client with seat := id } := by
  obtain ⟨_,_,_,_,_,_,_,_⟩ := client
  cases reply <;> simp only [handleReply,LogindPrivate.handleSessionActiveReply,
    LogindPrivate.handleVirtualTerminalReply,LogindPrivate.handleSeatReply] <;> split <;> simp_all

theorem statuses_append (first second : List Delivery) :
    statuses (first ++ second) = statuses first ++ statuses second := List.filterMap_append

theorem statuses_silent (delivery : Delivery) (toClient : List Delivery)
    (silent : status delivery = none) : statuses (delivery::toClient) = statuses toClient :=
  List.filterMap_cons_none silent

theorem statuses_notice (delivery : Delivery) (toClient : List Delivery) (value : Bool)
    (notice : status delivery = some value) :
    statuses (delivery::toClient) = value::statuses toClient :=
  List.filterMap_cons_some notice

theorem expected_concat (connected : Bool) (toClient : List Delivery) (delivery : Delivery) :
    Expected connected (toClient ++ [delivery]) ↔ Expected connected toClient ∧
      (isReply delivery = true → newest (statuses toClient) connected = true) := by
  induction toClient generalizing connected with
  | nil => simp [Expected,statuses]
  | cons first toClient ih =>
    rw [List.cons_append,Expected,ih,Expected,and_assoc]
    cases known : status first with
    | none => rw [statuses_silent first toClient known,Option.getD_none]
    | some value => rw [statuses_notice first toClient value known,newest_cons,Option.getD_some]

theorem expected_silent (connected : Bool) (toClient : List Delivery)
    (silent : ∀ delivery ∈ toClient, isReply delivery = false) : Expected connected toClient := by
  induction toClient generalizing connected with
  | nil => trivial
  | cons first toClient ih =>
    obtain ⟨quiet,rest⟩ := List.forall_mem_cons.mp silent
    exact ⟨fun reply => absurd reply (by simp [quiet]),ih _ rest⟩

theorem Covered.send (watched : List String) (toServer outgoing : List Outgoing)
    (covered : Covered watched toServer)
    (asks : ∀ path name, .call (.getProperty path name) ∈ outgoing →
      path ∈ watched ∨ .addMatch path ∈ toServer) : Covered watched (toServer ++ outgoing) := by
  intro before path name after split
  rcases List.append_eq_append_iff.mp split with ⟨middle,same,rest⟩ | ⟨middle,same,rest⟩
  · have member : .call (.getProperty path name) ∈ outgoing := by
      rw [rest]
      exact List.mem_append_right _ (List.mem_cons_self ..)
    rw [same]
    exact (asks path name member).imp_right (List.mem_append_left _)
  · cases middle with
    | nil =>
      have member : .call (.getProperty path name) ∈ outgoing := by
        rw [List.nil_append] at rest
        rw [← rest]
        exact List.mem_cons_self ..
      rw [List.append_nil] at same
      exact same ▸ asks path name member
    | cons first middle =>
      obtain ⟨head,_⟩ := List.cons_eq_cons.mp rest
      exact covered before path name middle (by rw [same,head])

theorem Covered.serve (watched : List String) (outgoing : Outgoing) (toServer : List Outgoing)
    (covered : Covered watched (outgoing::toServer)) (added : List String)
    (known : ∀ path, outgoing = .addMatch path → path ∈ added) :
    Covered (watched ++ added) toServer := by
  intro before path name after split
  rcases covered (outgoing::before) path name after (by rw [split]; rfl) with before | later
  · exact .inl (List.mem_append_left _ before)
  · rcases List.mem_cons.mp later with first | later
    · exact .inl (List.mem_append_right _ (known path first.symm))
    · exact .inr later

theorem Located.registered (link : LogindLink) (located : Located link) (steady : Steady link) :
    link.registered = true := by
  obtain ⟨connected,stays⟩ := steady
  rw [← located.standing (.inr (located.session connected).1),connected]
  rcases List.mem_cons.mp (newest_mem (statuses link.toClient) true) with same | member
  · exact same
  · by_contra lost
    rw [Bool.eq_false_of_not_eq_true lost] at member
    exact stays member

/-- The bus or logind tells the client something that is not a reply. -/
theorem Located.notify (link : LogindLink) (located : Located link) (delivery : Delivery)
    (registered : Bool) (sessions : String → SessionState) (hints : String → Bool)
    (owed : List String) (plain : isReply delivery = false)
    (known : status delivery = some registered ∨
      status delivery = none ∧ registered = link.registered) :
    Located { link with
      registered, sessions, hints, owed
      toClient := link.toClient ++ [delivery] } := by
  refine ⟨?_,located.session,?_,located.watched,located.covered,?_⟩
  · dsimp only
    rw [statuses_append]
    rcases known with notice | ⟨silent,same⟩
    · rw [statuses_notice delivery [] registered notice]
      simp [statuses]
    · rw [statuses_silent delivery [] silent,same]
      simpa [statuses] using located.standing
  · intro empty
    refine ⟨(located.unasked empty).1,?_⟩
    rw [List.forall_mem_append]
    exact ⟨(located.unasked empty).2,fun other member => List.mem_singleton.mp member ▸ plain⟩
  · rw [expected_concat]
    exact ⟨located.expected,fun reply => absurd reply (by simp [plain])⟩

theorem Located.send (link : LogindLink) (located : Located link) (outgoing : List Outgoing)
    (asks : ∀ path name, .call (.getProperty path name) ∈ outgoing →
      link.client.sessionPath ≠ "" ∧ (path ∈ link.watched ∨ .addMatch path ∈ link.toServer)) :
    Located (link.send outgoing) := by
  refine ⟨located.standing,located.session,?_,?_,?_,located.expected⟩
  · intro empty
    refine ⟨?_,(located.unasked empty).2⟩
    intro path name member
    rcases List.mem_append.mp member with earlier | later
    · exact (located.unasked empty).1 path name earlier
    · exact (asks path name later).1 empty
  · exact fun path hook => (located.watched path hook).imp_right (List.mem_append_left _)
  · exact located.covered.send _ _ _ fun path name member => (asks path name member).2

/-- The bus or logind takes a message; what it has to say in return comes later. -/
theorem Located.pop (link : LogindLink) (located : Located link) (outgoing : Outgoing)
    (toServer : List Outgoing) (first : link.toServer = outgoing::toServer) (added : List String)
    (known : ∀ path, outgoing = .addMatch path → path ∈ added) :
    Located { link with toServer, watched := link.watched ++ added } := by
  refine ⟨located.standing,located.session,?_,?_,?_,located.expected⟩
  · intro empty
    obtain ⟨unasked,silent⟩ := located.unasked empty
    rw [first] at unasked
    exact ⟨fun path name member => unasked path name (List.mem_cons_of_mem outgoing member),silent⟩
  · intro path hook
    rcases located.watched path hook with before | later
    · exact .inl (List.mem_append_left _ before)
    · rw [first] at later
      rcases List.mem_cons.mp later with same | later
      · exact .inl (List.mem_append_right _ (known path same.symm))
      · exact .inr later
  · have covered := located.covered
    rw [first] at covered
    exact covered.serve _ outgoing toServer added known

theorem Located.drop (link : LogindLink) (located : Located link) (outgoing : Outgoing)
    (toServer : List Outgoing) (first : link.toServer = outgoing::toServer)
    (other : ∀ path, outgoing ≠ .addMatch path) : Located { link with toServer } := by
  have popped := located.pop link outgoing toServer first [] fun path same => absurd same (other path)
  rw [List.append_nil] at popped
  exact popped

theorem Located.error (link : LogindLink) (located : Located link) : Located (link.deliver .error) :=
  located.notify link .error link.registered link.sessions link.hints link.owed rfl (.inr ⟨rfl,rfl⟩)

theorem Located.reply (link : LogindLink) (located : Located link) (reply : Reply)
    (registered : link.registered = true) (found : link.client.sessionPath ≠ "") :
    Located (link.deliver (.reply reply)) := by
  refine ⟨?_,located.session,fun empty => absurd empty found,located.watched,located.covered,?_⟩
  · unfold deliver
    rw [statuses_append,statuses_silent (.reply reply) [] rfl]
    simpa [statuses] using located.standing
  · apply (expected_concat _ _ _).mpr
    exact ⟨located.expected,fun _ => (located.standing (.inr found)).trans registered⟩

theorem Located.serve (link : LogindLink) (located : Located link) (outgoing : Outgoing)
    (toServer : List Outgoing) (first : link.toServer = outgoing::toServer) :
    Located ({ link with toServer }.serve outgoing) := by
  cases outgoing with
  | addMatch path =>
    exact located.pop link _ toServer first [path] fun other same => by
      cases same
      exact List.mem_singleton_self path
  | listNames =>
    have popped := located.drop link _ toServer first fun _ => Outgoing.noConfusion
    refine popped.notify _ (.names link.registered) link.registered link.sessions link.hints link.owed
      rfl ?_
    cases link.registered with
    | true => exact .inl rfl
    | false => exact .inr ⟨rfl,rfl⟩
  | call message =>
    have popped := located.drop link _ toServer first fun _ => Outgoing.noConfusion
    unfold LogindLink.serve
    dsimp only
    split
    next registered =>
      cases message with
      | getProperty path name =>
        have found : link.client.sessionPath ≠ "" := by
          intro empty
          apply (located.unasked empty).1 path name
          rw [first]
          exact List.mem_cons_self ..
        unfold handle
        dsimp only
        cases answer (link.sessions path) name with
        | none => exact popped.error
        | some reply => exact popped.reply _ reply registered found
      | setIdleHint path arguments timeout =>
        unfold handle
        dsimp only
        split
        · exact ⟨popped.standing,popped.session,popped.unasked,popped.watched,popped.covered,
            popped.expected⟩
        · exact popped
      | _ => exact popped
    next => exact popped.error

/-- Once the client has a session, a proper answer leaves it one. -/
theorem proper_path (client : LogindPrivate) (lookups : Lookups) (answers : proper lookups = true)
    (found : client.sessionPath ≠ "") : (client.lookUpSession lookups).sessionPath ≠ "" := by
  simp only [proper,Bool.and_eq_true,List.all_eq_true,Option.all_eq_true,decide_eq_true_eq] at answers
  obtain ⟨⟨listed,byId⟩,byPid⟩ := answers
  unfold LogindPrivate.lookUpSession
  split
  next session present =>
    rw [LogindPrivate.getUserSession_eq] at present
    exact listed session (List.mem_filter.mp (List.mem_of_getLast? present)).1
  next =>
    dsimp only
    split
    · cases known : lookups.xdgSessionId.bind lookups.getSession with
      | none => exact found
      | some path => exact byId path known
    · cases last : lookups.getSessionByPid with
      | some path => exact byPid path last
      | none =>
        cases known : lookups.xdgSessionId.bind lookups.getSession with
        | none => exact found
        | some path => exact byId path known

theorem mem_newMatches (before after : LogindPrivate) (path : String)
    (hook : LogindPrivate.watch path ∈ after.subscriptions) :
    LogindPrivate.watch path ∈ before.subscriptions ∨ .addMatch path ∈ newMatches before after := by
  by_cases known : LogindPrivate.watch path ∈ before.subscriptions
  · exact .inl known
  · refine .inr (List.mem_map.mpr ⟨LogindPrivate.watch path,List.mem_filter.mpr ⟨hook,?_⟩,rfl⟩)
    simp [known]
    rfl

theorem mem_gets (path other name : String)
    (member : .call (.getProperty other name) ∈ gets path) : other = path := by
  obtain ⟨_,_,same⟩ := List.mem_map.mp member
  cases same
  rfl

/-- The client takes the news that logind is there. -/
theorem Located.connect (link : LogindLink) (located : Located link) (lookups : Lookups)
    (delivery : Delivery) (toClient : List Delivery) (first : link.toClient = delivery::toClient)
    (notice : status delivery = some true) (answers : proper lookups = true) :
    Located ({ link with toClient }.connect lookups) := by
  obtain ⟨standing,session,unasked,watched,covered,expected⟩ := located
  rw [first,statuses_notice delivery toClient true notice,newest_cons] at standing
  have there := standing (.inl (List.cons_ne_nil _ _))
  rw [first,Expected,notice,Option.getD_some] at expected
  rcases Bool.eq_false_or_eq_true link.client.isConnected with connected | disconnected
  · rw [connect_again { link with toClient } lookups connected]
    refine ⟨?_,session,?_,watched,covered,?_⟩
    · dsimp only
      rw [connected]
      exact fun _ => there
    · exact fun empty => absurd empty (session connected).1
    · dsimp only
      rw [connected]
      exact expected.2
  · by_cases lost : (link.client.lookUpSession lookups).sessionPath = ""
    · have empty : link.client.sessionPath = "" :=
        by_contra fun found => proper_path link.client lookups answers found lost
      obtain ⟨quiet,silent⟩ := unasked empty
      rw [first] at silent
      have silent := fun other member => silent other (List.mem_cons_of_mem delivery member)
      rw [connect_lost { link with toClient } lookups disconnected lost]
      refine ⟨?_,fun connected => ?_,fun _ => ⟨quiet,silent⟩,watched,covered,?_⟩
      · intro some
        have some := some.resolve_right (not_not_intro rfl)
        rw [← there]
        exact newest_of_ne_nil _ _ _ some
      · rw [disconnected] at connected
        cases connected
      · exact expected_silent _ toClient silent
    · obtain ⟨hooks,hook,same⟩ := connect_found { link with toClient } lookups disconnected lost
      rw [same]
      refine ⟨fun _ => there,fun _ => ⟨lost,hook⟩,fun empty => absurd empty lost,?_,?_,expected.2⟩
      · intro path hook
        rcases mem_newMatches link.client _ path hook with known | new
        · exact (watched path known).imp_right (List.mem_append_left _)
        · exact .inr (List.mem_append_right _ (List.mem_append_left _ new))
      · dsimp only [LogindLink.send]
        rw [← List.append_assoc]
        apply Covered.send
        · apply covered.send
          intro path name member
          simp [newMatches] at member
        · intro path name member
          have same : path = (link.client.lookUpSession lookups).sessionPath := by
            apply mem_gets _ path name
            simpa using member
          rw [same]
          rcases mem_newMatches link.client { link.client with
            isConnected := true
            sessionPath := (link.client.lookUpSession lookups).sessionPath
            subscriptions := hooks } _ hook with known | new
          · exact (watched _ known).imp_right (List.mem_append_left _)
          · exact .inr (List.mem_append_right _ new)

/-- The client takes something that says nothing about logind's name. -/
theorem Located.take (link : LogindLink) (located : Located link) (delivery : Delivery)
    (toClient : List Delivery) (first : link.toClient = delivery::toClient)
    (silent : status delivery = none) (client : LogindPrivate)
    (connected : client.isConnected = link.client.isConnected)
    (path : client.sessionPath = link.client.sessionPath)
    (hooks : client.subscriptions = link.client.subscriptions) :
    Located { link with client, toClient } := by
  obtain ⟨standing,session,unasked,watched,covered,expected⟩ := located
  rw [first,statuses_silent delivery toClient silent] at standing
  rw [first,Expected,silent,Option.getD_none] at expected
  rw [first] at unasked
  refine ⟨?_,?_,?_,?_,covered,?_⟩
  · dsimp only
    rw [connected,path]
    exact standing
  · dsimp only
    rw [connected,path,hooks]
    exact session
  · dsimp only
    rw [path]
    intro empty
    obtain ⟨quiet,silent⟩ := unasked empty
    exact ⟨quiet,fun other member => silent other (List.mem_cons_of_mem delivery member)⟩
  · dsimp only
    rw [hooks]
    exact watched
  · dsimp only
    rw [connected]
    exact expected.2

theorem Located.lose (link : LogindLink) (located : Located link) (toClient : List Delivery)
    (first : link.toClient = .unregistered::toClient) :
    Located { link with client := link.client._q_serviceUnregistered.1, toClient } := by
  obtain ⟨standing,session,unasked,watched,covered,expected⟩ := located
  rw [first,statuses_notice .unregistered toClient false rfl,newest_cons] at standing
  rw [first,Expected] at expected
  rw [first] at unasked
  refine ⟨fun _ => standing (.inl (List.cons_ne_nil _ _)),fun connected => ?_,?_,?_,covered,expected.2⟩
  · cases connected
  · intro empty
    obtain ⟨quiet,silent⟩ := unasked empty
    exact ⟨quiet,fun other member => silent other (List.mem_cons_of_mem _ member)⟩
  · intro path hook
    exact watched path (List.erase_subset (List.erase_subset hook))

theorem handleReply_frame (client : LogindPrivate) (reply : Reply) :
    (handleReply client reply).1.isConnected = client.isConnected ∧
      (handleReply client reply).1.sessionPath = client.sessionPath ∧
      (handleReply client reply).1.subscriptions = client.subscriptions := by
  rw [handleReply_eq]
  cases reply <;> exact ⟨rfl,rfl,rfl⟩

theorem Located.refresh (link : LogindLink) (located : Located link)
    (connected : link.client.isConnected = true) : Located (link.send (gets link.client.sessionPath)) := by
  obtain ⟨found,hook⟩ := located.session connected
  apply located.send link
  intro path name member
  rw [mem_gets _ path name member]
  exact ⟨found,located.watched _ hook⟩

theorem Located.receive (link : LogindLink) (located : Located link) (lookups : Lookups)
    (delivery : Delivery) (toClient : List Delivery) (first : link.toClient = delivery::toClient)
    (answers : proper lookups = true) :
    Located ({ link with toClient }.receive lookups delivery) := by
  have taken (silent : LogindLink.status delivery = none) : Located { link with toClient } :=
    located.take link delivery toClient first silent link.client rfl rfl rfl
  cases delivery with
  | names found =>
    cases found with
    | true => exact located.connect link lookups _ toClient first rfl answers
    | false => exact taken rfl
  | registered => exact located.connect link lookups _ toClient first rfl answers
  | unregistered =>
    rw [receive_unregistered]
    exact located.lose link toClient first
  | propertiesChanged path =>
    rcases Bool.eq_false_or_eq_true link.client.isConnected with connected | disconnected
    · rw [receive_propertiesChanged { link with toClient } lookups path connected
        (located.session connected).1]
      split
      · exact Located.refresh _ (taken rfl) connected
      · exact taken rfl
    · rw [receive_propertiesChanged_disconnected { link with toClient } lookups path disconnected]
      exact taken rfl
  | reply reply =>
    rw [receive_reply]
    obtain ⟨connected,path,hooks⟩ := handleReply_frame link.client reply
    exact located.take link _ toClient first rfl _ connected path hooks
  | error => exact taken rfl

theorem setIdle_asks (client : LogindPrivate) (value : Bool) (path name : String) :
    .call (.getProperty path name) ∉ calls (SessionManager.setIdle client value) := by
  intro member
  simp only [calls,SessionManager.setIdle,LogindBackend.setIdle,LogindPrivate.setIdleHint] at member
  split at member
  · cases member
  · simp at member

theorem step_located (link next : LogindLink) (event : Event) (located : Located link)
    (taken : step link event = some next) : Located next := by
  cases moves_of_step link next event taken with
  | register sessions =>
    exact located.notify link .registered true sessions _ link.owed rfl (.inl rfl)
  | unregister =>
    exact located.notify link .unregistered false link.sessions link.hints [] rfl (.inl rfl)
  | change path session =>
    exact ⟨located.standing,located.session,located.unasked,located.watched,located.covered,
      located.expected⟩
  | announce path owed =>
    split
    · exact located.notify link (.propertiesChanged path) link.registered link.sessions link.hints
        owed rfl (.inr ⟨rfl,rfl⟩)
    · exact ⟨located.standing,located.session,located.unasked,located.watched,located.covered,
        located.expected⟩
  | served outgoing toServer first => exact located.serve link outgoing toServer first
  | received lookups delivery toClient first answers =>
    exact located.receive link lookups delivery toClient first answers
  | setIdle value =>
    exact located.send link _ fun path name member => absurd member (setIdle_asks link.client value path name)

end LiriSession.LogindLink
