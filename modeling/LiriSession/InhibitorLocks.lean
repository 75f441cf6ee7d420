import LiriSession.Library.Vocabulary
import LiriSession.OwnInhibitors

/-! What logind holds back while descriptors of inhibitors are open. The text `what` is a
list of names with colons between them, which logind reads again. -/
namespace LiriSession
open Library Logind LogindBackend

namespace LogindPrivate

/-- The names that logind documents for the operations. -/
def lockKinds : Vocabulary InhibitFlag where
  separator := ':'
  table := [(.inhibitShutdown,"shutdown"),(.inhibitSleep,"sleep"),(.inhibitIdle,"idle"),
    (.inhibitPowerKey,"handle-power-key"),(.inhibitSuspendKey,"handle-suspend-key"),
    (.inhibitHibernateKey,"handle-hibernate-key"),(.inhibitLidSwitch,"handle-lid-switch")]
  distinct := by decide
  plain := by decide
  filled := by decide

/-- How logind is documented to read the mode. -/
def modeOf : String → Option InhibitMode
  | "block" => some .block
  | "delay" => some .delay
  | _ => none

theorem what_eq (flags : List InhibitFlag) : ":".intercalate (what flags) = lockKinds.write flags := rfl

theorem modeOf_modeStr (mode : InhibitMode) : modeOf (modeStr mode) = some mode := by
  cases mode <;> rfl

end LogindPrivate

namespace Inhibition
open LogindPrivate

/-- The operation is held back by an inhibitor that logind has granted, as long as its
descriptor is open. -/
def Held (state : Inhibition) (flag : InhibitFlag) (mode : InhibitMode) : Prop :=
  ∃ fd request flags, state.openFds.find? fd = some request ∧ lockKinds.read request.what = some flags ∧
    flag ∈ flags ∧ modeOf request.mode = some mode

/-- The call that a request was made by: one of the backend's own, or that of a client of
the screen saver. A request shows whose it is; what it is for stands in its text. -/
structure MadeBy (request : Request) (call : Inhibitor) : Prop where
  origin : request.cookie = none ∧ call ∈ inhibitors ∨
    request.cookie.isSome = true ∧ call = idle call.who call.why
  who : request.who = call.who
  why : request.why = call.why

/-- What logind reads from a request's text is what the call asked for. -/
structure ReadAs (request : Request) (call : Inhibitor) : Prop where
  what : lockKinds.read request.what = some call.flags
  mode : modeOf request.mode = some call.mode

structure Purposeful (state : Inhibition) : Prop where
  inFlight : ∀ serial request, state.inFlight.find? serial = some request →
    ∃ call, MadeBy request call ∧ ReadAs request call
  openFds : ∀ fd request, state.openFds.find? fd = some request →
    ∃ call, MadeBy request call ∧ ReadAs request call
  fake : state.backend = .fake → state.openFds = .empty

/-- A request reads as its call wherever the flags stand in the order of the table. -/
theorem readAs_requested (state : Inhibition) (cookie : Option Nat) (call : Inhibitor)
    (ordered : lockKinds.ordered call.flags = call.flags) :
    ReadAs (state.requested cookie call) call := by
  refine ⟨?_,modeOf_modeStr call.mode⟩
  change lockKinds.read (":".intercalate (what call.flags)) = _
  rw [what_eq,lockKinds.read_write,ordered]

theorem madeBy_backend (state : Inhibition) (call : Inhibitor) (own : call ∈ inhibitors) :
    MadeBy (state.requested none call) call ∧ ReadAs (state.requested none call) call := by
  refine ⟨⟨.inl ⟨rfl,own⟩,rfl,rfl⟩,readAs_requested state none call ?_⟩
  revert own
  simp only [inhibitors,List.mem_cons,List.not_mem_nil,or_false]
  rintro (rfl | rfl | rfl) <;> rfl

/-- The three calls of the backend go by different names. -/
theorem MadeBy.unique {request : Request} {first second : Inhibitor} (left : MadeBy request first)
    (right : MadeBy request second) : first = second := by
  have named : first.who = second.who := left.who.symm.trans right.who
  rcases left.origin with ⟨absent,own⟩ | ⟨client,idle⟩ <;>
    rcases right.origin with ⟨missing,other⟩ | ⟨given,same⟩
  · have distinct : (inhibitors.map Inhibitor.who).Nodup := by decide
    exact List.inj_on_of_nodup_map distinct own other named
  · rw [absent] at given
    cases given
  · rw [missing] at client
    cases client
  · rw [idle,same,named,left.why.symm.trans right.why]

theorem Purposeful.asking {state : Inhibition} (purposeful : Purposeful state) (call : Inhibitor)
    (own : call ∈ inhibitors) : Purposeful (state.asking none call) := by
  refine { purposeful with inFlight := ?_ }
  intro serial request found
  rcases state.inFlight.find?_insert_some _ serial _ _ found with ⟨_,new⟩ | ⟨_,old⟩
  · exact ⟨call,new ▸ madeBy_backend state call own⟩
  · exact purposeful.inFlight serial request old

theorem Purposeful.released {state : Inhibition} (purposeful : Purposeful state) (fd : Int)
    (backend : state.backend = .logind) : Purposeful (state.released fd) := by
  refine { purposeful with openFds := ?_, fake := ?_ }
  · intro other request found
    exact purposeful.openFds other request (released_open_some state fd other request found).2
  · intro fake
    cases backend.symm.trans fake

end Inhibition

end LiriSession
