import LiriSession.Library.Latest
import Mathlib.Logic.Function.Basic

/-! Several parties that post calls to one receiver. The calls of one party are dealt with
in the order they were posted, those of different parties in any; the receiver may turn a
call away, and takes calls of others too. -/
namespace LiriSession.Library

/-- A call that has been dealt with: the party it is of, if it is one of them, and whether
the receiver took it. -/
structure Dealt (ω ε : Type) where
  party : Option ω
  call : ε
  taken : Bool

namespace Dealt
variable {ω ε : Type}

def byParty [DecidableEq ω] (party : ω) (one : Dealt ω ε) : Option ε :=
  if one.party = some party then some one.call else none

def arrived (one : Dealt ω ε) : Option ε := if one.taken then some one.call else none

end Dealt

structure Posting (ω ε : Type) where
  posted : ω → List ε := fun _ => []
  underWay : ω → List ε := fun _ => []
  dealt : List (Dealt ω ε) := []

namespace Posting
variable {ω ε κ υ : Type} [DecidableEq ω]

def post (posting : Posting ω ε) (party : ω) (call : ε) : Posting ω ε :=
  { posting with
    posted := Function.update posting.posted party (posting.posted party ++ [call])
    underWay := Function.update posting.underWay party (posting.underWay party ++ [call]) }

/-- The first call of the party is dealt with; `rest` are the others under way. -/
def deal (posting : Posting ω ε) (party : ω) (call : ε) (rest : List ε) (taken : Bool) : Posting ω ε :=
  { posting with
    underWay := Function.update posting.underWay party rest
    dealt := posting.dealt ++ [⟨some party,call,taken⟩] }

def receive (posting : Posting ω ε) (call : ε) : Posting ω ε :=
  { posting with dealt := posting.dealt ++ [⟨none,call,true⟩] }

/-- The calls of the party that have been dealt with. -/
def answered (posting : Posting ω ε) (party : ω) : List ε := posting.dealt.filterMap (Dealt.byParty party)

def received (posting : Posting ω ε) : List ε := posting.dealt.filterMap Dealt.arrived

/-- Nothing is lost, duplicated or overtaken by a later call of the same party. -/
def Ordered (posting : Posting ω ε) : Prop :=
  ∀ party, posting.posted party = posting.answered party ++ posting.underWay party

theorem ordered_start : Ordered ({} : Posting ω ε) := fun _ => rfl

theorem Ordered.post {posting : Posting ω ε} (ordered : Ordered posting) (party : ω) (call : ε) :
    Ordered (posting.post party call) := by
  intro other
  have before := ordered other
  by_cases same : other = party
  · subst same
    simp only [Posting.post,answered,Function.update_self,before,List.append_assoc]
  · simpa only [Posting.post,answered,Function.update_of_ne same] using before

theorem Ordered.deal {posting : Posting ω ε} (ordered : Ordered posting) (party : ω) (call : ε)
    (rest : List ε) (first : posting.underWay party = call::rest) (taken : Bool) :
    Ordered (posting.deal party call rest taken) := by
  intro other
  have before := ordered other
  by_cases same : other = party
  · subst same
    rw [first] at before
    simp [Posting.deal,answered,Dealt.byParty,before]
  · simpa [Posting.deal,answered,Dealt.byParty,Function.update_of_ne same,Ne.symm same] using before

theorem Ordered.receive {posting : Posting ω ε} (ordered : Ordered posting) (call : ε) :
    Ordered (posting.receive call) := by
  intro party
  simpa [Posting.receive,answered,Dealt.byParty] using ordered party

/-- What the party had posted by the time it posted a call that has been dealt with. -/
theorem Ordered.posted_split {posting : Posting ω ε} (ordered : Ordered posting) (party : ω)
    (before after : List (Dealt ω ε)) (call : ε) (taken : Bool)
    (split : posting.dealt = before ++ ⟨some party,call,taken⟩::after) :
    posting.posted party = before.filterMap (Dealt.byParty party) ++
      call::(after.filterMap (Dealt.byParty party) ++ posting.underWay party) := by
  rw [ordered party,answered,split]
  simp [Dealt.byParty]

/-- What had been posted and dealt with at an earlier moment. -/
def upTo (dealt : List (Dealt ω ε)) : Posting ω ε where
  posted party := dealt.filterMap (Dealt.byParty party)
  dealt

theorem ordered_upTo (dealt : List (Dealt ω ε)) : Ordered (upTo dealt) := by
  intro party
  exact (List.append_nil _).symm

variable [DecidableEq κ]

/-- If the last call about a key to be dealt with is the party's own, and was taken, then
the receiver has what the party last asked for. -/
theorem Ordered.latest_eq {posting : Posting ω ε} (ordered : Ordered posting)
    (accept : ε → Option (κ × υ)) (party : ω) (key : κ) (before after : List (Dealt ω ε)) (call : ε)
    (split : posting.dealt = before ++ ⟨some party,call,true⟩::after)
    (others : ∀ one ∈ after, ∀ value, accept one.call ≠ some (key,value))
    (quiet : ∀ other ∈ posting.underWay party, ∀ value, accept other ≠ some (key,value))
    (value : υ) (accepted : accept call = some (key,value)) :
    latest ((posting.posted party).filterMap accept) key = some value ∧
      latest (posting.received.filterMap accept) key = some value := by
  have last : ∀ earlier later : List ε, (∀ other ∈ later, ∀ value, accept other ≠ some (key,value)) →
      latest ((earlier ++ call::later).filterMap accept) key = some value := by
    intro earlier later silent
    apply (latest_eq_some _ key value).mpr
    refine ⟨earlier.filterMap accept,later.filterMap accept,?_,?_⟩
    · rw [List.filterMap_append,List.filterMap_cons_some accepted]
    · intro found member
      obtain ⟨other,under,same⟩ := List.mem_filterMap.mp member
      exact silent other under found same
  apply And.intro
  · rw [ordered.posted_split party before after call true split]
    apply last
    intro other member
    rcases List.mem_append.mp member with dealt | under
    · obtain ⟨one,there,same⟩ := List.mem_filterMap.mp dealt
      obtain ⟨_,found⟩ := Option.ite_none_right_eq_some.mp same
      exact Option.some.inj found ▸ others one there
    · exact quiet other under
  · have whole : posting.received = before.filterMap Dealt.arrived ++ call::after.filterMap Dealt.arrived := by
      rw [received,split]
      simp [Dealt.arrived]
    rw [whole]
    apply last
    intro other member
    obtain ⟨one,there,same⟩ := List.mem_filterMap.mp member
    obtain ⟨_,found⟩ := Option.ite_none_right_eq_some.mp same
    exact Option.some.inj found ▸ others one there

end Posting

end LiriSession.Library
