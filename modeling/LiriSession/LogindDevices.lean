import LiriSession.Library.Run
import Mathlib.Algebra.GroupWithZero.Nat
import Mathlib.Data.List.Nodup

/-! Devices that the session takes from logind. They are named by the two numbers that the
C library makes of a device; logind gives each of them out once, and the descriptor that
comes with the answer is duplicated for the caller. -/
namespace LiriSession
open Library

/-- `major` of the C library. -/
def major (device : BitVec 64) : BitVec 32 :=
  ((device >>> 8).setWidth 32 &&& 0xfff#32) ||| ((device >>> 32).setWidth 32 &&& ~~~0xfff#32)

/-- `minor` of the C library. -/
def minor (device : BitVec 64) : BitVec 32 :=
  (device.setWidth 32 &&& 0xff#32) ||| ((device >>> 12).setWidth 32 &&& ~~~0xff#32)

def makedev (majorNumber minorNumber : BitVec 32) : BitVec 64 :=
  ((majorNumber &&& 0xfff#32).setWidth 64 <<< 8) |||
    ((majorNumber &&& ~~~0xfff#32).setWidth 64 <<< 32) |||
      ((minorNumber &&& 0xff#32).setWidth 64 ||| ((minorNumber &&& ~~~0xff#32).setWidth 64 <<< 12))

theorem mask_bit (width i : Nat) (small : width ≤ 32) :
    (BitVec.ofNat 32 (2^width - 1)).getLsbD i = decide (i < width) := by
  rw [BitVec.getLsbD_ofNat,Nat.testBit_two_pow_sub_one,← Bool.decide_and]
  apply decide_eq_decide.mpr
  omega

theorem makedev_major_minor (device : BitVec 64) : makedev (major device) (minor device) = device := by
  have twelve (i : Nat) : (0xfff#32).getLsbD i = decide (i < 12) := mask_bit 12 i (by decide)
  have eight (i : Nat) : (0xff#32).getLsbD i = decide (i < 8) := mask_bit 8 i (by decide)
  unfold makedev major minor
  apply BitVec.eq_of_getLsbD_eq
  intro i bound
  simp only [BitVec.getLsbD_or,BitVec.getLsbD_and,BitVec.getLsbD_shiftLeft,BitVec.getLsbD_setWidth,
    BitVec.getLsbD_ushiftRight,BitVec.getLsbD_not,twelve,eight]
  rcases Nat.lt_or_ge i 8 with lowest | least
  · grind
  · rcases Nat.lt_or_ge i 20 with lower | higher
    · grind
    · rcases Nat.lt_or_ge i 44 with below | above
      · grind
      · grind

/-- How logind is told of a device. -/
def numbers (device : BitVec 64) : BitVec 32 × BitVec 32 := (major device,minor device)

theorem numbers_injective : Function.Injective numbers := by
  intro first second same
  obtain ⟨majors,minors⟩ := Prod.mk.inj same
  rw [← makedev_major_minor first,← makedev_major_minor second,majors,minors]

inductive DeviceMessage
  | releaseDevice (majorNumber minorNumber : BitVec 32)
  | pauseDeviceComplete (majorNumber minorNumber : BitVec 32)

/-- The process with its open descriptors, the messages on their way to the session's
object, and the devices that logind regards as taken. The descriptors that the caller holds
are those that it was given and has not released. -/
structure DeviceLink where
  fstat : Nat → Option (BitVec 64) := fun _ => none
  toServer : List DeviceMessage := []
  taken : List (BitVec 32 × BitVec 32) := []
  held : List Nat := []

namespace DeviceLink

/-- The caller's steps, with what the system answers: the device of a file, whether logind
opens it, and the descriptor that the duplicate gets, if there is one left. -/
inductive Event
  | takeDevice (stat : Option (BitVec 64)) (opens : Bool) (fcntl : Option Nat)
  | releaseDevice (fd : Nat)
  | pauseDeviceComplete (majorNumber minorNumber : BitVec 32)
  | opened (fd : Nat) (device : BitVec 64)
  | close (fd : Nat)
  | served

/-- What logind is documented to make of the messages. -/
def serve (taken : List (BitVec 32 × BitVec 32)) : DeviceMessage → List (BitVec 32 × BitVec 32)
  | .releaseDevice majorNumber minorNumber => taken.erase (majorNumber,minorNumber)
  | .pauseDeviceComplete _ _ => taken

/-- The devices that are taken once logind has got what is under way. -/
def settled (link : DeviceLink) : List (BitVec 32 × BitVec 32) := link.toServer.foldl serve link.taken

def send (link : DeviceLink) (message : DeviceMessage) : DeviceLink :=
  { link with toServer := link.toServer ++ [message] }

def setDescriptor (link : DeviceLink) (fd : Nat) (device : Option (BitVec 64)) : DeviceLink :=
  { link with fstat := fun other => if other = fd then device else link.fstat other }

/-- The caller waits for the answer, so that what it has sent before arrives first. As logind
is documented, a device is given out once; a descriptor that is open is not given out again. -/
def takeDevice (link : DeviceLink) (stat : Option (BitVec 64)) (opens : Bool) (fcntl : Option Nat) :
    Option DeviceLink :=
  match stat with
  | none => some link
  | some device =>
    let link := { link with toServer := [], taken := link.settled }
    if opens ∧ numbers device ∉ link.taken then
      let link := { link with taken := link.taken ++ [numbers device] }
      match fcntl with
      | none => some link
      | some fd =>
        if link.fstat fd = none
          then some { link.setDescriptor fd (some device) with held := link.held ++ [fd] } else none
    else some link

/-- From then on the caller no longer holds the descriptor. -/
def release (link : DeviceLink) (fd : Nat) (device : BitVec 64) : DeviceLink :=
  { link.send (.releaseDevice (major device) (minor device)) with held := link.held.erase fd }

def releaseDevice (link : DeviceLink) (fd : Nat) : DeviceLink :=
  match link.fstat fd with
  | none => link
  | some device => link.release fd device

def step (link : DeviceLink) : Event → Option DeviceLink
  | .takeDevice stat opens fcntl => link.takeDevice stat opens fcntl
  | .releaseDevice fd => some (link.releaseDevice fd)
  | .pauseDeviceComplete majorNumber minorNumber =>
    some (link.send (.pauseDeviceComplete majorNumber minorNumber))
  | .opened fd device => if link.fstat fd = none then some (link.setDescriptor fd (some device)) else none
  | .close fd => some (link.setDescriptor fd none)
  | .served =>
    match link.toServer with
    | [] => none
    | message::toServer => some { link with toServer, taken := serve link.taken message }

/-- Each descriptor that is held is open for a device of its own, and these are the devices
that logind regards as taken. -/
structure Kept (link : DeviceLink) : Prop where
  once : link.held.Nodup
  opened : ∀ fd ∈ link.held, link.fstat fd ≠ none
  distinct : ∀ first ∈ link.held, ∀ second ∈ link.held, link.fstat first = link.fstat second → first = second
  agrees : ∀ named, named ∈ link.settled ↔
    ∃ fd ∈ link.held, ∃ device, link.fstat fd = some device ∧ numbers device = named

/-- What the caller has to see to: that a duplicate can be had, that a descriptor that is
not held does not release a device that is taken, and that no descriptor is closed before
its device is released. -/
def Careful (link : DeviceLink) : Event → Prop
  | .takeDevice (some device) true none => numbers device ∈ link.settled
  | .releaseDevice fd => fd ∈ link.held ∨ ∀ device, link.fstat fd = some device → numbers device ∉ link.settled
  | .close fd => fd ∉ link.held
  | _ => True

theorem serve_sublist (taken : List (BitVec 32 × BitVec 32)) (message : DeviceMessage) :
    (serve taken message).Sublist taken := by
  cases message with
  | releaseDevice => exact List.erase_sublist
  | pauseDeviceComplete => exact .refl _

theorem settled_sublist (messages : List DeviceMessage) (taken : List (BitVec 32 × BitVec 32)) :
    (messages.foldl serve taken).Sublist taken := by
  induction messages generalizing taken with
  | nil => exact .refl _
  | cons message messages ih => exact (ih _).trans (serve_sublist taken message)

theorem settled_send (link : DeviceLink) (message : DeviceMessage) :
    (link.send message).settled = serve link.settled message := by
  rw [settled,send,List.foldl_append]
  rfl

theorem settled_release (link : DeviceLink) (fd : Nat) (device : BitVec 64) :
    (link.release fd device).settled = link.settled.erase (numbers device) :=
  settled_send link (.releaseDevice (major device) (minor device))

/-- What is held and what is taken decide. -/
theorem Kept.congr (link other : DeviceLink) (fstat : other.fstat = link.fstat)
    (held : other.held = link.held) (same : ∀ named, named ∈ other.settled ↔ named ∈ link.settled) :
    Kept other ↔ Kept link := by
  apply Iff.intro
  · rintro ⟨once,opened,distinct,agrees⟩
    rw [held] at once opened distinct agrees
    rw [fstat] at opened distinct agrees
    exact ⟨once,opened,distinct,fun named => (same named).symm.trans (agrees named)⟩
  · rintro ⟨once,opened,distinct,agrees⟩
    refine ⟨?_,?_,?_,?_⟩ <;> rw [held]
    · exact once
    · rw [fstat]
      exact opened
    · rw [fstat]
      exact distinct
    · rw [fstat]
      exact fun named => (same named).trans (agrees named)

/-- A descriptor that is not held can be opened and closed. -/
theorem Kept.setDescriptor (link : DeviceLink) (kept : Kept link) (fd : Nat) (device : Option (BitVec 64))
    (unheld : fd ∉ link.held) : Kept (link.setDescriptor fd device) := by
  have same (other : Nat) (own : other ∈ link.held) :
      (link.setDescriptor fd device).fstat other = link.fstat other :=
    if_neg fun here : other = fd => unheld (here ▸ own)
  refine ⟨kept.once,?_,?_,?_⟩
  · intro other own
    rw [same other own]
    exact kept.opened other own
  · intro first left second right
    rw [same first left,same second right]
    exact kept.distinct first left second right
  · intro named
    refine (kept.agrees named).trans ⟨?_,?_⟩
    · rintro ⟨other,own,device,found,named⟩
      exact ⟨other,own,device,(same other own).trans found,named⟩
    · rintro ⟨other,own,device,found,named⟩
      exact ⟨other,own,device,(same other own).symm.trans found,named⟩

theorem close_iff (link : DeviceLink) (kept : Kept link) (fd : Nat) :
    fd ∉ link.held ↔ Kept (link.setDescriptor fd none) := by
  refine ⟨fun unheld => kept.setDescriptor link fd none unheld,?_⟩
  intro after own
  exact after.opened fd own (if_pos rfl)

/-- The device of a descriptor that is held is the only one that its release is about. -/
theorem Kept.release (link : DeviceLink) (kept : Kept link) (nodup : link.settled.Nodup) (fd : Nat)
    (device : BitVec 64) (found : link.fstat fd = some device) (own : fd ∈ link.held) :
    Kept (link.release fd device) := by
  have left (other : Nat) : other ∈ link.held.erase fd ↔ other ≠ fd ∧ other ∈ link.held :=
    kept.once.mem_erase_iff
  refine ⟨kept.once.erase fd,?_,?_,?_⟩
  · exact fun other member => kept.opened other ((left other).mp member).2
  · intro first here second there
    exact kept.distinct first ((left first).mp here).2 second ((left second).mp there).2
  · intro named
    rw [settled_release,nodup.mem_erase_iff,kept.agrees]
    apply Iff.intro
    · rintro ⟨apart,other,mine,found',there,rfl⟩
      refine ⟨other,(left other).mpr ⟨?_,mine⟩,found',there,rfl⟩
      rintro rfl
      exact apart (congrArg numbers (Option.some.inj (there.symm.trans found)))
    · rintro ⟨other,member,found',there,rfl⟩
      obtain ⟨apart,mine⟩ := (left other).mp member
      refine ⟨?_,other,mine,found',there,rfl⟩
      intro same
      apply apart
      have equal := numbers_injective same
      exact kept.distinct other mine fd own (there.trans (equal ▸ found.symm))

theorem release_iff (link : DeviceLink) (kept : Kept link) (nodup : link.settled.Nodup) (fd : Nat) :
    Careful link (.releaseDevice fd) ↔ Kept (link.releaseDevice fd) := by
  unfold releaseDevice
  cases found : link.fstat fd with
  | none =>
    refine iff_of_true (.inr fun device there => ?_) kept
    rw [found] at there
    cases there
  | some device =>
    dsimp only
    by_cases own : fd ∈ link.held
    · exact iff_of_true (.inl own) (kept.release link nodup fd device found own)
    · have held : link.held.erase fd = link.held := List.erase_of_not_mem own
      apply Iff.intro
      · intro careful
        have untaken := careful.resolve_left own device found
        refine (Kept.congr link (link.release fd device) rfl held fun named => ?_).mpr kept
        rw [settled_release,List.erase_of_not_mem untaken]
      · intro after
        refine .inr fun other there member => ?_
        cases found.symm.trans there
        obtain ⟨holder,mine,holds⟩ := (kept.agrees (numbers device)).mp member
        have mine : holder ∈ link.held.erase fd := held.symm ▸ mine
        have still := (after.agrees (numbers device)).mpr ⟨holder,mine,holds⟩
        rw [settled_release] at still
        exact nodup.not_mem_erase still

/-- The device of a new descriptor becomes the caller's. -/
theorem Kept.take (link : DeviceLink) (kept : Kept link) (fd : Nat) (device : BitVec 64)
    (fresh : link.fstat fd = none) (free : numbers device ∉ link.settled) :
    Kept { link with
      fstat := fun other => if other = fd then some device else link.fstat other
      toServer := []
      taken := link.settled ++ [numbers device]
      held := link.held ++ [fd] } := by
  have unheld : fd ∉ link.held := fun own => kept.opened fd own fresh
  have old (other : Nat) (own : other ∈ link.held) :
      (if other = fd then some device else link.fstat other) = link.fstat other :=
    if_neg fun here : other = fd => unheld (here ▸ own)
  have apart (other : Nat) (own : other ∈ link.held) : link.fstat other ≠ some device := fun found =>
    free ((kept.agrees (numbers device)).mpr ⟨other,own,device,found,rfl⟩)
  refine ⟨?_,?_,?_,?_⟩
  · exact kept.once.append (List.nodup_singleton fd) (by simpa using unheld)
  · intro other member
    rcases List.mem_append.mp member with own | new
    · exact (old other own).trans_ne (kept.opened other own)
    · rw [List.mem_singleton.mp new]
      exact ne_of_eq_of_ne (if_pos rfl) (Option.some_ne_none device)
  · intro first left second right same
    dsimp only at same
    rcases List.mem_append.mp left with firstOwn | firstNew <;>
      rcases List.mem_append.mp right with secondOwn | secondNew
    · rw [old first firstOwn,old second secondOwn] at same
      exact kept.distinct first firstOwn second secondOwn same
    · rw [List.mem_singleton.mp secondNew,old first firstOwn,if_pos rfl] at same
      exact absurd same (apart first firstOwn)
    · rw [List.mem_singleton.mp firstNew,old second secondOwn,if_pos rfl] at same
      exact absurd same.symm (apart second secondOwn)
    · exact (List.mem_singleton.mp firstNew).trans (List.mem_singleton.mp secondNew).symm
  · intro named
    have settled : named ∈ link.settled ++ [numbers device] ↔
        named ∈ link.settled ∨ named = numbers device := by
      rw [List.mem_append,List.mem_singleton]
    refine settled.trans ⟨?_,?_⟩
    · rintro (before | rfl)
      · obtain ⟨other,own,found,there,same⟩ := (kept.agrees named).mp before
        exact ⟨other,List.mem_append_left _ own,found,(old other own).trans there,same⟩
      · exact ⟨fd,List.mem_append_right _ (List.mem_singleton_self fd),device,if_pos rfl,rfl⟩
    · rintro ⟨other,member,found,there,rfl⟩
      rcases List.mem_append.mp member with own | new
      · exact .inl ((kept.agrees _).mpr ⟨other,own,found,(old other own).symm.trans there,rfl⟩)
      · have here : (if fd = fd then some device else link.fstat fd) = some found :=
          List.mem_singleton.mp new ▸ there
        rw [if_pos rfl] at here
        exact .inr (congrArg numbers (Option.some.inj here).symm)

theorem take_iff (link next : DeviceLink) (kept : Kept link) (stat : Option (BitVec 64)) (opens : Bool)
    (fcntl : Option Nat) (taken : link.takeDevice stat opens fcntl = some next) :
    Careful link (.takeDevice stat opens fcntl) ↔ Kept next := by
  cases stat with
  | none =>
    cases taken
    exact iff_of_true trivial kept
  | some device =>
    unfold takeDevice at taken
    dsimp only at taken
    by_cases granted : opens = true ∧ numbers device ∉ link.settled
    · rw [if_pos granted] at taken
      cases fcntl with
      | none =>
        cases taken
        rw [granted.1]
        refine iff_of_false granted.2 fun after => ?_
        have member : numbers device ∈ link.settled ++ [numbers device] :=
          List.mem_append_right _ (List.mem_singleton_self _)
        exact granted.2 ((kept.agrees _).mpr ((after.agrees (numbers device)).mp member))
      | some fd =>
        obtain ⟨fresh,same⟩ := Option.ite_none_right_eq_some.mp taken
        cases Option.some.inj same
        have careful : Careful link (.takeDevice (some device) opens (some fd)) := by
          cases opens <;> trivial
        exact iff_of_true careful (kept.take link fd device fresh granted.2)
    · rw [if_neg granted] at taken
      cases taken
      have careful : Careful link (.takeDevice (some device) opens fcntl) := by
        cases opens with
        | false => trivial
        | true =>
          cases fcntl with
          | some fd => trivial
          | none =>
            by_contra free
            exact granted ⟨rfl,free⟩
      exact iff_of_true careful ((Kept.congr link { link with toServer := [], taken := link.settled }
        rfl rfl fun _ => Iff.rfl).mpr kept)

theorem step_iff (link next : DeviceLink) (event : Event) (nodup : link.settled.Nodup) (kept : Kept link)
    (taken : step link event = some next) : Careful link event ↔ Kept next := by
  cases event with
  | takeDevice stat opens fcntl => exact link.take_iff next kept stat opens fcntl taken
  | releaseDevice fd =>
    cases taken
    exact link.release_iff kept nodup fd
  | pauseDeviceComplete majorNumber minorNumber =>
    cases taken
    refine iff_of_true trivial ((Kept.congr link (link.send _) rfl rfl fun named => ?_).mpr kept)
    rw [settled_send]
    rfl
  | opened fd device =>
    obtain ⟨fresh,same⟩ := Option.ite_none_right_eq_some.mp taken
    cases Option.some.inj same
    exact iff_of_true trivial (kept.setDescriptor link fd (some device) fun own => kept.opened fd own fresh)
  | close fd =>
    cases taken
    exact link.close_iff kept fd
  | served =>
    rw [step] at taken
    split at taken
    next => cases taken
    next message toServer first =>
      cases taken
      refine iff_of_true trivial ((Kept.congr link { link with toServer, taken := serve link.taken message }
        rfl rfl fun named => ?_).mpr kept)
      rw [settled,settled,first]
      rfl

theorem step_nodup (link next : DeviceLink) (event : Event) (nodup : link.taken.Nodup)
    (taken : step link event = some next) : next.taken.Nodup := by
  have settled : link.settled.Nodup := nodup.sublist (settled_sublist link.toServer link.taken)
  cases event with
  | takeDevice stat opens fcntl =>
    rw [step] at taken
    cases stat with
    | none =>
      cases taken
      exact nodup
    | some device =>
      unfold takeDevice at taken
      dsimp only at taken
      split at taken
      next granted =>
        have more : (link.settled ++ [numbers device]).Nodup :=
          settled.append (List.nodup_singleton _) (by simpa using granted.2)
        cases fcntl with
        | none =>
          cases taken
          exact more
        | some fd =>
          obtain ⟨_,same⟩ := Option.ite_none_right_eq_some.mp taken
          cases Option.some.inj same
          exact more
      next =>
        cases taken
        exact settled
  | releaseDevice fd =>
    cases taken
    unfold releaseDevice
    split <;> exact nodup
  | pauseDeviceComplete =>
    cases taken
    exact nodup
  | opened fd device =>
    obtain ⟨_,same⟩ := Option.ite_none_right_eq_some.mp taken
    cases Option.some.inj same
    exact nodup
  | close fd =>
    cases taken
    exact nodup
  | served =>
    rw [step] at taken
    split at taken
    next => cases taken
    next message toServer first =>
      cases taken
      exact nodup.sublist (serve_sublist link.taken message)

/-- In a run of any calls the devices that logind regards as taken stay those of the
descriptors that the caller holds, one each, exactly as long as every duplicate succeeds and
the caller neither closes what it holds nor releases a device through another descriptor. -/
theorem kept_iff (fstat : Nat → Option (BitVec 64)) (events : List Event) :
    Along step Kept { fstat } events ↔ Steps step Careful { fstat } events := by
  apply along_iff_steps step (fun link _ => link.taken.Nodup) Kept Careful
  · exact fun link event _ next nodup taken => step_nodup link next event nodup taken
  · exact fun link event _ next nodup kept taken =>
      step_iff link next event (nodup.sublist (settled_sublist link.toServer link.taken)) kept taken
  · exact List.nodup_nil
  · refine ⟨List.nodup_nil,fun _ own => absurd own List.not_mem_nil,fun _ own => absurd own List.not_mem_nil,?_⟩
    intro named
    refine iff_of_false List.not_mem_nil ?_
    rintro ⟨_,own,_⟩
    exact List.not_mem_nil own

/-- A device that is taken once, and released through another descriptor that is open for it. -/
example : (run step {} [.takeDevice (some 0xe200#64) true (some 5),.takeDevice (some 0xe200#64) true (some 6),
    .opened 7 0xe200#64,.releaseDevice 7]).map (fun link => (link.held,link.taken,link.settled)) =
      some ([5],[(226#32,0#32)],[]) := by decide

end DeviceLink

end LiriSession
