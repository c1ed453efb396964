/- module: AeronClusterClient/Client/Reassembly
   source: src/cluster_client.cpp (LocalFragmentReassembler)
   digest: In which arrival orders every multi-fragment buffer is one whole message, and that none
     is lost. -/

import AeronClusterClient.Lib.Runs
import Mathlib.Algebra.Group.Nat.Defs
import Mathlib.Data.List.Induction

/-!
The reassembler appends every fragment that is not a message by itself to one
accumulator, whichever image it comes from and whether or not a first fragment
has been seen. A last fragment hands the accumulator to the sink.
-/

set_option autoImplicit false
set_option relaxedAutoImplicit false

namespace AeronClusterClient.Client.Reassembly

open Lib.Runs

def BEGIN_FLAG : UInt8 := 0x80
def END_FLAG : UInt8 := 0x40

/-- A fragment as it arrives. The reassembler reads its flags and its bytes only; the image and
the message of that image which it is a part of are where the publisher put it. -/
structure Fragment where
  flags : UInt8
  bytes : List UInt8
  image : Int := 0
  message : Nat := 0
  deriving DecidableEq, Repr

/-- A call of the sink: with the fragment's own buffer, or with an assembled one. -/
inductive Delivery
  | fragment (bytes : List UInt8)
  | assembled (bytes : List UInt8)
  deriving DecidableEq, Repr

/-- The accumulator, with the sink calls made so far and the fragments that have arrived. -/
structure LocalFragmentReassembler where
  acc : List UInt8 := []
  sink : List Delivery := []
  arrived : List Fragment := []
  deriving DecidableEq, Repr

def onFragment (f : Fragment) (r : LocalFragmentReassembler) : LocalFragmentReassembler :=
  let r := { r with arrived := r.arrived ++ [f] }
  if f.flags &&& (BEGIN_FLAG ||| END_FLAG) = BEGIN_FLAG ||| END_FLAG then
    { r with sink := r.sink ++ [.fragment f.bytes] }
  else
    let acc := if f.flags &&& BEGIN_FLAG ≠ 0 then [] else r.acc
    let acc := acc ++ f.bytes
    if f.flags &&& END_FLAG ≠ 0 then { r with acc := [], sink := r.sink ++ [.assembled acc] }
    else { r with acc := acc }

namespace Fragment

variable (f : Fragment)

/-- The place of a fragment in its message, as its flags say. -/
inductive Place
  | whole
  | first
  | middle
  | last
  deriving DecidableEq, Repr

def place : Place :=
  if f.flags &&& BEGIN_FLAG ≠ 0 then if f.flags &&& END_FLAG ≠ 0 then .whole else .first
  else if f.flags &&& END_FLAG ≠ 0 then .last else .middle

def SameMessage (g : Fragment) : Prop := g.image = f.image ∧ g.message = f.message

instance (g : Fragment) : Decidable (f.SameMessage g) := inferInstanceAs (Decidable (_ ∧ _))

end Fragment

section Steps

theorem both_flags_iff (flags : UInt8) :
    flags &&& (BEGIN_FLAG ||| END_FLAG) = BEGIN_FLAG ||| END_FLAG ↔
      flags &&& BEGIN_FLAG ≠ 0 ∧ flags &&& END_FLAG ≠ 0 := by
  have all : ∀ bits : BitVec 8, UInt8.ofBitVec bits &&& (BEGIN_FLAG ||| END_FLAG) =
      BEGIN_FLAG ||| END_FLAG ↔
        UInt8.ofBitVec bits &&& BEGIN_FLAG ≠ 0 ∧ UInt8.ofBitVec bits &&& END_FLAG ≠ 0 := by
    decide +kernel
  exact all flags.toBitVec

theorem onFragment_eq (f : Fragment) (r : LocalFragmentReassembler) :
    onFragment f r =
      match f.place with
      | .whole =>
          { r with sink := r.sink ++ [.fragment f.bytes], arrived := r.arrived ++ [f] }
      | .first => { r with acc := f.bytes, arrived := r.arrived ++ [f] }
      | .middle => { r with acc := r.acc ++ f.bytes, arrived := r.arrived ++ [f] }
      | .last =>
          { acc := []
            sink := r.sink ++ [.assembled (r.acc ++ f.bytes)]
            arrived := r.arrived ++ [f] } := by
  unfold onFragment Fragment.place
  simp only [both_flags_iff]
  by_cases begins : f.flags &&& BEGIN_FLAG ≠ 0
  · by_cases ends : f.flags &&& END_FLAG ≠ 0 <;> simp [begins, ends]
  · by_cases ends : f.flags &&& END_FLAG ≠ 0 <;> simp [begins, ends]

theorem arrived_onFragment (f : Fragment) (r : LocalFragmentReassembler) :
    (onFragment f r).arrived = r.arrived ++ [f] := by
  rw [onFragment_eq]
  cases f.place <;> rfl

theorem arrived_stateAfter (fragments : List Fragment) (r : LocalFragmentReassembler) :
    (stateAfter onFragment r fragments).arrived = r.arrived ++ fragments := by
  induction fragments generalizing r with
  | nil => exact (List.append_nil _).symm
  | cons f fragments ih =>
      change (stateAfter onFragment (onFragment f r) fragments).arrived = _
      rw [ih, arrived_onFragment, List.append_assoc, List.singleton_append]

def reached (fragments : List Fragment) : LocalFragmentReassembler :=
  stateAfter onFragment {} fragments

theorem reached_concat (fragments : List Fragment) (f : Fragment) :
    reached (fragments ++ [f]) = onFragment f (reached fragments) :=
  stateAfter_append onFragment {} fragments [f]

end Steps

section Messages

/-- The parts of the message of `f` that have arrived end with its first fragment and middle
fragments; the buffer is made of these and of `f`. -/
def WholeMessage (arrived : List Fragment) (f : Fragment) (buffer : List UInt8) : Prop :=
  ∃ earlier first middles, arrived.filter (f.SameMessage ·) = earlier ++ first :: middles ∧
    first.place = .first ∧ (∀ g ∈ middles, g.place = .middle) ∧ f.place = .last ∧
    buffer = first.bytes ++ middles.flatMap Fragment.bytes ++ f.bytes

/-- A buffer that is assembled when the fragment arrives is one whole message. -/
def HandsWhole (r : LocalFragmentReassembler) (f : Fragment) : Prop :=
  ∀ buffer, (onFragment f r).sink = r.sink ++ [.assembled buffer] → WholeMessage r.arrived f buffer

/-- Since the first fragment of its message, only middle fragments of that message and whole
messages of others have arrived. -/
def Preceded (arrived : List Fragment) (f : Fragment) : Prop :=
  ∃ earlier first between, arrived = earlier ++ first :: between ∧
    first.place = .first ∧ f.SameMessage first ∧
    ∀ g ∈ between, g.place = if f.SameMessage g then .middle else .whole

/-- The accumulator then holds the first fragment and the middle fragments of the message. -/
theorem acc_of_preceded {f first : Fragment} {earlier between : List Fragment}
    (begins : first.place = .first)
    (ordered : ∀ g ∈ between, g.place = if f.SameMessage g then .middle else .whole) :
    (reached (earlier ++ first :: between)).acc =
      first.bytes ++ (between.filter (f.SameMessage ·)).flatMap Fragment.bytes := by
  induction between using List.reverseRecOn with
  | nil =>
      rw [reached_concat, onFragment_eq, begins]
      simp
  | append_singleton between g ih =>
      have shorter := ih fun g among => ordered g (List.mem_append_left _ among)
      have here := ordered g (List.mem_append_right _ (List.mem_singleton.mpr rfl))
      rw [← List.cons_append, ← List.append_assoc, reached_concat, onFragment_eq, here]
      by_cases same : f.SameMessage g
      · simp [same, shorter]
      · simp [same, shorter]

theorem wholeMessage_of_preceded {arrived : List Fragment} {f : Fragment} (ends : f.place = .last)
    (preceded : Preceded arrived f) : WholeMessage arrived f ((reached arrived).acc ++ f.bytes) := by
  obtain ⟨earlier, first, between, rfl, begins, same, ordered⟩ := preceded
  refine ⟨earlier.filter (f.SameMessage ·), first, between.filter (f.SameMessage ·), ?_, begins, ?_,
    ends, ?_⟩
  · simp [List.filter_append, same]
  · intro g among
    obtain ⟨among, sameMessage⟩ := List.mem_filter.mp among
    rw [ordered g among, if_pos (of_decide_eq_true sameMessage)]
  · rw [acc_of_preceded begins ordered]

theorem assembled_eq {f : Fragment} {r : LocalFragmentReassembler} {buffer : List UInt8}
    (handed : (onFragment f r).sink = r.sink ++ [.assembled buffer]) :
    f.place = .last ∧ buffer = r.acc ++ f.bytes := by
  rw [onFragment_eq] at handed
  cases place : f.place <;> simp [place] at handed ⊢
  exact handed.symm

/-- In every run in which each last fragment comes, but for whole messages of others, right
after the other fragments of its own message, every assembled buffer is one whole message. -/
theorem assembled_buffers_are_whole {fragments : List Fragment}
    (ordered : Meets onFragment (fun r f => f.place = .last → Preceded r.arrived f) {} fragments) :
    Meets onFragment HandsWhole {} fragments := by
  refine meets_of_invariant (fun r => r = reached r.arrived) rfl ?_ ?_ ordered
  · intro r f consistent
    rw [arrived_onFragment, reached_concat, ← consistent]
  · intro r f consistent preceded buffer handed
    obtain ⟨ends, rfl⟩ := assembled_eq handed
    have acc : r.acc = (reached r.arrived).acc := congrArg LocalFragmentReassembler.acc consistent
    rw [acc]
    exact wholeMessage_of_preceded ends (preceded ends)

section Sample

/-- A message in three fragments, with a whole message of another image before the last one. -/
def interrupted : List Fragment :=
  [⟨0x80, [1], 1, 0⟩, ⟨0, [2], 1, 0⟩, ⟨0xC0, [9], 2, 0⟩, ⟨0x40, [3], 1, 0⟩]

theorem assembled_buffers_are_whole_sample : Meets onFragment HandsWhole {} interrupted := by
  refine assembled_buffers_are_whole ⟨?_, ?_, ?_, ?_, trivial⟩
  · exact fun last => absurd last (by decide)
  · exact fun last => absurd last (by decide)
  · exact fun last => absurd last (by decide)
  · intro _
    exact ⟨[], ⟨0x80, [1], 1, 0⟩, [⟨0, [2], 1, 0⟩, ⟨0xC0, [9], 2, 0⟩], by decide, by decide,
      by decide, by decide⟩

/-- The last fragment of a message whose start was missed is handed over as a message. -/
theorem tail_is_handed_over :
    ¬ ∀ fragments : List Fragment, Meets onFragment HandsWhole {} fragments := by
  intro claim
  have handed := (claim [⟨0x40, [7], 1, 0⟩]).1 [7] (by decide)
  obtain ⟨earlier, first, middles, split, -⟩ := handed
  simp at split

end Sample

end Messages

section Cuts

/-- The flags of the fragments of one message in the order in which they are sent. -/
def Flagged (fragments : List Fragment) : Prop :=
  (∃ only, fragments = [only] ∧ only.place = .whole) ∨
    ∃ first middles last, fragments = first :: (middles ++ [last]) ∧ first.place = .first ∧
      (∀ g ∈ middles, g.place = .middle) ∧ last.place = .last

/-- A message that is cut into fragments; its size is an `index_t`. -/
structure CutMessage where
  bytes : List UInt8
  fragments : List Fragment
  fits : bytes.length < 2 ^ 31
  flagged : Flagged fragments
  whole : fragments.flatMap Fragment.bytes = bytes

def Delivery.bytes : Delivery → List UInt8
  | .fragment bytes | .assembled bytes => bytes

def CutMessage.handed (m : CutMessage) : Delivery :=
  if m.fragments.length = 1 then .fragment m.bytes else .assembled m.bytes

theorem bytes_handed (m : CutMessage) : m.handed.bytes = m.bytes := by
  unfold CutMessage.handed
  split <;> rfl

theorem stateAfter_middles {middles : List Fragment} (inner : ∀ g ∈ middles, g.place = .middle)
    (r : LocalFragmentReassembler) :
    stateAfter onFragment r middles =
      { r with
        acc := r.acc ++ middles.flatMap Fragment.bytes
        arrived := r.arrived ++ middles } := by
  induction middles generalizing r with
  | nil => simp [stateAfter]
  | cons g middles ih =>
      have here : g.place = .middle := inner g List.mem_cons_self
      have later := ih (fun g among => inner g (List.mem_cons_of_mem _ among)) (onFragment g r)
      change stateAfter onFragment (onFragment g r) middles = _
      rw [later, onFragment_eq, here]
      simp

/-- The fragments of one message lead to one sink call, whatever the accumulator held before. -/
theorem stateAfter_message (m : CutMessage) (r : LocalFragmentReassembler) :
    (stateAfter onFragment r m.fragments).sink = r.sink ++ [m.handed] ∧
      ((stateAfter onFragment r m.fragments).acc = r.acc ∨
        (stateAfter onFragment r m.fragments).acc = []) := by
  obtain ⟨bytes, fragments, fits, flagged, rfl⟩ := m
  rcases flagged with ⟨only, rfl, alone⟩ | ⟨first, middles, last, rfl, begins, inner, ends⟩
  · have one : stateAfter onFragment r [only] = onFragment only r := rfl
    simp [one, onFragment_eq, alone, CutMessage.handed]
  · have peeled : stateAfter onFragment r (first :: (middles ++ [last])) =
        onFragment last (stateAfter onFragment (onFragment first r) middles) :=
      stateAfter_append onFragment (onFragment first r) middles [last]
    have opened : onFragment first r =
        { r with acc := first.bytes, arrived := r.arrived ++ [first] } := by
      rw [onFragment_eq, begins]
    have closed (s : LocalFragmentReassembler) : onFragment last s =
        { acc := []
          sink := s.sink ++ [.assembled (s.acc ++ last.bytes)]
          arrived := s.arrived ++ [last] } := by
      rw [onFragment_eq, ends]
    rw [peeled, stateAfter_middles inner, closed, opened]
    simp [CutMessage.handed]

theorem acc_messages (messages : List CutMessage) {r : LocalFragmentReassembler} (empty : r.acc = []) :
    (stateAfter onFragment r (messages.flatMap CutMessage.fragments)).acc = [] := by
  induction messages generalizing r with
  | nil => exact empty
  | cons m messages ih =>
      rw [List.flatMap_cons, stateAfter_append]
      rcases (stateAfter_message m r).2 with old | cleared
      · exact ih (old.trans empty)
      · exact ih cleared

theorem sink_messages (messages : List CutMessage) (r : LocalFragmentReassembler) :
    (stateAfter onFragment r (messages.flatMap CutMessage.fragments)).sink =
      r.sink ++ messages.map CutMessage.handed := by
  induction messages generalizing r with
  | nil => exact (List.append_nil _).symm
  | cons m messages ih =>
      rw [List.flatMap_cons, stateAfter_append, ih, (stateAfter_message m r).1]
      simp

/-- Every message that is cut and sent in order is handed over once, in order and with its own
bytes, whatever the accumulator held before; a new reassembler is left with an empty one. -/
theorem reassembly_is_complete (messages : List CutMessage) :
    (∀ r, (stateAfter onFragment r (messages.flatMap CutMessage.fragments)).sink =
      r.sink ++ messages.map CutMessage.handed) ∧
    (messages.map CutMessage.handed).map Delivery.bytes = messages.map CutMessage.bytes ∧
    (stateAfter onFragment {} (messages.flatMap CutMessage.fragments)).acc = [] := by
  refine ⟨sink_messages messages, ?_, acc_messages messages rfl⟩
  rw [List.map_map]
  exact List.map_congr_left fun m _ => bytes_handed m

end Cuts

end AeronClusterClient.Client.Reassembly
