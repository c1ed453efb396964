/- module: AeronClusterClient/Lib/Bytes
   generality: any address space, any buffer
   digest: Byte ranges of a flat memory and writes into a zero-filled buffer. -/

import Mathlib.Data.List.Basic

/-!
A reader sees a flat address space: a range outside an object yields whatever
bytes lie there. A writer works on a buffer of fixed length that starts filled
with zeros.
-/

set_option autoImplicit false
set_option relaxedAutoImplicit false

namespace AeronClusterClient.Lib.Bytes

abbrev Memory := Nat → UInt8

/-- The `n` bytes from an address on. -/
def bytesAt (mem : Memory) (addr n : Nat) : List UInt8 :=
  (List.range n).map (fun i => mem (addr + i))

/-- The memory holds exactly these bytes from an address on. -/
def Holds (mem : Memory) (addr : Nat) (bytes : List UInt8) : Prop :=
  bytesAt mem addr bytes.length = bytes

/-- A memory that holds the given bytes from an address on, and zeros elsewhere. -/
def memoryOf (addr : Nat) (bytes : List UInt8) : Memory :=
  fun a => if addr ≤ a then bytes.getD (a - addr) 0 else 0

@[simp] theorem length_bytesAt (mem : Memory) (addr n : Nat) :
    (bytesAt mem addr n).length = n := by
  simp [bytesAt]

theorem bytesAt_add (mem : Memory) (addr n m : Nat) :
    bytesAt mem addr (n + m) = bytesAt mem addr n ++ bytesAt mem (addr + n) m := by
  simp [bytesAt, List.range_add, Nat.add_assoc]

theorem take_bytesAt {mem : Memory} {addr n k : Nat} (inside : k ≤ n) :
    (bytesAt mem addr n).take k = bytesAt mem addr k := by
  obtain ⟨more, rfl⟩ := Nat.exists_eq_add_of_le inside
  rw [bytesAt_add, List.take_left' (length_bytesAt mem addr k)]

theorem drop_bytesAt {mem : Memory} {addr n k : Nat} (inside : k ≤ n) :
    (bytesAt mem addr n).drop k = bytesAt mem (addr + k) (n - k) := by
  obtain ⟨more, rfl⟩ := Nat.exists_eq_add_of_le inside
  rw [bytesAt_add, List.drop_left' (length_bytesAt mem addr k), Nat.add_sub_cancel_left]

theorem holds_append {mem : Memory} {addr : Nat} {xs ys : List UInt8} :
    Holds mem addr (xs ++ ys) ↔ Holds mem addr xs ∧ Holds mem (addr + xs.length) ys := by
  rw [Holds, List.length_append, bytesAt_add]
  constructor
  · intro same
    exact List.append_inj same (length_bytesAt mem addr xs.length)
  · rintro ⟨front, back⟩
    exact congrArg₂ (· ++ ·) front back

theorem bytesAt_of_holds {mem : Memory} {addr k n : Nat} {bytes : List UInt8}
    (held : Holds mem addr bytes) (inside : k + n ≤ bytes.length) :
    bytesAt mem (addr + k) n = (bytes.drop k).take n := by
  have part : ((bytesAt mem addr bytes.length).drop k).take n = bytesAt mem (addr + k) n := by
    rw [drop_bytesAt (by omega), take_bytesAt (by omega)]
  rw [← part, held]

theorem holds_of_take {mem : Memory} {addr n : Nat} {before part after : List UInt8}
    (held : Holds mem addr ((before ++ part ++ after).take n))
    (inside : before.length + part.length ≤ n) : Holds mem (addr + before.length) part := by
  have split : (before ++ part ++ after).take n =
      before ++ (part ++ after.take (n - (before.length + part.length))) := by
    rw [List.take_append, List.take_of_length_le (by simpa using inside),
      List.length_append, List.append_assoc]
  rw [split] at held
  exact (holds_append.mp (holds_append.mp held).2).1

theorem holds_prefix_of_take {mem : Memory} {addr n : Nat} {bytes part : List UInt8}
    (held : Holds mem addr (bytes.take n)) (starts : part <+: bytes)
    (inside : part.length ≤ n) : Holds mem addr part := by
  obtain ⟨after, rfl⟩ := starts
  have front : Holds mem addr (([] ++ part ++ after).take n) := held
  exact holds_of_take front (by simpa using inside)

theorem holds_memoryOf (addr : Nat) (bytes : List UInt8) :
    Holds (memoryOf addr bytes) addr bytes := by
  apply List.ext_getElem (length_bytesAt _ _ _)
  intro i hi hb
  simp [bytesAt, memoryOf, hb]

/-- `memcpy` into a buffer. -/
def overwrite (buffer : List UInt8) (pos : Nat) (bytes : List UInt8) : List UInt8 :=
  buffer.take pos ++ bytes ++ buffer.drop (pos + bytes.length)

/-- `std::vector::resize`. -/
def resize (buffer : List UInt8) (n : Nat) : List UInt8 :=
  buffer.take n ++ List.replicate (n - buffer.length) 0

theorem overwrite_zeros {written bytes : List UInt8} {pos room : Nat}
    (frontier : pos = written.length) :
    overwrite (written ++ List.replicate room 0) pos bytes =
      written ++ bytes ++ List.replicate (room - bytes.length) 0 := by
  subst frontier
  simp [overwrite, List.drop_append]

/-- Writing a range byte by byte is writing it at once, where there is room for it. -/
theorem foldl_set_eq_overwrite (f : Nat → UInt8) {buffer : List UInt8} {pos n : Nat}
    (room : pos + n ≤ buffer.length) :
    (List.range n).foldl (fun b i => b.set (pos + i) (f i)) buffer =
      overwrite buffer pos ((List.range n).map f) := by
  induction n with
  | zero => simp [overwrite]
  | succ n ih =>
      have here : (buffer.drop (pos + n)).set 0 (f n) = f n :: buffer.drop (pos + n + 1) := by
        rw [List.drop_eq_getElem_cons (by omega), List.set_cons_zero]
      have past : ((buffer.take pos ++ (List.range n).map f)).length = pos + n := by
        simp; omega
      rw [List.range_succ, List.foldl_append, ih (by omega), List.map_append]
      unfold overwrite
      simp only [List.foldl_cons, List.foldl_nil, List.length_append, List.length_map,
        List.length_range, List.map_cons, List.map_nil, List.length_cons, List.length_nil]
      rw [List.set_append_right _ _ (by omega), past, Nat.sub_self, here]
      simp [Nat.add_assoc]

theorem resize_of_le {buffer : List UInt8} {n : Nat} (shorter : n ≤ buffer.length) :
    resize buffer n = buffer.take n := by
  simp [resize, Nat.sub_eq_zero_of_le shorter]

end AeronClusterClient.Lib.Bytes
