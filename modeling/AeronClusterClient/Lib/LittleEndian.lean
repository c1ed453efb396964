/- module: AeronClusterClient/Lib/LittleEndian
   generality: any width
   digest: Fixed-width little-endian byte strings of natural numbers and two's complement integers. -/

import Mathlib.Data.Nat.ModEq
import Mathlib.Tactic.Ring

set_option autoImplicit false
set_option relaxedAutoImplicit false

namespace AeronClusterClient.Lib.LittleEndian

/-- The `w` low-order bytes of `n`, least significant first. -/
def toBytes : Nat → Nat → List UInt8
  | 0, _ => []
  | w + 1, n => UInt8.ofNat n :: toBytes w (n / 256)

/-- The natural number whose little-endian bytes are given. -/
def ofBytes : List UInt8 → Nat
  | [] => 0
  | b :: bs => b.toNat + 256 * ofBytes bs

@[simp] theorem length_toBytes (w n : Nat) : (toBytes w n).length = w := by
  induction w generalizing n with
  | zero => rfl
  | succ w ih => simp [toBytes, ih]

theorem ofBytes_toBytes (w n : Nat) : ofBytes (toBytes w n) = n % 256 ^ w := by
  induction w generalizing n with
  | zero => simp [toBytes, ofBytes, Nat.mod_one]
  | succ w ih =>
      have low : (UInt8.ofNat n).toNat = n % 256 := by simp
      rw [toBytes, ofBytes, ih, low, Nat.pow_succ', Nat.mod_mul]

theorem ofBytes_toBytes_of_lt {w n : Nat} (fits : n < 256 ^ w) :
    ofBytes (toBytes w n) = n := by
  rw [ofBytes_toBytes, Nat.mod_eq_of_lt fits]

theorem toBytes_ofBytes (bs : List UInt8) : toBytes bs.length (ofBytes bs) = bs := by
  induction bs with
  | nil => rfl
  | cons b bs ih =>
      have small : b.toNat < 256 := b.toNat_lt
      have low : UInt8.ofNat (b.toNat + 256 * ofBytes bs) = b := by
        rw [← UInt8.toNat_inj, UInt8.toNat_ofNat']
        omega
      have high : (b.toNat + 256 * ofBytes bs) / 256 = ofBytes bs := by omega
      rw [ofBytes, List.length_cons, toBytes, low, high, ih]

theorem ofBytes_lt (bs : List UInt8) : ofBytes bs < 256 ^ bs.length := by
  induction bs with
  | nil => simp [ofBytes]
  | cons b bs ih =>
      have hb : b.toNat < 256 := b.toNat_lt
      rw [ofBytes, List.length_cons, Nat.pow_succ]
      omega

/-- The bits of a two's complement integer of `w` bytes, read as unsigned. -/
def unsigned (w : Nat) (i : Int) : Nat := (i % (256 ^ w : Nat)).toNat

/-- The two's complement integer with the given bits. -/
def signed (w n : Nat) : Int := if 2 * n < 256 ^ w then n else n - (256 ^ w : Nat)

theorem unsigned_lt (w : Nat) (i : Int) : unsigned w i < 256 ^ w := by
  have positive : 0 < 256 ^ w := Nat.pow_pos (by decide)
  have upper := Int.emod_lt_of_pos i (Int.natCast_pos.mpr positive)
  unfold unsigned
  omega

theorem signed_unsigned {w : Nat} {i : Int} (lower : -(256 ^ w : Nat) ≤ 2 * i)
    (upper : 2 * i < (256 ^ w : Nat)) : signed w (unsigned w i) = i := by
  have range := unsigned_lt w i
  unfold unsigned at range
  unfold signed unsigned
  by_cases nonneg : 0 ≤ i
  · rw [Int.emod_eq_of_lt nonneg (by omega), if_pos (by omega)]
    omega
  · have shift : i % (256 ^ w : Nat) = i + (256 ^ w : Nat) := by
      rw [← Int.add_emod_right, Int.emod_eq_of_lt (by omega) (by omega)]
    rw [shift, if_neg (by omega)]
    omega

theorem signed_unsigned_int64 {i : Int} (lower : -2 ^ 63 ≤ i) (upper : i < 2 ^ 63) :
    signed 8 (unsigned 8 i) = i :=
  signed_unsigned (by norm_num; omega) (by norm_num; omega)

theorem toBytes_eq_map (w n : Nat) :
    toBytes w n = (List.range w).map (fun i => UInt8.ofNat (n / 256 ^ i)) := by
  induction w generalizing n with
  | zero => rfl
  | succ w ih =>
      rw [toBytes, ih, List.range_succ_eq_map, List.map_cons, List.map_map]
      simp [Nat.pow_succ', Nat.div_div_eq_div_mul]

/-- The `i`-th byte of a two's complement integer, by an arithmetic shift and a mask. -/
def byteAt (i : Nat) (value : Int) : UInt8 := UInt8.ofNat ((value >>> (8 * i)) % 256).toNat

theorem byteAt_eq {w i : Nat} (value : Int) (inside : i < w) :
    byteAt i value = UInt8.ofNat (unsigned w value / 256 ^ i) := by
  have positive (k : Nat) : (0 : Int) < (256 ^ k : Nat) := by
    exact_mod_cast Nat.pow_pos (by decide)
  have parts : ((256 ^ w : Nat) : Int) = (256 ^ i : Nat) * (256 * (256 ^ (w - i - 1) : Nat)) := by
    have split : w = i + 1 + (w - i - 1) := by omega
    conv_lhs => rw [split, Nat.pow_add, Nat.pow_succ]
    push_cast
    ring
  have low : (unsigned w value : Int) = value % (256 ^ w : Nat) := by
    unfold unsigned
    exact Int.toNat_of_nonneg (Int.emod_nonneg _ (positive w).ne')
  have shifted : ((unsigned w value / 256 ^ i : Nat) : Int) % 256 =
      value / (256 ^ i : Nat) % 256 := by
    have quotient : value % (256 ^ w : Nat) / (256 ^ i : Nat) = value / (256 ^ i : Nat) -
        256 * ((256 ^ (w - i - 1) : Nat) * (value / (256 ^ w : Nat))) := by
      rw [Int.emod_def, parts, Int.mul_assoc, Int.sub_mul_ediv_left _ _ (positive i).ne',
        Int.mul_assoc]
    rw [Int.natCast_ediv, low, quotient, Int.sub_mul_emod_self_left]
  have base : 2 ^ (8 * i) = 256 ^ i := Nat.pow_mul 2 8 i
  unfold byteAt
  rw [Int.shiftRight_eq_div_pow]
  rw [base, ← shifted]
  apply UInt8.toNat.inj
  simp only [UInt8.toNat_ofNat']
  omega

theorem map_byteAt (w : Nat) (value : Int) :
    (List.range w).map (fun i => byteAt i value) = toBytes w (unsigned w value) := by
  rw [toBytes_eq_map]
  apply List.map_congr_left
  intro i inside
  exact byteAt_eq value (List.mem_range.mp inside)

end AeronClusterClient.Lib.LittleEndian
