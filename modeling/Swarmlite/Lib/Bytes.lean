import Mathlib.Data.List.Basic
import Mathlib.Data.Nat.Digits.Lemmas
import Mathlib.Tactic.Ring

/-!
# Bytes: numbers in big-endian order, texts in UTF-8

A number of `width` bytes is written with its most significant byte first. Reading it back
gives the number modulo `256 ^ width` (`ofBe_toBe`), hence the number itself if it fits; and
writing what was read gives the same bytes (`toBe_ofBe`).
-/

namespace Bytes

/-- `to_be_bytes`: the last `width` bytes of a number. -/
def toBe : Nat → Nat → List UInt8
  | 0, _ => []
  | width + 1, n => UInt8.ofNat (n / 256 ^ width) :: toBe width n

/-- `from_be_bytes`. -/
def ofBe (bytes : List UInt8) : Nat :=
  bytes.foldl (fun number byte => number * 256 + byte.toNat) 0

@[simp] theorem length_toBe (width n : Nat) : (toBe width n).length = width := by
  induction width with
  | zero => rfl
  | succ width ih => rw [toBe, List.length_cons, ih]

theorem foldl_toBe (width n start : Nat) :
    (toBe width n).foldl (fun number byte => number * 256 + byte.toNat) start
      = start * 256 ^ width + n % 256 ^ width := by
  induction width generalizing start with
  | zero => simp [toBe, Nat.mod_one]
  | succ width ih =>
    have hbyte : (UInt8.ofNat (n / 256 ^ width)).toNat = n / 256 ^ width % 256 := UInt8.toNat_ofNat'
    have hmod : n % 256 ^ (width + 1) = n % 256 ^ width + 256 ^ width * (n / 256 ^ width % 256) := by
      rw [Nat.pow_succ, Nat.mod_mul]
    rw [toBe, List.foldl_cons, ih, hbyte, hmod, Nat.pow_succ]
    ring

theorem ofBe_toBe {width n : Nat} (h : n < 256 ^ width) : ofBe (toBe width n) = n := by
  unfold ofBe
  rw [foldl_toBe, Nat.zero_mul, Nat.zero_add, Nat.mod_eq_of_lt h]

theorem foldl_ofBe_lt (bytes : List UInt8) (start : Nat) :
    bytes.foldl (fun number byte => number * 256 + byte.toNat) start
      < (start + 1) * 256 ^ bytes.length := by
  induction bytes generalizing start with
  | nil => simp
  | cons byte bytes ih =>
    have hbyte : byte.toNat < 256 := byte.toNat_lt
    calc bytes.foldl (fun number byte => number * 256 + byte.toNat) (start * 256 + byte.toNat)
        < (start * 256 + byte.toNat + 1) * 256 ^ bytes.length := ih _
      _ ≤ ((start + 1) * 256) * 256 ^ bytes.length := Nat.mul_le_mul_right _ (by omega)
      _ = (start + 1) * 256 ^ (byte :: bytes).length := by
          rw [List.length_cons, Nat.pow_succ]
          ring

/-- The last byte holds the lowest digits. -/
theorem toBe_snoc (width n : Nat) (byte : UInt8) :
    toBe (width + 1) (n * 256 + byte.toNat) = toBe width n ++ [byte] := by
  have hbyte := byte.toNat_lt
  induction width with
  | zero =>
    refine congrArg (· :: []) (UInt8.toNat.inj ?_)
    rw [UInt8.toNat_ofNat', Nat.pow_zero, Nat.div_one]
    omega
  | succ width ih =>
    have hdiv : (n * 256 + byte.toNat) / 256 ^ (width + 1) = n / 256 ^ width := by
      rw [Nat.pow_succ', ← Nat.div_div_eq_div_mul]
      congr 1
      omega
    rw [toBe, ih, hdiv]
    rfl

theorem toBe_ofBe {bytes : List UInt8} {width : Nat} (h : bytes.length = width) :
    toBe width (ofBe bytes) = bytes := by
  subst h
  induction bytes using List.reverseRecOn with
  | nil => rfl
  | append_singleton bytes byte ih =>
    rw [ofBe, List.foldl_concat, ← ofBe, List.length_append, List.length_singleton, toBe_snoc, ih]

theorem ofBe_lt (bytes : List UInt8) : ofBe bytes < 256 ^ bytes.length := by
  have h := foldl_ofBe_lt bytes 0
  rwa [Nat.zero_add, Nat.one_mul] at h

theorem ofBe_take_lt (width : Nat) (bytes : List UInt8) : ofBe (bytes.take width) < 256 ^ width :=
  Nat.lt_of_lt_of_le (ofBe_lt _)
    (Nat.pow_le_pow_right (by decide) (List.length_take_le width bytes))

/-- The UTF-8 encoding of a text. -/
def utf8 (text : String) : List UInt8 := text.toList.flatMap String.utf8EncodeChar

theorem length_utf8_le (text : String) : (utf8 text).length ≤ 4 * text.length := by
  unfold utf8
  rw [← String.length_toList]
  induction text.toList with
  | nil => simp
  | cons c cs ih =>
    rw [List.flatMap_cons, List.length_append, String.length_utf8EncodeChar, List.length_cons]
    have hsize := Char.utf8Size_le_four c
    omega

theorem length_toString_le {n digits : Nat} (hdig : 0 < digits) (h : n < 10 ^ digits) :
    (toString n).length ≤ digits := by
  rw [Nat.toString_eq_repr]
  exact Nat.repr_length n digits hdig h

end Bytes
