import Mathlib.Data.List.Induction
import Mathlib.Tactic.Ring
import PacketAuth.Bytes.Basic

/-! # The order of byte strings

The first byte of a byte string counts for the most (`BigEndian.value_cons`).  So byte strings of
one length are in the same order byte by byte as the numbers that they denote
(`BigEndian.lt_iff`). -/

namespace PacketAuth.BigEndian

theorem value_cons (b : UInt8) (bs : Bytes) :
    value (b :: bs) = b.toNat * 256 ^ bs.length + value bs := by
  induction bs using List.reverseRecOn with
  | nil => simp [value]
  | append_singleton bs c ih =>
      rw [← List.cons_append, value_append_singleton, value_append_singleton, ih,
        List.length_append, List.length_singleton]
      ring

theorem value_lt (bs : Bytes) : value bs < 256 ^ bs.length := by
  induction bs with
  | nil => decide
  | cons b bs ih =>
      have hb : b.toNat + 1 ≤ 256 := b.toNat_lt
      rw [value_cons, List.length_cons]
      calc b.toNat * 256 ^ bs.length + value bs
        _ < b.toNat * 256 ^ bs.length + 256 ^ bs.length := Nat.add_lt_add_left ih _
        _ = (b.toNat + 1) * 256 ^ bs.length := by ring
        _ ≤ 256 * 256 ^ bs.length := Nat.mul_le_mul_right _ hb
        _ = 256 ^ (bs.length + 1) := by ring

/-- The leading digit decides, and the rest does if the leading digits are equal. -/
theorem leading_digit {base b c v w : Nat} (hv : v < base) (hw : w < base) :
    b * base + v < c * base + w ↔ b < c ∨ b = c ∧ v < w := by
  rcases Nat.lt_trichotomy b c with h | rfl | h
  · have hle : (b + 1) * base ≤ c * base := Nat.mul_le_mul_right _ h
    rw [Nat.succ_mul] at hle
    simp only [h, true_or, iff_true]
    omega
  · simp
  · have hle : (c + 1) * base ≤ b * base := Nat.mul_le_mul_right _ h
    rw [Nat.succ_mul] at hle
    simp only [Nat.lt_asymm h, (Nat.ne_of_lt h).symm, false_and, or_self, iff_false]
    omega

/-- Byte strings of one length are ordered like their values. -/
theorem lt_iff {bs cs : Bytes} (h : bs.length = cs.length) : bs < cs ↔ value bs < value cs := by
  induction bs generalizing cs with
  | nil =>
      obtain rfl := List.eq_nil_of_length_eq_zero h.symm
      simp
  | cons b bs ih =>
      cases cs with
      | nil => cases h
      | cons c cs =>
          have hl : bs.length = cs.length := Nat.succ.inj h
          have hcs := value_lt cs
          rw [← hl] at hcs
          rw [List.cons_lt_cons_iff, ih hl, value_cons, value_cons, ← hl,
            leading_digit (value_lt bs) hcs, UInt8.lt_iff_toNat_lt, UInt8.toNat_inj]

end PacketAuth.BigEndian
