import Mathlib.Tactic.Common
import PacketAuth.Text.Characters
import PacketAuth.Text.Utf8

/-! # Written text

A text as bytes and a text as typed.  UTF-8 writes different texts differently (`encode_inj`) and a
7-bit character as its own byte (`encode_ofBytes`); trimming takes nothing from a text that holds no
blank (`trim_ofList`). -/

namespace PacketAuth

namespace Utf8

theorem toNat_charOfNat {n : Nat} (h : n.isValidChar) : (Char.ofNat n).toNat = n := by
  unfold Char.ofNat
  rw [dif_pos h]
  rfl

theorem encode_inj {s t : String} : encode s = encode t ↔ s = t := by
  unfold encode
  rw [← List.toByteArray_inj, ← String.toByteArray_inj, ← String.utf8Encode_toList,
    ← String.utf8Encode_toList]
  rfl

theorem utf8EncodeChar_ofNat {n : Nat} (h : n < 128) :
    String.utf8EncodeChar (Char.ofNat n) = [UInt8.ofNat n] := by
  have hv : (Char.ofNat n).toNat = n := toNat_charOfNat (Or.inl (by omega))
  have hs : (Char.ofNat n).utf8Size = 1 := by
    rw [Char.utf8Size_eq_one_iff]
    show (Char.ofNat n).val ≤ 127
    rw [UInt32.le_iff_toNat_le]
    show (Char.ofNat n).toNat ≤ 127
    omega
  rw [String.utf8EncodeChar_eq_singleton hs]
  congr 1
  apply UInt8.toNat_inj.mp
  show (Char.ofNat n).toNat % 256 = _
  rw [hv, UInt8.toNat_ofNat']

/-- The bytes of a 7-bit text, each read as a character and written again. -/
theorem encode_ofBytes {bs : Bytes} (h : ∀ b ∈ bs, b.toNat < 128) :
    encode (String.ofList (bs.map fun b => Char.ofNat b.toNat)) = bs := by
  unfold encode
  rw [String.toList_ofList]
  induction bs with
  | nil => rfl
  | cons b bs ih =>
      have hb := h b List.mem_cons_self
      rw [List.map_cons, List.flatMap_cons, utf8EncodeChar_ofNat hb, UInt8.ofNat_toNat,
        ih (fun c hc => h c (List.mem_cons_of_mem _ hc))]
      rfl

end Utf8

namespace Text

theorem trimEnd_of_forall {cs : List Char} (h : ∀ c ∈ cs, isBlank c = false) : trimEnd cs = cs := by
  unfold trimEnd
  have hr : cs.reverse.dropWhile isBlank = cs.reverse := by
    cases hc : cs.reverse with
    | nil => rfl
    | cons c rest =>
        have hmem : c ∈ cs := List.mem_reverse.mp (hc ▸ List.mem_cons_self)
        rw [List.dropWhile_cons_of_neg (by simp [h c hmem])]
  rw [hr, List.reverse_reverse]

theorem trimChars_of_forall {cs : List Char} (h : ∀ c ∈ cs, isBlank c = false) :
    trimChars cs = cs := by
  unfold trimChars
  cases cs with
  | nil => rfl
  | cons c rest =>
      rw [List.dropWhile_cons_of_neg (by simp [h c List.mem_cons_self])]
      exact trimEnd_of_forall h

theorem trim_ofList {cs : List Char} (h : ∀ c ∈ cs, isBlank c = false) :
    trim (String.ofList cs) = String.ofList cs := by
  unfold trim
  rw [String.toList_ofList, trimChars_of_forall h]

theorem mem_dropWhile {c : Char} {cs : List Char} (hc : c ∈ cs) (hb : isBlank c = false) :
    c ∈ cs.dropWhile isBlank := by
  induction cs with
  | nil => cases hc
  | cons d cs ih =>
      rw [List.dropWhile_cons]
      split_ifs with hd
      · rcases List.mem_cons.mp hc with rfl | hc
        · rw [hb] at hd
          cases hd
        · exact ih hc
      · exact hc

/-- Trimming takes away nothing but blanks. -/
theorem mem_trim {c : Char} {s : String} (hc : c ∈ s.toList) (hb : isBlank c = false) :
    c ∈ (trim s).toList := by
  unfold trim trimChars trimEnd
  rw [String.toList_ofList, List.mem_reverse]
  exact mem_dropWhile (List.mem_reverse.mpr (mem_dropWhile hc hb)) hb

end Text
end PacketAuth
