import PacketAuth.Proofs.NumberGrammar
import PacketAuth.Proofs.WrittenText

/-! # One number in several forms

A caller may hold a packet number as a word of either size, with a sign or without, or as decimal
text.  Each word is checked against the range by a comparison of its own type
(`Numeral.resolve_unsigned64`, `Numeral.resolve_signed64`), text by the reader; all of them come to
the same packet number or to the same complaint, so that signing and verifying depend on the integer
alone (`Numeral.forms_agree`). -/

namespace PacketAuth

/-! ### The text of an integer -/

theorem Text.trim_of_forall {s : String} (h : ∀ c ∈ s.toList, isBlank c = false) :
    trim s = s := by
  have ht := trim_ofList h
  rwa [String.ofList_toList] at ht

theorem Decimal.isBlank_of_isDigit {c : Char} (h : IsDigit c) : Text.isBlank c = false := by
  have h0 : 48 ≤ c.toNat := h.1
  have h1 : c.toNat ≤ 57 := h.2
  unfold Text.isBlank
  generalize c.toNat = n at h0 h1
  simp
  omega

/-- There are no blanks in a text that stands for an integer. -/
theorem Decimal.Denotes.not_isBlank {cs : List Char} {v : Int} (h : Denotes cs v) :
    ∀ c ∈ cs, Text.isBlank c = false := by
  cases h with
  | bare _ hd => exact fun c hc => isBlank_of_isDigit (hd c hc)
  | plus _ hd =>
      exact List.forall_mem_cons.mpr ⟨by decide, fun c hc => isBlank_of_isDigit (hd c hc)⟩
  | minus _ hd =>
      exact List.forall_mem_cons.mpr ⟨by decide, fun c hc => isBlank_of_isDigit (hd c hc)⟩

theorem Decimal.trim_toString (v : Int) : Text.trim (toString v) = toString v :=
  Text.trim_of_forall (denotes_toString v).not_isBlank

theorem Decimal.denotes_trim_toString (v : Int) : Denotes (Text.trim (toString v)).toList v := by
  rw [trim_toString]
  exact denotes_toString v

namespace PacketNumber

/-- The text of an integer that 128 bits can hold is read as that integer. -/
theorem ofText_toString {v : Int} (h0 : -2 ^ 127 ≤ v) (h1 : v < 2 ^ 127) :
    ofText (toString v) = (ofInt v).mapError .ofNumber := by
  unfold ofText
  rw [parse_of_denotes (Decimal.denotes_trim_toString v), if_pos ⟨h0, h1⟩]

theorem text_eq (n : PacketNumber) : n.text = toString (n.value.toNat : Int) := rfl

theorem ofText_text (n : PacketNumber) : ofText n.text = .ok n := by
  rw [ofText_eq_ok_iff, text_eq]
  exact Decimal.denotes_trim_toString _

end PacketNumber

namespace Numeral

/-! ### Words -/

/-- No type of a numeral holds integers of more than 64 bits. -/
theorem toInt_bounds (a : Numeral) : -2 ^ 63 ≤ a.toInt ∧ a.toInt < 2 ^ 64 := by
  cases a with
  | packet n =>
      have h := n.value.toNat_lt
      simp only [toInt]
      omega
  | unsigned32 n =>
      have h := n.toNat_lt
      simp only [toInt]
      omega
  | unsigned64 n =>
      have h := n.toNat_lt
      simp only [toInt]
      omega
  | signed64 n =>
      have h0 := n.le_toInt
      have h1 := n.toInt_lt
      simp only [toInt]
      omega

/-- A numeral is read as the text of its integer is. -/
theorem ofText_toInt (a : Numeral) : PacketNumber.ofText (toString a.toInt) = a.resolve := by
  obtain ⟨h0, h1⟩ := a.toInt_bounds
  unfold resolve
  rw [a.packetNumber_eq_ofInt]
  exact PacketNumber.ofText_toString (by omega) (by omega)

theorem resolve_eq_of_toInt_eq {a b : Numeral} (h : a.toInt = b.toInt) : a.resolve = b.resolve := by
  rw [← ofText_toInt, ← ofText_toInt, h]

theorem resolve_of_toInt {a : Numeral} {n : UInt32} (h : a.toInt = n.toNat) :
    a.resolve = .ok ⟨n⟩ :=
  (resolve_eq_of_toInt_eq (b := .packet ⟨n⟩) h).trans (resolve_packet ⟨n⟩)

/-- A word without a sign is compared with 2³², and cut to its low half if it is below. -/
theorem resolve_unsigned64 (n : UInt64) : (unsigned64 n).resolve =
    if n < 0x100000000 then .ok ⟨n.toUInt32⟩
    else .error (.packetNumber (toString n ++ " does not fit in 4 bytes")) := by
  show (PacketNumber.ofUnsigned64 n).mapError SigningError.ofNumber = _
  unfold PacketNumber.ofUnsigned64
  split_ifs with h
  · rfl
  · show Except.error (SigningError.packetNumber (PacketNumber.Fault.message _)) = _
    rw [PacketNumber.message_tooLarge]
    rfl

/-- A word with a sign is compared with zero, and read without the sign if it is not below. -/
theorem resolve_signed64 (n : Int64) : (signed64 n).resolve =
    if n < 0 then .error (.packetNumber (toString n ++ " is negative"))
    else (unsigned64 n.toUInt64).resolve := by
  show (PacketNumber.ofSigned64 n).mapError SigningError.ofNumber = _
  unfold PacketNumber.ofSigned64
  split_ifs with h
  · rfl
  · rw [Int64.abs_of_not_neg h]
    rfl

/-- A word of 32 bits is a packet number in whatever type it stands. -/
theorem resolve_word (n : UInt32) : (unsigned32 n).resolve = .ok ⟨n⟩ ∧
    (unsigned64 n.toUInt64).resolve = .ok ⟨n⟩ ∧
    (signed64 (.ofNat n.toNat)).resolve = .ok ⟨n⟩ := by
  have hn := n.toNat_lt
  refine ⟨resolve_of_toInt rfl, resolve_of_toInt ?_, resolve_of_toInt ?_⟩
  · exact congrArg Nat.cast n.toNat_toUInt64
  · exact Int64.toInt_ofNat_of_lt (by omega)

end Numeral

/-! ### Signing and verifying -/

namespace Signer
variable {s : Signer} {key : Key} (hk : s.policy.minKeyBits.toNat ≤ 8 * key.bytes.length)
include hk

/-- With a key that is long enough, the number may as well be read ahead of the key. -/
theorem report_eq_bind (payload : Bytes) (a : Numeral) : s.report payload a key =
    a.resolve >>= fun n => s.report payload (.packet n) key := by
  have hp : ∀ n, s.report payload (.packet n) key = .ok (s.certify payload n key) :=
    fun n => report_packet (Policy.checkKey_eq_ok_iff.mpr hk) payload n
  rw [report_of_strong hk]
  simp only [hp]
  rfl

theorem sign_eq_bind (payload : Bytes) (a : Numeral) : s.sign payload a key =
    a.resolve >>= fun n => s.sign payload (.packet n) key := by
  unfold sign
  rw [report_eq_bind hk]
  cases a.resolve with
  | error e => rfl
  | ok n => rfl

theorem verify_eq_bind (payload : Bytes) (a : Numeral) (given : Signature) :
    s.verify payload a key given =
      a.resolve >>= fun n => s.verify payload (.packet n) key given := by
  unfold verify
  rw [sign_eq_bind hk]
  cases a.resolve with
  | error e => rfl
  | ok n => rfl

end Signer

/-- **All forms of a number agree.**  A word with a sign is read as its decimal text is, and if it
is not negative as the same word without a sign; a word without a sign is read as its decimal text
is.  Words of 32 bits are packet numbers in any type, and a packet number is read from its own text.
With a key that is long enough, signing and verifying give the same for the same integer, in
whatever type or as text. -/
theorem Numeral.forms_agree :
    (∀ n : Int64, PacketNumber.ofText (toString n) = (signed64 n).resolve ∧
      (signed64 n).resolve =
        if n < 0 then .error (.packetNumber (toString n ++ " is negative"))
        else (unsigned64 n.toUInt64).resolve) ∧
    (∀ n : Int64, 0 ≤ n →
      PacketNumber.ofText (toString n) = (unsigned64 n.toUInt64).resolve) ∧
    (∀ n : UInt64, PacketNumber.ofText (toString n) = (unsigned64 n).resolve ∧
      (unsigned64 n).resolve =
        if n < 0x100000000 then .ok ⟨n.toUInt32⟩
        else .error (.packetNumber (toString n ++ " does not fit in 4 bytes"))) ∧
    (∀ n : UInt32, (unsigned32 n).resolve = .ok ⟨n⟩ ∧
      (unsigned64 n.toUInt64).resolve = .ok ⟨n⟩ ∧
      (signed64 (.ofNat n.toNat)).resolve = .ok ⟨n⟩ ∧
      PacketNumber.ofText (toString n) = .ok ⟨n⟩) ∧
    (∀ n : PacketNumber, PacketNumber.ofText n.text = .ok n) ∧
    (∀ (s : Signer) (payload : Bytes) (key : Key) (a b : Numeral),
      s.policy.minKeyBits.toNat ≤ 8 * key.bytes.length → a.toInt = b.toInt →
      (s.report payload a key = s.report payload b key ∧
        s.sign payload a key = s.sign payload b key ∧
        ∀ given, s.verify payload a key given = s.verify payload b key given) ∧
      (do let n ← PacketNumber.ofText (toString a.toInt)
          s.report payload (.packet n) key) = s.report payload b key ∧
      (do let n ← PacketNumber.ofText (toString a.toInt)
          s.sign payload (.packet n) key) = s.sign payload b key ∧
      ∀ given, (do let n ← PacketNumber.ofText (toString a.toInt)
                   s.verify payload (.packet n) key given) = s.verify payload b key given) := by
  refine ⟨fun n => ⟨ofText_toInt (signed64 n), resolve_signed64 n⟩, ?_,
    fun n => ⟨ofText_toInt (unsigned64 n), resolve_unsigned64 n⟩, ?_, PacketNumber.ofText_text, ?_⟩
  · intro n hn
    have h := resolve_signed64 n
    rw [if_neg (Int64.not_lt.mpr hn)] at h
    exact (ofText_toInt (signed64 n)).trans h
  · intro n
    obtain ⟨h32, h64, hs⟩ := resolve_word n
    exact ⟨h32, h64, hs, (ofText_toInt (unsigned32 n)).trans h32⟩
  · intro s payload key a b hk hab
    have hr := resolve_eq_of_toInt_eq hab
    rw [ofText_toInt, hr]
    refine ⟨⟨?_, ?_, fun given => ?_⟩, ?_, ?_, fun given => ?_⟩
    · rw [Signer.report_eq_bind hk, Signer.report_eq_bind hk, hr]
    · rw [Signer.sign_eq_bind hk, Signer.sign_eq_bind hk, hr]
    · rw [Signer.verify_eq_bind hk, Signer.verify_eq_bind hk, hr]
    · exact (Signer.report_eq_bind hk payload b).symm
    · exact (Signer.sign_eq_bind hk payload b).symm
    · exact (Signer.verify_eq_bind hk payload b given).symm

/-- The first integer beyond the packet numbers, the least word with a sign, and the last packet
number. -/
theorem Numeral.forms_agree_borders :
    (0 : Int64) ≤ 4294967296 ∧
    PacketNumber.ofText (toString (4294967296 : Int64)) =
      (unsigned64 (4294967296 : Int64).toUInt64).resolve ∧
    (signed64 4294967296).resolve =
      .error (.packetNumber "4294967296 does not fit in 4 bytes") ∧
    PacketNumber.ofText (toString (-9223372036854775808 : Int64)) =
      .error (.packetNumber "-9223372036854775808 is negative") ∧
    Signer.standard.policy.minKeyBits.toNat ≤
      8 * (⟨List.replicate 16 0⟩ : Key).bytes.length ∧
    (signed64 4294967295).toInt = (unsigned64 4294967295).toInt ∧
    Signer.standard.sign [104, 105] (signed64 4294967295) ⟨List.replicate 16 0⟩ =
      Signer.standard.sign [104, 105] (unsigned64 4294967295) ⟨List.replicate 16 0⟩ := by
  obtain ⟨hsigned, hsame, hunsigned, -, -, hanswers⟩ := forms_agree
  have h0 : (0 : Int64) ≤ 4294967296 := by decide
  have hk : Signer.standard.policy.minKeyBits.toNat ≤
      8 * (⟨List.replicate 16 0⟩ : Key).bytes.length := by decide
  have hab : (signed64 4294967295).toInt = (unsigned64 4294967295).toInt := by decide
  have hbig : (signed64 4294967296).resolve =
      .error (.packetNumber (toString (4294967296 : UInt64) ++ " does not fit in 4 bytes")) := by
    rw [(hsigned 4294967296).2, if_neg (by decide)]
    exact (hunsigned 4294967296).2
  have hleast : (signed64 (-9223372036854775808)).resolve =
      .error (.packetNumber (toString (-9223372036854775808 : Int64) ++ " is negative")) := by
    rw [(hsigned _).2, if_pos (by decide)]
  have hbigText : toString (4294967296 : UInt64) = "4294967296" := by decide
  have hleastText : toString (-9223372036854775808 : Int64) = "-9223372036854775808" := by decide
  rw [hbigText] at hbig
  rw [← (hsigned _).1, hleastText] at hleast
  refine ⟨h0, hsame _ h0, hbig, ?_, hk, hab, (hanswers .standard _ _ _ _ hk hab).1.2.1⟩
  rw [hleastText]
  exact hleast

end PacketAuth
