import PacketAuth.Proofs.Forgery

/-! # What a signer answers

Signing and verifying as a table of cases.  A key below the least length is refused whatever the
number is; with a key that is long enough, an integer outside 0 to 2³² - 1 is refused; in all other
cases there is a report, and verifying tells its signature from any other byte string
(`Signer.answers`).  The signature is the HMAC value, said in one piece (`Hash.hmac`), of what the
mode covers. -/

namespace PacketAuth

/-! ### The tag in one piece -/

/-- The HMAC construction. -/
def Hash.hmac (h : Hash) (key message : Bytes) : Bytes :=
  h.sha2.digest ((h.keyBlock key).map (· ^^^ 0x5C) ++
    h.sha2.digest ((h.keyBlock key).map (· ^^^ 0x36) ++ message))

/-- A tag depends on the parts of its message only through their concatenation. -/
theorem Hash.tag_eq_hmac (h : Hash) (key : Bytes) (parts : List Bytes) :
    Mac.tag h.sha2 key parts = h.hmac key parts.flatten := by
  rw [Mac.tag_eq_digest]
  unfold Mac.outerInput Mac.innerInput Hash.hmac
  rw [Hash.mac_keyBlock]
  rfl

theorem Hash.length_hmac (h : Hash) (key message : Bytes) :
    (h.hmac key message).length = h.tagBytes := by
  unfold Hash.hmac
  rw [Sha2.length_digest, Hash.sha2_digestBytes]

theorem Hash.tagBytes_pos (h : Hash) : 0 < h.tagBytes := by
  cases h <;> decide

/-! ### The checks -/

/-- The length in bits stops at a bound that no least length reaches, so it is as good as exact. -/
theorem Policy.checkKey_eq (p : Policy) (k : Key) : p.checkKey k =
    if 8 * k.bytes.length < p.minKeyBits.toNat then
      .error (.weakKey (8 * k.bytes.length) p.minKeyBits.toNat)
    else .ok () := by
  have hp := p.minKeyBits.toNat_lt
  unfold Policy.checkKey Key.bits Key.maxBits
  by_cases h : 8 * k.bytes.length < p.minKeyBits.toNat
  · have hm : min (8 * k.bytes.length) 0xFFFFFFFFFFFFFFFF = 8 * k.bytes.length := by omega
    rw [hm, if_pos h]
  · rw [if_neg h, if_neg (by omega)]

theorem Policy.checkKey_eq_ok_iff {p : Policy} {k : Key} :
    p.checkKey k = .ok () ↔ p.minKeyBits.toNat ≤ 8 * k.bytes.length := by
  rw [Policy.checkKey_eq]
  split_ifs with h
  · simp [h]
  · simpa using h

/-- A policy looks at nothing of a key but its length. -/
theorem Policy.checkKey_of_length_eq (p : Policy) {k k' : Key}
    (h : k.bytes.length = k'.bytes.length) : p.checkKey k = p.checkKey k' := by
  rw [Policy.checkKey_eq, Policy.checkKey_eq, h]

/-! ### The range of packet numbers -/

/-- The integers that are packet numbers. -/
def PacketNumber.InRange (i : Int) : Prop := 0 ≤ i ∧ i < 0x100000000

instance (i : Int) : Decidable (PacketNumber.InRange i) := inferInstanceAs (Decidable (_ ∧ _))

theorem PacketNumber.InRange.toNat_ofNat {i : Int} (h : InRange i) :
    ((UInt32.ofNat i.toNat).toNat : Int) = i := by
  obtain ⟨h0, h1⟩ := h
  have hw : i.toNat < UInt32.size := by
    show i.toNat < 0x100000000
    omega
  rw [UInt32.toNat_ofNat_of_lt' hw]
  exact Int.toNat_of_nonneg h0

theorem Decimal.word?_eq_some_iff {i : Int} {w : UInt32} :
    word? i = some w ↔ (w.toNat : Int) = i := by
  constructor
  · intro h
    unfold word? at h
    split_ifs at h with hr
    obtain rfl := Option.some.inj h
    exact PacketNumber.InRange.toNat_ofNat hr
  · rintro rfl
    exact word?_toNat w

theorem PacketNumber.inRange_value (n : PacketNumber) : InRange n.value.toNat := by
  have h := n.value.toNat_lt
  constructor <;> omega

theorem PacketNumber.ofInt_eq_ok_iff {i : Int} {n : PacketNumber} :
    ofInt i = .ok n ↔ (n.value.toNat : Int) = i := by
  constructor
  · intro h
    unfold ofInt at h
    split_ifs at h with hn
    cases hw : Decimal.word? i with
    | none =>
        rw [hw] at h
        cases h
    | some w =>
        rw [hw] at h
        obtain rfl := Except.ok.inj h
        exact Decimal.word?_eq_some_iff.mp hw
  · rintro rfl
    exact ofInt_value n

theorem PacketNumber.exists_ofInt_eq_ok {i : Int} (h : InRange i) : ∃ n, ofInt i = .ok n :=
  ⟨⟨UInt32.ofNat i.toNat⟩, ofInt_eq_ok_iff.mpr h.toNat_ofNat⟩

theorem PacketNumber.exists_ofInt_eq_error {i : Int} (h : ¬ InRange i) :
    ∃ f, ofInt i = .error f := by
  cases hi : ofInt i with
  | error f => exact ⟨f, rfl⟩
  | ok n =>
      have hr := inRange_value n
      rw [ofInt_eq_ok_iff.mp hi] at hr
      exact absurd hr h

theorem PacketNumber.ofInt_of_neg {i : Int} (h : i < 0) : ofInt i = .error (.negative i) :=
  if_pos h

theorem PacketNumber.ofInt_of_le {i : Int} (h : 0x100000000 ≤ i) :
    ofInt i = .error (.tooLarge i) := by
  have hw : Decimal.word? i = none := by
    unfold Decimal.word?
    rw [if_neg (by omega)]
  unfold ofInt
  rw [if_neg (by omega), hw]

/-- A word that is not negative is its own absolute value. -/
theorem Int64.abs_of_not_neg {n : Int64} (h : ¬ n < 0) : n.abs = n := by
  have h0 : 0 ≤ n.toInt := Int64.le_iff_toInt_le.mp (Int64.not_lt.mp h)
  have hm : n.toBitVec.msb = false := by
    rw [BitVec.msb_eq_toInt]
    simpa using h0
  rw [← Int64.toBitVec_inj, Int64.toBitVec_abs, BitVec.abs_eq, hm]
  rfl

theorem Int64.toNat_toUInt64_of_not_neg {n : Int64} (h : ¬ n < 0) :
    (n.toUInt64.toNat : Int) = n.toInt := by
  have h0 : 0 ≤ n := Int64.not_lt.mp h
  rw [Int64.toNat_toUInt64_of_le h0]
  exact Int.toNat_of_nonneg (Int64.le_iff_toInt_le.mp h0)

/-- The check of a word without a sign is that of its integer. -/
theorem PacketNumber.ofUnsigned64_eq_ofInt (n : UInt64) : ofUnsigned64 n = ofInt n.toNat := by
  unfold ofUnsigned64
  split_ifs with h
  · have hn : n.toNat < 0x100000000 := UInt64.lt_iff_toNat_lt.mp h
    refine (ofInt_eq_ok_iff.mpr ?_).symm
    rw [UInt64.toNat_toUInt32, Nat.mod_eq_of_lt hn]
  · have hn : ¬ n.toNat < 0x100000000 := fun hn => h (UInt64.lt_iff_toNat_lt.mpr hn)
    exact (ofInt_of_le (by omega)).symm

/-- The check of a word with a sign, made in two steps, is that of its integer. -/
theorem PacketNumber.ofSigned64_eq_ofInt (n : Int64) : ofSigned64 n = ofInt n.toInt := by
  unfold ofSigned64
  split_ifs with h
  · exact (ofInt_of_neg (Int64.lt_iff_toInt_lt.mp h)).symm
  · rw [ofUnsigned64_eq_ofInt, Int64.abs_of_not_neg h, Int64.toNat_toUInt64_of_not_neg h]

/-- Whatever the type of a numeral, its integer decides. -/
theorem Numeral.packetNumber_eq_ofInt (a : Numeral) :
    a.packetNumber = PacketNumber.ofInt a.toInt := by
  cases a with
  | packet n => exact (PacketNumber.ofInt_value n).symm
  | unsigned32 n => exact (PacketNumber.ofInt_value ⟨n⟩).symm
  | unsigned64 n => exact PacketNumber.ofUnsigned64_eq_ofInt n
  | signed64 n => exact PacketNumber.ofSigned64_eq_ofInt n

/-! ### The cases -/

namespace Signer
variable {s : Signer} {payload : Bytes} {number : Numeral} {key : Key} {e : SigningError}

/-- Signing, with a report or without, and verifying any signature fail with the same error. -/
def Refuses (s : Signer) (payload : Bytes) (number : Numeral) (key : Key) (e : SigningError) :
    Prop :=
  s.report payload number key = .error e ∧ s.sign payload number key = .error e ∧
    ∀ given, s.verify payload number key given = .error e

theorem refuses_iff_report : s.Refuses payload number key e ↔
    s.report payload number key = .error e := by
  constructor
  · exact fun h => h.1
  · intro h
    have hs : s.sign payload number key = .error e := by
      unfold sign
      rw [h]
      rfl
    refine ⟨h, hs, fun given => ?_⟩
    unfold verify
    rw [hs]
    rfl

theorem report_of_strong (h : s.policy.minKeyBits.toNat ≤ 8 * key.bytes.length) :
    s.report payload number key = number.resolve.map fun n => s.certify payload n key := by
  unfold report
  rw [Policy.checkKey_eq_ok_iff.mpr h]
  rfl

/-- A weak key, a number out of range, or a report. -/
theorem report_cases (s : Signer) (payload : Bytes) (number : Numeral) (key : Key) :
    (8 * key.bytes.length < s.policy.minKeyBits.toNat ∧ s.report payload number key =
      .error (.weakKey (8 * key.bytes.length) s.policy.minKeyBits.toNat)) ∨
    (s.policy.minKeyBits.toNat ≤ 8 * key.bytes.length ∧ ¬ PacketNumber.InRange number.toInt ∧
      ∃ detail, s.report payload number key = .error (.packetNumber detail)) ∨
    (s.policy.minKeyBits.toNat ≤ 8 * key.bytes.length ∧ PacketNumber.InRange number.toInt ∧
      ∃ n : PacketNumber, (n.value.toNat : Int) = number.toInt ∧
        s.report payload number key = .ok (s.certify payload n key)) := by
  by_cases hk : 8 * key.bytes.length < s.policy.minKeyBits.toNat
  · refine Or.inl ⟨hk, ?_⟩
    unfold report
    rw [Policy.checkKey_eq, if_pos hk]
    rfl
  · rw [Nat.not_lt] at hk
    right
    rw [report_of_strong hk]
    unfold Numeral.resolve
    rw [number.packetNumber_eq_ofInt]
    by_cases hn : PacketNumber.InRange number.toInt
    · obtain ⟨n, hi⟩ := PacketNumber.exists_ofInt_eq_ok hn
      refine Or.inr ⟨hk, hn, n, PacketNumber.ofInt_eq_ok_iff.mp hi, ?_⟩
      rw [hi]
      rfl
    · obtain ⟨f, hi⟩ := PacketNumber.exists_ofInt_eq_error hn
      refine Or.inl ⟨hk, hn, f.message, ?_⟩
      rw [hi]
      rfl

theorem refuses_weakKey_iff :
    s.Refuses payload number key (.weakKey (8 * key.bytes.length) s.policy.minKeyBits.toNat) ↔
      8 * key.bytes.length < s.policy.minKeyBits.toNat := by
  rw [refuses_iff_report]
  rcases report_cases s payload number key with ⟨hk, hr⟩ | ⟨hk, -, d, hr⟩ | ⟨hk, -, n, -, hr⟩
  · simp [hr, hk]
  · simp [hr, hk]
  · simp [hr, hk]

theorem exists_refuses_packetNumber_iff :
    (∃ detail, s.Refuses payload number key (.packetNumber detail)) ↔
      s.policy.minKeyBits.toNat ≤ 8 * key.bytes.length ∧
        ¬ PacketNumber.InRange number.toInt := by
  simp only [refuses_iff_report]
  rcases report_cases s payload number key with ⟨hk, hr⟩ | ⟨hk, hn, d, hr⟩ | ⟨hk, hn, n, -, hr⟩
  · simp [hr, Nat.not_le.mpr hk]
  · simp [hr, hk, hn]
  · simp [hr, hk, hn]

theorem certify_bytes (s : Signer) (payload : Bytes) (n : PacketNumber) (key : Key) :
    (s.certify payload n key).signature.bytes =
      s.policy.hash.hmac key.bytes (s.policy.mode.covered payload n) := by
  rw [signature_bytes, Hash.tag_eq_hmac, List.flatten_singleton]
  rfl

theorem sign_of_report {r : Report} (h : s.report payload number key = .ok r) :
    s.sign payload number key = .ok r.signature := by
  unfold sign
  rw [h]
  rfl

theorem verify_eq_mismatch_iff {expected given : Signature}
    (h : s.sign payload number key = .ok expected) :
    s.verify payload number key given = .error .mismatch ↔ given.bytes ≠ expected.bytes := by
  rw [verify_of_sign h, Ne, ← signature_eq_iff, eq_comm (a := given)]
  split_ifs with he
  · simp [he]
  · simp [he]

/-- What there is once both checks are passed. -/
theorem exists_report (hk : s.policy.minKeyBits.toNat ≤ 8 * key.bytes.length)
    (hn : PacketNumber.InRange number.toInt) (payload : Bytes) :
    ∃ n : PacketNumber, (n.value.toNat : Int) = number.toInt ∧
      s.report payload number key = .ok (s.certify payload n key) := by
  rcases report_cases s payload number key with ⟨hw, -⟩ | ⟨-, ho, -⟩ | ⟨-, -, h⟩
  · omega
  · exact absurd hn ho
  · exact h

/-- **All that a signer answers.**  A key below the least length is refused with its length,
whatever the number is.  Otherwise, an integer that is no packet number is refused, and any other
has a report with the HMAC value of what the mode covers; verifying accepts the bytes of that value,
and takes every other byte string for a mismatch. -/
theorem answers (s : Signer) (payload : Bytes) (number : Numeral) (key : Key) :
    (s.Refuses payload number key (.weakKey (8 * key.bytes.length) s.policy.minKeyBits.toNat) ↔
      8 * key.bytes.length < s.policy.minKeyBits.toNat) ∧
    ((∃ detail, s.Refuses payload number key (.packetNumber detail)) ↔
      s.policy.minKeyBits.toNat ≤ 8 * key.bytes.length ∧
        ¬ PacketNumber.InRange number.toInt) ∧
    (s.policy.minKeyBits.toNat ≤ 8 * key.bytes.length → PacketNumber.InRange number.toInt →
      ∃ r, s.report payload number key = .ok r ∧
        s.sign payload number key = .ok r.signature ∧
        (r.number.value.toNat : Int) = number.toInt ∧
        r.hash = s.policy.hash ∧ r.mode = s.policy.mode ∧
        r.digest.bytes = Sha2.sha256.digest payload ∧
        r.signature.bytes =
          s.policy.hash.hmac key.bytes (s.policy.mode.covered payload r.number) ∧
        r.signature.bytes.length = s.policy.hash.tagBytes ∧
        (∀ given, s.verify payload number key given = .ok () ↔
          given.bytes = r.signature.bytes) ∧
        (∀ given, s.verify payload number key given = .error .mismatch ↔
          given.bytes ≠ r.signature.bytes) ∧
        s.verify payload number key ⟨[]⟩ = .error .mismatch ∧
        (∀ k < r.signature.bytes.length,
          s.verify payload number key ⟨r.signature.bytes.take k⟩ = .error .mismatch) ∧
        (∀ more ≠ [],
          s.verify payload number key ⟨r.signature.bytes ++ more⟩ = .error .mismatch)) := by
  refine ⟨refuses_weakKey_iff, exists_refuses_packetNumber_iff, ?_⟩
  intro hk hn
  obtain ⟨n, hv, hr⟩ := exists_report hk hn payload
  have hs := sign_of_report hr
  have hb := certify_bytes s payload n key
  have hl : (s.certify payload n key).signature.bytes.length = s.policy.hash.tagBytes := by
    rw [hb, Hash.length_hmac]
  refine ⟨_, hr, hs, hv, rfl, rfl, rfl, hb, hl, ?_, ?_, ?_, ?_, ?_⟩
  · intro given
    rw [verify_eq_ok_iff, hs, Except.ok.injEq, signature_eq_iff, eq_comm]
  · intro given
    exact verify_eq_mismatch_iff hs
  · rw [verify_eq_mismatch_iff hs]
    intro h
    have hp := s.policy.hash.tagBytes_pos
    rw [← hl, ← h] at hp
    exact Nat.lt_irrefl 0 hp
  · intro k hk'
    rw [verify_eq_mismatch_iff hs]
    intro h
    have hlen := congrArg List.length h
    rw [List.length_take] at hlen
    omega
  · intro more hm
    rw [verify_eq_mismatch_iff hs]
    intro h
    exact hm (List.append_right_eq_self.mp h)

/-- Packet 7 under sixteen zeros: both conditions hold, so there is a report. -/
theorem answers_zeros : Signer.standard.policy.minKeyBits.toNat ≤
      8 * (⟨List.replicate 16 0⟩ : Key).bytes.length ∧
    PacketNumber.InRange (Numeral.signed64 7).toInt ∧
    ∃ r, Signer.standard.report [104, 105] (.signed64 7) ⟨List.replicate 16 0⟩ = .ok r ∧
      r.hash = .sha256 ∧ Signer.standard.verify [104, 105] (.signed64 7) ⟨List.replicate 16 0⟩
        ⟨[]⟩ = .error .mismatch := by
  have hk : Signer.standard.policy.minKeyBits.toNat ≤
      8 * (⟨List.replicate 16 0⟩ : Key).bytes.length := by decide
  have hn : PacketNumber.InRange (Numeral.signed64 7).toInt := by decide
  obtain ⟨-, -, h⟩ := answers .standard [104, 105] (.signed64 7) ⟨List.replicate 16 0⟩
  obtain ⟨r, hr, -, -, hh, -, -, -, -, -, -, he, -⟩ := h hk hn
  exact ⟨hk, hn, r, hr, hh, he⟩

end Signer
end PacketAuth
