import PacketAuth.Prompt
import PacketAuth.Proofs.FirstDefect

/-! # The gate for keys

The length of a key in bits is a product of machine words that stops at the largest word, and the
gate compares it with the least length of the policy.  No policy asks for as much as the largest
word, so that the verdict is that of the exact comparison (`Policy.le_mulSaturating_iff`); it
depends on the length alone and is monotone in it.  For a valid policy the comparison of bits is one
of bytes (`Policy.checkKey_eq_ok_iff_minKeyBytes`).  Wherever a key is reported to be too weak, by
the gate, the signer or a request, its own length is reported (`Key.FallsShortOf`). -/

namespace PacketAuth

/-! ### The length as a machine word -/

/-- The product of two words, the largest word standing for all that is beyond it. -/
def mulSaturating (a b : UInt64) : UInt64 :=
  if a.toNat * b.toNat < UInt64.size then a * b else .ofNat (UInt64.size - 1)

theorem toNat_mulSaturating (a b : UInt64) :
    (mulSaturating a b).toNat = min (a.toNat * b.toNat) (UInt64.size - 1) := by
  have hlast : (UInt64.ofNat (UInt64.size - 1)).toNat = UInt64.size - 1 := by decide
  unfold mulSaturating
  split_ifs with h
  · have hm : (a * b).toNat = a.toNat * b.toNat :=
      (UInt64.toNat_mul a b).trans (Nat.mod_eq_of_lt h)
    omega
  · omega

/-- A key whose length is a word has the saturated product for its length in bits. -/
theorem Key.bits_of_word {k : Key} {length : UInt64} (h : k.bytes.length = length.toNat) :
    k.bits = (mulSaturating length 8).toNat := by
  have hlast : maxBits = UInt64.size - 1 := by decide
  have height : (8 : UInt64).toNat = 8 := by decide
  unfold bits
  rw [toNat_mulSaturating, h, hlast, height, Nat.mul_comm]

/-- The policy asks for `least` bits; the key has `bits`, and these are fewer. -/
structure Key.FallsShortOf (k : Key) (p : Policy) (bits least : Nat) : Prop where
  bits_eq : bits = k.bits
  least_eq : least = p.minKeyBits.toNat
  lt : bits < least

namespace Policy
variable {p q : Policy} {k k' : Key} {bits least : Nat}

/-- The comparison of words is that of exact integers. -/
theorem le_mulSaturating_iff (p : Policy) (length : UInt64) :
    p.minKeyBits.toUInt64 ≤ mulSaturating length 8 ↔ p.minKeyBits.toNat ≤ 8 * length.toNat := by
  have hp := p.minKeyBits.toNat_lt
  have hsize : UInt64.size = 0x10000000000000000 := rfl
  have height : (8 : UInt64).toNat = 8 := by decide
  rw [UInt64.le_iff_toNat_le, toNat_mulSaturating, UInt32.toNat_toUInt64, height, hsize]
  omega

/-- The verdict in machine words. -/
theorem checkKey_of_word (p : Policy) {length : UInt64} (h : k.bytes.length = length.toNat) :
    p.checkKey k = if p.minKeyBits.toUInt64 ≤ mulSaturating length 8 then .ok ()
      else .error (.weakKey (mulSaturating length 8).toNat p.minKeyBits.toNat) := by
  unfold checkKey
  rw [Key.bits_of_word h]
  simp only [UInt64.le_iff_toNat_le, UInt32.toNat_toUInt64]
  split_ifs with hlt hle hle
  · omega
  · rfl
  · rfl
  · omega

/-! ### Keys and policies compared -/

theorem checkKey_mono_length (hl : k.bytes.length ≤ k'.bytes.length) (h : p.checkKey k = .ok ()) :
    p.checkKey k' = .ok () := by
  rw [checkKey_eq_ok_iff] at h ⊢
  omega

theorem checkKey_mono_minKeyBits (hq : q.minKeyBits ≤ p.minKeyBits) (h : p.checkKey k = .ok ()) :
    q.checkKey k = .ok () := by
  rw [UInt32.le_iff_toNat_le] at hq
  rw [checkKey_eq_ok_iff] at h ⊢
  omega

/-! ### Bytes instead of bits -/

theorem Valid.minKeyBytes_mul (h : p.Valid) : p.minKeyBytes * 8 = p.minKeyBits.toNat :=
  Nat.div_mul_cancel h.2

/-- A policy that asks for whole bytes counts bytes. -/
theorem checkKey_eq_ok_iff_minKeyBytes (h : p.Valid) :
    p.checkKey k = .ok () ↔ p.minKeyBytes ≤ k.bytes.length := by
  have hb := h.minKeyBytes_mul
  rw [checkKey_eq_ok_iff]
  omega

/-! ### Reports of a weak key -/

/-- The gate has nothing to report but a key that falls short. -/
theorem checkKey_eq_error_iff {e : SigningError} : p.checkKey k = .error e ↔
    ∃ bits least, e = .weakKey bits least ∧ k.FallsShortOf p bits least := by
  unfold checkKey
  split_ifs with h
  · constructor
    · intro he
      exact ⟨_, _, (Except.error.inj he).symm, rfl, rfl, h⟩
    · rintro ⟨bits, least, rfl, rfl, rfl, -⟩
      rfl
  · constructor
    · intro he
      cases he
    · rintro ⟨bits, least, -, rfl, rfl, hlt⟩
      exact absurd hlt h

theorem checkKey_eq_weakKey_iff :
    p.checkKey k = .error (.weakKey bits least) ↔ k.FallsShortOf p bits least := by
  simp [checkKey_eq_error_iff]

end Policy

namespace Signer
variable {s : Signer} {payload : Bytes} {number : Numeral} {key : Key} {e : SigningError}
  {bits least : Nat}

theorem report_eq_weakKey_iff : s.report payload number key = .error (.weakKey bits least) ↔
    key.FallsShortOf s.policy bits least := by
  rw [← Policy.checkKey_eq_weakKey_iff]
  constructor
  · intro h
    rcases Except.bind_eq_error_iff.mp h with hk | ⟨_, -, h⟩
    · exact hk
    · -- past the gate, the number is all that can be complained of
      rcases Except.bind_eq_error_iff.mp h with hn | ⟨_, -, h⟩
      · obtain ⟨fault, -, hf⟩ := Except.mapError_eq_error_iff.mp hn
        cases hf
      · cases h
  · intro h
    exact Except.bind_eq_error_iff.mpr (Or.inl h)

theorem sign_eq_error_iff : s.sign payload number key = .error e ↔
    s.report payload number key = .error e :=
  Except.map_eq_error_iff

/-- What verifying adds to the errors of signing is a mismatch, and no weak key. -/
theorem verify_eq_weakKey_iff (given : Signature) :
    s.verify payload number key given = .error (.weakKey bits least) ↔
      s.sign payload number key = .error (.weakKey bits least) := by
  cases h : s.sign payload number key with
  | error e =>
      have hv : s.verify payload number key given = .error e := by
        unfold verify
        rw [h]
        rfl
      simp [hv]
  | ok expected =>
      rw [verify_of_sign h]
      split_ifs <;> simp

theorem lift_eq_error_iff {α : Type} {x : Except SigningError α} {f : Failure} :
    lift x = .error f ↔ ∃ e, x = .error e ∧ f = .signing e := by
  cases x with
  | error e => simp [lift, eq_comm]
  | ok a => simp [lift]

/-- Checking a request reports a weak key only if the key of the text falls short. -/
theorem exists_fallsShortOf_of_prepare {data : Bytes} {number text : String}
    (h : s.prepare data number text = .error (.signing (.weakKey bits least))) :
    ∃ k, Key.parse text = .ok k ∧ k.FallsShortOf s.policy bits least := by
  unfold prepare asciiData at h
  simp only [Except.bind_eq_error_iff, lift_eq_error_iff, lift_eq_ok_iff] at h
  rcases h with ha | ⟨_, -, ⟨e, he, hf⟩ | ⟨k, hk, ⟨e, hw, hf⟩ | ⟨_, -, ⟨e, he, hf⟩ | ⟨_, -, h⟩⟩⟩⟩
  · split_ifs at ha
    cases ha
  · obtain ⟨fault, -, rfl⟩ := Except.mapError_eq_error_iff.mp he
    cases hf
  · cases hf
    exact ⟨k, hk, Policy.checkKey_eq_weakKey_iff.mp hw⟩
  · obtain ⟨fault, -, rfl⟩ := Except.mapError_eq_error_iff.mp he
    cases hf
  · cases h

end Signer

theorem VerifyRequest.prepare_of_run_weakKey {s : Signer} {r : VerifyRequest} {bits least : Nat}
    (h : r.run s = .error (.signing (.weakKey bits least))) :
    s.prepare (Utf8.encode r.data) r.number r.key = .error (.signing (.weakKey bits least)) := by
  rcases run_eq_error_iff.mp h with h | ⟨p, fault, -, -, hf⟩
  · exact h
  · cases hf

/-- **The gate is exact.**  Whatever word a key's length is, the comparison with the saturated
product is the comparison with eight times the length; the verdict depends on the length alone, a
longer key passes where a shorter one does, and a key passes a policy that asks for no more than one
it has passed.  A policy that is accepted asks for whole bytes and admits just the keys of so many
bytes.  The gate refuses with nothing but a weak key; its length is reported as it is, and it is
below what is asked for, whether gate, signer, command or prompt reports it. -/
theorem key_gate :
    (∀ (p : Policy) (length : UInt64) (k : Key), k.bytes.length = length.toNat →
      (p.checkKey k = if p.minKeyBits.toUInt64 ≤ mulSaturating length 8 then .ok ()
        else .error (.weakKey (mulSaturating length 8).toNat p.minKeyBits.toNat)) ∧
      (p.checkKey k = .ok () ↔ p.minKeyBits.toNat ≤ 8 * length.toNat)) ∧
    (∀ (p : Policy) (k k' : Key), k.bytes.length = k'.bytes.length →
      p.checkKey k = p.checkKey k') ∧
    (∀ (p : Policy) (k k' : Key), k.bytes.length ≤ k'.bytes.length →
      p.checkKey k = .ok () → p.checkKey k' = .ok ()) ∧
    (∀ (p q : Policy) (k : Key), q.minKeyBits ≤ p.minKeyBits →
      p.checkKey k = .ok () → q.checkKey k = .ok ()) ∧
    (∀ p : Policy, p.validate = .ok () → p.minKeyBytes * 8 = p.minKeyBits.toNat ∧
      ∀ k, p.checkKey k = .ok () ↔ p.minKeyBytes ≤ k.bytes.length) ∧
    (∀ (p : Policy) (k : Key) (e : SigningError), p.checkKey k = .error e ↔
      ∃ bits least, e = .weakKey bits least ∧ k.FallsShortOf p bits least) ∧
    (∀ (s : Signer) (payload : Bytes) (number : Numeral) (k : Key) (given : Signature)
      (bits least : Nat),
      (s.report payload number k = .error (.weakKey bits least) ↔
        k.FallsShortOf s.policy bits least) ∧
      (s.sign payload number k = .error (.weakKey bits least) ↔
        k.FallsShortOf s.policy bits least) ∧
      (s.verify payload number k given = .error (.weakKey bits least) ↔
        k.FallsShortOf s.policy bits least)) ∧
    (∀ (s : Signer) (r : SignRequest) (bits least : Nat),
      r.run s = .error (.signing (.weakKey bits least)) →
      ∃ k, Key.parse r.key = .ok k ∧ k.FallsShortOf s.policy bits least) ∧
    (∀ (s : Signer) (r : VerifyRequest) (bits least : Nat),
      r.run s = .error (.signing (.weakKey bits least)) →
      ∃ k, Key.parse r.key = .ok k ∧ k.FallsShortOf s.policy bits least) ∧
    ∀ (s : Signer) (data number key : Bytes) (bits least : Nat),
      Prompt.signRound s data number key = .error (.signing (.weakKey bits least)) →
      ∃ k, Key.parse (Utf8.decodeLossy key) = .ok k ∧ k.FallsShortOf s.policy bits least := by
  refine ⟨?_, fun p _ _ => p.checkKey_of_length_eq, fun _ _ _ => Policy.checkKey_mono_length,
    fun _ _ _ => Policy.checkKey_mono_minKeyBits, ?_, fun _ _ _ => Policy.checkKey_eq_error_iff,
    ?_, ?_, ?_, ?_⟩
  · intro p length k hk
    refine ⟨p.checkKey_of_word hk, ?_⟩
    rw [p.checkKey_of_word hk, ← p.le_mulSaturating_iff]
    split_ifs with hle
    · simp [hle]
    · simp [hle]
  · intro p hp
    have hv := p.validate_eq_ok_iff.mp hp
    exact ⟨hv.minKeyBytes_mul, fun k => Policy.checkKey_eq_ok_iff_minKeyBytes hv⟩
  · intro s payload number k given bits least
    refine ⟨Signer.report_eq_weakKey_iff, ?_, ?_⟩
    · rw [Signer.sign_eq_error_iff, Signer.report_eq_weakKey_iff]
    · rw [Signer.verify_eq_weakKey_iff, Signer.sign_eq_error_iff, Signer.report_eq_weakKey_iff]
  · intro s r bits least h
    exact Signer.exists_fallsShortOf_of_prepare (SignRequest.run_eq_error_iff.mp h)
  · intro s r bits least h
    exact Signer.exists_fallsShortOf_of_prepare (VerifyRequest.prepare_of_run_weakKey h)
  · intro s data number key bits least h
    exact Signer.exists_fallsShortOf_of_prepare (Signer.reportOn_eq_error_iff.mp h)

/-- Sixteen bytes pass the standard policy and three do not, in a request to sign, in one to verify
and at the prompt.  A least length of 136 bits is one of seventeen bytes; one of 130 bits is refused
as a policy, and the sixteen bytes that it would come to do not pass it. -/
theorem key_gate_sixteen :
    ((⟨List.replicate 16 0⟩ : Key).bytes.length = (16 : UInt64).toNat ∧
      Policy.standard.checkKey ⟨List.replicate 16 0⟩ = .ok ()) ∧
    ((⟨List.replicate 16 0⟩ : Key).bytes.length = (⟨List.replicate 16 255⟩ : Key).bytes.length ∧
      Policy.standard.checkKey ⟨List.replicate 16 0⟩ =
        Policy.standard.checkKey ⟨List.replicate 16 255⟩) ∧
    ((⟨List.replicate 16 0⟩ : Key).bytes.length ≤ (⟨List.replicate 20 255⟩ : Key).bytes.length ∧
      Policy.standard.checkKey ⟨List.replicate 20 255⟩ = .ok ()) ∧
    (({ minKeyBits := 136 } : Policy).validate = .ok () ∧
      ({ minKeyBits := 136 } : Policy).checkKey ⟨List.replicate 17 0⟩ = .ok ()) ∧
    (Policy.standard.minKeyBits ≤ ({ minKeyBits := 136 } : Policy).minKeyBits ∧
      Policy.standard.checkKey ⟨List.replicate 17 0⟩ = .ok ()) ∧
    (({ minKeyBits := 130 } : Policy).minKeyBytes = 16 ∧
      ({ minKeyBits := 130 } : Policy).checkKey ⟨List.replicate 16 0⟩ =
        .error (.weakKey 128 130)) ∧
    (SignRequest.run .standard ⟨"hi", "7", "AAAA", false⟩ = .error (.signing (.weakKey 24 128)) ∧
      ∃ k, Key.parse "AAAA" = .ok k ∧ k.FallsShortOf .standard 24 128) ∧
    (VerifyRequest.run .standard ⟨"hi", "7", "AAAA ", ""⟩ = .error (.signing (.weakKey 24 128)) ∧
      ∃ k, Key.parse "AAAA " = .ok k ∧ k.FallsShortOf .standard 24 128) ∧
    Prompt.signRound .standard [104, 105] [55] [65, 65, 65, 65] =
        .error (.signing (.weakKey 24 128)) ∧
      ∃ k, Key.parse (Utf8.decodeLossy [65, 65, 65, 65]) = .ok k ∧
        k.FallsShortOf .standard 24 128 := by
  obtain ⟨hword, hlength, hlonger, hlower, hvalid, -, -, hsign, hverify, hround⟩ := key_gate
  have h16 : (⟨List.replicate 16 0⟩ : Key).bytes.length = (16 : UInt64).toNat := by decide
  have hzeros : Policy.standard.checkKey ⟨List.replicate 16 0⟩ = .ok () :=
    (hword .standard 16 _ h16).2.mpr (by decide)
  have hsame : (⟨List.replicate 16 0⟩ : Key).bytes.length =
      (⟨List.replicate 16 255⟩ : Key).bytes.length := by decide
  have hlong : (⟨List.replicate 16 0⟩ : Key).bytes.length ≤
      (⟨List.replicate 20 255⟩ : Key).bytes.length := by decide
  have h136 : ({ minKeyBits := 136 } : Policy).validate = .ok () := by decide
  have h17 : ({ minKeyBits := 136 } : Policy).checkKey ⟨List.replicate 17 0⟩ = .ok () :=
    ((hvalid _ h136).2 _).mpr (by decide)
  have hle : Policy.standard.minKeyBits ≤ ({ minKeyBits := 136 } : Policy).minKeyBits := by decide
  have hrun : SignRequest.run .standard ⟨"hi", "7", "AAAA", false⟩ =
      .error (.signing (.weakKey 24 128)) := by rfl
  have hcheck : VerifyRequest.run .standard ⟨"hi", "7", "AAAA ", ""⟩ =
      .error (.signing (.weakKey 24 128)) := by rfl
  have hprompt : Prompt.signRound .standard [104, 105] [55] [65, 65, 65, 65] =
      .error (.signing (.weakKey 24 128)) := by rfl
  have hrunKey := hsign _ _ _ _ hrun
  have hcheckKey := hverify _ _ _ _ hcheck
  have hpromptKey := hround _ _ _ _ _ _ hprompt
  exact ⟨⟨h16, hzeros⟩, ⟨hsame, hlength _ _ _ hsame⟩, ⟨hlong, hlonger _ _ _ hlong hzeros⟩,
    ⟨h136, h17⟩, ⟨hle, hlower _ _ _ hle h17⟩, ⟨by decide, by decide⟩, ⟨hrun, hrunKey⟩,
    ⟨hcheck, hcheckKey⟩, hprompt, hpromptKey⟩

end PacketAuth
