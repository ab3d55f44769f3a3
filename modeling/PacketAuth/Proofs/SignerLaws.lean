import PacketAuth.Proofs.NestedHash
import PacketAuth.Proofs.Outcomes
import PacketAuth.Signer

/-! # Laws of the signer

What signing and verifying come to once key and number are in order.  Signing succeeds exactly if
the policy accepts the key and the numeral is a packet number (`sign_eq_ok_iff`); its tag is that of
`Mode.covered`, a single byte string from which mode, number and payload digest can be read back
(`Mode.covered_eq_iff`).  Verifying compares with what signing gives (`verify_of_sign`). -/

namespace PacketAuth

/-! ### Packet numbers -/

theorem Decimal.word?_toNat (w : UInt32) : word? (w.toNat : Int) = some w := by
  have hw := w.toNat_lt
  unfold word?
  rw [if_pos (by omega), Int.toNat_natCast, UInt32.ofNat_toNat]

namespace PacketNumber

theorem ofInt_value (n : PacketNumber) : ofInt (n.value.toNat : Int) = .ok n := by
  unfold ofInt
  rw [if_neg (by omega), Decimal.word?_toNat]

theorem value_encode (n : PacketNumber) : BigEndian.value n.encode = n.value.toNat := by
  unfold encode
  rw [BigEndian.value_encode]
  exact Nat.mod_eq_of_lt n.value.toNat_lt

theorem encode_injective : Function.Injective encode := by
  intro m n h
  have hv := congrArg BigEndian.value h
  rw [value_encode, value_encode, UInt32.toNat_inj] at hv
  cases m
  cases n
  exact congrArg mk hv

end PacketNumber

theorem Numeral.resolve_packet (n : PacketNumber) : (packet n).resolve = .ok n := rfl

/-! ### The message under a tag -/

/-- The message that the tag of a packet covers. -/
def Mode.covered (m : Mode) (payload : Bytes) (n : PacketNumber) : Bytes :=
  match m with
  | counter => n.encode
  | payloadBound => Sha2.sha256.digest payload ++ n.encode

/-- Two messages are equal only if mode, number and whatever is covered of the payload are. -/
theorem Mode.covered_eq_iff {m₁ m₂ : Mode} {p₁ p₂ : Bytes} {n₁ n₂ : PacketNumber} :
    m₁.covered p₁ n₁ = m₂.covered p₂ n₂ ↔ m₁ = m₂ ∧ n₁ = n₂ ∧
      (m₁ = .payloadBound → Sha2.sha256.digest p₁ = Sha2.sha256.digest p₂) := by
  have hd : ∀ p, (Sha2.sha256.digest p).length = 32 := fun p => Sha2.length_digest ..
  have he : ∀ n : PacketNumber, n.encode.length = 4 := fun n => BigEndian.length_encode ..
  constructor
  · intro h
    have hl := congrArg List.length h
    cases m₁ <;> cases m₂ <;> simp only [covered, List.length_append, hd, he] at h hl
    · exact ⟨rfl, PacketNumber.encode_injective h, by simp⟩
    · omega
    · omega
    · obtain ⟨hp, hn⟩ := List.append_inj h (by rw [hd, hd])
      exact ⟨rfl, PacketNumber.encode_injective hn, fun _ => hp⟩
  · rintro ⟨rfl, rfl, h⟩
    cases m₁ with
    | counter => rfl
    | payloadBound => rw [covered, covered, h rfl]

namespace Signer
variable {s : Signer} {payload : Bytes} {number : Numeral} {key : Key}

/-- The message that the tags of a signer cover. -/
def covered (s : Signer) (payload : Bytes) (n : PacketNumber) : Bytes :=
  s.policy.mode.covered payload n

theorem flatten_message (s : Signer) (payload : Bytes) (n : PacketNumber) :
    (s.message (.of payload) n).flatten = s.covered payload n := by
  unfold message covered
  cases s.policy.mode with
  | counter => simp [Mode.covered]
  | payloadBound => simp [Mode.covered, PayloadDigest.of]

theorem signature_bytes (s : Signer) (payload : Bytes) (n : PacketNumber) (key : Key) :
    (s.certify payload n key).signature.bytes =
      Mac.tag s.policy.hash.sha2 key.bytes [s.covered payload n] := by
  show Mac.tag _ _ (s.message (.of payload) n) = _
  rw [Mac.tag_eq_digest, Mac.tag_eq_digest, flatten_message, List.flatten_singleton]

theorem signature_eq_iff {a b : Signature} : a = b ↔ a.bytes = b.bytes := by
  cases a
  cases b
  simp

/-! ### Signing and verifying -/

theorem report_eq_ok_iff {r : Report} : s.report payload number key = .ok r ↔
    s.policy.checkKey key = .ok () ∧
      ∃ n, number.resolve = .ok n ∧ s.certify payload n key = r := by
  unfold report
  simp only [Except.bind_eq_ok_iff]
  constructor
  · rintro ⟨_, hk, n, hn, h⟩
    exact ⟨hk, n, hn, Except.ok.inj h⟩
  · rintro ⟨hk, n, hn, rfl⟩
    exact ⟨(), hk, n, hn, rfl⟩

theorem sign_eq_ok_iff {sig : Signature} : s.sign payload number key = .ok sig ↔
    s.policy.checkKey key = .ok () ∧
      ∃ n, number.resolve = .ok n ∧ (s.certify payload n key).signature = sig := by
  unfold sign
  simp only [Except.bind_eq_ok_iff, report_eq_ok_iff]
  constructor
  · rintro ⟨_, ⟨hk, n, hn, rfl⟩, h⟩
    exact ⟨hk, n, hn, Except.ok.inj h⟩
  · rintro ⟨hk, n, hn, rfl⟩
    exact ⟨_, ⟨hk, n, hn, rfl⟩, rfl⟩

theorem report_packet (hk : s.policy.checkKey key = .ok ()) (payload : Bytes) (n : PacketNumber) :
    s.report payload (.packet n) key = .ok (s.certify payload n key) :=
  report_eq_ok_iff.mpr ⟨hk, n, Numeral.resolve_packet n, rfl⟩

theorem sign_packet (hk : s.policy.checkKey key = .ok ()) (payload : Bytes) (n : PacketNumber) :
    s.sign payload (.packet n) key = .ok (s.certify payload n key).signature :=
  sign_eq_ok_iff.mpr ⟨hk, n, Numeral.resolve_packet n, rfl⟩

/-- Verifying accepts the signature that signing gives and takes any other for a mismatch. -/
theorem verify_of_sign {expected : Signature} (h : s.sign payload number key = .ok expected)
    (given : Signature) : s.verify payload number key given =
      if expected = given then .ok () else .error .mismatch := by
  have he : Mac.tagsEqual expected.bytes given.bytes = true ↔ expected = given := by
    rw [Mac.tagsEqual_iff, signature_eq_iff]
  unfold verify
  rw [h]
  show (if _ then _ else _) = _
  simp only [he]
  rfl

/-- What verifying accepts is what signing gives. -/
theorem verify_eq_ok_iff {given : Signature} : s.verify payload number key given = .ok () ↔
    s.sign payload number key = .ok given := by
  constructor
  · intro h
    obtain ⟨expected, hs, -⟩ := Except.bind_eq_ok_iff.mp h
    rw [verify_of_sign hs] at h
    split_ifs at h with he
    rw [hs, he]
  · intro h
    rw [verify_of_sign h, if_pos rfl]

end Signer
end PacketAuth
