import PacketAuth.Proofs.SignerLaws

/-! # What an accepted signature binds

A signature that is given in one place and accepted in another.  If it was given for another
message, or under a key with another block, its acceptance exhibits a collision of the hash function
at inputs that the statement writes out: `verify_sign_binding` is about two signers, payloads and
numbers and one key, `keyBlock_decides_signature` about one signer and two keys. -/

namespace PacketAuth

namespace Hash

/-- The bytes in a block of the hash function. -/
def blockBytes : Hash → Nat
  | sha256 => 64
  | sha384 => 128
  | sha512 => 128

/-- A key as one block: zeros fill up, and a key longer than a block is hashed first. -/
def keyBlock (h : Hash) (key : Bytes) : Bytes :=
  if key.length ≤ h.blockBytes then key ++ List.replicate (h.blockBytes - key.length) 0
  else h.sha2.digest key ++ List.replicate (h.blockBytes - h.tagBytes) 0

theorem sha2_blockBytes (h : Hash) : h.sha2.blockBytes = h.blockBytes := by
  cases h <;> rfl

theorem tagBytes_injective : Function.Injective tagBytes := by
  intro g h e
  cases g <;> cases h <;> first | rfl | cases e

theorem mac_keyBlock (h : Hash) (key : Bytes) : Mac.keyBlock h.sha2 key = h.keyBlock key := by
  simp only [Mac.keyBlock, keyBlock, sha2_blockBytes]
  split_ifs with hk
  · rfl
  · rw [Sha2.length_digest, sha2_digestBytes]

theorem keyBlock_append_zeros {h : Hash} {k : Bytes} {j : Nat} (hj : k.length + j ≤ h.blockBytes) :
    h.keyBlock (k ++ List.replicate j 0) = h.keyBlock k := by
  rw [← mac_keyBlock, ← mac_keyBlock]
  exact Mac.keyBlock_append_zeros (by rwa [sha2_blockBytes])

theorem keyBlock_digest {h : Hash} {k : Bytes} (hk : h.blockBytes < k.length) :
    h.keyBlock (h.sha2.digest k) = h.keyBlock k := by
  rw [← mac_keyBlock, ← mac_keyBlock]
  exact Mac.keyBlock_digest (by rwa [sha2_blockBytes])

theorem keyBlock_inj {h : Hash} {k₁ k₂ : Bytes} (hl : k₁.length = k₂.length)
    (hb : k₁.length ≤ h.blockBytes) : h.keyBlock k₁ = h.keyBlock k₂ ↔ k₁ = k₂ := by
  rw [← mac_keyBlock, ← mac_keyBlock]
  exact Mac.keyBlock_inj hl (by rwa [sha2_blockBytes])

end Hash

namespace Signer
variable {s s₁ s₂ : Signer} {key k₁ k₂ : Key}

/-! ### Two packets, one key -/

theorem signature_ne_of_hash_ne (h : s₁.policy.hash ≠ s₂.policy.hash) (p₁ p₂ : Bytes)
    (n₁ n₂ : PacketNumber) :
    (s₁.certify p₁ n₁ key).signature ≠ (s₂.certify p₂ n₂ key).signature := by
  rw [Ne, signature_eq_iff, signature_bytes, signature_bytes]
  intro he
  have hl := congrArg List.length he
  rw [Mac.length_tag, Mac.length_tag, Hash.sha2_digestBytes, Hash.sha2_digestBytes] at hl
  exact h (Hash.tagBytes_injective hl)

/-- Between signers of one hash, signatures agree exactly if the tags of their messages do. -/
theorem signature_eq_iff_tag_eq (h : s₁.policy.hash = s₂.policy.hash) (key : Key) (p₁ p₂ : Bytes)
    (n₁ n₂ : PacketNumber) :
    (s₂.certify p₂ n₂ key).signature = (s₁.certify p₁ n₁ key).signature ↔
      Mac.tag s₁.policy.hash.sha2 key.bytes [s₁.covered p₁ n₁] =
        Mac.tag s₁.policy.hash.sha2 key.bytes [s₂.covered p₂ n₂] := by
  rw [signature_eq_iff, signature_bytes, signature_bytes, h, eq_comm]

/-- **What a signature binds.**  Signers of different hashes accept nothing from each other.
Signers of one hash accept a signature for the message that it was given for, which determines mode,
number and whatever the mode covers of the payload; for another message it is a mismatch, or else
two inputs of the hash function collide. -/
theorem verify_sign_binding (s₁ s₂ : Signer) (key : Key) (h₁ : s₁.policy.checkKey key = .ok ())
    (h₂ : s₂.policy.checkKey key = .ok ()) (p₁ p₂ : Bytes) (n₁ n₂ : PacketNumber) :
    ∃ sig, s₁.sign p₁ (.packet n₁) key = .ok sig ∧
      (s₁.policy.hash ≠ s₂.policy.hash →
        s₂.verify p₂ (.packet n₂) key sig = .error .mismatch) ∧
      (s₁.policy.hash = s₂.policy.hash →
        (s₁.covered p₁ n₁ = s₂.covered p₂ n₂ ↔ s₁.policy.mode = s₂.policy.mode ∧ n₁ = n₂ ∧
          (s₁.policy.mode = .payloadBound →
            Sha2.sha256.digest p₁ = Sha2.sha256.digest p₂)) ∧
        (s₁.covered p₁ n₁ = s₂.covered p₂ n₂ →
          s₂.verify p₂ (.packet n₂) key sig = .ok ()) ∧
        (s₁.covered p₁ n₁ ≠ s₂.covered p₂ n₂ →
          s₂.verify p₂ (.packet n₂) key sig = .error .mismatch ∨
          s₂.verify p₂ (.packet n₂) key sig = .ok () ∧
            Mac.Collides s₁.policy.hash.sha2 key.bytes (s₁.covered p₁ n₁) (s₂.covered p₂ n₂))) := by
  have hv := verify_of_sign (sign_packet h₂ p₂ n₂) (s₁.certify p₁ n₁ key).signature
  refine ⟨_, sign_packet h₁ p₁ n₁, ?_, ?_⟩
  · intro hh
    rw [hv, if_neg (signature_ne_of_hash_ne hh p₁ p₂ n₁ n₂).symm]
  · intro hh
    have he := signature_eq_iff_tag_eq hh key p₁ p₂ n₁ n₂
    refine ⟨Mode.covered_eq_iff, ?_, ?_⟩
    · intro hm
      rw [hv, if_pos (he.mpr (by rw [hm]))]
    · intro hm
      by_cases hs : (s₂.certify p₂ n₂ key).signature = (s₁.certify p₁ n₁ key).signature
      · right
        exact ⟨by rw [hv, if_pos hs], Mac.collides_of_tag_eq hm (he.mp hs)⟩
      · left
        rw [hv, if_neg hs]

/-- A packet signed in counter mode under SHA-256 is refused under SHA-384. -/
theorem verify_sign_binding_across_hashes :
    Signer.standard.policy.checkKey ⟨List.replicate 16 0⟩ = .ok () ∧
      ∃ sig, Signer.standard.sign [104, 105] (.packet ⟨7⟩) ⟨List.replicate 16 0⟩ = .ok sig ∧
        (Signer.mk { hash := .sha384 } (by decide)).verify [104, 105] (.packet ⟨7⟩)
          ⟨List.replicate 16 0⟩ sig = .error .mismatch := by
  obtain ⟨sig, hs, hne, -⟩ := verify_sign_binding .standard ⟨{ hash := .sha384 }, by decide⟩
    ⟨List.replicate 16 0⟩ (by decide) (by decide) [104, 105] [104, 105] ⟨7⟩ ⟨7⟩
  exact ⟨by decide, sig, hs, hne (by decide)⟩

/-! ### One packet, two keys -/

/-- The outer inputs of a packet under two keys collide. -/
def KeysCollide (s : Signer) (payload : Bytes) (number : Numeral) (k₁ k₂ : Key) : Prop :=
  ∃ n, number.resolve = .ok n ∧ s.policy.hash.sha2.Collision
    (Mac.outerInput s.policy.hash.sha2 k₁.bytes (s.covered payload n))
    (Mac.outerInput s.policy.hash.sha2 k₂.bytes (s.covered payload n))

theorem certify_congr (h : s.policy.hash.keyBlock k₁.bytes = s.policy.hash.keyBlock k₂.bytes)
    (payload : Bytes) (n : PacketNumber) : s.certify payload n k₁ = s.certify payload n k₂ := by
  rw [← Hash.mac_keyBlock, ← Hash.mac_keyBlock] at h
  simp only [certify, Mac.tag_congr h]

theorem sign_congr (h₁ : s.policy.checkKey k₁ = .ok ()) (h₂ : s.policy.checkKey k₂ = .ok ())
    (h : s.policy.hash.keyBlock k₁.bytes = s.policy.hash.keyBlock k₂.bytes) (payload : Bytes)
    (number : Numeral) : s.sign payload number k₁ = s.sign payload number k₂ := by
  unfold sign report
  rw [h₁, h₂]
  simp only [certify_congr h]

/-- Two keys with different blocks that share a signature make the outer inputs collide. -/
theorem keysCollide_of_sign_eq
    (h : s.policy.hash.keyBlock k₁.bytes ≠ s.policy.hash.keyBlock k₂.bytes) {payload : Bytes}
    {number : Numeral} {sig : Signature} (h₁ : s.sign payload number k₁ = .ok sig)
    (h₂ : s.sign payload number k₂ = .ok sig) : s.KeysCollide payload number k₁ k₂ := by
  obtain ⟨-, n, hn, e₁⟩ := sign_eq_ok_iff.mp h₁
  obtain ⟨-, n', hn', e₂⟩ := sign_eq_ok_iff.mp h₂
  rw [hn] at hn'
  cases hn'
  have ht := signature_eq_iff.mp (e₁.trans e₂.symm)
  rw [signature_bytes, signature_bytes] at ht
  rw [← Hash.mac_keyBlock, ← Hash.mac_keyBlock] at h
  exact ⟨n, hn, Mac.collision_of_keys h ht⟩

/-- **Which keys are interchangeable.**  Keys of one block give the same signatures: so do a key and
the same key filled up with zeros, and a key longer than a block and its hash value.  Keys of
different blocks, such as two keys of one length that fit in a block, share a signature only if the
outer inputs collide. -/
theorem keyBlock_decides_signature (s : Signer) (k₁ k₂ : Key)
    (h₁ : s.policy.checkKey k₁ = .ok ()) (h₂ : s.policy.checkKey k₂ = .ok ()) :
    (∀ payload n, ∃ sig, s.sign payload (.packet n) k₁ = .ok sig) ∧
    (s.policy.hash.keyBlock k₁.bytes = s.policy.hash.keyBlock k₂.bytes →
      ∀ payload number, s.sign payload number k₁ = s.sign payload number k₂) ∧
    (s.policy.hash.keyBlock k₁.bytes ≠ s.policy.hash.keyBlock k₂.bytes →
      ∀ payload number sig, s.sign payload number k₁ = .ok sig →
        s.verify payload number k₂ sig = .ok () → s.KeysCollide payload number k₁ k₂) ∧
    (∀ j, k₂.bytes = k₁.bytes ++ List.replicate j 0 →
      k₂.bytes.length ≤ s.policy.hash.blockBytes →
        s.policy.hash.keyBlock k₁.bytes = s.policy.hash.keyBlock k₂.bytes) ∧
    (s.policy.hash.blockBytes < k₁.bytes.length →
      k₂.bytes = s.policy.hash.sha2.digest k₁.bytes →
        s.policy.hash.keyBlock k₁.bytes = s.policy.hash.keyBlock k₂.bytes) ∧
    (k₁ ≠ k₂ → k₁.bytes.length = k₂.bytes.length →
      k₁.bytes.length ≤ s.policy.hash.blockBytes →
        ∀ payload number sig, s.sign payload number k₁ = .ok sig →
          s.sign payload number k₂ = .ok sig → s.KeysCollide payload number k₁ k₂) := by
  refine ⟨?_, ?_, ?_, ?_, ?_, ?_⟩
  · exact fun payload n => ⟨_, sign_packet h₁ payload n⟩
  · exact fun h payload number => sign_congr h₁ h₂ h payload number
  · intro h payload number sig hs hv
    exact keysCollide_of_sign_eq h hs (verify_eq_ok_iff.mp hv)
  · intro j hj hl
    rw [hj] at hl ⊢
    exact (Hash.keyBlock_append_zeros (by simpa using hl)).symm
  · intro hl hd
    rw [hd, Hash.keyBlock_digest hl]
  · intro hne hl hb payload number sig hs hs'
    refine keysCollide_of_sign_eq (fun he => hne ?_) hs hs'
    cases k₁
    cases k₂
    exact congrArg Key.mk ((Hash.keyBlock_inj hl hb).mp he)

/-- Sixteen and sixty-four zeros are one key under SHA-256. -/
theorem keyBlock_decides_signature_zeros :
    Signer.standard.policy.checkKey ⟨List.replicate 16 0⟩ = .ok () ∧
      Signer.standard.policy.checkKey ⟨List.replicate 64 0⟩ = .ok () ∧
      ∀ payload number, Signer.standard.sign payload number ⟨List.replicate 16 0⟩ =
        Signer.standard.sign payload number ⟨List.replicate 64 0⟩ := by
  obtain ⟨-, heq, -, hz, -⟩ := keyBlock_decides_signature .standard
    ⟨List.replicate 16 0⟩ ⟨List.replicate 64 0⟩ (by decide) (by decide)
  exact ⟨by decide, by decide, heq (hz 48 (by decide) (by decide))⟩

end Signer
end PacketAuth
