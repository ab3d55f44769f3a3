import PacketAuth.Proofs.Answers

/-! # Tags of messages in parts

A message may be handed over in parts, any number of them and some of them empty.  Where it is cut
leaves no trace: the tag is the HMAC value of the whole message under the one block that the key
stands for (`Hash.tag_of_parts`).  That block is said by what stands in it (`Hash.IsKeyBlock`), and
a key of any length has exactly one (`Hash.isKeyBlock_iff`). -/

namespace PacketAuth

namespace Hash
variable {h : Hash} {key block : Bytes}

/-! ### The block of a key -/

/-- A block with the key in front, or the hash value of a key that is longer than a block, and zeros
behind. -/
structure IsKeyBlock (h : Hash) (key block : Bytes) : Prop where
  length : block.length = h.blockBytes
  short : key.length ≤ h.blockBytes → ∃ n, block = key ++ List.replicate n 0
  long : h.blockBytes < key.length → ∃ n, block = h.sha2.digest key ++ List.replicate n 0

theorem tagBytes_le_blockBytes (h : Hash) : h.tagBytes ≤ h.blockBytes := by
  cases h <;> decide

theorem isKeyBlock_keyBlock (h : Hash) (key : Bytes) : h.IsKeyBlock key (h.keyBlock key) where
  length := by
    have ht := h.tagBytes_le_blockBytes
    unfold keyBlock
    split_ifs with hk
    · rw [List.length_append, List.length_replicate]
      omega
    · rw [List.length_append, List.length_replicate, Sha2.length_digest, sha2_digestBytes]
      omega
  short := by
    intro hk
    exact ⟨_, if_pos hk⟩
  long := by
    intro hk
    exact ⟨_, if_neg (Nat.not_le.mpr hk)⟩

/-- The length of a block leaves one way to fill it up. -/
theorem eq_of_append_zeros {front a b : Bytes} {m n : Nat} (hl : a.length = b.length)
    (ha : a = front ++ List.replicate m 0) (hb : b = front ++ List.replicate n 0) : a = b := by
  subst ha hb
  simp only [List.length_append, List.length_replicate] at hl
  rw [show m = n by omega]

theorem isKeyBlock_iff : h.IsKeyBlock key block ↔ block = h.keyBlock key := by
  constructor
  · intro hb
    have hk := h.isKeyBlock_keyBlock key
    have hl : block.length = (h.keyBlock key).length := hb.length.trans hk.length.symm
    rcases Nat.lt_or_ge h.blockBytes key.length with hlong | hshort
    · obtain ⟨m, hm⟩ := hb.long hlong
      obtain ⟨n, hn⟩ := hk.long hlong
      exact eq_of_append_zeros hl hm hn
    · obtain ⟨m, hm⟩ := hb.short hshort
      obtain ⟨n, hn⟩ := hk.short hshort
      exact eq_of_append_zeros hl hm hn
  · rintro rfl
    exact h.isKeyBlock_keyBlock key

end Hash

/-! ### The tag -/

/-- Nothing fails on the way from a sound key and number to the tag. -/
theorem Signer.sign_ne_internal (s : Signer) (payload : Bytes) (number : Numeral) (key : Key)
    (detail : String) : s.sign payload number key ≠ .error (.internal detail) := by
  intro hs
  rcases report_cases s payload number key with ⟨-, hr⟩ | ⟨-, -, d, hr⟩ | ⟨-, -, n, -, hr⟩
  · rw [(refuses_iff_report.mpr hr).2.1] at hs
    cases hs
  · rw [(refuses_iff_report.mpr hr).2.1] at hs
    cases hs
  · rw [sign_of_report hr] at hs
    cases hs

namespace Hash

/-- **A tag is the HMAC value of the parts joined together.**  There is one for keys of all lengths
and for every list of parts, it has the length that the hash function states, lists that join to the
same message have the same, and no signer fails for want of it. -/
theorem tag_of_parts (h : Hash) (key : Bytes) :
    (∃ block, h.IsKeyBlock key block) ∧
    (∀ block, h.IsKeyBlock key block → ∀ parts, Mac.tag h.sha2 key parts =
      h.sha2.digest (block.map (· ^^^ 0x5C) ++
        h.sha2.digest (block.map (· ^^^ 0x36) ++ parts.flatten))) ∧
    (∀ parts, (Mac.tag h.sha2 key parts).length = h.tagBytes) ∧
    (∀ parts others : List Bytes, parts.flatten = others.flatten →
      Mac.tag h.sha2 key parts = Mac.tag h.sha2 key others) ∧
    (∀ (s : Signer) (payload : Bytes) (number : Numeral) (detail : String),
      s.sign payload number ⟨key⟩ ≠ .error (.internal detail)) := by
  refine ⟨⟨_, h.isKeyBlock_keyBlock key⟩, ?_, ?_, ?_, ?_⟩
  · intro block hb parts
    obtain rfl := isKeyBlock_iff.mp hb
    exact h.tag_eq_hmac key parts
  · intro parts
    rw [h.tag_eq_hmac, h.length_hmac]
  · intro parts others hp
    rw [h.tag_eq_hmac, h.tag_eq_hmac, hp]
  · intro s payload number detail
    exact s.sign_ne_internal payload number ⟨key⟩ detail

/-- A key of 65 bytes is one too long for SHA-256, so its hash value takes its place, under no
message at all as well.  A message of three bytes is cut after the second or not at all, with an
empty part or without. -/
theorem tag_of_parts_long : sha256.IsKeyBlock (List.replicate 65 7)
      (sha256.sha2.digest (List.replicate 65 7) ++ List.replicate 32 0) ∧
    Mac.tag sha256.sha2 (List.replicate 65 7) [] = sha256.sha2.digest
      ((sha256.sha2.digest (List.replicate 65 7) ++ List.replicate 32 0).map (· ^^^ 0x5C) ++
        sha256.sha2.digest
          ((sha256.sha2.digest (List.replicate 65 7) ++ List.replicate 32 0).map (· ^^^ 0x36))) ∧
    Mac.tag sha256.sha2 (List.replicate 65 7) [[104, 101], [], [98]] =
      Mac.tag sha256.sha2 (List.replicate 65 7) [[104, 101, 98]] := by
  have hb : sha256.IsKeyBlock (List.replicate 65 7)
      (sha256.sha2.digest (List.replicate 65 7) ++ List.replicate 32 0) := by
    refine ⟨?_, ?_, fun _ => ⟨32, rfl⟩⟩
    · rw [List.length_append, Sha2.length_digest, List.length_replicate]
      rfl
    · intro hk
      exact absurd hk (by decide)
  obtain ⟨-, htag, -, hcut, -⟩ := tag_of_parts sha256 (List.replicate 65 7)
  have hempty := htag _ hb []
  rw [List.flatten_nil, List.append_nil] at hempty
  exact ⟨hb, hempty, hcut _ _ rfl⟩

end Hash
end PacketAuth
