import Mathlib.Data.List.Basic
import PacketAuth.Mac

/-! # Tags as nested hash values

The tag of a message is the hash of the outer block and of the hash of the inner block and the
message (`tag_eq_digest`), however the message is cut into parts.  Both blocks come from one key
block, so keys with one key block are one key (`tag_congr`).  Two equal tags that ought to differ
are a collision of the hash function at inputs that can be named: for one key at the inner or the
outer input (`collides_of_tag_eq`), for two key blocks at the outer one (`collision_of_keys`). -/

namespace PacketAuth

/-- Two different messages with one hash value. -/
def Sha2.Collision (f : Sha2) (a b : Bytes) : Prop := a ≠ b ∧ f.digest a = f.digest b

namespace Mac
variable {f : Sha2}

/-! ### The construction -/

/-- What the inner hash value is taken of. -/
def innerInput (f : Sha2) (key message : Bytes) : Bytes :=
  mask innerPad (keyBlock f key) ++ message

/-- What the tag is the hash value of. -/
def outerInput (f : Sha2) (key message : Bytes) : Bytes :=
  mask outerPad (keyBlock f key) ++ f.digest (innerInput f key message)

theorem foldl_update (parts : List Bytes) : ∀ m : Mac f,
    parts.foldl update m = { m with inner := m.inner.absorb parts.flatten } := by
  induction parts with
  | nil => intro m; rfl
  | cons part parts ih =>
      intro m
      rw [List.foldl_cons, ih, List.flatten_cons]
      simp only [update, Hasher.absorb_append]

theorem tag_eq_digest (f : Sha2) (key : Bytes) (parts : List Bytes) :
    tag f key parts = f.digest (outerInput f key parts.flatten) := by
  unfold tag outerInput innerInput Sha2.digest
  rw [foldl_update, Hasher.absorb_append, Hasher.absorb_append]
  rfl

/-! ### Key blocks -/

theorem length_keyBlock (f : Sha2) (key : Bytes) : (keyBlock f key).length = f.blockBytes := by
  have hd := f.digestBytes_le
  simp only [keyBlock, List.length_append, List.length_replicate]
  split_ifs with h
  · omega
  · rw [Sha2.length_digest]
    unfold Sha2.blockBytes at *
    omega

theorem length_mask (pad : UInt8) (block : Bytes) : (mask pad block).length = block.length := by
  simp [mask]

theorem mask_injective (pad : UInt8) : Function.Injective (mask pad) :=
  List.map_injective_iff.mpr (fun _ _ h => (UInt8.xor_left_inj pad).mp h)

/-- Zeros that still fit in the block make no difference to a key. -/
theorem keyBlock_append_zeros {key : Bytes} {n : Nat} (h : key.length + n ≤ f.blockBytes) :
    keyBlock f (key ++ List.replicate n 0) = keyBlock f key := by
  have hk : key.length ≤ f.blockBytes := by omega
  simp only [keyBlock, List.length_append, List.length_replicate, if_pos h, if_pos hk]
  rw [List.append_assoc, List.replicate_append_replicate]
  congr 2
  omega

/-- A key longer than a block is one key with its hash value. -/
theorem keyBlock_digest {key : Bytes} (h : f.blockBytes < key.length) :
    keyBlock f (f.digest key) = keyBlock f key := by
  have hd := f.digestBytes_le
  have hs : (f.digest key).length ≤ f.blockBytes := by
    rw [Sha2.length_digest]
    unfold Sha2.blockBytes
    omega
  have hl : ¬ key.length ≤ f.blockBytes := by omega
  simp only [keyBlock, if_pos hs, if_neg hl]

/-- Keys of one length that fit in a block are told apart. -/
theorem keyBlock_inj {k₁ k₂ : Bytes} (hl : k₁.length = k₂.length) (h : k₁.length ≤ f.blockBytes) :
    keyBlock f k₁ = keyBlock f k₂ ↔ k₁ = k₂ := by
  constructor
  · intro he
    simp only [keyBlock, if_pos h, if_pos (hl ▸ h)] at he
    exact (List.append_inj he hl).1
  · rintro rfl
    rfl

theorem tag_congr {k₁ k₂ : Bytes} (h : keyBlock f k₁ = keyBlock f k₂) (parts : List Bytes) :
    tag f k₁ parts = tag f k₂ parts := by
  simp only [tag_eq_digest, outerInput, innerInput, h]

/-! ### Collisions -/

/-- For one key, two messages make the hash function collide at the inner or at the outer input. -/
def Collides (f : Sha2) (key m₁ m₂ : Bytes) : Prop :=
  f.Collision (innerInput f key m₁) (innerInput f key m₂) ∨
    f.Collision (outerInput f key m₁) (outerInput f key m₂)

theorem innerInput_injective (f : Sha2) (key : Bytes) : Function.Injective (innerInput f key) :=
  fun _ _ h => List.append_cancel_left h

theorem collides_of_tag_eq {key m₁ m₂ : Bytes} (hm : m₁ ≠ m₂)
    (h : tag f key [m₁] = tag f key [m₂]) : Collides f key m₁ m₂ := by
  rw [tag_eq_digest, tag_eq_digest, List.flatten_singleton, List.flatten_singleton] at h
  -- equal inner values collide; otherwise the outer inputs differ
  by_cases hi : f.digest (innerInput f key m₁) = f.digest (innerInput f key m₂)
  · exact Or.inl ⟨fun he => hm (innerInput_injective f key he), hi⟩
  · exact Or.inr ⟨fun he => hi (List.append_cancel_left he), h⟩

theorem outerInput_ne {k₁ k₂ : Bytes} (hk : keyBlock f k₁ ≠ keyBlock f k₂) (m₁ m₂ : Bytes) :
    outerInput f k₁ m₁ ≠ outerInput f k₂ m₂ := by
  intro h
  have hl : (mask outerPad (keyBlock f k₁)).length = (mask outerPad (keyBlock f k₂)).length := by
    rw [length_mask, length_mask, length_keyBlock, length_keyBlock]
  exact hk (mask_injective outerPad (List.append_inj h hl).1)

theorem collision_of_keys {k₁ k₂ m : Bytes} (hk : keyBlock f k₁ ≠ keyBlock f k₂)
    (h : tag f k₁ [m] = tag f k₂ [m]) : f.Collision (outerInput f k₁ m) (outerInput f k₂ m) := by
  rw [tag_eq_digest, tag_eq_digest, List.flatten_singleton] at h
  exact ⟨outerInput_ne hk m m, h⟩

/-! ### Comparing tags -/

theorem foldl_or_eq_zero_iff (bs : Bytes) : ∀ a : UInt8,
    bs.foldl (· ||| ·) a = 0 ↔ a = 0 ∧ ∀ b ∈ bs, b = 0 := by
  induction bs with
  | nil => simp
  | cons b bs ih =>
      intro a
      rw [List.foldl_cons, ih, UInt8.or_eq_zero_iff]
      simp [and_assoc]

theorem zipWith_xor_eq_zero_iff : ∀ {a b : Bytes}, a.length = b.length →
    ((∀ x ∈ List.zipWith (· ^^^ ·) a b, x = 0) ↔ a = b)
  | [], [], _ => by simp
  | x :: a, y :: b, h => by
      have ih := zipWith_xor_eq_zero_iff (a := a) (b := b) (by simpa using h)
      simp only [List.zipWith_cons_cons, List.mem_cons, forall_eq_or_imp, ih, List.cons.injEq,
        UInt8.xor_eq_zero_iff]

/-- The comparison that does not stop early decides equality. -/
theorem tagsEqual_iff (expected given : Bytes) :
    tagsEqual expected given = true ↔ expected = given := by
  unfold tagsEqual
  simp only [Bool.and_eq_true, beq_iff_eq]
  constructor
  · rintro ⟨hl, h⟩
    exact (zipWith_xor_eq_zero_iff hl).mp ((foldl_or_eq_zero_iff _ 0).mp h).2
  · rintro rfl
    exact ⟨rfl, (foldl_or_eq_zero_iff _ 0).mpr ⟨rfl, (zipWith_xor_eq_zero_iff rfl).mpr rfl⟩⟩

end Mac
end PacketAuth
