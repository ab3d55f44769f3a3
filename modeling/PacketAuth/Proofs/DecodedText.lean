import PacketAuth.Proofs.ReadText

/-! # Bytes that are text

The scan leaves no gap in a byte string exactly if some text is written so, and strict reading gives
that text (`Utf8.decode?_eq_some_iff`).  One character is taken off the front at a time: without a
gap, each of its bytes is in the range that the bytes before it leave open. -/

namespace PacketAuth.Utf8

variable {b : UInt8} {bs : Bytes} {u : Unfinished}

/-! ### First bytes -/

theorem start_stray (h : 0x80 ≤ b.toNat ∧ b.toNat < 0xC2 ∨ 0xF5 ≤ b.toNat) :
    start b = .stray := by
  unfold start
  dsimp only
  rw [if_neg (by omega)]
  rcases h with h | h
  · rw [if_pos h.2]
  · rw [if_neg (by omega), if_neg (by omega), if_neg (by omega), if_neg (by omega),
      if_neg (by omega), if_neg (by omega), if_neg (by omega), if_neg (by omega)]

theorem scanFrom_stray (h : start b = .stray) (rest : Bytes) :
    scanFrom none (b :: rest) = none :: scanFrom none rest := by
  rw [scanFrom, h]

/-- Without a gap, a character that is begun goes on with a byte of the right range. -/
theorem exists_next (h : none ∉ scanFrom (some u) bs) :
    ∃ b rest, bs = b :: rest ∧ u.low ≤ b ∧ b ≤ u.high := by
  cases bs with
  | nil => exact absurd List.mem_cons_self h
  | cons b rest =>
      refine ⟨b, rest, rfl, ?_⟩
      by_contra hb
      rw [scanFrom, if_neg hb] at h
      -- whatever the byte begins, it stands behind a gap
      cases hs : start b with
      | whole c => simp [hs] at h
      | opening v => simp [hs] at h
      | stray => simp [hs] at h

/-! ### The bytes of a character of known length -/

theorem utf8EncodeChar_two {n : Nat} (h0 : 0x7F < n) (h1 : n ≤ 0x7FF) :
    String.utf8EncodeChar (Char.ofNat n) =
      [UInt8.ofNat (n / 64 % 32 + 192), UInt8.ofNat (n % 64 + 128)] := by
  have hn : (Char.ofNat n).val.toNat = n := toNat_charOfNat (Or.inl (by omega))
  unfold String.utf8EncodeChar
  rw [hn]
  dsimp only
  rw [if_neg (by omega), if_pos h1]

theorem utf8EncodeChar_three {n : Nat} (h0 : 0x7FF < n) (h1 : n ≤ 0xFFFF)
    (hv : n < 0xD800 ∨ 0xDFFF < n) : String.utf8EncodeChar (Char.ofNat n) =
      [UInt8.ofNat (n / 4096 % 16 + 224), UInt8.ofNat (n / 64 % 64 + 128),
        UInt8.ofNat (n % 64 + 128)] := by
  have hn : (Char.ofNat n).val.toNat = n :=
    toNat_charOfNat (hv.imp id fun h => ⟨h, by omega⟩)
  unfold String.utf8EncodeChar
  rw [hn]
  dsimp only
  rw [if_neg (by omega), if_neg (by omega), if_pos h1]

theorem utf8EncodeChar_four {n : Nat} (h0 : 0xFFFF < n) (h1 : n < 0x110000) :
    String.utf8EncodeChar (Char.ofNat n) =
      [UInt8.ofNat (n / 262144 % 8 + 240), UInt8.ofNat (n / 4096 % 64 + 128),
        UInt8.ofNat (n / 64 % 64 + 128), UInt8.ofNat (n % 64 + 128)] := by
  have hn : (Char.ofNat n).val.toNat = n := toNat_charOfNat (Or.inr ⟨by omega, h1⟩)
  unfold String.utf8EncodeChar
  rw [hn]
  dsimp only
  rw [if_neg (by omega), if_neg (by omega), if_neg (by omega)]

theorem ofNat_eq {n : Nat} (h : n = b.toNat) : UInt8.ofNat n = b := by
  rw [h, UInt8.ofNat_toNat]

/-- The bounds of a byte, as numbers. -/
theorem toNat_le_and_le {low high : UInt8} (h : low ≤ b ∧ b ≤ high) :
    low.toNat ≤ b.toNat ∧ b.toNat ≤ high.toNat :=
  ⟨UInt8.le_iff_toNat_le.mp h.1, UInt8.le_iff_toNat_le.mp h.2⟩

theorem toNat_ite {p : Prop} [Decidable p] (x y : UInt8) :
    (if p then x else y).toNat = if p then x.toNat else y.toNat :=
  apply_ite UInt8.toNat p x y

/-! ### One character off the front -/

theorem exists_char_of_two (h0 : 0xC2 ≤ b.toNat) (h1 : b.toNat < 0xE0)
    (h : none ∉ scanFrom none (b :: bs)) :
    ∃ c rest, b :: bs = String.utf8EncodeChar c ++ rest := by
  have hs := start_two h0 h1
  rw [UInt8.ofNat_toNat] at hs
  rw [scanFrom_opening hs] at h
  obtain ⟨b₁, rest, rfl, h₁⟩ := exists_next h
  have h₁ : 128 ≤ b₁.toNat ∧ b₁.toNat ≤ 191 := toNat_le_and_le h₁
  refine ⟨Char.ofNat ((b.toNat - 0xC0) * 64 + b₁.toNat % 64), rest, ?_⟩
  rw [utf8EncodeChar_two (by omega) (by omega), ofNat_eq (b := b) (by omega),
    ofNat_eq (b := b₁) (by omega)]
  rfl

theorem exists_char_of_three (h0 : 0xE0 ≤ b.toNat) (h1 : b.toNat < 0xF0)
    (h : none ∉ scanFrom none (b :: bs)) :
    ∃ c rest, b :: bs = String.utf8EncodeChar c ++ rest := by
  have hs := start_three h0 h1
  rw [UInt8.ofNat_toNat] at hs
  rw [scanFrom_opening hs] at h
  obtain ⟨b₁, bs, rfl, h₁⟩ := exists_next h
  rw [scanFrom_more (by decide) h₁] at h
  obtain ⟨b₂, rest, rfl, h₂⟩ := exists_next h
  have h₂ : 128 ≤ b₂.toNat ∧ b₂.toNat ≤ 191 := toNat_le_and_le h₂
  have h₁ := toNat_le_and_le h₁
  simp only [toNat_ite] at h₁
  have h₁ : (if b.toNat = 224 then 160 else 128) ≤ b₁.toNat ∧
      b₁.toNat ≤ if b.toNat = 237 then 159 else 191 := h₁
  refine ⟨Char.ofNat (((b.toNat - 0xE0) * 64 + b₁.toNat % 64) * 64 + b₂.toNat % 64), rest, ?_⟩
  have hb : 128 ≤ b₁.toNat ∧ b₁.toNat ≤ 191 ∧ (b.toNat = 224 → 160 ≤ b₁.toNat) ∧
      (b.toNat = 237 → b₁.toNat ≤ 159) := by
    split_ifs at h₁ <;> omega
  rw [utf8EncodeChar_three (by omega) (by omega) (by omega), ofNat_eq (b := b) (by omega),
    ofNat_eq (b := b₁) (by omega), ofNat_eq (b := b₂) (by omega)]
  rfl

theorem exists_char_of_four (h0 : 0xF0 ≤ b.toNat) (h1 : b.toNat < 0xF5)
    (h : none ∉ scanFrom none (b :: bs)) :
    ∃ c rest, b :: bs = String.utf8EncodeChar c ++ rest := by
  have hs := start_four h0 h1
  rw [UInt8.ofNat_toNat] at hs
  rw [scanFrom_opening hs] at h
  obtain ⟨b₁, bs, rfl, h₁⟩ := exists_next h
  rw [scanFrom_more (by decide) h₁] at h
  obtain ⟨b₂, bs, rfl, h₂⟩ := exists_next h
  rw [scanFrom_more (by decide) h₂] at h
  obtain ⟨b₃, rest, rfl, h₃⟩ := exists_next h
  have h₃ : 128 ≤ b₃.toNat ∧ b₃.toNat ≤ 191 := toNat_le_and_le h₃
  have h₂ : 128 ≤ b₂.toNat ∧ b₂.toNat ≤ 191 := toNat_le_and_le h₂
  have h₁ := toNat_le_and_le h₁
  simp only [toNat_ite] at h₁
  have h₁ : (if b.toNat = 240 then 144 else 128) ≤ b₁.toNat ∧
      b₁.toNat ≤ if b.toNat = 244 then 143 else 191 := h₁
  refine ⟨Char.ofNat ((((b.toNat - 0xF0) * 64 + b₁.toNat % 64) * 64 + b₂.toNat % 64) * 64 +
    b₃.toNat % 64), rest, ?_⟩
  have hb : 128 ≤ b₁.toNat ∧ b₁.toNat ≤ 191 ∧ (b.toNat = 240 → 144 ≤ b₁.toNat) ∧
      (b.toNat = 244 → b₁.toNat ≤ 143) := by
    split_ifs at h₁ <;> omega
  rw [utf8EncodeChar_four (by omega) (by omega), ofNat_eq (b := b) (by omega),
    ofNat_eq (b := b₁) (by omega), ofNat_eq (b := b₂) (by omega), ofNat_eq (b := b₃) (by omega)]
  rfl

/-- Bytes without a gap begin with the bytes of a character. -/
theorem exists_char (h : none ∉ scanFrom none (b :: bs)) :
    ∃ c rest, b :: bs = String.utf8EncodeChar c ++ rest := by
  have hstray : start b ≠ .stray := by
    intro hs
    rw [scanFrom_stray hs] at h
    exact h List.mem_cons_self
  by_cases h1 : b.toNat < 0x80
  · refine ⟨Char.ofNat b.toNat, bs, ?_⟩
    rw [utf8EncodeChar_ofNat h1, UInt8.ofNat_toNat]
    rfl
  by_cases h2 : b.toNat < 0xC2
  · exact absurd (start_stray (Or.inl ⟨by omega, h2⟩)) hstray
  by_cases h3 : b.toNat < 0xE0
  · exact exists_char_of_two (by omega) h3 h
  by_cases h4 : b.toNat < 0xF0
  · exact exists_char_of_three (by omega) h4 h
  by_cases h5 : b.toNat < 0xF5
  · exact exists_char_of_four (by omega) h5 h
  · exact absurd (start_stray (Or.inr (by omega))) hstray

/-! ### Whole byte strings -/

theorem utf8EncodeChar_ne_nil (c : Char) : String.utf8EncodeChar c ≠ [] := by
  rcases utf8EncodeChar_cases c with ⟨-, h⟩ | ⟨-, h, -⟩
  · simp [h]
  · exact h

/-- Bytes without a gap are those of a list of characters. -/
theorem exists_chars (bs : Bytes) (h : none ∉ scan bs) :
    ∃ cs : List Char, cs.flatMap String.utf8EncodeChar = bs := by
  induction hn : bs.length using Nat.strongRecOn generalizing bs with
  | _ n ih =>
      cases bs with
      | nil => exact ⟨[], rfl⟩
      | cons b bs =>
          obtain ⟨c, rest, he⟩ := exists_char h
          have hlen : rest.length < n := by
            have hpos := List.length_pos_iff.mpr (utf8EncodeChar_ne_nil c)
            rw [← hn, he, List.length_append]
            omega
          have hrest : none ∉ scan rest := by
            unfold scan at h
            rw [he, scanFrom_utf8EncodeChar] at h
            exact fun hm => h (List.mem_cons_of_mem _ hm)
          obtain ⟨cs, rfl⟩ := ih _ hlen rest hrest rfl
          exact ⟨c :: cs, he.symm⟩

theorem mapM_id_eq_some_iff {xs : List (Option Char)} {cs : List Char} :
    xs.mapM id = some cs ↔ xs = cs.map some := by
  induction xs generalizing cs with
  | nil => cases cs <;> simp
  | cons x xs ih =>
      rw [List.mapM_cons]
      constructor
      · intro h
        obtain ⟨c, hc, h⟩ := Option.bind_eq_some_iff.mp h
        obtain ⟨ds, hds, h⟩ := Option.bind_eq_some_iff.mp h
        obtain rfl := Option.some.inj h
        rw [show x = some c from hc, ih.mp hds]
        rfl
      · intro h
        cases cs with
        | nil => cases h
        | cons d cs =>
            obtain ⟨rfl, hxs⟩ := List.cons.inj h
            rw [ih.mpr hxs]
            rfl

/-- **Strict reading gives the one text that is written so.** -/
theorem decode?_eq_some_iff {s : String} : decode? bs = some s ↔ encode s = bs := by
  constructor
  · intro h
    obtain ⟨cs, hcs, rfl⟩ := Option.map_eq_some_iff.mp h
    have hscan := mapM_id_eq_some_iff.mp hcs
    have hnone : none ∉ scan bs := by
      rw [hscan]
      simp
    obtain ⟨ds, rfl⟩ := exists_chars bs hnone
    rw [scan_flatMap] at hscan
    unfold encode
    rw [String.toList_ofList, (List.map_inj_right fun _ _ => Option.some.inj).mp hscan]
  · rintro rfl
    unfold decode?
    rw [scan_encode, mapM_id_eq_some_iff.mpr rfl, Option.map_some, String.ofList_toList]

/-- Strict reading fails on the bytes that no text is written as. -/
theorem decode?_eq_none_iff : decode? bs = none ↔ ∀ s, encode s ≠ bs := by
  simp only [Option.eq_none_iff_forall_ne_some, Ne, decode?_eq_some_iff]

end PacketAuth.Utf8
