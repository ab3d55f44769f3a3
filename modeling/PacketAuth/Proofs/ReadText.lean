import PacketAuth.Proofs.WrittenText

/-! # Text read back

What UTF-8 writes is read as the same text: the scan finds each character whole and no gap
(`Utf8.scan_encode`), so that lossy reading loses nothing of it (`Utf8.decodeLossy_encode`).  The
bytes of a character are its own number if that is below 128, and otherwise all lie above
(`Utf8.utf8EncodeChar_cases`): a line feed or a carriage return among the bytes is one in the
text. -/

namespace PacketAuth.Utf8

/-! ### One character -/

variable {missing bits : Nat} {low high b : UInt8}

/-- The last byte of a character. -/
theorem scanFrom_last (hm : missing ≤ 1) (h : low ≤ b ∧ b ≤ high) (rest : Bytes) :
    scanFrom (some ⟨missing, low, high, bits⟩) (b :: rest) =
      some (Char.ofNat (bits * 64 + b.toNat % 64)) :: scanFrom none rest := by
  rw [scanFrom, if_pos h, if_pos hm]

/-- A byte of a character with more to come. -/
theorem scanFrom_more (hm : 1 < missing) (h : low ≤ b ∧ b ≤ high) (rest : Bytes) :
    scanFrom (some ⟨missing, low, high, bits⟩) (b :: rest) =
      scanFrom (some ⟨missing - 1, 0x80, 0xBF, bits * 64 + b.toNat % 64⟩) rest := by
  rw [scanFrom, if_pos h, if_neg (Nat.not_le.mpr hm)]

theorem scanFrom_opening {u : Unfinished} (h : start b = .opening u) (rest : Bytes) :
    scanFrom none (b :: rest) = scanFrom (some u) rest := by
  rw [scanFrom, h]

theorem toNat_ofNat {n : Nat} (h : n < 256) : (UInt8.ofNat n).toNat = n :=
  UInt8.toNat_ofNat_of_lt' h

theorem le_ofNat {a : UInt8} {n : Nat} (h : n < 256) : a ≤ UInt8.ofNat n ↔ a.toNat ≤ n := by
  rw [UInt8.le_iff_toNat_le, toNat_ofNat h]

theorem ofNat_le {a : UInt8} {n : Nat} (h : n < 256) : UInt8.ofNat n ≤ a ↔ n ≤ a.toNat := by
  rw [UInt8.le_iff_toNat_le, toNat_ofNat h]

/-- A byte that goes on with a character holds six of its bits. -/
theorem tail_byte (n : Nat) : (0x80 : UInt8) ≤ UInt8.ofNat (n % 64 + 128) ∧
    UInt8.ofNat (n % 64 + 128) ≤ (0xBF : UInt8) ∧
    (UInt8.ofNat (n % 64 + 128)).toNat % 64 = n % 64 := by
  have h : n % 64 + 128 < 256 := by omega
  rw [le_ofNat h, ofNat_le h, toNat_ofNat h]
  have h1 : (0x80 : UInt8).toNat = 128 := rfl
  have h2 : (0xBF : UInt8).toNat = 191 := rfl
  omega

theorem start_of_lt {n : Nat} (h : n < 128) : start (UInt8.ofNat n) = .whole (Char.ofNat n) := by
  unfold start
  simp only [toNat_ofNat (show n < 256 by omega)]
  rw [if_pos h]

theorem start_two {n : Nat} (h0 : 0xC2 ≤ n) (h1 : n < 0xE0) :
    start (UInt8.ofNat n) = .opening ⟨1, 0x80, 0xBF, n - 0xC0⟩ := by
  unfold start
  simp only [toNat_ofNat (show n < 256 by omega)]
  rw [if_neg (by omega), if_neg (by omega), if_pos h1]

/-- Only after E0 and ED is the range of the second byte cut. -/
theorem start_three {n : Nat} (h0 : 0xE0 ≤ n) (h1 : n < 0xF0) : start (UInt8.ofNat n) =
    .opening ⟨2, if n = 0xE0 then 0xA0 else 0x80, if n = 0xED then 0x9F else 0xBF, n - 0xE0⟩ := by
  unfold start
  simp only [toNat_ofNat (show n < 256 by omega)]
  rw [if_neg (by omega), if_neg (by omega), if_neg (by omega)]
  by_cases ha : n = 0xE0
  · subst ha
    rfl
  · by_cases hb : n = 0xED
    · subst hb
      rfl
    · rw [if_neg ha, if_neg hb, if_pos h1, if_neg ha, if_neg hb]

/-- Only after F0 and F4 is the range of the second byte cut. -/
theorem start_four {n : Nat} (h0 : 0xF0 ≤ n) (h1 : n < 0xF5) : start (UInt8.ofNat n) =
    .opening ⟨3, if n = 0xF0 then 0x90 else 0x80, if n = 0xF4 then 0x8F else 0xBF, n - 0xF0⟩ := by
  unfold start
  simp only [toNat_ofNat (show n < 256 by omega)]
  rw [if_neg (by omega), if_neg (by omega), if_neg (by omega), if_neg (by omega),
    if_neg (by omega), if_neg (by omega)]
  by_cases ha : n = 0xF0
  · subst ha
    rfl
  · by_cases hb : n = 0xF4
    · subst hb
      rfl
    · rw [if_neg ha, if_pos (by omega), if_neg ha, if_neg hb]

/-- The second of three bytes is in its range: the number is above the two-byte ones and no
surrogate. -/
theorem second_of_three {n : Nat} (h0 : 0x7FF < n) (h1 : n ≤ 0xFFFF)
    (hv : n < 0xD800 ∨ 0xDFFF < n) :
    (if n / 4096 % 16 + 224 = 0xE0 then 0xA0 else 0x80) ≤ UInt8.ofNat (n / 64 % 64 + 128) ∧
      UInt8.ofNat (n / 64 % 64 + 128) ≤ if n / 4096 % 16 + 224 = 0xED then 0x9F else 0xBF := by
  have h : n / 64 % 64 + 128 < 256 := by omega
  obtain ⟨hl, hr, -⟩ := tail_byte (n / 64)
  constructor
  · split_ifs with hf
    · rw [le_ofNat h, show (0xA0 : UInt8).toNat = 160 from rfl]
      omega
    · exact hl
  · split_ifs with hf
    · rw [ofNat_le h, show (0x9F : UInt8).toNat = 159 from rfl]
      omega
    · exact hr

/-- The second of four bytes is in its range: the number is above the three-byte ones and not
beyond the last one. -/
theorem second_of_four {n : Nat} (h0 : 0xFFFF < n) (h1 : n < 0x110000) :
    (if n / 262144 % 8 + 240 = 0xF0 then 0x90 else 0x80) ≤ UInt8.ofNat (n / 4096 % 64 + 128) ∧
      UInt8.ofNat (n / 4096 % 64 + 128) ≤
        if n / 262144 % 8 + 240 = 0xF4 then 0x8F else 0xBF := by
  have h : n / 4096 % 64 + 128 < 256 := by omega
  obtain ⟨hl, hr, -⟩ := tail_byte (n / 4096)
  constructor
  · split_ifs with hf
    · rw [le_ofNat h, show (0x90 : UInt8).toNat = 144 from rfl]
      omega
    · exact hl
  · split_ifs with hf
    · rw [ofNat_le h, show (0x8F : UInt8).toNat = 143 from rfl]
      omega
    · exact hr

theorem scanFrom_utf8EncodeChar (c : Char) (rest : Bytes) :
    scanFrom none (String.utf8EncodeChar c ++ rest) = some c :: scanFrom none rest := by
  have hc : Char.ofNat c.val.toNat = c := Char.ofNat_toNat c
  have hv : c.val.toNat < 0xD800 ∨ 0xDFFF < c.val.toNat ∧ c.val.toNat < 0x110000 := c.valid
  unfold String.utf8EncodeChar
  generalize c.val.toNat = n at hc hv
  obtain ⟨l0, r0, m0⟩ := tail_byte n
  obtain ⟨l1, r1, m1⟩ := tail_byte (n / 64)
  have m2 := (tail_byte (n / 4096)).2.2
  dsimp only
  split_ifs with h1 h2 h3
  · rw [List.singleton_append, scanFrom, start_of_lt (by omega), hc]
  · have hn : (n / 64 % 32 + 192 - 0xC0) * 64 + n % 64 = n := by omega
    rw [List.cons_append, scanFrom_opening (start_two (by omega) (by omega)),
      List.singleton_append, scanFrom_last (Nat.le_refl 1) ⟨l0, r0⟩, m0, hn, hc]
  · have hn : ((n / 4096 % 16 + 224 - 0xE0) * 64 + n / 64 % 64) * 64 + n % 64 = n := by omega
    have hs := second_of_three (by omega) h3 (by omega)
    rw [List.cons_append, scanFrom_opening (start_three (by omega) (by omega)),
      List.cons_append, scanFrom_more (by decide : 1 < 2) hs, List.singleton_append,
      scanFrom_last (Nat.le_refl 1) ⟨l0, r0⟩, m1, m0, hn, hc]
  · have hn : (((n / 262144 % 8 + 240 - 0xF0) * 64 + n / 4096 % 64) * 64 + n / 64 % 64) * 64 +
        n % 64 = n := by omega
    have hs := second_of_four (Nat.lt_of_not_le h3) (by omega)
    rw [List.cons_append, scanFrom_opening (start_four (by omega) (by omega)),
      List.cons_append, scanFrom_more (by decide : 1 < 3) hs, List.cons_append,
      scanFrom_more (by decide : 1 < 3 - 1) ⟨l1, r1⟩, List.singleton_append,
      scanFrom_last (Nat.le_refl 1) ⟨l0, r0⟩, m2, m1, m0, hn, hc]

/-! ### Whole texts -/

theorem scan_flatMap (cs : List Char) :
    scan (cs.flatMap String.utf8EncodeChar) = cs.map some := by
  unfold scan
  induction cs with
  | nil => rfl
  | cons c cs ih => rw [List.flatMap_cons, scanFrom_utf8EncodeChar, ih, List.map_cons]

theorem scan_encode (s : String) : scan (encode s) = s.toList.map some := scan_flatMap s.toList

/-- Lossy reading gives a written text back. -/
theorem decodeLossy_encode (s : String) : decodeLossy (encode s) = s := by
  have hid : (fun c => (some c).getD '\uFFFD') = (id : Char → Char) := rfl
  unfold decodeLossy
  rw [scan_encode, List.map_map, Function.comp_def, hid, List.map_id, String.ofList_toList]

/-! ### Single bytes of a text -/

/-- A character is written by its own number or by bytes that are none of a 7-bit character. -/
theorem utf8EncodeChar_cases (c : Char) :
    (c.toNat < 128 ∧ String.utf8EncodeChar c = [UInt8.ofNat c.toNat]) ∨
      (128 ≤ c.toNat ∧ String.utf8EncodeChar c ≠ [] ∧
        ∀ b ∈ String.utf8EncodeChar c, 128 ≤ b.toNat) := by
  have hn : c.val.toNat = c.toNat := rfl
  unfold String.utf8EncodeChar
  rw [hn]
  generalize c.toNat = n
  dsimp only
  split_ifs with h1 h2 h3
  · exact Or.inl ⟨by omega, rfl⟩
  all_goals
    refine Or.inr ⟨by omega, by simp, ?_⟩
    simp only [List.mem_cons, List.not_mem_nil, or_false, forall_eq_or_imp, forall_eq]
    simp (disch := omega) only [toNat_ofNat]
    omega

/-- A 7-bit byte of a character is the whole of it. -/
theorem eq_of_mem_utf8EncodeChar {c : Char} {b : UInt8} (hm : b ∈ String.utf8EncodeChar c)
    (hb : b.toNat < 128) : c = Char.ofNat b.toNat := by
  rcases utf8EncodeChar_cases c with ⟨hc, he⟩ | ⟨-, -, hall⟩
  · rw [he, List.mem_singleton] at hm
    rw [hm, toNat_ofNat (by omega), Char.ofNat_toNat]
  · have := hall b hm
    omega

theorem mem_of_mem_encode {s : String} {b : UInt8} (hm : b ∈ encode s) (hb : b.toNat < 128) :
    Char.ofNat b.toNat ∈ s.toList := by
  obtain ⟨c, hc, hm⟩ := List.mem_flatMap.mp hm
  rwa [← eq_of_mem_utf8EncodeChar hm hb]

/-- A 7-bit byte at the end of the bytes is the last character of the text. -/
theorem getLast?_of_getLast?_encode {s : String} {b : UInt8} (h : (encode s).getLast? = some b)
    (hb : b.toNat < 128) : s.toList.getLast? = some (Char.ofNat b.toNat) := by
  unfold encode at h
  rcases List.eq_nil_or_concat s.toList with hs | ⟨l, c, hs⟩
  · rw [hs] at h
    cases h
  · have hne : String.utf8EncodeChar c ≠ [] := by
      rcases utf8EncodeChar_cases c with ⟨-, he⟩ | ⟨-, hne, -⟩
      · simp [he]
      · exact hne
    rw [hs, List.concat_eq_append, List.flatMap_append, List.flatMap_singleton,
      List.getLast?_append, List.getLast?_eq_some_getLast hne, Option.some_or] at h
    have hm : b ∈ String.utf8EncodeChar c := Option.some.inj h ▸ List.getLast_mem hne
    rw [hs, List.concat_eq_append, List.getLast?_concat, eq_of_mem_utf8EncodeChar hm hb]

theorem encode_append (s t : String) : encode (s ++ t) = encode s ++ encode t := by
  unfold encode
  rw [String.toList_append, List.flatMap_append]

end PacketAuth.Utf8
