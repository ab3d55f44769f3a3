import PacketAuth.Prompt
import PacketAuth.Proofs.DecodedText
import PacketAuth.Proofs.FirstDefect

/-! # What lossy reading lets through

The prompt reads number and key lossily: bytes that are no text leave a replacement character.  This
character is no blank, so it survives trimming wherever it stands, and neither a base64 text nor the
text of an integer holds it.  So a line in which a key or a number is found is the text that was
typed (`Utf8.encode_decodeLossy_of_trim`), and the rounds that are signed are those of 7-bit data
and two well-formed lines (`Prompt.lossy_reading_mends_nothing`). -/

namespace PacketAuth

namespace Utf8
variable {bs : Bytes}

/-- A gap is read as a replacement character. -/
theorem replacement_mem_decodeLossy (h : none ∈ scan bs) : '\uFFFD' ∈ (decodeLossy bs).toList := by
  unfold decodeLossy
  rw [String.toList_ofList]
  exact List.mem_map_of_mem (f := (·.getD '\uFFFD')) h

/-- Bytes that are read without a replacement character are those of the text that is read. -/
theorem encode_decodeLossy (h : '\uFFFD' ∉ (decodeLossy bs).toList) :
    encode (decodeLossy bs) = bs := by
  have hscan : none ∉ scan bs := fun hm => h (replacement_mem_decodeLossy hm)
  obtain ⟨cs, rfl⟩ := exists_chars bs hscan
  have ht : cs.flatMap String.utf8EncodeChar = encode (String.ofList cs) := by
    unfold encode
    rw [String.toList_ofList]
  rw [ht, decodeLossy_encode]

/-- So they are if no replacement character is left after trimming. -/
theorem encode_decodeLossy_of_trim (h : '\uFFFD' ∉ (Text.trim (decodeLossy bs)).toList) :
    encode (decodeLossy bs) = bs :=
  encode_decodeLossy fun hm => h (Text.mem_trim hm (by decide))

end Utf8

/-! ### Texts without a replacement character -/

theorem Base64.replacement_not_mem_text (bs : Bytes) : '\uFFFD' ∉ (text bs).toList := by
  intro h
  exact forall_mem_text (P := (· ≠ '\uFFFD')) (by decide) (by decide) bs _ h rfl

theorem Decimal.Denotes.replacement_not_mem {cs : List Char} {v : Int} (h : Denotes cs v) :
    '\uFFFD' ∉ cs := by
  have hdigits : ∀ {ds : List Char}, (∀ c ∈ ds, IsDigit c) → '\uFFFD' ∉ ds :=
    fun hd hm => absurd (hd _ hm) (by decide)
  cases h with
  | bare _ hd => exact hdigits hd
  | plus _ hd => exact List.not_mem_cons_of_ne_of_not_mem (by decide) (hdigits hd)
  | minus _ hd => exact List.not_mem_cons_of_ne_of_not_mem (by decide) (hdigits hd)

namespace Prompt
variable {s : Signer} {data number key : Bytes} {r : Report}

/-! ### Rounds -/

/-- A round is signed if what it reads is in order. -/
theorem signRound_eq_ok_iff : signRound s data number key = .ok r ↔
    (∀ b ∈ data, b.toNat < 0x80) ∧ ∃ n k,
      Text.trim (Utf8.decodeLossy key) = Base64.text k.bytes ∧
      Decimal.Denotes (Text.trim (Utf8.decodeLossy number)).toList n.value.toNat ∧
      s.report data (.packet n) k = .ok r := by
  have hascii : Utf8.isAscii data = true ↔ ∀ b ∈ data, b.toNat < 0x80 := by simp [Utf8.isAscii]
  unfold signRound
  rw [Signer.reportOn_eq_ok_iff, ← hascii]
  constructor
  · rintro ⟨p, hp, rfl⟩
    have hr := Signer.report_prepared hp
    obtain ⟨ha, hd, hk, -, hn⟩ := Signer.prepare_eq_ok_iff.mp hp
    rw [hd] at hr ⊢
    exact ⟨ha, p.number, p.key, Key.parse_eq_ok_iff.mp hk,
      PacketNumber.parse_eq_ok_iff.mp (Except.mapError_eq_ok_iff.mp hn), hr⟩
  · rintro ⟨ha, n, k, hk, hn, hr⟩
    obtain ⟨hc, m, hm, rfl⟩ := Signer.report_eq_ok_iff.mp hr
    rw [Numeral.resolve_packet] at hm
    obtain rfl := Except.ok.inj hm
    have hm : PacketNumber.ofText (Utf8.decodeLossy number) = .ok n :=
      Except.mapError_eq_ok_iff.mpr (PacketNumber.parse_eq_ok_iff.mpr hn)
    refine ⟨⟨data, n, k⟩, Signer.prepare_eq_ok_iff.mpr ⟨ha, rfl, ?_, hc, hm⟩, rfl⟩
    exact Key.parse_eq_ok_iff.mpr hk

/-- The lines of a round that is signed are the texts that were read from them. -/
theorem encode_of_signRound (h : signRound s data number key = .ok r) :
    Utf8.encode (Utf8.decodeLossy number) = number ∧
      Utf8.encode (Utf8.decodeLossy key) = key := by
  obtain ⟨-, n, k, hk, hn, -⟩ := signRound_eq_ok_iff.mp h
  constructor
  · exact Utf8.encode_decodeLossy_of_trim hn.replacement_not_mem
  · refine Utf8.encode_decodeLossy_of_trim ?_
    rw [hk]
    exact Base64.replacement_not_mem_text k.bytes

/-- **Lossy reading mends nothing.**  A round is signed just if the data is 7-bit, number and key
are the UTF-8 bytes of two texts, these are, once trimmed, an integer from 0 up to 2³² and the
base64 text of a key, and the signer reports on the packet of this number under this key.  In
particular a round with a number or a key that is no UTF-8 fails. -/
theorem lossy_reading_mends_nothing (s : Signer) (data number key : Bytes) :
    (∀ r, signRound s data number key = .ok r ↔
      (∀ b ∈ data, b.toNat < 0x80) ∧
      ∃ (numberText keyText : String) (n : PacketNumber) (k : Key),
        Utf8.encode numberText = number ∧ Utf8.encode keyText = key ∧
        Text.trim keyText = Base64.text k.bytes ∧
        Decimal.Denotes (Text.trim numberText).toList n.value.toNat ∧ n.value.toNat < 2 ^ 32 ∧
        s.report data (.packet n) k = .ok r) ∧
    ((∀ t, Utf8.encode t ≠ number) ∨ (∀ t, Utf8.encode t ≠ key) →
      ∃ f, signRound s data number key = .error f) := by
  refine ⟨fun r => ⟨fun h => ?_, ?_⟩, fun h => ?_⟩
  · obtain ⟨hnumber, hkey⟩ := encode_of_signRound h
    obtain ⟨ha, n, k, hk, hn, hr⟩ := signRound_eq_ok_iff.mp h
    exact ⟨ha, _, _, n, k, hnumber, hkey, hk, hn, n.value.toNat_lt, hr⟩
  · rintro ⟨ha, numberText, keyText, n, k, rfl, rfl, hk, hn, -, hr⟩
    refine signRound_eq_ok_iff.mpr ⟨ha, n, k, ?_, ?_, hr⟩
    · rwa [Utf8.decodeLossy_encode]
    · rwa [Utf8.decodeLossy_encode]
  · cases hr : signRound s data number key with
    | error f => exact ⟨f, rfl⟩
    | ok r =>
        obtain ⟨hnumber, hkey⟩ := encode_of_signRound hr
        rcases h with h | h
        · exact absurd hnumber (h _)
        · exact absurd hkey (h _)

/-- A number followed by the first byte of a character, and a key with a surrogate before it. -/
theorem lossy_reading_mends_nothing_cut :
    (∀ t, Utf8.encode t ≠ [0x37, 0xC3]) ∧
    (∃ f, signRound .standard [104, 105] [0x37, 0xC3] (Utf8.encode "AAAAAAAAAAAAAAAAAAAAAA==") =
      .error f) ∧
    (∀ t, Utf8.encode t ≠ [0xED, 0xA0, 0x80] ++ Utf8.encode "AAAAAAAAAAAAAAAAAAAAAA==") ∧
    ∃ f, signRound .standard [104, 105] [0x37]
      ([0xED, 0xA0, 0x80] ++ Utf8.encode "AAAAAAAAAAAAAAAAAAAAAA==") = .error f := by
  have hn : ∀ t, Utf8.encode t ≠ [0x37, 0xC3] := Utf8.decode?_eq_none_iff.mp (by decide)
  have hk : ∀ t, Utf8.encode t ≠ [0xED, 0xA0, 0x80] ++ Utf8.encode "AAAAAAAAAAAAAAAAAAAAAA==" :=
    Utf8.decode?_eq_none_iff.mp (by decide)
  exact ⟨hn, (lossy_reading_mends_nothing .standard _ _ _).2 (Or.inl hn), hk,
    (lossy_reading_mends_nothing .standard _ _ _).2 (Or.inr hk)⟩

end Prompt
end PacketAuth
