import Mathlib.Data.List.TakeWhile
import PacketAuth.Proofs.Acceptance

/-! # Blanks around the parts of a request

Number, key and signature are trimmed before anything else is done with them, so that blanks at
either end of them (`Text.IsBlanks`) are as good as absent: the same is signed and verified, and the
same complaint is made, down to the offsets and the texts that it quotes.  Data is never trimmed
(`surrounding_blanks`). -/

namespace PacketAuth

/-! ### Trimming -/

namespace Text
variable {v w s : String}

/-- A text of blanks, or the empty one. -/
def IsBlanks (w : String) : Prop := ∀ c ∈ w.toList, isBlank c = true

instance (w : String) : Decidable (IsBlanks w) := List.decidableBAll ..

theorem trimEnd_append {cs blanks : List Char} (h : ∀ c ∈ blanks, isBlank c = true) :
    trimEnd (cs ++ blanks) = trimEnd cs := by
  unfold trimEnd
  rw [List.reverse_append, List.dropWhile_append_of_pos]
  exact fun c hc => h c (List.mem_reverse.mp hc)

theorem trimChars_append {cs blanks : List Char} (h : ∀ c ∈ blanks, isBlank c = true) :
    trimChars (cs ++ blanks) = trimChars cs := by
  unfold trimChars
  rw [List.dropWhile_append]
  split_ifs with he
  · -- nothing is left of `cs`, nor of the blanks after it
    have hcs : cs.dropWhile isBlank = [] := List.isEmpty_iff.mp he
    have hblanks : blanks.dropWhile isBlank = [] := List.dropWhile_eq_nil_iff.mpr h
    rw [hcs, hblanks]
  · exact trimEnd_append h

theorem trim_append_right (h : IsBlanks w) (s : String) : trim (s ++ w) = trim s := by
  unfold trim
  rw [String.toList_append, trimChars_append h]

theorem trim_append_left (h : IsBlanks v) (s : String) : trim (v ++ s) = trim s := by
  unfold trim trimChars
  rw [String.toList_append, List.dropWhile_append_of_pos h]

/-- Blanks on both sides are trimmed away. -/
theorem trim_padded (hv : IsBlanks v) (hw : IsBlanks w) (s : String) :
    trim (v ++ s ++ w) = trim s := by
  rw [trim_append_right hw, trim_append_left hv]

end Text

/-! ### The readers -/

/-! Each reader looks at the trimmed text only. -/

section
variable {t u : String} (h : Text.trim t = Text.trim u)
include h

theorem PacketNumber.ofText_of_trim_eq : ofText t = ofText u := by
  unfold ofText parse
  rw [h]

theorem Key.parse_of_trim_eq : parse t = parse u := by
  unfold parse Base64.parse
  rw [h]

theorem Signature.parse_of_trim_eq : parse t = parse u := by
  unfold parse Base64.parse
  rw [h]

end

/-! ### Requests -/

section
variable {number number' key key' signature signature' : String}
  (hn : Text.trim number = Text.trim number') (hk : Text.trim key = Text.trim key')
include hn hk

theorem Signer.prepare_of_trim_eq (s : Signer) (data : Bytes) :
    s.prepare data number key = s.prepare data number' key' := by
  unfold prepare
  rw [PacketNumber.ofText_of_trim_eq hn, Key.parse_of_trim_eq hk]

theorem SignRequest.run_of_trim_eq (s : Signer) (data : String) (json : Bool) :
    run s ⟨data, number, key, json⟩ = run s ⟨data, number', key', json⟩ := by
  unfold run Signer.reportOn
  rw [Signer.prepare_of_trim_eq hn hk]

theorem SignRequest.transcript_of_trim_eq (s : Signer) (data : String) (json : Bool) :
    transcript s ⟨data, number, key, json⟩ = transcript s ⟨data, number', key', json⟩ := by
  unfold transcript
  rw [run_of_trim_eq hn hk]
  rfl

variable (hs : Text.trim signature = Text.trim signature')
include hs

theorem VerifyRequest.run_of_trim_eq (s : Signer) (data : String) :
    run s ⟨data, number, key, signature⟩ = run s ⟨data, number', key', signature'⟩ := by
  unfold run
  rw [Signer.prepare_of_trim_eq hn hk, Signature.parse_of_trim_eq hs]

theorem VerifyRequest.transcript_of_trim_eq (s : Signer) (data : String) :
    transcript s ⟨data, number, key, signature⟩ =
      transcript s ⟨data, number', key', signature'⟩ := by
  unfold transcript
  rw [run_of_trim_eq hn hk hs]

end

/-! ### Data -/

section
variable {s : Signer} {data number key : String}

/-- What the signer reports on is the data as it is given. -/
theorem SignRequest.exists_report {json : Bool} {r : Report}
    (h : run s ⟨data, number, key, json⟩ = .ok r) : ∃ n k,
      PacketNumber.ofText number = .ok n ∧ Key.parse key = .ok k ∧
        s.report (Utf8.encode data) (.packet n) k = .ok r := by
  obtain ⟨p, hp, rfl⟩ := run_eq_ok_iff.mp h
  have hr := Signer.report_prepared hp
  obtain ⟨-, hd, hk, -, hn⟩ := Signer.prepare_eq_ok_iff.mp hp
  rw [hd] at hr ⊢
  exact ⟨p.number, p.key, hn, hk, hr⟩

/-- What the signer verifies is the data as it is given. -/
theorem VerifyRequest.exists_verify {signature : String} {v : Verdict}
    (h : run s ⟨data, number, key, signature⟩ = .ok v) : ∃ n k sig,
      PacketNumber.ofText number = .ok n ∧ Key.parse key = .ok k ∧
        Signature.parse signature = .ok sig ∧
        (v.valid = true ↔ s.verify (Utf8.encode data) (.packet n) k sig = .ok ()) := by
  obtain ⟨p, sig, hp, hs, rfl⟩ := run_eq_ok_iff.mp h
  obtain ⟨-, hd, hk, hc, hn⟩ := Signer.prepare_eq_ok_iff.mp hp
  refine ⟨p.number, p.key, sig, hn, hk, hs, ?_⟩
  rw [Signer.verify_eq_ok_iff, Signer.sign_packet hc, hd, Except.ok.injEq]
  exact decide_eq_true_iff

theorem Report.exists_members_digest (r : Report) : ∃ before after, r.toJson =
    .object (before ++ ("payload_digest", .string (Hex.encode r.digest.bytes)) :: after) :=
  ⟨[_, _, _], [_], rfl⟩

end

/-- **Blanks around number, key and signature do not matter, and data stays as it is.**  Requests
with blanks put around these parts write what the requests without them write, and come to the same
end; in particular a failure is the same, with its text.  The data of a request reaches the signer
byte for byte, and the digest in a report is the one of exactly these bytes. -/
theorem surrounding_blanks (s : Signer) (data number key signature : String)
    {w₁ w₂ w₃ w₄ w₅ w₆ : String} (h : ∀ w ∈ [w₁, w₂, w₃, w₄, w₅, w₆], Text.IsBlanks w) :
    (∀ json, SignRequest.transcript s ⟨data, w₁ ++ number ++ w₂, w₃ ++ key ++ w₄, json⟩ =
      SignRequest.transcript s ⟨data, number, key, json⟩) ∧
    VerifyRequest.transcript s
        ⟨data, w₁ ++ number ++ w₂, w₃ ++ key ++ w₄, w₅ ++ signature ++ w₆⟩ =
      VerifyRequest.transcript s ⟨data, number, key, signature⟩ ∧
    (∀ json r, SignRequest.run s ⟨data, number, key, json⟩ = .ok r →
      r.digest.bytes = Sha2.sha256.digest (Utf8.encode data) ∧
      ∃ n k, PacketNumber.ofText number = .ok n ∧ Key.parse key = .ok k ∧
        s.report (Utf8.encode data) (.packet n) k = .ok r) ∧
    (∀ t, SignRequest.transcript s ⟨data, number, key, true⟩ = .ok t → ∃ before after,
      t.stdout = (Json.object (before ++ ("payload_digest",
        .string (Hex.encode (Sha2.sha256.digest (Utf8.encode data)))) :: after)).pretty ++ "\n") ∧
    (∀ v, VerifyRequest.run s ⟨data, number, key, signature⟩ = .ok v →
      ∃ n k sig, PacketNumber.ofText number = .ok n ∧ Key.parse key = .ok k ∧
        Signature.parse signature = .ok sig ∧
        (v.valid = true ↔ s.verify (Utf8.encode data) (.packet n) k sig = .ok ())) := by
  simp only [List.forall_mem_cons] at h
  obtain ⟨h₁, h₂, h₃, h₄, h₅, h₆, -⟩ := h
  have hn := Text.trim_padded h₁ h₂ number
  have hk := Text.trim_padded h₃ h₄ key
  have hs := Text.trim_padded h₅ h₆ signature
  have hdigest : ∀ {json r}, SignRequest.run s ⟨data, number, key, json⟩ = .ok r →
      r.digest.bytes = Sha2.sha256.digest (Utf8.encode data) := by
    intro json r hr
    obtain ⟨n, k, -, -, hreport⟩ := SignRequest.exists_report hr
    obtain ⟨-, n, -, rfl⟩ := Signer.report_eq_ok_iff.mp hreport
    rfl
  refine ⟨fun json => SignRequest.transcript_of_trim_eq hn hk s data json,
    VerifyRequest.transcript_of_trim_eq hn hk hs s data,
    fun json r hr => ⟨hdigest hr, SignRequest.exists_report hr⟩, ?_,
    fun v hv => VerifyRequest.exists_verify hv⟩
  intro t ht
  obtain ⟨r, hr, ht⟩ := Except.bind_eq_ok_iff.mp ht
  obtain ⟨before, after, hj⟩ := r.exists_members_digest
  rw [hdigest hr] at hj
  refine ⟨before, after, ?_⟩
  rw [← Except.ok.inj ht, (Transcript.streams_told _ _).1, ← hj]
  rfl

/-- Blanks of one to three bytes around a text that is no integer, a key of sixteen zeros and a
stray symbol; the data has blanks of its own, which count. -/
theorem surrounding_blanks_quoted :
    (∀ w ∈ ["\u00a0", "\u2003\n", "", "\t", "\u3000", "\r\n"], Text.IsBlanks w) ∧
    SignRequest.transcript .standard
        ⟨" hi ", "\u00a0" ++ "1 2" ++ "\u2003\n", "" ++ "AAAAAAAAAAAAAAAAAAAAAA==" ++ "\t", false⟩ =
      .error (.signing (.ofNumber (.notInteger "1 2"))) ∧
    VerifyRequest.transcript .standard
        ⟨" hi ", "\u00a0" ++ "7" ++ "\u2003\n", "" ++ "AAAAAAAAAAAAAAAAAAAAAA==" ++ "\t",
          "\u3000" ++ "AA?A" ++ "\r\n"⟩ =
      .error (.signing (.signatureText "Invalid symbol 63, offset 2.")) ∧
    ∀ r, SignRequest.run .standard ⟨" hi ", "7", "AAAAAAAAAAAAAAAAAAAAAA==", false⟩ = .ok r →
      r.digest.bytes = Sha2.sha256.digest [32, 104, 105, 32] := by
  have h : ∀ w ∈ ["\u00a0", "\u2003\n", "", "\t", "\u3000", "\r\n"], Text.IsBlanks w := by decide
  obtain ⟨hsign, -⟩ := surrounding_blanks .standard " hi " "1 2" "AAAAAAAAAAAAAAAAAAAAAA==" "" h
  obtain ⟨-, hverify, hdata, -⟩ :=
    surrounding_blanks .standard " hi " "7" "AAAAAAAAAAAAAAAAAAAAAA==" "AA?A" h
  refine ⟨h, ?_, ?_, fun r hr => (hdata false r hr).1⟩
  · rw [hsign]
    rfl
  · rw [hverify]
    rfl

end PacketAuth
