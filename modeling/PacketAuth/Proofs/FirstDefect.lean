import PacketAuth.Program
import PacketAuth.Proofs.Acceptance
import PacketAuth.Proofs.DecimalText

/-! # The first defect of a request

The texts of a request can have four defects, any number of them at once.  Each is said of the texts
alone (`Defect.AppliesTo`), and the first one in a fixed order decides what a request to sign or to
verify fails with (`first_defect_decides`).  A failure leaves no trace on the output stream, and the
signer, which checks key and number once more, finds nothing new. -/

namespace PacketAuth

/-- What can be wrong with the texts of a request. -/
inductive Defect where
  | data
  | keyText
  | weakKey
  | number
deriving DecidableEq, Repr

namespace Defect

/-- The order in which defects are reported. -/
def rank : Defect → Nat
  | data => 0
  | keyText => 1
  | weakKey => 2
  | number => 3

variable (s : Signer) (data number key : String)

/-- Whether texts have a defect, whatever other defects they have. -/
def AppliesTo : Defect → Prop
  | .data => ∃ b ∈ Utf8.encode data, 0x80 ≤ b.toNat
  | .keyText => ∀ bs, Text.trim key ≠ Base64.text bs
  | .weakKey => ∃ bs, Text.trim key = Base64.text bs ∧ 8 * bs.length < s.policy.minKeyBits.toNat
  | .number => ¬ PacketNumber.IsNumber number

/-- A defect that texts have, and none that is reported before it. -/
def IsFirst (d : Defect) : Prop :=
  d.AppliesTo s data number key ∧ ∀ e : Defect, e.rank < d.rank → ¬ e.AppliesTo s data number key

/-- The failure that reports a defect. -/
def Reports : Defect → Failure → Prop
  | .data, f => f = .notAscii
  | .keyText, f => ∃ fault, Base64.parse key = .error fault ∧ f = .signing (.ofKeyText fault)
  | .weakKey, f => ∃ bs, Text.trim key = Base64.text bs ∧
      f = .signing (.weakKey (8 * bs.length) s.policy.minKeyBits.toNat)
  | .number, f => ∃ fault, PacketNumber.parse number = .error fault ∧
      f = .signing (.ofNumber fault)

variable {s data number key}

/-- Texts with a defect have a first one. -/
theorem exists_isFirst {d : Defect} (h : d.AppliesTo s data number key) :
    ∃ e : Defect, e.IsFirst s data number key := by
  -- either no defect that applies comes before `d`, or one does and has a lower rank
  induction hn : d.rank using Nat.strongRecOn generalizing d with
  | _ n ih =>
      by_cases he : ∃ e : Defect, e.rank < d.rank ∧ e.AppliesTo s data number key
      · obtain ⟨e, hr, he⟩ := he
        exact ih e.rank (hn ▸ hr) he rfl
      · exact ⟨d, h, fun e hr ha => he ⟨e, hr, ha⟩⟩

end Defect

/-! ### The checks -/

theorem Utf8.isAscii_iff {bs : Bytes} : isAscii bs = true ↔ ¬ ∃ b ∈ bs, 0x80 ≤ b.toNat := by
  simp [isAscii]

theorem Base64.exists_parse_eq_error {t : String} (h : ∀ bs, Text.trim t ≠ text bs) :
    ∃ fault, parse t = .error fault := by
  cases ht : parse t with
  | error fault => exact ⟨fault, rfl⟩
  | ok bs => exact absurd ((parse_eq_ok_iff t bs).mp ht) (h bs)

theorem PacketNumber.exists_parse_eq_error {t : String} (h : ¬ IsNumber t) :
    ∃ fault, parse t = .error fault := by
  cases ht : parse t with
  | error fault => exact ⟨fault, rfl⟩
  | ok n => exact absurd (isNumber_iff.mpr ⟨n, ht⟩) h

namespace Signer
variable {s : Signer} {data : Bytes} {number key : String}

theorem prepare_notAscii (h : ∃ b ∈ data, 0x80 ≤ b.toNat) :
    s.prepare data number key = .error .notAscii := by
  have hn : ¬ Utf8.isAscii data = true := fun ha => Utf8.isAscii_iff.mp ha h
  unfold prepare asciiData
  rw [if_neg hn]
  rfl

section
variable (hd : ¬ ∃ b ∈ data, 0x80 ≤ b.toNat)
include hd

theorem asciiData_of_ascii : asciiData data = .ok data :=
  asciiData_eq_ok_iff.mpr ⟨Utf8.isAscii_iff.mpr hd, rfl⟩

theorem prepare_keyText {fault : Base64.Fault} (hk : Base64.parse key = .error fault) :
    s.prepare data number key = .error (.signing (.ofKeyText fault)) := by
  unfold prepare Key.parse
  rw [asciiData_of_ascii hd, hk]
  rfl

variable {bs : Bytes} (hk : Text.trim key = Base64.text bs)
include hk

theorem prepare_weakKey (hw : 8 * bs.length < s.policy.minKeyBits.toNat) :
    s.prepare data number key =
      .error (.signing (.weakKey (8 * bs.length) s.policy.minKeyBits.toNat)) := by
  have hp : Key.parse key = .ok ⟨bs⟩ := Key.parse_eq_ok_iff.mpr hk
  unfold prepare
  rw [asciiData_of_ascii hd, hp, Except.ok_bind, lift_ok, Except.ok_bind, Policy.checkKey_eq,
    if_pos hw]
  rfl

variable (hs : ¬ 8 * bs.length < s.policy.minKeyBits.toNat)
include hs

theorem prepare_number {fault : PacketNumber.Fault}
    (hn : PacketNumber.parse number = .error fault) :
    s.prepare data number key = .error (.signing (.ofNumber fault)) := by
  have hp : Key.parse key = .ok ⟨bs⟩ := Key.parse_eq_ok_iff.mpr hk
  unfold prepare PacketNumber.ofText
  rw [asciiData_of_ascii hd, hp, Except.ok_bind, lift_ok, Except.ok_bind, Policy.checkKey_eq,
    if_neg hs, hn]
  rfl

theorem prepare_sound {n : PacketNumber} (hn : PacketNumber.parse number = .ok n) :
    s.prepare data number key = .ok ⟨data, n, ⟨bs⟩⟩ := by
  refine prepare_eq_ok_iff.mpr ⟨Utf8.isAscii_iff.mpr hd, rfl, Key.parse_eq_ok_iff.mpr hk, ?_, ?_⟩
  · exact Policy.checkKey_eq_ok_iff.mpr (Nat.not_lt.mp hs)
  · exact Except.mapError_eq_ok_iff.mpr hn

end
end Signer

/-! ### The first defect -/

section
variable {s : Signer} {data number key : String} {f : Failure}

theorem Defect.not_weakKey {bs : Bytes} (hk : Text.trim key = Base64.text bs)
    (h : ¬ weakKey.AppliesTo s data number key) : ¬ 8 * bs.length < s.policy.minKeyBits.toNat :=
  fun hw => h ⟨bs, hk, hw⟩

theorem Defect.not_keyText (h : ¬ keyText.AppliesTo s data number key) :
    ∃ bs, Text.trim key = Base64.text bs := by
  unfold AppliesTo at h
  push Not at h
  exact h

/-- The checks of a request fail with its first defect. -/
theorem Signer.prepare_of_isFirst {d : Defect} (h : d.IsFirst s data number key) :
    ∃ f, d.Reports s number key f ∧ s.prepare (Utf8.encode data) number key = .error f := by
  obtain ⟨ha, hfirst⟩ := h
  cases d with
  | data => exact ⟨_, rfl, prepare_notAscii ha⟩
  | keyText =>
      obtain ⟨fault, hf⟩ := Base64.exists_parse_eq_error ha
      exact ⟨_, ⟨fault, hf, rfl⟩, prepare_keyText (hfirst .data (by decide)) hf⟩
  | weakKey =>
      obtain ⟨bs, hb, hw⟩ := ha
      exact ⟨_, ⟨bs, hb, rfl⟩, prepare_weakKey (hfirst .data (by decide)) hb hw⟩
  | number =>
      obtain ⟨fault, hf⟩ := PacketNumber.exists_parse_eq_error ha
      obtain ⟨bs, hb⟩ := Defect.not_keyText (hfirst .keyText (by decide))
      have hs := Defect.not_weakKey hb (hfirst .weakKey (by decide))
      exact ⟨_, ⟨fault, hf, rfl⟩, prepare_number (hfirst .data (by decide)) hb hs hf⟩

/-- Without a defect, a request passes its checks. -/
theorem Signer.exists_prepare (h : ∀ d : Defect, ¬ d.AppliesTo s data number key) :
    ∃ p, s.prepare (Utf8.encode data) number key = .ok p := by
  obtain ⟨bs, hb⟩ := Defect.not_keyText (h .keyText)
  obtain ⟨n, hn⟩ := PacketNumber.isNumber_iff.mp (not_not.mp (h .number))
  exact ⟨_, prepare_sound (h .data) hb (Defect.not_weakKey hb (h .weakKey)) hn⟩

/-! ### Requests -/

/-- Signing fails where the checks do. -/
theorem Signer.reportOn_eq_error_iff {bytes : Bytes} : s.reportOn bytes number key = .error f ↔
    s.prepare bytes number key = .error f := by
  cases hp : s.prepare bytes number key with
  | error g =>
      have hr : s.reportOn bytes number key = .error g := by
        unfold reportOn
        rw [hp]
        rfl
      rw [hr, Except.error.injEq, Except.error.injEq]
  | ok p =>
      rw [reportOn_eq_ok_iff.mpr ⟨p, hp, rfl⟩]
      simp

theorem SignRequest.run_eq_error_iff {r : SignRequest} : r.run s = .error f ↔
    s.prepare (Utf8.encode r.data) r.number r.key = .error f :=
  Signer.reportOn_eq_error_iff

theorem SignRequest.exists_transcript_iff {r : SignRequest} : (∃ t, r.transcript s = .ok t) ↔
    ∃ p, s.prepare (Utf8.encode r.data) r.number r.key = .ok p := by
  unfold transcript
  simp only [Except.bind_eq_ok_iff, run_eq_ok_iff]
  constructor
  · rintro ⟨_, _, ⟨p, hp, -⟩, -⟩
    exact ⟨p, hp⟩
  · rintro ⟨p, hp⟩
    exact ⟨_, _, ⟨p, hp, rfl⟩, rfl⟩

namespace VerifyRequest
variable {r : VerifyRequest}

theorem run_of_prepare_error (h : s.prepare (Utf8.encode r.data) r.number r.key = .error f) :
    r.run s = .error f := by
  unfold run
  rw [h]
  rfl

theorem run_of_parse_error {p : Prepared} {fault : Base64.Fault}
    (hp : s.prepare (Utf8.encode r.data) r.number r.key = .ok p)
    (hs : Base64.parse r.signature = .error fault) :
    r.run s = .error (.signing (.ofSignatureText fault)) := by
  unfold run Signature.parse
  rw [hp, hs]
  rfl

/-- Verifying fails where the checks do, and on a signature that is not base64. -/
theorem run_eq_error_iff : r.run s = .error f ↔
    s.prepare (Utf8.encode r.data) r.number r.key = .error f ∨
      ∃ p fault, s.prepare (Utf8.encode r.data) r.number r.key = .ok p ∧
        Base64.parse r.signature = .error fault ∧ f = .signing (.ofSignatureText fault) := by
  cases hp : s.prepare (Utf8.encode r.data) r.number r.key with
  | error g =>
      rw [run_of_prepare_error hp]
      simp
  | ok p =>
      cases hs : Base64.parse r.signature with
      | error fault =>
          rw [run_of_parse_error hp hs]
          simp [eq_comm]
      | ok bs =>
          have hsig : Signature.parse r.signature = .ok ⟨bs⟩ :=
            Signature.parse_eq_ok_iff.mpr ((Base64.parse_eq_ok_iff _ _).mp hs)
          rw [run_prepared hp hsig]
          simp

end VerifyRequest

/-- The errors that the texts of a request can cause. -/
def SigningError.OfTexts : SigningError → Prop
  | policy _ => False
  | mismatch => False
  | internal _ => False
  | _ => True

/-- A command ends in a failure: the error stream gets the line of the failure, whatever the filter
of log events is, and the output stream gets nothing. -/
def Program.FailsWith (s : Signer) (c : Command) (f : Failure) : Prop :=
  ∀ path file, ∃ o, perform s path file c = some o ∧ o.status = 1 ∧ o.transcript.stdout = "" ∧
    ∀ filter, o.transcript.stderr filter = f.line

theorem Program.failed_streams (f : Failure) : (failed f).transcript.stdout = "" ∧
    ∀ filter, (failed f).transcript.stderr filter = f.line := by
  unfold failed
  refine ⟨?_, fun filter => ?_⟩
  · rw [Transcript.stdout_cons, Transcript.stdout_nil]
    rfl
  · rw [Transcript.stderr_cons, Transcript.stderr_nil, String.append_empty]
    rfl

theorem Program.failsWith_sign {r : SignRequest} (h : r.transcript s = .error f) :
    FailsWith s (.sign r) f := by
  intro path file
  refine ⟨failed f, ?_, rfl, failed_streams f⟩
  simp only [perform, h]

theorem Program.failsWith_verify {r : VerifyRequest} (h : r.transcript s = .error f) :
    FailsWith s (.verify r) f := by
  intro path file
  refine ⟨failed f, ?_, rfl, failed_streams f⟩
  simp only [perform, h]

/-- What a defect is reported as is an error that the texts cause. -/
theorem Defect.Reports.ofTexts {d : Defect} (h : d.Reports s number key f) :
    f = .notAscii ∨ ∃ e, f = .signing e ∧ e.OfTexts := by
  cases d with
  | data => exact Or.inl h
  | keyText =>
      obtain ⟨fault, -, rfl⟩ := h
      exact Or.inr ⟨_, rfl, trivial⟩
  | weakKey =>
      obtain ⟨bs, -, rfl⟩ := h
      exact Or.inr ⟨_, rfl, trivial⟩
  | number =>
      obtain ⟨fault, -, rfl⟩ := h
      exact Or.inr ⟨_, rfl, trivial⟩

/-- The checks of any data fail with nothing but what a defect is reported as. -/
theorem Signer.exists_reports_of_prepare_error {bytes : Bytes}
    (h : s.prepare bytes number key = .error f) : ∃ d : Defect, d.Reports s number key f := by
  by_cases hb : ∃ b ∈ bytes, 0x80 ≤ b.toNat
  · rw [prepare_notAscii hb] at h
    exact ⟨.data, (Except.error.inj h).symm⟩
  · push Not at hb
    obtain ⟨data, rfl⟩ : ∃ data, Utf8.encode data = bytes := ⟨_, Utf8.encode_ofBytes hb⟩
    by_cases hd : ∃ d : Defect, d.AppliesTo s data number key
    · obtain ⟨d, hd⟩ := hd
      obtain ⟨e, he⟩ := Defect.exists_isFirst hd
      obtain ⟨g, hr, hg⟩ := prepare_of_isFirst he
      obtain rfl := Except.error.inj (hg.symm.trans h)
      exact ⟨e, hr⟩
    · obtain ⟨p, hp⟩ := exists_prepare (not_exists.mp hd)
      rw [hp] at h
      cases h

theorem Signer.prepare_error_ofTexts
    (h : s.prepare (Utf8.encode data) number key = .error f) :
    f = .notAscii ∨ ∃ e, f = .signing e ∧ e.OfTexts := by
  obtain ⟨d, hd⟩ := exists_reports_of_prepare_error h
  exact hd.ofTexts

theorem Signer.exists_prepare_iff : (∃ p, s.prepare (Utf8.encode data) number key = .ok p) ↔
    ∀ d : Defect, ¬ d.AppliesTo s data number key := by
  constructor
  · rintro ⟨p, hp⟩ d hd
    obtain ⟨e, he⟩ := Defect.exists_isFirst hd
    obtain ⟨f, -, hf⟩ := prepare_of_isFirst he
    rw [hp] at hf
    cases hf
  · exact exists_prepare

end

/-- **The first defect decides.**  A request to sign fails with the first defect of its texts and
succeeds if they have none.  A request to verify fails just as signing the same texts does; where
signing succeeds, it fails if the signature is not base64 and else gives a verdict.  After the
checks the signer has nothing to report but a mismatch, no request ends in an error that the texts
do not cause, and one that fails writes nothing to the output stream. -/
theorem first_defect_decides (s : Signer) (data number key signature : String) (json : Bool) :
    (∀ d : Defect, d.IsFirst s data number key → ∃ f, d.Reports s number key f ∧
      SignRequest.transcript s ⟨data, number, key, json⟩ = .error f) ∧
    ((∃ t, SignRequest.transcript s ⟨data, number, key, json⟩ = .ok t) ↔
      ∀ d : Defect, ¬ d.AppliesTo s data number key) ∧
    (∀ f, SignRequest.transcript s ⟨data, number, key, json⟩ = .error f →
      VerifyRequest.transcript s ⟨data, number, key, signature⟩ = .error f) ∧
    (∀ t, SignRequest.transcript s ⟨data, number, key, json⟩ = .ok t →
      ((∀ bs, Text.trim signature ≠ Base64.text bs) → ∃ fault,
        Base64.parse signature = .error fault ∧
        VerifyRequest.transcript s ⟨data, number, key, signature⟩ =
          .error (.signing (.ofSignatureText fault))) ∧
      ∀ bs, Text.trim signature = Base64.text bs → ∃ valid u,
        VerifyRequest.transcript s ⟨data, number, key, signature⟩ = .ok (valid, u)) ∧
    (∀ p, s.prepare (Utf8.encode data) number key = .ok p →
      (∃ r, s.report p.payload (.packet p.number) p.key = .ok r) ∧
      ∀ given, s.verify p.payload (.packet p.number) p.key given = .ok () ∨
        s.verify p.payload (.packet p.number) p.key given = .error .mismatch) ∧
    (∀ f, SignRequest.transcript s ⟨data, number, key, json⟩ = .error f ∨
        VerifyRequest.transcript s ⟨data, number, key, signature⟩ = .error f →
      f = .notAscii ∨ ∃ e, f = .signing e ∧ e.OfTexts) ∧
    (∀ f, SignRequest.transcript s ⟨data, number, key, json⟩ = .error f →
      Program.FailsWith s (.sign ⟨data, number, key, json⟩) f) ∧
    ∀ f, VerifyRequest.transcript s ⟨data, number, key, signature⟩ = .error f →
      Program.FailsWith s (.verify ⟨data, number, key, signature⟩) f := by
  have hsign : ∀ f, SignRequest.transcript s ⟨data, number, key, json⟩ = .error f ↔
      s.prepare (Utf8.encode data) number key = .error f := fun f => by
    rw [SignRequest.transcript_eq_error_iff, SignRequest.run_eq_error_iff]
  refine ⟨?_, ?_, ?_, ?_, ?_, ?_, fun f => Program.failsWith_sign,
    fun f => Program.failsWith_verify⟩
  · intro d hd
    obtain ⟨f, hr, hp⟩ := Signer.prepare_of_isFirst hd
    exact ⟨f, hr, (hsign f).mpr hp⟩
  · rw [SignRequest.exists_transcript_iff, Signer.exists_prepare_iff]
  · intro f hf
    rw [VerifyRequest.transcript_eq_error_iff]
    exact VerifyRequest.run_of_prepare_error ((hsign f).mp hf)
  · intro t ht
    obtain ⟨p, hp⟩ := SignRequest.exists_transcript_iff.mp ⟨t, ht⟩
    constructor
    · intro hn
      obtain ⟨fault, hf⟩ := Base64.exists_parse_eq_error hn
      refine ⟨fault, hf, ?_⟩
      rw [VerifyRequest.transcript_eq_error_iff]
      exact VerifyRequest.run_of_parse_error hp hf
    · intro bs hb
      have hs : Signature.parse signature = .ok ⟨bs⟩ := Signature.parse_eq_ok_iff.mpr hb
      exact ⟨_, exists_transcript_iff.mpr ⟨_, VerifyRequest.run_prepared hp hs, rfl⟩⟩
  · intro p hp
    have hk := (Signer.prepare_eq_ok_iff.mp hp).2.2.2.1
    refine ⟨⟨_, Signer.report_prepared hp⟩, fun given => ?_⟩
    rw [Signer.verify_of_sign (Signer.sign_packet hk ..)]
    split_ifs
    · exact Or.inl rfl
    · exact Or.inr rfl
  · rintro f (hf | hf)
    · exact Signer.prepare_error_ofTexts ((hsign f).mp hf)
    · rw [VerifyRequest.transcript_eq_error_iff, VerifyRequest.run_eq_error_iff] at hf
      rcases hf with hf | ⟨-, fault, -, -, rfl⟩
      · exact Signer.prepare_error_ofTexts hf
      · exact Or.inr ⟨_, rfl, trivial⟩

/-- A key of three bytes is reported ahead of a number that is none; with sixteen zeros and packet 7
there is no defect, and a signature of no bytes gets a verdict where a question mark does not. -/
theorem first_defect_decides_weakKey :
    (Defect.weakKey.IsFirst .standard "hi" "x" "AAAA" ∧
      Defect.number.AppliesTo .standard "hi" "x" "AAAA" ∧
      VerifyRequest.transcript .standard ⟨"hi", "x", "AAAA", "?"⟩ =
        .error (.signing (.weakKey 24 128)) ∧
      Program.FailsWith .standard (.verify ⟨"hi", "x", "AAAA", "?"⟩)
        (.signing (.weakKey 24 128))) ∧
    (∀ d : Defect, ¬ d.AppliesTo .standard "hi" "7" "AAAAAAAAAAAAAAAAAAAAAA==") ∧
    (∃ valid u, VerifyRequest.transcript .standard
      ⟨"hi", "7", "AAAAAAAAAAAAAAAAAAAAAA==", ""⟩ = .ok (valid, u)) ∧
    ∃ fault, VerifyRequest.transcript .standard
      ⟨"hi", "7", "AAAAAAAAAAAAAAAAAAAAAA==", "?"⟩ = .error (.signing (.ofSignatureText fault)) := by
  have hd : ¬ ∃ b ∈ Utf8.encode "hi", 0x80 ≤ b.toNat := by decide
  have hk : Text.trim "AAAA" = Base64.text [0, 0, 0] := by decide
  have hw : Defect.weakKey.IsFirst .standard "hi" "x" "AAAA" := by
    refine ⟨⟨_, hk, by decide⟩, fun e he => ?_⟩
    cases e with
    | data => exact hd
    | keyText => exact fun h => h _ hk
    | weakKey => exact absurd he (by decide)
    | number => exact absurd he (by decide)
  have hn : Defect.number.AppliesTo .standard "hi" "x" "AAAA" := by
    intro h
    obtain ⟨n, hn⟩ := PacketNumber.isNumber_iff.mp h
    cases hn
  have hz : Text.trim "AAAAAAAAAAAAAAAAAAAAAA==" = Base64.text (List.replicate 16 0) := by decide
  have hnone : ∀ d : Defect, ¬ d.AppliesTo .standard "hi" "7" "AAAAAAAAAAAAAAAAAAAAAA==" := by
    intro d
    cases d with
    | data => exact hd
    | keyText => exact fun h => h _ hz
    | weakKey =>
        rintro ⟨bs, hb, hs⟩
        obtain rfl := Base64.text_injective (hz.symm.trans hb)
        revert hs
        decide
    | number => exact not_not.mpr (PacketNumber.isNumber_iff.mpr ⟨⟨7⟩, by decide⟩)
  obtain ⟨hfirst, -, hsame, -, -, -, -, hsilent⟩ :=
    first_defect_decides .standard "hi" "x" "AAAA" "?" false
  obtain ⟨-, hok, -, hverdict, -⟩ :=
    first_defect_decides .standard "hi" "7" "AAAAAAAAAAAAAAAAAAAAAA==" "" false
  obtain ⟨-, -, -, hnotText, -⟩ :=
    first_defect_decides .standard "hi" "7" "AAAAAAAAAAAAAAAAAAAAAA==" "?" false
  have hq : ∀ bs, Text.trim "?" ≠ Base64.text bs := by
    intro bs h
    cases (Base64.parse_eq_ok_iff "?" bs).mpr h
  obtain ⟨f, ⟨bs, hb, rfl⟩, hf⟩ := hfirst _ hw
  obtain rfl := Base64.text_injective (hk.symm.trans hb)
  obtain ⟨t, ht⟩ := hok.mpr hnone
  obtain ⟨fault, -, hfault⟩ := (hnotText t ht).1 hq
  exact ⟨⟨hw, hn, hsame _ hf, hsilent _ (hsame _ hf)⟩, hnone, (hverdict t ht).2 [] (by decide),
    fault, hfault⟩

end PacketAuth
