import PacketAuth.Proofs.RequestLaws
import PacketAuth.Proofs.Streams

/-! # What verifying accepts

A request to verify and a request to sign, on the same texts.  Signing prints one text, and
verifying accepts that text and, apart from blanks around it, no other (`accepts_iff_prints`). -/

namespace PacketAuth
variable {s : Signer} {data number key signature x : String}

/-- Verifying succeeds, and the signature is valid. -/
def Accepts (s : Signer) (data number key signature : String) : Prop :=
  ∃ t, VerifyRequest.transcript s ⟨data, number, key, signature⟩ = .ok (true, t)

/-- Signing succeeds, and prints that `x` is the signature. -/
def Prints (s : Signer) (data number key x : String) : Prop :=
  ∃ t, SignRequest.transcript s ⟨data, number, key, false⟩ = .ok t ∧
    t.stdout = "Packet signature: " ++ x ++ "\n"

theorem signatureLine_eq_iff {sig : Signature} :
    signatureLine sig = "Packet signature: " ++ x ++ "\n" ↔ sig.text = x := by
  have hl : signatureLine sig = "Packet signature: " ++ sig.text ++ "\n" := rfl
  rw [hl, String.append_left_inj, String.append_right_inj]

theorem prints_iff : Prints s data number key x ↔
    ∃ p, s.prepare (Utf8.encode data) number key = .ok p ∧
      (s.certify p.payload p.number p.key).signature.text = x := by
  unfold Prints SignRequest.transcript
  simp only [Except.bind_eq_ok_iff, SignRequest.run_eq_ok_iff]
  constructor
  · rintro ⟨t, ⟨_, ⟨p, hp, rfl⟩, ht⟩, hx⟩
    cases ht
    refine ⟨p, hp, signatureLine_eq_iff.mp ?_⟩
    simpa [Entry.stdout, SignRequest.output] using hx
  · rintro ⟨p, hp, hx⟩
    refine ⟨_, ⟨_, ⟨p, hp, rfl⟩, rfl⟩, ?_⟩
    simpa [Entry.stdout, SignRequest.output] using signatureLine_eq_iff.mpr hx

/-- Whether the transcript of a request says valid is what its verdict says. -/
theorem exists_transcript_iff {r : VerifyRequest} {b : Bool} :
    (∃ t, r.transcript s = .ok (b, t)) ↔ ∃ v, r.run s = .ok v ∧ v.valid = b := by
  unfold VerifyRequest.transcript
  simp only [Except.bind_eq_ok_iff]
  constructor
  · rintro ⟨t, v, hv, ht⟩
    exact ⟨v, hv, congrArg Prod.fst (Except.ok.inj ht)⟩
  · rintro ⟨v, hv, rfl⟩
    exact ⟨_, v, hv, rfl⟩

/-- Ahead of a verdict there are log events only. -/
theorem Verdict.exists_events (v : Verdict) : ∃ es : List Log.Event,
    (Log.ofReport v.expected).map Entry.log ++ (if v.valid then [] else [.log .mismatch]) =
      es.map .log := by
  by_cases h : v.valid
  · exact ⟨Log.ofReport v.expected, by rw [if_pos h, List.append_nil]⟩
  · exact ⟨Log.ofReport v.expected ++ [.mismatch], by rw [if_neg h, List.map_append]; rfl⟩

theorem accepts_iff : Accepts s data number key signature ↔
    ∃ p, s.prepare (Utf8.encode data) number key = .ok p ∧
      (s.certify p.payload p.number p.key).signature.text = Text.trim signature := by
  rw [Accepts, exists_transcript_iff]
  simp only [VerifyRequest.run_eq_ok_iff, Signature.parse_eq_ok_iff]
  constructor
  · rintro ⟨_, ⟨p, sig, hp, hs, rfl⟩, hv⟩
    obtain rfl := of_decide_eq_true hv
    exact ⟨p, hp, hs.symm⟩
  · rintro ⟨p, hp, hs⟩
    exact ⟨_, ⟨p, _, hp, hs.symm, rfl⟩, decide_eq_true rfl⟩

/-- What signing prints has no blanks around it. -/
theorem Prints.trim_eq (h : Prints s data number key x) : Text.trim x = x := by
  obtain ⟨p, -, rfl⟩ := prints_iff.mp h
  exact Base64.trim_text _

/-- Signing prints one text. -/
theorem Prints.unique {y : String} (hx : Prints s data number key x)
    (hy : Prints s data number key y) : x = y := by
  obtain ⟨p, hp, rfl⟩ := prints_iff.mp hx
  obtain ⟨q, hq, rfl⟩ := prints_iff.mp hy
  rw [hp] at hq
  cases hq
  rfl

theorem accepts_iff_prints_trim : Accepts s data number key signature ↔
    Prints s data number key (Text.trim signature) := by
  rw [accepts_iff, prints_iff]

/-- **Verifying accepts what signing prints, and nothing else.**  Up to blanks around it, a
signature is accepted exactly if it is the text that signing prints: that text itself is accepted,
no second spelling is, and neither is a text that gives other bytes. -/
theorem accepts_iff_prints (s : Signer) (data number key : String) :
    (∀ signature, Accepts s data number key signature ↔
      Prints s data number key (Text.trim signature)) ∧
    (∀ x, Prints s data number key x → Accepts s data number key x) ∧
    (∀ x y, Accepts s data number key x → Accepts s data number key y →
      Text.trim x = Text.trim y) ∧
    (∀ x y, Prints s data number key x → Base64.parse y ≠ Base64.parse x →
      ¬ Accepts s data number key y) := by
  refine ⟨fun _ => accepts_iff_prints_trim, ?_, ?_, ?_⟩
  · intro x hx
    rwa [accepts_iff_prints_trim, hx.trim_eq]
  · intro x y hx hy
    exact (accepts_iff_prints_trim.mp hx).unique (accepts_iff_prints_trim.mp hy)
  · intro x y hx hne hy
    have hxy := hx.unique (accepts_iff_prints_trim.mp hy)
    obtain ⟨p, -, rfl⟩ := prints_iff.mp hx
    exact hne (((Base64.parse_eq_ok_iff y _).mpr hxy.symm).trans (Base64.parse_text _).symm)

end PacketAuth
