import PacketAuth.Command.Request
import PacketAuth.Proofs.Base64Codec
import PacketAuth.Proofs.SignerLaws

/-! # Laws of requests

What a request on texts comes to once its parts are checked.  The checks are stated once
(`Signer.prepare_eq_ok_iff`); a prepared request cannot fail any more, so that signing is certifying
the packet (`SignRequest.run_eq_ok_iff`) and verifying is comparing the signature that is read with
the one of the certified packet (`VerifyRequest.run_eq_ok_iff`). -/

namespace PacketAuth

namespace Signer
variable {s : Signer} {data : Bytes} {number key : String}

@[simp] theorem lift_ok {α : Type} (a : α) : lift (.ok a) = .ok a := rfl

theorem lift_eq_ok_iff {α : Type} {x : Except SigningError α} {a : α} :
    lift x = .ok a ↔ x = .ok a := by
  cases x with
  | error e => simp [lift]
  | ok b => simp [lift]

theorem lift_alike {α : Type} {R : α → α → Prop} {x y : Except SigningError α} (h : x.Alike R y) :
    (lift x).Alike R (lift y) := by
  cases h with
  | error e => exact .error _
  | ok h => exact .ok h

theorem asciiData_eq_ok_iff {payload : Bytes} :
    asciiData data = .ok payload ↔ Utf8.isAscii data = true ∧ payload = data := by
  unfold asciiData
  split_ifs with h
  · simp [h, eq_comm]
  · simp [h]

/-- A request is in order exactly if each of its parts is. -/
theorem prepare_eq_ok_iff {p : Prepared} : s.prepare data number key = .ok p ↔
    Utf8.isAscii data = true ∧ p.payload = data ∧ Key.parse key = .ok p.key ∧
      s.policy.checkKey p.key = .ok () ∧ PacketNumber.ofText number = .ok p.number := by
  unfold prepare
  simp only [Except.bind_eq_ok_iff, lift_eq_ok_iff, asciiData_eq_ok_iff]
  constructor
  · rintro ⟨_, ⟨ha, rfl⟩, k, hk, _, hc, n, hn, h⟩
    cases h
    exact ⟨ha, rfl, hk, hc, hn⟩
  · rintro ⟨ha, rfl, hk, hc, hn⟩
    exact ⟨_, ⟨ha, rfl⟩, p.key, hk, (), hc, p.number, hn, rfl⟩

theorem report_prepared {p : Prepared} (h : s.prepare data number key = .ok p) :
    s.report p.payload (.packet p.number) p.key = .ok (s.certify p.payload p.number p.key) := by
  obtain ⟨-, -, -, hc, -⟩ := prepare_eq_ok_iff.mp h
  exact report_packet hc ..

theorem reportOn_eq_ok_iff {r : Report} : s.reportOn data number key = .ok r ↔
    ∃ p, s.prepare data number key = .ok p ∧ s.certify p.payload p.number p.key = r := by
  unfold reportOn
  simp only [Except.bind_eq_ok_iff, lift_eq_ok_iff]
  constructor
  · rintro ⟨p, hp, h⟩
    rw [report_prepared hp] at h
    exact ⟨p, hp, Except.ok.inj h⟩
  · rintro ⟨p, hp, rfl⟩
    exact ⟨p, hp, report_prepared hp⟩

end Signer

/-! ### Base64 texts -/

theorem Base64.map_parse_eq_ok_iff {α ε : Type} {f : Bytes → α} {g : Fault → ε} {t : String}
    {a : α} : ((parse t).map f).mapError g = .ok a ↔ ∃ bs, Text.trim t = text bs ∧ f bs = a := by
  rw [Except.mapError_eq_ok_iff, Except.map_eq_ok_iff]
  simp only [parse_eq_ok_iff]

theorem Signature.parse_eq_ok_iff {text : String} {sig : Signature} :
    parse text = .ok sig ↔ Text.trim text = sig.text := by
  unfold parse
  rw [Base64.map_parse_eq_ok_iff]
  constructor
  · rintro ⟨bs, h, rfl⟩
    exact h
  · intro h
    exact ⟨_, h, rfl⟩

theorem Key.parse_eq_ok_iff {text : String} {k : Key} :
    parse text = .ok k ↔ Text.trim text = Base64.text k.bytes := by
  unfold parse
  rw [Base64.map_parse_eq_ok_iff]
  constructor
  · rintro ⟨bs, h, rfl⟩
    exact h
  · intro h
    exact ⟨_, h, rfl⟩

/-! ### Requests -/

theorem SignRequest.run_eq_ok_iff {s : Signer} {r : SignRequest} {report : Report} :
    r.run s = .ok report ↔ ∃ p, s.prepare (Utf8.encode r.data) r.number r.key = .ok p ∧
      s.certify p.payload p.number p.key = report :=
  Signer.reportOn_eq_ok_iff

/-- Writing fails where signing does. -/
theorem SignRequest.transcript_eq_error_iff {s : Signer} {r : SignRequest} {f : Failure} :
    r.transcript s = .error f ↔ r.run s = .error f :=
  Except.map_eq_error_iff

namespace VerifyRequest
variable {s : Signer} {r : VerifyRequest} {p : Prepared} {sig : Signature}

theorem run_prepared (hp : s.prepare (Utf8.encode r.data) r.number r.key = .ok p)
    (hs : Signature.parse r.signature = .ok sig) :
    r.run s = .ok ⟨decide ((s.certify p.payload p.number p.key).signature = sig),
      s.certify p.payload p.number p.key⟩ := by
  have hk := (Signer.prepare_eq_ok_iff.mp hp).2.2.2.1
  unfold run
  rw [hp, hs, Except.ok_bind, Signer.lift_ok, Except.ok_bind, Signer.report_prepared hp,
    Signer.lift_ok, Except.ok_bind, Signer.verify_of_sign (Signer.sign_packet hk ..)]
  by_cases h : (s.certify p.payload p.number p.key).signature = sig
  · rw [if_pos h, decide_eq_true h]
    rfl
  · rw [if_neg h, decide_eq_false h]
    rfl

theorem run_eq_ok_iff {v : Verdict} : r.run s = .ok v ↔
    ∃ p sig, s.prepare (Utf8.encode r.data) r.number r.key = .ok p ∧
      Signature.parse r.signature = .ok sig ∧
      v = ⟨decide ((s.certify p.payload p.number p.key).signature = sig),
        s.certify p.payload p.number p.key⟩ := by
  constructor
  · intro h
    obtain ⟨p, hp, hrest⟩ := Except.bind_eq_ok_iff.mp h
    obtain ⟨sig, hs, -⟩ := Except.bind_eq_ok_iff.mp hrest
    rw [Signer.lift_eq_ok_iff] at hs
    rw [run_prepared hp hs] at h
    exact ⟨p, sig, hp, hs, (Except.ok.inj h).symm⟩
  · rintro ⟨p, sig, hp, hs, rfl⟩
    exact run_prepared hp hs

/-- Writing fails where verifying does. -/
theorem transcript_eq_error_iff {f : Failure} : r.transcript s = .error f ↔ r.run s = .error f :=
  Except.map_eq_error_iff

end VerifyRequest
end PacketAuth
