import PacketAuth.Proofs.Acceptance
import PacketAuth.Proofs.PromptTranscript
import PacketAuth.Proofs.ReadText

/-! # A round typed at the prompt

Three texts can be signed in two ways: as a request, or as three lines at the prompt.  A text that
fits on a line reaches the prompt as it is (`Prompt.lines_typed`), so that either way prints the
same signature or fails with the same message (`round_agrees_with_request`). -/

namespace PacketAuth

/-- A text that a line can hold: no line feed in it, and no carriage return at its end. -/
def FitsLine (t : String) : Prop := '\n' ∉ t.toList ∧ t.toList.getLast? ≠ some '\r'

instance (t : String) : Decidable (FitsLine t) := inferInstanceAs (Decidable (_ ∧ _))

/-- Three texts, each ended by a line feed. -/
def typed (data number key : String) : Bytes :=
  Utf8.encode (data ++ "\n" ++ number ++ "\n" ++ key ++ "\n")

namespace Prompt

/-! ### The lines -/

theorem typed_eq (data number key : String) : typed data number key =
    Utf8.encode data ++ 10 :: (Utf8.encode number ++ 10 :: (Utf8.encode key ++ 10 :: [])) := by
  have h : Utf8.encode "\n" = [10] := rfl
  unfold typed
  simp only [Utf8.encode_append, h, List.append_assoc, List.cons_append, List.nil_append]

theorem not_mem_encode {t : String} (h : FitsLine t) : 10 ∉ Utf8.encode t :=
  fun hm => h.1 (Utf8.mem_of_mem_encode hm (by decide))

theorem withoutReturn_encode {t : String} (h : FitsLine t) :
    withoutReturn (Utf8.encode t) = Utf8.encode t := by
  unfold withoutReturn
  rw [if_neg]
  exact fun hl => h.2 (Utf8.getLast?_of_getLast?_encode hl (by decide))

/-- A text that fits on a line is one. -/
theorem lines_encode_append {t : String} (h : FitsLine t) {rest : Bytes} {ls : List Bytes}
    (hr : Lines rest ls) : Lines (Utf8.encode t ++ 10 :: rest) (Utf8.encode t :: ls) := by
  have hl := Lines.ended (not_mem_encode h) hr
  rwa [withoutReturn_encode h] at hl

variable {data number key : String}

theorem lines_typed (hd : FitsLine data) (hn : FitsLine number) (hk : FitsLine key) :
    lines (typed data number key) = [Utf8.encode data, Utf8.encode number, Utf8.encode key] := by
  have hl : Lines (typed data number key)
      [Utf8.encode data, Utf8.encode number, Utf8.encode key] := by
    rw [typed_eq]
    exact lines_encode_append hd (lines_encode_append hn (lines_encode_append hk .none))
  exact (lines_iff.mp hl).symm

/-! ### The round -/

variable (s : Signer)

/-- A round on the bytes of three texts is a request on the texts. -/
theorem signRound_encode (data number key : String) (json : Bool) :
    signRound s (Utf8.encode data) (Utf8.encode number) (Utf8.encode key) =
      SignRequest.run s ⟨data, number, key, json⟩ := by
  unfold signRound SignRequest.run
  rw [Utf8.decodeLossy_encode, Utf8.decodeLossy_encode]

/-- The prompt after three lines: one round, and the question for the next. -/
theorem run_typed (hd : FitsLine data) (hn : FitsLine number) (hk : FitsLine key) :
    run s (typed data number key) =
      (Tally.count {} (SignRequest.run s ⟨data, number, key, false⟩),
        (runFrom s {} [Utf8.encode data, Utf8.encode number, Utf8.encode key]).2) := by
  unfold run
  rw [lines_typed hd hn hk, ← signRound_encode]
  rfl

theorem rounds_typed (data number key : String) :
    rounds s [Utf8.encode data, Utf8.encode number, Utf8.encode key] =
      [SignRequest.run s ⟨data, number, key, false⟩] := by
  rw [rounds_cons, rounds_unfinished s (by decide), signRound_encode]

theorem stdout_typed (hd : FitsLine data) (hn : FitsLine number) (hk : FitsLine key) :
    Transcript.stdout (run s (typed data number key)).2 =
      String.join questions ++ reply (SignRequest.run s ⟨data, number, key, false⟩) ++
        "Enter packet data to sign> " := by
  rw [run_typed s hd hn hk]
  refine (stdout_runFrom s _ {}).trans ?_
  rw [rounds_typed]
  simp [questions]

theorem stderr_typed (hd : FitsLine data) (hn : FitsLine number) (hk : FitsLine key) :
    Transcript.stderr [] (run s (typed data number key)).2 =
      complaint (SignRequest.run s ⟨data, number, key, false⟩) := by
  rw [run_typed s hd hn hk]
  refine (stderr_runFrom s _ {}).trans ?_
  rw [rounds_typed]
  simp

/-! ### Two ways to sign -/

/-- The prompt, given three texts as lines, prints that `x` is the signature. -/
def RoundPrints (data number key x : String) : Prop :=
  (run s (typed data number key)).1 = ⟨1, 0⟩ ∧
    Transcript.stdout (run s (typed data number key)).2 =
      String.join questions ++ ("Packet signature: " ++ x ++ "\n") ++ "Enter packet data to sign> "

/-- The prompt, given three texts as lines, rejects them with `message` and prints nothing. -/
def RoundRejects (data number key message : String) : Prop :=
  (run s (typed data number key)).1 = ⟨0, 1⟩ ∧
    Transcript.stdout (run s (typed data number key)).2 =
      String.join questions ++ "Enter packet data to sign> " ∧
    Transcript.stderr [] (run s (typed data number key)).2 = "error: " ++ message ++ "\n"

theorem reply_error (f : Failure) : reply (.error f) = "" := rfl

theorem complaint_error_eq_iff {f : Failure} {m : String} :
    complaint (.error f) = "error: " ++ m ++ "\n" ↔ f.message = m := by
  have hc : complaint (.error f) = "error: " ++ f.message ++ "\n" := rfl
  rw [hc, String.append_left_inj, String.append_right_inj]

end Prompt

/-- Signing fails with `message`. -/
def SignFails (s : Signer) (data number key message : String) : Prop :=
  ∃ f, SignRequest.transcript s ⟨data, number, key, false⟩ = .error f ∧ f.message = message

theorem prints_iff_run {s : Signer} {data number key x : String} : Prints s data number key x ↔
    ∃ report, SignRequest.run s ⟨data, number, key, false⟩ = .ok report ∧
      report.signature.text = x := by
  simp only [prints_iff, SignRequest.run_eq_ok_iff]
  constructor
  · rintro ⟨p, hp, hx⟩
    exact ⟨_, ⟨p, hp, rfl⟩, hx⟩
  · rintro ⟨_, ⟨p, hp, rfl⟩, hx⟩
    exact ⟨p, hp, hx⟩

/-- **Either way of signing gives the same answer.**  For texts that fit on a line, the prompt
prints the signature that a request to sign prints, and if there is none it rejects the round with
the message that the request fails with. -/
theorem round_agrees_with_request (s : Signer) (data number key : String) (hd : FitsLine data)
    (hn : FitsLine number) (hk : FitsLine key) :
    (∀ x, Prompt.RoundPrints s data number key x ↔ Prints s data number key x) ∧
    (∀ m, Prompt.RoundRejects s data number key m ↔ SignFails s data number key m) ∧
    ((¬ ∃ x, Prints s data number key x) → ∃ m, SignFails s data number key m) := by
  have hout := Prompt.stdout_typed s hd hn hk
  have herr := Prompt.stderr_typed s hd hn hk
  have htally := congrArg Prod.fst (Prompt.run_typed s hd hn hk)
  have hne : (⟨0, 1⟩ : Tally) ≠ ⟨1, 0⟩ := by decide
  unfold Prompt.RoundPrints Prompt.RoundRejects SignFails
  simp only [prints_iff_run, SignRequest.transcript_eq_error_iff, hout, herr, htally]
  cases SignRequest.run s ⟨data, number, key, false⟩ with
  | error f =>
      refine ⟨fun x => ?_, fun m => ?_, fun _ => ⟨_, f, rfl, rfl⟩⟩
      · constructor
        · rintro ⟨ht, -⟩
          exact absurd ht hne
        · rintro ⟨_, hr, -⟩
          cases hr
      · constructor
        · rintro ⟨-, -, he⟩
          exact ⟨f, rfl, Prompt.complaint_error_eq_iff.mp he⟩
        · rintro ⟨g, hg, hm⟩
          obtain rfl := Except.error.inj hg
          refine ⟨rfl, ?_, Prompt.complaint_error_eq_iff.mpr hm⟩
          rw [Prompt.reply_error, String.append_empty]
  | ok report =>
      refine ⟨fun x => ?_, fun m => ?_, fun h => absurd ⟨_, report, rfl, rfl⟩ h⟩
      · constructor
        · rintro ⟨-, ho⟩
          rw [String.append_left_inj, String.append_right_inj] at ho
          exact ⟨report, rfl, signatureLine_eq_iff.mp ho⟩
        · rintro ⟨r, hr, hx⟩
          obtain rfl := Except.ok.inj hr
          refine ⟨rfl, ?_⟩
          rw [String.append_left_inj, String.append_right_inj]
          exact signatureLine_eq_iff.mpr hx
      · constructor
        · rintro ⟨ht, -⟩
          exact absurd ht hne.symm
        · rintro ⟨_, hr, -⟩
          cases hr

/-- A text of three characters, a number with a blank before it, and a key of sixteen zeros. -/
theorem round_agrees_with_request_zeros :
    FitsLine "a\rb" ∧ FitsLine " 7" ∧ FitsLine "AAAAAAAAAAAAAAAAAAAAAA==" ∧
      (∀ x, Prompt.RoundPrints .standard "a\rb" " 7" "AAAAAAAAAAAAAAAAAAAAAA==" x ↔
        Prints .standard "a\rb" " 7" "AAAAAAAAAAAAAAAAAAAAAA==" x) ∧
      ∀ m, Prompt.RoundRejects .standard "a\rb" " 7" "AAAAAAAAAAAAAAAAAAAAAA==" m ↔
        SignFails .standard "a\rb" " 7" "AAAAAAAAAAAAAAAAAAAAAA==" m := by
  have hd : FitsLine "a\rb" := by decide
  have hn : FitsLine " 7" := by decide
  have hk : FitsLine "AAAAAAAAAAAAAAAAAAAAAA==" := by decide
  obtain ⟨hprints, hrejects, -⟩ := round_agrees_with_request .standard _ _ _ hd hn hk
  exact ⟨hd, hn, hk, hprints, hrejects⟩

end PacketAuth
