import PacketAuth.Proofs.FirstDefect
import PacketAuth.Proofs.Runs
import PacketAuth.Proofs.WrittenDecimal

/-! # Control characters

Nothing that is typed can break a line of what is written.  Messages are made of constant texts, of
numbers, and of quoted text, in which control characters are escaped (`Text.ControlFree`), so the
line feeds on either stream of a prompt are those that end its lines (`Text.BreaksOnly`), as many as
there are rounds of the kind (`no_control_characters`). -/

namespace PacketAuth

namespace Text

/-- The control characters of Unicode: those below the space, and from DEL to the end of C1. -/
def IsControl (c : Char) : Prop := c.toNat ≤ 0x1F ∨ 0x7F ≤ c.toNat ∧ c.toNat ≤ 0x9F

instance (c : Char) : Decidable (IsControl c) := inferInstanceAs (Decidable (_ ∨ _))

/-- A text without control characters. -/
def ControlFree (s : String) : Prop := ∀ c ∈ s.toList, ¬ IsControl c

instance (s : String) : Decidable (ControlFree s) := List.decidableBAll ..

/-- `BreaksOnly k s`: the text has `k` line feeds, and no other control characters. -/
def BreaksOnly (k : Nat) (s : String) : Prop :=
  s.toList.count '\n' = k ∧ ∀ c ∈ s.toList, IsControl c → c = '\n'

instance (k : Nat) (s : String) : Decidable (BreaksOnly k s) :=
  @instDecidableAnd _ _ (inferInstanceAs (Decidable (_ = _))) (List.decidableBAll ..)

variable {j k n : Nat} {s t : String} {c d : Char}

theorem controlFree_append : ControlFree (s ++ t) ↔ ControlFree s ∧ ControlFree t := by
  unfold ControlFree
  rw [String.toList_append, List.forall_mem_append]

theorem BreaksOnly.append (hs : BreaksOnly j s) (ht : BreaksOnly k t) :
    BreaksOnly (j + k) (s ++ t) := by
  unfold BreaksOnly
  rw [String.toList_append, List.count_append, List.forall_mem_append, hs.1, ht.1]
  exact ⟨rfl, hs.2, ht.2⟩

theorem ControlFree.breaksOnly (h : ControlFree s) : BreaksOnly 0 s := by
  constructor
  · exact List.count_eq_zero.mpr fun hm => h _ hm (by decide)
  · exact fun c hc hcontrol => absurd hcontrol (h c hc)

/-! ### Numbers -/

/-- The digits of a number are no control characters. -/
theorem not_isControl_of_mem_toDigits {base : Nat} (h1 : 1 < base) (h16 : base ≤ 16)
    (hc : c ∈ Nat.toDigits base n) : ¬ IsControl c := by
  have hdigit : ∀ d < 16, ¬ IsControl d.digitChar := by decide
  induction n using Nat.strongRecOn with
  | _ n ih =>
      rw [Nat.toDigits_eq_if h1] at hc
      split_ifs at hc with hn
      · rw [List.mem_singleton.mp hc]
        exact hdigit n (by omega)
      · rcases List.mem_append.mp hc with hc | hc
        · exact ih (n / base) (Nat.div_lt_self (by omega) h1) hc
        · have hlt := Nat.mod_lt n (show 0 < base by omega)
          rw [List.mem_singleton.mp hc]
          exact hdigit _ (by omega)

theorem controlFree_natural (n : Nat) : ControlFree (toString n) := by
  intro c hc
  have hd : c ∈ Nat.toDigits 10 n := Nat.toList_repr ▸ hc
  exact not_isControl_of_mem_toDigits (by decide) (by decide) hd

theorem controlFree_integer (v : Int) : ControlFree (toString v) := by
  cases v with
  | ofNat n => exact controlFree_natural n
  | negSucc n => exact controlFree_append.mpr ⟨by decide, controlFree_natural (n + 1)⟩

/-! ### Quoted text -/

/-- A control character is written by its escape. -/
theorem not_isControl_of_mem_escape (h : d ∈ escape c) : ¬ IsControl d := by
  have hpair : ∀ {x : Char}, ¬ IsControl x → d ∈ ['\\', x] → ¬ IsControl d := by
    intro x hx hd
    rcases List.mem_pair.mp hd with rfl | rfl
    · decide
    · exact hx
  unfold escape at h
  split_ifs at h with h1 h2 h3 h4 h5 h6 h7
  · exact hpair (by decide) h
  · exact hpair (by decide) h
  · exact hpair (by decide) h
  · exact hpair (by decide) h
  · exact hpair (by decide) h
  · exact hpair (by decide) h
  · have hopen : ControlFree "\\u\x7b" := by decide
    have hclose : ControlFree "\x7d" := by decide
    rcases List.mem_append.mp h with h | h
    · rcases List.mem_append.mp h with h | h
      · exact hopen d h
      · exact not_isControl_of_mem_toDigits (by decide) (by decide) h
    · exact hclose d h
  · rw [List.mem_singleton.mp h]
    intro hc
    have hu := isUnprintable_of_control (hc.imp_left Nat.lt_succ_of_le)
    exact h7 (by rw [hu, Bool.or_true])

theorem controlFree_quote (s : String) : ControlFree (quote s) := by
  unfold quote ControlFree
  rw [String.toList_ofList, List.cons_append, List.forall_mem_cons, List.forall_mem_append,
    List.forall_mem_singleton]
  refine ⟨by decide, fun d hd => ?_, by decide⟩
  obtain ⟨c, -, hd⟩ := List.mem_flatMap.mp hd
  exact not_isControl_of_mem_escape hd

end Text

open Text (ControlFree BreaksOnly)

/-! ### Messages -/

theorem Base64.Fault.controlFree_message (f : Fault) : ControlFree f.message := by
  cases f with
  | symbol byte offset =>
      show ControlFree ("Invalid symbol " ++ toString byte.toNat ++ ", offset " ++
        toString offset ++ ".")
      simp only [Text.controlFree_append, Text.controlFree_natural, and_true]
      decide
  | length symbols =>
      show ControlFree ("Invalid input length: " ++ toString symbols)
      simp only [Text.controlFree_append, Text.controlFree_natural, and_true]
      decide
  | lastSymbol byte offset =>
      show ControlFree ("Invalid last symbol " ++ toString byte.toNat ++ ", offset " ++
        toString offset ++ ".")
      simp only [Text.controlFree_append, Text.controlFree_natural, and_true]
      decide
  | padding => decide

theorem PacketNumber.Fault.controlFree_message (f : Fault) : ControlFree f.message := by
  cases f with
  | notInteger text => exact Text.controlFree_append.mpr ⟨Text.controlFree_quote text, by decide⟩
  | negative v => exact Text.controlFree_append.mpr ⟨Text.controlFree_integer v, by decide⟩
  | tooLarge v =>
      show ControlFree (toString v ++ " does not fit in " ++ toString wireBytes ++ " bytes")
      simp only [Text.controlFree_append, Text.controlFree_natural, Text.controlFree_integer,
        and_true, true_and]
      decide

theorem Base64.Fault.controlFree_ofSignatureText (f : Fault) :
    ControlFree (Failure.signing (.ofSignatureText f)).message :=
  Text.controlFree_append.mpr ⟨by decide, f.controlFree_message⟩

variable {s : Signer} {data number key : String} {f : Failure}

theorem Defect.Reports.controlFree {d : Defect} (h : d.Reports s number key f) :
    ControlFree f.message := by
  cases d with
  | data =>
      obtain rfl : f = .notAscii := h
      decide
  | keyText =>
      obtain ⟨fault, -, rfl⟩ := h
      exact Text.controlFree_append.mpr ⟨by decide, fault.controlFree_message⟩
  | weakKey =>
      obtain ⟨bs, -, rfl⟩ := h
      show ControlFree ("key too weak: " ++ toString (8 * bs.length) ++
        " bits supplied, at least " ++ toString s.policy.minKeyBits.toNat ++ " required")
      simp only [Text.controlFree_append, Text.controlFree_natural, and_true]
      decide
  | number =>
      obtain ⟨fault, -, rfl⟩ := h
      exact Text.controlFree_append.mpr ⟨by decide, fault.controlFree_message⟩

theorem Signer.controlFree_of_prepare_error {bytes : Bytes}
    (h : s.prepare bytes number key = .error f) : ControlFree f.message := by
  obtain ⟨d, hd⟩ := exists_reports_of_prepare_error h
  exact hd.controlFree

theorem SignRequest.controlFree_of_error {r : SignRequest} (h : r.transcript s = .error f) :
    ControlFree f.message :=
  Signer.controlFree_of_prepare_error (run_eq_error_iff.mp (transcript_eq_error_iff.mp h))

theorem VerifyRequest.controlFree_of_error {r : VerifyRequest} (h : r.transcript s = .error f) :
    ControlFree f.message := by
  rcases run_eq_error_iff.mp (transcript_eq_error_iff.mp h) with hp | ⟨-, fault, -, -, rfl⟩
  · exact Signer.controlFree_of_prepare_error hp
  · exact fault.controlFree_ofSignatureText

namespace Prompt

/-! ### Rounds -/

theorem controlFree_of_mem_rounds {ls : List Bytes} (h : .error f ∈ rounds s ls) :
    ControlFree f.message := by
  obtain ⟨-, a, b, c, -, -, -, hr⟩ := exists_lines_of_mem_rounds h
  exact Signer.controlFree_of_prepare_error (Signer.reportOn_eq_error_iff.mp hr)

/-- The messages of the rounds that failed. -/
def messages (rs : List (Except Failure Report)) : List String :=
  rs.filterMap fun
    | .ok _ => none
    | .error f => some f.message

/-- The line that reports a round that failed. -/
def errorLine (message : String) : String := "error: " ++ message ++ "\n"

theorem mem_messages {rs : List (Except Failure Report)} {m : String} (h : m ∈ messages rs) :
    ∃ f, .error f ∈ rs ∧ f.message = m := by
  obtain ⟨r, hr, hm⟩ := List.mem_filterMap.mp h
  cases r with
  | error f => exact ⟨f, hr, Option.some.inj hm⟩
  | ok r => cases hm

/-- Each round either fails or does not. -/
theorem countP_isOk_add_length_messages (rs : List (Except Failure Report)) :
    rs.countP (·.isOk) + (messages rs).length = rs.length := by
  induction rs with
  | nil => rfl
  | cons r rs ih =>
      cases r with
      | error f =>
          have hm : messages (.error f :: rs) = f.message :: messages rs := rfl
          have hc : (Except.error f :: rs).countP (·.isOk) = rs.countP (·.isOk) := rfl
          rw [hm, hc, List.length_cons, List.length_cons]
          omega
      | ok r =>
          have hm : messages (.ok r :: rs) = messages rs := rfl
          rw [hm, List.countP_cons_of_pos rfl, List.length_cons]
          omega

theorem join_complaint (rs : List (Except Failure Report)) :
    String.join (rs.map complaint) = String.join ((messages rs).map errorLine) := by
  induction rs with
  | nil => rfl
  | cons r rs ih =>
      rw [List.map_cons, String.join_cons, ih]
      cases r with
      | error f =>
          have hm : messages (.error f :: rs) = f.message :: messages rs := rfl
          rw [hm, List.map_cons, String.join_cons]
          rfl
      | ok r => exact String.empty_append

theorem breaksOnly_errorLines {ms : List String} (h : ∀ m ∈ ms, ControlFree m) :
    BreaksOnly ms.length (String.join (ms.map errorLine)) := by
  induction ms with
  | nil => decide
  | cons m ms ih =>
      rw [List.forall_mem_cons] at h
      have hline : BreaksOnly 1 (errorLine m) := by
        have hopen : ControlFree ("error: " ++ m) := Text.controlFree_append.mpr ⟨by decide, h.1⟩
        have hclose : BreaksOnly 1 "\n" := by decide
        exact hopen.breaksOnly.append hclose
      rw [List.map_cons, String.join_cons, List.length_cons, Nat.add_comm]
      exact hline.append (ih h.2)

/-- What a round adds to the output stream: a line if it is signed, and else questions only. -/
theorem breaksOnly_reply (r : Except Failure Report) :
    BreaksOnly (if r.isOk then 1 else 0) (String.join questions ++ reply r) := by
  have hq : BreaksOnly 0 (String.join questions) := by decide
  cases r with
  | error f =>
      have hr : BreaksOnly 0 "" := by decide
      exact hq.append hr
  | ok r =>
      have ht : ControlFree r.signature.text := by
        intro c hc
        exact Base64.forall_mem_text (P := fun c => ¬ Text.IsControl c) (by decide) (by decide)
          r.signature.bytes c hc
      have hopen : ControlFree ("Packet signature: " ++ r.signature.text) :=
        Text.controlFree_append.mpr ⟨by decide, ht⟩
      have hclose : BreaksOnly 1 "\n" := by decide
      have hr : BreaksOnly 1 (reply (.ok r)) := hopen.breaksOnly.append hclose
      exact hq.append hr

theorem breaksOnly_replies (rs : List (Except Failure Report)) :
    BreaksOnly (rs.countP (·.isOk))
      (String.join (rs.map fun r => String.join questions ++ reply r)) := by
  induction rs with
  | nil => decide
  | cons r rs ih =>
      rw [List.map_cons, String.join_cons, List.countP_cons, Nat.add_comm]
      exact (breaksOnly_reply r).append ih

theorem controlFree_questions (k : Nat) : ControlFree (String.join (questions.take k)) := by
  match k with
  | 0 => decide
  | 1 => decide
  | 2 => decide
  | k + 3 =>
      have hall : questions.take (k + 3) = questions := by simp [questions]
      rw [hall]
      decide

/-! ### The streams of a prompt -/

/-- As many rounds fail as the tally says. -/
theorem length_messages_rounds (s : Signer) (input : Bytes) :
    (messages (rounds s (lines input))).length = (run s input).1.rejected := by
  obtain ⟨hsigned, hall⟩ := tally_runFrom s (lines input) {}
  have hcount := countP_isOk_add_length_messages (rounds s (lines input))
  show _ = (runFrom s {} (lines input)).1.tally.rejected
  simp only [Nat.zero_add] at hsigned hall
  omega

theorem controlFree_of_mem_messages {ls : List Bytes} : ∀ m ∈ messages (rounds s ls),
    ControlFree m := by
  intro m hm
  obtain ⟨f, hf, rfl⟩ := mem_messages hm
  exact controlFree_of_mem_rounds hf

theorem stderr_run (s : Signer) (input : Bytes) : Transcript.stderr [] (run s input).2 =
    String.join ((messages (rounds s (lines input))).map errorLine) := by
  rw [← join_complaint]
  exact stderr_runFrom s (lines input) {}

theorem breaksOnly_stderr_run (s : Signer) (input : Bytes) :
    BreaksOnly (run s input).1.rejected (Transcript.stderr [] (run s input).2) := by
  rw [stderr_run, ← length_messages_rounds]
  exact breaksOnly_errorLines controlFree_of_mem_messages

theorem breaksOnly_stdout_run (s : Signer) (input : Bytes) :
    BreaksOnly (run s input).1.signed (Transcript.stdout (run s input).2) := by
  have hout : Transcript.stdout (run s input).2 = _ := stdout_runFrom s (lines input) {}
  have hsigned : (run s input).1.signed = _ := (tally_runFrom s (lines input) {}).1
  have hquestions := controlFree_questions ((lines input).length % 3 + 1)
  rw [hout, hsigned, Nat.zero_add]
  exact (breaksOnly_replies _).append hquestions.breaksOnly

end Prompt

/-- **No control characters get through.**  If nothing is logged, a prompt writes to the error
stream one line for each round that fails, which opens with `error: ` and holds a message without
control characters; and to the output stream it writes as many line feeds as there are rounds that
are signed.  There is no other control character on either stream, whatever the input is, nor in
the message of any failure of a request to sign or to verify. -/
theorem no_control_characters (s : Signer) :
    (∀ input (filter : Log.Filter), filter.Off → ∃ messages : List String,
      Transcript.stderr filter (Prompt.run s input).2 =
        String.join (messages.map fun m => "error: " ++ m ++ "\n") ∧
      messages.length = (Prompt.run s input).1.rejected ∧ (∀ m ∈ messages, ControlFree m) ∧
      BreaksOnly (Prompt.run s input).1.rejected
        (Transcript.stderr filter (Prompt.run s input).2)) ∧
    (∀ input, BreaksOnly (Prompt.run s input).1.signed
      (Transcript.stdout (Prompt.run s input).2)) ∧
    (∀ r f, SignRequest.transcript s r = .error f → ControlFree f.message) ∧
    (∀ r f, VerifyRequest.transcript s r = .error f → ControlFree f.message) := by
  refine ⟨fun input filter hoff => ?_, Prompt.breaksOnly_stdout_run s,
    fun r f => SignRequest.controlFree_of_error, fun r f => VerifyRequest.controlFree_of_error⟩
  rw [Transcript.stderr_of_off hoff]
  exact ⟨_, Prompt.stderr_run s input, Prompt.length_messages_rounds s input,
    Prompt.controlFree_of_mem_messages, Prompt.breaksOnly_stderr_run s input⟩

/-- With the log off, a prompt gets a number with an escape sequence in it, and a request to sign
one with a line of its own. -/
theorem no_control_characters_quoted :
    (Log.Filter.ofSetting (some "off")).Off ∧
    (∃ messages : List String,
      Transcript.stderr (Log.Filter.ofSetting (some "off"))
          (Prompt.run .standard (Utf8.encode "hi\n\x1b[2J\nAAAAAAAAAAAAAAAAAAAAAA==\n")).2 =
        String.join (messages.map fun m => "error: " ++ m ++ "\n") ∧
      (∀ m ∈ messages, ControlFree m)) ∧
    SignRequest.transcript .standard
        ⟨"hi", "7\nerror: none", "AAAAAAAAAAAAAAAAAAAAAA==", false⟩ =
      .error (.signing (.ofNumber (.notInteger "7\nerror: none"))) ∧
    ControlFree (Failure.signing (.ofNumber (.notInteger "7\nerror: none"))).message := by
  obtain ⟨hprompt, -, hsign, -⟩ := no_control_characters .standard
  have hoff : (Log.Filter.ofSetting (some "off")).Off := Log.Filter.off_ofSetting
  obtain ⟨messages, herr, -, hfree, -⟩ := hprompt
    (Utf8.encode "hi\n\x1b[2J\nAAAAAAAAAAAAAAAAAAAAAA==\n") _ hoff
  have hf : SignRequest.transcript .standard
      ⟨"hi", "7\nerror: none", "AAAAAAAAAAAAAAAAAAAAAA==", false⟩ =
        .error (.signing (.ofNumber (.notInteger "7\nerror: none"))) := by rfl
  exact ⟨hoff, ⟨messages, herr, hfree⟩, hf, hsign _ _ hf⟩

end PacketAuth
