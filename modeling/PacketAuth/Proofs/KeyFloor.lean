import PacketAuth.Proofs.FirstDefect
import PacketAuth.Proofs.Runs

/-! # The floor under the length of keys

Whatever the arguments, the configuration file and the input are, a run writes a signature, a report
or a verdict only with a key that is as long as the effective policy asks for, and never with one of
less than sixteen bytes (`key_floor`).  Such entries are told by how they open (`Entry.Attests`), so
that no other entry can pass for one of them. -/

namespace PacketAuth

/-- How a line with a signature, a report in JSON, and the two verdicts open. -/
def attestations : List String := ["Packet signature: ", "\x7b", "[OK]", "[BAD]"]

/-- The entry opens like one that gives a signature, a report or a verdict. -/
def Entry.Attests (e : Entry) : Prop := ∃ o ∈ attestations, o.toList <+: e.stdout.toList

instance (e : Entry) : Decidable e.Attests := inferInstanceAs (Decidable (∃ o ∈ attestations, _))

/-- `c.Produces s input key e`: carrying out `c`, the signer `s` uses the key of the text `key` and
`e` is the outcome. -/
inductive Command.Produces (s : Signer) (input : Bytes) : Command → String → Entry → Prop
  | sign {r : SignRequest} {report : Report} : r.run s = .ok report →
      Produces s input (.sign r) r.key (.out (r.output report))
  | verify {r : VerifyRequest} {v : Verdict} : r.run s = .ok v →
      Produces s input (.verify r) r.key (.out v.output)
  | round {i : Nat} {data number key : Bytes} {report : Report} :
      (Prompt.lines input)[3 * i]? = some data →
      (Prompt.lines input)[3 * i + 1]? = some number →
      (Prompt.lines input)[3 * i + 2]? = some key →
      Prompt.signRound s data number key = .ok report →
      Produces s input .prompt (Utf8.decodeLossy key) (.out (signatureLine report.signature))

/-! ### How entries open -/

namespace Entry

theorem not_attests_of_stdout {e : Entry} (h : e.stdout = "") : ¬ e.Attests := by
  rintro ⟨o, ho, hp⟩
  rw [h, String.toList_empty, List.prefix_nil] at hp
  revert o
  decide

/-- A text attests nothing if it departs from each opening within its first part. -/
theorem not_attests_append {a : String} (h : ∀ o ∈ attestations, ¬ o.toList <+: a.toList ∧
    ¬ a.toList <+: o.toList) (b : String) : ¬ (out (a ++ b)).Attests := by
  rintro ⟨o, ho, hp⟩
  have ha : a.toList <+: (out (a ++ b)).stdout.toList := by
    show a.toList <+: (a ++ b).toList
    rw [String.toList_append]
    exact List.prefix_append ..
  obtain ⟨h1, h2⟩ := h o ho
  rcases List.prefix_or_prefix_of_prefix hp ha with h | h
  · exact h1 h
  · exact h2 h

theorem not_attests_question : ∀ q ∈ Prompt.questions, ¬ (out q).Attests := by decide

theorem not_attests_help (t : CommandLine.Topic) : ¬ (out t.text).Attests := by
  have h : ∃ b, t.text = t.about ++ b := by
    unfold CommandLine.Topic.text
    simp only [String.append_assoc]
    exact ⟨_, rfl⟩
  have habout : ∀ o ∈ attestations, ¬ o.toList <+: t.about.toList ∧
      ¬ t.about.toList <+: o.toList := by
    cases t with
    | place p => cases p <;> decide
    | help => decide
  obtain ⟨b, h⟩ := h
  rw [h]
  exact not_attests_append habout b

theorem not_attests_overview (s : Signer) (path : Option String) (file : ConfigFile) :
    ¬ (out (s.overview path file)).Attests := by
  have h : ∃ b, s.overview path file = "--- Config ---\n" ++ b := by
    unfold Signer.overview
    simp only [String.append_assoc]
    exact ⟨_, rfl⟩
  obtain ⟨b, h⟩ := h
  rw [h]
  exact not_attests_append (by decide) b

theorem attests_of_opening {o b : String} (ho : o ∈ attestations) : (out (o ++ b)).Attests := by
  refine ⟨o, ho, ?_⟩
  show o.toList <+: (o ++ b).toList
  rw [String.toList_append]
  exact List.prefix_append ..

theorem attests_signatureLine (sig : Signature) : (out (signatureLine sig)).Attests := by
  have h : signatureLine sig = "Packet signature: " ++ (sig.text ++ "\n") :=
    String.append_assoc ..
  rw [h]
  exact attests_of_opening (by decide)

theorem attests_report (r : Report) : (out (r.toJson.pretty ++ "\n")).Attests := by
  have h : ∃ b, r.toJson.pretty = "\x7b" ++ b := by
    unfold Report.toJson Json.pretty
    rw [Json.prettyChars, List.append_assoc, List.cons_append]
    · exact ⟨_, String.ofList_cons⟩
    · simp
  obtain ⟨b, h⟩ := h
  rw [h, String.append_assoc]
  exact attests_of_opening (by decide)

theorem attests_verdict (v : Verdict) : (out v.output).Attests := by
  unfold Verdict.output
  split_ifs
  · decide
  · decide

end Entry

/-! ### Which key an entry comes from -/

section
variable {s : Signer} {input : Bytes} {e : Entry} {data number key : String}

/-- If all before the last entry is kept from the output stream, the last one is what attests. -/
theorem Entry.eq_last_of_attests {t : Transcript} {last : Entry} (ht : ∀ x ∈ t, x.stdout = "")
    (he : e ∈ t ++ [last]) (ha : e.Attests) : e = last := by
  rcases List.mem_append.mp he with he | he
  · exact absurd ha (not_attests_of_stdout (ht e he))
  · exact List.mem_singleton.mp he

theorem Entry.stdout_of_mem_logs {events : List Log.Event} (he : e ∈ events.map .log) :
    e.stdout = "" := by
  obtain ⟨event, -, rfl⟩ := List.mem_map.mp he
  rfl

theorem SignRequest.produces_of_mem {r : SignRequest} {t : Transcript}
    (ht : r.transcript s = .ok t) (he : e ∈ t) (ha : e.Attests) :
    (Command.sign r).Produces s input r.key e := by
  obtain ⟨report, hr, h⟩ := Except.bind_eq_ok_iff.mp ht
  cases h
  obtain rfl := Entry.eq_last_of_attests (fun x => Entry.stdout_of_mem_logs) he ha
  exact .sign hr

theorem VerifyRequest.produces_of_mem {r : VerifyRequest} {t : Transcript} {valid : Bool}
    (ht : r.transcript s = .ok (valid, t)) (he : e ∈ t) (ha : e.Attests) :
    (Command.verify r).Produces s input r.key e := by
  obtain ⟨v, hv, h⟩ := Except.bind_eq_ok_iff.mp ht
  cases h
  have hlog : ∀ x ∈ (Log.ofReport v.expected).map Entry.log ++
      (if v.valid then [] else [.log .mismatch]), x.stdout = "" := by
    intro x hx
    rcases List.mem_append.mp hx with hx | hx
    · exact Entry.stdout_of_mem_logs hx
    · split_ifs at hx
      · cases hx
      · rw [List.mem_singleton.mp hx]
        rfl
  obtain rfl := Entry.eq_last_of_attests hlog he ha
  exact .verify hv

theorem Program.not_attests_stop {stop : CommandLine.Stop} (he : e =
    if stop.exitStatus = 0 then .out stop.message else .err (stop.message ++ "\n")) :
    ¬ e.Attests := by
  split_ifs at he with h
  · rw [he]
    cases stop with
    | help t => exact Entry.not_attests_help t
    | version => decide
    | _ => cases h
  · rw [he]
    exact Entry.not_attests_of_stdout rfl

theorem Program.not_attests_failed {f : Failure} (he : e ∈ (failed f).transcript) :
    ¬ e.Attests := by
  rw [List.mem_singleton.mp he]
  exact Entry.not_attests_of_stdout rfl

theorem Program.not_attests_policyEvent {path : Option String} {file : ConfigFile}
    {options : Policy.Overlay} (he : e ∈ policyEvent path file options) : ¬ e.Attests := by
  unfold policyEvent at he
  split at he
  · rw [List.mem_singleton.mp he]
    exact Entry.not_attests_of_stdout rfl
  · cases he

theorem Program.produces_of_mem_perform {c : Command} {path : Option String} {file : ConfigFile}
    {o : Outcome} (ho : perform s path file c = some o) (he : e ∈ o.transcript)
    (ha : e.Attests) : ∃ key, c.Produces s input key e := by
  cases c with
  | prompt => cases ho  -- the prompt is not carried out here
  | sign r =>
      cases ht : r.transcript s with
      | error f =>
          simp only [perform, ht] at ho
          cases ho
          exact absurd ha (not_attests_failed he)
      | ok t =>
          simp only [perform, ht] at ho
          cases ho
          exact ⟨_, r.produces_of_mem ht he ha⟩
  | verify r =>
      cases ht : r.transcript s with
      | error f =>
          simp only [perform, ht] at ho
          cases ho
          exact absurd ha (not_attests_failed he)
      | ok t =>
          simp only [perform, ht] at ho
          cases ho
          exact ⟨_, r.produces_of_mem ht he ha⟩
  | policy =>
      cases ho
      rw [List.mem_singleton.mp he] at ha
      exact absurd ha (Entry.not_attests_overview s path file)

theorem Prompt.produces_of_mem_run (he : e ∈ (run s input).2) (ha : e.Attests) :
    ∃ key, Command.prompt.Produces s input key e := by
  rcases mem_run he with ⟨q, hq, rfl⟩ | ⟨r, hr, he⟩ | ⟨_, _, rfl⟩
  · exact absurd ha (Entry.not_attests_question q hq)
  · cases r with
    | error f =>
        -- a round that fails is told to the error stream and the log
        have hs : e.stdout = "" := by
          rcases List.mem_pair.mp he with rfl | rfl
          · rfl
          · rfl
        exact absurd ha (Entry.not_attests_of_stdout hs)
    | ok report =>
        obtain rfl := Entry.eq_last_of_attests (fun x => Entry.stdout_of_mem_logs) he ha
        obtain ⟨i, a, b, c, ha, hb, hc, hround⟩ := exists_lines_of_mem_rounds hr
        exact ⟨_, .round ha hb hc hround⟩
  · exact absurd ha (Entry.not_attests_of_stdout rfl)

/-- A run that signs writes what it has signed. -/
theorem Program.mem_run_of_sign {env : Environment} {file : ConfigFile} {arguments : List String}
    {options : Policy.Overlay} {r : SignRequest} {report : Report}
    (hl : CommandLine.parse arguments = .ok ⟨options, some (.sign r)⟩)
    (hs : signer env.configPath? file options = .ok s) (hr : r.run s = .ok report)
    (input : Bytes) : .out (r.output report) ∈ (run env file arguments input).transcript := by
  have ht : r.transcript s = .ok ((Log.ofReport report).map .log ++ [.out (r.output report)]) := by
    unfold SignRequest.transcript
    rw [hr]
    rfl
  have ho : perform s env.configPath? file (.sign r) =
      some ⟨0, (Log.ofReport report).map .log ++ [.out (r.output report)]⟩ := by
    simp only [perform, ht]
  rw [run_of_perform hl hs ho]
  exact List.mem_append_right _ (List.mem_append_right _ List.mem_cons_self)

theorem Program.produces_of_mem_run {env : Environment} {file : ConfigFile}
    {arguments : List String} (he : e ∈ (run env file arguments input).transcript)
    (ha : e.Attests) : ∃ line s key, CommandLine.parse arguments = .ok line ∧
      signer env.configPath? file line.policy = .ok s ∧
      (line.command.getD .prompt).Produces s input key e := by
  rcases run_cases env file arguments input with ⟨stop, -, hr⟩ |
    ⟨line, hl, ⟨f, -, hr⟩ | ⟨s, hs, ⟨o, ho, hr⟩ | ⟨hc, hr⟩⟩⟩
  all_goals rw [hr] at he
  · exact absurd ha (not_attests_stop (List.mem_singleton.mp he))
  · rcases List.mem_append.mp he with he | he
    · exact absurd ha (not_attests_policyEvent he)
    · exact absurd ha (not_attests_failed he)
  · rcases List.mem_append.mp he with he | he
    · exact absurd ha (not_attests_policyEvent he)
    · obtain ⟨key, h⟩ := produces_of_mem_perform ho he ha
      exact ⟨line, s, key, hl, hs, h⟩
  · rcases List.mem_append.mp he with he | he
    · exact absurd ha (not_attests_policyEvent he)
    · obtain ⟨key, h⟩ := Prompt.produces_of_mem_run he ha
      rw [← hc] at h
      exact ⟨line, s, key, hl, hs, h⟩

/-! ### The length of a key -/

/-- The key that the text stands for is as long as the policy asks for, and not below the floor. -/
def Policy.AdmitsKeyText (p : Policy) (key : String) : Prop :=
  ∃ bs, Base64.parse key = .ok bs ∧ 16 ≤ bs.length ∧ p.minKeyBits.toNat / 8 ≤ bs.length

theorem Signer.admitsKeyText_of_prepare {data : Bytes} {p : Prepared}
    (h : s.prepare data number key = .ok p) : s.policy.AdmitsKeyText key := by
  obtain ⟨-, -, hk, hc, -⟩ := prepare_eq_ok_iff.mp h
  have hlong := Policy.checkKey_eq_ok_iff.mp hc
  have hfloor : 128 ≤ s.policy.minKeyBits.toNat := s.valid.1
  refine ⟨p.key.bytes, ?_, by omega, by omega⟩
  exact (Base64.parse_eq_ok_iff ..).mpr (Key.parse_eq_ok_iff.mp hk)

theorem Command.Produces.admitsKeyText {c : Command} (h : c.Produces s input key e) :
    s.policy.AdmitsKeyText key := by
  cases h with
  | sign hr =>
      obtain ⟨p, hp, -⟩ := SignRequest.run_eq_ok_iff.mp hr
      exact Signer.admitsKeyText_of_prepare hp
  | verify hv =>
      obtain ⟨p, -, hp, -⟩ := VerifyRequest.run_eq_ok_iff.mp hv
      exact Signer.admitsKeyText_of_prepare hp
  | round _ _ _ hr =>
      obtain ⟨p, hp, -⟩ := Signer.reportOn_eq_ok_iff.mp hr
      exact Signer.admitsKeyText_of_prepare hp

theorem Command.Produces.attests {c : Command} (h : c.Produces s input key e) : e.Attests := by
  cases h with
  | sign hr =>
      unfold SignRequest.output
      split_ifs
      · exact Entry.attests_report _
      · exact Entry.attests_signatureLine _
  | verify hv => exact Entry.attests_verdict _
  | round _ _ _ hr => exact Entry.attests_signatureLine _

end

/-- **No run goes below the floor.**  An entry of a run that opens like a signature, a report or a
verdict is what the command at hand made with a key, under the signer of the effective policy; all
that a command makes in this way opens so, and the key is as long as the policy asks for.  Every
signer has a policy with a floor of 128 bits and whole bytes: there is one for just these policies,
and for the effective policy just if it is one of them. -/
theorem key_floor :
    (∀ env file arguments input, ∀ e ∈ (Program.run env file arguments input).transcript,
      e.Attests → ∃ line s key, CommandLine.parse arguments = .ok line ∧
        Program.signer env.configPath? file line.policy = .ok s ∧
        Program.effectivePolicy env.configPath? file line.policy = .ok s.policy ∧
        (line.command.getD .prompt).Produces s input key e ∧ s.policy.AdmitsKeyText key) ∧
    (∀ s input c key e, Command.Produces s input c key e →
      e.Attests ∧ s.policy.AdmitsKeyText key) ∧
    (∀ s : Signer, 128 ≤ s.policy.minKeyBits.toNat ∧ 8 ∣ s.policy.minKeyBits.toNat) ∧
    (∀ p s, Signer.new p = .ok s ↔ p = s.policy) ∧
    (∀ path file options s, Program.signer path file options = .ok s ↔
      Program.effectivePolicy path file options = .ok s.policy) ∧
    ∀ path file options p, Program.effectivePolicy path file options = .ok p →
      ¬ (128 ≤ p.minKeyBits.toNat ∧ 8 ∣ p.minKeyBits.toNat) → ∃ fault,
        p.validate = .error fault ∧
        Program.signer path file options = .error (.effectivePolicy (.ofPolicy fault)) := by
  refine ⟨?_, fun _ _ _ _ _ h => ⟨h.attests, h.admitsKeyText⟩, fun s => s.valid,
    fun _ _ => Signer.new_eq_ok_iff, fun _ _ _ _ => Program.signer_eq_ok_iff,
    fun _ _ _ _ => Program.signer_of_invalid⟩
  intro env file arguments input e he ha
  obtain ⟨line, s, key, hl, hs, h⟩ := Program.produces_of_mem_run he ha
  exact ⟨line, s, key, hl, hs, Program.signer_eq_ok_iff.mp hs, h, h.admitsKeyText⟩

/-- A run that signs with sixteen zeros, and a policy that asks for eight bytes only. -/
theorem key_floor_zeros :
    (∃ e ∈ (Program.run { home := some "h" } .absent
        ["sign", "--data", "hi", "--packet-number", "7", "--key", "AAAAAAAAAAAAAAAAAAAAAA=="]
        []).transcript,
      e.Attests ∧ ∃ s key, Command.Produces s []
        (.sign ⟨"hi", "7", "AAAAAAAAAAAAAAAAAAAAAA==", false⟩) key e ∧
        s.policy.AdmitsKeyText key) ∧
    Program.effectivePolicy (some "h") .absent { minKeyBits := some 64 } =
      .ok { minKeyBits := 64 } ∧
    ∃ e, Program.signer (some "h") .absent { minKeyBits := some 64 } =
      .error (.effectivePolicy e) := by
  obtain ⟨hruns, hall, -, -, hsigner, hinvalid⟩ := key_floor
  have hl : CommandLine.parse ["sign", "--data", "hi", "--packet-number", "7", "--key",
      "AAAAAAAAAAAAAAAAAAAAAA=="] =
        .ok ⟨{}, some (.sign ⟨"hi", "7", "AAAAAAAAAAAAAAAAAAAAAA==", false⟩)⟩ := by decide
  have hs : Program.signer (Environment.configPath? { home := some "h" }) .absent {} =
      .ok .standard := (hsigner _ _ _ _).mpr rfl
  have hp : Signer.standard.prepare (Utf8.encode "hi") "7" "AAAAAAAAAAAAAAAAAAAAAA==" =
      .ok ⟨Utf8.encode "hi", ⟨7⟩, ⟨List.replicate 16 0⟩⟩ :=
    Signer.prepare_sound (by decide) (by decide) (by decide) (by decide)
  have hr : SignRequest.run .standard ⟨"hi", "7", "AAAAAAAAAAAAAAAAAAAAAA==", false⟩ =
      .ok (Signer.standard.certify (Utf8.encode "hi") ⟨7⟩ ⟨List.replicate 16 0⟩) :=
    SignRequest.run_eq_ok_iff.mpr ⟨_, hp, rfl⟩
  have he := Program.mem_run_of_sign hl hs hr []
  have ha := (hall _ [] _ _ _ (.sign hr)).1
  obtain ⟨line, s, key, hl', -, -, h, hk⟩ := hruns _ _ _ _ _ he ha
  obtain rfl := Except.ok.inj (hl.symm.trans hl')
  obtain ⟨fault, -, hf⟩ := hinvalid (some "h") .absent { minKeyBits := some 64 }
    { minKeyBits := 64 } rfl (by decide)
  exact ⟨⟨_, he, ha, s, key, h, hk⟩, rfl, _, hf⟩

end PacketAuth
