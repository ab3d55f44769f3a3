import PacketAuth.Program
import PacketAuth.Proofs.Outcomes
import PacketAuth.Proofs.PromptTranscript

/-! # Runs of the program

A run ends in one of four ways: the arguments ask for no command, there is no signer, a command is
carried out that needs no input, or the input is prompted for (`Program.run_cases`).  There is a
signer exactly if the effective policy is valid (`Program.signer_eq_ok_iff`).  The entries of a
prompt are its questions, what its rounds bring about, and a closing event (`Prompt.mem_run`). -/

namespace PacketAuth

/-! ### Signers -/

namespace Signer
variable {p : Policy} {s : Signer}

theorem new_of_validate_error {fault : Policy.Fault} (h : p.validate = .error fault) :
    new p = .error (.ofPolicy fault) := by
  -- `new` keeps the equation of its match as the proof of validity, so `h` cannot be rewritten
  unfold new
  split
  · next h' =>
      rw [h] at h'
      cases h'
  · next f h' =>
      rw [h] at h'
      rw [Except.error.inj h']

/-- A signer is made of the policy that it holds, and of no other. -/
theorem new_eq_ok_iff : new p = .ok s ↔ p = s.policy := by
  constructor
  · intro h
    unfold new at h
    split at h
    · rw [← Except.ok.inj h]
    · cases h
  · rintro rfl
    have hv := s.policy.validate_eq_ok_iff.mpr s.valid
    unfold new
    split
    · rfl
    · next f h' =>
        rw [hv] at h'
        cases h'

end Signer

theorem Policy.exists_validate_eq_error {p : Policy} (h : ¬ p.Valid) :
    ∃ fault, p.validate = .error fault := by
  cases hv : p.validate with
  | error fault => exact ⟨fault, rfl⟩
  | ok u => exact absurd (p.validate_eq_ok_iff.mp hv) h

namespace Program
variable {env : Environment} {path : Option String} {file : ConfigFile}
  {options : Policy.Overlay} {arguments : List String} {input : Bytes} {s : Signer} {p : Policy}

theorem signer_eq_ok_iff :
    signer path file options = .ok s ↔ effectivePolicy path file options = .ok s.policy := by
  unfold signer
  simp only [Except.bind_eq_ok_iff, Except.mapError_eq_ok_iff, Signer.new_eq_ok_iff]
  constructor
  · rintro ⟨_, hp, rfl⟩
    exact hp
  · intro h
    exact ⟨_, h, rfl⟩

/-- No signer is made of an effective policy that is not valid. -/
theorem signer_of_invalid (h : effectivePolicy path file options = .ok p) (hp : ¬ p.Valid) :
    ∃ fault, p.validate = .error fault ∧
      signer path file options = .error (.effectivePolicy (.ofPolicy fault)) := by
  obtain ⟨fault, hf⟩ := Policy.exists_validate_eq_error hp
  refine ⟨fault, hf, ?_⟩
  unfold signer
  rw [h, Except.ok_bind, Signer.new_of_validate_error hf]
  rfl

/-! ### The ways to end -/

section
variable {line : CommandLine} (hl : CommandLine.parse arguments = .ok line)
include hl

theorem run_of_signer_error {f : Failure}
    (hs : signer env.configPath? file line.policy = .error f) : run env file arguments input =
      ⟨1, policyEvent env.configPath? file line.policy ++ (failed f).transcript⟩ := by
  simp only [run, start, hl, hs]

variable (hs : signer env.configPath? file line.policy = .ok s)
include hs

theorem run_of_perform {o : Outcome}
    (ho : perform s env.configPath? file (line.command.getD .prompt) = some o) :
    run env file arguments input =
      ⟨o.status, policyEvent env.configPath? file line.policy ++ o.transcript⟩ := by
  simp only [run, start, hl, hs, ho]

theorem run_of_prompt (hc : line.command.getD .prompt = .prompt) : run env file arguments input =
    ⟨0, policyEvent env.configPath? file line.policy ++ (Prompt.run s input).2⟩ := by
  simp only [run, start, hl, hs, hc, perform]

end

theorem run_of_stop {stop : CommandLine.Stop} (h : CommandLine.parse arguments = .error stop) :
    run env file arguments input = ⟨stop.exitStatus,
      [if stop.exitStatus = 0 then .out stop.message else .err (stop.message ++ "\n")]⟩ := by
  simp only [run, start, h]

theorem perform_sign (s : Signer) (path : Option String) (file : ConfigFile) (r : SignRequest) :
    perform s path file (.sign r) = some (match r.transcript s with
      | .ok t => ⟨0, t⟩
      | .error f => failed f) := by
  simp only [perform]
  cases r.transcript s with
  | error f => rfl
  | ok t => rfl

theorem perform_verify (s : Signer) (path : Option String) (file : ConfigFile)
    (r : VerifyRequest) : perform s path file (.verify r) = some (match r.transcript s with
      | .ok (valid, t) => ⟨if valid then 0 else 1, t⟩
      | .error f => failed f) := by
  simp only [perform]
  cases r.transcript s with
  | error f => rfl
  | ok o => rfl

/-- The prompt alone needs input. -/
theorem perform_eq_none_iff {c : Command} : perform s path file c = none ↔ c = .prompt := by
  cases c with
  | prompt => simp [perform]
  | sign r => cases ht : r.transcript s <;> simp [perform, ht]
  | verify r => cases ht : r.transcript s <;> simp [perform, ht]
  | policy => simp [perform]

/-- **The ways in which a run ends.** -/
theorem run_cases (env : Environment) (file : ConfigFile) (arguments : List String)
    (input : Bytes) :
    (∃ stop, CommandLine.parse arguments = .error stop ∧
      run env file arguments input = ⟨stop.exitStatus,
        [if stop.exitStatus = 0 then .out stop.message else .err (stop.message ++ "\n")]⟩) ∨
    ∃ line, CommandLine.parse arguments = .ok line ∧
      ((∃ f, signer env.configPath? file line.policy = .error f ∧
        run env file arguments input =
          ⟨1, policyEvent env.configPath? file line.policy ++ (failed f).transcript⟩) ∨
      ∃ s, signer env.configPath? file line.policy = .ok s ∧
        ((∃ o, perform s env.configPath? file (line.command.getD .prompt) = some o ∧
          run env file arguments input =
            ⟨o.status, policyEvent env.configPath? file line.policy ++ o.transcript⟩) ∨
        (line.command.getD .prompt = .prompt ∧ run env file arguments input =
          ⟨0, policyEvent env.configPath? file line.policy ++ (Prompt.run s input).2⟩))) := by
  cases hl : CommandLine.parse arguments with
  | error stop => exact Or.inl ⟨stop, rfl, run_of_stop hl⟩
  | ok line =>
      refine Or.inr ⟨line, rfl, ?_⟩
      cases hs : signer env.configPath? file line.policy with
      | error f => exact Or.inl ⟨f, rfl, run_of_signer_error hl hs⟩
      | ok s =>
          refine Or.inr ⟨s, rfl, ?_⟩
          cases ho : perform s env.configPath? file (line.command.getD .prompt) with
          | some o => exact Or.inl ⟨o, rfl, run_of_perform hl hs ho⟩
          | none =>
              have hc := perform_eq_none_iff.mp ho
              exact Or.inr ⟨hc, run_of_prompt hl hs hc⟩

end Program

/-! ### The entries of a prompt -/

namespace Prompt
variable {s : Signer} {e : Entry}

/-- Each round is made of three lines in a row. -/
theorem exists_lines_of_mem_rounds {ls : List Bytes} {r : Except Failure Report}
    (h : r ∈ rounds s ls) : ∃ i a b c, ls[3 * i]? = some a ∧ ls[3 * i + 1]? = some b ∧
      ls[3 * i + 2]? = some c ∧ signRound s a b c = r := by
  unfold rounds at h
  obtain ⟨i, hi, hr⟩ := List.mem_map.mp h
  rw [List.mem_range] at hi
  have hget : ∀ j < ls.length, ls[j]? = some (ls.getD j []) := by
    intro j hj
    rw [List.getD_eq_getElem?_getD, List.getElem?_eq_getElem hj, Option.getD_some]
  exact ⟨i, _, _, _, hget _ (by omega), hget _ (by omega), hget _ (by omega), hr⟩

theorem mem_runFrom {ls : List Bytes} : ∀ {t : Tally}, e ∈ (runFrom s ⟨[], t⟩ ls).2 →
    (∃ q ∈ questions, e = .out q) ∨ (∃ r ∈ rounds s ls, e ∈ outcome r) ∨
      ∃ signed rejected, e = .log (.finished signed rejected) := by
  induction ls using threes_induction with
  | unfinished ls h =>
      intro t he
      rw [runFrom_unfinished s t h] at he
      rcases List.mem_append.mp he with he | he
      · obtain ⟨q, hq, rfl⟩ := List.mem_map.mp he
        exact Or.inl ⟨q, List.mem_of_mem_take hq, rfl⟩
      · exact Or.inr (Or.inr ⟨_, _, List.mem_singleton.mp he⟩)
  | round a b c rest ih =>
      intro t he
      rw [runFrom_round] at he
      rw [rounds_cons]
      rcases List.mem_append.mp he with he | he
      · obtain ⟨q, hq, rfl⟩ := List.mem_map.mp he
        exact Or.inl ⟨q, hq, rfl⟩
      · rcases List.mem_append.mp he with he | he
        · exact Or.inr (Or.inl ⟨_, List.mem_cons_self, he⟩)
        · rcases ih he with h | ⟨r, hr, he⟩ | h
          · exact Or.inl h
          · exact Or.inr (Or.inl ⟨r, List.mem_cons_of_mem _ hr, he⟩)
          · exact Or.inr (Or.inr h)

/-- A prompt writes nothing but its questions, what the rounds bring about, and a closing event. -/
theorem mem_run {input : Bytes} (h : e ∈ (run s input).2) :
    (∃ q ∈ questions, e = .out q) ∨ (∃ r ∈ rounds s (lines input), e ∈ outcome r) ∨
      ∃ signed rejected, e = .log (.finished signed rejected) :=
  mem_runFrom h

end Prompt
end PacketAuth
