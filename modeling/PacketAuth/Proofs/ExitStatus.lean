import PacketAuth.Proofs.FirstDefect
import PacketAuth.Proofs.PolicyResolution

/-! # Exit status and streams

How a run ends whose arguments are those of a command.  What can go wrong is said of the arguments,
the environment and the configuration file alone (`Program.Fails`); all else that can happen is that
a signature is found to be valid or not, that a packet is signed, that the policy is shown, or that
the input is prompted for.  Each of these has its own exit status and leaves its own streams, so
that they can be told apart from outside (`exit_status`). -/

namespace PacketAuth

/-- The status and the streams of a run, if nothing is logged. -/
def Outcome.Shows (o : Outcome) (status : UInt32) (out err : String) : Prop :=
  o.status = status ∧ o.transcript.stdout = out ∧
    ∀ filter : Log.Filter, filter.Off → o.transcript.stderr filter = err

/-! ### Requests to verify -/

namespace VerifyRequest

variable {s : Signer} {r : VerifyRequest}

end VerifyRequest

/-! ### What can go wrong -/

/-- A defect is reported in one way. -/
theorem Defect.Reports.unique {s : Signer} {number key : String} {d : Defect} {f g : Failure}
    (hf : d.Reports s number key f) (hg : d.Reports s number key g) : f = g := by
  cases d with
  | data => exact Eq.trans hf (Eq.symm hg)
  | keyText =>
      obtain ⟨a, ha, rfl⟩ := hf
      obtain ⟨b, hb, rfl⟩ := hg
      obtain rfl := Except.error.inj (ha.symm.trans hb)
      rfl
  | weakKey =>
      obtain ⟨a, ha, rfl⟩ := hf
      obtain ⟨b, hb, rfl⟩ := hg
      have hab := ((Base64.parse_eq_ok_iff key a).mpr ha).symm.trans
        ((Base64.parse_eq_ok_iff key b).mpr hb)
      obtain rfl := Except.ok.inj hab
      rfl
  | number =>
      obtain ⟨a, ha, rfl⟩ := hf
      obtain ⟨b, hb, rfl⟩ := hg
      obtain rfl := Except.error.inj (ha.symm.trans hb)
      rfl

theorem Defect.Reports.prepare_eq {s : Signer} {data number key : String} {d : Defect} {f : Failure}
    (hd : d.IsFirst s data number key) (hf : d.Reports s number key f) :
    s.prepare (Utf8.encode data) number key = .error f := by
  obtain ⟨g, hg, hp⟩ := Signer.prepare_of_isFirst hd
  rwa [hf.unique hg]

namespace Program
variable {env : Environment} {file : ConfigFile} {line : CommandLine} {arguments : List String}
  {s : Signer} {f : Failure}

/-- `Fails env file line f`: something is wrong with what the command line `line` is carried out on,
and `f` is the failure that reports it. -/
inductive Fails (env : Environment) (file : ConfigFile) (line : CommandLine) : Failure → Prop
  | noHome : env.configPath? = none → Fails env file line .noHome
  | config {path : String} {fault : Config.Fault} : env.configPath? = some path →
      Config.Broken file fault → Fails env file line (.config path fault)
  | policy {path : String} {fields : Policy.Overlay} : env.configPath? = some path →
      Config.Sets file fields → ¬ (line.policy.resolve fields).Valid →
      Fails env file line (refusal (line.policy.resolve fields))
  | sign {s : Signer} {r : SignRequest} {d : Defect} {f : Failure} :
      signer env.configPath? file line.policy = .ok s → line.command = some (.sign r) →
      d.IsFirst s r.data r.number r.key → d.Reports s r.number r.key f → Fails env file line f
  | verify {s : Signer} {r : VerifyRequest} {d : Defect} {f : Failure} :
      signer env.configPath? file line.policy = .ok s → line.command = some (.verify r) →
      d.IsFirst s r.data r.number r.key → d.Reports s r.number r.key f → Fails env file line f
  | signature {s : Signer} {r : VerifyRequest} {fault : Base64.Fault} :
      signer env.configPath? file line.policy = .ok s → line.command = some (.verify r) →
      (∀ d : Defect, ¬ d.AppliesTo s r.data r.number r.key) →
      Base64.parse r.signature = .error fault →
      Fails env file line (.signing (.ofSignatureText fault))

/-- Signing succeeds, or something is wrong. -/
theorem exists_run_or_fails {r : SignRequest}
    (hs : signer env.configPath? file line.policy = .ok s)
    (hc : line.command = some (.sign r)) :
    (∃ report, r.run s = .ok report) ∨ ∃ f, Fails env file line f := by
  by_cases hd : ∃ d : Defect, d.AppliesTo s r.data r.number r.key
  · obtain ⟨_, hd⟩ := hd
    obtain ⟨d, hfirst⟩ := Defect.exists_isFirst hd
    obtain ⟨f, hr, -⟩ := Signer.prepare_of_isFirst hfirst
    exact Or.inr ⟨f, .sign hs hc hfirst hr⟩
  · obtain ⟨p, hp⟩ := Signer.exists_prepare (not_exists.mp hd)
    exact Or.inl ⟨_, SignRequest.run_eq_ok_iff.mpr ⟨p, hp, rfl⟩⟩

theorem streams_policyEvent (path : Option String) (file : ConfigFile) (options : Policy.Overlay) :
    Transcript.stdout (policyEvent path file options) = "" ∧
      Transcript.stderr [] (policyEvent path file options) = "" := by
  unfold policyEvent
  cases effectivePolicy path file options with
  | error f => exact ⟨rfl, rfl⟩
  | ok p => exact ⟨rfl, rfl⟩

/-- The event of the effective policy leaves no trace if nothing is logged. -/
theorem shows_after_policyEvent {path : Option String} {options : Policy.Overlay}
    {status : UInt32} {t : Transcript} {out err : String} (hout : t.stdout = out)
    (herr : t.stderr [] = err) :
    Outcome.Shows ⟨status, policyEvent path file options ++ t⟩ status out err := by
  obtain ⟨ho, he⟩ := streams_policyEvent path file options
  refine ⟨rfl, ?_, fun filter hf => ?_⟩
  · rw [Transcript.stdout_append, ho, hout, String.empty_append]
  · rw [Transcript.stderr_of_off hf, Transcript.stderr_append, he, herr, String.empty_append]

section
variable (input : Bytes) (hl : CommandLine.parse arguments = .ok line)
include hl

theorem shows_of_signer_error (hs : signer env.configPath? file line.policy = .error f) :
    (run env file arguments input).Shows 1 "" f.line := by
  rw [run_of_signer_error hl hs]
  exact shows_after_policyEvent (failed_streams f).1 ((failed_streams f).2 [])

variable (hs : signer env.configPath? file line.policy = .ok s)
include hs

theorem shows_of_command {c : Command} {status : UInt32} {t : Transcript} {out err : String}
    (hc : line.command = some c) (hp : perform s env.configPath? file c = some ⟨status, t⟩)
    (hout : t.stdout = out) (herr : t.stderr [] = err) :
    (run env file arguments input).Shows status out err := by
  have hget : perform s env.configPath? file (line.command.getD .prompt) = some ⟨status, t⟩ := by
    rw [hc]
    exact hp
  rw [run_of_perform hl hs hget]
  exact shows_after_policyEvent hout herr

theorem shows_of_failsWith {c : Command} (hc : line.command = some c) (h : FailsWith s c f) :
    (run env file arguments input).Shows 1 "" f.line := by
  obtain ⟨⟨_, t⟩, hp, rfl, hout, herr⟩ := h env.configPath? file
  exact shows_of_command input hl hs hc hp hout (herr [])

theorem shows_of_sign {r : SignRequest} {report : Report} (hc : line.command = some (.sign r))
    (hr : r.run s = .ok report) :
    (run env file arguments input).Shows 0 (r.output report) "" := by
  have ht : r.transcript s =
      .ok ((Log.ofReport report).map .log ++ [.out (r.output report)]) := by
    unfold SignRequest.transcript
    rw [hr]
    rfl
  have hp := perform_sign s env.configPath? file r
  rw [ht] at hp
  obtain ⟨hout, herr⟩ := Transcript.streams_told (Log.ofReport report) (r.output report)
  exact shows_of_command input hl hs hc hp hout herr

theorem shows_of_verify {r : VerifyRequest} {v : Verdict} (hc : line.command = some (.verify r))
    (hr : r.run s = .ok v) :
    (run env file arguments input).Shows (if v.valid then 0 else 1) v.output "" := by
  obtain ⟨es, he⟩ := v.exists_events
  have ht : r.transcript s = .ok (v.valid, es.map .log ++ [.out v.output]) := by
    unfold VerifyRequest.transcript
    rw [hr, ← he]
    rfl
  have hp := perform_verify s env.configPath? file r
  rw [ht] at hp
  obtain ⟨hout, herr⟩ := Transcript.streams_told es v.output
  exact shows_of_command input hl hs hc hp hout herr

theorem shows_of_policy (hc : line.command = some .policy) :
    (run env file arguments input).Shows 0 (s.overview env.configPath? file) "" := by
  obtain ⟨hout, herr⟩ := Transcript.streams_told [] (s.overview env.configPath? file)
  exact shows_of_command input hl hs hc rfl hout herr

end

/-- Whatever is wrong ends the run with its failure. -/
theorem Fails.shows (input : Bytes) (hl : CommandLine.parse arguments = .ok line)
    (h : Fails env file line f) : (run env file arguments input).Shows 1 "" f.line := by
  cases h with
  | noHome hp =>
      refine shows_of_signer_error input hl ?_
      rw [hp]
      rfl
  | config hp hb =>
      refine shows_of_signer_error input hl ?_
      rw [hp]
      exact signer_of_broken hb
  | policy hp hs hv =>
      refine shows_of_signer_error input hl ?_
      rw [hp]
      exact signer_of_sets_invalid hs hv
  | sign hs hc hd hr =>
      have hrun := SignRequest.run_eq_error_iff.mpr (hr.prepare_eq hd)
      have ht := SignRequest.transcript_eq_error_iff.mpr hrun
      exact shows_of_failsWith input hl hs hc (failsWith_sign ht)
  | verify hs hc hd hr =>
      have hrun := VerifyRequest.run_of_prepare_error (hr.prepare_eq hd)
      have ht := VerifyRequest.transcript_eq_error_iff.mpr hrun
      exact shows_of_failsWith input hl hs hc (failsWith_verify ht)
  | signature hs hc hd hr =>
      obtain ⟨p, hp⟩ := Signer.exists_prepare hd
      have ht := VerifyRequest.transcript_eq_error_iff.mpr (VerifyRequest.run_of_parse_error hp hr)
      exact shows_of_failsWith input hl hs hc (failsWith_verify ht)

end Program

/-! ### Telling the ends apart -/

namespace Failure
variable {f : Failure} {e : SigningError}

theorem line_of_signing (h : f = .signing e ∨ f = .effectivePolicy e) :
    f.line = "error: " ++ f.message ++ " [code " ++ toString e.code ++ "]\n" := by
  rcases h with rfl | rfl
  · rfl
  · rfl

end Failure

namespace Program
variable {env : Environment} {file : ConfigFile} {line : CommandLine} {arguments : List String}
  (input : Bytes) (hl : CommandLine.parse arguments = .ok line)
include hl

theorem not_exists_fails (hzero : (run env file arguments input).status = 0) :
    ¬ ∃ f, Fails env file line f := by
  rintro ⟨f, hf⟩
  exact absurd (hzero.symm.trans (hf.shows input hl).1) (by decide)

end Program

end PacketAuth
