import PacketAuth.Command.Request
import PacketAuth.Command.Usage
import PacketAuth.Prompt

/-! # The program

From arguments, environment, configuration file and input to what is written and the exit status.
`start` does all that needs no input; if the prompt is asked for, it returns the signer for it.
`run` is the whole of a run. -/

namespace PacketAuth

/-- The settings that the program takes from its environment. -/
structure Environment where
  /-- The user's home directory, if it is found. -/
  home : Option String := none
  /-- The directory of the configuration file, if it is not the usual one. -/
  configHome : Option String := none
  logFilter : Option String := none

namespace Environment

/-- The path of the configuration file. -/
def configPath? (env : Environment) : Option String := Config.path? env.configHome env.home

/-- The filter of log events. -/
def filter (env : Environment) : Log.Filter := Log.Filter.ofSetting env.logFilter

end Environment

/-- What a run writes, and its exit status. -/
structure Outcome where
  status : UInt32
  transcript : Transcript

namespace Program

/-- The policy that file and options add up to. -/
def effectivePolicy (path : Option String) (file : ConfigFile) (options : Policy.Overlay) :
    Except Failure Policy :=
  match path with
  | none => .error .noHome
  | some path =>
    match Config.read file with
    | .error fault => .error (.config path fault)
    | .ok fields => .ok (options.over ((fields.getD {}).over .standard))

/-- The signer of the effective policy. -/
def signer (path : Option String) (file : ConfigFile) (options : Policy.Overlay) :
    Except Failure Signer := do
  let policy ← effectivePolicy path file options
  (Signer.new policy).mapError .effectivePolicy

/-- The event of having found the effective policy, if it was found. -/
def policyEvent (path : Option String) (file : ConfigFile) (options : Policy.Overlay) :
    Transcript :=
  match effectivePolicy path file options with
  | .ok policy => [.log (.effectivePolicy policy)]
  | .error _ => []

/-- The end of a run that failed. -/
def failed (f : Failure) : Outcome := ⟨1, [.err f.line]⟩

/-- What there is to do before any input is read. -/
inductive Start where
  | finished (o : Outcome)
  | prompt (s : Signer) (written : Transcript)

/-- Carry out a command that needs no input. -/
def perform (s : Signer) (path : Option String) (file : ConfigFile) : Command → Option Outcome
  | .prompt => none
  | .sign r =>
    match r.transcript s with
    | .ok t => some ⟨0, t⟩
    | .error f => some (failed f)
  | .verify r =>
    match r.transcript s with
    | .ok (valid, t) => some ⟨if valid then 0 else 1, t⟩
    | .error f => some (failed f)
  | .policy => some ⟨0, [.out (s.overview path file)]⟩

/-- Start a run. -/
def start (env : Environment) (file : ConfigFile) (arguments : List String) : Start :=
  match CommandLine.parse arguments with
  | .error stop =>
    let text := stop.message
    .finished ⟨stop.exitStatus, [if stop.exitStatus = 0 then .out text else .err (text ++ "\n")]⟩
  | .ok line =>
    let path := env.configPath?
    let before := policyEvent path file line.policy
    match signer path file line.policy with
    | .error f => .finished ⟨1, before ++ (failed f).transcript⟩
    | .ok s =>
      match perform s path file (line.command.getD .prompt) with
      | none => .prompt s before
      | some o => .finished { o with transcript := before ++ o.transcript }

/-- A whole run. -/
def run (env : Environment) (file : ConfigFile) (arguments : List String) (input : Bytes) :
    Outcome :=
  match start env file arguments with
  | .finished o => o
  | .prompt s written => ⟨0, written ++ (Prompt.run s input).2⟩

end Program
end PacketAuth
