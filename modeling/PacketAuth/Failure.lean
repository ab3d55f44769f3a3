import PacketAuth.Config
import PacketAuth.SigningError

/-! # Failures of a command

Everything that can keep a command from doing its work, with the text that the user reads. -/

namespace PacketAuth

inductive Failure where
  | signing (e : SigningError)
  /-- The policy that file and options add up to is refused. -/
  | effectivePolicy (e : SigningError)
  | notAscii
  | config (path : String) (fault : Config.Fault)
  /-- No place for the configuration file is known. -/
  | noHome
deriving DecidableEq, Repr

namespace Failure

/-- The text of a failure, the circumstances first. -/
def message : Failure → String
  | signing e => e.message
  | effectivePolicy e => s!"signing policy: {e.message}"
  | notAscii => "packet data must be 7-bit ASCII"
  | config path fault => fault.message path
  | noHome => "cannot resolve home dir"

/-- The error of signing behind a failure. -/
def signing? : Failure → Option SigningError
  | signing e => some e
  | effectivePolicy e => some e
  | _ => none

/-- The line that reports a failure, with the number of the error behind it. -/
def line (f : Failure) : String :=
  match f.signing? with
  | some e => s!"error: {f.message} [code {e.code}]\n"
  | none => s!"error: {f.message}\n"

end Failure
end PacketAuth
