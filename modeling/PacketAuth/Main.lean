import PacketAuth.Program

/-! # The executable

Reads the environment and the configuration file, runs the program, and puts the prompt's questions
as lines arrive. -/

namespace PacketAuth

/-! ### The home directory -/

/-- The number of the user whom a process works for, in the status of the process. -/
def userIn? (status : String) : Option String := do
  let line ← (status.splitOn "\n").find? (·.startsWith "Uid:")
  (line.splitOn "\t")[1]?

/-- The home directory of a user in a password database. -/
def homeIn? (database user : String) : Option String := do
  let entries := (database.splitOn "\n").map (·.splitOn ":")
  let entry ← entries.find? fun fields => fields[2]? = some user
  let home ← entry[5]?
  if home.isEmpty then none else some home

/-- Look up the home directory, in the environment and else in the password database. -/
def findHome : IO (Option String) := do
  if let some home ← IO.getEnv "HOME" then
    unless home.isEmpty do return home
  try
    let database ← IO.FS.readFile "/etc/passwd"
    return (userIn? (← IO.FS.readFile "/proc/self/status")).bind (homeIn? database)
  catch _ => return none

/-! ### The configuration file -/

/-- The number and the text that the operating system has for an error. -/
def systemError : IO.Error → Nat × String
  | .noFileOrDirectory _ code reason | .interrupted _ code reason
  | .alreadyExists _ code reason | .invalidArgument _ code reason
  | .permissionDenied _ code reason | .resourceExhausted _ code reason
  | .inappropriateType _ code reason | .noSuchThing _ code reason
  | .otherError code reason | .resourceBusy code reason | .resourceVanished code reason
  | .unsupportedOperation code reason | .hardwareFault code reason
  | .unsatisfiedConstraints code reason | .illegalOperation code reason
  | .protocolError code reason | .timeExpired code reason => (code.toNat, reason)
  | e => (0, toString e)

/-- The number by which the operating system says that a path leads to a directory. -/
def isDirectoryCode : Nat := 21

/-- The file at a path as the program sees it.  Where the path leads nowhere, there is none. -/
def readConfigFile (path : Option String) : IO ConfigFile := do
  let some path := path | return .absent
  try discard (IO.FS.realPath path)
  catch _ => return .absent
  try return .contents (← IO.FS.readBinFile path).toList
  catch e =>
    let (code, reason) := systemError e
    return if code = isDirectoryCode then .directory else .unreadable reason code

/-! ### Streams -/

/-- Write a transcript to the two streams. -/
def writeTranscript (f : Log.Filter) (t : Transcript) : IO Unit := do
  for entry in t do
    IO.print entry.stdout
    IO.eprint (entry.stderr f)
  (← IO.getStdout).flush

/-- The next line of the input with its end, empty at the end of the input. -/
partial def readLine (input : IO.FS.Stream) (read : Bytes) : IO Bytes := do
  let chunk ← input.read 1
  match chunk.toList with
  | [] => return read.reverse
  | b :: _ => if b = 10 then return (b :: read).reverse else readLine input (b :: read)

/-- Put the questions of a prompt until the input ends. -/
partial def converse (f : Log.Filter) (s : Signer) (p : Prompt) : IO Unit := do
  writeTranscript f [.out p.question]
  match Prompt.lines (← readLine (← IO.getStdin) []) with
  | [] => writeTranscript f p.finish
  | line :: _ =>
    let (p, written) := p.answer s line
    writeTranscript f written
    converse f s p

end PacketAuth

open PacketAuth in
def main (arguments : List String) : IO UInt32 := do
  let env : Environment := {
    home := ← findHome
    configHome := ← IO.getEnv "PKTSIG_HOME"
    logFilter := ← IO.getEnv "PKTSIG_LOG" }
  let file ← readConfigFile env.configPath?
  match Program.start env file arguments with
  | .finished o =>
    writeTranscript env.filter o.transcript
    return o.status
  | .prompt s written =>
    writeTranscript env.filter written
    converse env.filter s {}
    return 0
