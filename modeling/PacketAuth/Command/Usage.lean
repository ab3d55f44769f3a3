import PacketAuth.Command.Line
import PacketAuth.Text.Shown

/-! # Usage

What is said to a user whose arguments lead to no command, and the exit status that goes with it:
help on the program and on each of its commands, and one complaint about arguments that cannot be
carried out. -/

namespace PacketAuth.CommandLine

def programName : String := "pktsig"

def versionText : String := programName ++ " 0.1.0\n"

/-! ### Help -/

/-- Rows of two columns. -/
def columns (rows : List (String × String)) : String :=
  let width := (rows.map fun (left, _) => left.length).foldl max 0
  String.join (rows.map fun (left, right) =>
    "  " ++ left.pushn ' ' (width - left.length) ++ "  " ++ right ++ "\n")

namespace Place

/-- What a place is for. -/
def about : Place → String
  | top => "Packet-number HMAC signing"
  | prompt => "Interactive loop: prompt for data, packet number and key (default)"
  | sign => "Sign a single packet"
  | verify => "Check a signature against a packet"
  | policy => "Show the signing policy in force"

/-- The program or the command whose arguments stand in a place. -/
def name : Place → String
  | top => programName
  | prompt => "prompt"
  | sign => "sign"
  | verify => "verify"
  | policy => "policy"

/-- How arguments stand in a place. -/
def usage (p : Place) : String :=
  if p = top then "[OPTIONS] [COMMAND]"
  else p.name ++ " [OPTIONS]" ++ String.join (p.required.map (" " ++ ·.shown))

/-- What an option is for.  Some options say so only where a packet is signed. -/
def aboutSetting (p : Place) : Setting → String
  | .hash => "HMAC hash: sha256 | sha384 | sha512"
  | .minKeyBits => "Minimum key length in bits (multiple of 8, at least 128)"
  | .mode => "counter | payload-bound"
  | .data => if p = sign then "Packet data (ASCII)" else ""
  | .packetNumber => if p = sign then "Packet number, 0..=4294967295" else ""
  | .key => "Signing key, standard base64 with padding"
  | .signature => "Signature to check, standard base64 with padding"

/-- The order in which help lists the options with a value. -/
def listed : List Setting := [.data, .hash, .minKeyBits, .packetNumber, .key, .mode, .signature]

/-- The options of a place, and what they are for. -/
def optionRows (p : Place) : List (String × String) :=
  ((listed.filter (· ∈ p.settings)).map fun x => ("    " ++ x.shown, p.aboutSetting x)) ++
  (if p = sign then [("    --json", "Print the full signing report as JSON")] else []) ++
  [("-h, --help", "Print help")] ++
  (if p = top then [("-V, --version", "Print version")] else [])

end Place

namespace Topic

def about : Topic → String
  | place p => p.about
  | help => "Print this message or the help of the given subcommand(s)"

def usage : Topic → String
  | place p => p.usage
  | help => "help [COMMAND]..."

/-- The commands, and what they are for. -/
def commandRows : List (String × String) :=
  ([.prompt, .sign, .verify, .policy].map fun p : Place => (p.name, p.about)) ++
  [("help", help.about)]

/-- What may be written after the name of the program or of a command. -/
def lists : Topic → String
  | place p =>
    (if p = .top then "Commands:\n" ++ columns commandRows ++ "\n" else "") ++
      "Options:\n" ++ columns p.optionRows
  | help => "Arguments:\n" ++ columns [("[COMMAND]...", "Print help for the subcommand(s)")]

/-- The help on a topic. -/
def text (t : Topic) : String :=
  t.about ++ "\n\n" ++ s!"Usage: {programName} {t.usage}\n\n" ++ t.lists

end Topic

/-! ### Complaints -/

/-- The text of a complaint.  Left out are a guess at what was meant and, for most complaints, the
usage. -/
def complaint (s : String) : String := s!"error: {s}\n\nFor more information, try '--help'."

namespace Stop

/-- The text of a stop.  What the user has given is quoted as plain text. -/
def message : Stop → String
  | help t => t.text
  | version => versionText
  | unknownArgument argument => complaint s!"unexpected argument '{Text.plain argument}' found"
  | unknownCommand argument => complaint s!"unrecognized subcommand '{Text.plain argument}'"
  | surplusValue option value => complaint <|
    s!"unexpected value '{Text.plain value}' for '{option}' found; no more were expected"
  | missingValue option => complaint s!"a value is required for '{option}' but none was supplied"
  | repeated option => complaint s!"the argument '{option}' cannot be used multiple times"
  | missingOptions options => complaint <|
    "the following required arguments were not provided:" ++
      String.join (options.map ("\n  " ++ ·))
  | badValue value option why =>
    complaint s!"invalid value '{Text.plain value}' for '{option}': {why}"

/-- Help and version are what was asked for; all else is a mistake. -/
def exitStatus : Stop → UInt32
  | help _ => 0
  | version => 0
  | _ => 2

end Stop
end PacketAuth.CommandLine
