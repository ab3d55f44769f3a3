import PacketAuth.Log.Filter

/-! # Transcripts

What a run of the program writes, in order: text for either stream and log events.  Log events go
to the error stream, as far as a filter admits them. -/

namespace PacketAuth

inductive Entry where
  | out (text : String)
  | err (text : String)
  | log (e : Log.Event)

abbrev Transcript := List Entry

namespace Entry

/-- What an entry adds to the output stream. -/
def stdout : Entry → String
  | out text => text
  | _ => ""

/-- What an entry adds to the error stream. -/
def stderr (f : Log.Filter) : Entry → String
  | err text => text
  | log e => if f.admits e then e.line else ""
  | out _ => ""

end Entry

namespace Transcript

/-- The output stream. -/
def stdout (t : Transcript) : String := String.ofList (t.flatMap fun e => e.stdout.toList)

/-- The error stream. -/
def stderr (f : Log.Filter) (t : Transcript) : String :=
  String.ofList (t.flatMap fun e => (e.stderr f).toList)

end Transcript
end PacketAuth
