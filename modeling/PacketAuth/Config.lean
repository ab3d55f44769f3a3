import PacketAuth.Mismatch
import PacketAuth.Policy.Json
import PacketAuth.Text.Utf8
import PacketAuth.Toml.Document

/-! # The configuration file

A TOML file whose table `policy` may set fields of the signing policy.  A file that does not exist
sets none; one that exists and cannot be read is a fault and never passed over (`Config.read`). -/

namespace PacketAuth

namespace Toml

/-- The name of a type of value. -/
def Value.typeName : Value → String
  | .string _ => "string"
  | .integer _ => "integer"
  | .float _ => "float"
  | .boolean _ => "boolean"
  | .datetime => "datetime"
  | .array _ => "array"
  | .table .inline _ => "inline table"
  | .table _ _ => "table"
  | .tables _ => "array of tables"

/-- The text of a floating-point number, always written out. -/
def Float.text : Float → String
  | .finite negative x => Decimal.render .positional negative x
  | .infinite true => "-inf"
  | .infinite false => "inf"
  | .nan => "NaN"

/-- A value as it is named in a complaint. -/
def Value.found : Value → Found
  | .string s => .string s
  | .integer n => .integer n
  | .float x => .float x.text
  | .boolean b => .boolean b
  | .datetime => .map
  | .array _ => .sequence
  | .table _ _ => .map
  | .tables _ => .sequence

/-- What may stand under the name of a choice is something empty. -/
def Value.nothing : Value → Except Mismatch Unit
  | .tables [] => .ok ()
  | .tables _ => .error (.content "array")
  | .array [] => .ok ()
  | .array _ => .error (.content "table")
  | .table _ [] => .ok ()
  | .table _ _ => .error (.content "table")
  | other => .error (.table other.typeName)

/-- The choice that a value names. -/
def Value.choice {α : Type} (choices : List (String × α)) : Value → Except Mismatch α
  | .string s => Json.choiceOfName choices s
  | .table _ [(name, content)] => do
    let a ← Json.choiceOfName choices name
    content.nothing
    return a
  | .table _ entries => .error (.single !entries.isEmpty)
  | _ => .error .nameOrTable

/-- An integer of 32 bits. -/
def Value.word : Value → Except Mismatch UInt32
  | .integer n =>
    match Decimal.word? n with
    | some w => .ok w
    | none => .error (.value (.integer n) "u32")
  | other => .error (.kind other.found "u32")

end Toml

namespace Policy.Overlay

/-- The fields set so far and one more entry; entries of other names are passed over. -/
def readEntry (o : Overlay) : String × Toml.Value → Except Mismatch Overlay
  | ("hash", v) => return { o with hash := some (← v.choice Hash.choices) }
  | ("min_key_bits", v) => return { o with minKeyBits := some (← v.word) }
  | ("mode", v) => return { o with mode := some (← v.choice Mode.choices) }
  | _ => .ok o

/-- The fields that the first three items of an array set. -/
def ofItems (items : List Toml.Value) : Except Mismatch Overlay := do
  let shape := "struct PolicySection with 3 elements"
  let (v, rest) ← Mismatch.takeItem shape 0 items
  let hash ← v.choice Hash.choices
  let (v, rest) ← Mismatch.takeItem shape 1 rest
  let bits ← v.word
  let (v, _) ← Mismatch.takeItem shape 2 rest
  let mode ← v.choice Mode.choices
  return ⟨some hash, some bits, some mode⟩

/-- The fields that a TOML value sets. -/
def ofToml : Toml.Value → Except Mismatch Overlay
  | .table _ entries => entries.foldlM readEntry {}
  | .array items => ofItems items
  | .tables elements => ofItems (elements.map (.table .header))
  | .datetime => .ok {}
  | other => .error (.kind other.found "struct PolicySection")

end Policy.Overlay

/-- What stands at the path of the configuration file. -/
inductive ConfigFile where
  | absent
  | directory
  /-- Anything else that cannot be read, and the error of the operating system over it. -/
  | unreadable (reason : String) (code : Nat)
  | contents (bytes : Bytes)

namespace Config

/-- Why a configuration file cannot be used. -/
inductive Fault where
  | unreadable (reason : String) (code : Nat)
  | notUtf8
  | notToml
  | value (m : Mismatch)
deriving DecidableEq, Repr

namespace Fault

/-- What stands at the path is a directory. -/
def directory : Fault := unreadable "Is a directory" 21

/-- The text of a fault of the file at a path.  For a fault of TOML it goes on after the first line.
Left out there are the place in the file, the line of the file with a mark under it, and, for a file
that is not TOML, the reason. -/
def message (path : String) : Fault → String
  | unreadable reason code => s!"read {path}: {reason} (os error {code})"
  | notUtf8 => s!"read {path}: stream did not contain valid UTF-8"
  | notToml => s!"parse {path}: TOML parse error\n"
  | value m => s!"parse {path}: TOML parse error\n{m.message}\n"

end Fault

/-- The policy fields that a document sets. -/
def ofTable (document : Toml.Table) : Except Mismatch Policy.Overlay :=
  match document.lookup "policy" with
  | some v => Policy.Overlay.ofToml v
  | none => .ok {}

/-- The policy fields that a text sets. -/
def parse (s : String) : Except Fault Policy.Overlay :=
  match Toml.parse s with
  | none => .error .notToml
  | some document => (ofTable document).mapError .value

/-- The policy fields that a file sets, or `none` without a file. -/
def read : ConfigFile → Except Fault (Option Policy.Overlay)
  | .absent => .ok none
  | .directory => .error .directory
  | .unreadable reason code => .error (.unreadable reason code)
  | .contents bytes =>
    match Utf8.decode? bytes with
    | none => .error .notUtf8
    | some s => (parse s).map some

/-! ### Where the file is -/

/-- A file name within a directory. -/
def join (directory name : String) : String :=
  match directory.toList.getLast? with
  | none => name
  | some '/' => directory ++ name
  | some _ => directory ++ "/" ++ name

/-- The path of the file: in the directory set for it, else in a hidden one below the home directory
that has been found. -/
def path? (configHome home : Option String) : Option String :=
  match configHome with
  | some directory => some (join directory "config.toml")
  | none => home.map fun h => join (join h ".pktsig") "config.toml"

end Config
end PacketAuth
