import PacketAuth.Bytes.Basic
import PacketAuth.Json.Numeral

/-! # Reading JSON

`parse` reads a whole text as one value; the functions before it read from the front of a text and
return the rest.  The depth to which values may nest is bounded. -/

namespace PacketAuth.Json

open Text (Reader expect)

def isBlank (c : Char) : Bool := c = ' ' || c = '\n' || c = '\r' || c = '\t'

def skipBlanks (cs : List Char) : List Char := cs.dropWhile isBlank

/-! ### Strings -/

/-- Four hexadecimal digits. -/
def hexQuad : Reader Nat := Text.exactly 16 Hex.digit? 4 0

/-- The character of a one-letter escape. -/
def letterEscape? : Char → Option Char
  | '"' => some '"'
  | '\\' => some '\\'
  | '/' => some '/'
  | 'b' => some '\x08'
  | 'f' => some '\x0C'
  | 'n' => some '\n'
  | 'r' => some '\r'
  | 't' => some '\t'
  | _ => none

/-- The character of a code unit, or of the pair that it begins, and the rest. -/
def unitEscape (unit : Nat) (rest : List Char) : Option (Char × List Char) :=
  if 0xD800 ≤ unit ∧ unit < 0xDC00 then
    match rest with
    | '\\' :: 'u' :: more => do
      let (low, rest) ← hexQuad more
      if 0xDC00 ≤ low ∧ low < 0xE000 then
        some (Char.ofNat (0x10000 + (unit - 0xD800) * 0x400 + (low - 0xDC00)), rest)
      else none
    | _ => none
  else if 0xDC00 ≤ unit ∧ unit < 0xE000 then none
  else some (Char.ofNat unit, rest)

/-- The characters up to the closing quote; those read so far come newest first. -/
def stringBody (read : List Char) : (fuel : Nat) → Reader String
  | 0, _ => none
  | _ + 1, [] => none
  | fuel + 1, c :: rest =>
    if c = '"' then some (String.ofList read.reverse, rest)
    else if c = '\\' then
      match rest with
      | 'u' :: more => do
        let (unit, rest) ← hexQuad more
        let (x, rest) ← unitEscape unit rest
        stringBody (x :: read) fuel rest
      | e :: rest => do
        let x ← letterEscape? e
        stringBody (x :: read) fuel rest
      | [] => none
    else if c.toNat < 0x20 then none
    else stringBody (c :: read) fuel rest

/-! ### Values -/

/-- The items after the first, up to the closing bracket. -/
def itemsRest (item : Reader Json) : (fuel : Nat) → Reader (List Json)
  | 0, _ => none
  | fuel + 1, cs =>
    match skipBlanks cs with
    | ']' :: rest => some ([], rest)
    | ',' :: rest => do
      let (j, rest) ← item rest
      let (js, rest) ← itemsRest item fuel rest
      return (j :: js, rest)
    | _ => none

/-- The items of an array whose opening bracket is read. -/
def items (item : Reader Json) (cs : List Char) : Option (List Json × List Char) :=
  match skipBlanks cs with
  | ']' :: rest => some ([], rest)
  | cs => do
    let (j, rest) ← item cs
    let (js, rest) ← itemsRest item (rest.length + 1) rest
    return (j :: js, rest)

/-- A name, a colon and a value. -/
def member (item : Reader Json) (cs : List Char) : Option ((String × Json) × List Char) :=
  match skipBlanks cs with
  | '"' :: rest => do
    let (name, rest) ← stringBody [] (rest.length + 1) rest
    match skipBlanks rest with
    | ':' :: rest => do
      let (j, rest) ← item rest
      return ((name, j), rest)
    | _ => none
  | _ => none

/-- The members after the first, up to the closing brace. -/
def membersRest (item : Reader Json) : (fuel : Nat) → Reader (List (String × Json))
  | 0, _ => none
  | fuel + 1, cs =>
    match skipBlanks cs with
    | '}' :: rest => some ([], rest)
    | ',' :: rest => do
      let (m, rest) ← member item rest
      let (ms, rest) ← membersRest item fuel rest
      return (m :: ms, rest)
    | _ => none

/-- The members of an object whose opening brace is read. -/
def members (item : Reader Json) (cs : List Char) : Option (List (String × Json) × List Char) :=
  match skipBlanks cs with
  | '}' :: rest => some ([], rest)
  | cs => do
    let (m, rest) ← member item cs
    let (ms, rest) ← membersRest item (rest.length + 1) rest
    return (m :: ms, rest)

/-- A value with blanks before it that nests at most `depth` levels. -/
def value : (depth : Nat) → Reader Json
  | 0, _ => none
  | depth + 1, cs =>
    match skipBlanks cs with
    | '{' :: rest => (members (value depth) rest).map fun (ms, rest) => (object ms, rest)
    | '[' :: rest => (items (value depth) rest).map fun (js, rest) => (array js, rest)
    | '"' :: rest => (stringBody [] (rest.length + 1) rest).map fun (s, rest) => (string s, rest)
    | 't' :: rest => (expect "rue".toList rest).map fun rest => (boolean true, rest)
    | 'f' :: rest => (expect "alse".toList rest).map fun rest => (boolean false, rest)
    | 'n' :: rest => (expect "ull".toList rest).map fun rest => (null, rest)
    | cs => (readNumber cs).map fun (n, rest) => (number n, rest)

/-- The value that a whole text stands for. -/
def parse (s : String) : Option Json :=
  match value 128 s.toList with
  | some (j, rest) => if skipBlanks rest = [] then some j else none
  | none => none

end PacketAuth.Json
