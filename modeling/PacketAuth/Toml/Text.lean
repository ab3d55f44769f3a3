import PacketAuth.Bytes.Basic
import PacketAuth.Text.Characters
import PacketAuth.Toml.Table

/-! # TOML blanks, strings and keys

Strings come in four forms: basic and literal, each on one line or over several. -/

namespace PacketAuth.Toml

open Text (Reader expect)

/-! ### Blanks, comments and line ends -/

def isBlank (c : Char) : Bool := c = ' ' || c = '\t'

def skipBlanks (cs : List Char) : List Char := cs.dropWhile isBlank

/-- Whether a character may stand in a comment. -/
def inComment (c : Char) : Bool := c = '\t' || 0x20 ≤ c.toNat && c.toNat ≠ 0x7F

/-- The rest after the comment at the front, if there is one. -/
def skipComment : List Char → List Char
  | '#' :: cs => cs.dropWhile inComment
  | cs => cs

/-- The rest after a line end at the front. -/
def lineEnd? : List Char → Option (List Char)
  | '\n' :: cs => some cs
  | '\r' :: '\n' :: cs => some cs
  | _ => none

/-- The rest after blanks, comments and line ends. -/
def skipLines : (fuel : Nat) → List Char → List Char
  | 0, cs => cs
  | fuel + 1, cs =>
    let rest := skipComment (skipBlanks cs)
    match lineEnd? rest with
    | some rest => skipLines fuel rest
    | none => rest

/-! ### Strings -/

/-- Whether a character may stand unescaped in a basic string. -/
def inBasic (c : Char) : Bool := inComment c && c ≠ '"' && c ≠ '\\'

/-- Whether a character may stand in a literal string. -/
def inLiteral (c : Char) : Bool := inComment c && c ≠ '\''

/-- The character of a code point, unless it is a surrogate or none at all. -/
def scalar? (n : Nat) : Option Char := if n.isValidChar then some (Char.ofNat n) else none

/-- The character of an escape whose backslash is read. -/
def escape : Reader Char
  | 'b' :: cs => some ('\x08', cs)
  | 'f' :: cs => some ('\x0C', cs)
  | 'n' :: cs => some ('\n', cs)
  | 'r' :: cs => some ('\r', cs)
  | 't' :: cs => some ('\t', cs)
  | '\\' :: cs => some ('\\', cs)
  | '"' :: cs => some ('"', cs)
  | 'u' :: cs => do
    let (n, rest) ← Text.exactly 16 Hex.digit? 4 0 cs
    return (← scalar? n, rest)
  | 'U' :: cs => do
    let (n, rest) ← Text.exactly 16 Hex.digit? 8 0 cs
    return (← scalar? n, rest)
  | _ => none

/-- A basic string up to its closing quote; the characters read come newest first. -/
def basicBody (read : List Char) : (fuel : Nat) → Reader String
  | 0, _ => none
  | _ + 1, [] => none
  | fuel + 1, c :: cs =>
    if c = '"' then some (String.ofList read.reverse, cs)
    else if c = '\\' then do
      let (x, rest) ← escape cs
      basicBody (x :: read) fuel rest
    else if inBasic c then basicBody (c :: read) fuel cs
    else none

/-- A literal string up to its closing quote. -/
def literalBody (read : List Char) : Reader String
  | [] => none
  | c :: cs =>
    if c = '\'' then some (String.ofList read.reverse, cs)
    else if inLiteral c then literalBody (c :: read) cs
    else none

/-- The rest after blanks and line ends. -/
def skipBreaks : (fuel : Nat) → List Char → List Char
  | 0, cs => cs
  | fuel + 1, cs =>
    match lineEnd? (skipBlanks cs) with
    | some rest => skipBreaks fuel rest
    | none => skipBlanks cs

/-- The rest after a line end that a backslash hides, with all blanks and line ends after it. -/
def hiddenLineEnd? (cs : List Char) : Option (List Char) :=
  (lineEnd? (skipBlanks cs)).map fun rest => skipBreaks (rest.length + 1) rest

/-- What a run of quotes in a string over several lines means: fewer than three belong to the
string, and of three to five all but three do, and close it. -/
def closing (quotes : Nat) : Option (Bool × Nat) :=
  if quotes < 3 then some (false, quotes)
  else if quotes < 6 then some (true, quotes - 3)
  else none

/-- A string over several lines up to its closing quotes.  `quote` is the character that closes it,
and a literal string takes backslashes as they are. -/
def blockBody (quote : Char) (read : List Char) : (fuel : Nat) → Reader String
  | 0, _ => none
  | _ + 1, [] => none
  | fuel + 1, c :: cs =>
    if c = quote then do
      let run := (c :: cs).takeWhile (· = quote)
      let (closed, kept) ← closing run.length
      let read := List.replicate kept quote ++ read
      let rest := (c :: cs).dropWhile (· = quote)
      if closed then return (String.ofList read.reverse, rest) else blockBody quote read fuel rest
    else
      match lineEnd? (c :: cs) with
      | some rest => blockBody quote ('\n' :: read) fuel rest
      | none =>
        if c = '\\' ∧ quote = '"' then
          match hiddenLineEnd? cs with
          | some rest => blockBody quote read fuel rest
          | none => do
            let (x, rest) ← escape cs
            blockBody quote (x :: read) fuel rest
        else if inComment c then blockBody quote (c :: read) fuel cs
        else none

/-- A string over several lines whose opening quotes are read.  A line end right after them does
not count. -/
def block (quote : Char) (cs : List Char) : Option (String × List Char) :=
  blockBody quote [] (cs.length + 1) ((lineEnd? cs).getD cs)

/-- A string of any form. -/
def string : Reader String
  | '"' :: '"' :: '"' :: cs => block '"' cs
  | '\'' :: '\'' :: '\'' :: cs => block '\'' cs
  | '"' :: cs => basicBody [] (cs.length + 1) cs
  | '\'' :: cs => literalBody [] cs
  | _ => none

/-! ### Keys -/

/-- Whether a character may stand in a bare key. -/
def inBareKey (c : Char) : Bool := c.isAlphanum || c = '-' || c = '_'

/-- One part of a key. -/
def keyPart : Reader String
  | '"' :: cs => basicBody [] (cs.length + 1) cs
  | '\'' :: cs => literalBody [] cs
  | cs =>
    match cs.takeWhile inBareKey with
    | [] => none
    | name => some (String.ofList name, cs.dropWhile inBareKey)

/-- The parts of a key after the first, blanks before the points being read. -/
def keyRest : (fuel : Nat) → Reader (List String)
  | 0, _ => none
  | fuel + 1, '.' :: cs => do
    let (name, rest) ← keyPart (skipBlanks cs)
    let (names, rest) ← keyRest fuel (skipBlanks rest)
    return (name :: names, rest)
  | _ + 1, cs => some ([], cs)

/-- The most parts that a key may have. -/
def maxKeyParts : Nat := 79

/-- A key of one part or several, as its leading parts and its last one, with the blanks around
it. -/
def key (cs : List Char) : Option ((List String × String) × List Char) := do
  let (name, rest) ← keyPart (skipBlanks cs)
  let (names, rest) ← keyRest (rest.length + 1) (skipBlanks rest)
  if names.length < maxKeyParts then
    return (((name :: names).dropLast, (name :: names).getLast (by simp)), rest)
  else none

end PacketAuth.Toml
