import PacketAuth.Bytes.Basic
import PacketAuth.Decimal.Integer
import PacketAuth.Text.Characters

/-! # Patterns for the values of fields

A condition on a field may ask for a value that is a boolean, a number or a text that matches a
regular expression.  This module tells which texts ask for such a value (`isWellFormed`).  Of these
the booleans and all numbers without a plus sign are regular expressions as well.

A pattern stands between braces and holds no closing brace.  So an opening brace never begins a
repetition count or a long name that comes to its end, and is refused wherever it would. -/

namespace PacketAuth.Log.Pattern

open Text (Reader expect)

/-! ### Escapes -/

/-- What a backslash and the characters after it stand for. -/
inductive Escape where
  | char (c : Char)
  | set
  /-- An end of the text, which stands for no character. -/
  | anchor
deriving DecidableEq, Repr

/-- The letters of the general categories of one letter. -/
def isCategory (c : Char) : Bool := "LMNPSZC".toList.contains c.toUpper

/-- Hexadecimal digits of a code point. -/
def codePoint (count : Nat) (cs : List Char) : Option (Escape × List Char) := do
  let (n, rest) ← Text.exactly 16 Hex.digit? count 0 cs
  if n.isValidChar then return (.char (Char.ofNat n), rest) else none

/-- An escape whose backslash is read.  Word boundaries are not provided for. -/
def escape : Reader Escape
  | [] => none
  | c :: cs =>
    if c = 'x' then codePoint 2 cs
    else if c = 'u' then codePoint 4 cs
    else if c = 'U' then codePoint 8 cs
    else if c = 'p' ∨ c = 'P' then
      match cs with
      | d :: rest => if isCategory d then some (.set, rest) else none
      | [] => none
    else if "dswDSW".toList.contains c then some (.set, cs)
    else if c = 'A' ∨ c = 'z' then some (.anchor, cs)
    else if c = 'a' then some (.char '\x07', cs)
    else if c = 'f' then some (.char '\x0C', cs)
    else if c = 'n' then some (.char '\n', cs)
    else if c = 'r' then some (.char '\r', cs)
    else if c = 't' then some (.char '\t', cs)
    else if c = 'v' then some (.char '\x0B', cs)
    else if 0x80 ≤ c.toNat || c.isAlphanum || c = '<' || c = '>' then none
    else some (.char c, cs)

/-! ### Sets in brackets -/

/-- The names that a set may hold between brackets and colons. -/
def setNames : List (List Char) :=
  ["alnum", "alpha", "ascii", "blank", "cntrl", "digit", "graph", "lower", "print", "punct",
    "space", "upper", "word", "xdigit"].map String.toList

/-- The rest after a named set whose opening bracket is read. -/
def namedSet (cs : List Char) : Option (List Char) := do
  let rest ← expect [':'] cs
  let rest := (expect ['^'] rest).getD rest
  let name := rest.takeWhile (· ≠ ':')
  if setNames.contains name then expect [':', ']'] (rest.drop name.length) else none

/-- The rest after what is special at the front of a set: a mark of negation, and then hyphens or
a closing bracket that stand for themselves. -/
def setFront (cs : List Char) : List Char :=
  let cs := (expect ['^'] cs).getD cs
  match cs with
  | '-' :: rest => rest.dropWhile (· = '-')
  | ']' :: rest => rest
  | _ => cs

/-- A character or an escape in a set. -/
def setItem : Reader (Option Char)
  | [] => none
  | '\\' :: cs =>
    match escape cs with
    | some (.char c, rest) => some (some c, rest)
    | some (.set, rest) => some (none, rest)
    | _ => none
  | c :: cs => some (some c, cs)

/-- The rest after an item or a range of characters in a set. -/
def setRange (cs : List Char) : Option (List Char) := do
  let (low, rest) ← setItem cs
  match rest with
  | '-' :: ']' :: _ => return rest
  | '-' :: '-' :: _ => return rest
  | '-' :: rest =>
    let (high, rest) ← setItem rest
    match low, high with
    | some low, some high => if low ≤ high then return rest else none
    | _, _ => none
  | _ => return rest

/-- The rest after the bracket that closes the outermost of `depth + 1` sets. -/
def setBody (depth : Nat) : (fuel : Nat) → List Char → Option (List Char)
  | 0, _ => none
  | _ + 1, [] => none
  | fuel + 1, '[' :: cs =>
    match namedSet cs with
    | some rest => setBody depth fuel rest
    | none => setBody (depth + 1) fuel (setFront cs)
  | fuel + 1, ']' :: cs =>
    match depth with
    | 0 => some cs
    | depth + 1 => setBody depth fuel cs
  | fuel + 1, '&' :: '&' :: cs => setBody depth fuel cs
  | fuel + 1, '-' :: '-' :: cs => setBody depth fuel cs
  | fuel + 1, '~' :: '~' :: cs => setBody depth fuel cs
  | fuel + 1, cs => (setRange cs).bind (setBody depth fuel)

/-! ### Groups -/

/-- What an opening parenthesis begins. -/
inductive Opening where
  | group (name : Option (List Char))
  /-- Flags that hold from here on. -/
  | flags
deriving DecidableEq, Repr

/-- Whether flags are all known and none is given twice.  One hyphen may divide those that are set
from those that are cleared. -/
def areFlags (flags : List Char) : Bool :=
  flags.all ("imsUuRx-".toList.contains ·) && decide flags.Nodup && flags.getLast? ≠ some '-'

/-- Whether a group may have a name. -/
def isGroupName : List Char → Bool
  | [] => false
  | c :: cs =>
    (c = '_' || Text.isAlphanumeric c && (Decimal.digit? c).isNone) &&
      cs.all fun c => "_.[]".toList.contains c || Text.isAlphanumeric c

/-- A group whose name comes next. -/
def namedGroup (cs : List Char) : Option (Opening × List Char) :=
  let name := cs.takeWhile (· ≠ '>')
  if isGroupName name then
    (expect ['>'] (cs.drop name.length)).map fun rest => (.group (some name), rest)
  else none

/-- What an opening parenthesis begins that is read.  Looking ahead or behind is not provided
for. -/
def opening : Reader Opening
  | '?' :: 'P' :: '<' :: cs => namedGroup cs
  | '?' :: '<' :: cs => namedGroup cs
  | '?' :: cs =>
    let isFlag (c : Char) : Bool := c ≠ ':' && c ≠ ')'
    let flags := cs.takeWhile isFlag
    match areFlags flags, cs.dropWhile isFlag with
    | true, ':' :: rest => some (.group none, rest)
    | true, ')' :: rest => if flags.isEmpty then none else some (.flags, rest)
    | _, _ => none
  | cs => some (.group none, cs)

/-! ### Whole patterns -/

/-- Whether a text goes on as a regular expression, inside `depth` groups, after groups of some
names.  `repeatable` tells whether there is something that may be repeated. -/
def isRegular (depth : Nat) (names : List (List Char)) (repeatable : Bool) :
    (fuel : Nat) → List Char → Bool
  | 0, _ => false
  | _ + 1, [] => depth = 0
  | fuel + 1, c :: cs =>
    if c = '(' then
      match opening cs with
      | some (.group none, rest) => isRegular (depth + 1) names false fuel rest
      | some (.group (some name), rest) =>
        !names.contains name && isRegular (depth + 1) (name :: names) false fuel rest
      | some (.flags, rest) => isRegular depth names false fuel rest
      | none => false
    else if c = ')' then depth ≠ 0 && isRegular (depth - 1) names true fuel cs
    else if c = '|' then isRegular depth names false fuel cs
    else if c = '?' ∨ c = '*' ∨ c = '+' then repeatable && isRegular depth names true fuel cs
    else if c = '[' then
      match setBody 0 fuel (setFront cs) with
      | some rest => isRegular depth names true fuel rest
      | none => false
    else if c = '\\' then
      match escape cs with
      | some (_, rest) => isRegular depth names true fuel rest
      | none => false
    else c ≠ '{' && isRegular depth names true fuel cs

/-- Whether a text is a number without a sign. -/
def isNumber (cs : List Char) : Bool :=
  if ["inf", "infinity", "nan"].contains (String.ofList (cs.map Char.toLower)) then true
  else
    let isDigit (c : Char) : Bool := (Decimal.digit? c).isSome
    let whole := cs.takeWhile isDigit
    let rest := cs.drop whole.length
    let (fraction, rest) :=
      match rest with
      | '.' :: rest => (rest.takeWhile isDigit, rest.dropWhile isDigit)
      | rest => ([], rest)
    let isExponent : List Char → Bool
      | [] => true
      | e :: '+' :: ds => (e = 'e' || e = 'E') && !ds.isEmpty && ds.all isDigit
      | e :: '-' :: ds => (e = 'e' || e = 'E') && !ds.isEmpty && ds.all isDigit
      | e :: ds => (e = 'e' || e = 'E') && !ds.isEmpty && ds.all isDigit
    !(whole ++ fraction).isEmpty && isExponent rest

/-- Whether a text asks for a value. -/
def isWellFormed (s : String) : Bool :=
  match s.toList with
  | '+' :: cs => isNumber cs
  | cs => isRegular 0 [] false (cs.length + 1) cs

end PacketAuth.Log.Pattern
