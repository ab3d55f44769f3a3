import PacketAuth.Bytes.Basic
import PacketAuth.Decimal.Shortest

/-! # JSON values and their text

Objects keep the order of their members.  Integers are exact; every other number is a binary
floating-point number.  There are two ways to write a value: `Json.compact`, without a blank, and
`Json.pretty`, with one member or item to a line and two blanks of indentation a level. -/

namespace PacketAuth

namespace Json

inductive Number where
  | integer (n : Int)
  | float (negative : Bool) (magnitude : Binary64)
deriving DecidableEq, Repr

/-- Ties go to the even digit, and numbers are written out from five places behind the point to
sixteen before it. -/
def numberLayout : Decimal.Layout := ⟨.even, -4, 16⟩

/-- The text of a number. -/
def Number.text : Number → String
  | integer n => toString n
  | float negative x => Decimal.render numberLayout negative x

end Json

inductive Json where
  | null
  | boolean (b : Bool)
  | number (n : Json.Number)
  | string (s : String)
  | array (items : List Json)
  | object (members : List (String × Json))
deriving Repr

namespace Json

/-- The number of a natural number. -/
def ofNat (n : Nat) : Json := number (.integer n)

/-- The value of the first member of a name. -/
def field? (j : Json) (name : String) : Option Json :=
  match j with
  | object members => members.lookup name
  | _ => none

/-! ### Text -/

/-- How a character is written in a string. -/
def escape (c : Char) : List Char :=
  if c = '"' then ['\\', '"']
  else if c = '\\' then ['\\', '\\']
  else if c = '\n' then ['\\', 'n']
  else if c = '\r' then ['\\', 'r']
  else if c = '\t' then ['\\', 't']
  else if c = '\x08' then ['\\', 'b']
  else if c = '\x0C' then ['\\', 'f']
  else if c.toNat < 0x20 then
    ['\\', 'u', '0', '0', Hex.digit (c.toNat / 16), Hex.digit (c.toNat % 16)]
  else [c]

/-- A string with its quotes. -/
def stringText (s : String) : List Char := '"' :: s.toList.flatMap escape ++ ['"']

/-- The text of a value that is neither an array nor an object. -/
def scalarText : Json → List Char
  | null => "null".toList
  | boolean true => "true".toList
  | boolean false => "false".toList
  | number n => n.text.toList
  | string s => stringText s
  | array _ => []
  | object _ => []

mutual

def compactChars : Json → List Char
  | array items => '[' :: compactItems items ++ [']']
  | object members => '{' :: compactMembers members ++ ['}']
  | j => scalarText j

def compactItems : List Json → List Char
  | [] => []
  | [j] => compactChars j
  | j :: rest => compactChars j ++ ',' :: compactItems rest

def compactMembers : List (String × Json) → List Char
  | [] => []
  | [(name, j)] => stringText name ++ ':' :: compactChars j
  | (name, j) :: rest => stringText name ++ ':' :: compactChars j ++ ',' :: compactMembers rest

end

/-- A line break and the indentation of a level. -/
def newline (level : Nat) : List Char := '\n' :: List.replicate (2 * level) ' '

mutual

def prettyChars (level : Nat) : Json → List Char
  | array [] => ['[', ']']
  | array items => '[' :: prettyItems (level + 1) items ++ newline level ++ [']']
  | object [] => ['{', '}']
  | object members => '{' :: prettyMembers (level + 1) members ++ newline level ++ ['}']
  | j => scalarText j

def prettyItems (level : Nat) : List Json → List Char
  | [] => []
  | [j] => newline level ++ prettyChars level j
  | j :: rest => newline level ++ prettyChars level j ++ ',' :: prettyItems level rest

def prettyMembers (level : Nat) : List (String × Json) → List Char
  | [] => []
  | [(name, j)] => newline level ++ stringText name ++ ':' :: ' ' :: prettyChars level j
  | (name, j) :: rest =>
    newline level ++ stringText name ++ ':' :: ' ' :: prettyChars level j ++
      ',' :: prettyMembers level rest

end

/-- A value on one line. -/
def compact (j : Json) : String := String.ofList (compactChars j)

/-- A value over several lines. -/
def pretty (j : Json) : String := String.ofList (prettyChars 0 j)

end Json
end PacketAuth
