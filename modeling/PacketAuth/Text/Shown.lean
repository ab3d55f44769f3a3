import PacketAuth.Text.Characters
import PacketAuth.Text.Utf8

/-! # Text that is shown

Two ways to show a foreign text.  `quote` puts it between double quotes, where nothing in it can
break the line: characters without a glyph and those that attach to their neighbour are written by
code point.  `plain` is what a terminal would show of it: control characters other than blanks are
left out, and so are the sequences that an escape character begins, whether they have come to their
end or not. -/

namespace PacketAuth.Text

/-! ### Quoted text -/

/-- How a character is written between quotes. -/
def escape (c : Char) : List Char :=
  if c = '"' then ['\\', '"']
  else if c = '\\' then ['\\', '\\']
  else if c = '\n' then ['\\', 'n']
  else if c = '\r' then ['\\', 'r']
  else if c = '\t' then ['\\', 't']
  else if c = '\x00' then ['\\', '0']
  else if isCombining c || isUnprintable c then
    ['\\', 'u', '{'] ++ Hex.ofNat c.toNat ++ ['}']
  else [c]

/-- A text in double quotes. -/
def quote (s : String) : String :=
  String.ofList ('"' :: s.toList.flatMap escape ++ ['"'])

/-! ### Plain text -/

/-- Where a terminal stands in its input. -/
inductive Terminal where
  /-- Between sequences. -/
  | ground
  /-- After an escape character. -/
  | escape
  /-- In an escape sequence whose last byte is still to come. -/
  | sequence
  /-- In a control sequence, which a letter or the like ends. -/
  | control
  /-- In a command to the operating system, which a bell ends. -/
  | command
  /-- In a string of another kind. -/
  | string
deriving DecidableEq, Repr

namespace Terminal

/-- The control characters that are shown: tab, line feed, form feed and carriage return. -/
def isBlank (b : UInt8) : Bool := b = 9 || b = 10 || b = 12 || b = 13

/-- Whether a byte goes on with a character of several bytes. -/
def isContinuation (b : UInt8) : Bool := 0x80 ≤ b && b ≤ 0xBF

/-- Whether a byte is shown.  Bytes that go on with a character always are. -/
def shows (t : Terminal) (b : UInt8) : Bool :=
  isContinuation b ||
    match t with
    | ground => isBlank b || 0x20 ≤ b && b ≠ 0x7F
    | escape => isBlank b
    | sequence => isBlank b
    | control => isBlank b
    | command => false
    | string => false

/-- The place after a byte that is not shown.  An escape character begins a sequence anywhere, and
the characters CAN and SUB break off any. -/
def after (t : Terminal) (b : UInt8) : Terminal :=
  if b = 0x1B then escape
  else if b = 0x18 ∨ b = 0x1A then ground
  else
    match t with
    | ground => ground
    | escape =>
      if b = 0x5B then control
      else if b = 0x5D then command
      else if b = 0x50 ∨ b = 0x58 ∨ b = 0x5E ∨ b = 0x5F then string
      else if 0x20 ≤ b ∧ b ≤ 0x2F then sequence
      else if 0x30 ≤ b ∧ b ≤ 0x7E then ground
      else escape
    | sequence => if 0x30 ≤ b ∧ b ≤ 0x7E then ground else sequence
    | control => if 0x40 ≤ b ∧ b ≤ 0x7E then ground else control
    | command => if b = 7 then ground else command
    | string => string

/-- The bytes that are shown.  After one that is, no sequence is open. -/
def shown (t : Terminal) : Bytes → Bytes
  | [] => []
  | b :: rest => if t.shows b then b :: shown ground rest else shown (t.after b) rest

end Terminal

/-- A text without control sequences. -/
def plain (s : String) : String := Utf8.decodeLossy (Terminal.ground.shown (Utf8.encode s))

end PacketAuth.Text
