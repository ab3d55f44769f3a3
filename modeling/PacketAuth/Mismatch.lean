import PacketAuth.Text.Shown

/-! # Values of the wrong form

Why a value read from a document is not of the form that its place asks for. -/

namespace PacketAuth

/-- What was found in a place. -/
inductive Found where
  | null
  | boolean (b : Bool)
  | integer (n : Int)
  /-- A floating-point number, by its text. -/
  | float (text : String)
  | string (s : String)
  | sequence
  | map
deriving DecidableEq, Repr

def Found.message : Found → String
  | null => "null"
  | boolean b => s!"boolean `{b}`"
  | integer n => s!"integer `{n}`"
  | float text => s!"floating point `{text}`"
  | string s => s!"string {Text.quote s}"
  | sequence => "sequence"
  | map => "map"

inductive Mismatch where
  /-- A value of another kind. -/
  | kind (found : Found) (expected : String)
  /-- A value of the right kind and not among those allowed. -/
  | value (found : Found) (expected : String)
  /-- A name that is none of the choices. -/
  | choice (name : String) (choices : List String)
  | length (n : Nat) (expected : String)
  | missing (field : String)
  | repeated (field : String)
  /-- A table with no entry, or with several, where one entry names a choice. -/
  | single (several : Bool)
  /-- Content where there may be none. -/
  | content (expected : String)
  /-- A value that is neither a name nor a table. -/
  | nameOrTable
  /-- A value of a certain type where an empty table was expected. -/
  | table (found : String)
deriving DecidableEq, Repr

namespace Mismatch

/-- Names in a list of choices. -/
def choiceList : List String → String
  | [a] => s!"`{a}`"
  | [a, b] => s!"`{a}` or `{b}`"
  | names => "one of " ++ String.intercalate ", " (names.map fun a => s!"`{a}`")

/-- The text of a mismatch. -/
def message : Mismatch → String
  | kind found expected => s!"invalid type: {found.message}, expected {expected}"
  | value found expected => s!"invalid value: {found.message}, expected {expected}"
  | choice name choices => s!"unknown variant `{name}`, expected {choiceList choices}"
  | length n expected => s!"invalid length {n}, expected {expected}"
  | missing field => s!"missing field `{field}`"
  | repeated field => s!"duplicate field `{field}`"
  | single false => "wanted exactly 1 element, found 0 elements"
  | single true => "wanted exactly 1 element, more than 1 element"
  | content expected => s!"expected empty {expected}"
  | nameOrTable => "wanted string or table"
  | table found => s!"expected table, found {found}"

/-- The item in a place of an array of a certain shape, and the items after it. -/
def takeItem {α : Type} (shape : String) (place : Nat) : List α → Except Mismatch (α × List α)
  | a :: rest => .ok (a, rest)
  | [] => .error (.length place shape)

end Mismatch
end PacketAuth
