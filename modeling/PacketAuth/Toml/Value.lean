import PacketAuth.Toml.Number
import PacketAuth.Toml.Table
import PacketAuth.Toml.Text

/-! # Reading TOML values

Arrays may run over several lines and end in a comma; tables between braces may do neither. -/

namespace PacketAuth.Toml

open Text (Reader expect)

/-- A value that holds no others. -/
def scalar : Reader Value
  | [] => none
  | c :: cs =>
    if c = '"' ∨ c = '\'' then (string (c :: cs)).map fun (s, rest) => (.string s, rest)
    else if c = 't' then (expect "rue".toList cs).map fun rest => (.boolean true, rest)
    else if c = 'f' then (expect "alse".toList cs).map fun rest => (.boolean false, rest)
    else if c = 'i' ∨ c = 'n' then
      (special false (c :: cs)).map fun (x, rest) => (.float x, rest)
    else if c = '+' ∨ c = '-' ∨ c.isDigit then numeric (c :: cs)
    else none

/-- The items of an array up to its closing bracket. -/
def items (item : Reader Value) : (fuel : Nat) → Reader (List Value)
  | 0, _ => none
  | fuel + 1, cs =>
    match skipLines (cs.length + 1) cs with
    | ']' :: rest => some ([], rest)
    | cs => do
      let (v, rest) ← item cs
      match skipLines (rest.length + 1) rest with
      | ']' :: rest => return ([v], rest)
      | ',' :: rest => do
        let (vs, rest) ← items item fuel rest
        return (v :: vs, rest)
      | _ => none

/-- A key, an equals sign and a value, with the blanks around them. -/
def entry (item : Reader Value) (cs : List Char) :
    Option (((List String × String) × Value) × List Char) := do
  let (name, rest) ← key cs
  let (v, rest) ← item (skipBlanks (← expect ['='] rest))
  return ((name, v), skipBlanks rest)

/-- The entries of a table up to its closing brace. -/
def entries (item : Reader Value) : (fuel : Nat) → Reader (List ((List String × String) × Value))
  | 0, _ => none
  | fuel + 1, cs => do
    let (e, rest) ← entry item cs
    match rest with
    | '}' :: rest => return ([e], rest)
    | ',' :: rest => do
      let (es, rest) ← entries item fuel rest
      return (e :: es, rest)
    | _ => none

/-- A table whose opening brace is read. -/
def braces (item : Reader Value) (cs : List Char) : Option (Value × List Char) :=
  match skipBlanks cs with
  | '}' :: rest => some (.table .inline [], rest)
  | cs => do
    let (es, rest) ← entries item (cs.length + 1) cs
    return (.table .inline (← Table.insertAll .inline [] es), rest)

/-- A value in which arrays and tables between braces nest at most `depth` deep. -/
def value : (depth : Nat) → Reader Value
  | depth + 1, '[' :: cs =>
    (items (value depth) (cs.length + 1) cs).map fun (vs, rest) => (.array vs, rest)
  | depth + 1, '{' :: cs => braces (value depth) cs
  | _, cs => scalar cs

/-- How deep values may nest. -/
def maxDepth : Nat := 79

end PacketAuth.Toml
