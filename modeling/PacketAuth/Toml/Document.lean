import PacketAuth.Toml.Value

/-! # TOML documents

A document is a sequence of lines: entries, headers in single or double brackets, and empty lines.
The entries before the first header belong to the document, the others to the header before them;
`parse` reads the lines and puts the tables together. -/

namespace PacketAuth.Toml

open Text (Reader expect)

/-- What a line says. -/
inductive Line where
  | empty
  | entry (name : List String × String) (v : Value)
  /-- A header, of one more element if `element` holds. -/
  | header (element : Bool) (name : List String × String)

/-- A line without its end, blanks before it being read. -/
def lineContent : Reader Line
  | [] => some (.empty, [])
  | '[' :: '[' :: cs => do
    let (name, rest) ← key cs
    return (.header true name, ← expect [']', ']'] rest)
  | '[' :: cs => do
    let (name, rest) ← key cs
    return (.header false name, ← expect [']'] rest)
  | c :: cs =>
    if c = '#' ∨ c = '\n' ∨ c = '\r' then some (.empty, c :: cs)
    else (entry (value maxDepth) (c :: cs)).map fun ((name, v), rest) => (.entry name v, rest)

/-- A line with the comment and the end after it. -/
def line (cs : List Char) : Option (Line × List Char) := do
  let (l, rest) ← lineContent (skipBlanks cs)
  match skipComment (skipBlanks rest) with
  | [] => return (l, [])
  | rest => return (l, ← lineEnd? rest)

/-- All lines of a text. -/
def lines : (fuel : Nat) → List Char → Option (List Line)
  | 0, _ => none
  | _ + 1, [] => some []
  | fuel + 1, cs => do
    let (l, rest) ← line cs
    let ls ← lines fuel rest
    return l :: ls

/-- The entries up to the next header. -/
def ownEntries : List Line → List ((List String × String) × Value)
  | .entry name v :: rest => (name, v) :: ownEntries rest
  | .empty :: rest => ownEntries rest
  | _ => []

/-- The document with the tables of all headers. -/
def addHeaders (document : Table) : List Line → Option Table
  | [] => some document
  | .header element (path, name) :: rest => do
    let document ←
      if element then document.collect path name (ownEntries rest)
      else document.attach path name (ownEntries rest)
    addHeaders document rest
  | _ :: rest => addHeaders document rest

/-- The table that lines stand for. -/
def ofLines (ls : List Line) : Option Table := do
  addHeaders (← Table.insertAll .header [] (ownEntries ls)) ls

/-- The table that a text stands for.  A byte order mark in front does not count. -/
def parse (s : String) : Option Table :=
  let cs :=
    match s.toList with
    | '\uFEFF' :: cs => cs
    | cs => cs
  (lines (cs.length + 1) cs).bind ofLines

end PacketAuth.Toml
