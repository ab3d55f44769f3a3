import PacketAuth.Decimal.Binary64

/-! # TOML values and tables

A table keeps the order in which its keys were first given, and remembers how it came to be,
because that decides whether it may still be added to.  It may be given piecemeal, by dotted keys
and by headers, as long as no value is given twice and no table is taken up again after it was
complete.  `Table.update` walks down to a table, creating those on the way that do not exist yet;
`Table.insert` and `Table.attach` add to what it finds. -/

namespace PacketAuth.Toml

/-! ### Values -/

/-- A floating-point number. -/
inductive Float where
  | finite (negative : Bool) (magnitude : Binary64)
  | infinite (negative : Bool)
  | nan
deriving DecidableEq, Repr

/-- How a table came to be. -/
inductive Origin where
  /-- By a header of its own, or as the document itself. -/
  | header
  /-- By the header of a table below it. -/
  | implied
  /-- By a dotted key. -/
  | dotted
  /-- Between braces. -/
  | inline
deriving DecidableEq, Repr

inductive Value where
  | string (s : String)
  | integer (n : Int)
  | float (x : Float)
  | boolean (b : Bool)
  /-- A date, a time or both, which nothing here asks for. -/
  | datetime
  | array (items : List Value)
  | table (origin : Origin) (entries : List (String × Value))
  /-- The elements that double-bracketed headers have collected. -/
  | tables (elements : List (List (String × Value)))
deriving Repr

abbrev Table := List (String × Value)

/-! ### Adding to tables -/

namespace Table

/-- The table with a new value for a key, which keeps its place. -/
def replace (name : String) (v : Value) : Table → Table
  | [] => []
  | (k, w) :: rest => if k = name then (k, v) :: rest else (k, w) :: replace name v rest

/-- The table without a key. -/
def erase (name : String) (t : Table) : Table := t.filter (·.1 ≠ name)

/-- Whether a table may be entered by the dotted part of a key, or else by that of a header. -/
def enterable (byKey : Bool) : Origin → Bool
  | .header => !byKey
  | .implied => true
  | .dotted => true
  | .inline => false

/-- Change the table at the end of a path.  Of collected elements the last one is meant. -/
def update (byKey : Bool) (change : Origin → Table → Option Table) :
    List String → Origin → Table → Option Table
  | [], origin, t => change origin t
  | name :: path, _, t =>
    match t.lookup name with
    | none => do
      let created : Origin := if byKey then .dotted else .implied
      let sub ← update byKey change path created []
      return t ++ [(name, .table created sub)]
    | some (.table origin sub) =>
      if enterable byKey origin then do
        let sub ← update byKey change path origin sub
        return t.replace name (.table origin sub)
      else none
    | some (.tables elements) =>
      match elements.reverse with
      | last :: before => do
        let last ← update byKey change path .header last
        return t.replace name (.tables (last :: before).reverse)
      | [] => none
    | some _ => none

/-- Give a key its value.  A key with points may add only to a table that such keys made. -/
def insert (path : List String) (name : String) (v : Value) (origin : Origin) (t : Table) :
    Option Table :=
  let add (origin : Origin) (t : Table) : Option Table :=
    if (!path.isEmpty && origin ≠ .dotted) || (t.lookup name).isSome then none
    else some (t ++ [(name, v)])
  update true add path origin t

/-- Give several keys their values. -/
def insertAll (origin : Origin) (t : Table) (entries : List ((List String × String) × Value)) :
    Option Table :=
  entries.foldlM (fun t ((path, name), v) => t.insert path name v origin) t

/-- Complete the table of a header with its entries.  It may exist already if only the headers of
tables below it have called for it, and then comes last. -/
def attach (path : List String) (name : String) (entries : List ((List String × String) × Value))
    (t : Table) : Option Table :=
  let add (_ : Origin) (t : Table) : Option Table :=
    match t.lookup name with
    | none => do return t ++ [(name, .table .header (← insertAll .header [] entries))]
    | some (.table .implied sub) => do
      return t.erase name ++ [(name, .table .header (← insertAll .header sub entries))]
    | some _ => none
  update false add path .header t

/-- Add an element with its entries to those that a header collects. -/
def collect (path : List String) (name : String) (entries : List ((List String × String) × Value))
    (t : Table) : Option Table :=
  let add (_ : Origin) (t : Table) : Option Table :=
    match t.lookup name with
    | none => do return t ++ [(name, .tables [← insertAll .header [] entries])]
    | some (.tables elements) => do
      return t.replace name (.tables (elements ++ [← insertAll .header [] entries]))
    | some _ => none
  update false add path .header t

end Table

end PacketAuth.Toml
