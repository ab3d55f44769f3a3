import PacketAuth.Log.Event
import PacketAuth.Log.Pattern

/-! # Log filters

A filter is a sequence of directives, of which one decides about each event.  An event that no
directive speaks of is not written.  A directive gives the greatest detail that is wanted of some
events: those of a part of the program, those within a scope, those with a certain field, in any
combination.  It is written `target[scope{field=value}]=level`, and each of the three parts may be
missing (`Directive.parse?`).

Blanks around a directive do not count where its marks are looked for.  The texts between the marks
are taken from the directive as it is given, at the same places as in the one without blanks. -/

namespace PacketAuth.Log

/-! ### Directives -/

/-- What an event has to have: a field of a name and, if a value is given, with a value like it. -/
structure Condition where
  name : String
  value : Option String
deriving DecidableEq, Repr

structure Directive where
  /-- How the names of the parts of the program begin; nothing is the beginning of all names. -/
  target : String := ""
  scope : Option String := none
  condition : Option Condition := none
  /-- The greatest detail, or `none` for no events at all. -/
  level : Option Level := some .trace
deriving DecidableEq, Repr

namespace Directive

/-- The detail that a name or a rank stands for. -/
def level? (cs : List Char) : Option (Option Level) :=
  let digits := match cs with | '+' :: cs => cs | cs => cs
  match Decimal.natural? digits with
  | some 0 => some none
  | some n => (Level.all.find? fun l => l.rank = n).map some
  | none =>
    let name := String.ofList (cs.map Char.toUpper)
    if name = "OFF" then some none else (Level.all.find? fun l => l.name = name).map some

/-- The detail after an equals sign, which is all if none is named. -/
def levelOrAll (cs : List Char) : Option (Option Level) :=
  if cs.isEmpty then some (some .trace) else level? cs

/-- A condition, a second equals sign and what follows it being passed over. -/
def condition? (cs : List Char) : Option Condition :=
  let isName (c : Char) : Bool := c ≠ '='
  let name := String.ofList (cs.takeWhile isName)
  match cs.dropWhile isName with
  | [] => if cs.isEmpty then none else some ⟨name, none⟩
  | _ :: rest =>
    let value := String.ofList (rest.takeWhile isName)
    if Pattern.isWellFormed value then some ⟨name, some value⟩ else none

/-- A place in a directive: the mark, if it is one, and the character to be taken. -/
abbrev Place := Char × Char

/-- The text of some places. -/
def textOf (ps : List Place) : List Char := ps.map (·.2)

/-- The places before the first of certain marks, and those from it on. -/
def upTo (marks : List Char) (ps : List Place) : List Place × List Place :=
  ps.span fun p => !marks.contains p.1

/-- A directive whose brackets are closed.  `tail` is what follows the last place. -/
def afterBrackets (d : Directive) (tail : List Char) : List Place → Option Directive
  | [] => some d
  | p :: ps =>
    if p.1 = '=' then (levelOrAll (textOf ps ++ tail)).map fun level => { d with level := level }
    else none

/-- A directive from the condition in its brackets on. -/
def afterBrace (d : Directive) (tail : List Char) (ps : List Place) : Option Directive := do
  let (inside, rest) := upTo ['}'] ps
  let condition ← condition? (textOf inside)
  match rest with
  | _ :: p :: ps =>
    if p.1 = ']' then afterBrackets { d with condition := some condition } tail ps else none
  | _ => none

/-- A directive from the scope in its brackets on. -/
def afterBracket (d : Directive) (tail : List Char) (ps : List Place) : Option Directive :=
  let (inside, rest) := upTo [']', '{'] ps
  let scope := String.ofList (textOf inside)
  match rest with
  | [] => none
  | p :: ps =>
    if p.1 = ']' then afterBrackets { d with scope := some scope } tail ps
    else afterBrace { d with scope := if scope.isEmpty then none else some scope } tail ps

/-- A directive that begins with a target or is nothing but a level. -/
def ofWord (tail : List Char) (ps : List Place) : Option Directive :=
  let (word, rest) := upTo ['=', '['] ps
  match rest with
  | [] =>
    let word := textOf word ++ tail
    match level? word with
    | some level => some { level := level }
    | none => some { target := String.ofList word }
  | p :: rest =>
    let d : Directive := { target := String.ofList (textOf word) }
    if p.1 = '=' then afterBrackets d tail (p :: rest) else afterBracket d tail rest

/-- The directive of a text. -/
def parse? (s : String) : Option Directive :=
  let marks := Text.trimChars s.toList
  let places := marks.zip s.toList
  let tail := s.toList.drop marks.length
  match places with
  | [] => none
  | p :: rest =>
    if p.1 = '[' then afterBracket {} tail rest
    else if p.1 = '-' ∨ p.1 = ':' ∨ p.1 = '_' ∨ Text.isAlphanumeric p.1 then ofWord tail places
    else none

/-- Whether a directive speaks of an event.  No event stands in a scope, and the values of fields
are told only of scopes; so a directive that asks for either speaks of none. -/
def appliesTo (d : Directive) (e : Event) : Bool :=
  d.scope.isNone && d.target.toList.isPrefixOf e.target.toList &&
    match d.condition with
    | none => true
    | some ⟨name, none⟩ => e.fieldNames.contains name
    | some ⟨_, some _⟩ => false

/-- Whether a directive counts before another that speaks of the same event: the longer target
first, then the one with a condition, then the later name. -/
def outranks (d other : Directive) : Bool :=
  if d.target.length ≠ other.target.length then other.target.length < d.target.length
  else
    match d.condition, other.condition with
    | some c, some c' => !decide (c.name < c'.name)
    | none, some _ => false
    | _, none => true

end Directive

/-! ### Filters -/

abbrev Filter := List Directive

namespace Filter

/-- Errors only. -/
def errors : Filter := [{ level := some .error }]

/-- Warnings and errors. -/
def warnings : Filter := [{ level := some .warn }]

/-- The filter of directives with commas between them. -/
def parse? (s : String) : Option Filter := do
  let filter ← ((s.splitOn ",").filter (!·.isEmpty)).mapM Directive.parse?
  return if filter.isEmpty then errors else filter

/-- The filter that a setting asks for; without one that can be read, warnings. -/
def ofSetting (setting : Option String) : Filter := (setting.bind parse?).getD warnings

/-- The directive that decides about an event.  Of several that are alike the last one does. -/
def directiveFor (f : Filter) (e : Event) : Option Directive :=
  (f.filter (·.appliesTo e)).foldl (fun best d =>
    if best.all d.outranks then some d else best) none

/-- Whether an event is written. -/
def admits (f : Filter) (e : Event) : Bool :=
  match (f.directiveFor e).bind (·.level) with
  | some level => e.level.rank ≤ level.rank
  | none => false

end Filter

end PacketAuth.Log
