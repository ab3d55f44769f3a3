import PacketAuth.Command.Option
import PacketAuth.Command.Request

/-! # The command line

Options stand before or after the name of a command.  Those of the policy may stand anywhere and
the inner one counts; the others belong to their command.  A value follows its option or is joined
to it by an equals sign.  `parse` reads the arguments from left to right and reports the first
error.  An option whose value is a separate argument is settled only when the next option or the
end is reached. -/

namespace PacketAuth

inductive Command where
  | prompt
  | sign (r : SignRequest)
  | verify (r : VerifyRequest)
  | policy
deriving DecidableEq, Repr

/-- What a command line asks for.  Without a command, that is the prompt. -/
structure CommandLine where
  policy : Policy.Overlay := {}
  command : Option Command := none
deriving DecidableEq, Repr

namespace CommandLine

/-- An option that is not settled yet. -/
inductive Pending where
  | none
  /-- The next argument is its value. -/
  | awaiting (x : Setting)
  | holding (x : Setting) (value : String)
deriving DecidableEq, Repr

/-- The arguments of a place so far. -/
structure State where
  given : Given := {}
  pending : Pending := .none
deriving DecidableEq, Repr

namespace State

/-- Settle the option that is not settled yet. -/
def settle (st : State) : Except Stop Given :=
  match st.pending with
  | .none => .ok st.given
  | .awaiting x => .error (.missingValue x.shown)
  | .holding x value => st.given.set x value

/-- Whether the next argument is a value if it does not look like an option. -/
def isAwaiting (st : State) : Bool :=
  match st.pending with
  | .awaiting _ => true
  | _ => false

/-- Take a long option. -/
def long (place : Place) (st : State) (name : String) (value : Option String) :
    Except Stop State :=
  match long? place name, value with
  | none, _ => .error (.unknownArgument ("--" ++ name))
  | some (.setting x), some v => do return ⟨← (← st.settle).set x v, .none⟩
  | some (.setting x), none => do return ⟨← st.settle, .awaiting x⟩
  | some _, some v => .error (.surplusValue ("--" ++ name) v)
  | some .json, none => do
    let g ← st.settle
    if g.json then throw (.repeated ("--" ++ name)) else return ⟨{ g with json := true }, .none⟩
  | some .help, none => do
    let _ ← st.settle
    throw (.help (.place place))
  | some .version, none => do
    let _ ← st.settle
    throw .version

/-- Take the letters after a hyphen.  No letter leads to more than a stop. -/
def short (place : Place) (st : State) : List Char → Except Stop State
  | [] => .ok st
  | c :: _ =>
    if c = 'h' then do
      let _ ← st.settle
      throw (.help (.place place))
    else if c = 'V' ∧ place = .top then do
      let _ ← st.settle
      throw .version
    else .error (.unknownArgument (String.ofList ['-', c]))

/-- The complaint about an argument that is neither option nor value. -/
def stray (place : Place) (s : String) : Stop :=
  if place = .top then .unknownCommand s else .unknownArgument s

/-- Take an argument before a bare `--`. -/
def take (place : Place) (st : State) (s : String) : Except Stop State :=
  match Argument.ofString s with
  | .long name value => st.long place name value
  | .short letters => st.short place letters
  | _ =>
    match st.pending with
    | .awaiting x => .ok { st with pending := .holding x s }
    | _ => .error (stray place s)

/-- The complaint about the options that a place cannot do without and has not been given. -/
def lacking (place : Place) (g : Given) : Stop :=
  .missingOptions ((place.required.filter fun x => !g.has x).map (·.shown))

/-- The command of a place, if it has what it needs. -/
def commandOf (g : Given) : Place → Except Stop Command
  | .sign =>
    match g.data, g.packetNumber, g.key with
    | some data, some number, some key => .ok (.sign ⟨data, number, key, g.json⟩)
    | _, _, _ => .error (lacking .sign g)
  | .verify =>
    match g.data, g.packetNumber, g.key, g.signature with
    | some data, some number, some key, some signature =>
      .ok (.verify ⟨data, number, key, signature⟩)
    | _, _, _, _ => .error (lacking .verify g)
  | .policy => .ok .policy
  | _ => .ok .prompt

end State

/-- What follows a bare `--`: nothing is allowed there. -/
def afterSeparator (place : Place) : List String → Except Stop Unit
  | [] => .ok ()
  | s :: _ =>
    if place = .top ∧ (Topic.ofName? s).isSome then .error (.unknownArgument s)
    else .error (State.stray place s)

/-- The arguments after the name of a command. -/
def inner (place : Place) (st : State) : List String → Except Stop (Policy.Overlay × Command)
  | [] => do
    let g ← st.settle
    return (g.policy, ← State.commandOf g place)
  | s :: rest =>
    if Argument.ofString s = .separator then do
      afterSeparator place rest
      let g ← st.settle
      return (g.policy, ← State.commandOf g place)
    else do
      inner place (← st.take place s) rest

/-- The arguments after the name `help`: names of commands, one inside the other. -/
def helpFor : List String → Stop
  | [] => .help (.place .top)
  | s :: rest =>
    match Topic.ofName? s, rest with
    | some topic, [] => .help topic
    | some _, t :: _ => .unknownCommand t
    | none, _ => .unknownCommand s

/-- The fields of the inner place where it has them, those of the outer one elsewhere. -/
def combine (inner outer : Policy.Overlay) : Policy.Overlay where
  hash := inner.hash.or outer.hash
  minKeyBits := inner.minKeyBits.or outer.minKeyBits
  mode := inner.mode.or outer.mode

/-- The arguments before a command. -/
def outer (st : State) : List String → Except Stop CommandLine
  | [] => do return ⟨(← st.settle).policy, none⟩
  | s :: rest =>
    match if st.isAwaiting then none else Place.ofName? s with
    | some place => do
      let (policy, command) ← inner place {} rest
      return ⟨combine policy (← st.settle).policy, some command⟩
    | none =>
      if s = "help" ∧ !st.isAwaiting then .error (helpFor rest)
      else if Argument.ofString s = .separator then do
        afterSeparator .top rest
        return ⟨(← st.settle).policy, none⟩
      else do
        outer (← st.take .top s) rest

/-- What arguments ask for. -/
def parse (arguments : List String) : Except Stop CommandLine := outer {} arguments

end CommandLine
end PacketAuth
