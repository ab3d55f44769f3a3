import PacketAuth.Command.Line
import PacketAuth.Proofs.Outcomes

/-! # Command lines that differ in a key

Two argument lists that are the same but for the value of one `--key` are read in lockstep: as long
as the value has not been reached they lead through the same states, and from there on through
states that hold one key or the other in the same place (`State.Rekeyed`).  So both stop with the
same complaint, or both lead to the same command up to the key (`parse_rekeyed`). -/

namespace PacketAuth

/-- A command with another key, if it has one. -/
def Command.withKey (key : String) : Command → Command
  | .sign r => .sign { r with key := key }
  | .verify r => .verify { r with key := key }
  | c => c

/-- The key of a command, if it has one. -/
def Command.key? : Command → Option String
  | .sign r => some r.key
  | .verify r => some r.key
  | _ => none

namespace CommandLine

/-- An argument list with a key as a separate argument. -/
def withKeyArgument (before after : List String) (key : String) : List String :=
  before ++ "--key" :: key :: after

/-- One key has been settled where the other one has. -/
def Given.Rekeyed (key key' : String) (g g' : Given) : Prop :=
  g.key = some key ∧ g' = { g with key := some key' }

/-- One key has been taken where the other one has, whether it is settled or not. -/
inductive State.Rekeyed (key key' : String) : State → State → Prop
  | settled {g g' : Given} (pending : Pending) : Given.Rekeyed key key' g g' →
      Rekeyed key key' ⟨g, pending⟩ ⟨g', pending⟩
  | holding (g : Given) : Rekeyed key key' ⟨g, .holding .key key⟩ ⟨g, .holding .key key'⟩

/-- The same options and the same command up to its key. -/
def Rekeyed (key key' : String) (r r' : Policy.Overlay × Command) : Prop :=
  r'.1 = r.1 ∧ r'.2 = r.2.withKey key' ∧ ∀ k, r.2.key? = some k → k = key

/-- The same options, and the same command up to its key if there is one. -/
def LineRekeyed (key key' : String) (l l' : CommandLine) : Prop :=
  l'.policy = l.policy ∧ l'.command = l.command.map (Command.withKey key') ∧
    ∀ c k, l.command = some c → c.key? = some k → k = key

section
variable {key key' : String} {g g' : Given} {st st' : State} {place : Place}

/-! ### One argument -/

theorem has_rekeyed (h : Given.Rekeyed key key' g g') (x : Setting) : g'.has x = g.has x := by
  obtain ⟨hk, rfl⟩ := h
  cases x <;> simp [Given.has, hk]

theorem set_rekeyed (h : Given.Rekeyed key key' g g') (x : Setting) (value : String) :
    (g.set x value).Alike (Given.Rekeyed key key') (g'.set x value) := by
  have hhas := has_rekeyed h x
  obtain ⟨hk, rfl⟩ := h
  unfold Given.set
  dsimp only
  rw [hhas]
  split_ifs with ht
  · exact .error _
  · cases x with
    | hash => exact .bind_same (fun _ => .ok ⟨hk, rfl⟩) _
    | minKeyBits => exact .bind_same (fun _ => .ok ⟨hk, rfl⟩) _
    | mode => exact .bind_same (fun _ => .ok ⟨hk, rfl⟩) _
    | data => exact .ok ⟨hk, rfl⟩
    | packetNumber => exact .ok ⟨hk, rfl⟩
    | key => simp [Given.has, hk] at ht
    | signature => exact .ok ⟨hk, rfl⟩

theorem settle_rekeyed (h : st.Rekeyed key key' st') :
    st.settle.Alike (Given.Rekeyed key key') st'.settle := by
  cases h with
  | settled pending hg =>
      cases pending with
      | none => exact .ok hg
      | awaiting x => exact .error _
      | holding x value => exact set_rekeyed hg x value
  | holding g =>
      unfold State.settle Given.set
      dsimp only
      split_ifs
      · exact .error _
      · exact .ok ⟨rfl, rfl⟩

theorem long_rekeyed (h : st.Rekeyed key key' st') (name : String) (value : Option String) :
    (st.long place name value).Alike (State.Rekeyed key key') (st'.long place name value) := by
  have hs := settle_rekeyed h
  unfold State.long
  cases long? place name with
  | none => exact .error _
  | some l =>
      cases l with
      | setting x =>
          cases value with
          | none => exact hs.bind fun _ _ hg => .ok (.settled _ hg)
          | some v =>
              refine hs.bind fun _ _ hg => (set_rekeyed hg x v).bind fun _ _ hg => ?_
              exact .ok (.settled _ hg)
      | json =>
          cases value with
          | some v => exact .error _
          | none =>
              refine hs.bind fun a b hg => ?_
              obtain ⟨hk, rfl⟩ := hg
              dsimp only
              split_ifs
              · exact .error _
              · exact .ok (.settled _ ⟨hk, rfl⟩)
      | help =>
          cases value with
          | some v => exact .error _
          | none => exact hs.bind fun _ _ _ => .error _
      | version =>
          cases value with
          | some v => exact .error _
          | none => exact hs.bind fun _ _ _ => .error _

theorem short_rekeyed (h : st.Rekeyed key key' st') (letters : List Char) :
    (st.short place letters).Alike (State.Rekeyed key key') (st'.short place letters) := by
  have hs := settle_rekeyed h
  cases letters with
  | nil => exact .ok h
  | cons c cs =>
      unfold State.short
      dsimp only
      split_ifs
      · exact hs.bind fun _ _ _ => .error _
      · exact hs.bind fun _ _ _ => .error _
      · exact .error _

theorem take_rekeyed (h : st.Rekeyed key key' st') (s : String) :
    (st.take place s).Alike (State.Rekeyed key key') (st'.take place s) := by
  unfold State.take
  cases Argument.ofString s with
  | long name value => exact long_rekeyed h name value
  | short letters => exact short_rekeyed h letters
  | plain _ | separator =>
      cases h with
      | settled pending hg =>
          cases pending with
          | none => exact .error _
          | awaiting x => exact .ok (.settled _ hg)
          | holding x value => exact .error _
      | holding g => exact .error _

/-! ### The arguments after the key -/

theorem lacking_rekeyed (h : Given.Rekeyed key key' g g') (place : Place) :
    State.lacking place g' = State.lacking place g := by
  unfold State.lacking
  simp only [has_rekeyed h]

theorem commandOf_rekeyed (h : Given.Rekeyed key key' g g') :
    (State.commandOf g place).Alike
      (fun c c' => c' = c.withKey key' ∧ ∀ k, c.key? = some k → k = key)
      (State.commandOf g' place) := by
  have hlacking := lacking_rekeyed h
  obtain ⟨hk, rfl⟩ := h
  cases place with
  | sign =>
      unfold State.commandOf
      dsimp only
      rw [hlacking, hk]
      cases g.data <;> cases g.packetNumber <;> try exact .error _
      exact .ok ⟨rfl, fun k h => (Option.some.inj h).symm⟩
  | verify =>
      unfold State.commandOf
      dsimp only
      rw [hlacking, hk]
      cases g.data <;> cases g.packetNumber <;> cases g.signature <;> try exact .error _
      exact .ok ⟨rfl, fun k h => (Option.some.inj h).symm⟩
  | top => exact .ok ⟨rfl, fun k h => by cases h⟩
  | prompt => exact .ok ⟨rfl, fun k h => by cases h⟩
  | policy => exact .ok ⟨rfl, fun k h => by cases h⟩

/-- The end of the arguments of a command. -/
theorem ending_rekeyed (h : st.Rekeyed key key' st') :
    (do let g ← st.settle; return (g.policy, ← State.commandOf g place) :
      Except Stop (Policy.Overlay × Command)).Alike (Rekeyed key key')
    (do let g ← st'.settle; return (g.policy, ← State.commandOf g place)) := by
  refine (settle_rekeyed h).bind fun g g' hg => (commandOf_rekeyed hg).bind fun c c' hc => ?_
  obtain ⟨-, rfl⟩ := hg
  exact .ok ⟨rfl, hc⟩

theorem inner_rekeyed (after : List String) (h : st.Rekeyed key key' st') :
    (inner place st after).Alike (Rekeyed key key') (inner place st' after) := by
  induction after generalizing st st' with
  | nil => exact ending_rekeyed h
  | cons s rest ih =>
      unfold inner
      split_ifs
      · exact .bind_same (fun _ => ending_rekeyed h) _
      · exact (take_rekeyed h s).bind fun _ _ h => ih h

/-! ### The arguments before the key -/

/-- A value may follow an option as a separate argument if it is not read as an option. -/
def IsValue (s : String) : Prop := Argument.ofString s = .plain s

variable {before after : List String}

/-- The option and its value, in a place that may know the option or not. -/
theorem inner_key (hk : IsValue key) (hk' : IsValue key') (st : State) :
    (inner place st ("--key" :: key :: after)).Alike (Rekeyed key key')
      (inner place st ("--key" :: key' :: after)) := by
  have hopt : Argument.ofString "--key" = .long "key" none := by decide
  have hvalue : ∀ k, IsValue k → ∀ g : Given,
      inner place ⟨g, .awaiting .key⟩ (k :: after) = inner place ⟨g, .holding .key k⟩ after := by
    intro k hk g
    rw [inner, hk, if_neg (by simp), State.take, hk]
    rfl
  rw [inner, inner, hopt, if_neg (by simp), if_neg (by simp), State.take, hopt]
  dsimp only
  unfold State.long
  cases hl : long? place "key" with
  | none => exact .error _
  | some l =>
      have hkey : l = .setting .key := by
        cases place <;> simp [long?, Place.settings, Place.required, Setting.name] at hl <;>
          exact hl.symm
      subst hkey
      cases st.settle with
      | error stop => exact .error stop
      | ok g =>
          show (inner place ⟨g, .awaiting .key⟩ (key :: after)).Alike (Rekeyed key key')
            (inner place ⟨g, .awaiting .key⟩ (key' :: after))
          rw [hvalue key hk, hvalue key' hk']
          exact inner_rekeyed after (.holding g)

/-- After a bare separator it is the first argument that is complained of, and that is no key. -/
theorem exists_afterSeparator (place : Place) (before after : List String) : ∃ stop, ∀ key,
    afterSeparator place (withKeyArgument before after key) = .error stop := by
  have hcons : ∀ s : String, ∃ stop, ∀ rest, afterSeparator place (s :: rest) = .error stop := by
    intro s
    unfold afterSeparator
    dsimp only
    split_ifs
    · exact ⟨_, fun _ => rfl⟩
    · exact ⟨_, fun _ => rfl⟩
  cases before with
  | nil =>
      obtain ⟨stop, h⟩ := hcons "--key"
      exact ⟨stop, fun _ => h _⟩
  | cons s before =>
      obtain ⟨stop, h⟩ := hcons s
      exact ⟨stop, fun _ => h _⟩

/-- Help looks no further than at a second name. -/
theorem helpFor_cons_cons (s t : String) (rest rest' : List String) :
    helpFor (s :: t :: rest) = helpFor (s :: t :: rest') := by
  simp only [helpFor]
  cases Topic.ofName? s with
  | none => rfl
  | some topic => rfl

theorem helpFor_withKeyArgument :
    helpFor (withKeyArgument before after key) = helpFor (withKeyArgument before after key') := by
  match before with
  | [] => rfl
  | [_] => exact helpFor_cons_cons ..
  | _ :: _ :: _ => exact helpFor_cons_cons ..

theorem inner_withKeyArgument (hk : IsValue key) (hk' : IsValue key') (st : State) :
    (inner place st (withKeyArgument before after key)).Alike (Rekeyed key key')
      (inner place st (withKeyArgument before after key')) := by
  induction before generalizing st with
  | nil => exact inner_key hk hk' st
  | cons s before ih =>
      show (inner place st (s :: withKeyArgument before after key)).Alike _
        (inner place st (s :: withKeyArgument before after key'))
      unfold inner
      split_ifs
      · obtain ⟨stop, hstop⟩ := exists_afterSeparator place before after
        rw [hstop, hstop]
        exact .error stop
      · exact .bind_same ih _

theorem outer_withKeyArgument (hk : IsValue key) (hk' : IsValue key') (st : State) :
    (outer st (withKeyArgument before after key)).Alike (LineRekeyed key key')
      (outer st (withKeyArgument before after key')) := by
  induction before generalizing st with
  | nil =>
      -- no place for a key is known before a command
      have hopt : Argument.ofString "--key" = .long "key" none := by decide
      have hplace : (if st.isAwaiting then none else Place.ofName? "--key") = none := by
        split_ifs <;> rfl
      have hstop : ∀ k, outer st ("--key" :: k :: after) = .error (.unknownArgument "--key") := by
        intro k
        unfold outer
        rw [hplace]
        dsimp only
        rw [if_neg (by simp), hopt, if_neg (by simp), State.take, hopt]
        rfl
      show (outer st ("--key" :: key :: after)).Alike _ (outer st ("--key" :: key' :: after))
      rw [hstop, hstop]
      exact .error _
  | cons s before ih =>
      show (outer st (s :: withKeyArgument before after key)).Alike _
        (outer st (s :: withKeyArgument before after key'))
      unfold outer
      cases if st.isAwaiting then none else Place.ofName? s with
      | some place =>
          refine (inner_withKeyArgument hk hk' {}).bind fun r r' hr => ?_
          refine .bind_same (fun g => .ok ?_) _
          obtain ⟨hp, hc, hkey⟩ := hr
          refine ⟨?_, ?_, ?_⟩
          · show combine r'.1 _ = combine r.1 _
            rw [hp]
          · show some r'.2 = some (r.2.withKey key')
            rw [hc]
          · intro c k h hk
            obtain rfl := Option.some.inj h
            exact hkey k hk
      | none =>
          dsimp only
          split_ifs
          · have hhelp : helpFor (withKeyArgument before after key) =
                helpFor (withKeyArgument before after key') := helpFor_withKeyArgument
            rw [hhelp]
            exact .error _
          · obtain ⟨stop, hstop⟩ := exists_afterSeparator .top before after
            rw [hstop, hstop]
            exact .error stop
          · exact .bind_same ih _

/-- Arguments that differ in a key stop with the same complaint, or lead to the same command up to
the key. -/
theorem parse_rekeyed (hk : IsValue key) (hk' : IsValue key') :
    (parse (withKeyArgument before after key)).Alike (LineRekeyed key key')
      (parse (withKeyArgument before after key')) :=
  outer_withKeyArgument hk hk' {}

end
end CommandLine
end PacketAuth
