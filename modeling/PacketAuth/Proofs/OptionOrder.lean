import PacketAuth.Command.Line
import PacketAuth.Proofs.Outcomes

/-! # The order of options

An option that is a single argument is settled by itself, so what has been settled after a number
of them says only which they were (`Given.only`).  An option that has not been given leads from one
such state to the next (`take_argument`), and arguments to the state of all their options
(`inner_arguments`, `outer_arguments`).  The last state is the same in every order, and it does not
matter either which options of the policy stand before the name of the command
(`parse_arguments`).

`parse_any_order` puts this together for signing and verifying, with any values of their own options
and any values of the options of the policy that are accepted. -/

namespace PacketAuth
namespace CommandLine

/-- An option that is a single argument: with its value joined to it, or without one. -/
inductive Flag where
  | joined (x : Setting) (value : String)
  | json
deriving DecidableEq, Repr

namespace Flag

def name : Flag → String
  | joined x _ => x.name
  | json => "json"

def value? : Flag → Option String
  | joined _ value => some value
  | json => none

def option : Flag → Long
  | joined x _ => .setting x
  | json => .json

/-- An option as it stands on the command line. -/
def argument : Flag → String
  | joined x value => "--" ++ x.name ++ "=" ++ value
  | json => "--json"

end Flag

/-- The values given for options of the policy. -/
structure PolicyFlags where
  hash : Option String := none
  minKeyBits : Option String := none
  mode : Option String := none

namespace PolicyFlags

/-- One option for each value. -/
def flags (t : PolicyFlags) : List Flag :=
  (t.hash.map (.joined .hash)).toList ++ (t.minKeyBits.map (.joined .minKeyBits)).toList ++
    (t.mode.map (.joined .mode)).toList

/-- Each value is one that its option accepts. -/
structure Accepted (t : PolicyFlags) : Prop where
  hash : ∀ s, t.hash = some s → ∃ h, Hash.parse s = .ok h
  minKeyBits : ∀ s, t.minKeyBits = some s → ∃ w, Given.readBits s = .ok w
  mode : ∀ s, t.mode = some s → ∃ m, Mode.parse s = .ok m

end PolicyFlags
end CommandLine

/-- The options of a request to sign, one for each part of it. -/
def SignRequest.flags (r : SignRequest) : List CommandLine.Flag :=
  [.joined .data r.data, .joined .packetNumber r.number, .joined .key r.key] ++
    if r.json then [.json] else []

/-- The options of a request to verify, one for each part of it. -/
def VerifyRequest.flags (r : VerifyRequest) : List CommandLine.Flag :=
  [.joined .data r.data, .joined .packetNumber r.number, .joined .key r.key,
    .joined .signature r.signature]

namespace CommandLine

/-! ### Single arguments -/

/-- The value begins after the first equals sign, whatever it holds. -/
theorem ofString_joined {name : String} (h : '=' ∉ name.toList) (value : String) :
    Argument.ofString ("--" ++ name ++ "=" ++ value) = .long name (some value) := by
  have hlist : ("--" ++ name ++ "=" ++ value).toList =
      '-' :: '-' :: (name.toList ++ '=' :: value.toList) := by
    simp [String.toList_append]
  have hname : ∀ c ∈ name.toList, decide (c ≠ '=') = true := by
    intro c hc
    apply decide_eq_true
    rintro rfl
    exact h hc
  have hdrop : (name.toList ++ '=' :: value.toList).dropWhile (fun c => decide (c ≠ '=')) =
      '=' :: value.toList := by
    rw [List.dropWhile_append_of_pos hname]
    simp
  have htake : (name.toList ++ '=' :: value.toList).takeWhile (fun c => decide (c ≠ '=')) =
      name.toList := by
    rw [List.takeWhile_append_of_pos hname]
    simp
  obtain ⟨c, cs, hcs⟩ := List.exists_cons_of_ne_nil
    (show name.toList ++ '=' :: value.toList ≠ [] by simp)
  simp only [Argument.ofString, hlist, hcs]
  rw [← hcs, hdrop, htake]
  simp

namespace Flag
variable (i : Flag)

theorem ofString_argument : Argument.ofString i.argument = .long i.name i.value? := by
  cases i with
  | joined x value =>
      refine ofString_joined ?_ value
      cases x <;> decide
  | json => decide

theorem head?_argument : i.argument.toList.head? = some '-' := by
  cases i with
  | joined x value => simp [argument, String.toList_append]
  | json => decide

/-- The argument is not the name of a command. -/
theorem ofName?_argument : Place.ofName? i.argument = none := by
  have hhead := i.head?_argument
  unfold Place.ofName?
  split
  case h_5 => rfl
  all_goals
    next h =>
    rw [h] at hhead
    exact absurd hhead (by decide)

theorem argument_ne_help : i.argument ≠ "help" := by
  intro h
  have hhead := i.head?_argument
  rw [h] at hhead
  exact absurd hhead (by decide)

end Flag

/-! ### The values of some options -/

/-- The values of the options in a list, without those of the others. -/
def Given.only (g : Given) (options : List Long) : Given where
  policy :=
    { hash := if .setting .hash ∈ options then g.policy.hash else none
      minKeyBits := if .setting .minKeyBits ∈ options then g.policy.minKeyBits else none
      mode := if .setting .mode ∈ options then g.policy.mode else none }
  data := if .setting .data ∈ options then g.data else none
  packetNumber := if .setting .packetNumber ∈ options then g.packetNumber else none
  key := if .setting .key ∈ options then g.key else none
  signature := if .setting .signature ∈ options then g.signature else none
  json := decide (.json ∈ options) && g.json

/-- An option is accepted and gives what is among the values. -/
def Flag.Gives (g : Given) : Flag → Prop
  | .joined .hash s => ∃ h, Hash.parse s = .ok h ∧ g.policy.hash = some h
  | .joined .minKeyBits s => ∃ w, Given.readBits s = .ok w ∧ g.policy.minKeyBits = some w
  | .joined .mode s => ∃ m, Mode.parse s = .ok m ∧ g.policy.mode = some m
  | .joined .data s => g.data = some s
  | .joined .packetNumber s => g.packetNumber = some s
  | .joined .key s => g.key = some s
  | .joined .signature s => g.signature = some s
  | .json => g.json = true

section
variable {want : Given} {options options' : List Long} {place : Place} {i : Flag}
  {items before after : List Flag}

@[simp] theorem only_nil (g : Given) : g.only [] = {} := by
  simp [Given.only]

theorem only_congr (h : ∀ l, l ∈ options ↔ l ∈ options') :
    want.only options = want.only options' := by
  simp [Given.only, h]

theorem has_only {x : Setting} (h : .setting x ∉ options) : (want.only options).has x = false := by
  cases x <;> simp [Given.has, Given.only, h]

/-- A value that is not settled yet is added. -/
theorem set_only {x : Setting} {s : String} (hgives : Flag.Gives want (.joined x s))
    (hnew : .setting x ∉ options) :
    (want.only options).set x s = .ok (want.only (.setting x :: options)) := by
  have hhas : (want.only options).has x = false := has_only hnew
  unfold Given.set
  dsimp only
  rw [hhas, if_neg (by simp)]
  cases x with
  | hash =>
      obtain ⟨h, hparse, hwant⟩ := hgives
      simp [hparse, Except.mapError, Given.only, hwant]
  | minKeyBits =>
      obtain ⟨w, hread, hwant⟩ := hgives
      simp [hread, Except.mapError, Given.only, hwant]
  | mode =>
      obtain ⟨m, hparse, hwant⟩ := hgives
      simp [hparse, Except.mapError, Given.only, hwant]
  | data | packetNumber | key | signature =>
      have hwant := hgives
      simp only [Flag.Gives] at hwant
      simp [Given.only, hwant]

/-- One option more. -/
theorem take_argument (hgives : i.Gives want) (hknown : long? place i.name = some i.option)
    (hnew : i.option ∉ options) :
    State.take place ⟨want.only options, .none⟩ i.argument =
      .ok ⟨want.only (i.option :: options), .none⟩ := by
  unfold State.take
  rw [i.ofString_argument]
  dsimp only
  unfold State.long
  rw [hknown]
  cases i with
  | joined x s =>
      show (do return ⟨← (want.only options).set x s, .none⟩ : Except Stop State) = _
      rw [set_only hgives hnew]
      rfl
  | json =>
      have hjson : want.json = true := hgives
      have hnone : Long.json ∉ options := hnew
      simp [Flag.value?, Flag.option, State.settle, Given.only, hjson, hnone]
      rfl

/-! ### All arguments -/

/-- Take options one after the other. -/
def State.takeAll (place : Place) (st : State) (items : List Flag) : Except Stop State :=
  items.foldlM (fun st i => State.take place st i.argument) st

/-- All the options of a list more, in whatever order they come. -/
theorem takeAll_only (hgives : ∀ i ∈ items, i.Gives want)
    (hknown : ∀ i ∈ items, long? place i.name = some i.option)
    (hnodup : (items.map Flag.option ++ options).Nodup) :
    State.takeAll place ⟨want.only options, .none⟩ items =
      .ok ⟨want.only (items.map Flag.option ++ options), .none⟩ := by
  induction items generalizing options with
  | nil => rfl
  | cons i items ih =>
      rw [List.forall_mem_cons] at hgives hknown
      have hnew : i.option ∉ options := by
        intro h
        exact (List.nodup_cons.mp hnodup).1 (List.mem_append_right _ h)
      have hrest := ih hgives.2 hknown.2 (List.perm_middle.nodup_iff.mpr hnodup)
      have hcongr : want.only (items.map Flag.option ++ i.option :: options) =
          want.only ((i :: items).map Flag.option ++ options) := by
        apply only_congr
        intro l
        simp [or_left_comm]
      rw [State.takeAll, List.foldlM_cons, take_argument hgives.1 hknown.1 hnew, Except.ok_bind,
        ← State.takeAll, hrest, hcongr]

/-- Options from the start. -/
theorem takeAll_start (hgives : ∀ i ∈ items, i.Gives want)
    (hknown : ∀ i ∈ items, long? place i.name = some i.option)
    (hnodup : (items.map Flag.option).Nodup) :
    State.takeAll place {} items = .ok ⟨want.only (items.map Flag.option), .none⟩ := by
  rw [← List.append_nil (items.map Flag.option)] at hnodup ⊢
  rw [← takeAll_only hgives hknown hnodup, only_nil]

theorem inner_arguments (st : State) (items : List Flag) (rest : List String) :
    inner place st (items.map Flag.argument ++ rest) =
      State.takeAll place st items >>= fun st => inner place st rest := by
  induction items generalizing st with
  | nil => rfl
  | cons i items ih =>
      show inner place st (i.argument :: (items.map Flag.argument ++ rest)) = _
      rw [inner, i.ofString_argument, if_neg (by simp), State.takeAll, List.foldlM_cons, bind_assoc]
      exact bind_congr fun st => ih st

theorem outer_arguments (st : State) (items : List Flag) (rest : List String) :
    outer st (items.map Flag.argument ++ rest) =
      State.takeAll .top st items >>= fun st => outer st rest := by
  induction items generalizing st with
  | nil => rfl
  | cons i items ih =>
      have hplace : (if st.isAwaiting then none else Place.ofName? i.argument) = none := by
        simp [i.ofName?_argument]
      show outer st (i.argument :: (items.map Flag.argument ++ rest)) = _
      rw [outer, hplace]
      dsimp only
      rw [if_neg (fun h => i.argument_ne_help h.1), i.ofString_argument, if_neg (by simp),
        State.takeAll, List.foldlM_cons, bind_assoc]
      exact bind_congr fun st => ih st

/-- What options lead to on the two sides of the name of a command, in any order. -/
theorem parse_arguments {name : String} (hname : Place.ofName? name = some place)
    (hgives : ∀ i ∈ before ++ after, i.Gives want)
    (hbefore : ∀ i ∈ before, long? .top i.name = some i.option)
    (hafter : ∀ i ∈ after, long? place i.name = some i.option)
    (hnodup : ((before ++ after).map Flag.option).Nodup) {command : Command}
    (hcommand : State.commandOf (want.only (after.map Flag.option)) place = .ok command) :
    parse (before.map Flag.argument ++ name :: after.map Flag.argument) =
      .ok ⟨combine (want.only (after.map Flag.option)).policy
        (want.only (before.map Flag.option)).policy, some command⟩ := by
  rw [List.forall_mem_append] at hgives
  rw [List.map_append, List.nodup_append] at hnodup
  have houter := takeAll_start hgives.1 hbefore hnodup.1
  have hinner : inner place {} (after.map Flag.argument) =
      inner place ⟨want.only (after.map Flag.option), .none⟩ [] := by
    rw [← List.append_nil (after.map Flag.argument), inner_arguments,
      takeAll_start hgives.2 hafter hnodup.2.1, Except.ok_bind]
  have hplace : (if (⟨want.only (before.map Flag.option), .none⟩ : State).isAwaiting then none
      else Place.ofName? name) = some place := hname
  rw [parse, outer_arguments, houter, Except.ok_bind, outer, hplace]
  dsimp only
  rw [hinner, inner]
  simp only [State.settle, Except.ok_bind, hcommand]
  rfl

end

/-! ### The options of the policy -/

section
variable {ε α : Type} {parse : String → Except ε α} {text : Option String} {value? : Option α}

/-- A value where a text that the parser accepts is given, and no value elsewhere. -/
def Reads (parse : String → Except ε α) (text : Option String) (value? : Option α) : Prop :=
  Option.Rel (fun s a => parse s = .ok a) text value?

/-- What the text of a field says if it is given, and what is beneath it elsewhere. -/
def Chosen (parse : String → Except ε α) (text : Option String) (base value : α) : Prop :=
  match text with
  | some s => parse s = .ok value
  | none => value = base

theorem exists_reads (h : ∀ s, text = some s → ∃ a, parse s = .ok a) :
    ∃ value?, Reads parse text value? := by
  cases text with
  | none => exact ⟨none, .none⟩
  | some s =>
      obtain ⟨a, ha⟩ := h s rfl
      exact ⟨some a, .some ha⟩

theorem Reads.chosen (h : Reads parse text value?) (base : α) :
    Chosen parse text base (value?.getD base) := by
  cases h with
  | none => rfl
  | some ha => exact ha

theorem Reads.exists_of_eq_some (h : Reads parse text value?) {s : String} (hs : text = some s) :
    ∃ a, parse s = .ok a ∧ value? = some a := by
  subst hs
  cases h with
  | some ha => exact ⟨_, ha, rfl⟩

/-- A value that is found on one side or on both. -/
theorem Reads.or_sides (h : Reads parse text value?) {p q : Prop} [Decidable p] [Decidable q]
    (hsides : ∀ s, text = some s → p ∨ q) :
    (if p then value? else none).or (if q then value? else none) = value? := by
  cases h with
  | none => simp
  | some ha =>
      by_cases hp : p
      · simp [hp]
      · have hq := (hsides _ rfl).resolve_left hp
        simp [hp, hq]

end

namespace PolicyFlags
variable {t : PolicyFlags} {o : Policy.Overlay} {i : Flag}

/-- The overlay that the values stand for. -/
structure Means (t : PolicyFlags) (o : Policy.Overlay) : Prop where
  hash : Reads Hash.parse t.hash o.hash
  minKeyBits : Reads Given.readBits t.minKeyBits o.minKeyBits
  mode : Reads Mode.parse t.mode o.mode

theorem Accepted.exists_means (h : t.Accepted) : ∃ o, t.Means o := by
  obtain ⟨hash, hhash⟩ := exists_reads h.hash
  obtain ⟨bits, hbits⟩ := exists_reads h.minKeyBits
  obtain ⟨mode, hmode⟩ := exists_reads h.mode
  exact ⟨⟨hash, bits, mode⟩, hhash, hbits, hmode⟩

theorem mem_flags_iff : i ∈ t.flags ↔ (∃ s, t.hash = some s ∧ .joined .hash s = i) ∨
    (∃ s, t.minKeyBits = some s ∧ .joined .minKeyBits s = i) ∨
    ∃ s, t.mode = some s ∧ .joined .mode s = i := by
  simp [flags]

/-- The options of the policy may stand anywhere. -/
theorem long?_of_mem (h : i ∈ t.flags) (place : Place) : long? place i.name = some i.option := by
  rcases mem_flags_iff.mp h with ⟨s, -, rfl⟩ | ⟨s, -, rfl⟩ | ⟨s, -, rfl⟩
  · cases place <;> rfl
  · cases place <;> rfl
  · cases place <;> rfl

theorem Means.gives {want : Given} (h : t.Means want.policy) (hi : i ∈ t.flags) : i.Gives want := by
  rcases mem_flags_iff.mp hi with ⟨s, hs, rfl⟩ | ⟨s, hs, rfl⟩ | ⟨s, hs, rfl⟩
  · exact h.hash.exists_of_eq_some hs
  · exact h.minKeyBits.exists_of_eq_some hs
  · exact h.mode.exists_of_eq_some hs

/-- A field is found on the side of its option, and a field without one on neither. -/
theorem Means.combine_only {want : Given} (h : t.Means want.policy) {inner outer : List Long}
    (hsides : ∀ i ∈ t.flags, i.option ∈ inner ∨ i.option ∈ outer) :
    combine (want.only inner).policy (want.only outer).policy = want.policy := by
  have hhash := h.hash.or_sides (p := .setting .hash ∈ inner) (q := .setting .hash ∈ outer)
    fun s hs => hsides (.joined .hash s) (mem_flags_iff.mpr (.inl ⟨s, hs, rfl⟩))
  have hbits := h.minKeyBits.or_sides
    (p := .setting .minKeyBits ∈ inner) (q := .setting .minKeyBits ∈ outer)
    fun s hs => hsides (.joined .minKeyBits s) (mem_flags_iff.mpr (.inr (.inl ⟨s, hs, rfl⟩)))
  have hmode := h.mode.or_sides (p := .setting .mode ∈ inner) (q := .setting .mode ∈ outer)
    fun s hs => hsides (.joined .mode s) (mem_flags_iff.mpr (.inr (.inr ⟨s, hs, rfl⟩)))
  simp only [combine, Given.only, hhash, hbits, hmode]

/-- The options of a command in any order after its name, with those of the policy in any order
before and after it. -/
theorem Means.parse_command {want : Given} (h : t.Means want.policy) {own : List Flag}
    {place : Place} {name : String} (hname : Place.ofName? name = some place)
    (hgives : ∀ i ∈ own, i.Gives want) (hown : ∀ i ∈ own, long? place i.name = some i.option)
    (hnodup : ((t.flags ++ own).map Flag.option).Nodup) {command : Command}
    (hcommand : ∀ options, (∀ i ∈ own, i.option ∈ options) →
      State.commandOf (want.only options) place = .ok command)
    {before after : List Flag} (hperm : (before ++ after).Perm (t.flags ++ own))
    (hbefore : ∀ i ∈ before, i ∈ t.flags) :
    parse (before.map Flag.argument ++ name :: after.map Flag.argument) =
      .ok ⟨want.policy, some command⟩ := by
  have hall : ∀ i ∈ t.flags ++ own, i.Gives want := by
    rw [List.forall_mem_append]
    exact ⟨fun i => h.gives, hgives⟩
  have hafter : ∀ i ∈ after, long? place i.name = some i.option := by
    intro i hi
    have hmem := hperm.mem_iff.mp (List.mem_append_right before hi)
    rcases List.mem_append.mp hmem with hi | hi
    · exact long?_of_mem hi place
    · exact hown i hi
  -- no option of the command is one of the policy, so all of them stand after its name
  have hcovers : ∀ i ∈ own, i.option ∈ after.map Flag.option := by
    intro i hi
    rcases List.mem_append.mp (hperm.mem_iff.mpr (List.mem_append_right _ hi)) with hb | ha
    · rw [List.map_append, List.nodup_append] at hnodup
      have hpolicy : i.option ∈ t.flags.map Flag.option := List.mem_map_of_mem (hbefore i hb)
      exact absurd rfl (hnodup.2.2 _ hpolicy _ (List.mem_map_of_mem hi))
    · exact List.mem_map_of_mem ha
  have hparse := parse_arguments hname (fun i hi => hall i (hperm.mem_iff.mp hi))
    (fun i hi => long?_of_mem (hbefore i hi) .top) hafter
    ((hperm.map Flag.option).nodup_iff.mpr hnodup) (hcommand _ hcovers)
  rw [hparse, h.combine_only]
  intro i hi
  rcases List.mem_append.mp (hperm.mem_iff.mpr (List.mem_append_left _ hi)) with hb | ha
  · exact .inr (List.mem_map_of_mem hb)
  · exact .inl (List.mem_map_of_mem ha)

end PolicyFlags

/-! ### Signing and verifying -/

/-- The values of the options of a request to sign, under those of the policy. -/
def signing (o : Policy.Overlay) (r : SignRequest) : Given :=
  ⟨o, some r.data, some r.number, some r.key, none, r.json⟩

/-- The values of the options of a request to verify, under those of the policy. -/
def verifying (o : Policy.Overlay) (r : VerifyRequest) : Given :=
  ⟨o, some r.data, some r.number, some r.key, some r.signature, false⟩

section
variable {t : PolicyFlags} {o : Policy.Overlay} {before after : List Flag}

/-- No option comes twice. -/
theorem nodup_options {own : List Flag}
    (h : (own.map Flag.option).Sublist
      [.setting .data, .setting .packetNumber, .setting .key, .setting .signature, .json]) :
    ((t.flags ++ own).map Flag.option).Nodup := by
  have hpolicy : (t.flags.map Flag.option).Sublist
      [.setting .hash, .setting .minKeyBits, .setting .mode] := by
    rcases t with ⟨_ | _, _ | _, _ | _⟩ <;> simp [PolicyFlags.flags, Flag.option]
  rw [List.map_append]
  exact (hpolicy.append h).nodup (by decide)

theorem mem_sign_flags_iff {r : SignRequest} {i : Flag} : i ∈ r.flags ↔
    i = .joined .data r.data ∨ i = .joined .packetNumber r.number ∨ i = .joined .key r.key ∨
      r.json = true ∧ i = .json := by
  cases h : r.json <;> simp [SignRequest.flags, h]

theorem parse_sign (h : t.Means o) (r : SignRequest)
    (hperm : (before ++ after).Perm (t.flags ++ r.flags)) (hbefore : ∀ i ∈ before, i ∈ t.flags) :
    parse (before.map Flag.argument ++ "sign" :: after.map Flag.argument) =
      .ok ⟨o, some (.sign r)⟩ := by
  have hwant : t.Means (signing o r).policy := h
  have hname : Place.ofName? "sign" = some .sign := rfl
  refine hwant.parse_command hname ?_ ?_ ?_ ?_ hperm hbefore
  · intro i hi
    rcases mem_sign_flags_iff.mp hi with rfl | rfl | rfl | ⟨hjson, rfl⟩
    · rfl
    · rfl
    · rfl
    · exact hjson
  · intro i hi
    rcases mem_sign_flags_iff.mp hi with rfl | rfl | rfl | ⟨-, rfl⟩ <;> rfl
  · apply nodup_options
    cases h : r.json <;> simp [SignRequest.flags, h, Flag.option]
  · intro options hcovers
    have hdata := hcovers _ (mem_sign_flags_iff.mpr (.inl rfl))
    have hnumber := hcovers _ (mem_sign_flags_iff.mpr (.inr (.inl rfl)))
    have hkey := hcovers _ (mem_sign_flags_iff.mpr (.inr (.inr (.inl rfl))))
    have hjson : (decide (.json ∈ options) && r.json) = r.json := by
      cases hr : r.json with
      | false => simp
      | true =>
          have hmem : Long.json ∈ options :=
            hcovers .json (mem_sign_flags_iff.mpr (.inr (.inr (.inr ⟨hr, rfl⟩))))
          simp [hmem]
    simp only [Flag.option] at hdata hnumber hkey
    simp [State.commandOf, Given.only, signing, hdata, hnumber, hkey, hjson]

theorem parse_verify (h : t.Means o) (r : VerifyRequest)
    (hperm : (before ++ after).Perm (t.flags ++ r.flags)) (hbefore : ∀ i ∈ before, i ∈ t.flags) :
    parse (before.map Flag.argument ++ "verify" :: after.map Flag.argument) =
      .ok ⟨o, some (.verify r)⟩ := by
  have hwant : t.Means (verifying o r).policy := h
  have hname : Place.ofName? "verify" = some .verify := rfl
  refine hwant.parse_command hname ?_ ?_ ?_ ?_ hperm hbefore
  · simp [VerifyRequest.flags, Flag.Gives, verifying]
  · simp only [VerifyRequest.flags, List.forall_mem_cons]
    exact ⟨rfl, rfl, rfl, rfl, by simp⟩
  · apply nodup_options
    simp [VerifyRequest.flags, Flag.option]
  · intro options hcovers
    simp only [VerifyRequest.flags, List.forall_mem_cons, Flag.option] at hcovers
    obtain ⟨hdata, hnumber, hkey, hsignature, -⟩ := hcovers
    simp [State.commandOf, Given.only, verifying, hdata, hnumber, hkey, hsignature]

end

/-- **Neither the order nor the place of options matters.**  Let the values given for options of
the policy be accepted.  However these options are spread before and after the name of a command,
and however they are mixed with the options of a request, one for each of its parts with any text
as its value, the command line asks for that request; and it asks for it under one overlay, which
sets the fields that are given as they are given and leaves the others of any policy alone. -/
theorem parse_any_order {t : PolicyFlags} (h : t.Accepted) :
    ∃ o : Policy.Overlay,
      (∀ (r : SignRequest) (before after : List Flag),
        (before ++ after).Perm (t.flags ++ r.flags) → (∀ i ∈ before, i ∈ t.flags) →
          parse (before.map Flag.argument ++ "sign" :: after.map Flag.argument) =
            .ok ⟨o, some (.sign r)⟩) ∧
      (∀ (r : VerifyRequest) (before after : List Flag),
        (before ++ after).Perm (t.flags ++ r.flags) → (∀ i ∈ before, i ∈ t.flags) →
          parse (before.map Flag.argument ++ "verify" :: after.map Flag.argument) =
            .ok ⟨o, some (.verify r)⟩) ∧
      ∀ base : Policy,
        Chosen Hash.parse t.hash base.hash (o.over base).hash ∧
        Chosen Given.readBits t.minKeyBits base.minKeyBits (o.over base).minKeyBits ∧
        Chosen Mode.parse t.mode base.mode (o.over base).mode := by
  obtain ⟨o, ho⟩ := h.exists_means
  refine ⟨o, ?sign, ?verify, ?overlaid⟩
  case sign =>
    intro r before after hperm hbefore
    exact parse_sign ho r hperm hbefore
  case verify =>
    intro r before after hperm hbefore
    exact parse_verify ho r hperm hbefore
  case overlaid =>
    intro base
    exact ⟨ho.hash.chosen _, ho.minKeyBits.chosen _, ho.mode.chosen _⟩

/-- One option of the policy stands before the name of a command and one among its own, and there
are values that look like options, hold equals signs, or are empty. -/
theorem parse_any_order_scattered : ∃ o : Policy.Overlay,
    parse ["--mode=payload-bound", "sign", "--key=--data=x", "--json", "--hash=sha384",
      "--packet-number=-1", "--data="] = .ok ⟨o, some (.sign ⟨"", "-1", "--data=x", true⟩)⟩ ∧
    parse ["--hash=sha384", "--mode=payload-bound", "verify", "--signature==", "--key=",
      "--data=-h", "--packet-number=help"] = .ok ⟨o, some (.verify ⟨"-h", "help", "", "="⟩)⟩ ∧
    ∀ base : Policy, o.over base = ⟨.sha384, base.minKeyBits, .payloadBound⟩ := by
  have hhash : Hash.parse "sha384" = .ok .sha384 := by decide
  have hmode : Mode.parse "payload-bound" = .ok .payloadBound := by decide
  obtain ⟨o, hsign, hverify, hover⟩ :=
    parse_any_order (t := ⟨some "sha384", none, some "payload-bound"⟩)
      { hash := by
          rintro s ⟨⟩
          exact ⟨_, hhash⟩
        minKeyBits := by
          rintro s ⟨⟩
        mode := by
          rintro s ⟨⟩
          exact ⟨_, hmode⟩ }
  refine ⟨o, ?_, ?_, fun base => ?_⟩
  · exact hsign ⟨"", "-1", "--data=x", true⟩ [.joined .mode "payload-bound"]
      [.joined .key "--data=x", .json, .joined .hash "sha384", .joined .packetNumber "-1",
        .joined .data ""] (by decide) (by decide)
  · exact hverify ⟨"-h", "help", "", "="⟩
      [.joined .hash "sha384", .joined .mode "payload-bound"]
      [.joined .signature "=", .joined .key "", .joined .data "-h", .joined .packetNumber "help"]
      (by decide) (by decide)
  · obtain ⟨h, hbits, hm⟩ := hover base
    have hover_hash : (o.over base).hash = .sha384 := Except.ok.inj (h.symm.trans hhash)
    have hover_mode : (o.over base).mode = .payloadBound := Except.ok.inj (hm.symm.trans hmode)
    have hover_bits : (o.over base).minKeyBits = base.minKeyBits := hbits
    rw [← hover_hash, ← hover_mode, ← hover_bits]

end CommandLine
end PacketAuth
