import Mathlib.Data.List.Forall2
import PacketAuth.Policy.Basic
import PacketAuth.Proofs.Answers
import PacketAuth.Proofs.PolicyResolution
import PacketAuth.Proofs.TomlLines

/-! # The policy section of a configuration file

A file of the header `[policy]` and of lines that each give a field is a TOML document whatever the
lines give (`parse_sectionText`).  It sets fields exactly if each line gives a value that its field
admits; the fields read are then those of the lines (`Written`), entry by entry
(`Written.snoc`, `foldlM_cases`).  Names count only as they are written in a report: what an option
would take for the same choice is of no use in the file (`Config.read_sectionText`). -/

namespace PacketAuth

/-! ### Sections -/

/-- A line of the section: a field, and what is given for it. -/
inductive SectionLine where
  | hash (text : String)
  | minKeyBits (n : Int)
  | mode (text : String)
deriving DecidableEq, Repr

/-- A text that stands between quotes as it is. -/
def Plain (text : String) : Prop :=
  ∀ c ∈ text.toList, 0x20 ≤ c.toNat ∧ c.toNat ≠ 0x7F ∧ c ≠ '"' ∧ c ≠ '\\'

-- going through the characters of the text, and not through all that there are
instance (text : String) : Decidable (Plain text) :=
  List.decidableBAll
    (fun c : Char => 0x20 ≤ c.toNat ∧ c.toNat ≠ 0x7F ∧ c ≠ '"' ∧ c ≠ '\\') text.toList

theorem Plain.inBasic {text : String} (h : Plain text) :
    ∀ c ∈ text.toList, Toml.inBasic c = true := by
  intro c hc
  obtain ⟨hlow, hdel, hquote, hslash⟩ := h c hc
  simp [Toml.inBasic, Toml.inComment, hlow, hdel, hquote, hslash]

namespace SectionLine

def field : SectionLine → String
  | hash _ => "hash"
  | minKeyBits _ => "min_key_bits"
  | mode _ => "mode"

/-- The value as it is written, a text in quotes and a number in decimal. -/
def written : SectionLine → String
  | hash text => "\"" ++ text ++ "\""
  | minKeyBits n => toString n
  | mode text => "\"" ++ text ++ "\""

def text (s : SectionLine) : String := s.field ++ " = " ++ s.written

/-- A line whose value can be written: a text without quotes, backslashes and control characters,
or an integer of 64 bits with a sign. -/
def Writable : SectionLine → Prop
  | hash text => Plain text
  | minKeyBits n => Toml.Fits n
  | mode text => Plain text

instance : (s : SectionLine) → Decidable s.Writable
  | hash text => inferInstanceAs (Decidable (Plain text))
  | minKeyBits _ => inferInstanceAs (Decidable (_ ∧ _))
  | mode text => inferInstanceAs (Decidable (Plain text))

/-- A line whose value the field admits. -/
def Admitted : SectionLine → Prop
  | hash text => text = "sha256" ∨ text = "sha384" ∨ text = "sha512"
  | minKeyBits n => 0 ≤ n ∧ n < 0x100000000
  | mode text => text = "counter" ∨ text = "payload-bound"

instance : (s : SectionLine) → Decidable s.Admitted
  | hash _ => inferInstanceAs (Decidable (_ ∨ _))
  | minKeyBits _ => inferInstanceAs (Decidable (_ ∧ _))
  | mode _ => inferInstanceAs (Decidable (_ ∨ _))

/-- What is said of a value that the field does not admit. -/
def mismatch : SectionLine → Mismatch
  | hash text => .choice text ["sha256", "sha384", "sha512"]
  | minKeyBits n => .value (.integer n) "u32"
  | mode text => .choice text ["counter", "payload-bound"]

/-- The value as TOML has it. -/
def value : SectionLine → Toml.Value
  | hash text => .string text
  | minKeyBits n => .integer n
  | mode text => .string text

def entry (s : SectionLine) : String × Toml.Value := (s.field, s.value)

end SectionLine

/-- The text of a section: its header and its lines. -/
def sectionText (e : Toml.LineEnd) (closed : Bool) (lines : List SectionLine) : String :=
  String.ofList (Toml.layout e closed
    ("[policy]".toList :: lines.map fun s => s.text.toList))

variable {lines before : List SectionLine} {s : SectionLine} {o o' : Policy.Overlay}

/-! ### The document of a section -/

theorem SectionLine.isBare_field (s : SectionLine) : Toml.IsBare s.field.toList := by
  cases s with
  | hash _ =>
      exact (Toml.isBare_of_all (by decide) (by decide) : Toml.IsBare "hash".toList)
  | minKeyBits _ =>
      exact (Toml.isBare_of_all (by decide) (by decide) : Toml.IsBare "min_key_bits".toList)
  | mode _ =>
      exact (Toml.isBare_of_all (by decide) (by decide) : Toml.IsBare "mode".toList)

theorem Plain.writtenAs {text : String} (h : Plain text) :
    Toml.WrittenAs ("\"" ++ text ++ "\"").toList (.string text) := by
  have hq : ("\"" ++ text ++ "\"").toList = '"' :: (text.toList ++ ['"']) := by simp
  rw [hq]
  exact .string h.inBasic

theorem SectionLine.writtenAs (h : s.Writable) : Toml.WrittenAs s.written.toList s.value := by
  cases s with
  | hash text => exact Plain.writtenAs h
  | minKeyBits n => exact .integer h
  | mode text => exact Plain.writtenAs h

theorem SectionLine.readsAs (h : s.Writable) :
    Toml.ReadsAs s.text.toList (Toml.Line.ofEntry s.entry) := by
  have hl : s.text.toList = Toml.entryText s.field.toList s.written.toList := by
    simp [text, Toml.entryText]
  have hr := Toml.ReadsAs.entry s.isBare_field (SectionLine.writtenAs h)
  rw [String.ofList_toList] at hr
  rw [hl]
  exact hr

/-- A section is read as the table of its lines, whatever these give and however they end. -/
theorem parse_sectionText (e : Toml.LineEnd) (closed : Bool)
    (hn : (lines.map SectionLine.field).Nodup) (hw : ∀ s ∈ lines, s.Writable) :
    Toml.parse (sectionText e closed lines) =
      some [("policy", .table .header (lines.map SectionLine.entry))] := by
  have hp : Toml.IsBare "policy".toList := Toml.isBare_of_all (by decide) (by decide)
  have hh : Toml.ReadsAs "[policy]".toList (.header false ([], "policy")) := .header hp
  have hs : List.Forall₂ Toml.ReadsAs (lines.map fun s => s.text.toList)
      ((lines.map SectionLine.entry).map Toml.Line.ofEntry) := by
    rw [List.map_map, List.forall₂_map_left_iff, List.forall₂_map_right_iff, List.forall₂_same]
    exact fun s h => SectionLine.readsAs (hw s h)
  have hb : (Toml.layout e closed
      ("[policy]".toList :: lines.map fun s => s.text.toList)).head? ≠ some '\uFEFF' := by
    cases lines <;> exact fun h => absurd (Option.some.inj h) (by decide)
  have hf : ((lines.map SectionLine.entry).map Prod.fst).Nodup := by
    rw [List.map_map]
    exact hn
  unfold sectionText
  rw [Toml.parse_layout e closed (.cons hh hs) hb, Toml.ofLines_header "policy" hf]

/-! ### Names in a file and names of options -/

theorem SectionLine.admitted_hash_iff {text : String} :
    (SectionLine.hash text).Admitted ↔ ∃ h ∈ Hash.all, text = h.name := by
  simp [Admitted, Hash.all, Hash.name]

theorem SectionLine.admitted_mode_iff {text : String} :
    (SectionLine.mode text).Admitted ↔ ∃ m ∈ Mode.all, text = m.name := by
  simp [Admitted, Mode.all, Mode.name]

theorem Hash.parse_of_name (h : Hash) : Hash.parse h.name = .ok h := by
  cases h <;> rfl

theorem Mode.parse_of_name (m : Mode) : Mode.parse m.name = .ok m := by
  cases m <;> rfl

theorem Hash.name_injective : Function.Injective Hash.name := by
  intro a b h
  have ha := Hash.parse_of_name a
  rw [h, Hash.parse_of_name b] at ha
  exact (Except.ok.inj ha).symm

theorem Mode.name_injective : Function.Injective Mode.name := by
  intro a b h
  have ha := Mode.parse_of_name a
  rw [h, Mode.parse_of_name b] at ha
  exact (Except.ok.inj ha).symm

/-- Of the texts that an option takes for a hash function, a file admits its name alone. -/
theorem SectionLine.not_admitted_hash {text : String} {h : Hash} (hp : Hash.parse text = .ok h)
    (hne : text ≠ h.name) : ¬ (SectionLine.hash text).Admitted := by
  intro ha
  obtain ⟨a, -, rfl⟩ := SectionLine.admitted_hash_iff.mp ha
  rw [Hash.parse_of_name, Except.ok.injEq] at hp
  exact hne (congrArg Hash.name hp)

theorem SectionLine.not_admitted_mode {text : String} {m : Mode} (hp : Mode.parse text = .ok m)
    (hne : text ≠ m.name) : ¬ (SectionLine.mode text).Admitted := by
  intro ha
  obtain ⟨a, -, rfl⟩ := SectionLine.admitted_mode_iff.mp ha
  rw [Mode.parse_of_name, Except.ok.injEq] at hp
  exact hne (congrArg Mode.name hp)

/-! ### One entry -/

/-- `s.Puts o o'`: the line gives a value that its field admits, and this is the one change. -/
inductive SectionLine.Puts : SectionLine → Policy.Overlay → Policy.Overlay → Prop
  | hash (h : Hash) (o : Policy.Overlay) : Puts (.hash h.name) o { o with hash := some h }
  | minKeyBits (w : UInt32) (o : Policy.Overlay) :
      Puts (.minKeyBits w.toNat) o { o with minKeyBits := some w }
  | mode (m : Mode) (o : Policy.Overlay) : Puts (.mode m.name) o { o with mode := some m }

theorem SectionLine.Puts.admitted (h : s.Puts o o') : s.Admitted := by
  cases h with
  | hash h _ => exact admitted_hash_iff.mpr ⟨h, by cases h <;> decide, rfl⟩
  | minKeyBits w _ =>
      have hw := w.toNat_lt
      exact ⟨by omega, by omega⟩
  | mode m _ => exact admitted_mode_iff.mpr ⟨m, by cases m <;> decide, rfl⟩

/-- A name is that of a choice, which it then stands for, or it is refused. -/
theorem choiceOfName_cases {α : Type} (name : α → String) (all : List α) (text : String) :
    (∃ a ∈ all, text = name a ∧
      Json.choiceOfName (all.map fun a => (name a, a)) text = .ok a) ∨
    (∀ a ∈ all, text ≠ name a) ∧
      Json.choiceOfName (all.map fun a => (name a, a)) text =
        .error (.choice text (all.map name)) := by
  unfold Json.choiceOfName
  cases hl : (all.map fun a => (name a, a)).lookup text with
  | none =>
      refine Or.inr ⟨fun a ha => ?_, ?_⟩
      · have hne := List.lookup_eq_none_iff.mp hl _ (List.mem_map_of_mem ha)
        exact bne_iff_ne.mp hne
      · rw [List.map_map]
        rfl
  | some a =>
      obtain ⟨l₁, l₂, hall, -⟩ := List.lookup_eq_some_iff.mp hl
      have hm : (text, a) ∈ all.map fun a => (name a, a) := by
        rw [hall]
        exact List.mem_append_right _ List.mem_cons_self
      obtain ⟨b, hb, he⟩ := List.mem_map.mp hm
      obtain ⟨hn, rfl⟩ := Prod.mk.inj he
      exact Or.inl ⟨b, hb, hn.symm, rfl⟩

/-- An entry sets its field, or it is refused and its value is one that the field does not admit. -/
theorem readEntry_cases (o : Policy.Overlay) (s : SectionLine) :
    (∃ o', s.Puts o o' ∧ o.readEntry s.entry = .ok o') ∨
      ¬ s.Admitted ∧ o.readEntry s.entry = .error s.mismatch := by
  cases s with
  | hash text =>
      have he : o.readEntry (SectionLine.hash text).entry =
        (Json.choiceOfName Hash.choices text).map fun h => { o with hash := some h } := rfl
      rw [he]
      rcases choiceOfName_cases Hash.name Hash.all text with ⟨h, -, rfl, hc⟩ | ⟨hne, hc⟩
      · exact Or.inl ⟨_, .hash h o, congrArg (Except.map _) hc⟩
      · refine Or.inr ⟨fun ha => ?_, congrArg (Except.map _) hc⟩
        obtain ⟨h, hm, ht⟩ := SectionLine.admitted_hash_iff.mp ha
        exact hne h hm ht
  | minKeyBits n =>
      have he : o.readEntry (SectionLine.minKeyBits n).entry =
        (Toml.Value.integer n).word.map fun w => { o with minKeyBits := some w } := rfl
      rw [he, Toml.Value.word]
      cases hw : Decimal.word? n with
      | some w =>
          obtain rfl := Decimal.word?_eq_some_iff.mp hw
          exact Or.inl ⟨_, .minKeyBits w o, rfl⟩
      | none =>
          refine Or.inr ⟨fun hr => ?_, rfl⟩
          have hr : 0 ≤ n ∧ n < 0x100000000 := hr
          unfold Decimal.word? at hw
          rw [if_pos hr] at hw
          cases hw
  | mode text =>
      have he : o.readEntry (SectionLine.mode text).entry =
        (Json.choiceOfName Mode.choices text).map fun m => { o with mode := some m } := rfl
      rw [he]
      rcases choiceOfName_cases Mode.name Mode.all text with ⟨m, -, rfl, hc⟩ | ⟨hne, hc⟩
      · exact Or.inl ⟨_, .mode m o, congrArg (Except.map _) hc⟩
      · refine Or.inr ⟨fun ha => ?_, congrArg (Except.map _) hc⟩
        obtain ⟨m, hm, ht⟩ := SectionLine.admitted_mode_iff.mp ha
        exact hne m hm ht

/-! ### Several entries -/

/-- What lines give a field, where `line a` is the line that gives it the value `a`.  It is unset if
no line is for it. -/
structure Gives {α : Type} (lines : List SectionLine) (field : String) (line : α → SectionLine)
    (read : Option α) : Prop where
  some_iff : ∀ a, read = some a ↔ line a ∈ lines
  none_iff : read = none ↔ field ∉ lines.map SectionLine.field

/-- The fields are those that the lines give, and no others. -/
structure Written (lines : List SectionLine) (o : Policy.Overlay) : Prop where
  hash : Gives lines "hash" (fun h : Hash => .hash h.name) o.hash
  minKeyBits : Gives lines "min_key_bits" (fun w : UInt32 => .minKeyBits w.toNat) o.minKeyBits
  mode : Gives lines "mode" (fun m : Mode => .mode m.name) o.mode

section field
variable {α : Type} {field : String} {line : α → SectionLine} {read : Option α}

/-- A line for another field changes nothing. -/
theorem Gives.other (h : Gives lines field line read) (hs : s.field ≠ field)
    (hl : ∀ a, (line a).field = field) : Gives (lines ++ [s]) field line read where
  some_iff a := by
    have hne : line a ≠ s := by
      intro he
      exact hs (he ▸ hl a)
    rw [List.mem_append, List.mem_singleton, h.some_iff]
    simp only [hne, or_false]
  none_iff := by
    rw [List.map_append, List.mem_append, h.none_iff]
    simp [Ne.symm hs]

/-- A first line for the field gives it its value. -/
theorem Gives.given (hi : Function.Injective line) (hl : ∀ a, (line a).field = field)
    (hf : field ∉ lines.map SectionLine.field) (a : α) :
    Gives (lines ++ [line a]) field line (some a) where
  some_iff b := by
    have hb : line b ∉ lines := by
      intro hb
      exact hf (List.mem_map.mpr ⟨_, hb, hl b⟩)
    rw [List.mem_append, List.mem_singleton, hi.eq_iff, Option.some.injEq]
    simp only [hb, false_or, eq_comm]
  none_iff := by
    rw [List.map_append, List.mem_append]
    simp [hl a]

/-- The field in effect over a default. -/
theorem Gives.getD (h : Gives lines field line read) (a : α) :
    line (read.getD a) ∈ lines ∨ field ∉ lines.map SectionLine.field ∧ read.getD a = a := by
  cases read with
  | none => exact Or.inr ⟨h.none_iff.mp rfl, rfl⟩
  | some b => exact Or.inl ((h.some_iff b).mp rfl)

end field

theorem SectionLine.hash_injective :
    Function.Injective fun h : Hash => SectionLine.hash h.name := by
  intro a b h
  exact Hash.name_injective (SectionLine.hash.inj h)

theorem SectionLine.minKeyBits_injective :
    Function.Injective fun w : UInt32 => SectionLine.minKeyBits w.toNat := by
  intro a b h
  exact UInt32.toNat_inj.mp (Int.ofNat.inj (SectionLine.minKeyBits.inj h))

theorem SectionLine.mode_injective :
    Function.Injective fun m : Mode => SectionLine.mode m.name := by
  intro a b h
  exact Mode.name_injective (SectionLine.mode.inj h)

theorem Written.nil : Written [] {} where
  hash := ⟨by simp, by simp⟩
  minKeyBits := ⟨by simp, by simp⟩
  mode := ⟨by simp, by simp⟩

/-- One more entry of a field that no entry before it is for. -/
theorem Written.snoc (h : Written lines o) (hs : s.field ∉ lines.map SectionLine.field)
    (hp : s.Puts o o') : Written (lines ++ [s]) o' := by
  obtain ⟨hhash, hbits, hmode⟩ := h
  cases hp with
  | hash a _ =>
      exact ⟨.given SectionLine.hash_injective (fun _ => rfl) hs a,
        hbits.other (by decide : "hash" ≠ "min_key_bits") (fun _ => rfl),
        hmode.other (by decide : "hash" ≠ "mode") (fun _ => rfl)⟩
  | minKeyBits w _ =>
      exact ⟨hhash.other (by decide : "min_key_bits" ≠ "hash") (fun _ => rfl),
        .given SectionLine.minKeyBits_injective (fun _ => rfl) hs w,
        hmode.other (by decide : "min_key_bits" ≠ "mode") (fun _ => rfl)⟩
  | mode m _ =>
      exact ⟨hhash.other (by decide : "mode" ≠ "hash") (fun _ => rfl),
        hbits.other (by decide : "mode" ≠ "min_key_bits") (fun _ => rfl),
        .given SectionLine.mode_injective (fun _ => rfl) hs m⟩

/-- All entries are read, or the complaint is about one whose field does not admit its value. -/
theorem foldlM_cases (lines : List SectionLine) :
    ∀ {before : List SectionLine} {o : Policy.Overlay}, Written before o →
      ((before ++ lines).map SectionLine.field).Nodup →
      (∃ o', (lines.map SectionLine.entry).foldlM Policy.Overlay.readEntry o = .ok o' ∧
        Written (before ++ lines) o' ∧ ∀ s ∈ lines, s.Admitted) ∨
      ∃ s ∈ lines, ¬ s.Admitted ∧
        (lines.map SectionLine.entry).foldlM Policy.Overlay.readEntry o = .error s.mismatch := by
  induction lines with
  | nil =>
      intro before o ho hn
      rw [List.append_nil]
      exact Or.inl ⟨o, rfl, ho, List.forall_mem_nil _⟩
  | cons s lines ih =>
      intro before o ho hn
      have hs : s.field ∉ before.map SectionLine.field := by
        intro hm
        rw [List.map_append, List.map_cons, List.nodup_append] at hn
        exact hn.2.2 _ hm _ List.mem_cons_self rfl
      have happ : before ++ s :: lines = (before ++ [s]) ++ lines := by
        rw [List.append_assoc, List.singleton_append]
      rw [happ] at hn ⊢
      rw [List.map_cons, List.foldlM_cons]
      rcases readEntry_cases o s with ⟨o₁, hp, hr⟩ | ⟨hbad, hr⟩
      · rw [hr]
        rcases ih (ho.snoc hs hp) hn with ⟨o', hf, hw, ha⟩ | ⟨t, ht, hbad, hf⟩
        · exact Or.inl ⟨o', hf, hw, List.forall_mem_cons.mpr ⟨hp.admitted, ha⟩⟩
        · exact Or.inr ⟨t, List.mem_cons_of_mem _ ht, hbad, hf⟩
      · rw [hr]
        exact Or.inr ⟨s, List.mem_cons_self, hbad, rfl⟩

/-! ### The file -/

namespace Config

theorem read_sectionText_cases (e : Toml.LineEnd) (closed : Bool)
    (hn : (lines.map SectionLine.field).Nodup) (hw : ∀ s ∈ lines, s.Writable) :
    (∃ o, read (.contents (Utf8.encode (sectionText e closed lines))) = .ok (some o) ∧
      Written lines o ∧ ∀ s ∈ lines, s.Admitted) ∨
    ∃ s ∈ lines, ¬ s.Admitted ∧
      read (.contents (Utf8.encode (sectionText e closed lines))) =
        .error (.value s.mismatch) := by
  have hp : parse (sectionText e closed lines) =
      ((lines.map SectionLine.entry).foldlM Policy.Overlay.readEntry {}).mapError .value := by
    unfold parse
    rw [parse_sectionText e closed hn hw]
    rfl
  rw [read_text, hp]
  rcases foldlM_cases lines Written.nil hn with ⟨o, hf, ho, ha⟩ | ⟨s, hs, hbad, hf⟩
  · rw [hf]
    exact Or.inl ⟨o, rfl, ho, ha⟩
  · rw [hf]
    exact Or.inr ⟨s, hs, hbad, rfl⟩

end Config

/-- **The file sets what its lines say, or is refused.**  A section that has at most one line for
each field is read exactly if all fields admit what the lines give.  Then the fields are set as the
lines say and the others are unset, and only for these does the policy have the standard values.
Otherwise the file is refused over a value.  No integer beyond 32 bits gets through as another one,
and neither does a text that only an option takes for a choice. -/
theorem Config.read_sectionText (e : Toml.LineEnd) (closed : Bool) (lines : List SectionLine)
    (hn : (lines.map SectionLine.field).Nodup) (hw : ∀ s ∈ lines, s.Writable) :
    let file := ConfigFile.contents (Utf8.encode (sectionText e closed lines))
    ((∃ found, read file = .ok found) ↔ ∀ s ∈ lines, s.Admitted) ∧
    (∀ found, read file = .ok found → ∃ o, found = some o ∧ Written lines o ∧
      let p := o.over .standard
      (.hash p.hash.name ∈ lines ∨ "hash" ∉ lines.map SectionLine.field ∧ p.hash = .sha256) ∧
      (.minKeyBits p.minKeyBits.toNat ∈ lines ∨
        "min_key_bits" ∉ lines.map SectionLine.field ∧ p.minKeyBits = 128) ∧
      (.mode p.mode.name ∈ lines ∨ "mode" ∉ lines.map SectionLine.field ∧ p.mode = .counter)) ∧
    ((∃ s ∈ lines, ¬ s.Admitted) →
      ∃ s ∈ lines, ¬ s.Admitted ∧ read file = .error (.value s.mismatch)) ∧
    (∀ n, .minKeyBits n ∈ lines → n < 0 ∨ 0x100000000 ≤ n →
      ∃ fault, read file = .error fault) ∧
    (∀ text h, .hash text ∈ lines → Hash.parse text = .ok h → text ≠ h.name →
      ∃ fault, read file = .error fault) ∧
    (∀ text m, .mode text ∈ lines → Mode.parse text = .ok m → text ≠ m.name →
      ∃ fault, read file = .error fault) := by
  intro file
  have hcases := read_sectionText_cases e closed hn hw
  have hbad : (∃ s ∈ lines, ¬ s.Admitted) →
      ∃ s ∈ lines, ¬ s.Admitted ∧ read file = .error (.value s.mismatch) := by
    rintro ⟨s, hs, hbad⟩
    rcases hcases with ⟨o, -, -, ha⟩ | h
    · exact absurd (ha s hs) hbad
    · exact h
  have hrefused : ∀ s ∈ lines, ¬ s.Admitted → ∃ fault, read file = .error fault := by
    intro s hs hns
    obtain ⟨t, -, -, ht⟩ := hbad ⟨s, hs, hns⟩
    exact ⟨_, ht⟩
  refine ⟨⟨?_, ?_⟩, ?_, hbad, ?_, ?_, ?_⟩
  · rintro ⟨found, hr⟩ s hs
    by_contra hns
    obtain ⟨fault, hf⟩ := hrefused s hs hns
    rw [hf] at hr
    cases hr
  · intro ha
    rcases hcases with ⟨o, hr, -⟩ | ⟨s, hs, hns, -⟩
    · exact ⟨_, hr⟩
    · exact absurd (ha s hs) hns
  · intro found hr
    rcases hcases with ⟨o, ho, hw, -⟩ | ⟨s, -, -, hf⟩
    · have hfound : found = some o := Except.ok.inj (hr.symm.trans ho)
      exact ⟨o, hfound, hw, hw.hash.getD .sha256, hw.minKeyBits.getD 128, hw.mode.getD .counter⟩
    · cases hr.symm.trans hf
  · intro n hs hr
    apply hrefused _ hs
    rintro ⟨h0, h1⟩
    omega
  · intro text h hs hp hne
    exact hrefused _ hs (SectionLine.not_admitted_hash hp hne)
  · intro text m hs hp hne
    exact hrefused _ hs (SectionLine.not_admitted_mode hp hne)

/-- All three lines with carriage returns and no line end after the last one, a choice named as for
an option, and a key length of 2³² + 128 bits, which is not the admissible one of 128. -/
theorem Config.read_sectionText_samples :
    let file (e : Toml.LineEnd) (closed : Bool) (lines : List SectionLine) :=
      ConfigFile.contents (Utf8.encode (sectionText e closed lines))
    let all : List SectionLine := [.mode "payload-bound", .hash "sha512", .minKeyBits 4294967295]
    sectionText .crlf false all = "[policy]\r\nmode = \"payload-bound\"\r\nhash = \"sha512\"\r\n" ++
      "min_key_bits = 4294967295" ∧
    read (file .crlf false all) = .ok (some ⟨some .sha512, some 4294967295, some .payloadBound⟩) ∧
    Hash.parse "SHA-256" = .ok .sha256 ∧
    (∃ fault, read (file .lf true [.hash "SHA-256"]) = .error fault) ∧
    Mode.parse "payload_bound" = .ok .payloadBound ∧
    (∃ fault, read (file .lf true [.mode "payload_bound", .minKeyBits 128]) = .error fault) ∧
    (∃ fault, read (file .lf true [.minKeyBits 4294967424]) = .error fault) := by
  intro file all
  obtain ⟨hread, hset, -⟩ := read_sectionText .crlf false all (by decide) (by decide)
  obtain ⟨-, -, -, -, hhash, -⟩ :=
    read_sectionText .lf true [.hash "SHA-256"] (by decide) (by decide)
  obtain ⟨-, -, -, -, -, hmode⟩ :=
    read_sectionText .lf true [.mode "payload_bound", .minKeyBits 128] (by decide) (by decide)
  obtain ⟨-, -, -, hbits, -⟩ :=
    read_sectionText .lf true [.minKeyBits 4294967424] (by decide) (by decide)
  obtain ⟨found, hfound⟩ := hread.mpr (by decide)
  obtain ⟨⟨hash, bits, mode⟩, rfl, hw, -⟩ := hset found hfound
  obtain rfl : hash = some .sha512 := (hw.hash.some_iff _).mpr (by decide)
  obtain rfl : bits = some 4294967295 := (hw.minKeyBits.some_iff _).mpr (by decide)
  obtain rfl : mode = some .payloadBound := (hw.mode.some_iff _).mpr (by decide)
  exact ⟨by decide, hfound,
    by decide, hhash "SHA-256" .sha256 (by decide) (by decide) (by decide),
    by decide, hmode "payload_bound" .payloadBound (by decide) (by decide) (by decide),
    hbits 4294967424 (by decide) (by decide)⟩

end PacketAuth
