import PacketAuth.Policy.Json
import PacketAuth.Proofs.JsonText
import PacketAuth.Proofs.PolicySection

/-! # Policies read from JSON

Reading the members of an object one after the other finds for each field the one member of its
name, if there is one, and fails if there are several or if its value does not fit
(`Policy.readMembers_iff`).  So neither the order of the members nor those of other names matter: a
policy is read back from its own text, in any order of the fields and with anything added
(`Policy.json_round_trip`).  An object that lacks a field, or whose field holds another name or
another number, is not read as any policy (`Policy.Unfit`). -/

namespace PacketAuth

namespace Json
variable {α : Type} {read : Json → Except Mismatch α} {name : String}
  {members members' : List (String × Json)} {m : String × Json} {j : Json} {o : Option α}

/-! ### The values of a field -/

/-- A text stands for a choice if it is its exact name. -/
theorem choice_string_iff {name : α → String} (hi : Function.Injective name) {all : List α}
    {s : String} {a : α} (ha : a ∈ all) :
    (string s).choice (all.map fun a => (name a, a)) = .ok a ↔ s = name a := by
  have hs : (string s).choice (all.map fun a => (name a, a)) =
    choiceOfName (all.map fun a => (name a, a)) s := rfl
  rw [hs]
  rcases choiceOfName_cases name all s with ⟨b, -, rfl, hb⟩ | ⟨hne, he⟩
  · rw [hb, Except.ok.injEq, hi.eq_iff]
  · rw [he]
    simp [hne a ha]

theorem choice_hash_iff {s : String} {h : Hash} :
    (string s).choice Hash.choices = .ok h ↔ s = h.name :=
  choice_string_iff Hash.name_injective (by cases h <;> decide)

theorem choice_mode_iff {s : String} {m : Mode} :
    (string s).choice Mode.choices = .ok m ↔ s = m.name :=
  choice_string_iff Mode.name_injective (by cases m <;> decide)

theorem word_integer_iff {n : Int} {w : UInt32} :
    (number (.integer n)).word = .ok w ↔ (w.toNat : Int) = n := by
  rw [← Decimal.word?_eq_some_iff]
  cases h : Decimal.word? n <;> simp [word, h]

/-- A word is read from the integer that it is, and from nothing else. -/
theorem word_eq_ok_iff {w : UInt32} : j.word = .ok w ↔ j = .number (.integer w.toNat) := by
  cases j with
  | number x =>
      cases x with
      | integer n =>
          rw [word_integer_iff, eq_comm]
          simp
      | float _ _ => simp [word]
  | null | boolean _ | string _ | array _ | object _ => simp [word]

/-! ### The members of one name -/

/-- What the members of an object provide for a field: nothing if none of them has its name, and the
value that is read from the member of its name if there is just one. -/
inductive Provides (read : Json → Except Mismatch α) (name : String)
    (members : List (String × Json)) : Option α → Prop
  | nothing : members.filter (fun m => m.1 = name) = [] → Provides read name members none
  | value {j : Json} {a : α} : members.filter (fun m => m.1 = name) = [(name, j)] →
      read j = .ok a → Provides read name members (some a)

theorem Provides.congr (h : members.filter (fun m => m.1 = name) =
    members'.filter (fun m => m.1 = name)) :
    Provides read name members o ↔ Provides read name members' o := by
  constructor
  · intro hp
    cases hp with
    | nothing hf => exact .nothing (h.symm.trans hf)
    | value hf hr => exact .value (h.symm.trans hf) hr
  · intro hp
    cases hp with
    | nothing hf => exact .nothing (h.trans hf)
    | value hf hr => exact .value (h.trans hf) hr

/-- The order of the members does not matter, as there is at most one of the name. -/
theorem Provides.perm (h : Provides read name members o) (hp : members'.Perm members) :
    Provides read name members' o := by
  have hf := hp.filter fun m => m.1 = name
  cases h with
  | nothing h =>
      rw [h] at hf
      exact .nothing hf.eq_nil
  | value h hr =>
      rw [h] at hf
      exact .value (List.perm_singleton.mp hf) hr

theorem provides_nil : Provides read name [] o ↔ o = none := by
  constructor
  · intro h
    cases h with
    | nothing _ => rfl
    | value h _ => cases h
  · rintro rfl
    exact .nothing rfl

/-- A member of another name changes nothing. -/
theorem provides_other (h : m.1 ≠ name) :
    Provides read name (members ++ [m]) o ↔ Provides read name members o := by
  apply Provides.congr
  simp [h]

/-- A member of the name has to be the first one. -/
theorem provides_snoc : Provides read name (members ++ [(name, j)]) o ↔
    Provides read name members none ∧ ∃ a, read j = .ok a ∧ o = some a := by
  have hf : (members ++ [(name, j)]).filter (fun m => m.1 = name) =
      members.filter (fun m => m.1 = name) ++ [(name, j)] := by simp
  constructor
  · intro h
    cases h with
    | nothing h =>
        rw [hf] at h
        simp at h
    | @value j' a h hr =>
        have he : members.filter (fun m => m.1 = name) ++ [(name, j)] = [] ++ [(name, j')] :=
          hf.symm.trans h
        obtain ⟨hnone, hlast⟩ := List.append_inj' he rfl
        cases hlast
        exact ⟨.nothing hnone, a, hr, rfl⟩
  · rintro ⟨hnone, a, hr, rfl⟩
    cases hnone with
    | nothing h =>
        refine .value ?_ hr
        rw [hf, h]
        rfl

/-- A member of the name provides the value, whatever else there is. -/
theorem Provides.of_mem {a : α} (h : Provides read name members (some a))
    (hm : (name, j) ∈ members) : read j = .ok a := by
  cases h with
  | @value j' _ hf hr =>
      have hj : (name, j) ∈ members.filter fun m => m.1 = name :=
        List.mem_filter.mpr ⟨hm, by simp⟩
      rw [hf, List.mem_singleton] at hj
      cases hj
      exact hr

/-- A value comes from a member. -/
theorem Provides.exists_mem {a : α} (h : Provides read name members (some a)) :
    ∃ j, (name, j) ∈ members ∧ read j = .ok a := by
  cases h with
  | @value j _ hf hr =>
      have hj : (name, j) ∈ members.filter fun m => m.1 = name := by
        rw [hf]
        exact List.mem_singleton_self _
      exact ⟨j, (List.mem_filter.mp hj).1, hr⟩

end Json

namespace Policy

open Json (Provides)

variable {o o' : Overlay} {p : Policy} {m : String × Json} {j : Json}
  {members extra : List (String × Json)}

/-! ### All members -/

/-- The fields are those that the members provide. -/
structure ReadFrom (members : List (String × Json)) (o : Overlay) : Prop where
  hash : Provides (Json.choice Hash.choices) "hash" members o.hash
  minKeyBits : Provides Json.word "min_key_bits" members o.minKeyBits
  mode : Provides (Json.choice Mode.choices) "mode" members o.mode

theorem ReadFrom.perm {members' : List (String × Json)} (h : ReadFrom members o)
    (hp : members'.Perm members) : ReadFrom members' o :=
  ⟨h.hash.perm hp, h.minKeyBits.perm hp, h.mode.perm hp⟩

theorem readFrom_iff : ReadFrom members o ↔
    Provides (Json.choice Hash.choices) "hash" members o.hash ∧
      Provides Json.word "min_key_bits" members o.minKeyBits ∧
      Provides (Json.choice Mode.choices) "mode" members o.mode :=
  ⟨fun ⟨hhash, hbits, hmode⟩ => ⟨hhash, hbits, hmode⟩,
    fun ⟨hhash, hbits, hmode⟩ => ⟨hhash, hbits, hmode⟩⟩

/-- A field is set once, to what its value is read as. -/
theorem setOnce_eq_ok_iff {α : Type} {before : Option α} {name : String}
    {x : Except Mismatch α} {put : α → Overlay} :
    (if before.isSome then .error (.repeated name) else return put (← x)) = Except.ok o' ↔
      before = none ∧ ∃ a, x = .ok a ∧ put a = o' := by
  cases before with
  | some a => simp
  | none =>
      have hmap : put <$> x = .ok o' ↔ ∃ a, x = .ok a ∧ put a = o' := Except.map_eq_ok_iff
      simpa using hmap

section
variable (o o' j)

theorem readMember_hash_iff : readMember o ("hash", j) = .ok o' ↔
    o = { o' with hash := none } ∧ ∃ h, j.choice Hash.choices = .ok h ∧ o'.hash = some h := by
  have honce : readMember o ("hash", j) = .ok o' ↔ o.hash = none ∧
      ∃ h, j.choice Hash.choices = .ok h ∧ { o with hash := some h } = o' := setOnce_eq_ok_iff
  rw [honce]
  constructor
  · rintro ⟨hnone, h, hj, rfl⟩
    exact ⟨by rw [← hnone], h, hj, rfl⟩
  · rintro ⟨rfl, h, hj, hh⟩
    exact ⟨rfl, h, hj, by rw [← hh]⟩

theorem readMember_minKeyBits_iff : readMember o ("min_key_bits", j) = .ok o' ↔
    o = { o' with minKeyBits := none } ∧ ∃ w, j.word = .ok w ∧ o'.minKeyBits = some w := by
  have honce : readMember o ("min_key_bits", j) = .ok o' ↔ o.minKeyBits = none ∧
      ∃ w, j.word = .ok w ∧ { o with minKeyBits := some w } = o' := setOnce_eq_ok_iff
  rw [honce]
  constructor
  · rintro ⟨hnone, w, hj, rfl⟩
    exact ⟨by rw [← hnone], w, hj, rfl⟩
  · rintro ⟨rfl, w, hj, hw⟩
    exact ⟨rfl, w, hj, by rw [← hw]⟩

theorem readMember_mode_iff : readMember o ("mode", j) = .ok o' ↔
    o = { o' with mode := none } ∧ ∃ m, j.choice Mode.choices = .ok m ∧ o'.mode = some m := by
  have honce : readMember o ("mode", j) = .ok o' ↔ o.mode = none ∧
      ∃ m, j.choice Mode.choices = .ok m ∧ { o with mode := some m } = o' := setOnce_eq_ok_iff
  rw [honce]
  constructor
  · rintro ⟨hnone, m, hj, rfl⟩
    exact ⟨by rw [← hnone], m, hj, rfl⟩
  · rintro ⟨rfl, m, hj, hm⟩
    exact ⟨rfl, m, hj, by rw [← hm]⟩

end

/-- The names of the fields. -/
def fieldNames : List String := ["hash", "min_key_bits", "mode"]

/-- A member of another name is passed over. -/
theorem readMember_other (h : m.1 ∉ fieldNames) : readMember o m = .ok o := by
  obtain ⟨name, j⟩ := m
  simp only [fieldNames, List.mem_cons, List.not_mem_nil, or_false, not_or] at h
  obtain ⟨hhash, hbits, hmode⟩ := h
  unfold readMember
  split
  · next he => exact absurd (congrArg Prod.fst he) hhash
  · next he => exact absurd (congrArg Prod.fst he) hbits
  · next he => exact absurd (congrArg Prod.fst he) hmode
  · rfl

/-- One more member is read over what the members before it are read as. -/
theorem readFrom_snoc : ReadFrom (members ++ [m]) o' ↔
    ∃ o, ReadFrom members o ∧ readMember o m = .ok o' := by
  obtain ⟨name, j⟩ := m
  by_cases hname : name ∈ fieldNames
  · simp only [fieldNames, List.mem_cons, List.not_mem_nil, or_false] at hname
    rcases hname with rfl | rfl | rfl
    · simp [readFrom_iff, Json.provides_snoc, Json.provides_other, readMember_hash_iff,
        and_assoc, and_comm, and_left_comm]
    · simp [readFrom_iff, Json.provides_snoc, Json.provides_other, readMember_minKeyBits_iff,
        and_assoc, and_comm, and_left_comm]
    · simp [readFrom_iff, Json.provides_snoc, Json.provides_other, readMember_mode_iff,
        and_assoc]
  · have hskip : ∀ o, readMember o (name, j) = .ok o' ↔ o = o' := by
      intro o
      rw [readMember_other hname, Except.ok.injEq]
    simp only [fieldNames, List.mem_cons, List.not_mem_nil, or_false, not_or] at hname
    simp [readFrom_iff, Json.provides_other, hskip, hname]

/-- Reading all members gives the overlay that they provide, if they provide one. -/
theorem readMembers_iff (members : List (String × Json)) :
    members.foldlM readMember {} = .ok o ↔ ReadFrom members o := by
  -- the members are read from the first on, so that the last one is the one to take off
  induction members using List.reverseRecOn generalizing o with
  | nil =>
      have hnil : List.foldlM readMember {} [] = .ok {} := rfl
      obtain ⟨hash, bits, mode⟩ := o
      rw [hnil]
      simp [readFrom_iff, Json.provides_nil, eq_comm]
  | append_singleton members m ih =>
      rw [List.foldlM_append, Except.bind_eq_ok_iff, readFrom_snoc]
      simp [ih]

/-- All fields of a policy. -/
def whole (p : Policy) : Overlay := ⟨some p.hash, some p.minKeyBits, some p.mode⟩

theorem complete_eq_ok_iff : complete o = .ok p ↔ o = p.whole := by
  obtain ⟨hash, bits, mode⟩ := o
  obtain ⟨h, b, m⟩ := p
  cases hash <;> cases bits <;> cases mode <;> simp [complete, whole]

/-- An object is read as the policy whose fields its members provide. -/
theorem ofJson_object_iff : ofJson (.object members) = .ok p ↔ ReadFrom members p.whole := by
  have hread : ofJson (.object members) = members.foldlM readMember {} >>= complete := rfl
  rw [hread, Except.bind_eq_ok_iff]
  simp [readMembers_iff, complete_eq_ok_iff]

/-! ### Written policies -/

/-- The members of a policy as it is written. -/
def fields (p : Policy) : List (String × Json) :=
  [("hash", .string p.hash.name), ("min_key_bits", .number (.integer p.minKeyBits.toNat)),
    ("mode", .string p.mode.name)]

/-- Members of other names may be added to a written policy. -/
theorem readFrom_fields (p : Policy) (hx : ∀ m ∈ extra, m.1 ∉ fieldNames) :
    ReadFrom (p.fields ++ extra) p.whole := by
  have hextra : ∀ name ∈ fieldNames, extra.filter (fun m => m.1 = name) = [] := by
    intro name hname
    rw [List.filter_eq_nil_iff]
    intro m hm he
    exact hx m hm (of_decide_eq_true he ▸ hname)
  constructor
  · refine .value ?_ (Json.choice_hash_iff.mpr rfl)
    rw [List.filter_append, hextra _ (by decide)]
    rfl
  · refine .value ?_ (Json.word_eq_ok_iff.mpr rfl)
    rw [List.filter_append, hextra _ (by decide)]
    rfl
  · refine .value ?_ (Json.choice_mode_iff.mpr rfl)
    rw [List.filter_append, hextra _ (by decide)]
    rfl

theorem exact_toJson (p : Policy) : Json.Exact 128 p.toJson := by
  have hp := p.minKeyBits.toNat_lt
  refine .object ?_
  simp only [List.forall_mem_cons, List.not_mem_nil, false_implies, implies_true, and_true]
  exact ⟨.string _ _, .integer _ ⟨by omega, by omega⟩, .string _ _⟩

/-- A policy is read from the text that it is written as. -/
theorem parse_jsonText (p : Policy) : Json.parse p.jsonText = some p.toJson := by
  have h := Json.parse_compact p.exact_toJson (t := "") Json.blanks_nil
  rwa [String.append_empty] at h

theorem ofJson_three (a b c : Json) : ofJson (.array [a, b, c]) = (do
    let h ← a.choice Hash.choices
    let w ← b.word
    let m ← c.choice Mode.choices
    return ⟨h, w, m⟩) := rfl

/-- The values of the fields may stand by themselves, in their order. -/
theorem ofJson_array (p : Policy) :
    ofJson (.array [.string p.hash.name, .number (.integer p.minKeyBits.toNat),
      .string p.mode.name]) = .ok p := by
  rw [ofJson_three, Json.choice_hash_iff.mpr rfl, Except.ok_bind, Json.word_eq_ok_iff.mpr rfl,
    Except.ok_bind, Json.choice_mode_iff.mpr rfl]
  rfl

/-! ### Objects that are no policies -/

/-- The members of an object lack a field, or provide what the field cannot hold: a text that is
none of its names, or a number that is no integer of 32 bits. -/
inductive Unfit (members : List (String × Json)) : Prop
  | missing {name : String} : name ∈ fieldNames → name ∉ members.map Prod.fst → Unfit members
  | hash {s : String} : ("hash", .string s) ∈ members →
      s ∉ ["sha256", "sha384", "sha512"] → Unfit members
  | mode {s : String} : ("mode", .string s) ∈ members →
      s ∉ ["counter", "payload-bound"] → Unfit members
  | minKeyBits {x : Json.Number} : ("min_key_bits", .number x) ∈ members →
      (∀ n : Int, 0 ≤ n → n < 0x100000000 → x ≠ .integer n) → Unfit members

theorem mem_fst_of_readFrom (h : ReadFrom members p.whole) {name : String}
    (hname : name ∈ fieldNames) : name ∈ members.map Prod.fst := by
  have hmem : ∀ j, (name, j) ∈ members → name ∈ members.map Prod.fst :=
    fun j hj => List.mem_map.mpr ⟨_, hj, rfl⟩
  simp only [fieldNames, List.mem_cons, List.not_mem_nil, or_false] at hname
  rcases hname with rfl | rfl | rfl
  · obtain ⟨j, hj, -⟩ := h.hash.exists_mem
    exact hmem j hj
  · obtain ⟨j, hj, -⟩ := h.minKeyBits.exists_mem
    exact hmem j hj
  · obtain ⟨j, hj, -⟩ := h.mode.exists_mem
    exact hmem j hj

theorem Unfit.not_readFrom (h : Unfit members) : ¬ ReadFrom members p.whole := by
  intro hr
  cases h with
  | missing hname hnot => exact hnot (mem_fst_of_readFrom hr hname)
  | hash hm hs =>
      rw [Json.choice_hash_iff.mp (hr.hash.of_mem hm)] at hs
      cases h : p.hash <;> simp [h, Hash.name] at hs
  | mode hm hs =>
      rw [Json.choice_mode_iff.mp (hr.mode.of_mem hm)] at hs
      cases h : p.mode <;> simp [h, Mode.name] at hs
  | minKeyBits hm hx =>
      have hp := p.minKeyBits.toNat_lt
      cases Json.word_eq_ok_iff.mp (hr.minKeyBits.of_mem hm)
      exact hx p.minKeyBits.toNat (by omega) (by omega) rfl

theorem Unfit.exists_error (h : Unfit members) : ∃ e, ofJson (.object members) = .error e := by
  cases hr : ofJson (.object members) with
  | error e => exact ⟨e, rfl⟩
  | ok p => exact absurd (ofJson_object_iff.mp hr) h.not_readFrom

/-- **Policies survive JSON, and nothing else passes for one.**  A policy, valid or not, is read
back from the text that it is written as, from its members in any order and with members of other
names among them, whatever these hold, and from the array of its values.  The least length that is
read is the integer that stands in the object.  An object is refused that lacks a field, has a text
for a choice that is not one of its names as they are written, or a number that is no integer of 32
bits. -/
theorem json_round_trip :
    (∀ p : Policy, p.toJson = .object p.fields ∧ Json.parse p.jsonText = some p.toJson ∧
      ofJson p.toJson = .ok p ∧
      (∀ extra, (∀ m ∈ extra, m.1 ∉ fieldNames) → ∀ members, members.Perm (p.fields ++ extra) →
        ofJson (.object members) = .ok p) ∧
      ofJson (.array [.string p.hash.name, .number (.integer p.minKeyBits.toNat),
        .string p.mode.name]) = .ok p) ∧
    (∀ (members : List (String × Json)) (p : Policy), ofJson (.object members) = .ok p →
      ("min_key_bits", .number (.integer p.minKeyBits.toNat)) ∈ members) ∧
    ∀ members : List (String × Json), Unfit members →
      ∃ e, ofJson (.object members) = .error e := by
  refine ⟨fun p => ⟨rfl, p.parse_jsonText, ?_, ?_, p.ofJson_array⟩, ?_,
    fun _ => Unfit.exists_error⟩
  · have h : ReadFrom (p.fields ++ []) p.whole := p.readFrom_fields (List.forall_mem_nil _)
    exact ofJson_object_iff.mpr h
  · intro extra hx members hperm
    exact ofJson_object_iff.mpr ((p.readFrom_fields hx).perm hperm)
  · intro members p h
    obtain ⟨j, hm, hj⟩ := (ofJson_object_iff.mp h).minKeyBits.exists_mem
    rwa [Json.word_eq_ok_iff.mp hj] at hm

/-- A policy that is not valid is read backwards and with notes added.  One more than the largest
word, a half, a name in capitals and a missing mode are refused. -/
theorem json_round_trip_backwards :
    (∀ m ∈ [("note", Json.null), ("note", .array [.boolean true])], m.1 ∉ fieldNames) ∧
    ofJson (.object [("note", .array [.boolean true]), ("note", .null),
      ("mode", .string "payload-bound"), ("min_key_bits", .number (.integer 129)),
      ("hash", .string "sha512")]) = .ok ⟨.sha512, 129, .payloadBound⟩ ∧
    (∃ n : Int, n = 129 ∧ ("min_key_bits", Json.number (.integer n)) ∈
      [("note", .array [.boolean true]), ("note", .null), ("mode", .string "payload-bound"),
        ("min_key_bits", .number (.integer 129)), ("hash", .string "sha512")]) ∧
    (∃ e, ofJson (.object [("hash", .string "sha256"),
      ("min_key_bits", .number (.integer 4294967296)), ("mode", .string "counter")]) =
        .error e) ∧
    (∃ e, ofJson (.object [("hash", .string "sha256"),
      ("min_key_bits", .number (.float false ⟨257, -1⟩)), ("mode", .string "counter")]) =
        .error e) ∧
    (∃ e, ofJson (.object [("hash", .string "SHA256"), ("min_key_bits", .number (.integer 128)),
      ("mode", .string "counter")]) = .error e) ∧
    ∃ e, ofJson (.object [("hash", .string "sha256"), ("min_key_bits", .number (.integer 128))]) =
      .error e := by
  obtain ⟨hpolicy, hbits, hunfit⟩ := json_round_trip
  have hnotes : ∀ m ∈ [("note", Json.null), ("note", .array [.boolean true])],
      m.1 ∉ fieldNames := by simp [fieldNames]
  obtain ⟨-, -, -, horder, -⟩ := hpolicy ⟨.sha512, 129, .payloadBound⟩
  have hread := horder _ hnotes _ (List.reverse_perm _)
  refine ⟨hnotes, hread, ⟨_, rfl, hbits _ _ hread⟩, hunfit _ (.minKeyBits (.tail _ (.head _)) ?_),
    hunfit _ (.minKeyBits (.tail _ (.head _)) ?_), hunfit _ (.hash (.head _) (by decide)),
    hunfit _ (.missing (by decide : "mode" ∈ fieldNames) (by simp))⟩
  · rintro n - hn he
    cases he
    omega
  · rintro n - - he
    cases he

end Policy
end PacketAuth
