import PacketAuth.Proofs.DecodedText
import PacketAuth.Proofs.Runs

/-! # Where the policy comes from

Each field of the effective policy has three sources: the option, the configuration file, and the
standard policy, the first that sets the field being the one that counts (`Policy.Overlay.resolve`).
A file that exists either sets some fields (`Config.Sets`) or is of no use (`Config.Broken`), and
one that is of no use is never passed over: the options make no difference to it.  Only what the
three sources add up to has to be a valid policy, and not what any of them says
(`policy_resolution`). -/

namespace PacketAuth

/-! ### The configuration file -/

namespace Config

/-- `Sets file fields`: the fields are those that the file sets.  A file that does not exist sets
none, and any other is the text of a TOML document that fits. -/
inductive Sets : ConfigFile → Policy.Overlay → Prop
  | absent : Sets .absent {}
  | document {text : String} {document : Toml.Table} {fields : Policy.Overlay} :
      Toml.parse text = some document → ofTable document = .ok fields →
      Sets (.contents (Utf8.encode text)) fields

/-- `Broken file fault`: the file exists, and nothing can be read from it. -/
inductive Broken : ConfigFile → Fault → Prop
  | directory : Broken .directory .directory
  | unreadable {reason : String} {code : Nat} :
      Broken (.unreadable reason code) (.unreadable reason code)
  | notUtf8 {bytes : Bytes} : (∀ text, Utf8.encode text ≠ bytes) →
      Broken (.contents bytes) .notUtf8
  | notToml {text : String} : Toml.parse text = none →
      Broken (.contents (Utf8.encode text)) .notToml
  | value {text : String} {document : Toml.Table} {m : Mismatch} :
      Toml.parse text = some document → ofTable document = .error m →
      Broken (.contents (Utf8.encode text)) (.value m)

variable {file : ConfigFile} {fields : Policy.Overlay} {fault : Fault}

theorem read_text (text : String) :
    read (.contents (Utf8.encode text)) = (parse text).map some := by
  have hd : Utf8.decode? (Utf8.encode text) = some text := Utf8.decode?_eq_some_iff.mpr rfl
  simp only [read, hd]

theorem read_of_sets (h : Sets file fields) :
    ∃ found, read file = .ok found ∧ found.getD {} = fields := by
  cases h with
  | absent => exact ⟨none, rfl, rfl⟩
  | @document text document _ hd hf =>
      have hp : parse text = .ok fields := by
        unfold parse
        rw [hd]
        exact Except.mapError_eq_ok_iff.mpr hf
      refine ⟨some fields, ?_, rfl⟩
      rw [read_text, hp]
      rfl

theorem read_of_broken (h : Broken file fault) : read file = .error fault := by
  cases h with
  | directory => rfl
  | unreadable => rfl
  | notUtf8 hb =>
      have hd := Utf8.decode?_eq_none_iff.mpr hb
      simp only [read, hd]
  | @notToml text hd =>
      have hp : parse text = .error .notToml := by
        unfold parse
        rw [hd]
      rw [read_text, hp]
      rfl
  | @value text document m hd hm =>
      have hp : parse text = .error (.value m) := by
        unfold parse
        rw [hd]
        show (ofTable document).mapError Fault.value = _
        rw [hm]
        rfl
      rw [read_text, hp]
      rfl

/-- There is nothing between setting fields and being of no use. -/
theorem broken_or_sets (file : ConfigFile) :
    (∃ fault, Broken file fault) ∨ ∃ fields, Sets file fields := by
  cases file with
  | absent => exact Or.inr ⟨_, .absent⟩
  | directory => exact Or.inl ⟨_, .directory⟩
  | unreadable reason code => exact Or.inl ⟨_, .unreadable⟩
  | contents bytes =>
      by_cases hb : ∀ text, Utf8.encode text ≠ bytes
      · exact Or.inl ⟨_, .notUtf8 hb⟩
      push Not at hb
      obtain ⟨text, rfl⟩ := hb
      cases hd : Toml.parse text with
      | none => exact Or.inl ⟨_, .notToml hd⟩
      | some document =>
          cases hf : ofTable document with
          | error m => exact Or.inl ⟨_, .value hd hf⟩
          | ok fields => exact Or.inr ⟨_, .document hd hf⟩

end Config

/-! ### The effective policy -/

namespace Policy

/-- Each field by itself: the option, else what the file sets, else the standard. -/
def Overlay.resolve (flags fields : Overlay) : Policy where
  hash := (flags.hash.or fields.hash).getD .sha256
  minKeyBits := (flags.minKeyBits.or fields.minKeyBits).getD 128
  mode := (flags.mode.or fields.mode).getD .counter

theorem getD_getD {α : Type} (a b : Option α) (c : α) : a.getD (b.getD c) = (a.or b).getD c := by
  cases a <;> rfl

theorem Overlay.over_over_standard (flags fields : Overlay) :
    flags.over (fields.over .standard) = flags.resolve fields := by
  unfold Overlay.over Overlay.resolve
  rw [getD_getD, getD_getD, getD_getD]
  rfl

theorem Overlay.resolve_minKeyBits {flags : Overlay} {bits : UInt32}
    (h : flags.minKeyBits = some bits) (fields : Overlay) :
    (flags.resolve fields).minKeyBits = bits := by
  unfold resolve
  rw [h]
  rfl

/-- What is said of a least key length that no policy may have. -/
def complaint (bits : UInt32) : String :=
  "min_key_bits " ++ toString bits.toNat ++
    if bits.toNat < 128 then " is below the 128-bit floor" else " is not a multiple of 8"

theorem complaint_of_validate {p : Policy} {fault : Fault} (h : p.validate = .error fault) :
    fault.message = complaint p.minKeyBits := by
  unfold complaint
  unfold validate floorBits at h
  split_ifs at h with hlow hpart
  · obtain rfl := Except.error.inj h
    have hfloor : " is below the " ++ toString 128 ++ "-bit floor" =
        " is below the 128-bit floor" := by decide
    rw [if_pos hlow, ← hfloor, ← String.append_assoc, ← String.append_assoc]
    rfl
  · obtain rfl := Except.error.inj h
    rw [if_neg hlow]
    rfl

end Policy

/-! ### The signer -/

namespace Program
variable {path : String} {file : ConfigFile} {flags fields : Policy.Overlay}
  {fault : Config.Fault}

theorem effectivePolicy_of_broken (h : Config.Broken file fault) :
    effectivePolicy (some path) file flags = .error (.config path fault) := by
  unfold effectivePolicy
  rw [Config.read_of_broken h]

theorem effectivePolicy_of_sets (h : Config.Sets file fields) :
    effectivePolicy (some path) file flags = .ok (flags.resolve fields) := by
  obtain ⟨found, hr, hf⟩ := Config.read_of_sets h
  have ho := Policy.Overlay.over_over_standard flags fields
  rw [← hf] at ho ⊢
  unfold effectivePolicy
  rw [hr, ← ho]

theorem signer_of_broken (h : Config.Broken file fault) :
    signer (some path) file flags = .error (.config path fault) := by
  unfold signer
  rw [effectivePolicy_of_broken h]
  rfl

/-- There is a signer of a valid effective policy, and of no other. -/
theorem exists_signer_iff (h : Config.Sets file fields) :
    (∃ s, signer (some path) file flags = .ok s ∧ s.policy = flags.resolve fields) ↔
      (flags.resolve fields).Valid := by
  have he : effectivePolicy (some path) file flags = _ := effectivePolicy_of_sets h
  constructor
  · rintro ⟨s, -, hp⟩
    rw [← hp]
    exact s.valid
  · intro hv
    exact ⟨⟨_, hv⟩, signer_eq_ok_iff.mpr he, rfl⟩

/-- The failure over an effective policy that is not valid. -/
def refusal (p : Policy) : Failure := .effectivePolicy (.policy (Policy.complaint p.minKeyBits))

theorem signer_of_sets_invalid (h : Config.Sets file fields)
    (hv : ¬ (flags.resolve fields).Valid) :
    signer (some path) file flags = .error (refusal (flags.resolve fields)) := by
  have he : effectivePolicy (some path) file flags = _ := effectivePolicy_of_sets h
  obtain ⟨why, hf, hs⟩ := signer_of_invalid he hv
  rw [hs]
  unfold refusal SigningError.ofPolicy
  rw [Policy.complaint_of_validate hf]

end Program

/-- **Field by field, and never past a broken file.**  A file of which nothing can be read is a
failure whatever the options are, and without a place for the file there is one too.  Otherwise the
three sources are put together field by field, and there is a signer of just that policy if its
least key length is valid, and else a failure that names it.  So a valid option makes up for a bad
value in the file, and a bad option fails with any file. -/
theorem policy_resolution (path : String) (file : ConfigFile) (flags : Policy.Overlay) :
    (∀ fault, Config.Broken file fault →
      Program.signer (some path) file flags = .error (.config path fault)) ∧
    (∀ fields, Config.Sets file fields →
      let p := flags.resolve fields
      ((∃ s, Program.signer (some path) file flags = .ok s ∧ s.policy = p) ↔
        128 ≤ p.minKeyBits.toNat ∧ 8 ∣ p.minKeyBits.toNat) ∧
      (¬ (128 ≤ p.minKeyBits.toNat ∧ 8 ∣ p.minKeyBits.toNat) → ∃ f,
        Program.signer (some path) file flags = .error f ∧
        f.signing? = some (.policy (Policy.complaint p.minKeyBits)) ∧
        f.message = "signing policy: invalid signing policy: " ++
          Policy.complaint p.minKeyBits)) ∧
    ((∃ fault, Config.Broken file fault) ∨ ∃ fields, Config.Sets file fields) ∧
    (∀ bits, flags.minKeyBits = some bits → 128 ≤ bits.toNat → 8 ∣ bits.toNat →
      ∀ fields, Config.Sets file fields → ∃ s, Program.signer (some path) file flags = .ok s) ∧
    (∀ bits, flags.minKeyBits = some bits → ¬ (128 ≤ bits.toNat ∧ 8 ∣ bits.toNat) →
      ∃ f, Program.signer (some path) file flags = .error f) ∧
    Program.signer none file flags = .error .noHome := by
  refine ⟨fun _ => Program.signer_of_broken, ?_, Config.broken_or_sets file, ?_, ?_, rfl⟩
  · intro fields hs
    refine ⟨Program.exists_signer_iff hs, fun hv => ?_⟩
    refine ⟨_, Program.signer_of_sets_invalid hs hv, rfl, ?_⟩
    show "signing policy: " ++ ("invalid signing policy: " ++ _) = _
    rw [← String.append_assoc]
    rfl
  · intro bits hb h128 h8 fields hs
    have hv : (flags.resolve fields).Valid := by
      unfold Policy.Valid
      rw [Policy.Overlay.resolve_minKeyBits hb]
      exact ⟨h128, h8⟩
    obtain ⟨s, hs, -⟩ := (Program.exists_signer_iff hs).mpr hv
    exact ⟨s, hs⟩
  · intro bits hb hbad
    rcases Config.broken_or_sets file with ⟨fault, h⟩ | ⟨fields, h⟩
    · exact ⟨_, Program.signer_of_broken h⟩
    · have hv : ¬ (flags.resolve fields).Valid := by
        unfold Policy.Valid
        rw [Policy.Overlay.resolve_minKeyBits hb]
        exact hbad
      exact ⟨_, Program.signer_of_sets_invalid h hv⟩

/-- A file that asks for 64 bits: refused as it is, in order under an option of 256 bits, and of no
help to an option of 100.  The byte FF is no text, so the option of 256 bits does not save a file
that holds it. -/
theorem policy_resolution_low_bits :
    Config.Sets (.contents (Utf8.encode "[policy]\nmin_key_bits = 64\n"))
      { minKeyBits := some 64 } ∧
    Config.Broken (.contents [0xFF]) .notUtf8 ∧
    (∃ f, Program.signer (some "c") (.contents (Utf8.encode "[policy]\nmin_key_bits = 64\n")) {} =
        .error f ∧
      f.message =
        "signing policy: invalid signing policy: min_key_bits 64 is below the 128-bit floor") ∧
    (∃ s, Program.signer (some "c") (.contents (Utf8.encode "[policy]\nmin_key_bits = 64\n"))
      { minKeyBits := some 256 } = .ok s) ∧
    (∃ f, Program.signer (some "c") (.contents (Utf8.encode "[policy]\nmin_key_bits = 64\n"))
      { minKeyBits := some 100 } = .error f) ∧
    Program.signer (some "c") (.contents [0xFF]) { minKeyBits := some 256 } =
      .error (.config "c" .notUtf8) := by
  have hsets : Config.Sets (.contents (Utf8.encode "[policy]\nmin_key_bits = 64\n"))
      { minKeyBits := some 64 } := by
    have hdoc : Toml.parse "[policy]\nmin_key_bits = 64\n" =
        some [("policy", .table .header [("min_key_bits", .integer 64)])] := by rfl
    exact .document hdoc (by decide)
  have hbroken : Config.Broken (.contents [0xFF]) .notUtf8 :=
    .notUtf8 (Utf8.decode?_eq_none_iff.mp (by decide))
  obtain ⟨-, hfields, -⟩ :=
    policy_resolution "c" (.contents (Utf8.encode "[policy]\nmin_key_bits = 64\n")) {}
  obtain ⟨-, -, -, hgood, -⟩ :=
    policy_resolution "c" (.contents (Utf8.encode "[policy]\nmin_key_bits = 64\n"))
      { minKeyBits := some 256 }
  obtain ⟨-, -, -, -, hbad, -⟩ :=
    policy_resolution "c" (.contents (Utf8.encode "[policy]\nmin_key_bits = 64\n"))
      { minKeyBits := some 100 }
  obtain ⟨hclosed, -⟩ := policy_resolution "c" (.contents [0xFF]) { minKeyBits := some 256 }
  obtain ⟨f, hf, -, hm⟩ := (hfields _ hsets).2 (by decide)
  exact ⟨hsets, hbroken, ⟨f, hf, hm⟩, hgood 256 rfl (by decide) (by decide) _ hsets,
    hbad 100 rfl (by decide), hclosed _ hbroken⟩

end PacketAuth
