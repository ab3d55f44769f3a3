import PacketAuth.Proofs.ControlCharacters
import PacketAuth.Proofs.ExitStatus
import PacketAuth.Proofs.FaithfulReport
import PacketAuth.Proofs.PolicySection
import PacketAuth.Proofs.TextForms

/-! # The policy that is shown

What the command `policy` shows (`PolicyPage`) is what the other commands go by under the same file
and options.  The page is written line by line, with the text that may have any form ahead of the
rest, so the policy can be read off from its end (`Signer.eq_of_text_eq`); and signing and verifying
use that policy for the tag, for the report, and for the check of the key
(`printed_policy_enforced`). -/

namespace PacketAuth

/-! ### The page -/

/-- What is shown of a policy. -/
structure PolicyPage where
  /-- Where it comes from. -/
  source : String
  algorithm : String
  tagBytes : Nat
  minKeyBits : Nat
  mode : String

namespace PolicyPage

/-- The text of a page. -/
def text (p : PolicyPage) : String :=
  "--- Config ---\n" ++ "  config:        " ++ p.source ++ "\n" ++
  "\n--- Policy ---" ++ "\n" ++
  ("  algorithm:     " ++ p.algorithm) ++ "\n" ++
  ("  output bytes:  " ++ toString p.tagBytes) ++ "\n" ++
  ("  min key bits:  " ++ toString p.minKeyBits ++ " (floor 128)") ++ "\n" ++
  ("  mode:          " ++ p.mode) ++ "\n"

end PolicyPage

/-- The page on a signer. -/
def Signer.page (s : Signer) (path : Option String) (file : ConfigFile) : PolicyPage where
  source := Config.status path file
  algorithm := s.policy.hash.macName
  tagBytes := s.policy.hash.tagBytes
  minKeyBits := s.policy.minKeyBits.toNat
  mode := s.policy.mode.name

theorem Signer.overview_eq (s : Signer) (path : Option String) (file : ConfigFile) :
    s.overview path file = (s.page path file).text := by
  have hfloor : toString Policy.floorBits = "128" := by decide
  have hid : ∀ t : String, toString t = t := fun _ => rfl
  apply String.toList_injective
  unfold overview PolicyPage.text page
  simp only [String.toList_append, hfloor, hid, List.append_assoc]
  rfl

/-! ### Where the policy comes from -/

/-- The failures over the configuration file. -/
def Failure.OverFile (f : Failure) : Prop := f = .noHome ∨ ∃ path fault, f = .config path fault

namespace Config
variable {f : Failure}

/-- How the texts that name a source end. -/
def sourceEnds : List String := [" (loaded)", "<none> (built-in defaults)"]

/-- The end of a text about a source and the other text are not each other's end. -/
def EndsApart (e : String) : Prop :=
  ∀ b ∈ sourceEnds, ¬ b.toList <:+ e.toList ∧ ¬ e.toList <:+ b.toList

instance (e : String) : Decidable (EndsApart e) := inferInstanceAs (Decidable (∀ b ∈ _, _))

/-- No text about a source has a digit ahead of its closing parenthesis. -/
theorem endsApart_of_isDigit {c : Char} (hc : Decimal.IsDigit c) :
    EndsApart (String.ofList [c, ')']) := by
  have hlength : ∀ b ∈ sourceEnds, 2 < b.toList.length := by decide
  have hends : ∀ b ∈ sourceEnds,
      b.toList.drop (b.toList.length - 2) ∈ [['d', ')'], ['s', ')']] := by decide
  intro b hb
  rw [String.toList_ofList]
  constructor
  · intro h
    exact absurd h.length_le (Nat.not_le.mpr (hlength b hb))
  · intro h
    have he : [c, ')'] ∈ [['d', ')'], ['s', ')']] := by
      rw [List.suffix_iff_eq_drop.mp h]
      exact hends b hb
    rcases List.mem_pair.mp he with he | he
    · obtain rfl := (List.cons.inj he).1
      exact absurd hc (by decide)
    · obtain rfl := (List.cons.inj he).1
      exact absurd hc (by decide)

theorem exists_endsApart_number (n : Nat) : ∃ a e, toString n ++ ")" = a ++ e ∧ EndsApart e := by
  have hn : Nat.toDigits 10 n ≠ [] := Nat.toDigits_ne_nil
  have hc := Decimal.isDigit_of_mem_toDigits (List.getLast_mem hn)
  refine ⟨String.ofList (Nat.toDigits 10 n).dropLast, _, ?_, endsApart_of_isDigit hc⟩
  apply String.toList_injective
  calc (toString n ++ ")").toList = Nat.toDigits 10 n ++ [')'] := by
        rw [String.toList_append]
        exact congrArg (· ++ [')']) Nat.toList_repr
    _ = ((Nat.toDigits 10 n).dropLast ++ [(Nat.toDigits 10 n).getLast hn]) ++ [')'] := by
        rw [List.dropLast_concat_getLast hn]
    _ = _ := by
        rw [String.toList_append, String.toList_ofList, String.toList_ofList, List.append_assoc]
        rfl

/-- No text of a failure over the file ends as one about a source does. -/
theorem exists_endsApart (h : f.OverFile) : ∃ a e, f.message = a ++ e ∧ EndsApart e := by
  rcases h with rfl | ⟨path, fault, rfl⟩
  · exact ⟨"", "cannot resolve home dir", rfl, by decide⟩
  · cases fault with
    | unreadable reason code =>
        obtain ⟨a, e, he, ha⟩ := exists_endsApart_number code
        refine ⟨"read " ++ path ++ ": " ++ reason ++ " (os error " ++ a, e, ?_, ha⟩
        rw [String.append_assoc, ← he, ← String.append_assoc]
        rfl
    | notUtf8 => exact ⟨"read " ++ path, ": stream did not contain valid UTF-8", rfl, by decide⟩
    | notToml => exact ⟨"parse " ++ path, ": TOML parse error\n", rfl, by decide⟩
    | value m =>
        exact ⟨"parse " ++ path ++ ": TOML parse error\n" ++ m.message, "\n", rfl, by decide⟩

/-- A source is not taken for a failure, whatever the path of the file is. -/
theorem source_ne_error {a e : String} (he : e ∈ sourceEnds) (h : f.OverFile) :
    a ++ e ≠ "ERROR: " ++ f.message := by
  obtain ⟨c, d, hm, hd⟩ := exists_endsApart h
  rw [hm, ← String.append_assoc]
  exact Text.append_ne_append (hd e he).1 (hd e he).2

theorem exists_fields_of_read {bytes : Bytes} {found : Option Policy.Overlay}
    (h : read (.contents bytes) = .ok found) : ∃ fields, found = some fields := by
  simp only [read] at h
  cases hd : Utf8.decode? bytes with
  | none =>
      rw [hd] at h
      cases h
  | some text =>
      rw [hd] at h
      obtain ⟨fields, -, hf⟩ := Except.map_eq_ok_iff.mp h
      exact ⟨fields, hf.symm⟩

end Config

/-- If there is a signer, the file has been read, or there is none. -/
theorem Program.status_of_signer {path? : Option String} {file : ConfigFile}
    {flags : Policy.Overlay} {s : Signer} (hs : signer path? file flags = .ok s) :
    ∃ path, path? = some path ∧
      (file = .absent ∧ Config.status path? file = "<none> (built-in defaults)" ∨
        file ≠ .absent ∧ Config.status path? file = path ++ " (loaded)") := by
  rw [signer_eq_ok_iff] at hs
  cases path? with
  | none => cases hs
  | some path =>
      refine ⟨path, rfl, ?_⟩
      cases file with
      | absent => exact .inl ⟨rfl, rfl⟩
      | directory => cases hs
      | unreadable reason code => cases hs
      | contents bytes =>
          refine .inr ⟨nofun, ?_⟩
          unfold effectivePolicy at hs
          cases hr : Config.read (.contents bytes) with
          | error fault =>
              rw [hr] at hs
              cases hs
          | ok found =>
              obtain ⟨fields, rfl⟩ := Config.exists_fields_of_read hr
              unfold Config.status
              rw [hr]
              rfl

/-! ### Reading the policy off the page -/

namespace Text

theorem eq_nil_of_newline {a a' d : List Char} (h : a' ++ ['\n'] = a ++ d) (hd : '\n' ∉ d) :
    d = [] := by
  by_contra hne
  have hlast := congrArg List.getLast? h
  rw [List.getLast?_concat, List.getLast?_append_of_ne_nil _ hne] at hlast
  exact hd (List.mem_of_getLast? hlast.symm)

/-- A text is cut in one way ahead of its last line. -/
theorem last_line_inj {a a' b b' : String} (h : a ++ "\n" ++ b = a' ++ "\n" ++ b')
    (hb : ControlFree b) (hb' : ControlFree b') : a = a' ∧ b = b' := by
  have hbreak : IsControl '\n' := by decide
  have hl := congrArg String.toList h
  simp only [String.toList_append] at hl
  have hn : "\n".toList = ['\n'] := rfl
  rw [hn] at hl
  have hlast : b = b' := by
    apply String.toList_injective
    rcases List.append_eq_append_iff.mp hl with ⟨d, ha, hd⟩ | ⟨d, ha, hd⟩
    · have hnil := eq_nil_of_newline ha fun hm => hb _ (hd ▸ List.mem_append_left _ hm) hbreak
      rw [hd, hnil, List.nil_append]
    · have hnil := eq_nil_of_newline ha fun hm => hb' _ (hd ▸ List.mem_append_left _ hm) hbreak
      rw [hd, hnil, List.nil_append]
  rw [hlast, String.append_left_inj, String.append_left_inj] at h
  exact ⟨h, hlast⟩

theorem natural_inj {m n : Nat} (h : toString m = toString n) : m = n :=
  Int.ofNat_inj.mp (Decimal.toString_inj.mp (h : toString (m : Int) = toString (n : Int)))

end Text

open Text (ControlFree)

/-- Pages with one text agree in all but the source, where algorithm and mode are on one line. -/
theorem PolicyPage.text_inj {p q : PolicyPage} (h : p.text = q.text)
    (hp : ControlFree p.algorithm ∧ ControlFree p.mode)
    (hq : ControlFree q.algorithm ∧ ControlFree q.mode) :
    p.algorithm = q.algorithm ∧ p.tagBytes = q.tagBytes ∧ p.minKeyBits = q.minKeyBits ∧
      p.mode = q.mode := by
  have hline : ∀ {label value : String}, ControlFree label → ControlFree value →
      ControlFree (label ++ value) := fun hl hv => Text.controlFree_append.mpr ⟨hl, hv⟩
  have hbits : ∀ n : Nat, ControlFree ("  min key bits:  " ++ toString n ++ " (floor 128)") :=
    fun n => hline (hline (by decide) (Text.controlFree_natural n)) (by decide)
  have hbytes : ∀ n : Nat, ControlFree ("  output bytes:  " ++ toString n) :=
    fun n => hline (by decide) (Text.controlFree_natural n)
  -- from the last line up to the one on the algorithm
  unfold text at h
  rw [String.append_left_inj] at h
  obtain ⟨h, hm⟩ := Text.last_line_inj h (hline (by decide) hp.2) (hline (by decide) hq.2)
  obtain ⟨h, hk⟩ := Text.last_line_inj h (hbits _) (hbits _)
  obtain ⟨h, ht⟩ := Text.last_line_inj h (hbytes _) (hbytes _)
  obtain ⟨-, ha⟩ := Text.last_line_inj h (hline (by decide) hp.1) (hline (by decide) hq.1)
  rw [String.append_right_inj] at ha ht hm
  rw [String.append_left_inj, String.append_right_inj] at hk
  exact ⟨ha, Text.natural_inj ht, Text.natural_inj hk, hm⟩

namespace Signer

theorem controlFree_page (s : Signer) (path : Option String) (file : ConfigFile) :
    ControlFree (s.page path file).algorithm ∧ ControlFree (s.page path file).mode := by
  have hhash : ∀ h : Hash, ControlFree h.macName := by
    intro h
    cases h <;> decide
  have hmode : ∀ m : Mode, ControlFree m.name := by
    intro m
    cases m <;> decide
  exact ⟨hhash s.policy.hash, hmode s.policy.mode⟩

/-- No two signers have the same page, wherever their policies come from. -/
theorem eq_of_text_eq {s t : Signer} {path path' : Option String} {file file' : ConfigFile}
    (h : (s.page path file).text = (t.page path' file').text) : s = t := by
  obtain ⟨-, hbytes, hbits, hmode⟩ :=
    PolicyPage.text_inj h (s.controlFree_page path file) (t.controlFree_page path' file')
  obtain ⟨p, hp⟩ := s
  obtain ⟨q, hq⟩ := t
  have hhash : p.hash = q.hash := Hash.tagBytes_injective hbytes
  have hbits : p.minKeyBits = q.minKeyBits := UInt32.toNat_inj.mp hbits
  have hmode : p.mode = q.mode := Mode.name_injective hmode
  obtain rfl : p = q := by
    calc p = ⟨p.hash, p.minKeyBits, p.mode⟩ := rfl
      _ = ⟨q.hash, q.minKeyBits, q.mode⟩ := by rw [hhash, hbits, hmode]
  rfl

end Signer

/-! ### Keys that are too short -/

/-- The number at the end of its line gives away the kind of an error. -/
theorem Failure.code_eq_of_line_eq {e e' : SigningError}
    (h : (Failure.signing e).line = (Failure.signing e').line) : e.code = e'.code := by
  have hlength : ∀ e : SigningError, (toString e.code).toList.length = 4 := by
    intro e
    cases e <;> simp only [SigningError.code] <;> decide
  rw [line_of_signing (.inl rfl), line_of_signing (.inl rfl), String.append_left_inj] at h
  have hl := congrArg String.toList h
  simp only [String.toList_append] at hl
  have hcode := (List.append_inj' hl ((hlength e).trans (hlength e').symm)).2
  exact Text.natural_inj (String.toList_injective hcode)

/-- The command signs data, or verifies a signature of it, under the key of a text. -/
inductive Command.Takes (data key : String) : Command → Prop
  | sign {number : String} {json : Bool} : Takes data key (.sign ⟨data, number, key, json⟩)
  | verify {number signature : String} : Takes data key (.verify ⟨data, number, key, signature⟩)

theorem Outcome.Shows.stderr_unique {o : Outcome} {status status' : UInt32}
    {out out' err err' : String} (h : o.Shows status out err) (h' : o.Shows status' out' err') :
    err = err' := by
  have hoff : Log.Filter.Off [] := fun _ => rfl
  exact (h.2.2 [] hoff).symm.trans (h'.2.2 [] hoff)

theorem Signer.prepare_error_of_strong {s : Signer} {data : Bytes} {number key : String}
    {k : Bytes} {f : Failure} (hd : ¬ ∃ b ∈ data, 0x80 ≤ b.toNat)
    (hk : Text.trim key = Base64.text k) (hs : ¬ 8 * k.length < s.policy.minKeyBits.toNat)
    (h : s.prepare data number key = .error f) : ∃ fault, f = .signing (.ofNumber fault) := by
  cases hn : PacketNumber.parse number with
  | error fault =>
      rw [prepare_number hd hk hs hn] at h
      exact ⟨fault, (Except.error.inj h).symm⟩
  | ok n =>
      rw [prepare_sound hd hk hs hn] at h
      cases h

namespace Program
variable {env : Environment} {file : ConfigFile} {line : CommandLine} {arguments : List String}
  {s : Signer} {c : Command} {data key : String} {k : Bytes}

section
variable (input : Bytes) (hl : CommandLine.parse arguments = .ok line)
  (hs : signer env.configPath? file line.policy = .ok s) (hc : line.command = some c)
  (ht : c.Takes data key) (hd : ¬ ∃ b ∈ Utf8.encode data, 0x80 ≤ b.toNat)
  (hk : Text.trim key = Base64.text k)
include hl hs hc ht hd hk

theorem shows_of_weakKey (hw : 8 * k.length < s.policy.minKeyBits.toNat) :
    (run env file arguments input).Shows 1 ""
      (Failure.signing (.weakKey (8 * k.length) s.policy.minKeyBits.toNat)).line := by
  cases ht with
  | @sign number json =>
      have hp : s.prepare (Utf8.encode data) number key = .error _ :=
        Signer.prepare_weakKey hd hk hw
      have hrun : SignRequest.run s ⟨data, number, key, json⟩ = .error _ :=
        SignRequest.run_eq_error_iff.mpr hp
      have ht := SignRequest.transcript_eq_error_iff.mpr hrun
      exact shows_of_failsWith input hl hs hc (failsWith_sign ht)
  | @verify number signature =>
      have hp : s.prepare (Utf8.encode data) number key = .error _ :=
        Signer.prepare_weakKey hd hk hw
      have hrun : VerifyRequest.run s ⟨data, number, key, signature⟩ = .error _ :=
        VerifyRequest.run_of_prepare_error hp
      have ht := VerifyRequest.transcript_eq_error_iff.mpr hrun
      exact shows_of_failsWith input hl hs hc (failsWith_verify ht)

/-- With a key that is long enough nothing is reported, or else another error. -/
theorem shows_of_strongKey (hw : ¬ 8 * k.length < s.policy.minKeyBits.toNat) :
    ∃ status out err, (run env file arguments input).Shows status out err ∧
      (err = "" ∨ ∃ e, err = (Failure.signing e).line ∧ e.code ≠ 1001) := by
  cases ht with
  | @sign number json =>
      cases hr : SignRequest.run s ⟨data, number, key, json⟩ with
      | ok report => exact ⟨_, _, _, shows_of_sign input hl hs hc hr, .inl rfl⟩
      | error f =>
          have ht := SignRequest.transcript_eq_error_iff.mpr hr
          have hp := SignRequest.run_eq_error_iff.mp hr
          obtain ⟨fault, rfl⟩ := Signer.prepare_error_of_strong hd hk hw hp
          exact ⟨_, _, _, shows_of_failsWith input hl hs hc (failsWith_sign ht),
            .inr ⟨_, rfl, (by decide : 2001 ≠ 1001)⟩⟩
  | @verify number signature =>
      cases hr : VerifyRequest.run s ⟨data, number, key, signature⟩ with
      | ok v => exact ⟨_, _, _, shows_of_verify input hl hs hc hr, .inl rfl⟩
      | error f =>
          have ht := VerifyRequest.transcript_eq_error_iff.mpr hr
          have hshows := shows_of_failsWith input hl hs hc (failsWith_verify ht)
          rcases VerifyRequest.run_eq_error_iff.mp hr with hp | ⟨-, fault, -, -, rfl⟩
          · obtain ⟨fault, rfl⟩ := Signer.prepare_error_of_strong hd hk hw hp
            exact ⟨_, _, _, hshows, .inr ⟨_, rfl, (by decide : 2001 ≠ 1001)⟩⟩
          · exact ⟨_, _, _, hshows, .inr ⟨_, rfl, (by decide : 2003 ≠ 1001)⟩⟩

theorem shows_weakKey_iff : (∃ bits least, (run env file arguments input).Shows 1 ""
      (Failure.signing (.weakKey bits least)).line) ↔
    8 * k.length < s.policy.minKeyBits.toNat := by
  constructor
  · rintro ⟨bits, least, hweak⟩
    by_contra hw
    obtain ⟨_, _, err, hstrong, herr⟩ := shows_of_strongKey input hl hs hc ht hd hk hw
    obtain rfl := hstrong.stderr_unique hweak
    rcases herr with hempty | ⟨e, he, hcode⟩
    · exact absurd (String.append_eq_empty_iff.mp hempty).2 (by decide)
    · exact hcode (Failure.code_eq_of_line_eq he).symm
  · intro hw
    exact ⟨_, _, shows_of_weakKey input hl hs hc ht hd hk hw⟩

end

/-! ### Reports -/

/-- The report that a run writes names the signer's algorithm and mode, and has a tag of the length
that goes with them. -/
theorem report_of_status (input : Bytes) (hl : CommandLine.parse arguments = .ok line)
    (hs : signer env.configPath? file line.policy = .ok s) {number : String}
    (hc : line.command = some (.sign ⟨data, number, key, true⟩))
    (hzero : (run env file arguments input).status = 0) :
    ∃ n digest signature tag, Json.parse (run env file arguments input).transcript.stdout =
        some (.object [
          ("packet_number", n),
          ("algorithm", .string s.policy.hash.macName),
          ("mode", .string s.policy.mode.name),
          ("payload_digest", digest),
          ("signature", .string signature)]) ∧
      Signature.parse signature = .ok ⟨tag⟩ ∧ tag.length = s.policy.hash.tagBytes := by
  have hnone := not_exists_fails input hl hzero
  obtain ⟨report, hr⟩ := (exists_run_or_fails hs hc).resolve_right hnone
  obtain ⟨-, hout, -⟩ := shows_of_sign input hl hs hc hr
  obtain ⟨p, -, rfl⟩ := SignRequest.run_eq_ok_iff.mp hr
  have hread := (s.certify p.payload p.number p.key).parse_toJson
  have hlength : (s.certify p.payload p.number p.key).signature.bytes.length =
      s.policy.hash.tagBytes := by rw [Signer.certify_bytes, Hash.length_hmac]
  exact ⟨_, _, _, _, (congrArg Json.parse hout).trans hread, Signature.parse_text _, hlength⟩

end Program

/-- **The policy that is shown is the one in force.**  If file and options make up a signer, the
command `policy` succeeds under them.  It names the file as the source if and only if there is one,
and what it names as the source is never the text of a failure over the file.  Of all else that it
shows the signer can be told.  The signer keeps to it: a report names the algorithm and the mode
shown, its signature has as many bytes as shown, and of ASCII data under a well-formed key, signing
and verifying end in the error about a weak key if and only if the key has fewer bits than shown. -/
theorem printed_policy_enforced {env : Environment} {file : ConfigFile} {flags : Policy.Overlay}
    {s : Signer} (hs : Program.signer env.configPath? file flags = .ok s) :
    let page := s.page env.configPath? file
    (∀ arguments input, CommandLine.parse arguments = .ok ⟨flags, some .policy⟩ →
      (Program.run env file arguments input).Shows 0 page.text "") ∧
    (∃ path, env.configPath? = some path ∧
      (file = .absent ∧ page.source = "<none> (built-in defaults)" ∨
        file ≠ .absent ∧ page.source = path ++ " (loaded)")) ∧
    (∀ f : Failure, f.OverFile → page.source ≠ "ERROR: " ++ f.message) ∧
    (∀ (env' : Environment) file' flags' s',
      Program.signer env'.configPath? file' flags' = .ok s' →
      (s'.page env'.configPath? file').text = page.text → s' = s) ∧
    (∀ arguments input data number key,
      CommandLine.parse arguments = .ok ⟨flags, some (.sign ⟨data, number, key, true⟩)⟩ →
      (Program.run env file arguments input).status = 0 →
      ∃ n digest signature tag,
        Json.parse (Program.run env file arguments input).transcript.stdout = some (.object [
          ("packet_number", n),
          ("algorithm", .string page.algorithm),
          ("mode", .string page.mode),
          ("payload_digest", digest),
          ("signature", .string signature)]) ∧
        Signature.parse signature = .ok ⟨tag⟩ ∧ tag.length = page.tagBytes) ∧
    (∀ arguments input (c : Command) data key k,
      CommandLine.parse arguments = .ok ⟨flags, some c⟩ → c.Takes data key →
      (∀ b ∈ Utf8.encode data, b.toNat < 0x80) → Text.trim key = Base64.text k →
      ((∃ bits least, (Program.run env file arguments input).Shows 1 ""
          (Failure.signing (.weakKey bits least)).line) ↔ 8 * k.length < page.minKeyBits)) := by
  intro page
  obtain ⟨path, hpath, hsource⟩ := Program.status_of_signer hs
  refine ⟨fun arguments input hl => ?_, ⟨path, hpath, hsource⟩, fun f hf => ?_,
    fun _ _ _ _ _ ht => Signer.eq_of_text_eq ht,
    fun _ input _ _ _ hl hzero => Program.report_of_status input hl hs rfl hzero,
    fun _ input _ _ _ _ hl ht hd hk => Program.shows_weakKey_iff input hl hs rfl ht ?_ hk⟩
  · rw [← Signer.overview_eq]
    exact Program.shows_of_policy input hl hs rfl
  · rcases hsource with ⟨-, hsrc⟩ | ⟨-, hsrc⟩
    · have hne : "" ++ "<none> (built-in defaults)" ≠ "ERROR: " ++ f.message :=
        Config.source_ne_error (by decide) hf
      rwa [String.empty_append, ← hsrc] at hne
    · have hne : path ++ " (loaded)" ≠ "ERROR: " ++ f.message :=
        Config.source_ne_error (by decide) hf
      rwa [← hsrc] at hne
  · rintro ⟨b, hb, h80⟩
    exact absurd (hd b hb) (Nat.not_lt.mpr h80)

/-- A file that asks for 256 bits is shown as the source of the policy, and a key of sixteen zeros
is too weak to sign or to verify with. -/
theorem printed_policy_enforced_file :
    let env : Environment := { home := some "h" }
    let file := ConfigFile.contents (Utf8.encode "[policy]\nmin_key_bits = 256\n")
    Program.signer env.configPath? file {} = .ok ⟨{ minKeyBits := 256 }, by decide⟩ ∧
    (Program.run env file ["policy"] []).Shows 0 (PolicyPage.text
      ⟨"h/.pktsig/config.toml (loaded)", "HMAC-SHA256", 32, 256, "counter"⟩) "" ∧
    (∃ bits least, (Program.run env file ["sign", "--data", "hi", "--packet-number", "7",
        "--key", "AAAAAAAAAAAAAAAAAAAAAA=="] []).Shows 1 ""
      (Failure.signing (.weakKey bits least)).line) ∧
    (∃ bits least, (Program.run env file ["verify", "--data", "hi", "--packet-number", "7",
        "--key", "AAAAAAAAAAAAAAAAAAAAAA==", "--signature", ""] []).Shows 1 ""
      (Failure.signing (.weakKey bits least)).line) := by
  intro env file
  have hs : Program.signer env.configPath? file {} = .ok ⟨{ minKeyBits := 256 }, by decide⟩ :=
    Program.signer_eq_ok_iff.mpr (by rfl)
  have hkey : Text.trim "AAAAAAAAAAAAAAAAAAAAAA==" = Base64.text (List.replicate 16 0) := by decide
  have hsign : CommandLine.parse ["sign", "--data", "hi", "--packet-number", "7",
      "--key", "AAAAAAAAAAAAAAAAAAAAAA=="] =
        .ok ⟨{}, some (.sign ⟨"hi", "7", "AAAAAAAAAAAAAAAAAAAAAA==", false⟩)⟩ := by decide
  have hverify : CommandLine.parse ["verify", "--data", "hi", "--packet-number", "7",
      "--key", "AAAAAAAAAAAAAAAAAAAAAA==", "--signature", ""] =
        .ok ⟨{}, some (.verify ⟨"hi", "7", "AAAAAAAAAAAAAAAAAAAAAA==", ""⟩)⟩ := by decide
  have hascii : ∀ b ∈ Utf8.encode "hi", b.toNat < 0x80 := by
    have he : Utf8.encode "hi" = [0x68, 0x69] := by decide
    rw [he]
    intro b hb
    rcases List.mem_pair.mp hb with rfl | rfl <;> decide
  obtain ⟨hshows, hfrom, -, -, -, hgate⟩ := printed_policy_enforced hs
  refine ⟨hs, ?_, (hgate _ [] _ _ _ _ hsign .sign hascii hkey).mpr (by decide),
    (hgate _ [] _ _ _ _ hverify .verify hascii hkey).mpr (by decide)⟩
  obtain ⟨path, hpath, hsource⟩ := hfrom
  obtain rfl : path = "h/.pktsig/config.toml" := (Option.some.inj hpath).symm
  have hloaded : Config.status env.configPath? file = "h/.pktsig/config.toml (loaded)" :=
    (hsource.resolve_left fun h => nomatch h.1).2
  have hpage := hshows ["policy"] [] (by decide)
  unfold Signer.page at hpage
  rw [hloaded] at hpage
  exact hpage

end PacketAuth
