import PacketAuth.Proofs.Answers
import PacketAuth.Proofs.KeyArguments
import PacketAuth.Proofs.ReadText
import PacketAuth.Proofs.RequestLaws
import PacketAuth.Proofs.Runs

/-! # Keys stay hidden

Two runs in lockstep, with keys of the same length in the same places.  A policy looks at nothing
but the length of a key, so each step of either run fails with the same failure or yields reports
that differ in nothing but the signature (`Signer.reportOn_alike`).  What is written from a report,
signature apart, is then the same: all log events, so that a filter makes no difference, all
failures, and the output stream but for the texts of signatures (`keys_stay_hidden`). -/

namespace PacketAuth

/-! ### Texts that differ in places -/

/-- `AlikeBut R s t`: the two texts are the same, except that in some places one has a text `a` and
the other a text `b` with `R a b`. -/
inductive AlikeBut (R : String → String → Prop) : String → String → Prop
  | same (s : String) : AlikeBut R s s
  | place {a b : String} : R a b → AlikeBut R a b
  | append {s s' t t' : String} : AlikeBut R s s' → AlikeBut R t t' →
      AlikeBut R (s ++ t) (s' ++ t')

namespace AlikeBut
variable {R S : String → String → Prop} {s t : String}

theorem mono (h : AlikeBut R s t) (hRS : ∀ a b, R a b → S a b) : AlikeBut S s t := by
  induction h with
  | same s => exact .same s
  | place hab => exact .place (hRS _ _ hab)
  | append _ _ ih₁ ih₂ => exact .append ih₁ ih₂

theorem eq_of_forall_not (h : AlikeBut R s t) (hR : ∀ a b, ¬ R a b) : s = t := by
  induction h with
  | same s => rfl
  | place hab => exact absurd hab (hR _ _)
  | append _ _ ih₁ ih₂ => rw [ih₁, ih₂]

end AlikeBut

/-! ### Keys of the same length -/

/-- Both texts are base64, of byte strings of the same length. -/
def Key.SameLength (key key' : String) : Prop :=
  ∃ bs bs', Base64.parse key = .ok bs ∧ Base64.parse key' = .ok bs' ∧ bs.length = bs'.length

/-- The text is not base64 of a key that is as long as the policy asks for. -/
def Policy.RefusesKey (p : Policy) (key : String) : Prop :=
  ∀ bs, Base64.parse key = .ok bs → 8 * bs.length < p.minKeyBits.toNat

theorem Key.parse_of_base64 {key : String} {bs : Bytes} (h : Base64.parse key = .ok bs) :
    Key.parse key = .ok ⟨bs⟩ := by
  unfold Key.parse
  rw [h]
  rfl

/-- A text of base64 is not read as an option. -/
theorem Base64.isValue_of_parse {key : String} {bs : Bytes} (h : parse key = .ok bs) :
    CommandLine.IsValue key := by
  have hhyphen : '-' ∉ key.toList := by
    intro hm
    have ht := Text.mem_trim hm (by decide)
    rw [(parse_eq_ok_iff key bs).mp h] at ht
    exact forall_mem_text (P := (· ≠ '-')) (by decide) (by decide) bs _ ht rfl
  unfold CommandLine.IsValue CommandLine.Argument.ofString
  split
  · next hs => simp [hs] at hhyphen
  · next hs => simp [hs] at hhyphen
  · next hs => simp [hs] at hhyphen
  · rfl

/-! ### Reports that differ in the signature -/

/-- The same report, up to the signature. -/
def Report.SameButSignature (r r' : Report) : Prop := r' = { r with signature := r'.signature }

theorem Report.SameButSignature.refl (r : Report) : r.SameButSignature r := rfl

theorem Log.ofReport_alike {r r' : Report} (h : r.SameButSignature r') :
    Log.ofReport r = Log.ofReport r' := by
  rw [h]
  rfl

theorem Json.escape_flatMap {cs : List Char} (h : ∀ c ∈ cs, escape c = [c]) :
    cs.flatMap escape = cs := by
  induction cs with
  | nil => rfl
  | cons c cs ih =>
      rw [List.flatMap_cons, h c List.mem_cons_self,
        ih fun d hd => h d (List.mem_cons_of_mem _ hd)]
      rfl

/-- The text of a signature needs no escapes. -/
theorem Signature.stringText_text (sig : Signature) :
    Json.stringText sig.text = '"' :: sig.text.toList ++ ['"'] := by
  unfold Json.stringText
  rw [Json.escape_flatMap]
  exact Base64.forall_mem_text (by decide) (by decide) sig.bytes

/-- In the text of a report there is one place for the signature. -/
theorem Report.exists_pretty (r : Report) : ∃ before after : String, ∀ sig : Signature,
    ({ r with signature := sig } : Report).toJson.pretty = before ++ sig.text ++ after := by
  have h : ∃ before : List Char, ∀ sig : Signature,
      Json.prettyChars 0 ({ r with signature := sig } : Report).toJson =
        before ++ Json.stringText sig.text ++ Json.newline 0 ++ ['}'] := by
    refine ⟨'{' :: (Json.newline 1 ++ Json.stringText "packet_number" ++
      ':' :: ' ' :: Json.scalarText (.ofNat r.number.value.toNat) ++
      ',' :: (Json.newline 1 ++ Json.stringText "algorithm" ++
      ':' :: ' ' :: Json.stringText r.hash.macName ++
      ',' :: (Json.newline 1 ++ Json.stringText "mode" ++
      ':' :: ' ' :: Json.stringText r.mode.name ++
      ',' :: (Json.newline 1 ++ Json.stringText "payload_digest" ++
      ':' :: ' ' :: Json.stringText r.digest.text ++
      ',' :: (Json.newline 1 ++ Json.stringText "signature" ++ [':', ' ']))))), ?_⟩
    intro sig
    have hstring : ∀ t : String, (Json.string t).scalarText = Json.stringText t := fun _ => rfl
    unfold toJson
    simp [Json.prettyChars, Json.prettyMembers, hstring, Json.ofNat]
  obtain ⟨before, h⟩ := h
  refine ⟨String.ofList (before ++ ['"']), String.ofList ('"' :: Json.newline 0 ++ ['}']), ?_⟩
  intro sig
  apply String.toList_inj.mp
  unfold Json.pretty
  rw [h, Signature.stringText_text]
  simp

theorem Report.pretty_alike {R : String → String → Prop} {r r' : Report}
    (h : r.SameButSignature r') (hR : R r.signature.text r'.signature.text) :
    AlikeBut R r.toJson.pretty r'.toJson.pretty := by
  obtain ⟨before, after, hp⟩ := r.exists_pretty
  have hr := hp r.signature
  have hr' := hp r'.signature
  rw [← h] at hr'
  rw [hr', show r.toJson.pretty = _ from hr]
  exact .append (.append (.same _) (.place hR)) (.same _)

/-! ### Two requests -/

namespace Signer
variable {s : Signer} {data : Bytes} {number key key' : String}

theorem report_alike {k k' : Key} (h : k.bytes.length = k'.bytes.length) (payload : Bytes)
    (number : Numeral) : (s.report payload number k).Alike Report.SameButSignature
      (s.report payload number k') := by
  unfold report
  rw [s.policy.checkKey_of_length_eq h]
  refine .bind_same (fun _ => ?_) _
  refine .bind_same (fun n => ?_) _
  exact .ok rfl

/-- A request fails as it does with any key of the same length, or leads to the same report up to
the signature. -/
theorem reportOn_alike (h : Key.SameLength key key') : (s.reportOn data number key).Alike
    Report.SameButSignature (s.reportOn data number key') := by
  obtain ⟨bs, bs', hk, hk', hl⟩ := h
  have hprepare : (s.prepare data number key).Alike
      (fun p p' => p' = { p with key := p'.key } ∧ p.key.bytes.length = p'.key.bytes.length)
      (s.prepare data number key') := by
    unfold prepare
    rw [Key.parse_of_base64 hk, Key.parse_of_base64 hk', lift_ok, lift_ok]
    refine .bind_same (fun payload => ?_) _
    have hcheck : s.policy.checkKey ⟨bs⟩ = s.policy.checkKey ⟨bs'⟩ :=
      s.policy.checkKey_of_length_eq hl
    rw [Except.ok_bind, Except.ok_bind, hcheck]
    refine .bind_same (fun _ => ?_) _
    refine .bind_same (fun n => ?_) _
    exact .ok ⟨rfl, hl⟩
  unfold reportOn
  refine hprepare.bind fun p p' hp => ?_
  rw [hp.1]
  exact lift_alike (report_alike hp.2 _ _)

/-- No key that is refused leads to a report. -/
theorem not_refusesKey_of_reportOn {r : Report} (h : s.reportOn data number key = .ok r) :
    ¬ s.policy.RefusesKey key := by
  intro hrefuses
  obtain ⟨p, hp, -⟩ := reportOn_eq_ok_iff.mp h
  obtain ⟨-, -, hk, hc, -⟩ := prepare_eq_ok_iff.mp hp
  have hweak := hrefuses _ ((Base64.parse_eq_ok_iff _ _).mpr (Key.parse_eq_ok_iff.mp hk))
  have hstrong := Policy.checkKey_eq_ok_iff.mp hc
  omega

end Signer

/-! ### Two transcripts -/

/-- The two texts are those of the signatures in the same place. -/
def Paired (xs ys : List (Except Failure Report)) (a b : String) : Prop :=
  ∃ r r', (.ok r, .ok r') ∈ xs.zip ys ∧ r.signature.text = a ∧ r'.signature.text = b

/-- The error streams are the same under every filter, and the output streams are the same but for
texts that are related. -/
structure Transcript.AlikeBut (R : String → String → Prop) (t t' : Transcript) : Prop where
  stdout : PacketAuth.AlikeBut R t.stdout t'.stdout
  stderr : ∀ filter, t.stderr filter = t'.stderr filter

namespace Transcript
variable {R S : String → String → Prop} {t t' u u' : Transcript}

theorem AlikeBut.refl (t : Transcript) : AlikeBut R t t := ⟨.same _, fun _ => rfl⟩

theorem AlikeBut.mono (h : AlikeBut R t t') (hRS : ∀ a b, R a b → S a b) : AlikeBut S t t' :=
  ⟨h.stdout.mono hRS, h.stderr⟩

theorem AlikeBut.append (h : AlikeBut R t t') (h' : AlikeBut R u u') :
    AlikeBut R (t ++ u) (t' ++ u') := by
  constructor
  · rw [stdout_append, stdout_append]
    exact .append h.stdout h'.stdout
  · intro filter
    rw [stderr_append, stderr_append, h.stderr, h'.stderr]

theorem AlikeBut.out {a b : String} (h : PacketAuth.AlikeBut R a b) :
    AlikeBut R [.out a] [.out b] := by
  constructor
  · rw [stdout_cons, stdout_cons, stdout_nil]
    exact .append h (.same "")
  · exact fun _ => rfl

end Transcript

theorem signatureLine_alike {R : String → String → Prop} {sig sig' : Signature}
    (h : R sig.text sig'.text) : AlikeBut R (signatureLine sig) (signatureLine sig') := by
  have hl : ∀ sig, signatureLine sig = "Packet signature: " ++ sig.text ++ "\n" := fun _ => rfl
  rw [hl, hl]
  exact .append (.append (.same _) (.place h)) (.same _)

/-- What a request to sign writes. -/
theorem SignRequest.transcript_alike {s : Signer} {r : SignRequest} {key' : String}
    (h : Key.SameLength r.key key') : (r.transcript s).Alike
      (Transcript.AlikeBut (Paired [r.run s] [SignRequest.run s { r with key := key' }]))
      (SignRequest.transcript s { r with key := key' }) := by
  have hrun : (r.run s).Alike Report.SameButSignature (SignRequest.run s { r with key := key' }) :=
    Signer.reportOn_alike h
  unfold transcript
  -- from here on only the two outcomes count, and not what they are outcomes of
  generalize r.run s = x at hrun ⊢
  generalize SignRequest.run s { r with key := key' } = y at hrun ⊢
  cases hrun with
  | error f => exact .error f
  | @ok report report' hr =>
      have hpair : Paired [.ok report] [.ok report'] report.signature.text
          report'.signature.text := ⟨_, _, List.mem_cons_self, rfl, rfl⟩
      refine .ok ?_
      rw [Log.ofReport_alike hr]
      refine .append (.refl _) (.out ?_)
      unfold output
      dsimp only
      split_ifs
      · exact .append (Report.pretty_alike hr hpair) (.same _)
      · exact signatureLine_alike hpair

/-! ### Two prompts -/

namespace Prompt
variable {s : Signer}

/-- The same lines, except that in each round one key may stand for another of the same length. -/
inductive SameButKeys : List Bytes → List Bytes → Prop
  | unfinished {ls : List Bytes} : ls.length < 3 → SameButKeys ls ls
  | round {data number key key' : Bytes} {rest rest' : List Bytes} :
      key = key' ∨ Key.SameLength (Utf8.decodeLossy key) (Utf8.decodeLossy key') →
      SameButKeys rest rest' →
      SameButKeys (data :: number :: key :: rest) (data :: number :: key' :: rest')

theorem signRound_alike {key key' : Bytes}
    (h : key = key' ∨ Key.SameLength (Utf8.decodeLossy key) (Utf8.decodeLossy key'))
    (data number : Bytes) :
    (signRound s data number key).Alike Report.SameButSignature (signRound s data number key') := by
  rcases h with rfl | h
  · exact .refl Report.SameButSignature.refl _
  · exact Signer.reportOn_alike h

theorem outcome_alike {x y : Except Failure Report} (h : x.Alike Report.SameButSignature y) :
    Transcript.AlikeBut (Paired [x] [y]) (outcome x) (outcome y) := by
  cases h with
  | error f => exact .refl _
  | @ok report report' hr =>
      unfold outcome
      dsimp only
      rw [Log.ofReport_alike hr]
      exact .append (.refl _) (.out (signatureLine_alike ⟨_, _, List.mem_cons_self, rfl, rfl⟩))

theorem Tally.count_alike {x y : Except Failure Report} (h : x.Alike Report.SameButSignature y)
    (t : Tally) : Tally.count t x = Tally.count t y := by
  cases h with
  | error f => rfl
  | ok hr => rfl

/-- Prompts that have the same tally so far. -/
theorem runFrom_alike {ls ls' : List Bytes} (h : SameButKeys ls ls') : ∀ t : Tally,
    Transcript.AlikeBut (Paired (rounds s ls) (rounds s ls')) (runFrom s ⟨[], t⟩ ls).2
      (runFrom s ⟨[], t⟩ ls').2 := by
  induction h with
  | unfinished h => exact fun t => .refl _
  | @round data number key key' rest rest' hk _ ih =>
      intro t
      have hround := signRound_alike (s := s) hk data number
      rw [runFrom_round, runFrom_round, rounds_cons, rounds_cons, Tally.count_alike hround]
      -- signatures that are paired within the round, or after it, are paired in the whole
      refine .append (.refl _) (.append ?_ ?_)
      · refine (outcome_alike hround).mono fun a b => ?_
        rintro ⟨r, r', hm, hr⟩
        obtain he := List.mem_singleton.mp hm
        exact ⟨r, r', he ▸ List.mem_cons_self, hr⟩
      · refine (ih _).mono fun a b => ?_
        rintro ⟨r, r', hm, hr⟩
        exact ⟨r, r', List.mem_cons_of_mem _ hm, hr⟩

end Prompt

/-! ### Two runs -/

namespace Command

/-- What comes of each signature that a command sets out to make. -/
def outcomes (s : Signer) (input : Bytes) : Command → List (Except Failure Report)
  | .prompt => Prompt.rounds s (Prompt.lines input)
  | .sign r => [r.run s]
  | _ => []

/-- The texts of the keys that a command sets out to sign with. -/
def keys (input : Bytes) : Command → List String
  | .prompt =>
    let ls := Prompt.lines input
    (List.range (ls.length / 3)).map fun i => Utf8.decodeLossy (ls.getD (3 * i + 2) [])
  | .sign r => [r.key]
  | _ => []

/-- Each signature is made with one of the keys, which is not refused. -/
theorem exists_key_of_mem_outcomes {s : Signer} {input : Bytes} {c : Command} {r : Report}
    (h : .ok r ∈ c.outcomes s input) : ∃ key ∈ c.keys input, ¬ s.policy.RefusesKey key := by
  cases c with
  | prompt =>
      obtain ⟨i, hi, hr⟩ := List.mem_map.mp h
      exact ⟨_, List.mem_map_of_mem hi, Signer.not_refusesKey_of_reportOn hr⟩
  | sign request =>
      have hr : Signer.reportOn s (Utf8.encode request.data) request.number request.key = .ok r :=
        (List.mem_singleton.mp h).symm
      exact ⟨_, List.mem_singleton_self _, Signer.not_refusesKey_of_reportOn hr⟩
  | verify request => cases h
  | policy => cases h

end Command

namespace Program
variable {env : Environment} {file : ConfigFile} {arguments arguments' : List String}
  {input input' : Bytes}

/-- What comes of each signature that a run sets out to make. -/
def outcomes (env : Environment) (file : ConfigFile) (arguments : List String) (input : Bytes) :
    List (Except Failure Report) :=
  match CommandLine.parse arguments with
  | .error _ => []
  | .ok line =>
    match signer env.configPath? file line.policy with
    | .error _ => []
    | .ok s => (line.command.getD .prompt).outcomes s input

/-- Two runs end with the same status, write the same to the error stream whatever is logged, and
write the same to the output stream but for the texts of signatures in the same place. -/
structure SameButSignatures (env : Environment) (file : ConfigFile)
    (arguments arguments' : List String) (input input' : Bytes) : Prop where
  status : (run env file arguments input).status = (run env file arguments' input').status
  transcript : Transcript.AlikeBut
    (Paired (outcomes env file arguments input) (outcomes env file arguments' input'))
    (run env file arguments input).transcript (run env file arguments' input').transcript

theorem SameButSignatures.of_eq (h : run env file arguments input =
    run env file arguments' input') :
    SameButSignatures env file arguments arguments' input input' := by
  constructor
  · rw [h]
  · rw [h]
    exact .refl _

/-- The effective policy refuses all keys that a run sets out to sign with. -/
def KeysRefused (env : Environment) (file : ConfigFile) (arguments : List String)
    (input : Bytes) : Prop :=
  ∀ line p, CommandLine.parse arguments = .ok line →
    effectivePolicy env.configPath? file line.policy = .ok p →
    ∀ key ∈ (line.command.getD .prompt).keys input, p.RefusesKey key

theorem not_mem_outcomes (h : KeysRefused env file arguments input) (r : Report) :
    .ok r ∉ outcomes env file arguments input := by
  intro hr
  unfold outcomes at hr
  cases hl : CommandLine.parse arguments with
  | error stop =>
      rw [hl] at hr
      cases hr
  | ok line =>
      cases hs : signer env.configPath? file line.policy with
      | error f =>
          simp only [hl, hs] at hr
          cases hr
      | ok s =>
          simp only [hl, hs] at hr
          obtain ⟨key, hk, hstrong⟩ := Command.exists_key_of_mem_outcomes hr
          exact hstrong (h line s.policy hl (signer_eq_ok_iff.mp hs) key hk)

/-- Where no signature comes about, the output streams are the same. -/
theorem SameButSignatures.stdout_eq
    (h : SameButSignatures env file arguments arguments' input input')
    (hweak : KeysRefused env file arguments input) :
    (run env file arguments input).transcript.stdout =
      (run env file arguments' input').transcript.stdout := by
  refine h.transcript.stdout.eq_of_forall_not fun a b => ?_
  rintro ⟨r, r', hm, -⟩
  exact not_mem_outcomes hweak r (List.of_mem_zip hm).1

section
variable {options : Policy.Overlay} {r : SignRequest} {key key' : String}

/-- Two requests to sign, by whatever arguments. -/
theorem sameButSignatures_sign
    (hl : CommandLine.parse arguments = .ok ⟨options, some (.sign r)⟩)
    (hl' : CommandLine.parse arguments' = .ok ⟨options, some (.sign { r with key := key' })⟩)
    (hk : Key.SameLength r.key key') :
    SameButSignatures env file arguments arguments' input input := by
  cases hs : signer env.configPath? file options with
  | error f => exact .of_eq ((run_of_signer_error hl hs).trans (run_of_signer_error hl' hs).symm)
  | ok s =>
      have hx : outcomes env file arguments input = [r.run s] := by
        simp only [outcomes, hl, hs]
        rfl
      have hy : outcomes env file arguments' input =
          [SignRequest.run s { r with key := key' }] := by
        simp only [outcomes, hl', hs]
        rfl
      have h := SignRequest.transcript_alike (s := s) hk
      generalize ht : r.transcript s = t at h
      generalize ht' : SignRequest.transcript s { r with key := key' } = t' at h
      have ho : run env file arguments input = _ := run_of_perform hl hs (perform_sign ..)
      have ho' : run env file arguments' input = _ := run_of_perform hl' hs (perform_sign ..)
      rw [ht] at ho
      rw [ht'] at ho'
      cases h with
      | error f => exact .of_eq (ho.trans ho'.symm)
      | ok h =>
          constructor
          · rw [ho, ho']
          · rw [ho, ho', hx, hy]
            exact .append (.refl _) h

/-- Two inputs to the prompt. -/
theorem sameButSignatures_prompt {line : CommandLine} (hl : CommandLine.parse arguments = .ok line)
    (hc : line.command.getD .prompt = .prompt)
    (hk : Prompt.SameButKeys (Prompt.lines input) (Prompt.lines input')) :
    SameButSignatures env file arguments arguments input input' := by
  cases hs : signer env.configPath? file line.policy with
  | error f => exact .of_eq ((run_of_signer_error hl hs).trans (run_of_signer_error hl hs).symm)
  | ok s =>
      have hout : ∀ input, outcomes env file arguments input =
          Prompt.rounds s (Prompt.lines input) := by
        intro input
        simp only [outcomes, hl, hs, hc]
        rfl
      have ho : run env file arguments input = _ := run_of_prompt hl hs hc
      have ho' : run env file arguments input' = _ := run_of_prompt hl hs hc
      constructor
      · rw [ho, ho']
      · rw [ho, ho', hout, hout]
        exact .append (.refl _) (Prompt.runFrom_alike hk {})

/-- Arguments that differ in a key, whether they are carried out or complained of. -/
theorem sameButSignatures_argument {before after : List String} (hk : Key.SameLength key key')
    (hc : ∀ line v, CommandLine.parse (CommandLine.withKeyArgument before after key) = .ok line →
      line.command ≠ some (.verify v)) :
    SameButSignatures env file (CommandLine.withKeyArgument before after key)
      (CommandLine.withKeyArgument before after key') input input := by
  obtain ⟨bs, bs', hbs, hbs', hlength⟩ := hk
  have h : (CommandLine.parse (CommandLine.withKeyArgument before after key)).Alike
      (CommandLine.LineRekeyed key key')
      (CommandLine.parse (CommandLine.withKeyArgument before after key')) :=
    CommandLine.parse_rekeyed (Base64.isValue_of_parse hbs) (Base64.isValue_of_parse hbs')
  generalize hl : CommandLine.parse (CommandLine.withKeyArgument before after key) = x at h
  generalize hl' : CommandLine.parse (CommandLine.withKeyArgument before after key') = y at h
  have hsame : x = y → SameButSignatures env file (CommandLine.withKeyArgument before after key)
      (CommandLine.withKeyArgument before after key') input input := by
    intro hxy
    refine .of_eq ?_
    simp only [run, start, hl, hl', hxy]
  cases h with
  | error stop => exact hsame rfl
  | @ok line line' h =>
      obtain ⟨policy, command⟩ := line
      obtain ⟨policy', command'⟩ := line'
      obtain ⟨hp, hcommand, hkey⟩ := h
      dsimp only at hp hcommand hkey
      subst hp hcommand
      cases command with
      | none => exact hsame rfl
      | some c =>
          cases c with
          | prompt => exact hsame rfl
          | policy => exact hsame rfl
          | verify v => exact absurd rfl (hc _ v hl)
          | sign r =>
              obtain rfl := hkey _ r.key rfl rfl
              exact sameButSignatures_sign hl hl' ⟨bs, bs', hbs, hbs', hlength⟩

end
end Program

/-- **Keys stay hidden.**  Two runs that sign the same packet with keys of the same length, two
inputs to the prompt that differ in such keys, and two argument lists that differ in such a key and
are carried out or not: in each case the statuses are the same, the error streams are whatever is
logged, and the output streams are but for the texts of signatures.  If the keys are refused, the
output streams are the same as well. -/
theorem keys_stay_hidden (env : Environment) (file : ConfigFile) :
    (∀ arguments arguments' options r key' input,
      CommandLine.parse arguments = .ok ⟨options, some (.sign r)⟩ →
      CommandLine.parse arguments' = .ok ⟨options, some (.sign { r with key := key' })⟩ →
      Key.SameLength r.key key' →
      Program.SameButSignatures env file arguments arguments' input input) ∧
    (∀ arguments line input input', CommandLine.parse arguments = .ok line →
      line.command.getD .prompt = .prompt →
      Prompt.SameButKeys (Prompt.lines input) (Prompt.lines input') →
      Program.SameButSignatures env file arguments arguments input input') ∧
    (∀ before after key key' input, Key.SameLength key key' →
      (∀ line v, CommandLine.parse (CommandLine.withKeyArgument before after key) = .ok line →
        line.command ≠ some (.verify v)) →
      Program.SameButSignatures env file (CommandLine.withKeyArgument before after key)
        (CommandLine.withKeyArgument before after key') input input) ∧
    ∀ arguments arguments' input input',
      Program.SameButSignatures env file arguments arguments' input input' →
      Program.KeysRefused env file arguments input →
      (Program.run env file arguments input).transcript.stdout =
        (Program.run env file arguments' input').transcript.stdout := by
  refine ⟨?_, ?_, ?_, fun _ _ _ _ h => h.stdout_eq⟩
  · exact fun _ _ _ _ _ _ => Program.sameButSignatures_sign
  · exact fun _ _ _ _ => Program.sameButSignatures_prompt
  · exact fun _ _ _ _ _ => Program.sameButSignatures_argument

/-- Sixteen zeros and sixteen ones, with everything logged: as the key of a request and as that of a
round.  Three bytes are refused, whatever they are. -/
theorem keys_stay_hidden_traced :
    Key.SameLength "AAAAAAAAAAAAAAAAAAAAAA==" "AQEBAQEBAQEBAQEBAQEBAQ==" ∧
    Program.SameButSignatures { home := some "h", logFilter := some "trace" } .absent
      ["sign", "--data", "hi", "--packet-number", "7", "--key=AAAAAAAAAAAAAAAAAAAAAA=="]
      ["sign", "--key", "AQEBAQEBAQEBAQEBAQEBAQ==", "--data", "hi", "--packet-number", "7"]
      [] [] ∧
    Program.SameButSignatures { home := some "h", logFilter := some "trace" } .absent [] []
      (Utf8.encode "hi\n7\nAAAAAAAAAAAAAAAAAAAAAA==\nho\n")
      (Utf8.encode "hi\n7\nAQEBAQEBAQEBAQEBAQEBAQ==\nho\n") ∧
    (Program.run { home := some "h", logFilter := some "trace" } .absent
        ["sign", "--data", "hi", "--packet-number", "7", "--key", "AAAA"] []).transcript.stdout =
      (Program.run { home := some "h", logFilter := some "trace" } .absent
        ["sign", "--data", "hi", "--packet-number", "7", "--key", "BBBB"]
          []).transcript.stdout := by
  obtain ⟨hsign, hprompt, hargument, hrefused⟩ :=
    keys_stay_hidden { home := some "h", logFilter := some "trace" } .absent
  have hlong : Key.SameLength "AAAAAAAAAAAAAAAAAAAAAA==" "AQEBAQEBAQEBAQEBAQEBAQ==" :=
    ⟨List.replicate 16 0, List.replicate 16 1, by decide, by decide, rfl⟩
  have hshort : Key.SameLength "AAAA" "BBBB" := ⟨[0, 0, 0], [4, 16, 65], by decide, by decide, rfl⟩
  have hl : CommandLine.parse ["sign", "--data", "hi", "--packet-number", "7", "--key", "AAAA"] =
      .ok ⟨{}, some (.sign ⟨"hi", "7", "AAAA", false⟩)⟩ := by decide
  refine ⟨hlong, ?_, ?_, ?_⟩
  · exact hsign _ _ {} ⟨"hi", "7", "AAAAAAAAAAAAAAAAAAAAAA==", false⟩ _ [] (by decide) (by decide)
      hlong
  · refine hprompt [] {} _ _ rfl rfl ?_
    have hlines : ∀ key ∈ ["AAAAAAAAAAAAAAAAAAAAAA==", "AQEBAQEBAQEBAQEBAQEBAQ=="],
        Prompt.lines (Utf8.encode ("hi\n7\n" ++ key ++ "\nho\n")) =
          [Utf8.encode "hi", Utf8.encode "7", Utf8.encode key, Utf8.encode "ho"] := by decide
    show Prompt.SameButKeys
      (Prompt.lines (Utf8.encode ("hi\n7\n" ++ "AAAAAAAAAAAAAAAAAAAAAA==" ++ "\nho\n")))
      (Prompt.lines (Utf8.encode ("hi\n7\n" ++ "AQEBAQEBAQEBAQEBAQEBAQ==" ++ "\nho\n")))
    rw [hlines _ (by decide), hlines _ (by decide)]
    refine .round (Or.inr ?_) (.unfinished (by decide))
    rw [Utf8.decodeLossy_encode, Utf8.decodeLossy_encode]
    exact hlong
  · have h := hargument ["sign", "--data", "hi", "--packet-number", "7"] [] _ _ [] hshort ?_
    · refine hrefused _ _ _ _ h ?_
      intro line p hline hp key hkey bs hbs
      obtain rfl := Except.ok.inj (hl.symm.trans hline)
      obtain rfl := Except.ok.inj hp
      obtain rfl := List.mem_singleton.mp hkey
      have hzeros : Base64.parse "AAAA" = .ok [0, 0, 0] := by decide
      obtain rfl := Except.ok.inj (hzeros.symm.trans hbs)
      decide
    · intro line v hline
      obtain rfl := Except.ok.inj (hl.symm.trans hline)
      simp

end PacketAuth
