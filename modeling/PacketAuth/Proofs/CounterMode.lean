import PacketAuth.Proofs.Acceptance
import PacketAuth.Proofs.PromptTranscript

/-! # Counter mode

In counter mode a tag covers the number of a packet and nothing of its data.  The data is checked
for being 7-bit text and has its digest taken, so that two runs on different data go side by side,
and their reports are the same up to the digest (`Signer.reportOn_counter`).  Of a digest only the
report in JSON and the trace of the log tell; a prompt without them writes the same, whatever is put
in the places of the data (`counter_mode_ignores_data`). -/

namespace PacketAuth

/-! ### Reports that differ in the digest -/

/-- The same report, up to the digest. -/
def Report.SameButDigest (r r' : Report) : Prop := r' = { r with digest := r'.digest }

/-- In JSON, such reports have the same members but for the value of one. -/
theorem Report.SameButDigest.exists_members {r r' : Report} (h : r.SameButDigest r') :
    ∃ before after d d', r.toJson = .object (before ++ ("payload_digest", .string d) :: after) ∧
      r'.toJson = .object (before ++ ("payload_digest", .string d') :: after) := by
  refine ⟨[("packet_number", .ofNat r.number.value.toNat), ("algorithm", .string r.hash.macName),
    ("mode", .string r.mode.name)], [("signature", .string r.signature.text)], r.digest.text,
    r'.digest.text, rfl, ?_⟩
  rw [h]
  rfl

/-! ### The signer -/

namespace Signer
variable {s : Signer} (hs : s.policy.mode = .counter)
include hs

theorem certify_counter (payload payload' : Bytes) (n : PacketNumber) (key : Key) :
    (s.certify payload n key).SameButDigest (s.certify payload' n key) := by
  have hm : ∀ d d', s.message d n = s.message d' n := by
    intro d d'
    unfold message
    rw [hs]
  unfold Report.SameButDigest certify
  dsimp only
  rw [hm (.of payload') (.of payload)]

theorem report_counter (payload payload' : Bytes) (number : Numeral) (key : Key) :
    (s.report payload number key).Alike Report.SameButDigest (s.report payload' number key) := by
  unfold report
  refine .bind_same (fun _ => ?_) _
  refine .bind_same (fun n => ?_) _
  exact .ok (certify_counter hs payload payload' n key)

theorem sign_counter (payload payload' : Bytes) (number : Numeral) (key : Key) :
    s.sign payload number key = s.sign payload' number key := by
  have hsign : ∀ payload, s.sign payload number key =
      (s.report payload number key).map Report.signature := by
    intro payload
    unfold sign
    cases s.report payload number key with
    | error e => rfl
    | ok r => rfl
  rw [hsign, hsign]
  refine (report_counter hs payload payload' number key).map_eq fun r r' h => ?_
  rw [h]

theorem verify_counter (payload payload' : Bytes) (number : Numeral) (key : Key)
    (given : Signature) :
    s.verify payload number key given = s.verify payload' number key given := by
  unfold verify
  rw [sign_counter hs payload payload']

variable {data data' : Bytes} (hd : Utf8.isAscii data = Utf8.isAscii data')
include hd

omit hs in
theorem prepare_sameButPayload (number key : String) : (s.prepare data number key).Alike
    (fun p p' => p' = { p with payload := p'.payload }) (s.prepare data' number key) := by
  have hdata : (asciiData data).Alike (fun _ _ => True) (asciiData data') := by
    unfold asciiData
    rw [hd]
    split_ifs
    · exact .ok trivial
    · exact .error _
  unfold prepare
  refine hdata.bind fun payload payload' _ => ?_
  refine .bind_same (fun k => ?_) _
  refine .bind_same (fun _ => ?_) _
  refine .bind_same (fun n => ?_) _
  exact .ok rfl

/-- A request fails as it does on other data, or leads to the same report up to the digest. -/
theorem reportOn_counter (number key : String) : (s.reportOn data number key).Alike
    Report.SameButDigest (s.reportOn data' number key) := by
  unfold reportOn
  refine (prepare_sameButPayload hd number key).bind fun p p' hp => ?_
  rw [hp]
  exact lift_alike (report_counter hs ..)

end Signer

/-! ### Requests -/

/-- Two transcripts write the same to either stream, if nothing is logged. -/
structure Transcript.SameStreams (t t' : Transcript) : Prop where
  stdout : t.stdout = t'.stdout
  stderr : ∀ filter : Log.Filter, filter.Off → t.stderr filter = t'.stderr filter

theorem Transcript.SameStreams.told (es es' : List Log.Event) (text : String) :
    SameStreams (es.map .log ++ [.out text]) (es'.map .log ++ [.out text]) := by
  constructor
  · rw [(streams_told es text).1, (streams_told es' text).1]
  · intro filter hf
    rw [stderr_of_off hf, stderr_of_off hf, (streams_told es text).2, (streams_told es' text).2]

section
variable {s : Signer} (hs : s.policy.mode = .counter) {data data' : String}
  (hd : Utf8.isAscii (Utf8.encode data) = Utf8.isAscii (Utf8.encode data'))
include hs hd

theorem SignRequest.run_counter (number key : String) (json : Bool) :
    (SignRequest.run s ⟨data, number, key, json⟩).Alike Report.SameButDigest
      (SignRequest.run s ⟨data', number, key, json⟩) :=
  Signer.reportOn_counter hs hd number key

theorem SignRequest.transcript_counter (number key : String) :
    (SignRequest.transcript s ⟨data, number, key, false⟩).Alike Transcript.SameStreams
      (SignRequest.transcript s ⟨data', number, key, false⟩) := by
  refine (run_counter hs hd number key false).bind fun r r' hr => ?_
  have hsig : r'.signature = r.signature := by rw [hr]
  have ho : ∀ data r, SignRequest.output ⟨data, number, key, false⟩ r =
      signatureLine r.signature := fun _ _ => rfl
  rw [ho, ho, hsig]
  exact .ok (.told ..)

theorem VerifyRequest.run_counter (number key given : String) :
    (VerifyRequest.run s ⟨data, number, key, given⟩).Alike (fun v v' => v'.valid = v.valid)
      (VerifyRequest.run s ⟨data', number, key, given⟩) := by
  unfold run
  refine (Signer.prepare_sameButPayload hd number key).bind fun p p' hp => ?_
  rw [hp]
  refine .bind_same (fun sig => ?_) _
  refine (Signer.lift_alike (Signer.report_counter hs ..)).bind fun r r' _ => ?_
  dsimp only
  rw [Signer.verify_counter hs p.payload p'.payload]
  cases s.verify p'.payload (.packet p.number) p.key sig with
  | ok u => exact .ok rfl
  | error e =>
      cases e with
      | mismatch => exact .ok rfl
      | _ => exact .error _

theorem VerifyRequest.transcript_counter (number key given : String) :
    (VerifyRequest.transcript s ⟨data, number, key, given⟩).Alike
      (fun o o' => o'.1 = o.1 ∧ o.2.SameStreams o'.2)
      (VerifyRequest.transcript s ⟨data', number, key, given⟩) := by
  refine (run_counter hs hd number key given).bind fun v v' hv => .ok ⟨hv, ?_⟩
  have ho : v'.output = v.output := by
    unfold Verdict.output
    rw [hv]
  obtain ⟨es, he⟩ := Verdict.exists_events v
  obtain ⟨es', he'⟩ := Verdict.exists_events v'
  dsimp only
  rw [he, he', ho]
  exact .told ..

end

/-! ### Prompts -/

namespace Prompt

/-- The same input, except that lines of data may be others that are 7-bit text if these are.
`place` is the number of the lines before the input. -/
inductive SameButData : (place : Nat) → Bytes → Bytes → Prop
  | last {place : Nat} {l : Bytes} : 10 ∉ l → SameButData place l l
  | line {place : Nat} {l l' rest rest' : Bytes} : 10 ∉ l → 10 ∉ l' →
      l = l' ∨ place % 3 = 0 ∧ Utf8.isAscii l = Utf8.isAscii l' →
      SameButData (place + 1) rest rest' →
      SameButData place (l ++ 10 :: rest) (l' ++ 10 :: rest')

theorem SameButData.refl (place : Nat) (input : Bytes) : SameButData place input input := by
  induction hn : input.length using Nat.strongRecOn generalizing place input with
  | _ n ih =>
      by_cases h : 10 ∈ input
      · obtain ⟨l, rest, rfl, hl⟩ := List.eq_append_cons_of_mem h
        rw [List.length_append, List.length_cons] at hn
        exact .line hl hl (Or.inl rfl) (ih rest.length (by omega) _ rest rfl)
      · exact .last h

theorem isAscii_withoutReturn (l : Bytes) : Utf8.isAscii (withoutReturn l) = Utf8.isAscii l := by
  unfold withoutReturn
  split_ifs with h
  · obtain ⟨k, rfl⟩ := List.getLast?_eq_some_iff.mp h
    simp [Utf8.isAscii]
  · rfl

/-- Line by line, such inputs are the same or hold data in the same place. -/
theorem getD_lines {place : Nat} {input input' : Bytes} (h : SameButData place input input') :
    (lines input).length = (lines input').length ∧ ∀ i,
      (lines input).getD i [] = (lines input').getD i [] ∨ (place + i) % 3 = 0 ∧
        Utf8.isAscii ((lines input).getD i []) = Utf8.isAscii ((lines input').getD i []) := by
  induction h with
  | last hl => exact ⟨rfl, fun i => Or.inl rfl⟩
  | @line place l l' rest rest' hl hl' hsame _ ih =>
      obtain ⟨hlength, ih⟩ := ih
      have hcut : ∀ {l}, 10 ∉ l → ∀ rest, lines (l ++ 10 :: rest) = withoutReturn l :: lines rest :=
        fun h rest => linesFrom_append h rest []
      rw [hcut hl, hcut hl']
      refine ⟨congrArg (· + 1) hlength, fun i => ?_⟩
      cases i with
      | zero =>
          rw [List.getD_cons_zero, List.getD_cons_zero, isAscii_withoutReturn,
            isAscii_withoutReturn]
          exact hsame.imp_left (congrArg withoutReturn)
      | succ i =>
          have hplace : place + (i + 1) = place + 1 + i := by omega
          rw [List.getD_cons_succ, List.getD_cons_succ, hplace]
          exact ih i

/-! What the streams and the tally hold of a round is told by its signature. -/

theorem reply_sameButDigest {x y : Except Failure Report} (h : x.Alike Report.SameButDigest y) :
    reply x = reply y := by
  cases h with
  | error f => rfl
  | ok hr =>
      rw [hr]
      rfl

theorem complaint_sameButDigest {x y : Except Failure Report}
    (h : x.Alike Report.SameButDigest y) : complaint x = complaint y := by
  cases h with
  | error f => rfl
  | ok _ => rfl

theorem isOk_sameButDigest {x y : Except Failure Report} (h : x.Alike Report.SameButDigest y) :
    x.isOk = y.isOk := by
  cases h with
  | error f => rfl
  | ok _ => rfl

variable {s : Signer} (hs : s.policy.mode = .counter) {input input' : Bytes}
  (h : SameButData 0 input input')
include hs h

/-- Round by round, such inputs have outcomes that are alike. -/
theorem map_rounds_counter {β : Type} {f : Except Failure Report → β}
    (hf : ∀ x y, x.Alike Report.SameButDigest y → f x = f y) :
    (rounds s (lines input)).map f = (rounds s (lines input')).map f := by
  obtain ⟨hlength, hline⟩ := getD_lines h
  have hsame : ∀ i, (0 + i) % 3 ≠ 0 →
      (lines input).getD i [] = (lines input').getD i [] := by
    intro i hi
    rcases hline i with he | ⟨h0, -⟩
    · exact he
    · exact absurd h0 hi
  have hascii : ∀ i, Utf8.isAscii ((lines input).getD i []) =
      Utf8.isAscii ((lines input').getD i []) := by
    intro i
    rcases hline i with he | ⟨-, ha⟩
    · rw [he]
    · exact ha
  unfold rounds
  rw [hlength, List.map_map, List.map_map]
  refine List.map_congr_left fun i _ => hf _ _ ?_
  -- number and key of the round stand in places 1 and 2 modulo 3, where no data does
  dsimp only [signRound]
  rw [hsame (3 * i + 1) (by omega), hsame (3 * i + 2) (by omega)]
  exact Signer.reportOn_counter hs (hascii (3 * i)) _ _

theorem run_counter : (run s input).1 = (run s input').1 ∧
    Transcript.SameStreams (run s input).2 (run s input').2 := by
  have hlength := (getD_lines h).1
  have hreply := map_rounds_counter hs h (f := fun r => String.join questions ++ reply r)
    fun x y hxy => by rw [reply_sameButDigest hxy]
  have hcomplaint := map_rounds_counter hs h fun _ _ => complaint_sameButDigest
  have hcount : (rounds s (lines input)).countP (·.isOk) =
      (rounds s (lines input')).countP (·.isOk) := by
    have hok := map_rounds_counter hs h fun _ _ => isOk_sameButDigest
    have hcountP := congrArg (List.countP id) hok
    rwa [List.countP_map, List.countP_map] at hcountP
  obtain ⟨hsigned, hall⟩ := tally_runFrom s (lines input) {}
  obtain ⟨hsigned', hall'⟩ := tally_runFrom s (lines input') {}
  rw [length_rounds] at hall hall'
  refine ⟨?_, ?_, ?_⟩
  · show (runFrom s ⟨[], {}⟩ (lines input)).1.tally = (runFrom s ⟨[], {}⟩ (lines input')).1.tally
    have htally : ∀ t t' : Tally, t.signed = t'.signed →
        t.signed + t.rejected = t'.signed + t'.rejected → t = t' := by
      rintro ⟨a, b⟩ ⟨_, b'⟩ rfl hb
      exact congrArg (Tally.mk a) (Nat.add_left_cancel hb)
    refine htally _ _ ?_ ?_
    · rw [hsigned, hsigned', hcount]
    · rw [hall, hall', hlength]
  · show Transcript.stdout (runFrom s ⟨[], {}⟩ (lines input)).2 =
      Transcript.stdout (runFrom s ⟨[], {}⟩ (lines input')).2
    rw [stdout_runFrom, stdout_runFrom, hreply, hlength]
  · intro filter hf
    show Transcript.stderr filter (runFrom s ⟨[], {}⟩ (lines input)).2 =
      Transcript.stderr filter (runFrom s ⟨[], {}⟩ (lines input')).2
    rw [Transcript.stderr_of_off hf, Transcript.stderr_of_off hf, stderr_runFrom, stderr_runFrom,
      hcomplaint]

end Prompt

/-- **In counter mode, data has no say.**  Whatever the number and the key are, signing gives the
same signature for any two payloads, and verifying says the same of any signature.  Requests on data
that is 7-bit text, or on data that is not, write the same and come to the same end, except that
reports in JSON may differ in the member for the digest.  And a prompt writes the same and counts
the same when lines of data are replaced in this way. -/
theorem counter_mode_ignores_data (s : Signer) (hs : s.policy.mode = .counter) :
    (∀ payload payload' number key,
      s.sign payload number key = s.sign payload' number key ∧
      ∀ given, s.verify payload number key given = s.verify payload' number key given) ∧
    (∀ data data' : String, Utf8.isAscii (Utf8.encode data) = Utf8.isAscii (Utf8.encode data') →
      ∀ number key,
        (SignRequest.transcript s ⟨data, number, key, false⟩).Alike Transcript.SameStreams
          (SignRequest.transcript s ⟨data', number, key, false⟩) ∧
        (∀ given, (VerifyRequest.transcript s ⟨data, number, key, given⟩).Alike
          (fun o o' => o'.1 = o.1 ∧ o.2.SameStreams o'.2)
          (VerifyRequest.transcript s ⟨data', number, key, given⟩)) ∧
        (SignRequest.transcript s ⟨data, number, key, true⟩).Alike
          (fun t t' => ∃ before after d d',
            t.stdout = (Json.object (before ++ ("payload_digest", .string d) :: after)).pretty ++
              "\n" ∧
            t'.stdout = (Json.object (before ++ ("payload_digest", .string d') :: after)).pretty ++
              "\n")
          (SignRequest.transcript s ⟨data', number, key, true⟩)) ∧
    ∀ input input', Prompt.SameButData 0 input input' →
      (Prompt.run s input).1 = (Prompt.run s input').1 ∧
      Transcript.SameStreams (Prompt.run s input).2 (Prompt.run s input').2 := by
  refine ⟨?_, ?_, fun _ _ => Prompt.run_counter hs⟩
  · intro payload payload' number key
    exact ⟨Signer.sign_counter hs .., Signer.verify_counter hs payload payload' number key⟩
  · intro data data' hd number key
    refine ⟨SignRequest.transcript_counter hs hd number key,
      fun given => VerifyRequest.transcript_counter hs hd number key given, ?_⟩
    refine (SignRequest.run_counter hs hd number key true).bind fun r r' hr => .ok ?_
    obtain ⟨before, after, d, d', hj, hj'⟩ := hr.exists_members
    refine ⟨before, after, d, d', ?_, ?_⟩
    · rw [(Transcript.streams_told _ _).1, ← hj]
      rfl
    · rw [(Transcript.streams_told _ _).1, ← hj']
      rfl

/-- Two greetings, of two lengths, under the standard policy: at the prompt, where nothing is
logged, and in the answer to any signature. -/
theorem counter_mode_ignores_data_greetings :
    Signer.standard.policy.mode = .counter ∧
    Utf8.isAscii (Utf8.encode "hi") = Utf8.isAscii (Utf8.encode "hello") ∧
    (∀ number key given,
      (VerifyRequest.transcript .standard ⟨"hi", number, key, given⟩).Alike
        (fun o o' => o'.1 = o.1 ∧ o.2.SameStreams o'.2)
        (VerifyRequest.transcript .standard ⟨"hello", number, key, given⟩)) ∧
    Transcript.stdout (Prompt.run .standard
        (Utf8.encode "hi\n7\nAAAAAAAAAAAAAAAAAAAAAA==\n")).2 =
      Transcript.stdout (Prompt.run .standard
        (Utf8.encode "hello\n7\nAAAAAAAAAAAAAAAAAAAAAA==\n")).2 ∧
    Transcript.stderr (.ofSetting (some "off")) (Prompt.run .standard
        (Utf8.encode "hi\n7\nAAAAAAAAAAAAAAAAAAAAAA==\n")).2 =
      Transcript.stderr (.ofSetting (some "off")) (Prompt.run .standard
        (Utf8.encode "hello\n7\nAAAAAAAAAAAAAAAAAAAAAA==\n")).2 := by
  have hs : Signer.standard.policy.mode = .counter := rfl
  have hd : Utf8.isAscii (Utf8.encode "hi") = Utf8.isAscii (Utf8.encode "hello") := by decide
  obtain ⟨-, hrequests, hprompt⟩ := counter_mode_ignores_data .standard hs
  have hsame : Prompt.SameButData 0 (Utf8.encode "hi\n7\nAAAAAAAAAAAAAAAAAAAAAA==\n")
      (Utf8.encode "hello\n7\nAAAAAAAAAAAAAAAAAAAAAA==\n") := by
    have hrest : Prompt.SameButData 1 (Utf8.encode "7\nAAAAAAAAAAAAAAAAAAAAAA==\n")
        (Utf8.encode "7\nAAAAAAAAAAAAAAAAAAAAAA==\n") := .refl _ _
    have hdata : 10 ∉ Utf8.encode "hi" ∧ 10 ∉ Utf8.encode "hello" := by decide
    exact .line hdata.1 hdata.2 (Or.inr ⟨rfl, hd⟩) hrest
  obtain ⟨-, hstreams⟩ := hprompt _ _ hsame
  exact ⟨hs, hd, fun number key => (hrequests _ _ hd number key).2.1, hstreams.stdout,
    hstreams.stderr _ Log.Filter.off_ofSetting⟩

end PacketAuth
