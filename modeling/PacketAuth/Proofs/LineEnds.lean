import PacketAuth.Proofs.PromptTranscript
import PacketAuth.Proofs.ReadText
import PacketAuth.Proofs.SurroundingBlanks

/-! # Line ends at the prompt

A prompt reads the same rounds whichever way its lines are ended (`line_ends`).  A carriage return
before a line feed goes with it, so an input without carriage returns may have them put in.  The
last line may go without a line feed: with one it would lose a carriage return at its end, but then
either its round is incomplete, or it is a key, and a key is trimmed once its bytes are read as
text. -/

namespace PacketAuth

/-! ### A 7-bit byte at the end -/

namespace Utf8
variable {b : UInt8} {u : Unfinished}

theorem low_of_start (h : start b = .opening u) : 0x80 ≤ u.low.toNat := by
  unfold start at h
  dsimp only at h
  split_ifs at h
  all_goals
    rw [← Start.opening.inj h]
    simp

/-- A byte that does not go on with a character leaves a gap, and is read afresh. -/
theorem scanFrom_break (h : ¬ (u.low ≤ b ∧ b ≤ u.high)) (rest : Bytes) :
    scanFrom (some u) (b :: rest) = none :: scanFrom none (b :: rest) := by
  conv_lhs => rw [scanFrom, if_neg h]
  conv_rhs => rw [scanFrom]
  cases start b with
  | whole c => rfl
  | opening v => rfl
  | stray => rfl

/-- What stands before a 7-bit byte is read as if nothing came after. -/
theorem scanFrom_append (hb : b.toNat < 0x80) (rest bs : Bytes) :
    ∀ u : Option Unfinished, (∀ v ∈ u, 0x80 ≤ v.low.toNat) →
      scanFrom u (bs ++ b :: rest) = scanFrom u bs ++ scanFrom none (b :: rest) := by
  induction bs with
  | nil =>
      intro u hu
      cases u with
      | none => rfl
      | some v =>
          have hv := hu v rfl
          have hout : ¬ (v.low ≤ b ∧ b ≤ v.high) := by
            rw [UInt8.le_iff_toNat_le]
            omega
          rw [List.nil_append, scanFrom_break hout, scanFrom]
          rfl
  | cons a bs ih =>
      have hnone := ih none (by simp)
      have hfresh : scanFrom none ((a :: bs) ++ b :: rest) =
          scanFrom none (a :: bs) ++ scanFrom none (b :: rest) := by
        rw [List.cons_append, scanFrom, scanFrom]
        cases hs : start a with
        | whole c => exact congrArg (some c :: ·) hnone
        | opening v =>
            refine ih (some v) fun w hw => ?_
            obtain rfl := Option.some.inj hw
            exact low_of_start hs
        | stray => exact congrArg (none :: ·) hnone
      intro u hu
      cases u with
      | none => exact hfresh
      | some v =>
          obtain ⟨missing, low, high, bits⟩ := v
          by_cases hin : low ≤ a ∧ a ≤ high
          · by_cases hm : missing ≤ 1
            · rw [List.cons_append, scanFrom_last hm hin, scanFrom_last hm hin, hnone]
              rfl
            · rw [Nat.not_le] at hm
              rw [List.cons_append, scanFrom_more hm hin, scanFrom_more hm hin]
              refine ih _ fun w hw => ?_
              obtain rfl := Option.some.inj hw
              exact Nat.le_refl _
          · rw [List.cons_append, scanFrom_break hin, scanFrom_break hin]
            exact congrArg (none :: ·) hfresh

theorem decodeLossy_append_return (bs : Bytes) :
    decodeLossy (bs ++ [13]) = decodeLossy bs ++ "\r" := by
  have hscan : scan (bs ++ [13]) = scan bs ++ [some '\r'] :=
    scanFrom_append (by decide) [] bs none (by simp)
  unfold decodeLossy
  rw [hscan, List.map_append, String.ofList_append]
  rfl

end Utf8

namespace Prompt

/-! ### Carriage returns put in -/

/-- An input with a carriage return before each line feed. -/
def crlf (input : Bytes) : Bytes := input.flatMap fun b => if b = 10 then [13, 10] else [b]

theorem crlf_of_not_mem {l : Bytes} (h : 10 ∉ l) : crlf l = l := by
  unfold crlf
  induction l with
  | nil => rfl
  | cons b l ih =>
      have hb : b ≠ 10 := fun e => h (e ▸ List.mem_cons_self)
      rw [List.flatMap_cons, if_neg hb, ih fun hm => h (List.mem_cons_of_mem _ hm)]
      rfl

theorem crlf_append (l : Bytes) (rest : Bytes) (h : 10 ∉ l) :
    crlf (l ++ 10 :: rest) = (l ++ [13]) ++ 10 :: crlf rest := by
  have hl := crlf_of_not_mem h
  unfold crlf at hl ⊢
  rw [List.flatMap_append, hl, List.flatMap_cons, if_pos rfl]
  simp

theorem withoutReturn_append (l : Bytes) : withoutReturn (l ++ [13]) = l := by
  simp [withoutReturn]

theorem withoutReturn_of_not_mem {l : Bytes} (h : 13 ∉ l) : withoutReturn l = l := by
  unfold withoutReturn
  rw [if_neg fun hl => h (List.mem_of_getLast? hl)]

/-- The lines are the same, since each loses what was put in. -/
theorem lines_crlf {input : Bytes} (h : 13 ∉ input) : lines (crlf input) = lines input := by
  have hl : ∀ {ls}, Lines input ls → Lines (crlf input) ls := by
    intro ls hl
    induction hl with
    | none => exact .none
    | unended hne hn =>
        rw [crlf_of_not_mem hn]
        exact .unended hne hn
    | @ended l rest ls hn _ ih =>
        rw [List.mem_append, not_or] at h
        have hrest : 13 ∉ rest := fun hm => h.2 (List.mem_cons_of_mem _ hm)
        have hn' : 10 ∉ l ++ [13] := by simpa using hn
        have he := Lines.ended hn' (ih hrest)
        rw [withoutReturn_append] at he
        rwa [crlf_append l rest hn, withoutReturn_of_not_mem h.1]
  exact (lines_iff.mp (hl (lines_spec input))).symm

/-! ### A line feed put at the end -/

/-- The last line, if no line feed ends it, loses a carriage return when one does. -/
theorem lines_append_feed {input : Bytes} (h0 : input ≠ []) (hlast : input.getLast? ≠ some 10) :
    ∃ ls l, lines input = ls ++ [l] ∧ lines (input ++ [10]) = ls ++ [withoutReturn l] := by
  have hl : ∀ {ls}, Lines input ls → ∃ before l, ls = before ++ [l] ∧
      Lines (input ++ [10]) (before ++ [withoutReturn l]) := by
    intro ls hl
    induction hl with
    | none => exact absurd rfl h0
    | @unended l hne hn => exact ⟨[], l, rfl, .ended hn .none⟩
    | @ended l rest ls hn hrest ih =>
        rw [List.getLast?_append, List.getLast?_cons] at hlast
        have hr0 : rest ≠ [] := by
          rintro rfl
          exact hlast rfl
        have hrlast : rest.getLast? ≠ some 10 := by
          intro hr
          rw [hr] at hlast
          exact hlast rfl
        obtain ⟨before, k, rfl, hk⟩ := ih hr0 hrlast
        refine ⟨withoutReturn l :: before, k, rfl, ?_⟩
        rw [List.append_assoc, List.cons_append, List.cons_append]
        exact .ended hn hk
  obtain ⟨ls, l, he, hf⟩ := hl (lines_spec input)
  exact ⟨ls, l, he, (lines_iff.mp hf).symm⟩

variable (s : Signer)

/-- A key is read the same without a carriage return at its end. -/
theorem signRound_withoutReturn (data number key : Bytes) :
    signRound s data number (withoutReturn key) = signRound s data number key := by
  unfold withoutReturn
  split_ifs with h
  · obtain ⟨k, rfl⟩ := List.getLast?_eq_some_iff.mp h
    have hk := Text.trim_append_right (w := "\r") (by decide) (Utf8.decodeLossy k)
    rw [List.dropLast_concat]
    unfold signRound Signer.reportOn
    rw [Utf8.decodeLossy_append_return, Signer.prepare_of_trim_eq rfl hk]
  · rfl

/-- Two prompts that differ in answers that no round has used yet. -/
structure SameButLast (p q : Prompt) : Prop where
  tally : p.tally = q.tally
  question : p.question = q.question

theorem SameButLast.finish {p q : Prompt} (h : SameButLast p q) : p.finish = q.finish := by
  unfold Prompt.finish
  rw [h.tally]

/-- A line brings about the same without a carriage return at its end, if it is a key; and if it is
not, it brings about nothing yet. -/
theorem answer_withoutReturn (p : Prompt) (l : Bytes) :
    SameButLast (p.answer s l).1 (p.answer s (withoutReturn l)).1 ∧
      (p.answer s l).2 = (p.answer s (withoutReturn l)).2 := by
  obtain ⟨given, t⟩ := p
  match given with
  | [] => exact ⟨⟨rfl, rfl⟩, rfl⟩
  | [_] => exact ⟨⟨rfl, rfl⟩, rfl⟩
  | [data, number] =>
      have h := signRound_withoutReturn s data number l
      unfold answer
      dsimp only
      rw [h]
      exact ⟨⟨rfl, rfl⟩, rfl⟩
  | _ :: _ :: _ :: _ => exact ⟨⟨rfl, rfl⟩, rfl⟩

/-- So does a whole input whose last line it is. -/
theorem runFrom_withoutReturn (l : Bytes) (ls : List Bytes) : ∀ p : Prompt,
    (runFrom s p (ls ++ [l])).1.tally = (runFrom s p (ls ++ [withoutReturn l])).1.tally ∧
      (runFrom s p (ls ++ [l])).2 = (runFrom s p (ls ++ [withoutReturn l])).2 := by
  induction ls with
  | nil =>
      intro p
      obtain ⟨hp, hw⟩ := answer_withoutReturn s p l
      rw [List.nil_append, List.nil_append]
      simp only [runFrom]
      rw [hw, hp.question, hp.finish]
      exact ⟨hp.tally, rfl⟩
  | cons k ls ih =>
      intro p
      obtain ⟨ht, hw⟩ := ih (p.answer s k).1
      rw [List.cons_append, List.cons_append]
      simp only [runFrom]
      rw [hw]
      exact ⟨ht, rfl⟩

/-- **Line ends do not matter.**  A prompt writes the same and counts the same if the line feeds of
an input without carriage returns are all preceded by one, and if a line feed is put at the end of
an input whose last line has none. -/
theorem line_ends (input : Bytes) :
    (13 ∉ input → run s (crlf input) = run s input) ∧
    (input ≠ [] → input.getLast? ≠ some 10 → run s (input ++ [10]) = run s input) := by
  constructor
  · intro h
    unfold run
    rw [lines_crlf h]
  · intro h0 hlast
    obtain ⟨ls, l, he, hf⟩ := lines_append_feed h0 hlast
    obtain ⟨ht, hw⟩ := runFrom_withoutReturn s l ls {}
    unfold run
    rw [he, hf]
    exact Prod.ext ht.symm hw.symm

/-- A round under either line ends, and one whose key ends in a character cut short and a carriage
return. -/
theorem line_ends_round :
    13 ∉ Utf8.encode "hi\n7\nAAAAAAAAAAAAAAAAAAAAAA==\n" ∧
    run .standard (Utf8.encode "hi\r\n7\r\nAAAAAAAAAAAAAAAAAAAAAA==\r\n") =
      run .standard (Utf8.encode "hi\n7\nAAAAAAAAAAAAAAAAAAAAAA==\n") ∧
    (Utf8.encode "hi\n7\nAAAA" ++ [0xE2, 0x82, 13]).getLast? ≠ some 10 ∧
    run .standard (Utf8.encode "hi\n7\nAAAA" ++ [0xE2, 0x82, 13] ++ [10]) =
      run .standard (Utf8.encode "hi\n7\nAAAA" ++ [0xE2, 0x82, 13]) := by
  have hreturn : 13 ∉ Utf8.encode "hi\n7\nAAAAAAAAAAAAAAAAAAAAAA==\n" := by decide
  have hlast : (Utf8.encode "hi\n7\nAAAA" ++ [0xE2, 0x82, 13]).getLast? ≠ some 10 := by decide
  have hcrlf : Utf8.encode "hi\r\n7\r\nAAAAAAAAAAAAAAAAAAAAAA==\r\n" =
      crlf (Utf8.encode "hi\n7\nAAAAAAAAAAAAAAAAAAAAAA==\n") := by decide
  rw [hcrlf]
  exact ⟨hreturn, (line_ends .standard _).1 hreturn, hlast,
    (line_ends .standard _).2 (by decide) hlast⟩

end Prompt
end PacketAuth
