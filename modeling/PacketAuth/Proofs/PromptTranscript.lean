import PacketAuth.Prompt
import PacketAuth.Proofs.Streams

/-! # The transcript of a prompt

What a prompt writes to an input of any bytes, said without the prompt's state: the input has one
division into lines (`Lines`), every three of them make a round (`rounds`), and either stream lists
what the rounds write, in order (`run_transcript`). -/

namespace PacketAuth.Prompt

/-! ### Lines -/

/-- A line without the carriage return at its end, if there is one. -/
def withoutReturn (l : Bytes) : Bytes := if l.getLast? = some 13 then l.dropLast else l

/-- `Lines input ls`: cut after each line feed, `input` is made of the lines `ls`.  A line that a
line feed ends loses it and at most one carriage return before it; bytes after the last line feed
are a line that keeps all of them. -/
inductive Lines : Bytes → List Bytes → Prop
  | none : Lines [] []
  | unended {l : Bytes} : l ≠ [] → 10 ∉ l → Lines l [l]
  | ended {l rest : Bytes} {ls : List Bytes} :
      10 ∉ l → Lines rest ls → Lines (l ++ 10 :: rest) (withoutReturn l :: ls)

theorem reverse_dropReturn (l : Bytes) : (dropReturn l.reverse).reverse = withoutReturn l := by
  unfold withoutReturn
  rcases List.eq_nil_or_concat l with rfl | ⟨l, b, rfl⟩
  · rfl
  · by_cases hb : b = 13 <;> simp [dropReturn, hb]

theorem linesFrom_of_not_mem {l : Bytes} (h : 10 ∉ l) : ∀ read : Bytes,
    linesFrom read l = if read.reverse ++ l = [] then [] else [read.reverse ++ l] := by
  induction l with
  | nil =>
      intro read
      simp [linesFrom, List.isEmpty_iff]
  | cons b l ih =>
      intro read
      have hb : b ≠ 10 := fun e => h (e ▸ List.mem_cons_self)
      rw [linesFrom, if_neg hb, ih (fun hm => h (List.mem_cons_of_mem _ hm))]
      simp

theorem linesFrom_append {l : Bytes} (h : 10 ∉ l) (rest : Bytes) : ∀ read : Bytes,
    linesFrom read (l ++ 10 :: rest) = withoutReturn (read.reverse ++ l) :: lines rest := by
  induction l with
  | nil =>
      intro read
      rw [List.nil_append, List.append_nil, linesFrom, if_pos rfl, ← reverse_dropReturn,
        List.reverse_reverse]
      rfl
  | cons b l ih =>
      intro read
      have hb : b ≠ 10 := fun e => h (e ▸ List.mem_cons_self)
      rw [List.cons_append, linesFrom, if_neg hb, ih (fun hm => h (List.mem_cons_of_mem _ hm))]
      simp

theorem lines_spec (input : Bytes) : Lines input (lines input) := by
  induction hn : input.length using Nat.strongRecOn generalizing input with
  | _ n ih =>
      unfold lines
      by_cases h : 10 ∈ input
      · obtain ⟨l, rest, rfl, hl⟩ := List.eq_append_cons_of_mem h
        rw [List.length_append, List.length_cons] at hn
        rw [linesFrom_append hl]
        exact .ended hl (ih rest.length (by omega) rest rfl)
      · rw [linesFrom_of_not_mem h, List.reverse_nil, List.nil_append]
        split_ifs with he
        · rw [he]
          exact .none
        · exact .unended he h

/-- An input has exactly one division into lines, which is the one that the prompt reads. -/
theorem lines_iff {input : Bytes} {ls : List Bytes} : Lines input ls ↔ ls = lines input := by
  constructor
  · intro h
    induction h with
    | none => rfl
    | unended hl hn =>
        unfold lines
        rw [linesFrom_of_not_mem hn, List.reverse_nil, List.nil_append, if_neg hl]
    | ended hn _ ih =>
        unfold lines
        rw [linesFrom_append hn, List.reverse_nil, List.nil_append, ih]
  · rintro rfl
    exact lines_spec input

/-! ### Rounds -/

/-- The questions of a round. -/
def questions : List String :=
  ["Enter packet data to sign> ", "Enter the packet number.> ",
    "Enter the signing key (base64 encoded)> "]

/-- The outcomes of the rounds that have all three of their lines. -/
def rounds (s : Signer) (ls : List Bytes) : List (Except Failure Report) :=
  (List.range (ls.length / 3)).map fun i =>
    signRound s (ls.getD (3 * i) []) (ls.getD (3 * i + 1) []) (ls.getD (3 * i + 2) [])

/-- What a round writes to the output stream, apart from its questions. -/
def reply : Except Failure Report → String
  | .ok r => "Packet signature: " ++ r.signature.text ++ "\n"
  | .error _ => ""

/-- What a round writes to the error stream. -/
def complaint : Except Failure Report → String
  | .ok _ => ""
  | .error f => "error: " ++ f.message ++ "\n"

theorem rounds_cons (s : Signer) (a b c : Bytes) (rest : List Bytes) :
    rounds s (a :: b :: c :: rest) = signRound s a b c :: rounds s rest := by
  unfold rounds
  have hl : (a :: b :: c :: rest).length / 3 = rest.length / 3 + 1 := by
    simp only [List.length_cons]
    omega
  rw [hl, List.range_succ_eq_map, List.map_cons, List.map_map]
  rfl

theorem rounds_unfinished (s : Signer) {ls : List Bytes} (h : ls.length < 3) :
    rounds s ls = [] := by
  unfold rounds
  rw [Nat.div_eq_of_lt h]
  rfl

theorem length_rounds (s : Signer) (ls : List Bytes) : (rounds s ls).length = ls.length / 3 := by
  simp [rounds]

/-! ### What is written -/

theorem stdout_outcome (r : Except Failure Report) : Transcript.stdout (outcome r) = reply r := by
  cases r with
  | error f =>
      unfold outcome
      rw [Transcript.stdout_cons, Transcript.stdout_cons, Transcript.stdout_nil]
      rfl
  | ok r =>
      unfold outcome
      rw [Transcript.stdout_append, Transcript.stdout_map_log, Transcript.stdout_cons,
        Transcript.stdout_nil, String.append_empty, String.empty_append]
      rfl

theorem stderr_outcome (r : Except Failure Report) :
    Transcript.stderr [] (outcome r) = complaint r := by
  cases r with
  | error f =>
      unfold outcome
      rw [Transcript.stderr_cons, Entry.stderr_log, Transcript.stderr_cons, Transcript.stderr_nil,
        String.append_empty, String.empty_append]
      rfl
  | ok r =>
      unfold outcome
      rw [Transcript.stderr_append, Transcript.stderr_map_log, Transcript.stderr_cons,
        Transcript.stderr_nil]
      rfl

theorem stdout_questions (qs : List String) :
    Transcript.stdout (qs.map .out) = String.join qs := by
  induction qs with
  | nil => rfl
  | cons q qs ih =>
      rw [List.map_cons, Transcript.stdout_cons, ih, String.join_cons]
      rfl

theorem stderr_questions (qs : List String) : Transcript.stderr [] (qs.map .out) = "" := by
  induction qs with
  | nil => rfl
  | cons q qs ih =>
      rw [List.map_cons, Transcript.stderr_cons, ih]
      rfl

/-- One round: three questions, what their answers bring about, and the prompt as before them. -/
theorem runFrom_round (s : Signer) (t : Tally) (a b c : Bytes) (rest : List Bytes) :
    runFrom s ⟨[], t⟩ (a :: b :: c :: rest) =
      ((runFrom s ⟨[], Tally.count t (signRound s a b c)⟩ rest).1,
        questions.map .out ++ (outcome (signRound s a b c) ++
          (runFrom s ⟨[], Tally.count t (signRound s a b c)⟩ rest).2)) := rfl

/-- An input that ends within a round: one question more than there are answers. -/
theorem runFrom_unfinished (s : Signer) (t : Tally) {ls : List Bytes} (h : ls.length < 3) :
    runFrom s ⟨[], t⟩ ls =
      (⟨ls, t⟩, (questions.take (ls.length + 1)).map .out ++
        [.log (.finished t.signed t.rejected)]) := by
  match ls with
  | [] => rfl
  | [_] => rfl
  | [_, _] => rfl
  | _ :: _ :: _ :: _ => simp at h; omega

/-- Lines in threes, and fewer than three at the end. -/
theorem threes_induction {P : List Bytes → Prop} (unfinished : ∀ ls, ls.length < 3 → P ls)
    (round : ∀ a b c rest, P rest → P (a :: b :: c :: rest)) : ∀ ls, P ls
  | [] => unfinished [] (by simp)
  | [a] => unfinished [a] (by simp)
  | [a, b] => unfinished [a, b] (by simp)
  | a :: b :: c :: rest => round a b c rest (threes_induction unfinished round rest)

variable (s : Signer)

theorem stdout_runFrom (ls : List Bytes) : ∀ t : Tally,
    Transcript.stdout (runFrom s ⟨[], t⟩ ls).2 =
      String.join ((rounds s ls).map fun r => String.join questions ++ reply r) ++
        String.join (questions.take (ls.length % 3 + 1)) := by
  induction ls using threes_induction with
  | unfinished ls h =>
      intro t
      rw [runFrom_unfinished s t h, rounds_unfinished s h, Nat.mod_eq_of_lt h,
        Transcript.stdout_append, stdout_questions]
      simp [Entry.stdout]
  | round a b c rest ih =>
      intro t
      have hl : (a :: b :: c :: rest).length % 3 = rest.length % 3 := by
        simp only [List.length_cons]
        omega
      rw [runFrom_round, rounds_cons, hl]
      simp only [Transcript.stdout_append, stdout_questions, stdout_outcome, ih, List.map_cons,
        String.join_cons, String.append_assoc]

theorem stderr_runFrom (ls : List Bytes) : ∀ t : Tally,
    Transcript.stderr [] (runFrom s ⟨[], t⟩ ls).2 = String.join ((rounds s ls).map complaint) := by
  induction ls using threes_induction with
  | unfinished ls h =>
      intro t
      rw [runFrom_unfinished s t h, rounds_unfinished s h, Transcript.stderr_append,
        stderr_questions, Transcript.stderr_cons, Entry.stderr_log]
      rfl
  | round a b c rest ih =>
      intro t
      rw [runFrom_round, rounds_cons]
      simp only [Transcript.stderr_append, stderr_questions, stderr_outcome, ih, List.map_cons,
        String.join_cons, String.empty_append]

theorem tally_runFrom (ls : List Bytes) : ∀ t : Tally,
    (runFrom s ⟨[], t⟩ ls).1.tally.signed = t.signed + (rounds s ls).countP (·.isOk) ∧
      (runFrom s ⟨[], t⟩ ls).1.tally.signed + (runFrom s ⟨[], t⟩ ls).1.tally.rejected =
        t.signed + t.rejected + (rounds s ls).length := by
  induction ls using threes_induction with
  | unfinished ls h =>
      intro t
      rw [runFrom_unfinished s t h, rounds_unfinished s h]
      simp
  | round a b c rest ih =>
      intro t
      obtain ⟨h1, h2⟩ := ih (Tally.count t (signRound s a b c))
      rw [runFrom_round, rounds_cons, List.countP_cons, List.length_cons]
      cases hr : signRound s a b c with
      | error f =>
          have hf : (Except.error f : Except Failure Report).isOk = false := rfl
          rw [hr] at h1 h2
          simp only [Tally.count] at h1 h2
          simp only [Tally.count, hf, Bool.false_eq_true, if_false]
          omega
      | ok r =>
          have ht : (Except.ok r : Except Failure Report).isOk = true := rfl
          rw [hr] at h1 h2
          simp only [Tally.count] at h1 h2
          simp only [Tally.count, ht, if_true]
          omega

/-- **The transcript of a prompt.**  An input has one division into lines.  The output stream holds
the questions and the reply of each complete round and then the questions up to the one that got no
answer; the error stream holds the complaints of the rounds; and the tally counts the rounds. -/
theorem run_transcript (input : Bytes) : ∃ ls, (∀ other, Lines input other ↔ other = ls) ∧
    Transcript.stdout (run s input).2 =
      String.join ((rounds s ls).map fun r => String.join questions ++ reply r) ++
        String.join (questions.take (ls.length % 3 + 1)) ∧
    Transcript.stderr [] (run s input).2 = String.join ((rounds s ls).map complaint) ∧
    (run s input).1.signed = (rounds s ls).countP (·.isOk) ∧
    (run s input).1.signed + (run s input).1.rejected = ls.length / 3 := by
  refine ⟨lines input, fun _ => lines_iff, ?_, ?_, ?_, ?_⟩
  · exact stdout_runFrom s (lines input) {}
  · exact stderr_runFrom s (lines input) {}
  · have h := (tally_runFrom s (lines input) {}).1
    rwa [Nat.zero_add] at h
  · have h := (tally_runFrom s (lines input) {}).2
    rwa [Nat.zero_add, Nat.zero_add, length_rounds] at h

end PacketAuth.Prompt
