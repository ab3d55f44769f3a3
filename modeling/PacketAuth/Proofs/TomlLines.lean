import PacketAuth.Proofs.WrittenDecimal
import PacketAuth.Toml.Document

/-! # Written TOML lines

Some lines of a document as they are usually written, and what they are read as: a header in single
brackets, and an entry of a bare key with a basic string or an integer.  Each is read up to its line
end, whatever comes after (`Toml.ReadsAs`), so that a text of such lines is read line by line
(`Toml.parse_layout`).  A header and entries of different keys are one table
(`Toml.ofLines_header`). -/

namespace PacketAuth

open Text (expect)

namespace Toml
variable {name cs rest : List Char}

/-! ### Line ends -/

/-- The two ways to end a line. -/
inductive LineEnd where
  | lf
  | crlf
deriving DecidableEq, Repr

def LineEnd.chars : LineEnd → List Char
  | lf => ['\n']
  | crlf => ['\r', '\n']

/-- Where a line ends: at a line end or with the text. -/
inductive AtEnd : List Char → Prop
  | text : AtEnd []
  | line (e : LineEnd) (rest : List Char) : AtEnd (e.chars ++ rest)

/-- No other character than those of a line end comes first where a line ends. -/
theorem AtEnd.head (h : AtEnd rest) {c : Char} (hc : rest.head? = some c) :
    c = '\n' ∨ c = '\r' := by
  cases h with
  | text => cases hc
  | line e rest =>
      cases e with
      | lf => exact Or.inl (Option.some.inj hc).symm
      | crlf => exact Or.inr (Option.some.inj hc).symm

theorem AtEnd.not_isDigit (h : AtEnd rest) {c : Char} (hc : rest.head? = some c) :
    ¬ Decimal.IsDigit c := by
  rcases h.head hc with rfl | rfl <;> decide

theorem skipBlanks_cons {c : Char} (h : isBlank c = false) (cs : List Char) :
    skipBlanks (c :: cs) = c :: cs := by
  unfold skipBlanks
  rw [List.dropWhile_cons_of_neg (by simp [h])]

theorem AtEnd.skipBlanks_eq (h : AtEnd rest) : skipBlanks rest = rest := by
  cases rest with
  | nil => rfl
  | cons c cs =>
      apply skipBlanks_cons
      rcases h.head rfl with rfl | rfl <;> decide

/-! ### Keys -/

theorem takeWhile_append_of_head {p : Char → Bool} (hn : ∀ c ∈ name, p c = true)
    (hr : ∀ c, rest.head? = some c → p c = false) : (name ++ rest).takeWhile p = name := by
  rw [List.takeWhile_append_of_pos hn]
  cases rest with
  | nil => rw [List.takeWhile_nil, List.append_nil]
  | cons c cs => rw [List.takeWhile_cons_of_neg (by simp [hr c rfl]), List.append_nil]

theorem dropWhile_append_of_head {p : Char → Bool} (hn : ∀ c ∈ name, p c = true)
    (hr : ∀ c, rest.head? = some c → p c = false) : (name ++ rest).dropWhile p = rest := by
  rw [List.dropWhile_append_of_pos hn]
  cases rest with
  | nil => rfl
  | cons c cs => rw [List.dropWhile_cons_of_neg (by simp [hr c rfl])]

/-- A key that needs no quotes. -/
structure IsBare (name : List Char) : Prop where
  ne_nil : name ≠ []
  bare : ∀ c ∈ name, inBareKey c = true

theorem isBare_of_all (h0 : name ≠ []) (h : name.all inBareKey = true) : IsBare name :=
  ⟨h0, List.all_eq_true.mp h⟩

theorem keyPart_bare (hn : IsBare name) (hr : ∀ c, rest.head? = some c → inBareKey c = false) :
    keyPart (name ++ rest) = some (String.ofList name, rest) := by
  obtain ⟨h0, hn⟩ := hn
  cases name with
  | nil => exact absurd rfl h0
  | cons c name =>
      have hc := hn c List.mem_cons_self
      unfold keyPart
      split
      · next h =>
          rw [(List.cons.inj h).1] at hc
          exact absurd hc (by decide)
      · next h =>
          rw [(List.cons.inj h).1] at hc
          exact absurd hc (by decide)
      · rw [takeWhile_append_of_head hn hr, dropWhile_append_of_head hn hr]

theorem keyRest_of_head (h : cs.head? ≠ some '.') (fuel : Nat) :
    keyRest (fuel + 1) cs = some ([], cs) := by
  cases cs with
  | nil => rfl
  | cons c cs =>
      have hc : c ≠ '.' := fun he => h (congrArg some he)
      rw [keyRest]
      intro cs' he
      exact hc (List.cons.inj he).1

theorem isBlank_of_inBareKey {c : Char} (h : inBareKey c = true) : isBlank c = false := by
  cases hb : isBlank c with
  | false => rfl
  | true =>
      simp only [isBlank, Bool.or_eq_true, decide_eq_true_eq] at hb
      rcases hb with rfl | rfl <;> exact absurd h (by decide)

/-- A bare key is read up to the blanks after it, if no point follows these. -/
theorem key_bare (hn : IsBare name) (hr : ∀ c, rest.head? = some c → inBareKey c = false)
    (hd : (skipBlanks rest).head? ≠ some '.') :
    key (name ++ rest) = some (([], String.ofList name), skipBlanks rest) := by
  have hs : skipBlanks (name ++ rest) = name ++ rest := by
    obtain ⟨h0, hn⟩ := hn
    cases name with
    | nil => exact absurd rfl h0
    | cons c name => exact skipBlanks_cons (isBlank_of_inBareKey (hn c List.mem_cons_self)) _
  unfold key
  simp only [hs, keyPart_bare hn hr, keyRest_of_head hd, Option.bind_eq_bind, Option.bind_some]
  rfl

/-! ### Strings -/

theorem basicBody_plain {s : List Char} (hs : ∀ c ∈ s, inBasic c = true) (rest : List Char) :
    ∀ (read : List Char) {fuel : Nat}, s.length < fuel →
      basicBody read fuel (s ++ '"' :: rest) = some (String.ofList (read.reverse ++ s), rest) := by
  induction s with
  | nil =>
      intro read fuel hf
      obtain ⟨fuel, rfl⟩ := Nat.exists_eq_add_one.mpr hf
      rw [List.nil_append, basicBody, if_pos rfl, List.append_nil]
  | cons c s ih =>
      intro read fuel hf
      obtain ⟨fuel, rfl⟩ := Nat.exists_eq_add_one.mpr (Nat.zero_lt_of_lt hf)
      have hc := hs c List.mem_cons_self
      have hq : c ≠ '"' ∧ c ≠ '\\' := by
        simp only [inBasic, Bool.and_eq_true, decide_eq_true_eq] at hc
        exact ⟨hc.1.2, hc.2⟩
      rw [List.cons_append, basicBody, if_neg hq.1, if_neg hq.2, if_pos hc,
        ih (fun d hd => hs d (List.mem_cons_of_mem _ hd)) _ (Nat.lt_of_succ_lt_succ hf),
        List.reverse_cons, List.append_assoc]
      rfl

/-- A quote begins a basic string on one line, unless two more follow it. -/
theorem string_of_quote (h : ∀ more, cs ≠ '"' :: '"' :: more) :
    string ('"' :: cs) = basicBody [] (cs.length + 1) cs := by
  rw [string]
  exact h

/-- A basic string without escapes holds its characters. -/
theorem string_plain {s : List Char} (hs : ∀ c ∈ s, inBasic c = true)
    (hr : rest.head? ≠ some '"') :
    string ('"' :: (s ++ '"' :: rest)) = some (String.ofList s, rest) := by
  rw [string_of_quote, basicBody_plain hs]
  · rfl
  · rw [List.length_append]
    omega
  · intro more h
    cases s with
    | nil =>
        -- after an empty string a third quote would have to come
        rw [List.nil_append, List.cons.injEq] at h
        exact hr (by rw [h.2]; rfl)
    | cons c s =>
        obtain rfl := (List.cons.inj h).1
        exact absurd (hs _ List.mem_cons_self) (by decide)

/-! ### Integers -/

open Decimal (IsDigit digit? digitValue positional Denotes BeginsInteger)

section digits
variable {ds : List Char} (hd : ∀ c ∈ ds, IsDigit c) (hr : AtEnd rest)
include hd hr

/-- After digits and where the line ends, no other character comes next. -/
theorem head_digits_ne {x : Char} (hx : ¬ IsDigit x ∧ x ≠ '\n' ∧ x ≠ '\r') :
    (ds ++ rest).head? ≠ some x := by
  intro h
  cases ds with
  | nil =>
      rcases hr.head h with rfl | rfl
      · exact hx.2.1 rfl
      · exact hx.2.2 rfl
  | cons d ds =>
      obtain rfl := Option.some.inj h
      exact hx.1 (hd _ List.mem_cons_self)

omit hr in
/-- As many digits as a date or a time asks for leave digits, and what comes after them. -/
theorem exists_digits_of_exactly {k n m : Nat} {left : List Char}
    (hh : ∀ c, rest.head? = some c → ¬ IsDigit c)
    (h : Text.exactly 10 digit? k n (ds ++ rest) = some (m, left)) :
    ∃ more : List Char, (∀ c ∈ more, IsDigit c) ∧ left = more ++ rest := by
  induction k generalizing n ds with
  | zero =>
      rw [Text.exactly, Option.some.injEq, Prod.mk.injEq] at h
      exact ⟨ds, hd, h.2.symm⟩
  | succ k ih =>
      cases ds with
      | nil =>
          cases rest with
          | nil => cases h
          | cons c cs =>
              obtain ⟨v, hv, -⟩ := Option.bind_eq_some_iff.mp h
              exact absurd (Decimal.digit?_eq_some_iff.mp hv).1 (hh c rfl)
      | cons d ds =>
          obtain ⟨v, -, h⟩ := Option.bind_eq_some_iff.mp h
          exact ih (fun c hc => hd c (List.mem_cons_of_mem _ hc)) h

theorem moreDigits_digits {fuel : Nat} (hf : ds.length < fuel) :
    moreDigits digit? fuel (ds ++ rest) = some (ds.map digitValue, rest) := by
  induction ds generalizing fuel with
  | nil =>
      obtain ⟨fuel, rfl⟩ := Nat.exists_eq_add_one.mpr hf
      cases hr with
      | text => rfl
      | line e rest => cases e <;> rfl
  | cons d ds ih =>
      obtain ⟨fuel, rfl⟩ := Nat.exists_eq_add_one.mpr (Nat.zero_lt_of_lt hf)
      have hdd := hd d List.mem_cons_self
      have hv : digit? d = some (digitValue d) := Decimal.digit?_eq_some_iff.mpr ⟨hdd, rfl⟩
      have hu : d ≠ '_' := by
        rintro rfl
        exact absurd hdd (by decide)
      rw [List.cons_append, moreDigits, hv]
      · simp only [ih (fun c hc => hd c (List.mem_cons_of_mem _ hc)) (Nat.lt_of_succ_lt_succ hf),
          Option.bind_eq_bind, Option.bind_some]
        rfl
      · exact hu

/-- Digits before the end of a line do not begin a date. -/
theorem beginsDate_digits : beginsDate (ds ++ rest) = false := by
  unfold beginsDate
  split
  · next h =>
      obtain ⟨more, hm, he⟩ := exists_digits_of_exactly hd (fun c => hr.not_isDigit) h
      exact absurd (congrArg List.head? he.symm) (head_digits_ne hm hr (by decide))
  · rfl

/-- Nor do they begin a time of day. -/
theorem time_digits : time (ds ++ rest) = none := by
  have hcolon : ∀ {left : List Char} {n : Nat},
      ranged 2 0 23 (ds ++ rest) = some (n, left) → expect [':'] left = none := by
    intro left n h
    obtain ⟨⟨m, left'⟩, hx, h⟩ := Option.bind_eq_some_iff.mp h
    obtain ⟨more, hm, rfl⟩ := exists_digits_of_exactly hd (fun c => hr.not_isDigit) hx
    have hl : left = more ++ rest := by
      dsimp only at h
      split_ifs at h
      exact (Prod.mk.inj (Option.some.inj h)).2.symm
    have hne := head_digits_ne hm hr (x := ':') (by decide)
    rw [hl]
    cases he : more ++ rest with
    | nil => rfl
    | cons c cs =>
        rw [he] at hne
        have hc : ':' ≠ c := fun hc => hne (congrArg some hc.symm)
        rw [expect, if_neg hc]
  unfold time
  cases h : ranged 2 0 23 (ds ++ rest) with
  | none => rfl
  | some p =>
      obtain ⟨n, left⟩ := p
      simp only [Option.bind_eq_bind, Option.bind_some, hcolon h, Option.bind_none]

omit hr in
theorem special_digits (h0 : ds ≠ []) (negative : Bool) : special negative (ds ++ rest) = none := by
  cases ds with
  | nil => exact absurd rfl h0
  | cons d ds =>
      have hdd := hd d List.mem_cons_self
      have hi : 'i' ≠ d := by
        rintro rfl
        exact absurd hdd (by decide)
      have hn : 'n' ≠ d := by
        rintro rfl
        exact absurd hdd (by decide)
      have hinf : expect "inf".toList (d :: ds ++ rest) = none := if_neg hi
      have hnan : expect "nan".toList (d :: ds ++ rest) = none := if_neg hn
      unfold special
      rw [hinf, hnan]
      rfl

end digits

theorem wholeDigits_toDigits (n : Nat) (hr : AtEnd rest) : wholeDigits (Nat.toDigits 10 n ++ rest) =
    some ((Nat.toDigits 10 n).map digitValue, rest) := by
  have hd : ∀ c ∈ Nat.toDigits 10 n, IsDigit c := fun c => Decimal.isDigit_of_mem_toDigits
  rcases Decimal.toDigits_cases n with h | ⟨d, ds, h, h0⟩
  · rw [h]
    rfl
  · rw [h] at hd ⊢
    have hv : digit? d = some (digitValue d) :=
      Decimal.digit?_eq_some_iff.mpr ⟨hd d List.mem_cons_self, rfl⟩
    have hf : ds.length < (ds ++ rest).length + 1 := by
      rw [List.length_append]
      omega
    have hm := moreDigits_digits (fun c hc => hd c (List.mem_cons_of_mem _ hc)) hr hf
    rw [List.cons_append, wholeDigits]
    · simp only [digits, hv, hm, Option.bind_eq_bind, Option.bind_some]
      rfl
    · intro cs h
      exact h0 (List.cons.inj h).1

theorem ofDigits_map_digitValue (ds : List Char) :
    ofDigits 10 (ds.map digitValue) = positional ds := Decimal.foldl_map_digitValue ds

/-- The integers that 64 bits with a sign can hold. -/
def Fits (v : Int) : Prop := -0x8000000000000000 ≤ v ∧ v < 0x8000000000000000

theorem bounded_of_fits {v : Int} (h : Fits v) : bounded v = some (.integer v) := if_pos h

/-- Once the sign is read, digits up to the end of the line are those of an integer. -/
theorem decimal_of_sign {negative : Bool} {n : Nat} (hr : AtEnd rest)
    (hs : sign cs = (negative, Nat.toDigits 10 n ++ rest))
    (hv : Fits (if negative then -(n : Int) else n)) :
    decimal cs = some (.integer (if negative then -(n : Int) else n), rest) := by
  have hd : ∀ c ∈ Nat.toDigits 10 n, IsDigit c := fun c => Decimal.isDigit_of_mem_toDigits
  have hf : fraction rest = some (none, rest) := by
    cases hr with
    | text => rfl
    | line e rest => cases e <;> rfl
  have he : exponent rest = some (none, rest) := by
    cases hr with
    | text => rfl
    | line e rest => cases e <;> rfl
  unfold decimal
  simp only [hs, special_digits hd Nat.toDigits_ne_nil, wholeDigits_toDigits n hr, hf, he,
    ofDigits_map_digitValue, Decimal.positional_toDigits, bounded_of_fits hv, and_self, if_true,
    Option.bind_eq_bind, Option.bind_some]
  rfl

/-- The text of an integer is no other number, and no date or time. -/
theorem numeric_toString {v : Int} (hv : Fits v) (hr : AtEnd rest) :
    numeric ((toString v).toList ++ rest) = some (.integer v, rest) := by
  cases v with
  | ofNat n =>
      have hd : ∀ c ∈ Nat.toDigits 10 n, IsDigit c := fun c => Decimal.isDigit_of_mem_toDigits
      -- a base would have to be marked by a letter right after a first zero
      have hmark : ∀ {x : Char} {more : List Char}, x ≠ '\n' ∧ x ≠ '\r' → ¬ IsDigit x →
          Nat.toDigits 10 n ++ rest ≠ '0' :: x :: more := by
        intro x more hx hdx he
        rcases Decimal.toDigits_cases n with h | ⟨d, ds, h, h0⟩
        · rw [h] at he
          have hrest : rest = x :: more := (List.cons.inj he).2
          rcases hr.head (congrArg List.head? hrest) with h | h
          · exact hx.1 h
          · exact hx.2 h
        · rw [h] at he
          exact h0 (List.cons.inj he).1
      have hsign : sign (Nat.toDigits 10 n ++ rest) = (false, Nat.toDigits 10 n ++ rest) := by
        unfold sign
        split
        · next h => exact absurd (congrArg List.head? h) (head_digits_ne hd hr (by decide))
        · next h => exact absurd (congrArg List.head? h) (head_digits_ne hd hr (by decide))
        · rfl
      rw [Int.ofNat_eq_natCast, Decimal.toList_toString_ofNat]
      unfold numeric
      rw [beginsDate_digits hd hr, time_digits hd hr, if_neg Bool.false_ne_true]
      dsimp only
      split
      · next h => exact absurd h (hmark (by decide) (by decide))
      · next h => exact absurd h (hmark (by decide) (by decide))
      · next h => exact absurd h (hmark (by decide) (by decide))
      · exact decimal_of_sign hr hsign hv
  | negSucc n =>
      have hs : sign ('-' :: Nat.toDigits 10 (n + 1) ++ rest) =
          (true, Nat.toDigits 10 (n + 1) ++ rest) := rfl
      rw [Decimal.toList_toString_negSucc]
      exact decimal_of_sign hr hs hv

/-! ### Values and entries -/

theorem value_of_head {c : Char} (hc : c ≠ '[' ∧ c ≠ '{') (depth : Nat) (cs : List Char) :
    value depth (c :: cs) = scalar (c :: cs) := by
  cases depth with
  | zero => rfl
  | succ depth =>
      rw [value]
      · intro d cs' _ h
        exact hc.1 (List.cons.inj h).1
      · intro d cs' _ h
        exact hc.2 (List.cons.inj h).1

/-- What begins like an integer is a number, a date or a time. -/
theorem scalar_of_beginsInteger {c : Char} (hc : BeginsInteger c) (cs : List Char) :
    scalar (c :: cs) = numeric (c :: cs) := by
  have hquote : ¬ (c = '"' ∨ c = '\'') := by
    rintro (h | h)
    · exact hc.ne (by decide) h
    · exact hc.ne (by decide) h
  have hspecial : ¬ (c = 'i' ∨ c = 'n') := by
    rintro (h | h)
    · exact hc.ne (by decide) h
    · exact hc.ne (by decide) h
  have hnumber : c = '+' ∨ c = '-' ∨ c.isDigit := by
    rcases hc with hc | hc
    · exact Or.inr (Or.inl hc)
    · refine Or.inr (Or.inr ?_)
      simpa [Char.isDigit, IsDigit, Char.le_def] using hc
  rw [scalar, if_neg hquote, if_neg (hc.ne (by decide)), if_neg (hc.ne (by decide)),
    if_neg hspecial, if_pos hnumber]

/-- `WrittenAs text v`: where the line ends after it, the text is read as the value. -/
structure WrittenAs (text : List Char) (v : Value) : Prop where
  starts : ∀ rest, skipBlanks (text ++ rest) = text ++ rest
  reads : ∀ {rest}, AtEnd rest → value maxDepth (text ++ rest) = some (v, rest)

theorem WrittenAs.string {s : String} (hs : ∀ c ∈ s.toList, inBasic c = true) :
    WrittenAs ('"' :: (s.toList ++ ['"'])) (.string s) where
  starts rest := skipBlanks_cons rfl _
  reads {rest} hr := by
    have hq : rest.head? ≠ some '"' := by
      intro h
      rcases hr.head h with h | h <;> exact absurd h (by decide)
    rw [List.cons_append, List.append_assoc, List.singleton_append, value_of_head (by decide),
      scalar, if_pos (Or.inl rfl), string_plain hs hq, String.ofList_toList]
    rfl

theorem WrittenAs.integer {v : Int} (hv : Fits v) : WrittenAs (toString v).toList (.integer v) := by
  obtain ⟨c, cs, h, hc⟩ := Decimal.exists_beginsInteger v
  have hblank : isBlank c = false := by
    simp [isBlank, hc.ne (x := ' ') (by decide), hc.ne (x := '\t') (by decide)]
  refine ⟨fun rest => ?_, fun {rest} hr => ?_⟩
  · rw [h]
    exact skipBlanks_cons hblank _
  · have hn := numeric_toString hv hr
    rw [h, List.cons_append] at hn ⊢
    rw [value_of_head ⟨hc.ne (by decide), hc.ne (by decide)⟩, scalar_of_beginsInteger hc, hn]

/-- An entry as it is usually written. -/
def entryText (name text : List Char) : List Char := name ++ ' ' :: '=' :: ' ' :: text

theorem entry_written {text : List Char} {v : Value} (hn : IsBare name) (hv : WrittenAs text v)
    (hr : AtEnd rest) :
    entry (value maxDepth) (entryText name text ++ rest) =
      some ((([], String.ofList name), v), rest) := by
  have hk : key (name ++ ' ' :: '=' :: ' ' :: (text ++ rest)) =
      some (([], String.ofList name), '=' :: ' ' :: (text ++ rest)) := by
    apply key_bare hn
    · intro c hc
      obtain rfl := Option.some.inj hc
      decide
    · intro h
      exact absurd (Option.some.inj h) (by decide)
  have hb : skipBlanks (' ' :: (text ++ rest)) = text ++ rest := hv.starts rest
  unfold entryText entry
  simp only [List.append_assoc, List.cons_append, hk, expect, if_true, Option.bind_eq_bind,
    Option.bind_some, hb, hv.reads hr, hr.skipBlanks_eq]
  rfl

/-! ### Lines -/

/-- `ReadsAs cs l`: where the line ends after them, the characters are read as the line. -/
structure ReadsAs (cs : List Char) (l : Line) : Prop where
  ne_nil : cs ≠ []
  content : ∀ {rest}, AtEnd rest → lineContent (skipBlanks (cs ++ rest)) = some (l, rest)

theorem ReadsAs.entry {text : List Char} {v : Value} (hn : IsBare name) (hv : WrittenAs text v) :
    ReadsAs (entryText name text) (.entry ([], String.ofList name) v) := by
  have h0 := hn.ne_nil
  cases name with
  | nil => exact absurd rfl h0
  | cons c name =>
      have hc := hn.bare c List.mem_cons_self
      have hne : ∀ x : Char, inBareKey x = false → c ≠ x := by
        rintro x hx rfl
        rw [hx] at hc
        exact Bool.false_ne_true hc
      refine ⟨List.cons_ne_nil _ _, fun {rest} hr => ?_⟩
      have he := entry_written hn hv hr
      rw [entryText, List.cons_append, List.cons_append] at he ⊢
      rw [skipBlanks_cons (isBlank_of_inBareKey hc), lineContent, if_neg, he]
      · rfl
      · rintro (h | h | h)
        · exact hne _ (by decide) h
        · exact hne _ (by decide) h
        · exact hne _ (by decide) h
      · intro _ h
        exact absurd h (hne _ (by decide))
      · exact hne _ (by decide)

/-- A header of a name without points as it is usually written. -/
def headerText (name : List Char) : List Char := '[' :: (name ++ [']'])

theorem ReadsAs.header (hn : IsBare name) :
    ReadsAs (headerText name) (.header false ([], String.ofList name)) := by
  refine ⟨List.cons_ne_nil _ _, fun {rest} hr => ?_⟩
  have hk : key (name ++ ']' :: rest) = some (([], String.ofList name), ']' :: rest) := by
    apply key_bare hn
    · intro c hc
      obtain rfl := Option.some.inj hc
      decide
    · intro h
      exact absurd (Option.some.inj h) (by decide)
  rw [headerText, List.cons_append, List.append_assoc, List.singleton_append,
    skipBlanks_cons (by decide), lineContent]
  · simp only [hk, expect, if_true, Option.bind_eq_bind, Option.bind_some]
    rfl
  · intro cs h
    obtain ⟨h0, hn⟩ := hn
    cases name with
    | nil => exact absurd rfl h0
    | cons c name =>
        have hc := hn c List.mem_cons_self
        rw [(List.cons.inj h).1] at hc
        exact absurd hc (by decide)

theorem line_of_readsAs_text {l : Line} (h : ReadsAs cs l) : line cs = some (l, []) := by
  have hc := h.content .text
  rw [List.append_nil] at hc
  unfold line
  simp only [hc, Option.bind_eq_bind, Option.bind_some]
  rfl

theorem line_of_readsAs {l : Line} (h : ReadsAs cs l) (e : LineEnd) (rest : List Char) :
    line (cs ++ (e.chars ++ rest)) = some (l, rest) := by
  unfold line
  simp only [h.content (.line e rest), Option.bind_eq_bind, Option.bind_some,
    (AtEnd.line e rest).skipBlanks_eq]
  cases e <;> rfl

/-- The text of several lines, each with its end.  Without `closed` the last one has none. -/
def layout (e : LineEnd) (closed : Bool) : List (List Char) → List Char
  | [] => []
  | [cs] => cs ++ if closed then e.chars else []
  | cs :: more => cs ++ (e.chars ++ layout e closed more)

theorem layout_cons (e : LineEnd) (closed : Bool) (cs : List Char) {more : List (List Char)}
    (h : more ≠ []) : layout e closed (cs :: more) = cs ++ (e.chars ++ layout e closed more) := by
  cases more with
  | nil => exact absurd rfl h
  | cons cs' more => rfl

theorem ne_nil_of_readsAs {css : List (List Char)} {ls : List Line}
    (h : List.Forall₂ ReadsAs css ls) : ∀ cs ∈ css, cs ≠ [] := by
  induction h with
  | nil => exact fun _ hc => absurd hc List.not_mem_nil
  | cons h _ ih => exact List.forall_mem_cons.mpr ⟨h.ne_nil, ih⟩

/-- A text has no fewer characters than lines, if none of these is empty. -/
theorem length_le_length_layout (e : LineEnd) (closed : Bool) {css : List (List Char)}
    (h : ∀ cs ∈ css, cs ≠ []) : css.length ≤ (layout e closed css).length := by
  induction css with
  | nil => exact Nat.zero_le _
  | cons cs css ih =>
      have hc := List.length_pos_of_ne_nil (h cs List.mem_cons_self)
      have hm := ih fun cs hcs => h cs (List.mem_cons_of_mem _ hcs)
      by_cases h0 : css = []
      · subst h0
        simp only [layout, List.length_append, List.length_cons, List.length_nil]
        omega
      · rw [layout_cons e closed cs h0]
        simp only [List.length_append, List.length_cons]
        omega

theorem lines_of_line {l : Line} (h0 : cs ≠ []) (h : line cs = some (l, rest)) (fuel : Nat) :
    lines (fuel + 1) cs = (lines fuel rest).map (l :: ·) := by
  cases cs with
  | nil => exact absurd rfl h0
  | cons c cs =>
      rw [lines, h]
      · cases hl : lines fuel rest <;> simp [hl]
      · exact List.cons_ne_nil c cs

/-- The lines of a text are read one after the other. -/
theorem lines_layout (e : LineEnd) (closed : Bool) {css : List (List Char)} {ls : List Line}
    (h : List.Forall₂ ReadsAs css ls) :
    ∀ {fuel : Nat}, css.length < fuel → lines fuel (layout e closed css) = some ls := by
  induction h with
  | nil =>
      intro fuel hf
      obtain ⟨fuel, rfl⟩ := Nat.exists_eq_add_one.mpr hf
      rfl
  | @cons cs l css ls h hs ih =>
      intro fuel hf
      obtain ⟨fuel, rfl⟩ := Nat.exists_eq_add_one.mpr (Nat.zero_lt_of_lt hf)
      have hl : line (layout e closed (cs :: css)) = some (l, layout e closed css) := by
        by_cases hm : css = []
        · subst hm
          cases closed with
          | false => simpa [layout] using line_of_readsAs_text h
          | true => simpa [layout] using line_of_readsAs h e []
        · rw [layout_cons e closed cs hm]
          exact line_of_readsAs h e _
      have h0 : layout e closed (cs :: css) ≠ [] := by
        apply List.ne_nil_of_length_pos
        have hlen := length_le_length_layout e closed
          (List.forall_mem_cons.mpr ⟨h.ne_nil, ne_nil_of_readsAs hs⟩)
        exact Nat.lt_of_lt_of_le (Nat.zero_lt_succ _) hlen
      rw [lines_of_line h0 hl, ih (Nat.lt_of_succ_lt_succ hf)]
      rfl

/-- A text of lines is the document of the lines, unless it looks as if it began with a byte order
mark. -/
theorem parse_layout (e : LineEnd) (closed : Bool) {css : List (List Char)} {ls : List Line}
    (h : List.Forall₂ ReadsAs css ls) (hb : (layout e closed css).head? ≠ some '\uFEFF') :
    parse (String.ofList (layout e closed css)) = ofLines ls := by
  have hf := length_le_length_layout e closed (ne_nil_of_readsAs h)
  unfold parse
  rw [String.toList_ofList]
  dsimp only
  split
  · next hcs => exact absurd (congrArg List.head? hcs) hb
  · rw [lines_layout e closed h (Nat.lt_succ_of_le hf)]
    rfl

/-! ### Documents of one table -/

/-- The line of an entry whose key has no points. -/
def Line.ofEntry (entry : String × Value) : Line := .entry ([], entry.1) entry.2

theorem ownEntries_map (es : Table) :
    ownEntries (es.map Line.ofEntry) = es.map fun e => (([], e.1), e.2) := by
  induction es with
  | nil => rfl
  | cons e es ih => rw [List.map_cons, Line.ofEntry, ownEntries, ih, List.map_cons]

theorem addHeaders_map (document es : Table) :
    addHeaders document (es.map Line.ofEntry) = some document := by
  induction es with
  | nil => rfl
  | cons e es ih => exact ih

theorem Table.insert_new {t : Table} {key : String} (h : key ∉ t.map Prod.fst) (v : Value)
    (origin : Origin) : t.insert [] key v origin = some (t ++ [(key, v)]) := by
  have hl : t.lookup key = none := by
    rw [List.lookup_eq_none_iff]
    intro e he
    have hk : key ≠ e.1 := by
      rintro rfl
      exact h (List.mem_map_of_mem he)
    exact bne_iff_ne.mpr hk
  unfold insert
  simp only [update, hl]
  rfl

/-- Entries of different keys are all kept, in their order. -/
theorem Table.insertAll_new (origin : Origin) {t es : Table}
    (h : ((t ++ es).map Prod.fst).Nodup) :
    Table.insertAll origin t (es.map fun e => (([], e.1), e.2)) = some (t ++ es) := by
  induction es generalizing t with
  | nil => rw [List.append_nil]; rfl
  | cons e es ih =>
      have hn : e.1 ∉ t.map Prod.fst := by
        intro hm
        rw [List.map_append, List.map_cons, List.nodup_append] at h
        exact h.2.2 _ hm _ List.mem_cons_self rfl
      have hi := insert_new hn e.2 origin
      have ht : t ++ e :: es = (t ++ [e]) ++ es := by
        rw [List.append_assoc, List.singleton_append]
      rw [ht] at h ⊢
      rw [← ih h]
      unfold insertAll
      rw [List.map_cons, List.foldlM_cons]
      dsimp only
      rw [hi]
      rfl

/-- A header and entries of different keys make up one table. -/
theorem ofLines_header (key : String) {es : Table} (h : (es.map Prod.fst).Nodup) :
    ofLines (.header false ([], key) :: es.map Line.ofEntry) = some [(key, .table .header es)] := by
  have hi : Table.insertAll .header [] (es.map fun e => (([], e.1), e.2)) = some es :=
    Table.insertAll_new .header h
  have ha : Table.attach [] key (es.map fun e => (([], e.1), e.2)) [] =
      some [(key, .table .header es)] := by
    unfold Table.attach
    simp only [Table.update, List.lookup_nil, hi, Option.bind_eq_bind, Option.bind_some]
    rfl
  unfold ofLines
  simp only [ownEntries, addHeaders, Table.insertAll, List.foldlM_nil, Option.pure_def,
    Option.bind_eq_bind, Option.bind_some, ownEntries_map, Bool.false_eq_true, if_false, ha,
    addHeaders_map]

end Toml
end PacketAuth
