import Mathlib.Data.List.DropRight
import PacketAuth.Json.Basic
import PacketAuth.Json.Reader
import PacketAuth.Proofs.WrittenDecimal

/-! # JSON text that is read back

A value that is written over several lines, or on one, is read back as it was (`Json.parse_pretty`,
`Json.parse_compact`), if the reader takes it exactly: it nests no deeper than the reader follows,
and its numbers are integers of 64 bits (`Json.Exact`).  Each part of the text is read up to its
end, whatever delimits it (`Json.Reads`); what stands between the parts is blanks, and how many
there are does not matter. -/

namespace PacketAuth

theorem Hex.digit?_digit {n : Nat} (h : n < 16) : digit? (digit n) = some n := by
  revert n
  decide

namespace Json

open Text (Reader)
open Decimal (IsDigit digitValue BeginsInteger)

variable {α : Type} {cs rest : List Char}

/-! ### Blanks and what delimits a value -/

/-- Text without any content. -/
def Blanks (bs : List Char) : Prop := ∀ c ∈ bs, isBlank c = true

theorem skipBlanks_append {bs : List Char} (hb : Blanks bs) (cs : List Char) :
    skipBlanks (bs ++ cs) = skipBlanks cs :=
  List.dropWhile_append_of_pos hb

theorem skipBlanks_cons {c : Char} (h : isBlank c = false) (cs : List Char) :
    skipBlanks (c :: cs) = c :: cs :=
  List.dropWhile_cons_of_neg (by simp [h])

theorem skipBlanks_skipBlanks (cs : List Char) : skipBlanks (skipBlanks cs) = skipBlanks cs :=
  List.dropWhile_idempotent isBlank cs

theorem blanks_singleton : Blanks [' '] := by
  intro c hc
  rw [List.mem_singleton.mp hc]
  rfl

theorem blanks_newline (level : Nat) : Blanks (newline level) := by
  intro c hc
  rcases List.mem_cons.mp hc with rfl | hc
  · rfl
  · rw [List.eq_of_mem_replicate hc]
    rfl

/-- The characters that may come right after a value. -/
def Delimits (c : Char) : Prop := isBlank c = true ∨ c = ',' ∨ c = ']' ∨ c = '}'

instance (c : Char) : Decidable (Delimits c) := inferInstanceAs (Decidable (_ ∨ _))

/-- What may come after a value: nothing, or a character that delimits it. -/
def Delimited (rest : List Char) : Prop := ∀ c, rest.head? = some c → Delimits c

theorem delimited_cons {c : Char} (h : Delimits c) (cs : List Char) : Delimited (c :: cs) := by
  rintro d hd
  obtain rfl := Option.some.inj hd
  exact h

theorem delimited_blanks {bs : List Char} (hb : Blanks bs) (h : Delimited rest) :
    Delimited (bs ++ rest) := by
  cases bs with
  | nil => exact h
  | cons c bs => exact delimited_cons (Or.inl (hb c List.mem_cons_self)) _

/-- No character of a numeral delimits a value. -/
theorem Delimited.head_ne (h : Delimited rest) {x : Char} (hx : ¬ Delimits x) :
    rest.head? ≠ some x :=
  fun he => hx (h x he)

theorem not_delimits_of_beginsInteger {c : Char} (hc : BeginsInteger c) : ¬ Delimits c := by
  intro h
  simp only [Delimits, isBlank, Bool.or_eq_true, decide_eq_true_eq] at h
  rcases h with ((((rfl | rfl) | rfl) | rfl) | rfl | rfl | rfl) <;>
    exact absurd rfl (hc.ne (by decide))

/-- A reader takes a text for `a`, whatever delimits it. -/
def Reads (read : Reader α) (cs : List Char) (a : α) : Prop :=
  ∀ rest, Delimited rest → read (cs ++ rest) = some (a, rest)

/-! ### Strings -/

/-- The escape by code point, as the printer writes it, is read as the character. -/
theorem hexQuad_digits {n : Nat} (h : n < 256) (rest : List Char) :
    hexQuad ('0' :: '0' :: Hex.digit (n / 16) :: Hex.digit (n % 16) :: rest) = some (n, rest) := by
  have h0 : Hex.digit? '0' = some 0 := rfl
  have hn : 16 * (n / 16) + n % 16 = n := Nat.div_add_mod n 16
  simp only [hexQuad, Text.exactly, h0, Hex.digit?_digit (show n / 16 < 16 by omega),
    Hex.digit?_digit (show n % 16 < 16 by omega), Option.bind_some, Nat.mul_zero, Nat.zero_add, hn]

theorem unitEscape_of_lt {n : Nat} (h : n < 0x20) (rest : List Char) :
    unitEscape n rest = some (Char.ofNat n, rest) := by
  unfold unitEscape
  rw [if_neg (by omega), if_neg (by omega)]

theorem stringBody_quote (read : List Char) (fuel : Nat) (rest : List Char) :
    stringBody read (fuel + 1) ('"' :: rest) = some (String.ofList read.reverse, rest) := rfl

theorem stringBody_unit (read : List Char) (fuel : Nat) (rest : List Char) :
    stringBody read (fuel + 1) ('\\' :: 'u' :: rest) =
      (hexQuad rest).bind fun u => (unitEscape u.1 u.2).bind fun x =>
        stringBody (x.1 :: read) fuel x.2 := rfl

theorem stringBody_plain {c : Char} (hquote : c ≠ '"') (hslash : c ≠ '\\')
    (hc : ¬ c.toNat < 0x20) (read : List Char) (fuel : Nat) (rest : List Char) :
    stringBody read (fuel + 1) (c :: rest) = stringBody (c :: read) fuel rest := by
  conv_lhs => unfold stringBody
  simp only [if_neg hquote, if_neg hslash, if_neg hc]

/-- A written character is read back. -/
theorem stringBody_escape (read : List Char) (fuel : Nat) (c : Char) (rest : List Char) :
    stringBody read (fuel + 1) (escape c ++ rest) = stringBody (c :: read) fuel rest := by
  unfold escape
  split_ifs with hquote hslash hn hr ht hb hf hcontrol
  · subst hquote; rfl
  · subst hslash; rfl
  · subst hn; rfl
  · subst hr; rfl
  · subst ht; rfl
  · subst hb; rfl
  · subst hf; rfl
  · have hquad := hexQuad_digits (show c.toNat < 256 by omega) rest
    simp only [List.cons_append, List.nil_append]
    rw [stringBody_unit]
    simp only [hquad, unitEscape_of_lt hcontrol, Char.ofNat_toNat, Option.bind_some]
  · exact stringBody_plain hquote hslash hcontrol read fuel rest

theorem stringBody_flatMap {s : List Char} (rest : List Char) :
    ∀ (read : List Char) {fuel : Nat}, s.length < fuel →
      stringBody read fuel (s.flatMap escape ++ '"' :: rest) =
        some (String.ofList (read.reverse ++ s), rest) := by
  induction s with
  | nil =>
      intro read fuel hf
      obtain ⟨fuel, rfl⟩ := Nat.exists_eq_add_one.mpr hf
      rw [List.flatMap_nil, List.nil_append, stringBody_quote, List.append_nil]
  | cons c s ih =>
      intro read fuel hf
      obtain ⟨fuel, rfl⟩ := Nat.exists_eq_add_one.mpr (Nat.zero_lt_of_lt hf)
      rw [List.flatMap_cons, List.append_assoc, stringBody_escape,
        ih _ (Nat.lt_of_succ_lt_succ hf), List.reverse_cons, List.append_assoc]
      rfl

theorem escape_ne_nil (c : Char) : escape c ≠ [] := by
  unfold escape
  split_ifs <;> exact List.cons_ne_nil _ _

theorem length_le_flatMap {f : α → List Char} (h : ∀ a, f a ≠ []) (as : List α) :
    as.length ≤ (as.flatMap f).length := by
  induction as with
  | nil => exact Nat.le_refl 0
  | cons a as ih =>
      have ha := List.length_pos_iff.mpr (h a)
      rw [List.flatMap_cons, List.length_append, List.length_cons]
      omega

/-- The fuel that the reader takes from the length of the text is enough. -/
theorem stringBody_text (s : String) (rest : List Char) :
    stringBody [] ((s.toList.flatMap escape ++ '"' :: rest).length + 1)
      (s.toList.flatMap escape ++ '"' :: rest) = some (s, rest) := by
  have hf : s.toList.length < (s.toList.flatMap escape ++ '"' :: rest).length + 1 := by
    have := length_le_flatMap escape_ne_nil s.toList
    rw [List.length_append]
    omega
  rw [stringBody_flatMap rest [] hf, List.reverse_nil, List.nil_append, String.ofList_toList]

theorem stringText_append (s : String) (rest : List Char) :
    stringText s ++ rest = '"' :: (s.toList.flatMap escape ++ '"' :: rest) := by
  unfold stringText
  rw [List.cons_append, List.cons_append, List.append_assoc, List.singleton_append]

/-! ### Numbers -/

/-- The integers that the reader takes exactly: those of 64 bits, with or without a sign. -/
def Fits (n : Int) : Prop := -0x8000000000000000 ≤ n ∧ n < 0x10000000000000000

theorem digits_append {ds : List Char} (hd : ∀ c ∈ ds, IsDigit c) (hr : Delimited rest) :
    digits (ds ++ rest) = (ds.map digitValue, rest) := by
  induction ds with
  | nil =>
      cases rest with
      | nil => rfl
      | cons c cs =>
          have hc : Decimal.digit? c = none := by
            rw [Option.eq_none_iff_forall_ne_some]
            intro d hd
            have hdigit : BeginsInteger c := Or.inr (Decimal.digit?_eq_some_iff.mp hd).1
            exact not_delimits_of_beginsInteger hdigit (hr c rfl)
          rw [List.nil_append, digits, hc]
          rfl
  | cons d ds ih =>
      have hv : Decimal.digit? d = some (digitValue d) :=
        Decimal.digit?_eq_some_iff.mpr ⟨hd d List.mem_cons_self, rfl⟩
      rw [List.cons_append, digits, hv, ih fun c hc => hd c (List.mem_cons_of_mem _ hc)]
      rfl

theorem digitValue_ne_zero {d : Char} (hd : IsDigit d) (h0 : d ≠ '0') : digitValue d ≠ 0 := by
  intro h
  have hle : '0'.toNat ≤ d.toNat := hd.1
  exact h0 (Char.toNat_inj.mp (Nat.le_antisymm (Nat.sub_eq_zero_iff_le.mp h) hle))

theorem wholeDigits_toDigits (n : Nat) (hr : Delimited rest) :
    wholeDigits (Nat.toDigits 10 n ++ rest) = some ((Nat.toDigits 10 n).map digitValue, rest) := by
  have hd : ∀ c ∈ Nat.toDigits 10 n, IsDigit c := fun c => Decimal.isDigit_of_mem_toDigits
  unfold wholeDigits
  rw [digits_append hd hr]
  rcases Decimal.toDigits_cases n with h | ⟨d, ds, h, h0⟩
  · rw [h]
    rfl
  · rw [h] at hd ⊢
    have hv := digitValue_ne_zero (hd d List.mem_cons_self) h0
    rw [List.map_cons]
    cases hx : digitValue d with
    | zero => exact absurd hx hv
    | succ k => rfl

theorem fractionDigits_of_delimited (hr : Delimited rest) :
    fractionDigits rest = some ([], rest) := by
  have hp := hr.head_ne (x := '.') (by decide)
  unfold fractionDigits
  split
  · exact absurd rfl hp
  · rfl

theorem exponentPart_of_delimited (hr : Delimited rest) :
    exponentPart rest = some (none, rest) := by
  cases rest with
  | nil => rfl
  | cons c cs =>
      have he := hr.head_ne (x := 'e') (by decide)
      have hE := hr.head_ne (x := 'E') (by decide)
      refine if_neg ?_
      rintro (rfl | rfl)
      · exact he rfl
      · exact hE rfl

/-- A number is at least the number of its leading digits. -/
theorem le_foldl_digits (ds : List Nat) (n : Nat) : n ≤ ds.foldl (fun n d => 10 * n + d) n := by
  induction ds generalizing n with
  | nil => exact Nat.le_refl n
  | cons d ds ih =>
      have := ih (10 * n + d)
      rw [List.foldl_cons]
      omega

/-- Digits of a number that 64 bits can hold all count. -/
theorem foldl_whole {ds : List Nat} {n : Nat}
    (h : ds.foldl (fun n d => 10 * n + d) n < 0x10000000000000000) :
    ds.foldl Numeral.whole ⟨n, 0⟩ = ⟨ds.foldl (fun n d => 10 * n + d) n, 0⟩ := by
  induction ds generalizing n with
  | nil => rfl
  | cons d ds ih =>
      rw [List.foldl_cons] at h
      have hfits : fits (10 * n + d) = true :=
        decide_eq_true (Nat.lt_of_le_of_lt (le_foldl_digits ds _) h)
      have hw : Numeral.whole ⟨n, 0⟩ d = ⟨10 * n + d, 0⟩ := if_pos ⟨rfl, hfits⟩
      rw [List.foldl_cons, List.foldl_cons, hw, ih h]

theorem ofParts_toDigits {negative : Bool} {n : Nat} (hn : n < 0x10000000000000000)
    (hneg : negative = true → 0 < n ∧ n ≤ 0x8000000000000000) :
    Number.ofParts negative ((Nat.toDigits 10 n).map digitValue) [] none =
      some (.integer (if negative then -n else n)) := by
  have hv : ((Nat.toDigits 10 n).map digitValue).foldl (fun n d => 10 * n + d) 0 = n := by
    rw [Decimal.foldl_map_digitValue, Decimal.positional_toDigits]
  have hx : ((Nat.toDigits 10 n).map digitValue).foldl Numeral.whole ⟨0, 0⟩ = ⟨_, 0⟩ :=
    foldl_whole (by rwa [hv])
  rw [hv] at hx
  unfold Number.ofParts
  rw [hx]
  exact if_pos ⟨rfl, rfl, rfl, hneg⟩

/-- A number whose sign is read. -/
def readUnsigned (negative : Bool) (cs : List Char) : Option (Number × List Char) := do
  let (whole, cs) ← wholeDigits cs
  let (fraction, cs) ← fractionDigits cs
  let (exponent, cs) ← exponentPart cs
  return (← Number.ofParts negative whole fraction exponent, cs)

theorem readNumber_minus (cs : List Char) : readNumber ('-' :: cs) = readUnsigned true cs := rfl

theorem readNumber_of_head (h : cs.head? ≠ some '-') : readNumber cs = readUnsigned false cs := by
  cases cs with
  | nil => rfl
  | cons c cs =>
      unfold readNumber
      split
      · next he =>
          split at he
          · next hc => exact absurd (congrArg List.head? hc) h
          · cases he
            rfl

theorem readUnsigned_toDigits {negative : Bool} {n : Nat} (hn : n < 0x10000000000000000)
    (hneg : negative = true → 0 < n ∧ n ≤ 0x8000000000000000) :
    Reads (readUnsigned negative) (Nat.toDigits 10 n) (.integer (if negative then -n else n)) := by
  intro rest hr
  unfold readUnsigned
  simp only [wholeDigits_toDigits n hr, fractionDigits_of_delimited hr,
    exponentPart_of_delimited hr, ofParts_toDigits hn hneg, Option.bind_eq_bind, Option.bind_some]
  rfl

theorem reads_number {n : Int} (hn : Fits n) :
    Reads readNumber (toString n).toList (.integer n) := by
  obtain ⟨hlow, hhigh⟩ := hn
  intro rest hr
  cases n with
  | ofNat n =>
      have hfits : n < 0x10000000000000000 := by
        rw [Int.ofNat_eq_natCast] at hhigh
        omega
      have hd : ∀ c ∈ Nat.toDigits 10 n, IsDigit c := fun c => Decimal.isDigit_of_mem_toDigits
      have hhead : (Nat.toDigits 10 n ++ rest).head? ≠ some '-' := by
        cases h : Nat.toDigits 10 n with
        | nil => exact absurd h Nat.toDigits_ne_nil
        | cons c cs =>
            rw [h] at hd
            intro hc
            obtain rfl := Option.some.inj hc
            exact absurd (hd _ List.mem_cons_self) (by decide)
      rw [Int.ofNat_eq_natCast, Decimal.toList_toString_ofNat, readNumber_of_head hhead,
        readUnsigned_toDigits hfits (fun h => absurd h Bool.false_ne_true) rest hr]
      rfl
  | negSucc n =>
      have hfits : n + 1 < 0x10000000000000000 := by omega
      have hneg : 0 < n + 1 ∧ n + 1 ≤ 0x8000000000000000 := by omega
      rw [Decimal.toList_toString_negSucc, List.cons_append, readNumber_minus,
        readUnsigned_toDigits hfits (fun _ => hneg) rest hr]
      rfl

/-! ### Lists -/

/-- `list` reads what is left of a list: parts that `one` reads, each after a comma, up to the
closing character. -/
structure Listing (close : Char) (one : Reader α) (list : (fuel : Nat) → Reader (List α)) :
    Prop where
  closing : close = ']' ∨ close = '}'
  last : ∀ {fuel cs rest}, skipBlanks cs = close :: rest → list (fuel + 1) cs = some ([], rest)
  more : ∀ {fuel cs next}, skipBlanks cs = ',' :: next → list (fuel + 1) cs =
    (one next).bind fun x => (list fuel x.2).bind fun y => some (x.1 :: y.1, y.2)

theorem itemsRest_listing (item : Reader Json) : Listing ']' item (itemsRest item) where
  closing := Or.inl rfl
  last h := by
    unfold itemsRest
    rw [h]
    rfl
  more h := by
    conv_lhs => unfold itemsRest
    rw [h]
    rfl

theorem membersRest_listing (item : Reader Json) :
    Listing '}' (member item) (membersRest item) where
  closing := Or.inr rfl
  last h := by
    unfold membersRest
    rw [h]
    rfl
  more h := by
    conv_lhs => unfold membersRest
    rw [h]
    rfl

namespace Listing
variable {close : Char} {one : Reader α} {list : Nat → Reader (List α)} {text : α → List Char}
  {bs : List Char}

theorem delimits (h : Listing close one list) : Delimits close := by
  rcases h.closing with rfl | rfl <;> decide

theorem skipBlanks_close (h : Listing close one list) (hb : Blanks bs) (rest : List Char) :
    skipBlanks (bs ++ close :: rest) = close :: rest := by
  rw [skipBlanks_append hb]
  rcases h.closing with rfl | rfl <;> exact skipBlanks_cons rfl rest

/-- What follows a part delimits it. -/
theorem delimited (h : Listing close one list) (hb : Blanks bs) (text : α → List Char)
    (as : List α) (rest : List Char) :
    Delimited (as.flatMap (fun a => ',' :: text a) ++ (bs ++ close :: rest)) := by
  cases as with
  | nil =>
      rw [List.flatMap_nil, List.nil_append]
      exact delimited_blanks hb (delimited_cons h.delimits rest)
  | cons a as => exact delimited_cons (by decide) _

theorem reads_rest (h : Listing close one list) (hb : Blanks bs) (rest : List Char) {as : List α}
    (has : ∀ a ∈ as, Reads one (text a) a) : ∀ {fuel : Nat}, as.length < fuel →
      list fuel (as.flatMap (fun a => ',' :: text a) ++ (bs ++ close :: rest)) =
        some (as, rest) := by
  induction as with
  | nil =>
      intro fuel hf
      obtain ⟨fuel, rfl⟩ := Nat.exists_eq_add_one.mpr hf
      exact h.last (h.skipBlanks_close hb rest)
  | cons a as ih =>
      intro fuel hf
      obtain ⟨fuel, rfl⟩ := Nat.exists_eq_add_one.mpr (Nat.zero_lt_of_lt hf)
      have ha := has a List.mem_cons_self _ (h.delimited hb text as rest)
      have hrest := ih (fun x hx => has x (List.mem_cons_of_mem _ hx))
        (Nat.lt_of_succ_lt_succ hf)
      rw [List.flatMap_cons, List.cons_append, List.cons_append, List.append_assoc,
        h.more (skipBlanks_cons rfl _), ha, Option.bind_some, hrest]
      rfl

/-- The first part is read up to what follows it, and from there the list up to its end. -/
theorem reads (h : Listing close one list) (hb : Blanks bs) (rest : List Char) {a : α}
    {as : List α} (has : ∀ x ∈ a :: as, Reads one (text x) x) :
    ∃ left, one (text a ++ as.flatMap (fun a => ',' :: text a) ++ (bs ++ close :: rest)) =
        some (a, left) ∧ list (left.length + 1) left = some (as, rest) := by
  refine ⟨_, ?_, h.reads_rest hb rest (fun x hx => has x (List.mem_cons_of_mem _ hx)) ?_⟩
  · rw [List.append_assoc]
    exact has a List.mem_cons_self _ (h.delimited hb text as rest)
  · have := length_le_flatMap (f := fun a => ',' :: text a) (fun _ => List.cons_ne_nil _ _) as
    rw [List.length_append]
    omega

end Listing

/-! ### Values -/

theorem value_skipBlanks (depth : Nat) (cs : List Char) :
    value depth (skipBlanks cs) = value depth cs := by
  cases depth with
  | zero => rfl
  | succ depth =>
      unfold value
      rw [skipBlanks_skipBlanks]

theorem Reads.value_blanks {depth : Nat} {j : Json} {bs : List Char} (hb : Blanks bs)
    (h : Reads (value depth) cs j) : Reads (value depth) (bs ++ cs) j := by
  intro rest hr
  rw [← value_skipBlanks, List.append_assoc, skipBlanks_append hb, value_skipBlanks]
  exact h rest hr

theorem member_skipBlanks (item : Reader Json) (cs : List Char) :
    member item (skipBlanks cs) = member item cs := by
  unfold member
  rw [skipBlanks_skipBlanks]

/-- The items of an array that has one, which is not the closing bracket. -/
theorem items_of_value {depth : Nat} {j : Json} (h : value depth cs = some (j, rest)) :
    items (value depth) cs = (itemsRest (value depth) (rest.length + 1) rest).bind fun y =>
      some (j :: y.1, y.2) := by
  rw [← value_skipBlanks] at h
  unfold items
  split
  · next he =>
      rw [he] at h
      cases depth <;> cases h
  · rw [h]
    rfl

theorem members_of_member {item : Reader Json} {m : String × Json}
    (h : member item cs = some (m, rest)) :
    members item cs = (membersRest item (rest.length + 1) rest).bind fun y =>
      some (m :: y.1, y.2) := by
  rw [← member_skipBlanks] at h
  unfold members
  split
  · next he =>
      rw [he] at h
      cases h
  · rw [h]
    rfl

/-- A member with blanks before its name and before its value. -/
theorem reads_member {depth : Nat} {bs bs' : List Char} (hb : Blanks bs) (hb' : Blanks bs')
    (name : String) {j : Json} (h : Reads (value depth) cs j) :
    Reads (member (value depth)) (bs ++ stringText name ++ ':' :: (bs' ++ cs)) (name, j) := by
  intro rest hr
  have hvalue := h.value_blanks hb' rest hr
  have hcolon : skipBlanks (':' :: (bs' ++ cs ++ rest)) = ':' :: (bs' ++ cs ++ rest) :=
    skipBlanks_cons rfl _
  unfold member
  rw [List.append_assoc, List.append_assoc, skipBlanks_append hb, stringText_append,
    skipBlanks_cons rfl]
  simp only [stringBody_text, List.cons_append, hcolon, hvalue, Option.bind_eq_bind,
    Option.bind_some]
  rfl

/-- What the reader takes exactly at a depth: values that nest less deep, with integers of 64
bits. -/
inductive Exact : (depth : Nat) → Json → Prop
  | null (depth : Nat) : Exact (depth + 1) null
  | boolean (depth : Nat) (b : Bool) : Exact (depth + 1) (boolean b)
  | integer (depth : Nat) {n : Int} (h : Fits n) : Exact (depth + 1) (number (.integer n))
  | string (depth : Nat) (s : String) : Exact (depth + 1) (string s)
  | array {depth : Nat} {js : List Json} (h : ∀ j ∈ js, Exact depth j) :
      Exact (depth + 1) (array js)
  | object {depth : Nat} {ms : List (String × Json)} (h : ∀ m ∈ ms, Exact depth m.2) :
      Exact (depth + 1) (object ms)

theorem value_null (depth : Nat) : Reads (value (depth + 1)) (scalarText null) null :=
  fun _ _ => rfl

theorem value_boolean (depth : Nat) (b : Bool) :
    Reads (value (depth + 1)) (scalarText (boolean b)) (boolean b) := by
  cases b with
  | false => exact fun _ _ => rfl
  | true => exact fun _ _ => rfl

theorem value_integer (depth : Nat) {n : Int} (hn : Fits n) :
    Reads (value (depth + 1)) (scalarText (number (.integer n))) (number (.integer n)) := by
  intro rest hr
  have htext : scalarText (number (.integer n)) = (toString n).toList := rfl
  have hread := reads_number hn rest hr
  obtain ⟨c, cs, h, hc⟩ := Decimal.exists_beginsInteger n
  rw [htext]
  rw [h, List.cons_append] at hread ⊢
  have hblank : isBlank c = false :=
    Bool.eq_false_iff.mpr fun hb => not_delimits_of_beginsInteger hc (Or.inl hb)
  rw [value, skipBlanks_cons hblank]
  -- no other kind of value begins like an integer
  split
  iterate 6
    next he => exact absurd (List.cons.inj he).1 (hc.ne (by decide))
  · rw [hread]
    rfl

theorem value_string (depth : Nat) (s : String) :
    Reads (value (depth + 1)) (scalarText (string s)) (string s) := by
  intro rest _
  have htext : scalarText (string s) = stringText s := rfl
  rw [htext, stringText_append, value, skipBlanks_cons rfl]
  simp only [stringBody_text]
  rfl

/-- The items of an array, however they are laid out. -/
theorem value_items {depth : Nat} {text : Json → List Char} {bs : List Char} (hb : Blanks bs)
    {j : Json} {js : List Json} (h : ∀ i ∈ j :: js, Reads (value depth) (text i) i) :
    Reads (value (depth + 1))
      ('[' :: (text j ++ js.flatMap (fun i => ',' :: text i)) ++ bs ++ [']'])
      (array (j :: js)) := by
  intro rest _
  obtain ⟨left, hfirst, hrest⟩ := (itemsRest_listing (value depth)).reads hb rest h
  simp only [List.cons_append, List.append_assoc, List.nil_append] at hfirst ⊢
  rw [value, skipBlanks_cons rfl]
  simp only [items_of_value hfirst, hrest]
  rfl

/-- The members of an object, however they are laid out. -/
theorem value_members {depth : Nat} {text : String × Json → List Char} {bs : List Char}
    (hb : Blanks bs) {m : String × Json} {ms : List (String × Json)}
    (h : ∀ i ∈ m :: ms, Reads (member (value depth)) (text i) i) :
    Reads (value (depth + 1))
      ('{' :: (text m ++ ms.flatMap (fun i => ',' :: text i)) ++ bs ++ ['}'])
      (object (m :: ms)) := by
  intro rest _
  obtain ⟨left, hfirst, hrest⟩ := (membersRest_listing (value depth)).reads hb rest h
  simp only [List.cons_append, List.append_assoc, List.nil_append] at hfirst ⊢
  rw [value, skipBlanks_cons rfl]
  simp only [members_of_member hfirst, hrest]
  rfl

/-! ### Text over several lines -/

/-- An item on a line of its own. -/
def itemLine (level : Nat) (j : Json) : List Char := newline level ++ prettyChars level j

/-- A member on a line of its own. -/
def memberLine (level : Nat) (m : String × Json) : List Char :=
  newline level ++ stringText m.1 ++ ':' :: ([' '] ++ prettyChars level m.2)

theorem prettyItems_cons (level : Nat) (j : Json) (js : List Json) :
    prettyItems level (j :: js) =
      itemLine level j ++ js.flatMap (fun i => ',' :: itemLine level i) := by
  induction js generalizing j with
  | nil =>
      rw [prettyItems, List.flatMap_nil, List.append_nil]
      rfl
  | cons i js ih =>
      rw [prettyItems, ih, List.flatMap_cons]
      · rfl
      · exact List.cons_ne_nil _ _

theorem prettyMembers_cons (level : Nat) (m : String × Json) (ms : List (String × Json)) :
    prettyMembers level (m :: ms) =
      memberLine level m ++ ms.flatMap (fun i => ',' :: memberLine level i) := by
  induction ms generalizing m with
  | nil =>
      rw [prettyMembers, List.flatMap_nil, List.append_nil]
      rfl
  | cons i ms ih =>
      rw [prettyMembers, ih, List.flatMap_cons]
      · rfl
      · exact List.cons_ne_nil _ _

/-- Indented to any level, a value is read back. -/
theorem reads_pretty {depth : Nat} {j : Json} (h : Exact depth j) :
    ∀ level, Reads (value depth) (prettyChars level j) j := by
  induction h with
  | null depth => exact fun _ => value_null depth
  | boolean depth b => exact fun _ => value_boolean depth b
  | integer depth hn => exact fun _ => value_integer depth hn
  | string depth s => exact fun _ => value_string depth s
  | @array depth js _ ih =>
      intro level
      cases js with
      | nil => exact fun _ _ => rfl
      | cons j js =>
          rw [prettyChars, prettyItems_cons]
          · exact value_items (blanks_newline level) fun i hi =>
              (ih i hi (level + 1)).value_blanks (blanks_newline (level + 1))
          · exact List.cons_ne_nil _ _
  | @object depth ms _ ih =>
      intro level
      cases ms with
      | nil => exact fun _ _ => rfl
      | cons m ms =>
          rw [prettyChars, prettyMembers_cons]
          · exact value_members (blanks_newline level) fun i hi =>
              reads_member (blanks_newline (level + 1)) blanks_singleton i.1 (ih i hi (level + 1))
          · exact List.cons_ne_nil _ _

/-! ### Text on one line -/

/-- A member without a blank. -/
def memberText (m : String × Json) : List Char := stringText m.1 ++ ':' :: compactChars m.2

theorem compactItems_cons (j : Json) (js : List Json) :
    compactItems (j :: js) = compactChars j ++ js.flatMap (fun i => ',' :: compactChars i) := by
  induction js generalizing j with
  | nil => simp [compactItems]
  | cons i js ih =>
      rw [compactItems, ih, List.flatMap_cons]
      · rfl
      · exact List.cons_ne_nil _ _

theorem compactMembers_cons (m : String × Json) (ms : List (String × Json)) :
    compactMembers (m :: ms) = memberText m ++ ms.flatMap (fun i => ',' :: memberText i) := by
  induction ms generalizing m with
  | nil => simp [compactMembers, memberText]
  | cons i ms ih =>
      rw [compactMembers, ih, List.flatMap_cons]
      · simp [memberText]
      · exact List.cons_ne_nil _ _

theorem blanks_nil : Blanks [] := List.forall_mem_nil _

/-- Without a blank, a value is read back. -/
theorem reads_compact {depth : Nat} {j : Json} (h : Exact depth j) :
    Reads (value depth) (compactChars j) j := by
  induction h with
  | null depth => exact value_null depth
  | boolean depth b => exact value_boolean depth b
  | integer depth hn => exact value_integer depth hn
  | string depth s => exact value_string depth s
  | @array depth js _ ih =>
      cases js with
      | nil => exact fun _ _ => rfl
      | cons j js =>
          have hitems := value_items blanks_nil ih
          rw [List.append_nil] at hitems
          rw [compactChars, compactItems_cons]
          exact hitems
  | @object depth ms _ ih =>
      cases ms with
      | nil => exact fun _ _ => rfl
      | cons m ms =>
          have hmember : ∀ i ∈ m :: ms, Reads (member (value depth)) (memberText i) i := by
            intro i hi
            exact reads_member blanks_nil blanks_nil i.1 (ih i hi)
          have hmembers := value_members blanks_nil hmember
          rw [List.append_nil] at hmembers
          rw [compactChars, compactMembers_cons]
          exact hmembers

/-! ### Whole texts -/

/-- A text that is read up to its end is parsed, whatever blanks come after it. -/
theorem parse_of_reads {j : Json} (h : Reads (value 128) cs j) {t : String}
    (ht : Blanks t.toList) : parse (String.ofList cs ++ t) = some j := by
  have hend : skipBlanks t.toList = [] := List.dropWhile_eq_nil_iff.mpr ht
  have hdelimited : Delimited t.toList := fun c hc => Or.inl (ht c (List.mem_of_mem_head? hc))
  unfold parse
  rw [String.toList_append, String.toList_ofList, h _ hdelimited]
  exact if_pos hend

/-- A value that is written over several lines is read back. -/
theorem parse_pretty {j : Json} (h : Exact 128 j) {t : String} (ht : Blanks t.toList) :
    parse (j.pretty ++ t) = some j :=
  parse_of_reads (reads_pretty h 0) ht

/-- A value that is written on one line is read back. -/
theorem parse_compact {j : Json} (h : Exact 128 j) {t : String} (ht : Blanks t.toList) :
    parse (j.compact ++ t) = some j :=
  parse_of_reads (reads_compact h) ht

end Json
end PacketAuth
