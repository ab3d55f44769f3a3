import Mathlib.Data.Nat.Digits.Defs
import PacketAuth.Proofs.Answers

/-! # Decimal text

What a decimal text stands for, said without the reader: its digits have their usual value in the
positional system, and at most one sign stands before them (`Denotes`).  The reader reads exactly
these texts (`integer?_eq_some_iff`), and the packet numbers among them are those from 0 to 2³² - 1
(`PacketNumber.parse_eq_ok_iff`). -/

namespace PacketAuth
namespace Decimal

/-- An ASCII digit. -/
def IsDigit (c : Char) : Prop := '0' ≤ c ∧ c ≤ '9'

instance (c : Char) : Decidable (IsDigit c) := inferInstanceAs (Decidable (_ ∧ _))

def digitValue (c : Char) : Nat := c.toNat - '0'.toNat

/-- The number that digits stand for, of which the last has the weight 1. -/
def positional (ds : List Char) : Nat := Nat.ofDigits 10 (ds.reverse.map digitValue)

/-- `Denotes cs v`: one or more digits, after at most one sign, stand for `v`. -/
inductive Denotes : List Char → Int → Prop
  | bare {ds : List Char} : ds ≠ [] → (∀ c ∈ ds, IsDigit c) → Denotes ds (positional ds)
  | plus {ds : List Char} : ds ≠ [] → (∀ c ∈ ds, IsDigit c) → Denotes ('+' :: ds) (positional ds)
  | minus {ds : List Char} : ds ≠ [] → (∀ c ∈ ds, IsDigit c) → Denotes ('-' :: ds) (-positional ds)

theorem positional_cons (c : Char) (ds : List Char) :
    positional (c :: ds) = digitValue c * 10 ^ ds.length + positional ds := by
  unfold positional
  rw [List.reverse_cons, List.map_append, Nat.ofDigits_append, List.length_map,
    List.length_reverse, List.map_singleton, Nat.ofDigits_singleton]
  ring

theorem digit?_eq_some_iff {c : Char} {d : Nat} :
    digit? c = some d ↔ IsDigit c ∧ digitValue c = d := by
  unfold digit? IsDigit digitValue
  split_ifs with h
  · simp [h]
  · simp [h]

theorem digitsFrom?_eq_some_iff {cs : List Char} {m : Nat} : ∀ {n : Nat},
    digitsFrom? n cs = some m ↔
      (∀ c ∈ cs, IsDigit c) ∧ n * 10 ^ cs.length + positional cs = m := by
  induction cs with
  | nil =>
      intro n
      simp [digitsFrom?, positional]
  | cons c cs ih =>
      intro n
      have hv : (10 * n + digitValue c) * 10 ^ cs.length + positional cs =
          n * 10 ^ (c :: cs).length + positional (c :: cs) := by
        rw [positional_cons, List.length_cons]
        ring
      simp only [digitsFrom?, Option.bind_eq_some_iff, digit?_eq_some_iff, ih, List.forall_mem_cons]
      constructor
      · rintro ⟨_, ⟨hc, rfl⟩, hcs, rfl⟩
        exact ⟨⟨hc, hcs⟩, hv.symm⟩
      · rintro ⟨⟨hc, hcs⟩, rfl⟩
        exact ⟨_, ⟨hc, rfl⟩, hcs, hv⟩

theorem natural?_eq_some_iff {cs : List Char} {m : Nat} : natural? cs = some m ↔
    cs ≠ [] ∧ (∀ c ∈ cs, IsDigit c) ∧ positional cs = m := by
  cases cs with
  | nil => simp [natural?]
  | cons c cs =>
      show digitsFrom? 0 (c :: cs) = some m ↔ _
      rw [digitsFrom?_eq_some_iff, Nat.zero_mul, Nat.zero_add]
      simp

theorem not_isDigit_plus : ¬ IsDigit '+' := by decide

theorem not_isDigit_minus : ¬ IsDigit '-' := by decide

/-- The reader reads the texts that stand for an integer, as that integer. -/
theorem integer?_eq_some_iff {cs : List Char} {v : Int} : integer? cs = some v ↔ Denotes cs v := by
  constructor
  · intro h
    unfold integer? at h
    split at h
    all_goals
      obtain ⟨_, hi, rfl⟩ := Option.map_eq_some_iff.mp h
      obtain ⟨m, hm, hi⟩ := Option.bind_eq_some_iff.mp hi
      obtain rfl := Option.some.inj hi
      obtain ⟨h0, hd, rfl⟩ := natural?_eq_some_iff.mp hm
    · exact .minus h0 hd
    · exact .plus h0 hd
    · exact .bare h0 hd
  · rintro (⟨h0, hd⟩ | ⟨h0, hd⟩ | ⟨h0, hd⟩)
    · have hm := natural?_eq_some_iff.mpr ⟨h0, hd, rfl⟩
      -- the first of the digits is not taken for a sign
      unfold integer?
      split
      · exact absurd (hd _ List.mem_cons_self) not_isDigit_minus
      · exact absurd (hd _ List.mem_cons_self) not_isDigit_plus
      · rw [hm]
        rfl
    · rw [integer?, natural?_eq_some_iff.mpr ⟨h0, hd, rfl⟩]
      rfl
    · rw [integer?, natural?_eq_some_iff.mpr ⟨h0, hd, rfl⟩]
      rfl

end Decimal

namespace PacketNumber

/-- The text, blanks around it aside, stands for an integer from 0 to 2³² - 1. -/
def IsNumber (s : String) : Prop := ∃ v, Decimal.Denotes (Text.trim s).toList v ∧ InRange v

/-- The limit of 128 bits does not matter to what is a packet number. -/
theorem parse_eq_ok_iff {s : String} {n : PacketNumber} :
    parse s = .ok n ↔ Decimal.Denotes (Text.trim s).toList n.value.toNat := by
  rw [← Decimal.integer?_eq_some_iff]
  unfold parse
  constructor
  · intro h
    split at h
    · next v hv =>
        split_ifs at h with hl
        rw [hv, ofInt_eq_ok_iff.mp h]
    · cases h
  · intro h
    have hr := n.inRange_value
    simp only [h]
    rw [if_pos, ofInt_value]
    unfold readLimit
    obtain ⟨h0, h1⟩ := hr
    omega

theorem isNumber_iff {s : String} : IsNumber s ↔ ∃ n, parse s = .ok n := by
  unfold IsNumber
  constructor
  · rintro ⟨v, hv, hr⟩
    obtain ⟨n, hn⟩ := exists_ofInt_eq_ok hr
    rw [← ofInt_eq_ok_iff.mp hn] at hv
    exact ⟨n, parse_eq_ok_iff.mpr hv⟩
  · rintro ⟨n, hn⟩
    exact ⟨_, parse_eq_ok_iff.mp hn, n.inRange_value⟩

end PacketNumber
end PacketAuth
