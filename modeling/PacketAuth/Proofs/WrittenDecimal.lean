import PacketAuth.Proofs.DecimalText

/-! # Written integers

The decimal text of an integer stands for it (`Decimal.denotes_toString`), so no two integers have
one text (`Decimal.toString_inj`).  Among the texts that stand for a number it is the one without a
sign of plus and without needless zeros in front (`Decimal.toDigits_cases`). -/

namespace PacketAuth.Decimal

theorem isDigit_of_mem_toDigits {n : Nat} {c : Char} (h : c ∈ Nat.toDigits 10 n) : IsDigit c := by
  have hc := Nat.isDigit_of_mem_toDigits (by decide) (by decide) h
  simpa [Char.isDigit, IsDigit, Char.le_def] using hc

theorem positional_eq_ofDigitChars (ds : List Char) : positional ds = Nat.ofDigitChars 10 ds 0 := by
  induction ds with
  | nil => rfl
  | cons d ds ih =>
      have hd := @Nat.ofDigitChars_eq_ofDigitChars_zero ds (10 * 0 + digitValue d)
      rw [positional_cons, ih, Nat.ofDigitChars_cons]
      unfold digitValue at hd ⊢
      rw [hd]
      ring

theorem positional_toDigits (n : Nat) : positional (Nat.toDigits 10 n) = n := by
  rw [positional_eq_ofDigitChars, Nat.ofDigitChars_ten_toDigits]

/-- The value of digits, one after the other. -/
theorem foldl_map_digitValue (ds : List Char) :
    (ds.map digitValue).foldl (fun n d => 10 * n + d) 0 = positional ds := by
  rw [List.foldl_map, positional_eq_ofDigitChars, Nat.ofDigitChars_eq_foldl]
  rfl

theorem toList_toString_ofNat (n : Nat) : (toString (n : Int)).toList = Nat.toDigits 10 n :=
  Nat.toList_repr

theorem toList_toString_negSucc (n : Nat) :
    (toString (Int.negSucc n)).toList = '-' :: Nat.toDigits 10 (n + 1) := by
  have hs : toString (Int.negSucc n) = "-" ++ (n + 1).repr := rfl
  rw [hs, String.toList_append, Nat.toList_repr]
  rfl

/-- The characters that the text of an integer may begin with. -/
def BeginsInteger (c : Char) : Prop := c = '-' ∨ IsDigit c

theorem BeginsInteger.ne {c x : Char} (hc : BeginsInteger c) (hx : x ≠ '-' ∧ ¬ IsDigit x) :
    c ≠ x := by
  rintro rfl
  rcases hc with hc | hc
  · exact hx.1 hc
  · exact hx.2 hc

theorem exists_beginsInteger (v : Int) :
    ∃ c cs, (toString v).toList = c :: cs ∧ BeginsInteger c := by
  cases v with
  | ofNat n =>
      rw [Int.ofNat_eq_natCast, toList_toString_ofNat]
      have hd : ∀ c ∈ Nat.toDigits 10 n, IsDigit c := fun c => isDigit_of_mem_toDigits
      cases h : Nat.toDigits 10 n with
      | nil => exact absurd h Nat.toDigits_ne_nil
      | cons c cs =>
          rw [h] at hd
          exact ⟨c, cs, rfl, Or.inr (hd c List.mem_cons_self)⟩
  | negSucc n => exact ⟨_, _, toList_toString_negSucc n, Or.inl rfl⟩

/-- The text of an integer stands for it. -/
theorem denotes_toString (v : Int) : Denotes (toString v).toList v := by
  cases v with
  | ofNat n =>
      have h := Denotes.bare (Nat.toDigits_ne_nil (n := n) (b := 10))
        fun c => isDigit_of_mem_toDigits
      rw [positional_toDigits] at h
      rwa [Int.ofNat_eq_natCast, toList_toString_ofNat]
  | negSucc n =>
      have h := Denotes.minus (Nat.toDigits_ne_nil (n := n + 1) (b := 10))
        fun c => isDigit_of_mem_toDigits
      rw [positional_toDigits] at h
      rw [toList_toString_negSucc]
      exact h

theorem Denotes.unique {cs : List Char} {v w : Int} (hv : Denotes cs v) (hw : Denotes cs w) :
    v = w := by
  have h := integer?_eq_some_iff.mpr hv
  rw [integer?_eq_some_iff.mpr hw] at h
  exact (Option.some.inj h).symm

theorem toString_inj {v w : Int} : toString v = toString w ↔ v = w := by
  constructor
  · intro h
    have hv := denotes_toString v
    rw [h] at hv
    exact hv.unique (denotes_toString w)
  · rintro rfl
    rfl

theorem digitChar_ne_zero {n : Nat} (h : n < 10) (h0 : n ≠ 0) : n.digitChar ≠ '0' := by
  revert n
  decide

/-- Only the number zero begins with the digit zero, and then there is no other digit. -/
theorem toDigits_cases (n : Nat) :
    Nat.toDigits 10 n = ['0'] ∨ ∃ d ds, Nat.toDigits 10 n = d :: ds ∧ d ≠ '0' := by
  induction n using Nat.strongRecOn with
  | _ n ih =>
      rw [Nat.toDigits_eq_if (by decide : 1 < 10)]
      split_ifs with hn
      · by_cases h0 : n = 0
        · subst h0
          exact Or.inl rfl
        · exact Or.inr ⟨_, [], rfl, digitChar_ne_zero hn h0⟩
      · rcases ih (n / 10) (by omega) with h | ⟨d, ds, h, hd⟩
        · -- a leading part of zero would make the number small
          have hz := congrArg positional h
          rw [positional_toDigits] at hz
          have h0 : positional ['0'] = 0 := by decide
          omega
        · exact Or.inr ⟨d, ds ++ [(n % 10).digitChar], by rw [h, List.cons_append], hd⟩

end PacketAuth.Decimal
