import PacketAuth.Proofs.WrittenDecimal

/-! # What a number text comes to

A text, blanks at its ends aside, either stands for an integer or does not, and the integer lies in
one of four ranges.  The packet number or the complaint follows from that alone, whatever the length
of the text (`PacketNumber.Outcome`, `PacketNumber.parse_eq_iff`).  No other complaint has the
wording of one of them (such as `PacketNumber.message_eq_negative_iff`), so that the wording tells
the range (`PacketNumber.ofText_grammar`). -/

namespace PacketAuth

/-- Texts are different if neither of their ends is the end of the other. -/
theorem Text.append_ne_append {a b s t : String} (ha : ¬ a.toList <:+ b.toList)
    (hb : ¬ b.toList <:+ a.toList) : s ++ a ≠ t ++ b := by
  intro h
  have hs : a.toList <:+ (s ++ a).toList := by
    rw [String.toList_append]
    exact List.suffix_append ..
  have ht : b.toList <:+ (s ++ a).toList := by
    rw [h, String.toList_append]
    exact List.suffix_append ..
  exact (List.suffix_or_suffix_of_suffix hs ht).elim ha hb

namespace PacketNumber
variable {s : String} {v : Int} {f : Fault} {n : PacketNumber}

/-! ### Outcomes -/

/-- What the text of an integer comes to, by the range of the integer.  The bounds of the outer
ranges are those of 128 bits with a sign. -/
inductive Outcome (t : String) : Except Fault PacketNumber → Prop
  | number {n : PacketNumber} : Decimal.Denotes t.toList n.value.toNat → Outcome t (.ok n)
  | negative {v : Int} : Decimal.Denotes t.toList v → -2 ^ 127 ≤ v → v < 0 →
      Outcome t (.error (.negative v))
  | tooLarge {v : Int} : Decimal.Denotes t.toList v → 2 ^ 32 ≤ v → v < 2 ^ 127 →
      Outcome t (.error (.tooLarge v))
  | notInteger : (∀ v, Decimal.Denotes t.toList v → v < -2 ^ 127 ∨ 2 ^ 127 ≤ v) →
      Outcome t (.error (.notInteger t))

theorem parse_of_denotes (h : Decimal.Denotes (Text.trim s).toList v) :
    parse s = if -readLimit ≤ v ∧ v < readLimit then ofInt v
      else .error (.notInteger (Text.trim s)) := by
  unfold parse
  rw [Decimal.integer?_eq_some_iff.mpr h]

theorem parse_of_not_denotes (h : ∀ v, ¬ Decimal.Denotes (Text.trim s).toList v) :
    parse s = .error (.notInteger (Text.trim s)) := by
  have hnone : Decimal.integer? (Text.trim s).toList = none := by
    rw [Option.eq_none_iff_forall_ne_some]
    intro v hv
    exact h v (Decimal.integer?_eq_some_iff.mp hv)
  unfold parse
  rw [hnone]

/-- Reading has one of the outcomes. -/
theorem outcome_parse (s : String) : Outcome (Text.trim s) (parse s) := by
  by_cases hd : ∃ v, Decimal.Denotes (Text.trim s).toList v
  · obtain ⟨v, hv⟩ := hd
    rw [parse_of_denotes hv]
    split_ifs with hl
    · unfold readLimit at hl
      by_cases hneg : v < 0
      · rw [ofInt_of_neg hneg]
        exact .negative hv (by omega) hneg
      by_cases hbig : 2 ^ 32 ≤ v
      · rw [ofInt_of_le hbig]
        exact .tooLarge hv hbig (by omega)
      obtain ⟨n, hn⟩ := exists_ofInt_eq_ok (i := v) ⟨by omega, by omega⟩
      rw [hn]
      rw [← ofInt_eq_ok_iff.mp hn] at hv
      exact .number hv
    · refine .notInteger fun w hw => ?_
      unfold readLimit at hl
      obtain rfl := hv.unique hw
      omega
  · have hno : ∀ v, ¬ Decimal.Denotes (Text.trim s).toList v := fun v hv => hd ⟨v, hv⟩
    rw [parse_of_not_denotes hno]
    exact .notInteger fun v hv => absurd hv (hno v)

/-- Reading has no other outcome. -/
theorem parse_eq_of_outcome {x : Except Fault PacketNumber} (h : Outcome (Text.trim s) x) :
    parse s = x := by
  cases h with
  | number hn => exact parse_eq_ok_iff.mpr hn
  | @negative v hv hlow hneg =>
      have hl : -readLimit ≤ v ∧ v < readLimit := ⟨hlow, by unfold readLimit; omega⟩
      rw [parse_of_denotes hv, if_pos hl, ofInt_of_neg hneg]
  | @tooLarge v hv hbig hhigh =>
      have hl : -readLimit ≤ v ∧ v < readLimit := ⟨by unfold readLimit; omega, hhigh⟩
      rw [parse_of_denotes hv, if_pos hl, ofInt_of_le hbig]
  | notInteger hno =>
      by_cases hd : ∃ v, Decimal.Denotes (Text.trim s).toList v
      · obtain ⟨v, hv⟩ := hd
        have hout := hno v hv
        rw [parse_of_denotes hv, if_neg]
        unfold readLimit
        omega
      · exact parse_of_not_denotes fun v hv => hd ⟨v, hv⟩

theorem parse_eq_iff {x : Except Fault PacketNumber} : parse s = x ↔ Outcome (Text.trim s) x := by
  constructor
  · rintro rfl
    exact outcome_parse s
  · exact parse_eq_of_outcome

theorem outcome_negative_iff {t : String} : Outcome t (.error (.negative v)) ↔
    Decimal.Denotes t.toList v ∧ -2 ^ 127 ≤ v ∧ v < 0 := by
  constructor
  · rintro (_ | ⟨hv, hlow, hneg⟩)
    exact ⟨hv, hlow, hneg⟩
  · rintro ⟨hv, hlow, hneg⟩
    exact .negative hv hlow hneg

theorem outcome_tooLarge_iff {t : String} : Outcome t (.error (.tooLarge v)) ↔
    Decimal.Denotes t.toList v ∧ 2 ^ 32 ≤ v ∧ v < 2 ^ 127 := by
  constructor
  · rintro (_ | _ | ⟨hv, hbig, hhigh⟩)
    exact ⟨hv, hbig, hhigh⟩
  · rintro ⟨hv, hbig, hhigh⟩
    exact .tooLarge hv hbig hhigh

theorem outcome_notInteger_iff {t : String} : Outcome t (.error (.notInteger t)) ↔
    ∀ v, Decimal.Denotes t.toList v → v < -2 ^ 127 ∨ 2 ^ 127 ≤ v := by
  constructor
  · rintro (_ | _ | _ | h)
    exact h
  · exact .notInteger

/-! ### Wordings -/

theorem message_negative (v : Int) : (Fault.negative v).message = toString v ++ " is negative" :=
  rfl

theorem message_tooLarge (v : Int) :
    (Fault.tooLarge v).message = toString v ++ " does not fit in 4 bytes" := by
  have h4 : " does not fit in " ++ toString wireBytes ++ " bytes" = " does not fit in 4 bytes" := by
    decide
  rw [← h4, ← String.append_assoc, ← String.append_assoc]
  rfl

theorem message_notInteger (t : String) :
    (Fault.notInteger t).message = Text.quote t ++ " is not an integer" := rfl

theorem message_eq_negative_iff :
    f.message = toString v ++ " is negative" ↔ f = .negative v := by
  cases f with
  | notInteger t =>
      have hne : Text.quote t ++ " is not an integer" ≠ toString v ++ " is negative" :=
        Text.append_ne_append (by decide) (by decide)
      simp only [message_notInteger, hne, reduceCtorEq]
  | negative w =>
      rw [message_negative, String.append_left_inj, Decimal.toString_inj, Fault.negative.injEq]
  | tooLarge w =>
      have hne : toString w ++ " does not fit in 4 bytes" ≠ toString v ++ " is negative" :=
        Text.append_ne_append (by decide) (by decide)
      simp only [message_tooLarge, hne, reduceCtorEq]

theorem message_eq_tooLarge_iff :
    f.message = toString v ++ " does not fit in 4 bytes" ↔ f = .tooLarge v := by
  cases f with
  | notInteger t =>
      have hne : Text.quote t ++ " is not an integer" ≠ toString v ++ " does not fit in 4 bytes" :=
        Text.append_ne_append (by decide) (by decide)
      simp only [message_notInteger, hne, reduceCtorEq]
  | negative w =>
      have hne : toString w ++ " is negative" ≠ toString v ++ " does not fit in 4 bytes" :=
        Text.append_ne_append (by decide) (by decide)
      simp only [message_negative, hne, reduceCtorEq]
  | tooLarge w =>
      rw [message_tooLarge, String.append_left_inj, Decimal.toString_inj, Fault.tooLarge.injEq]

theorem message_eq_notInteger_iff {t : String} :
    f.message = Text.quote t ++ " is not an integer" ↔
      ∃ u, f = .notInteger u ∧ Text.quote u = Text.quote t := by
  cases f with
  | notInteger u => simp [message_notInteger]
  | negative v =>
      have hne : toString v ++ " is negative" ≠ Text.quote t ++ " is not an integer" :=
        Text.append_ne_append (by decide) (by decide)
      simp only [message_negative, hne, reduceCtorEq, false_and, exists_false]
  | tooLarge v =>
      have hne : toString v ++ " does not fit in 4 bytes" ≠ Text.quote t ++ " is not an integer" :=
        Text.append_ne_append (by decide) (by decide)
      simp only [message_tooLarge, hne, reduceCtorEq, false_and, exists_false]

/-! ### Reading as a step of signing -/

theorem ofText_eq_ok_iff : ofText s = .ok n ↔ Decimal.Denotes (Text.trim s).toList n.value.toNat :=
  Except.mapError_eq_ok_iff.trans parse_eq_ok_iff

theorem ofText_eq_error_iff {detail : String} : ofText s = .error (.packetNumber detail) ↔
    ∃ f, parse s = .error f ∧ f.message = detail := by
  unfold ofText
  rw [Except.mapError_eq_error_iff]
  simp only [SigningError.ofNumber, SigningError.packetNumber.injEq]

theorem ofText_negative_iff :
    ofText s = .error (.packetNumber (toString v ++ " is negative")) ↔
      Decimal.Denotes (Text.trim s).toList v ∧ -2 ^ 127 ≤ v ∧ v < 0 := by
  rw [ofText_eq_error_iff]
  simp only [message_eq_negative_iff, exists_eq_right]
  rw [parse_eq_iff, outcome_negative_iff]

theorem ofText_tooLarge_iff :
    ofText s = .error (.packetNumber (toString v ++ " does not fit in 4 bytes")) ↔
      Decimal.Denotes (Text.trim s).toList v ∧ 2 ^ 32 ≤ v ∧ v < 2 ^ 127 := by
  rw [ofText_eq_error_iff]
  simp only [message_eq_tooLarge_iff, exists_eq_right]
  rw [parse_eq_iff, outcome_tooLarge_iff]

theorem ofText_notInteger_iff :
    ofText s = .error (.packetNumber (Text.quote (Text.trim s) ++ " is not an integer")) ↔
      ∀ v, Decimal.Denotes (Text.trim s).toList v → v < -2 ^ 127 ∨ 2 ^ 127 ≤ v := by
  rw [ofText_eq_error_iff, ← outcome_notInteger_iff, ← parse_eq_iff]
  constructor
  · rintro ⟨f, hp, hm⟩
    obtain ⟨t, rfl, -⟩ := message_eq_notInteger_iff.mp hm
    -- the text that is quoted can only be the one that was read
    cases parse_eq_iff.mp hp with
    | notInteger _ => exact hp
  · intro hp
    exact ⟨_, hp, rfl⟩

theorem exists_ofText_eq_ok_iff : (∃ n, ofText s = .ok n) ↔
    ∃ v, Decimal.Denotes (Text.trim s).toList v ∧ 0 ≤ v ∧ v < 2 ^ 32 := by
  have hn : (∃ n, ofText s = .ok n) ↔ IsNumber s := by
    simp only [isNumber_iff, ofText_eq_ok_iff, parse_eq_ok_iff]
  exact hn

/-- **The grammar of a number text.**  What it comes to depends on the integer that it stands for,
if any: from 0 up to 2³² that integer, below 0 and from 2³² on a complaint that quotes the integer,
and beyond 128 bits, as without any integer, a complaint that quotes the text.  The wording tells
these apart, and there is nothing else. -/
theorem ofText_grammar (s : String) :
    (∀ n, ofText s = .ok n ↔ Decimal.Denotes (Text.trim s).toList n.value.toNat) ∧
    ((∃ n, ofText s = .ok n) ↔
      ∃ v, Decimal.Denotes (Text.trim s).toList v ∧ 0 ≤ v ∧ v < 2 ^ 32) ∧
    (∀ v : Int, ofText s = .error (.packetNumber (toString v ++ " is negative")) ↔
      Decimal.Denotes (Text.trim s).toList v ∧ -2 ^ 127 ≤ v ∧ v < 0) ∧
    (∀ v : Int, ofText s = .error (.packetNumber (toString v ++ " does not fit in 4 bytes")) ↔
      Decimal.Denotes (Text.trim s).toList v ∧ 2 ^ 32 ≤ v ∧ v < 2 ^ 127) ∧
    (ofText s = .error (.packetNumber (Text.quote (Text.trim s) ++ " is not an integer")) ↔
      ∀ v, Decimal.Denotes (Text.trim s).toList v → v < -2 ^ 127 ∨ 2 ^ 127 ≤ v) ∧
    ((∃ n, ofText s = .ok n) ∨
      (∃ v : Int, ofText s = .error (.packetNumber (toString v ++ " is negative"))) ∨
      (∃ v : Int, ofText s = .error (.packetNumber (toString v ++ " does not fit in 4 bytes"))) ∨
      ofText s = .error (.packetNumber (Text.quote (Text.trim s) ++ " is not an integer"))) := by
  refine ⟨fun n => ofText_eq_ok_iff, exists_ofText_eq_ok_iff, fun v => ofText_negative_iff,
    fun v => ofText_tooLarge_iff, ofText_notInteger_iff, ?_⟩
  by_cases hno : ∀ v, Decimal.Denotes (Text.trim s).toList v → v < -2 ^ 127 ∨ 2 ^ 127 ≤ v
  · exact Or.inr (Or.inr (Or.inr (ofText_notInteger_iff.mpr hno)))
  push Not at hno
  obtain ⟨v, hv, hlow, hhigh⟩ := hno
  by_cases hneg : v < 0
  · exact Or.inr (Or.inl ⟨v, ofText_negative_iff.mpr ⟨hv, hlow, hneg⟩⟩)
  by_cases hbig : 2 ^ 32 ≤ v
  · exact Or.inr (Or.inr (Or.inl ⟨v, ofText_tooLarge_iff.mpr ⟨hv, hbig, hhigh⟩⟩))
  · exact Or.inl (exists_ofText_eq_ok_iff.mpr ⟨v, hv, by omega, by omega⟩)

example : ofText " +0007\n" = .ok ⟨7⟩ := by decide

example : ofText "-0" = .ok ⟨0⟩ := by decide

end PacketNumber
end PacketAuth
