import Mathlib.Tactic.Common
import PacketAuth.Bytes.Base64
import PacketAuth.Proofs.Outcomes
import PacketAuth.Proofs.WrittenText

/-! # Base64 as an exact codec

Reading accepts exactly what writing produces: `decode_eq_ok_iff` for text held as bytes and
`parse_eq_ok_iff` for strings, where blanks at the ends do not count.  So a byte string has one
text and a text at most one byte string (`text_injective`). -/

namespace PacketAuth.Base64

/-! ### The alphabet -/

theorem sextet?_symbol {n : Nat} (h : n < 64) : sextet? (symbol n) = some n := by
  revert n
  decide

theorem symbol_ne_pad {n : Nat} (h : n < 64) : symbol n ≠ pad := by
  revert n
  decide

theorem toNat_symbol {n : Nat} (h : n < 64) : (symbol n).toNat =
    if n < 26 then n + 65 else if n < 52 then n + 71 else if n < 62 then n - 4
    else if n = 62 then 43 else 47 := by
  revert n
  decide

theorem symbol_of_sextet? {b : UInt8} {n : Nat} (h : sextet? b = some n) :
    n < 64 ∧ symbol n = b := by
  have hn : n < 64 := by
    simp only [sextet?] at h
    split_ifs at h <;> cases h <;> omega
  refine ⟨hn, UInt8.toNat_inj.mp ?_⟩
  rw [toNat_symbol hn]
  simp only [sextet?] at h
  split_ifs at h <;> cases h <;> split_ifs <;> omega

theorem sextet?_eq_some_iff {b : UInt8} {n : Nat} : sextet? b = some n ↔ n < 64 ∧ symbol n = b := by
  constructor
  · exact symbol_of_sextet?
  · rintro ⟨hn, rfl⟩
    exact sextet?_symbol hn

/-- Numbers beyond six bits have the last symbol. -/
theorem symbol_of_le {n : Nat} (h : 64 ≤ n) : symbol n = symbol 63 := by
  unfold symbol
  rw [if_neg (by omega), if_neg (by omega), if_neg (by omega), if_neg (by omega)]
  rfl

/-! ### One group -/

theorem join_pair (a : UInt8) : join [a.toNat / 4, a.toNat % 4 * 16] = [a] := by
  have ha := a.toNat_lt
  simp only [join, List.cons.injEq, and_true, ← UInt8.toNat_inj, UInt8.toNat_ofNat']
  omega

theorem join_triple (a b : UInt8) :
    join [a.toNat / 4, a.toNat % 4 * 16 + b.toNat / 16, b.toNat % 16 * 4] = [a, b] := by
  have ha := a.toNat_lt
  have hb := b.toNat_lt
  simp only [join, List.cons.injEq, and_true, ← UInt8.toNat_inj, UInt8.toNat_ofNat']
  omega

theorem join_quad (a b c : UInt8) :
    join [a.toNat / 4, a.toNat % 4 * 16 + b.toNat / 16, b.toNat % 16 * 4 + c.toNat / 64,
      c.toNat % 64] = [a, b, c] := by
  have ha := a.toNat_lt
  have hb := b.toNat_lt
  have hc := c.toNat_lt
  simp only [join, List.cons.injEq, and_true, ← UInt8.toNat_inj, UInt8.toNat_ofNat']
  omega

theorem encode_join_pair {p q : Nat} (hp : p < 64) (hq : q < 64) (h : q % 16 = 0) :
    encode (join [p, q]) = [symbol p, symbol q, pad, pad] := by
  have h1 : (p * 4 + q / 16) % 256 / 4 = p := by omega
  have h2 : (p * 4 + q / 16) % 256 % 4 * 16 = q := by omega
  simp only [join, encode, UInt8.toNat_ofNat', Nat.reducePow, h1, h2]

theorem encode_join_triple {p q r : Nat} (hp : p < 64) (hq : q < 64) (hr : r < 64)
    (h : r % 4 = 0) : encode (join [p, q, r]) = [symbol p, symbol q, symbol r, pad] := by
  have h1 : (p * 4 + q / 16) % 256 / 4 = p := by omega
  have h2 : (p * 4 + q / 16) % 256 % 4 * 16 + (q % 16 * 16 + r / 4) % 256 / 16 = q := by omega
  have h3 : (q % 16 * 16 + r / 4) % 256 % 16 * 4 = r := by omega
  simp only [join, encode, UInt8.toNat_ofNat', Nat.reducePow, h1, h2, h3]

theorem encode_join_quad {p q r s : Nat} (hp : p < 64) (hq : q < 64) (hr : r < 64) (hs : s < 64)
    (rest : Bytes) : encode (join [p, q, r, s] ++ rest) =
      symbol p :: symbol q :: symbol r :: symbol s :: encode rest := by
  have h1 : (p * 4 + q / 16) % 256 / 4 = p := by omega
  have h2 : (p * 4 + q / 16) % 256 % 4 * 16 + (q % 16 * 16 + r / 4) % 256 / 16 = q := by omega
  have h3 : (q % 16 * 16 + r / 4) % 256 % 16 * 4 + (r % 4 * 64 + s) % 256 / 64 = r := by omega
  have h4 : (r % 4 * 64 + s) % 256 % 64 = s := by omega
  simp only [join, List.cons_append, List.nil_append, encode, UInt8.toNat_ofNat', Nat.reducePow,
    h1, h2, h3, h4]

/-- The last group goes on with the symbols of `more` and then `padding` padding symbols, and these
make it a group that a byte string has. -/
structure EndsWith (numbers : List Nat) (pads : Nat) (bs : Bytes) (more : List Nat)
    (padding : Nat) : Prop where
  text : bs = more.map symbol ++ List.replicate padding pad
  sextets : ∀ n ∈ more, n < 64
  padded : pads ≠ 0 → more = []
  enough : 2 ≤ numbers.length + more.length
  whole : (numbers.length + more.length + pads + padding) % 4 = 0
  exhausted : noLeftover (numbers ++ more) = true

namespace EndsWith
variable {numbers more : List Nat} {pads padding : Nat} {b : UInt8} {bs : Bytes}

theorem nil_iff : EndsWith numbers pads [] more padding ↔ more = [] ∧ padding = 0 ∧
    2 ≤ numbers.length ∧ (numbers.length + pads) % 4 = 0 ∧ noLeftover numbers = true := by
  constructor
  · rintro ⟨ht, -, -, he, hw, hx⟩
    obtain ⟨hm, hp⟩ := List.append_eq_nil_iff.mp ht.symm
    obtain rfl := List.map_eq_nil_iff.mp hm
    obtain rfl : padding = 0 := by simpa using hp
    exact ⟨rfl, rfl, he, hw, by simpa using hx⟩
  · rintro ⟨rfl, rfl, he, hw, hx⟩
    exact ⟨rfl, by simp, fun _ => rfl, he, hw, by simpa using hx⟩

theorem cons_pad_iff : EndsWith numbers pads (pad :: bs) more padding ↔ more = [] ∧
    2 ≤ numbers.length ∧ ∃ k, padding = k + 1 ∧ EndsWith numbers (pads + 1) bs [] k := by
  constructor
  · rintro ⟨ht, hs, -, he, hw, hx⟩
    cases more with
    | cons n more =>
        rw [List.map_cons, List.cons_append, List.cons.injEq] at ht
        exact absurd ht.1.symm (symbol_ne_pad (hs n List.mem_cons_self))
    | nil =>
        cases padding with
        | zero => cases ht
        | succ k =>
            rw [List.map_nil, List.nil_append, List.replicate_succ, List.cons.injEq] at ht
            exact ⟨rfl, he, k, rfl, ht.2, by simp, fun _ => rfl, he, by omega, hx⟩
  · rintro ⟨rfl, he, k, rfl, ht, -, -, -, hw, hx⟩
    refine ⟨?_, by simp, fun _ => rfl, he, by omega, hx⟩
    rw [ht, List.replicate_succ]
    rfl

theorem cons_iff (hb : b ≠ pad) : EndsWith numbers pads (b :: bs) more padding ↔ pads = 0 ∧
    ∃ n rest, sextet? b = some n ∧ more = n :: rest ∧
      EndsWith (numbers ++ [n]) 0 bs rest padding := by
  constructor
  · rintro ⟨ht, hs, hp, he, hw, hx⟩
    cases more with
    | nil =>
        cases padding with
        | zero => cases ht
        | succ k =>
            rw [List.map_nil, List.nil_append, List.replicate_succ, List.cons.injEq] at ht
            exact absurd ht.1 hb
    | cons n rest =>
        rw [List.map_cons, List.cons_append, List.cons.injEq] at ht
        obtain rfl : pads = 0 := by
          by_contra h
          cases hp h
        refine ⟨rfl, n, rest, ?_, rfl, ht.2, ?_, by simp, ?_, ?_, ?_⟩
        · rw [ht.1, sextet?_symbol (hs n List.mem_cons_self)]
        · exact fun m hm => hs m (List.mem_cons_of_mem _ hm)
        · simp only [List.length_append, List.length_cons, List.length_nil] at he ⊢
          omega
        · simp only [List.length_append, List.length_cons, List.length_nil] at hw ⊢
          omega
        · rwa [List.append_assoc]
  · rintro ⟨rfl, n, rest, hn, rfl, ht, hs, -, he, hw, hx⟩
    obtain ⟨hn64, rfl⟩ := symbol_of_sextet? hn
    refine ⟨by rw [ht]; rfl, ?_, by simp, ?_, ?_, ?_⟩
    · rintro m hm
      rcases List.mem_cons.mp hm with rfl | hm
      · exact hn64
      · exact hs m hm
    · simp only [List.length_append, List.length_cons, List.length_nil] at he ⊢
      omega
    · simp only [List.length_append, List.length_cons, List.length_nil] at hw ⊢
      omega
    · rwa [List.append_assoc] at hx

end EndsWith

/-- Reading the last group succeeds exactly if it goes on as it should. -/
theorem decodeEnd_eq_ok_iff (offset : Nat) (out : Bytes) : ∀ (bs : Bytes) (numbers : List Nat)
    (pads : Nat) (last : UInt8), decodeEnd offset numbers pads last bs = .ok out ↔
      ∃ more padding, EndsWith numbers pads bs more padding ∧ out = join (numbers ++ more)
  | [], numbers, pads, last => by
      unfold decodeEnd
      simp only [EndsWith.nil_iff]
      constructor
      · intro h
        split_ifs at h with h1 h2 h3
        refine ⟨[], 0, ⟨rfl, rfl, by omega, by omega, h3⟩, ?_⟩
        rw [List.append_nil]
        exact (Except.ok.inj h).symm
      · rintro ⟨_, _, ⟨rfl, rfl, he, hw, hx⟩, rfl⟩
        rw [if_neg (by omega), if_neg (by omega), if_pos hx, List.append_nil]
  | b :: bs, numbers, pads, last => by
      unfold decodeEnd
      by_cases hb : b = pad
      · subst hb
        rw [if_pos rfl]
        simp only [EndsWith.cons_pad_iff]
        split_ifs with h
        · constructor
          · intro h'
            cases h'
          · rintro ⟨_, _, ⟨-, he, -⟩, -⟩
            omega
        · rw [decodeEnd_eq_ok_iff offset out bs numbers (pads + 1) last]
          constructor
          · rintro ⟨more, k, hk, rfl⟩
            obtain rfl := hk.padded (by omega)
            exact ⟨[], k + 1, ⟨rfl, hk.enough, k, rfl, hk⟩, rfl⟩
          · rintro ⟨_, _, ⟨rfl, -, k, rfl, hk⟩, rfl⟩
            exact ⟨[], k, hk, rfl⟩
      · rw [if_neg hb]
        simp only [EndsWith.cons_iff hb]
        split_ifs with hp
        · constructor
          · intro h'
            cases h'
          · rintro ⟨_, _, ⟨h, -⟩, -⟩
            exact absurd h hp
        · obtain rfl : pads = 0 := by omega
          unfold sextetAt
          cases hn : sextet? b with
          | none =>
              constructor
              · intro h'
                cases h'
              · rintro ⟨_, _, ⟨-, _, _, h, -⟩, -⟩
                cases h
          | some n =>
              refine (decodeEnd_eq_ok_iff offset out bs (numbers ++ [n]) 0 b).trans ?_
              constructor
              · rintro ⟨rest, k, hk, rfl⟩
                refine ⟨n :: rest, k, ⟨rfl, n, rest, rfl, rfl, hk⟩, ?_⟩
                rw [List.append_assoc, List.singleton_append]
              · rintro ⟨_, k, ⟨-, m, rest, hm, rfl, hk⟩, rfl⟩
                obtain rfl := Option.some.inj hm
                refine ⟨rest, k, hk, ?_⟩
                rw [List.append_assoc, List.singleton_append]

/-! ### Whole texts -/

theorem length_encode (bs : Bytes) : (encode bs).length = 4 * ((bs.length + 2) / 3) := by
  fun_induction encode bs with
  | case1 a b c rest ih =>
      simp only [List.length_cons]
      omega
  | case2 a b => simp
  | case3 a => simp
  | case4 => rfl

/-- A group that ends as it should is the text of its bytes. -/
theorem EndsWith.eq_encode_join {bs : Bytes} {more : List Nat} {padding : Nat}
    (h : EndsWith [] 0 bs more padding) (h4 : bs.length ≤ 4) : bs = encode (join more) := by
  have hlen : bs.length = more.length + padding := by simp [h.text]
  have h1 := h.enough
  have h2 := h.whole
  have h3 := h.exhausted
  have hs := h.sextets
  rw [h.text]
  simp only [List.length_nil, Nat.zero_add, Nat.add_zero, List.nil_append] at h1 h2 h3
  match more with
  | [] => simp at h1
  | [_] => simp at h1
  | [p, q] =>
      obtain rfl : padding = 2 := by simp at hlen h2; omega
      rw [encode_join_pair (hs p (by simp)) (hs q (by simp)) (by simpa [noLeftover] using h3)]
      rfl
  | [p, q, r] =>
      obtain rfl : padding = 1 := by simp at hlen h2; omega
      rw [encode_join_triple (hs p (by simp)) (hs q (by simp)) (hs r (by simp))
        (by simpa [noLeftover] using h3)]
      rfl
  | [p, q, r, s] =>
      obtain rfl : padding = 0 := by simp at hlen h2; omega
      have hj := encode_join_quad (hs p (by simp)) (hs q (by simp)) (hs r (by simp))
        (hs s (by simp)) []
      rw [List.append_nil] at hj
      rw [hj]
      rfl
  | _ :: _ :: _ :: _ :: _ :: _ => simp at hlen; omega

/-- The text of one to three bytes is a group that ends as it should. -/
theorem exists_endsWith_encode {bs : Bytes} (h0 : bs ≠ []) (h3 : bs.length ≤ 3) :
    ∃ more padding, EndsWith [] 0 (encode bs) more padding ∧ bs = join more := by
  match bs with
  | [] => exact absurd rfl h0
  | [a] =>
      have ha := a.toNat_lt
      refine ⟨[a.toNat / 4, a.toNat % 4 * 16], 2, ⟨rfl, ?_, by simp, by simp, by simp, ?_⟩,
        (join_pair a).symm⟩
      · simp only [List.mem_cons, List.not_mem_nil, or_false, forall_eq_or_imp, forall_eq]
        omega
      · simp only [List.nil_append, noLeftover, beq_iff_eq]
        omega
  | [a, b] =>
      have ha := a.toNat_lt
      have hb := b.toNat_lt
      refine ⟨[a.toNat / 4, a.toNat % 4 * 16 + b.toNat / 16, b.toNat % 16 * 4], 1,
        ⟨rfl, ?_, by simp, by simp, by simp, ?_⟩, (join_triple a b).symm⟩
      · simp only [List.mem_cons, List.not_mem_nil, or_false, forall_eq_or_imp, forall_eq]
        omega
      · simp only [List.nil_append, noLeftover, beq_iff_eq]
        omega
  | [a, b, c] =>
      have ha := a.toNat_lt
      have hb := b.toNat_lt
      have hc := c.toNat_lt
      refine ⟨[a.toNat / 4, a.toNat % 4 * 16 + b.toNat / 16, b.toNat % 16 * 4 + c.toNat / 64,
        c.toNat % 64], 0, ⟨rfl, ?_, by simp, by simp, by simp, rfl⟩, (join_quad a b c).symm⟩
      simp only [List.mem_cons, List.not_mem_nil, or_false, forall_eq_or_imp, forall_eq]
      omega
  | _ :: _ :: _ :: _ :: _ =>
      simp only [List.length_cons] at h3
      omega

/-- A single group is read as the bytes it was written from. -/
theorem decodeEnd_eq_ok_iff_encode (offset : Nat) {bs : Bytes} (h0 : bs ≠ []) (h4 : bs.length ≤ 4)
    (out : Bytes) : decodeEnd offset [] 0 pad bs = .ok out ↔ bs = encode out := by
  rw [decodeEnd_eq_ok_iff]
  simp only [List.nil_append]
  constructor
  · rintro ⟨more, padding, h, rfl⟩
    exact h.eq_encode_join h4
  · rintro rfl
    have hout : out ≠ [] := fun h => h0 (by rw [h]; rfl)
    rw [length_encode] at h4
    exact exists_endsWith_encode hout (by omega)

theorem sextetAt_eq_ok_iff {offset n : Nat} {b : UInt8} :
    sextetAt offset b = .ok n ↔ n < 64 ∧ symbol n = b := by
  rw [← sextet?_eq_some_iff]
  unfold sextetAt
  cases sextet? b with
  | none => simp
  | some m => simp

theorem encode_eq_nil_iff {bs : Bytes} : encode bs = [] ↔ bs = [] := by
  constructor
  · intro h
    match bs with
    | [] => rfl
    | [_] => cases h
    | [_, _] => cases h
    | _ :: _ :: _ :: _ => cases h
  · rintro rfl
    rfl

/-- A text of more than one group was written from three bytes and more. -/
theorem eq_encode_iff {a b c d e : UInt8} {rest bs : Bytes} :
    a :: b :: c :: d :: e :: rest = encode bs ↔ ∃ x y z tail, bs = x :: y :: z :: tail ∧
      [a, b, c, d] = encode [x, y, z] ∧ e :: rest = encode tail := by
  constructor
  · intro h
    match bs with
    | [] => cases h
    | [_] => cases h
    | [_, _] => cases h
    | x :: y :: z :: tail =>
        simp only [encode, List.cons.injEq] at h ⊢
        exact ⟨x, y, z, tail, ⟨rfl, rfl, rfl, rfl⟩, by simp [h], h.2.2.2.2⟩
  · rintro ⟨x, y, z, tail, rfl, h, ht⟩
    simp only [encode, List.cons.injEq, and_true] at h ⊢
    exact ⟨h.1, h.2.1, h.2.2.1, h.2.2.2, ht⟩

theorem decodeGroups_eq_ok_iff (offset : Nat) (cs bs : Bytes) :
    decodeGroups offset cs = .ok bs ↔ cs = encode bs := by
  fun_induction decodeGroups offset cs generalizing bs with
  | case1 offset a b c d e rest ih =>
      simp only [Except.bind_eq_ok_iff, sextetAt_eq_ok_iff, ih, eq_encode_iff]
      constructor
      · rintro ⟨p, ⟨hp, rfl⟩, q, ⟨hq, rfl⟩, r, ⟨hr, rfl⟩, s, ⟨hs, rfl⟩, tail, ht, h⟩
        cases h
        exact ⟨_, _, _, tail, rfl, (encode_join_quad hp hq hr hs []).symm, ht⟩
      · rintro ⟨x, y, z, tail, rfl, h, ht⟩
        have hx := x.toNat_lt
        have hy := y.toNat_lt
        have hz := z.toNat_lt
        simp only [encode, List.cons.injEq, and_true] at h
        refine ⟨_, ⟨?_, h.1.symm⟩, _, ⟨?_, h.2.1.symm⟩, _, ⟨?_, h.2.2.1.symm⟩, _,
          ⟨?_, h.2.2.2.symm⟩, tail, ht, ?_⟩
        · omega
        · omega
        · omega
        · omega
        · rw [join_quad]
          rfl
  | case2 offset =>
      constructor
      · intro h
        cases h
        rfl
      · intro h
        rw [encode_eq_nil_iff.mp h.symm]
  | case3 offset cs h5 h0 =>
      refine decodeEnd_eq_ok_iff_encode offset h0 ?_ bs
      match cs with
      | [] => simp
      | [_] => simp
      | [_, _] => simp
      | [_, _, _] => simp
      | [_, _, _, _] => simp
      | a :: b :: c :: d :: e :: rest => exact absurd rfl (h5 a b c d e rest)

/-- **Reading accepts exactly what writing produces.** -/
theorem decode_eq_ok_iff (cs bs : Bytes) : decode cs = .ok bs ↔ cs = encode bs := by
  unfold decode strayEnd
  constructor
  · intro h
    split at h
    · cases h
    · exact (decodeGroups_eq_ok_iff 0 cs bs).mp h
  · rintro rfl
    rw [length_encode, Nat.mul_mod_right, if_neg (by decide)]
    exact (decodeGroups_eq_ok_iff 0 _ bs).mpr rfl

theorem encode_injective : Function.Injective encode := by
  intro a b h
  have ha := (decode_eq_ok_iff (encode a) a).mpr rfl
  rw [h, (decode_eq_ok_iff (encode b) b).mpr rfl] at ha
  exact (Except.ok.inj ha).symm

/-! ### Strings -/

/-- What holds of the symbols and of the padding holds of all written bytes. -/
theorem forall_mem_encode {P : UInt8 → Prop} (hs : ∀ n < 64, P (symbol n)) (hpad : P pad)
    (bs : Bytes) : ∀ b ∈ encode bs, P b := by
  have hsymbol : ∀ n, P (symbol n) := by
    intro n
    by_cases h : n < 64
    · exact hs n h
    · rw [symbol_of_le (Nat.not_lt.mp h)]
      exact hs 63 (by decide)
  fun_induction encode bs with
  | case1 a b c rest ih =>
      simp only [List.forall_mem_cons]
      exact ⟨hsymbol _, hsymbol _, hsymbol _, hsymbol _, ih⟩
  | case2 a b =>
      simp only [List.forall_mem_cons]
      exact ⟨hsymbol _, hsymbol _, hsymbol _, hpad, by simp⟩
  | case3 a =>
      simp only [List.forall_mem_cons]
      exact ⟨hsymbol _, hsymbol _, hpad, hpad, by simp⟩
  | case4 => simp

/-- Written bytes are 7-bit characters, none of them blank. -/
theorem encode_plain (bs : Bytes) : ∀ b ∈ encode bs,
    b.toNat < 128 ∧ Text.isBlank (Char.ofNat b.toNat) = false :=
  forall_mem_encode (by decide) (by decide) bs

/-- What holds of the characters of symbols and padding holds of those of a text. -/
theorem forall_mem_text {P : Char → Prop} (hs : ∀ n < 64, P (Char.ofNat (symbol n).toNat))
    (hpad : P (Char.ofNat pad.toNat)) (bs : Bytes) : ∀ c ∈ (text bs).toList, P c := by
  intro c hc
  unfold text at hc
  rw [String.toList_ofList] at hc
  obtain ⟨b, hb, rfl⟩ := List.mem_map.mp hc
  exact forall_mem_encode (P := fun b => P (Char.ofNat b.toNat)) hs hpad bs b hb

theorem encode_text (bs : Bytes) : Utf8.encode (text bs) = encode bs :=
  Utf8.encode_ofBytes (fun b hb => (encode_plain bs b hb).1)

theorem trim_text (bs : Bytes) : Text.trim (text bs) = text bs := by
  apply Text.trim_ofList
  intro c hc
  obtain ⟨b, hb, rfl⟩ := List.mem_map.mp hc
  exact (encode_plain bs b hb).2

theorem text_injective : Function.Injective text := by
  intro a b h
  apply encode_injective
  rw [← encode_text, ← encode_text, h]

/-- A text stands for a byte string exactly if, blanks at its ends aside, it is the text of it. -/
theorem parse_eq_ok_iff (s : String) (bs : Bytes) :
    parse s = .ok bs ↔ Text.trim s = text bs := by
  unfold parse
  rw [decode_eq_ok_iff, ← encode_text, Utf8.encode_inj]

theorem parse_text (bs : Bytes) : parse (text bs) = .ok bs :=
  (parse_eq_ok_iff _ bs).mpr (trim_text bs)

end PacketAuth.Base64
