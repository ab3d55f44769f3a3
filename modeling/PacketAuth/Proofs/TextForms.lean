import Mathlib.Data.Nat.Digits.Lemmas
import PacketAuth.Proofs.ByteOrder
import PacketAuth.Proofs.RequestLaws

/-! # The text form of keys and signatures

Keys and signatures are written alike.  The text is said here without the writer: the bits of the
bytes, filled up with zeros, are the bits of six-bit numbers, one sign for each, and padding makes
up whole groups of four (`Base64.Spells`).  Every byte string is spelled in one way, the one that is
written (`Base64.spells_iff`), and both readers accept the text so written, up to blanks at its
ends, and fail on any other with the same detail (`Signature.text_form`). -/

namespace PacketAuth

namespace Base64

/-! ### Six bits at a time -/

/-- The signs of the six-bit numbers, in order. -/
def alphabet : List Char :=
  "ABCDEFGHIJKLMNOPQRSTUVWXYZabcdefghijklmnopqrstuvwxyz0123456789+/".toList

/-- The bytes, with two zero bits more for each sign of padding, hold the same bits as the six-bit
numbers, and three bytes count as much as four signs. -/
structure Regroups (bs : Bytes) (sextets : List Nat) (pads : Nat) : Prop where
  lt : ∀ n ∈ sextets, n < 64
  value : Nat.ofDigits 64 sextets.reverse = BigEndian.value bs * 4 ^ pads
  whole : 4 * (bs.length + pads) = 3 * (sextets.length + pads)
  pads_lt : pads < 3

/-- `Spells cs bs`: the text `cs` has a sign for each six bits of `bs`, and padding at its end. -/
def Spells (cs : List Char) (bs : Bytes) : Prop :=
  ∃ sextets pads, Regroups bs sextets pads ∧
    cs = sextets.map (fun n => alphabet.getD n '=') ++ List.replicate pads '='

namespace Regroups
variable {bs : Bytes} {sextets others : List Nat} {pads more : Nat}

/-- Bytes have their bits cut in one way. -/
theorem unique (h : Regroups bs sextets pads) (h' : Regroups bs others more) :
    sextets = others ∧ pads = more := by
  have hw := h.whole
  have hw' := h'.whole
  have hp := h.pads_lt
  have hp' := h'.pads_lt
  obtain rfl : pads = more := by omega
  have hl : sextets.reverse.length = others.reverse.length := by
    rw [List.length_reverse, List.length_reverse]
    omega
  have hr : sextets.reverse = others.reverse := by
    refine Nat.ofDigits_inj_of_len_eq (by decide : 1 < 64) hl ?_ ?_ (h.value.trans h'.value.symm)
    · simpa using h.lt
    · simpa using h'.lt
  exact ⟨List.reverse_inj.mp hr, rfl⟩

/-- Three more bytes in front are four more six-bit numbers in front. -/
theorem cons (h : Regroups bs sextets pads) {a b c : UInt8} {p q r s : Nat}
    (hlt : ∀ n ∈ [p, q, r, s], n < 64)
    (hv : ((p * 64 + q) * 64 + r) * 64 + s = (a.toNat * 256 + b.toNat) * 256 + c.toNat) :
    Regroups (a :: b :: c :: bs) (p :: q :: r :: s :: sextets) pads where
  lt := by
    intro n hn
    rcases List.mem_append.mp (show n ∈ [p, q, r, s] ++ sextets from hn) with hn | hn
    · exact hlt n hn
    · exact h.lt n hn
  value := by
    have hw := h.whole
    have hpow : 64 ^ sextets.length = 256 ^ bs.length * 4 ^ pads := by
      have h64 : (64 : Nat) = 4 ^ 3 := by decide
      have h256 : (256 : Nat) = 4 ^ 4 := by decide
      rw [h64, h256, ← pow_mul, ← pow_mul, ← pow_add]
      congr 1
      omega
    simp only [Nat.ofDigits_reverse_cons, BigEndian.value_cons, h.value, List.length_cons,
      pow_succ, hpow]
    calc _ = BigEndian.value bs * 4 ^ pads +
          (((p * 64 + q) * 64 + r) * 64 + s) * (256 ^ bs.length * 4 ^ pads) := by ring
      _ = _ := by rw [hv]; ring
  whole := by
    have hw := h.whole
    simp only [List.length_cons]
    omega
  pads_lt := h.pads_lt

end Regroups

/-! ### What is written -/

theorem ofNat_symbol {n : Nat} (h : n < 64) :
    Char.ofNat (symbol n).toNat = alphabet.getD n '=' := by
  revert n
  decide

theorem map_symbol {ns : List Nat} (h : ∀ n ∈ ns, n < 64) :
    (ns.map symbol).map (fun b => Char.ofNat b.toNat) =
      ns.map (fun n => alphabet.getD n '=') := by
  rw [List.map_map]
  exact List.map_congr_left fun n hn => ofNat_symbol (h n hn)

/-- Writing cuts the bits of the bytes into the numbers of its symbols. -/
theorem exists_regroups (bs : Bytes) : ∃ sextets pads, Regroups bs sextets pads ∧
    encode bs = sextets.map symbol ++ List.replicate pads pad := by
  fun_induction encode bs with
  | case1 a b c rest ih =>
      obtain ⟨sextets, pads, h, he⟩ := ih
      have ha := a.toNat_lt
      have hb := b.toNat_lt
      have hc := c.toNat_lt
      refine ⟨_, pads, h.cons (a := a) (b := b) (c := c) (p := a.toNat / 4)
        (q := a.toNat % 4 * 16 + b.toNat / 16) (r := b.toNat % 16 * 4 + c.toNat / 64)
        (s := c.toNat % 64) ?_ ?_, ?_⟩
      · simp only [List.mem_cons, List.not_mem_nil, or_false, forall_eq_or_imp, forall_eq]
        omega
      · omega
      · rw [he]
        rfl
  | case2 a b =>
      have ha := a.toNat_lt
      have hb := b.toNat_lt
      refine ⟨[a.toNat / 4, a.toNat % 4 * 16 + b.toNat / 16, b.toNat % 16 * 4], 1, ?_, rfl⟩
      refine ⟨?_, ?_, rfl, by decide⟩
      · simp only [List.mem_cons, List.not_mem_nil, or_false, forall_eq_or_imp, forall_eq]
        omega
      · simp [Nat.ofDigits_cons, BigEndian.value]
        omega
  | case3 a =>
      have ha := a.toNat_lt
      refine ⟨[a.toNat / 4, a.toNat % 4 * 16], 2, ?_, rfl⟩
      refine ⟨?_, ?_, rfl, by decide⟩
      · simp only [List.mem_cons, List.not_mem_nil, or_false, forall_eq_or_imp, forall_eq]
        omega
      · simp [Nat.ofDigits_cons, BigEndian.value]
        omega
  | case4 => exact ⟨[], 0, ⟨by simp, by simp [BigEndian.value], rfl, by decide⟩, rfl⟩

/-- The text of a byte string spells it. -/
theorem spells_text (bs : Bytes) : Spells (text bs).toList bs := by
  obtain ⟨sextets, pads, h, he⟩ := exists_regroups bs
  refine ⟨sextets, pads, h, ?_⟩
  unfold text
  rw [String.toList_ofList, he, List.map_append, map_symbol h.lt, List.map_replicate]
  rfl

/-- A byte string has one spelling. -/
theorem spells_iff {cs : List Char} {bs : Bytes} : Spells cs bs ↔ cs = (text bs).toList := by
  constructor
  · rintro ⟨sextets, pads, h, rfl⟩
    obtain ⟨others, more, h', he⟩ := spells_text bs
    obtain ⟨rfl, rfl⟩ := h.unique h'
    exact he.symm
  · rintro rfl
    exact spells_text bs

end Base64

/-! ### Keys and signatures -/

namespace Signature

/-- A text is read as a signature and as a key of the same bytes, or as neither and for the same
reason. -/
theorem parse_cases (t : String) :
    (∃ bs, parse t = .ok ⟨bs⟩ ∧ Key.parse t = .ok ⟨bs⟩) ∨
      ∃ detail, parse t = .error (.signatureText detail) ∧
        Key.parse t = .error (.keyText detail) := by
  unfold parse Key.parse
  cases Base64.parse t with
  | ok bs => exact Or.inl ⟨bs, rfl, rfl⟩
  | error fault => exact Or.inr ⟨fault.message, rfl, rfl⟩

/-- Texts of the same bytes are equal up to blanks at their ends. -/
theorem trim_eq_of_parse {t u : String} {sig : Signature} (ht : parse t = .ok sig)
    (hu : parse u = .ok sig) : Text.trim t = Text.trim u :=
  (parse_eq_ok_iff.mp ht).trans (parse_eq_ok_iff.mp hu).symm

theorem text_injective : Function.Injective text := by
  intro a b h
  exact Signer.signature_eq_iff.mpr (Base64.text_injective h)

theorem parse_text (sig : Signature) : parse sig.text = .ok sig :=
  parse_eq_ok_iff.mpr (Base64.trim_text _)

/-- **Keys and signatures have one text form.**  A text is read as both, with the same bytes, or as
neither, with the same detail, and it is read exactly if, blanks at its ends aside, it is what those
bytes are written as.  That is their one spelling; so what is written is read back, different bytes
are written differently, and texts that differ in more than such blanks are read differently. -/
theorem text_form :
    (∀ t, (∃ bs, Text.trim t = (mk bs).text ∧ parse t = .ok ⟨bs⟩ ∧ Key.parse t = .ok ⟨bs⟩) ∨
      ((∀ bs, Text.trim t ≠ (mk bs).text) ∧ ∃ detail,
        parse t = .error (.signatureText detail) ∧ Key.parse t = .error (.keyText detail))) ∧
    (∀ t bs, (parse t = .ok ⟨bs⟩ ↔ Text.trim t = (mk bs).text) ∧
      (Key.parse t = .ok ⟨bs⟩ ↔ Text.trim t = (mk bs).text)) ∧
    (∀ bs cs, Base64.Spells cs bs ↔ cs = (mk bs).text.toList) ∧
    (∀ bs, parse (mk bs).text = .ok ⟨bs⟩ ∧ Key.parse (mk bs).text = .ok ⟨bs⟩) ∧
    Function.Injective text ∧
    (∀ t u, Text.trim t ≠ Text.trim u → ∀ bs,
      ¬ (parse t = .ok ⟨bs⟩ ∧ parse u = .ok ⟨bs⟩) ∧
      ¬ (Key.parse t = .ok ⟨bs⟩ ∧ Key.parse u = .ok ⟨bs⟩)) := by
  refine ⟨?_, fun t bs => ⟨parse_eq_ok_iff, Key.parse_eq_ok_iff⟩, fun bs cs => Base64.spells_iff,
    fun bs => ⟨parse_text ⟨bs⟩, Key.parse_eq_ok_iff.mpr (Base64.trim_text bs)⟩, text_injective, ?_⟩
  · intro t
    rcases parse_cases t with ⟨bs, hs, hk⟩ | ⟨detail, hs, hk⟩
    · exact Or.inl ⟨bs, parse_eq_ok_iff.mp hs, hs, hk⟩
    · refine Or.inr ⟨fun bs ht => ?_, detail, hs, hk⟩
      rw [parse_eq_ok_iff.mpr ht] at hs
      cases hs
  · intro t u hne bs
    refine ⟨fun h => hne (trim_eq_of_parse h.1 h.2), fun h => hne ?_⟩
    exact (Key.parse_eq_ok_iff.mp h.1).trans (Key.parse_eq_ok_iff.mp h.2).symm

/-- Four bytes under a no-break space and a line feed; the same symbols with a bit set that belongs
to no byte are another text, and so no text of these bytes. -/
theorem text_form_deadbeef :
    parse "\u00a03q2+7w==\n" = .ok ⟨[0xDE, 0xAD, 0xBE, 0xEF]⟩ ∧
    Key.parse "\u00a03q2+7w==\n" = .ok ⟨[0xDE, 0xAD, 0xBE, 0xEF]⟩ ∧
    Text.trim "3q2+7x==" ≠ Text.trim "3q2+7w==" ∧
    ¬ (parse "3q2+7x==" = .ok ⟨[0xDE, 0xAD, 0xBE, 0xEF]⟩ ∧
      parse "3q2+7w==" = .ok ⟨[0xDE, 0xAD, 0xBE, 0xEF]⟩) := by
  have hw : Text.trim "\u00a03q2+7w==\n" = (mk [0xDE, 0xAD, 0xBE, 0xEF]).text := by decide
  have hx : Text.trim "3q2+7x==" ≠ Text.trim "3q2+7w==" := by decide
  obtain ⟨-, hread, -, -, -, hne⟩ := text_form
  exact ⟨(hread _ _).1.mpr hw, (hread _ _).2.mpr hw, hx, (hne _ _ hx _).1⟩

end Signature
end PacketAuth
