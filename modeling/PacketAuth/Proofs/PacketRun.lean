import PacketAuth.Proofs.ByteOrder
import PacketAuth.Proofs.SignerLaws

/-! # Runs of the counter

Byte strings of one length are ordered like the numbers that they denote (`BigEndian.lt_iff`), so
packet numbers are in the same order on the wire as in their sequence.  Counting on from a number
visits that number and all after it, each once, and then ends (`PacketNumber.map_onwards`); as the
message under a tag holds the number, no message comes up twice (`PacketNumber.never_repeats`). -/

namespace PacketAuth

namespace PacketNumber
variable {m n s : PacketNumber} {k : Nat}

theorem encode_lt_encode_iff : m.encode < n.encode ↔ m.value < n.value := by
  have hl : m.encode.length = n.encode.length := by simp [encode]
  rw [BigEndian.lt_iff hl, value_encode, value_encode, UInt32.lt_iff_toNat_lt]

theorem encode_le_encode_iff : m.encode ≤ n.encode ↔ m.le n = true := by
  rw [← List.not_lt, encode_lt_encode_iff, UInt32.not_lt]
  simp [le]

/-- Sorting keeps the numbers, and puts them in the order of their bytes on the wire. -/
theorem sort_spec (ns : List PacketNumber) :
    (sort ns).Perm ns ∧ (sort ns).Pairwise fun m n => m.encode ≤ n.encode := by
  have htrans : ∀ a b c : PacketNumber, a.le b = true → b.le c = true → a.le c = true := by
    intro a b c hab hbc
    simp only [le, decide_eq_true_eq] at hab hbc ⊢
    exact UInt32.le_trans hab hbc
  have htotal : ∀ a b : PacketNumber, (a.le b || b.le a) = true := by
    intro a b
    simp only [le, Bool.or_eq_true, decide_eq_true_eq]
    exact UInt32.le_total a.value b.value
  have hsorted := List.pairwise_mergeSort htrans htotal ns
  exact ⟨List.mergeSort_perm .., hsorted.imp encode_le_encode_iff.mpr⟩

/-! ### Counting on -/

theorem exists_value {v : Nat} (h : v < 0x100000000) : ∃ n : PacketNumber, n.value.toNat = v :=
  ⟨⟨UInt32.ofNat v⟩, UInt32.toNat_ofNat_of_lt' h⟩

theorem eq_iff_toNat : m = n ↔ m.value.toNat = n.value.toNat := by
  cases m
  cases n
  simp [UInt32.toNat_inj]

/-- The next number is larger by one, without wrapping. -/
theorem next?_eq_some_iff : m.next? = some n ↔ n.value.toNat = m.value.toNat + 1 := by
  have hn := n.value.toNat_lt
  unfold next?
  split_ifs with h
  · have hone : (m.value + 1).toNat = m.value.toNat + 1 := by
      rw [UInt32.toNat_add]
      exact Nat.mod_eq_of_lt h
    rw [Option.some.injEq, eq_iff_toNat, hone, eq_comm]
  · simp
    omega

theorem next?_eq_none_iff : m.next? = none ↔ m.value.toNat = 0xFFFFFFFF := by
  have hm := m.value.toNat_lt
  unfold next?
  split_ifs with h
  · simp
    omega
  · simp
    omega

/-- The counter after some steps, unless it has ended by then. -/
def after (s : PacketNumber) : (steps : Nat) → Option PacketNumber
  | 0 => some s
  | steps + 1 => (after s steps).bind next?

/-- Each step adds one, as long as there are numbers left. -/
theorem after_eq_some_iff : s.after k = some n ↔ n.value.toNat = s.value.toNat + k := by
  induction k generalizing n with
  | zero => rw [after, Option.some.injEq, eq_iff_toNat, Nat.add_zero, eq_comm]
  | succ k ih =>
      simp only [after, Option.bind_eq_some_iff, ih, next?_eq_some_iff]
      constructor
      · rintro ⟨m, hm, hn⟩
        omega
      · intro hn
        have hlt := n.value.toNat_lt
        obtain ⟨m, hm⟩ := exists_value (v := s.value.toNat + k) (by omega)
        exact ⟨m, hm, by omega⟩

theorem after_eq_none_iff : s.after k = none ↔ 0x100000000 ≤ s.value.toNat + k := by
  rw [Option.eq_none_iff_forall_ne_some]
  constructor
  · intro h
    by_contra hlt
    obtain ⟨n, hn⟩ := exists_value (Nat.lt_of_not_le hlt)
    exact h n (after_eq_some_iff.mpr hn)
  · intro hle n hn
    have hlt := n.value.toNat_lt
    rw [after_eq_some_iff] at hn
    omega

/-- A number and those after it, each the next of the one before it. -/
def onwards (n : PacketNumber) : List PacketNumber :=
  match h : n.next? with
  | none => [n]
  | some m =>
    have : 0x100000000 - m.value.toNat < 0x100000000 - n.value.toNat := by
      have hm := next?_eq_some_iff.mp h
      have hlt := m.value.toNat_lt
      omega
    n :: onwards m
termination_by 0x100000000 - n.value.toNat

theorem onwards_of_last (h : s.next? = none) : s.onwards = [s] := by
  unfold onwards
  split
  · rfl
  · next hm =>
      rw [h] at hm
      cases hm

theorem onwards_of_next (h : s.next? = some m) : s.onwards = s :: m.onwards := by
  conv_lhs => unfold onwards
  split
  · next hm =>
      rw [h] at hm
      cases hm
  · next hm =>
      obtain rfl := Option.some.inj (h.symm.trans hm)
      rfl

/-- Counting on visits the values from the first to the last, without a gap. -/
theorem map_onwards (s : PacketNumber) : (s.onwards.map fun n => n.value.toNat) =
    List.range' s.value.toNat (0x100000000 - s.value.toNat) := by
  induction s using onwards.induct with
  | case1 s h => simp [onwards_of_last h, next?_eq_none_iff.mp h]
  | case2 s m h _ ih =>
      have hm := next?_eq_some_iff.mp h
      have hlt := m.value.toNat_lt
      have hleft : 0x100000000 - s.value.toNat = 0x100000000 - m.value.toNat + 1 := by omega
      rw [onwards_of_next h, List.map_cons, ih, hleft, List.range'_succ, hm]

theorem getElem?_onwards_eq_some_iff : s.onwards[k]? = some n ↔
    n.value.toNat = s.value.toNat + k := by
  have hmap : s.onwards[k]? = some n ↔
      (s.onwards.map fun n => n.value.toNat)[k]? = some n.value.toNat := by
    rw [List.getElem?_map, Option.map_eq_some_iff]
    constructor
    · intro h
      exact ⟨n, h, rfl⟩
    · rintro ⟨m, hm, he⟩
      rw [hm, eq_iff_toNat.mpr he]
  have hn := n.value.toNat_lt
  rw [hmap, map_onwards]
  by_cases hk : k < 0x100000000 - s.value.toNat
  · rw [List.getElem?_range' hk, Option.some.injEq, Nat.one_mul, eq_comm]
  · rw [List.getElem?_eq_none (by rw [List.length_range']; omega)]
    simp
    omega

/-- The list holds what the counter shows, step by step. -/
theorem after_eq_getElem? (s : PacketNumber) (k : Nat) : s.after k = s.onwards[k]? := by
  ext n
  rw [after_eq_some_iff, getElem?_onwards_eq_some_iff]

theorem pairwise_onwards (s : PacketNumber) : s.onwards.Pairwise fun m n => m.value < n.value := by
  have h : (List.range' s.value.toNat (0x100000000 - s.value.toNat)).Pairwise (· < ·) :=
    List.pairwise_lt_range' 1
  rw [← map_onwards, List.pairwise_map] at h
  simpa only [UInt32.lt_iff_toNat_lt] using h

end PacketNumber

/-- Whatever the modes and the payloads, messages of different numbers are different. -/
theorem Signer.message_ne (a b : Signer) (p q : Bytes) {m n : PacketNumber} (h : m ≠ n) :
    (a.message (.of p) m).flatten ≠ (b.message (.of q) n).flatten := by
  rw [flatten_message, flatten_message]
  intro he
  exact h (Mode.covered_eq_iff.mp he).2.1

/-- **The counter never repeats.**  A packet number takes four bytes, whose value it is, and the
order of these bytes is the order of the sequence.  Counting on from any number shows that number
and each one after it, once and in the order of their bytes; then the counter has ended, and it
stays so.  The messages authenticated on the way are pairwise different in either mode, whatever
the payloads are. -/
theorem PacketNumber.never_repeats :
    (∀ n : PacketNumber, n.encode.length = 4 ∧ BigEndian.value n.encode = n.value.toNat) ∧
    (∀ m n : PacketNumber, (m.value < n.value ↔ m.encode < n.encode) ∧
      (m.le n = true ↔ m.encode ≤ n.encode) ∧ (m.encode = n.encode ↔ m = n)) ∧
    ∀ s : PacketNumber,
      (s.onwards.map fun n => n.value.toNat) =
        List.range' s.value.toNat (0x100000000 - s.value.toNat) ∧
      (∀ k, s.after k = s.onwards[k]?) ∧
      (∀ k, s.after k = none ↔ 0x100000000 ≤ s.value.toNat + k) ∧
      s.onwards.Pairwise (fun m n => m.encode < n.encode) ∧
      s.onwards.Pairwise fun m n => ∀ (a b : Signer) (p q : Bytes),
        (a.message (.of p) m).flatten ≠ (b.message (.of q) n).flatten := by
  refine ⟨fun n => ⟨BigEndian.length_encode _ _, value_encode n⟩, fun m n => ?_, fun s => ?_⟩
  · exact ⟨encode_lt_encode_iff.symm, encode_le_encode_iff.symm, encode_injective.eq_iff⟩
  · refine ⟨map_onwards s, after_eq_getElem? s, fun k => after_eq_none_iff, ?_, ?_⟩
    · exact s.pairwise_onwards.imp encode_lt_encode_iff.mpr
    · refine s.pairwise_onwards.imp fun {m n} hlt a b p q => Signer.message_ne a b p q ?_
      rintro rfl
      exact absurd hlt (UInt32.lt_irrefl _)

/-- From the last number but one there is one more step. -/
example : (PacketNumber.mk 0xFFFFFFFE).after 1 = some ⟨0xFFFFFFFF⟩ ∧
    (PacketNumber.mk 0xFFFFFFFE).after 2 = none := by decide

end PacketAuth
