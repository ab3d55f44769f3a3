import PacketAuth.Proofs.PolicySection
import PacketAuth.Proofs.SurroundingBlanks

/-! # How the names of policy choices may be spelt

Each of the two readers brings a text to a normal form and compares it with a few names
(`Hash.Spells`, `Mode.Spells`).  Whatever leaves the normal form alone leaves the verdict alone:
case, blanks around the text, hyphens in a hash text, and `_` for `-` in a mode text.  Of a trimmed
text, the normal form loses hyphens only, so a text with anything else in it that no name has is
refused (`name_spellings`). -/

namespace PacketAuth

namespace Text
variable {f : Char → Char} {cs ds : List Char} {c : Char}

/-! ### Characters in lower case -/

/-- A character is lowered by 32 places if it is a capital letter of ASCII, and else not at all. -/
theorem toLower_cases (c : Char) : c.toLower = c ∨
    65 ≤ c.toNat ∧ c.toNat ≤ 90 ∧ c.toLower.toNat = c.toNat + 32 := by
  unfold Char.toLower
  split_ifs with h
  · have hlow : 65 ≤ c.toNat := UInt32.le_iff_toNat_le.mp h.1
    have hhigh : c.toNat ≤ 90 := UInt32.le_iff_toNat_le.mp h.2
    have hsum : (c.val + 32).toNat = c.toNat + 32 := by
      rw [UInt32.toNat_add]
      exact Nat.mod_eq_of_lt (by change c.toNat + 32 < _; omega)
    exact .inr ⟨hlow, hhigh, hsum⟩
  · exact .inl rfl

theorem isBlank_toLower (c : Char) : isBlank c.toLower = isBlank c := by
  rcases toLower_cases c with h | ⟨h65, h90, h⟩
  · rw [h]
  · have hbetween : ∀ {d : Char}, 65 ≤ d.toNat → d.toNat ≤ 122 → isBlank d = false := by
      intro d h1 h2
      simp only [isBlank, Bool.or_eq_false_iff, Bool.and_eq_false_iff, decide_eq_false_iff_not,
        beq_eq_false_iff_ne]
      omega
    rw [hbetween (by omega) (by omega), hbetween h65 (by omega)]

theorem toLower_eq_underscore_iff : c.toLower = '_' ↔ c = '_' := by
  constructor
  · intro h
    rcases toLower_cases c with hc | ⟨h65, h90, hc⟩
    · rw [← hc, h]
    · rw [h] at hc
      have hu : '_'.toNat = 95 := by decide
      omega
  · rintro rfl
    decide

/-- The underscore is read as a hyphen. -/
def dash (c : Char) : Char := if c = '_' then '-' else c

theorem dash_toLower (c : Char) : dash c.toLower = (dash c).toLower := by
  unfold dash
  simp only [toLower_eq_underscore_iff]
  split_ifs
  · decide
  · rfl

theorem isBlank_dash (c : Char) : isBlank (dash c) = isBlank c := by
  unfold dash
  split_ifs with h
  · rw [h]
    decide
  · rfl

/-- A character of ASCII that is no blank. -/
def IsVisible (c : Char) : Prop := isBlank c = false ∧ c.toNat < 128

instance (c : Char) : Decidable (IsVisible c) := inferInstanceAs (Decidable (_ ∧ _))

/-- A text of such characters. -/
def AllVisible (cs : List Char) : Prop := ∀ c ∈ cs, IsVisible c

instance (cs : List Char) : Decidable (AllVisible cs) := List.decidableBAll ..

theorem isVisible_of_toLower (h : IsVisible c.toLower) : IsVisible c := by
  refine ⟨isBlank_toLower c ▸ h.1, ?_⟩
  rcases toLower_cases c with hc | ⟨-, h90, -⟩
  · exact hc ▸ h.2
  · omega

theorem isVisible_of_dash (h : IsVisible (dash c)) : IsVisible c := by
  refine ⟨isBlank_dash c ▸ h.1, ?_⟩
  by_cases hc : c = '_'
  · rw [hc]
    decide
  · exact (if_neg hc : dash c = c) ▸ h.2

/-! ### Trimming -/

/-- Trimming looks at blanks only. -/
theorem trimChars_map (hf : ∀ c, isBlank (f c) = isBlank c) (cs : List Char) :
    trimChars (cs.map f) = (trimChars cs).map f := by
  have hcomp : isBlank ∘ f = isBlank := funext hf
  unfold trimChars trimEnd
  rw [List.dropWhile_map, hcomp, ← List.map_reverse, List.dropWhile_map, hcomp, ← List.map_reverse]

theorem map_trim_congr (hf : ∀ c, isBlank (f c) = isBlank c) {s u : String}
    (h : s.toList.map f = u.toList.map f) :
    (trim s).toList.map f = (trim u).toList.map f := by
  rw [toList_trim, toList_trim, ← trimChars_map hf, ← trimChars_map hf, h]

/-- `Trimmed cs`: there is no blank at either end. -/
def Trimmed (cs : List Char) : Prop :=
  cs.dropWhile isBlank = cs ∧ cs.reverse.dropWhile isBlank = cs.reverse

theorem trimChars_eq_self_iff : trimChars cs = cs ↔ Trimmed cs := by
  unfold trimChars trimEnd Trimmed
  constructor
  · intro h
    have hlen := congrArg List.length h
    rw [List.length_reverse] at hlen
    have hback := (List.dropWhile_suffix (l := (cs.dropWhile isBlank).reverse) isBlank).length_le
    rw [hlen, List.length_reverse] at hback
    have hfront : cs.dropWhile isBlank = cs := (List.dropWhile_suffix isBlank).eq_of_length_le hback
    rw [hfront] at h
    exact ⟨hfront, List.reverse_eq_iff.mp h⟩
  · rintro ⟨hfront, hback⟩
    rw [hfront, hback, List.reverse_reverse]

/-! ### Hyphens put into a text -/

/-- `WithHyphens cs ds`: the second text is the first with hyphens put in anywhere. -/
inductive WithHyphens : List Char → List Char → Prop
  | nil : WithHyphens [] []
  | hyphen {cs ds : List Char} : WithHyphens cs ds → WithHyphens cs ('-' :: ds)
  | cons (c : Char) {cs ds : List Char} : WithHyphens cs ds → WithHyphens (c :: cs) (c :: ds)

namespace WithHyphens

theorem append {as bs : List Char} (h : WithHyphens as bs) (h' : WithHyphens cs ds) :
    WithHyphens (as ++ cs) (bs ++ ds) := by
  induction h with
  | nil => exact h'
  | hyphen _ ih => exact ih.hyphen
  | cons c _ ih => exact ih.cons c

theorem reverse (h : WithHyphens cs ds) : WithHyphens cs.reverse ds.reverse := by
  induction h with
  | nil => exact nil
  | hyphen _ ih =>
      rw [List.reverse_cons, ← List.append_nil (List.reverse _)]
      exact ih.append nil.hyphen
  | cons c _ ih =>
      rw [List.reverse_cons, List.reverse_cons]
      exact ih.append (nil.cons c)

/-- A hyphen is no blank, so the text still starts with something else than a blank. -/
theorem dropWhile_eq_self (h : WithHyphens cs ds) (hcs : cs.dropWhile isBlank = cs) :
    ds.dropWhile isBlank = ds := by
  cases h with
  | nil => rfl
  | hyphen _ => exact List.dropWhile_cons_of_neg (by decide)
  | @cons c cs _ _ =>
      have hc := List.head?_dropWhile_not isBlank (c :: cs)
      rw [hcs] at hc
      exact List.dropWhile_cons_of_neg (Bool.eq_false_iff.mp hc)

theorem trimmed (h : WithHyphens cs ds) (hcs : Trimmed cs) : Trimmed ds :=
  ⟨h.dropWhile_eq_self hcs.1, h.reverse.dropWhile_eq_self hcs.2⟩

/-- The hyphens that are put in are deleted again. -/
theorem filter_eq (h : WithHyphens cs ds) (hf : f '-' = '-') :
    (ds.map f).filter (· ≠ '-') = (cs.map f).filter (· ≠ '-') := by
  induction h with
  | nil => rfl
  | hyphen _ ih =>
      rw [List.map_cons, hf, List.filter_cons_of_neg (by decide), ih]
  | cons c _ ih => rw [List.map_cons, List.map_cons, List.filter_cons, List.filter_cons, ih]

end WithHyphens
end Text

open Text (isBlank dash WithHyphens)

variable {s u : String} {h : Hash} {m : Mode} {cs : List Char} {c : Char}

/-! ### Hash functions -/

/-- The text names the hash function: trimmed, in lower case and without hyphens it is the name, or
the name after `hmac`. -/
def Hash.Spells (s : String) (h : Hash) : Prop :=
  ((Text.trim s).toList.map Char.toLower).filter (· ≠ '-') ∈
    [h.name.toList, ("hmac" ++ h.name).toList]

namespace Hash

theorem dropMac_eq_name_iff :
    dropMac cs = h.name.toList ↔ cs ∈ [h.name.toList, ("hmac" ++ h.name).toList] := by
  have hmac : ("hmac" ++ h.name).toList = 'h' :: 'm' :: 'a' :: 'c' :: h.name.toList :=
    String.toList_append
  rw [List.mem_pair, hmac]
  fun_cases dropMac cs with
  | case1 cs =>
      have hname : 'h' :: 'm' :: 'a' :: 'c' :: cs ≠ h.name.toList := by
        cases h <;> exact fun he => absurd (List.cons.inj he).1 (by decide)
      simp only [hname, false_or, List.cons.injEq, true_and]
  | case2 cs hother =>
      exact ⟨.inl, fun hcs => hcs.resolve_right fun he => hother h.name.toList he⟩

theorem parse_eq_ok_iff : parse s = .ok h ↔ Spells s h := by
  have hspells : Spells s h ↔ dropMac (normalize s) = h.name.toList := dropMac_eq_name_iff.symm
  rw [hspells]
  unfold parse
  constructor
  · intro hp
    split at hp
    · next a hf =>
        rw [← Except.ok.inj hp]
        exact of_decide_eq_true (List.find?_some hf :)
    · cases hp
  · intro hn
    rw [hn]
    cases h <;> rfl

theorem parse_eq_error (hs : ∀ h, ¬ Spells s h) : parse s = .error (.unknownHash s) := by
  cases hp : parse s with
  | ok h => exact absurd (parse_eq_ok_iff.mp hp) (hs h)
  | error f =>
      unfold parse at hp
      split at hp
      · cases hp
      · exact hp.symm

end Hash

/-! ### Modes -/

/-- A text as it is compared with the names of modes: trimmed, in lower case and with hyphens for
underscores. -/
def Mode.dashed (s : String) : List Char := ((Text.trim s).toList.map Char.toLower).map dash

/-- The text names the mode. -/
def Mode.Spells (s : String) : Mode → Prop
  | .counter => dashed s = "counter".toList
  | .payloadBound => dashed s ∈ ["payload-bound".toList, "payload".toList]

namespace Mode

theorem normalize_eq (s : String) : normalize s = dashed s := by
  unfold normalize dashed
  rw [List.map_map]
  refine List.map_congr_left fun c _ => ?_
  show (if c = '_' then '-' else c.toLower) = if c.toLower = '_' then '-' else c.toLower
  simp only [Text.toLower_eq_underscore_iff]

theorem spells_iff : Spells s m ↔ ∃ name ∈ m.names, dashed s = name.toList := by
  cases m <;> simp [Spells, names]

theorem parse_eq_ok_iff : parse s = .ok m ↔ Spells s m := by
  rw [spells_iff, ← normalize_eq]
  unfold parse
  constructor
  · intro hp
    split at hp
    · next a hf =>
        rw [← Except.ok.inj hp]
        obtain ⟨name, hname, he⟩ := List.any_eq_true.mp (List.find?_some hf :)
        exact ⟨name, hname, of_decide_eq_true he⟩
    · cases hp
  · rintro ⟨name, hname, hn⟩
    rw [hn]
    cases m with
    | counter =>
        rw [List.mem_singleton.mp hname]
        rfl
    | payloadBound => rcases List.mem_pair.mp hname with rfl | rfl <;> rfl

theorem parse_eq_error (hs : ∀ m, ¬ Spells s m) :
    parse s = .error (.unknownMode (String.ofList (dashed s))) := by
  cases hp : parse s with
  | ok m => exact absurd (parse_eq_ok_iff.mp hp) (hs m)
  | error f =>
      unfold parse at hp
      split at hp
      · cases hp
      · rw [← normalize_eq]
        exact hp.symm

end Mode

/-! ### Texts with the same verdict -/

/-- Either reader takes both texts for the same name, or refuses both. -/
def SameVerdict (s u : String) : Prop :=
  (∀ h, Hash.parse s = .ok h ↔ Hash.parse u = .ok h) ∧
    ∀ m, Mode.parse s = .ok m ↔ Mode.parse u = .ok m

theorem SameVerdict.of_letters
    (h : (Text.trim s).toList.map Char.toLower = (Text.trim u).toList.map Char.toLower) :
    SameVerdict s u := by
  constructor
  · intro a
    rw [Hash.parse_eq_ok_iff, Hash.parse_eq_ok_iff]
    unfold Hash.Spells
    rw [h]
  · intro m
    rw [Mode.parse_eq_ok_iff, Mode.parse_eq_ok_iff, Mode.spells_iff, Mode.spells_iff]
    unfold Mode.dashed
    rw [h]

/-- Case does not matter. -/
theorem SameVerdict.of_toLower (h : s.toList.map Char.toLower = u.toList.map Char.toLower) :
    SameVerdict s u :=
  of_letters (Text.map_trim_congr Text.isBlank_toLower h)

theorem SameVerdict.of_trim_eq (h : Text.trim s = Text.trim u) : SameVerdict s u :=
  of_letters (congrArg (fun t => t.toList.map Char.toLower) h)

/-- Hyphens in a hash text do not matter. -/
theorem Hash.parse_eq_ok_iff_of_withHyphens (ht : Text.trim s = s)
    (hw : WithHyphens s.toList u.toList) : parse s = .ok h ↔ parse u = .ok h := by
  have hs : Text.trimChars s.toList = s.toList := by rw [← Text.toList_trim, ht]
  have hu : Text.trimChars u.toList = u.toList :=
    Text.trimChars_eq_self_iff.mpr (hw.trimmed (Text.trimChars_eq_self_iff.mp hs))
  rw [parse_eq_ok_iff, parse_eq_ok_iff]
  unfold Spells
  rw [Text.toList_trim, Text.toList_trim, hs, hu, hw.filter_eq (by decide)]

/-- In a mode text `_` is as good as `-`. -/
theorem Mode.parse_eq_ok_iff_of_dash (h : s.toList.map dash = u.toList.map dash) :
    parse s = .ok m ↔ parse u = .ok m := by
  have hswap : ∀ t : String, dashed t = ((Text.trim t).toList.map dash).map Char.toLower := by
    intro t
    unfold dashed
    rw [List.map_map, List.map_map]
    exact List.map_congr_left fun c _ => Text.dash_toLower c
  rw [parse_eq_ok_iff, parse_eq_ok_iff, spells_iff, spells_iff, hswap, hswap,
    Text.map_trim_congr Text.isBlank_dash h]

/-! ### Texts that are refused -/

/-- Neither reader knows the text. -/
def Refused (s : String) : Prop := (∀ h, Hash.parse s ≠ .ok h) ∧ ∀ m, Mode.parse s ≠ .ok m

theorem Hash.allVisible_of_parse (hp : parse s = .ok h) :
    Text.AllVisible (Text.trim s).toList := by
  intro c hc
  apply Text.isVisible_of_toLower
  by_cases hh : c.toLower = '-'
  · rw [hh]
    decide
  · have hmem : c.toLower ∈ ((Text.trim s).toList.map Char.toLower).filter (· ≠ '-') :=
      List.mem_filter.mpr ⟨List.mem_map_of_mem hc, decide_eq_true hh⟩
    have hnames : ∀ cs ∈ [h.name.toList, ("hmac" ++ h.name).toList], Text.AllVisible cs := by
      cases h <;> decide
    exact hnames _ (parse_eq_ok_iff.mp hp) _ hmem

theorem Mode.allVisible_of_parse (hp : parse s = .ok m) :
    Text.AllVisible (Text.trim s).toList := by
  intro c hc
  obtain ⟨name, hname, hs⟩ := spells_iff.mp (parse_eq_ok_iff.mp hp)
  have hmem : dash c.toLower ∈ name.toList := by
    rw [← hs]
    exact List.mem_map_of_mem (List.mem_map_of_mem hc)
  have hnames : ∀ n ∈ m.names, Text.AllVisible n.toList := by
    cases m <;> decide
  exact Text.isVisible_of_toLower (Text.isVisible_of_dash (hnames name hname _ hmem))

theorem Refused.of_not_isVisible (hc : c ∈ (Text.trim s).toList) (hv : ¬ Text.IsVisible c) :
    Refused s :=
  ⟨fun _ hp => hv (Hash.allVisible_of_parse hp c hc),
    fun _ hp => hv (Mode.allVisible_of_parse hp c hc)⟩

/-- A blank inside the text. -/
theorem Refused.of_blank (hc : c ∈ (Text.trim s).toList) (hb : isBlank c = true) : Refused s :=
  of_not_isVisible hc fun hv => Bool.eq_false_iff.mp hv.1 hb

/-- A character outside ASCII, other than a blank. -/
theorem Refused.of_not_ascii (hc : c ∈ s.toList) (hb : isBlank c = false) (h : 128 ≤ c.toNat) :
    Refused s :=
  of_not_isVisible (Text.mem_trim hc hb) fun hv => absurd hv.2 (Nat.not_lt.mpr h)

/-- The letters `hmac` twice in front, with hyphens anywhere. -/
theorem Refused.of_hmac_hmac (hp : "hmachmac".toList <+:
    ((Text.trim s).toList.map Char.toLower).filter (· ≠ '-')) : Refused s := by
  constructor
  · intro h hs
    have hnames : ∀ cs ∈ [h.name.toList, ("hmac" ++ h.name).toList],
        ¬ "hmachmac".toList <+: cs := by
      cases h <;> decide
    exact hnames _ (Hash.parse_eq_ok_iff.mp hs) hp
  · intro m hs
    -- no name of a mode has the letter `h` in it
    have hh : 'h' ∈ (Text.trim s).toList.map Char.toLower :=
      List.mem_of_mem_filter (hp.subset (by decide))
    obtain ⟨name, hname, hd⟩ := Mode.spells_iff.mp (Mode.parse_eq_ok_iff.mp hs)
    have hmem : dash 'h' ∈ name.toList := hd ▸ List.mem_map_of_mem hh
    have hnames : ∀ n ∈ m.names, dash 'h' ∉ n.toList := by
      cases m <;> decide
    exact hnames name hname hmem

/-- **Which texts name a hash function or a mode.**  These are the texts that spell it out in either
case, with blanks around it, and with hyphens anywhere and `hmac` in front for a hash function, and
underscores for hyphens for a mode; all other texts are refused as a bad policy, which quotes them.
Hence a name is read back; case, blanks around, hyphens in a trimmed hash text, and `_` for `-` in a
mode text do not change the verdict; and a text with a blank inside, with a character outside ASCII
that is no blank, or with `hmac` in front twice is refused. -/
theorem name_spellings :
    (∀ s h, Hash.parse s = .ok h ↔ Hash.Spells s h) ∧
    (∀ s m, Mode.parse s = .ok m ↔ Mode.Spells s m) ∧
    (∀ s, (∀ h, ¬ Hash.Spells s h) → (Hash.parse s).mapError SigningError.ofPolicy =
      .error (.policy ("unknown hash " ++ Text.quote s ++ " (use sha256|sha384|sha512)"))) ∧
    (∀ s, (∀ m, ¬ Mode.Spells s m) → (Mode.parse s).mapError SigningError.ofPolicy =
      .error (.policy ("unknown signing mode " ++ Text.quote (String.ofList (Mode.dashed s)) ++
        " (use counter|payload-bound)"))) ∧
    (∀ h, Hash.parse h.name = .ok h) ∧ (∀ m, Mode.parse m.name = .ok m) ∧
    (∀ s u, s.toList.map Char.toLower = u.toList.map Char.toLower → SameVerdict s u) ∧
    (∀ v s w, Text.IsBlanks v → Text.IsBlanks w → SameVerdict (v ++ s ++ w) s) ∧
    (∀ s u, Text.trim s = s → WithHyphens s.toList u.toList →
      ∀ h, Hash.parse s = .ok h ↔ Hash.parse u = .ok h) ∧
    (∀ s u, s.toList.map dash = u.toList.map dash →
      ∀ m, Mode.parse s = .ok m ↔ Mode.parse u = .ok m) ∧
    (∀ s, (∃ c ∈ (Text.trim s).toList, isBlank c = true) → Refused s) ∧
    (∀ s, (∃ c ∈ s.toList, isBlank c = false ∧ 128 ≤ c.toNat) → Refused s) ∧
    (∀ s, "hmachmac".toList <+: ((Text.trim s).toList.map Char.toLower).filter (· ≠ '-') →
      Refused s) := by
  refine ⟨fun s h => Hash.parse_eq_ok_iff, fun s m => Mode.parse_eq_ok_iff, fun s hs => ?_,
    fun s hs => ?_, Hash.parse_of_name, Mode.parse_of_name, fun s u => SameVerdict.of_toLower,
    fun v s w hv hw => SameVerdict.of_trim_eq (Text.trim_padded hv hw s),
    fun s u ht hw h => Hash.parse_eq_ok_iff_of_withHyphens ht hw,
    fun s u hd m => Mode.parse_eq_ok_iff_of_dash hd,
    fun s hb => ?_, fun s hc => ?_, fun s => Refused.of_hmac_hmac⟩
  · rw [Hash.parse_eq_error hs]
    rfl
  · rw [Mode.parse_eq_error hs]
    rfl
  · obtain ⟨c, hc, hb⟩ := hb
    exact Refused.of_blank hc hb
  · obtain ⟨c, hc, hb, h128⟩ := hc
    exact Refused.of_not_ascii hc hb h128

/-- A hash text with all that does not count, and a mode text with an underscore; the first is
refused with `hmac` in front once more. -/
theorem name_spellings_loose :
    Hash.parse " H-Mac--SHA-3-84
" = .ok .sha384 ∧
    Mode.parse " Payload_Bound" = .ok .payloadBound ∧
    Refused "hmac-H-Mac--SHA-3-84" := by
  obtain ⟨hhash, hmode, -, -, -, -, -, -, -, -, -, -, htwice⟩ := name_spellings
  refine ⟨(hhash _ _).mpr ?_, (hmode _ _).mpr ?_, htwice _ ?_⟩
  · unfold Hash.Spells
    decide
  · unfold Mode.Spells
    decide
  · decide

end PacketAuth
