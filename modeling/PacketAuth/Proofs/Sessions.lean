import PacketAuth.Proofs.PacketRun
import PacketAuth.Session

/-! # Runs of a session

A step writes at most one part of a session, and a step that fails writes none.  So the steps of a
run that fail may as well be left out (`Session.run_succeeding`), and a part that no other step is
for stays what it was (`Session.result_samePart`).  After a packet has been signed, verifying
accepts its signature and no other as long as policy, key, number and payload stay the same
(`Session.verify_after_sign`).  If the number is moved by `next` alone, no message comes up twice
(`Session.message_ne_result`). -/

namespace PacketAuth
namespace Session

variable {s t : Session} {x : Step} {answer : Answer} {e : SigningError} {steps : List Step}

/-! ### One step after the other -/

/-- The session after a run of steps. -/
def result (s : Session) (steps : List Step) : Session := steps.foldl after s

@[simp] theorem result_nil (s : Session) : s.result [] = s := rfl

@[simp] theorem result_cons (s : Session) (x : Step) (steps : List Step) :
    s.result (x :: steps) = (s.after x).result steps := rfl

theorem result_append (s : Session) (first second : List Step) :
    s.result (first ++ second) = (s.result first).result second := List.foldl_append

@[simp] theorem run_nil (s : Session) : s.run [] = [] := rfl

@[simp] theorem run_cons (s : Session) (x : Step) (steps : List Step) :
    s.run (x :: steps) = (s.step x).map (·.2) :: (s.after x).run steps := rfl

/-- Each answer is that of its step in the session that the steps before it have left. -/
theorem getElem?_run (s : Session) (steps : List Step) (i : Nat) : (s.run steps)[i]? =
    steps[i]?.map fun x => ((s.result (steps.take i)).step x).map (·.2) := by
  induction steps generalizing s i with
  | nil => rfl
  | cons x steps ih =>
      cases i with
      | zero => rfl
      | succ i => exact ih (s.after x) i

/-! ### Steps that fail -/

theorem after_of_ok (h : s.step x = .ok (t, answer)) : s.after x = t := by
  unfold after
  rw [h]

/-- A step that fails leaves the session as it was. -/
theorem after_of_error (h : s.step x = .error e) : s.after x = s := by
  unfold after
  rw [h]

/-- The steps of a run that succeed. -/
def succeeding (s : Session) : List Step → List Step
  | [] => []
  | x :: rest =>
    match s.step x with
    | .ok (t, _) => x :: t.succeeding rest
    | .error _ => s.succeeding rest

/-- **Failing steps leave no trace.**  Without them the session ends as it does with them, and the
answers are those of the other steps. -/
theorem run_succeeding (s : Session) (steps : List Step) :
    s.result (s.succeeding steps) = s.result steps ∧
      s.run (s.succeeding steps) = (s.run steps).filter (·.isOk) := by
  induction steps generalizing s with
  | nil => exact ⟨rfl, rfl⟩
  | cons x steps ih =>
      cases h : s.step x with
      | ok r =>
          obtain ⟨hresult, hrun⟩ := ih r.1
          simp [succeeding, h, after_of_ok h, hresult, hrun, Except.map, Except.isOk, Except.toBool]
      | error e =>
          obtain ⟨hresult, hrun⟩ := ih s
          simp [succeeding, h, after_of_error h, hresult, hrun, Except.map, Except.isOk,
            Except.toBool]

/-! ### What a step writes -/

inductive Part where
  | signer
  | key
  | number
  | payload
  | signature
deriving DecidableEq

/-- The part of the session that a step is for, if it may write any. -/
def Step.part? : Step → Option Part
  | .policy _ => some .signer
  | .key _ => some .key
  | .keyText _ => some .key
  | .checkKey => none
  | .number _ => some .number
  | .numberText _ => some .number
  | .next => some .number
  | .payload _ => some .payload
  | .sign => some .signature
  | .report => none
  | .verify => none
  | .signatureText _ => some .signature
  | .alter .. => some .signature
  | .cut _ => some .signature
  | .extend _ => some .signature

/-- The sessions have one part in common. -/
def SamePart (s t : Session) : Part → Prop
  | .signer => s.signer = t.signer
  | .key => s.key = t.key
  | .number => s.number = t.number
  | .payload => s.payload = t.payload
  | .signature => s.signature = t.signature

variable {p : Part}

theorem SamePart.refl (s : Session) (p : Part) : s.SamePart s p := by
  cases p <;> rfl

theorem SamePart.trans {u : Session} (h : s.SamePart t p) (h' : t.SamePart u p) :
    s.SamePart u p := by
  cases p <;> exact Eq.trans h h'

/-- A step writes no part but the one that it is for. -/
theorem step_samePart (h : s.step x = .ok (t, answer)) (hp : x.part? ≠ some p) :
    t.SamePart s p := by
  -- steps that write once they have passed a check, steps that always write, and steps that look
  cases x with
  | policy _ | keyText _ | number _ | numberText _ | sign | signatureText _ =>
      obtain ⟨_, -, h⟩ := Except.bind_eq_ok_iff.mp h
      cases h
      cases p <;> first | rfl | exact absurd rfl hp
  | key _ | next | payload _ | alter _ _ | cut _ | extend _ =>
      cases h
      cases p <;> first | rfl | exact absurd rfl hp
  | checkKey | report | verify =>
      obtain ⟨_, -, h⟩ := Except.bind_eq_ok_iff.mp h
      cases h
      exact .refl ..

theorem after_samePart (hp : x.part? ≠ some p) : (s.after x).SamePart s p := by
  cases h : s.step x with
  | ok r =>
      rw [after_of_ok h]
      exact step_samePart h hp
  | error e =>
      rw [after_of_error h]
      exact .refl ..

/-- A part that no step of a run is for is the same at its end. -/
theorem result_samePart (h : ∀ x ∈ steps, x.part? ≠ some p) : (s.result steps).SamePart s p := by
  induction steps generalizing s with
  | nil => exact .refl ..
  | cons x steps ih =>
      obtain ⟨hx, hsteps⟩ := List.forall_mem_cons.mp h
      exact (ih hsteps).trans (after_samePart hx)

/-! ### Signing and verifying -/

theorem sign_of_step (h : s.step .sign = .ok (t, answer)) :
    s.signer.sign s.payload (.packet s.number) s.key = .ok t.signature := by
  obtain ⟨signature, hs, h⟩ := Except.bind_eq_ok_iff.mp h
  cases h
  exact hs

/-- **A signature is good until what it is of changes.**  After signing and any steps of which
those that succeed are for the signature or for no part, verifying accepts if the signature is the
one that was made, and else takes it for a mismatch. -/
theorem verify_after_sign (h : s.step .sign = .ok (t, answer))
    (hsteps : ∀ x ∈ t.succeeding steps, x.part? = none ∨ x.part? = some .signature) :
    (t.result steps).step .verify =
      if t.signature = (t.result steps).signature then .ok (t.result steps, .accepted)
      else .error .mismatch := by
  have hsame : ∀ p ≠ Part.signature, (t.result steps).SamePart s p := by
    intro p hp
    have hsign : t.SamePart s p := step_samePart h fun he => hp (Option.some.inj he).symm
    refine .trans ?_ hsign
    -- the frame asks about every step of a run, so the failing ones are left out first
    rw [← (run_succeeding t steps).1]
    refine result_samePart fun x hx he => ?_
    rcases hsteps x hx with hnone | hsignature
    · exact absurd (hnone.symm.trans he) nofun
    · exact hp (Option.some.inj (he.symm.trans hsignature))
  have hsigner : (t.result steps).signer = s.signer := hsame .signer nofun
  have hkey : (t.result steps).key = s.key := hsame .key nofun
  have hnumber : (t.result steps).number = s.number := hsame .number nofun
  have hpayload : (t.result steps).payload = s.payload := hsame .payload nofun
  have hv := Signer.verify_of_sign (sign_of_step h) (t.result steps).signature
  simp only [step, hsigner, hkey, hnumber, hpayload, hv]
  split_ifs
  · rfl
  · rfl

/-! ### Counting on -/

theorem number_le_after (h : x.part? = some .number → x = .next) :
    s.number.value.toNat ≤ (s.after x).number.value.toNat := by
  by_cases hx : x.part? = some .number
  · obtain rfl := h hx
    show _ ≤ (s.number.next?.getD s.number).value.toNat
    cases hn : s.number.next? with
    | none => exact le_rfl
    | some n =>
        rw [PacketNumber.next?_eq_some_iff] at hn
        rw [Option.getD_some, hn]
        exact Nat.le_succ _
  · have hsame : (s.after x).number = s.number := after_samePart hx
    rw [hsame]

/-- The number does not go back in a run that moves it by `next` alone. -/
theorem number_le_result (h : ∀ x ∈ steps, x.part? = some .number → x = .next) :
    s.number.value.toNat ≤ (s.result steps).number.value.toNat := by
  induction steps generalizing s with
  | nil => exact le_rfl
  | cons x steps ih =>
      obtain ⟨hx, hsteps⟩ := List.forall_mem_cons.mp h
      exact (number_le_after hx).trans (ih hsteps)

/-- A move while there are numbers left makes the number larger. -/
theorem number_lt_result {first second : List Step}
    (h : ∀ x ∈ first ++ .next :: second, x.part? = some .number → x = .next)
    (hnext : (s.result first).number.next?.isSome) :
    s.number.value.toNat < (s.result (first ++ .next :: second)).number.value.toNat := by
  obtain ⟨hfirst, hrest⟩ := List.forall_mem_append.mp h
  obtain ⟨-, hsecond⟩ := List.forall_mem_cons.mp hrest
  obtain ⟨n, hn⟩ := Option.isSome_iff_exists.mp hnext
  have hmoved : ((s.result first).after .next).number = n := by
    show (s.result first).number.next?.getD _ = n
    rw [hn, Option.getD_some]
  rw [PacketNumber.next?_eq_some_iff] at hn
  calc s.number.value.toNat
      ≤ (s.result first).number.value.toNat := number_le_result hfirst
    _ < ((s.result first).after .next).number.value.toNat := by
        rw [hmoved, hn]
        exact Nat.lt_succ_self _
    _ ≤ (((s.result first).after .next).result second).number.value.toNat :=
        number_le_result hsecond
    _ = _ := by rw [result_append, result_cons]

/-- The message under the tag that signing makes. -/
def message (s : Session) : Bytes := (s.signer.message (.of s.payload) s.number).flatten

/-- **No message comes up twice.**  In a run that moves the number by `next` alone, signing at its
start and at its end, with such a move in between while there are numbers left, is about different
messages, whatever has become of policy and payload. -/
theorem message_ne_result {first second : List Step}
    (h : ∀ x ∈ first ++ .next :: second, x.part? = some .number → x = .next)
    (hnext : (s.result first).number.next?.isSome) :
    s.message ≠ (s.result (first ++ .next :: second)).message := by
  have hlt := number_lt_result h hnext
  refine Signer.message_ne _ _ _ _ fun he => ?_
  rw [← he] at hlt
  exact Nat.lt_irrefl _ hlt

end Session
end PacketAuth
