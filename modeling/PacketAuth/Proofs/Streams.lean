import Mathlib.Tactic.Common
import PacketAuth.Transcript

/-! # The two streams of a transcript

Either stream of a transcript is made of what its entries add, one after the other.  The empty
filter admits no event, so under it log events add nothing to either stream.  All filters that admit
no event leave the same error stream (`stderr_of_off`). -/

namespace PacketAuth

/-- A filter that admits no event. -/
def Log.Filter.Off (f : Filter) : Prop := ∀ e, f.admits e = false

/-- The filter of the setting `off`. -/
theorem Log.Filter.off_ofSetting : (ofSetting (some "off")).Off := by
  -- step by step, since splitting goes by a recursion that `decide` does not unfold
  have hsplit : "off".splitOn "," = ["off"] := by
    rw [String.splitOn, if_neg (by decide)]
    iterate 3 rw [String.splitOnAux, if_neg (by decide), if_neg (by decide)]
    rw [String.splitOnAux, if_pos (by decide)]
    decide
  have hparse : parse? "off" = some [{ level := none }] := by
    unfold parse?
    rw [hsplit]
    rfl
  unfold ofSetting
  rw [Option.bind_some, hparse]
  exact fun _ => rfl

@[simp] theorem Entry.stderr_log (e : Log.Event) : (log e).stderr [] = "" := rfl

theorem Entry.stderr_of_off {f : Log.Filter} (hf : f.Off) (e : Entry) :
    e.stderr f = e.stderr [] := by
  cases e with
  | out text => rfl
  | err text => rfl
  | log e =>
      simp only [stderr, hf e]
      rfl

namespace Transcript

@[simp] theorem stdout_nil : stdout [] = "" := rfl

@[simp] theorem stdout_cons (e : Entry) (t : Transcript) :
    stdout (e :: t) = e.stdout ++ stdout t := by
  simp [stdout]

@[simp] theorem stdout_append (t u : Transcript) : stdout (t ++ u) = stdout t ++ stdout u := by
  simp [stdout]

@[simp] theorem stderr_nil (f : Log.Filter) : stderr f [] = "" := rfl

@[simp] theorem stderr_cons (f : Log.Filter) (e : Entry) (t : Transcript) :
    stderr f (e :: t) = e.stderr f ++ stderr f t := by
  simp [stderr]

@[simp] theorem stderr_append (f : Log.Filter) (t u : Transcript) :
    stderr f (t ++ u) = stderr f t ++ stderr f u := by
  simp [stderr]

@[simp] theorem stdout_map_log (es : List Log.Event) : stdout (es.map .log) = "" := by
  induction es with
  | nil => rfl
  | cons e es ih =>
      rw [List.map_cons, stdout_cons, ih]
      rfl

@[simp] theorem stderr_map_log (es : List Log.Event) : stderr [] (es.map .log) = "" := by
  induction es with
  | nil => rfl
  | cons e es ih =>
      rw [List.map_cons, stderr_cons, Entry.stderr_log, ih]
      rfl

/-- Log events, and a text for the output stream. -/
theorem streams_told (es : List Log.Event) (text : String) :
    stdout (es.map .log ++ [.out text]) = text ∧ stderr [] (es.map .log ++ [.out text]) = "" := by
  simp [Entry.stdout, Entry.stderr]

theorem stderr_of_off {f : Log.Filter} (hf : f.Off) (t : Transcript) :
    stderr f t = stderr [] t := by
  induction t with
  | nil => rfl
  | cons e t ih => rw [stderr_cons, stderr_cons, ih, Entry.stderr_of_off hf]

end Transcript
end PacketAuth
