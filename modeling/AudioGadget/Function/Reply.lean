import AudioGadget.Bytes
/-!
# Reply — how a control request is answered

A request is handled, with the number of octets written for the host, or
it is left unhandled, and the core stalls the pipe. An answer is written
whole or not at all.
-/

namespace AudioGadget

/-- The fate of a control request or of its data stage. -/
inductive Reply where
  /-- Accepted; `count` octets were written for the host. -/
  | handled (count : Nat)
  /-- Not ours, or malformed. -/
  | unhandled
deriving DecidableEq, Repr

/-- **Write an answer whole or not at all.** Without an answer, or without
room for it, the buffer stays and the request is unhandled. -/
def Reply.write (dest : Bytes) : Option Bytes → Reply × Bytes
  | none => (.unhandled, dest)
  | some answer =>
    if answer.length ≤ dest.length then
      (.handled answer.length, Bytes.overwrite dest answer)
    else
      (.unhandled, dest)

/-- An answer that has room stands at the front of the buffer. -/
theorem Reply.write_of_le {dest answer : Bytes} (h : answer.length ≤ dest.length) :
    Reply.write dest (some answer) =
      (.handled answer.length, answer ++ dest.drop answer.length) := by
  rw [Reply.write, if_pos h, Bytes.overwrite_of_le h]

/-- An unhandled request leaves the buffer as it was. -/
theorem Reply.write_unhandled {dest : Bytes} {answer : Option Bytes}
    (h : (Reply.write dest answer).1 = .unhandled) : (Reply.write dest answer).2 = dest := by
  cases answer with
  | none => rfl
  | some a =>
    simp only [Reply.write] at h ⊢
    split at h
    · cases h
    · rename_i short
      rw [if_neg short]

/-- An answer is written if there is one and it has room. -/
theorem Reply.write_ne_unhandled_iff {dest : Bytes} {answer : Option Bytes} :
    (Reply.write dest answer).1 ≠ .unhandled ↔
      ∃ octets, answer = some octets ∧ octets.length ≤ dest.length := by
  rcases answer with _ | octets
  · simp [Reply.write]
  · by_cases room : octets.length ≤ dest.length <;> simp [Reply.write, room]

end AudioGadget
