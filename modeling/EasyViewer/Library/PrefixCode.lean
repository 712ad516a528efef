import Mathlib.Data.List.Basic

/-!
Prefix codes: messages written one behind the other, where the beginning of one is never
another. Whatever has come of such a stream belongs to its first messages.
-/

namespace PrefixCode

variable {Message Symbol : Type} {encode : Message → List Symbol} {valid : Message → Prop}

def stream (encode : Message → List Symbol) (messages : List Message) : List Symbol :=
  (messages.map encode).flatten

structure PrefixFree (encode : Message → List Symbol) (valid : Message → Prop) : Prop where
  nonempty : ∀ message, valid message → encode message ≠ []
  free : ∀ first second, valid first → valid second → encode first <+: encode second →
    first = second

@[simp] theorem stream_nil : stream encode [] = [] := rfl

@[simp] theorem stream_cons (message : Message) (messages : List Message) :
    stream encode (message :: messages) = encode message ++ stream encode messages := rfl

theorem stream_append (first second : List Message) :
    stream encode (first ++ second) = stream encode first ++ stream encode second := by
  simp [stream]

namespace PrefixFree

variable (code : PrefixFree encode valid)

include code

theorem first_eq {first second : Message} (firstValid : valid first) (secondValid : valid second)
    {rest more : List Symbol} (same : encode first ++ rest = encode second ++ more) :
    first = second := by
  have before : encode first <+: encode second ++ more := ⟨rest, same⟩
  rcases List.prefix_or_prefix_of_prefix before (List.prefix_append _ more) with short | long
  · exact code.free first second firstValid secondValid short
  · exact (code.free second first secondValid firstValid long).symm

theorem split {found sent : List Message} (foundValid : ∀ message ∈ found, valid message)
    (sentValid : ∀ message ∈ sent, valid message) {rest more : List Symbol}
    (same : stream encode found ++ rest ++ more = stream encode sent) :
    ∃ left, sent = found ++ left ∧ rest ++ more = stream encode left := by
  induction found generalizing sent with
  | nil => exact ⟨sent, rfl, same⟩
  | cons message found ih =>
      cases sent with
      | nil =>
          have nothing : encode message = [] := by
            rw [stream_nil, List.append_eq_nil_iff, List.append_eq_nil_iff, stream_cons,
              List.append_eq_nil_iff] at same
            exact same.1.1.1
          exact absurd nothing (code.nonempty message (foundValid message List.mem_cons_self))
      | cons other sent =>
          rw [stream_cons, stream_cons, List.append_assoc, List.append_assoc] at same
          obtain rfl := code.first_eq (foundValid message List.mem_cons_self)
            (sentValid other List.mem_cons_self) same
          rw [List.append_cancel_left_eq, ← List.append_assoc] at same
          obtain ⟨left, cut, behind⟩ := ih
            (fun next member => foundValid next (List.mem_cons_of_mem message member))
            (fun next member => sentValid next (List.mem_cons_of_mem message member)) same
          exact ⟨left, by rw [cut, List.cons_append], behind⟩

end PrefixFree

end PrefixCode
