import Mathlib.Data.List.Basic

/-!
Lossy first-in first-out channels as lists, the oldest message first: a message that can
only be the newest one, and what sending, receiving and losing do to that.
-/

namespace Channel

variable {Message : Type}

/-- Only the newest message in the channel may be a marked one. -/
def OnlyLast (marked : Message → Prop) (channel : List Message) : Prop :=
  channel.Pairwise fun earlier _ => ¬ marked earlier

variable {marked : Message → Prop} {channel : List Message}

theorem OnlyLast.lose {kept : List Message} (only : OnlyLast marked channel)
    (sub : kept.Sublist channel) : OnlyLast marked kept :=
  List.Pairwise.sublist sub only

theorem OnlyLast.receive {message : Message} (only : OnlyLast marked (message :: channel)) :
    OnlyLast marked channel :=
  (List.pairwise_cons.mp only).2

theorem OnlyLast.of_absent (absent : ∀ message ∈ channel, ¬ marked message) :
    OnlyLast marked channel := by
  induction channel with
  | nil => exact List.Pairwise.nil
  | cons first rest ih =>
      refine List.pairwise_cons.mpr ⟨fun _ _ => absent first (List.mem_cons_self ..), ih ?_⟩
      intro message listed
      exact absent message (List.mem_cons_of_mem _ listed)

theorem OnlyLast.send (message : Message) (absent : ∀ earlier ∈ channel, ¬ marked earlier) :
    OnlyLast marked (channel ++ [message]) := by
  refine List.pairwise_append.mpr ⟨OnlyLast.of_absent absent, List.pairwise_singleton _ _, ?_⟩
  intro earlier listed _ _
  exact absent earlier listed

theorem OnlyLast.alone {message : Message} (only : OnlyLast marked (message :: channel))
    (isMarked : marked message) : channel = [] := by
  cases channel with
  | nil => rfl
  | cons next rest =>
      exact absurd isMarked ((List.pairwise_cons.mp only).1 next (List.mem_cons_self ..))

theorem head_mem {message : Message} {rest : List Message} (waiting : channel = message :: rest) :
    message ∈ channel := by
  rw [waiting]
  exact List.mem_cons_self ..

theorem rest_sublist {message : Message} {rest : List Message}
    (waiting : channel = message :: rest) : rest.Sublist channel := by
  rw [waiting]
  exact List.sublist_cons_self ..

end Channel
