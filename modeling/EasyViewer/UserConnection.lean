import Mathlib.Data.Rat.Floor

/-!
The request list of `UserConnection.cpp`: a bounded FIFO whose three tags decide
when the workers may serve it. Times are milliseconds; the tags, which the source
keeps as doubles, are rationals.
-/

namespace EasyViewer

structure Request where
  arrival : Int
  tag : UInt32
  data : List UInt8
  deriving DecidableEq, Repr

def maxPendingBytes : Nat := 10485760

structure Client where
  requests : List Request := []
  numPendingBytes : Nat := 0
  reservation : ℚ := 0
  limit : ℚ := 0
  proportion : ℚ := 0
  R : Nat := 50 * 1024
  L : Nat := 1024 * 1024 * 2
  W : Nat := 1
  deriving DecidableEq

namespace Client

def updateRLW (client : Client) (t : Int) (cost : Nat) : Client :=
  { client with
    reservation := max ((t : ℚ) - 500) (client.reservation + (cost : ℚ) / client.R * 1000)
    limit := max (t : ℚ) (client.limit + (cost : ℚ) / client.L * 1000)
    proportion := max (t : ℚ) (client.proportion + (cost : ℚ) / client.W * 1000) }

/-- The answer is whether the request was taken, and how many were waiting before it. -/
def pushRequest (client : Client) (request : Request) : (Bool × Nat) × Client :=
  let size := client.requests.length
  if client.numPendingBytes ≥ maxPendingBytes then ((false, size), client)
  else
    let pushed := { client with
      requests := client.requests ++ [request]
      numPendingBytes := client.numPendingBytes + request.data.length }
    ((true, size),
      if size = 0 then pushed.updateRLW request.arrival request.data.length else pushed)

def popRequest (client : Client) : Option (Request × Client) :=
  match client.requests with
  | [] => none
  | request :: rest =>
      let popped := { client with
        requests := rest
        numPendingBytes := client.numPendingBytes - request.data.length }
      match rest with
      | [] => some (request, popped)
      | next :: _ => some (request, popped.updateRLW next.arrival next.data.length)

@[simp] theorem updateRLW_requests (client : Client) (t : Int) (cost : Nat) :
    (client.updateRLW t cost).requests = client.requests := rfl

theorem pushRequest_accepted (client : Client) (request : Request) :
    (client.pushRequest request).1.1 = true ↔ client.numPendingBytes < maxPendingBytes := by
  simp only [pushRequest]
  split
  · simp
    omega
  · simp
    omega

theorem pushRequest_size (client : Client) (request : Request) :
    (client.pushRequest request).1.2 = client.requests.length := by
  simp only [pushRequest]
  split <;> rfl

theorem pushRequest_requests {client : Client} {request : Request}
    (accepted : (client.pushRequest request).1.1 = true) :
    (client.pushRequest request).2.requests = client.requests ++ [request] := by
  simp only [pushRequest] at accepted ⊢
  split at accepted
  · simp at accepted
  · rename_i room
    rw [if_neg room]
    simp only
    split <;> rfl

theorem pushRequest_tags {client : Client} {request : Request} (waiting : client.requests ≠ []) :
    (client.pushRequest request).2.reservation = client.reservation ∧
      (client.pushRequest request).2.limit = client.limit := by
  have several : client.requests.length ≠ 0 := by
    simpa [List.length_eq_zero_iff] using waiting
  unfold pushRequest
  split
  · exact ⟨rfl, rfl⟩
  · simp [several]

theorem popRequest_requests {client rest : Client} {request : Request}
    (popped : client.popRequest = some (request, rest)) :
    client.requests = request :: rest.requests := by
  simp only [popRequest] at popped
  split at popped
  · contradiction
  · rename_i first others listed
    split at popped <;>
    · simp only [Option.some.injEq, Prod.mk.injEq] at popped
      obtain ⟨rfl, rfl⟩ := popped
      exact listed

theorem popRequest_isSome {client : Client} (waiting : client.requests ≠ []) :
    ∃ request rest, client.popRequest = some (request, rest) := by
  simp only [popRequest]
  split
  · contradiction
  · split <;> exact ⟨_, _, rfl⟩

structure TagsOk (client : Client) : Prop where
  reservation : 0 ≤ client.reservation
  limit : 0 ≤ client.limit
  tied : client.limit ≤ 0 → client.reservation ≤ 0
  positive : 0 < client.L

theorem TagsOk.initial : TagsOk {} := by
  constructor <;> simp

theorem TagsOk.updateRLW {client : Client} (ok : TagsOk client) (t : Int) (cost : Nat) :
    TagsOk (client.updateRLW t cost) := by
  have reservationCost : 0 ≤ (cost : ℚ) / client.R * 1000 := by positivity
  have limitCost : 0 ≤ (cost : ℚ) / client.L * 1000 := by positivity
  constructor
  · exact le_max_of_le_right (add_nonneg ok.reservation reservationCost)
  · exact le_max_of_le_right (add_nonneg ok.limit limitCost)
  · intro low
    obtain ⟨early, small⟩ := max_le_iff.mp low
    have still := ok.limit
    have free : (cost : ℚ) / client.L * 1000 = 0 := by linarith
    have costZero : (cost : ℚ) = 0 := by
      have positive : (client.L : ℚ) ≠ 0 := by
        have := ok.positive
        positivity
      simpa [positive] using free
    apply max_le
    · linarith
    · rw [costZero]
      simpa using ok.tied (by linarith)
  · exact ok.positive

theorem TagsOk.pushRequest {client : Client} (ok : TagsOk client) (request : Request) :
    TagsOk (client.pushRequest request).2 := by
  simp only [Client.pushRequest]
  split
  · exact ok
  · have pushed : TagsOk { client with
        requests := client.requests ++ [request]
        numPendingBytes := client.numPendingBytes + request.data.length } :=
      ⟨ok.reservation, ok.limit, ok.tied, ok.positive⟩
    simp only
    split
    · exact pushed.updateRLW _ _
    · exact pushed

theorem TagsOk.popRequest {client rest : Client} {request : Request} (ok : TagsOk client)
    (popped : client.popRequest = some (request, rest)) : TagsOk rest := by
  simp only [Client.popRequest] at popped
  split at popped
  · contradiction
  · rename_i first others listed
    have shorter : TagsOk { client with
        requests := others
        numPendingBytes := client.numPendingBytes - first.data.length } :=
      ⟨ok.reservation, ok.limit, ok.tied, ok.positive⟩
    split at popped
    · simp only [Option.some.injEq, Prod.mk.injEq] at popped
      obtain ⟨rfl, rfl⟩ := popped
      exact shorter
    · simp only [Option.some.injEq, Prod.mk.injEq] at popped
      obtain ⟨rfl, rfl⟩ := popped
      exact shorter.updateRLW _ _

end Client

end EasyViewer
