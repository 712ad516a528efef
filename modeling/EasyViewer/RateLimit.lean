import EasyViewer.Library.VirtualClock
import EasyViewer.RequestOrder
import Mathlib.Tactic.GCongr
import Mathlib.Tactic.Positivity

/-!
The rate limit of a connection. Its tags are virtual clocks over its requests, in the order
in which they are taken, whichever of the three ways of taking them is used.
-/

namespace EasyViewer

def totalPayload (requests : List Request) : Nat :=
  (requests.map fun request => request.data.length).sum

def costAt (rate cost : Nat) : ℚ := (cost : ℚ) / rate * 1000

def Request.job (credit : ℚ) (rate : Nat) (request : Request) : VirtualClock.Job ℚ where
  since := request.arrival - credit
  cost := costAt rate request.data.length

def tagAfter (credit : ℚ) (rate : Nat) (requests : List Request) : ℚ :=
  VirtualClock.tag 0 (requests.map (Request.job credit rate))

def reservationAfter (rate : Nat) (requests : List Request) : ℚ := tagAfter 500 rate requests

def limitAfter (rate : Nat) (requests : List Request) : ℚ := tagAfter 0 rate requests

theorem tagAfter_concat (credit : ℚ) (rate : Nat) (requests : List Request) (request : Request) :
    tagAfter credit rate (requests ++ [request]) = max (request.arrival - credit)
      (tagAfter credit rate requests + costAt rate request.data.length) := by
  simp only [tagAfter, List.map_append, VirtualClock.tag_append]
  rfl

theorem costAt_add (rate first second : Nat) :
    costAt rate (first + second) = costAt rate first + costAt rate second := by
  simp only [costAt]
  push_cast
  ring

theorem cost_jobs (credit : ℚ) (rate : Nat) (requests : List Request) :
    VirtualClock.cost (requests.map (Request.job credit rate)) =
      costAt rate (totalPayload requests) := by
  induction requests with
  | nil => simp [VirtualClock.cost, totalPayload, costAt]
  | cons request rest ih =>
      have tail : VirtualClock.cost ((request :: rest).map (Request.job credit rate)) =
          costAt rate request.data.length +
            VirtualClock.cost (rest.map (Request.job credit rate)) := by
        simp [VirtualClock.cost, Request.job]
      rw [tail, ih, ← costAt_add]
      rfl

theorem payload_le_tagAfter (credit : ℚ) (rate : Nat) (before : List Request) (earlier : Request)
    (after : List Request) : earlier.arrival - credit + costAt rate (totalPayload after) ≤
      tagAfter credit rate (before ++ earlier :: after) := by
  have bound := VirtualClock.since_add_cost_le_tag 0 (before.map (Request.job credit rate))
    (earlier.job credit rate) (after.map (Request.job credit rate))
  rw [cost_jobs] at bound
  rw [tagAfter, List.map_append, List.map_cons]
  exact bound

theorem costAt_anti {slow fast : Nat} (positive : 0 < slow) (ordered : slow ≤ fast) (cost : Nat) :
    costAt fast cost ≤ costAt slow cost := by
  have slowPositive : (0 : ℚ) < slow := by exact_mod_cast positive
  simp only [costAt]
  gcongr

namespace Client

/-- The tags of a connection when `taken` was handed over before: the first request that
waits is counted already. -/
structure TagsAfter (client : Client) (taken : List Request) : Prop where
  reservation : client.reservation = reservationAfter client.R (taken ++ client.requests.take 1)
  limit : client.limit = limitAfter client.L (taken ++ client.requests.take 1)

theorem TagsAfter.updateRLW {client : Client} {taken : List Request} {request : Request}
    (reservation : client.reservation = reservationAfter client.R taken)
    (limit : client.limit = limitAfter client.L taken)
    (first : client.requests.take 1 = [request]) :
    TagsAfter (client.updateRLW request.arrival request.data.length) taken where
  reservation := by
    rw [updateRLW_requests, first, reservationAfter, tagAfter_concat, ← reservationAfter]
    simp only [Client.updateRLW, ← reservation, costAt]
  limit := by
    rw [updateRLW_requests, first, limitAfter, tagAfter_concat, ← limitAfter, sub_zero]
    simp only [Client.updateRLW, ← limit, costAt]

theorem pushRequest_rates (client : Client) (request : Request) :
    (client.pushRequest request).2.R = client.R ∧ (client.pushRequest request).2.L = client.L := by
  simp only [pushRequest]
  split
  · exact ⟨rfl, rfl⟩
  · split <;> exact ⟨rfl, rfl⟩

theorem TagsAfter.pushRequest {client : Client} {taken : List Request}
    (tags : client.TagsAfter taken) (request : Request) :
    (client.pushRequest request).2.TagsAfter taken := by
  simp only [Client.pushRequest]
  split
  · exact tags
  · obtain ⟨reservation, limit⟩ := tags
    split
    · rename_i first
      have none : client.requests = [] := List.length_eq_zero_iff.mp first
      simp only [none, List.take_nil, List.append_nil] at reservation limit
      exact TagsAfter.updateRLW reservation limit (by simp [none])
    · rename_i several
      have same : (client.requests ++ [request]).take 1 = client.requests.take 1 :=
        List.take_append_of_le_length (by omega)
      constructor
      · simpa only [same] using reservation
      · simpa only [same] using limit

theorem popRequest_rates {client rest : Client} {request : Request}
    (popped : client.popRequest = some (request, rest)) : rest.R = client.R ∧ rest.L = client.L := by
  simp only [popRequest] at popped
  split at popped
  · contradiction
  · split at popped <;> (cases popped; exact ⟨rfl, rfl⟩)

theorem TagsAfter.popRequest {client rest : Client} {taken : List Request} {request : Request}
    (tags : client.TagsAfter taken) (popped : client.popRequest = some (request, rest)) :
    rest.TagsAfter (taken ++ [request]) := by
  obtain ⟨reservation, limit⟩ := tags
  simp only [Client.popRequest] at popped
  split at popped
  · contradiction
  · rename_i first others listed
    simp only [listed, List.take_succ_cons, List.take_zero] at reservation limit
    split at popped
    · cases popped
      exact ⟨by simpa using reservation, by simpa using limit⟩
    · cases popped
      exact TagsAfter.updateRLW reservation limit (by simp)

end Client

/-- The three tests that a request is taken after: of the reservation, inline and in phase 1, or
of the limit, in phase 2. -/
theorem takeClient_due {clients : ConnectionId → Client} {queue rest : Array ConnectionId}
    {t : Int} {client : ConnectionId} (taken : takeClient clients queue t = some (client, rest)) :
    (clients client).reservation ≤ t ∨ (clients client).limit ≤ t := by
  simp only [takeClient] at taken
  split at taken
  · contradiction
  · split at taken
    · rename_i due
      cases taken
      exact Or.inl due
    · split at taken
      · contradiction
      · rename_i index chosen selected
        cases taken
        rcases selectClient_sound _ _ _ selected with impossible | ⟨-, -, within⟩
        · contradiction
        · exact Or.inr within

structure Tagged (con : ConnectionId) (R L : Nat) (state : HeapState) : Prop where
  rates : (state.clients con).R = R ∧ (state.clients con).L = L
  tags : (state.clients con).TagsAfter (state.handed con)
  running : ∀ running, state.running = some running → running.con = con →
    (∃ earlier, state.handed con = earlier ++ [running.request]) ∧
      (reservationAfter R (state.handed con) ≤ running.time ∨
        limitAfter L (state.handed con) ≤ running.time)

variable {con : ConnectionId} {R L : Nat} {state next : HeapState}

theorem Tagged.take {client : ConnectionId} {request : Request} {popped : Client} {t : Int}
    (tagged : Tagged con R L state) (caller : Caller)
    (due : (state.clients client).reservation ≤ t ∨ (state.clients client).limit ≤ t)
    (isPopped : (state.clients client).popRequest = some (request, popped))
    (queue : Array ConnectionId) :
    Tagged con R L ({ state with
      queue := queue, clients := updateAt state.clients client popped }.hand
        { caller := caller, time := t, con := client, request := request }) := by
  by_cases same : client = con
  · subst same
    obtain ⟨⟨rateR, rateL⟩, tags, -⟩ := tagged
    obtain ⟨keptR, keptL⟩ := Client.popRequest_rates isPopped
    have first : (state.clients client).requests.take 1 = [request] := by
      rw [Client.popRequest_requests isPopped]
      simp
    have reservation := tags.reservation
    have limit := tags.limit
    rw [first, rateR] at reservation
    rw [first, rateL] at limit
    refine ⟨?_, ?_, ?_⟩
    · simp only [HeapState.hand, updateAt_same]
      exact ⟨keptR.trans rateR, keptL.trans rateL⟩
    · simpa only [HeapState.hand, updateAt_same] using tags.popRequest isPopped
    · intro running isRunning _
      simp only [HeapState.hand, Option.some.injEq] at isRunning
      subst isRunning
      simp only [HeapState.hand, updateAt_same]
      exact ⟨⟨_, rfl⟩, reservation ▸ limit ▸ due⟩
  · have other : con ≠ client := Ne.symm same
    refine ⟨?_, ?_, ?_⟩
    · simpa only [HeapState.hand, updateAt_other _ _ other] using tagged.rates
    · simpa only [HeapState.hand, updateAt_other _ _ other] using tagged.tags
    · intro running isRunning isCon
      simp only [HeapState.hand, Option.some.injEq] at isRunning
      subst isRunning
      exact absurd isCon same

theorem Tagged.same (tagged : Tagged con R L state) (clients : next.clients con = state.clients con)
    (handed : next.handed con = state.handed con)
    (running : next.running = none ∨ next.running = state.running) : Tagged con R L next where
  rates := by
    rw [clients]
    exact tagged.rates
  tags := by
    rw [clients, handed]
    exact tagged.tags
  running := by
    intro other isRunning isCon
    rcases running with idle | still
    · rw [idle] at isRunning
      contradiction
    · rw [handed]
      exact tagged.running other (still ▸ isRunning) isCon

theorem Tagged.processPossible (tagged : Tagged con R L state) (caller : Caller) (t : Int) :
    Tagged con R L (processPossible state caller t) := by
  simp only [EasyViewer.processPossible, pull]
  split
  · rename_i con' request after pulled
    split at pulled
    · cases pulled
    · rename_i client rest taken
      split at pulled
      · cases pulled
      · rename_i request popped isPopped
        cases pulled
        exact tagged.take caller (takeClient_due taken) isPopped _
  · rename_i after pulled
    split at pulled
    · cases pulled
    · split at pulled
      · cases pulled
        exact tagged.same rfl rfl (Or.inr rfl)
      · cases pulled
  · rename_i after pulled
    have unchanged : after = state := by
      split at pulled
      · cases pulled
        rfl
      · split at pulled <;> cases pulled
    subst unchanged
    cases caller with
    | inline => exact tagged
    | push emptied => exact tagged.same rfl rfl (Or.inr rfl)
    | exec => exact tagged.same rfl rfl (Or.inr rfl)

theorem Tagged.push (tagged : Tagged con R L state) (idle : state.running = none)
    (client : ConnectionId) (request : Request) (t : Int) :
    Tagged con R L (state.push client request t).2 := by
  have pushed : ∀ queue, Tagged con R L { state with
      clients := updateAt state.clients client ((state.clients client).pushRequest request).2
      accepted := updateAt state.accepted client (state.accepted client ++ [request])
      queue := queue } := by
    intro queue
    by_cases same : client = con
    · subst same
      obtain ⟨rateR, rateL⟩ := Client.pushRequest_rates (state.clients client) request
      refine ⟨?_, ?_, ?_⟩
      · simpa only [updateAt_same, rateR, rateL] using tagged.rates
      · simpa only [updateAt_same] using tagged.tags.pushRequest request
      · intro running isRunning
        simp [idle] at isRunning
    · exact tagged.same (updateAt_other _ _ (Ne.symm same)) rfl (Or.inr rfl)
  unfold HeapState.push
  simp only
  split
  · split
    · split
      · rename_i due
        split
        · exact (pushed state.queue).same rfl rfl (Or.inr rfl)
        · rename_i first popped isPopped
          have taken := @Tagged.take con R L _ client first popped t (pushed state.queue) .inline
            (by simpa using Or.inl due) (by simpa using isPopped) state.queue
          simpa using taken
      · exact (pushed _).processPossible _ _
    · exact (pushed state.queue).processPossible _ _
  · exact tagged

def KeepsRates (con : ConnectionId) (state : HeapState) (event : HeapEvent) : Prop :=
  event = .handled true → ∀ running, state.running = some running → running.con ≠ con

theorem Tagged.handled {running : Running} {raised : Bool} (tagged : Tagged con R L state)
    (keeps : raised = true → running.con ≠ con) : Tagged con R L (state.handled running raised) := by
  have returned : Tagged con R L { state with
      running := none
      clients := if raised then updateAt state.clients running.con
        { state.clients running.con with L := 1024 * 1024 * 1024 } else state.clients
      finished := updateAt state.finished running.con
        (state.finished running.con ++ [running.request]) } := by
    refine tagged.same ?_ rfl (Or.inl rfl)
    cases raised with
    | false => rfl
    | true => exact updateAt_other _ _ (Ne.symm (keeps rfl))
  simp only [HeapState.handled]
  split
  · exact returned
  · exact returned.processPossible _ _

theorem Tagged.step {event : HeapEvent} (tagged : Tagged con R L state)
    (keeps : KeepsRates con state event) (stepped : heapStep state event = some next) :
    Tagged con R L next := by
  simp only [heapStep] at stepped
  split at stepped
  · contradiction
  · split at stepped
    · split at stepped
      · cases stepped
        exact tagged.same rfl rfl (Or.inr rfl)
      · contradiction
    · rename_i idle
      split at stepped
      · cases stepped
        exact tagged.push idle _ _ _
      · contradiction
    · split at stepped
      · cases stepped
        exact tagged.processPossible _ _
      · contradiction
    · rename_i raised running called
      cases stepped
      refine tagged.handled fun isRaised => ?_
      subst isRaised
      exact keeps rfl running called
    · split at stepped
      · contradiction
      · cases stepped
        exact tagged.same rfl rfl (Or.inr rfl)
    · contradiction

/-- While a request of the connection is handled: those since any earlier one, up to and including
it, have no more payload than `L` allows from the arrival of the earlier one to the time the
request was taken for, and half a second. -/
def RateLimited (con : ConnectionId) (L : Nat) (state : HeapState) : Prop :=
  ∀ running, state.running = some running → running.con = con →
    ∃ taken, state.handed con = taken ++ [running.request] ∧
      ∀ before earlier between, taken = before ++ earlier :: between →
        (totalPayload (between ++ [running.request]) : ℚ) ≤
          L * ((running.time : ℚ) - earlier.arrival + 500) / 1000

theorem Tagged.rateLimited (tagged : Tagged con R L state) (positive : 0 < R) (ordered : R ≤ L) :
    RateLimited con L state := by
  intro running isRunning isCon
  obtain ⟨⟨taken, handed⟩, due⟩ := tagged.running running isRunning isCon
  refine ⟨taken, handed, ?_⟩
  rintro before earlier between rfl
  rw [handed, List.append_assoc, List.cons_append] at due
  have spent : (earlier.arrival : ℚ) - 500 +
      costAt L (totalPayload (between ++ [running.request])) ≤ running.time := by
    rcases due with reserved | limited
    · have counted := payload_le_tagAfter 500 R before earlier (between ++ [running.request])
      have slower := costAt_anti positive ordered (totalPayload (between ++ [running.request]))
      rw [reservationAfter] at reserved
      linarith
    · have counted := payload_le_tagAfter 0 L before earlier (between ++ [running.request])
      rw [limitAfter] at limited
      linarith
  have fast : (0 : ℚ) < L := by exact_mod_cast positive.trans_le ordered
  have cost : costAt L (totalPayload (between ++ [running.request])) * L =
      totalPayload (between ++ [running.request]) * 1000 := by
    rw [costAt]
    field_simp
  rw [le_div_iff₀ (by norm_num), ← cost]
  nlinarith

def ratedHeap (start : Int) (R L : ConnectionId → Nat) : HeapState :=
  { now := start, clients := fun con => { R := R con, L := L con } }

theorem ratedHeap_tagged (start : Int) (R L : ConnectionId → Nat) (con : ConnectionId) :
    Tagged con (R con) (L con) (ratedHeap start R L) where
  rates := ⟨rfl, rfl⟩
  tags := ⟨rfl, rfl⟩
  running := fun _ isRunning => by cases isRunning

/-- In every run the connection gets no more through its heap than its limit, with half a
second's credit. -/
theorem rate_limited (start : Int) (R L : ConnectionId → Nat) (con : ConnectionId)
    (positive : 0 < R con) (ordered : R con ≤ L con) (events : List HeapEvent)
    (constant : Transition.Happening heapStep (KeepsRates con) (ratedHeap start R L) events) :
    Transition.Throughout heapStep (RateLimited con (L con)) (ratedHeap start R L) events :=
  (constant.throughout heapStep (fun _ _ _ tagged keeps stepped => tagged.step keeps stepped)
    (ratedHeap_tagged start R L con)).mono heapStep
    fun _ tagged => tagged.rateLimited positive ordered

/-- Two requests wait from time 0 on; a millisecond later the first is taken, then the second. -/
theorem rate_limited_sample :
    Transition.Throughout heapStep (RateLimited 7 2097152)
      (ratedHeap 0 (fun _ => 51200) fun _ => 2097152) [
        .push 7 { arrival := 0, tag := 101, data := [1] } 0,
        .push 7 { arrival := 0, tag := 206, data := [2, 3] } 0,
        .tick 1, .exec, .handled false] := by
  refine rate_limited 0 (fun _ => 51200) (fun _ => 2097152) 7 (by decide) (by decide) _ ?_
  have keeps : ∀ state event, event ≠ .handled true → KeepsRates 7 state event :=
    fun _ _ other isRaised => absurd isRaised other
  refine ⟨fun _ _ => keeps _ _ (by decide), fun _ _ => ?_⟩
  refine ⟨fun _ _ => keeps _ _ (by decide), fun _ _ => ?_⟩
  refine ⟨fun _ _ => keeps _ _ (by decide), fun _ _ => ?_⟩
  refine ⟨fun _ _ => keeps _ _ (by decide), fun _ _ => ?_⟩
  exact ⟨fun _ _ => keeps _ _ (by decide), fun _ _ => trivial⟩

end EasyViewer
