import EasyViewer.RequestProcessor

/-!
What a run of one heap keeps: the queue is a heap of exactly the connections with
waiting requests, requests are handed over in the order they were accepted, and the
worker thread never sleeps over a filled queue.
-/

namespace EasyViewer

theorem compare_asymm (left right : Client) (before : compare left right = true) :
    compare right left = false := by
  simp only [compare] at before ⊢
  split at before
  · rename_i same
    rw [if_pos (by omega)]
    simp only [decide_eq_true_eq] at before
    simpa using le_of_lt before
  · rename_i apart
    simp only [decide_eq_true_eq] at before
    rw [if_neg (by omega)]
    simpa using by omega

theorem compare_negTrans (left middle right : Client) (first : compare left middle = false)
    (second : compare middle right = false) : compare left right = false := by
  simp only [compare] at first second ⊢
  split at first <;> split at second <;> simp only [decide_eq_false_iff_not] at first second
  · rw [if_pos (by omega)]
    simp only [not_lt] at first second
    simpa using first.trans second
  · rw [if_neg (by omega)]
    simpa using by omega
  · rw [if_neg (by omega)]
    simpa using by omega
  · rw [if_neg (by omega)]
    simpa using by omega

theorem compareIn_weak (clients : ConnectionId → Client) :
    BinaryHeap.StrictWeak (compareIn clients) where
  asymm _ _ before := compare_asymm _ _ before
  negTrans _ _ _ first second := compare_negTrans _ _ _ first second

theorem toLongLong_nonneg {value : ℚ} (nonneg : 0 ≤ value) : 0 ≤ toLongLong value := by
  rw [toLongLong, if_pos nonneg]
  exact Int.floor_nonneg.mpr nonneg

theorem toLongLong_pos {value : ℚ} (large : 1 ≤ value) : 1 ≤ toLongLong value := by
  rw [toLongLong, if_pos (by linarith)]
  exact Int.le_floor.mpr (by exact_mod_cast large)

theorem toLongLong_minDouble : toLongLong minDouble = 0 := by
  have positive : (0 : ℚ) ≤ minDouble := by
    simp only [minDouble]
    positivity
  rw [toLongLong, if_pos positive, Int.floor_eq_zero_iff]
  refine ⟨positive, ?_⟩
  simp only [minDouble]
  rw [div_lt_one (by positivity)]
  exact one_lt_pow₀ (by norm_num) (by norm_num)

theorem selectClient_sound {clients : ConnectionId → Client} {t : Int} {index : Nat}
    {client : ConnectionId} :
    ∀ (candidates : List ConnectionId) (start : Nat) (best : Option (Nat × ConnectionId)),
      selectClient clients t candidates start best = some (index, client) →
        best = some (index, client) ∨
          start ≤ index ∧ candidates[index - start]? = some client ∧ (clients client).limit ≤ t := by
  intro candidates
  induction candidates with
  | nil =>
      intro start best selected
      exact Or.inl selected
  | cons it rest ih =>
      intro start best selected
      have taken : ∀ candidate, candidate = some (start, it) → (clients it).limit ≤ t →
          selectClient clients t rest (start + 1) candidate = some (index, client) →
          start ≤ index ∧ (it :: rest)[index - start]? = some client ∧
            (clients client).limit ≤ t := by
        intro candidate isIt within later
        rcases ih (start + 1) candidate later with kept | ⟨bound, listed, limit⟩
        · rw [isIt, Option.some.injEq, Prod.mk.injEq] at kept
          obtain ⟨rfl, rfl⟩ := kept
          simpa using within
        · have place : index - start = index - (start + 1) + 1 := by omega
          rw [place, List.getElem?_cons_succ]
          exact ⟨by omega, listed, limit⟩
      have passed : ∀ candidate,
          selectClient clients t rest (start + 1) candidate = some (index, client) →
          candidate = some (index, client) ∨
            start ≤ index ∧ (it :: rest)[index - start]? = some client ∧
              (clients client).limit ≤ t := by
        intro candidate later
        rcases ih (start + 1) candidate later with kept | ⟨bound, listed, limit⟩
        · exact Or.inl kept
        · have place : index - start = index - (start + 1) + 1 := by omega
          rw [place, List.getElem?_cons_succ]
          exact Or.inr ⟨by omega, listed, limit⟩
      simp only [selectClient] at selected
      split at selected
      · rename_i within
        split at selected
        · exact Or.inr (taken _ rfl within selected)
        · split at selected
          · exact Or.inr (taken _ rfl within selected)
          · exact passed _ selected
      · exact Or.inl selected

/-- A connection phase 2 lowers ranks before every other one in the queue. -/
theorem lowered_first {clients : ConnectionId → Client} {queue : Array ConnectionId} {t : Int}
    {front client : ConnectionId} (tags : ∀ con, (clients con).TagsOk)
    (heap : BinaryHeap.IsHeap (compareIn clients) queue) (atFront : queue[0]? = some front)
    (late : t < (clients front).reservation) (member : client ∈ queue)
    (within : (clients client).limit ≤ t) (other : ConnectionId) (listed : other ∈ queue)
    (different : other ≠ client) :
    compareIn (updateAt clients client
      { clients client with reservation := minDouble, limit := minDouble }) other client = true := by
  obtain ⟨nonempty, frontEq⟩ := Array.getElem?_eq_some_iff.mp atFront
  have best : ∀ con ∈ queue, compare (clients front) (clients con) = false := by
    intro con conListed
    obtain ⟨place, bound, atPlace⟩ := Array.mem_iff_getElem.mp conListed
    have ranked := heap.front_best (compareIn_weak clients) place bound
    rw [frontEq, atPlace] at ranked
    exact ranked
  have frontNonneg := toLongLong_nonneg (tags front).reservation
  have timePositive : 1 ≤ t := by
    by_contra early
    have limitNonneg := (tags client).limit
    have timeNonneg : (0 : ℚ) ≤ t := limitNonneg.trans within
    have timeZero : t = 0 := by
      have : 0 ≤ t := by exact_mod_cast timeNonneg
      omega
    subst timeZero
    simp only [Int.cast_zero] at late within
    have clientZero : toLongLong (clients client).reservation = 0 := by
      have low := (tags client).tied within
      have zero : (clients client).reservation = 0 := le_antisymm low (tags client).reservation
      rw [zero]
      rfl
    have ranked := best client member
    simp only [compare, clientZero, sub_zero] at ranked
    split at ranked
    · simp only [decide_eq_false_iff_not, not_lt] at ranked
      have frontLow := (tags front).tied (ranked.trans within)
      linarith
    · simp only [decide_eq_false_iff_not, not_lt] at ranked
      omega
  have frontLarge : 1 ≤ toLongLong (clients front).reservation := by
    apply toLongLong_pos
    have : (1 : ℚ) ≤ t := by exact_mod_cast timePositive
    linarith
  have otherLarge : 1 ≤ toLongLong (clients other).reservation := by
    have ranked := best other listed
    simp only [compare] at ranked
    split at ranked
    · omega
    · simp only [decide_eq_false_iff_not, not_lt] at ranked
      omega
  simp only [compareIn, updateAt_same, updateAt_other clients _ different, compare,
    toLongLong_minDouble, sub_zero]
  rw [if_neg (by omega)]
  simpa using by omega

theorem compareIn_updateAt {clients : ConnectionId → Client} {con left right : ConnectionId}
    (client : Client) (leftOther : left ≠ con) (rightOther : right ≠ con) :
    compareIn (updateAt clients con client) left right = compareIn clients left right := by
  simp only [compareIn, updateAt_other clients client leftOther,
    updateAt_other clients client rightOther]

theorem compareIn_updateAt_absent {clients : ConnectionId → Client} {con : ConnectionId}
    {queue : Array ConnectionId} (client : Client) (absent : con ∉ queue) :
    ∀ a ∈ queue, ∀ b ∈ queue,
      compareIn (updateAt clients con client) a b = compareIn clients a b := by
  intro a aListed b bListed
  have aOther : a ≠ con := by
    rintro rfl
    exact absent aListed
  have bOther : b ≠ con := by
    rintro rfl
    exact absent bListed
  exact compareIn_updateAt client aOther bOther

theorem tagsOk_updateAt {clients : ConnectionId → Client} {con : ConnectionId} {client : Client}
    (tags : ∀ other, (clients other).TagsOk) (own : client.TagsOk) (other : ConnectionId) :
    (updateAt clients con client other).TagsOk := by
  by_cases same : other = con
  · subst same
    simpa using own
  · rw [updateAt_other _ _ same]
    exact tags other

theorem not_mem_of_push_perm {queue rest : Array ConnectionId} {client : ConnectionId}
    (whole : (rest.push client).Perm queue) (distinct : queue.toList.Nodup) :
    client ∉ rest ∧ rest.toList.Nodup := by
  have listed := (Array.perm_iff_toList_perm.mp whole).nodup_iff.mpr distinct
  rw [Array.toList_push, List.nodup_append] at listed
  obtain ⟨restDistinct, _, disjoint⟩ := listed
  refine ⟨?_, restDistinct⟩
  intro member
  exact disjoint client (Array.mem_toList_iff.mpr member) client (by simp) rfl

def lowerKeys (clients : ConnectionId → Client) (client : ConnectionId) : ConnectionId → Client :=
  updateAt clients client
    { clients client with reservation := minDouble, limit := minDouble }

def removeAt (clients : ConnectionId → Client) (queue : Array ConnectionId) (index : Nat)
    (client : ConnectionId) : Array ConnectionId :=
  (BinaryHeap.popHeap (compareIn (lowerKeys clients client))
    (BinaryHeap.pushHeap (compareIn (lowerKeys clients client)) queue (index + 1))).pop

/-- Whichever connection within its limit phase 2 removes, it removes this one alone. -/
theorem removeAt_sound {clients : ConnectionId → Client} {queue : Array ConnectionId} {t : Int}
    {front : ConnectionId} {index : Nat} (tags : ∀ con, (clients con).TagsOk)
    (heap : BinaryHeap.IsHeap (compareIn clients) queue) (distinct : queue.toList.Nodup)
    (atFront : queue[0]? = some front) (late : t < (clients front).reservation)
    (bound : index < queue.size) (within : (clients queue[index]).limit ≤ t) :
    BinaryHeap.IsHeap (compareIn clients) (removeAt clients queue index queue[index]) ∧
      ((removeAt clients queue index queue[index]).push queue[index]).Perm queue := by
  have raised := BinaryHeap.pushHeap_raised (compareIn_weak clients)
    (compareIn_weak (lowerKeys clients queue[index])) heap bound distinct
    (fun a _ b _ aOther bOther => compareIn_updateAt _ aOther bOther)
    (fun other otherListed different => lowered_first tags heap atFront late
      (Array.getElem_mem _) within other otherListed different)
  obtain ⟨raisedHeap, raisedFront, raisedPerm⟩ := raised
  obtain ⟨raisedNonempty, raisedEq⟩ := Array.getElem?_eq_some_iff.mp raisedFront
  have popped := BinaryHeap.popHeap_pop (compareIn_weak (lowerKeys clients queue[index])) raisedHeap
    raisedNonempty
  rw [raisedEq] at popped
  have whole := popped.2.trans raisedPerm
  refine ⟨popped.1.congr ?_, whole⟩
  obtain ⟨absent, _⟩ := not_mem_of_push_perm whole distinct
  intro a aListed b bListed
  exact (compareIn_updateAt_absent _ absent a aListed b bListed).symm

theorem takeClient_phase2 {clients : ConnectionId → Client} {queue rest : Array ConnectionId}
    {t : Int} {front client : ConnectionId} (atFront : queue[0]? = some front)
    (late : t < (clients front).reservation)
    (taken : takeClient clients queue t = some (client, rest)) :
    ∃ index, index < maxCount ∧ ∃ bound : index < queue.size, queue[index] = client ∧
      (clients client).limit ≤ t ∧ rest = removeAt clients queue index client := by
  simp only [takeClient, atFront] at taken
  rw [if_neg (by simpa using late)] at taken
  split at taken
  · contradiction
  · rename_i index chosen selected
    cases taken
    rcases selectClient_sound _ _ _ selected with impossible | ⟨_, listed, within⟩
    · contradiction
    · rw [Nat.sub_zero, List.getElem?_take] at listed
      split at listed
      · rename_i few
        rw [Array.getElem?_toList] at listed
        obtain ⟨bound, atIndex⟩ := Array.getElem?_eq_some_iff.mp listed
        exact ⟨index, few, bound, atIndex, within, rfl⟩
      · contradiction

theorem takeClient_sound {clients : ConnectionId → Client} {queue rest : Array ConnectionId}
    {t : Int} {client : ConnectionId} (tags : ∀ con, (clients con).TagsOk)
    (heap : BinaryHeap.IsHeap (compareIn clients) queue) (distinct : queue.toList.Nodup)
    (taken : takeClient clients queue t = some (client, rest)) :
    BinaryHeap.IsHeap (compareIn clients) rest ∧ (rest.push client).Perm queue := by
  cases atFront : queue[0]? with
  | none =>
      simp only [takeClient, atFront] at taken
      contradiction
  | some front =>
      by_cases due : (clients front).reservation ≤ t
      · obtain ⟨nonempty, frontEq⟩ := Array.getElem?_eq_some_iff.mp atFront
        simp only [takeClient, atFront, if_pos due, Option.some.injEq, Prod.mk.injEq] at taken
        obtain ⟨rfl, rfl⟩ := taken
        have popped := BinaryHeap.popHeap_pop (compareIn_weak clients) heap nonempty
        rw [frontEq] at popped
        exact popped
      · have late : t < (clients front).reservation := not_le.mp due
        obtain ⟨index, _, bound, rfl, within, rfl⟩ := takeClient_phase2 atFront late taken
        exact removeAt_sound tags heap distinct atFront late bound within

/-- The queue is a heap that lists each connection with waiting requests once. -/
structure QueueOk (clients : ConnectionId → Client) (queue : Array ConnectionId) : Prop where
  tags : ∀ con, (clients con).TagsOk
  heap : BinaryHeap.IsHeap (compareIn clients) queue
  distinct : queue.toList.Nodup
  listed : ∀ con, con ∈ queue ↔ (clients con).requests ≠ []

structure QueueHolds (own : ConnectionId → Prop) (clients : ConnectionId → Client)
    (queue : Array ConnectionId) : Prop where
  tags : ∀ con, (clients con).TagsOk
  heap : BinaryHeap.IsHeap (compareIn clients) queue
  distinct : queue.toList.Nodup
  listed : ∀ con, con ∈ queue ↔ own con ∧ (clients con).requests ≠ []

theorem QueueOk.holds {clients : ConnectionId → Client} {queue : Array ConnectionId} :
    QueueOk clients queue ↔ QueueHolds (fun _ => True) clients queue := by
  constructor
  · rintro ⟨tags, heap, distinct, listed⟩
    exact ⟨tags, heap, distinct, by simpa using listed⟩
  · rintro ⟨tags, heap, distinct, listed⟩
    exact ⟨tags, heap, distinct, by simpa using listed⟩

section

variable {own : ConnectionId → Prop} {clients : ConnectionId → Client} {queue : Array ConnectionId}
  {con : ConnectionId}

theorem QueueHolds.join (tags : ∀ con, (clients con).TagsOk)
    (heap : BinaryHeap.IsHeap (compareIn clients) queue) (distinct : queue.toList.Nodup)
    (absent : con ∉ queue) (listed : ∀ other, other ≠ con →
      (other ∈ queue ↔ own other ∧ (clients other).requests ≠ []))
    (isOwn : own con) (waiting : (clients con).requests ≠ []) :
    QueueHolds own clients
      (BinaryHeap.pushHeap (compareIn clients) (queue.push con) (queue.size + 1)) := by
  obtain ⟨pushedHeap, perm⟩ := BinaryHeap.pushHeap_push (compareIn_weak clients) heap con
  refine ⟨tags, pushedHeap, ?_, ?_⟩
  · rw [(Array.perm_iff_toList_perm.mp perm).nodup_iff, Array.toList_push, List.nodup_append]
    refine ⟨distinct, by simp, ?_⟩
    intro a aListed b bListed
    have isCon : b = con := by simpa using bListed
    rintro rfl
    exact absent (isCon ▸ Array.mem_toList_iff.mp aListed)
  · intro other
    rw [perm.mem_iff, Array.mem_push]
    by_cases same : other = con
    · subst same
      simp [isOwn, waiting]
    · rw [← listed other same]
      simp [same]

theorem QueueHolds.update_absent (holds : QueueHolds own clients queue) {client : Client}
    (absent : con ∉ queue) (tags : client.TagsOk) (none : own con → client.requests = []) :
    QueueHolds own (updateAt clients con client) queue := by
  refine ⟨tagsOk_updateAt holds.tags tags,
    holds.heap.congr (compareIn_updateAt_absent client absent), holds.distinct, ?_⟩
  intro other
  by_cases same : other = con
  · subst same
    simpa [absent] using none
  · rw [updateAt_other _ _ same]
    exact holds.listed other

theorem QueueHolds.update_kept (holds : QueueHolds own clients queue) {client : Client}
    (tags : client.TagsOk) (reservation : client.reservation = (clients con).reservation)
    (limit : client.limit = (clients con).limit)
    (waiting : client.requests ≠ [] ↔ (clients con).requests ≠ []) :
    QueueHolds own (updateAt clients con client) queue := by
  have sameKeys : ∀ other, (updateAt clients con client other).reservation =
      (clients other).reservation ∧
        (updateAt clients con client other).limit = (clients other).limit := by
    intro other
    by_cases same : other = con
    · subst same
      simp [reservation, limit]
    · simp [updateAt_other _ _ same]
  refine ⟨tagsOk_updateAt holds.tags tags, ?_, holds.distinct, ?_⟩
  · apply holds.heap.congr
    intro a _ b _
    simp only [compareIn, compare, (sameKeys a).1, (sameKeys a).2, (sameKeys b).1, (sameKeys b).2]
  · intro other
    by_cases same : other = con
    · subst same
      rw [updateAt_same, waiting]
      exact holds.listed other
    · rw [updateAt_other _ _ same]
      exact holds.listed other

/-- What `pull` can do to a sound queue: nothing, or hand over the first request of one
connection, which stays listed only if more of its requests wait. -/
theorem QueueHolds.pull {state : HeapState} (holds : QueueHolds own state.clients state.queue)
    (t : Int) :
    takeClient state.clients state.queue t = none ∧ pull state t = (.nothing, state) ∨
      ∃ con request popped queue,
        pull state t = (.request con request,
          { state with queue := queue, clients := updateAt state.clients con popped }) ∧
        (∃ rest, takeClient state.clients state.queue t = some (con, rest)) ∧
        con ∈ state.queue ∧ (state.clients con).requests = request :: popped.requests ∧
        QueueHolds own (updateAt state.clients con popped) queue ∧
        (popped.requests = [] → (queue.push con).Perm state.queue) := by
  simp only [EasyViewer.pull]
  split
  · rename_i untaken
    exact Or.inl ⟨untaken, rfl⟩
  · rename_i client rest taken
    obtain ⟨restHeap, whole⟩ := takeClient_sound holds.tags holds.heap holds.distinct taken
    obtain ⟨absent, restDistinct⟩ := not_mem_of_push_perm whole holds.distinct
    have member : client ∈ state.queue := whole.mem_iff.mp (by simp)
    obtain ⟨isOwn, waiting⟩ := (holds.listed client).mp member
    split
    · rename_i none
      obtain ⟨request, popped, some⟩ := Client.popRequest_isSome waiting
      rw [some] at none
      contradiction
    · rename_i request popped isPopped
      right
      have requests := Client.popRequest_requests isPopped
      have tags : ∀ con, (updateAt state.clients client popped con).TagsOk :=
        tagsOk_updateAt holds.tags ((holds.tags client).popRequest isPopped)
      have heap : BinaryHeap.IsHeap (compareIn (updateAt state.clients client popped)) rest :=
        restHeap.congr (compareIn_updateAt_absent popped absent)
      have listed : ∀ other, other ≠ client →
          (other ∈ rest ↔ own other ∧
            (updateAt state.clients client popped other).requests ≠ []) := by
        intro other different
        rw [updateAt_other _ _ different, ← holds.listed other, ← whole.mem_iff, Array.mem_push]
        simp [different]
      refine ⟨client, request, popped, _, rfl, ⟨rest, taken⟩, member, requests, ?_, ?_⟩
      · split
        · rename_i empty
          refine ⟨tags, heap, restDistinct, ?_⟩
          intro other
          by_cases same : other = client
          · subst same
            simp [absent, empty]
          · exact listed other same
        · rename_i more
          exact QueueHolds.join tags heap restDistinct absent listed isOwn (by simpa using more)
      · intro empty
        rw [if_pos empty]
        exact whole

end

theorem QueueOk.join {clients : ConnectionId → Client} {queue : Array ConnectionId}
    {con : ConnectionId} (tags : ∀ con, (clients con).TagsOk)
    (heap : BinaryHeap.IsHeap (compareIn clients) queue) (distinct : queue.toList.Nodup)
    (absent : con ∉ queue) (listed : ∀ other, other ≠ con →
      (other ∈ queue ↔ (clients other).requests ≠ []))
    (waiting : (clients con).requests ≠ []) :
    QueueOk clients
      (BinaryHeap.pushHeap (compareIn clients) (queue.push con) (queue.size + 1)) :=
  QueueOk.holds.mpr (.join tags heap distinct absent (by simpa using listed) trivial waiting)

theorem QueueOk.update_absent {clients : ConnectionId → Client} {queue : Array ConnectionId}
    (ok : QueueOk clients queue) {con : ConnectionId} {client : Client} (absent : con ∉ queue)
    (tags : client.TagsOk) (none : client.requests = []) :
    QueueOk (updateAt clients con client) queue :=
  QueueOk.holds.mpr ((QueueOk.holds.mp ok).update_absent absent tags fun _ => none)

theorem QueueOk.update_kept {clients : ConnectionId → Client} {queue : Array ConnectionId}
    (ok : QueueOk clients queue) {con : ConnectionId} {client : Client} (tags : client.TagsOk)
    (reservation : client.reservation = (clients con).reservation)
    (limit : client.limit = (clients con).limit)
    (waiting : client.requests ≠ [] ↔ (clients con).requests ≠ []) :
    QueueOk (updateAt clients con client) queue :=
  QueueOk.holds.mpr ((QueueOk.holds.mp ok).update_kept tags reservation limit waiting)

theorem pull_cases {state : HeapState} (ok : QueueOk state.clients state.queue) (t : Int) :
    pull state t = (.nothing, state) ∨
      ∃ con request popped queue,
        pull state t = (.request con request,
          { state with queue := queue, clients := updateAt state.clients con popped }) ∧
        con ∈ state.queue ∧ (state.clients con).requests = request :: popped.requests ∧
        QueueOk (updateAt state.clients con popped) queue ∧
        (popped.requests = [] → (queue.push con).Perm state.queue) := by
  rcases (QueueOk.holds.mp ok).pull t with
    ⟨_, none⟩ | ⟨con, request, popped, queue, pulled, _, member, requests, holds, taken⟩
  · exact Or.inl none
  · exact Or.inr ⟨con, request, popped, queue, pulled, member, requests,
      QueueOk.holds.mpr holds, taken⟩

def CallerOk (state : HeapState) : Caller → Prop
  | .inline => True
  | .push true => state.queue = #[]
  | .push false => state.exec ≠ .waiting false
  | .exec => state.exec = .active

def HeapState.inHand (state : HeapState) (con : ConnectionId) : List Request :=
  match state.running with
  | some running => if running.con = con then [running.request] else []
  | none => []

structure HeapOk (state : HeapState) : Prop where
  queue : QueueOk state.clients state.queue
  sound : state.aborted = false
  order : ∀ con, state.accepted con = state.handed con ++ (state.clients con).requests
  calls : ∀ con, state.handed con = state.finished con ++ state.inHand con
  asleep : state.exec = .waiting false → state.queue = #[]
  caller : ∀ running, state.running = some running → CallerOk state running.caller

def Lone (state : HeapState) : Prop :=
  ∀ con ∈ state.queue, state.queue = #[con] ∧ (state.clients con).requests.length = 1

/-- What `processPossible` relies on when `caller` starts or resumes its loop. -/
def LoopOk (state : HeapState) : Caller → Prop
  | .inline => False
  | .push true => Lone state
  | .push false => state.exec ≠ .waiting false
  | .exec => state.exec = .active

theorem Lone.pull_empties {state : HeapState} (lone : Lone state) {con : ConnectionId}
    {request : Request} {rest : List Request} {queue : Array ConnectionId}
    (member : con ∈ state.queue) (requests : (state.clients con).requests = request :: rest)
    (taken : rest = [] → (queue.push con).Perm state.queue) : queue = #[] := by
  obtain ⟨only, single⟩ := lone con member
  rw [requests] at single
  have none : rest = [] := List.length_eq_zero_iff.mp (by simpa using single)
  have sizes := (taken none).size_eq
  rw [only] at sizes
  exact Array.size_eq_zero_iff.mp (by simpa using sizes)

theorem processPossible_ok {state : HeapState} {caller : Caller}
    (queue : QueueOk state.clients state.queue) (sound : state.aborted = false)
    (order : ∀ con, state.accepted con = state.handed con ++ (state.clients con).requests)
    (calls : ∀ con, state.handed con = state.finished con) (idle : state.running = none)
    (loop : LoopOk state caller) (t : Int) : HeapOk (processPossible state caller t) := by
  simp only [processPossible]
  rcases pull_cases queue t with none | ⟨con, request, popped, rest, pulled, member, requests,
    restOk, taken⟩
  · rw [none]
    have noCall : ∀ con, state.handed con = state.finished con ++ state.inHand con := by
      intro con
      simp [HeapState.inHand, idle, calls con]
    cases caller with
    | inline => exact loop.elim
    | push emptied =>
        refine ⟨queue, sound, order, noCall, ?_, by simp [idle]⟩
        intro asleep
        cases emptied with
        | false => exact absurd asleep loop
        | true =>
            by_cases empty : state.queue.size = 0
            · exact Array.size_eq_zero_iff.mp empty
            · simp only [Bool.true_and, decide_eq_true_eq, ne_eq, empty, not_false_eq_true,
                if_true, notify] at asleep
              split at asleep <;> simp at asleep
    | exec =>
        refine ⟨queue, sound, order, noCall, ?_, by simp [idle]⟩
        intro asleep
        by_cases empty : state.queue.size = 0
        · exact Array.size_eq_zero_iff.mp empty
        · simp only [empty, if_false] at asleep
          rw [loop] at asleep
          contradiction
  · rw [pulled]
    refine ⟨restOk, sound, ?_, ?_, ?_, ?_⟩
    · intro other
      by_cases same : other = con
      · subst same
        simp [HeapState.hand, order other, requests]
      · simp [HeapState.hand, updateAt_other _ _ same, order other]
    · intro other
      by_cases same : other = con
      · subst same
        simp [HeapState.hand, HeapState.inHand, calls other]
      · simp [HeapState.hand, HeapState.inHand, updateAt_other _ _ same, Ne.symm same, calls other]
    · intro asleep
      cases caller with
      | inline => exact loop.elim
      | push emptied =>
          cases emptied with
          | false => exact absurd asleep loop
          | true => exact loop.pull_empties member requests taken
      | exec =>
          have active : state.exec = .active := loop
          simp [HeapState.hand, active] at asleep
    · intro running isRunning
      simp only [HeapState.hand, Option.some.injEq] at isRunning
      subst isRunning
      cases caller with
      | inline => trivial
      | push emptied =>
          cases emptied with
          | false => exact loop
          | true => exact loop.pull_empties member requests taken
      | exec => exact loop

theorem HeapOk.finished_eq {state : HeapState} (ok : HeapOk state) (idle : state.running = none)
    (con : ConnectionId) : state.handed con = state.finished con := by
  simpa [HeapState.inHand, idle] using ok.calls con

theorem order_push {state : HeapState} (ok : HeapOk state) (con : ConnectionId)
    {request : Request} {client : Client}
    (requests : client.requests = (state.clients con).requests ++ [request])
    (other : ConnectionId) :
    updateAt state.accepted con (state.accepted con ++ [request]) other =
      state.handed other ++ (updateAt state.clients con client other).requests := by
  by_cases same : other = con
  · subst same
    simp [ok.order other, requests]
  · simp [updateAt_other _ _ same, ok.order other]

theorem HeapState.push_first {state : HeapState} (ok : HeapOk state) (idle : state.running = none)
    {con : ConnectionId} {request : Request} {client : Client} (t : Int)
    (none : (state.clients con).requests = []) (tags : client.TagsOk)
    (single : client.requests = [request]) :
    HeapOk (processPossible { state with
      clients := updateAt state.clients con client
      accepted := updateAt state.accepted con (state.accepted con ++ [request])
      queue := BinaryHeap.pushHeap (compareIn (updateAt state.clients con client))
        (state.queue.push con) (state.queue.size + 1) } (.push state.queue.isEmpty) t) := by
  have absent : con ∉ state.queue := by
    rw [ok.queue.listed con, none]
    simp
  have clientTags : ∀ other, (updateAt state.clients con client other).TagsOk :=
    tagsOk_updateAt ok.queue.tags tags
  have heap : BinaryHeap.IsHeap (compareIn (updateAt state.clients con client)) state.queue :=
    ok.queue.heap.congr (compareIn_updateAt_absent client absent)
  have listed : ∀ other, other ≠ con →
      (other ∈ state.queue ↔ (updateAt state.clients con client other).requests ≠ []) := by
    intro other different
    rw [updateAt_other _ _ different]
    exact ok.queue.listed other
  have joined := QueueOk.join clientTags heap ok.queue.distinct absent listed (by simp [single])
  apply processPossible_ok
  · exact joined
  · exact ok.sound
  · exact order_push ok con (by simp [single, none])
  · exact ok.finished_eq idle
  · exact idle
  · cases emptied : state.queue.isEmpty with
    | false =>
        intro asleep
        have empty := ok.asleep asleep
        simp [empty] at emptied
    | true =>
        have empty : state.queue = #[] := Array.isEmpty_iff.mp emptied
        have perm := (BinaryHeap.pushHeap_push
          (compareIn_weak (updateAt state.clients con client)) heap con).2
        intro member listedMember
        have isCon : member = con := by
          have pushed := perm.mem_iff.mp listedMember
          simpa [empty] using pushed
        subst isCon
        have whole : BinaryHeap.pushHeap (compareIn (updateAt state.clients member client))
            (state.queue.push member) (state.queue.size + 1) = #[member] := by
          rw [empty] at perm ⊢
          have lists := Array.perm_iff_toList_perm.mp perm
          exact Array.toList_inj.mp (List.perm_singleton.mp (by simpa using lists))
        exact ⟨whole, by simp [single]⟩

theorem HeapState.push_ok {state : HeapState} (ok : HeapOk state) (idle : state.running = none)
    (con : ConnectionId) (request : Request) (t : Int) : HeapOk (state.push con request t).2 := by
  unfold HeapState.push
  simp only
  split
  · rename_i accepted
    have requests := Client.pushRequest_requests accepted
    have size := Client.pushRequest_size (state.clients con) request
    have tags := (ok.queue.tags con).pushRequest request
    have kept := @Client.pushRequest_tags (state.clients con) request
    generalize ((state.clients con).pushRequest request).2 = client at requests tags kept ⊢
    rw [size]
    split
    · rename_i first
      have none : (state.clients con).requests = [] := List.length_eq_zero_iff.mp first
      have single : client.requests = [request] := by
        rw [requests, none, List.nil_append]
      split
      · obtain ⟨taken, popped, isPopped⟩ := Client.popRequest_isSome
          (show client.requests ≠ [] by simp [single])
        have rest := Client.popRequest_requests isPopped
        rw [single, List.cons.injEq] at rest
        obtain ⟨rfl, empty⟩ := rest
        have absent : con ∉ state.queue := by
          rw [ok.queue.listed con, none]
          simp
        rw [isPopped]
        refine ⟨?_, ok.sound, ?_, ?_, ok.asleep, ?_⟩
        · simpa [HeapState.hand] using
            ok.queue.update_absent absent (tags.popRequest isPopped) empty.symm
        · intro other
          by_cases same : other = con
          · subst same
            simp [HeapState.hand, ok.order other, none, ← empty]
          · simp [HeapState.hand, updateAt_other _ _ same, ok.order other]
        · intro other
          by_cases same : other = con
          · subst same
            simp [HeapState.hand, HeapState.inHand, ok.finished_eq idle]
          · simp [HeapState.hand, HeapState.inHand, updateAt_other _ _ same, Ne.symm same,
              ok.finished_eq idle]
        · intro running isRunning
          simp only [HeapState.hand, Option.some.injEq] at isRunning
          subst isRunning
          trivial
      · exact HeapState.push_first ok idle state.now none tags single
    · rename_i several
      have waiting : (state.clients con).requests ≠ [] := by
        simpa [List.length_eq_zero_iff] using several
      obtain ⟨reservation, limit⟩ := kept waiting
      apply processPossible_ok
      · exact ok.queue.update_kept tags reservation limit (by simp [requests, waiting])
      · exact ok.sound
      · exact order_push ok con requests
      · exact ok.finished_eq idle
      · exact idle
      · have member := (ok.queue.listed con).mpr waiting
        cases emptied : state.queue.isEmpty with
        | false =>
            intro asleep
            rw [ok.asleep asleep] at member
            simp at member
        | true =>
            rw [Array.isEmpty_iff.mp emptied] at member
            simp at member
  · exact ok

theorem HeapState.handled_ok {state : HeapState} (ok : HeapOk state) {running : Running}
    (called : state.running = some running) (raised : Bool) :
    HeapOk (state.handled running raised) := by
  have loop := ok.caller running called
  have queue : QueueOk (if raised = true then
      updateAt state.clients running.con { state.clients running.con with L := 1024 * 1024 * 1024 }
      else state.clients) state.queue := by
    split
    · have tags := ok.queue.tags running.con
      exact ok.queue.update_kept ⟨tags.reservation, tags.limit, tags.tied, by norm_num⟩ rfl rfl
        Iff.rfl
    · exact ok.queue
  have sameRequests : ∀ con, ((if raised = true then
      updateAt state.clients running.con { state.clients running.con with L := 1024 * 1024 * 1024 }
      else state.clients) con).requests = (state.clients con).requests := by
    intro con
    split
    · by_cases same : con = running.con
      · subst same
        simp
      · rw [updateAt_other _ _ same]
    · rfl
  have calls : ∀ con, state.handed con = updateAt state.finished running.con
      (state.finished running.con ++ [running.request]) con := by
    intro con
    by_cases same : con = running.con
    · subst same
      simp [ok.calls, HeapState.inHand, called]
    · simp [updateAt_other _ _ same, ok.calls, HeapState.inHand, called, Ne.symm same]
  have order : ∀ con, state.accepted con = state.handed con ++ ((if raised = true then
      updateAt state.clients running.con { state.clients running.con with L := 1024 * 1024 * 1024 }
      else state.clients) con).requests := by
    intro con
    rw [sameRequests con]
    exact ok.order con
  simp only [HeapState.handled]
  cases caller : running.caller with
  | inline =>
      refine ⟨queue, ok.sound, order, ?_, ok.asleep, by simp⟩
      intro con
      simp [HeapState.inHand, calls con]
  | push emptied =>
      rw [caller] at loop
      apply processPossible_ok
      · exact queue
      · exact ok.sound
      · exact order
      · exact calls
      · rfl
      · cases emptied with
        | false => exact loop
        | true =>
            intro con member
            have empty : state.queue = #[] := loop
            simp [empty] at member
  | exec =>
      rw [caller] at loop
      apply processPossible_ok
      · exact queue
      · exact ok.sound
      · exact order
      · exact calls
      · rfl
      · exact loop

theorem heapStep_ok {state next : HeapState} {event : HeapEvent} (ok : HeapOk state)
    (stepped : heapStep state event = some next) : HeapOk next := by
  simp only [heapStep] at stepped
  rw [ok.sound] at stepped
  simp only [Bool.false_eq_true, if_false] at stepped
  split at stepped
  · split at stepped
    · simp only [Option.some.injEq] at stepped
      subst stepped
      exact ⟨ok.queue, rfl, ok.order, ok.calls, ok.asleep, ok.caller⟩
    · contradiction
  · rename_i idle
    split at stepped
    · simp only [Option.some.injEq] at stepped
      subst stepped
      exact HeapState.push_ok ok idle _ _ _
    · contradiction
  · rename_i idle
    split at stepped
    · rename_i active
      simp only [Option.some.injEq] at stepped
      subst stepped
      apply processPossible_ok ok.queue ok.sound ok.order (ok.finished_eq idle) idle
      exact active
    · contradiction
  · rename_i called
    simp only [Option.some.injEq] at stepped
    subst stepped
    exact HeapState.handled_ok ok called _
  · rename_i idle
    split at stepped
    · contradiction
    · simp only [Option.some.injEq] at stepped
      subst stepped
      refine ⟨ok.queue, rfl, ok.order, ok.calls, by simp, ?_⟩
      intro running isRunning
      simp [idle] at isRunning
  · contradiction

theorem HeapOk.initial (now : Int) : HeapOk { now := now } := by
  refine ⟨⟨fun _ => Client.TagsOk.initial, ?_, by simp, by simp⟩, rfl, by simp, ?_, by simp, by simp⟩
  · intro index _ inside
    simp at inside
  · simp [HeapState.inHand]

theorem HeapOk.reachable {now : Int} {state : HeapState}
    (reached : Transition.Reachable heapStep { now := now } state) : HeapOk state :=
  reached.invariant heapStep (fun _ _ _ ok stepped => heapStep_ok ok stepped)
    (HeapOk.initial now)

/-- Per connection, handlers get the accepted requests once each, in order and one at a time;
a free heap lists exactly the connections with waiting requests, each once; and the worker
is never left blocked over a filled queue. -/
theorem heap_exactly_once {now : Int} {state : HeapState}
    (reached : Transition.Reachable heapStep { now := now } state) :
    (∀ con, state.handed con <+: state.accepted con ∧ state.finished con <+: state.handed con ∧
      (state.handed con).length ≤ (state.finished con).length + 1) ∧
    (state.running = none → ∀ con, state.queue.count con =
      if (state.clients con).requests = [] then 0 else 1) ∧
    (state.exec = .waiting false → state.queue = #[]) := by
  have ok := HeapOk.reachable reached
  refine ⟨?_, ?_, ok.asleep⟩
  · intro con
    refine ⟨⟨_, (ok.order con).symm⟩, ⟨_, (ok.calls con).symm⟩, ?_⟩
    rw [ok.calls con, List.length_append]
    have one : (state.inHand con).length ≤ 1 := by
      simp only [HeapState.inHand]
      split
      · split <;> simp
      · simp
    omega
  · intro _ con
    rw [← Array.count_toList]
    split
    · rename_i none
      rw [List.count_eq_zero]
      intro member
      exact (ok.queue.listed con).mp (Array.mem_toList_iff.mp member) none
    · rename_i waiting
      have member := (ok.queue.listed con).mpr waiting
      exact List.count_eq_one_of_mem ok.queue.distinct (Array.mem_toList_iff.mpr member)

def sampleEvents : List HeapEvent := [
  .push 7 { arrival := 0, tag := 101, data := [1] } 0,
  .push 7 { arrival := 0, tag := 206, data := [2, 3] } 0,
  .tick 1, .exec, .handled false]

theorem heap_exactly_once_sample :
    ∃ state, Transition.run heapStep { now := 0 } sampleEvents = some state ∧
      (state.handed 7 <+: state.accepted 7) ∧ (state.handed 7).length = 2 := by
  have length : (Transition.run heapStep { now := 0 } sampleEvents).map
      (fun state => (state.handed 7).length) = some 2 := by decide +kernel
  obtain ⟨state, ran, two⟩ := Option.map_eq_some_iff.mp length
  exact ⟨state, ran, ((heap_exactly_once ⟨sampleEvents, ran⟩).1 7).1, two⟩

end EasyViewer
