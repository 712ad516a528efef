import Mathlib.Data.List.Nodup

/-!
Binary heaps in an array under a C++ style comparator: `less a b` says that `a`
ranks below `b`, and the best element stands at the front. `pushHeap` and
`popHeap` move one element along a path, as `std::push_heap` and `std::pop_heap` do.
-/

namespace BinaryHeap

variable {α : Type}

/-- What a comparator has to satisfy: a strict order whose incomparability is transitive. -/
structure StrictWeak (less : α → α → Bool) : Prop where
  asymm : ∀ a b, less a b = true → less b a = false
  negTrans : ∀ a b c, less a b = false → less b c = false → less a c = false

theorem StrictWeak.irrefl {less : α → α → Bool} (weak : StrictWeak less) (a : α) :
    less a a = false := by
  cases ordered : less a a with
  | false => rfl
  | true =>
      have reversed := weak.asymm a a ordered
      rw [ordered] at reversed
      exact reversed

theorem StrictWeak.not_less_of_less {less : α → α → Bool} (weak : StrictWeak less) {a b c : α}
    (below : less a b = true) (same : less a c = false) : less b c = false := by
  have reversed := weak.asymm a b below
  exact weak.negTrans b a c reversed same

def parent (index : Nat) : Nat := (index - 1) / 2

def HeapBelow (less : α → α → Bool) (queue : Array α) (length : Nat) : Prop :=
  ∀ index, 0 < index → index < length → ∀ bound : index < queue.size,
    less (getElem queue (parent index) (by unfold parent; omega)) queue[index] = false

def IsHeap (less : α → α → Bool) (queue : Array α) : Prop := HeapBelow less queue queue.size

/-- `std::push_heap`'s walk from `hole` to the front. -/
def siftUp (less : α → α → Bool) (queue : Array α) (hole : Nat) (bound : hole < queue.size) :
    Array α :=
  if front : hole = 0 then queue
  else if less (getElem queue (parent hole) (by unfold parent; omega)) queue[hole] then
    siftUp less (queue.swap (parent hole) hole (by unfold parent; omega) bound) (parent hole)
      (by rw [Array.size_swap]; unfold parent; omega)
  else queue
termination_by hole
decreasing_by unfold parent; omega

/-- `std::pop_heap`'s walk from `hole` to a leaf of the first `length` elements, always to
the better child, and back up. -/
def adjustHeap (less : α → α → Bool) (queue : Array α) (hole length : Nat)
    (inside : hole < length) (bound : length ≤ queue.size) : Array α :=
  if both : 2 * hole + 2 < length then
    if less queue[2 * hole + 2] queue[2 * hole + 1] then
      adjustHeap less (queue.swap hole (2 * hole + 1)) (2 * hole + 1) length (by omega)
        (by rw [Array.size_swap]; exact bound)
    else
      adjustHeap less (queue.swap hole (2 * hole + 2)) (2 * hole + 2) length both
        (by rw [Array.size_swap]; exact bound)
  else if one : 2 * hole + 2 = length then
    siftUp less (queue.swap hole (2 * hole + 1)) (2 * hole + 1) (by rw [Array.size_swap]; omega)
  else siftUp less queue hole (by omega)
termination_by length - hole

def pushHeap (less : α → α → Bool) (queue : Array α) (length : Nat) : Array α :=
  if bound : length - 1 < queue.size then siftUp less queue (length - 1) bound else queue

def popHeap (less : α → α → Bool) (queue : Array α) : Array α :=
  if several : 1 < queue.size then
    adjustHeap less (queue.swap 0 (queue.size - 1)) 0 (queue.size - 1) (by omega)
      (by rw [Array.size_swap]; omega)
  else queue

/-- The array is a heap but for the element at `hole`, which may outrank its ancestors. -/
structure UpReady (less : α → α → Bool) (queue : Array α) (hole length : Nat) : Prop where
  others : ∀ index, 0 < index → index < length → index ≠ hole → ∀ bound : index < queue.size,
    less (getElem queue (parent index) (by unfold parent; omega)) queue[index] = false
  grand : ∀ index, 0 < hole → 0 < index → index < length → parent index = hole →
    ∀ (bound : index < queue.size) (holeBound : hole < queue.size),
    less (getElem queue (parent hole) (by unfold parent; omega)) queue[index] = false

theorem UpReady.swap {less : α → α → Bool} (weak : StrictWeak less) {queue : Array α}
    {hole length : Nat} (ready : UpReady less queue hole length) (bound : hole < queue.size)
    (inside : hole < length) (positive : hole ≠ 0)
    (outranks : less (getElem queue (parent hole) (by unfold parent; omega)) queue[hole] = true) :
    UpReady less (queue.swap (parent hole) hole (by unfold parent; omega) bound)
      (parent hole) length := by
  have parentBelow : parent hole < hole := by unfold parent; omega
  constructor
  · intro index indexPositive indexInside different indexBound
    rw [Array.size_swap] at indexBound
    simp only [Array.getElem_swap, if_neg different]
    by_cases atHole : index = hole
    · subst atHole
      simp only [if_true]
      exact weak.asymm _ _ outranks
    · rw [if_neg atHole]
      by_cases underParent : parent index = parent hole
      · have sibling := ready.others index indexPositive indexInside atHole indexBound
        simp only [underParent, if_true] at sibling ⊢
        exact weak.not_less_of_less outranks sibling
      · rw [if_neg underParent]
        by_cases underHole : parent index = hole
        · rw [if_pos underHole]
          exact ready.grand index (by omega) indexPositive indexInside underHole indexBound bound
        · rw [if_neg underHole]
          exact ready.others index indexPositive indexInside atHole indexBound
  · intro index parentPositive indexPositive indexInside under indexBound parentBound
    rw [Array.size_swap] at indexBound
    have above : parent (parent hole) < parent hole := by
      generalize parent hole = middle at parentPositive
      simp only [parent]
      omega
    have aboveOk := ready.others (parent hole) parentPositive (by omega) (by omega) (by omega)
    have differentParent : index ≠ parent hole := by
      intro same
      rw [same] at under
      omega
    simp only [Array.getElem_swap, if_neg (Nat.ne_of_lt above),
      if_neg (show parent (parent hole) ≠ hole by omega), if_neg differentParent]
    by_cases atHole : index = hole
    · rw [if_pos atHole]
      exact aboveOk
    · rw [if_neg atHole]
      have sibling := ready.others index indexPositive indexInside atHole indexBound
      simp only [under] at sibling
      exact weak.negTrans _ _ _ aboveOk sibling

theorem UpReady.done {less : α → α → Bool} {queue : Array α} {hole length : Nat}
    (ready : UpReady less queue hole length) (bound : hole < queue.size)
    (settled : hole = 0 ∨ less (getElem queue (parent hole) (by unfold parent; omega)) queue[hole] = false) :
    HeapBelow less queue length := by
  intro index positive inside indexBound
  by_cases atHole : index = hole
  · subst atHole
    rcases settled with front | settled
    · omega
    · exact settled
  · exact ready.others index positive inside atHole indexBound

theorem siftUp_heap {less : α → α → Bool} (weak : StrictWeak less) {queue : Array α}
    {hole length : Nat} (bound : hole < queue.size) (inside : hole < length)
    (ready : UpReady less queue hole length) :
    HeapBelow less (siftUp less queue hole bound) length := by
  fun_induction siftUp less queue hole bound with
  | case1 queue bound => exact ready.done bound (Or.inl rfl)
  | case2 queue hole bound positive outranks ih =>
      have parentBelow : parent hole < hole := by unfold parent; omega
      exact ih (by omega) (ready.swap weak bound inside positive outranks)
  | case3 queue hole bound positive settled =>
      exact ready.done bound (Or.inr (by simpa using settled))

theorem siftUp_perm (less : α → α → Bool) (queue : Array α) (hole : Nat)
    (bound : hole < queue.size) : (siftUp less queue hole bound).Perm queue := by
  fun_induction siftUp less queue hole bound with
  | case1 => exact Array.Perm.rfl
  | case2 queue hole bound positive outranks ih => exact ih.trans (Array.swap_perm _ _)
  | case3 => exact Array.Perm.rfl

theorem siftUp_get {less : α → α → Bool} {queue : Array α} {hole : Nat}
    (bound : hole < queue.size) {index : Nat} (behind : hole < index) :
    (siftUp less queue hole bound)[index]? = queue[index]? := by
  fun_induction siftUp less queue hole bound with
  | case1 => rfl
  | case2 queue hole bound positive outranks ih =>
      have parentBelow : parent hole < hole := by unfold parent; omega
      rw [ih (by omega)]
      simp only [Array.getElem?_swap, if_neg (show hole ≠ index by omega),
        if_neg (show parent hole ≠ index by omega)]
  | case3 => rfl

/-- The array is a heap but for the element at `hole`, which may rank anywhere. -/
structure DownReady (less : α → α → Bool) (queue : Array α) (hole length : Nat) : Prop where
  others : ∀ index, 0 < index → index < length → index ≠ hole → parent index ≠ hole →
    ∀ bound : index < queue.size,
    less (getElem queue (parent index) (by unfold parent; omega)) queue[index] = false
  grand : ∀ index, 0 < hole → 0 < index → index < length → parent index = hole →
    ∀ (bound : index < queue.size) (holeBound : hole < queue.size),
    less (getElem queue (parent hole) (by unfold parent; omega)) queue[index] = false

theorem DownReady.atLeaf {less : α → α → Bool} {queue : Array α} {hole length : Nat}
    (ready : DownReady less queue hole length) (leaf : length < 2 * hole + 2) :
    UpReady less queue hole length := by
  constructor
  · intro index positive inside different bound
    exact ready.others index positive inside different (by unfold parent; omega) bound
  · exact ready.grand

theorem DownReady.swap {less : α → α → Bool} {queue : Array α} {hole child length : Nat}
    (ready : DownReady less queue hole length) (inside : child < length)
    (bound : length ≤ queue.size) (positive : 0 < child) (under : parent child = hole)
    (best : ∀ index, 0 < index → index < length → parent index = hole → index ≠ child →
      ∀ indexBound : index < queue.size, less queue[child] queue[index] = false) :
    DownReady less (queue.swap hole child (by subst under; unfold parent; omega) (by omega))
      child length := by
  have holeBelow : hole < child := by subst under; unfold parent; omega
  constructor
  · intro index indexPositive indexInside different notUnder indexBound
    rw [Array.size_swap] at indexBound
    simp only [Array.getElem_swap, if_neg different, if_neg notUnder]
    by_cases atHole : index = hole
    · subst atHole
      have above : parent index ≠ index := by unfold parent; omega
      simp only [if_true, if_neg above]
      exact ready.grand child indexPositive positive inside under (by omega) (by omega)
    · rw [if_neg atHole]
      by_cases sibling : parent index = hole
      · rw [if_pos sibling]
        exact best index indexPositive indexInside sibling different indexBound
      · rw [if_neg sibling]
        exact ready.others index indexPositive indexInside atHole sibling indexBound
  · intro index _ indexPositive indexInside indexUnder indexBound childBound
    rw [Array.size_swap] at indexBound
    have below : child < index := by
      subst indexUnder
      simp only [parent]
      omega
    have kept := ready.others index indexPositive indexInside (by omega) (by omega) indexBound
    simp only [indexUnder] at kept
    simp only [Array.getElem_swap, under, if_true, if_neg (show index ≠ hole by omega),
      if_neg (show index ≠ child by omega)]
    exact kept

theorem adjustHeap_heap {less : α → α → Bool} (weak : StrictWeak less) {queue : Array α}
    {hole length : Nat} (inside : hole < length) (bound : length ≤ queue.size)
    (ready : DownReady less queue hole length) :
    HeapBelow less (adjustHeap less queue hole length inside bound) length := by
  fun_induction adjustHeap less queue hole length inside bound with
  | case1 queue hole inside bound both right ih =>
      apply ih
      apply ready.swap (by omega) bound (by omega) (by unfold parent; omega)
      intro index positive indexInside under different indexBound
      have isRight : index = 2 * hole + 2 := by
        simp only [parent] at under
        omega
      subst isRight
      exact weak.asymm _ _ right
  | case2 queue hole inside bound both right ih =>
      apply ih
      apply ready.swap both bound (by omega) (by unfold parent; omega)
      intro index positive indexInside under different indexBound
      have isLeft : index = 2 * hole + 1 := by
        simp only [parent] at under
        omega
      subst isLeft
      simpa using right
  | case3 queue hole inside bound both one =>
      apply siftUp_heap weak _ (by omega)
      apply DownReady.atLeaf _ (by omega)
      apply ready.swap (by omega) bound (by omega) (by unfold parent; omega)
      intro index positive indexInside under different indexBound
      simp only [parent] at under
      omega
  | case4 queue hole inside bound both one =>
      exact siftUp_heap weak _ inside (ready.atLeaf (by omega))

theorem adjustHeap_perm (less : α → α → Bool) (queue : Array α) (hole length : Nat)
    (inside : hole < length) (bound : length ≤ queue.size) :
    (adjustHeap less queue hole length inside bound).Perm queue := by
  fun_induction adjustHeap less queue hole length inside bound with
  | case1 queue hole inside bound both right ih => exact ih.trans (Array.swap_perm _ _)
  | case2 queue hole inside bound both right ih => exact ih.trans (Array.swap_perm _ _)
  | case3 => exact (siftUp_perm ..).trans (Array.swap_perm _ _)
  | case4 => exact siftUp_perm ..

theorem adjustHeap_get {less : α → α → Bool} {queue : Array α} {hole length : Nat}
    (inside : hole < length) (bound : length ≤ queue.size) {index : Nat} (behind : length ≤ index) :
    (adjustHeap less queue hole length inside bound)[index]? = queue[index]? := by
  fun_induction adjustHeap less queue hole length inside bound with
  | case1 queue hole inside bound both right ih =>
      rw [ih]
      simp only [Array.getElem?_swap, if_neg (show hole ≠ index by omega),
        if_neg (show 2 * hole + 1 ≠ index by omega)]
  | case2 queue hole inside bound both right ih =>
      rw [ih]
      simp only [Array.getElem?_swap, if_neg (show hole ≠ index by omega),
        if_neg (show 2 * hole + 2 ≠ index by omega)]
  | case3 queue hole inside bound both one =>
      rw [siftUp_get _ (by omega)]
      simp only [Array.getElem?_swap, if_neg (show hole ≠ index by omega),
        if_neg (show 2 * hole + 1 ≠ index by omega)]
  | case4 => exact siftUp_get _ (by omega)

theorem IsHeap.front_best {less : α → α → Bool} (weak : StrictWeak less) {queue : Array α}
    (heap : IsHeap less queue) (index : Nat) (bound : index < queue.size) :
    less queue[0] queue[index] = false := by
  induction index using Nat.strongRecOn with
  | ind index ih =>
      by_cases front : index = 0
      · subst front
        exact weak.irrefl _
      · have above := ih (parent index) (by unfold parent; omega) (by unfold parent; omega)
        exact weak.negTrans _ _ _ above (heap index (by omega) bound bound)

theorem IsHeap.congr {less other : α → α → Bool} {queue : Array α} (heap : IsHeap less queue)
    (agree : ∀ a ∈ queue, ∀ b ∈ queue, other a b = less a b) : IsHeap other queue := by
  intro index positive inside bound
  rw [agree _ (Array.getElem_mem _) _ (Array.getElem_mem _)]
  exact heap index positive inside bound

theorem popHeap_perm (less : α → α → Bool) (queue : Array α) :
    (popHeap less queue).Perm queue := by
  simp only [popHeap]
  split
  · exact (adjustHeap_perm ..).trans (Array.swap_perm _ _)
  · exact Array.Perm.rfl

theorem popHeap_back (less : α → α → Bool) {queue : Array α} (nonempty : 0 < queue.size) :
    (popHeap less queue)[queue.size - 1]? = some queue[0] := by
  simp only [popHeap]
  split
  · rename_i several
    rw [adjustHeap_get _ _ (Nat.le_refl _)]
    simp only [Array.getElem?_swap, if_neg (show 0 ≠ queue.size - 1 by omega), if_true]
  · rename_i single
    have size : queue.size - 1 = 0 := by omega
    simp [size, nonempty]

/-- `pop_heap` and `pop_back` take out the front and leave a heap of the others. -/
theorem popHeap_pop {less : α → α → Bool} (weak : StrictWeak less) {queue : Array α}
    (heap : IsHeap less queue) (nonempty : 0 < queue.size) :
    IsHeap less (popHeap less queue).pop ∧
      (((popHeap less queue).pop).push queue[0]).Perm queue := by
  have sameSize := (popHeap_perm less queue).size_eq
  have front : HeapBelow less (popHeap less queue) (queue.size - 1) := by
    simp only [popHeap]
    split
    · rename_i several
      apply adjustHeap_heap weak
      constructor
      · intro index positive inside different notUnder bound
        rw [Array.size_swap] at bound
        simp only [Array.getElem_swap, if_neg different, if_neg notUnder,
          if_neg (show index ≠ queue.size - 1 by omega),
          if_neg (show parent index ≠ queue.size - 1 by unfold parent; omega)]
        exact heap index positive (by omega) (by omega)
      · intro index positive
        omega
    · intro index positive inside
      omega
  constructor
  · intro index positive inside bound
    rw [Array.size_pop, sameSize] at inside
    simp only [Array.getElem_pop]
    exact front index positive inside (by omega)
  · have back := popHeap_back less nonempty
    obtain ⟨rest, last, split⟩ := Array.eq_push_of_size_ne_zero
      (show (popHeap less queue).size ≠ 0 by omega)
    have restSize : rest.size = queue.size - 1 := by
      rw [← sameSize, split, Array.size_push, Nat.add_sub_cancel]
    have lastBest : last = queue[0] := by
      rw [split, ← restSize] at back
      simpa using back
    have whole := popHeap_perm less queue
    rw [split, lastBest] at whole
    rw [split, Array.pop_push]
    exact whole

theorem pushHeap_push {less : α → α → Bool} (weak : StrictWeak less) {queue : Array α}
    (heap : IsHeap less queue) (added : α) :
    IsHeap less (pushHeap less (queue.push added) (queue.size + 1)) ∧
      (pushHeap less (queue.push added) (queue.size + 1)).Perm (queue.push added) := by
  have inside : queue.size + 1 - 1 < (queue.push added).size := by simp
  have perm : (pushHeap less (queue.push added) (queue.size + 1)).Perm (queue.push added) := by
    rw [pushHeap, dif_pos inside]
    exact siftUp_perm ..
  refine ⟨?_, perm⟩
  have size := perm.size_eq
  rw [IsHeap, size, pushHeap, dif_pos inside]
  apply siftUp_heap weak _ (by simp)
  constructor
  · intro index positive indexInside different bound
    simp only [Array.size_push, Nat.add_sub_cancel] at indexInside different bound
    have parentInside : parent index < queue.size := by unfold parent; omega
    rw [Array.getElem_push_lt parentInside, Array.getElem_push_lt (by omega)]
    exact heap index positive (by omega) (by omega)
  · intro index _ positive indexInside under bound _
    simp only [Array.size_push, Nat.add_sub_cancel] at bound under
    simp only [parent] at under
    omega

/-- An element of a heap whose rank is raised over all others reaches the front when
`push_heap` runs on the elements up to it. -/
theorem pushHeap_raised {less raised : α → α → Bool} (weak : StrictWeak less)
    (weakRaised : StrictWeak raised) {queue : Array α} (heap : IsHeap less queue)
    {index : Nat} (bound : index < queue.size)
    (distinct : queue.toList.Nodup)
    (agree : ∀ a ∈ queue, ∀ b ∈ queue, a ≠ queue[index] → b ≠ queue[index] →
      raised a b = less a b)
    (best : ∀ a ∈ queue, a ≠ queue[index] → raised a queue[index] = true) :
    IsHeap raised (pushHeap raised queue (index + 1)) ∧
      (pushHeap raised queue (index + 1))[0]? = some queue[index] ∧
      (pushHeap raised queue (index + 1)).Perm queue := by
  have inside : index + 1 - 1 < queue.size := by omega
  have perm : (pushHeap raised queue (index + 1)).Perm queue := by
    rw [pushHeap, dif_pos inside]
    exact siftUp_perm ..
  have size := perm.size_eq
  have different : ∀ other (otherBound : other < queue.size), other ≠ index →
      queue[other] ≠ queue[index] := by
    intro other otherBound apart same
    have sameListed : getElem queue.toList other (by simpa using otherBound) =
        getElem queue.toList index (by simpa using bound) := by
      simpa only [Array.getElem_toList] using same
    exact apart ((List.Nodup.getElem_inj_iff distinct).mp sameListed)
  have below : ∀ other (otherBound : other < queue.size),
      raised queue[index] queue[other] = false := by
    intro other otherBound
    by_cases same : queue[other] = queue[index]
    · rw [same]
      exact weakRaised.irrefl _
    · exact weakRaised.asymm _ _ (best _ (Array.getElem_mem _) same)
  have isHeap : IsHeap raised (pushHeap raised queue (index + 1)) := by
    rw [IsHeap, size, pushHeap, dif_pos inside]
    apply siftUp_heap weakRaised _ (by omega)
    constructor
    · intro other positive otherInside apart otherBound
      rw [Nat.add_sub_cancel] at apart
      by_cases atIndex : parent other = index
      · simp only [atIndex]
        exact below other otherBound
      · rw [agree _ (Array.getElem_mem _) _ (Array.getElem_mem _)
          (different _ (by unfold parent; omega) atIndex) (different _ otherBound apart)]
        exact heap other positive otherInside otherBound
    · intro other indexPositive positive otherInside under otherBound indexBound
      rw [Nat.add_sub_cancel] at indexPositive
      simp only [Nat.add_sub_cancel] at under ⊢
      have indexParent : parent index < index := by unfold parent; omega
      have childAbove : index < other := by subst under; unfold parent; omega
      rw [agree _ (Array.getElem_mem _) _ (Array.getElem_mem _)
        (different _ (by omega) (by omega)) (different _ otherBound (by omega))]
      have upper := heap index indexPositive bound bound
      have lower := heap other positive otherInside otherBound
      simp only [under] at lower
      exact weak.negTrans _ _ _ upper lower
  refine ⟨isHeap, ?_, perm⟩
  have nonempty : 0 < (pushHeap raised queue (index + 1)).size := by omega
  rw [Array.getElem?_eq_getElem nonempty]
  by_contra notFront
  have frontMember : (pushHeap raised queue (index + 1))[0] ∈ queue :=
    perm.mem_iff.mp (Array.getElem_mem _)
  have outranked := best _ frontMember (by simpa using notFront)
  have member : queue[index] ∈ pushHeap raised queue (index + 1) :=
    perm.mem_iff.mpr (Array.getElem_mem _)
  obtain ⟨place, placeBound, atPlace⟩ := Array.mem_iff_getElem.mp member
  have settled := isHeap.front_best weakRaised place placeBound
  rw [atPlace, outranked] at settled
  contradiction

end BinaryHeap
