import EasyViewer.Library.Ring
import Mathlib.Algebra.Order.Ring.Int
import Mathlib.Data.List.Basic

/-!
`SpeedCalculation`: a ring of twelve slots of 100 ms each, overwritten when a later slot
begins, over which `get` adds up the last second. The totals are words of 64 bits.
-/

namespace EasyViewer

structure SpeedNode where
  total : UInt64 := 0
  time : Int := 0
  deriving DecidableEq, Repr

/-- The nodes of `m_items`, linked in the order of their places. -/
structure SpeedCalculation where
  items : Nat → SpeedNode := fun _ => {}
  current : Nat := 0

inductive SpeedCall where
  | update (msec : Int) (value : UInt64)
  | get
  deriving DecidableEq, Repr

namespace SpeedCalculation

def numSlotPerSecond : Nat := 10

def numItems : Nat := numSlotPerSecond + 2

def msecsPerSlot : Int := 1000 / numSlotPerSecond

def convertTime (t : Int) : Int := t.tdiv msecsPerSlot

def update (speed : SpeedCalculation) (msec : Int) (value : UInt64) : SpeedCalculation :=
  let t := convertTime msec
  let moved :=
    if (speed.items speed.current).time ≠ t then
      let next := Ring.next numItems speed.current
      { items := Function.update speed.items next { total := 0, time := t }, current := next }
    else speed
  let node := moved.items moved.current
  { moved with
    items := Function.update moved.items moved.current
      { node with total := node.total + value } }

/-- The loop of `get`, cut off after so many passes. -/
def getLoop (speed : SpeedCalculation) (l : Int) : Nat → Nat → Int64 → Option Int64
  | 0, _, _ => none
  | passes + 1, p, ret =>
      if l < (speed.items p).time then
        let ret := ret + (speed.items p).total.toInt64
        let p := Ring.previous numItems p
        if p = speed.current then some ret else speed.getLoop l passes p ret
      else some ret

def get (speed : SpeedCalculation) : Option Int64 :=
  let l := (speed.items speed.current).time - convertTime 1000
  speed.getLoop l numItems speed.current 0

def answers : SpeedCalculation → List SpeedCall → List (Option Int64)
  | _, [] => []
  | speed, .update msec value :: calls => (speed.update msec value).answers calls
  | speed, .get :: calls => speed.get :: speed.answers calls

end SpeedCalculation

/-- All updates so far, the latest first. -/
abbrev SpeedHistory := List (Int × UInt64)

namespace SpeedHistory

open SpeedCalculation

def latestSlot : SpeedHistory → Int
  | [] => 0
  | (msec, _) :: _ => convertTime msec

/-- The values whose slot is one of the last ten up to that of the latest update. -/
def windowSum (history : SpeedHistory) : Nat :=
  ((history.filter fun entry =>
    latestSlot history - 10 < convertTime entry.1 ∧
      convertTime entry.1 ≤ latestSlot history).map fun entry => entry.2.toNat).sum

def windowSums : SpeedHistory → List SpeedCall → List Nat
  | _, [] => []
  | history, .update msec value :: calls => windowSums ((msec, value) :: history) calls
  | history, .get :: calls => history.windowSum :: windowSums history calls

end SpeedHistory

def TimesFrom : Int → List SpeedCall → Prop
  | _, [] => True
  | time, .update msec _ :: calls => time ≤ msec ∧ TimesFrom msec calls
  | time, .get :: calls => TimesFrom time calls

/-- What the slots hold when none is ever overwritten: their times and totals, the latest first. -/
def SpeedHistory.slots : SpeedHistory → List (Int × Nat)
  | [] => []
  | (msec, value) :: history =>
      match slots history with
      | [] => [(SpeedCalculation.convertTime msec, value.toNat)]
      | (time, total) :: rest =>
          if time = SpeedCalculation.convertTime msec then (time, total + value.toNat) :: rest
          else (SpeedCalculation.convertTime msec, value.toNat) :: (time, total) :: rest

namespace SpeedHistory

open SpeedCalculation

variable {history : SpeedHistory}

theorem slots_sum (history : SpeedHistory) (chosen : Int → Bool) :
    (((slots history).filter fun slot => chosen slot.1).map Prod.snd).sum =
      ((history.filter fun entry => chosen (convertTime entry.1)).map fun entry =>
        entry.2.toNat).sum := by
  induction history with
  | nil => rfl
  | cons entry history ih =>
      obtain ⟨msec, value⟩ := entry
      have one : (((msec, value) :: history).filter fun entry =>
          chosen (convertTime entry.1)).map (fun entry => entry.2.toNat) =
          (if chosen (convertTime msec) then [value.toNat] else []) ++
            (history.filter fun entry => chosen (convertTime entry.1)).map fun entry =>
              entry.2.toNat := by
        rw [List.filter_cons]
        split <;> rfl
      rw [one, List.sum_append, ← ih, slots]
      split
      · rename_i none
        rw [none, List.filter_cons]
        split <;> simp
      · rename_i time total rest first
        rw [first]
        split
        · rename_i same
          subst same
          simp only [List.filter_cons]
          split
          · simp only [List.map_cons, List.sum_cons, List.sum_nil]
            omega
          · simp
        · rw [List.filter_cons]
          split <;> simp

theorem slots_cons (msec : Int) (value : UInt64) (history : SpeedHistory) :
    ∃ total rest, slots ((msec, value) :: history) = (convertTime msec, total) :: rest := by
  simp only [slots]
  split
  · exact ⟨_, _, rfl⟩
  · split
    · rename_i same
      exact ⟨_, _, by rw [same]⟩
    · exact ⟨_, _, rfl⟩

/-- The updates were made in order, none of them in the first second. -/
structure InOrder (time : Int) (history : SpeedHistory) : Prop where
  late : 1000 ≤ time
  decreasing : (slots history).Pairwise fun later earlier => earlier.1 < later.1
  within : ∀ slot ∈ slots history, 10 ≤ slot.1 ∧ slot.1 ≤ convertTime time

theorem convertTime_mono {earlier later : Int} (start : 1000 ≤ earlier) (order : earlier ≤ later) :
    10 ≤ convertTime earlier ∧ convertTime earlier ≤ convertTime later := by
  have slot : msecsPerSlot = 100 := rfl
  simp only [convertTime, slot]
  rw [Int.tdiv_eq_ediv_of_nonneg (by omega), Int.tdiv_eq_ediv_of_nonneg (by omega)]
  omega

theorem InOrder.update {time msec : Int} (inOrder : InOrder time history) (order : time ≤ msec)
    (value : UInt64) : InOrder msec ((msec, value) :: history) := by
  obtain ⟨late, decreasing, within⟩ := inOrder
  obtain ⟨after, grows⟩ := convertTime_mono late order
  refine ⟨by omega, ?_, ?_⟩
  · simp only [slots]
    split
    · simp
    · rename_i oldTime total rest first
      rw [first] at decreasing within
      obtain ⟨below, others⟩ := List.pairwise_cons.mp decreasing
      have newest := within _ (List.mem_cons_self)
      split
      · exact List.pairwise_cons.mpr ⟨below, others⟩
      · refine List.pairwise_cons.mpr ⟨fun slot member => ?_, decreasing⟩
        have older := within slot member
        rcases List.mem_cons.mp member with rfl | inRest
        · simp only at older ⊢
          omega
        · have earlier := below slot inRest
          simp only at earlier newest ⊢
          omega
  · simp only [slots]
    split
    · intro slot member
      rw [List.mem_singleton.mp member]
      exact ⟨by simp only; omega, Int.le_refl _⟩
    · rename_i oldTime total rest first
      rw [first] at within
      split
      · intro slot member
        rcases List.mem_cons.mp member with rfl | inRest
        · have newest := within _ List.mem_cons_self
          simp only at newest ⊢
          omega
        · have older := within slot (List.mem_cons_of_mem _ inRest)
          omega
      · intro slot member
        rcases List.mem_cons.mp member with rfl | before
        · exact ⟨by simp only; omega, Int.le_refl _⟩
        · have older := within slot before
          omega

def node (slot : Int × Nat) : SpeedNode := { total := UInt64.ofNat slot.2, time := slot.1 }

/-- The ring shows the newest of the slots. -/
structure Shown (history : SpeedHistory) (speed : SpeedCalculation) : Prop where
  inside : speed.current < numItems
  shown : Ring.Shows numItems speed.items speed.current {} ((slots history).map node)

theorem Shown.initial : Shown [] {} where
  inside := by decide
  shown := by
    intro count few
    simp [slots]

theorem Shown.update {speed : SpeedCalculation} (ring : Shown history speed) {msec : Int}
    (late : 1000 ≤ msec) (value : UInt64) :
    Shown ((msec, value) :: history) (speed.update msec value) := by
  obtain ⟨inside, shown⟩ := ring
  have later := (convertTime_mono late (Int.le_refl msec)).1
  have current := shown 0 (by decide)
  simp only [Ring.back] at current
  -- a slot that begins is put on the next node, with nothing in it yet
  have begins : (speed.items speed.current).time ≠ convertTime msec →
      Ring.Shows numItems (speed.update msec value).items (speed.update msec value).current {}
        (node (convertTime msec, value.toNat) :: (slots history).map node) ∧
      (speed.update msec value).current < numItems := by
    intro other
    simp only [SpeedCalculation.update, if_pos other, Function.update_self, Function.update_idem,
      UInt64.zero_add, node, UInt64.ofNat_toNat]
    exact ⟨shown.push inside, Ring.next_lt inside⟩
  cases before : slots history with
  | nil =>
      obtain ⟨shownNext, insideNext⟩ := begins (by
        rw [current, before]
        simp only [List.map_nil, List.getD_nil]
        omega)
      have added : slots ((msec, value) :: history) = [(convertTime msec, value.toNat)] := by
        simp only [slots, before]
      rw [before] at shownNext
      refine ⟨insideNext, ?_⟩
      rw [added]
      exact shownNext
  | cons slot rest =>
      obtain ⟨time, total⟩ := slot
      rw [before] at current
      have newest : speed.items speed.current = node (time, total) := current
      by_cases same : time = convertTime msec
      · have stays : ¬ (speed.items speed.current).time ≠ convertTime msec := by
          rw [newest]
          exact not_not_intro same
        have added : slots ((msec, value) :: history) = (time, total + value.toNat) :: rest := by
          simp only [slots, before, if_pos same]
        have sum : UInt64.ofNat total + value = UInt64.ofNat (total + value.toNat) := by
          rw [UInt64.ofNat_add, UInt64.ofNat_toNat]
        have updated : speed.update msec value = { speed with
            items := Function.update speed.items speed.current
              (node (time, total + value.toNat)) } := by
          simp only [SpeedCalculation.update, if_neg stays]
          rw [newest]
          simp only [node, sum]
        rw [before] at shown
        rw [updated]
        refine ⟨inside, ?_⟩
        rw [added]
        exact shown.rewrite inside
      · obtain ⟨shownNext, insideNext⟩ := begins (by rw [newest]; exact same)
        have added : slots ((msec, value) :: history) =
            (convertTime msec, value.toNat) :: (time, total) :: rest := by
          simp only [slots, before, if_neg same]
        rw [before] at shownNext
        refine ⟨insideNext, ?_⟩
        rw [added]
        exact shownNext

def newestTotal (l : Int) : Nat → List (Int × Nat) → Nat
  | 0, _ => 0
  | _ + 1, [] => 0
  | passes + 1, (time, total) :: rest =>
      if l < time then total + newestTotal l passes rest else 0

theorem getLoop_eq {speed : SpeedCalculation} (inside : speed.current < numItems) (l : Int)
    (passes : Nat) {count : Nat} {slots : List (Int × Nat)} (sum : Nat)
    (left : count + passes = numItems) (more : 0 < passes)
    (shown : ∀ index, index < passes → speed.items
      (Ring.back numItems speed.current (count + index)) = (slots.map node).getD index {}) :
    speed.getLoop l passes (Ring.back numItems speed.current count) (Int64.ofNat sum) =
      some (Int64.ofNat (sum + newestTotal l passes slots)) := by
  induction passes generalizing count slots sum with
  | zero => omega
  | succ passes ih =>
      have here := shown 0 (by omega)
      rw [Nat.add_zero] at here
      have goesOn : ∀ tail after, (∀ index, index < passes → speed.items
          (Ring.back numItems speed.current (count + 1 + index)) =
            (List.map node tail).getD index {}) →
          (if Ring.back numItems speed.current (count + 1) = speed.current then
              some (Int64.ofNat after)
            else speed.getLoop l passes (Ring.back numItems speed.current (count + 1))
              (Int64.ofNat after)) = some (Int64.ofNat (after + newestTotal l passes tail)) := by
        intro tail after shownTail
        by_cases last : passes = 0
        · subst last
          have whole : count + 1 = numItems := left
          rw [whole, if_pos (Ring.back_self inside)]
          rfl
        · rw [if_neg (Ring.back_ne inside (by omega) (by omega))]
          exact ih after (by omega) (by omega) shownTail
      simp only [SpeedCalculation.getLoop, here]
      cases slots with
      | nil =>
          have nothing : newestTotal l passes [] = 0 := by cases passes <;> rfl
          have rest := goesOn [] sum fun index bound => by
            rw [Nat.add_assoc, Nat.add_comm 1 index]
            exact shown (index + 1) (by omega)
          rw [nothing] at rest
          simp only [List.map_nil, List.getD_nil, newestTotal]
          split
          · have zero : Int64.ofNat sum + (0 : UInt64).toInt64 = Int64.ofNat sum := by simp
            rw [zero]
            exact rest
          · rfl
      | cons slot tail =>
          obtain ⟨time, total⟩ := slot
          have rest := goesOn tail (sum + total) fun index bound => by
            rw [Nat.add_assoc, Nat.add_comm 1 index]
            exact shown (index + 1) (by omega)
          simp only [List.map_cons, List.getD_cons_zero, node, newestTotal]
          split
          · have added : Int64.ofNat sum + (UInt64.ofNat total).toInt64 =
                Int64.ofNat (sum + total) := by
              rw [Int64.ofNat_add]
              rfl
            rw [added, ← Nat.add_assoc]
            exact rest
          · rfl

theorem newestTotal_eq (l : Int) (passes : Nat) {slots : List (Int × Nat)}
    (decreasing : slots.Pairwise fun later earlier => earlier.1 < later.1)
    (few : ∀ slot ∈ slots, slot.1 ≤ l + passes) :
    newestTotal l passes slots =
      ((slots.filter fun slot => l < slot.1).map Prod.snd).sum := by
  induction passes generalizing slots with
  | zero =>
      have none : (slots.filter fun slot => l < slot.1) = [] := by
        rw [List.filter_eq_nil_iff]
        intro slot member
        have bound := few slot member
        simp only [decide_eq_true_eq]
        omega
      rw [none]
      rfl
  | succ passes ih =>
      cases slots with
      | nil => rfl
      | cons slot rest =>
          obtain ⟨time, total⟩ := slot
          obtain ⟨below, others⟩ := List.pairwise_cons.mp decreasing
          have bound := few _ List.mem_cons_self
          simp only at below bound
          rw [newestTotal, List.filter_cons]
          split
          · rename_i inside
            rw [if_pos (decide_eq_true inside), List.map_cons, List.sum_cons, ih others]
            intro earlier member
            have before := below earlier member
            omega
          · rename_i outside
            have none : (rest.filter fun slot => l < slot.1) = [] := by
              rw [List.filter_eq_nil_iff]
              intro earlier member
              have before := below earlier member
              simp only [decide_eq_true_eq]
              omega
            rw [if_neg (by simpa using outside), none]
            rfl

theorem InOrder.latestSlot_le {time : Int} (inOrder : InOrder time history) :
    ∀ slot ∈ slots history, slot.1 ≤ latestSlot history := by
  intro slot member
  cases history with
  | nil => contradiction
  | cons entry history =>
      obtain ⟨msec, value⟩ := entry
      obtain ⟨total, rest, first⟩ := slots_cons msec value history
      have decreasing := inOrder.decreasing
      rw [first] at member decreasing
      rcases List.mem_cons.mp member with rfl | older
      · exact Int.le_refl _
      · exact Int.le_of_lt ((List.pairwise_cons.mp decreasing).1 slot older)

/-- What a walk over the ring adds up is the sum over the window. -/
theorem Shown.get {time : Int} {speed : SpeedCalculation} (ring : Shown history speed)
    (inOrder : InOrder time history) :
    speed.get = some (Int64.ofNat history.windowSum) := by
  have newest := ring.shown 0 (by decide)
  simp only [Ring.back] at newest
  have current : (speed.items speed.current).time = latestSlot history := by
    rw [newest]
    cases history with
    | nil => rfl
    | cons entry history =>
        obtain ⟨msec, value⟩ := entry
        obtain ⟨total, rest, first⟩ := slots_cons msec value history
        rw [first]
        rfl
  have second : convertTime 1000 = 10 := rfl
  have bounded : ∀ slot ∈ slots history, slot.1 ≤ latestSlot history - 10 + numItems := by
    intro slot member
    have atMost := inOrder.latestSlot_le slot member
    have twelve : (numItems : Int) = 12 := rfl
    omega
  have walked : speed.getLoop (latestSlot history - 10) numItems
      (Ring.back numItems speed.current 0) (Int64.ofNat 0) = _ :=
    getLoop_eq ring.inside (latestSlot history - 10) numItems 0
    (by rfl) (by decide) fun index bound => by
      rw [Nat.zero_add]
      exact ring.shown index bound
  rw [newestTotal_eq _ numItems inOrder.decreasing bounded, Nat.zero_add] at walked
  have chosen : ((slots history).filter fun slot => latestSlot history - 10 < slot.1) =
      (slots history).filter fun slot => decide (latestSlot history - 10 < slot.1 ∧
        slot.1 ≤ latestSlot history) := by
    refine List.filter_congr fun slot member => ?_
    have atMost := inOrder.latestSlot_le slot member
    simp [atMost]
  rw [chosen, slots_sum history fun slot =>
    decide (latestSlot history - 10 < slot ∧ slot ≤ latestSlot history)] at walked
  simp only [SpeedCalculation.get, current, second]
  exact walked

theorem InOrder.initial : InOrder 1000 [] where
  late := Int.le_refl 1000
  decreasing := List.Pairwise.nil
  within := fun _ member => nomatch member

theorem Shown.answers {time : Int} {speed : SpeedCalculation} (ring : Shown history speed)
    (inOrder : InOrder time history) {calls : List SpeedCall} (times : TimesFrom time calls) :
    (speed.answers calls).map (Option.map Int64.toInt) =
      (windowSums history calls).map fun sum : Nat => some (Int.bmod sum (2 ^ 64)) := by
  induction calls generalizing time history speed with
  | nil => rfl
  | cons call calls ih =>
      cases call with
      | update msec value =>
          obtain ⟨order, later⟩ := times
          have late : 1000 ≤ msec := by
            have start := inOrder.late
            omega
          exact ih (ring.update late value) (inOrder.update order value) later
      | get =>
          have sum := ring.get inOrder
          have returned : (Int64.ofNat history.windowSum).toInt =
              Int.bmod history.windowSum (2 ^ 64) := Int64.toInt_ofNat'
          rw [SpeedCalculation.answers, windowSums, List.map_cons, List.map_cons, sum,
            Option.map_some, returned, ih ring inOrder times]

end SpeedHistory

/-- Every `get` ends, and returns the sum over the window as a signed word of 64 bits. -/
theorem SpeedCalculation.answers_windowSums (calls : List SpeedCall)
    (times : TimesFrom 1000 calls) :
    (answers {} calls).map (Option.map Int64.toInt) =
      (SpeedHistory.windowSums [] calls).map fun sum : Nat => some (Int.bmod sum (2 ^ 64)) :=
  SpeedHistory.Shown.initial.answers SpeedHistory.InOrder.initial times

theorem SpeedCalculation.answers_windowSums_gaps :
    TimesFrom 1000 [.get, .update 1000 5, .update 1950 7, .get, .update 2049 1, .get,
      .update 90000 2, .get] ∧
    (answers {} [.get, .update 1000 5, .update 1950 7, .get, .update 2049 1, .get,
      .update 90000 2, .get]).map (Option.map Int64.toInt) =
      (SpeedHistory.windowSums [] [.get, .update 1000 5, .update 1950 7, .get, .update 2049 1,
        .get, .update 90000 2, .get]).map (fun sum : Nat => some (Int.bmod sum (2 ^ 64))) ∧
    SpeedHistory.windowSums [] [.get, .update 1000 5, .update 1950 7, .get, .update 2049 1,
      .get, .update 90000 2, .get] = [0, 12, 8, 2] := by
  have times : TimesFrom 1000 [.get, .update 1000 5, .update 1950 7, .get, .update 2049 1,
      .get, .update 90000 2, .get] := by
    simp [TimesFrom]
  exact ⟨times, SpeedCalculation.answers_windowSums _ times, by decide +kernel⟩

/-- From `2 ^ 63` on the sum does not fit in what `get` returns. -/
theorem SpeedCalculation.answers_wrap :
    TimesFrom 1000 [.update 1000 9223372036854775808, .get] ∧
    (answers {} [.update 1000 9223372036854775808, .get]).map (Option.map Int64.toInt) =
      [some (-9223372036854775808)] ∧
    SpeedHistory.windowSums [] [.update 1000 9223372036854775808, .get] =
      [9223372036854775808] := by
  refine ⟨by simp [TimesFrom], by decide +kernel, by decide +kernel⟩

end EasyViewer
