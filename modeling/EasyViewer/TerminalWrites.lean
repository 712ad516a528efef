import EasyViewer.Define
import Mathlib.Algebra.Ring.Int.Defs
import Mathlib.Algebra.Ring.Nat
import Mathlib.Data.List.Basic

/-!
`TerminalManager::writeCommand` on its two platforms. A terminal takes what is written to it in
parts: the offset moves on with every part, and the number of bytes that is asked for has to
shrink with it.
-/

namespace EasyViewer

/-- Whether `Q_OS_WIN` is defined. -/
inductive TerminalPlatform where
  | windows
  | linux
  deriving DecidableEq, Repr

structure Terminal where
  id : String
  userId : UserId
  deriving DecidableEq, Repr

structure TerminalManager where
  items : List Terminal := []
  deriving DecidableEq, Repr

/-- What the calls of `WriteFile` or `write` come to, by their number: one fails, or takes up to
so many bytes. -/
abbrev WriteResults := Nat → Option Nat

def accepted (asked count : Nat) : Nat := if asked = 0 then 0 else max 1 (min count asked)

structure WriteCall where
  offset : Nat
  length : Nat
  deriving DecidableEq, Repr

structure Written where
  calls : List WriteCall := []
  delivered : List UInt8 := []
  failed : Bool := false
  deriving DecidableEq, Repr

namespace TerminalPlatform

/-- On Windows carriage returns are left out and put back before every line feed. -/
def translate : List UInt8 → List UInt8
  | [] => []
  | ch :: str =>
      if ch = 13 then translate str
      else if ch = 10 then 13 :: 10 :: translate str
      else ch :: translate str

def input : TerminalPlatform → List UInt8 → List UInt8
  | .windows, str => translate str
  | .linux, str => str

def buffer : TerminalPlatform → List UInt8 → List UInt8
  | .windows, str => translate str ++
      List.replicate (2 * str.length - (translate str).length) 0
  | .linux, str => str ++ [0]

def total (platform : TerminalPlatform) (str : List UInt8) : Int :=
  Int.bmod (platform.input str).length (2 ^ 32)

def asked (platform : TerminalPlatform) (str : List UInt8) (offset : Nat) : Nat :=
  match platform with
  | .windows => (platform.total str % 2 ^ 32).toNat
  | .linux => str.length - offset

def readBytes (platform : TerminalPlatform) (str : List UInt8) (beyond : Nat → UInt8)
    (offset length : Nat) : List UInt8 :=
  (List.range length).map fun index =>
    (platform.buffer str).getD (offset + index) (beyond (offset + index))

def writeLoop (platform : TerminalPlatform) (str : List UInt8) (beyond : Nat → UInt8)
    (results : WriteResults) : Nat → Nat → Written → Option Written
  | 0, _, _ => none
  | passes + 1, offset, written =>
      let length := platform.asked str offset
      let called := { written with
        calls := written.calls ++ [{ offset := offset, length := length : WriteCall }] }
      match results written.calls.length with
      | none => some { called with failed := true }
      | some count =>
          let l := accepted length count
          let taken := { called with
            delivered := called.delivered ++ platform.readBytes str beyond offset l }
          if ((offset + l : Nat) : Int) = platform.total str % 2 ^ 64 then some taken
          else platform.writeLoop str beyond results passes (offset + l) taken

end TerminalPlatform

structure CommandEffect where
  manager : TerminalManager
  written : Written := {}
  closed : List Terminal := []
  deriving DecidableEq, Repr

namespace TerminalManager

def find (manager : TerminalManager) (terminalId : String) : Option Terminal :=
  manager.items.find? fun item => item.id = terminalId

def closeTerminal (manager : TerminalManager) (terminalId : String) :
    TerminalManager × List Terminal :=
  match manager.find terminalId with
  | some item => ({ items := manager.items.filter fun item => item.id ≠ terminalId }, [item])
  | none => (manager, [])

def writeCommand (manager : TerminalManager) (platform : TerminalPlatform) (terminalId : String)
    (str : List UInt8) (beyond : Nat → UInt8) (results : WriteResults) (passes : Nat) :
    Option CommandEffect :=
  match manager.find terminalId with
  | none => some { manager := manager }
  | some item =>
      (platform.writeLoop str beyond results passes 0 {}).map fun written =>
        if written.failed then
          let (manager, closed) := manager.closeTerminal item.id
          { manager := manager, written := written, closed := closed }
        else { manager := manager, written := written }

def commanded (manager : TerminalManager) (platform : TerminalPlatform) (terminalId : String)
    (str : List UInt8) : List UInt8 :=
  match manager.find terminalId with
  | none => []
  | some _ => platform.input str

end TerminalManager

/-- Every call is given a part of the text, and what was taken is the text from its beginning:
all of it, unless a call failed. -/
structure Written.Once (text : List UInt8) (written : Written) : Prop where
  inside : ∀ call ∈ written.calls, call.offset + call.length ≤ text.length
  order : written.delivered <+: text
  whole : written.failed = false → written.delivered = text

/-- The first call fails, or takes the whole of the text. -/
def FirstTakesAll (text : List UInt8) (results : WriteResults) : Prop :=
  ∀ count, results 0 = some count → accepted text.length count = text.length

theorem accepted_le (asked count : Nat) : accepted asked count ≤ asked := by
  rw [accepted]
  split <;> omega

theorem accepted_pos {asked : Nat} (some : 0 < asked) (count : Nat) : 0 < accepted asked count := by
  rw [accepted]
  split <;> omega

namespace TerminalPlatform

theorem translate_length (str : List UInt8) : (translate str).length ≤ 2 * str.length := by
  induction str with
  | nil => exact Nat.le_refl _
  | cons ch str ih =>
      rw [translate]
      split
      · rw [List.length_cons]
        omega
      · split <;> simp only [List.length_cons] <;> omega

variable {platform : TerminalPlatform} {str : List UInt8}

theorem input_length (platform : TerminalPlatform) (str : List UInt8) :
    (platform.input str).length ≤ 2 * str.length := by
  cases platform with
  | windows => exact translate_length str
  | linux =>
      rw [input]
      omega

theorem total_eq (short : 2 * str.length < 2 ^ 31) (platform : TerminalPlatform) :
    platform.total str = (platform.input str).length := by
  have atMost := input_length platform str
  exact Int.bmod_eq_of_le (by omega) (by omega)

theorem buffer_prefix (platform : TerminalPlatform) (str : List UInt8) :
    platform.input str <+: platform.buffer str := by
  cases platform <;> exact List.prefix_append _ _

theorem readBytes_inside (beyond : Nat → UInt8) {offset length : Nat}
    (inside : offset + length ≤ (platform.input str).length) :
    platform.readBytes str beyond offset length =
      ((platform.input str).drop offset).take length := by
  obtain ⟨behind, whole⟩ := buffer_prefix platform str
  refine List.ext_getElem? fun index => ?_
  rw [readBytes, List.getElem?_map, List.getElem?_take, List.getElem?_drop]
  by_cases below : index < length
  · have here : offset + index < (platform.input str).length := by omega
    rw [List.getElem?_range below, if_pos below, Option.map_some, ← whole,
      List.getD_eq_getElem?_getD, List.getElem?_append_left here, List.getElem?_eq_getElem here,
      Option.getD_some]
  · rw [if_neg below, List.getElem?_eq_none (by simpa using below)]
    rfl

variable {beyond : Nat → UInt8} {results : WriteResults}

/-- On Linux what is asked for is what is left, and the loop ends with the text. -/
theorem writeLoop_linux (short : 2 * str.length < 2 ^ 31) (passes : Nat) {offset : Nat}
    {written : Written} (inside : offset ≤ str.length)
    (left : str.length - offset < passes)
    (calls : ∀ call ∈ written.calls, call.offset + call.length ≤ str.length)
    (delivered : written.delivered = str.take offset) (open' : written.failed = false) :
    ∃ result, writeLoop .linux str beyond results passes offset written = some result ∧
      result.Once str := by
  induction passes generalizing offset written with
  | zero => omega
  | succ passes ih =>
      have calls' : ∀ call ∈ written.calls ++
          [{ offset := offset, length := str.length - offset }],
          call.offset + call.length ≤ str.length := by
        intro call member
        rcases List.mem_append.mp member with before | last
        · exact calls call before
        · rw [List.mem_singleton.mp last]
          simp only
          omega
      have ends := total_eq short .linux
      simp only [input] at ends
      rw [writeLoop]
      simp only [asked, ends]
      cases results written.calls.length with
      | none =>
          refine ⟨_, rfl, calls', ?_, fun went => by simp at went⟩
          simp only [delivered]
          exact List.take_prefix _ _
      | some count =>
          have atMost := accepted_le (str.length - offset) count
          have taken : written.delivered ++ TerminalPlatform.linux.readBytes str beyond offset
              (accepted (str.length - offset) count) =
              str.take (offset + accepted (str.length - offset) count) := by
            rw [delivered, readBytes_inside beyond (by rw [input]; omega), input, List.take_add]
          simp only
          split
          · rename_i all
            have whole : offset + accepted (str.length - offset) count = str.length := by omega
            have text : written.delivered ++ TerminalPlatform.linux.readBytes str beyond offset
                (accepted (str.length - offset) count) = str := by
              rw [taken, whole, List.take_length]
            refine ⟨_, rfl, calls', ?_, fun _ => text⟩
            simp only [text]
            exact List.prefix_refl str
          · rename_i more
            have some : 0 < str.length - offset := by
              by_contra nothing
              have zero : accepted (str.length - offset) count = 0 := by
                rw [accepted, if_pos (by omega)]
              omega
            have least := accepted_pos some count
            exact ih (by omega) (by omega) calls' taken open'

theorem writeLoop_calls {passes offset : Nat} {written result : Written}
    (looped : platform.writeLoop str beyond results passes offset written = some result) :
    ∀ call ∈ written.calls, call ∈ result.calls := by
  induction passes generalizing offset written with
  | zero => contradiction
  | succ passes ih =>
      intro call member
      rw [writeLoop] at looped
      have kept : call ∈ written.calls ++
          [{ offset := offset, length := platform.asked str offset }] :=
        List.mem_append_left _ member
      cases answer : results written.calls.length with
      | none =>
          simp only [answer, Option.some.injEq] at looped
          rw [← looped]
          exact kept
      | some count =>
          simp only [answer] at looped
          split at looped
          · rw [← Option.some.inj looped]
            exact kept
          · exact ih looped call kept

theorem writeLoop_last {passes offset : Nat} {written result : Written}
    (looped : platform.writeLoop str beyond results passes offset written = some result) :
    { offset := offset, length := platform.asked str offset } ∈ result.calls := by
  cases passes with
  | zero => contradiction
  | succ passes =>
      rw [writeLoop] at looped
      cases answer : results written.calls.length with
      | none =>
          simp only [answer, Option.some.injEq] at looped
          rw [← looped]
          exact List.mem_append_right _ (List.mem_singleton_self _)
      | some count =>
          simp only [answer] at looped
          split at looped
          · rw [← Option.some.inj looped]
            exact List.mem_append_right _ (List.mem_singleton_self _)
          · exact writeLoop_calls looped _ (List.mem_append_right _ (List.mem_singleton_self _))

theorem asked_windows (short : 2 * str.length < 2 ^ 31) (offset : Nat) :
    TerminalPlatform.windows.asked str offset = (translate str).length := by
  have atMost := translate_length str
  rw [asked, total_eq short, input, Int.emod_eq_of_lt] <;> omega

/-- On Windows every call asks for the whole length, so that a second one reads too far. -/
theorem writeLoop_windows_iff (short : 2 * str.length < 2 ^ 31) :
    (∃ passes written, writeLoop .windows str beyond results passes 0 {} = some written ∧
      written.Once (translate str)) ↔ FirstTakesAll (translate str) results := by
  have ends := total_eq short .windows
  simp only [input] at ends
  constructor
  · rintro ⟨passes, written, looped, once⟩ count first
    by_contra part
    have atMost := accepted_le (translate str).length count
    have doubled := translate_length str
    have some : 0 < (translate str).length := by omega
    have least := accepted_pos some count
    cases passes with
    | zero => simp only [writeLoop, reduceCtorEq] at looped
    | succ passes =>
        simp only [writeLoop, List.length_nil, first, asked_windows short] at looped
        rw [if_neg (by rw [ends]; omega)] at looped
        have second := once.inside _ (writeLoop_last looped)
        rw [asked_windows short] at second
        simp only at second
        omega
  · intro takesAll
    have within : ∀ call ∈ [({ offset := 0, length := (translate str).length } : WriteCall)],
        call.offset + call.length ≤ (translate str).length := by
      intro call member
      rw [List.mem_singleton.mp member]
      exact Nat.le_of_eq (Nat.zero_add _)
    cases first : results 0 with
    | none =>
        refine ⟨1, {
          calls := [{ offset := 0, length := (translate str).length }]
          failed := true }, ?_, within, List.nil_prefix, Bool.noConfusion⟩
        simp only [writeLoop, List.length_nil, first, asked_windows short, List.nil_append]
    | some count =>
        refine ⟨1, {
          calls := [{ offset := 0, length := (translate str).length }]
          delivered := translate str }, ?_, within, List.prefix_refl _, fun _ => rfl⟩
        have text : TerminalPlatform.windows.readBytes str beyond 0 (translate str).length =
            translate str := by
          rw [readBytes_inside beyond (by rw [input]; omega), input, List.drop_zero,
            List.take_length]
        have whole : ((0 + (translate str).length : Nat) : Int) =
            TerminalPlatform.windows.total str % 2 ^ 64 := by
          have atMost := translate_length str
          rw [ends]
          omega
        simp only [writeLoop, List.length_nil, first, asked_windows short, takesAll count first,
          List.nil_append, text, if_pos whole]

end TerminalPlatform

namespace TerminalManager

variable {manager : TerminalManager} {platform : TerminalPlatform} {terminalId : String}
  {str : List UInt8} {beyond : Nat → UInt8} {results : WriteResults}

theorem find_id {item : Terminal} (found : manager.find terminalId = some item) :
    item.id = terminalId := by
  simpa using List.find?_some found

/-- A terminal is closed when a write to it failed, and then no other one is. -/
theorem writeCommand_closes {passes : Nat} {effect : CommandEffect}
    (wrote : manager.writeCommand platform terminalId str beyond results passes = some effect) :
    (effect.written.failed = false → effect.manager = manager ∧ effect.closed = []) ∧
      (effect.written.failed = true → effect.manager.find terminalId = none ∧
        (∃ item, manager.find terminalId = some item ∧ effect.closed = [item]) ∧
        ∀ other, other ≠ terminalId → effect.manager.find other = manager.find other) := by
  rw [writeCommand] at wrote
  cases found : manager.find terminalId with
  | none =>
      simp only [found, Option.some.injEq] at wrote
      subst wrote
      exact ⟨fun _ => ⟨rfl, rfl⟩, fun failed => by contradiction⟩
  | some item =>
      simp only [found, Option.map_eq_some_iff] at wrote
      obtain ⟨written, looped, rfl⟩ := wrote
      split
      · rename_i failed
        simp only [closeTerminal, find_id found, found]
        refine ⟨fun went => ?_, fun _ => ⟨?_, ⟨item, rfl, rfl⟩, fun other apart => ?_⟩⟩
        · rw [failed] at went
          contradiction
        · simp [find, List.find?_filter]
        · simp only [find, List.find?_filter]
          congr 1
          funext item
          by_cases this : item.id = other
          · simp [this, apart]
          · simp [this]
      · rename_i went
        exact ⟨fun _ => ⟨rfl, rfl⟩, fun failed => absurd failed went⟩

theorem writeCommand_known {item : Terminal} (found : manager.find terminalId = some item) :
    (∃ passes effect,
      manager.writeCommand platform terminalId str beyond results passes = some effect ∧
      effect.written.Once (manager.commanded platform terminalId str)) ↔
      ∃ passes written, platform.writeLoop str beyond results passes 0 {} = some written ∧
        written.Once (platform.input str) := by
  simp only [writeCommand, found, commanded, Option.map_eq_some_iff]
  constructor
  · rintro ⟨passes, _, ⟨written, looped, rfl⟩, once⟩
    refine ⟨passes, written, looped, ?_⟩
    split at once <;> exact once
  · rintro ⟨passes, written, looped, once⟩
    refine ⟨passes, _, ⟨written, looped, rfl⟩, ?_⟩
    split <;> exact once

/-- On Linux the text is always delivered once, and on Windows when no second call is made. -/
theorem writeCommand_once_iff (manager : TerminalManager) (platform : TerminalPlatform)
    (terminalId : String) (str : List UInt8) (beyond : Nat → UInt8) (results : WriteResults)
    (short : 2 * str.length < 2 ^ 31) :
    (∃ passes effect,
      manager.writeCommand platform terminalId str beyond results passes = some effect ∧
      effect.written.Once (manager.commanded platform terminalId str)) ↔
      (manager.find terminalId = none ∨ platform = .linux ∨
        FirstTakesAll (platform.input str) results) := by
  cases found : manager.find terminalId with
  | none =>
      refine iff_of_true ⟨0, { manager := manager }, ?_, ?_⟩ (.inl rfl)
      · simp only [writeCommand, found]
      · simp only [commanded, found]
        exact ⟨fun _ member => (List.not_mem_nil member).elim, List.nil_prefix, fun _ => rfl⟩
  | some item =>
      rw [writeCommand_known found]
      cases platform with
      | windows =>
          rw [TerminalPlatform.input, TerminalPlatform.writeLoop_windows_iff short]
          simp
      | linux =>
          refine iff_of_true ⟨str.length + 1, ?_⟩ (.inr (.inl rfl))
          exact TerminalPlatform.writeLoop_linux short (str.length + 1) (Nat.zero_le _) (by omega)
            (fun _ member => (List.not_mem_nil member).elim) rfl rfl

theorem writeCommand_once_iff_linux :
    2 * ([104, 105, 10] : List UInt8).length < 2 ^ 31 ∧
    ∃ passes effect,
      ({ items := [{ id := "1", userId := 7 }] } : TerminalManager).writeCommand .linux "1"
        [104, 105, 10] (fun _ => 0) (fun _ => some 1) passes = some effect ∧
      effect.written.Once [104, 105, 10] := by
  have short : 2 * ([104, 105, 10] : List UInt8).length < 2 ^ 31 := by decide
  exact ⟨short, (writeCommand_once_iff { items := [{ id := "1", userId := 7 }] } .linux "1"
    [104, 105, 10] (fun _ => 0) (fun _ => some 1) short).mpr (.inr (.inl rfl))⟩

/-- `hi` on Windows, of which the pipe takes the first byte: the second call asks for two bytes
more, of which one is not of the text. -/
theorem writeCommand_reads_beyond :
    ¬ ∃ passes effect,
      ({ items := [{ id := "1", userId := 7 }] } : TerminalManager).writeCommand .windows "1"
        [104, 105] (fun _ => 0) (fun call => some (if call = 0 then 1 else 2)) passes =
          some effect ∧
      effect.written.Once (({ items := [{ id := "1", userId := 7 }] } :
        TerminalManager).commanded .windows "1" [104, 105]) := by
  have found : ({ items := [{ id := "1", userId := 7 }] } : TerminalManager).find "1" =
      some { id := "1", userId := 7 } := by decide
  rw [writeCommand_known found, TerminalPlatform.input,
    TerminalPlatform.writeLoop_windows_iff (by decide)]
  intro takesAll
  have whole := takesAll 1 rfl
  contradiction

end TerminalManager

end EasyViewer
