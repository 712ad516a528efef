import Mathlib.Data.List.TakeWhile

/-!
The roles of `Define.h`, the error codes of `Error.h` and the account record of
`Account.h`. Roles are 32-bit words; the low half says what is shared, the high half
on which side of it the connection stands.
-/

namespace EasyViewer

abbrev UserId := Int

/-- What `c_str()` gives to a reader of zero-terminated text. -/
def cStr (text : String) : String := String.ofList (text.toList.takeWhile fun char => char ≠ '\x00')

theorem cStr_eq_self {text : String} : cStr text = text ↔ '\x00' ∉ text.toList := by
  rw [cStr, ← String.toList_inj, String.toList_ofList, List.takeWhile_eq_self_iff]
  simp only [decide_eq_true_eq]
  constructor
  · exact fun plain listed => plain '\x00' listed rfl
  · rintro absent char listed rfl
    exact absent listed

structure Account where
  id : UserId := 0
  account : String := ""
  password : String := ""
  disabled : Bool := false
  deriving DecidableEq, Repr

inductive Kind where
  | screen
  | fileTransmission
  | terminal
  deriving DecidableEq, Repr

namespace Role

def screen : UInt32 := 1
def fileTransmission : UInt32 := 2
def terminal : UInt32 := 4
def flagGuard : UInt32 := 0x10000
def screenGuard : UInt32 := flagGuard ||| screen
def fileTransmissionGuard : UInt32 := flagGuard ||| fileTransmission
def terminalGuard : UInt32 := flagGuard ||| terminal
def flagVisitor : UInt32 := 0x20000
def screenVisitor : UInt32 := flagVisitor ||| screen
def fileTransmissionVisitor : UInt32 := flagVisitor ||| fileTransmission
def terminalVisitor : UInt32 := flagVisitor ||| terminal
def flagManager : UInt32 := 0x40000
def manager : UInt32 := flagManager ||| 0

def has (role flag : UInt32) : Bool := role &&& flag ≠ 0

def includes (role mask : UInt32) : Bool := role &&& mask = mask

end Role

namespace Kind

def all : List Kind := [.screen, .fileTransmission, .terminal]

def flag : Kind → UInt32
  | .screen => Role.screen
  | .fileTransmission => Role.fileTransmission
  | .terminal => Role.terminal

def guardRole : Kind → UInt32
  | .screen => Role.screenGuard
  | .fileTransmission => Role.fileTransmissionGuard
  | .terminal => Role.terminalGuard

def visitorRole : Kind → UInt32
  | .screen => Role.screenVisitor
  | .fileTransmission => Role.fileTransmissionVisitor
  | .terminal => Role.terminalVisitor

theorem mem_all (kind : Kind) : kind ∈ all := by
  cases kind <;> decide

theorem visitorRole_not_guard (kind : Kind) : Role.has kind.visitorRole Role.flagGuard = false := by
  cases kind <;> decide

theorem visitorRole_visitor (kind : Kind) : Role.has kind.visitorRole Role.flagVisitor = true := by
  cases kind <;> decide

end Kind

namespace Role

theorem has_of_includes {role mask flag : UInt32} (included : includes role mask = true)
    (part : mask &&& flag ≠ 0) : has role flag = true := by
  simp only [includes, decide_eq_true_eq] at included
  simp only [has, decide_eq_true_eq]
  intro none
  apply part
  calc
    mask &&& flag = (role &&& mask) &&& flag := by rw [included]
    _ = mask &&& (role &&& flag) := by
        rw [UInt32.and_comm role mask, UInt32.and_assoc]
    _ = 0 := by rw [none, UInt32.and_zero]

theorem guard_of_includes {role : UInt32} {kind : Kind}
    (included : includes role kind.guardRole = true) :
    has role flagGuard = true ∧ has role kind.flag = true := by
  constructor
  · exact has_of_includes included (by cases kind <;> decide)
  · exact has_of_includes included (by cases kind <;> decide)

end Role

namespace Err

def noError : Int := 0
def invalidParams : Int := 1
def accountNotExists : Int := 2
def passwordIncorrect : Int := 3
def repeatLogin : Int := 4
def connectFailed : Int := 5
def disconnected : Int := 6
def unsupported : Int := 7
def targetUnreachable : Int := 8
def timeout : Int := 9
def pathUnreachable : Int := 10
def operateFailed : Int := 11
def illegalData : Int := 12
def accountLocked : Int := 13
def accountDisabled : Int := 14
def ipAddressBlocked : Int := 15
def accountBlocked : Int := 16
def fileAlreadyExists : Int := 17
def fileNotExists : Int := 18
def endOfFile : Int := 19
def fileClosed : Int := 20
def unknow : Int := -1

end Err

def formatError (err : Int) : String :=
  if err = Err.noError then ""
  else if err = Err.invalidParams then "invalid params"
  else if err = Err.accountNotExists then "account not exists"
  else if err = Err.passwordIncorrect then "password incorrect"
  else if err = Err.repeatLogin then "repeat login"
  else if err = Err.connectFailed then "connect failed"
  else if err = Err.disconnected then "disconnected"
  else if err = Err.unsupported then "unsupported"
  else if err = Err.targetUnreachable then "target unreachable"
  else if err = Err.timeout then "timeout"
  else if err = Err.pathUnreachable then "path unreachable"
  else if err = Err.operateFailed then "operate failed"
  else if err = Err.unknow then "unknow"
  else if err = Err.illegalData then "illegal data"
  else if err = Err.accountLocked then "account locked"
  else if err = Err.accountDisabled then "account disabled"
  else if err = Err.ipAddressBlocked then "ip address blocked"
  else if err = Err.accountBlocked then "account blocked"
  else if err = Err.fileAlreadyExists then "file already exists"
  else if err = Err.fileNotExists then "file not exists"
  else if err = Err.endOfFile then "end of file"
  else if err = Err.fileClosed then "file closed"
  else ""

end EasyViewer
