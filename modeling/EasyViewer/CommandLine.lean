import EasyViewer.Library.Words
import EasyViewer.ManagerControl
import Mathlib.Data.List.TakeWhile

/-!
What the control program makes of a line that was typed at its prompt: `CommandExecutor::execute`
up to the call of the client.
-/

namespace EasyViewer

inductive Usage where
  | commands
  | user
  | blackList
  deriving DecidableEq, Repr

/-- What a line leads to: a call of the client, the end of the process, or lines of text, where a
`break` has the usage printed behind them. -/
inductive Execution where
  | ask (command : Command)
  | quit
  | printed (texts : List String) (usage : Option Usage)
  deriving DecidableEq, Repr

def isSpace (ch : Char) : Bool := ch = ' ' || ('\t' ≤ ch && ch ≤ '\r')

def readDigits (text : List Char) : Option Nat :=
  let digits := text.takeWhile Char.isDigit
  if digits = [] then none else some (Nat.ofDigitChars 10 digits 0)

/-- What `strtoul` and `strtoll` find at the beginning of a text. -/
def readNumber (text : List Char) : Option Int :=
  match text.dropWhile isSpace with
  | '-' :: rest => (readDigits rest).map fun (magnitude : Nat) => -(magnitude : Int)
  | '+' :: rest => (readDigits rest).map Int.ofNat
  | rest => (readDigits rest).map Int.ofNat

/-- A negative number is taken modulo the word, if it is none too long. -/
def stoul (text : String) : Option UInt64 :=
  (readNumber text.toList).bind fun number =>
    if number.natAbs < 2 ^ 64 then some (UInt64.ofInt number) else none

def stoll (text : String) : Option Int64 :=
  (readNumber text.toList).bind fun number =>
    if -2 ^ 63 ≤ number ∧ number < 2 ^ 63 then some (Int64.ofInt number) else none

namespace CommandExecutor

def unknown (arg : String) : String := "unknown commond " ++ arg

def executeAroundUser : List String → Execution
  | [] => .printed [] (some .user)
  | arg :: args =>
      if arg = "add" then
        match args with
        | [account, password] => .ask (.addAccount account password)
        | _ => .printed [] (some .user)
      else if arg = "list" then
        match args with
        | [] => .ask (.listAccount "")
        | [filter] => .ask (.listAccount filter)
        | _ => .printed [] (some .user)
      else if arg = "enable" then
        match args with
        | [account] => .ask (.enableAccount account)
        | _ => .printed [] (some .user)
      else if arg = "disable" then
        match args with
        | [account] => .ask (.disableAccount account)
        | _ => .printed [] (some .user)
      else if arg = "del" then
        match args with
        | [account] => .ask (.deleteAccount account)
        | _ => .printed [] (some .user)
      else if arg = "chpwd" then
        match args with
        | [account, password] => .ask (.changeAccountPassword account password)
        | _ => .printed [] (some .user)
      else .printed [unknown arg] (some .user)

def addBlockedIPAddress (ip duration : String) : Execution :=
  match stoul duration with
  | none => .printed ["invalid duration seconds"] (some .blackList)
  | some seconds => .ask (.addBlockedIPAddress ip seconds.toUInt32)

def addBlockedAccount (sid duration : String) : Execution :=
  match stoll sid with
  | none => .printed ["invalid user id"] (some .blackList)
  | some id =>
      match stoul duration with
      | none => .printed ["invalid duration seconds"] (some .blackList)
      | some seconds => .ask (.addBlockedAccount id seconds.toUInt32)

def removeBlockedAccount (sid : String) : Execution :=
  match stoll sid with
  | none => .printed ["invalid user id"] (some .blackList)
  | some id => .ask (.removeBlockedAccount id)

/-- An unknown operation is named, but no usage is printed behind it. -/
def executeAroundBlackList : List String → Execution
  | [] => .printed [] (some .blackList)
  | arg :: args =>
      if arg = "ip" then
        match args with
        | [] => .printed [] (some .blackList)
        | op :: args =>
            if op = "list" then
              match args with
              | [] => .ask .listBlockedIPAddresses
              | _ => .printed [] (some .blackList)
            else if op = "add" then
              match args with
              | [ip, duration] => addBlockedIPAddress ip duration
              | _ => .printed [] (some .blackList)
            else if op = "remove" then
              match args with
              | [ip] => .ask (.removeBlockedIPAddress ip)
              | _ => .printed [] (some .blackList)
            else .printed [unknown op] none
      else if arg = "user" then
        match args with
        | [] => .printed [] (some .blackList)
        | op :: args =>
            if op = "list" then
              match args with
              | [] => .ask .listBlockedAccounts
              | _ => .printed [] (some .blackList)
            else if op = "add" then
              match args with
              | [sid, duration] => addBlockedAccount sid duration
              | _ => .printed [] (some .blackList)
            else if op = "remove" then
              match args with
              | [sid] => removeBlockedAccount sid
              | _ => .printed [] (some .blackList)
            else .printed [unknown op] none
      else .printed [unknown arg] (some .blackList)

def executeArgs : List String → Execution
  | [] => .printed [] (some .commands)
  | arg :: args =>
      if arg = "user" then executeAroundUser args
      else if arg = "blacklist" then executeAroundBlackList args
      else if arg = "quit" then .quit
      else .printed [unknown arg] (some .commands)

def arguments (line : String) : List String :=
  (Words.words ' ' [] line.toList).map String.ofList

def execute (line : String) : Execution := executeArgs (arguments line)

end CommandExecutor

def Entered (line : String) : Prop := ∀ ch ∈ line.toList, ch ≠ '\n' ∧ ch ≠ '\x00'

/-- What can stand as a word on the line. -/
def IsWord (text : String) : Prop := text ≠ "" ∧ ' ' ∉ text.toList ∧ Entered text

namespace Command

/-- Names, passwords and addresses have to be words; a filter may be left out. -/
def Typable : Command → Prop
  | .listAccount filter => filter = "" ∨ IsWord filter
  | .addAccount account password => IsWord account ∧ IsWord password
  | .enableAccount account => IsWord account
  | .disableAccount account => IsWord account
  | .deleteAccount account => IsWord account
  | .changeAccountPassword account newPassword => IsWord account ∧ IsWord newPassword
  | .listBlockedIPAddresses => True
  | .removeBlockedIPAddress ip => IsWord ip
  | .addBlockedIPAddress ip _ => IsWord ip
  | .listBlockedAccounts => True
  | .removeBlockedAccount _ => True
  | .addBlockedAccount _ _ => True

def words : Command → List String
  | .listAccount filter => ["user", "list"] ++ if filter = "" then [] else [filter]
  | .addAccount account password => ["user", "add", account, password]
  | .enableAccount account => ["user", "enable", account]
  | .disableAccount account => ["user", "disable", account]
  | .deleteAccount account => ["user", "del", account]
  | .changeAccountPassword account newPassword => ["user", "chpwd", account, newPassword]
  | .listBlockedIPAddresses => ["blacklist", "ip", "list"]
  | .removeBlockedIPAddress ip => ["blacklist", "ip", "remove", ip]
  | .addBlockedIPAddress ip duration => ["blacklist", "ip", "add", ip, duration.toNat.repr]
  | .listBlockedAccounts => ["blacklist", "user", "list"]
  | .removeBlockedAccount userId => ["blacklist", "user", "remove", userId.toInt.repr]
  | .addBlockedAccount userId duration =>
      ["blacklist", "user", "add", userId.toInt.repr, duration.toNat.repr]

end Command

def typedLine (words : List String) : String :=
  String.ofList (Words.line ' ' (words.map String.toList))

theorem isWord_number {digits : List Char} (nonempty : digits ≠ [])
    (numeric : ∀ ch ∈ digits, ch.isDigit = true ∨ ch = '-') : IsWord (String.ofList digits) := by
  refine ⟨fun empty => nonempty (by simpa using empty), ?_, ?_⟩
  · rw [String.toList_ofList]
    intro blank
    rcases numeric ' ' blank with digit | minus
    · exact absurd digit (by decide)
    · exact absurd minus (by decide)
  · rw [Entered, String.toList_ofList]
    intro ch member
    rcases numeric ch member with digit | rfl
    · constructor
      · rintro rfl
        exact absurd digit (by decide)
      · rintro rfl
        exact absurd digit (by decide)
    · decide

theorem toDigits_digit {number : Nat} {ch : Char} (member : ch ∈ Nat.toDigits 10 number) :
    ch.isDigit = true := Nat.isDigit_of_mem_toDigits (by decide) (by decide) member

theorem isWord_nat (number : Nat) : IsWord number.repr := by
  rw [Nat.repr_eq_ofList_toDigits]
  exact isWord_number Nat.toDigits_ne_nil fun ch member => .inl (toDigits_digit member)

theorem repr_negSucc (number : Nat) :
    (Int.negSucc number).repr = String.ofList ('-' :: Nat.toDigits 10 (number + 1)) := by
  rw [Int.repr, String.ofList_cons, ← Nat.repr_eq_ofList_toDigits]
  rfl

theorem isWord_int (number : Int) : IsWord number.repr := by
  cases number with
  | ofNat magnitude => exact isWord_nat magnitude
  | negSucc magnitude =>
      rw [repr_negSucc]
      refine isWord_number (List.cons_ne_nil _ _) fun ch member => ?_
      rcases List.mem_cons.mp member with rfl | digit
      · exact .inr rfl
      · exact .inl (toDigits_digit digit)

theorem readDigits_toDigits (number : Nat) : readDigits (Nat.toDigits 10 number) = some number := by
  have all : (Nat.toDigits 10 number).takeWhile Char.isDigit = Nat.toDigits 10 number := by
    rw [List.takeWhile_eq_self_iff]
    exact fun _ => toDigits_digit
  rw [readDigits, all, if_neg Nat.toDigits_ne_nil, Nat.ofDigitChars_ten_toDigits]

theorem isSpace_digit {ch : Char} (digit : ch.isDigit = true) : isSpace ch = false := by
  rw [← Bool.not_eq_true]
  intro space
  simp only [isSpace, Bool.or_eq_true, Bool.and_eq_true, decide_eq_true_eq] at space
  simp only [Char.isDigit, Bool.and_eq_true, decide_eq_true_eq] at digit
  rcases space with rfl | ⟨_, most⟩
  · exact absurd digit.1 (by decide)
  · exact absurd (UInt32.le_trans digit.1 most) (by decide)

theorem readNumber_nat (number : Nat) :
    readNumber number.repr.toList = some (number : Int) := by
  rw [Nat.toList_repr]
  have read := readDigits_toDigits number
  cases digits : Nat.toDigits 10 number with
  | nil => exact absurd digits Nat.toDigits_ne_nil
  | cons first rest =>
      have digit : first.isDigit = true := toDigits_digit (digits ▸ List.mem_cons_self)
      rw [digits] at read
      rw [readNumber, List.dropWhile_cons_of_neg (by simp [isSpace_digit digit])]
      split
      · rename_i isMinus
        rw [(List.cons.inj isMinus).1] at digit
        exact absurd digit (by decide)
      · rename_i isPlus
        rw [(List.cons.inj isPlus).1] at digit
        exact absurd digit (by decide)
      · rw [read]
        rfl

theorem readNumber_int (number : Int) : readNumber number.repr.toList = some number := by
  cases number with
  | ofNat magnitude => exact readNumber_nat magnitude
  | negSucc magnitude =>
      rw [repr_negSucc, String.toList_ofList, readNumber,
        List.dropWhile_cons_of_neg (by decide)]
      show (readDigits (Nat.toDigits 10 (magnitude + 1))).map _ = _
      rw [readDigits_toDigits]
      rfl

theorem stoul_nat {number : Nat} (fits : number < 2 ^ 64) :
    stoul number.repr = some (UInt64.ofNat number) := by
  have same : ((number : Int) % 2 ^ 64).toNat = number := by omega
  rw [stoul, readNumber_nat, Option.bind_some, if_pos (by simpa using fits), UInt64.ofInt, same]

theorem toUInt32_ofNat {number : Nat} (fits : number < 2 ^ 64) :
    (UInt64.ofNat number).toUInt32 = UInt32.ofNat number := by
  rw [← UInt32.toNat_inj, UInt64.toNat_toUInt32, UInt64.toNat_ofNat_of_lt' fits,
    UInt32.toNat_ofNat']

theorem stoll_int (number : Int64) : stoll number.toInt.repr = some number := by
  have least := number.le_toInt
  have most := number.toInt_lt
  rw [stoll, readNumber_int, Option.bind_some, if_pos ⟨least, most⟩, Int64.ofInt_toInt]

namespace CommandExecutor

theorem arguments_typedLine {words : List String} (typed : ∀ word ∈ words, IsWord word) :
    arguments (typedLine words) = words := by
  rw [arguments, typedLine, String.toList_ofList, Words.words_line, List.map_map]
  · have back : (String.ofList ∘ String.toList) = id := by
      funext text
      exact String.ofList_toList
    rw [back, List.map_id]
  · intro word member
    obtain ⟨text, among, rfl⟩ := List.mem_map.mp member
    exact ⟨fun empty => (typed text among).1 (String.toList_eq_nil_iff.mp empty), (typed text among).2.1⟩

theorem arguments_isWord {line word : String} (entered : Entered line)
    (member : word ∈ arguments line) : IsWord word := by
  obtain ⟨found, among, rfl⟩ := List.mem_map.mp member
  obtain ⟨nonempty, own⟩ := Words.mem_words List.not_mem_nil among
  rw [IsWord, Entered, String.toList_ofList]
  refine ⟨fun empty => nonempty (by simpa using empty), fun blank => (own _ blank).1 rfl, ?_⟩
  exact fun ch inWord => entered ch ((own ch inWord).2.resolve_left List.not_mem_nil)

theorem executeAroundUser_typable {args : List String} {command : Command}
    (typed : ∀ word ∈ args, IsWord word) (asked : executeAroundUser args = .ask command) :
    command.Typable := by
  revert asked
  fun_cases executeAroundUser args
  all_goals
    intro asked
    cases asked
  all_goals simp only [Command.Typable]
  all_goals simp_all

theorem addBlockedIPAddress_typable {ip duration : String} {command : Command} (typed : IsWord ip)
    (asked : addBlockedIPAddress ip duration = .ask command) : command.Typable := by
  rw [addBlockedIPAddress] at asked
  split at asked
  · cases asked
  · cases asked
    exact typed

theorem addBlockedAccount_typable {sid duration : String} {command : Command}
    (asked : addBlockedAccount sid duration = .ask command) : command.Typable := by
  rw [addBlockedAccount] at asked
  split at asked
  · cases asked
  · split at asked
    · cases asked
    · cases asked
      trivial

theorem removeBlockedAccount_typable {sid : String} {command : Command}
    (asked : removeBlockedAccount sid = .ask command) : command.Typable := by
  rw [removeBlockedAccount] at asked
  split at asked
  · cases asked
  · cases asked
    trivial

theorem executeAroundBlackList_typable {args : List String} {command : Command}
    (typed : ∀ word ∈ args, IsWord word) (asked : executeAroundBlackList args = .ask command) :
    command.Typable := by
  revert asked
  fun_cases executeAroundBlackList args
  case case3 | case11 =>
    rintro ⟨⟩
    trivial
  case case5 ip duration _ => exact addBlockedIPAddress_typable (typed ip (by simp))
  case case7 ip _ _ =>
    rintro ⟨⟩
    exact typed ip (by simp)
  case case13 sid duration _ _ => exact addBlockedAccount_typable
  case case15 sid _ _ _ => exact removeBlockedAccount_typable
  all_goals rintro ⟨⟩

theorem executeArgs_typable {args : List String} {command : Command}
    (typed : ∀ word ∈ args, IsWord word) (asked : executeArgs args = .ask command) :
    command.Typable := by
  have later {arg : String} {rest : List String} (typed : ∀ word ∈ arg :: rest, IsWord word) :
      ∀ word ∈ rest, IsWord word := fun word member => typed word (List.mem_cons_of_mem _ member)
  cases args with
  | nil => cases asked
  | cons arg args =>
      rw [executeArgs] at asked
      split at asked
      · exact executeAroundUser_typable (later typed) asked
      · split at asked
        · exact executeAroundBlackList_typable (later typed) asked
        · split at asked
          · cases asked
          · cases asked

theorem keyword {text : String} (nonempty : text ≠ "")
    (letters : text.toList.all (fun ch => ch != ' ' && ch != '\n' && ch != '\x00') = true) :
    IsWord text := by
  simp only [List.all_eq_true, Bool.and_eq_true, bne_iff_ne] at letters
  exact ⟨nonempty, fun blank => (letters _ blank).1.1 rfl,
    fun ch member => ⟨(letters ch member).1.2, (letters ch member).2⟩⟩

theorem keywords : IsWord "user" ∧ IsWord "blacklist" ∧ IsWord "add" ∧ IsWord "list" ∧
    IsWord "enable" ∧ IsWord "disable" ∧ IsWord "del" ∧ IsWord "chpwd" ∧ IsWord "ip" ∧
    IsWord "remove" :=
  ⟨keyword (by decide) (by decide), keyword (by decide) (by decide),
    keyword (by decide) (by decide), keyword (by decide) (by decide),
    keyword (by decide) (by decide), keyword (by decide) (by decide),
    keyword (by decide) (by decide), keyword (by decide) (by decide),
    keyword (by decide) (by decide), keyword (by decide) (by decide)⟩

theorem words_isWord {command : Command} (typable : command.Typable) :
    ∀ word ∈ command.words, IsWord word := by
  obtain ⟨user, blacklist, add, list, enable, disable, del, chpwd, ip, remove⟩ := keywords
  cases command with
  | listAccount filter =>
      rw [Command.words]
      split
      · simp [user, list]
      · rename_i nonempty
        simp [user, list, typable.resolve_left nonempty]
  | addAccount account password => simpa [Command.words, Command.Typable, user, add] using typable
  | enableAccount account => simpa [Command.words, Command.Typable, user, enable] using typable
  | disableAccount account => simpa [Command.words, Command.Typable, user, disable] using typable
  | deleteAccount account => simpa [Command.words, Command.Typable, user, del] using typable
  | changeAccountPassword account newPassword =>
      simpa [Command.words, Command.Typable, user, chpwd] using typable
  | listBlockedIPAddresses => simp [Command.words, blacklist, ip, list]
  | removeBlockedIPAddress address =>
      simpa [Command.words, Command.Typable, blacklist, ip, remove] using typable
  | addBlockedIPAddress address duration =>
      simpa [Command.words, Command.Typable, blacklist, ip, add, isWord_nat] using typable
  | listBlockedAccounts => simp [Command.words, blacklist, user, list]
  | removeBlockedAccount userId => simp [Command.words, blacklist, user, remove, isWord_int]
  | addBlockedAccount userId duration =>
      simp [Command.words, blacklist, user, add, isWord_nat, isWord_int]

theorem addBlockedIPAddress_word (ip : String) (number : Nat) :
    addBlockedIPAddress ip number.repr =
      if number < 2 ^ 64 then .ask (.addBlockedIPAddress ip (UInt32.ofNat number))
      else .printed ["invalid duration seconds"] (some .blackList) := by
  rw [addBlockedIPAddress]
  by_cases fits : number < 2 ^ 64
  · rw [stoul_nat fits, if_pos fits, ← toUInt32_ofNat fits]
  · rw [stoul, readNumber_nat, Option.bind_some, if_neg (by simpa using fits), if_neg fits]

theorem executeArgs_words (command : Command) : executeArgs command.words = .ask command := by
  cases command with
  | listAccount filter =>
      rw [Command.words]
      split
      · rename_i empty
        rw [empty]
        rfl
      · rfl
  | addBlockedIPAddress ip duration =>
      have small := duration.toNat_lt
      refine (addBlockedIPAddress_word ip duration.toNat).trans ?_
      rw [if_pos (by omega), UInt32.ofNat_toNat]
  | removeBlockedAccount userId =>
      show removeBlockedAccount userId.toInt.repr = _
      rw [removeBlockedAccount, stoll_int]
  | addBlockedAccount userId duration =>
      show addBlockedAccount userId.toInt.repr duration.toNat.repr = _
      have small := duration.toNat_lt
      have back : (UInt64.ofNat duration.toNat).toUInt32 = duration := by
        rw [toUInt32_ofNat (by omega), UInt32.ofNat_toNat]
      rw [addBlockedAccount, stoll_int, stoul_nat (by omega)]
      simp only [back]
  | _ => rfl

theorem entered_typedLine {words : List String} (typed : ∀ word ∈ words, IsWord word) :
    Entered (typedLine words) := by
  intro ch member
  rw [typedLine, String.toList_ofList, Words.line, List.mem_flatMap] at member
  obtain ⟨word, among, place⟩ := member
  obtain ⟨text, listed, rfl⟩ := List.mem_map.mp among
  rcases List.mem_append.mp place with inWord | blank
  · exact (typed text listed).2.2 ch inWord
  · rw [List.mem_singleton.mp blank]
    decide

theorem execute_typedLine {words : List String} (typed : ∀ word ∈ words, IsWord word) :
    execute (typedLine words) = executeArgs words := by
  rw [execute, arguments_typedLine typed]

end CommandExecutor

open CommandExecutor

/-- A duration is asked for as it was typed below 2^32 seconds, modulo that from there on, and
refused from 2^64 on. -/
theorem typed_duration {ip : String} (word : IsWord ip) (number : Nat) :
    execute (typedLine ["blacklist", "ip", "add", ip, number.repr]) =
      if number < 2 ^ 64 then .ask (.addBlockedIPAddress ip (UInt32.ofNat number))
      else .printed ["invalid duration seconds"] (some .blackList) := by
  obtain ⟨_, blacklist, add, _, _, _, _, _, isIp, _⟩ := keywords
  rw [execute_typedLine (by simp [blacklist, isIp, add, word, isWord_nat])]
  exact addBlockedIPAddress_word ip number

/-- A block of 2^32 seconds is none. -/
theorem typed_duration_wrapped :
    IsWord "10.0.0.1" ∧
      execute (typedLine ["blacklist", "ip", "add", "10.0.0.1", (4294967296 : Nat).repr]) =
        .ask (.addBlockedIPAddress "10.0.0.1" 0) :=
  have word : IsWord "10.0.0.1" := keyword (by decide) (by decide)
  ⟨word, typed_duration word 4294967296⟩

end EasyViewer
