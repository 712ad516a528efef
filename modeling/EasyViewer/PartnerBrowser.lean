import EasyViewer.DirectoryListings
import EasyViewer.Library.FileTree
import EasyViewer.Library.Run
import EasyViewer.Library.Words
import Mathlib.Data.List.TakeWhile

/-!
The browser of a partner's files: what `FilesBrowseWidget` shows of the host's directories while
requests and answers are on their way. Requests name a directory by the text in the box, which the
user may have changed since the table was filled.
-/

namespace EasyViewer

/-- The name of a file, as a system has it. -/
def Ordinary (name : String) : Prop :=
  name ≠ "" ∧ name ≠ "." ∧ name ≠ ".." ∧ ∀ c ∈ name.toList, c ≠ '/' ∧ c.toNat ≠ 0

instance (name : String) : Decidable (Ordinary name) :=
  decidable_of_iff (name ≠ "" ∧ name ≠ "." ∧ name ≠ ".." ∧
    name.toList.all fun c => c ≠ '/' ∧ c.toNat ≠ 0) (by simp [Ordinary])

abbrev PathName := { name : String // Ordinary name }

abbrev Place := List PathName

def Place.step (place : Place) (component : String) : Place :=
  if component = ".." then place.tail
  else if ordinary : Ordinary component then ⟨component, ordinary⟩ :: place
  else place

def components (text : String) : List String :=
  (Words.words '/' [] (cStr text).toList).map String.ofList

def Place.walk (place : Place) (text : String) : Place :=
  (components text).foldl Place.step (if (cStr text).toList.head? = some '/' then [] else place)

/-- `QDir::path`. -/
def Place.path (place : Place) : String :=
  if place = [] then "/"
  else String.ofList (place.reverse.flatMap fun name => '/' :: name.val.toList)

structure FileData where
  size : UInt64
  modified : Int64
  deriving DecidableEq, Repr

/-- Without `QDir::Hidden` such files are not listed. -/
def Visible (name : String) : Prop := name.toList.head? ≠ some '.'

instance (name : String) : Decidable (Visible name) := inferInstanceAs (Decidable (¬ _))

/-- The host's home and current directory, what its program may write, and its clock. -/
structure BrowsedMachine where
  homePath : String
  current : Place := []
  permits : Place → Bool := fun _ => true
  now : Nat → Int64 := fun _ => 0

structure BrowsedHost where
  tree : FileTree PathName FileData
  handled : Nat := 0

inductive BrowseRequest where
  | visitFiles
  | goUp (dir : String)
  | goHome
  | listEntries (dir : String)
  | deleteEntry (dir name : String)
  | makeDirectory (dir name : String)
  | renameEntry (dir oldName newName : String)
  deriving DecidableEq, Repr

/-- A renamed entry comes without its time. -/
inductive BrowseAnswer where
  | visited (defaultDirs : List String) (entries : List EntryInfo)
  | listing (dir : String) (entries : List EntryInfo)
  | deleted (dir name : String)
  | made (dir name : String) (lastModifyingTime : Int64)
  | renamed (dir oldName newName : String)
  | refused (errCode : Int) (errString : String)

def dirAt (tree : FileTree PathName FileData) (place : Place) : Dir where
  path := place.path
  isRoot := place = []
  entryInfoList :=
    [".", ".."].map (fun name => {
      fileName := name, path := place.path, size := 0, isDir := true, lastModified := 0 }) ++
    ((tree.children place).filter fun child => Visible child.1.val).map fun child => {
      fileName := child.1.val, path := place.path, size := child.2.data.size
      isDir := child.2.isDir, lastModified := child.2.data.modified }

def BrowseAnswer.ofError (err : Int) : BrowseAnswer := .refused err (formatError err)

namespace BrowsedMachine

variable (machine : BrowsedMachine)

def place (text : String) : Place := machine.current.walk text

def list (tree : FileTree PathName FileData) (place : Place) : BrowseAnswer :=
  if tree.IsDir place then .listing place.path (fillEntries (dirAt tree place))
  else .ofError Err.pathUnreachable

def handleCommandOfVisitFiles (tree : FileTree PathName FileData) : BrowseAnswer :=
  let home := machine.place machine.homePath
  if tree.IsDir home then .visited [home.path, "/"] (fillEntries (dirAt tree home))
  else .ofError Err.pathUnreachable

/-- `cdUp` does not leave the root. -/
def handleCommandOfGoUp (tree : FileTree PathName FileData) (dir : String) : BrowseAnswer :=
  if tree.IsDir (machine.place dir) then
    match machine.place dir with
    | [] => .ofError Err.pathUnreachable
    | _ :: parent => list tree parent
  else .ofError Err.pathUnreachable

/-- What `QFileInfo` asks about and what `QDir` removes are named differently. -/
def handleCommandOfDeleteEntry (tree : FileTree PathName FileData) (dir name : String) :
    FileTree PathName FileData × BrowseAnswer :=
  let info := machine.place (dir ++ "/" ++ name)
  let entry := (machine.place dir).walk name
  if ¬ (info = [] ∨ info ∈ tree.places) ∨ ¬ tree.IsDir (machine.place dir) then
    (tree, .ofError Err.pathUnreachable)
  else if (if tree.IsDir info then tree.IsDir entry else entry ∈ tree.places ∧ ¬ tree.IsDir entry) ∧
      entry ≠ [] ∧ machine.permits entry then
    (tree.remove entry, .deleted dir name)
  else (tree, .ofError Err.operateFailed)

def handleCommandOfMakeDirectory (tree : FileTree PathName FileData) (now : Int64)
    (dir name : String) : FileTree PathName FileData × BrowseAnswer :=
  let entry := (machine.place dir).walk name
  let made :=
    if machine.permits entry then
      tree.make { isDir := true, data := { size := 0, modified := now } } entry
    else none
  match made with
  | none => (tree, .ofError Err.operateFailed)
  | some after => (after, .made dir name now)

def handleCommandOfRenameEntry (tree : FileTree PathName FileData) (dir oldName newName : String) :
    FileTree PathName FileData × BrowseAnswer :=
  let old := (machine.place dir).walk oldName
  let new := (machine.place dir).walk newName
  let renamed :=
    if oldName ≠ "" ∧ newName ≠ "" ∧ machine.permits old ∧ machine.permits new then tree.move old new
    else none
  match renamed with
  | none => (tree, .ofError Err.operateFailed)
  | some after => (after, .renamed dir oldName newName)

def handleCompleteData (host : BrowsedHost) (request : BrowseRequest) : BrowsedHost × BrowseAnswer :=
  let (tree, answer) :=
    match request with
    | .visitFiles => (host.tree, machine.handleCommandOfVisitFiles host.tree)
    | .goUp dir => (host.tree, machine.handleCommandOfGoUp host.tree dir)
    | .goHome => (host.tree, list host.tree (machine.place machine.homePath))
    | .listEntries dir => (host.tree, list host.tree (machine.place dir))
    | .deleteEntry dir name => machine.handleCommandOfDeleteEntry host.tree dir name
    | .makeDirectory dir name =>
        machine.handleCommandOfMakeDirectory host.tree (machine.now host.handled) dir name
    | .renameEntry dir oldName newName =>
        machine.handleCommandOfRenameEntry host.tree dir oldName newName
  ({ tree := tree, handled := host.handled + 1 }, answer)

end BrowsedMachine

structure BrowserRow where
  directory : String
  name : String
  size : UInt64
  type : EntryType
  lastModifyingTime : Option Int64
  deriving DecidableEq, Repr

def BrowserRow.ofEntry (entry : EntryInfo) : BrowserRow where
  directory := entry.directory
  name := entry.name
  size := entry.size
  type := if entry.isDirectory then .directory else .file
  lastModifyingTime := some entry.lastModifyingTime

structure BrowseWidget where
  directory : String := ""
  rows : List BrowserRow := []
  deriving DecidableEq, Repr

def removeRow (name : String) : List BrowserRow → List BrowserRow
  | [] => []
  | row :: rest => if row.name = name then rest else row :: removeRow name rest

def appendRow (entry : BrowserRow) : List BrowserRow → List BrowserRow
  | [] => [entry]
  | row :: rest => if row.name = entry.name then entry :: rest else row :: appendRow entry rest

def renameRow (oldName newName : String) (lastModifyingTime : Option Int64) :
    List BrowserRow → List BrowserRow
  | [] => []
  | row :: rest =>
      if row.name = oldName then
        { row with name := newName, lastModifyingTime := lastModifyingTime } :: rest
      else row :: renameRow oldName newName lastModifyingTime rest

namespace BrowseWidget

def removeEntry (widget : BrowseWidget) (name : String) : BrowseWidget :=
  { widget with rows := removeRow name widget.rows }

def appendEntry (widget : BrowseWidget) (entry : BrowserRow) : BrowseWidget :=
  { widget with rows := appendRow entry widget.rows }

def renameEntry (widget : BrowseWidget) (oldName newName : String)
    (lastModifyingTime : Option Int64) : BrowseWidget :=
  { widget with rows := renameRow oldName newName lastModifyingTime widget.rows }

def take (widget : BrowseWidget) : BrowseAnswer → BrowseWidget
  | .visited defaultDirs entries => {
      directory := (defaultDirs.head?.map cStr).getD widget.directory
      rows := entries.map .ofEntry }
  | .listing dir entries => { directory := cStr dir, rows := entries.map .ofEntry }
  | .deleted dir name =>
      if widget.directory = cStr dir then widget.removeEntry (cStr name) else widget
  | .made dir name lastModifyingTime =>
      if widget.directory = cStr dir then
        widget.appendEntry {
          directory := cStr dir, name := cStr name, size := 0, type := .directory
          lastModifyingTime := some lastModifyingTime }
      else widget
  | .renamed dir oldName newName =>
      if widget.directory = cStr dir then
        widget.renameEntry (cStr oldName) (cStr newName) none
      else widget
  | .refused _ _ => widget

end BrowseWidget

/-- A window that waits for the user; the entry was taken from its row when it opened. -/
inductive BrowseDialog where
  | make
  | delete (entry : BrowserRow)
  | rename (entry : BrowserRow)
  deriving DecidableEq, Repr

structure Browsing where
  host : BrowsedHost
  requests : List BrowseRequest := []
  answers : List BrowseAnswer := []
  widget : BrowseWidget := {}
  dialog : Option BrowseDialog := none

inductive BrowseEvent where
  | type (text : String)
  | pick (text : String)
  | refresh
  | goUp
  | goHome
  | enter (row : BrowserRow)
  | ask (dialog : BrowseDialog)
  | confirm (text : String)
  | cancel
  | handle
  | take
  deriving DecidableEq, Repr

namespace Browsing

def send (state : Browsing) (request : BrowseRequest) : Browsing :=
  { state with requests := state.requests ++ [request] }

/-- The entry is one that is shown. -/
def Offers (state : Browsing) : BrowseDialog → Prop
  | .make => True
  | .delete entry | .rename entry => entry ∈ state.widget.rows

instance (state : Browsing) : (dialog : BrowseDialog) → Decidable (state.Offers dialog)
  | .make => inferInstanceAs (Decidable True)
  | .delete entry | .rename entry => inferInstanceAs (Decidable (entry ∈ state.widget.rows))

/-- What the user confirms: an empty name is refused at once. -/
def confirmed (state : Browsing) (text : String) : BrowseDialog → Option BrowseRequest
  | .make => if text = "" then none else some (.makeDirectory state.widget.directory text)
  | .delete entry => some (.deleteEntry entry.directory entry.name)
  | .rename entry =>
      if text = "" then none else some (.renameEntry state.widget.directory entry.name text)

end Browsing

/-- A window keeps the user from the browser, but not the answers. -/
def browseStep (machine : BrowsedMachine) (state : Browsing) (event : BrowseEvent) :
    Option Browsing :=
  match event, state.dialog with
  | .type text, none => some { state with widget := { state.widget with directory := text } }
  | .pick text, none =>
      some ({ state with widget := { state.widget with directory := text } }.send (.listEntries text))
  | .refresh, none => some (state.send (.listEntries state.widget.directory))
  | .goUp, none => some (state.send (.goUp state.widget.directory))
  | .goHome, none => some (state.send .goHome)
  | .enter row, none =>
      if row ∈ state.widget.rows ∧ row.type = .directory then
        some (state.send (.listEntries (row.directory ++ "/" ++ row.name)))
      else none
  | .ask dialog, none => if state.Offers dialog then some { state with dialog := some dialog } else none
  | .confirm text, some dialog =>
      let closed := { state with dialog := none }
      some (((state.confirmed text dialog).map closed.send).getD closed)
  | .cancel, some _ => some { state with dialog := none }
  | .handle, _ =>
      match state.requests with
      | [] => none
      | request :: requests =>
          let (host, answer) := machine.handleCompleteData state.host request
          some { state with host := host, requests := requests, answers := state.answers ++ [answer] }
  | .take, _ =>
      match state.answers with
      | [] => none
      | answer :: answers =>
          some { state with answers := answers, widget := state.widget.take answer }
  | _, _ => none

/-! Paths lead where they come from. -/

theorem cStr_eq {text : String} (free : ∀ c ∈ text.toList, c.toNat ≠ 0) : cStr text = text :=
  cStr_eq_self.mpr fun listed => free '\x00' listed rfl

namespace Ordinary

variable {name : String}

theorem toList_ne_nil (ordinary : Ordinary name) : name.toList ≠ [] :=
  fun empty => ordinary.1 (String.toList_eq_nil_iff.mp empty)

theorem slash_not_mem (ordinary : Ordinary name) : '/' ∉ name.toList :=
  fun among => (ordinary.2.2.2 '/' among).1 rfl

theorem cStr_eq (ordinary : Ordinary name) : cStr name = name :=
  EasyViewer.cStr_eq fun c among => (ordinary.2.2.2 c among).2

theorem components_eq (ordinary : Ordinary name) : components name = [name] := by
  rw [components, ordinary.cStr_eq, Words.words_unbroken ordinary.slash_not_mem, List.nil_append,
    Words.keep, if_neg ordinary.toList_ne_nil, List.map_singleton, String.ofList_toList]

theorem step_eq (ordinary : Ordinary name) (place : Place) :
    place.step name = ⟨name, ordinary⟩ :: place := by
  rw [Place.step, if_neg ordinary.2.2.1, dif_pos ordinary]

theorem walk_eq (ordinary : Ordinary name) (place : Place) :
    place.walk name = ⟨name, ordinary⟩ :: place := by
  have relative : (cStr name).toList.head? ≠ some '/' := by
    rw [ordinary.cStr_eq]
    exact fun first => ordinary.slash_not_mem (List.mem_of_head? first)
  rw [Place.walk, if_neg relative, ordinary.components_eq]
  exact ordinary.step_eq place

end Ordinary

namespace Place

theorem path_toList (place : Place) : place.path.toList =
    if place = [] then ['/'] else place.reverse.flatMap fun name => '/' :: name.val.toList := by
  rw [path]
  split
  · rfl
  · rw [String.toList_ofList]

theorem path_head (place : Place) : place.path.toList.head? = some '/' := by
  rw [path_toList]
  split
  · rfl
  · rename_i below
    obtain ⟨name, rest, same⟩ := List.exists_cons_of_ne_nil (mt List.reverse_eq_nil_iff.mp below)
    rw [same]
    rfl

theorem path_free (place : Place) : ∀ c ∈ place.path.toList, c.toNat ≠ 0 := by
  intro c among
  rw [path_toList] at among
  split at among
  · obtain rfl := List.mem_singleton.mp among
    decide
  · obtain ⟨name, -, here⟩ := List.mem_flatMap.mp among
    rcases List.mem_cons.mp here with rfl | within
    · decide
    · exact (name.property.2.2.2 c within).2

theorem cStr_path (place : Place) : cStr place.path = place.path := cStr_eq place.path_free

theorem words_path (place : Place) :
    Words.words '/' [] place.path.toList = place.reverse.map fun name => name.val.toList := by
  rw [path_toList]
  split
  · rename_i root
    rw [root]
    rfl
  · have led : Words.words '/' []
        ((place.reverse.map fun name => name.val.toList).flatMap ('/' :: ·)) = _ :=
      Words.words_led fun word member => by
        obtain ⟨name, -, rfl⟩ := List.mem_map.mp member
        exact ⟨name.property.toList_ne_nil, name.property.slash_not_mem⟩
    rwa [List.flatMap_map] at led

theorem foldl_step (names : List PathName) (place : Place) :
    (names.map Subtype.val).foldl step place = names.reverse ++ place := by
  induction names generalizing place with
  | nil => rfl
  | cons name names ih =>
      rw [List.map_cons, List.foldl_cons, name.property.step_eq, ih, List.reverse_cons,
        List.append_assoc, List.singleton_append]

theorem walk_path (start place : Place) : start.walk place.path = place := by
  have names : components place.path = place.reverse.map Subtype.val := by
    rw [components, cStr_path, words_path, List.map_map]
    exact List.map_congr_left fun name _ => String.ofList_toList
  rw [walk, cStr_path, if_pos place.path_head, names, foldl_step, List.reverse_reverse,
    List.append_nil]

theorem path_injective {first second : Place} (same : first.path = second.path) : first = second := by
  rw [← walk_path [] first, same, walk_path]

end Place

/-! The table as it should be, but for the times: a renamed row has none. -/

def BrowserRow.lasting (row : BrowserRow) : BrowserRow := { row with lastModifyingTime := none }

def rowOf (place : Place) (name : String) (node : TreeNode FileData) : BrowserRow where
  directory := place.path
  name := name
  size := if node.isDir then 0 else node.data.size
  type := if node.isDir then .directory else .file
  lastModifyingTime := none

def listed (tree : FileTree PathName FileData) (place : Place) : List BrowserRow :=
  (fillEntries (dirAt tree place)).map .ofEntry

def upRow (place : Place) : BrowserRow :=
  rowOf place ".." { isDir := true, data := { size := 0, modified := 0 } }

theorem dirAt_skips (tree : FileTree PathName FileData) (place : Place) (info : FileInfo) :
    (dirAt tree place).skips info = true ↔
      info.fileName = "." ∨ place = [] ∧ info.fileName = ".." := by
  simp [Dir.skips, dirAt]

def rowOfInfo (info : FileInfo) : BrowserRow where
  directory := info.path
  name := info.fileName
  size := if info.isDir then 0 else info.size
  type := if info.isDir then .directory else .file
  lastModifyingTime := none

theorem listed_eq (tree : FileTree PathName FileData) (place : Place) :
    (listed tree place).map BrowserRow.lasting = ((dirAt tree place).entryInfoList.filter
      fun info => !(dirAt tree place).skips info).map rowOfInfo := by
  simp only [listed, fillEntries, getEntries, List.map_map]
  refine List.map_congr_left fun info _ => ?_
  cases isDir : info.isDir <;> simp [isDir, rowOfInfo, BrowserRow.ofEntry, BrowserRow.lasting]

theorem mem_listed {tree : FileTree PathName FileData} {place : Place} {row : BrowserRow} :
    row ∈ (listed tree place).map BrowserRow.lasting ↔ place ≠ [] ∧ row = upRow place ∨
      ∃ name node, (name, node) ∈ tree.children place ∧ Visible name.val ∧
        row = rowOf place name.val node := by
  rw [listed_eq, List.mem_map]
  constructor
  · rintro ⟨info, member, rfl⟩
    obtain ⟨among, kept⟩ := List.mem_filter.mp member
    rw [Bool.not_eq_true', ← Bool.not_eq_true, dirAt_skips] at kept
    rcases List.mem_append.mp among with dots | below
    · obtain ⟨name, isDots, rfl⟩ := List.mem_map.mp dots
      simp only [List.mem_cons, List.not_mem_nil, or_false] at isDots
      rcases isDots with rfl | rfl
      · exact absurd (.inl rfl) kept
      · exact .inl ⟨fun root => kept (.inr ⟨root, rfl⟩), rfl⟩
    · obtain ⟨⟨name, node⟩, child, rfl⟩ := List.mem_map.mp below
      obtain ⟨found, visible⟩ := List.mem_filter.mp child
      exact .inr ⟨name, node, found, of_decide_eq_true visible, rfl⟩
  · rintro (⟨below, rfl⟩ | ⟨name, node, found, visible, rfl⟩)
    · refine ⟨_, List.mem_filter.mpr ⟨List.mem_append_left _ (List.mem_map_of_mem
        (List.mem_cons_of_mem _ List.mem_cons_self)), ?_⟩, rfl⟩
      rw [Bool.not_eq_true', ← Bool.not_eq_true, dirAt_skips]
      rintro (isDot | ⟨root, -⟩)
      · exact absurd (show ".." = "." from isDot) (by decide)
      · exact below root
    · refine ⟨_, List.mem_filter.mpr ⟨List.mem_append_right _ (List.mem_map_of_mem
        (List.mem_filter.mpr ⟨found, decide_eq_true visible⟩)), ?_⟩, rfl⟩
      rw [Bool.not_eq_true', ← Bool.not_eq_true, dirAt_skips]
      rintro (isDot | ⟨-, isDots⟩)
      · exact name.property.2.1 isDot
      · exact name.property.2.2.1 isDots

theorem listed_once (tree : FileTree PathName FileData) (place : Place) :
    ((listed tree place).map BrowserRow.name).Nodup := by
  have names : (listed tree place).map BrowserRow.name =
      ((listed tree place).map BrowserRow.lasting).map BrowserRow.name := by
    rw [List.map_map]
    rfl
  have all : (((dirAt tree place).entryInfoList).map FileInfo.fileName).Nodup := by
    rw [dirAt, List.map_append, List.map_map, List.map_map]
    refine List.Nodup.append ?_ ?_ ?_
    · show [".", ".."].Nodup
      decide
    · have children : (((tree.children place).filter fun child => Visible child.1.val).map
          Prod.fst).Nodup :=
        (tree.children_nodup place).sublist (List.Sublist.map _ List.filter_sublist)
      rw [← List.nodup_map_iff Subtype.val_injective, List.map_map] at children
      exact children
    · intro name dots below
      obtain ⟨⟨child, node⟩, -, rfl⟩ := List.mem_map.mp below
      simp only [List.map_cons, List.map_nil, List.mem_cons, List.not_mem_nil, or_false,
        Function.comp_apply] at dots
      exact dots.elim child.property.2.1 child.property.2.2.1
  rw [names, listed_eq, List.map_map]
  exact all.sublist (List.Sublist.map _ List.filter_sublist)

/-- The table shows the directory, each entry once. -/
structure Shows (tree : FileTree PathName FileData) (place : Place) (rows : List BrowserRow) :
    Prop where
  once : (rows.map BrowserRow.name).Nodup
  same : ∀ row, row ∈ rows.map BrowserRow.lasting ↔ row ∈ (listed tree place).map BrowserRow.lasting

theorem removeRow_eq {name : String} {rows : List BrowserRow}
    (once : (rows.map BrowserRow.name).Nodup) :
    removeRow name rows = rows.filter fun row => row.name ≠ name := by
  induction rows with
  | nil => rfl
  | cons row rows ih =>
      rw [List.map_cons, List.nodup_cons] at once
      rw [removeRow, List.filter_cons]
      split
      · rename_i same
        rw [if_neg (by simp [same]), List.filter_eq_self.mpr]
        exact fun other among => decide_eq_true fun equal =>
          once.1 (same.trans equal.symm ▸ List.mem_map_of_mem among)
      · rename_i different
        rw [if_pos (decide_eq_true different), ih once.2]

theorem appendRow_eq {entry : BrowserRow} {rows : List BrowserRow}
    (fresh : entry.name ∉ rows.map BrowserRow.name) : appendRow entry rows = rows ++ [entry] := by
  induction rows with
  | nil => rfl
  | cons row rows ih =>
      rw [List.map_cons, List.mem_cons, not_or] at fresh
      rw [appendRow, if_neg (Ne.symm fresh.1), ih fresh.2, List.cons_append]

def BrowserRow.renamed (oldName newName : String) (time : Option Int64) (row : BrowserRow) :
    BrowserRow :=
  if row.name = oldName then { row with name := newName, lastModifyingTime := time } else row

theorem renameRow_eq {oldName newName : String} {time : Option Int64} {rows : List BrowserRow}
    (once : (rows.map BrowserRow.name).Nodup) :
    renameRow oldName newName time rows = rows.map (.renamed oldName newName time) := by
  induction rows with
  | nil => rfl
  | cons row rows ih =>
      rw [List.map_cons, List.nodup_cons] at once
      rw [renameRow, List.map_cons, BrowserRow.renamed]
      split
      · rename_i same
        have others : ∀ other ∈ rows, other.name ≠ oldName := fun other among equal =>
          once.1 (same.trans equal.symm ▸ List.mem_map_of_mem among)
        refine congrArg _ (((List.map_congr_left fun other among => ?_).trans (List.map_id rows)).symm)
        exact if_neg (others other among)
      · rw [ih once.2]

namespace BrowserRow

theorem renamed_lasting (oldName newName : String) (row : BrowserRow) :
    (row.renamed oldName newName none).lasting = row.lasting.renamed oldName newName none := by
  by_cases own : row.name = oldName
  · rw [renamed, if_pos own]
    exact (if_pos own).symm
  · rw [renamed, if_neg own]
    exact (if_neg own).symm

theorem renamed_name (oldName newName : String) (time : Option Int64) (row : BrowserRow) :
    (row.renamed oldName newName time).name =
      if row.name = oldName then newName else row.name := by
  rw [renamed]
  split <;> rfl

theorem renamed_own (place : Place) (name newName : String) (node : TreeNode FileData) :
    (rowOf place name node).renamed name newName none = rowOf place newName node := if_pos rfl

theorem renamed_other {name oldName : String} (place : Place) (newName : String)
    (node : TreeNode FileData) (other : name ≠ oldName) :
    (rowOf place name node).renamed oldName newName none = rowOf place name node := if_neg other

theorem renamed_once {oldName newName : String} {time : Option Int64} {rows : List BrowserRow}
    (once : (rows.map name).Nodup) (free : newName ∉ rows.map name) :
    ((rows.map (renamed oldName newName time)).map name).Nodup := by
  have names : (rows.map (renamed oldName newName time)).map name = (rows.map name).map fun name =>
      if name = oldName then newName else name := by
    rw [List.map_map, List.map_map]
    exact List.map_congr_left fun row _ => renamed_name oldName newName time row
  rw [names]
  refine List.Nodup.map_on (fun first here second there same => ?_) once
  split at same <;> split at same
  · rename_i isFirst isSecond
    exact isFirst.trans isSecond.symm
  · exact absurd (same ▸ there) free
  · exact absurd (same ▸ here) free
  · exact same

end BrowserRow

namespace Shows

variable {tree next : FileTree PathName FileData} {place : Place} {rows : List BrowserRow}
  {row : BrowserRow}

theorem named (shows : Shows tree place rows) {name : PathName} :
    name.val ∈ rows.map BrowserRow.name ↔
      Visible name.val ∧ ∃ node, (name, node) ∈ tree.children place := by
  constructor
  · intro member
    obtain ⟨row, among, same⟩ := List.mem_map.mp member
    rcases mem_listed.mp ((shows.same _).mp (List.mem_map_of_mem among)) with
      ⟨-, up⟩ | ⟨child, node, found, visible, here⟩
    · have isUp : row.name = ".." := congrArg BrowserRow.name up
      exact absurd (same.symm.trans isUp) name.property.2.2.1
    · have isChild : row.name = child.val := congrArg BrowserRow.name here
      obtain rfl : name = child := Subtype.ext (same.symm.trans isChild)
      exact ⟨visible, node, found⟩
  · rintro ⟨visible, node, found⟩
    have listed := (shows.same _).mpr (mem_listed.mpr (.inr ⟨name, node, found, visible, rfl⟩))
    obtain ⟨row, among, same⟩ := List.mem_map.mp listed
    exact List.mem_map.mpr ⟨row, among, congrArg BrowserRow.name same⟩

theorem congr (shows : Shows tree place rows)
    (same : ∀ name node, (name, node) ∈ next.children place ↔ (name, node) ∈ tree.children place) :
    Shows next place rows := by
  refine ⟨shows.once, fun row => (shows.same row).trans ?_⟩
  simp only [mem_listed, same]

theorem remove (shows : Shows tree place rows) (name : PathName) :
    Shows (tree.remove (name :: place)) place (removeRow name.val rows) := by
  rw [removeRow_eq shows.once]
  refine ⟨shows.once.sublist (List.Sublist.map _ List.filter_sublist), fun row => ?_⟩
  have kept : row ∈ (rows.filter fun row => row.name ≠ name.val).map BrowserRow.lasting ↔
      row ∈ rows.map BrowserRow.lasting ∧ row.name ≠ name.val := by
    simp only [List.mem_map, List.mem_filter, decide_eq_true_eq]
    constructor
    · rintro ⟨before, ⟨among, different⟩, rfl⟩
      exact ⟨⟨before, among, rfl⟩, different⟩
    · rintro ⟨⟨before, among, rfl⟩, different⟩
      exact ⟨before, ⟨among, different⟩, rfl⟩
  have apart (child : PathName) : name :: place <:+ child :: place ↔ child = name := by
    rw [List.suffix_cons_iff, List.cons.injEq, and_iff_left rfl, eq_comm]
    refine or_iff_left fun within => ?_
    exact absurd within.length_le (by simp)
  rw [kept, shows.same row, mem_listed, mem_listed]
  simp only [FileTree.remove_children, apart]
  constructor
  · rintro ⟨up | ⟨child, node, found, visible, rfl⟩, different⟩
    · exact .inl up
    · exact .inr ⟨child, node, ⟨found, fun same => different (same ▸ rfl)⟩, visible, rfl⟩
  · rintro (⟨below, rfl⟩ | ⟨child, node, ⟨found, different⟩, visible, rfl⟩)
    · exact ⟨.inl ⟨below, rfl⟩, Ne.symm name.property.2.2.1⟩
    · exact ⟨.inr ⟨child, node, found, visible, rfl⟩, fun same => different (Subtype.ext same)⟩

theorem make (shows : Shows tree place rows) {name : PathName} {data : FileData}
    (made : tree.make { isDir := true, data := data } (name :: place) = some next)
    (visible : Visible name.val) {entry : BrowserRow}
    (isNew : entry.lasting = rowOf place name.val { isDir := true, data := data }) :
    Shows next place (appendRow entry rows) := by
  have sameName : entry.name = name.val := congrArg BrowserRow.name isNew
  have fresh : entry.name ∉ rows.map BrowserRow.name := by
    rw [sameName, shows.named]
    rintro ⟨-, node, found⟩
    exact FileTree.make_free made (FileTree.mem_places.mpr ⟨node, FileTree.mem_children.mp found⟩)
  rw [appendRow_eq fresh]
  refine ⟨?_, fun row => ?_⟩
  · rw [List.map_append]
    refine shows.once.append (List.nodup_singleton _) fun other before last => fresh ?_
    exact List.mem_singleton.mp last ▸ before
  · rw [List.map_append, List.mem_append, shows.same row, mem_listed, mem_listed, List.map_singleton,
      List.mem_singleton, isNew]
    simp only [FileTree.make_children made, List.cons.injEq, and_true]
    constructor
    · rintro ((up | ⟨child, node, found, seen, rfl⟩) | rfl)
      · exact .inl up
      · exact .inr ⟨child, node, .inl found, seen, rfl⟩
      · exact .inr ⟨name, _, .inr ⟨rfl, rfl⟩, visible, rfl⟩
    · rintro (up | ⟨child, node, found | ⟨rfl, rfl⟩, seen, rfl⟩)
      · exact .inl (.inl up)
      · exact .inl (.inr ⟨child, node, found, seen, rfl⟩)
      · exact .inr rfl

theorem rename (shows : Shows tree place rows) {oldName newName : PathName}
    (renamed : tree.move (oldName :: place) (newName :: place) = some next)
    (isDir : tree.IsDir place) (seen : Visible oldName.val) (visible : Visible newName.val) :
    Shows next place (renameRow oldName.val newName.val none rows) := by
  have free : newName.val ∉ rows.map BrowserRow.name := by
    rw [shows.named]
    rintro ⟨-, node, found⟩
    exact FileTree.move_free renamed (FileTree.mem_places.mpr ⟨node, FileTree.mem_children.mp found⟩)
  have outside : ¬ oldName :: place <:+ place := fun within => absurd within.length_le (by simp)
  have after (name : PathName) (node : TreeNode FileData) :
      (name, node) ∈ next.children place ↔
        name = newName ∧ (oldName, node) ∈ tree.children place ∨
          (name, node) ∈ tree.children place ∧ name ≠ oldName := by
    simpa using FileTree.move_children renamed isDir outside
  rw [renameRow_eq shows.once]
  refine ⟨BrowserRow.renamed_once shows.once free, fun row => ?_⟩
  have lasting : (rows.map (.renamed oldName.val newName.val none)).map BrowserRow.lasting =
      (rows.map BrowserRow.lasting).map (.renamed oldName.val newName.val none) := by
    rw [List.map_map, List.map_map]
    exact List.map_congr_left fun row _ => BrowserRow.renamed_lasting _ _ row
  have up : (upRow place).renamed oldName.val newName.val none = upRow place :=
    BrowserRow.renamed_other place _ _ (Ne.symm oldName.property.2.2.1)
  rw [lasting, List.mem_map]
  simp only [shows.same, mem_listed, after]
  constructor
  · rintro ⟨before, ⟨below, rfl⟩ | ⟨name, node, found, shown, rfl⟩, rfl⟩
    · exact .inl ⟨below, up⟩
    · by_cases own : name = oldName
      · subst own
        exact .inr ⟨newName, node, .inl ⟨rfl, found⟩, visible, BrowserRow.renamed_own ..⟩
      · have other : name.val ≠ oldName.val := fun same => own (Subtype.ext same)
        exact .inr ⟨name, node, .inr ⟨found, own⟩, shown, BrowserRow.renamed_other _ _ _ other⟩
  · rintro (⟨below, rfl⟩ | ⟨name, node, ⟨rfl, found⟩ | ⟨found, own⟩, shown, rfl⟩)
    · exact ⟨_, .inl ⟨below, rfl⟩, up⟩
    · exact ⟨_, .inr ⟨oldName, node, found, seen, rfl⟩, BrowserRow.renamed_own ..⟩
    · have other : name.val ≠ oldName.val := fun same => own (Subtype.ext same)
      exact ⟨_, .inr ⟨name, node, found, shown, rfl⟩, BrowserRow.renamed_other _ _ _ other⟩

end Shows

/-! What it all comes to, once every request is answered and every answer taken. -/

def BrowsedMachine.answerAll (machine : BrowsedMachine) (host : BrowsedHost) :
    List BrowseRequest → BrowsedHost × List BrowseAnswer
  | [] => (host, [])
  | request :: requests =>
      let (next, answer) := machine.handleCompleteData host request
      let (final, answers) := machine.answerAll next requests
      (final, answer :: answers)

def Browsing.settled (machine : BrowsedMachine) (state : Browsing) : BrowsedHost × BrowseWidget :=
  let (host, answers) := machine.answerAll state.host state.requests
  (host, (state.answers ++ answers).foldl .take state.widget)

/-- The box names a directory of the host's, and the table shows it. -/
def Truthful (settled : BrowsedHost × BrowseWidget) : Prop :=
  ∃ place : Place, settled.2.directory = place.path ∧ settled.1.tree.IsDir place ∧
    Shows settled.1.tree place settled.2.rows

def BrowsedMachine.Clean (machine : BrowsedMachine) (text : String) : Prop :=
  (machine.place text).path = text

/-- A request that asks for a change names the directory as the host does, and a plain name in it;
what is deleted or renamed does not hold the directory shown. -/
def BrowseRequest.Sound (machine : BrowsedMachine) (shown : String) : BrowseRequest → Prop
  | .deleteEntry dir name =>
      machine.Clean dir ∧ Ordinary name ∧ ¬ (machine.place dir).walk name <:+ machine.place shown
  | .makeDirectory dir name => machine.Clean dir ∧ Ordinary name ∧ Visible name
  | .renameEntry dir oldName newName =>
      machine.Clean dir ∧ (Ordinary oldName ∧ Visible oldName) ∧ (Ordinary newName ∧ Visible newName) ∧
        ¬ (machine.place dir).walk oldName <:+ machine.place shown
  | _ => True

/-- The user writes nothing into the box that is not sent, and picks a directory that is there when
the request is handled. -/
def Careful (machine : BrowsedMachine) (state : Browsing) : BrowseEvent → Prop
  | .type text => text = state.widget.directory
  | .pick text => (state.settled machine).1.tree.IsDir (machine.place text)
  | .confirm text => ∀ dialog ∈ state.dialog, ∀ request ∈ state.confirmed text dialog,
      request.Sound machine (state.settled machine).2.directory
  | _ => True

def BrowseEvent.asked (state : Browsing) : BrowseEvent → Option BrowseRequest
  | .pick text => some (.listEntries text)
  | .refresh => some (.listEntries state.widget.directory)
  | .goUp => some (.goUp state.widget.directory)
  | .goHome => some .goHome
  | .enter row => some (.listEntries (row.directory ++ "/" ++ row.name))
  | .confirm text => state.dialog.bind (state.confirmed text)
  | _ => none

def BrowseEvent.written (state : Browsing) : BrowseEvent → String
  | .type text | .pick text => text
  | _ => state.widget.directory

def BrowseAnswer.Lists : BrowseAnswer → Prop
  | .visited _ _ | .listing _ _ => True
  | _ => False

section

variable {machine : BrowsedMachine} {host next : BrowsedHost} {widget : BrowseWidget}
  {request : BrowseRequest} {answer : BrowseAnswer} {tree after : FileTree PathName FileData}
  {place : Place} {state : Browsing}

theorem BrowsedMachine.answerAll_append (machine : BrowsedMachine) (host : BrowsedHost)
    (first second : List BrowseRequest) : machine.answerAll host (first ++ second) =
      let (middle, answers) := machine.answerAll host first
      let (final, later) := machine.answerAll middle second
      (final, answers ++ later) := by
  induction first generalizing host with
  | nil => rfl
  | cons request first ih =>
      simp only [List.cons_append, answerAll, ih]

namespace Browsing

theorem settled_send (machine : BrowsedMachine) (state : Browsing) (request : BrowseRequest) :
    (state.send request).settled machine =
      let answered := machine.handleCompleteData (state.settled machine).1 request
      (answered.1, (state.settled machine).2.take answered.2) := by
  simp only [settled, send, BrowsedMachine.answerAll_append, BrowsedMachine.answerAll,
    ← List.append_assoc, List.foldl_append, List.foldl_cons, List.foldl_nil]

theorem settled_handle {requests : List BrowseRequest} (waits : state.requests = request :: requests) :
    let answered := machine.handleCompleteData state.host request
    ({ state with
      host := answered.1, requests := requests
      answers := state.answers ++ [answered.2] } : Browsing).settled machine =
        state.settled machine := by
  simp only [settled, waits, BrowsedMachine.answerAll, List.append_assoc, List.singleton_append]

theorem settled_take {answers : List BrowseAnswer} (waits : state.answers = answer :: answers) :
    ({ state with answers := answers, widget := state.widget.take answer } : Browsing).settled machine =
      state.settled machine := by
  simp only [settled, waits, List.cons_append, List.foldl_cons]

end Browsing

theorem Shows.refl (tree : FileTree PathName FileData) (place : Place) :
    Shows tree place (listed tree place) := ⟨listed_once tree place, fun _ => Iff.rfl⟩

inductive Handled (machine : BrowsedMachine) (tree : FileTree PathName FileData) :
    BrowseRequest → FileTree PathName FileData → BrowseAnswer → Prop where
  | lists {request : BrowseRequest} {answer : BrowseAnswer} (place : Place)
      (isDir : tree.IsDir place) (shown : ∀ widget : BrowseWidget,
        widget.take answer = { directory := place.path, rows := listed tree place }) :
      Handled machine tree request tree answer
  | refused {request : BrowseRequest} (err : Int) : Handled machine tree request tree (.ofError err)
  | deleted (dir name : String) : Handled machine tree (.deleteEntry dir name)
      (tree.remove ((machine.place dir).walk name)) (.deleted dir name)
  | made {dir name : String} {now : Int64} {after : FileTree PathName FileData}
      (made : tree.make { isDir := true, data := { size := 0, modified := now } }
        ((machine.place dir).walk name) = some after) :
      Handled machine tree (.makeDirectory dir name) after (.made dir name now)
  | renamed {dir oldName newName : String} {after : FileTree PathName FileData}
      (renamed : tree.move ((machine.place dir).walk oldName) ((machine.place dir).walk newName) =
        some after) :
      Handled machine tree (.renameEntry dir oldName newName) after (.renamed dir oldName newName)

namespace BrowsedMachine

theorem place_path (machine : BrowsedMachine) (place : Place) : machine.place place.path = place :=
  Place.walk_path machine.current place

theorem list_handled (request : BrowseRequest) (place : Place) :
    Handled machine tree request tree (list tree place) := by
  rw [list]
  split
  · rename_i isDir
    refine .lists place isDir fun widget => ?_
    rw [BrowseWidget.take, place.cStr_path]
    rfl
  · exact .refused Err.pathUnreachable

theorem visitFiles_handled (request : BrowseRequest) :
    Handled machine tree request tree (machine.handleCommandOfVisitFiles tree) := by
  rw [handleCommandOfVisitFiles]
  split
  · rename_i isDir
    refine .lists _ isDir fun widget => ?_
    rw [BrowseWidget.take, List.head?_cons, Option.map_some, Place.cStr_path]
    rfl
  · exact .refused Err.pathUnreachable

theorem goUp_handled (request : BrowseRequest) (dir : String) :
    Handled machine tree request tree (machine.handleCommandOfGoUp tree dir) := by
  rw [handleCommandOfGoUp]
  split
  · split
    · exact .refused Err.pathUnreachable
    · exact list_handled request _
  · exact .refused Err.pathUnreachable

theorem deleteEntry_handled (dir name : String) :
    Handled machine tree (.deleteEntry dir name) (machine.handleCommandOfDeleteEntry tree dir name).1
      (machine.handleCommandOfDeleteEntry tree dir name).2 := by
  simp only [handleCommandOfDeleteEntry]
  split
  · exact .refused Err.pathUnreachable
  · split
    all_goals
      split
      · exact .deleted dir name
      · exact .refused Err.operateFailed

theorem makeDirectory_handled (now : Int64) (dir name : String) :
    Handled machine tree (.makeDirectory dir name)
      (machine.handleCommandOfMakeDirectory tree now dir name).1
      (machine.handleCommandOfMakeDirectory tree now dir name).2 := by
  simp only [handleCommandOfMakeDirectory]
  split
  · exact .refused Err.operateFailed
  · rename_i after made
    rw [Option.ite_none_right_eq_some] at made
    exact .made made.2

theorem renameEntry_handled (dir oldName newName : String) :
    Handled machine tree (.renameEntry dir oldName newName)
      (machine.handleCommandOfRenameEntry tree dir oldName newName).1
      (machine.handleCommandOfRenameEntry tree dir oldName newName).2 := by
  simp only [handleCommandOfRenameEntry]
  split
  · exact .refused Err.operateFailed
  · rename_i after renamed
    rw [Option.ite_none_right_eq_some] at renamed
    exact .renamed renamed.2

theorem handled (machine : BrowsedMachine) (host : BrowsedHost) (request : BrowseRequest) :
    Handled machine host.tree request (machine.handleCompleteData host request).1.tree
      (machine.handleCompleteData host request).2 := by
  cases request <;> simp only [handleCompleteData]
  case visitFiles => exact visitFiles_handled .visitFiles
  case goUp dir => exact goUp_handled (.goUp dir) dir
  case goHome => exact list_handled .goHome (machine.place machine.homePath)
  case listEntries dir => exact list_handled (.listEntries dir) (machine.place dir)
  case deleteEntry dir name => exact deleteEntry_handled dir name
  case makeDirectory dir name => exact makeDirectory_handled (machine.now host.handled) dir name
  case renameEntry dir oldName newName => exact renameEntry_handled dir oldName newName

end BrowsedMachine

namespace Handled

theorem truthful_of_lists (handled : Handled machine tree request after answer) (granted : answer.Lists)
    (widget : BrowseWidget) (count : Nat) :
    Truthful ({ tree := after, handled := count }, widget.take answer) := by
  cases handled with
  | lists place isDir shown =>
      rw [shown]
      exact ⟨place, rfl, isDir, Shows.refl tree place⟩
  | refused err => exact granted.elim
  | deleted dir name => exact granted.elim
  | made made => exact granted.elim
  | renamed renamed => exact granted.elim

theorem deleted_truthful {dir name : String} {count later : Nat}
    (truthful : Truthful ({ tree := tree, handled := count }, widget))
    (sound : (BrowseRequest.deleteEntry dir name).Sound machine widget.directory) :
    Truthful ({ tree := tree.remove ((machine.place dir).walk name), handled := later },
      widget.take (.deleted dir name)) := by
  obtain ⟨shown, box, isDir, shows⟩ := truthful
  obtain ⟨clean, ordinary, outside⟩ := sound
  obtain ⟨place, rfl⟩ : ∃ place : Place, dir = place.path := ⟨_, clean.symm⟩
  rw [machine.place_path, ordinary.walk_eq] at outside ⊢
  rw [box, machine.place_path] at outside
  rw [BrowseWidget.take, place.cStr_path, ordinary.cStr_eq, box]
  split
  · rename_i same
    obtain rfl := Place.path_injective same
    exact ⟨shown, box, isDir.remove outside, shows.remove ⟨name, ordinary⟩⟩
  · rename_i other
    refine ⟨shown, box, isDir.remove outside, shows.congr fun child node => ?_⟩
    rw [FileTree.remove_children, and_iff_left]
    rw [List.suffix_cons_iff, not_or]
    refine ⟨fun same => other ?_, outside⟩
    rw [(List.cons.inj same).2]

theorem made_truthful {dir name : String} {now : Int64} {count later : Nat}
    (truthful : Truthful ({ tree := tree, handled := count }, widget))
    (sound : (BrowseRequest.makeDirectory dir name).Sound machine widget.directory)
    (made : tree.make { isDir := true, data := { size := 0, modified := now } }
      ((machine.place dir).walk name) = some after) :
    Truthful ({ tree := after, handled := later }, widget.take (.made dir name now)) := by
  obtain ⟨shown, box, isDir, shows⟩ := truthful
  obtain ⟨clean, ordinary, visible⟩ := sound
  obtain ⟨place, rfl⟩ : ∃ place : Place, dir = place.path := ⟨_, clean.symm⟩
  rw [machine.place_path, ordinary.walk_eq] at made
  rw [BrowseWidget.take, place.cStr_path, ordinary.cStr_eq, box]
  split
  · rename_i same
    obtain rfl := Place.path_injective same
    exact ⟨shown, box, isDir.make made, shows.make made visible rfl⟩
  · rename_i other
    refine ⟨shown, box, isDir.make made, shows.congr fun child node => ?_⟩
    rw [FileTree.make_children made, or_iff_left]
    rintro ⟨same, -⟩
    exact other (by rw [(List.cons.inj same).2])

theorem renamed_truthful {dir oldName newName : String} {count later : Nat}
    (truthful : Truthful ({ tree := tree, handled := count }, widget))
    (sound : (BrowseRequest.renameEntry dir oldName newName).Sound machine widget.directory)
    (renamed : tree.move ((machine.place dir).walk oldName) ((machine.place dir).walk newName) =
      some after) :
    Truthful ({ tree := after, handled := later }, widget.take (.renamed dir oldName newName)) := by
  obtain ⟨shown, box, isDir, shows⟩ := truthful
  obtain ⟨clean, ⟨ordinaryOld, seen⟩, ⟨ordinaryNew, visible⟩, outside⟩ := sound
  obtain ⟨place, rfl⟩ : ∃ place : Place, dir = place.path := ⟨_, clean.symm⟩
  rw [machine.place_path, ordinaryOld.walk_eq] at outside renamed
  rw [ordinaryNew.walk_eq] at renamed
  rw [box, machine.place_path] at outside
  rw [BrowseWidget.take, place.cStr_path, ordinaryOld.cStr_eq, ordinaryNew.cStr_eq, box]
  split
  · rename_i same
    obtain rfl := Place.path_injective same
    exact ⟨shown, box, isDir.move renamed outside, shows.rename renamed isDir seen visible⟩
  · rename_i other
    have elsewhere : shown ≠ place := fun same => other (congrArg _ same)
    refine ⟨shown, box, isDir.move renamed outside, shows.congr fun child node => ?_⟩
    rw [FileTree.move_children renamed isDir outside]
    simp [elsewhere]

theorem truthful (handled : Handled machine tree request after answer) {count later : Nat}
    (truthful : Truthful ({ tree := tree, handled := count }, widget))
    (sound : request.Sound machine widget.directory) :
    Truthful ({ tree := after, handled := later }, widget.take answer) := by
  cases handled with
  | lists place isDir shown =>
      rw [shown]
      exact ⟨place, rfl, isDir, Shows.refl tree place⟩
  | refused err => exact truthful
  | deleted dir name => exact deleted_truthful truthful sound
  | made made => exact made_truthful truthful sound made
  | renamed renamed => exact renamed_truthful truthful sound renamed

end Handled

namespace Browsing

theorem truthful_send (truthful : Truthful (state.settled machine))
    (sound : request.Sound machine (state.settled machine).2.directory) :
    Truthful ((state.send request).settled machine) := by
  rw [settled_send]
  exact (machine.handled (state.settled machine).1 request).truthful truthful sound

theorem truthful_listing (state : Browsing)
    (granted : (machine.handleCompleteData (state.settled machine).1 request).2.Lists) :
    Truthful ((state.send request).settled machine) := by
  rw [settled_send]
  exact (machine.handled (state.settled machine).1 request).truthful_of_lists granted _ _

end Browsing

section

variable {event : BrowseEvent} {final : Browsing}

theorem browseStep_asked (stepped : browseStep machine state event = some final)
    (asked : event.asked state = some request) :
    final = ({ state with
      widget := { state.widget with directory := event.written state }
      dialog := none } : Browsing).send request := by
  rw [browseStep.eq_def] at stepped
  cases dialog : state.dialog with
  | none =>
      cases event <;> simp only [dialog, BrowseEvent.asked, reduceCtorEq,
        Option.some.injEq] at stepped asked
      case enter row =>
        rw [Option.ite_none_right_eq_some] at stepped
        cases stepped.2
        rw [Browsing.send, asked, ← dialog]
        rfl
      all_goals
        subst asked stepped
        rw [Browsing.send, ← dialog]
        rfl
  | some opened =>
      cases event <;> simp only [dialog, BrowseEvent.asked, Option.bind_some, reduceCtorEq,
        Option.some.injEq] at stepped asked
      rw [asked, Option.map_some, Option.getD_some] at stepped
      exact stepped.symm

theorem browseStep_quiet (stepped : browseStep machine state event = some final)
    (asked : event.asked state = none) :
    final.settled machine = ({ state with
      widget := { state.widget with directory := event.written state } } : Browsing).settled
        machine := by
  rw [browseStep.eq_def] at stepped
  cases event with
  | type text =>
      cases dialog : state.dialog <;> simp only [dialog, reduceCtorEq, Option.some.injEq] at stepped
      rw [← stepped]
      rfl
  | ask offered =>
      cases dialog : state.dialog <;> simp only [dialog, reduceCtorEq] at stepped
      rw [Option.ite_none_right_eq_some] at stepped
      cases stepped.2
      rfl
  | confirm text =>
      cases dialog : state.dialog <;> simp only [dialog, reduceCtorEq, Option.some.injEq] at stepped
      rw [BrowseEvent.asked, dialog, Option.bind_some] at asked
      rw [asked, Option.map_none, Option.getD_none] at stepped
      rw [← stepped]
      rfl
  | cancel =>
      cases dialog : state.dialog <;> simp only [dialog, reduceCtorEq, Option.some.injEq] at stepped
      rw [← stepped]
      rfl
  | handle =>
      simp only at stepped
      split at stepped
      · cases stepped
      · rename_i waits
        cases stepped
        exact Browsing.settled_handle waits
  | take =>
      simp only at stepped
      split at stepped
      · cases stepped
      · rename_i waits
        cases stepped
        exact Browsing.settled_take waits
  | pick text => cases asked
  | refresh => cases asked
  | goUp => cases asked
  | goHome => cases asked
  | enter row => cases asked

theorem BrowsedMachine.listEntries_lists {text : String}
    (isDir : host.tree.IsDir (machine.place text)) :
    (machine.handleCompleteData host (.listEntries text)).2.Lists := by
  simp only [handleCompleteData, list, if_pos isDir]
  trivial

theorem BrowsedMachine.visitFiles_lists (isDir : host.tree.IsDir (machine.place machine.homePath)) :
    (machine.handleCompleteData host .visitFiles).2.Lists := by
  simp only [handleCompleteData, handleCommandOfVisitFiles]
  rw [if_pos isDir]
  trivial

theorem Careful.sound (careful : Careful machine state event) (asked : event.asked state = some request) :
    (∃ text, event = .pick text) ∨
      event.written state = state.widget.directory ∧
        request.Sound machine (state.settled machine).2.directory := by
  cases event with
  | pick text => exact .inl ⟨text, rfl⟩
  | confirm text =>
      obtain ⟨dialog, opened, confirmed⟩ := Option.bind_eq_some_iff.mp asked
      exact .inr ⟨rfl, careful dialog opened request confirmed⟩
  | refresh | goUp | goHome | enter row =>
      cases asked
      exact .inr ⟨rfl, trivial⟩
  | type text | ask dialog | cancel | handle | take => cases asked

theorem browseStep_truthful (truthful : Truthful (state.settled machine))
    (careful : Careful machine state event) (stepped : browseStep machine state event = some final) :
    Truthful (final.settled machine) := by
  cases asked : event.asked state with
  | none =>
      rw [browseStep_quiet stepped asked]
      have written : event.written state = state.widget.directory := by
        cases event <;> first | exact careful | rfl | cases asked
      rw [written]
      exact truthful
  | some request =>
      rw [browseStep_asked stepped asked]
      rcases careful.sound asked with ⟨text, rfl⟩ | ⟨written, sound⟩
      · cases asked
        exact Browsing.truthful_listing _ (BrowsedMachine.listEntries_lists careful)
      · rw [written]
        exact Browsing.truthful_send truthful sound

end

def openedBrowser (tree : FileTree PathName FileData) : Browsing :=
  ({ host := { tree := tree } } : Browsing).send .visitFiles

def rootMachine : BrowsedMachine where
  homePath := "/"

def strayBrowser : Browsing where
  host := { tree := .empty }
  widget := { directory := "/gone" }

def twoFiles : FileTree PathName FileData where
  nodes := [
    ([⟨"x", by decide⟩], { isDir := false, data := { size := 1, modified := 0 } }),
    ([⟨"b", by decide⟩], { isDir := true, data := { size := 0, modified := 0 } }),
    ([⟨"x", by decide⟩, ⟨"b", by decide⟩], { isDir := false, data := { size := 2, modified := 0 } })]
  nodup := by decide
  rooted := by
    intro entry member
    simp only [List.mem_cons, List.not_mem_nil, or_false] at member
    rcases member with rfl | rfl | rfl <;> exact ⟨_, _, rfl, by decide⟩

def shownFile : BrowserRow where
  directory := "/"
  name := "x"
  size := 1
  type := .file
  lastModifyingTime := some 0

/-- The user picks another directory and, while its listing is on its way, renames a file of the one
that is still shown: the file of that name in the other is renamed. -/
example : (Transition.run (browseStep rootMachine) (openedBrowser twoFiles)
    [.handle, .take, .pick "/b", .ask (.rename shownFile), .confirm "y", .handle, .take, .handle,
      .take]).map (fun state => state.host.tree.places.map Place.path) =
    some ["/x", "/b", "/b/y"] := by
  rfl

end

end EasyViewer
