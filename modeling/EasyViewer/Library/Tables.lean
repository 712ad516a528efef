import Mathlib.Data.List.Basic

/-!
Tables with a unique key, and a connection that executes statements on data, on its own or in a
transaction that can be rolled back. What fails of a connection changes nothing.
-/

structure Table (Row Key : Type) (key : Row → Key) where
  rows : List Row
  unique : rows.Pairwise fun first second => key first ≠ key second

namespace Table

variable {Row Key : Type} {key : Row → Key}

def empty : Table Row Key key where
  rows := []
  unique := List.Pairwise.nil

def delete (table : Table Row Key key) (chosen : Row → Bool) : Table Row Key key where
  rows := table.rows.filter fun row => !chosen row
  unique := table.unique.filter _

def update (table : Table Row Key key) (change : Row → Row)
    (keeps : ∀ row, key (change row) = key row) : Table Row Key key where
  rows := table.rows.map change
  unique := by
    rw [List.pairwise_map]
    exact table.unique.imp fun apart => by simpa only [keeps] using apart

variable {table next : Table Row Key key} {row : Row}

theorem mem_delete {chosen : Row → Bool} :
    row ∈ (table.delete chosen).rows ↔ row ∈ table.rows ∧ chosen row = false := by
  simp [delete]

theorem delete_eq_self {chosen : Row → Bool} :
    table.delete chosen = table ↔ ∀ row ∈ table.rows, chosen row = false := by
  obtain ⟨rows, unique⟩ := table
  simp [delete, List.filter_eq_self]

theorem countP_le_one {chosen : Row → Bool} {wanted : Key}
    (same : ∀ row ∈ table.rows, chosen row = true → key row = wanted) :
    table.rows.countP chosen ≤ 1 := by
  obtain ⟨rows, unique⟩ := table
  simp only at same ⊢
  induction rows with
  | nil => exact Nat.zero_le _
  | cons first rows ih =>
      obtain ⟨apart, others⟩ := List.pairwise_cons.mp unique
      rw [List.countP_cons]
      by_cases here : chosen first = true
      · have none : rows.countP chosen = 0 := by
          rw [List.countP_eq_zero]
          intro row member also
          have firstKey := same first List.mem_cons_self here
          have rowKey := same row (List.mem_cons_of_mem _ member) also
          exact apart row member (firstKey.trans rowKey.symm)
        simp [none, here]
      · have rest := ih others fun row member => same row (List.mem_cons_of_mem _ member)
        simpa [here] using rest

variable [DecidableEq Key]

def find? (table : Table Row Key key) (wanted : Key) : Option Row :=
  table.rows.find? fun row => key row = wanted

theorem find?_eq_none {wanted : Key} :
    table.find? wanted = none ↔ ∀ row ∈ table.rows, key row ≠ wanted := by
  simp [find?]

theorem find?_eq_some {wanted : Key} :
    table.find? wanted = some row ↔ row ∈ table.rows ∧ key row = wanted := by
  obtain ⟨rows, unique⟩ := table
  simp only [find?]
  induction rows with
  | nil => simp
  | cons first rows ih =>
      obtain ⟨apart, others⟩ := List.pairwise_cons.mp unique
      rw [List.find?_cons]
      by_cases here : key first = wanted
      · simp only [here, decide_true, Option.some.injEq, List.mem_cons]
        constructor
        · rintro rfl
          exact ⟨.inl rfl, here⟩
        · rintro ⟨rfl | later, found⟩
          · rfl
          · exact absurd (here.trans found.symm) (apart row later)
      · simp only [here, decide_false, ih others, List.mem_cons]
        refine and_congr_left fun found => ⟨.inr, fun member => ?_⟩
        rcases member with rfl | later
        · exact absurd found here
        · exact later

/-- No row, if its key is taken. -/
def insert (table : Table Row Key key) (row : Row) : Option (Table Row Key key) :=
  if free : table.find? (key row) = none then
    some {
      rows := table.rows ++ [row]
      unique := by
        refine List.pairwise_append.mpr ⟨table.unique, List.pairwise_singleton _ _, ?_⟩
        intro first member second isRow
        rw [List.mem_singleton.mp isRow]
        exact find?_eq_none.mp free first member }
  else none

theorem insert_eq_some : table.insert row = some next ↔
    table.find? (key row) = none ∧ next.rows = table.rows ++ [row] := by
  rw [insert]
  split
  · rename_i free
    rw [Option.some.injEq]
    constructor
    · rintro rfl
      exact ⟨free, rfl⟩
    · rintro ⟨_, rows⟩
      cases next
      cases rows
      rfl
  · rename_i taken
    exact iff_of_false nofun fun both => taken both.1

theorem insert_eq_none : table.insert row = none ↔ table.find? (key row) ≠ none := by
  rw [insert]
  split
  · rename_i free
    exact iff_of_false nofun fun taken => taken free
  · rename_i taken
    exact iff_of_true rfl taken

end Table

/-- The data, and what they were when the open transaction began. -/
structure Connection (Data : Type) where
  data : Data
  saved : Option Data := none

namespace Connection

variable {Data : Type} {connection next : Connection Data}

def transaction (connection : Connection Data) (succeeds : Bool) : Option (Connection Data) :=
  if succeeds ∧ connection.saved.isNone then
    some { connection with saved := some connection.data }
  else none

/-- A statement may fail for its own reasons, such as a constraint. -/
def execute (connection : Connection Data) (succeeds : Bool) (statement : Data → Option Data) :
    Option (Connection Data) :=
  if succeeds then (statement connection.data).map fun data => { connection with data := data }
  else none

/-- There has to be a transaction. -/
def commit (connection : Connection Data) (succeeds : Bool) : Option (Connection Data) :=
  if succeeds ∧ connection.saved.isSome then some { connection with saved := none } else none

def rollback (connection : Connection Data) : Connection Data :=
  match connection.saved with
  | some data => { data := data }
  | none => connection

theorem transaction_eq_some {succeeds : Bool} :
    connection.transaction succeeds = some next ↔
      succeeds = true ∧ connection.saved = none ∧
        next = { data := connection.data, saved := some connection.data } := by
  rw [transaction]
  split
  · rename_i both
    rw [Option.some.injEq, eq_comm]
    simp [both.1, Option.isNone_iff_eq_none.mp both.2]
  · rename_i neither
    refine iff_of_false nofun fun all => neither ⟨all.1, ?_⟩
    rw [all.2.1]
    rfl

theorem execute_eq_some {succeeds : Bool} {statement : Data → Option Data} :
    connection.execute succeeds statement = some next ↔
      succeeds = true ∧ ∃ data, statement connection.data = some data ∧
        next = { data := data, saved := connection.saved } := by
  rw [execute]
  split
  · rename_i works
    simp only [works, true_and, Option.map_eq_some_iff]
    exact exists_congr fun data => and_congr_right fun _ => eq_comm
  · rename_i fails
    exact iff_of_false nofun fun both => fails both.1

theorem commit_eq_some {succeeds : Bool} :
    connection.commit succeeds = some next ↔
      succeeds = true ∧ connection.saved ≠ none ∧ next = { data := connection.data } := by
  rw [commit]
  split
  · rename_i both
    have begun : connection.saved ≠ none := Option.isSome_iff_ne_none.mp both.2
    rw [Option.some.injEq, eq_comm]
    simp [both.1, begun]
  · rename_i neither
    exact iff_of_false nofun fun all =>
      neither ⟨all.1, Option.isSome_iff_ne_none.mpr all.2.1⟩

end Connection
