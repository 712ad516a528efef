import Mathlib.Data.List.Basic
import Mathlib.Data.List.Nodup

/-!
Trees of directories, given by what lies at each place. A place is the names on the way to it, the
last one first. Nothing lies outside a directory, and there is one thing at a place.
-/

structure TreeNode (Data : Type) where
  isDir : Bool
  data : Data
  deriving DecidableEq, Repr

namespace FileTree

variable {Name Data : Type}

def IsDirIn (nodes : List (List Name × TreeNode Data)) (place : List Name) : Prop :=
  place = [] ∨ ∃ entry ∈ nodes, entry.1 = place ∧ entry.2.isDir = true

instance [DecidableEq Name] (nodes : List (List Name × TreeNode Data)) (place : List Name) :
    Decidable (IsDirIn nodes place) := inferInstanceAs (Decidable (_ ∨ _))

end FileTree

structure FileTree (Name Data : Type) where
  nodes : List (List Name × TreeNode Data)
  nodup : (nodes.map Prod.fst).Nodup
  rooted : ∀ entry ∈ nodes, ∃ name parent, entry.1 = name :: parent ∧
    FileTree.IsDirIn nodes parent

namespace FileTree

variable {Name Data : Type} {tree next : FileTree Name Data} {name : Name}
  {place old new parent dir : List Name} {node : TreeNode Data}

def places (tree : FileTree Name Data) : List (List Name) := tree.nodes.map Prod.fst

def IsDir (tree : FileTree Name Data) (place : List Name) : Prop := IsDirIn tree.nodes place

instance [DecidableEq Name] (tree : FileTree Name Data) (place : List Name) :
    Decidable (tree.IsDir place) := inferInstanceAs (Decidable (IsDirIn _ _))

def empty : FileTree Name Data where
  nodes := []
  nodup := List.nodup_nil
  rooted := fun _ member => absurd member List.not_mem_nil

theorem mem_places : place ∈ tree.places ↔ ∃ node, (place, node) ∈ tree.nodes := by
  constructor
  · intro member
    obtain ⟨⟨found, node⟩, among, rfl⟩ := List.mem_map.mp member
    exact ⟨node, among⟩
  · rintro ⟨node, among⟩
    exact List.mem_map_of_mem among

theorem isDir_iff : tree.IsDir place ↔
    place = [] ∨ ∃ node, (place, node) ∈ tree.nodes ∧ node.isDir = true := by
  refine or_congr Iff.rfl ⟨?_, ?_⟩
  · rintro ⟨⟨found, node⟩, among, rfl, folder⟩
    exact ⟨node, among, folder⟩
  · rintro ⟨node, among, folder⟩
    exact ⟨(place, node), among, rfl, folder⟩

theorem parent_isDir (found : name :: place ∈ tree.places) : tree.IsDir place := by
  obtain ⟨node, among⟩ := mem_places.mp found
  obtain ⟨first, parent, same, folder⟩ := tree.rooted _ among
  obtain ⟨-, rfl⟩ := List.cons.inj same
  exact folder

theorem IsDir.found (isDir : tree.IsDir place) (below : place ≠ []) : place ∈ tree.places := by
  obtain ⟨node, among, -⟩ := (isDir_iff.mp isDir).resolve_left below
  exact mem_places.mpr ⟨node, among⟩

theorem above_isDir (found : place ∈ tree.places) (within : dir <:+ place) (above : dir ≠ place) :
    tree.IsDir dir := by
  induction place with
  | nil => exact absurd (List.suffix_nil.mp within) above
  | cons name place ih =>
      have parent := parent_isDir found
      rcases List.suffix_cons_iff.mp within with same | within
      · exact absurd same above
      · by_cases same : dir = place
        · exact same ▸ parent
        · by_cases root : place = []
          · subst root
            exact absurd (List.suffix_nil.mp within) same
          · exact ih (parent.found root) within same

theorem found_of_within (isDir : tree.IsDir place) (within : dir <:+ place) (below : dir ≠ []) :
    dir ∈ tree.places := by
  have present : place ≠ [] := by
    rintro rfl
    exact below (List.suffix_nil.mp within)
  by_cases same : dir = place
  · exact same ▸ isDir.found present
  · exact (above_isDir (isDir.found present) within same).found below

section

variable [DecidableEq Name]

def children (tree : FileTree Name Data) (dir : List Name) : List (Name × TreeNode Data) :=
  tree.nodes.filterMap fun entry =>
    match entry.1 with
    | [] => none
    | name :: parent => if parent = dir then some (name, entry.2) else none

theorem mem_children : (name, node) ∈ tree.children dir ↔ (name :: dir, node) ∈ tree.nodes := by
  rw [children, List.mem_filterMap]
  constructor
  · rintro ⟨⟨place, found⟩, among, shown⟩
    cases place with
    | nil => cases shown
    | cons first parent =>
        simp only [Option.ite_none_right_eq_some, Option.some.injEq, Prod.mk.injEq] at shown
        obtain ⟨rfl, rfl, rfl⟩ := shown
        exact among
  · intro among
    exact ⟨(name :: dir, node), among, if_pos rfl⟩

theorem children_nodup (tree : FileTree Name Data) (dir : List Name) :
    ((tree.children dir).map Prod.fst).Nodup := by
  have names : (tree.children dir).map Prod.fst = (tree.nodes.map Prod.fst).filterMap fun place =>
      match place with
      | [] => none
      | name :: parent => if parent = dir then some name else none := by
    rw [children, List.map_filterMap, List.filterMap_map]
    refine congrArg (List.filterMap · tree.nodes) (funext fun entry => ?_)
    rcases entry with ⟨_ | ⟨first, parent⟩, node⟩
    · rfl
    · simp only [Function.comp_apply]
      split <;> rfl
  rw [names]
  refine tree.nodup.filterMap fun first second name here there => ?_
  rcases first with _ | ⟨nameFirst, parentFirst⟩
  · contradiction
  rcases second with _ | ⟨nameSecond, parentSecond⟩
  · contradiction
  simp only [Option.mem_def, Option.ite_none_right_eq_some, Option.some.injEq] at here there
  rw [here.1, here.2, there.1, there.2]

def make (tree : FileTree Name Data) (node : TreeNode Data) :
    List Name → Option (FileTree Name Data)
  | [] => none
  | name :: parent =>
      if fresh : tree.IsDir parent ∧ name :: parent ∉ tree.places then
        some {
          nodes := tree.nodes ++ [(name :: parent, node)]
          nodup := by
            rw [List.map_append]
            refine tree.nodup.append (List.nodup_singleton _) fun place before last => fresh.2 ?_
            have same : place = name :: parent := List.mem_singleton.mp last
            exact same ▸ before
          rooted := fun entry member => by
            have stays {place : List Name} (isDir : tree.IsDir place) :
                IsDirIn (tree.nodes ++ [(name :: parent, node)]) place :=
              isDir.imp_right fun ⟨other, among, is⟩ => ⟨other, List.mem_append_left _ among, is⟩
            rcases List.mem_append.mp member with before | last
            · obtain ⟨first, above, same, isDir⟩ := tree.rooted entry before
              exact ⟨first, above, same, stays isDir⟩
            · obtain rfl := List.mem_singleton.mp last
              exact ⟨name, parent, rfl, stays fresh.1⟩ }
      else none

def remove (tree : FileTree Name Data) (place : List Name) : FileTree Name Data where
  nodes := tree.nodes.filter fun entry => ¬ place <:+ entry.1
  nodup := tree.nodup.sublist (List.Sublist.map _ List.filter_sublist)
  rooted := fun entry member => by
    obtain ⟨among, kept⟩ := List.mem_filter.mp member
    obtain ⟨name, parent, same, isDir⟩ := tree.rooted entry among
    refine ⟨name, parent, same, isDir.imp_right fun ⟨other, there, isParent, folder⟩ => ?_⟩
    refine ⟨other, List.mem_filter.mpr ⟨there, ?_⟩, isParent, folder⟩
    simp only [decide_eq_true_eq] at kept ⊢
    rw [isParent]
    exact fun within => kept (same ▸ List.suffix_cons_iff.mpr (.inr within))

/-- Where a place is after a move. -/
def carried (old new place : List Name) : List Name :=
  if old <:+ place then place.take (place.length - old.length) ++ new else place

theorem carried_append (old new above : List Name) : carried old new (above ++ old) = above ++ new := by
  rw [carried, if_pos (List.suffix_append _ _), List.length_append, Nat.add_sub_cancel,
    List.take_left]

theorem carried_apart (apart : ¬ old <:+ place) : carried old new place = place := if_neg apart

theorem carried_injective {first second : List Name} (here : first ∈ tree.places)
    (there : second ∈ tree.places) (below : new ≠ []) (free : new ∉ tree.places)
    (same : carried old new first = carried old new second) : first = second := by
  have apart {above place : List Name} (found : place ∈ tree.places) : above ++ new ≠ place := by
    rintro rfl
    by_cases whole : new = above ++ new
    · exact free (whole ▸ found)
    · exact free ((above_isDir found (List.suffix_append _ _) whole).found below)
  by_cases movesFirst : old <:+ first
  · obtain ⟨above, rfl⟩ := movesFirst
    rw [carried_append] at same
    by_cases movesSecond : old <:+ second
    · obtain ⟨other, rfl⟩ := movesSecond
      rw [carried_append] at same
      rw [List.append_cancel_right same]
    · rw [carried_apart movesSecond] at same
      exact absurd same (apart there)
  · rw [carried_apart movesFirst] at same
    by_cases movesSecond : old <:+ second
    · obtain ⟨other, rfl⟩ := movesSecond
      rw [carried_append] at same
      exact absurd same.symm (apart here)
    · exact same.trans (carried_apart movesSecond)

def moved (tree : FileTree Name Data) (old new : List Name) :
    List (List Name × TreeNode Data) :=
  tree.nodes.map fun entry => (carried old new entry.1, entry.2)

theorem moved_nodup (below : new ≠ []) (free : new ∉ tree.places) :
    ((tree.moved old new).map Prod.fst).Nodup := by
  rw [moved, List.map_map]
  refine List.Nodup.map_on (fun first here second there same => ?_) tree.nodup.of_map
  have places := carried_injective (List.mem_map_of_mem here) (List.mem_map_of_mem there) below free
    same
  exact List.inj_on_of_nodup_map tree.nodup here there places

theorem mem_moved : (place, node) ∈ tree.moved old new ↔
    ∃ before, (before, node) ∈ tree.nodes ∧ carried old new before = place := by
  constructor
  · intro member
    obtain ⟨⟨before, found⟩, among, same⟩ := List.mem_map.mp member
    cases same
    exact ⟨before, among, rfl⟩
  · rintro ⟨before, among, rfl⟩
    exact List.mem_map_of_mem among

theorem moved_keeps (isDir : tree.IsDir dir) (apart : ¬ old <:+ dir) :
    IsDirIn (tree.moved old new) dir := by
  rcases isDir_iff.mp isDir with root | ⟨node, among, folder⟩
  · exact .inl root
  · exact .inr ⟨(dir, node), mem_moved.mpr ⟨dir, among, carried_apart apart⟩, rfl, folder⟩

theorem moved_carries {above : List Name} (isDir : tree.IsDir (above ++ old)) (below : old ≠ []) :
    IsDirIn (tree.moved old new) (above ++ new) := by
  rcases isDir_iff.mp isDir with root | ⟨node, among, folder⟩
  · exact absurd (List.append_eq_nil_iff.mp root).2 below
  · exact .inr ⟨_, mem_moved.mpr ⟨_, among, carried_append old new above⟩, rfl, folder⟩

theorem moved_rooted (isDir : tree.IsDir parent) (outside : ¬ old <:+ parent) :
    ∀ entry ∈ tree.moved old (name :: parent), ∃ first above, entry.1 = first :: above ∧
      IsDirIn (tree.moved old (name :: parent)) above := by
  rintro ⟨place, node⟩ member
  obtain ⟨before, among, rfl⟩ := mem_moved.mp member
  obtain ⟨first, above, same, under⟩ := tree.rooted _ among
  obtain rfl : before = first :: above := same
  by_cases moves : old <:+ first :: above
  · rcases List.suffix_cons_iff.mp moves with whole | ⟨between, rfl⟩
    · refine ⟨name, parent, ?_, moved_keeps isDir outside⟩
      rw [← whole]
      exact carried_append old (name :: parent) []
    · refine ⟨first, between ++ name :: parent, ?_, moved_carries under ?_⟩
      · exact carried_append old (name :: parent) (first :: between)
      · rintro rfl
        exact outside List.nil_suffix
  · refine ⟨first, above, carried_apart moves, moved_keeps under fun within => ?_⟩
    exact moves (List.suffix_cons_iff.mpr (.inr within))

def move (tree : FileTree Name Data) (old : List Name) : List Name → Option (FileTree Name Data)
  | [] => none
  | name :: parent =>
      if allowed : old ∈ tree.places ∧ tree.IsDir parent ∧ name :: parent ∉ tree.places ∧
          ¬ old <:+ parent then
        some {
          nodes := tree.moved old (name :: parent)
          nodup := moved_nodup (List.cons_ne_nil _ _) allowed.2.2.1
          rooted := moved_rooted allowed.2.1 allowed.2.2.2 }
      else none

theorem make_children (made : tree.make node place = some next) {other : TreeNode Data} :
    (name, other) ∈ next.children dir ↔
      (name, other) ∈ tree.children dir ∨ name :: dir = place ∧ other = node := by
  rw [mem_children, mem_children]
  cases place with
  | nil => cases made
  | cons first parent =>
      rw [make] at made
      split at made
      · cases made
        simp only [List.mem_append, List.mem_singleton, Prod.mk.injEq]
      · cases made

theorem make_free (made : tree.make node place = some next) : place ∉ tree.places := by
  cases place with
  | nil => cases made
  | cons first parent =>
      rw [make] at made
      split at made
      · rename_i fresh
        exact fresh.2
      · cases made

theorem move_free (renamed : tree.move old new = some next) : new ∉ tree.places := by
  cases new with
  | nil => cases renamed
  | cons name parent =>
      rw [move] at renamed
      split at renamed
      · rename_i allowed
        exact allowed.2.2.1
      · cases renamed

theorem IsDir.make (isDir : tree.IsDir dir) (made : tree.make node place = some next) :
    next.IsDir dir := by
  rcases isDir_iff.mp isDir with root | ⟨folder, among, is⟩
  · exact .inl root
  · cases dir with
    | nil => exact .inl rfl
    | cons name dir =>
        rw [← mem_children] at among
        exact isDir_iff.mpr (.inr ⟨folder, mem_children.mp ((make_children made).mpr (.inl among)), is⟩)

theorem mem_remove : (dir, node) ∈ (tree.remove place).nodes ↔
    (dir, node) ∈ tree.nodes ∧ ¬ place <:+ dir := by
  simp only [remove, List.mem_filter, decide_eq_true_eq]

theorem remove_children : (name, node) ∈ (tree.remove place).children dir ↔
    (name, node) ∈ tree.children dir ∧ ¬ place <:+ name :: dir := by
  rw [mem_children, mem_children, mem_remove]

theorem IsDir.remove (isDir : tree.IsDir dir) (outside : ¬ place <:+ dir) :
    (tree.remove place).IsDir dir := by
  rcases isDir_iff.mp isDir with root | ⟨folder, among, is⟩
  · exact .inl root
  · exact isDir_iff.mpr (.inr ⟨folder, mem_remove.mpr ⟨among, outside⟩, is⟩)

theorem IsDir.move (isDir : tree.IsDir dir) (renamed : tree.move old new = some next)
    (outside : ¬ old <:+ dir) : next.IsDir dir := by
  cases new with
  | nil => cases renamed
  | cons name parent =>
      rw [FileTree.move] at renamed
      split at renamed
      · cases renamed
        exact moved_keeps isDir outside
      · cases renamed

/-- A new name in the same directory changes that entry of it, and no directory outside. -/
theorem move_children {oldName newName : Name}
    (renamed : tree.move (oldName :: place) (newName :: place) = some next) (isDir : tree.IsDir dir)
    (outside : ¬ oldName :: place <:+ dir) :
    (name, node) ∈ next.children dir ↔
      (dir = place ∧ name = newName ∧ (oldName, node) ∈ tree.children dir) ∨
        (name, node) ∈ tree.children dir ∧ ¬ (dir = place ∧ name = oldName) := by
  rw [move] at renamed
  split at renamed
  · rename_i allowed
    cases renamed
    rw [mem_children, mem_children, mem_children, mem_moved]
    have apart {name : Name} : oldName :: place <:+ name :: dir ↔ dir = place ∧ name = oldName := by
      rw [List.suffix_cons_iff, or_iff_left outside, List.cons.injEq, and_comm, eq_comm,
        @eq_comm _ oldName]
    constructor
    · rintro ⟨before, among, same⟩
      by_cases moves : oldName :: place <:+ before
      · obtain ⟨above, rfl⟩ := moves
        rw [carried_append] at same
        cases above with
        | nil =>
            obtain ⟨rfl, rfl⟩ := List.cons.inj same
            exact .inl ⟨rfl, rfl, among⟩
        | cons first above =>
            obtain ⟨-, rfl⟩ := List.cons.inj same
            have found := found_of_within isDir (List.suffix_append _ _) (List.cons_ne_nil _ _)
            exact absurd found allowed.2.2.1
      · rw [carried_apart moves] at same
        subst same
        exact .inr ⟨among, fun here => moves (apart.mpr here)⟩
    · rintro (⟨rfl, rfl, among⟩ | ⟨among, stays⟩)
      · exact ⟨_, among, carried_append _ _ []⟩
      · exact ⟨_, among, carried_apart fun moves => stays (apart.mp moves)⟩
  · cases renamed

end

end FileTree
