import OpcuaGds.Foundation.FileTree

/-! # Sequences of file writes

A program that writes whole files in a fixed order and does not look at the outcome: the
writes as a list, and the files after those of them that were not refused.
-/

/-- Paths with the bytes to write. -/
abbrev FileWrites := List (String × List UInt8)

namespace FileTree

/-- The files after the writes, the first of which has the given index. -/
def perform (granted : Nat → Bool) : Nat → FileWrites → FileTree → FileTree
  | _, [], tree => tree
  | index, (path, content) :: rest, tree =>
      perform granted (index + 1) rest (if granted index then tree.write path content else tree)

/-- The files that the writes leave in an empty tree. -/
def written (writes : FileWrites) : FileTree := perform (fun _ => true) 0 writes []

variable {granted : Nat → Bool} {path : String}

/-- Every file was there or was written. -/
theorem mem_perform {file : String × List UInt8} {index : Nat} {writes : FileWrites}
    {tree : FileTree} (member : file ∈ perform granted index writes tree) :
    file ∈ tree ∨ file ∈ writes := by
  induction writes generalizing index tree with
  | nil => exact Or.inl member
  | cons write rest ih =>
      rcases ih member with before | later
      · split at before
        · rcases mem_write before with rfl | kept
          · exact Or.inr List.mem_cons_self
          · exact Or.inl kept
        · exact Or.inl before
      · exact Or.inr (List.mem_cons_of_mem _ later)

/-- No file goes away. -/
theorem isSome_read_perform {index : Nat} {writes : FileWrites} {tree : FileTree}
    (present : (tree.read path).isSome = true) :
    ((perform granted index writes tree).read path).isSome = true := by
  induction writes generalizing index tree with
  | nil => exact present
  | cons write rest ih =>
      apply ih
      split
      · exact isSome_read_write present _ _
      · exact present

/-- A path that is not written keeps its file. -/
theorem read_perform_of_ne {index : Nat} {writes : FileWrites} {tree : FileTree}
    (others : ∀ write ∈ writes, path ≠ write.1) :
    (perform granted index writes tree).read path = tree.read path := by
  induction writes generalizing index tree with
  | nil => rfl
  | cons write rest ih =>
      have later : ∀ other ∈ rest, path ≠ other.1 :=
        fun other member => others other (List.mem_cons_of_mem _ member)
      rw [perform, ih later]
      split
      · exact read_write_of_ne (others write List.mem_cons_self) _ _
      · rfl

theorem perform_append (index : Nat) (front back : FileWrites) (tree : FileTree) :
    perform granted index (front ++ back) tree =
      perform granted (index + front.length) back (perform granted index front tree) := by
  induction front generalizing index tree with
  | nil => rfl
  | cons write rest ih =>
      rw [List.cons_append, perform, ih, List.length_cons, perform, Nat.add_right_comm,
        Nat.add_assoc]

/-- The last write to a path decides, when it is granted. -/
theorem read_perform_last {index : Nat} {front back : FileWrites} {content : List UInt8}
    {tree : FileTree} (all : ∀ i, granted i = true)
    (others : ∀ write ∈ back, path ≠ write.1) :
    (perform granted index (front ++ (path, content) :: back) tree).read path = some content := by
  rw [perform_append, perform, read_perform_of_ne others, if_pos (all _), read_write_self]

/-- A path that is written ends with the content of one of its writes, when all are granted. -/
theorem exists_read_perform {index : Nat} {writes : FileWrites} {content : List UInt8}
    {tree : FileTree} (all : ∀ i, granted i = true) (member : (path, content) ∈ writes) :
    ∃ last, (path, last) ∈ writes ∧
      (perform granted index writes tree).read path = some last := by
  induction writes generalizing index tree content with
  | nil => cases member
  | cons write rest ih =>
      by_cases again : ∃ other, (path, other) ∈ rest
      · obtain ⟨other, later⟩ := again
        obtain ⟨last, written, found⟩ := ih later
        exact ⟨last, List.mem_cons_of_mem _ written, found⟩
      · have here : (path, content) = write :=
          (List.mem_cons.mp member).resolve_right fun later => again ⟨content, later⟩
        have others : ∀ other ∈ rest, path ≠ other.1 := by
          rintro ⟨name, other⟩ later rfl
          exact again ⟨other, later⟩
        subst here
        refine ⟨content, List.mem_cons_self, ?_⟩
        rw [perform, read_perform_of_ne others, if_pos (all _), read_write_self]

/-- Two directories of which neither path begins with the other share no file. -/
theorem join_ne_of_apart {dir other : String} (notPrefix : ¬ dir.toList <+: other.toList)
    (notPrefixed : ¬ other.toList <+: dir.toList) (name otherName : String) :
    join dir name ≠ join other otherName := by
  intro same
  have inJoin (dir name : String) : dir.toList <+: (join dir name).toList := by
    rw [join, String.append_assoc, String.toList_append]
    exact List.prefix_append _ _
  have otherInJoin := inJoin other otherName
  rw [← same] at otherInJoin
  rcases List.prefix_or_prefix_of_prefix (inJoin dir name) otherInJoin with first | second
  · exact notPrefix first
  · exact notPrefixed second

/-! ## The last write to a path -/

/-- All the writes, in order. -/
def writeAll (writes : FileWrites) (tree : FileTree) : FileTree :=
  writes.foldl (fun tree write => tree.write write.1 write.2) tree

/-- The content that the last write to a path gives it. -/
def lastWritten (writes : FileWrites) (path : String) : Option (List UInt8) :=
  writes.reverse.lookup path

theorem lastWritten_cons (path other : String) (content : List UInt8) (rest : FileWrites) :
    lastWritten ((path, content) :: rest) other =
      (lastWritten rest other).or (if other = path then some content else none) := by
  rw [lastWritten, List.reverse_cons, List.lookup_append, lastWritten]
  by_cases here : other = path
  · rw [if_pos here, here, List.lookup_cons, beq_self_eq_true]
  · rw [if_neg here, List.lookup_cons, beq_eq_false_iff_ne.mpr here]
    rfl

theorem lastWritten_append (front back : FileWrites) (path : String) :
    lastWritten (front ++ back) path = (lastWritten back path).or (lastWritten front path) := by
  rw [lastWritten, List.reverse_append, List.lookup_append]
  rfl

theorem mem_of_lastWritten {writes : FileWrites} {path : String} {content : List UInt8}
    (last : lastWritten writes path = some content) : (path, content) ∈ writes :=
  List.mem_reverse.mp (mem_of_read last)

theorem exists_lastWritten {writes : FileWrites} {path : String} {content : List UInt8}
    (member : (path, content) ∈ writes) : ∃ last, lastWritten writes path = some last := by
  apply Option.isSome_iff_exists.mp
  rw [lastWritten, List.lookup_isSome_iff]
  exact ⟨_, List.mem_reverse.mpr member, beq_self_eq_true path⟩

theorem lastWritten_eq_none {writes : FileWrites} {path : String}
    (others : ∀ write ∈ writes, path ≠ write.1) : lastWritten writes path = none := by
  cases last : lastWritten writes path with
  | none => rfl
  | some content => exact absurd rfl (others _ (mem_of_lastWritten last))

/-- After the writes a path holds what the last of them to it gave it. -/
theorem read_writeAll (writes : FileWrites) (path : String) (tree : FileTree) :
    (writeAll writes tree).read path = (lastWritten writes path).or (tree.read path) := by
  induction writes generalizing tree with
  | nil => rfl
  | cons write rest ih =>
      have later : (writeAll (write :: rest) tree).read path =
          (writeAll rest (tree.write write.1 write.2)).read path := rfl
      rw [later, ih, lastWritten_cons]
      by_cases here : path = write.1
      · rw [here, read_write_self, if_pos rfl, Option.or_assoc]
        rfl
      · rw [read_write_of_ne here, if_neg here, Option.or_none]

/-! ## Writes in place -/

/-- How a write that truncates the file first ends: in full, refused before the file is
opened, or cut short. -/
inductive WriteEnd where
  | done
  | refused
  | cut (kept : Nat)
  deriving DecidableEq, Repr

/-- What a write leaves in the file; `none` where it leaves the file alone. -/
def WriteEnd.left (content : List UInt8) : WriteEnd → Option (List UInt8)
  | .done => some content
  | .refused => none
  | .cut kept => some (content.take kept)

/-- What the writes leave, the first of which has the given index. -/
def attempted (ends : Nat → WriteEnd) : Nat → FileWrites → FileWrites
  | _, [] => []
  | index, (path, content) :: rest =>
      match (ends index).left content with
      | none => attempted ends (index + 1) rest
      | some left => (path, left) :: attempted ends (index + 1) rest

theorem attempted_append (ends : Nat → WriteEnd) (index : Nat) (front back : FileWrites) :
    attempted ends index (front ++ back) =
      attempted ends index front ++ attempted ends (index + front.length) back := by
  induction front generalizing index with
  | nil => rfl
  | cons write rest ih =>
      obtain ⟨path, content⟩ := write
      rw [List.cons_append, attempted, attempted, ih, List.length_cons, Nat.add_right_comm,
        Nat.add_assoc]
      split
      · rfl
      · rfl

/-- A write that leaves something was one of the writes. -/
theorem path_of_mem_attempted {ends : Nat → WriteEnd} {index : Nat} {writes : FileWrites}
    {file : String × List UInt8} (member : file ∈ attempted ends index writes) :
    ∃ write ∈ writes, file.1 = write.1 := by
  induction writes generalizing index with
  | nil => cases member
  | cons write rest ih =>
      obtain ⟨path, content⟩ := write
      have inRest (later : file ∈ attempted ends (index + 1) rest) :
          ∃ write ∈ (path, content) :: rest, file.1 = write.1 := by
        obtain ⟨write, written, samePath⟩ := ih later
        exact ⟨write, List.mem_cons_of_mem _ written, samePath⟩
      rw [attempted] at member
      split at member
      · exact inRest member
      · rcases List.mem_cons.mp member with rfl | later
        · exact ⟨_, List.mem_cons_self, rfl⟩
        · exact inRest later

theorem attempted_of_done {ends : Nat → WriteEnd} (all : ∀ index, ends index = .done)
    (index : Nat) (writes : FileWrites) : attempted ends index writes = writes := by
  induction writes generalizing index with
  | nil => rfl
  | cons write rest ih =>
      obtain ⟨path, content⟩ := write
      simp only [attempted, all, WriteEnd.left, ih]

end FileTree
