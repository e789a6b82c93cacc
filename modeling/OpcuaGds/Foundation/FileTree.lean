import Mathlib.Data.List.Sort
import Mathlib.Data.String.Basic

/-! # Files by path

The contents of a directory tree as a list of files, with whole-file writes, deletion
and the listing of one directory.
-/

/-- Paths with the bytes of the files. -/
abbrev FileTree := List (String × List UInt8)

namespace FileTree

def read (path : String) (tree : FileTree) : Option (List UInt8) := tree.lookup path

def delete (path : String) (tree : FileTree) : FileTree :=
  tree.filter fun file => file.1 != path

/-- Replace the file of a path, or create it. -/
def write (path : String) (content : List UInt8) (tree : FileTree) : FileTree :=
  (path, content) :: delete path tree

/-- The path of a file in a directory. -/
def join (dir name : String) : String := dir ++ "/" ++ name

/-- The last component of a path. -/
def nameOf (path : String) : String :=
  String.ofList (path.toList.reverse.takeWhile fun c => c != '/').reverse

/-- The files directly in a directory, by path. -/
def filesIn (dir : String) (tree : FileTree) : FileTree :=
  (tree.filter fun file => file.1 == join dir (nameOf file.1)).insertionSort
    fun left right => left.1 ≤ right.1

theorem nameOf_join {name : String} (plain : '/' ∉ name.toList) (dir : String) :
    nameOf (join dir name) = name := by
  have chars : (join dir name).toList.reverse =
      name.toList.reverse ++ '/' :: dir.toList.reverse := by
    simp [join]
  have kept : ∀ c ∈ name.toList.reverse, (c != '/') = true := by
    intro c member
    rw [bne_iff_ne]
    rintro rfl
    exact plain (List.mem_reverse.mp member)
  rw [nameOf, chars, List.takeWhile_append_of_pos kept, List.takeWhile_cons_of_neg (by simp),
    List.append_nil, List.reverse_reverse, String.ofList_toList]

/-- An ending without a separator is the end of the name. -/
theorem nameOf_append {ending : String} (plain : '/' ∉ ending.toList) (front : String) :
    nameOf (front ++ ending) = nameOf front ++ ending := by
  have kept : ∀ c ∈ ending.toList.reverse, (c != '/') = true := by
    intro c member
    rw [bne_iff_ne]
    intro slash
    exact plain (List.mem_reverse.mp (slash ▸ member))
  rw [nameOf, nameOf, String.toList_append, List.reverse_append,
    List.takeWhile_append_of_pos kept, List.reverse_append, List.reverse_reverse,
    String.ofList_append, String.ofList_toList]

theorem join_right_inj {dir name other : String} :
    join dir name = join dir other ↔ name = other := by
  rw [join, join, String.append_right_inj]

/-- Files of different names are different files, whatever their directories. -/
theorem join_ne_of_name {name other : String} (plain : '/' ∉ name.toList)
    (otherPlain : '/' ∉ other.toList) (distinct : name ≠ other) (dir otherDir : String) :
    join dir name ≠ join otherDir other := by
  intro same
  have names := congrArg nameOf same
  rw [nameOf_join plain, nameOf_join otherPlain] at names
  exact distinct names

/-- A text with neither a separator nor the end of a C string. -/
def IsNamePart (text : String) : Prop := '/' ∉ text.toList ∧ '\x00' ∉ text.toList

instance (text : String) : Decidable (IsNamePart text) := inferInstanceAs (Decidable (_ ∧ _))

/-- A name that stands for a file of the directory it is joined to. -/
structure IsFileName (name : String) : Prop where
  part : IsNamePart name
  notDots : name ∉ ["", ".", ".."]

theorem IsFileName.append {stem ending : String} (stemPart : IsNamePart stem)
    (endingPart : IsNamePart ending) (long : 3 ≤ ending.length) : IsFileName (stem ++ ending) where
  part := by
    simp only [IsNamePart, String.toList_append, List.mem_append, not_or]
    exact ⟨⟨stemPart.1, endingPart.1⟩, stemPart.2, endingPart.2⟩
  notDots := by
    have length : 3 ≤ (stem ++ ending).length := by
      rw [String.length_append]
      omega
    intro special
    simp only [List.mem_cons, List.not_mem_nil, or_false] at special
    rcases special with same | same | same <;>
      · rw [same] at length
        exact absurd length (by decide)

theorem mem_of_read {path : String} {content : List UInt8} {tree : FileTree}
    (found : tree.read path = some content) : (path, content) ∈ tree := by
  obtain ⟨front, back, same, _⟩ := List.lookup_eq_some_iff.mp found
  rw [same]
  exact List.mem_append_right _ List.mem_cons_self

theorem mem_filesIn {dir : String} {tree : FileTree} {file : String × List UInt8} :
    file ∈ tree.filesIn dir ↔ file ∈ tree ∧ file.1 = join dir (nameOf file.1) := by
  rw [filesIn, List.mem_insertionSort, List.mem_filter, beq_iff_eq]

theorem mem_write {path : String} {content : List UInt8} {tree : FileTree}
    {file : String × List UInt8} (member : file ∈ tree.write path content) :
    file = (path, content) ∨ file ∈ tree := by
  rcases List.mem_cons.mp member with here | kept
  · exact Or.inl here
  · exact Or.inr (List.mem_of_mem_filter kept)

theorem read_delete (path other : String) (tree : FileTree) :
    (tree.delete path).read other = if other = path then none else tree.read other := by
  induction tree with
  | nil => exact (ite_self none).symm
  | cons file rest ih =>
      obtain ⟨name, content⟩ := file
      simp only [read, delete] at ih ⊢
      rw [List.filter_cons, List.lookup_cons]
      by_cases same : name = path
      · subst same
        rw [if_neg (by simp), ih]
        by_cases asked : other = name
        · rw [if_pos asked, if_pos asked]
        · rw [if_neg asked, if_neg asked, beq_eq_false_iff_ne.mpr asked]
      · rw [if_pos (by simpa using same), List.lookup_cons, ih]
        by_cases asked : other = name
        · subst asked
          simp only [beq_self_eq_true, if_neg same]
        · simp only [beq_eq_false_iff_ne.mpr asked]

theorem read_deleteAll (files : FileTree) (path : String) (tree : FileTree) :
    (files.foldl (fun tree file => tree.delete file.1) tree).read path =
      if path ∈ files.map Prod.fst then none else tree.read path := by
  induction files generalizing tree with
  | nil => rfl
  | cons file rest ih =>
      rw [List.foldl_cons, ih, read_delete, List.map_cons]
      by_cases here : path = file.1
      · rw [if_pos here, ite_self, if_pos (here ▸ List.mem_cons_self)]
      · rw [if_neg here]
        simp only [List.mem_cons, here, false_or]

theorem read_write_self (path : String) (content : List UInt8) (tree : FileTree) :
    (tree.write path content).read path = some content := by
  rw [write, read, List.lookup_cons, beq_self_eq_true]

theorem read_write_of_ne {path other : String} (distinct : other ≠ path) (content : List UInt8)
    (tree : FileTree) : (tree.write path content).read other = tree.read other := by
  rw [write, read, List.lookup_cons, beq_eq_false_iff_ne.mpr distinct]
  exact (read_delete path other tree).trans (if_neg distinct)

theorem isSome_read_iff {path : String} {tree : FileTree} :
    (tree.read path).isSome = true ↔ ∃ content, (path, content) ∈ tree := by
  rw [read, List.lookup_isSome_iff]
  constructor
  · intro found
    obtain ⟨file, member, same⟩ := found
    rw [eq_of_beq same]
    exact ⟨file.2, member⟩
  · intro found
    obtain ⟨content, member⟩ := found
    exact ⟨(path, content), member, beq_self_eq_true path⟩

/-- Every path is held once. -/
def Distinct (tree : FileTree) : Prop := (tree.map Prod.fst).Nodup

/-- A file that is held is the one that is read. -/
theorem Distinct.read_eq {path : String} {content : List UInt8} {tree : FileTree}
    (distinct : tree.Distinct) (member : (path, content) ∈ tree) :
    tree.read path = some content := by
  induction tree with
  | nil => cases member
  | cons file rest ih =>
      obtain ⟨fresh, later⟩ := List.nodup_cons.mp distinct
      rw [read, List.lookup_cons]
      rcases List.mem_cons.mp member with here | inRest
      · rw [← here, beq_self_eq_true]
      · have other : path ≠ file.1 := by
          intro same
          exact fresh (same ▸ List.mem_map_of_mem (f := Prod.fst) inRest)
        rw [beq_eq_false_iff_ne.mpr other]
        exact ih later inRest

theorem Distinct.delete {tree : FileTree} (distinct : tree.Distinct) (path : String) :
    (tree.delete path).Distinct :=
  List.Nodup.sublist (List.filter_sublist.map Prod.fst) distinct

theorem Distinct.write {tree : FileTree} (distinct : tree.Distinct) (path : String)
    (content : List UInt8) : (tree.write path content).Distinct := by
  refine List.nodup_cons.mpr ⟨?_, distinct.delete path⟩
  intro member
  obtain ⟨file, kept, same⟩ := List.mem_map.mp member
  have other := (List.mem_filter.mp kept).2
  rw [same, bne_self_eq_false] at other
  cases other

/-- A write removes no file. -/
theorem isSome_read_write {path : String} {tree : FileTree}
    (there : (tree.read path).isSome = true) (other : String) (content : List UInt8) :
    ((tree.write other content).read path).isSome = true := by
  by_cases here : path = other
  · rw [here, read_write_self]
    rfl
  · rw [read_write_of_ne here]
    exact there

end FileTree

/-- The bytes of a text file. -/
def textBytes (text : String) : List UInt8 := text.toUTF8.data.toList

theorem textBytes_injective {left right : String} (same : textBytes left = textBytes right) :
    left = right := by
  have data : left.toUTF8.data = right.toUTF8.data := Array.toList_inj.mp same
  exact String.toByteArray_inj.mp (ByteArray.ext data)
