import OpcuaGds.Foundation.FileWrites

/-! # Writes that may fail

A file is written through a temporary file next to it, which replaces it at the end. A write
that fails leaves the file as it was, and its temporary file may stay. What a run of such
writes makes of the files is said path by path.
-/

namespace FileTree

/-- The directory of a path, with its separator. -/
def dirPart (path : String) : String :=
  String.ofList (path.toList.reverse.dropWhile fun c => c != '/').reverse

/-- A temporary file that is not removed stays next to the file it was made for: its name and
what was written so far. It takes no name that is in use. -/
def leave (path : String) (leftover : Option (String × List UInt8)) (tree : FileTree) : FileTree :=
  match leftover with
  | none => tree
  | some (name, content) =>
      if (tree.read (dirPart path ++ name)).isSome then tree
      else tree.write (dirPart path ++ name) content

/-- Two trees with the same files. -/
def SameFiles (left right : FileTree) : Prop := ∀ path, left.read path = right.read path

/-- A temporary file that would stay finds its name in use. -/
def NothingLeft (tree : FileTree) (path : String) (leftover : Option (String × List UInt8)) :
    Prop :=
  ∀ name content, leftover = some (name, content) → (tree.read (dirPart path ++ name)).isSome

theorem SameFiles.refl (tree : FileTree) : SameFiles tree tree := fun _ => rfl

theorem sameFiles_write_iff {path : String} {content : List UInt8} {tree : FileTree} :
    SameFiles (tree.write path content) tree ↔ tree.read path = some content := by
  constructor
  · intro same
    rw [← same path, read_write_self]
  · intro there other
    by_cases here : other = path
    · rw [here, read_write_self, there]
    · exact read_write_of_ne here content tree

theorem sameFiles_leave_iff {path : String} {leftover : Option (String × List UInt8)}
    {tree : FileTree} :
    SameFiles (tree.leave path leftover) tree ↔ NothingLeft tree path leftover := by
  cases leftover with
  | none => exact iff_of_true (SameFiles.refl tree) nofun
  | some file =>
      obtain ⟨name, content⟩ := file
      rw [leave]
      constructor
      · intro same other written here
        obtain ⟨rfl, rfl⟩ := Prod.mk.inj (Option.some.inj here)
        by_contra free
        rw [if_neg free] at same
        rw [sameFiles_write_iff.mp same] at free
        exact free rfl
      · intro nothing
        rw [if_pos (nothing name content rfl)]
        exact SameFiles.refl tree

/-- A temporary file that stays changes no file that is there. -/
theorem read_leave_of_isSome {path other : String} {leftover : Option (String × List UInt8)}
    {tree : FileTree} (there : (tree.read other).isSome = true) :
    (tree.leave path leftover).read other = tree.read other := by
  cases leftover with
  | none => rfl
  | some file =>
      rw [leave]
      split
      · rfl
      · rename_i free
        have distinct : other ≠ dirPart path ++ file.1 := by
          rintro rfl
          exact free there
        exact read_write_of_ne distinct _ _

/-- What a temporary file that stays adds. -/
theorem read_leave (path other : String) (leftover : Option (String × List UInt8))
    (tree : FileTree) :
    (tree.leave path leftover).read other = tree.read other ∨
      tree.read other = none ∧ ∃ name content, leftover = some (name, content) ∧
        other = dirPart path ++ name ∧ (tree.leave path leftover).read other = some content := by
  cases leftover with
  | none => exact .inl rfl
  | some file =>
      obtain ⟨name, content⟩ := file
      rw [leave]
      split
      · exact .inl rfl
      · rename_i free
        by_cases here : other = dirPart path ++ name
        · refine .inr ⟨?_, name, content, rfl, here, ?_⟩
          · rw [here]
            exact Option.not_isSome_iff_eq_none.mp free
          · rw [here, read_write_self]
        · exact .inl (read_write_of_ne here content tree)

/-! ## Temporary files -/

/-- The name of a temporary file. -/
structure TempName where
  text : String
  plain : '/' ∉ text.toList
  noDot : '.' ∉ text.toList

/-- A path whose name has no ending, as those of temporary files. -/
def isTemporary (path : String) : Bool := !(nameOf path).toList.contains '.'

theorem nameOf_dirPart_append {name : String} (plain : '/' ∉ name.toList) (path : String) :
    nameOf (dirPart path ++ name) = name := by
  have inName : ∀ c ∈ name.toList.reverse, (c != '/') = true := by
    intro c member
    rw [bne_iff_ne]
    rintro rfl
    exact plain (List.mem_reverse.mp member)
  have stops (chars : List Char) :
      (chars.dropWhile fun c => c != '/').takeWhile (fun c => c != '/') = [] := by
    induction chars with
    | nil => rfl
    | cons c rest ih =>
        rw [List.dropWhile_cons]
        split
        · exact ih
        · rename_i slash
          exact List.takeWhile_cons_of_neg slash
  rw [nameOf, dirPart, String.toList_append, String.toList_ofList, List.reverse_append,
    List.reverse_reverse, List.takeWhile_append_of_pos inName, stops, List.append_nil,
    List.reverse_reverse, String.ofList_toList]

theorem isTemporary_dirPart_append (path : String) (name : TempName) :
    isTemporary (dirPart path ++ name.text) = true := by
  rw [isTemporary, nameOf_dirPart_append name.plain, Bool.not_eq_true', ← Bool.not_eq_true,
    List.contains_iff_mem]
  exact name.noDot

/-! ## Changes -/

/-- What became of the files: a path that is not temporary ends with its last change, and a
temporary path gets a file where none was if it is among those left. -/
structure Changed (change : String → Option (Option (List UInt8))) (leftAt : String → Prop)
    (before after : FileTree) : Prop where
  permanent : ∀ path, isTemporary path = false →
    after.read path = (change path).getD (before.read path)
  temporary : ∀ path, isTemporary path = true →
    (before.read path).isSome → after.read path = before.read path
  isLeft : ∀ path, isTemporary path = true →
    before.read path = none → ((after.read path).isSome ↔ leftAt path)

namespace Changed

variable {change later : String → Option (Option (List UInt8))} {leftAt leftLater : String → Prop}
  {before middle after : FileTree}

theorem refl (tree : FileTree) : Changed (fun _ => none) (fun _ => False) tree tree where
  permanent := fun _ _ => rfl
  temporary := fun _ _ _ => rfl
  isLeft := fun path _ free => by rw [free]; exact iff_of_false Bool.false_ne_true id

theorem trans (first : Changed change leftAt before middle)
    (second : Changed later leftLater middle after) :
    Changed (fun path => (later path).or (change path))
      (fun path => leftAt path ∨ leftLater path) before after where
  permanent := by
    intro path permanent
    rw [second.permanent path permanent, first.permanent path permanent]
    cases later path <;> rfl
  temporary := by
    intro path isTemporary there
    have kept := first.temporary path isTemporary there
    rw [second.temporary path isTemporary (kept ▸ there), kept]
  isLeft := by
    intro path isTemporary free
    have firstLeft := first.isLeft path isTemporary free
    cases found : middle.read path with
    | none =>
        rw [found] at firstLeft
        rw [second.isLeft path isTemporary found, ← firstLeft]
        exact (or_iff_right Bool.false_ne_true).symm
    | some content =>
        have there : (middle.read path).isSome := by rw [found]; rfl
        rw [second.temporary path isTemporary there]
        exact iff_of_true there (.inl (firstLeft.mp there))

/-- Changes and leftovers matter by what they say of each path. -/
theorem congr (changed : Changed change leftAt before after)
    (sameChange : ∀ path, later path = change path)
    (sameLeft : ∀ path, leftLater path ↔ leftAt path) : Changed later leftLater before after := by
  rwa [funext sameChange, funext fun path => propext (sameLeft path)]

theorem write {path : String} (permanent : isTemporary path = false) (content : List UInt8)
    (tree : FileTree) :
    Changed (fun other => if other = path then some (some content) else none) (fun _ => False)
      tree (tree.write path content) where
  permanent := by
    intro other _
    split
    · rename_i here
      rw [here, read_write_self]
      rfl
    · rename_i distinct
      exact read_write_of_ne distinct content tree
  temporary := by
    intro other temporary _
    exact read_write_of_ne (by rintro rfl; rw [permanent] at temporary; cases temporary) _ _
  isLeft := by
    intro other temporary free
    rw [read_write_of_ne (by rintro rfl; rw [permanent] at temporary; cases temporary), free]
    exact iff_of_false Bool.false_ne_true id

theorem leave (path : String) (leftover : Option (TempName × List UInt8)) (tree : FileTree) :
    Changed (fun _ => none)
      (fun other => ∃ name content, leftover = some (name, content) ∧
        other = dirPart path ++ name.text)
      tree (tree.leave path (leftover.map fun file => (file.1.text, file.2))) where
  permanent := by
    intro other permanent
    rcases read_leave path other (leftover.map fun file => (file.1.text, file.2)) tree with
      same | ⟨_, name, content, left, here, _⟩
    · exact same
    · obtain ⟨file, _, same⟩ := Option.map_eq_some_iff.mp left
      cases same
      rw [here, isTemporary_dirPart_append] at permanent
      cases permanent
  temporary := fun _ _ there => read_leave_of_isSome there
  isLeft := by
    intro other _ free
    constructor
    · intro there
      rcases read_leave path other (leftover.map fun file => (file.1.text, file.2)) tree with
        same | ⟨_, name, content, left, here, _⟩
      · rw [same, free] at there
        cases there
      · obtain ⟨file, isLeft, same⟩ := Option.map_eq_some_iff.mp left
        cases same
        exact ⟨file.1, file.2, isLeft, here⟩
    · rintro ⟨name, content, rfl, rfl⟩
      rw [Option.map_some, FileTree.leave, free, Option.isSome_none, if_neg Bool.false_ne_true,
        read_write_self]
      rfl

/-- When some paths hold what they held. -/
theorem unchanged_iff (changed : Changed change leftAt before after) (concerns : String → Prop) :
    (∀ path, concerns path → after.read path = before.read path) ↔
      (∀ path, concerns path → isTemporary path = false →
        ∀ content, change path = some content → before.read path = content) ∧
      ∀ path, concerns path → isTemporary path = true → leftAt path →
        (before.read path).isSome := by
  constructor
  · intro same
    constructor
    · intro path concerned permanent content changes
      have held := changed.permanent path permanent
      rw [same path concerned, changes] at held
      exact held
    · intro path concerned temporary left
      by_contra free
      have missing := Option.not_isSome_iff_eq_none.mp free
      have there := (changed.isLeft path temporary missing).mpr left
      rw [same path concerned] at there
      exact free there
  · rintro ⟨changes, left⟩ path concerned
    cases kind : isTemporary path with
    | false =>
        rw [changed.permanent path kind]
        cases change' : change path with
        | none => rfl
        | some content => exact (changes path concerned kind content change').symm
    | true =>
        cases found : before.read path with
        | some content => rw [changed.temporary path kind (by rw [found]; rfl), found]
        | none =>
            rw [← Option.not_isSome_iff_eq_none, changed.isLeft path kind found]
            intro isLeft
            have there := left path concerned kind isLeft
            rw [found] at there
            cases there

end Changed

/-! ## Runs of writes -/

/-- One write through a temporary file; a failure says whether permission was denied and what
stays of the temporary file. -/
inductive WriteOutcome where
  | done
  | fails (denied : Bool) (leftover : Option (TempName × List UInt8))

def WriteOutcome.isDone : WriteOutcome → Bool
  | .done => true
  | .fails _ _ => false

theorem WriteOutcome.isDone_iff {outcome : WriteOutcome} :
    outcome.isDone = true ↔ outcome = .done := by
  cases outcome with
  | done => exact iff_of_true rfl rfl
  | fails => exact iff_of_false Bool.false_ne_true nofun

/-- The writes in order, the first of which has the given index. The first that fails ends
them, unless it is optional and was denied. -/
def tryWrites (optional : String → Bool) (outcome : Nat → WriteOutcome) :
    Nat → FileWrites → FileTree → Except FileTree FileTree
  | _, [], tree => .ok tree
  | index, (path, content) :: rest, tree =>
      match outcome index with
      | .done => tryWrites optional outcome (index + 1) rest (tree.write path content)
      | .fails denied leftover =>
          let left := tree.leave path (leftover.map fun file => (file.1.text, file.2))
          if optional path && denied then tryWrites optional outcome (index + 1) rest left
          else .error left

/-- What the outcomes make of a run of writes, whatever the files are. -/
structure Course where
  written : FileWrites
  leftovers : List (String × TempName)
  passes : Bool

def Course.wrote (path : String) (content : List UInt8) (course : Course) : Course :=
  { course with written := (path, content) :: course.written }

def Course.leaves (path : String) (leftover : Option (TempName × List UInt8)) (course : Course) :
    Course :=
  { course with
    leftovers := (leftover.map fun file => (path, file.1)).toList ++ course.leftovers }

def courseOf (optional : String → Bool) (outcome : Nat → WriteOutcome) :
    Nat → FileWrites → Course
  | _, [] => ⟨[], [], true⟩
  | index, (path, content) :: rest =>
      match outcome index with
      | .done => (courseOf optional outcome (index + 1) rest).wrote path content
      | .fails denied leftover =>
          if optional path && denied then
            (courseOf optional outcome (index + 1) rest).leaves path leftover
          else Course.leaves path leftover ⟨[], [], false⟩

/-- The path of one of the temporary files. -/
def LeftAt (leftovers : List (String × TempName)) (path : String) : Prop :=
  ∃ left ∈ leftovers, path = dirPart left.1 ++ left.2.text

theorem leftAt_append (front back : List (String × TempName)) (path : String) :
    LeftAt (front ++ back) path ↔ LeftAt front path ∨ LeftAt back path := by
  simp only [LeftAt, List.mem_append, or_and_right, exists_or]

/-- Every write that is made is one of the run. -/
theorem courseOf_written_subset (optional : String → Bool) (outcome : Nat → WriteOutcome)
    (index : Nat) (writes : FileWrites) :
    (courseOf optional outcome index writes).written ⊆ writes := by
  induction writes generalizing index with
  | nil => exact List.Subset.refl []
  | cons write rest ih =>
      rw [courseOf]
      split
      · exact List.cons_subset_cons _ (ih _)
      · split
        · exact List.subset_cons_of_subset _ (ih _)
        · exact List.nil_subset _

/-- The files after the writes of a course, whether they pass or not. -/
theorem tryWrites_spec (optional : String → Bool) (outcome : Nat → WriteOutcome)
    {writes : FileWrites} (permanent : ∀ write ∈ writes, isTemporary write.1 = false)
    (index : Nat) (tree : FileTree) :
    ∃ after, tryWrites optional outcome index writes tree =
        (if (courseOf optional outcome index writes).passes then .ok after else .error after) ∧
      Changed
        (fun path => (lastWritten (courseOf optional outcome index writes).written path).map some)
        (LeftAt (courseOf optional outcome index writes).leftovers) tree after := by
  have nothing : ∀ path, LeftAt [] path ↔ False := fun path => ⟨nofun, False.elim⟩
  have one (path : String) (leftover : Option (TempName × List UInt8)) (other : String) :
      LeftAt (leftover.map fun file => (path, file.1)).toList other ↔
        ∃ name content, leftover = some (name, content) ∧ other = dirPart path ++ name.text := by
    cases leftover with
    | none => exact ⟨nofun, nofun⟩
    | some file => simp [LeftAt, Prod.ext_iff]
  induction writes generalizing index tree with
  | nil => exact ⟨tree, rfl, (Changed.refl tree).congr (fun _ => rfl) nothing⟩
  | cons write rest ih =>
      obtain ⟨path, content⟩ := write
      obtain ⟨here, others⟩ := List.forall_mem_cons.mp permanent
      cases result : outcome index with
      | done =>
          obtain ⟨after, same, changed⟩ := ih others (index + 1) (tree.write path content)
          refine ⟨after, ?_, ?_⟩
          · simp only [tryWrites, courseOf, result]
            exact same
          · have both := (Changed.write here content tree).trans changed
            apply both.congr
            · intro other
              simp only [courseOf, result, Course.wrote, lastWritten_cons]
              cases lastWritten (courseOf optional outcome (index + 1) rest).written other with
              | some last => rfl
              | none => simp only [Option.map_none, Option.none_or]; split <;> rfl
            · intro other
              simp only [courseOf, result, Course.wrote, false_or]
      | fails denied leftover =>
          have left := Changed.leave path leftover tree
          by_cases goesOn : (optional path && denied) = true
          · obtain ⟨after, same, changed⟩ := ih others (index + 1)
              (tree.leave path (leftover.map fun file => (file.1.text, file.2)))
            refine ⟨after, ?_, (left.trans changed).congr ?_ ?_⟩
            · simp only [tryWrites, courseOf, result, goesOn, if_true]
              exact same
            · intro other
              simp only [courseOf, result, goesOn, if_true, Course.leaves, Option.or_none]
            · intro other
              simp only [courseOf, result, goesOn, if_true, Course.leaves, leftAt_append, one]
          · refine ⟨_, ?_, left.congr ?_ ?_⟩
            · simp only [tryWrites, courseOf, result, goesOn]
              rfl
            · intro other
              simp only [courseOf, result, goesOn]
              rfl
            · intro other
              simp only [courseOf, result, goesOn, Course.leaves, List.append_nil]
              exact one path leftover other

theorem Distinct.leave {tree : FileTree} (distinct : tree.Distinct) (path : String)
    (leftover : Option (String × List UInt8)) : (tree.leave path leftover).Distinct := by
  cases leftover with
  | none => exact distinct
  | some file =>
      rw [FileTree.leave]
      split
      · exact distinct
      · exact distinct.write _ _

theorem Distinct.tryWrites {optional : String → Bool} {outcome : Nat → WriteOutcome}
    {index : Nat} {writes : FileWrites} {tree after : FileTree} (distinct : tree.Distinct)
    (passed : tryWrites optional outcome index writes tree = .ok after) : after.Distinct := by
  induction writes generalizing index tree with
  | nil =>
      cases passed
      exact distinct
  | cons write rest ih =>
      rw [FileTree.tryWrites] at passed
      split at passed
      · exact ih (distinct.write _ _) passed
      · dsimp only at passed
        split at passed
        · exact ih (distinct.leave _ _) passed
        · cases passed

theorem mem_leave {path : String} {leftover : Option (TempName × List UInt8)} {tree : FileTree}
    {file : String × List UInt8}
    (member : file ∈ tree.leave path (leftover.map fun left => (left.1.text, left.2))) :
    file ∈ tree ∨ isTemporary file.1 = true := by
  cases leftover with
  | none => exact .inl member
  | some left =>
      rw [Option.map_some, FileTree.leave] at member
      split at member
      · exact .inl member
      · rcases mem_write member with rfl | earlier
        · exact .inr (isTemporary_dirPart_append _ _)
        · exact .inl earlier

/-- Every file after the writes was there, was written, or is temporary. -/
theorem mem_tryWrites {optional : String → Bool} {outcome : Nat → WriteOutcome} {index : Nat}
    {writes : FileWrites} {tree after : FileTree} {file : String × List UInt8}
    (passed : tryWrites optional outcome index writes tree = .ok after) (member : file ∈ after) :
    file ∈ tree ∨ file ∈ writes ∨ isTemporary file.1 = true := by
  induction writes generalizing index tree with
  | nil =>
      cases passed
      exact .inl member
  | cons write rest ih =>
      rw [tryWrites] at passed
      split at passed
      · rcases ih passed with before | later | temporary
        · rcases mem_write before with rfl | earlier
          · exact .inr (.inl List.mem_cons_self)
          · exact .inl earlier
        · exact .inr (.inl (List.mem_cons_of_mem _ later))
        · exact .inr (.inr temporary)
      · dsimp only at passed
        split at passed
        · rcases ih passed with before | later | temporary
          · exact (mem_leave before).imp_right .inr
          · exact .inr (.inl (List.mem_cons_of_mem _ later))
          · exact .inr (.inr temporary)
        · cases passed

theorem tryWrites_of_done {optional : String → Bool} {outcome : Nat → WriteOutcome}
    (all : ∀ index, outcome index = .done) (index : Nat) (writes : FileWrites) (tree : FileTree) :
    tryWrites optional outcome index writes tree = .ok (writeAll writes tree) := by
  induction writes generalizing index tree with
  | nil => rfl
  | cons write rest ih =>
      rw [tryWrites, all index]
      exact ih _ _

/-- Writes of which none is optional, and that did not stop, were all made. -/
theorem tryWrites_of_required {outcome : Nat → WriteOutcome} {index : Nat} {writes : FileWrites}
    {tree after : FileTree}
    (passed : tryWrites (fun _ => false) outcome index writes tree = .ok after) :
    after = writeAll writes tree := by
  induction writes generalizing index tree with
  | nil =>
      cases passed
      rfl
  | cons write rest ih =>
      rw [tryWrites] at passed
      split at passed
      · exact ih passed
      · rw [Bool.false_and, if_neg (by decide)] at passed
        cases passed

end FileTree
