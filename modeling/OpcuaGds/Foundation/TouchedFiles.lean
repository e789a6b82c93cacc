import OpcuaGds.Foundation.FailedWrites
import Mathlib.Data.List.TakeWhile

/-! # What a call touches

A call that may write some paths, and may leave temporary files beside them, leaves all other
files as they were.
-/

namespace FileTree

theorem dirPart_append {name : String} (plain : '/' ∉ name.toList) (front : String) :
    dirPart (front ++ name) = dirPart front := by
  have inName : ∀ c ∈ name.toList.reverse, (c != '/') = true := by
    intro c member
    rw [bne_iff_ne]
    rintro rfl
    exact plain (List.mem_reverse.mp member)
  rw [dirPart, dirPart, String.toList_append, List.reverse_append,
    List.dropWhile_append_of_pos inName]

theorem dirPart_append_nameOf (path : String) : dirPart path ++ nameOf path = path := by
  rw [dirPart, nameOf, ← String.ofList_append, ← List.reverse_append,
    List.takeWhile_append_dropWhile, List.reverse_reverse, String.ofList_toList]

theorem notMem_nameOf (path : String) : '/' ∉ (nameOf path).toList := by
  rw [nameOf, String.toList_ofList, List.mem_reverse]
  intro member
  exact absurd (List.mem_takeWhile_imp (p := fun c => c != '/') member) (by decide)

theorem dirPart_dirPart (path : String) : dirPart (dirPart path) = dirPart path := by
  conv_rhs => rw [← dirPart_append_nameOf path, dirPart_append (notMem_nameOf path)]

theorem dirPart_beside (path : String) (name : TempName) :
    dirPart (dirPart path ++ name.text) = dirPart path := by
  rw [dirPart_append name.plain, dirPart_dirPart]

/-- Only allowed paths change; a temporary file may stay in the directory of one of them, where
no file was. -/
def OnlyTouches (allowed : String → Prop) (before after : FileTree) : Prop :=
  ∀ path, allowed path ∨ after.read path = before.read path ∨
    before.read path = none ∧ isTemporary path = true ∧
      ∃ near, allowed near ∧ dirPart path = dirPart near

namespace OnlyTouches

variable {allowed : String → Prop} {before middle after : FileTree}

theorem refl (tree : FileTree) : OnlyTouches allowed tree tree := fun _ => .inr (.inl rfl)

theorem trans (first : OnlyTouches allowed before middle)
    (second : OnlyTouches allowed middle after) : OnlyTouches allowed before after := by
  intro path
  rcases first path with isAllowed | kept | left
  · exact .inl isAllowed
  · rcases second path with isAllowed | keptToo | ⟨free, left⟩
    · exact .inl isAllowed
    · exact .inr (.inl (keptToo.trans kept))
    · exact .inr (.inr ⟨kept ▸ free, left⟩)
  · exact .inr (.inr left)

theorem of_changed {change : String → Option (Option (List UInt8))} {leftAt : String → Prop}
    (changed : Changed change leftAt before after)
    (changes : ∀ path content, change path = some content → allowed path)
    (left : ∀ path, leftAt path → ∃ near, allowed near ∧ dirPart path = dirPart near) :
    OnlyTouches allowed before after := by
  intro path
  cases kind : isTemporary path with
  | false =>
      have held := changed.permanent path kind
      cases result : change path with
      | none =>
          rw [result] at held
          exact .inr (.inl held)
      | some content => exact .inl (changes path content result)
  | true =>
      cases found : before.read path with
      | some content =>
          have kept := changed.temporary path kind (by rw [found]; rfl)
          exact .inr (.inl (kept.trans found))
      | none =>
          by_cases there : (after.read path).isSome
          · exact .inr (.inr ⟨rfl, rfl, left path ((changed.isLeft path kind found).mp there)⟩)
          · exact .inr (.inl (Option.not_isSome_iff_eq_none.mp there))

/-- What is neither allowed nor a temporary file is as it was. -/
theorem read_eq {path : String} (touches : OnlyTouches allowed before after)
    (notAllowed : ¬ allowed path) (permanent : isTemporary path = false) :
    after.read path = before.read path := by
  rcases touches path with isAllowed | kept | ⟨_, temporary, _⟩
  · exact absurd isAllowed notAllowed
  · exact kept
  · rw [permanent] at temporary
    cases temporary

end OnlyTouches

/-- Every temporary file of a run stands beside one of its writes. -/
theorem courseOf_leftovers_subset (optional : String → Bool) (outcome : Nat → WriteOutcome)
    (index : Nat) (writes : FileWrites) :
    ∀ left ∈ (courseOf optional outcome index writes).leftovers, ∃ write ∈ writes,
      left.1 = write.1 := by
  have here (path : String) (leftover : Option (TempName × List UInt8)) :
      ∀ left ∈ (leftover.map fun file => (path, file.1)).toList, left.1 = path := by
    intro left member
    obtain ⟨file, _, rfl⟩ := Option.map_eq_some_iff.mp (Option.mem_toList.mp member)
    rfl
  induction writes generalizing index with
  | nil => nofun
  | cons write rest ih =>
      obtain ⟨path, content⟩ := write
      intro left member
      rw [courseOf] at member
      split at member
      · obtain ⟨other, among, same⟩ := ih _ left member
        exact ⟨other, List.mem_cons_of_mem _ among, same⟩
      · split at member
        · rcases List.mem_append.mp member with first | later
          · exact ⟨_, List.mem_cons_self, here _ _ left first⟩
          · obtain ⟨other, among, same⟩ := ih _ left later
            exact ⟨other, List.mem_cons_of_mem _ among, same⟩
        · rcases List.mem_append.mp member with first | later
          · exact ⟨_, List.mem_cons_self, here _ _ left first⟩
          · cases later

/-- A run of writes touches the paths that it writes. -/
theorem tryWrites_touches {allowed : String → Prop} (optional : String → Bool)
    (outcome : Nat → WriteOutcome) {writes : FileWrites}
    (within : ∀ write ∈ writes, allowed write.1)
    {before after : FileTree} (index : Nat)
    (changed : Changed
      (fun path => (lastWritten (courseOf optional outcome index writes).written path).map some)
      (LeftAt (courseOf optional outcome index writes).leftovers) before after) :
    OnlyTouches allowed before after := by
  refine .of_changed changed (fun path content last => ?_) (fun path isLeft => ?_)
  · obtain ⟨written, found, _⟩ := Option.map_eq_some_iff.mp last
    have among := courseOf_written_subset optional outcome index writes (mem_of_lastWritten found)
    exact within _ among
  · obtain ⟨left, member, rfl⟩ := isLeft
    obtain ⟨write, among, same⟩ :=
      courseOf_leftovers_subset optional outcome index writes left member
    exact ⟨write.1, within write among, by rw [same, dirPart_beside]⟩

end FileTree
