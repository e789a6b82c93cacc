import OpcuaGds.Agent.RuntimePaths
import OpcuaGds.Foundation.SplitText

/-! # Ways to a private key

Whatever relative path leads to a place of a private key, its own text has a `private`
directory, so that an activation preserves it.
-/

namespace OpcuaGds.Agent

section Parts

variable {part text rel path : String}

theorem mem_splitPath_iff : part ∈ splitPath text ↔ part.toList ∈ text.toList.splitOn '/' := by
  rw [splitPath, List.mem_map]
  constructor
  · rintro ⟨chars, member, rfl⟩
    rwa [String.toList_ofList]
  · intro member
    exact ⟨part.toList, member, String.ofList_toList⟩

theorem notMem_of_mem_splitPath (member : part ∈ splitPath text) : '/' ∉ part.toList :=
  SplitText.notMem_of_mem_splitOn (mem_splitPath_iff.mp member)

/-- A part in lower case stays a part when the text is put in lower case. -/
theorem mem_splitPath_lower (same : PythonText.lower part = part) (member : part ∈ splitPath text) :
    part ∈ splitPath (PythonText.lower text) := by
  have chars : part.toList.map PythonText.lowerChar = part.toList := by
    have lowered := congrArg String.toList same
    rwa [PythonText.lower, String.toList_ofList] at lowered
  rw [mem_splitPath_iff, PythonText.lower, String.toList_ofList]
  exact SplitText.mem_splitOn_map (by decide) chars (mem_splitPath_iff.mp member)

theorem toList_slashes (text : String) :
    (slashes text).toList = text.toList.map fun c => if c = '\\' then '/' else c := by
  rw [slashes, String.toList_ofList, PythonText.replaceChar, List.map_eq_flatMap]
  exact List.flatMap_congr fun c _ => by split <;> rfl

/-- A part without a backslash stays a part when backslashes become separators. -/
theorem mem_splitPath_slashes (plain : '\\' ∉ part.toList) (member : part ∈ splitPath text) :
    part ∈ splitPath (slashes text) := by
  have same : part.toList.map (fun c => if c = '\\' then '/' else c) = part.toList := by
    refine (List.map_congr_left fun c held => ?_).trans (List.map_id _)
    have other : c ≠ '\\' := by
      rintro rfl
      exact plain held
    rw [if_neg other]
    rfl
  rw [mem_splitPath_iff, toList_slashes]
  exact SplitText.mem_splitOn_map rfl same (mem_splitPath_iff.mp member)

theorem mem_splitPath_append {front : String} (back : String) (member : part ∈ splitPath front) :
    part ∈ splitPath (front ++ "/" ++ back) := by
  rw [mem_splitPath_iff] at member ⊢
  rw [String.append_assoc, String.toList_append, String.toList_append,
    show "/".toList = ['/'] from rfl, List.singleton_append, List.splitOn_append_cons_self]
  exact List.mem_append_left _ member

/-! ## Where a path leads -/

/-- Going down adds no part that the path has not. -/
theorem mem_of_mem_descend {parts : List String} {start way : List String}
    (led : parts.foldl descend (some start) = some way) (member : part ∈ way) :
    part ∈ start ∨ part ∈ parts := by
  induction parts generalizing start with
  | nil =>
      cases led
      exact .inl member
  | cons first rest ih =>
      rw [List.foldl_cons, descend] at led
      split at led
      · cases start with
        | nil =>
            have stuck : rest.foldl descend none = none := by
              clear ih led
              induction rest with
              | nil => rfl
              | cons _ _ ih => exact ih
            exact absurd (stuck.symm.trans led) nofun
        | cons last above =>
            rcases ih led with earlier | later
            · exact .inl (List.mem_cons_of_mem _ earlier)
            · exact .inr (List.mem_cons_of_mem _ later)
      · rcases ih led with earlier | later
        · rcases List.mem_cons.mp earlier with rfl | before
          · exact .inr List.mem_cons_self
          · exact .inl before
        · exact .inr (List.mem_cons_of_mem _ later)

/-- The parts of the place that a path leads to are parts of the path. -/
theorem mem_splitPath_of_led (led : resolveInside rel = some path) (member : part ∈ splitPath path)
    (named : part ≠ "") : part ∈ splitPath rel := by
  unfold resolveInside at led
  split at led
  · cases led
  · obtain ⟨way, down, rfl⟩ := Option.map_eq_some_iff.mp led
    have within (other : String) (onWay : other ∈ way.reverse) : other ∈ splitPath rel := by
      rcases mem_of_mem_descend down (List.mem_reverse.mp onWay) with none | there
      · cases none
      · exact List.mem_of_mem_filter there
    refine within part ?_
    rw [mem_splitPath_iff, String.toList_intercalate] at member
    cases parts : way.reverse with
    | nil =>
        rw [parts] at member
        have empty : part.toList = [] := List.mem_singleton.mp member
        exact absurd (String.toList_eq_nil_iff.mp empty) named
    | cons first rest =>
        have plain : ∀ chars ∈ (first :: rest).map String.toList, '/' ∉ chars := by
          intro chars held
          obtain ⟨other, onWay, rfl⟩ := List.mem_map.mp held
          exact notMem_of_mem_splitPath (within other (parts ▸ onWay))
        rw [parts] at member
        have joined : (['/'].intercalate ((first :: rest).map String.toList)).splitOn '/' =
            (first :: rest).map String.toList :=
          List.splitOn_intercalate '/' plain (List.cons_ne_nil _ _)
        rw [show "/".toList = ['/'] from rfl, joined, List.mem_map] at member
        obtain ⟨other, onWay, same⟩ := member
        rwa [← String.toList_inj.mp same]

end Parts

/-- A path with a `private` directory is preserved. -/
theorem isPreserved_of_private {rel : String} (member : "private" ∈ splitPath rel) :
    isPreservedRuntimePath rel = true := by
  have plain : '\\' ∉ "private".toList := by decide
  have same : PythonText.lower "private" = "private" := by decide +kernel
  have lowered := mem_splitPath_lower same (mem_splitPath_slashes plain member)
  have again := mem_splitPath_lower same (mem_splitPath_slashes plain lowered)
  have found : ((splitPath (PythonText.lower (slashes (PythonText.lower (slashes rel))))).filter
      (· != "")).contains "private" = true :=
    List.contains_iff_mem.mpr (List.mem_filter.mpr ⟨again, by decide⟩)
  rw [isPreservedRuntimePath, isPrivateKeyPath]
  simp only [found, Bool.true_or, if_true]

/-- The private key of every target is kept in a `private` directory. -/
theorem private_mem_of_candidate {target path : String}
    (candidate : path ∈ targetPrivateKeyCandidates target) : "private" ∈ splitPath path := by
  have all : ∀ path ∈ privateKeyPlaces, "private" ∈ splitPath path := by decide +kernel
  exact all path (candidate_mem candidate)

/-- Every path that leads to a place of the target's private key is preserved. -/
theorem isPreserved_of_leads {target rel path : String}
    (candidate : path ∈ targetPrivateKeyCandidates target) (led : resolveInside rel = some path) :
    isPreservedRuntimePath rel = true :=
  isPreserved_of_private
    (mem_splitPath_of_led led (private_mem_of_candidate candidate) (by decide))

end OpcuaGds.Agent
