import OpcuaGds.Agent.KeyPaths
import OpcuaGds.Agent.Quarantine
import OpcuaGds.Foundation.LoweredText

/-! # The paths of a quarantine

An eligible path leads to a file that is neither a private key nor below an `own` directory,
although eligibility is decided on a text that is stripped once more.
-/

namespace OpcuaGds.Agent

/-! ## Parts of a path in lower case -/

theorem splitPath_lower (text : String) :
    splitPath (PythonText.lower text) = (splitPath text).map PythonText.lower := by
  have slash : ∀ c, PythonText.lowerChar c = '/' ↔ c = '/' := fun c =>
    PythonText.lowerChar_eq_iff (by decide) (by decide)
  rw [splitPath, PythonText.lower, String.toList_ofList, SplitText.splitOn_map slash, splitPath,
    List.map_map, List.map_map]
  refine List.map_congr_left fun part _ => ?_
  rw [Function.comp_apply, Function.comp_apply, PythonText.lower, String.toList_ofList]

/-- Lower case makes neither an empty text nor a dot. -/
theorem lower_special (part : String) :
    (PythonText.lower part != "" && PythonText.lower part != ".") =
      (part != "" && part != ".") := by
  have chars (word : String) : PythonText.lower part = word ↔
      part.toList.map PythonText.lowerChar = word.toList := by
    rw [← String.toList_inj, PythonText.lower, String.toList_ofList]
  have empty : PythonText.lower part = "" ↔ part = "" := by
    rw [chars, ← String.toList_inj]
    exact List.map_eq_nil_iff
  have dot : PythonText.lower part = "." ↔ part = "." := by
    rw [chars, ← String.toList_inj, show ".".toList = ['.'] from rfl]
    cases part.toList with
    | nil => exact iff_of_false (List.cons_ne_nil _ _).symm (List.cons_ne_nil _ _).symm
    | cons c rest =>
        rw [List.map_cons, List.cons.injEq, List.cons.injEq, List.map_eq_nil_iff,
          PythonText.lowerChar_eq_iff (by decide) (by decide)]
  rw [Bool.eq_iff_iff]
  simp only [Bool.and_eq_true, bne_iff_ne, ne_eq, empty, dot]

theorem pathParts_lower (text : String) :
    pathParts (PythonText.lower text) = (pathParts text).map PythonText.lower := by
  rw [pathParts, pathParts, splitPath_lower, List.filter_map]
  exact congrArg (List.map _) (List.filter_congr fun part _ => lower_special part)

theorem pathName_lower (text : String) :
    pathName (PythonText.lower text) = PythonText.lower (pathName text) := by
  rw [pathName, pathName, pathParts_lower, List.getLast?_map]
  cases (pathParts text).getLast? with
  | none => decide
  | some name => rfl

/-! ## Private names -/

/-- The test for private keys by parts and name; its last clause adds nothing. -/
theorem isPrivateKeyPath_iff {name rel : String} :
    isPrivateKeyPath name rel = true ↔
      (∃ part ∈ splitPath (slashes rel), PythonText.lower part ∈ ["private", "keys"]) ∨
        textContains ".key" (PythonText.lower name) = true ∨
        textContains "private" (PythonText.lower name) = true := by
  have ending (suffix : String) (key : ".key".toList <+: suffix.toList)
      (ends : textEndsWith suffix (PythonText.lower name) = true) :
      textContains ".key" (PythonText.lower name) = true := by
    have infixed := key.isInfix.trans (List.isSuffixOf_iff_suffix.mp ends).isInfix
    exact decide_eq_true infixed
  have parts (word : String) (named : word ≠ "") :
      ((splitPath (PythonText.lower (slashes rel))).filter (· != "")).contains word = true ↔
        ∃ part ∈ splitPath (slashes rel), PythonText.lower part = word := by
    rw [List.contains_iff_mem, List.mem_filter, splitPath_lower, List.mem_map, bne_iff_ne]
    exact and_iff_left named
  have inParts :
      (((splitPath (PythonText.lower (slashes rel))).filter (· != "")).contains "private" ||
        ((splitPath (PythonText.lower (slashes rel))).filter (· != "")).contains "keys") = true ↔
      ∃ part ∈ splitPath (slashes rel), PythonText.lower part ∈ ["private", "keys"] := by
    rw [Bool.or_eq_true, parts "private" (by decide), parts "keys" (by decide)]
    simp only [List.mem_cons, List.not_mem_nil, or_false, and_or_left, exists_or]
  rw [← inParts]
  simp only [isPrivateKeyPath]
  split
  · rename_i found
    exact iff_of_true rfl (.inl found)
  · rename_i notFound
    rw [or_iff_right notFound]
    split
    · rename_i named
      rw [Bool.or_eq_true] at named
      exact iff_of_true rfl named
    · rename_i unnamed
      rw [Bool.or_eq_true, not_or] at unnamed
      refine iff_of_false ?_ fun named => named.elim unnamed.1 unnamed.2
      rw [Bool.or_eq_true]
      exact fun ends => ends.elim (fun here => unnamed.1 (ending _ (by decide) here))
        fun here => unnamed.1 (ending _ (by decide) here)

/-! ## Normalizing once more -/

theorem notMem_slashes (text : String) : '\\' ∉ (slashes text).toList := by
  rw [toList_slashes]
  intro member
  obtain ⟨c, _, replaced⟩ := List.mem_map.mp member
  split at replaced
  · cases replaced
  · rename_i other
    exact other replaced

theorem slashes_of_notMem {text : String} (plain : '\\' ∉ text.toList) : slashes text = text := by
  rw [slashes, PythonText.replaceChar_of_notMem plain, String.ofList_toList]

theorem notMem_normalize (text : String) : '\\' ∉ (normalizeRelativePath text).toList := by
  rw [normalizeRelativePath, String.toList_ofList]
  intro member
  have stripped := (List.dropWhile_suffix _).subset member
  rw [PythonText.strip, String.toList_ofList] at stripped
  exact notMem_slashes text (PythonText.mem_stripChars stripped)

/-- A normalized path is its own normal form behind blanks and separators. -/
theorem normalize_front (text : String) :
    ∃ front, (normalizeRelativePath text).toList =
        front ++ (normalizeRelativePath (normalizeRelativePath text)).toList ∧
      ∀ c ∈ front, c = '/' ∨ PythonText.isSpace c = true := by
  have plain := slashes_of_notMem (notMem_normalize text)
  have ends : (normalizeRelativePath text).toList <:+
      PythonText.stripChars (slashes text).toList := by
    rw [normalizeRelativePath, String.toList_ofList, PythonText.strip, String.toList_ofList]
    exact List.dropWhile_suffix _
  have again : (normalizeRelativePath (normalizeRelativePath text)).toList =
      ((normalizeRelativePath text).toList.dropWhile PythonText.isSpace).dropWhile
        fun c => c == '/' := by
    rw [normalizeRelativePath, String.toList_ofList, plain, PythonText.strip,
      String.toList_ofList, PythonText.stripChars_of_suffix ends]
  generalize (normalizeRelativePath text).toList = chars at again ⊢
  refine ⟨chars.takeWhile PythonText.isSpace ++
    (chars.dropWhile PythonText.isSpace).takeWhile fun c => c == '/', ?_, ?_⟩
  · rw [again, List.append_assoc, List.takeWhile_append_dropWhile, List.takeWhile_append_dropWhile]
  · intro c member
    rcases List.mem_append.mp member with space | slash
    · exact .inr (List.mem_takeWhile_imp space)
    · have same : (c == '/') = true := List.mem_takeWhile_imp (p := fun d => d == '/') slash
      exact .inl (beq_iff_eq.mp same)

/-! ## Where an eligible path leads -/

/-- A file below a directory of the name `own`, in any case. -/
def IsOwnFile (path : String) : Prop :=
  ∃ dir ∈ (splitPath path).dropLast, PythonText.lower dir = "own"

theorem splitPath_intercalate {parts : List String} (some : parts ≠ [])
    (plain : ∀ part ∈ parts, '/' ∉ part.toList) :
    splitPath (String.intercalate "/" parts) = parts := by
  have chars : ∀ list ∈ parts.map String.toList, '/' ∉ list := by
    intro list member
    obtain ⟨part, among, rfl⟩ := List.mem_map.mp member
    exact plain part among
  have nonempty : parts.map String.toList ≠ [] := fun empty => some (List.map_eq_nil_iff.mp empty)
  rw [splitPath, String.toList_intercalate, show "/".toList = ['/'] from rfl,
    List.splitOn_intercalate '/' chars nonempty, List.map_map]
  exact (List.map_congr_left fun part _ => String.ofList_toList).trans (List.map_id _)

theorem map_toList_splitPath (text : String) :
    (splitPath text).map String.toList = text.toList.splitOn '/' := by
  rw [splitPath, List.map_map]
  exact (List.map_congr_left fun part _ => String.toList_ofList).trans (List.map_id _)

theorem intercalate_splitPath (text : String) : String.intercalate "/" (splitPath text) = text := by
  rw [← String.toList_inj, String.toList_intercalate, map_toList_splitPath]
  exact List.intercalate_splitOn '/'

/-- The last part of a path is its name. -/
theorem nameOf_of_splitPath {path name : String} {dirs : List String}
    (parts : splitPath path = dirs ++ [name]) : FileTree.nameOf path = name := by
  have plain : '/' ∉ name.toList :=
    notMem_of_mem_splitPath (parts ▸ List.mem_append_right _ List.mem_cons_self)
  rw [← intercalate_splitPath path, parts]
  cases dirs with
  | nil =>
      have named := FileTree.nameOf_append plain ""
      rw [String.empty_append] at named
      rw [List.nil_append, String.intercalate_singleton, named]
      rfl
  | cons first rest =>
      rw [String.intercalate_append_of_ne_nil (List.cons_ne_nil _ _) (List.cons_ne_nil _ _),
        String.intercalate_singleton]
      exact FileTree.nameOf_join plain _

/-- The way of a path that names a file ends in its name. -/
theorem splitPath_of_led {rel path : String} (led : resolveInside rel = some path)
    (named : pathParts rel ≠ []) (file : pathName rel ≠ "..") :
    ∃ front dirs, pathParts rel = front ++ [pathName rel] ∧
      splitPath path = dirs ++ [pathName rel] ∧ ∀ dir ∈ dirs, dir ∈ front := by
  have last : pathParts rel = (pathParts rel).dropLast ++ [pathName rel] := by
    rw [pathName, List.getLast?_eq_some_getLast named, Option.getD_some,
      List.dropLast_append_getLast named]
  unfold resolveInside at led
  split at led
  · cases led
  · obtain ⟨way, down, rfl⟩ := Option.map_eq_some_iff.mp led
    rw [last, List.foldl_append, List.foldl_cons, List.foldl_nil] at down
    cases before : (pathParts rel).dropLast.foldl descend (some []) with
    | none => rw [before] at down; cases down
    | some dirs =>
        rw [before, descend, if_neg file] at down
        cases down
        have within : ∀ dir ∈ dirs, dir ∈ (pathParts rel).dropLast := by
          intro dir member
          exact (mem_of_mem_descend before member).resolve_left List.not_mem_nil
        refine ⟨_, dirs.reverse, last, ?_, fun dir member =>
          within dir (List.mem_reverse.mp member)⟩
        rw [List.reverse_cons]
        refine splitPath_intercalate (by simp) fun part member => ?_
        have among : part ∈ pathParts rel := by
          rw [last]
          rcases List.mem_append.mp member with inDirs | isName
          · exact List.mem_append_left _ (within part (List.mem_reverse.mp inDirs))
          · exact List.mem_append_right _ isName
        exact notMem_of_mem_splitPath (List.mem_of_mem_filter among)

/-- The parts of a text behind blanks and separators: more parts before them, and blanks before
the first. -/
theorem splitOn_blank_append {front : List Char}
    (each : ∀ c ∈ front, c = '/' ∨ PythonText.isSpace c = true) (back : List Char) :
    ∃ heads blanks head tail, back.splitOn '/' = head :: tail ∧
      (front ++ back).splitOn '/' = heads ++ (blanks ++ head) :: tail ∧
      ∀ c ∈ blanks, PythonText.isSpace c = true := by
  induction front with
  | nil =>
      cases parts : back.splitOn '/' with
      | nil => exact absurd parts (List.splitOn_ne_nil '/' back)
      | cons head tail => exact ⟨[], [], head, tail, rfl, parts, nofun⟩
  | cons c front ih =>
      obtain ⟨here, later⟩ := List.forall_mem_cons.mp each
      obtain ⟨heads, blanks, head, tail, parts, whole, blank⟩ := ih later
      rw [List.cons_append, List.splitOn_cons_eq_if_modifyHead, whole]
      by_cases separator : (c == '/') = true
      · rw [if_pos separator]
        exact ⟨[] :: heads, blanks, head, tail, parts, rfl, blank⟩
      · have space := here.resolve_left fun same => separator (beq_iff_eq.mpr same)
        rw [if_neg separator]
        cases heads with
        | nil => exact ⟨[], c :: blanks, head, tail, parts, rfl, List.forall_mem_cons.mpr
            ⟨space, blank⟩⟩
        | cons first heads => exact ⟨(c :: first) :: heads, blanks, head, tail, parts, rfl, blank⟩

/-- A word without blanks in a text behind blanks is in the text. -/
theorem infix_of_blanks {word blanks text : List Char} (some : word ≠ [])
    (solid : ∀ c ∈ word, ¬PythonText.isSpace c = true)
    (blank : ∀ c ∈ blanks, PythonText.isSpace c = true) (found : word <:+: blanks ++ text) :
    word <:+: text := by
  induction blanks with
  | nil => exact found
  | cons c blanks ih =>
      obtain ⟨here, later⟩ := List.forall_mem_cons.mp blank
      rcases List.infix_cons_iff.mp found with starts | further
      · cases word with
        | nil => exact absurd rfl some
        | cons d word =>
            have first : d = c := (List.cons_prefix_cons.mp starts).1
            exact absurd (first ▸ here) (solid d List.mem_cons_self)
      · exact ih later further

/-- What eligibility says about a path, by its normal form in lower case. -/
structure EligiblePath (lowered : String) : Prop where
  notPrivate : isPrivateKeyPath (pathName lowered) lowered = false
  notOwn : textContains "/own/" lowered = false ∧ textStartsWith "own/" lowered = false
  first : ∃ word ∈ ["applcerts", "trusted", "rejected"], ∃ rest,
    lowered.toList = word.toList ++ '/' :: rest

theorem eligiblePath_of_eligible {rel : String} (eligible : isQuarantineEligible rel = true) :
    EligiblePath (PythonText.lower (normalizeRelativePath rel)) := by
  simp only [isQuarantineEligible] at eligible
  split at eligible
  · cases eligible
  · split at eligible
    · cases eligible
    · rename_i notPrivate
      split at eligible
      · cases eligible
      · rename_i notOwn
        rw [Bool.or_eq_true, not_or, Bool.not_eq_true, Bool.not_eq_true] at notOwn
        refine ⟨Bool.eq_false_iff.mpr notPrivate, notOwn, ?_⟩
        simp only [Bool.or_eq_true, textStartsWith, List.isPrefixOf_iff_prefix] at eligible
        have named (start word : String) (more : List Char)
            (parts : start.toList = word.toList ++ '/' :: more)
            (among : word ∈ ["applcerts", "trusted", "rejected"])
            (starts : start.toList <+:
              (PythonText.lower (normalizeRelativePath rel)).toList) :
            ∃ word ∈ ["applcerts", "trusted", "rejected"], ∃ rest,
              (PythonText.lower (normalizeRelativePath rel)).toList =
                word.toList ++ '/' :: rest := by
          obtain ⟨rest, whole⟩ := starts
          refine ⟨word, among, more ++ rest, ?_⟩
          rw [← whole, parts, List.append_assoc, List.cons_append]
        rcases eligible with ((applTrusted | trusted) | applRejected) | rejected
        · exact named _ "applcerts" "trusted/certs/".toList (by decide) (by decide) applTrusted
        · exact named _ "trusted" "certs/".toList (by decide) (by decide) trusted
        · exact named _ "applcerts" "rejected/".toList (by decide) (by decide) applRejected
        · exact named _ "rejected" [] (by decide) (by decide) rejected

/-- The first part of an eligible path in its normal form is a name. -/
theorem EligiblePath.head {normal : String} {head : List Char} {tail : List (List Char)}
    (eligible : EligiblePath (PythonText.lower normal))
    (parts : normal.toList.splitOn '/' = head :: tail) : head ≠ [] ∧ head ≠ ['.'] := by
  obtain ⟨word, among, rest, whole⟩ := eligible.first
  have slash : ∀ c, PythonText.lowerChar c = '/' ↔ c = '/' := fun c =>
    PythonText.lowerChar_eq_iff (by decide) (by decide)
  have words : '/' ∉ word.toList ∧ 2 ≤ word.toList.length := by
    simp only [List.mem_cons, List.not_mem_nil, or_false] at among
    rcases among with rfl | rfl | rfl <;> decide
  have lowered := SplitText.splitOn_map slash normal.toList
  rw [← String.toList_ofList (l := normal.toList.map PythonText.lowerChar)] at lowered
  change (PythonText.lower normal).toList.splitOn '/' = _ at lowered
  rw [whole, List.splitOn_append_cons_self_of_not_mem words.1, parts, List.map_cons,
    List.cons.injEq] at lowered
  have length : 2 ≤ head.length := by
    have sizes := congrArg List.length lowered.1
    rw [List.length_map] at sizes
    omega
  constructor
  · rintro rfl
    exact absurd length (by decide)
  · rintro rfl
    exact absurd length (by decide)

/-- The name in a path behind blanks is that of the rest, perhaps behind blanks. -/
theorem pathName_blank_append {rel normal : String} {front : List Char}
    (whole : rel.toList = front ++ normal.toList)
    (each : ∀ c ∈ front, c = '/' ∨ PythonText.isSpace c = true)
    (eligible : EligiblePath (PythonText.lower normal)) :
    ∃ blanks, (pathName rel).toList = blanks ++ (pathName normal).toList ∧
      ∀ c ∈ blanks, PythonText.isSpace c = true := by
  obtain ⟨heads, blanks, head, tail, parts, relParts, blank⟩ :=
    splitOn_blank_append each normal.toList
  obtain ⟨some, notDot⟩ := eligible.head parts
  have valid (chars : List Char) (nonempty : chars ≠ []) (other : chars ≠ ['.']) :
      (String.ofList chars != "" && String.ofList chars != ".") = true := by
    rw [Bool.and_eq_true, bne_iff_ne, bne_iff_ne]
    exact ⟨fun same => nonempty (String.ofList_inj.mp same), fun same =>
      other (String.ofList_inj.mp same)⟩
  have blankHead : (String.ofList (blanks ++ head) != "" &&
      String.ofList (blanks ++ head) != ".") = true := by
    refine valid _ (fun empty => some (List.append_eq_nil_iff.mp empty).2) fun dot => ?_
    rcases List.append_eq_singleton_iff.mp dot with alone | alone
    · exact notDot alone.2
    · exact some alone.2
  rw [pathName, pathName, pathParts, pathParts, splitPath, splitPath, whole, relParts, parts,
    List.map_append, List.map_cons, List.map_cons, List.filter_append, List.filter_cons,
    List.filter_cons, if_pos blankHead, if_pos (valid head some notDot)]
  cases later : (tail.map String.ofList).filter fun part => part != "" && part != "." with
  | nil =>
      refine ⟨blanks, ?_, blank⟩
      rw [List.getLast?_append_of_ne_nil _ (List.cons_ne_nil _ _)]
      simp
  | cons second others =>
      refine ⟨[], ?_, fun c member => absurd member List.not_mem_nil⟩
      rw [List.getLast?_append_of_ne_nil _ (List.cons_ne_nil _ _), List.nil_append]
      simp [List.getLast?_cons_cons]

section Eligible

variable {text path : String}

/-- A part that no blank is in stands in the normal form too, with what follows it. -/
theorem splitOn_normalize {part : String} {befores afters : List (List Char)}
    (parts : (normalizeRelativePath text).toList.splitOn '/' =
      befores ++ part.toList :: afters) (named : part ≠ "")
    (solid : ∀ c ∈ part.toList, ¬PythonText.isSpace c = true) :
    ∃ befores', (normalizeRelativePath (normalizeRelativePath text)).toList.splitOn '/' =
      befores' ++ part.toList :: afters := by
  obtain ⟨front, whole, each⟩ := normalize_front text
  rw [whole] at parts
  exact SplitText.splitOn_of_blank_front each solid
    (fun empty => named (String.toList_eq_nil_iff.mp empty)) parts

/-- A file that a path leads to has no backslash in its own path. -/
theorem slashes_of_led (led : resolveInside (normalizeRelativePath text) = some path) :
    slashes path = path := by
  refine slashes_of_notMem fun member => ?_
  obtain ⟨part, among, held⟩ := SplitText.exists_mem_splitOn member (by decide : '\\' ≠ '/')
  have inPath : String.ofList part ∈ splitPath path := List.mem_map_of_mem among
  have named : String.ofList part ≠ "" := by
    intro empty
    have none := congrArg String.toList empty
    rw [String.toList_ofList] at none
    rw [none] at held
    cases held
  have inRel := mem_splitPath_iff.mp (mem_splitPath_of_led led inPath named)
  rw [String.toList_ofList] at inRel
  exact notMem_normalize text (SplitText.mem_of_mem_splitOn inRel held)

/-- An eligible path does not lead to a private key. -/
theorem not_private_of_eligible
    (eligible : isQuarantineEligible (normalizeRelativePath text) = true)
    (led : resolveInside (normalizeRelativePath text) = some path)
    (name : FileTree.nameOf path = pathName (normalizeRelativePath text)) :
    isPrivateFile path = false := by
  have lowered := eligiblePath_of_eligible eligible
  have plain : slashes (PythonText.lower
      (normalizeRelativePath (normalizeRelativePath text))) = PythonText.lower
      (normalizeRelativePath (normalizeRelativePath text)) := by
    refine slashes_of_notMem fun member => ?_
    rw [PythonText.lower, String.toList_ofList] at member
    obtain ⟨c, among, same⟩ := List.mem_map.mp member
    have backslash := (PythonText.lowerChar_eq_iff (by decide) (by decide)).mp same
    exact notMem_normalize _ (backslash ▸ among)
  rw [isPrivateFile, Bool.eq_false_iff]
  intro isPrivate
  refine Bool.eq_false_iff.mp lowered.notPrivate (isPrivateKeyPath_iff.mpr ?_)
  rw [slashes_of_led led, isPrivateKeyPath_iff, slashes_of_led led] at isPrivate
  rcases isPrivate with inParts | inName
  · left
    obtain ⟨part, among, word⟩ := inParts
    have named : part ≠ "" := by
      rintro rfl
      exact absurd word (by decide)
    have solid : ∀ c ∈ part.toList, ¬PythonText.isSpace c = true := by
      simp only [List.mem_cons, List.not_mem_nil, or_false] at word
      rcases word with key | key <;> exact PythonText.not_isSpace_of_lower key (by decide)
    have inRel := mem_splitPath_iff.mp (mem_splitPath_of_led led among named)
    obtain ⟨befores, afters, parts⟩ := List.append_of_mem inRel
    obtain ⟨befores', normal⟩ := splitOn_normalize parts named solid
    refine ⟨PythonText.lower part, ?_, by rwa [PythonText.lower_lower]⟩
    rw [plain, splitPath_lower]
    refine List.mem_map_of_mem (mem_splitPath_iff.mpr ?_)
    rw [normal]
    exact List.mem_append_right _ List.mem_cons_self
  · right
    obtain ⟨front, whole, each⟩ := normalize_front text
    obtain ⟨blanks, names, blank⟩ := pathName_blank_append whole each lowered
    have without (word : String) (some : word.toList ≠ [])
        (solid : word.toList.any PythonText.isSpace = false)
        (found : textContains word (PythonText.lower (FileTree.nameOf path)) = true) :
        textContains word (PythonText.lower (pathName (PythonText.lower
          (normalizeRelativePath (normalizeRelativePath text))))) = true := by
      rw [pathName_lower, PythonText.lower_lower]
      have there := of_decide_eq_true found
      have same : blanks.map PythonText.lowerChar = blanks :=
        (List.map_congr_left fun c member =>
          PythonText.lowerChar_of_isSpace (blank c member)).trans (List.map_id _)
      rw [name, PythonText.lower, String.toList_ofList, names, List.map_append, same] at there
      refine decide_eq_true (infix_of_blanks some (fun c member space => ?_) blank ?_)
      · exact Bool.false_ne_true (solid.symm.trans (List.any_eq_true.mpr ⟨c, member, space⟩))
      · rw [PythonText.lower, String.toList_ofList]
        exact there
    exact inName.imp (without _ (by decide) (by decide)) (without _ (by decide) (by decide))

/-- An eligible path does not lead to a file below an `own` directory. -/
theorem not_own_of_eligible
    (eligible : isQuarantineEligible (normalizeRelativePath text) = true)
    {front dirs : List String} {name : String}
    (relParts : pathParts (normalizeRelativePath text) = front ++ [name])
    (pathParts : splitPath path = dirs ++ [name]) (within : ∀ dir ∈ dirs, dir ∈ front) :
    ¬IsOwnFile path := by
  intro own
  obtain ⟨dir, among, lowered⟩ := own
  rw [pathParts, List.dropLast_concat] at among
  obtain ⟨first, second, parts, inFirst, inSecond⟩ := List.filter_eq_append_iff.mp relParts
  have there : dir ∈ first := List.mem_of_mem_filter (inFirst ▸ within dir among)
  obtain ⟨before, after, rfl⟩ := List.append_of_mem there
  have some : after ++ second ≠ [] := by
    intro empty
    rw [(List.append_eq_nil_iff.mp empty).2] at inSecond
    cases inSecond
  have chars : (normalizeRelativePath text).toList.splitOn '/' =
      before.map String.toList ++ dir.toList :: (after ++ second).map String.toList := by
    rw [← map_toList_splitPath, parts]
    simp
  have named : dir ≠ "" := by
    rintro rfl
    exact absurd lowered (by decide)
  obtain ⟨befores, normal⟩ := splitOn_normalize chars named
    (PythonText.not_isSpace_of_lower lowered (by decide))
  have strings : splitPath (normalizeRelativePath (normalizeRelativePath text)) =
      befores.map String.ofList ++ dir :: (after ++ second) := by
    rw [splitPath, normal, List.map_append, List.map_cons, String.ofList_toList, List.map_map]
    exact congrArg (_ ++ dir :: ·)
      ((List.map_congr_left fun part _ => String.ofList_toList).trans (List.map_id _))
  have whole := intercalate_splitPath (PythonText.lower
    (normalizeRelativePath (normalizeRelativePath text)))
  rw [splitPath_lower, strings, List.map_append, List.map_cons, lowered] at whole
  have more : (after ++ second).map PythonText.lower ≠ [] := fun none =>
    some (List.map_eq_nil_iff.mp none)
  obtain ⟨notWithin, notFirst⟩ := (eligiblePath_of_eligible eligible).notOwn
  cases inFront : (befores.map String.ofList).map PythonText.lower with
  | nil =>
      rw [inFront, List.nil_append, String.intercalate_cons_of_ne_nil more] at whole
      refine Bool.eq_false_iff.mp notFirst (List.isPrefixOf_iff_prefix.mpr ?_)
      rw [← whole, String.toList_append, String.toList_append]
      exact ⟨_, rfl⟩
  | cons earlier others =>
      rw [inFront, String.intercalate_append_of_ne_nil (List.cons_ne_nil _ _)
        (List.cons_ne_nil _ _),
        String.intercalate_cons_of_ne_nil more] at whole
      have joined (front back : String) :
          front ++ "/" ++ ("own" ++ "/" ++ back) = front ++ ("/own/" ++ back) := by
        rw [show "/own/" = "/" ++ ("own" ++ "/") from rfl]
        simp only [String.append_assoc]
      rw [joined] at whole
      refine Bool.eq_false_iff.mp notWithin (decide_eq_true ?_)
      rw [← whole, String.toList_append, String.toList_append, ← List.append_assoc]
      exact ⟨_, _, rfl⟩

end Eligible

end OpcuaGds.Agent
