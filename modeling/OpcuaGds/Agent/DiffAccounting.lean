import OpcuaGds.Agent.DiffReport

/-! # What the items of a difference report are about

An index has one certificate for each application URI, the last one of its list. The items of a
report are about the indices: a pair of an application URI and a fingerprint that is in one index
only is in one of them.
-/

namespace OpcuaGds.Agent

/-! ## Certificates by application URI and fingerprint -/

section Pairs

/-- The application URI and the fingerprint of a certificate; empty where they are missing. -/
def certPair (cert : CertEntry) : String × String :=
  (cert.applicationUri.getD "", foldedFp cert.fingerprintSha256)

def certPairs (certs : List CertEntry) : List (String × String) := certs.map certPair

/-- The certificate of a list that counts for an application URI: the last one with it. -/
def standingCert (certs : List CertEntry) (appUri : String) : Option CertEntry :=
  certs.reverse.find? fun cert => presentText cert.applicationUri = some appUri

/-- The certificate that counts for the application URI of a pair has the fingerprint of it. -/
def Stands (certs : List CertEntry) (pair : String × String) : Prop :=
  ∃ cert, standingCert certs pair.1 = some cert ∧ foldedFp cert.fingerprintSha256 = pair.2

def CertView.pair (view : CertView) : String × String :=
  (view.applicationUri, foldedFp view.fingerprintSha256)

/-- The pair of the previous list that a change is about. -/
def CertChange.previousPair : CertChange → Option (String × String)
  | .applicationUriChanged previous _ fp => some (previous, foldedFp (some fp))
  | .fingerprintChanged uri previous _ => some (uri, foldedFp previous)
  | _ => none

/-- The pair of the current list that a change is about. -/
def CertChange.newPair : CertChange → Option (String × String)
  | .applicationUriChanged _ new fp => some (new, foldedFp (some fp))
  | .fingerprintChanged uri _ new => some (uri, foldedFp new)
  | _ => none

end Pairs

/-! ## The index -/

section Index

variable {parseNotAfter : String → Option String} {certs : List CertEntry} {appUri : String}
  {entry : IndexedCert}

theorem presentText_eq_some_iff {text : Option String} {value : String} :
    presentText text = some value ↔ text = some value ∧ value ≠ "" := by
  rw [presentText, Option.filter_eq_some_iff, bne_iff_ne]

theorem get?_buildCertIndex :
    (buildCertIndex parseNotAfter certs).1.get? appUri =
      (standingCert certs appUri).map fun cert => (indexedCert parseNotAfter appUri cert).1 := by
  have general (list : List CertEntry) :
      ((indexedEntries parseNotAfter list).map fun entry => (entry.1, entry.2.1)).lookup appUri =
        (list.find? fun cert => presentText cert.applicationUri = some appUri).map
          fun cert => (indexedCert parseNotAfter appUri cert).1 := by
    induction list with
    | nil => rfl
    | cons cert rest ih =>
        rw [indexedEntries, List.filterMap_cons, List.find?_cons]
        cases present : presentText cert.applicationUri with
        | none =>
            rw [decide_eq_false (by exact nofun)]
            exact ih
        | some uri =>
            simp only [Option.map_some, List.map_cons, Dict.lookup_cons_eq_ite,
              Option.some.injEq]
            by_cases here : appUri = uri
            · rw [if_pos here, decide_eq_true here.symm, here]
              rfl
            · rw [if_neg here, decide_eq_false fun same => here same.symm]
              exact ih
  rw [buildCertIndex, Dict.get?_ofList, standingCert, ← general, indexedEntries, indexedEntries,
    ← List.map_reverse, List.filterMap_reverse]

@[simp] theorem indexedCert_fingerprintSha256 {cert : CertEntry} :
    (indexedCert parseNotAfter appUri cert).1.fingerprintSha256 = cert.fingerprintSha256 := by
  rw [indexedCert]
  cases presentText cert.pem <;> rfl

@[simp] theorem indexedCert_applicationUri {cert : CertEntry} :
    (indexedCert parseNotAfter appUri cert).1.applicationUri = appUri := by
  rw [indexedCert]
  cases presentText cert.pem <;> rfl

@[simp] theorem indexedCert_commonName {cert : CertEntry} :
    (indexedCert parseNotAfter appUri cert).1.commonName = cert.commonName := by
  rw [indexedCert]
  cases presentText cert.pem <;> rfl

@[simp] theorem indexedCert_notAfter {cert : CertEntry} :
    (indexedCert parseNotAfter appUri cert).1.notAfter =
      (presentText cert.pem).bind parseNotAfter := by
  rw [indexedCert]
  cases presentText cert.pem <;> rfl

/-- An index has the pair at its application URI. -/
def HasPair (idx : Dict String IndexedCert) (pair : String × String) : Prop :=
  ∃ entry, idx.get? pair.1 = some entry ∧ foldedFp entry.fingerprintSha256 = pair.2

theorem hasPair_buildCertIndex {pair : String × String} :
    HasPair (buildCertIndex parseNotAfter certs).1 pair ↔ Stands certs pair := by
  rw [HasPair, get?_buildCertIndex, Stands]
  constructor
  · intro held
    obtain ⟨entry, found, folded⟩ := held
    obtain ⟨cert, standing, rfl⟩ := Option.map_eq_some_iff.mp found
    rw [indexedCert_fingerprintSha256] at folded
    exact ⟨cert, standing, folded⟩
  · intro stands
    obtain ⟨cert, standing, folded⟩ := stands
    refine ⟨_, Option.map_eq_some_iff.mpr ⟨cert, standing, rfl⟩, ?_⟩
    rw [indexedCert_fingerprintSha256, folded]

theorem applicationUri_of_get? (found : (buildCertIndex parseNotAfter certs).1.get? appUri =
    some entry) : entry.applicationUri = appUri := by
  rw [get?_buildCertIndex] at found
  obtain ⟨cert, -, rfl⟩ := Option.map_eq_some_iff.mp found
  exact indexedCert_applicationUri

theorem Stands.mem {pair : String × String} (stands : Stands certs pair) :
    pair ∈ certPairs certs := by
  obtain ⟨cert, standing, folded⟩ := stands
  have among : cert ∈ certs := List.mem_reverse.mp (List.mem_of_find?_eq_some standing)
  have named := List.find?_some standing
  rw [decide_eq_true_iff] at named
  refine List.mem_map.mpr ⟨cert, among, Prod.ext ?_ folded⟩
  rw [certPair, (presentText_eq_some_iff.mp named).1, Option.getD_some]

end Index

/-! ## What two indices differ in -/

section Differences

variable {prevIdx newIdx idx other : Dict String IndexedCert}

theorem get?_fpToUri {fp : String} :
    (fpToUri idx).get? fp = idx.keys.reverse.find? fun uri =>
      (idx.get? uri).bind (fun entry => presentText entry.fingerprintSha256) = some fp := by
  rw [fpToUri, Dict.get?_ofList, Dict.items_eq_filterMap_keys, List.filterMap_filterMap,
    ← List.filterMap_reverse, ← Dict.lookup_filterMap_names]
  congr 1
  refine List.filterMap_congr fun uri _ => ?_
  cases idx.get? uri <;> rfl

theorem entry_of_fpToUri {fp uri : String} (held : (fpToUri idx).get? fp = some uri) :
    ∃ entry, idx.get? uri = some entry ∧ entry.fingerprintSha256 = some fp := by
  rw [get?_fpToUri] at held
  have chosen := List.find?_some held
  rw [decide_eq_true_iff] at chosen
  obtain ⟨entry, found, present⟩ := Option.bind_eq_some_iff.mp chosen
  exact ⟨entry, found, (presentText_eq_some_iff.mp present).1⟩

theorem mem_movedFingerprints {fp old new : String} :
    (fp, (old, new)) ∈ movedFingerprints prevIdx newIdx ↔
      (fpToUri prevIdx).get? fp = some old ∧ (fpToUri newIdx).get? fp = some new ∧ old ≠ new := by
  rw [movedFingerprints, List.mem_filterMap]
  constructor
  · intro among
    obtain ⟨item, inItems, result⟩ := among
    obtain ⟨uri, found, chosen⟩ := Option.bind_eq_some_iff.mp result
    split at chosen
    · rename_i apart
      cases chosen
      exact ⟨Dict.mem_items.mp inItems, found, apart⟩
    · cases chosen
  · intro moved
    obtain ⟨before, after, apart⟩ := moved
    refine ⟨(fp, old), Dict.mem_items.mpr before, ?_⟩
    rw [after, Option.bind_some, if_pos apart]

theorem mem_certChanges {change : CertChange} :
    change ∈ certChanges prevIdx newIdx ↔
      (∃ fp old new, (fp, (old, new)) ∈ movedFingerprints prevIdx newIdx ∧
        change = .applicationUriChanged old new fp) ∨
      ∃ uri before after, prevIdx.get? uri = some before ∧ newIdx.get? uri = some after ∧
        change ∈ entryChanges uri before after := by
  rw [certChanges, List.mem_append, List.mem_map, List.mem_flatMap]
  refine or_congr ?_ ?_
  · constructor
    · intro among
      obtain ⟨⟨fp, old, new⟩, moved, rfl⟩ := among
      exact ⟨fp, old, new, moved, rfl⟩
    · intro moved
      obtain ⟨fp, old, new, moved, rfl⟩ := moved
      exact ⟨(fp, (old, new)), moved, rfl⟩
  · constructor
    · intro among
      obtain ⟨uri, -, among⟩ := among
      split at among
      · rename_i before after found same
        exact ⟨uri, before, after, found, same, among⟩
      · cases among
    · intro found
      obtain ⟨uri, before, after, was, now, among⟩ := found
      refine ⟨uri, ?_, ?_⟩
      · rw [List.mem_insertionSort, List.mem_filter, decide_eq_true_iff, Dict.mem_keys,
          Dict.mem_keys, was, now]
        exact ⟨rfl, rfl⟩
      · rw [was, now]
        exact among

theorem mem_onlyIn {movedUris : List String} {view : CertView} :
    view ∈ onlyIn idx other movedUris ↔
      ∃ uri entry, idx.get? uri = some entry ∧ other.get? uri = none ∧ uri ∉ movedUris ∧
        certView entry = view := by
  rw [onlyIn, List.mem_filterMap]
  constructor
  · intro among
    obtain ⟨uri, inKeys, viewed⟩ := among
    obtain ⟨entry, found, rfl⟩ := Option.map_eq_some_iff.mp viewed
    rw [List.mem_insertionSort, List.mem_filter, decide_eq_true_iff, Dict.mem_keys,
      Dict.mem_keys, Option.not_isSome_iff_eq_none] at inKeys
    exact ⟨uri, entry, found, inKeys.2.1, inKeys.2.2, rfl⟩
  · intro found
    obtain ⟨uri, entry, held, absent, unmoved, rfl⟩ := found
    refine ⟨uri, ?_, ?_⟩
    · rw [List.mem_insertionSort, List.mem_filter, decide_eq_true_iff, Dict.mem_keys,
        Dict.mem_keys, held, absent]
      exact ⟨rfl, nofun, unmoved⟩
    · rw [held, Option.map_some]

theorem mem_entryChanges_fingerprintChanged {uri name : String} {before after : IndexedCert}
    {old new : Option String} :
    CertChange.fingerprintChanged name old new ∈ entryChanges uri before after ↔
      foldedFp before.fingerprintSha256 ≠ foldedFp after.fingerprintSha256 ∧ name = uri ∧
        old = before.fingerprintSha256 ∧ new = after.fingerprintSha256 := by
  rw [entryChanges, List.mem_append, List.mem_append, List.mem_ite_nil_right,
    List.mem_ite_nil_right, List.mem_ite_nil_right, List.mem_singleton, List.mem_singleton,
    List.mem_singleton, CertChange.fingerprintChanged.injEq, or_assoc, or_iff_left]
  intro others
  rcases others with named | dated
  · exact absurd named.2 nofun
  · exact absurd dated.2 nofun

theorem not_mem_entryChanges_applicationUriChanged {uri old new fp : String}
    {before after : IndexedCert} :
    CertChange.applicationUriChanged old new fp ∉ entryChanges uri before after := by
  rw [entryChanges, List.mem_append, List.mem_append, List.mem_ite_nil_right,
    List.mem_ite_nil_right, List.mem_ite_nil_right, List.mem_singleton, List.mem_singleton,
    List.mem_singleton]
  intro among
  rcases among with (folded | named) | dated
  · exact absurd folded.2 nofun
  · exact absurd named.2 nofun
  · exact absurd dated.2 nofun

/-- The pairs of one side that the changes are about: moved fingerprints, and fingerprints that
are another in the other index. -/
inductive ChangedPair (idx other : Dict String IndexedCert) (moved : String → String → Prop) :
    String × String → Prop
  | moved {uri fp : String} (elsewhere : moved uri fp) : ChangedPair idx other moved
      (uri, foldedFp (some fp))
  | folded {uri : String} {here there : IndexedCert} (held : idx.get? uri = some here)
      (otherHeld : other.get? uri = some there)
      (apart : foldedFp here.fingerprintSha256 ≠ foldedFp there.fingerprintSha256) :
      ChangedPair idx other moved (uri, foldedFp here.fingerprintSha256)

/-- Only moved and folded fingerprints are changes with a pair. -/
theorem exists_pair_iff {pairOf : CertChange → Option (String × String)} {pair : String × String}
    (name : ∀ name old new, pairOf (.commonNameChanged name old new) = none)
    (date : ∀ kind name old new, pairOf (.notAfter kind name old new) = none) :
    (∃ change ∈ certChanges prevIdx newIdx, pairOf change = some pair) ↔
      (∃ fp old new, (fp, (old, new)) ∈ movedFingerprints prevIdx newIdx ∧
        pairOf (.applicationUriChanged old new fp) = some pair) ∨
      ∃ uri before after, prevIdx.get? uri = some before ∧ newIdx.get? uri = some after ∧
        foldedFp before.fingerprintSha256 ≠ foldedFp after.fingerprintSha256 ∧
        pairOf (.fingerprintChanged uri before.fingerprintSha256 after.fingerprintSha256) =
          some pair := by
  constructor
  · intro changed
    obtain ⟨change, among, about⟩ := changed
    obtain ⟨fp, old, new, moved, rfl⟩ | ⟨uri, before, after, was, now, among⟩ :=
      mem_certChanges.mp among
    · exact .inl ⟨fp, old, new, moved, about⟩
    · cases change with
      | applicationUriChanged old new fp =>
          exact absurd among not_mem_entryChanges_applicationUriChanged
      | fingerprintChanged changed old new =>
          obtain ⟨apart, rfl, rfl, rfl⟩ := mem_entryChanges_fingerprintChanged.mp among
          exact .inr ⟨_, before, after, was, now, apart, about⟩
      | commonNameChanged changed old new =>
          rw [name] at about
          cases about
      | notAfter kind changed old new =>
          rw [date] at about
          cases about
  · intro changed
    rcases changed with ⟨fp, old, new, moved, about⟩ | ⟨uri, before, after, was, now, apart, about⟩
    · exact ⟨_, mem_certChanges.mpr (.inl ⟨_, _, _, moved, rfl⟩), about⟩
    · exact ⟨_, mem_certChanges.mpr (.inr ⟨_, _, _, was, now,
        mem_entryChanges_fingerprintChanged.mpr ⟨apart, rfl, rfl, rfl⟩⟩), about⟩

theorem previousPair_iff {pair : String × String} :
    (∃ change ∈ certChanges prevIdx newIdx, change.previousPair = some pair) ↔
      ChangedPair prevIdx newIdx
        (fun uri fp => ∃ new, (fp, (uri, new)) ∈ movedFingerprints prevIdx newIdx) pair := by
  refine (exists_pair_iff (fun _ _ _ => rfl) fun _ _ _ _ => rfl).trans ?_
  constructor
  · intro changed
    rcases changed with ⟨fp, old, new, moved, about⟩ | ⟨uri, before, after, was, now, apart, about⟩
    · cases about
      exact .moved ⟨new, moved⟩
    · cases about
      exact .folded was now apart
  · intro changed
    cases changed with
    | moved elsewhere =>
        obtain ⟨new, moved⟩ := elsewhere
        exact .inl ⟨_, _, _, moved, rfl⟩
    | folded was now apart => exact .inr ⟨_, _, _, was, now, apart, rfl⟩

theorem newPair_iff {pair : String × String} :
    (∃ change ∈ certChanges prevIdx newIdx, change.newPair = some pair) ↔
      ChangedPair newIdx prevIdx
        (fun uri fp => ∃ old, (fp, (old, uri)) ∈ movedFingerprints prevIdx newIdx) pair := by
  refine (exists_pair_iff (fun _ _ _ => rfl) fun _ _ _ _ => rfl).trans ?_
  constructor
  · intro changed
    rcases changed with ⟨fp, old, new, moved, about⟩ | ⟨uri, before, after, was, now, apart, about⟩
    · cases about
      exact .moved ⟨old, moved⟩
    · cases about
      exact .folded now was apart.symm
  · intro changed
    cases changed with
    | moved elsewhere =>
        obtain ⟨old, moved⟩ := elsewhere
        exact .inl ⟨_, _, _, moved, rfl⟩
    | folded now was apart => exact .inr ⟨_, _, _, was, now, apart.symm, rfl⟩

/-- A pair that the other index does not have is in an item where its own index has it. -/
theorem accounted_iff {moved : String → String → Prop} {movedUris : List String}
    {pair : String × String}
    (named : ∀ uri entry, idx.get? uri = some entry → entry.applicationUri = uri)
    (listed : ∀ uri, uri ∈ movedUris ↔ ∃ fp, moved uri fp)
    (holder : ∀ uri fp, moved uri fp →
      ∃ entry, idx.get? uri = some entry ∧ entry.fingerprintSha256 = some fp)
    (absent : ¬HasPair other pair) :
    ((∃ view ∈ onlyIn idx other movedUris, view.pair = pair) ∨ ChangedPair idx other moved pair) ↔
      HasPair idx pair := by
  constructor
  · intro accounted
    rcases accounted with only | changed
    · obtain ⟨view, among, rfl⟩ := only
      obtain ⟨uri, entry, held, -, -, rfl⟩ := mem_onlyIn.mp among
      exact ⟨entry, (congrArg idx.get? (named uri entry held)).trans held, rfl⟩
    · cases changed with
      | moved elsewhere =>
          obtain ⟨entry, held, same⟩ := holder _ _ elsewhere
          exact ⟨entry, held, congrArg foldedFp same⟩
      | folded held _ _ => exact ⟨_, held, rfl⟩
  · intro held
    obtain ⟨uri, folded⟩ := pair
    obtain ⟨entry, found, rfl⟩ := held
    cases across : other.get? uri with
    | some there =>
        refine .inr (.folded found across fun same => absent ⟨there, across, same.symm⟩)
    | none =>
        by_cases among : uri ∈ movedUris
        · obtain ⟨fp, elsewhere⟩ := (listed uri).mp among
          obtain ⟨holding, holds, same⟩ := holder uri fp elsewhere
          cases holds.symm.trans found
          rw [same]
          exact .inr (.moved elsewhere)
        · refine .inl ⟨certView entry, mem_onlyIn.mpr ⟨uri, entry, found, across, among, rfl⟩, ?_⟩
          exact Prod.ext (named uri entry found) rfl

theorem removed_accounted_iff {pair : String × String}
    (named : ∀ uri entry, prevIdx.get? uri = some entry → entry.applicationUri = uri)
    (absent : ¬HasPair newIdx pair) :
    ((∃ view ∈ removedCerts prevIdx newIdx, view.pair = pair) ∨
      ∃ change ∈ certChanges prevIdx newIdx, change.previousPair = some pair) ↔
      HasPair prevIdx pair := by
  rw [previousPair_iff]
  refine accounted_iff named (fun uri => ?_) (fun uri fp elsewhere => ?_) absent
  · rw [List.mem_map]
    constructor
    · intro among
      obtain ⟨⟨fp, old, new⟩, moved, rfl⟩ := among
      exact ⟨fp, new, moved⟩
    · intro elsewhere
      obtain ⟨fp, new, moved⟩ := elsewhere
      exact ⟨_, moved, rfl⟩
  · obtain ⟨new, moved⟩ := elsewhere
    exact entry_of_fpToUri (mem_movedFingerprints.mp moved).1

theorem added_accounted_iff {pair : String × String}
    (named : ∀ uri entry, newIdx.get? uri = some entry → entry.applicationUri = uri)
    (absent : ¬HasPair prevIdx pair) :
    ((∃ view ∈ addedCerts prevIdx newIdx, view.pair = pair) ∨
      ∃ change ∈ certChanges prevIdx newIdx, change.newPair = some pair) ↔
      HasPair newIdx pair := by
  rw [newPair_iff]
  refine accounted_iff named (fun uri => ?_) (fun uri fp elsewhere => ?_) absent
  · rw [List.mem_map]
    constructor
    · intro among
      obtain ⟨⟨fp, old, new⟩, moved, rfl⟩ := among
      exact ⟨fp, old, moved⟩
    · intro elsewhere
      obtain ⟨fp, old, moved⟩ := elsewhere
      exact ⟨_, moved, rfl⟩
  · obtain ⟨old, moved⟩ := elsewhere
    exact entry_of_fpToUri (mem_movedFingerprints.mp moved).2.1

end Differences

end OpcuaGds.Agent
