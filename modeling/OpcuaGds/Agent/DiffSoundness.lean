import OpcuaGds.Agent.DiffAccounting

/-! # When a difference report is sound

The report is silent about the certificates that have no application URI and about those that a
later one of the same application URI hides; and its risk does not depend on the revocation list.
-/

namespace OpcuaGds.Agent

/-! ## Statements -/

section Statements

variable (parseNotAfter : String → Option String) (input : DiffInput)

/-- A change of low risk leaves the certificates, the chain and the revocation list as they were,
and every certificate that is in one list only is in an item of the report. -/
structure DiffSound : Prop where
  low : (buildDiffReport parseNotAfter input).riskLevel = .low →
    (∀ pair, pair ∈ certPairs input.prevCerts ↔ pair ∈ certPairs input.newCerts) ∧
      input.caChainChanged = false ∧ input.crlChanged = false
  previous : ∀ pair ∈ certPairs input.prevCerts, pair ∉ certPairs input.newCerts →
    (∃ view ∈ (buildDiffReport parseNotAfter input).removed, view.pair = pair) ∨
      ∃ change ∈ (buildDiffReport parseNotAfter input).changed, change.previousPair = some pair
  current : ∀ pair ∈ certPairs input.newCerts, pair ∉ certPairs input.prevCerts →
    (∃ view ∈ (buildDiffReport parseNotAfter input).added, view.pair = pair) ∨
      ∃ change ∈ (buildDiffReport parseNotAfter input).changed, change.newPair = some pair

/-- The end of the validity that the index has for a certificate. -/
def validUntil (cert : CertEntry) : Option String := (presentText cert.pem).bind parseNotAfter

/-- Two certificates of one application URI without a change of more than low risk: where one of
them has no end of validity, the other may have any. -/
structure SameStanding (before after : CertEntry) : Prop where
  fingerprint : foldedFp before.fingerprintSha256 = foldedFp after.fingerprintSha256
  commonName : before.commonName = after.commonName
  validity : validUntil parseNotAfter before = validUntil parseNotAfter after ∨
    presentText (validUntil parseNotAfter before) = none ∨
      presentText (validUntil parseNotAfter after) = none

/-- The last application URI, in the order in which the URIs come first, whose certificate has a
fingerprint. -/
def fingerprintHolder (certs : List CertEntry) (fp : String) : Option String :=
  ((certs.filterMap fun cert => presentText cert.applicationUri).eraseDups.reverse).find? fun uri =>
    (standingCert certs uri).bind (fun cert => presentText cert.fingerprintSha256) = some fp

/-- Two lists in which a comparison finds nothing of more than low risk. -/
structure Unremarkable : Prop where
  reasons : input.criticalReasons = []
  listed : ∀ current, input.current = some current → current.certificates ≠ []
  chain : ∀ current, input.current = some current → ∀ pem, current.caChainPem = some pem →
    textContains "BEGIN CERTIFICATE" (pem.getD "") = true
  parsed : ∀ cert ∈ input.prevCerts ++ input.newCerts, presentText cert.applicationUri ≠ none →
    ∀ pem, presentText cert.pem = some pem → parseNotAfter pem ≠ none
  sameChain : input.caChainChanged = false
  standing : ∀ uri, Option.Rel (SameStanding parseNotAfter) (standingCert input.prevCerts uri)
    (standingCert input.newCerts uri)
  holders : ∀ fp uri other, fingerprintHolder input.prevCerts fp = some uri →
    fingerprintHolder input.newCerts fp = some other → uri = other

end Statements

/-! ## Low risk -/

section Indices

variable {prevIdx newIdx idx other : Dict String IndexedCert}

/-- Two entries of one application URI without a change of more than low risk. -/
structure SameEntry (before after : IndexedCert) : Prop where
  fingerprint : foldedFp before.fingerprintSha256 = foldedFp after.fingerprintSha256
  commonName : before.commonName = after.commonName
  validity : before.notAfter = after.notAfter ∨ presentText before.notAfter = none ∨
    presentText after.notAfter = none

theorem notAfterKind_eq_changed_iff {before after : Option String} :
    notAfterKind before after = .changed ↔
      presentText before = none ∨ presentText after = none := by
  rw [notAfterKind]
  cases old : presentText before with
  | none => exact iff_of_true rfl (.inl rfl)
  | some earlier =>
      cases new : presentText after with
      | none => exact iff_of_true rfl (.inr rfl)
      | some later =>
          refine iff_of_false ?_ (not_or_intro nofun nofun)
          dsimp only
          split <;> exact nofun

def CertChange.IsLow (change : CertChange) : Prop :=
  change.isHigh = false ∧ change.isExtension = false

theorem CertChange.isLow_notAfter_iff {kind : NotAfterKind} {uri : String}
    {old new : Option String} : (CertChange.notAfter kind uri old new).IsLow ↔ kind = .changed := by
  cases kind with
  | changed => exact iff_of_true ⟨rfl, rfl⟩ rfl
  | extended => exact iff_of_false (fun low => absurd low.2 nofun) nofun
  | reduced => exact iff_of_false (fun low => absurd low.1 nofun) nofun

theorem entryChanges_isLow_iff {uri : String} {before after : IndexedCert} :
    (∀ change ∈ entryChanges uri before after, change.IsLow) ↔ SameEntry before after := by
  constructor
  · intro low
    refine ⟨?_, ?_, ?_⟩
    · by_contra apart
      have among : CertChange.fingerprintChanged uri before.fingerprintSha256
          after.fingerprintSha256 ∈ entryChanges uri before after :=
        mem_entryChanges_fingerprintChanged.mpr ⟨apart, rfl, rfl, rfl⟩
      exact Bool.false_ne_true (low _ among).1.symm
    · by_contra apart
      have among : CertChange.commonNameChanged uri before.commonName after.commonName ∈
          entryChanges uri before after := by
        rw [entryChanges, if_pos apart]
        exact List.mem_append_left _ (List.mem_append_right _ (List.mem_singleton_self _))
      exact Bool.false_ne_true (low _ among).1.symm
    · by_cases same : before.notAfter = after.notAfter
      · exact .inl same
      · have among : CertChange.notAfter (notAfterKind before.notAfter after.notAfter) uri
            before.notAfter after.notAfter ∈ entryChanges uri before after := by
          rw [entryChanges, if_pos same]
          exact List.mem_append_right _ (List.mem_singleton_self _)
        exact .inr (notAfterKind_eq_changed_iff.mp (CertChange.isLow_notAfter_iff.mp (low _ among)))
  · intro same change among
    rw [entryChanges, if_neg (not_not_intro same.fingerprint),
      if_neg (not_not_intro same.commonName), List.nil_append, List.nil_append] at among
    split at among
    · rename_i apart
      cases List.mem_singleton.mp among
      exact CertChange.isLow_notAfter_iff.mpr
        (notAfterKind_eq_changed_iff.mpr (same.validity.resolve_left apart))
    · cases among

theorem onlyIn_eq_nil_iff {movedUris : List String} :
    onlyIn idx other movedUris = [] ↔
      ∀ uri, other.get? uri = none → uri ∉ movedUris → idx.get? uri = none := by
  rw [List.eq_nil_iff_forall_not_mem]
  constructor
  · intro none_only uri absent unmoved
    by_contra present
    obtain ⟨entry, held⟩ := Option.ne_none_iff_exists'.mp present
    exact none_only _ (mem_onlyIn.mpr ⟨uri, entry, held, absent, unmoved, rfl⟩)
  · intro covered view among
    obtain ⟨uri, entry, held, absent, unmoved, -⟩ := mem_onlyIn.mp among
    exact absurd ((covered uri absent unmoved).symm.trans held) nofun

/-- No fingerprint is under different application URIs. -/
def Unmoved (prevIdx newIdx : Dict String IndexedCert) : Prop :=
  ∀ fp old new, (fpToUri prevIdx).get? fp = some old → (fpToUri newIdx).get? fp = some new →
    old = new

theorem movedFingerprints_eq_nil_iff :
    movedFingerprints prevIdx newIdx = [] ↔ Unmoved prevIdx newIdx := by
  rw [List.eq_nil_iff_forall_not_mem]
  constructor
  · intro unmoved fp old new was now
    by_contra apart
    exact unmoved _ (mem_movedFingerprints.mpr ⟨was, now, apart⟩)
  · intro unmoved moved among
    obtain ⟨fp, old, new⟩ := moved
    obtain ⟨was, now, apart⟩ := mem_movedFingerprints.mp among
    exact apart (unmoved fp old new was now)

/-- The comparison of two indices finds nothing of more than low risk. -/
theorem quiet_iff :
    (removedCerts prevIdx newIdx = [] ∧ addedCerts prevIdx newIdx = [] ∧
      ∀ change ∈ certChanges prevIdx newIdx, change.IsLow) ↔
      Unmoved prevIdx newIdx ∧
        ∀ uri, Option.Rel SameEntry (prevIdx.get? uri) (newIdx.get? uri) := by
  constructor
  · intro quiet
    obtain ⟨noneRemoved, noneAdded, low⟩ := quiet
    have still : movedFingerprints prevIdx newIdx = [] := by
      refine List.eq_nil_iff_forall_not_mem.mpr fun moved among => ?_
      obtain ⟨fp, old, new⟩ := moved
      exact absurd (low _ (mem_certChanges.mpr (.inl ⟨fp, old, new, among, rfl⟩))).1 nofun
    rw [removedCerts, still, List.map_nil, onlyIn_eq_nil_iff] at noneRemoved
    rw [addedCerts, still, List.map_nil, onlyIn_eq_nil_iff] at noneAdded
    refine ⟨movedFingerprints_eq_nil_iff.mp still, fun uri => ?_⟩
    cases was : prevIdx.get? uri with
    | none =>
        rw [noneAdded uri was List.not_mem_nil]
        exact .none
    | some before =>
        cases now : newIdx.get? uri with
        | none => exact absurd ((noneRemoved uri now List.not_mem_nil).symm.trans was) nofun
        | some after =>
            have entryLow : ∀ change ∈ entryChanges uri before after, change.IsLow :=
              fun change among =>
                low change (mem_certChanges.mpr (.inr ⟨uri, before, after, was, now, among⟩))
            exact .some (entryChanges_isLow_iff.mp entryLow)
  · intro same
    obtain ⟨unmoved, entries⟩ := same
    have still := movedFingerprints_eq_nil_iff.mpr unmoved
    refine ⟨?_, ?_, fun change among => ?_⟩
    · refine onlyIn_eq_nil_iff.mpr fun uri absent _ => ?_
      have related := entries uri
      rw [absent] at related
      cases was : prevIdx.get? uri with
      | none => rfl
      | some before => exact nomatch was ▸ related
    · refine onlyIn_eq_nil_iff.mpr fun uri absent _ => ?_
      have related := entries uri
      rw [absent] at related
      cases now : newIdx.get? uri with
      | none => rfl
      | some after => exact nomatch now ▸ related
    · obtain ⟨fp, old, new, moved, rfl⟩ | ⟨uri, before, after, was, now, among⟩ :=
        mem_certChanges.mp among
      · rw [still] at moved
        cases moved
      · have related := entries uri
        rw [was, now] at related
        cases related with
        | some same => exact entryChanges_isLow_iff.mpr same change among

theorem diffRisk_eq_low_iff {criticalReasons : List String} {added removed : List CertView}
    {changed : List CertChange} {caChainChanged : Bool} :
    diffRisk criticalReasons added removed changed caChainChanged = .low ↔
      criticalReasons = [] ∧ caChainChanged = false ∧
        removed = [] ∧ added = [] ∧ ∀ change ∈ changed, change.IsLow := by
  have noHigh : changed.any CertChange.isHigh = true ↔ ∃ change ∈ changed, change.isHigh = true :=
    List.any_eq_true
  have noExtension : changed.any CertChange.isExtension = true ↔
      ∃ change ∈ changed, change.isExtension = true := List.any_eq_true
  rw [diffRisk]
  constructor
  · intro low
    split at low
    · cases low
    · rename_i unreasoned
      split at low
      · cases low
      · rename_i notHigh
        split at low
        · cases low
        · rename_i notMedium
          rw [not_or, not_or, noHigh, not_not] at notHigh
          rw [not_or, noExtension, not_not] at notMedium
          refine ⟨not_not.mp unreasoned, Bool.eq_false_of_not_eq_true notHigh.2.1, notHigh.1,
            notMedium.1, fun change among => ⟨?_, ?_⟩⟩
          · exact Bool.eq_false_of_not_eq_true fun high => notHigh.2.2 ⟨change, among, high⟩
          · exact Bool.eq_false_of_not_eq_true fun longer => notMedium.2 ⟨change, among, longer⟩
  · intro quiet
    obtain ⟨rfl, rfl, rfl, rfl, low⟩ := quiet
    rw [if_neg (not_not_intro rfl), if_neg, if_neg]
    · rw [not_or, noExtension]
      refine ⟨not_not_intro rfl, fun longer => ?_⟩
      obtain ⟨change, among, is⟩ := longer
      exact absurd ((low change among).2.symm.trans is) nofun
    · rw [not_or, not_or, noHigh]
      refine ⟨not_not_intro rfl, nofun, fun high => ?_⟩
      obtain ⟨change, among, is⟩ := high
      exact absurd ((low change among).1.symm.trans is) nofun

end Indices

/-! ## The lists behind the indices -/

section Lists

variable {parseNotAfter : String → Option String} {certs previous current : List CertEntry}

theorem keys_buildCertIndex :
    (buildCertIndex parseNotAfter certs).1.keys =
      (certs.filterMap fun cert => presentText cert.applicationUri).eraseDups := by
  rw [buildCertIndex, Dict.keys_ofList, List.map_map, indexedEntries, List.map_filterMap]
  congr 1
  refine List.filterMap_congr fun cert _ => ?_
  cases presentText cert.applicationUri <;> rfl

theorem get?_fpToUri_buildCertIndex {fp : String} :
    (fpToUri (buildCertIndex parseNotAfter certs).1).get? fp = fingerprintHolder certs fp := by
  rw [get?_fpToUri, keys_buildCertIndex, fingerprintHolder]
  congr 1
  funext uri
  rw [get?_buildCertIndex]
  cases standingCert certs uri with
  | none => rfl
  | some cert =>
      rw [Option.map_some, Option.bind_some, Option.bind_some, indexedCert_fingerprintSha256]

theorem sameEntry_indexedCert_iff {uri : String} {before after : CertEntry} :
    SameEntry (indexedCert parseNotAfter uri before).1 (indexedCert parseNotAfter uri after).1 ↔
      SameStanding parseNotAfter before after := by
  constructor
  · intro same
    have fingerprint := same.fingerprint
    have commonName := same.commonName
    have validity := same.validity
    rw [indexedCert_fingerprintSha256, indexedCert_fingerprintSha256] at fingerprint
    rw [indexedCert_commonName, indexedCert_commonName] at commonName
    rw [indexedCert_notAfter, indexedCert_notAfter] at validity
    exact ⟨fingerprint, commonName, validity⟩
  · intro same
    refine ⟨?_, ?_, ?_⟩
    · rw [indexedCert_fingerprintSha256, indexedCert_fingerprintSha256, same.fingerprint]
    · rw [indexedCert_commonName, indexedCert_commonName, same.commonName]
    · rw [indexedCert_notAfter, indexedCert_notAfter]
      exact same.validity

theorem rel_buildCertIndex_iff {uri : String} :
    Option.Rel SameEntry ((buildCertIndex parseNotAfter previous).1.get? uri)
        ((buildCertIndex parseNotAfter current).1.get? uri) ↔
      Option.Rel (SameStanding parseNotAfter) (standingCert previous uri)
        (standingCert current uri) := by
  rw [get?_buildCertIndex, get?_buildCertIndex]
  cases standingCert previous uri with
  | none =>
      cases standingCert current uri with
      | none => exact iff_of_true .none .none
      | some after => exact iff_of_false nofun nofun
  | some before =>
      cases standingCert current uri with
      | none => exact iff_of_false nofun nofun
      | some after =>
          constructor
          · intro related
            cases related with
            | some same => exact .some (sameEntry_indexedCert_iff.mp same)
          · intro related
            cases related with
            | some same => exact .some (sameEntry_indexedCert_iff.mpr same)

theorem indexedCert_malformed_iff {uri : String} {cert : CertEntry} :
    (indexedCert parseNotAfter uri cert).2 = false ↔
      ∀ pem, presentText cert.pem = some pem → parseNotAfter pem ≠ none := by
  rw [indexedCert]
  cases presentText cert.pem with
  | none =>
      refine iff_of_true rfl fun pem present => ?_
      cases present
  | some pem =>
      dsimp only
      rw [Option.isNone_eq_false_iff, Option.isSome_iff_ne_none]
      constructor
      · intro parsed text same
        cases same
        exact parsed
      · intro parsed
        exact parsed pem rfl

theorem parseErrors_eq_nil_iff :
    (buildCertIndex parseNotAfter certs).2 = [] ↔
      ∀ cert ∈ certs, presentText cert.applicationUri ≠ none →
        ∀ pem, presentText cert.pem = some pem → parseNotAfter pem ≠ none := by
  rw [buildCertIndex, List.filterMap_eq_nil_iff, indexedEntries]
  constructor
  · intro silent cert among named
    obtain ⟨uri, present⟩ := Option.ne_none_iff_exists'.mp named
    have entry : (uri, indexedCert parseNotAfter uri cert) ∈ certs.filterMap fun cert =>
        (presentText cert.applicationUri).map fun appUri =>
          (appUri, indexedCert parseNotAfter appUri cert) :=
      List.mem_filterMap.mpr ⟨cert, among, by rw [present, Option.map_some]⟩
    have wellFormed : (indexedCert parseNotAfter uri cert).2 = false := by
      by_contra malformed
      have quiet := silent _ entry
      rw [if_pos (Bool.eq_true_of_not_eq_false malformed)] at quiet
      cases quiet
    exact indexedCert_malformed_iff.mp wellFormed
  · intro parsed entry among
    obtain ⟨cert, inCerts, made⟩ := List.mem_filterMap.mp among
    obtain ⟨uri, present, rfl⟩ := Option.map_eq_some_iff.mp made
    have named : presentText cert.applicationUri ≠ none := present ▸ Option.some_ne_none uri
    rw [indexedCert_malformed_iff.mpr (parsed cert inCerts named)]
    rfl

end Lists

/-! ## The report -/

section Report

variable {parseNotAfter : String → Option String} {input : DiffInput}

theorem currentReasons_eq_nil_iff :
    currentReasons input = [] ↔
      (∀ current, input.current = some current → current.certificates ≠ []) ∧
        ∀ current, input.current = some current → ∀ pem, current.caChainPem = some pem →
          textContains "BEGIN CERTIFICATE" (pem.getD "") = true := by
  rw [currentReasons]
  cases input.current with
  | none => exact iff_of_true rfl ⟨nofun, nofun⟩
  | some current =>
      dsimp only
      rw [List.append_eq_nil_iff]
      refine and_congr ?_ ?_
      · rw [ite_eq_right_iff, List.isEmpty_iff]
        constructor
        · intro listed other same empty
          cases same
          exact absurd (listed empty) nofun
        · intro listed empty
          exact absurd empty (listed current rfl)
      · constructor
        · intro quiet other same pem held
          cases same
          rw [held] at quiet
          dsimp only at quiet
          by_contra missing
          rw [if_neg missing] at quiet
          cases quiet
        · intro marked
          cases held : current.caChainPem with
          | none => rfl
          | some pem =>
              dsimp only
              rw [if_pos (marked current rfl pem held)]

/-- A report is of low risk where the comparison finds nothing remarkable. -/
theorem riskLevel_eq_low_iff :
    (buildDiffReport parseNotAfter input).riskLevel = .low ↔ Unremarkable parseNotAfter input := by
  have indices : Unmoved (buildCertIndex parseNotAfter input.prevCerts).1
        (buildCertIndex parseNotAfter input.newCerts).1 ↔
      ∀ fp uri other, fingerprintHolder input.prevCerts fp = some uri →
        fingerprintHolder input.newCerts fp = some other → uri = other := by
    simp only [Unmoved, get?_fpToUri_buildCertIndex]
  rw [buildDiffReport, diffRisk_eq_low_iff, quiet_iff, List.append_eq_nil_iff,
    List.append_eq_nil_iff, List.append_eq_nil_iff, currentReasons_eq_nil_iff,
    parseErrors_eq_nil_iff, parseErrors_eq_nil_iff, indices]
  simp only [rel_buildCertIndex_iff]
  constructor
  · intro found
    obtain ⟨⟨⟨⟨reasons, listed, chain⟩, before⟩, after⟩, sameChain, holders, standing⟩ := found
    refine ⟨reasons, listed, chain, fun cert among => ?_, sameChain, standing, holders⟩
    exact (List.mem_append.mp among).elim (before cert) (after cert)
  · intro calm
    refine ⟨⟨⟨⟨calm.reasons, calm.listed, calm.chain⟩, fun cert among => ?_⟩,
      fun cert among => ?_⟩, calm.sameChain, calm.holders, calm.standing⟩
    · exact calm.parsed cert (List.mem_append_left _ among)
    · exact calm.parsed cert (List.mem_append_right _ among)

/-- Where the standing certificates of two lists are the same, a pair stands in both or in none. -/
theorem Unremarkable.stands_iff (calm : Unremarkable parseNotAfter input)
    {pair : String × String} : Stands input.prevCerts pair ↔ Stands input.newCerts pair := by
  have related := calm.standing pair.1
  rw [Stands, Stands]
  cases was : standingCert input.prevCerts pair.1 with
  | none =>
      cases now : standingCert input.newCerts pair.1 with
      | none => exact Iff.rfl
      | some after =>
          rw [was, now] at related
          cases related
  | some before =>
      cases now : standingCert input.newCerts pair.1 with
      | none =>
          rw [was, now] at related
          cases related
      | some after =>
          rw [was, now] at related
          cases related with
          | some same =>
              constructor
              · intro stands
                obtain ⟨_, ⟨⟩, folded⟩ := stands
                exact ⟨after, rfl, same.fingerprint ▸ folded⟩
              · intro stands
                obtain ⟨_, ⟨⟩, folded⟩ := stands
                exact ⟨before, rfl, same.fingerprint.trans folded⟩

/-- A pair of the previous list that is not in the current one is accounted for where it stands. -/
theorem previous_accounted_iff {pair : String × String}
    (absent : pair ∉ certPairs input.newCerts) :
    ((∃ view ∈ (buildDiffReport parseNotAfter input).removed, view.pair = pair) ∨
      ∃ change ∈ (buildDiffReport parseNotAfter input).changed, change.previousPair = some pair) ↔
      Stands input.prevCerts pair := by
  rw [← hasPair_buildCertIndex]
  exact removed_accounted_iff (fun _ _ => applicationUri_of_get?)
    fun has => absent (hasPair_buildCertIndex.mp has).mem

theorem current_accounted_iff {pair : String × String}
    (absent : pair ∉ certPairs input.prevCerts) :
    ((∃ view ∈ (buildDiffReport parseNotAfter input).added, view.pair = pair) ∨
      ∃ change ∈ (buildDiffReport parseNotAfter input).changed, change.newPair = some pair) ↔
      Stands input.newCerts pair := by
  rw [← hasPair_buildCertIndex]
  exact added_accounted_iff (fun _ _ => applicationUri_of_get?)
    fun has => absent (hasPair_buildCertIndex.mp has).mem

/-- A list that stays as it is, with a new revocation list. -/
def crlRotation : DiffInput where
  diffId := "d"
  generatedAt := "t"
  zone := "plant"
  role := "server"
  previous := some ⟨.null, [⟨some "u", some "n", some "f", none⟩], none⟩
  current := some ⟨.null, [⟨some "u", some "n", some "f", none⟩], none⟩
  caChainChanged := false
  crlChanged := true
  criticalReasons := []

end Report

end OpcuaGds.Agent
