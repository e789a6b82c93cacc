import OpcuaGds.Agent.PreviewGate

/-! # The lists of a preview

What a preview would add, keep and change comes from two functions that compare the certificates
each in its own way. Together they account for every application URI of the new list, and none is
kept that is changed.
-/

namespace OpcuaGds.Agent

/-- The application URI that a change keeps. -/
def CertChange.entryUri? : CertChange → Option String
  | .applicationUriChanged _ _ _ => none
  | .fingerprintChanged uri _ _ => some uri
  | .commonNameChanged uri _ _ => some uri
  | .notAfter _ uri _ _ => some uri

/-- The application URI that a fingerprint has moved to. -/
def CertChange.movedTo? : CertChange → Option String
  | .applicationUriChanged _ new _ => some new
  | _ => none

section Entries

variable {uri : String} {before after : IndexedCert}

theorem entryUri?_of_mem {change : CertChange} (member : change ∈ entryChanges uri before after) :
    change.entryUri? = some uri := by
  rw [entryChanges, List.mem_append, List.mem_append, List.mem_ite_nil_right,
    List.mem_ite_nil_right, List.mem_ite_nil_right, List.mem_singleton, List.mem_singleton,
    List.mem_singleton] at member
  rcases member with (⟨_, rfl⟩ | ⟨_, rfl⟩) | ⟨_, rfl⟩ <;> rfl

theorem entryChanges_eq_nil_iff : entryChanges uri before after = [] ↔
    foldedFp before.fingerprintSha256 = foldedFp after.fingerprintSha256 ∧
      before.commonName = after.commonName ∧ before.notAfter = after.notAfter := by
  rw [entryChanges, List.append_eq_nil_iff, List.append_eq_nil_iff, ite_eq_right_iff,
    ite_eq_right_iff, ite_eq_right_iff, and_assoc]
  simp

/-- With both fingerprints an entry is kept exactly where the comparison finds no change. -/
theorem isKept_iff (beforeFp : before.fingerprintSha256.isSome = true)
    (afterFp : after.fingerprintSha256.isSome = true) :
    isKept before after = true ↔ entryChanges uri before after = [] := by
  obtain ⟨old, isOld⟩ := Option.isSome_iff_exists.mp beforeFp
  obtain ⟨new, isNew⟩ := Option.isSome_iff_exists.mp afterFp
  rw [entryChanges_eq_nil_iff, isKept, decide_eq_true_iff, isOld, isNew]
  rfl

end Entries

section Kept

variable {prevIdx curIdx : Dict String IndexedCert} {uri : String}

theorem mem_keptCerts {view : CertView} :
    view ∈ keptCerts prevIdx curIdx ↔ ∃ uri before after, prevIdx.get? uri = some before ∧
      curIdx.get? uri = some after ∧ isKept before after = true ∧ certView after = view := by
  rw [keptCerts, List.mem_filterMap]
  constructor
  · rintro ⟨uri, -, kept⟩
    split at kept
    · rename_i before after was now
      split at kept
      · rename_i same
        exact ⟨uri, before, after, was, now, same, Option.some.inj kept⟩
      · cases kept
    · cases kept
  · rintro ⟨uri, before, after, was, now, same, rfl⟩
    refine ⟨uri, ?_, ?_⟩
    · rw [List.mem_insertionSort, List.mem_filter, decide_eq_true_iff, Dict.mem_keys,
        Dict.mem_keys, was, now]
      exact ⟨rfl, rfl⟩
    · rw [was, now]
      exact if_pos same

end Kept

section Lists

variable {parseNotAfter : String → Option String} {certs previous current : List CertEntry}
  {uri : String}

/-- Every certificate with an application URI has a fingerprint. -/
def Fingerprinted (certs : List CertEntry) : Prop :=
  ∀ cert ∈ certs, presentText cert.applicationUri ≠ none → cert.fingerprintSha256.isSome = true

/-- Some certificate has the application URI. -/
def NamesApplication (certs : List CertEntry) (uri : String) : Prop :=
  ∃ cert ∈ certs, presentText cert.applicationUri = some uri

variable (parseNotAfter) in
theorem names_iff : NamesApplication certs uri ↔
    ∃ entry, (buildCertIndex parseNotAfter certs).1.get? uri = some entry := by
  rw [← Option.isSome_iff_exists, ← Dict.mem_keys, keys_buildCertIndex, List.mem_eraseDups,
    List.mem_filterMap, NamesApplication]

theorem Fingerprinted.entry {entry : IndexedCert} (fingerprinted : Fingerprinted certs)
    (found : (buildCertIndex parseNotAfter certs).1.get? uri = some entry) :
    entry.fingerprintSha256.isSome = true := by
  rw [get?_buildCertIndex] at found
  obtain ⟨cert, standing, rfl⟩ := Option.map_eq_some_iff.mp found
  rw [indexedCert_fingerprintSha256]
  rw [standingCert] at standing
  have named := List.find?_some standing
  rw [decide_eq_true_iff] at named
  exact fingerprinted cert (List.mem_reverse.mp (List.mem_of_find?_eq_some standing))
    (named ▸ Option.some_ne_none uri)

variable (parseNotAfter uri) in
/-- A common application URI is kept exactly where no change is about its entry. -/
theorem kept_iff (was : Fingerprinted previous) (now : Fingerprinted current) :
    (∃ view ∈ keptCerts (buildCertIndex parseNotAfter previous).1
        (buildCertIndex parseNotAfter current).1, view.applicationUri = uri) ↔
      NamesApplication previous uri ∧ NamesApplication current uri ∧
        ∀ change ∈ certChanges (buildCertIndex parseNotAfter previous).1
          (buildCertIndex parseNotAfter current).1, change.entryUri? ≠ some uri := by
  constructor
  · rintro ⟨view, kept, rfl⟩
    obtain ⟨uri, before, after, isBefore, isAfter, same, rfl⟩ := mem_keptCerts.mp kept
    have isUri : (certView after).applicationUri = uri := applicationUri_of_get? isAfter
    rw [isUri]
    refine ⟨(names_iff parseNotAfter).mpr ⟨before, isBefore⟩,
      (names_iff parseNotAfter).mpr ⟨after, isAfter⟩, ?_⟩
    intro change member about
    rcases mem_certChanges.mp member with ⟨_, _, _, _, rfl⟩ | ⟨name, old, new, isOld, isNew, found⟩
    · cases about
    · obtain rfl : name = uri := Option.some.inj ((entryUri?_of_mem found).symm.trans about)
      cases isOld.symm.trans isBefore
      cases isNew.symm.trans isAfter
      rw [(isKept_iff (was.entry isBefore) (now.entry isAfter)).mp same] at found
      exact absurd found List.not_mem_nil
  · rintro ⟨inPrevious, inCurrent, unchanged⟩
    obtain ⟨before, isBefore⟩ := (names_iff parseNotAfter).mp inPrevious
    obtain ⟨after, isAfter⟩ := (names_iff parseNotAfter).mp inCurrent
    refine ⟨certView after, mem_keptCerts.mpr ⟨uri, before, after, isBefore, isAfter, ?_, rfl⟩,
      applicationUri_of_get? isAfter⟩
    apply (isKept_iff (was.entry isBefore) (now.entry isAfter)).mpr
    refine List.eq_nil_iff_forall_not_mem.mpr fun change found => ?_
    exact unchanged change (mem_certChanges.mpr (.inr ⟨uri, before, after, isBefore, isAfter,
      found⟩)) (entryUri?_of_mem found)

variable (parseNotAfter) in
/-- An application URI that only the new list has is added, or a fingerprint has moved to it. -/
theorem added_or_moved (named : NamesApplication current uri)
    (other : ¬ NamesApplication previous uri) :
    (∃ view ∈ addedCerts (buildCertIndex parseNotAfter previous).1
        (buildCertIndex parseNotAfter current).1, view.applicationUri = uri) ∨
      ∃ change ∈ certChanges (buildCertIndex parseNotAfter previous).1
        (buildCertIndex parseNotAfter current).1, change.movedTo? = some uri := by
  obtain ⟨entry, found⟩ := (names_iff parseNotAfter).mp named
  have absent : (buildCertIndex parseNotAfter previous).1.get? uri = none := by
    refine Option.eq_none_iff_forall_ne_some.mpr fun entry held => ?_
    exact other ((names_iff parseNotAfter).mpr ⟨entry, held⟩)
  by_cases moved : uri ∈ (movedFingerprints (buildCertIndex parseNotAfter previous).1
      (buildCertIndex parseNotAfter current).1).map fun moved => moved.2.2
  · obtain ⟨⟨fp, old, new⟩, among, rfl⟩ := List.mem_map.mp moved
    exact .inr ⟨_, mem_certChanges.mpr (.inl ⟨fp, old, new, among, rfl⟩), rfl⟩
  · exact .inl ⟨certView entry, mem_onlyIn.mpr ⟨uri, entry, found, absent, moved, rfl⟩,
      applicationUri_of_get? found⟩

end Lists

/-! ## The preview -/

section Preview

variable {PrivateKey PublicKey : Type} {crypto : Gds.Crypto PrivateKey PublicKey}
  {parseNotAfter : String → Option String} {settings : PreviewSettings PrivateKey}
  {target : PreviewTarget} {artifact : Json} {previous : Option TrustListView}
  {current : TrustListView} {preview : RuntimePreview}

/-- The certificates of the earlier list, if there is one. -/
def earlierCerts (previous : Option TrustListView) : List CertEntry :=
  (previous.map TrustListView.certificates).getD []

theorem computeWouldKeep_eq :
    computeWouldKeep parseNotAfter previous (some current) =
      keptCerts (buildCertIndex parseNotAfter (earlierCerts previous)).1
        (buildCertIndex parseNotAfter current.certificates).1 := by
  cases previous <;> rfl

/-- A preview keeps an application URI exactly where both lists have it and no change is about its
entry; every other one of the new list is added, changed, or has a fingerprint that moved. -/
theorem preview_lists_account
    (made : previewOfViews crypto parseNotAfter settings target artifact previous (some current) =
      .ok preview)
    (was : Fingerprinted (earlierCerts previous)) (now : Fingerprinted current.certificates)
    (uri : String) :
    ((∃ view ∈ preview.wouldKeep, view.applicationUri = uri) ↔
      NamesApplication (earlierCerts previous) uri ∧ NamesApplication current.certificates uri ∧
        ∀ change ∈ preview.wouldChange, change.entryUri? ≠ some uri) ∧
      (NamesApplication current.certificates uri →
        (∃ view ∈ preview.wouldAdd, view.applicationUri = uri) ∨
          (∃ view ∈ preview.wouldKeep, view.applicationUri = uri) ∨
            ∃ change ∈ preview.wouldChange,
              change.entryUri? = some uri ∨ change.movedTo? = some uri) := by
  simp only [previewOfViews, Fallible.bind_eq_ok] at made
  obtain ⟨_, _, _, _, _, _, _, _, isPreview⟩ := made
  cases isPreview
  have kept := kept_iff parseNotAfter uri was now
  rw [← computeWouldKeep_eq] at kept
  refine ⟨kept, fun named => ?_⟩
  by_cases inEarlier : NamesApplication (earlierCerts previous) uri
  · by_cases unchanged : ∀ change ∈ (previewDiff parseNotAfter artifact previous
        (some current)).changed, change.entryUri? ≠ some uri
    · exact .inr (.inl (kept.mpr ⟨inEarlier, named, unchanged⟩))
    · simp only [not_forall, ne_eq, not_not] at unchanged
      obtain ⟨change, member, about⟩ := unchanged
      exact .inr (.inr ⟨change, member, .inl about⟩)
  · rcases added_or_moved parseNotAfter named inEarlier with added | ⟨change, member, moved⟩
    · exact .inl added
    · exact .inr (.inr ⟨change, member, .inr moved⟩)

end Preview

/-- One certificate stays, a second one comes. -/
def stayingCert : CertEntry := ⟨some "urn:a", some "a", some "aa", none⟩

def comingCert : CertEntry := ⟨some "urn:b", some "b", some "bb", none⟩

theorem staying_kept : ∃ preview,
    previewOfViews exampleCrypto (fun _ => none) previewSettings previewedTarget (.obj [])
        (some ⟨.null, [stayingCert], none⟩) (some ⟨.null, [stayingCert, comingCert], none⟩) =
      .ok preview ∧ ∃ view ∈ preview.wouldKeep, view.applicationUri = "urn:a" := by
  have made : previewOfViews exampleCrypto (fun _ => none) previewSettings previewedTarget (.obj [])
      (some ⟨.null, [stayingCert], none⟩) (some ⟨.null, [stayingCert, comingCert], none⟩) =
        .ok _ := rfl
  refine ⟨_, made, (preview_lists_account made ?_ ?_ "urn:a").1.mpr ⟨?_, ?_, ?_⟩⟩
  · intro cert member _
    rw [List.mem_singleton.mp member]
    rfl
  · intro cert member _
    rcases List.mem_pair.mp member with rfl | rfl <;> rfl
  · exact ⟨stayingCert, List.mem_singleton_self _, rfl⟩
  · exact ⟨stayingCert, List.mem_cons_self, rfl⟩
  · decide +kernel

end OpcuaGds.Agent
