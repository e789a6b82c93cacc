import OpcuaGds.Agent.SignedMaterial

/-! # Reading the artifact back from the files

In a target whose four directories differ in their first letter, each reading of the
artifact is found under a path of its own. Artifacts that are written alike are therefore
read alike, and the readings decide when the signature determines the files.
-/

namespace OpcuaGds.Agent

open Gds (Crypto)

/-! ## The target -/

def probeLayout : StageLayout where
  trustedCertsDir := "t"
  trustedCrlDir := "c"
  issuerCertsDir := "i"
  issuerCrlDir := "d"

section Probe

variable (pemCertToDer : String → Option (List UInt8))
  (crlNextUpdate : List UInt8 → Option (Option Int))

def probeEnvironment : StageEnvironment where
  pemCertToDer
  crlNextUpdate
  now := 0
  strictFreshness := false

/-- The part of the writer after the CA chain. -/
def probeRest (fresh : String) (artifact : Json) (state : StageState) : StageStep := do
  let state ← writeCrls (probeEnvironment pemCertToDer crlNextUpdate) probeLayout
    (rootCrlText artifact) (intermediateCrlText artifact) state
  writeCertificates (probeEnvironment pemCertToDer crlNextUpdate) probeLayout (fun _ => fresh) 0
    (certificateEntries artifact) state

def probe (fresh : String) (artifact : Json) : StageStep :=
  writeTargetStageMaterial (probeEnvironment pemCertToDer crlNextUpdate) probeLayout
    (fun _ => fresh) artifact []

end Probe

/-! ## Paths of different directories -/

theorem join_ne_of_head {dir path : String} {c : Char} (dirHead : dir.toList.head? = some c)
    (pathHead : path.toList.head? ≠ some c) (name : String) : FileTree.join dir name ≠ path := by
  intro same
  have heads := congrArg (fun text => text.toList.head?) same
  simp only [FileTree.join, String.toList_append, List.head?_append, dirHead,
    Option.some_or] at heads
  exact pathHead heads.symm

theorem read_write_log {state : StageState} {dir name : String} (content : List UInt8)
    (absent : state.log.read (FileTree.join dir name) = none) :
    (state.write dir name content).log.read (FileTree.join dir name) = some content := by
  have alone : List.lookup (FileTree.join dir name) [(FileTree.join dir name, content)] =
      some content := by
    rw [List.lookup_cons, beq_self_eq_true]
  rw [StageState.write, FileTree.read, List.lookup_append, alone, ← FileTree.read, absent,
    Option.none_or]

/-- A file of one of the two certificate directories. -/
def InCertDirs (file : String × List UInt8) : Prop :=
  ∃ name, file.1 = FileTree.join "i" name ∨ file.1 = FileTree.join "t" name

theorem InCertDirs.ne {file : String × List UInt8} (inDirs : InCertDirs file) {path : String}
    (notIssuer : path.toList.head? ≠ some 'i') (notTrusted : path.toList.head? ≠ some 't') :
    file.1 ≠ path := by
  obtain ⟨name, here | here⟩ := inDirs
  · rw [here]
    exact join_ne_of_head rfl notIssuer name
  · rw [here]
    exact join_ne_of_head rfl notTrusted name

theorem mem_activeCrlDirs {dir : String} (active : dir ∈ activeCrlDirs probeLayout) :
    dir = "d" ∨ dir = "c" := by
  have dirs : activeCrlDirs probeLayout = ["d", "c"] := by decide
  simpa [dirs] using active

/-- No CRL file lies in the certificate directories. -/
theorem InCertDirs.not_join {file : String × List UInt8} (inDirs : InCertDirs file) {dir : String}
    (active : dir ∈ activeCrlDirs probeLayout) (name : String) :
    file.1 ≠ FileTree.join dir name := by
  intro same
  have heads := congrArg (fun text => text.toList.head?) same
  obtain ⟨other, here | here⟩ := inDirs <;> rcases mem_activeCrlDirs active with rfl | rfl <;>
    · rw [here] at heads
      simp [FileTree.join] at heads

/-! ## The CA chain -/

section Readings

variable {pemCertToDer : String → Option (List UInt8)}
  {crlNextUpdate : List UInt8 → Option (Option Int)} {fresh : String} {artifact : Json}

theorem probe_eq (object : artifact.isObject = true) :
    probe pemCertToDer crlNextUpdate fresh artifact =
      (writeCaChain (probeEnvironment pemCertToDer crlNextUpdate) probeLayout
        (caChainText artifact) ⟨[], []⟩ >>=
          probeRest pemCertToDer crlNextUpdate fresh artifact) := by
  rw [probe, writeTargetStageMaterial, if_pos object]
  rfl

theorem adds_probeRest {allowed : String × List UInt8 → Prop}
    (crls : ∀ dir ∈ activeCrlDirs probeLayout, ∀ name content,
      allowed (FileTree.join dir name, content))
    (trusted : ∀ name content, allowed (FileTree.join "t" name, content)) (state : StageState) :
    Adds allowed state (probeRest pemCertToDer crlNextUpdate fresh artifact state) := by
  apply Adds.bind
  · apply adds_writeCrls
    · exact fun content _ dir active => ⟨crls dir active _ _, fun _ => crls dir active _ _⟩
    · exact fun content _ dir active => ⟨crls dir active _ _, fun _ => crls dir active _ _⟩
    · intro file member
      obtain ⟨_, dir, active, name, path⟩ := mem_snapshotCrlDirs member
      have listed := crls dir active name file.2
      rwa [← path] at listed
  · intro after _
    exact adds_writeCertificates (fun name _ => trusted name) _ _ _

theorem probe_caChain (object : artifact.isObject = true) :
    (probe pemCertToDer crlNextUpdate fresh artifact).log.read (FileTree.join "i" "ca-chain.pem") =
      if caChainText artifact = "" then none else some (textBytes (caChainText artifact)) := by
  rw [probe_eq object]
  by_cases empty : caChainText artifact = ""
  · rw [if_pos empty, writeCaChain, if_pos empty]
    have adds : Adds (fun file => file.1 ≠ FileTree.join "i" "ca-chain.pem") ⟨[], []⟩
        (probeRest pemCertToDer crlNextUpdate fresh artifact ⟨[], []⟩) := by
      apply adds_probeRest
      · intro dir active name content
        rcases mem_activeCrlDirs active with rfl | rfl
        · exact join_ne_of_head rfl (by decide) name
        · exact join_ne_of_head rfl (by decide) name
      · exact fun name content => join_ne_of_head rfl (by decide) name
    exact adds.read_of_ne
  · rw [if_neg empty]
    have first : Adds (fun _ => True)
        (StageState.write ⟨[], []⟩ probeLayout.issuerCertsDir "ca-chain.pem"
          (textBytes (caChainText artifact)))
        (writeCaChain (probeEnvironment pemCertToDer crlNextUpdate) probeLayout
          (caChainText artifact) ⟨[], []⟩) :=
      writeCaChain_first (fun _ _ _ => trivial) (fun _ _ _ => trivial) empty ⟨[], []⟩
    have rest (after : StageState) : Adds (fun _ => True) after
        (probeRest pemCertToDer crlNextUpdate fresh artifact after) :=
      adds_probeRest (fun _ _ _ _ => trivial) (fun _ _ => trivial) after
    exact (first.bind fun after _ => rest after).read_of_some (read_write_log _ rfl)

/-! ## The CRLs -/

variable {chainState : StageState}

/-- The state after the CA chain: nothing outside of the certificate directories. -/
structure OnlyCerts (state : StageState) : Prop where
  log : ∀ file ∈ state.log, InCertDirs file
  tree : ∀ file ∈ state.tree, InCertDirs file

theorem onlyCerts_of_chain {env : StageEnvironment} {caChain : String}
    (written : writeCaChain env probeLayout caChain ⟨[], []⟩ = .ok chainState) :
    OnlyCerts chainState := by
  have adds : Adds InCertDirs ⟨[], []⟩ (writeCaChain env probeLayout caChain ⟨[], []⟩) :=
    adds_writeCaChain (fun name _ _ => ⟨name, Or.inl rfl⟩) (fun name _ _ => ⟨name, Or.inr rfl⟩)
      caChain ⟨[], []⟩
  rw [written] at adds
  obtain ⟨suffix, log, inSuffix⟩ := adds.log
  have sameLog : chainState.log = suffix := log
  refine ⟨fun file member => inSuffix file (sameLog ▸ member), ?_⟩
  intro file member
  exact (adds.tree file member).resolve_left (fun inEmpty => nomatch inEmpty)

theorem OnlyCerts.not_snapshot (only : OnlyCerts chainState) {file : String × List UInt8}
    (member : file ∈ snapshotCrlDirs probeLayout chainState.tree) : False := by
  obtain ⟨inTree, dir, active, name, path⟩ := mem_snapshotCrlDirs member
  exact (only.tree file inTree).not_join active name path

theorem OnlyCerts.read (only : OnlyCerts chainState) (name : String) :
    chainState.log.read (FileTree.join "d" name) = none := by
  apply List.lookup_eq_none_iff.mpr
  intro file member
  exact bne_iff_ne.mpr ((only.log file member).not_join issuerCrlDir_active name).symm

theorem crlAllowed_of_name {allowed : String × List UInt8 → Prop} {stem crlBase64 : String}
    (files : ∀ dir content, allowed (FileTree.join dir (stem ++ ".crl"), content))
    (current : ∀ dir content, allowed (FileTree.join dir "current.crl", content)) :
    CrlAllowed probeLayout allowed stem crlBase64 :=
  fun content _ dir _ => ⟨files dir content, fun _ => current dir content⟩

theorem crlAllowed_of_unread {allowed : String × List UInt8 → Prop} {stem crlBase64 : String}
    (unread : (crlRead crlBase64).join = none) :
    CrlAllowed probeLayout allowed stem crlBase64 := by
  intro content read
  rw [read] at unread
  cases unread

/-- The CRL files that are looked for, and the file that accompanies the second. -/
theorem crl_names_differ (dir : String) :
    (∀ other, FileTree.join other "vault_intermediate.crl" ≠ FileTree.join dir "root_ca.crl") ∧
      (∀ other, FileTree.join other "root_ca.crl" ≠ FileTree.join dir "vault_intermediate.crl") ∧
      (∀ other, FileTree.join other "current.crl" ≠ FileTree.join dir "root_ca.crl") ∧
      ∀ other, FileTree.join other "current.crl" ≠ FileTree.join dir "vault_intermediate.crl" := by
  have root : '/' ∉ "root_ca.crl".toList := by decide
  have intermediate : '/' ∉ "vault_intermediate.crl".toList := by decide
  have current : '/' ∉ "current.crl".toList := by decide
  exact ⟨fun other => FileTree.join_ne_of_name intermediate root (by decide) other dir,
    fun other => FileTree.join_ne_of_name root intermediate (by decide) other dir,
    fun other => FileTree.join_ne_of_name current root (by decide) other dir,
    fun other => FileTree.join_ne_of_name current intermediate (by decide) other dir⟩

theorem adds_certificates (path : String) (notTrusted : path.toList.head? ≠ some 't')
    (state : StageState) :
    Adds (fun file => file.1 ≠ path) state
      (writeCertificates (probeEnvironment pemCertToDer crlNextUpdate) probeLayout
        (fun _ => fresh) 0 (certificateEntries artifact) state) :=
  adds_writeCertificates (fun name _ _ => join_ne_of_head rfl notTrusted name) _ _ _

/-- The certificates come after the CRLs. -/
theorem adds_probeRest_of_first {before : StageState}
    (first : Adds (fun _ => True) before
      (writeCrls (probeEnvironment pemCertToDer crlNextUpdate) probeLayout
        (rootCrlText artifact) (intermediateCrlText artifact) chainState)) :
    Adds (fun _ => True) before
      (probeRest pemCertToDer crlNextUpdate fresh artifact chainState) :=
  first.bind fun _ _ => adds_writeCertificates (fun _ _ _ => trivial) _ _ _

theorem probeRest_rootCrl (only : OnlyCerts chainState) :
    (probeRest pemCertToDer crlNextUpdate fresh artifact chainState).log.read
      (FileTree.join "d" "root_ca.crl") = (crlRead (rootCrlText artifact)).join := by
  have names := crl_names_differ "d"
  cases read : (crlRead (rootCrlText artifact)).join with
  | none =>
      have adds : Adds (fun file => file.1 ≠ FileTree.join "d" "root_ca.crl") chainState
          (probeRest pemCertToDer crlNextUpdate fresh artifact chainState) := by
        apply Adds.bind
        · apply adds_writeCrls (crlAllowed_of_unread read)
          · exact crlAllowed_of_name (fun dir _ => names.1 dir) (fun dir _ => names.2.2.1 dir)
          · exact fun file member => (only.not_snapshot member).elim
        · exact fun after _ => adds_certificates _ (by decide) after
      rw [adds.read_of_ne]
      exact only.read _
  | some content =>
      have found : crlRead (rootCrlText artifact) = some (some content) :=
        Option.join_eq_some_iff.mp read
      have first : Adds (fun _ => True)
          (StageState.write
            { chainState with tree := removeStaleGdsCrlAliases probeLayout chainState.tree }
            probeLayout.issuerCrlDir "root_ca.crl" content)
          (writeCrls (probeEnvironment pemCertToDer crlNextUpdate) probeLayout
            (rootCrlText artifact) (intermediateCrlText artifact) chainState) :=
        writeCrls_first_root found chainState
      exact (adds_probeRest_of_first first).read_of_some (read_write_log content (only.read _))

theorem probeRest_intermediateCrl (only : OnlyCerts chainState)
    (rootDecodes : crlRead (rootCrlText artifact) ≠ some none) :
    (probeRest pemCertToDer crlNextUpdate fresh artifact chainState).log.read
      (FileTree.join "d" "vault_intermediate.crl") =
        (crlRead (intermediateCrlText artifact)).join := by
  have names := crl_names_differ "d"
  have root : CrlAllowed probeLayout
      (fun file => file.1 ≠ FileTree.join "d" "vault_intermediate.crl") "root_ca"
      (rootCrlText artifact) :=
    crlAllowed_of_name (fun dir _ => names.2.1 dir) (fun dir _ => names.2.2.2 dir)
  cases read : (crlRead (intermediateCrlText artifact)).join with
  | none =>
      have adds : Adds (fun file => file.1 ≠ FileTree.join "d" "vault_intermediate.crl")
          chainState (probeRest pemCertToDer crlNextUpdate fresh artifact chainState) := by
        apply Adds.bind
        · apply adds_writeCrls root (crlAllowed_of_unread read)
          exact fun file member => (only.not_snapshot member).elim
        · exact fun after _ => adds_certificates _ (by decide) after
      rw [adds.read_of_ne]
      exact only.read _
  | some content =>
      have found : crlRead (intermediateCrlText artifact) = some (some content) :=
        Option.join_eq_some_iff.mp read
      obtain ⟨middle, before, first⟩ : ∃ middle,
          Adds (fun file => file.1 ≠ FileTree.join "d" "vault_intermediate.crl") chainState
            (.ok middle) ∧
          Adds (fun _ => True)
            (middle.write probeLayout.issuerCrlDir "vault_intermediate.crl" content)
            (writeCrls (probeEnvironment pemCertToDer crlNextUpdate) probeLayout
              (rootCrlText artifact) (intermediateCrlText artifact) chainState) :=
        writeCrls_first_intermediate rootDecodes root found chainState
      have absent : middle.log.read (FileTree.join "d" "vault_intermediate.crl") = none :=
        before.read_of_ne.trans (only.read _)
      exact (adds_probeRest_of_first first).read_of_some (read_write_log content absent)

/-- Files that the validation accepts, and those it does not look at. -/
def Unproblematic (env : StageEnvironment) (file : String × List UInt8) : Prop :=
  InCertDirs file ∨ isCrlProblem env file = false

theorem isCrlProblem_eq_false {name : String} {content : List UInt8} {nextUpdate : Int}
    (plain : '/' ∉ name.toList) (notEncoded : hasSuffix ".crl.b64" (PythonText.lower name) = false)
    (usable : crlNextUpdate content = some (some nextUpdate)) (dir : String) :
    isCrlProblem (probeEnvironment pemCertToDer crlNextUpdate) (FileTree.join dir name, content) =
      false := by
  simp only [isCrlProblem, FileTree.nameOf_join plain, notEncoded, Bool.false_eq_true, if_false,
    Option.bind_some, probeEnvironment, usable, Bool.false_and]

theorem crlAllowed_of_usable {stem crlBase64 : String} (plain : '/' ∉ (stem ++ ".crl").toList)
    (notEncoded : hasSuffix ".crl.b64" (PythonText.lower (stem ++ ".crl")) = false)
    (usable : CrlUsable crlNextUpdate crlBase64) :
    CrlAllowed probeLayout (Unproblematic (probeEnvironment pemCertToDer crlNextUpdate)) stem
      crlBase64 := by
  intro content read dir _
  obtain ⟨other, nextUpdate, same, hasNext⟩ := usable _ read
  rw [Option.some.injEq] at same
  subst same
  exact ⟨Or.inr (isCrlProblem_eq_false plain notEncoded hasNext dir),
    fun _ => Or.inr (isCrlProblem_eq_false (by decide) (by decide) hasNext dir)⟩

theorem CrlUsable.decodes {crlBase64 : String} (usable : CrlUsable crlNextUpdate crlBase64) :
    crlRead crlBase64 ≠ some none := by
  intro failed
  obtain ⟨content, _, same, _⟩ := usable _ failed
  cases same

theorem writeCrls_isOk (only : OnlyCerts chainState) {rootCrl intermediateCrl : String}
    (rootUsable : CrlUsable crlNextUpdate rootCrl)
    (intermediateUsable : CrlUsable crlNextUpdate intermediateCrl) :
    ∃ after, writeCrls (probeEnvironment pemCertToDer crlNextUpdate) probeLayout rootCrl
      intermediateCrl chainState = .ok after := by
  let clean : StageState :=
    { chainState with tree := removeStaleGdsCrlAliases probeLayout chainState.tree }
  obtain ⟨first, rootWritten⟩ : ∃ after, writeCrl probeLayout "root_ca" rootCrl clean =
      .ok after := writeCrl_isOk rootUsable.decodes _
  obtain ⟨second, intermediateWritten⟩ : ∃ after,
      writeCrl probeLayout "vault_intermediate" intermediateCrl first = .ok after :=
    writeCrl_isOk intermediateUsable.decodes _
  have rootAdds : Adds (Unproblematic (probeEnvironment pemCertToDer crlNextUpdate)) clean
      (writeCrl probeLayout "root_ca" rootCrl clean) :=
    adds_writeCrl (crlAllowed_of_usable (by decide) (by decide) rootUsable) clean
  have intermediateAdds : Adds (Unproblematic (probeEnvironment pemCertToDer crlNextUpdate)) first
      (writeCrl probeLayout "vault_intermediate" intermediateCrl first) :=
    adds_writeCrl (crlAllowed_of_usable (by decide) (by decide) intermediateUsable) first
  rw [rootWritten] at rootAdds
  rw [intermediateWritten] at intermediateAdds
  have files : ∀ file ∈ second.tree,
      Unproblematic (probeEnvironment pemCertToDer crlNextUpdate) file := by
    intro file member
    rcases (rootAdds.trans intermediateAdds).tree file member with earlier | allowed
    · exact Or.inl (only.tree file (mem_removeStaleGdsCrlAliases earlier))
    · exact allowed
  have noProblems : hasCrlProblems (probeEnvironment pemCertToDer crlNextUpdate) probeLayout
      second.tree = false := by
    rw [hasCrlProblems, List.any_eq_false]
    intro dir active
    rw [Bool.not_eq_true, List.any_eq_false]
    intro file listed
    obtain ⟨inTree, path⟩ := FileTree.mem_filesIn.mp listed
    rcases files file inTree with inCerts | accepted
    · exact absurd path (inCerts.not_join active _)
    · simp [accepted]
  by_cases empty : rootCrl = "" ∧ intermediateCrl = ""
  · exact ⟨chainState, by rw [writeCrls, if_pos empty]⟩
  · refine ⟨second, ?_⟩
    rw [writeCrls, if_neg empty]
    apply Fallible.bind_eq_ok.mpr
    refine ⟨first, rootWritten, Fallible.bind_eq_ok.mpr ⟨second, intermediateWritten, ?_⟩⟩
    rw [noProblems]
    rfl

/-! ## Peer certificates -/

theorem join_pem_injective {name other : String}
    (same : FileTree.join "t" (name ++ ".pem") = FileTree.join "t" (other ++ ".pem")) :
    name = other := by
  have chars := congrArg String.toList same
  simp only [FileTree.join, String.toList_append, List.append_assoc, List.append_cancel_left_eq,
    List.append_cancel_right_eq] at chars
  exact String.toList_inj.mp chars

/-- Without a fingerprint the name ends in the fresh identifier. -/
theorem certificateFile_fresh_ne {left right : Json}
    (leftAbsent : left.field? "fingerprint_sha256" = none)
    (rightAbsent : right.field? "fingerprint_sha256" = none) :
    (certificateFile "a" left).1 ≠ (certificateFile "b" right).1 := by
  intro same
  have chars := congrArg String.toList same
  have lowerA : (PythonText.lower "a").toList = ['a'] := by decide
  have lowerB : (PythonText.lower "b").toList = ['b'] := by decide
  simp only [certificateFile, leftAbsent, rightAbsent, Option.getD_none, Json.toStr_str,
    String.toList_append, lowerA, lowerB, List.append_assoc] at chars
  have ends := (List.append_inj' chars rfl).2
  exact absurd ends (by decide)

section Entries

variable {env : StageEnvironment}

/-- The PEM file of an entry is the next file. -/
theorem writeCertificate_first {cert : Json} (object : cert.isObject = true)
    (notEmpty : (certificateFile fresh cert).2 ≠ "") (state : StageState) :
    Adds (fun _ => True)
      (state.write "t" ((certificateFile fresh cert).1 ++ ".pem")
        (textBytes (certificateFile fresh cert).2))
      (writeCertificate env probeLayout fresh cert state) := by
  rw [writeCertificate_eq object, if_neg notEmpty]
  split
  · exact .raised _
  · exact .write trivial _

theorem certificateFile_eq_of_logs {left right : Json} {lefts rights : List Json}
    (leftObject : left.isObject = true) (rightObject : right.isObject = true)
    (leftPem : (certificateFile "a" left).2 ≠ "") (rightPem : (certificateFile "b" right).2 ≠ "")
    {index : Nat} {state : StageState}
    (logs : (writeCertificates env probeLayout (fun _ => "a") index (left :: lefts) state).log =
      (writeCertificates env probeLayout (fun _ => "b") index (right :: rights) state).log) :
    certificateFile "a" left = certificateFile "b" right := by
  have leftFirst : Adds (fun _ => True) _
      (writeCertificates env probeLayout (fun _ => "a") index (left :: lefts) state) :=
    (writeCertificate_first leftObject leftPem state).bind fun _ _ =>
      adds_writeCertificates (fun _ _ _ => trivial) _ _ _
  have rightFirst : Adds (fun _ => True) _
      (writeCertificates env probeLayout (fun _ => "b") index (right :: rights) state) :=
    (writeCertificate_first rightObject rightPem state).bind fun _ _ =>
      adds_writeCertificates (fun _ _ _ => trivial) _ _ _
  obtain ⟨leftSuffix, leftLog, _⟩ := leftFirst.log
  obtain ⟨rightSuffix, rightLog, _⟩ := rightFirst.log
  rw [leftLog, rightLog] at logs
  simp only [StageState.write, List.append_assoc, List.append_cancel_left_eq, List.cons_append,
    List.nil_append, List.cons.injEq, Prod.mk.injEq] at logs
  exact Prod.ext (join_pem_injective logs.1.1) (textBytes_injective logs.1.2)

theorem certificatesAlike_of_logs {lefts rights : List Json}
    (agree : List.Forall₂ Json.Agrees lefts rights) {index : Nat} {state : StageState}
    (logs : (writeCertificates env probeLayout (fun _ => "a") index lefts state).log =
      (writeCertificates env probeLayout (fun _ => "b") index rights state).log) :
    CertificatesAlike env.pemCertToDer lefts rights := by
  induction agree generalizing index state with
  | nil => trivial
  | @cons left right lefts rights same rest ih =>
      intro leftObject
      have rightObject : right.isObject = true := same.isObject ▸ leftObject
      by_cases empty : (certificateFile "" left).2 = ""
      · have emptyRight := (certificatePem_eq_empty "" same).mp empty
        have leftStep : writeCertificate env probeLayout "a" left state = .ok state :=
          (writeCertificate_eq leftObject state).trans (if_pos empty)
        have rightStep : writeCertificate env probeLayout "b" right state = .ok state :=
          (writeCertificate_eq rightObject state).trans (if_pos emptyRight)
        rw [writeCertificates, writeCertificates, leftStep, rightStep] at logs
        exact ⟨fun notEmpty => absurd empty notEmpty, fun _ => ih logs⟩
      · have notEmptyRight : (certificateFile "" right).2 ≠ "" :=
          fun emptyRight => empty ((certificatePem_eq_empty "" same).mpr emptyRight)
        have files : certificateFile "a" left = certificateFile "b" right :=
          certificateFile_eq_of_logs leftObject rightObject empty notEmptyRight logs
        have declared : (left.field? "fingerprint_sha256").isSome = true := by
          cases leftFound : left.field? "fingerprint_sha256" with
          | some value => rfl
          | none =>
              have absentRight := same.isSome_field? "fingerprint_sha256"
              rw [leftFound, Option.isSome_none, eq_comm, Option.isSome_eq_false_iff,
                Option.isNone_iff_eq_none] at absentRight
              exact absurd (congrArg Prod.fst files)
                (certificateFile_fresh_ne leftFound absentRight)
        have declaredRight : (right.field? "fingerprint_sha256").isSome = true :=
          same.isSome_field? "fingerprint_sha256" ▸ declared
        have files' : certificateFile "" left = certificateFile "" right := by
          rw [certificateFile_of_isSome declared "" "a", files,
            certificateFile_of_isSome declaredRight "b" ""]
        refine ⟨fun _ => ⟨declared, files'⟩, ?_⟩
        rintro (isEmpty | ⟨der, read⟩)
        · exact absurd isEmpty empty
        · have leftNotEmpty : ¬ (certificateFile "a" left).2 = "" := empty
          have leftRead : env.pemCertToDer (certificateFile "a" left).2 = some der := read
          rw [writeCertificates, writeCertificates, writeCertificate_eq leftObject,
            writeCertificate_eq rightObject, ← files, if_neg leftNotEmpty, leftRead] at logs
          exact ih logs

end Entries

/-! ## The readings -/

variable {left right : Json}

theorem readAlike_of_writesAlike (leftObject : left.isObject = true)
    (rightObject : right.isObject = true) (agree : PayloadsAgree left right)
    (alike : WritesAlike pemCertToDer crlNextUpdate left right) :
    ReadAlike pemCertToDer crlNextUpdate left right := by
  have logs : (probe pemCertToDer crlNextUpdate "a" left).log =
      (probe pemCertToDer crlNextUpdate "b" right).log := alike 0 false probeLayout _ _ []
  have caChain : caChainText left = caChainText right := by
    have found := congrArg (FileTree.read (FileTree.join "i" "ca-chain.pem")) logs
    rw [probe_caChain leftObject, probe_caChain rightObject] at found
    by_cases leftEmpty : caChainText left = ""
    · by_cases rightEmpty : caChainText right = ""
      · rw [leftEmpty, rightEmpty]
      · rw [if_pos leftEmpty, if_neg rightEmpty] at found
        cases found
    · by_cases rightEmpty : caChainText right = ""
      · rw [if_neg leftEmpty, if_pos rightEmpty] at found
        cases found
      · rw [if_neg leftEmpty, if_neg rightEmpty, Option.some.injEq] at found
        exact textBytes_injective found
  -- Both runs go through the same state when the chain can be read.
  have rests (readable : ChainReadable pemCertToDer (caChainText left)) :
      ∃ chainState, OnlyCerts chainState ∧
        (probeRest pemCertToDer crlNextUpdate "a" left chainState).log =
          (probeRest pemCertToDer crlNextUpdate "b" right chainState).log := by
    obtain ⟨chainState, written⟩ : ∃ after,
        writeCaChain (probeEnvironment pemCertToDer crlNextUpdate) probeLayout (caChainText left)
          ⟨[], []⟩ = .ok after := writeCaChain_isOk readable _
    refine ⟨chainState, onlyCerts_of_chain written, ?_⟩
    rw [probe_eq leftObject, probe_eq rightObject, ← caChain, written] at logs
    exact logs
  have crlRead_eq {leftText rightText : String} (empty : leftText = "" ↔ rightText = "")
      (joined : (crlRead leftText).join = (crlRead rightText).join) :
      crlRead leftText = crlRead rightText := by
    rw [← crlRead_eq_none_iff, ← crlRead_eq_none_iff] at empty
    cases leftRead : crlRead leftText <;> cases rightRead : crlRead rightText <;> simp_all
  have rootCrl (readable : ChainReadable pemCertToDer (caChainText left)) :
      crlRead (rootCrlText left) = crlRead (rootCrlText right) := by
    obtain ⟨chainState, only, same⟩ := rests readable
    have found := congrArg (FileTree.read (FileTree.join "d" "root_ca.crl")) same
    rw [probeRest_rootCrl only, probeRest_rootCrl only] at found
    exact crlRead_eq agree.rootCrlText_eq_empty found
  have intermediateCrl (readable : ChainReadable pemCertToDer (caChainText left))
      (rootDecodes : crlRead (rootCrlText left) ≠ some none) :
      crlRead (intermediateCrlText left) = crlRead (intermediateCrlText right) := by
    obtain ⟨chainState, only, same⟩ := rests readable
    have found := congrArg (FileTree.read (FileTree.join "d" "vault_intermediate.crl")) same
    rw [probeRest_intermediateCrl only rootDecodes,
      probeRest_intermediateCrl only (rootCrl readable ▸ rootDecodes)] at found
    exact crlRead_eq agree.intermediateCrlText_eq_empty found
  refine ⟨caChain, rootCrl, intermediateCrl, ?_⟩
  intro readable rootUsable intermediateUsable
  obtain ⟨chainState, only, same⟩ := rests readable
  have congr : writeCrls (probeEnvironment pemCertToDer crlNextUpdate) probeLayout
        (rootCrlText left) (intermediateCrlText left) chainState =
      writeCrls (probeEnvironment pemCertToDer crlNextUpdate) probeLayout
        (rootCrlText right) (intermediateCrlText right) chainState :=
    writeCrls_congr (rootCrl readable) agree.intermediateCrlText_eq_empty
      (intermediateCrl readable) chainState
  obtain ⟨crlState, written⟩ : ∃ after,
      writeCrls (probeEnvironment pemCertToDer crlNextUpdate) probeLayout (rootCrlText left)
        (intermediateCrlText left) chainState = .ok after :=
    writeCrls_isOk only rootUsable intermediateUsable
  rw [probeRest, probeRest, ← congr, written] at same
  exact certificatesAlike_of_logs agree.entries same

variable (pemCertToDer crlNextUpdate) in
/-- Two artifacts accepted with one signature are written to the same files exactly when
the writer reads their CA chain, CRLs and certificate entries alike. -/
theorem accepted_artifacts_written_alike_iff {PrivateKey PublicKey : Type}
    {crypto : Crypto PrivateKey PublicKey} (ideal : crypto.scheme.Ideal)
    {signature : Json} {zone role otherZone otherRole : String} {trustAnchorPub : PublicKey}
    {trustAnchorFp : String} {result other : String × Nat}
    (acceptedLeft : verifySignedArtifact crypto left signature zone role trustAnchorPub
      trustAnchorFp = .ok result)
    (acceptedRight : verifySignedArtifact crypto right signature otherZone otherRole
      trustAnchorPub trustAnchorFp = .ok other) :
    WritesAlike pemCertToDer crlNextUpdate left right ↔
      ReadAlike pemCertToDer crlNextUpdate left right := by
  have agree := payloadsAgree_of_accepted ideal acceptedLeft acceptedRight
  obtain ⟨leftObject, _⟩ := (verifySignedArtifact_eq_ok crypto).mp acceptedLeft
  obtain ⟨rightObject, _⟩ := (verifySignedArtifact_eq_ok crypto).mp acceptedRight
  constructor
  · exact readAlike_of_writesAlike leftObject rightObject agree
  · exact writesAlike_of_readAlike leftObject rightObject agree

end Readings

/-! ## A chain that is missing and a chain that is null -/

def plainFields : List (String × Json) :=
  [("zone", .str "OT"), ("role", .str "server"), ("artifact_type", .str "opcua_trustlist"),
    ("artifact_revision", .int 1), ("signer", .obj [("fingerprint_sha256", .str "pin")])]

/-- The signature over the payload of the fields, as a record. -/
def plainSignature : Json :=
  .obj [("signature_base64", .str (String.ofList (Base64.encode
    (Gds.transparentCrypto.scheme.sign ()
      (canonicalArtifactPayload (.obj plainFields)).canonicalBytes))))]

theorem plain_accepted {artifact : Json} (object : artifact.isObject = true)
    (read : ∀ key ∈ ["zone", "role", "artifact_type", "artifact_revision", "signer"],
      artifact.field? key = plainFields.lookup key)
    (payload : canonicalArtifactPayload (normalizeSignedArtifactForVerification artifact) =
      canonicalArtifactPayload (.obj plainFields)) :
    ∃ result, verifySignedArtifact Gds.transparentCrypto artifact plainSignature "OT" "server" ()
      "pin" = .ok result := by
  let signed := normalizeSignedArtifactForVerification artifact
  have field (key : String) (member : key ∈
      ["zone", "role", "artifact_type", "artifact_revision", "signer"])
      (other : key ≠ "ttl_remaining_seconds") : signed.field? key = plainFields.lookup key :=
    (field?_normalizeSignedArtifact other artifact).trans (read key member)
  have header : checkHeader signed "OT" "server" = .ok () := by
    rw [checkHeader_eq_ok, field "zone" (by decide) (by decide),
      field "role" (by decide) (by decide), field "artifact_type" (by decide) (by decide),
      field "artifact_revision" (by decide) (by decide)]
    exact ⟨rfl, rfl, by decide, _, rfl, nofun⟩
  have signer : checkArtifactSigner ((signed.field? "signer").getD (.obj [])) "pin" = .ok () := by
    rw [field "signer" (by decide) (by decide)]
    exact checkArtifactSigner_eq_ok.mpr
      ⟨checkAlgorithm_eq_ok.mpr ⟨_, rfl, Or.inl (by decide)⟩, _, rfl, rfl⟩
  have record : checkSignatureSigner (.obj []) "pin" = .ok () :=
    checkSignatureSigner_eq_ok.mpr
      ⟨checkAlgorithm_eq_ok.mpr ⟨_, rfl, Or.inl (by decide)⟩, _, rfl, Or.inl (by decide)⟩
  let message := (canonicalArtifactPayload (.obj plainFields)).canonicalBytes
  let encoded := String.ofList (Base64.encode (Gds.transparentCrypto.scheme.sign () message))
  have decoded : Base64.decode encoded.toList =
      some (Gds.transparentCrypto.scheme.sign () message) := by
    have chars : encoded.toList = Base64.encode (Gds.transparentCrypto.scheme.sign () message) :=
      String.toList_ofList
    rw [chars, Base64.decode_encode]
  have notEmpty : encoded ≠ "" := by
    intro empty
    have blank : Base64.decode "".toList = some [] := rfl
    rw [empty, blank, Option.some.injEq] at decoded
    exact Gds.transparentCrypto_ideal.nonempty _ _ decoded.symm
  have verified : checkSignature Gds.transparentCrypto plainSignature
      (canonicalArtifactPayload signed).canonicalBytes () = .ok () := by
    rw [payload]
    exact (checkSignature_eq_ok Gds.transparentCrypto).mpr
      ⟨encoded, _, rfl, notEmpty, decoded, Gds.transparentCrypto_ideal.complete () message⟩
  exact ⟨_, (verifySignedArtifact_eq_ok Gds.transparentCrypto).mpr
    ⟨object, header, signer, ⟨.obj [], rfl, record⟩, require_eq_ok.mpr (Or.inl (by decide)),
      rfl, rfl, rfl, rfl, verified, rfl⟩⟩

theorem missing_chain_accepted :
    ∃ result, verifySignedArtifact Gds.transparentCrypto (.obj plainFields) plainSignature "OT"
      "server" () "pin" = .ok result := by
  apply plain_accepted rfl
  · intro key _
    rfl
  · rfl

theorem null_chain_accepted :
    ∃ result, verifySignedArtifact Gds.transparentCrypto
      (.obj (("ca_chain_pem", .null) :: plainFields)) plainSignature "OT" "server" () "pin" =
        .ok result := by
  apply plain_accepted rfl
  · intro key member
    have other : key ≠ "ca_chain_pem" := by
      rintro rfl
      exact absurd member (by decide)
    exact (List.lookup_cons ..).trans (by rw [beq_eq_false_iff_ne.mpr other])
  · rfl

/-- A null CA chain is written as the text `None`, a missing one is not written. -/
theorem null_chain_written_differently :
    ∃ (left right signature : Json) (result other : String × Nat),
      verifySignedArtifact Gds.transparentCrypto left signature "OT" "server" () "pin" =
          .ok result ∧
        verifySignedArtifact Gds.transparentCrypto right signature "OT" "server" () "pin" =
          .ok other ∧
        ∀ pemCertToDer crlNextUpdate, ¬ WritesAlike pemCertToDer crlNextUpdate left right := by
  obtain ⟨result, acceptedLeft⟩ := missing_chain_accepted
  obtain ⟨other, acceptedRight⟩ := null_chain_accepted
  refine ⟨_, _, _, result, other, acceptedLeft, acceptedRight, ?_⟩
  intro pemCertToDer crlNextUpdate alike
  have agree := payloadsAgree_of_accepted Gds.transparentCrypto_ideal acceptedLeft acceptedRight
  have readAlike := readAlike_of_writesAlike rfl rfl agree alike
  exact absurd readAlike.caChain (by decide)

/-- The two directions on the artifact without a chain and on the one with a null chain. -/
theorem null_chain_written_alike_iff :
    ∃ (signature : Json) (result other : String × Nat),
      verifySignedArtifact Gds.transparentCrypto (.obj plainFields) signature "OT" "server" ()
          "pin" = .ok result ∧
        verifySignedArtifact Gds.transparentCrypto
          (.obj (("ca_chain_pem", .null) :: plainFields)) signature "OT" "server" () "pin" =
            .ok other ∧
        ∀ pemCertToDer crlNextUpdate,
          WritesAlike pemCertToDer crlNextUpdate (.obj plainFields)
              (.obj (("ca_chain_pem", .null) :: plainFields)) ↔
            ReadAlike pemCertToDer crlNextUpdate (.obj plainFields)
              (.obj (("ca_chain_pem", .null) :: plainFields)) := by
  obtain ⟨result, acceptedLeft⟩ := missing_chain_accepted
  obtain ⟨other, acceptedRight⟩ := null_chain_accepted
  refine ⟨plainSignature, result, other, acceptedLeft, acceptedRight, ?_⟩
  intro pemCertToDer crlNextUpdate
  exact accepted_artifacts_written_alike_iff pemCertToDer crlNextUpdate
    Gds.transparentCrypto_ideal acceptedLeft acceptedRight

end OpcuaGds.Agent
