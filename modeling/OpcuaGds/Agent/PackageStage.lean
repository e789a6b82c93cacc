import OpcuaGds.Agent.RuntimePaths
import OpcuaGds.Agent.StageAtomicity

/-! # Staging a certificate package

`_write_package_stage_material`: certificate, CA chain and CRL of a package manifest written
below one root. Paths are canonical: `..` is followed as the operating system does, and what
leads out of the root is not part of the tree.
-/

namespace OpcuaGds.Agent

/-! ## Paths -/

/-- `Path(name).suffix`. -/
def pathSuffix (name : String) : String :=
  let ending := (name.toList.reverse.takeWhile fun c => c != '.').reverse
  if 0 < ending.length ∧ ending.length + 1 < name.toList.length then
    "." ++ String.ofList ending
  else ""

/-- `Path(name).with_suffix(suffix).name`. -/
def withSuffix (suffix name : String) : String :=
  String.ofList (name.toList.take (name.toList.length - (pathSuffix name).toList.length)) ++ suffix

/-- `root / rel`, when it stays below the root. -/
def canonicalParts (parts : List String) : Option (List String) :=
  (parts.foldl descend (some [])).map List.reverse

/-- The parts of `(root / rel).parent / name`. -/
def siblingParts (rel name : String) : List String := (pathParts rel).dropLast ++ [name]

def isAbsolutePath (rel : String) : Bool := "/".toList.isPrefixOf rel.toList

/-- Write a file below the root; a file elsewhere is not part of the tree. -/
def StageState.put (parts : List String) (content : List UInt8) (state : StageState) : StageState :=
  match canonicalParts parts with
  | none => state
  | some way =>
      let path := String.intercalate "/" way
      { tree := state.tree.write path content, log := state.log ++ [(path, content)] }

/-- `path.relative_to(root)` raises for an absolute path. -/
def relativeTo (rel : String) (state : StageState) : StageStep :=
  if isAbsolutePath rel then .error state else .ok state

/-- The files directly in some directories, given by their canonical parts. -/
def filesInDirs (dirs : List (Option (List String))) (tree : FileTree) : FileTree :=
  tree.filter fun file => dirs.contains (some (splitPath file.1).dropLast)

/-! ## The layout of a package -/

structure PackageLayout where
  applicationCertificate : String
  trustedCertsDir : String
  trustedCrlDir : String
  issuerChain : String
  issuerCrl : String

/-- `install_plan["target_layout"]`, or an empty dictionary. -/
def targetLayout (manifest : Json) : Json :=
  match (manifest.field? "install_plan").bind (·.field? "target_layout") with
  | some (.obj fields) => .obj fields
  | _ => .obj []

/-- The paths that `_write_package_stage_material` picks: those of the target for one kind of
server, otherwise those of the package with the target's or fixed ones as default. -/
def packageLayout (targetCfg manifest : Json) : PackageLayout :=
  let layout := targetStageLayout targetCfg
  let chosen (key default : String) : String :=
    (orElse (((targetLayout manifest).field? key).getD .null) (.str default)).toStr
  if ((targetCfg.field? "layout_kind").getD (.str "")).toStr = "open62541-opcua-server" then
    { applicationCertificate := "ApplCerts/own/certs/server.der"
      trustedCertsDir := layout.trustedCertsDir
      trustedCrlDir := layout.trustedCrlDir
      issuerChain := layout.issuerCertsDir ++ "/ca-chain.pem"
      issuerCrl := layout.issuerCrlDir ++ "/current.crl.b64" }
  else
    { applicationCertificate :=
        chosen "application_certificate" (layout.trustedCertsDir ++ "/application.pem")
      trustedCertsDir := chosen "trusted_certs_dir" layout.trustedCertsDir
      trustedCrlDir := chosen "trusted_crl_dir" layout.trustedCrlDir
      issuerChain := chosen "issuer_chain" "issuers/certs/ca-chain.pem"
      issuerCrl := chosen "issuer_crl" "issuers/crl/current.crl.b64" }

/-! ## The writer -/

section Writer

variable (env : StageEnvironment) (package : PackageLayout)

/-- The application certificate, and its DER form next to a PEM file. -/
def writePackageCertificate (certPem : String) (state : StageState) : StageStep :=
  if certPem = "" then .ok state
  else
    let rel := package.applicationCertificate
    let suffix := PythonText.lower (pathSuffix (pathName rel))
    if suffix = ".der" then
      match env.pemCertToDer certPem with
      | none => .error state
      | some der => relativeTo rel (state.put (pathParts rel) der)
    else do
      let state ← relativeTo rel (state.put (pathParts rel) (textBytes certPem))
      if suffix = ".pem" then
        match env.pemCertToDer certPem with
        | none => .ok state
        | some der => .ok (state.put (siblingParts rel (withSuffix ".der" (pathName rel))) der)
      else .ok state

/-- The numbered DER files of the chain. -/
def writePackageChainDer : Nat → List String → StageState → StageStep
  | _, [], state => .ok state
  | index, pem :: rest, state =>
      match env.pemCertToDer pem with
      | none => .error state
      | some der =>
          let name := "ca-chain-" ++ toString index ++ ".der"
          writePackageChainDer (index + 1) rest
            ((state.put (siblingParts package.issuerChain name) der).put
              (pathParts package.trustedCertsDir ++ [name]) der)

def writePackageChain (caChain : String) (state : StageState) : StageStep :=
  if caChain = "" then .ok state
  else do
    let content := textBytes caChain
    let state := (state.put (pathParts package.issuerChain) content).put
      (pathParts package.trustedCertsDir ++ ["ca-chain.pem"]) content
    let state ← relativeTo package.issuerChain state
    let state ← relativeTo package.trustedCertsDir state
    writePackageChainDer env package 1 (splitPemChain caChain) state

/-- `crl_path.parent` and `trusted_crl_dir`. -/
def packageCrlDirs : List (Option (List String)) :=
  [canonicalParts (pathParts package.issuerCrl).dropLast,
    canonicalParts (pathParts package.trustedCrlDir)]

/-- The files that hold the CRL: its text, its bytes next to it, and its bytes again. -/
def packageCrlParts : List (List String) :=
  [pathParts package.issuerCrl,
    siblingParts package.issuerCrl (withSuffix ".crl" (pathName package.issuerCrl)),
    pathParts package.trustedCrlDir ++ ["current.crl"]]

def putAll (files : List (List String × List UInt8)) (state : StageState) : StageState :=
  files.foldl (fun state file => state.put file.1 file.2) state

/-- Clean, write, validate, and roll back when there are problems. -/
def writePackageCrl (crlBase64 : String) (state : StageState) : StageStep :=
  if crlBase64 = "" then .ok state
  else
    match Base64.decode crlBase64.toList with
    | none => .error state
    | some content => do
        let dirs := packageCrlDirs package
        let snapshot := (filesInDirs dirs state.tree).filter fun file => isCrlFile file.1
        let cleaned := state.tree.filter fun file =>
          !(dirs.contains (some (splitPath file.1).dropLast) && isGdsCrlAlias file.1)
        let state := putAll ((packageCrlParts package).zip [textBytes crlBase64, content, content])
          { state with tree := cleaned }
        let state ← relativeTo package.issuerCrl state
        let state ← relativeTo package.trustedCrlDir state
        let problems := (filesInDirs dirs state.tree).any fun file =>
          isCrlFile file.1 && isCrlProblem env file
        if problems then .error (restoreCrlSnapshot snapshot state) else .ok state

end Writer

def manifestText (manifest : Json) (key : String) : String :=
  ((manifest.field? key).getD (.str "")).toStr

/-- `_write_package_stage_material`. -/
def writePackageStageMaterial (env : StageEnvironment) (targetCfg manifest : Json)
    (tree : FileTree) : StageStep :=
  if manifest.isObject then do
    let package := packageLayout targetCfg manifest
    let state ← writePackageCertificate env package (manifestText manifest "certificate_pem")
      ⟨tree, []⟩
    let state ← writePackageChain env package (manifestText manifest "ca_chain_pem") state
    writePackageCrl env package (manifestText manifest "crl_base64") state
  else .error ⟨tree, []⟩

/-! ## The files of a stage -/

/-- Where a package writes a CRL. -/
def HoldsPackageCrl (package : PackageLayout) (path : String) : Prop :=
  ∃ parts ∈ packageCrlParts package, ∃ way, canonicalParts parts = some way ∧
    path = String.intercalate "/" way

/-- The two files whose place the package chooses. -/
def IsPackageChoice (package : PackageLayout) (path : String) : Prop :=
  ∃ rel ∈ [package.applicationCertificate, package.issuerChain], ∃ way,
    canonicalParts (pathParts rel) = some way ∧ path = String.intercalate "/" way

/-- Every file of the state is allowed. -/
def OnlyFiles (allowed : String → Prop) (state : StageState) : Prop :=
  ∀ file ∈ state.tree, allowed file.1

section Files

variable {allowed : String → Prop} {state after : StageState} {env : StageEnvironment}
  {package : PackageLayout}

theorem OnlyFiles.put (only : OnlyFiles allowed state) {parts : List String}
    (isAllowed : ∀ way, canonicalParts parts = some way → allowed (String.intercalate "/" way))
    (content : List UInt8) : OnlyFiles allowed (state.put parts content) := by
  intro file member
  rw [StageState.put] at member
  cases way : canonicalParts parts with
  | none =>
      rw [way] at member
      exact only file member
  | some way' =>
      rw [way] at member
      rcases FileTree.mem_write member with rfl | earlier
      · exact isAllowed way' way
      · exact only file earlier

theorem OnlyFiles.relativeTo (only : OnlyFiles allowed state) {rel : String}
    (done : relativeTo rel state = .ok after) : OnlyFiles allowed after := by
  unfold OpcuaGds.Agent.relativeTo at done
  split at done
  · cases done
  · cases done
    exact only

/-- A path that ends in the name of a certificate file. -/
theorem isCertificateName_canonical {front way : List String} {name : String}
    (isName : IsCertificateName name) (led : canonicalParts (front ++ [name]) = some way) :
    IsCertificateName (String.intercalate "/" way) := by
  have notUp : name ≠ ".." := by
    rintro rfl
    revert isName
    unfold IsCertificateName
    decide
  rw [canonicalParts, List.foldl_append, List.foldl_cons, List.foldl_nil] at led
  cases earlier : front.foldl descend (some []) with
  | none =>
      rw [earlier] at led
      cases led
  | some above =>
      rw [earlier, descend, if_neg notUp] at led
      cases led
      rw [List.reverse_cons]
      cases above.reverse with
      | nil => rwa [List.nil_append, String.intercalate_singleton]
      | cons first rest =>
          rw [String.intercalate_append_of_ne_nil (List.cons_ne_nil _ _) (List.cons_ne_nil _ _),
            String.intercalate_singleton]
          exact isName.append _

variable (certificates : ∀ path, IsCertificateName path → allowed path)
include certificates

theorem OnlyFiles.putCertificate (only : OnlyFiles allowed state) {name : String}
    (isName : IsCertificateName name) (front : List String) (content : List UInt8) :
    OnlyFiles allowed (state.put (front ++ [name]) content) :=
  only.put (fun _ led => certificates _ (isCertificateName_canonical isName led)) content

theorem onlyFiles_chainDer {index : Nat} {chain : List String} (only : OnlyFiles allowed state)
    (done : writePackageChainDer env package index chain state = .ok after) :
    OnlyFiles allowed after := by
  induction chain generalizing index state with
  | nil =>
      cases done
      exact only
  | cons pem rest ih =>
      rw [writePackageChainDer] at done
      split at done
      · cases done
      · rename_i der _
        have isName := isCertificateName_der ("ca-chain-" ++ toString index)
        exact ih ((only.putCertificate certificates isName _ der).putCertificate certificates
          isName _ der) done

variable (choices : ∀ path, IsPackageChoice package path → allowed path)
include choices

theorem onlyFiles_certificate {certPem : String} (only : OnlyFiles allowed state)
    (done : writePackageCertificate env package certPem state = .ok after) :
    OnlyFiles allowed after := by
  have chosen (content : List UInt8) :
      OnlyFiles allowed (state.put (pathParts package.applicationCertificate) content) :=
    only.put (fun way led => choices _ ⟨_, List.mem_cons_self, way, led, rfl⟩) content
  unfold writePackageCertificate at done
  split at done
  · cases done
    exact only
  · dsimp only at done
    split at done
    · split at done
      · cases done
      · rename_i der _
        exact (chosen der).relativeTo done
    · obtain ⟨middle, relative, rest⟩ := Fallible.bind_eq_ok.mp done
      have onlyMiddle := (chosen _).relativeTo relative
      split at rest
      · split at rest
        · cases rest
          exact onlyMiddle
        · cases rest
          exact onlyMiddle.putCertificate certificates (isCertificateName_der _) _ _
      · cases rest
        exact onlyMiddle

theorem onlyFiles_chain {caChain : String} (only : OnlyFiles allowed state)
    (done : writePackageChain env package caChain state = .ok after) : OnlyFiles allowed after := by
  unfold writePackageChain at done
  split at done
  · cases done
    exact only
  · obtain ⟨first, relativeChain, rest⟩ := Fallible.bind_eq_ok.mp done
    obtain ⟨second, relativeTrusted, numbered⟩ := Fallible.bind_eq_ok.mp rest
    have chosen := only.put
      (fun way led => choices _ ⟨_, List.mem_cons_of_mem _ List.mem_cons_self, way, led, rfl⟩)
      (textBytes caChain)
    have both := chosen.putCertificate certificates (isCertificateName_pem "ca-chain")
      (pathParts package.trustedCertsDir) (textBytes caChain)
    exact onlyFiles_chainDer certificates ((both.relativeTo relativeChain).relativeTo
      relativeTrusted) numbered

omit certificates choices in
theorem onlyFiles_crl {crlBase64 : String} (only : OnlyFiles allowed state)
    (crls : crlBase64 ≠ "" → ∀ path, HoldsPackageCrl package path → allowed path)
    (done : writePackageCrl env package crlBase64 state = .ok after) : OnlyFiles allowed after := by
  unfold writePackageCrl at done
  split at done
  · cases done
    exact only
  · rename_i notEmpty
    split at done
    · cases done
    · rename_i content _
      obtain ⟨first, relativeCrl, rest⟩ := Fallible.bind_eq_ok.mp done
      obtain ⟨second, relativeTrusted, validated⟩ := Fallible.bind_eq_ok.mp rest
      have puts (files : List (List String × List UInt8))
          (within : ∀ file ∈ files, file.1 ∈ packageCrlParts package) (state : StageState)
          (only : OnlyFiles allowed state) : OnlyFiles allowed (putAll files state) := by
        induction files generalizing state with
        | nil => exact only
        | cons file later ih =>
            obtain ⟨here, others⟩ := List.forall_mem_cons.mp within
            exact ih others _ (only.put
              (fun way led => crls notEmpty _ ⟨_, here, way, led, rfl⟩) file.2)
      have written := puts ((packageCrlParts package).zip [textBytes crlBase64, content, content])
        (fun file member => (List.of_mem_zip member).1)
        { state with tree := state.tree.filter fun file =>
          !((packageCrlDirs package).contains (some (splitPath file.1).dropLast) &&
            isGdsCrlAlias file.1) }
        fun file member => only file (List.mem_of_mem_filter member)
      have onlySecond := (written.relativeTo relativeCrl).relativeTo relativeTrusted
      dsimp only at validated
      split at validated
      · cases validated
      · cases validated
        exact onlySecond

end Files

/-- A stage holds certificate files, the two files whose place the package chooses, and its
CRL. -/
theorem stage_files {env : StageEnvironment} {targetCfg manifest : Json} {after : StageState}
    (done : writePackageStageMaterial env targetCfg manifest [] = .ok after) :
    OnlyFiles (fun path => IsCertificateName path ∨
      IsPackageChoice (packageLayout targetCfg manifest) path ∨
        manifestText manifest "crl_base64" ≠ "" ∧
          HoldsPackageCrl (packageLayout targetCfg manifest) path) after := by
  unfold writePackageStageMaterial at done
  split at done
  · obtain ⟨first, certificate, rest⟩ := Fallible.bind_eq_ok.mp done
    obtain ⟨second, chain, crl⟩ := Fallible.bind_eq_ok.mp rest
    have none : OnlyFiles (fun path => IsCertificateName path ∨
        IsPackageChoice (packageLayout targetCfg manifest) path ∨
          manifestText manifest "crl_base64" ≠ "" ∧
            HoldsPackageCrl (packageLayout targetCfg manifest) path) ⟨[], []⟩ := nofun
    have afterCertificate := onlyFiles_certificate (fun _ isName => .inl isName)
      (fun _ choice => .inr (.inl choice)) none certificate
    have afterChain := onlyFiles_chain (fun _ isName => .inl isName)
      (fun _ choice => .inr (.inl choice)) afterCertificate chain
    exact onlyFiles_crl afterChain (fun notEmpty _ holds => .inr (.inr ⟨notEmpty, holds⟩)) crl
  · cases done

end OpcuaGds.Agent
