import OpcuaGds.Agent.TrustAnchor
import OpcuaGds.Foundation.FileTree

/-! # Writing trust material

`_write_target_stage_material`: CA chain, CRLs and peer certificates of an artifact
written into the directories of one target. Every exception leaves behind what was
written before it.
-/

namespace OpcuaGds.Agent

/-- `_target_stage_layout`. The rejected directory is only created. -/
structure StageLayout where
  trustedCertsDir : String
  trustedCrlDir : String
  issuerCertsDir : String
  issuerCrlDir : String

def targetStageLayout (targetCfg : Json) : StageLayout :=
  let get (key default : String) : String :=
    ((targetCfg.field? key).getD (.str default)).toStr
  { trustedCertsDir := get "trusted_certs_dir" "trusted/certs"
    trustedCrlDir := get "trusted_crl_dir" "trusted/crl"
    issuerCertsDir := get "issuer_certs_dir" "issuers/certs"
    issuerCrlDir := get "issuer_crl_dir" "issuers/crl" }

/-- What surrounds one call: the readers of certificates (PEM to DER) and CRLs (their
`nextUpdate`, `none` for a parse error), the clock and the freshness setting. -/
structure StageEnvironment where
  pemCertToDer : String → Option (List UInt8)
  crlNextUpdate : List UInt8 → Option (Option Int)
  now : Int
  strictFreshness : Bool

/-- The files under the target's root and the writes of this call. -/
structure StageState where
  tree : FileTree
  log : FileTree

def StageState.write (state : StageState) (dir name : String) (content : List UInt8) :
    StageState where
  tree := state.tree.write (FileTree.join dir name) content
  log := state.log ++ [(FileTree.join dir name, content)]

/-- A step of the writer; an error holds the state that an exception leaves behind. -/
abbrev StageStep := Except StageState StageState

/-- The writes of a call, whether it returns or raises. -/
def StageStep.log : StageStep → FileTree
  | .ok state => state.log
  | .error state => state.log

/-! ## The CA chain -/

/-- `text[text.index(needle):]`, when the needle occurs. -/
def fromIndex (needle : List Char) : List Char → Option (List Char)
  | [] => if needle = [] then some [] else none
  | c :: rest => if needle.isPrefixOf (c :: rest) then some (c :: rest) else fromIndex needle rest

/-- `_split_pem_chain`, on at most as many blocks as there are characters. -/
def splitPemBlocks : Nat → List Char → List String
  | 0, _ => []
  | fuel + 1, remaining =>
      let markerBegin := "-----BEGIN CERTIFICATE-----".toList
      let markerEnd := "-----END CERTIFICATE-----".toList
      match fromIndex markerBegin remaining, fromIndex markerEnd remaining with
      | some fromStart, some fromEnd =>
          let start := remaining.length - fromStart.length
          let stop := remaining.length - fromEnd.length + markerEnd.length
          String.ofList ((remaining.take stop).drop start ++ ['\n']) ::
            splitPemBlocks fuel (remaining.drop stop)
      | _, _ => []

def splitPemChain (pemText : String) : List String :=
  splitPemBlocks pemText.length pemText.toList

section Writer

variable (env : StageEnvironment) (layout : StageLayout)

/-- The numbered DER files of the chain. -/
def writeChainDer : Nat → List String → StageState → StageStep
  | _, [], state => .ok state
  | index, pem :: rest, state =>
      match env.pemCertToDer pem with
      | none => .error state
      | some der =>
          let name := "ca-chain-" ++ toString index ++ ".der"
          writeChainDer (index + 1) rest
            ((state.write layout.issuerCertsDir name der).write layout.trustedCertsDir name der)

/-- The aliases of the last and the first certificate of the chain. -/
def writeChainAliases (chain : List String) (state : StageState) : StageStep :=
  match chain with
  | [] => .ok state
  | first :: rest =>
      match env.pemCertToDer ((first :: rest).getLast (List.cons_ne_nil _ _)),
        env.pemCertToDer first with
      | some rootDer, some interDer =>
          .ok ((state.write layout.trustedCertsDir "labshock_root_ca.der" rootDer).write
            layout.trustedCertsDir "labshock_intermediate_ca.der" interDer)
      | _, _ => .error state

def writeCaChain (caChain : String) (state : StageState) : StageStep :=
  if caChain = "" then .ok state
  else do
    let content := textBytes caChain
    let state := (state.write layout.issuerCertsDir "ca-chain.pem" content).write
      layout.trustedCertsDir "ca-chain.pem" content
    let chain := splitPemChain caChain
    let state ← writeChainDer env layout 1 chain state
    writeChainAliases env layout chain state

/-! ## The CRLs -/

/-- The directory of older servers that gets the CRLs as well. -/
def compatCrlDir : Option String :=
  if "ApplCerts/".toList.isPrefixOf layout.trustedCertsDir.toList then
    some "ApplCerts/issuers/crl"
  else none

def activeCrlDirs : List String :=
  [layout.issuerCrlDir, layout.trustedCrlDir] ++ (compatCrlDir layout).toList

def hasSuffix (suffix text : String) : Bool := suffix.toList.isSuffixOf text.toList

def isCrlFile (path : String) : Bool :=
  let name := PythonText.lower (FileTree.nameOf path)
  hasSuffix ".crl" name || hasSuffix ".crl.b64" name

/-- `_GDS_CONTROLLED_CRL_STEMS` with both endings. -/
def isGdsCrlAlias (path : String) : Bool :=
  ["vault_intermediate.crl", "vault_intermediate.crl.b64", "root_ca.crl", "root_ca.crl.b64",
    "current.crl", "current.crl.b64"].contains (PythonText.lower (FileTree.nameOf path))

/-- `_snapshot_crl_dirs`. -/
def snapshotCrlDirs (tree : FileTree) : FileTree :=
  (activeCrlDirs layout).flatMap fun dir =>
    (tree.filesIn dir).filter fun file => isCrlFile file.1

/-- `_remove_stale_gds_crl_aliases`. -/
def removeStaleGdsCrlAliases (tree : FileTree) : FileTree :=
  (activeCrlDirs layout).foldl (fun tree dir =>
    ((tree.filesIn dir).filter fun file => isGdsCrlAlias file.1).foldl
      (fun tree file => tree.delete file.1) tree) tree

/-- `_restore_crl_snapshot`. -/
def restoreCrlSnapshot (snapshot : FileTree) (state : StageState) : StageState :=
  snapshot.foldl (fun state file =>
    { tree := state.tree.write file.1 file.2, log := state.log ++ [file] }) state

/-- Whether a file of a CRL directory is a problem for `_validate_crl_dirs`. -/
def isCrlProblem (file : String × List UInt8) : Bool :=
  let content :=
    if hasSuffix ".crl.b64" (PythonText.lower (FileTree.nameOf file.1)) then
      Base64.decodeFrom 0 0 0 (file.2.map fun byte => Char.ofNat byte.toNat)
    else some file.2
  match content.bind env.crlNextUpdate with
  | some (some nextUpdate) => env.strictFreshness && nextUpdate ≤ env.now
  | _ => true

/-- `_validate_crl_dirs` finds a problem. -/
def hasCrlProblems (tree : FileTree) : Bool :=
  (activeCrlDirs layout).any fun dir =>
    (tree.filesIn dir).any fun file => isCrlFile file.1 && isCrlProblem env file

/-- One CRL in every directory. -/
def writeCrlDirs (name : String) (content : List UInt8) (state : StageState) : StageState :=
  (activeCrlDirs layout).foldl (fun state dir => state.write dir name content) state

/-- One of the two CRLs, by its base64 text. -/
def writeCrl (stem crlBase64 : String) (state : StageState) : StageStep :=
  if crlBase64 = "" then .ok state
  else
    match Base64.decode crlBase64.toList with
    | none => .error state
    | some content =>
        let state := writeCrlDirs layout (stem ++ ".crl") content state
        if stem = "vault_intermediate" then
          .ok ((state.write layout.issuerCrlDir "current.crl" content).write
            layout.trustedCrlDir "current.crl" content)
        else .ok state

/-- Clean, write, validate, and roll back when there are problems. -/
def writeCrls (rootCrl intermediateCrl : String) (state : StageState) : StageStep :=
  if rootCrl = "" ∧ intermediateCrl = "" then .ok state
  else do
    let snapshot := snapshotCrlDirs layout state.tree
    let state := { state with tree := removeStaleGdsCrlAliases layout state.tree }
    let state ← writeCrl layout "root_ca" rootCrl state
    let state ← writeCrl layout "vault_intermediate" intermediateCrl state
    if hasCrlProblems env layout state.tree then .error (restoreCrlSnapshot snapshot state)
    else .ok state

/-! ## Peer certificates -/

/-- `text.replace("/", "_").replace("\\", "_").replace(" ", "_")`. -/
def fileNameText (text : String) : String :=
  String.ofList (text.toList.map fun c => if c = '/' ∨ c = '\\' ∨ c = ' ' then '_' else c)

/-- The file name, less its ending, and the PEM text of an entry; the fresh identifier
stands in for a missing fingerprint. -/
def certificateFile (fresh : String) (cert : Json) : String × String :=
  let get (key default : String) : String := ((cert.field? key).getD (.str default)).toStr
  let fp := PythonText.lower (get "fingerprint_sha256" fresh)
  (fileNameText (get "common_name" "peer") ++ "[" ++ fp ++ "]", get "pem" "")

/-- One entry of `certificates`. -/
def writeCertificate (fresh : String) (cert : Json) (state : StageState) : StageStep :=
  if cert.isObject then
    let (name, pem) := certificateFile fresh cert
    if pem = "" then .ok state
    else
      let state := state.write layout.trustedCertsDir (name ++ ".pem") (textBytes pem)
      match env.pemCertToDer pem with
      | none => .error state
      | some der => .ok (state.write layout.trustedCertsDir (name ++ ".der") der)
  else .error state

/-- The loop over the entries; `uuid4().hex` is drawn once for each. -/
def writeCertificates (uuids : Nat → String) : Nat → List Json → StageState → StageStep
  | _, [], state => .ok state
  | index, cert :: rest, state => do
      let state ← writeCertificate env layout (uuids index) cert state
      writeCertificates uuids (index + 1) rest state

/-! ## The whole writer -/

/-- `str(artifact.get("ca_chain_pem", ""))`. -/
def caChainText (artifact : Json) : String :=
  ((artifact.field? "ca_chain_pem").getD (.str "")).toStr

/-- `value or other`. -/
def orElse (value other : Json) : Json := if value.truthy then value else other

/-- `artifact.get("crl_bundle")`, or an empty dictionary in place of anything else. -/
def crlBundle (artifact : Json) : Json :=
  match artifact.field? "crl_bundle" with
  | some (.obj fields) => .obj fields
  | _ => .obj []

def rootCrlText (artifact : Json) : String :=
  (orElse (((crlBundle artifact).field? "root_crl_base64").getD .null) (.str "")).toStr

def intermediateCrlText (artifact : Json) : String :=
  (orElse (((crlBundle artifact).field? "intermediate_crl_base64").getD .null)
    (orElse ((artifact.field? "crl_base64").getD .null) (.str ""))).toStr

/-- `artifact.get("certificates", [])`, or nothing when that is not a list. -/
def certificateEntries (artifact : Json) : List Json :=
  match artifact.field? "certificates" with
  | some (.arr entries) => entries
  | _ => []

/-- `_write_target_stage_material`. -/
def writeTargetStageMaterial (uuids : Nat → String) (artifact : Json) (tree : FileTree) :
    StageStep :=
  if artifact.isObject then do
    let state ← writeCaChain env layout (caChainText artifact) ⟨tree, []⟩
    let state ← writeCrls env layout (rootCrlText artifact) (intermediateCrlText artifact) state
    writeCertificates env layout uuids 0 (certificateEntries artifact) state
  else .error ⟨tree, []⟩

end Writer

end OpcuaGds.Agent
