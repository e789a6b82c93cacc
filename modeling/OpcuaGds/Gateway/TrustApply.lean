import OpcuaGds.Foundation.FileWrites
import OpcuaGds.Gateway.TrustDocument

/-! # Applying trust material on the DMZ gateway

`apply_trust_or_certificate_one` and what it calls: the files that an apply writes, in the
order in which it writes them, and whether it reports success. No outcome of a write is
looked at and no file is removed.
-/

namespace OpcuaGds.Gateway

/-- What the client gets from OpenSSL: the bytes of a base64 text and the DER form of the
first certificate of a PEM text. -/
structure OpenSsl where
  base64Decode : String → Option (List UInt8)
  pemCertToDer : String → Option (List UInt8)

/-! ## File names -/

def sanitizeByte (byte : UInt8) : Char :=
  if CText.isAlnum byte ∨ byte = 45 ∨ byte = 95 then Char.ofNat byte.toNat else '_'

/-- `sanitize_filename` into a buffer of 256 bytes. -/
def sanitizeFilename (text : String) : String :=
  match ((textBytes text).map sanitizeByte).take 255 with
  | [] => "certificate"
  | chars => String.ofList chars

theorem sanitizeByte_plain (byte : UInt8) : sanitizeByte byte ∉ ['/', '\x00'] := by
  have all : ∀ value < 256, sanitizeByte (UInt8.ofNat value) ∉ ['/', '\x00'] := by decide +kernel
  have here := all byte.toNat byte.toNat_lt
  rwa [UInt8.ofNat_toNat] at here

/-- Whatever the text, its name is part of a file name. -/
theorem sanitizeFilename_part (text : String) : FileTree.IsNamePart (sanitizeFilename text) := by
  have plain : ∀ c ∈ ((textBytes text).map sanitizeByte).take 255, c ∉ ['/', '\x00'] := by
    intro c member
    obtain ⟨byte, _, rfl⟩ := List.mem_map.mp (List.mem_of_mem_take member)
    exact sanitizeByte_plain byte
  unfold sanitizeFilename
  split
  · decide
  · rw [FileTree.IsNamePart, String.toList_ofList]
    exact ⟨fun slash => plain _ slash (by decide), fun nul => plain _ nul (by decide)⟩

namespace TargetConfig

variable (config : TargetConfig)

def issuerCerts : String := config.issuerDir ++ "/certs"

def issuerCrl : String := config.issuerDir ++ "/crl"

def trustedCerts : String := config.trustedDir ++ "/certs"

def trustedCrl : String := config.trustedDir ++ "/crl"

/-- `strcmp(target->runtime_side, "southbound") == 0`. -/
def isSouthbound : Bool := config.runtimeSide == "southbound"

end TargetConfig

section Writes

variable (ssl : OpenSsl) (config : TargetConfig)

/-- `write_pem_cert_der`. -/
def writePemCertDer (path pem : String) : FileWrites :=
  match ssl.pemCertToDer pem with
  | some der => [(path, der)]
  | none => []

/-! ## The CA chain -/

/-- The blocks that the loop of `apply_ca_chain` finds, on at most as many as there are
characters: from a begin marker to the next end marker. -/
def chainBlocks : Nat → List Char → List (List Char)
  | 0, _ => []
  | fuel + 1, cursor =>
      match CText.strstr "-----BEGIN CERTIFICATE-----".toList cursor with
      | none => []
      | some start =>
          match CText.strstr "-----END CERTIFICATE-----".toList start with
          | none => []
          | some found =>
              let rest := found.drop "-----END CERTIFICATE-----".length
              start.take (start.length - rest.length) :: chainBlocks fuel rest

/-- The files of the numbered blocks. -/
def chainBlockWrites : Nat → List (List Char) → FileWrites
  | _, [] => []
  | index, block :: rest =>
      let pem := String.ofList (block ++ ['\n'])
      writePemCertDer ssl
          (FileTree.join config.issuerCerts ("ca-chain-" ++ toString index ++ ".der")) pem ++
        (if config.isSouthbound then
          writePemCertDer ssl (FileTree.join config.trustedCerts
            (if index = 1 then "vault_intermediate.der" else "root_ca.der")) pem
        else []) ++
        chainBlockWrites (index + 1) rest

/-- `apply_ca_chain`. -/
def applyCaChain (caChain : String) : FileWrites :=
  (FileTree.join config.issuerCerts "ca-chain.pem", textBytes caChain) ::
    chainBlockWrites ssl config 1 (chainBlocks caChain.length caChain.toList)

/-! ## The CRLs -/

/-- One file in both CRL directories. -/
def crlPair (name : String) (content : List UInt8) : FileWrites :=
  [(FileTree.join config.issuerCrl name, content), (FileTree.join config.trustedCrl name, content)]

/-- `apply_crl_alias`. -/
def applyCrlAlias (crlAlias crlB64 : String) : FileWrites :=
  crlPair config (crlAlias ++ ".crl.b64") (textBytes crlB64) ++
    match ssl.base64Decode crlB64 with
    | none => []
    | some der =>
        crlPair config (crlAlias ++ ".crl") der ++
          (if crlAlias = "vault_intermediate" then crlPair config "current.crl" der else [])

/-- `apply_crl_alias` for an item that is a text. -/
def applyCrlItem (crlAlias : String) (crl : Option Json) : FileWrites :=
  match valuestring? crl with
  | some crlB64 => applyCrlAlias ssl config crlAlias crlB64
  | none => []

/-- `crl_bundle` of the artifact, or else of the trust material. -/
def crlBundle (trustDoc : Json) : Option Json :=
  item (artifact trustDoc) "crl_bundle" <|> item (trustMaterial trustDoc) "crl_bundle"

/-- The CRL part of an apply; `none` where it fails, before it writes a CRL. -/
def applyCrls (settings : GdsSettings) (trustDoc : Json) : Option FileWrites :=
  match crlBundle trustDoc with
  | some (.obj fields) =>
      let rootCrl := getObjectItem (.obj fields) "root_crl_base64"
      let intermediateCrl := getObjectItem (.obj fields) "intermediate_crl_base64"
      if settings.requireRevocationLists ∧
          ((valuestring? rootCrl).isNone ∨ (valuestring? intermediateCrl).isNone) then none
      else
        some (applyCrlItem ssl config "root_ca" rootCrl ++
          applyCrlItem ssl config "vault_intermediate" intermediateCrl)
  | _ =>
      if settings.requireRevocationLists then none
      else some (applyCrlItem ssl config "vault_intermediate"
        (item (trustMaterial trustDoc) "crl_base64"))

/-! ## Peer certificates -/

/-- The file name of an entry, less its ending. -/
def certificateName (cert : Json) : String :=
  sanitizeFilename
    ((valuestring? (getObjectItem cert "application_uri")).getD
      ((valuestring? (getObjectItem cert "common_name")).getD "trusted"))

/-- The loop of `apply_trusted_certs`. -/
def applyTrustedCerts : Nat → List Json → FileWrites
  | _, [] => []
  | count, cert :: rest =>
      match valuestring? (getObjectItem cert "pem") with
      | none => applyTrustedCerts count rest
      | some pem =>
          writePemCertDer ssl
              (FileTree.join config.trustedCerts (certificateName cert ++ ".der")) pem ++
            (if config.isSouthbound ∧ count = 0 then
              writePemCertDer ssl (FileTree.join config.trustedCerts "ot_server.der") pem
            else []) ++
            applyTrustedCerts (count + 1) rest

/-- The entries of `certificates`, when that is an array. -/
def certificateEntries (trustDoc : Json) : List Json :=
  match item (trustMaterial trustDoc) "certificates" with
  | some (.arr entries) => entries
  | _ => []

/-! ## The whole apply -/

/-- What an apply writes, and whether it returns 1. -/
structure ApplyResult where
  writes : FileWrites
  succeeded : Bool

/-- The own certificate, in certificate mode. -/
def ownCertificateWrites (ownerDoc : Option Json) : FileWrites :=
  match valuestring? (item ownerDoc "certificate_pem") with
  | some pem => writePemCertDer ssl config.certPath pem
  | none => []

/-- The CA chain of the trust material, when it is a text. -/
def chainWrites (trustDoc : Json) : FileWrites :=
  match valuestring? (item (trustMaterial trustDoc) "ca_chain_pem") with
  | some caChain => applyCaChain ssl config caChain
  | none => []

/-- The files of an apply whose document passed the metadata check. -/
def applyTrustSource (settings : GdsSettings) (source : TrustSource) : ApplyResult :=
  let chain := chainWrites ssl config source.trustDoc
  match applyCrls ssl config settings source.trustDoc with
  | none => ⟨chain, false⟩
  | some crls =>
      ⟨chain ++ crls ++ applyTrustedCerts ssl config 0 (certificateEntries source.trustDoc) ++
        ownCertificateWrites ssl config source.ownerDoc, true⟩

/-- The document of an apply that gets as far as its first write. -/
def acceptedSource (settings : GdsSettings) (cache : TargetCache) (allowCertificate : Bool) :
    Option TrustSource :=
  if config.remotePeerReadOnly ∨ ¬ settings.runtimeWriteEnabled then none
  else
    (trustPayloadFromCacheOrEnrollment cache allowCertificate).filter fun source =>
      (validateSignedArtifactMetadata settings source.trustDoc).isNone

/-- `apply_trust_or_certificate_one`. -/
def applyTrustOrCertificateOne (settings : GdsSettings) (cache : TargetCache)
    (allowCertificate : Bool) : ApplyResult :=
  match acceptedSource config settings cache allowCertificate with
  | none => ⟨[], false⟩
  | some source => applyTrustSource ssl config settings source

variable {ssl config}

/-- The document of an apply passes the checks that stand before the first write. -/
theorem acceptedSource_eq_some {settings : GdsSettings} {cache : TargetCache}
    {allowCertificate : Bool} {source : TrustSource} :
    acceptedSource config settings cache allowCertificate = some source ↔
      config.remotePeerReadOnly = false ∧ settings.runtimeWriteEnabled = true ∧
        trustPayloadFromCacheOrEnrollment cache allowCertificate = some source ∧
        PassesMetadata settings source.trustDoc := by
  rw [acceptedSource, ← validateSignedArtifactMetadata_eq_none]
  by_cases blocked : config.remotePeerReadOnly = true ∨ ¬ settings.runtimeWriteEnabled = true
  · rw [if_pos blocked]
    refine iff_of_false nofun fun ⟨ownPki, enabled, _⟩ => ?_
    rcases blocked with remote | disabled
    · exact Bool.false_ne_true (ownPki.symm.trans remote)
    · exact disabled enabled
  · rw [if_neg blocked, Option.filter_eq_some_iff, Option.isNone_iff_eq_none]
    obtain ⟨ownPki, enabled⟩ := not_or.mp blocked
    rw [Bool.not_eq_true] at ownPki
    rw [not_not] at enabled
    exact ⟨fun held => ⟨ownPki, enabled, held⟩, fun held => held.2.2⟩

/-! ## Paths of the writes -/

theorem path_of_mem_writePemCertDer {path pem : String} {file : String × List UInt8}
    (member : file ∈ writePemCertDer ssl path pem) :
    file.1 = path ∧ ssl.pemCertToDer pem = some file.2 := by
  unfold writePemCertDer at member
  split at member
  · rename_i der read
    rw [List.mem_singleton] at member
    exact ⟨congrArg Prod.fst member, member ▸ read⟩
  · cases member

theorem isFileName_numbered (index : Nat) :
    FileTree.IsFileName ("ca-chain-" ++ toString index ++ ".der") := by
  have digits : FileTree.IsNamePart (toString index) := by
    have isDigit {c : Char} (member : c ∈ (toString index).toList) : c.isDigit = true := by
      rw [Nat.toString_eq_repr, Nat.toList_repr] at member
      exact Nat.isDigit_of_mem_toDigits (by decide) (by decide) member
    exact ⟨fun slash => absurd (isDigit slash) (by decide),
      fun nul => absurd (isDigit nul) (by decide)⟩
  refine FileTree.IsFileName.append ?_ (by decide) (by decide)
  simp only [FileTree.IsNamePart, String.toList_append, List.mem_append, not_or]
  exact ⟨⟨by decide, digits.1⟩, by decide, digits.2⟩

/-- Each block of the chain has a number, and is written under it to the issuer directory and
under another name to the trusted one. -/
theorem number_of_mem_chainBlockWrites {index : Nat} {blocks : List (List Char)}
    {file : String × List UInt8} (member : file ∈ chainBlockWrites ssl config index blocks) :
    ∃ number, index ≤ number ∧
      (file.1 = FileTree.join config.issuerCerts ("ca-chain-" ++ toString number ++ ".der") ∨
        file.1 = FileTree.join config.trustedCerts
          (if number = 1 then "vault_intermediate.der" else "root_ca.der")) := by
  induction blocks generalizing index with
  | nil => cases member
  | cons block rest ih =>
      rw [chainBlockWrites] at member
      rcases List.mem_append.mp member with here | later
      · rcases List.mem_append.mp here with numbered | aliased
        · exact ⟨index, le_rfl, Or.inl (path_of_mem_writePemCertDer numbered).1⟩
        · split at aliased
          · exact ⟨index, le_rfl, Or.inr (path_of_mem_writePemCertDer aliased).1⟩
          · cases aliased
      · obtain ⟨number, above, path⟩ := ih later
        exact ⟨number, Nat.le_of_succ_le above, path⟩

/-- The chain is written to the issuer directory, and under two names to the trusted one. -/
theorem path_of_mem_chainBlockWrites {index : Nat} {blocks : List (List Char)}
    {file : String × List UInt8} (member : file ∈ chainBlockWrites ssl config index blocks) :
    (∃ name, FileTree.IsFileName name ∧ file.1 = FileTree.join config.issuerCerts name) ∨
      ∃ name ∈ ["root_ca.der", "vault_intermediate.der"],
        file.1 = FileTree.join config.trustedCerts name := by
  obtain ⟨number, _, numbered | aliased⟩ := number_of_mem_chainBlockWrites member
  · exact Or.inl ⟨_, isFileName_numbered number, numbered⟩
  · refine Or.inr ⟨_, ?_, aliased⟩
    split
    · exact List.mem_cons_of_mem _ List.mem_cons_self
    · exact List.mem_cons_self

theorem path_of_mem_applyCaChain {caChain : String} {file : String × List UInt8}
    (member : file ∈ applyCaChain ssl config caChain) :
    (∃ name, FileTree.IsFileName name ∧ file.1 = FileTree.join config.issuerCerts name) ∨
      ∃ name ∈ ["root_ca.der", "vault_intermediate.der"],
        file.1 = FileTree.join config.trustedCerts name := by
  rcases List.mem_cons.mp member with rfl | blocks
  · exact Or.inl ⟨_, ⟨by decide, by decide⟩, rfl⟩
  · exact path_of_mem_chainBlockWrites blocks

theorem path_of_mem_chainWrites {trustDoc : Json} {file : String × List UInt8}
    (member : file ∈ chainWrites ssl config trustDoc) :
    (∃ name, FileTree.IsFileName name ∧ file.1 = FileTree.join config.issuerCerts name) ∨
      ∃ name ∈ ["root_ca.der", "vault_intermediate.der"],
        file.1 = FileTree.join config.trustedCerts name := by
  unfold chainWrites at member
  split at member
  · exact path_of_mem_applyCaChain member
  · cases member

theorem path_of_mem_crlPair {name : String} {content : List UInt8} {file : String × List UInt8}
    (member : file ∈ crlPair config name content) :
    file.1 = FileTree.join config.issuerCrl name ∨
      file.1 = FileTree.join config.trustedCrl name := by
  simp only [crlPair, List.mem_cons, List.not_mem_nil, or_false] at member
  rcases member with rfl | rfl
  · exact Or.inl rfl
  · exact Or.inr rfl

/-- The names of CRL files, less their endings. -/
def crlStems : List String := ["root_ca", "vault_intermediate", "current"]

/-- Every CRL file is in one of the two CRL directories, under a name with one of two
endings. -/
theorem path_of_mem_applyCrlAlias {crlAlias crlB64 : String} {file : String × List UInt8}
    (member : file ∈ applyCrlAlias ssl config crlAlias crlB64) :
    ∃ stem ∈ [crlAlias, "current"], ∃ ending ∈ [".crl", ".crl.b64"],
      file.1 = FileTree.join config.issuerCrl (stem ++ ending) ∨
        file.1 = FileTree.join config.trustedCrl (stem ++ ending) := by
  rcases List.mem_append.mp member with text | decoded
  · exact ⟨crlAlias, List.mem_cons_self, ".crl.b64", by decide, path_of_mem_crlPair text⟩
  · split at decoded
    · cases decoded
    · rcases List.mem_append.mp decoded with der | current
      · exact ⟨crlAlias, List.mem_cons_self, ".crl", by decide, path_of_mem_crlPair der⟩
      · split at current
        · exact ⟨"current", by simp, ".crl", by decide, path_of_mem_crlPair current⟩
        · cases current

theorem path_of_mem_applyCrls {settings : GdsSettings} {trustDoc : Json} {writes : FileWrites}
    (applied : applyCrls ssl config settings trustDoc = some writes)
    {file : String × List UInt8} (member : file ∈ writes) :
    ∃ stem ∈ crlStems, ∃ ending ∈ [".crl", ".crl.b64"],
      file.1 = FileTree.join config.issuerCrl (stem ++ ending) ∨
        file.1 = FileTree.join config.trustedCrl (stem ++ ending) := by
  have inItem {crlAlias : String} {crl : Option Json} (known : crlAlias ∈ crlStems)
      (member : file ∈ applyCrlItem ssl config crlAlias crl) :
      ∃ stem ∈ crlStems, ∃ ending ∈ [".crl", ".crl.b64"],
        file.1 = FileTree.join config.issuerCrl (stem ++ ending) ∨
          file.1 = FileTree.join config.trustedCrl (stem ++ ending) := by
    unfold applyCrlItem at member
    split at member
    · obtain ⟨stem, isStem, found⟩ := path_of_mem_applyCrlAlias member
      refine ⟨stem, ?_, found⟩
      simp only [List.mem_cons, List.not_mem_nil, or_false] at isStem
      rcases isStem with rfl | rfl
      · exact known
      · decide
    · cases member
  unfold applyCrls at applied
  split at applied
  · dsimp only at applied
    split at applied
    · cases applied
    · cases applied
      rcases List.mem_append.mp member with root | intermediate
      · exact inItem (by decide) root
      · exact inItem (by decide) intermediate
  · split at applied
    · cases applied
    · cases applied
      exact inItem (by decide) member

/-- A peer file holds a listed certificate that can be read, under the name of its entry or
as the peer of the southbound side. -/
theorem mem_applyTrustedCerts {count : Nat} {entries : List Json}
    {file : String × List UInt8} (member : file ∈ applyTrustedCerts ssl config count entries) :
    ∃ cert ∈ entries, ∃ pem, valuestring? (getObjectItem cert "pem") = some pem ∧
      ssl.pemCertToDer pem = some file.2 ∧
      (file.1 = FileTree.join config.trustedCerts (certificateName cert ++ ".der") ∨
        file.1 = FileTree.join config.trustedCerts "ot_server.der") := by
  induction entries generalizing count with
  | nil => cases member
  | cons cert rest ih =>
      have inRest {count : Nat} (member : file ∈ applyTrustedCerts ssl config count rest) :
          ∃ other ∈ cert :: rest, ∃ pem, valuestring? (getObjectItem other "pem") = some pem ∧
            ssl.pemCertToDer pem = some file.2 ∧
            (file.1 = FileTree.join config.trustedCerts (certificateName other ++ ".der") ∨
              file.1 = FileTree.join config.trustedCerts "ot_server.der") := by
        obtain ⟨other, listed, found⟩ := ih member
        exact ⟨other, List.mem_cons_of_mem _ listed, found⟩
      rw [applyTrustedCerts] at member
      split at member
      · exact inRest member
      · rename_i pem hasPem
        rcases List.mem_append.mp member with own | later
        · rcases List.mem_append.mp own with named | peer
          · obtain ⟨path, read⟩ := path_of_mem_writePemCertDer named
            exact ⟨cert, List.mem_cons_self, pem, hasPem, read, Or.inl path⟩
          · split at peer
            · obtain ⟨path, read⟩ := path_of_mem_writePemCertDer peer
              exact ⟨cert, List.mem_cons_self, pem, hasPem, read, Or.inr path⟩
            · cases peer
        · exact inRest later

theorem path_of_mem_ownCertificateWrites {ownerDoc : Option Json}
    {file : String × List UInt8} (member : file ∈ ownCertificateWrites ssl config ownerDoc) :
    file.1 = config.certPath := by
  unfold ownCertificateWrites at member
  split at member
  · exact (path_of_mem_writePemCertDer member).1
  · cases member

end Writes

/-! ## Directories of a local target -/

/-- The directories of the PKI files other than the own certificate. -/
def TargetConfig.pkiDirs (config : TargetConfig) : List String :=
  [config.issuerCerts, config.issuerCrl, config.trustedCerts, config.trustedCrl]

namespace TargetConfig

variable (config : TargetConfig)

@[simp] theorem issuerCerts_mem_pkiDirs : config.issuerCerts ∈ config.pkiDirs := by simp [pkiDirs]

@[simp] theorem issuerCrl_mem_pkiDirs : config.issuerCrl ∈ config.pkiDirs := by simp [pkiDirs]

@[simp] theorem trustedCerts_mem_pkiDirs : config.trustedCerts ∈ config.pkiDirs := by
  simp [pkiDirs]

@[simp] theorem trustedCrl_mem_pkiDirs : config.trustedCrl ∈ config.pkiDirs := by simp [pkiDirs]

end TargetConfig

theorem pkiDirs_apart {target : GdsTarget} (isLocal : target.config.remotePeerReadOnly = false) :
    ∀ dir ∈ target.config.pkiDirs, ¬ dir.toList <+: target.config.certPath.toList ∧
      ∀ other ∈ target.config.pkiDirs, dir ≠ other → ¬ dir.toList <+: other.toList := by
  cases target with
  | dmzGatewayClient => decide +kernel
  | dmzGatewayServer => decide +kernel
  | otServer => cases isLocal

section Directories

variable {target : GdsTarget} (isLocal : target.config.remotePeerReadOnly = false)
include isLocal

/-- A path names its directory and its file. -/
theorem join_pkiDirs_inj {dir other name otherName : String} (member : dir ∈ target.config.pkiDirs)
    (otherMember : other ∈ target.config.pkiDirs)
    (same : FileTree.join dir name = FileTree.join other otherName) :
    dir = other ∧ name = otherName := by
  by_cases sameDir : dir = other
  · subst sameDir
    exact ⟨rfl, FileTree.join_right_inj.mp same⟩
  · have apart := (pkiDirs_apart isLocal dir member).2 other otherMember sameDir
    have apart' := (pkiDirs_apart isLocal other otherMember).2 dir member (Ne.symm sameDir)
    exact absurd same (FileTree.join_ne_of_apart apart apart' name otherName)

/-- A file of one directory is none of another. -/
theorem join_ne_join {dir other : String} (member : dir ∈ target.config.pkiDirs)
    (otherMember : other ∈ target.config.pkiDirs) (distinct : dir ≠ other)
    (name otherName : String) : FileTree.join dir name ≠ FileTree.join other otherName :=
  fun same => distinct (join_pkiDirs_inj isLocal member otherMember same).1

/-- Chain, CRLs and trusted certificates have directories of their own. -/
theorem pkiDirs_distinct :
    target.config.issuerCerts ≠ target.config.trustedCerts ∧
      (∀ dir ∈ [target.config.issuerCrl, target.config.trustedCrl],
        dir ∈ target.config.pkiDirs ∧ dir ≠ target.config.issuerCerts ∧
          dir ≠ target.config.trustedCerts) := by
  cases target with
  | dmzGatewayClient => decide +kernel
  | dmzGatewayServer => decide +kernel
  | otServer => cases isLocal

theorem certPath_ne_join_pkiDirs {dir : String} (member : dir ∈ target.config.pkiDirs)
    (name : String) : target.config.certPath ≠ FileTree.join dir name := by
  intro inDir
  apply (pkiDirs_apart isLocal dir member).1
  rw [inDir, FileTree.join, String.append_assoc, String.toList_append]
  exact List.prefix_append _ _

end Directories

/-! ## Starting up -/

/-- `load_trust_list_from_dir`: the files of a directory that are not empty, up to the order
in which the directory lists them. -/
def loadTrustListFromDir (dir : String) (tree : FileTree) : List (List UInt8) :=
  ((tree.filesIn dir).map Prod.snd).filter fun content => content != []

end OpcuaGds.Gateway
