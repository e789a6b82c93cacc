import Mathlib.Data.List.Forall2
import OpcuaGds.Gateway.ApplyCompleteness
import OpcuaGds.Gateway.TrustedCertificates

/-! # The files of the trusted certificates

Which certificates of a trust document get a file of their own: the names that
`sanitize_filename` cannot tell apart, and the aliases that the same apply writes next to them.
-/

namespace OpcuaGds.Gateway

open FileTree (join lastWritten)

/-! ## Names that the sanitiser cannot tell apart -/

/-- A byte that the sanitiser lets through. -/
def isKept (byte : UInt8) : Bool := CText.isAlnum byte || byte == 45

/-- Two bytes that the sanitiser writes alike. -/
def Interchangeable (first second : UInt8) : Prop :=
  first = second ∨ isKept first = false ∧ isKept second = false

instance (first second : UInt8) : Decidable (Interchangeable first second) :=
  inferInstanceAs (Decidable (_ ∨ _))

/-- The bytes that a name is made of; an empty text is called `certificate`. -/
def nameBytes (text : String) : List UInt8 :=
  if textBytes text = [] then textBytes "certificate" else textBytes text

/-- The first 255 bytes agree up to bytes that are neither letters nor digits nor hyphens. -/
def Collide (first second : String) : Prop :=
  List.Forall₂ Interchangeable ((nameBytes first).take 255) ((nameBytes second).take 255)

instance (first second : String) : Decidable (Collide first second) :=
  inferInstanceAs (Decidable (List.Forall₂ _ _ _))

theorem ofNat_toNat_byte (byte : UInt8) : (Char.ofNat byte.toNat).toNat = byte.toNat := by
  have all : ∀ value < 256, (Char.ofNat value).toNat = value := by decide +kernel
  exact all byte.toNat byte.toNat_lt

theorem sanitizeByte_of_kept {byte : UInt8} (kept : isKept byte = true) :
    sanitizeByte byte = Char.ofNat byte.toNat := by
  rw [isKept, Bool.or_eq_true, beq_iff_eq] at kept
  exact if_pos (kept.imp id Or.inl)

theorem sanitizeByte_of_not_kept {byte : UInt8} (dropped : isKept byte = false) :
    sanitizeByte byte = '_' := by
  rw [isKept, Bool.or_eq_false_iff, beq_eq_false_iff_ne] at dropped
  unfold sanitizeByte
  split
  · rename_i plain
    rcases plain with alnum | hyphen | underscore
    · rw [dropped.1] at alnum
      cases alnum
    · exact absurd hyphen dropped.2
    · rw [underscore]
      rfl
  · rfl

theorem sanitizeByte_eq_iff {first second : UInt8} :
    sanitizeByte first = sanitizeByte second ↔ Interchangeable first second := by
  have notUnderscore {byte : UInt8} (kept : isKept byte = true) :
      Char.ofNat byte.toNat ≠ '_' := by
    intro same
    have value := congrArg Char.toNat same
    rw [ofNat_toNat_byte] at value
    have isUnderscore : byte = 95 := UInt8.toNat_inj.mp value
    rw [isUnderscore] at kept
    exact absurd kept (by decide)
  cases firstKept : isKept first with
  | true =>
      cases secondKept : isKept second with
      | true =>
          rw [sanitizeByte_of_kept firstKept, sanitizeByte_of_kept secondKept]
          constructor
          · intro same
            have value := congrArg Char.toNat same
            rw [ofNat_toNat_byte, ofNat_toNat_byte] at value
            exact Or.inl (UInt8.toNat_inj.mp value)
          · rintro (rfl | dropped)
            · rfl
            · rw [firstKept] at dropped
              cases dropped.1
      | false =>
          rw [sanitizeByte_of_kept firstKept, sanitizeByte_of_not_kept secondKept]
          refine iff_of_false (notUnderscore firstKept) ?_
          rintro (rfl | dropped)
          · rw [firstKept] at secondKept
            cases secondKept
          · rw [firstKept] at dropped
            cases dropped.1
  | false =>
      cases secondKept : isKept second with
      | true =>
          rw [sanitizeByte_of_not_kept firstKept, sanitizeByte_of_kept secondKept]
          refine iff_of_false (notUnderscore secondKept).symm ?_
          rintro (rfl | dropped)
          · rw [firstKept] at secondKept
            cases secondKept
          · rw [secondKept] at dropped
            cases dropped.2
      | false =>
          rw [sanitizeByte_of_not_kept firstKept, sanitizeByte_of_not_kept secondKept]
          exact iff_of_true rfl (Or.inr ⟨firstKept, secondKept⟩)

theorem sanitizeFilename_eq (text : String) :
    sanitizeFilename text = String.ofList (((nameBytes text).take 255).map sanitizeByte) := by
  unfold sanitizeFilename nameBytes
  rw [← List.map_take]
  by_cases empty : textBytes text = []
  · rw [if_pos empty, empty]
    decide +kernel
  · rw [if_neg empty]
    split
    · rename_i nothing
      have none := List.map_eq_nil_iff.mp nothing
      rcases List.take_eq_nil_iff.mp none with zero | noBytes
      · cases zero
      · exact absurd noBytes empty
    · rfl

/-- Two texts get one name exactly when they collide. -/
theorem sanitizeFilename_eq_iff {first second : String} :
    sanitizeFilename first = sanitizeFilename second ↔ Collide first second := by
  rw [sanitizeFilename_eq, sanitizeFilename_eq, String.ofList_inj, Collide,
    ← List.forall₂_eq_eq_eq, List.forall₂_map_left_iff, List.forall₂_map_right_iff]
  exact ⟨fun same => same.imp fun _ _ => sanitizeByte_eq_iff.mp,
    fun same => same.imp fun _ _ => sanitizeByte_eq_iff.mpr⟩

/-! ## Certificates and their files -/

/-- A target that the gateway applies to. -/
abbrev LocalTarget := { target : GdsTarget // target.config.remotePeerReadOnly = false }

/-- An entry of a trust document with an application URI and a certificate that OpenSSL reads. -/
structure PeerCertificate (ssl : OpenSsl) where
  entry : Json
  applicationUri : String
  pem : String
  der : List UInt8
  isUri : valuestring? (getObjectItem entry "application_uri") = some applicationUri
  isPem : valuestring? (getObjectItem entry "pem") = some pem
  readable : ssl.pemCertToDer pem = some der

section Apply

variable (ssl : OpenSsl) (config : TargetConfig) (caChain : Option String)
  (certs : List (PeerCertificate ssl))

/-- What `apply_ca_chain` and `apply_trusted_certs` write in one apply. -/
def certificateWrites : FileWrites :=
  (caChain.elim [] fun text => applyCaChain ssl config text) ++
    applyTrustedCerts ssl config 0 (certs.map PeerCertificate.entry)

variable {ssl} in
/-- The file that `apply_trusted_certs` gives a certificate. -/
def PeerCertificate.file (cert : PeerCertificate ssl) : String :=
  join config.trustedCerts (certificateName cert.entry ++ ".der")

/-- Each certificate is written, and nothing else is written to its file. -/
def KeptApart : Prop :=
  ∀ cert ∈ certs, (cert.file config, cert.der) ∈ certificateWrites ssl config caChain certs ∧
    ((certificateWrites ssl config caChain certs).map Prod.fst).count (cert.file config) = 1

/-- The aliases of the certificates of a CA chain that OpenSSL reads. -/
def chainAliases : Nat → List (List Char) → List String
  | _, [] => []
  | index, block :: rest =>
      (if (ssl.pemCertToDer (String.ofList (block ++ ['\n']))).isSome then
        [if index = 1 then "vault_intermediate" else "root_ca"]
      else []) ++ chainAliases (index + 1) rest

/-- The aliases that the apply writes among the trusted certificates: on the southbound side
those of the chain, and that of the first peer. -/
def writtenAliases : List String :=
  if config.isSouthbound then
    (caChain.elim [] fun text => chainAliases ssl 1 (chainBlocks text.length text.toList)) ++
      (if certs.isEmpty then [] else ["ot_server"])
  else []

/-- No two URIs collide, and none collides with an alias that the apply writes. -/
structure NamesApart : Prop where
  distinct : certs.Pairwise fun first second =>
    ¬ Collide first.applicationUri second.applicationUri
  free : ∀ cert ∈ certs, ∀ taken ∈ writtenAliases ssl config caChain certs,
    ¬ Collide cert.applicationUri taken

end Apply

/-! ## The paths of an apply -/

section Paths

variable {ssl : OpenSsl} {config : TargetConfig} {certs : List (PeerCertificate ssl)}

/-- The file of an alias. -/
def aliasFile (config : TargetConfig) (name : String) : String :=
  join config.trustedCerts (name ++ ".der")

theorem certificateName_entry (cert : PeerCertificate ssl) :
    certificateName cert.entry = sanitizeFilename cert.applicationUri := by
  rw [certificateName, cert.isUri]
  rfl

theorem file_eq_iff {first second : PeerCertificate ssl} :
    first.file config = second.file config ↔
      Collide first.applicationUri second.applicationUri := by
  rw [PeerCertificate.file, PeerCertificate.file, FileTree.join_right_inj, String.append_left_inj,
    certificateName_entry, certificateName_entry, sanitizeFilename_eq_iff]

/-- The aliases are names that the sanitiser leaves alone. -/
theorem file_eq_aliasFile_iff {cert : PeerCertificate ssl} {taken : String}
    (isAlias : taken ∈ ["vault_intermediate", "root_ca", "ot_server"]) :
    cert.file config = aliasFile config taken ↔ Collide cert.applicationUri taken := by
  have plain : ∀ name ∈ ["vault_intermediate", "root_ca", "ot_server"],
      sanitizeFilename name = name := by decide +kernel
  rw [PeerCertificate.file, aliasFile, FileTree.join_right_inj, String.append_left_inj,
    certificateName_entry, ← sanitizeFilename_eq_iff, plain taken isAlias]

theorem writePemCertDer_entry (cert : PeerCertificate ssl) (path : String) :
    writePemCertDer ssl path cert.pem = [(path, cert.der)] := by
  rw [writePemCertDer, cert.readable]

/-- The certificates after the first one are written to their files. -/
theorem applyTrustedCerts_later (count : Nat) :
    applyTrustedCerts ssl config (count + 1) (certs.map PeerCertificate.entry) =
      certs.map fun cert => (cert.file config, cert.der) := by
  induction certs generalizing count with
  | nil => rfl
  | cons cert rest ih =>
      rw [List.map_cons, applyTrustedCerts, cert.isPem]
      dsimp only
      rw [writePemCertDer_entry, if_neg fun first => absurd first.2 (Nat.succ_ne_zero count), ih]
      rfl

/-- All certificates are, and the first one to the alias of the peer too. -/
theorem applyTrustedCerts_perm :
    (applyTrustedCerts ssl config 0 (certs.map PeerCertificate.entry)).Perm
      (certs.map (fun cert => (cert.file config, cert.der)) ++
        if config.isSouthbound then
          certs.head?.toList.map fun cert => (aliasFile config "ot_server", cert.der)
        else []) := by
  cases certs with
  | nil => exact (by simp [applyTrustedCerts])
  | cons cert rest =>
      rw [List.map_cons, applyTrustedCerts, cert.isPem]
      dsimp only
      rw [writePemCertDer_entry, writePemCertDer_entry, applyTrustedCerts_later]
      cases config.isSouthbound with
      | false =>
          rw [if_neg fun here => Bool.false_ne_true here.1, if_neg Bool.false_ne_true,
            List.append_nil, List.append_nil]
          exact List.Perm.refl _
      | true =>
          rw [if_pos ⟨rfl, rfl⟩, if_pos rfl]
          exact List.Perm.cons _ (List.perm_append_singleton _ _).symm

theorem mem_paths_writePemCertDer {path other pem : String} :
    other ∈ (writePemCertDer ssl path pem).map Prod.fst ↔
      (ssl.pemCertToDer pem).isSome = true ∧ other = path := by
  unfold writePemCertDer
  cases ssl.pemCertToDer pem <;> simp

/-- Among the trusted certificates the chain is written under its aliases only. -/
theorem mem_chainBlockWrites {target : LocalTarget} {index : Nat} {blocks : List (List Char)}
    {name : String} :
    join target.1.config.trustedCerts name ∈
        (chainBlockWrites ssl target.1.config index blocks).map Prod.fst ↔
      target.1.config.isSouthbound = true ∧ join target.1.config.trustedCerts name ∈
        (chainAliases ssl index blocks).map (aliasFile target.1.config) := by
  induction blocks generalizing index with
  | nil => simp [chainBlockWrites, chainAliases]
  | cons block rest ih =>
      have aliasName : (if index = 1 then "vault_intermediate.der" else "root_ca.der") =
          (if index = 1 then "vault_intermediate" else "root_ca") ++ ".der" := by
        split <;> rfl
      have notNumbered (number : String) : join target.1.config.trustedCerts name ≠
          join target.1.config.issuerCerts number := (issuer_ne_trusted target.2 _ _).symm
      rw [chainBlockWrites, chainAliases]
      generalize String.ofList (block ++ ['\n']) = pem
      rw [List.map_append, List.map_append, List.mem_append, List.mem_append, ih,
        mem_paths_writePemCertDer, List.map_append, List.mem_append]
      cases target.1.config.isSouthbound with
      | false =>
          refine iff_of_false ?_ fun here => Bool.false_ne_true here.1
          rintro ((numbered | here) | later)
          · exact notNumbered _ numbered.2
          · cases here
          · exact Bool.false_ne_true later.1
      | true =>
          rw [if_pos rfl, mem_paths_writePemCertDer, aliasName]
          cases (ssl.pemCertToDer pem).isSome with
          | false => simp
          | true => simp [notNumbered, aliasFile]

/-- What the apply writes to a file of the trusted certificates, beside them. -/
theorem mem_applyCaChain {target : LocalTarget} {caChain name : String} :
    join target.1.config.trustedCerts name ∈
        (applyCaChain ssl target.1.config caChain).map Prod.fst ↔
      target.1.config.isSouthbound = true ∧ join target.1.config.trustedCerts name ∈
        (chainAliases ssl 1 (chainBlocks caChain.length caChain.toList)).map
          (aliasFile target.1.config) := by
  rw [applyCaChain, List.map_cons, List.mem_cons, mem_chainBlockWrites]
  exact or_iff_right (issuer_ne_trusted target.2 _ _).symm

/-- The aliases of a chain. -/
theorem isAlias_of_mem_chainAliases {index : Nat} {blocks : List (List Char)} {taken : String}
    (member : taken ∈ chainAliases ssl index blocks) :
    taken ∈ ["vault_intermediate", "root_ca", "ot_server"] := by
  induction blocks generalizing index with
  | nil => cases member
  | cons block rest ih =>
      rcases List.mem_append.mp member with here | later
      · split at here
        · rw [List.mem_singleton.mp here]
          split <;> simp
        · cases here
      · exact ih later

theorem isAlias_of_mem_writtenAliases {caChain : Option String} {taken : String}
    (member : taken ∈ writtenAliases ssl config caChain certs) :
    taken ∈ ["vault_intermediate", "root_ca", "ot_server"] := by
  unfold writtenAliases at member
  split at member
  · rcases List.mem_append.mp member with chain | peer
    · cases caChain with
      | none => cases chain
      | some text => exact isAlias_of_mem_chainAliases chain
    · split at peer
      · cases peer
      · rw [List.mem_singleton.mp peer]
        simp
  · cases member

end Paths

/-! ## When the certificates are kept apart -/

section KeptApart

variable (ssl : OpenSsl) (target : LocalTarget) (caChain : Option String)
  (certs : List (PeerCertificate ssl))

/-- The paths that the apply writes besides the files of the certificates. -/
def otherPaths : List String :=
  (caChain.elim [] fun text => applyCaChain ssl target.1.config text).map Prod.fst ++
    if target.1.config.isSouthbound then
      certs.head?.toList.map fun _ => aliasFile target.1.config "ot_server"
    else []

variable {ssl target caChain certs}

theorem paths_perm :
    ((certificateWrites ssl target.1.config caChain certs).map Prod.fst).Perm
      (certs.map (PeerCertificate.file target.1.config) ++
        otherPaths ssl target caChain certs) := by
  have trusted : ((applyTrustedCerts ssl target.1.config 0
      (certs.map PeerCertificate.entry)).map Prod.fst).Perm
        (certs.map (PeerCertificate.file target.1.config) ++
          if target.1.config.isSouthbound then
            certs.head?.toList.map fun _ => aliasFile target.1.config "ot_server"
          else []) := by
    refine (applyTrustedCerts_perm.map Prod.fst).trans (List.Perm.of_eq ?_)
    rw [List.map_append, List.map_map, apply_ite (List.map Prod.fst), List.map_map]
    rfl
  rw [certificateWrites, List.map_append]
  exact (trusted.append_left _).trans (List.perm_append_comm_assoc _ _ _)

/-- A file of the certificates is written besides them when its name is a written alias. -/
theorem mem_otherPaths {name : String} :
    join target.1.config.trustedCerts name ∈ otherPaths ssl target caChain certs ↔
      join target.1.config.trustedCerts name ∈
        (writtenAliases ssl target.1.config caChain certs).map (aliasFile target.1.config) := by
  have chain : join target.1.config.trustedCerts name ∈
      (caChain.elim [] fun text => applyCaChain ssl target.1.config text).map Prod.fst ↔
        target.1.config.isSouthbound = true ∧ join target.1.config.trustedCerts name ∈
          (caChain.elim [] fun text =>
            chainAliases ssl 1 (chainBlocks text.length text.toList)).map
              (aliasFile target.1.config) := by
    cases caChain with
    | none => simp
    | some text => exact mem_applyCaChain
  rw [otherPaths, writtenAliases, List.mem_append, chain]
  cases target.1.config.isSouthbound with
  | false => simp
  | true =>
      rw [if_pos rfl, if_pos rfl, List.map_append, List.mem_append]
      cases certs <;> simp

theorem mem_certificateWrites {cert : PeerCertificate ssl} (member : cert ∈ certs) :
    (cert.file target.1.config, cert.der) ∈
      certificateWrites ssl target.1.config caChain certs := by
  refine List.mem_append_right _ (applyTrustedCerts_perm.mem_iff.mpr ?_)
  exact List.mem_append_left _ (List.mem_map.mpr ⟨cert, member, rfl⟩)

/-- Nothing else is written to the file of a certificate when no other certificate has it, and
no alias is it. -/
theorem count_paths_eq_one_iff {cert : PeerCertificate ssl} (member : cert ∈ certs) :
    ((certificateWrites ssl target.1.config caChain certs).map Prod.fst).count
        (cert.file target.1.config) = 1 ↔
      (certs.map (PeerCertificate.file target.1.config)).count (cert.file target.1.config) = 1 ∧
        cert.file target.1.config ∉ otherPaths ssl target caChain certs := by
  have present : 0 < (certs.map (PeerCertificate.file target.1.config)).count
      (cert.file target.1.config) :=
    List.count_pos_iff.mpr (List.mem_map_of_mem member)
  rw [paths_perm.count_eq, List.count_append, ← List.count_eq_zero]
  omega

variable (ssl target caChain certs) in
/-- The trusted certificates are kept apart exactly when the first 255 bytes of their URIs differ
in more than bytes that the sanitiser replaces, among each other and from the written aliases. -/
theorem keptApart_iff :
    KeptApart ssl target.1.config caChain certs ↔
      NamesApart ssl target.1.config caChain certs := by
  have apart : (∀ cert ∈ certs, (certs.map (PeerCertificate.file target.1.config)).count
      (cert.file target.1.config) = 1) ↔
        certs.Pairwise fun first second =>
          ¬ Collide first.applicationUri second.applicationUri := by
    rw [← List.forall_mem_map (P := fun path =>
      (certs.map (PeerCertificate.file target.1.config)).count path = 1),
      ← List.nodup_iff_count_eq_one, List.Nodup, List.pairwise_map]
    simp only [ne_eq, file_eq_iff]
  have free (cert : PeerCertificate ssl) :
      cert.file target.1.config ∉ otherPaths ssl target caChain certs ↔
        ∀ taken ∈ writtenAliases ssl target.1.config caChain certs,
          ¬ Collide cert.applicationUri taken := by
    rw [PeerCertificate.file, mem_otherPaths, List.mem_map, not_exists]
    refine forall_congr' fun taken => ?_
    rw [not_and]
    refine forall_congr' fun member => not_congr ?_
    rw [← file_eq_aliasFile_iff (isAlias_of_mem_writtenAliases member)]
    exact eq_comm
  constructor
  · intro kept
    have counts (cert : PeerCertificate ssl) (member : cert ∈ certs) :=
      (count_paths_eq_one_iff member).mp (kept cert member).2
    exact ⟨apart.mp fun cert member => (counts cert member).1,
      fun cert member => (free cert).mp (counts cert member).2⟩
  · intro names cert member
    refine ⟨mem_certificateWrites member, (count_paths_eq_one_iff member).mpr ?_⟩
    exact ⟨apart.mpr names.distinct cert member, (free cert).mpr (names.free cert member)⟩

/-- Certificates that are kept apart stand in their files when all that an apply of the document
writes is written. -/
theorem lastWritten_of_keptApart {source : TrustSource}
    (entries : certificateEntries source.trustDoc = certs.map PeerCertificate.entry)
    (kept : KeptApart ssl target.1.config caChain certs) {cert : PeerCertificate ssl}
    (member : cert ∈ certs) :
    lastWritten (documentWrites ssl target.1.config source) (cert.file target.1.config) =
      some cert.der := by
  have distinct : (certs.map (PeerCertificate.file target.1.config)).Nodup := by
    rw [List.Nodup, List.pairwise_map]
    simp only [ne_eq, file_eq_iff]
    exact ((keptApart_iff ssl target caChain certs).mp kept).distinct
  have agree : NamesAgree ssl source.trustDoc := by
    rw [NamesAgree, entries]
    intro first firstListed second secondListed sameName pem hasPem otherPem hasOther
    obtain ⟨first, firstMember, rfl⟩ := List.mem_map.mp firstListed
    obtain ⟨second, secondMember, rfl⟩ := List.mem_map.mp secondListed
    have sameFile : first.file target.1.config = second.file target.1.config := by
      rw [PeerCertificate.file, sameName, PeerCertificate.file]
    have same := List.inj_on_of_nodup_map distinct firstMember secondMember sameFile
    rw [same, hasOther] at hasPem
    rw [Option.some.inj hasPem]
  have listed : (cert.file target.1.config, some cert.der) ∈
      documentFiles ssl target.1.config source.trustDoc := by
    refine List.mem_append_right _ (List.mem_filterMap.mpr ⟨cert.entry, ?_, ?_⟩)
    · rw [entries]
      exact List.mem_map_of_mem member
    · rw [certificateFile, cert.isPem, Option.map_some, cert.readable]
      rfl
  exact lastWritten_documentWrites target.2 agree listed rfl

end KeptApart

/-! A southbound apply of a chain of two certificates and three peers. -/

def peerCertificate (uri : String)
    (isUri : valuestring? (getObjectItem (peerEntry uri) "application_uri") = some uri)
    (isPem : valuestring? (getObjectItem (peerEntry uri) "pem") = some uri) :
    PeerCertificate peerSsl where
  entry := peerEntry uri
  applicationUri := uri
  pem := uri
  der := textBytes uri
  isUri := isUri
  isPem := isPem
  readable := rfl

def collidingPeers : List (PeerCertificate peerSsl) :=
  [peerCertificate "urn:a:b" (by decide +kernel) (by decide +kernel),
    peerCertificate "urn:a_b" (by decide +kernel) (by decide +kernel),
    peerCertificate "root_ca" (by decide +kernel) (by decide +kernel)]

def twoBlocks : String :=
  "-----BEGIN CERTIFICATE-----1-----END CERTIFICATE-----" ++
    "-----BEGIN CERTIFICATE-----2-----END CERTIFICATE-----"

/-- Two peers of different URIs are written to one file, and the third to the alias of the root
certificate. -/
theorem colliding_peers_overwritten :
    (collidingPeers.map PeerCertificate.applicationUri).Nodup ∧
      (certificateWrites peerSsl GdsTarget.dmzGatewayClient.config (some twoBlocks)
        collidingPeers).map Prod.fst =
        ["/app/pki/southbound/issuer/certs/ca-chain.pem",
          "/app/pki/southbound/issuer/certs/ca-chain-1.der",
          "/app/pki/southbound/trusted/certs/vault_intermediate.der",
          "/app/pki/southbound/issuer/certs/ca-chain-2.der",
          "/app/pki/southbound/trusted/certs/root_ca.der",
          "/app/pki/southbound/trusted/certs/urn_a_b.der",
          "/app/pki/southbound/trusted/certs/ot_server.der",
          "/app/pki/southbound/trusted/certs/urn_a_b.der",
          "/app/pki/southbound/trusted/certs/root_ca.der"] ∧
      ¬ KeptApart peerSsl GdsTarget.dmzGatewayClient.config (some twoBlocks) collidingPeers := by
  refine ⟨by decide +kernel, by decide +kernel, fun kept => ?_⟩
  have once := (kept _ List.mem_cons_self).2
  exact absurd once (by decide +kernel)

end OpcuaGds.Gateway
