import OpcuaGds.Agent.PackageVerification

/-! # Component manifests

`_component_manifest_for_target`: how `component_apply_trust_once` prepares the
manifest of an enrollment for a target before it verifies the manifest, and for which
targets a package that GDS issued is still accepted.
-/

namespace OpcuaGds.Agent

open Gds (Crypto TrustArtifactSigner PackageMaterial PreviousPackage packageManifest
  packageSignaturePayload signedPackageRow)

/-- `dict(value if isinstance(value, dict) else {})`. -/
def dictOrEmpty : Option Json → List (String × Json)
  | some (.obj fields) => fields
  | _ => []

/-- `setdefault`. -/
def setDefault (key : String) (value : Json) (fields : List (String × Json)) :
    List (String × Json) :=
  if (fields.lookup key).isSome then fields else Json.setField key value fields

/-- The targets whose layout is rewritten. -/
def isGatewayTarget (target : String) : Bool :=
  target == "dmz-gateway-client" || target == "dmz-gateway-server"

/-- The path that the layout of a gateway target gets for its own certificate. -/
def gatewayCertificatePath (target : String) : String :=
  if target = "dmz-gateway-client" then "own/certs/client.der" else "own/certs/server.der"

/-- The entries that the layout of a gateway target gets when it lacks them. -/
def gatewayLayoutDefaults : List (String × String) :=
  [("issuer_chain", "issuer/certs/ca-chain.pem"),
    ("issuer_crl", "issuer/crl/current.crl.b64"),
    ("trusted_certs_dir", "trusted/certs"),
    ("trusted_crl_dir", "trusted/crl")]

/-- The layout of a gateway target. -/
def gatewayLayout (target : String) (layout : List (String × Json)) : List (String × Json) :=
  gatewayLayoutDefaults.foldl (fun layout entry => setDefault entry.1 (.str entry.2) layout)
    (Json.setField "application_certificate" (.str (gatewayCertificatePath target)) layout)

/-- `_component_manifest_for_target`. -/
def componentManifestForTarget (target : String) (enrollment : Json) : Except Failure Json := do
  let manifest := dictOrEmpty (enrollment.field? "manifest")
  ensure (manifest ≠ []) "component_enrollment_manifest_missing"
  if isGatewayTarget target then
    let installPlan := dictOrEmpty (manifest.lookup "install_plan")
    let targetLayout := dictOrEmpty (installPlan.lookup "target_layout")
    let installPlan :=
      Json.setField "target_layout" (.obj (gatewayLayout target targetLayout)) installPlan
    .ok (.obj (Json.setField "install_plan" (.obj installPlan) manifest))
  else .ok (.obj manifest)

section Verification

variable {PrivateKey PublicKey : Type} (crypto : Crypto PrivateKey PublicKey)

/-- The part of `component_apply_trust_once` that prepares and verifies the manifest of
an enrollment result. -/
def verifyComponentManifest (target : String) (enrollment : Json) (trustAnchorPub : PublicKey)
    (trustAnchorFp : String) : Except Failure String := do
  let manifest ← componentManifestForTarget target enrollment
  let signature := Json.obj (dictOrEmpty (enrollment.field? "signature"))
  verifyCertificatePackageManifest crypto manifest signature trustAnchorPub trustAnchorFp

end Verification

/-! ## Layouts -/

theorem lookup_setDefault_of_ne {key other : String} (distinct : other ≠ key) (value : Json)
    (fields : List (String × Json)) :
    (setDefault key value fields).lookup other = fields.lookup other := by
  unfold setDefault
  split
  · rfl
  · exact Json.lookup_setField_of_ne distinct value fields

/-- Every default is there in the end, and no entry is lost. -/
theorem isSome_setDefault {key other : String} (value : Json) {fields : List (String × Json)}
    (present : other = key ∨ (fields.lookup other).isSome) :
    ((setDefault key value fields).lookup other).isSome := by
  by_cases same : other = key
  · subst same
    unfold setDefault
    split
    · assumption
    · rw [Json.lookup_setField_self]
      rfl
  · rw [lookup_setDefault_of_ne same]
    exact present.resolve_left same

section Defaults

variable {defaults : List (String × String)} {fields : List (String × Json)}

theorem lookup_foldl_setDefault {key : String} (other : ∀ entry ∈ defaults, key ≠ entry.1) :
    (defaults.foldl (fun layout entry => setDefault entry.1 (.str entry.2) layout)
      fields).lookup key = fields.lookup key := by
  induction defaults generalizing fields with
  | nil => rfl
  | cons entry rest ih =>
      rw [List.foldl_cons, ih fun later member => other later (List.mem_cons_of_mem _ member)]
      exact lookup_setDefault_of_ne (other entry List.mem_cons_self) _ _

theorem isSome_foldl_setDefault {key : String}
    (present : (∃ entry ∈ defaults, key = entry.1) ∨ (fields.lookup key).isSome) :
    ((defaults.foldl (fun layout entry => setDefault entry.1 (.str entry.2) layout)
      fields).lookup key).isSome := by
  induction defaults generalizing fields with
  | nil =>
      rcases present with ⟨entry, member, _⟩ | present
      · cases member
      · exact present
  | cons entry rest ih =>
      rw [List.foldl_cons]
      apply ih
      rcases present with ⟨found, member, rfl⟩ | present
      · rcases List.mem_cons.mp member with rfl | later
        · exact Or.inr (isSome_setDefault _ (Or.inl rfl))
        · exact Or.inl ⟨found, later, rfl⟩
      · exact Or.inr (isSome_setDefault _ (Or.inr present))

/-- Defaults that are all there change nothing. -/
theorem foldl_setDefault_of_isSome
    (present : ∀ entry ∈ defaults, (fields.lookup entry.1).isSome) :
    defaults.foldl (fun layout entry => setDefault entry.1 (.str entry.2) layout) fields =
      fields := by
  induction defaults with
  | nil => rfl
  | cons entry rest ih =>
      rw [List.foldl_cons, setDefault, if_pos (present entry List.mem_cons_self)]
      exact ih fun later member => present later (List.mem_cons_of_mem _ member)

end Defaults

/-- A layout that the preparation for the target leaves as it is. -/
def LayoutFits (target : String) (layout : List (String × Json)) : Prop :=
  layout.lookup "application_certificate" = some (.str (gatewayCertificatePath target)) ∧
    ∀ entry ∈ gatewayLayoutDefaults, (layout.lookup entry.1).isSome

theorem gatewayLayout_of_fits {target : String} {layout : List (String × Json)}
    (fits : LayoutFits target layout) : gatewayLayout target layout = layout := by
  rw [gatewayLayout, Json.setField_of_lookup fits.1]
  exact foldl_setDefault_of_isSome fits.2

/-- The preparation always ends in a layout that fits. -/
theorem gatewayLayout_fits (target : String) (layout : List (String × Json)) :
    LayoutFits target (gatewayLayout target layout) := by
  constructor
  · have apart : ∀ entry ∈ gatewayLayoutDefaults, "application_certificate" ≠ entry.1 := by
      decide
    rw [gatewayLayout, lookup_foldl_setDefault apart, Json.lookup_setField_self]
  · intro entry member
    exact isSome_foldl_setDefault (Or.inl ⟨entry, member, rfl⟩)

/-- Whether a layout fits does not depend on the order of its entries. -/
theorem LayoutFits.of_agrees {target : String} {left right : List (String × Json)}
    (agrees : Json.Agrees (.obj left) (.obj right)) (fits : LayoutFits target right) :
    LayoutFits target left := by
  constructor
  · exact agrees.field?_scalar fits.1 rfl
  · intro entry member
    exact (agrees.isSome_field? entry.1).trans (fits.2 entry member)

/-! ## Issued manifests -/

section Agreement

variable {PrivateKey PublicKey : Type} {crypto : Crypto PrivateKey PublicKey}
  {signer : TrustArtifactSigner PrivateKey} {material : PackageMaterial}
  {previous : Option PreviousPackage} {fields : List (String × Json)} {target : String}

theorem dictOrEmpty_obj (fields : List (String × Json)) :
    dictOrEmpty (some (.obj fields)) = fields :=
  rfl

/-- The layout in the install plan of a manifest whose canonical form is the signed one. -/
theorem signed_target_layout
    (agrees : Json.Agrees (canonicalPackageManifest (.obj fields))
      (.obj (Gds.manifestFields crypto signer material previous))) :
    ∃ plan layout, fields.lookup "install_plan" = some (.obj plan) ∧
      plan.lookup "target_layout" = some (.obj layout) ∧
      Json.Agrees (.obj layout) (.obj material.adapter.trustStoreLayout) := by
  obtain ⟨plan, planFound, planAgrees⟩ :=
    signed_field?_eq_some agrees (show "install_plan" ≠ "signature" by decide) (by decide) rfl
  have signedLayout (layout : Gds.PackageLayout) (compatibility : Gds.RuntimeCompatibility) :
      (material.adapter.generateInstallPlan layout compatibility).field? "target_layout" =
        some (.obj layout.layout) := rfl
  obtain ⟨layout, layoutFound, layoutAgrees⟩ := planAgrees.field?_eq_some (signedLayout _ _)
  cases plan with
  | obj planFields =>
      cases layout with
      | obj layoutFields => exact ⟨planFields, layoutFields, planFound, layoutFound, layoutAgrees⟩
      | _ => cases layoutAgrees.isObject
  | _ => cases planAgrees.isObject

/-- What the preparation for a gateway target makes of a manifest with a layout. -/
theorem componentManifestForTarget_gateway {enrollment : Json}
    {plan layout : List (String × Json)} (isGateway : isGatewayTarget target = true)
    (manifest : enrollment.field? "manifest" = some (.obj fields))
    (planFound : fields.lookup "install_plan" = some (.obj plan))
    (layoutFound : plan.lookup "target_layout" = some (.obj layout)) :
    componentManifestForTarget target enrollment =
      .ok (.obj (Json.setField "install_plan" (.obj
        (Json.setField "target_layout" (.obj (gatewayLayout target layout)) plan)) fields)) := by
  have nonempty : fields ≠ [] := by
    rintro rfl
    cases planFound
  unfold componentManifestForTarget
  rw [manifest, dictOrEmpty_obj, Fallible.bind_eq_ok]
  refine ⟨(), ensure_eq_ok.mpr nonempty, ?_⟩
  simp only [isGateway, if_true, planFound, layoutFound, dictOrEmpty_obj]

theorem componentManifestForTarget_other {enrollment : Json}
    (notGateway : isGatewayTarget target = false)
    (manifest : enrollment.field? "manifest" = some (.obj fields)) (nonempty : fields ≠ []) :
    componentManifestForTarget target enrollment = .ok (.obj fields) := by
  unfold componentManifestForTarget
  rw [manifest, dictOrEmpty_obj, Fallible.bind_eq_ok]
  refine ⟨(), ensure_eq_ok.mpr nonempty, ?_⟩
  rw [if_neg (Bool.eq_false_iff.mp notGateway)]

/-- A prepared manifest that still has the signed canonical form was not changed by the
preparation. -/
theorem fits_of_signed {plan layout : List (String × Json)}
    (agrees : Json.Agrees (canonicalPackageManifest (.obj (Json.setField "install_plan" (.obj
        (Json.setField "target_layout" (.obj (gatewayLayout target layout)) plan)) fields)))
      (.obj (Gds.manifestFields crypto signer material previous))) :
    LayoutFits target material.adapter.trustStoreLayout := by
  obtain ⟨signedPlan, signedLayout, planFound, layoutFound, same⟩ := signed_target_layout agrees
  rw [Json.lookup_setField_self, Option.some.injEq, Json.obj.injEq] at planFound
  subst planFound
  rw [Json.lookup_setField_self, Option.some.injEq, Json.obj.injEq] at layoutFound
  subst layoutFound
  exact (gatewayLayout_fits target layout).of_agrees same.symm

variable (crypto signer material previous) in
/-- A package that GDS issued is verified for a target exactly when the target is not one
of the gateway targets, or its layout in the signed install plan is already the one that
the preparation produces. -/
theorem component_manifest_verified_iff (ideal : crypto.scheme.Ideal)
    (hexDigests : ∀ bytes, (crypto.sha256Hex bytes).length = 64)
    {stored received record enrollment : Json}
    (storedAgrees : Json.Agrees stored (packageManifest crypto signer material previous))
    (carried : PackageCarried (packageManifest crypto signer material previous) received)
    (recordAgrees : Json.Agrees record
      (packageSignaturePayload (signedPackageRow crypto signer material previous stored)))
    (manifestIs : enrollment.field? "manifest" = some received)
    (signatureIs : enrollment.field? "signature" = some record) (target : String) :
    let trustAnchorPub := crypto.scheme.publicKey signer.privateKey
    let trustAnchorFp := crypto.sha256Hex (crypto.publicKeyDer trustAnchorPub)
    (∃ digest, verifyComponentManifest crypto target enrollment trustAnchorPub trustAnchorFp =
        .ok digest) ↔
      (target = "dmz-gateway-client" ∨ target = "dmz-gateway-server" →
        LayoutFits target material.adapter.trustStoreLayout) := by
  intro trustAnchorPub trustAnchorFp
  have unchanged := (accepted_iff ideal hexDigests storedAgrees recordAgrees).mpr
    ⟨carried.agrees, carried.lowerField_hash, rfl⟩
  have agrees := carried.agrees
  have recordObject : record.isObject = true := recordAgrees.isObject
  have isGateway : isGatewayTarget target = true ↔
      target = "dmz-gateway-client" ∨ target = "dmz-gateway-server" := by
    simp [isGatewayTarget]
  obtain ⟨fields, rfl, -⟩ := carried
  obtain ⟨signatureFields, rfl⟩ : ∃ fields, record = .obj fields := by
    cases record with
    | obj fields => exact ⟨fields, rfl⟩
    | _ => cases recordObject
  obtain ⟨plan, layout, planFound, layoutFound, layoutAgrees⟩ := signed_target_layout agrees
  have nonempty : fields ≠ [] := by
    rintro rfl
    cases planFound
  simp only [verifyComponentManifest, Fallible.bind_eq_ok, signatureIs, dictOrEmpty_obj,
    ← isGateway]
  constructor
  · rintro ⟨digest, prepared, built, accepted⟩ gateway
    rw [componentManifestForTarget_gateway gateway manifestIs planFound layoutFound,
      Except.ok.injEq] at built
    subst built
    exact fits_of_signed ((accepted_iff ideal hexDigests storedAgrees recordAgrees).mp accepted).1
  · intro fits
    refine ⟨_, .obj fields, ?_, unchanged⟩
    cases gateway : isGatewayTarget target with
    | false => exact componentManifestForTarget_other gateway manifestIs nonempty
    | true =>
        have stays := gatewayLayout_of_fits ((fits gateway).of_agrees layoutAgrees)
        rw [componentManifestForTarget_gateway gateway manifestIs planFound layoutFound, stays,
          Json.setField_of_lookup layoutFound, Json.setField_of_lookup planFound]

end Agreement

/-- The enrollment result of the example package. -/
def exampleEnrollment : Json :=
  .obj [("manifest", exampleManifest), ("signature", exampleRecord)]

/-- The example package is verified for a target whose layout is left alone. -/
theorem fuxa_package_verified :
    ∃ digest, verifyComponentManifest Gds.digestCrypto "fuxa" exampleEnrollment ()
      (Gds.digestCrypto.sha256Hex (Gds.digestCrypto.publicKeyDer ())) = .ok digest := by
  have carried : PackageCarried exampleManifest exampleManifest := ⟨_, rfl, rfl⟩
  have manifestIs : exampleEnrollment.field? "manifest" = some exampleManifest := rfl
  have signatureIs : exampleEnrollment.field? "signature" = some exampleRecord := rfl
  have verified := component_manifest_verified_iff Gds.digestCrypto exampleSigner exampleMaterial
    none Gds.digestCrypto_ideal Gds.digestCrypto_length (Json.Agrees.refl _) carried
    (Json.Agrees.refl exampleRecord) manifestIs signatureIs "fuxa"
  exact verified.mpr fun gateway => absurd gateway (by decide)

/-- The same package is refused for the gateway client it was issued for. -/
theorem gateway_client_package_refused :
    ¬∃ digest, verifyComponentManifest Gds.digestCrypto "dmz-gateway-client" exampleEnrollment ()
      (Gds.digestCrypto.sha256Hex (Gds.digestCrypto.publicKeyDer ())) = .ok digest := by
  rintro ⟨digest, verified⟩
  rw [verifyComponentManifest, Fallible.bind_eq_ok] at verified
  obtain ⟨prepared, built, accepted⟩ := verified
  rw [componentManifestForTarget_gateway rfl rfl rfl rfl, Except.ok.injEq] at built
  subst built
  have agrees := (accepted_iff Gds.digestCrypto_ideal Gds.digestCrypto_length
    (Json.Agrees.refl _) (Json.Agrees.refl exampleRecord)).mp accepted
  have path := (fits_of_signed agrees.1).1
  have texts : Json.str "own/certs/application.pem" = .str "own/certs/client.der" :=
    Option.some.inj path
  rw [Json.str.injEq] at texts
  exact absurd texts (by decide)

end OpcuaGds.Agent
