import OpcuaGds.Foundation.JsonText
import OpcuaGds.Foundation.TimestampText
import OpcuaGds.Foundation.Base64
import OpcuaGds.Foundation.Signature
import OpcuaGds.Foundation.JsonPython
import OpcuaGds.Gds.ArtifactConcurrency
import OpcuaGds.Gds.Revocation
import OpcuaGds.Agent.ArtifactAgreement
import OpcuaGds.Agent.TrustAnchor
import OpcuaGds.Agent.SignedSync
import OpcuaGds.Agent.ReplayProtection
import OpcuaGds.Agent.StageMaterial
import OpcuaGds.Agent.SignedMaterial
import OpcuaGds.Agent.MaterialProbe
import OpcuaGds.Gds.TrustListStore
import OpcuaGds.Gds.CertificateStore
import OpcuaGds.Gds.Expiry
import OpcuaGds.Agent.PackageVerification
import OpcuaGds.Agent.ComponentManifest
import OpcuaGds.Gds.Issuance
import OpcuaGds.Gds.PackageLineage
import OpcuaGds.Gds.IssuanceOutcome
import OpcuaGds.Gds.AgentAuth
import OpcuaGds.Gds.AgentScope
import OpcuaGds.Agent.Approvals
import OpcuaGds.Agent.MaintenanceWindow
import OpcuaGds.Agent.ActivationGate
import OpcuaGds.Agent.PlanApprovals
import OpcuaGds.Agent.ComponentTrust
import OpcuaGds.Agent.ComponentReplay
import OpcuaGds.Foundation.CText
import OpcuaGds.Foundation.FileWrites
import OpcuaGds.Gateway.TrustDocument
import OpcuaGds.Gateway.TrustApply
import OpcuaGds.Gateway.DocumentAuthenticity
import OpcuaGds.Gateway.TrustedCertificates
import OpcuaGds.Agent.ActivationEntry
import OpcuaGds.Gateway.ClientCommands
import OpcuaGds.Gateway.Lifecycle
import OpcuaGds.Gateway.ReportedTrust
import OpcuaGds.Gds.AuditForwarding
import OpcuaGds.Agent.RuntimeActivation
import OpcuaGds.Agent.ActivationAtomicity
import OpcuaGds.Agent.RollbackSnapshot
import OpcuaGds.Agent.StageAtomicity
import OpcuaGds.Agent.PackageStage
import OpcuaGds.Agent.CrlNames
import OpcuaGds.Agent.SharedCrl
import OpcuaGds.Gateway.ApplyCompleteness
import OpcuaGds.Gateway.ApplyOrder
import OpcuaGds.Gateway.LifecycleLock
import OpcuaGds.Gds.CsrValidation
import OpcuaGds.Gds.DuplicateCsr
import OpcuaGds.Gds.DryRun
import OpcuaGds.Gds.ProxyBoundary
import OpcuaGds.Gds.AgentGrants
import OpcuaGds.Gds.RevocationEffects
import OpcuaGds.Gds.RevocationRetry
import OpcuaGds.Gateway.Southbound
import OpcuaGds.Gds.ActiveCertificate
import OpcuaGds.Gds.ArtifactCoherence
import OpcuaGds.Gds.CrlFreshness
import OpcuaGds.Agent.RuntimeComparison
import OpcuaGds.Agent.KeyPaths
import OpcuaGds.Agent.ActivationSuccess
import OpcuaGds.Agent.MergePlan
import OpcuaGds.Agent.RuntimeFrame
import OpcuaGds.Agent.ActivationCommands
import OpcuaGds.Agent.StageEvidence
import OpcuaGds.Agent.PackageOwner
import OpcuaGds.Agent.PackagePull
import OpcuaGds.Gateway.ApplyConfinement
import OpcuaGds.Agent.OvernightWindow
import OpcuaGds.Agent.MaintenancePolicyLoading
import OpcuaGds.Agent.Quarantine
import OpcuaGds.Agent.QuarantineMoves
import OpcuaGds.Agent.QuarantinePaths
import OpcuaGds.Agent.QuarantineRecords
import OpcuaGds.Agent.RevocationReport
import OpcuaGds.Agent.RollbackPreflight
import OpcuaGds.Agent.SnapshotIntegrity
import OpcuaGds.Agent.DiffReport
import OpcuaGds.Agent.DiffAccounting
import OpcuaGds.Agent.DiffSoundness
import OpcuaGds.Agent.LatestEntry
import OpcuaGds.Agent.LatestSelection
import OpcuaGds.Foundation.PythonValue
import OpcuaGds.Gds.Redaction
import OpcuaGds.Agent.TelemetryDecision
import OpcuaGds.Agent.TelemetryDuplicates
import OpcuaGds.Agent.CollectorTelemetry
import OpcuaGds.Agent.TelemetrySecrets
import OpcuaGds.Agent.CollectorSizes
import OpcuaGds.Gateway.InfluxLines
import OpcuaGds.Gateway.RenewalCooldown
import OpcuaGds.Gateway.WriteConsent
import OpcuaGds.Foundation.FixedWindow
import OpcuaGds.Gateway.CertificateFiles
import OpcuaGds.Gds.FacadeRateLimit
import OpcuaGds.Foundation.CollectLoop
import OpcuaGds.Foundation.FirstOccurrence
import OpcuaGds.Gateway.PemChain
import OpcuaGds.Gds.VaultSerial
import OpcuaGds.Foundation.CString
import OpcuaGds.Foundation.TrimmedItems
import OpcuaGds.Foundation.WhileLoop
import OpcuaGds.Gateway.RenewalTargets
import OpcuaGds.Agent.SyncCycle
import OpcuaGds.Gds.VaultToken
import OpcuaGds.Agent.DriftAfterApply
import OpcuaGds.Agent.KeyContinuity
import OpcuaGds.Agent.PkiAnnouncements
import OpcuaGds.Agent.PreviewGate
import OpcuaGds.Agent.PreviewLists
import OpcuaGds.Agent.SignedReports
import OpcuaGds.Agent.SyncReports
import OpcuaGds.Gateway.ClientHandles
import OpcuaGds.Gateway.UpdateLoop
import OpcuaGds.Agent.RevokedRemoval
import OpcuaGds.Gds.InventoryReports
import OpcuaGds.Agent.ComponentAlerts
