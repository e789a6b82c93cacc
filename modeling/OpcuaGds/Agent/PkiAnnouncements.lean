import OpcuaGds.Agent.ReplayProtection
import OpcuaGds.Agent.SyncCycle

/-! # Announced changes of the cached PKI files

An unsigned cycle reads the cached CA chain and CRL before it replaces them and says of a change
when both are written. The chain is written first: where the CRL then fails, the next cycle finds
the new chain and has nothing to say.
-/

namespace OpcuaGds.Agent

open Gds (Crypto)

/-! ## Statements -/

section Statements

variable {PublicKey : Type} (x509 : X509 PublicKey)

/-- The cycle writes a CA chain that is not what it has read. -/
def PlainCycle.ReplacesChain (cycle : PlainCycle) (files : SyncFiles) : Prop :=
  ∃ old new, files.caChain = some old ∧ cycle.pkiReadable = true ∧
    caChainPem? cycle = some (.str new) ∧ cycle.caChainWrite = .ok () ∧
      PythonText.universalNewlines old ≠ new

/-- The cycle comes to its CRL and writes it. -/
def PlainCycle.WritesCrl (cycle : PlainCycle) (crlDer : List UInt8) : Prop :=
  (∃ text, caChainPem? cycle = some (.str text)) ∧ cycle.pkiReadable = true ∧
    cycle.caChainWrite = .ok () ∧ crlDer? x509 cycle = some crlDer ∧ cycle.crlWrite = .ok ()

/-- An event among those that a step adds. -/
def Announces (name : String) (before after : SyncRecord) : Prop :=
  ∃ added, after.events = before.events ++ added ∧ changedEvent name ∈ added

/-- What is said of the chain and of the CRL is true, and every change is said. -/
structure AnnouncesChanges (before : SyncRecord) (cycle : PlainCycle) (after : SyncRecord) :
    Prop where
  chain : Announces "ca_chain_changed" before after ↔ cycle.ReplacesChain before.files
  crl : Announces "crl_changed" before after ↔
    ∃ old new, before.files.crl = some old ∧ cycle.WritesCrl x509 new ∧ old ≠ new

end Statements

/-! ## Events of the other stages -/

/-- No event about a change is added. -/
def SyncRecord.Silent (before after : SyncRecord) : Prop :=
  ∃ added, after.events = before.events ++ added ∧
    ∀ event ∈ added, event.message ≠ "ca_chain_changed" ∧ event.message ≠ "crl_changed"

namespace SyncRecord

theorem Silent.refl (record : SyncRecord) : record.Silent record :=
  ⟨[], (List.append_nil _).symm, by simp⟩

theorem Silent.trans {first second third : SyncRecord} (before : first.Silent second)
    (after : second.Silent third) : first.Silent third := by
  obtain ⟨added, events, others⟩ := before
  obtain ⟨later, laterEvents, laterOthers⟩ := after
  have both : third.events = first.events ++ (added ++ later) := by
    rw [laterEvents, events, List.append_assoc]
  refine ⟨added ++ later, both, fun event member => ?_⟩
  rcases List.mem_append.mp member with here | there
  · exact others event here
  · exact laterOthers event there

theorem Silent.forward {record next : SyncRecord} (silent : record.Silent next) {event : OtEvent}
    (other : event.message ≠ "ca_chain_changed" ∧ event.message ≠ "crl_changed") :
    record.Silent (next.forward event) := by
  refine silent.trans ⟨[event], rfl, ?_⟩
  simpa using other

/-- Other fields than the events do not count. -/
theorem Silent.of_events {record next : SyncRecord} (same : next.events = record.events) :
    record.Silent next := ⟨[], by simp [same], by simp⟩

end SyncRecord

section Stages

variable {PrivateKey PublicKey : Type} {crypto : Crypto PrivateKey PublicKey}
  {x509 : X509 PublicKey} {parseNotAfter : String → Option String} {dirs : SyncDirs}
  {cycle : PlainCycle} {record : SyncRecord}

variable (dirs cycle record) in
theorem syncCaChain_silent : record.Silent (syncCaChain dirs cycle record).1 := by
  rw [syncCaChain]
  split
  · split
    · exact .refl record
    · split
      · exact (SyncRecord.Silent.of_events rfl).forward (by simp [pkiWriteEvent, writeEvent])
      · exact (SyncRecord.Silent.refl record).forward (by simp [pkiWriteEvent, writeEvent])
  · exact .refl record

variable (x509 dirs cycle record) in
theorem syncCrl_silent : record.Silent (syncCrl x509 dirs cycle record).1 := by
  rw [syncCrl]
  split
  · exact .refl record
  · split
    · exact (SyncRecord.Silent.of_events rfl).forward (by simp [pkiWriteEvent, writeEvent])
    · exact (SyncRecord.Silent.refl record).forward (by simp [pkiWriteEvent, writeEvent])

theorem forwardReport_silent (report : DiffReport) (record : SyncRecord) :
    record.Silent (forwardReport report record) := by
  have detected : record.Silent (record.forward (diffDetectedEvent report)) :=
    (SyncRecord.Silent.refl record).forward (by simp [diffDetectedEvent])
  simp only [forwardReport]
  split
  · exact detected.forward (by simp [criticalDiffEvent])
  · exact detected

theorem syncList_silent {chainChanged crlChanged : Bool} {zone role : String}
    {exchange : ListExchange} {next : SyncRecord} {goesOn : Bool}
    (stepped : syncList crypto x509 parseNotAfter dirs chainChanged crlChanged zone role exchange
      record = some (next, goesOn)) : record.Silent next := by
  rw [syncList] at stepped
  split at stepped
  · split at stepped
    · cases stepped
      exact .refl record
    · obtain ⟨previous, -, stepped⟩ := Option.bind_eq_some_iff.mp stepped
      split at stepped
      · simp only [reportMalformed] at stepped
        split at stepped
        · cases stepped
          exact .refl record
        · cases stepped
          exact (SyncRecord.Silent.of_events rfl).forward (by simp [malformedListEvent])
      · obtain ⟨current, -, stepped⟩ := Option.bind_eq_some_iff.mp stepped
        simp only [storeList] at stepped
        split at stepped
        · cases stepped
          exact .refl record
        · have reported (report : DiffReport) :
              record.Silent (forwardReport report (record.saveReport report)) :=
            (SyncRecord.Silent.of_events rfl).trans (forwardReport_silent report _)
          split at stepped
          · cases stepped
            exact (reported _).forward (by simp [listWriteEvent, writeEvent])
          · cases stepped
            refine SyncRecord.Silent.forward ?_ (by simp [listWriteEvent, writeEvent])
            exact (reported _).trans (.of_events rfl)
  · cases stepped
    exact .refl record

theorem syncLists_silent {chainChanged crlChanged : Bool}
    {targets : List (String × String × ListExchange)} {final : SyncRecord}
    (reached : syncLists crypto x509 parseNotAfter dirs chainChanged crlChanged targets record =
      some final) : record.Silent final := by
  induction targets generalizing record with
  | nil =>
      cases reached
      exact SyncRecord.Silent.refl _
  | cons target rest ih =>
      obtain ⟨zone, role, exchange⟩ := target
      obtain ⟨⟨next, goesOn⟩, stepped, reached⟩ := Option.bind_eq_some_iff.mp reached
      have here := syncList_silent stepped
      cases goesOn with
      | false =>
          cases reached
          exact here
      | true => exact here.trans (ih reached)

/-! ## One cycle -/

theorem textToWrite_eq_ok {value : Json} {outcome : WriteOutcome} {text : String} :
    textToWrite value outcome = .ok text ↔ value = .str text ∧ outcome = .ok () := by
  cases outcome with
  | error message => simp [textToWrite]
  | ok done => cases value <;> simp [textToWrite]

theorem caChainChanged_str {old : Option String} {text : String} :
    caChainChanged old (.str text) = true ↔
      ∃ held, old = some held ∧ PythonText.universalNewlines held ≠ text := by
  cases old with
  | none => simp [caChainChanged]
  | some held =>
      simp only [caChainChanged, asText, Option.any_some, bne_iff_ne, ne_eq, Option.some.injEq,
        exists_eq_left']
      exact not_congr eq_comm

theorem crlChanged_iff {old : Option (List UInt8)} {der : List UInt8} :
    crlChanged old der = true ↔ ∃ held, old = some held ∧ held ≠ der := by
  cases old with
  | none => simp [crlChanged]
  | some held => simp [crlChanged]

theorem syncCaChain_eq_some {chainChanged : Bool} :
    (syncCaChain dirs cycle record).2 = some chainChanged ↔
      cycle.pkiReadable = true ∧ cycle.caChainWrite = .ok () ∧
        ∃ text, caChainPem? cycle = some (.str text) ∧
          chainChanged = caChainChanged record.files.caChain (.str text) := by
  rw [syncCaChain]
  by_cases readable : cycle.pkiReadable = true
  · rw [if_pos readable]
    cases offered : caChainPem? cycle with
    | none => simp
    | some pem =>
        cases written : textToWrite pem cycle.caChainWrite with
        | error text =>
            have notBoth (text : String) : ¬(pem = .str text ∧ cycle.caChainWrite = .ok ()) := by
              rw [← textToWrite_eq_ok, written]
              simp
            refine iff_of_false (by simp [written]) ?_
            rintro ⟨-, wrote, text, isText, -⟩
            exact notBoth text ⟨Option.some.inj isText, wrote⟩
        | ok text =>
            obtain ⟨rfl, wrote⟩ := textToWrite_eq_ok.mp written
            simp only [written]
            simp [readable, wrote, eq_comm]
  · simp [readable]

variable (dirs cycle record) in
theorem syncCaChain_crl :
    (syncCaChain dirs cycle record).1.files.crl = record.files.crl := by
  rw [syncCaChain]
  split
  · split
    · rfl
    · split <;> rfl
  · rfl

theorem syncCrl_eq_some {crlChanged' : Bool} :
    (syncCrl x509 dirs cycle record).2 = some crlChanged' ↔
      cycle.crlWrite = .ok () ∧ ∃ der, crlDer? x509 cycle = some der ∧
        crlChanged' = crlChanged record.files.crl der := by
  rw [syncCrl]
  cases offered : crlDer? x509 cycle with
  | none => simp
  | some der =>
      cases wrote : cycle.crlWrite with
      | error text => simp
      | ok done => simp [eq_comm]

/-- Without an event about a change, none is announced. -/
theorem SyncRecord.Silent.not_announces {next : SyncRecord} (silent : record.Silent next)
    {name : String} (isChange : name = "ca_chain_changed" ∨ name = "crl_changed") :
    ¬Announces name record next := by
  rintro ⟨added, events, member⟩
  obtain ⟨others, same, silentEvents⟩ := silent
  rw [same] at events
  have here := silentEvents (changedEvent name) (List.append_cancel_left events ▸ member)
  rcases isChange with rfl | rfl
  · exact here.1 rfl
  · exact here.2 rfl

theorem announceChanges_events (chain crl : Bool) (record : SyncRecord) :
    (announceChanges chain crl record).events = record.events ++
      ((if chain then [changedEvent "ca_chain_changed"] else []) ++
        if crl then [changedEvent "crl_changed"] else []) := by
  cases chain <;> cases crl <;> simp [announceChanges, SyncRecord.forward]

/-- The events around those about changes are silent. -/
theorem announces_iff {fetched next : SyncRecord} {chain crl : Bool}
    (before : record.Silent fetched) (after : (announceChanges chain crl fetched).Silent next) :
    (Announces "ca_chain_changed" record next ↔ chain = true) ∧
      (Announces "crl_changed" record next ↔ crl = true) := by
  obtain ⟨early, earlyEvents, earlySilent⟩ := before
  obtain ⟨late, lateEvents, lateSilent⟩ := after
  rw [announceChanges_events, earlyEvents, List.append_assoc, List.append_assoc] at lateEvents
  have announces (name : String) (isChange : name = "ca_chain_changed" ∨ name = "crl_changed") :
      Announces name record next ↔ changedEvent name ∈
        (if chain then [changedEvent "ca_chain_changed"] else []) ++
          if crl then [changedEvent "crl_changed"] else [] := by
    constructor
    · rintro ⟨added, events, member⟩
      rw [lateEvents] at events
      rw [← List.append_cancel_left events, List.mem_append, List.mem_append] at member
      rcases member with inEarly | inChanges | inLate
      · have other := earlySilent _ inEarly
        exact absurd isChange (not_or.mpr other)
      · exact inChanges
      · have other := lateSilent _ inLate
        exact absurd isChange (not_or.mpr other)
    · intro member
      exact ⟨_, lateEvents, List.mem_append_right _ (List.mem_append_left _ member)⟩
  rw [announces _ (Or.inl rfl), announces _ (Or.inr rfl)]
  cases chain <;> cases crl <;> simp [changedEvent]

variable (dirs record) in
theorem PlainCycle.WritesCrl.caChain {der : List UInt8} (writes : cycle.WritesCrl x509 der) :
    ∃ chainChanged, (syncCaChain dirs cycle record).2 = some chainChanged := by
  obtain ⟨⟨text, offered⟩, readable, wrote, -, -⟩ := writes
  exact ⟨_, syncCaChain_eq_some.mpr ⟨readable, wrote, text, offered, rfl⟩⟩

variable (dirs record) in
theorem PlainCycle.WritesCrl.crl {der : List UInt8} (writes : cycle.WritesCrl x509 der) :
    (syncCrl x509 dirs cycle record).2 = some (crlChanged record.files.crl der) := by
  obtain ⟨-, -, -, offered, wrote⟩ := writes
  exact syncCrl_eq_some.mpr ⟨wrote, der, offered, rfl⟩

/-- A cycle that does not come to the end of its CRL says nothing. -/
theorem silent_announces {next : SyncRecord} (silent : record.Silent next)
    (noCrl : ∀ der, ¬cycle.WritesCrl x509 der) :
    (Announces "ca_chain_changed" record next ↔
      cycle.ReplacesChain record.files ∧ ∃ der, cycle.WritesCrl x509 der) ∧
    (Announces "crl_changed" record next ↔
      ∃ old new, record.files.crl = some old ∧ cycle.WritesCrl x509 new ∧ old ≠ new) := by
  refine ⟨iff_of_false (silent.not_announces (Or.inl rfl)) ?_,
    iff_of_false (silent.not_announces (Or.inr rfl)) ?_⟩
  · rintro ⟨-, der, writes⟩
    exact noCrl der writes
  · rintro ⟨-, der, -, writes, -⟩
    exact noCrl der writes

/-- What one cycle says. -/
theorem runSyncCycle_announces {next : SyncRecord}
    (stepped : runSyncCycle crypto x509 parseNotAfter dirs record cycle = some next) :
    (Announces "ca_chain_changed" record next ↔
      cycle.ReplacesChain record.files ∧ ∃ der, cycle.WritesCrl x509 der) ∧
    (Announces "crl_changed" record next ↔
      ∃ old new, record.files.crl = some old ∧ cycle.WritesCrl x509 new ∧ old ≠ new) := by
  rw [runSyncCycle] at stepped
  have silent := syncCaChain_silent dirs cycle record
  have sameCrl := syncCaChain_crl dirs cycle record
  split at stepped
  case h_1 fetched failed =>
      rw [failed] at silent
      cases stepped
      refine silent_announces silent fun der writes => ?_
      obtain ⟨chainChanged, reached⟩ := writes.caChain dirs record
      rw [failed] at reached
      cases reached
  case h_2 fetched chainChanged reached =>
      have chain := syncCaChain_eq_some.mp (congrArg Prod.snd reached)
      rw [reached] at silent sameCrl
      obtain ⟨readable, wrote, text, offered, isChanged⟩ := chain
      have crlSilent := syncCrl_silent x509 dirs cycle fetched
      split at stepped
      case h_1 later failed =>
          rw [failed] at crlSilent
          cases stepped
          refine silent_announces (silent.trans crlSilent) fun der writes => ?_
          have done := writes.crl dirs fetched
          rw [failed] at done
          cases done
      case h_2 later crlChanged' done =>
          obtain ⟨crlWrote, der, crlOffered, isCrlChanged⟩ :=
            syncCrl_eq_some.mp (congrArg Prod.snd done)
          rw [done] at crlSilent
          have writes : cycle.WritesCrl x509 der :=
            ⟨⟨text, offered⟩, readable, wrote, crlOffered, crlWrote⟩
          obtain ⟨saysChain, saysCrl⟩ :=
            announces_iff (silent.trans crlSilent) (syncLists_silent stepped)
          rw [saysChain, saysCrl, isChanged, isCrlChanged, caChainChanged_str, crlChanged_iff,
            sameCrl]
          constructor
          · constructor
            · rintro ⟨held, found, differs⟩
              exact ⟨⟨held, text, found, readable, offered, wrote, differs⟩, der, writes⟩
            · rintro ⟨⟨held, new, found, -, isNew, -, differs⟩, -⟩
              cases offered.symm.trans isNew
              exact ⟨held, found, differs⟩
          · constructor
            · rintro ⟨held, found, differs⟩
              exact ⟨held, der, found, writes, differs⟩
            · rintro ⟨held, new, found, ⟨-, -, -, isNew, -⟩, differs⟩
              cases crlOffered.symm.trans isNew
              exact ⟨held, found, differs⟩

/-! ## Every run -/

end Stages

end OpcuaGds.Agent
