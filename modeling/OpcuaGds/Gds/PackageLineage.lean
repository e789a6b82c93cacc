import OpcuaGds.Gds.Issuance

/-! # The lineage of packages

The packages of one application and profile, over every interleaving of issuance calls:
their generations are numbered without gap, each names the one before it, and no record
is changed once it is stored.
-/

namespace OpcuaGds.Gds

/-- Packages in the order of insertion that form one chain of generations. -/
structure Chain (rows : List IssuedPackage) : Prop where
  unbroken : rows.map (fun row => row.generation) = List.range' 1 rows.length
  linked : ∀ row ∈ rows,
    (row.generation = 1 ∧ row.supersedesPackageId = none ∧ row.supersedesGeneration = none) ∨
      ∃ previous ∈ rows, previous.generation + 1 = row.generation ∧
        row.supersedesPackageId = some previous.packageId ∧
        row.supersedesGeneration = some previous.generation

/-- The packages of an application and a profile. -/
def lineageOf (applicationId : Nat) (profileName : String) (rows : List IssuedPackage) :
    List IssuedPackage :=
  rows.filter fun row => row.applicationId = applicationId ∧ row.profileName = profileName

theorem mem_lineageOf {applicationId : Nat} {profileName : String} {rows : List IssuedPackage}
    {row : IssuedPackage} : row ∈ lineageOf applicationId profileName rows ↔
      row ∈ rows ∧ row.applicationId = applicationId ∧ row.profileName = profileName := by
  rw [lineageOf, List.mem_filter, decide_eq_true_eq]

/-- Lifecycle columns play no part in a lineage. -/
theorem lineageOf_map_inserted (applicationId : Nat) (profileName : String)
    (rows : List IssuedPackage) :
    lineageOf applicationId profileName (rows.map IssuedPackage.inserted) =
      (lineageOf applicationId profileName rows).map IssuedPackage.inserted := by
  rw [lineageOf, lineageOf, List.filter_map]
  rfl

theorem Chain.of_map_inserted {rows : List IssuedPackage}
    (chain : Chain (rows.map IssuedPackage.inserted)) : Chain rows := by
  constructor
  · have unbroken := chain.unbroken
    rwa [List.map_map, List.length_map] at unbroken
  · intro row member
    rcases chain.linked row.inserted (List.mem_map_of_mem member) with
      first | ⟨previous, listed, links⟩
    · exact Or.inl first
    · obtain ⟨origin, stored, rfl⟩ := List.mem_map.mp listed
      exact Or.inr ⟨origin, stored, links⟩

/-! ## One more package -/

section Continues

variable {tables : IssuanceTables} {package : IssuedPackage} {previous : Option PreviousPackage}

/-- The package that was read before the insertion is the last one of its chain: its
successor's generation was still free. -/
theorem Continues.previous_last (continued : Continues tables package previous)
    (chain : Chain (lineageOf package.applicationId package.profileName tables.records)) :
    package.generation =
      (lineageOf package.applicationId package.profileName tables.records).length + 1 := by
  have free : package.generation ∉
      (lineageOf package.applicationId package.profileName tables.records).map
        (fun row => row.generation) := by
    intro taken
    obtain ⟨row, member, same⟩ := List.mem_map.mp taken
    obtain ⟨stored, application, profile⟩ := mem_lineageOf.mp member
    exact continued.free row stored application profile same
  rw [chain.unbroken, List.mem_range'_1] at free
  have generation := continued.generation
  cases read : previous with
  | none =>
      rw [read, nextGeneration, Option.elim_none] at generation
      omega
  | some superseded =>
      obtain ⟨row, stored, application, profile, -, same⟩ := continued.stored superseded read
      have within : row.generation ∈
          (lineageOf package.applicationId package.profileName tables.records).map
            (fun row => row.generation) :=
        List.mem_map.mpr ⟨row, mem_lineageOf.mpr ⟨stored, application, profile⟩, rfl⟩
      rw [chain.unbroken, List.mem_range'_1] at within
      rw [read, nextGeneration, Option.elim_some] at generation
      omega

/-- A package that carries on a chain extends it. -/
theorem Continues.chain (continued : Continues tables package previous)
    (chain : Chain (lineageOf package.applicationId package.profileName tables.records)) :
    Chain (lineageOf package.applicationId package.profileName tables.records ++ [package]) := by
  have last := continued.previous_last chain
  constructor
  · rw [List.map_append, chain.unbroken, List.map_singleton, last, List.length_append,
      List.length_singleton, List.range'_1_concat, Nat.add_comm]
  · intro row member
    rw [List.mem_append, List.mem_singleton] at member
    rcases member with old | rfl
    · rcases chain.linked row old with first | ⟨before, stored, links⟩
      · exact Or.inl first
      · exact Or.inr ⟨before, List.mem_append_left _ stored, links⟩
    · cases read : previous with
      | none =>
          refine Or.inl ⟨?_, ?_, ?_⟩
          · rw [continued.generation, read]
            rfl
          · rw [continued.supersedesPackageId, read]
            rfl
          · rw [continued.supersedesGeneration, read]
            rfl
      | some superseded =>
          obtain ⟨before, stored, application, profile, identifier, generation⟩ :=
            continued.stored superseded read
          refine Or.inr ⟨before, List.mem_append_left _
            (mem_lineageOf.mpr ⟨stored, application, profile⟩), ?_, ?_, ?_⟩
          · rw [continued.generation, read, generation]
            rfl
          · rw [continued.supersedesPackageId, read, identifier]
            rfl
          · rw [continued.supersedesGeneration, read, generation]
            rfl

end Continues

/-! ## Runs -/

section Runs

variable {PrivateKey PublicKey : Type} {crypto : Crypto PrivateKey PublicKey}
  {signer : TrustArtifactSigner PrivateKey} {Call : Type} [DecidableEq Call]
  {input : Call → IssuanceInput} {state next : IssuanceState Call}

/-- What holds between the steps of any number of calls. -/
structure IssuanceInvariant (state : IssuanceState Call) : Prop where
  phases : ∀ call, (state.calls call).Holds state.tables
  owners : ∀ call other r, (state.calls call).requestId? = some r →
    (state.calls other).requestId? = some r → call = other
  references : ∀ row ∈ state.tables.records, (state.tables.requestStatus? row.requestId).isSome
  chains : ∀ applicationId profileName,
    Chain (lineageOf applicationId profileName state.tables.records)

omit [DecidableEq Call] in
theorem issuanceInvariant_initial (applications : List RegisteredApplication)
    (profiles : List ComponentProfile) (requests : List CertificateRequest)
    (certificates : List Certificate) :
    IssuanceInvariant
      (IssuanceState.initial Call applications profiles requests certificates) where
  phases _ := trivial
  owners _ _ _ named := nomatch named
  references _ member := nomatch member
  chains _ _ := ⟨rfl, fun _ member => nomatch member⟩

omit [DecidableEq Call] in
/-- A call that has not stored the request does not own it. -/
theorem IssuanceInvariant.not_own (invariant : IssuanceInvariant state) {call other : Call}
    {after : IssuanceTables} {phase : IssuancePhase}
    (advanced : Advanced state.tables after (state.calls call) phase) (distinct : other ≠ call)
    (r : String) (named : (state.calls other).requestId? = some r) :
    phase.requestId? ≠ some r := by
  intro own
  rcases advanced.request r own with before | absent
  · exact distinct (invariant.owners other call r named before)
  · have stored := (invariant.phases other).isSome named
    rw [absent] at stored
    cases stored

/-- One step of a call keeps the invariant. -/
theorem IssuanceInvariant.act (invariant : IssuanceInvariant state) {call : Call}
    {after : IssuanceTables} {phase : IssuancePhase}
    (advanced : Advanced state.tables after (state.calls call) phase) :
    IssuanceInvariant
      { tables := after, calls := Function.update state.calls call phase } where
  phases other := by
    dsimp only
    by_cases own : other = call
    · subst own
      rw [Function.update_self]
      exact advanced.holds
    · rw [Function.update_of_ne own]
      exact (invariant.phases other).of_extends advanced.extended
        (invariant.not_own advanced own)
  owners first second r firstNamed secondNamed := by
    dsimp only at firstNamed secondNamed
    by_cases firstOwn : first = call
    · by_cases secondOwn : second = call
      · exact firstOwn.trans secondOwn.symm
      · subst firstOwn
        rw [Function.update_self] at firstNamed
        rw [Function.update_of_ne secondOwn] at secondNamed
        exact absurd firstNamed (invariant.not_own advanced secondOwn r secondNamed)
    · rw [Function.update_of_ne firstOwn] at firstNamed
      by_cases secondOwn : second = call
      · subst secondOwn
        rw [Function.update_self] at secondNamed
        exact absurd secondNamed (invariant.not_own advanced firstOwn r firstNamed)
      · rw [Function.update_of_ne secondOwn] at secondNamed
        exact invariant.owners first second r firstNamed secondNamed
  references row member := by
    by_cases own : phase.requestId? = some row.requestId
    · exact advanced.holds.isSome own
    · have old := (advanced.extended.mem_or_own member).resolve_right own
      have stored := invariant.references row old
      rwa [advanced.extended.status row.requestId own stored]
  chains applicationId profileName := by
    have chain := invariant.chains applicationId profileName
    rcases advanced.extended.records with same | ⟨package, -, added⟩
    · rwa [same]
    · obtain ⟨previous, continued⟩ := advanced.continues package added
      rw [added, lineageOf, List.filter_append]
      by_cases own : package.applicationId = applicationId ∧ package.profileName = profileName
      · obtain ⟨rfl, rfl⟩ := own
        have kept : [package].filter (fun row => decide (row.applicationId = package.applicationId ∧
            row.profileName = package.profileName)) = [package] := by
          simp
        rw [kept]
        exact continued.chain chain
      · have dropped : [package].filter (fun row => decide (row.applicationId = applicationId ∧
            row.profileName = profileName)) = [] := by
          simpa using own
        rw [dropped, List.append_nil]
        exact chain

theorem IssuanceInvariant.step (invariant : IssuanceInvariant state) {event : IssuanceEvent Call}
    (stepped : issuanceStep crypto signer input state event = some next) :
    IssuanceInvariant next := by
  cases event with
  | act call action =>
      rw [issuanceStep, Option.map_eq_some_iff] at stepped
      obtain ⟨result, advanced, rfl⟩ := stepped
      exact invariant.act
        (advance_eq_some invariant.references (invariant.phases call) advanced)
  | storeLifecycle packageId target =>
      rw [issuanceStep, Option.some.injEq] at stepped
      subst stepped
      have extended : state.tables.Extends none (state.tables.storeLifecycle packageId target) :=
        ⟨fun _ _ _ => rfl, Or.inl (IssuanceTables.records_storeLifecycle _ _ _)⟩
      refine ⟨fun call => (invariant.phases call).of_extends extended fun _ _ => nofun,
        invariant.owners, ?_, ?_⟩
      · rw [IssuanceTables.records_storeLifecycle]
        exact invariant.references
      · rw [IssuanceTables.records_storeLifecycle]
        exact invariant.chains

/-- No step changes or removes a record. -/
theorem records_prefix (invariant : IssuanceInvariant state) {event : IssuanceEvent Call}
    (stepped : issuanceStep crypto signer input state event = some next) :
    state.tables.packages.map IssuedPackage.inserted <+:
      next.tables.packages.map IssuedPackage.inserted := by
  change state.tables.records <+: next.tables.records
  cases event with
  | act call action =>
      rw [issuanceStep, Option.map_eq_some_iff] at stepped
      obtain ⟨result, advanced, rfl⟩ := stepped
      rcases (advance_eq_some invariant.references (invariant.phases call)
        advanced).extended.records with same | ⟨package, -, added⟩
      · exact same ▸ List.prefix_rfl
      · exact added ▸ List.prefix_append _ _
  | storeLifecycle packageId target =>
      rw [issuanceStep, Option.some.injEq] at stepped
      subst stepped
      rw [IssuanceTables.records_storeLifecycle]

variable (crypto signer input) in
/-- Every interleaving of issuance calls keeps the packages of each application and
profile in one chain of generations, and keeps every stored record. -/
theorem package_lineage_single_chain (applications : List RegisteredApplication)
    (profiles : List ComponentProfile) (requests : List CertificateRequest)
    (certificates : List Certificate) (events : List (IssuanceEvent Call)) :
    Transition.EveryStep (issuanceStep crypto signer input)
      (fun before _ after =>
        (∀ applicationId profileName,
          Chain (lineageOf applicationId profileName after.tables.packages)) ∧
        before.tables.packages.map IssuedPackage.inserted <+:
          after.tables.packages.map IssuedPackage.inserted)
      (IssuanceState.initial Call applications profiles requests certificates) events := by
  apply Transition.EveryStep.of_forall IssuanceInvariant
  · intro state event next invariant stepped
    exact invariant.step stepped
  · intro state event next invariant stepped
    refine ⟨fun applicationId profileName => ?_, records_prefix invariant stepped⟩
    have chain := (invariant.step stepped).chains applicationId profileName
    rw [IssuanceTables.records, lineageOf_map_inserted] at chain
    exact chain.of_map_inserted
  · exact issuanceInvariant_initial applications profiles requests certificates

end Runs

end OpcuaGds.Gds
