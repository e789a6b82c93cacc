import OpcuaGds.Foundation.CString
import OpcuaGds.Foundation.TrimmedItems
import OpcuaGds.Foundation.WhileLoop
import OpcuaGds.Gateway.RenewalCooldown
import OpcuaGds.Gateway.WriteConsent

/-! # Targets with automatic renewal

`csv_token_contains` and `auto_renew_allowed_for_target` of the GDS client, against the trimmed
items of the list in `DMZ_GDS_AUTO_RENEW_TARGETS`.
-/

namespace OpcuaGds.Gateway

def comma : UInt8 := ','.toUInt8

/-- `*p == ',' || isspace((unsigned char)*p)`. -/
def isSeparator (c : UInt8) : Bool := c == comma || CString.isSpace c

/-- The body of the loop of `csv_token_contains`. -/
def csvRound (list token : CString) (p : Nat) : Option (WhileLoop.Round Nat Bool) := do
  let byte ← list.read p
  if byte = 0 then some (.left false)
  else do
    let start ← list.advance isSeparator p
    let p ← list.advance (fun c => c != 0 && c != comma) start
    let stop ← list.retreat CString.isSpace start p
    let len := stop - start
    if len = token.length then do
      let same ← CString.strncmpEqual len (list.cells.drop start) token.cells
      some (if same then .left true else .next p)
    else some (.next p)

/-- `csv_token_contains`; `none` for `NULL`. -/
def csvTokenContains (fuel : Nat) (list token : Option CString) : Option Bool :=
  match list, token with
  | some list, some token =>
      if token.read 0 = some 0 then some false
      else WhileLoop.run (csvRound list token) fuel 0
  | _, _ => some false

/-- `auto_renew_allowed_for_target`, with the values of `DMZ_GDS_AUTO_RENEW` and
`DMZ_GDS_AUTO_RENEW_TARGETS`. -/
def autoRenewAllowedForTarget (fuel : Nat) (autoRenew : Option String) (targets : Option CString)
    (target : GdsTarget) : Option Bool :=
  if envBool autoRenew false = false then some false
  else
    match targets with
    | none => some false
    | some list =>
        if list.read 0 = some 0 then some false
        else do
          let named ← csvTokenContains fuel targets (some (CString.ofText target.config.name))
          if named then some true
          else do
            let identified ← csvTokenContains fuel targets
              (some (CString.ofText target.config.applicationUri))
            if identified then some true
            else csvTokenContains fuel targets (some (CString.ofText "all"))

/-! ## What is an item of a list -/

/-- The items between the commas, without the white space around them. -/
def csvItems (list : CString) : List (List UInt8) :=
  TrimmedItems.items comma CString.isSpace list.bytes

/-- The list has the name of the target, its application URI or `all` as an item. -/
def GdsTarget.ListedIn (target : GdsTarget) (list : CString) : Prop :=
  (CString.ofText target.config.name).bytes ∈ csvItems list ∨
    (CString.ofText target.config.applicationUri).bytes ∈ csvItems list ∨
    (CString.ofText "all").bytes ∈ csvItems list

instance (target : GdsTarget) (list : CString) : Decidable (target.ListedIn list) :=
  inferInstanceAs (Decidable (_ ∨ _ ∨ _))

/-! ## A round of the scan -/

section Round

variable (list : CString) (p : Nat)

/-- Where the next item starts. -/
def itemStart : Nat := p + ((list.bytes.drop p).takeWhile isSeparator).length

/-- The next item, with the white space behind it. -/
def itemText : List UInt8 := (list.bytes.drop (itemStart list p)).takeWhile (· != comma)

/-- Where the next item ends. -/
def itemEnd : Nat := itemStart list p + (itemText list p).length

variable {list p}

theorem drop_itemStart :
    list.bytes.drop (itemStart list p) = (list.bytes.drop p).dropWhile isSeparator :=
  CString.drop_advanced isSeparator

theorem drop_itemEnd :
    list.bytes.drop (itemEnd list p) =
      (list.bytes.drop (itemStart list p)).dropWhile (· != comma) :=
  CString.drop_advanced (· != comma)

theorem itemStart_le (within : p ≤ list.length) : itemStart list p ≤ list.length :=
  CString.advanced_le isSeparator within

theorem itemEnd_le (within : p ≤ list.length) : itemEnd list p ≤ list.length :=
  CString.advanced_le (· != comma) (itemStart_le within)

/-- A separator or a byte of the item is passed. -/
theorem lt_itemEnd (before : p < list.bytes.length) : p < itemEnd list p := by
  have current := List.drop_eq_getElem_cons before
  by_cases separates : isSeparator list.bytes[p] = true
  · have moved : p < itemStart list p := by
      rw [itemStart, current, List.takeWhile_cons, if_pos separates, List.length_cons]
      omega
    exact Nat.lt_add_right _ moved
  · have starts : itemStart list p = p := by
      rw [itemStart, current, List.takeWhile_cons, if_neg separates]
      rfl
    have other : (list.bytes[p] != comma) = true := by
      rw [isSeparator, Bool.or_eq_true, not_or] at separates
      exact bne_iff_ne.mpr fun same => separates.1 (beq_iff_eq.mpr same)
    rw [itemEnd, itemText, starts, current, List.takeWhile_cons, if_pos other, List.length_cons]
    omega

/-- The next item starts with no white space. -/
theorem trimmed_itemText :
    TrimmedItems.trimmed CString.isSpace (itemText list p) =
      (itemText list p).rdropWhile CString.isSpace := by
  have solid : (itemText list p).dropWhile CString.isSpace = itemText list p := by
    rw [itemText, drop_itemStart]
    cases shape : (list.bytes.drop p).dropWhile isSeparator with
    | nil => rfl
    | cons c rest =>
        have stops := List.head_dropWhile_not isSeparator (shape ▸ List.cons_ne_nil c rest)
        simp only [shape, List.head_cons, isSeparator, Bool.or_eq_false_iff] at stops
        rw [List.takeWhile_cons]
        split
        · rw [List.dropWhile_cons, if_neg (Bool.eq_false_iff.mp stops.2)]
        · rfl
  rw [TrimmedItems.trimmed, solid]

/-- A round before the NUL leaves the loop exactly when the next item is the token, and goes on
behind the item else. -/
theorem csvRound_eq {token : CString} (before : p < list.bytes.length) :
    csvRound list token p = some
      (if TrimmedItems.trimmed CString.isSpace (itemText list p) = token.bytes then .left true
      else .next (itemEnd list p)) := by
  have notNul : list.bytes[p] ≠ 0 := fun nul => list.no_nul (nul ▸ List.getElem_mem before)
  have startWithin : itemStart list p ≤ list.length := itemStart_le before.le
  have plain : 0 ∉ list.bytes.drop (itemStart list p) := fun member =>
    list.no_nul (List.mem_of_mem_drop member)
  have starts : list.advance isSeparator p = some (itemStart list p) :=
    CString.advance_eq (by decide) before.le
  have ends : list.advance (fun c => c != 0 && c != comma) (itemStart list p) =
      some (itemEnd list p) := by
    rw [CString.advance_eq (by decide) startWithin, CString.takeWhile_notNul plain]
    rfl
  have whole : (list.bytes.drop (itemStart list p)).take (itemText list p).length =
      itemText list p :=
    (List.prefix_iff_eq_take.mp (List.takeWhile_prefix _)).symm
  have stops : list.retreat CString.isSpace (itemStart list p) (itemEnd list p) =
      some (itemStart list p + ((itemText list p).rdropWhile CString.isSpace).length) := by
    rw [itemEnd, CString.retreat_add (itemEnd_le before.le), whole]
  have stands : (itemText list p).rdropWhile CString.isSpace <+:
      list.bytes.drop (itemStart list p) :=
    (List.rdropWhile_prefix _ _).trans (List.takeWhile_prefix _)
  rw [trimmed_itemText]
  simp only [csvRound, CString.read_lt before, Option.bind_eq_bind, Option.bind_some, starts, ends,
    stops, if_neg notNul, Nat.add_sub_cancel_left]
  by_cases same : ((itemText list p).rdropWhile CString.isSpace).length = token.length
  · rw [if_pos same, CString.strncmpEqual_eq startWithin stands same, Option.bind_some]
    simp only [decide_eq_true_eq]
  · have other : (itemText list p).rdropWhile CString.isSpace ≠ token.bytes := fun equal =>
      same (congrArg List.length equal)
    rw [if_neg same, if_neg other]

/-- A token is the next item or one behind it. -/
theorem mem_items_drop {token : List UInt8} (nonempty : token ≠ []) :
    token ∈ TrimmedItems.items comma CString.isSpace (list.bytes.drop p) ↔
      token = TrimmedItems.trimmed CString.isSpace (itemText list p) ∨
        token ∈ TrimmedItems.items comma CString.isSpace (list.bytes.drop (itemEnd list p)) := by
  rw [drop_itemEnd, itemText, ← TrimmedItems.mem_items_iff nonempty, drop_itemStart]
  exact (TrimmedItems.mem_items_dropWhile nonempty).symm

end Round

/-! ## The scan -/

section Scan

variable {list token : CString} {fuel : Nat}

/-- The token is an item of the list exactly when it is one of the rest. -/
structure ScanInvariant (list token : CString) (p : Nat) : Prop where
  within : p ≤ list.length
  kept : token.bytes ∈ TrimmedItems.items comma CString.isSpace (list.bytes.drop p) ↔
    token.bytes ∈ csvItems list

theorem ScanInvariant.start : ScanInvariant list token 0 := ⟨Nat.zero_le _, Iff.rfl⟩

/-- What one round of the scan does. -/
theorem ScanInvariant.round (nonempty : token.bytes ≠ []) {p : Nat}
    (holds : ScanInvariant list token p) :
    (∃ found, csvRound list token p = some (.left found) ∧
        found = decide (token.bytes ∈ csvItems list)) ∨
      ∃ q, csvRound list token p = some (.next q) ∧ ScanInvariant list token q ∧
        list.length - q < list.length - p := by
  obtain before | ended := Nat.lt_or_eq_of_le holds.within
  · rw [csvRound_eq before]
    by_cases same : TrimmedItems.trimmed CString.isSpace (itemText list p) = token.bytes
    · rw [if_pos same]
      have member := holds.kept.mp ((mem_items_drop nonempty).mpr (.inl same.symm))
      exact .inl ⟨true, rfl, (decide_eq_true member).symm⟩
    · rw [if_neg same]
      have later := lt_itemEnd before
      have inside : itemEnd list p ≤ list.length := itemEnd_le before.le
      refine .inr ⟨itemEnd list p, rfl, ⟨inside, ?_⟩, ?_⟩
      · rw [← holds.kept, mem_items_drop nonempty (p := p), or_iff_right (Ne.symm same)]
      · exact Nat.sub_lt_sub_left before later
  · subst ended
    have absent : token.bytes ∉ csvItems list := by
      rw [← holds.kept, CString.length, List.drop_length, TrimmedItems.items_nil,
        List.mem_singleton]
      exact nonempty
    refine .inl ⟨false, ?_, (decide_eq_false absent).symm⟩
    rw [csvRound, CString.read_length]
    rfl

/-- The scan ends and finds a token that is not empty exactly when it is an item. -/
theorem csvTokenContains_eq (nonempty : token.bytes ≠ []) (enough : list.length < fuel) :
    csvTokenContains fuel (some list) (some token) =
      some (decide (token.bytes ∈ csvItems list)) := by
  have started : ¬ token.read 0 = some 0 := fun nul => nonempty (CString.read_zero_iff.mp nul)
  obtain ⟨found, ends, right⟩ := WhileLoop.run_of_variant
    (fun _ holds => ScanInvariant.round nonempty holds) ScanInvariant.start enough
  rw [csvTokenContains, if_neg started, ends, right]

end Scan

/-! ## Which targets are renewed -/

section Targets

variable {autoRenew : Option String} {targets : Option CString} {target : GdsTarget} {fuel : Nat}

theorem name_ne_nil (target : GdsTarget) : (CString.ofText target.config.name).bytes ≠ [] := by
  cases target <;> decide +kernel

theorem applicationUri_ne_nil (target : GdsTarget) :
    (CString.ofText target.config.applicationUri).bytes ≠ [] := by
  cases target <;> decide +kernel

theorem all_ne_nil : (CString.ofText "all").bytes ≠ [] := by decide +kernel

/-- The empty text lists no target. -/
theorem not_listedIn_of_empty {list : CString} (empty : list.bytes = []) :
    ¬ target.ListedIn list := by
  rw [GdsTarget.ListedIn, csvItems, empty, TrimmedItems.items_nil, List.mem_singleton,
    List.mem_singleton, List.mem_singleton]
  rintro (named | identified | all)
  · exact name_ne_nil target named
  · exact applicationUri_ne_nil target identified
  · exact all_ne_nil all

/-- The switch and the list decide together. -/
theorem autoRenewAllowedForTarget_eq (enough : ∀ list ∈ targets, list.length < fuel) :
    autoRenewAllowedForTarget fuel autoRenew targets target =
      some (envBool autoRenew false && targets.any fun list => decide (target.ListedIn list)) := by
  unfold autoRenewAllowedForTarget
  cases envBool autoRenew false with
  | false => rfl
  | true =>
      rw [if_neg Bool.false_ne_true.symm, Bool.true_and]
      cases targets with
      | none => rfl
      | some list =>
          have within := enough list rfl
          simp only [Option.any_some]
          by_cases empty : list.bytes = []
          · rw [if_pos (CString.read_zero_iff.mpr empty),
              decide_eq_false (not_listedIn_of_empty empty)]
          · rw [if_neg (mt CString.read_zero_iff.mp empty),
              csvTokenContains_eq (name_ne_nil target) within,
              csvTokenContains_eq (applicationUri_ne_nil target) within,
              csvTokenContains_eq all_ne_nil within]
            by_cases named : (CString.ofText target.config.name).bytes ∈ csvItems list
            · simp [GdsTarget.ListedIn, named]
            · by_cases identified :
                (CString.ofText target.config.applicationUri).bytes ∈ csvItems list
              · simp [GdsTarget.ListedIn, identified]
              · simp [GdsTarget.ListedIn, named, identified]

theorem allowed_iff :
    (envBool autoRenew false && targets.any fun list => decide (target.ListedIn list)) = true ↔
      envBool autoRenew false = true ∧ ∃ list ∈ targets, target.ListedIn list := by
  rw [Bool.and_eq_true, Option.any_eq_true]
  simp only [decide_eq_true_eq, Option.mem_def]

/-- `csv_token_contains` ends on every text and finds exactly the items; a target is allowed exactly
when automatic renewal is on and the list has its name, its application URI or `all` as an item. -/
theorem renewal_targets_are_items :
    (∀ (list token : CString) (fuel : Nat), token.bytes ≠ [] → list.length < fuel →
      csvTokenContains fuel (some list) (some token) =
        some (decide (token.bytes ∈ csvItems list))) ∧
    ∀ (autoRenew : Option String) (targets : Option CString) (target : GdsTarget) (fuel : Nat),
      (∀ list ∈ targets, list.length < fuel) →
      ∃ allowed, autoRenewAllowedForTarget fuel autoRenew targets target = some allowed ∧
        (allowed = true ↔
          envBool autoRenew false = true ∧ ∃ list ∈ targets, target.ListedIn list) := by
  refine ⟨fun list token fuel => csvTokenContains_eq, ?_⟩
  intro autoRenew targets target fuel enough
  exact ⟨_, autoRenewAllowedForTarget_eq enough, allowed_iff⟩

/-- The list is full of empty items and white space; `dmz-gateway` is the beginning of an item. -/
theorem renewal_targets_are_items_blanks :
    let list := CString.ofText " ,,\tot-server ,, dmz-gateway-server\n, "
    csvTokenContains 40 (some list) (some (CString.ofText "dmz-gateway-server")) = some true ∧
      csvTokenContains 40 (some list) (some (CString.ofText "dmz-gateway")) = some false ∧
      ∃ allowed, autoRenewAllowedForTarget 40 (some "yes") (some list) .dmzGatewayServer =
          some allowed ∧ (allowed = true ↔ envBool (some "yes") false = true ∧
            ∃ text ∈ some list, GdsTarget.dmzGatewayServer.ListedIn text) := by
  intro list
  have short : list.length < 40 := by decide +kernel
  refine ⟨?_, ?_, renewal_targets_are_items.2 _ _ _ _ ?_⟩
  · rw [renewal_targets_are_items.1 _ _ _ (by decide +kernel) short]
    decide +kernel
  · rw [renewal_targets_are_items.1 _ _ _ (by decide +kernel) short]
    decide +kernel
  · intro text same
    cases same
    exact short

/-- A target that the list names is not allowed while automatic renewal is off. -/
theorem listing_alone_allows_nothing :
    ¬ ∀ (autoRenew : Option String) (list : CString) (target : GdsTarget) (fuel : Nat),
      list.length < fuel →
        (autoRenewAllowedForTarget fuel autoRenew (some list) target = some true ↔
          target.ListedIn list) := by
  intro exactly
  have listed : GdsTarget.dmzGatewayServer.ListedIn (CString.ofText "all") := by decide +kernel
  have allowed := (exactly none (CString.ofText "all") .dmzGatewayServer 4 (by decide +kernel)).mpr
    listed
  cases allowed

/-! ## Runs of lifecycle cycles -/

/-- The settings of the cycles of a target are read from the environment. -/
structure LifecycleSettings.ReadFrom (settings : LifecycleSettings) (autoRenew : Option String)
    (targets : Option CString) (target : GdsTarget) : Prop where
  auto_renew : settings.autoRenew = envBool autoRenew false
  allowed : ∀ fuel, (∀ list ∈ targets, list.length < fuel) →
    autoRenewAllowedForTarget fuel autoRenew targets target = some settings.autoRenewAllowed

variable {settings : LifecycleSettings} {tools : CooldownTools} {ssl : OpenSsl}

theorem LifecycleSettings.ReadFrom.autoRenewAllowed_iff
    (read : settings.ReadFrom autoRenew targets target) :
    settings.autoRenewAllowed = true ↔
      envBool autoRenew false = true ∧ ∃ list ∈ targets, target.ListedIn list := by
  have enough : ∀ list ∈ targets, list.length < targets.elim 0 CString.length + 1 := by
    intro list among
    cases among
    exact Nat.lt_succ_self _
  have allowed := read.allowed _ enough
  rw [autoRenewAllowedForTarget_eq enough] at allowed
  rw [← Option.some.inj allowed]
  exact allowed_iff

/-- The required renewal of a target that is not listed is not made, and the status says why. -/
theorem renew_of_not_listed (read : settings.ReadFrom autoRenew targets target)
    (unlisted : ∀ list ∈ targets, ¬ target.ListedIn list) (client : LifecycleState)
    (input : CycleInput) :
    client.renew ssl target settings input true =
      (client, if envBool autoRenew false then "blocked_auto_renew_target_not_allowed"
        else "blocked_auto_renew_false") := by
  have blocked : ¬ settings.autoRenewAllowed = true := by
    intro allowed
    obtain ⟨-, list, among, listed⟩ := read.autoRenewAllowed_iff.mp allowed
    exact unlisted list among listed
  rw [LifecycleState.renew, if_neg (not_not_intro rfl), if_pos blocked, read.auto_renew]

theorem accepted_step_of_blocked (blocked : settings.autoRenewAllowed = false)
    {state next : RenewalState} {cycle : TimedCycle}
    (stepped : state.step tools ssl target settings cycle = some next) :
    next.accepted = state.accepted := by
  have notRenewed : ¬ cycle.renewalOk tools ssl target settings state.client = true := by
    simp [TimedCycle.renewalOk, CycleInput.renews, blocked]
  cases stepped
  exact if_neg notRenewed

/-- A target whose renewal is accepted in some run is on the list. -/
theorem listed_of_accepted (read : settings.ReadFrom autoRenew targets target)
    {client : LifecycleState} {final : RenewalState} {cycles : List TimedCycle}
    (reached : Transition.run (RenewalState.step tools ssl target settings) ⟨client, []⟩ cycles =
      some final) (accepted : final.accepted ≠ []) :
    envBool autoRenew false = true ∧ ∃ list ∈ targets, target.ListedIn list := by
  rw [← read.autoRenewAllowed_iff]
  by_contra blocked
  have kept : ∀ state cycle next, RenewalState.accepted state = [] →
      RenewalState.step tools ssl target settings state cycle = some next →
      next.accepted = [] := by
    intro state cycle next none_yet stepped
    exact (accepted_step_of_blocked (Bool.eq_false_iff.mpr blocked) stepped).trans none_yet
  apply accepted
  exact Transition.run_invariant kept rfl reached

end Targets

end OpcuaGds.Gateway
