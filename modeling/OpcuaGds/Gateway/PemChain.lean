import OpcuaGds.Agent.StageMaterial
import OpcuaGds.Foundation.CollectLoop
import OpcuaGds.Foundation.FirstOccurrence
import OpcuaGds.Gateway.TrustApply

/-! # The blocks of a PEM chain

`_split_pem_chain` of the agent and the loop of `apply_ca_chain` of the gateway client, against
the blocks that stand in a text.
-/

namespace OpcuaGds

namespace PemChain

def markerBegin : List Char := "-----BEGIN CERTIFICATE-----".toList

def markerEnd : List Char := "-----END CERTIFICATE-----".toList

/-! ## The blocks of a text -/

/-- The block from the first begin marker to the next end marker after it, with what stands before
and after the block. -/
structure IsFirstBlock (before block after : List Char) : Prop where
  begins : FirstAt markerBegin before (block ++ after)
  ends : ∃ body, block = body ++ markerEnd ∧ FirstAt markerEnd body (markerEnd ++ after)

/-- The blocks of a text, in order. -/
inductive Blocks : List Char → List (List Char) → Prop
  | none {text : List Char}
      (noBlock : ∀ before block after, text = before ++ (block ++ after) →
        ¬ IsFirstBlock before block after) : Blocks text []
  | block {before block after : List Char} {blocks : List (List Char)}
      (first : IsFirstBlock before block after) (rest : Blocks after blocks) :
      Blocks (before ++ (block ++ after)) (block :: blocks)

/-- Somewhere between the blocks an end marker stands before the next begin marker. -/
inductive StrayEnd : List Char → Prop
  | here {before rest other more : List Char} (ends : FirstAt markerEnd before rest)
      (begins : FirstAt markerBegin other more) (same : before ++ rest = other ++ more)
      (earlier : before.length < other.length) : StrayEnd (before ++ rest)
  | later {before block after : List Char} (first : IsFirstBlock before block after)
      (rest : StrayEnd after) : StrayEnd (before ++ (block ++ after))

/-! ## One round of the loops -/

/-- The body of the loop of `_split_pem_chain`: the end marker is looked for from the beginning
of what remains. -/
def agentRound (remaining : List Char) : Option (List Char × List Char) :=
  match Agent.fromIndex markerBegin remaining, Agent.fromIndex markerEnd remaining with
  | some fromStart, some fromEnd =>
      let start := remaining.length - fromStart.length
      let stop := remaining.length - fromEnd.length + markerEnd.length
      some ((remaining.take stop).drop start ++ ['\n'], remaining.drop stop)
  | _, _ => none

/-- The body of the loop of `apply_ca_chain`: the end marker is looked for from the begin
marker. -/
def clientRound (cursor : List Char) : Option (List Char × List Char) :=
  match CText.strstr markerBegin cursor with
  | none => none
  | some start =>
      match CText.strstr markerEnd start with
      | none => none
      | some found =>
          let rest := found.drop markerEnd.length
          some (start.take (start.length - rest.length) ++ ['\n'], rest)

theorem splitPemBlocks_eq (fuel : Nat) (remaining : List Char) :
    Agent.splitPemBlocks fuel remaining =
      (CollectLoop.collect agentRound fuel remaining).map String.ofList := by
  induction fuel generalizing remaining with
  | zero => rfl
  | succ fuel ih =>
      rw [Agent.splitPemBlocks, CollectLoop.collect, agentRound]
      change (match Agent.fromIndex markerBegin remaining, Agent.fromIndex markerEnd remaining with
        | some fromStart, some fromEnd => _
        | _, _ => _) = _
      cases Agent.fromIndex markerBegin remaining with
      | none => rfl
      | some fromStart =>
          cases Agent.fromIndex markerEnd remaining with
          | none => rfl
          | some fromEnd => exact congrArg _ (ih _)

theorem chainBlocks_eq (fuel : Nat) (cursor : List Char) :
    (Gateway.chainBlocks fuel cursor).map (· ++ ['\n']) =
      CollectLoop.collect clientRound fuel cursor := by
  induction fuel generalizing cursor with
  | zero => rfl
  | succ fuel ih =>
      rw [Gateway.chainBlocks, CollectLoop.collect, clientRound]
      change List.map _ (match CText.strstr markerBegin cursor with
        | none => _
        | some start => _) = _
      cases CText.strstr markerBegin cursor with
      | none => rfl
      | some start =>
          dsimp only
          change List.map _ (match CText.strstr markerEnd start with
            | none => _
            | some found => _) = _
          cases CText.strstr markerEnd start with
          | none => rfl
          | some found => exact congrArg (List.cons _) (ih _)

/-! ## The round of the client -/

namespace IsFirstBlock

variable {before block after front other back : List Char}

/-- There is one first block. -/
theorem unique (here : IsFirstBlock before block after) (there : IsFirstBlock front other back)
    (same : before ++ (block ++ after) = front ++ (other ++ back)) :
    before = front ∧ block = other ∧ after = back := by
  obtain ⟨sameFront, sameRest⟩ := here.begins.unique there.begins same
  obtain ⟨body, rfl, ends⟩ := here.ends
  obtain ⟨otherBody, rfl, otherEnds⟩ := there.ends
  rw [List.append_assoc, List.append_assoc] at sameRest
  obtain ⟨rfl, sameEnd⟩ := ends.unique otherEnds sameRest
  exact ⟨sameFront, rfl, List.append_cancel_left sameEnd⟩

theorem length_block (first : IsFirstBlock before block after) : 25 ≤ block.length := by
  obtain ⟨body, rfl, _⟩ := first.ends
  have marker : markerEnd.length = 25 := by decide
  rw [List.length_append, marker]
  omega

end IsFirstBlock

theorem clientRound_of_isFirstBlock {before block after : List Char}
    (first : IsFirstBlock before block after) :
    clientRound (before ++ (block ++ after)) = some (block ++ ['\n'], after) := by
  obtain ⟨body, rfl, ends⟩ := first.ends
  have begins : CText.strstr markerBegin (before ++ (body ++ markerEnd ++ after)) =
      some (body ++ markerEnd ++ after) :=
    CText.strstr_eq_some_iff.mpr ⟨before, rfl, first.begins⟩
  have found : CText.strstr markerEnd (body ++ markerEnd ++ after) = some (markerEnd ++ after) :=
    CText.strstr_eq_some_iff.mpr ⟨body, List.append_assoc _ _ _, ends⟩
  rw [clientRound, begins]
  dsimp only
  rw [found]
  dsimp only
  rw [List.drop_left, List.length_append, Nat.add_sub_cancel, List.take_left]

theorem clientRound_eq_none {text : List Char}
    (noBlock : ∀ before block after, text = before ++ (block ++ after) →
      ¬ IsFirstBlock before block after) : clientRound text = none := by
  unfold clientRound
  cases begun : CText.strstr markerBegin text with
  | none => rfl
  | some start =>
      obtain ⟨before, rfl, begins⟩ := CText.strstr_eq_some_iff.mp begun
      dsimp only
      cases ended : CText.strstr markerEnd start with
      | none => rfl
      | some found =>
          obtain ⟨body, rfl, ends⟩ := CText.strstr_eq_some_iff.mp ended
          obtain ⟨after, rfl⟩ := ends.found
          refine absurd ⟨?_, body, rfl, ends⟩ (noBlock before (body ++ markerEnd) after ?_)
          · rw [List.append_assoc]
          · rw [List.append_assoc]
            exact begins

/-- A text has a first block or none. -/
theorem exists_isFirstBlock_or (text : List Char) :
    (∃ before block after, text = before ++ (block ++ after) ∧ IsFirstBlock before block after) ∨
      ∀ before block after, text = before ++ (block ++ after) →
        ¬ IsFirstBlock before block after := by
  by_cases some : ∃ before block after,
      text = before ++ (block ++ after) ∧ IsFirstBlock before block after
  · exact Or.inl some
  · exact Or.inr fun before block after same first => some ⟨before, block, after, same, first⟩

/-- Every text has its blocks. -/
theorem exists_blocks (text : List Char) : ∃ blocks, Blocks text blocks := by
  generalize size : text.length = n
  induction n using Nat.strong_induction_on generalizing text with
  | h n ih =>
      rcases exists_isFirstBlock_or text with ⟨before, block, after, rfl, first⟩ | noBlock
      · have long := first.length_block
        rw [List.length_append, List.length_append] at size
        obtain ⟨blocks, rest⟩ := ih after.length (by omega) after rfl
        exact ⟨block :: blocks, Blocks.block first rest⟩
      · exact ⟨[], Blocks.none noBlock⟩

/-- The loop of the client ends, with the blocks of the text. -/
theorem client_collects {text : List Char} {blocks : List (List Char)}
    (areBlocks : Blocks text blocks) :
    CollectLoop.Collects clientRound text (blocks.map (· ++ ['\n'])) := by
  induction areBlocks with
  | none noBlock => exact CollectLoop.Collects.stop (clientRound_eq_none noBlock)
  | block first _ ih => exact CollectLoop.Collects.next (clientRound_of_isFirstBlock first) ih

/-! ## The round of the agent -/

theorem fromIndex_eq (needle text : List Char) :
    Agent.fromIndex needle text = CText.strstr needle text := by
  induction text with
  | nil => rfl
  | cons c rest ih => rw [Agent.fromIndex, CText.strstr, ih]

/-- An end marker stands before the first begin marker. -/
def StrayHere (text : List Char) : Prop :=
  ∃ before rest other more, text = before ++ rest ∧ text = other ++ more ∧
    FirstAt markerEnd before rest ∧ FirstAt markerBegin other more ∧ before.length < other.length

/-- Without such an end marker the two rounds are alike. -/
theorem agentRound_eq_clientRound {text : List Char} (orderly : ¬ StrayHere text) :
    agentRound text = clientRound text := by
  rw [agentRound, clientRound, fromIndex_eq, fromIndex_eq]
  cases begun : CText.strstr markerBegin text with
  | none => rfl
  | some start =>
      obtain ⟨other, isText, begins⟩ := CText.strstr_eq_some_iff.mp begun
      cases ended : CText.strstr markerEnd text with
      | none =>
          have absent : CText.strstr markerEnd start = none := by
            rw [CText.strstr_eq_none_iff] at ended ⊢
            intro inStart
            apply ended
            rw [isText]
            exact inStart.trans (List.suffix_append _ _).isInfix
          dsimp only
          rw [absent]
      | some found =>
          obtain ⟨before, alsoText, ends⟩ := CText.strstr_eq_some_iff.mp ended
          have ordered : other.length ≤ before.length := by
            by_contra stray
            exact orderly ⟨before, found, other, start, alsoText, isText, ends, begins, by omega⟩
          obtain ⟨body, rfl⟩ := List.prefix_of_prefix_length_le ⟨start, isText.symm⟩
            ⟨found, alsoText.symm⟩ ordered
          obtain ⟨after, rfl⟩ := ends.found
          have isStart : start = body ++ (markerEnd ++ after) := by
            rw [isText, List.append_assoc] at alsoText
            exact List.append_cancel_left alsoText
          have sameEnd : CText.strstr markerEnd start = some (markerEnd ++ after) :=
            CText.strstr_eq_some_iff.mpr ⟨body, isStart, ends.of_later⟩
          have begins : text.length - start.length = other.length := by
            rw [isText, List.length_append, Nat.add_sub_cancel]
          have stops : text.length - (markerEnd ++ after).length + markerEnd.length =
              (other ++ (body ++ markerEnd)).length := by
            rw [alsoText]
            simp only [List.length_append]
            omega
          have parts : text = other ++ (body ++ markerEnd) ++ after := by
            rw [alsoText]
            simp only [List.append_assoc]
          dsimp only
          rw [sameEnd]
          have size : (body ++ markerEnd ++ after).length - after.length =
              (body ++ markerEnd).length := by
            simp only [List.length_append]
            omega
          dsimp only
          rw [begins, stops, List.drop_left]
          rw [parts, List.take_left, List.drop_left, List.drop_left, isStart, ← List.append_assoc,
            size, List.take_left]

/-- With one the agent takes a block that is too short. -/
theorem agentRound_of_strayHere {text : List Char} (stray : StrayHere text) :
    ∃ item after, agentRound text = some (item, after) ∧ item.length ≤ 25 := by
  obtain ⟨before, rest, other, more, isText, alsoText, ends, begins, earlier⟩ := stray
  have begun : CText.strstr markerBegin text = some more :=
    CText.strstr_eq_some_iff.mpr ⟨other, alsoText, begins⟩
  have ended : CText.strstr markerEnd text = some rest :=
    CText.strstr_eq_some_iff.mpr ⟨before, isText, ends⟩
  rw [agentRound, fromIndex_eq, fromIndex_eq, begun, ended]
  refine ⟨_, _, rfl, ?_⟩
  have marker : markerEnd.length = 25 := by decide
  have front : text.length - rest.length = before.length := by
    rw [isText, List.length_append, Nat.add_sub_cancel]
  have begin : text.length - more.length = other.length := by
    rw [alsoText, List.length_append, Nat.add_sub_cancel]
  rw [front, begin, marker, List.length_append, List.length_drop, List.length_take]
  have one : ['\n'].length = 1 := rfl
  omega

theorem Blocks.length_head {text block : List Char} {blocks : List (List Char)}
    (areBlocks : Blocks text (block :: blocks)) : 25 ≤ block.length := by
  cases areBlocks with
  | block first _ => exact first.length_block

/-- With such an end marker the agent does not get the blocks. -/
theorem not_collects_of_strayHere {text : List Char} {blocks : List (List Char)}
    (stray : StrayHere text) (areBlocks : Blocks text blocks) :
    ¬ CollectLoop.Collects agentRound text (blocks.map (· ++ ['\n'])) := by
  obtain ⟨item, after, taken, short⟩ := agentRound_of_strayHere stray
  intro collects
  cases blocks with
  | nil =>
      cases collects with
      | stop ended =>
          rw [ended] at taken
          cases taken
  | cons block rest =>
      cases collects with
      | next stepped _ =>
          rw [taken, Option.some.injEq, Prod.mk.injEq] at stepped
          have long := areBlocks.length_head
          rw [stepped.1, List.length_append] at short
          have one : ['\n'].length = 1 := rfl
          omega

/-- The blocks after the first one. -/
theorem Blocks.tail_of_isFirstBlock {text before block after : List Char}
    {blocks : List (List Char)} (areBlocks : Blocks text blocks)
    (same : text = before ++ (block ++ after)) (first : IsFirstBlock before block after) :
    ∃ rest, blocks = block :: rest ∧ Blocks after rest := by
  cases areBlocks with
  | none noBlock => exact absurd first (noBlock before block after same)
  | block there rest =>
      obtain ⟨-, rfl, rfl⟩ := there.unique first same
      exact ⟨_, rfl, rest⟩

theorem StrayHere.strayEnd {text : List Char} (stray : StrayHere text) : StrayEnd text := by
  obtain ⟨before, rest, other, more, rfl, same, ends, begins, earlier⟩ := stray
  exact StrayEnd.here ends begins same earlier

/-- The loop of the agent ends with the blocks of the text, unless an end marker is astray. -/
theorem agent_collects_iff {text : List Char} {blocks : List (List Char)}
    (areBlocks : Blocks text blocks) :
    CollectLoop.Collects agentRound text (blocks.map (· ++ ['\n'])) ↔ ¬ StrayEnd text := by
  constructor
  · intro collects stray
    induction stray generalizing blocks with
    | here ends begins same earlier =>
        exact not_collects_of_strayHere ⟨_, _, _, _, rfl, same, ends, begins, earlier⟩ areBlocks
          collects
    | @later before block after first _ ih =>
        by_cases stray : StrayHere (before ++ (block ++ after))
        · exact not_collects_of_strayHere stray areBlocks collects
        · have round := agentRound_eq_clientRound stray
          rw [clientRound_of_isFirstBlock first] at round
          obtain ⟨rest, rfl, areRest⟩ := areBlocks.tail_of_isFirstBlock rfl first
          cases collects with
          | next stepped later =>
              rw [round, Option.some.injEq, Prod.mk.injEq] at stepped
              rw [← stepped.2] at later
              exact ih areRest later
  · intro orderly
    induction areBlocks with
    | none noBlock =>
        refine CollectLoop.Collects.stop ?_
        rw [agentRound_eq_clientRound fun stray => orderly stray.strayEnd]
        exact clientRound_eq_none noBlock
    | block first _ ih =>
        refine CollectLoop.Collects.next ?_ (ih fun stray => orderly (StrayEnd.later first stray))
        rw [agentRound_eq_clientRound fun stray => orderly stray.strayEnd]
        exact clientRound_of_isFirstBlock first

/-! ## What the two programs return -/

/-- Every round of the agent takes at least an end marker. -/
theorem agentRound_smaller {text item after : List Char}
    (taken : agentRound text = some (item, after)) : after.length < text.length := by
  rw [agentRound, fromIndex_eq, fromIndex_eq] at taken
  cases begun : CText.strstr markerBegin text with
  | none =>
      rw [begun] at taken
      cases taken
  | some start =>
      cases ended : CText.strstr markerEnd text with
      | none =>
          rw [begun, ended] at taken
          cases taken
      | some found =>
          rw [begun, ended] at taken
          obtain ⟨before, rfl, ends⟩ := CText.strstr_eq_some_iff.mp ended
          have marker : markerEnd.length = 25 := by decide
          have long := ends.found.length_le
          cases taken
          rw [List.length_drop, List.length_append, marker]
          rw [marker] at long
          omega

theorem clientRound_smaller {text item after : List Char}
    (taken : clientRound text = some (item, after)) : after.length < text.length := by
  rcases exists_isFirstBlock_or text with ⟨before, block, rest, rfl, first⟩ | noBlock
  · rw [clientRound_of_isFirstBlock first] at taken
    cases taken
    have long := first.length_block
    rw [List.length_append, List.length_append]
    omega
  · rw [clientRound_eq_none noBlock] at taken
    cases taken

theorem ofText_of_plain {text : String} (plain : '\x00' ∉ text.toList) :
    CText.ofText text = text := by
  have kept : ∀ c ∈ text.toList, (c != '\x00') = true := by
    intro c member
    rw [bne_iff_ne]
    rintro rfl
    exact plain member
  rw [CText.ofText, List.takeWhile_eq_self_iff.mpr kept, String.ofList_toList]

/-- Both programs end with the blocks, each with a line break at its end; the client gets a text
up to its first NUL. -/
structure SplitsInto (text : String) (blocks : List (List Char)) : Prop where
  agentEnds : CollectLoop.Collects agentRound text.toList (blocks.map (· ++ ['\n']))
  agentReturns :
    Agent.splitPemChain text = blocks.map fun block => String.ofList (block ++ ['\n'])
  clientEnds : '\x00' ∉ text.toList →
    CollectLoop.Collects clientRound (CText.ofText text).toList (blocks.map (· ++ ['\n']))
  clientExtracts : '\x00' ∉ text.toList →
    Gateway.chainBlocks (CText.ofText text).length (CText.ofText text).toList = blocks

/-- Agent and client get the blocks of a text exactly when between them no end marker stands
before the next begin marker. -/
theorem splitsInto_blocks_iff (text : String) :
    (∃ blocks, Blocks text.toList blocks ∧ SplitsInto text blocks) ↔ ¬ StrayEnd text.toList := by
  obtain ⟨blocks, areBlocks⟩ := exists_blocks text.toList
  constructor
  · rintro ⟨others, areOthers, splits⟩
    exact (agent_collects_iff areOthers).mp splits.agentEnds
  · intro orderly
    have ends := (agent_collects_iff areBlocks).mpr orderly
    refine ⟨blocks, areBlocks, ends, ?_, fun plain => ?_, fun plain => ?_⟩
    · have fueled := CollectLoop.collects_collect List.length
        (fun _ _ _ => agentRound_smaller) (le_refl text.toList.length)
      rw [Agent.splitPemChain, splitPemBlocks_eq, ← String.length_toList, fueled.unique ends,
        List.map_map]
      rfl
    · rw [ofText_of_plain plain]
      exact client_collects areBlocks
    · have fueled := CollectLoop.collects_collect List.length
        (fun _ _ _ => clientRound_smaller) (le_refl text.toList.length)
      have same := fueled.unique (client_collects areBlocks)
      rw [← chainBlocks_eq] at same
      rw [ofText_of_plain plain, ← String.length_toList]
      exact List.map_injective_iff.mpr (List.append_left_injective ['\n']) same

/-- A certificate after the end line of another one. -/
def strayEndText : String :=
  "-----END CERTIFICATE-----\n-----BEGIN CERTIFICATE-----A-----END CERTIFICATE-----"

/-- The agent returns a line break as the first certificate, the client does not. -/
theorem stray_end_returned :
    Agent.splitPemChain strayEndText =
        ["\n", "-----BEGIN CERTIFICATE-----A-----END CERTIFICATE-----\n"] ∧
      Gateway.chainBlocks strayEndText.length strayEndText.toList =
        ["-----BEGIN CERTIFICATE-----A-----END CERTIFICATE-----".toList] ∧
      ¬ ∃ blocks, Blocks strayEndText.toList blocks ∧ SplitsInto strayEndText blocks := by
  have returned : Agent.splitPemChain strayEndText =
      ["\n", "-----BEGIN CERTIFICATE-----A-----END CERTIFICATE-----\n"] := by
    decide +kernel
  refine ⟨returned, by decide +kernel, ?_⟩
  rintro ⟨blocks, areBlocks, splits⟩
  have same := splits.agentReturns
  rw [returned] at same
  cases blocks with
  | nil => cases same
  | cons block rest =>
      have long := areBlocks.length_head
      have first : "\n" = String.ofList (block ++ ['\n']) := (List.cons.inj same).1
      have chars : "\n".toList = block ++ ['\n'] :=
        (congrArg String.toList first).trans String.toList_ofList
      have size := congrArg List.length chars
      rw [List.length_append] at size
      have one : "\n".toList.length = 1 := rfl
      omega

end PemChain

end OpcuaGds
