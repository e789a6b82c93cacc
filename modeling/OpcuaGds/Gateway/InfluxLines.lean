import Mathlib.Algebra.Order.BigOperators.Group.List
import Mathlib.Data.Nat.Digits.Lemmas
import OpcuaGds.Foundation.NumberText
import OpcuaGds.Gateway.NorthboundMirror

/-! # The batch of a poll cycle

Every good read becomes a line of the line protocol, formatted into a buffer of 256 bytes and
appended to the batch if it has room. A line that the buffer cuts off has no newline, and the next
line continues it; an infinite double or one that is no number is written as such.
-/

namespace OpcuaGds.Gateway.Influx

/-! ## Texts of the C library -/

/-- What `snprintf` leaves in a buffer. -/
def snprintf (size : Nat) (text : List Char) : List Char := text.take (size - 1)

/-- A quotient rounded to the nearest number, ties to even. -/
def roundHalfEven (numerator denominator : Nat) : Nat :=
  let quotient := numerator / denominator
  let twice := 2 * (numerator % denominator)
  if denominator < twice ∨ twice = denominator ∧ quotient % 2 = 1 then quotient + 1 else quotient

def doubleExponent (bits : UInt64) : Nat := bits.toNat / 2 ^ 52 % 2 ^ 11

def doubleFraction (bits : UInt64) : Nat := bits.toNat % 2 ^ 52

/-- Neither an infinity nor no number. -/
def IsFinite (bits : UInt64) : Prop := doubleExponent bits ≠ 2047

instance (bits : UInt64) : Decidable (IsFinite bits) := inferInstanceAs (Decidable (_ ≠ _))

/-- A finite double without its sign, in millionths. -/
def millionths (bits : UInt64) : Nat :=
  let exponent := doubleExponent bits
  let significand := if exponent = 0 then doubleFraction bits else 2 ^ 52 + doubleFraction bits
  let power := max exponent 1
  if 1075 ≤ power then significand * 2 ^ (power - 1075) * 10 ^ 6
  else roundHalfEven (significand * 10 ^ 6) (2 ^ (1075 - power))

/-- `%f`. -/
def doubleText (bits : UInt64) : List Char :=
  let sign := if 2 ^ 63 ≤ bits.toNat then ['-'] else []
  if IsFinite bits then
    let value := millionths bits
    let fraction := Nat.toDigits 10 (value % 10 ^ 6)
    sign ++ Nat.toDigits 10 (value / 10 ^ 6) ++
      '.' :: (List.replicate (6 - fraction.length) '0' ++ fraction)
  else if doubleFraction bits = 0 then sign ++ "inf".toList
  else sign ++ "nan".toList

/-- `%d`. -/
def int32Text (value : Int32) : List Char := (NumberText.intText 10 value.toInt).toList

/-! ## Lines -/

/-- `influx_sanitize_label`. -/
def sanitizeLabel (input : List Char) (outSize : Nat) : List Char :=
  (input.take (outSize - 1)).map fun c =>
    if c.isAlphanum ∨ c = '_' ∨ c = '-' ∨ c = '.' then c else '_'

structure PointTags where
  measurement : List Char
  plcTag : List Char
  nodeTag : List Char

/-- The branch of `classify_point_label` for the labels with one front and one tag. -/
def fixedTags (measurement plcTag : String) (rest : List Char) : PointTags :=
  ⟨snprintf 64 measurement.toList, snprintf 64 plcTag.toList, sanitizeLabel rest 128⟩

/-- The branch for `PowerGrid.`: the tag is what stands before the first dot. -/
def powerGridTags (rest : List Char) : PointTags :=
  let plcRaw := (rest.takeWhile fun c => c != '.').take 63
  if '.' ∈ rest then
    ⟨snprintf 64 "powergrid".toList, sanitizeLabel plcRaw 64,
      sanitizeLabel ((rest.dropWhile fun c => c != '.').drop 1) 128⟩
  else fixedTags "powergrid" "PowerGrid" rest

/-- `classify_point_label`. -/
def classifyPointLabel (label : List Char) : PointTags :=
  let startsWith (front : String) := front.toList.isPrefixOf label
  let rest (front : String) := label.drop front.toList.length
  if startsWith "Factory." then fixedTags "factory" "PLC3" (rest "Factory.")
  else if startsWith "RailAuto." then fixedTags "railauto" "PLC4" (rest "RailAuto.")
  else if startsWith "RailManual." then fixedTags "railmanual" "PLC5" (rest "RailManual.")
  else if startsWith "PowerGrid." then powerGridTags (rest "PowerGrid.")
  else if startsWith "MES.Health." then fixedTags "mes_health" "gateway" (rest "MES.Health.")
  else fixedTags "misc" "system" label

/-- The line up to its value. -/
def lineHead (point : GatewayPoint) : List Char :=
  let tags := classifyPointLabel point.label.toList
  tags.measurement ++ ",plc=".toList ++ tags.plcTag ++ ",node=".toList ++ tags.nodeTag ++
    " value=".toList

/-- The text of a value. -/
def valueText : Variant → List Char
  | .bool value => if value then ['1'] else ['0']
  | .double bits => doubleText bits
  | .int32 value => int32Text value
  | .other => []

/-- The line of a value, with its newline. -/
def wholeLine (point : GatewayPoint) (value : Variant) : List Char :=
  lineHead point ++ valueText value ++ ['\n']

/-! ## The batch -/

/-- `INFLUX_BATCH_SIZE`. -/
def influxBatchSize : Nat := 32768

/-- `append_line_to_batch`. -/
def appendLineToBatch (batch line : List Char) : List Char :=
  if influxBatchSize ≤ batch.length + line.length then batch else batch ++ line

/-- One round of the loop over the points: a good read appends its line. -/
def batchPoint (point : GatewayPoint) (read : PointRead) (batch : List Char) : List Char :=
  match goodValue? point.type read with
  | some (value, _) => appendLineToBatch batch (snprintf 256 (wholeLine point value))
  | none => batch

def batchPoints (reads : Nat → PointRead) : List GatewayPoint → Nat → List Char → List Char
  | [], _, batch => batch
  | point :: rest, idx, batch =>
      batchPoints reads rest (idx + 1) (batchPoint point (reads idx) batch)

/-- What `southbound_poll_once` posts; nothing is posted when no point was read. -/
def postedBatch (reads : Nat → PointRead) : Option (List Char) :=
  let batch := batchPoints reads gatewayPoints 0 []
  if batch.isEmpty then none else some batch

/-! ## Statements -/

/-- The lines of the good reads, in the order of the points. -/
def linesFrom (reads : Nat → PointRead) : List GatewayPoint → Nat → List (List Char)
  | [], _ => []
  | point :: rest, idx =>
      let later := linesFrom reads rest (idx + 1)
      match goodValue? point.type (reads idx) with
      | some (value, _) => wholeLine point value :: later
      | none => later

def goodLines (reads : Nat → PointRead) : List (List Char) := linesFrom reads gatewayPoints 0

/-- The doubles that a cycle reads, with their points. -/
def ReadsDouble (reads : Nat → PointRead) (point : GatewayPoint) (bits : UInt64) : Prop :=
  ∃ idx, gatewayPoints[idx]? = some point ∧ point.type = .double ∧ (reads idx).status = .good ∧
    (reads idx).value = .double bits

/-- The posted text has the whole line of every good read, in order, and all values are finite. -/
structure WholeLines (reads : Nat → PointRead) : Prop where
  posted : postedBatch reads =
    if (goodLines reads).isEmpty then none else some (goodLines reads).flatten
  finite : ∀ point bits, ReadsDouble reads point bits → IsFinite bits

/-! ## The batch is never full -/

theorem toDigits_length_le {number width : Nat} (positive : 0 < width)
    (small : number < 10 ^ width) :
    (Nat.toDigits 10 number).length ≤ width := by
  cases number with
  | zero => exact positive
  | succ number =>
      rw [NumberText.toDigits_eq_digits (by decide) number.succ_pos, List.length_map,
        List.length_reverse]
      exact (Nat.digits_length_le_iff (by decide) _).mpr small

theorem int32Text_length_le (value : Int32) : (int32Text value).length ≤ 11 := by
  have low := value.le_toInt
  have high := value.toInt_lt
  rw [int32Text]
  cases shape : value.toInt with
  | ofNat number =>
      rw [shape] at high
      change (number : Int) < 2 ^ 31 at high
      rw [NumberText.intText, NumberText.digitText, String.toList_ofList]
      have short : (Nat.toDigits 10 number).length ≤ 10 :=
        toDigits_length_le (by decide) (by omega)
      omega
  | negSucc number =>
      rw [shape] at low
      have digits : (NumberText.digitText 10 (number + 1)).toList = Nat.toDigits 10 (number + 1) :=
        String.toList_ofList
      rw [NumberText.intText, String.toList_append, digits, List.length_append]
      have short : (Nat.toDigits 10 (number + 1)).length ≤ 10 :=
        toDigits_length_le (by decide) (by omega)
      have minus : "-".toList.length = 1 := rfl
      omega

/-- The room that the line of a point needs at most: a buffer for a double, and else its head, a
number and a newline. -/
def lineRoom (point : GatewayPoint) : Nat :=
  if point.type = .double then 255 else (lineHead point).length + 12

theorem snprintf_length_le (size : Nat) (text : List Char) :
    (snprintf size text).length ≤ text.length :=
  List.length_take_le' _ _

theorem sanitizeLabel_length_le (input : List Char) (outSize : Nat) :
    (sanitizeLabel input outSize).length ≤ input.length := by
  rw [sanitizeLabel, List.length_map]
  exact List.length_take_le' _ _

/-- The characters of the tags of a line. -/
def PointTags.room (tags : PointTags) : Nat :=
  tags.measurement.length + tags.plcTag.length + tags.nodeTag.length

theorem fixedTags_room_le {measurement plcTag : String} {rest label : List Char}
    (short : measurement.toList.length + plcTag.toList.length ≤ 19)
    (part : rest.length ≤ label.length) :
    (fixedTags measurement plcTag rest).room ≤ label.length + 19 := by
  have front := snprintf_length_le 64 measurement.toList
  have middle := snprintf_length_le 64 plcTag.toList
  have back := sanitizeLabel_length_le rest 128
  rw [PointTags.room, fixedTags]
  dsimp only
  omega

theorem powerGridTags_room_le {rest label : List Char} (part : rest.length ≤ label.length) :
    (powerGridTags rest).room ≤ label.length + 19 := by
  rw [powerGridTags]
  split
  · have name := snprintf_length_le 64 "powergrid".toList
    have nine : "powergrid".toList.length = 9 := rfl
    have front := sanitizeLabel_length_le ((rest.takeWhile fun c => c != '.').take 63) 64
    have back := sanitizeLabel_length_le ((rest.dropWhile fun c => c != '.').drop 1) 128
    have cut := congrArg List.length (List.takeWhile_append_dropWhile (p := fun c => c != '.')
      (l := rest))
    rw [List.length_append] at cut
    rw [List.length_take] at front
    rw [List.length_drop] at back
    rw [PointTags.room]
    dsimp only
    omega
  · exact fixedTags_room_le (by decide) part

theorem classifyPointLabel_room_le (label : List Char) :
    (classifyPointLabel label).room ≤ label.length + 19 := by
  have part (count : Nat) : (label.drop count).length ≤ label.length :=
    List.length_drop ▸ Nat.sub_le _ _
  rw [classifyPointLabel]
  dsimp only
  split
  · exact fixedTags_room_le (by decide) (part _)
  split
  · exact fixedTags_room_le (by decide) (part _)
  split
  · exact fixedTags_room_le (by decide) (part _)
  split
  · exact powerGridTags_room_le (part _)
  split
  · exact fixedTags_room_le (by decide) (part _)
  · exact fixedTags_room_le (by decide) le_rfl

theorem lineHead_length_le (point : GatewayPoint) :
    (lineHead point).length ≤ point.label.toList.length + 37 := by
  have tags := classifyPointLabel_room_le point.label.toList
  have plc : ",plc=".toList.length = 5 := rfl
  have node : ",node=".toList.length = 6 := rfl
  have value : " value=".toList.length = 7 := rfl
  rw [PointTags.room] at tags
  rw [lineHead]
  simp only [List.length_append, plc, node, value]
  omega

theorem length_le_utf8ByteSize (text : String) : text.toList.length ≤ text.utf8ByteSize := by
  have encoded (chars : List Char) :
      chars.length ≤ (chars.flatMap String.utf8EncodeChar).length := by
    induction chars with
    | nil => exact le_rfl
    | cons c rest ih =>
        have some := c.utf8Size_pos
        rw [List.flatMap_cons, List.length_append, String.length_utf8EncodeChar, List.length_cons]
        omega
  rw [← String.size_toByteArray, ← String.utf8Encode_toList, List.utf8Encode,
    List.size_toByteArray]
  exact encoded _

theorem labels_short : ∀ point ∈ gatewayPoints, point.label.utf8ByteSize ≤ 80 := by
  decide +kernel

theorem lineRoom_le (point : GatewayPoint) (among : point ∈ gatewayPoints) :
    lineRoom point ≤ if point.type = .double then 255 else 129 := by
  have head := lineHead_length_le point
  have label := (length_le_utf8ByteSize point.label).trans (labels_short point among)
  rw [lineRoom]
  split
  · exact le_rfl
  · omega

theorem rooms_small (point : GatewayPoint) (among : point ∈ gatewayPoints) :
    lineRoom point ≤ 255 := by
  refine (lineRoom_le point among).trans ?_
  split
  · exact le_rfl
  · omega

theorem rooms_within_batch : (gatewayPoints.map lineRoom).sum < influxBatchSize := by
  have few : (gatewayPoints.map fun point => if point.type = .double then 255 else 129).sum <
      influxBatchSize := by
    decide +kernel
  exact (List.sum_le_sum lineRoom_le).trans_lt few

variable {point : GatewayPoint} {read : PointRead} {value : Variant} {time : Int}

/-- A good value of another type than a double has a short line. -/
theorem wholeLine_length_le (good : goodValue? point.type read = some (value, time)) :
    (wholeLine point value).length ≤ lineRoom point ∨
      point.type = .double ∧ read.status = .good ∧ ∃ bits, read.value = .double bits ∧
        value = .double bits := by
  obtain ⟨status, held, storedAt⟩ := read
  have success : status = .good := by
    by_contra failed
    have none : goodValue? point.type ⟨status, held, storedAt⟩ = none := if_pos failed
    rw [none] at good
    cases good
  subst success
  have length (text : List Char) (short : text.length ≤ 11) :
      (lineHead point ++ text ++ ['\n']).length ≤ (lineHead point).length + 12 := by
    rw [List.length_append, List.length_append, List.length_singleton]
    omega
  cases type : point.type with
  | bool =>
      rw [type] at good
      cases held <;> cases good
      left
      rw [lineRoom, if_neg (type ▸ nofun)]
      refine length _ ?_
      rw [valueText]
      split <;> exact Nat.le_of_ble_eq_true rfl
  | int32 =>
      rw [type] at good
      cases held <;> cases good
      left
      rw [lineRoom, if_neg (type ▸ nofun)]
      exact length _ (int32Text_length_le _)
  | double =>
      rw [type] at good
      cases held <;> cases good
      exact .inr ⟨rfl, rfl, _, rfl, rfl⟩

theorem snprintf_line_length_le (good : goodValue? point.type read = some (value, time)) :
    (snprintf 256 (wholeLine point value)).length ≤ lineRoom point := by
  rw [snprintf, List.length_take]
  rcases wholeLine_length_le good with short | ⟨double, -⟩
  · omega
  · rw [lineRoom, if_pos double]
    omega

theorem batchPoints_eq (reads : Nat → PointRead) (points : List GatewayPoint) (idx : Nat)
    (batch : List Char) (room : batch.length + (points.map lineRoom).sum < influxBatchSize) :
    batchPoints reads points idx batch =
      batch ++ ((linesFrom reads points idx).map (snprintf 256)).flatten := by
  induction points generalizing idx batch with
  | nil => rw [batchPoints, linesFrom, List.map_nil, List.flatten_nil, List.append_nil]
  | cons point rest ih =>
      rw [List.map_cons, List.sum_cons] at room
      rw [batchPoints, linesFrom, batchPoint]
      cases good : goodValue? point.type (reads idx) with
      | none => exact ih (idx + 1) batch (by omega)
      | some read =>
          obtain ⟨value, time⟩ := read
          dsimp only
          have short := snprintf_line_length_le good
          rw [appendLineToBatch, if_neg (by omega), ih, List.map_cons, List.flatten_cons,
            List.append_assoc]
          rw [List.length_append]
          omega

theorem batch_eq (reads : Nat → PointRead) :
    batchPoints reads gatewayPoints 0 [] = ((goodLines reads).map (snprintf 256)).flatten := by
  have room : ([] : List Char).length + (gatewayPoints.map lineRoom).sum < influxBatchSize := by
    rw [List.length_nil, Nat.zero_add]
    exact rooms_within_batch
  exact batchPoints_eq reads gatewayPoints 0 [] room

/-! ## Whole lines -/

theorem mem_linesFrom_iff (reads : Nat → PointRead) (points : List GatewayPoint) (idx : Nat)
    (line : List Char) :
    line ∈ linesFrom reads points idx ↔ ∃ offset point value time,
      points[offset]? = some point ∧ goodValue? point.type (reads (idx + offset)) =
        some (value, time) ∧ line = wholeLine point value := by
  induction points generalizing idx with
  | nil => exact iff_of_false nofun nofun
  | cons first rest ih =>
      have shifted (offset : Nat) : idx + (offset + 1) = idx + 1 + offset := by omega
      constructor
      · intro among
        rw [linesFrom] at among
        have later (among : line ∈ linesFrom reads rest (idx + 1)) :
            ∃ offset point value time, (first :: rest)[offset]? = some point ∧
              goodValue? point.type (reads (idx + offset)) = some (value, time) ∧
                line = wholeLine point value := by
          obtain ⟨offset, point, value, time, found, good, same⟩ := (ih (idx + 1)).mp among
          exact ⟨offset + 1, point, value, time, found, (shifted offset).symm ▸ good, same⟩
        cases good : goodValue? first.type (reads idx) with
        | none =>
            rw [good] at among
            exact later among
        | some read =>
            rw [good] at among
            rcases List.mem_cons.mp among with here | among
            · exact ⟨0, first, read.1, read.2, rfl, good, here⟩
            · exact later among
      · intro ⟨offset, point, value, time, found, good, same⟩
        rw [linesFrom]
        cases offset with
        | zero =>
            cases found
            have here : goodValue? _ (reads idx) = some (value, time) := good
            rw [here, same]
            exact List.mem_cons_self
        | succ offset =>
            have later : line ∈ linesFrom reads rest (idx + 1) :=
              (ih (idx + 1)).mpr ⟨offset, point, value, time, found, shifted offset ▸ good, same⟩
            cases goodValue? first.type (reads idx) with
            | none => exact later
            | some read => exact List.mem_cons_of_mem _ later

/-- Cut lines are the whole ones exactly if no line is cut. -/
theorem flatten_cut_iff (lines : List (List Char)) :
    (lines.map (snprintf 256)).flatten = lines.flatten ↔ ∀ line ∈ lines, line.length ≤ 255 := by
  have shorter (lines : List (List Char)) :
      (lines.map (snprintf 256)).flatten.length ≤ lines.flatten.length := by
    induction lines with
    | nil => exact le_rfl
    | cons line rest ih =>
        rw [List.map_cons, List.flatten_cons, List.flatten_cons, List.length_append,
          List.length_append, snprintf, List.length_take]
        omega
  induction lines with
  | nil => exact iff_of_true rfl nofun
  | cons line rest ih =>
      rw [List.map_cons, List.flatten_cons, List.flatten_cons, List.forall_mem_cons]
      constructor
      · intro same
        have lengths := congrArg List.length same
        rw [List.length_append, List.length_append, snprintf, List.length_take] at lengths
        have fits : line.length ≤ 255 := by
          have least := shorter rest
          omega
        rw [snprintf, List.take_of_length_le fits] at same
        exact ⟨fits, ih.mp (List.append_cancel_left same)⟩
      · intro ⟨fits, later⟩
        rw [snprintf, List.take_of_length_le fits, ih.mpr later]

/-- A line of the batch is short, or it is that of a double. -/
theorem goodLines_length {reads : Nat → PointRead} {line : List Char}
    (among : line ∈ goodLines reads) :
    line.length ≤ 255 ∨ ∃ point bits, ReadsDouble reads point bits ∧
      line = wholeLine point (.double bits) := by
  obtain ⟨idx, point, value, time, found, good, rfl⟩ :=
    (mem_linesFrom_iff reads gatewayPoints 0 line).mp among
  rw [Nat.zero_add] at good
  rcases wholeLine_length_le good with short | ⟨double, success, bits, held, rfl⟩
  · exact .inl (short.trans (rooms_small point (List.mem_of_getElem? found)))
  · exact .inr ⟨point, bits, ⟨idx, found, double, success, held⟩, rfl⟩

theorem mem_goodLines_of_readsDouble {reads : Nat → PointRead} {bits : UInt64}
    (read : ReadsDouble reads point bits) : wholeLine point (.double bits) ∈ goodLines reads := by
  obtain ⟨idx, found, double, success, held⟩ := read
  refine (mem_linesFrom_iff reads gatewayPoints 0 _).mpr
    ⟨idx, point, .double bits, (reads idx).storedAt, found, ?_, rfl⟩
  rw [Nat.zero_add, double]
  simp only [goodValue?, success, held, ne_eq, not_true_eq_false, if_false]

/-- What is posted is what was cut, and something exactly if some read was good. -/
theorem postedBatch_eq (reads : Nat → PointRead) :
    postedBatch reads = if (goodLines reads).isEmpty then none
      else some ((goodLines reads).map (snprintf 256)).flatten := by
  rw [postedBatch, batch_eq]
  cases lines : goodLines reads with
  | nil => rfl
  | cons line rest =>
      have among : line ∈ goodLines reads := lines ▸ List.mem_cons_self
      obtain ⟨idx, point, value, time, -, -, rfl⟩ := (mem_linesFrom_iff reads _ 0 line).mp among
      have nonempty : ((wholeLine point value :: rest).map (snprintf 256)).flatten ≠ [] := by
        rw [List.map_cons, List.flatten_cons, ne_eq, List.append_eq_nil_iff, snprintf,
          List.take_eq_nil_iff, wholeLine, List.append_eq_nil_iff]
        exact fun empty => empty.1.elim (by decide) fun empty => List.cons_ne_nil _ _ empty.2
      rw [if_neg (by rwa [List.isEmpty_iff])]
      rfl

theorem posted_iff (reads : Nat → PointRead) :
    (postedBatch reads = if (goodLines reads).isEmpty then none
      else some (goodLines reads).flatten) ↔
      ∀ point bits, ReadsDouble reads point bits →
        (wholeLine point (.double bits)).length ≤ 255 := by
  have every : (∀ line ∈ goodLines reads, line.length ≤ 255) ↔ ∀ point bits,
      ReadsDouble reads point bits → (wholeLine point (.double bits)).length ≤ 255 := by
    constructor
    · exact fun short point bits read => short _ (mem_goodLines_of_readsDouble read)
    · intro short line among
      rcases goodLines_length among with fits | ⟨point, bits, read, rfl⟩
      · exact fits
      · exact short point bits read
  rw [postedBatch_eq, ← every, ← flatten_cut_iff]
  split
  · rename_i empty
    rw [List.isEmpty_iff.mp empty]
    exact iff_of_true rfl rfl
  · rw [Option.some.injEq]

/-- The batch has whole lines exactly if every double that is read is finite and its line fits into
the buffer. -/
theorem wholeLines_iff (reads : Nat → PointRead) :
    WholeLines reads ↔ ∀ point bits, ReadsDouble reads point bits →
      IsFinite bits ∧ (wholeLine point (.double bits)).length ≤ 255 := by
  constructor
  · intro whole point bits read
    exact ⟨whole.finite point bits read, (posted_iff reads).mp whole.posted point bits read⟩
  · intro each
    exact {
      posted := (posted_iff reads).mpr fun point bits read => (each point bits read).2
      finite := fun point bits read => (each point bits read).1 }

/-- One point, `PowerGrid.PLC2.PE.Power`, is read as `1e300`, the others as true. -/
def largeReads (idx : Nat) : PointRead :=
  if idx = 52 then ⟨.good, .double 0x7E37E43C8800759C, 0⟩ else ⟨.good, .bool true, 0⟩

/-- The line of a large double is cut off. -/
theorem large_double_cut : ¬WholeLines largeReads := by
  intro whole
  have short := (posted_iff largeReads).mp whole.posted
  have found : gatewayPoints[52]? = some ⟨"PowerGrid.PLC2.PE.Power", 1465, .double⟩ := rfl
  have read : ReadsDouble largeReads ⟨"PowerGrid.PLC2.PE.Power", 1465, .double⟩
      0x7E37E43C8800759C := ⟨52, found, rfl, rfl, rfl⟩
  have cut : ¬(wholeLine ⟨"PowerGrid.PLC2.PE.Power", 1465, .double⟩
      (.double 0x7E37E43C8800759C)).length ≤ 255 := by decide +kernel
  exact cut (short _ _ read)

end OpcuaGds.Gateway.Influx
