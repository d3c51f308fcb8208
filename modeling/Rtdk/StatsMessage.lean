import Rtdk.MqttMessage

/-! Messages with statistics (`mqtt_add_stats` in `ratt/mqtt.c` and `launch-time/mqtt.c`).

One record of statistics becomes one JSON text. Each field is printed with a comma and a
line feed behind it; behind the last field the cursor steps back over both, and the end of
the text is printed there. All fields fit the buffer whatever their values, so stepping back
removes just these two characters (`ratt_stats_complete`). -/

namespace Rtdk.StatsMessage
open Rtdk.Memory Rtdk.CString Rtdk.Snprintf Rtdk.Json Rtdk.MqttMessage
open Rtdk.LogRecord (Cursor)

/-! ## Records -/

/-- The counters of `struct rte_eth_stats` that are printed. -/
structure EthStats where
  ipackets : UInt64
  opackets : UInt64
  ibytes : UInt64
  obytes : UInt64
  imissed : UInt64
  ierrors : UInt64
  oerrors : UInt64
  rxNombuf : UInt64
  deriving Inhabited

/-- `mqtt_statistics_t`. -/
structure MqttStatistics (S : Type) where
  timestamp : UInt64
  stats : S
  portStats : EthStats

/-- A name that needs no escapes. -/
structure Name where
  bytes : CStr
  short : bytes.length ≤ 32
  plain : ∀ c ∈ bytes, isPlain c = true

/-- A name and the value that is printed for it. -/
structure Field where
  name : Name
  value : UInt64

/-- What an application prints: its measurement name, and the fields of a record. -/
structure App (S : Type) where
  measurementName : Name
  fields : S → EthStats → List Field
  nonempty : ∀ s port, fields s port ≠ []
  few : ∀ s port, (fields s port).length ≤ 48
  once : ∀ s port, ((fields s port).map fun f => f.name.bytes).Nodup

/-! ## Printing -/

def headText (name : CStr) (timestamp : UInt64) : CStr :=
  lit "\x7b\n" ++ lit "\t\"reference\": \x7b\n" ++
    lit "\t\t\"Timestamp\":" ++ decimal timestamp.toNat ++ lit ",\n" ++
    lit "\t\t\"MeasurementName\":\"" ++ name ++ lit "\",\n" ++
    lit "\t\t\"stats\": \x7b\n"

def fieldText (f : Field) : CStr :=
  lit "\t\t\t\"" ++ f.name.bytes ++ lit "\" : " ++ decimal f.value.toNat ++ lit ",\n"

def endText : CStr := lit "\n\t\t\x7d\t\t\n\t\x7d\n\x7d\n"

theorem headText_length (name : Name) (timestamp : UInt64) :
    (headText name.bytes timestamp).length ≤ 140 := by
  have hname := name.short
  have hdigits := decimal_length_le timestamp
  have hfront : (lit "\x7b\n" ++ lit "\t\"reference\": \x7b\n" ++ lit "\t\t\"Timestamp\":").length ≤ 40 := by
    decide
  have hback : (lit ",\n").length + (lit "\t\t\"MeasurementName\":\"").length + (lit "\",\n").length +
      (lit "\t\t\"stats\": \x7b\n").length ≤ 48 := by decide
  simp only [headText, List.length_append] at hfront ⊢
  omega

theorem fieldText_length (f : Field) : (fieldText f).length ≤ 62 := by
  have hname := f.name.short
  have hdigits := decimal_length_le f.value
  have hlits : (lit "\t\t\t\"").length + (lit "\" : ").length + (lit ",\n").length = 10 := by decide
  simp only [fieldText, List.length_append]
  omega

theorem headText_fits (name : Name) (timestamp : UInt64) :
    (headText name.bytes timestamp).length < 2 ^ 31 :=
  Nat.lt_of_le_of_lt (headText_length name timestamp) (by decide)

theorem fieldText_fits (f : Field) : (fieldText f).length < 2 ^ 31 :=
  Nat.lt_of_le_of_lt (fieldText_length f) (by decide)

theorem endText_fits : endText.length < 2 ^ 31 := by decide

/-- `append_mqtt_stats`. -/
def appendMqttStats (b : Cursor) (f : Field) : Cursor :=
  let text := Formatted.text (fieldText f) (fieldText_fits f)
  let b := { b with data := snprintf b.data b.p b.length text }
  if text.ret < 0 then b
  else
    let written := if sizeT text.ret > b.length then b.length else sizeT text.ret
    { b with p := b.p + written, length := b.length - written }

section model
variable {S : Type}

/-- The buffer in front of the step back. -/
def printFields (app : App S) (message : Mem UInt8) (r : MqttStatistics S) : Cursor :=
  let b := startMessage message
  let b := printClamped b
    (.text (headText app.measurementName.bytes r.timestamp) (headText_fits _ _))
  (app.fields r.stats r.portStats).foldl appendMqttStats b

/-- The message buffer after one record. -/
def statsMessage (app : App S) (message : Mem UInt8) (r : MqttStatistics S) : Mem UInt8 :=
  let b := printFields app message r
  let b := { b with p := b.p - 2, length := b.length + 2 }
  (printClamped b (.text endText endText_fits)).data

end model

/-! ## The two applications -/

def key (s : String) (short : (lit s).length ≤ 32 := by decide)
    (plain : (lit s).all isPlain = true := by decide) : Name :=
  ⟨lit s, short, List.all_eq_true.mp plain⟩

structure MinAvgMax where
  minNs : UInt64
  maxNs : UInt64
  avgNs : UInt64
  sumNs : UInt64
  count : UInt64
  deriving Inhabited

structure PktCount where
  rx : UInt64
  tx : UInt64
  deriving Inhabited

namespace Ratt

/-- The fields of `stats_t` that are printed. -/
structure Stats where
  rtt : MinAvgMax
  spike : MinAvgMax
  snapshot : MinAvgMax
  rxSnapshot : MinAvgMax
  txSnapshot : MinAvgMax
  totalPkts : PktCount
  rxPps : UInt64
  txPps : UInt64
  noMbufs : UInt64
  noTimestamp : UInt64
  idError : UInt64
  txRingFull : UInt64
  rxTimeout : UInt64
  rxTryExtraTime : UInt64
  deriving Inhabited

def fields (stats : Stats) (port : EthStats) : List Field := [
  ⟨key "rttMinNs", stats.rtt.minNs⟩,
  ⟨key "rttMaxNs", stats.rtt.maxNs⟩,
  ⟨key "rttSumNs", stats.rtt.sumNs⟩,
  ⟨key "rttCount", stats.rtt.count⟩,
  ⟨key "rttAvgNs", stats.rtt.avgNs⟩,
  ⟨key "snapRttMinNs", stats.snapshot.minNs⟩,
  ⟨key "snapRttMaxNs", stats.snapshot.maxNs⟩,
  ⟨key "snapRttSumNs", stats.snapshot.sumNs⟩,
  ⟨key "snapRttCount", stats.snapshot.count⟩,
  ⟨key "snapRttAvgNs", stats.snapshot.avgNs⟩,
  ⟨key "spikeRttMinNs", stats.spike.minNs⟩,
  ⟨key "spikeRttMaxNs", stats.spike.maxNs⟩,
  ⟨key "spikeRttSumNs", stats.spike.sumNs⟩,
  ⟨key "spikeRttCount", stats.spike.count⟩,
  ⟨key "spikeRttAvgNs", stats.spike.avgNs⟩,
  ⟨key "rxSnapshotMinNs", stats.rxSnapshot.minNs⟩,
  ⟨key "rxSnapshotMaxNs", stats.rxSnapshot.maxNs⟩,
  ⟨key "rxSnapshotSumNs", stats.rxSnapshot.sumNs⟩,
  ⟨key "rxSnapshotCount", stats.rxSnapshot.count⟩,
  ⟨key "rxSnapshotAvgNs", stats.rxSnapshot.avgNs⟩,
  ⟨key "txSnapshotMinNs", stats.txSnapshot.minNs⟩,
  ⟨key "txSnapshotMaxNs", stats.txSnapshot.maxNs⟩,
  ⟨key "txSnapshotSumNs", stats.txSnapshot.sumNs⟩,
  ⟨key "txSnapshotCount", stats.txSnapshot.count⟩,
  ⟨key "txSnapshotAvgNs", stats.txSnapshot.avgNs⟩,
  ⟨key "rxPPS", stats.rxPps⟩,
  ⟨key "txPPS", stats.txPps⟩,
  ⟨key "noMBufs", stats.noMbufs⟩,
  ⟨key "noTimestamp", stats.noTimestamp⟩,
  ⟨key "idError", stats.idError⟩,
  ⟨key "txRingFull", stats.txRingFull⟩,
  ⟨key "rxTimeout", stats.rxTimeout⟩,
  ⟨key "rxTryExtraTime", stats.rxTryExtraTime⟩,
  ⟨key "totalPktsRx", stats.totalPkts.rx⟩,
  ⟨key "totalPktsTx", stats.totalPkts.tx⟩,
  ⟨key "ipackets", port.ipackets⟩,
  ⟨key "opackets", port.opackets⟩,
  ⟨key "ibytes", port.ibytes⟩,
  ⟨key "obytes", port.obytes⟩,
  ⟨key "imissed", port.imissed⟩,
  ⟨key "ierrors", port.ierrors⟩,
  ⟨key "oerrors", port.oerrors⟩,
  ⟨key "rxNoMbuf", port.rxNombuf⟩]

def app : App Stats where
  measurementName := key "rtdk-stats"
  fields := fields
  nonempty _ _ := List.cons_ne_nil _ _
  few _ _ := Nat.le_of_ble_eq_true rfl
  once stats port := by
    have hnames : (fields stats port).map (fun f => f.name.bytes) =
        (fields default default).map fun f => f.name.bytes := rfl
    rw [hnames]
    decide +kernel

end Ratt

namespace Lttt

structure Stats where
  totalPkts : PktCount
  rxPps : UInt64
  txPps : UInt64
  noMbufs : UInt64
  deriving Inhabited

def fields (stats : Stats) (port : EthStats) : List Field := [
  ⟨key "rxPPS", stats.rxPps⟩,
  ⟨key "txPPS", stats.txPps⟩,
  ⟨key "noMBufs", stats.noMbufs⟩,
  ⟨key "totalPktsRx", stats.totalPkts.rx⟩,
  ⟨key "totalPktsTx", stats.totalPkts.tx⟩,
  ⟨key "ipackets", port.ipackets⟩,
  ⟨key "opackets", port.opackets⟩,
  ⟨key "ibytes", port.ibytes⟩,
  ⟨key "obytes", port.obytes⟩,
  ⟨key "imissed", port.imissed⟩,
  ⟨key "ierrors", port.ierrors⟩,
  ⟨key "oerrors", port.oerrors⟩,
  ⟨key "rxNoMbuf", port.rxNombuf⟩]

def app : App Stats where
  measurementName := key "lttt-stats"
  fields := fields
  nonempty _ _ := List.cons_ne_nil _ _
  few _ _ := Nat.le_of_ble_eq_true rfl
  once stats port := by
    have hnames : (fields stats port).map (fun f => f.name.bytes) =
        (fields default default).map fun f => f.name.bytes := rfl
    rw [hnames]
    decide +kernel

end Lttt

/-! ## What is wanted -/

/-- A published value with its name. -/
abbrev Item := CStr × UInt64

/-- What is published of an accumulator, under the name of what it measures. -/
def MinAvgMax.items (name : CStr) (a : MinAvgMax) : List Item :=
  [(name ++ lit "MinNs", a.minNs), (name ++ lit "MaxNs", a.maxNs), (name ++ lit "SumNs", a.sumNs),
    (name ++ lit "Count", a.count), (name ++ lit "AvgNs", a.avgNs)]

def PktCount.items (p : PktCount) : List Item :=
  [(lit "totalPktsRx", p.rx), (lit "totalPktsTx", p.tx)]

def EthStats.items (port : EthStats) : List Item :=
  [(lit "ipackets", port.ipackets), (lit "opackets", port.opackets), (lit "ibytes", port.ibytes),
    (lit "obytes", port.obytes), (lit "imissed", port.imissed), (lit "ierrors", port.ierrors),
    (lit "oerrors", port.oerrors), (lit "rxNoMbuf", port.rxNombuf)]

/-- The record of RATT: five accumulators, eight counters, two totals and the port. -/
def Ratt.items (stats : Stats) (port : EthStats) : List Item :=
  stats.rtt.items (lit "rtt") ++ stats.snapshot.items (lit "snapRtt") ++
    stats.spike.items (lit "spikeRtt") ++ stats.rxSnapshot.items (lit "rxSnapshot") ++
    stats.txSnapshot.items (lit "txSnapshot") ++
    [(lit "rxPPS", stats.rxPps), (lit "txPPS", stats.txPps), (lit "noMBufs", stats.noMbufs),
      (lit "noTimestamp", stats.noTimestamp), (lit "idError", stats.idError),
      (lit "txRingFull", stats.txRingFull), (lit "rxTimeout", stats.rxTimeout),
      (lit "rxTryExtraTime", stats.rxTryExtraTime)] ++
    stats.totalPkts.items ++ port.items

/-- The record of LTTT. -/
def Lttt.items (stats : Stats) (port : EthStats) : List Item :=
  [(lit "rxPPS", stats.rxPps), (lit "txPPS", stats.txPps), (lit "noMBufs", stats.noMbufs)] ++
    stats.totalPkts.items ++ port.items

/-- An item without the comma behind it. -/
def itemText (i : Item) : CStr :=
  lit "\t\t\t\"" ++ i.1 ++ lit "\" : " ++ decimal i.2.toNat

/-- Items with commas between them. -/
def itemsText : List Item → CStr
  | [] => []
  | [i] => itemText i
  | i :: is => itemText i ++ (lit ",\n" ++ itemsText is)

/-- The text up to the last value. -/
def bodyText (name : CStr) (timestamp : UInt64) (items : List Item) : CStr :=
  headText name timestamp ++ itemsText items

def statsText (name : CStr) (timestamp : UInt64) (items : List Item) : CStr :=
  bodyText name timestamp items ++ endText

def statsValue (name : CStr) (timestamp : UInt64) (items : List Item) : Value :=
  .object [(lit "reference", .object [
    (lit "Timestamp", .number timestamp.toNat),
    (lit "MeasurementName", .string name),
    (lit "stats", .object (items.map fun i => (i.1, .number i.2.toNat)))])]

/-- What is published for a record with these items, and what the step back removes. -/
structure Complete {S : Type} (app : App S) (name : CStr) (items : S → EthStats → List Item)
    (message : Mem UInt8) (r : MqttStatistics S) : Prop where
  whole : published (statsMessage app message r) =
    statsText name r.timestamp (items r.stats r.portStats)
  json : Document (published (statsMessage app message r))
    (statsValue name r.timestamp (items r.stats r.portStats))
  once : ((items r.stats r.portStats).map Prod.fst).Nodup
  stepBack : let b := printFields app message r
    slice b.data 0 b.p = bodyText name r.timestamp (items r.stats r.portStats) ++ lit ",\n"

/-! ## Printing a field -/

section printing
variable {S : Type} {text : CStr} {b : Cursor}

theorem appendMqttStats_eq (b : Cursor) (f : Field) (hb : b.length < 2 ^ 31) :
    appendMqttStats b f = printClamped b (.text (fieldText f) (fieldText_fits f)) := by
  have hret := Formatted.ret_text (fieldText_fits f)
  have hpos : ¬ (Formatted.text (fieldText f) (fieldText_fits f)).ret < 0 := by
    rw [Int32.lt_iff_toInt_lt, hret, Int32.toInt_zero]
    omega
  rw [printClamped_text b (fieldText_fits f) hb, Cursor.print, LogRecord.logAdvanceBuffer,
    if_neg hpos, appendMqttStats]
  simp only [if_neg hpos, sizeT_of_nonneg hret]
  rcases Nat.lt_trichotomy (fieldText f).length b.length with hlt | heq | hgt
  · rw [if_neg (by omega), if_neg (by omega)]
  · rw [if_neg (by omega), if_pos (by omega), heq]
  · rw [if_pos (by omega), if_pos (by omega)]

theorem printed_fields (h : Printed text b) (fs : List Field) :
    Printed (text ++ fs.flatMap fieldText) (fs.foldl appendMqttStats b) := by
  induction fs generalizing text b with
  | nil =>
    rw [List.flatMap_nil, List.append_nil]
    exact h
  | cons f fs ih =>
    rw [List.flatMap_cons, List.foldl_cons, ← List.append_assoc,
      appendMqttStats_eq b f h.length_lt]
    exact ih (h.print (fieldText_fits f))

/-- The item a field prints. -/
def Field.item (f : Field) : Item := (f.name.bytes, f.value)

/-- The items an application prints. -/
def App.items (app : App S) (stats : S) (port : EthStats) : List Item :=
  (app.fields stats port).map Field.item

theorem fieldText_eq (f : Field) : fieldText f = itemText f.item ++ lit ",\n" := rfl

theorem itemsText_cons (f g : Field) (fs : List Field) :
    itemsText ((f :: g :: fs).map Field.item) =
      itemText f.item ++ (lit ",\n" ++ itemsText ((g :: fs).map Field.item)) := rfl

/-- The fields end with a comma and a line feed. -/
theorem flatMap_fieldText {fs : List Field} (hne : fs ≠ []) :
    fs.flatMap fieldText = itemsText (fs.map Field.item) ++ lit ",\n" := by
  induction fs with
  | nil => exact absurd rfl hne
  | cons f fs ih =>
    cases fs with
    | nil =>
      rw [List.flatMap_cons, List.flatMap_nil, List.append_nil, fieldText_eq, List.map_singleton,
        itemsText]
    | cons g gs =>
      rw [List.flatMap_cons, ih (List.cons_ne_nil g gs), fieldText_eq, itemsText_cons]
      simp only [List.append_assoc]

theorem flatMap_fieldText_length {n : Nat} (fs : List Field) (h : fs.length ≤ n) :
    (fs.flatMap fieldText).length ≤ 62 * n := by
  induction fs generalizing n with
  | nil => exact Nat.zero_le _
  | cons f fs ih =>
    obtain ⟨k, rfl⟩ := Nat.exists_eq_add_of_le' (Nat.le_trans (Nat.le_add_left 1 _) h)
    have hrest := ih (Nat.le_of_succ_le_succ h)
    have hf := fieldText_length f
    rw [List.flatMap_cons, List.length_append]
    omega

/-- The text an application prints up to its last value. -/
def App.body (app : App S) (r : MqttStatistics S) : CStr :=
  bodyText app.measurementName.bytes r.timestamp (app.items r.stats r.portStats)

def App.message (app : App S) (r : MqttStatistics S) : CStr := app.body r ++ endText

/-- Everything that is printed fits. -/
theorem body_fits (app : App S) (r : MqttStatistics S) :
    (app.body r ++ lit ",\n").length ≤ 3200 := by
  have hhead := headText_length app.measurementName r.timestamp
  have hfields := flatMap_fieldText_length _ (app.few r.stats r.portStats)
  rw [App.body, bodyText, App.items, List.append_assoc, ← flatMap_fieldText (app.nonempty _ _),
    List.length_append]
  omega

theorem printed_printFields (app : App S) (message : Mem UInt8) (r : MqttStatistics S) :
    Printed (app.body r ++ lit ",\n") (printFields app message r) := by
  have hhead := (printed_start message).print (headText_fits app.measurementName r.timestamp)
  have hfields := printed_fields hhead (app.fields r.stats r.portStats)
  rw [flatMap_fieldText (app.nonempty _ _), ← List.append_assoc] at hfields
  exact hfields

end printing

/-! ## The text is JSON -/

theorem isColon_blanks : IsColon (lit " : ") := ⟨lit " ", rfl, all_white (by decide)⟩

theorem isColon_bare : IsColon (lit ":") := ⟨[], rfl, all_white (by decide)⟩

theorem itemText_append (w : CStr) (i : Item) (x : CStr) :
    w ++ (itemText i ++ x) = named (w ++ lit "\t\t\t") i.1 (lit " : ")
      (decimal i.2.toNat ++ x) := by
  have hquote : lit "\t\t\t\"" = lit "\t\t\t" ++ [34] := by decide
  have hcolon : lit "\" : " = 34 :: lit " : " := by decide
  simp [itemText, named, hquote, hcolon]

theorem reads_items (fs : List Field) (hne : fs ≠ []) (w : CStr)
    (hw : ∀ c ∈ w, isWhite c = true) :
    Members (w ++ (itemsText (fs.map Field.item) ++ endText))
      ((fs.map Field.item).map fun i => (i.1, .number i.2.toNat)) (lit "\t\t\n\t\x7d\n\x7d\n") := by
  induction fs generalizing w with
  | nil => exact absurd rfl hne
  | cons f fs ih =>
    have hwhite : ∀ c ∈ w ++ lit "\t\t\t", isWhite c = true := by
      intro c hc
      rcases List.mem_append.mp hc with hc | hc
      · exact hw c hc
      · exact List.all_eq_true.mp (show (lit "\t\t\t").all isWhite = true by decide) c hc
    cases fs with
    | nil =>
      rw [List.map_singleton, itemsText, itemText_append]
      refine .last_at hwhite f.name.plain isColon_blanks (reads_decimal _ ?_) rfl
      exact noDigit_of_skipWhite (c := 125) rfl rfl
    | cons g gs =>
      have hcomma : lit ",\n" = 44 :: lit "\n" := by decide
      rw [itemsText_cons, List.append_assoc, itemText_append, hcomma, List.append_assoc,
        List.cons_append]
      refine .next_at hwhite f.name.plain isColon_blanks (reads_decimal _ ?_) rfl
        (ih (List.cons_ne_nil g gs) (lit "\n") (all_white (by decide)))
      exact noDigit_of_skipWhite (c := 44) rfl rfl

/-- **The text.** -/
theorem reads_statsText {S : Type} (app : App S) (r : MqttStatistics S) :
    Reads (app.message r)
      (statsValue app.measurementName.bytes r.timestamp (app.items r.stats r.portStats))
      (lit "\n") := by
  have htext : app.message r =
      123 :: named (lit "\n\t") (lit "reference") (lit ": ") (123 ::
        named (lit "\n\t\t") (lit "Timestamp") (lit ":") (decimal r.timestamp.toNat ++ 44 ::
        named (lit "\n\t\t") (lit "MeasurementName") (lit ":")
          (34 :: (app.measurementName.bytes ++ 34 :: 44 ::
        named (lit "\n\t\t") (lit "stats") (lit ": ") (123 ::
          (lit "\n" ++ (itemsText (app.items r.stats r.portStats) ++ endText))))))) := by
    simp only [App.message, App.body, bodyText, headText, List.append_assoc]
    rfl
  have hname := app.measurementName.plain
  rw [htext]
  refine .object (.last_at (t := lit "\n\x7d\n") (all_white (by decide)) (all_plain (by decide))
    isColon_blank ?_ rfl)
  refine .object (.next_at (all_white (by decide)) (all_plain (by decide)) isColon_bare
    (reads_decimal _ ?_) rfl ?_)
  · exact noDigit_of_skipWhite (c := 44) rfl rfl
  refine .next_at (all_white (by decide)) (all_plain (by decide)) isColon_bare (.string hname) rfl ?_
  refine .last_at (t := lit "\t\t\n\t\x7d\n\x7d\n") (all_white (by decide)) (all_plain (by decide))
    isColon_blank ?_ rfl
  exact .object (reads_items _ (app.nonempty _ _) _ (all_white (by decide)))

/-! ## Complete messages -/

section complete
variable {S : Type}

theorem Name.noNul (name : Name) : 0 ∉ name.bytes := by
  intro h
  exact absurd (name.plain 0 h) (by decide)

theorem itemsText_noNul (fs : List Field) : 0 ∉ itemsText (fs.map Field.item) := by
  induction fs with
  | nil => exact List.not_mem_nil
  | cons f fs ih =>
    have hname := f.name.noNul
    have hdigits := decimal_noNul f.value.toNat
    have hopen : 0 ∉ lit "\t\t\t\"" := by decide
    have hmid : 0 ∉ lit "\" : " := by decide
    have hitem : 0 ∉ itemText f.item := by
      simp only [itemText, Field.item, List.mem_append, not_or]
      exact ⟨⟨⟨hopen, hname⟩, hmid⟩, hdigits⟩
    cases fs with
    | nil => exact hitem
    | cons g gs =>
      rw [itemsText_cons, List.mem_append, List.mem_append, not_or, not_or]
      exact ⟨hitem, by decide, ih⟩

theorem statsText_noNul (app : App S) (r : MqttStatistics S) : 0 ∉ app.message r := by
  have hname := app.measurementName.noNul
  have hdigits := decimal_noNul r.timestamp.toNat
  have hitems := itemsText_noNul (app.fields r.stats r.portStats)
  have hfront : 0 ∉ lit "\x7b\n" ++ lit "\t\"reference\": \x7b\n" ++ lit "\t\t\"Timestamp\":" := by decide
  have hmid : 0 ∉ lit ",\n" ++ lit "\t\t\"MeasurementName\":\"" := by decide
  have hback : 0 ∉ lit "\",\n" ++ lit "\t\t\"stats\": \x7b\n" := by decide
  have hend : 0 ∉ endText := by decide
  simp only [App.message, App.body, bodyText, headText, List.mem_append, not_or] at hfront hmid hback ⊢
  exact ⟨⟨⟨⟨⟨⟨⟨⟨hfront, hdigits⟩, hmid.1⟩, hmid.2⟩, hname⟩, hback.1⟩, hback.2⟩, hitems⟩, hend⟩

/-- **The message.** -/
theorem published_stats (app : App S) (message : Mem UInt8) (r : MqttStatistics S) :
    published (statsMessage app message r) = app.message r := by
  have hfits := body_fits app r
  have hmax : maxText = 4094 := rfl
  have hend : endText.length = 12 := by decide
  have hprinted := (printed_printFields app message r).reprint
    (Nat.le_trans hfits (by decide)) endText_fits
  have hne : app.message r ≠ [] := List.append_ne_nil_of_right_ne_nil _ (by decide)
  have hpub := published_of_printed hprinted hne (statsText_noNul app r)
  rw [List.take_of_length_le] at hpub
  · exact hpub
  · rw [App.message, List.length_append] at *
    omega

/-- **Any application.** -/
theorem stats_complete (app : App S) {name : CStr} {items : S → EthStats → List Item}
    (hname : app.measurementName.bytes = name) (message : Mem UInt8) (r : MqttStatistics S)
    (hitems : app.items r.stats r.portStats = items r.stats r.portStats) :
    Complete app name items message r where
  whole := by
    rw [← hname, ← hitems]
    exact published_stats app message r
  json := by
    have hreads := reads_statsText app r
    rw [published_stats, ← hname, ← hitems]
    refine ⟨lit "\n", ?_, rfl⟩
    rwa [hreads.skipWhite]
  once := by
    rw [← hitems, App.items, List.map_map]
    exact app.once r.stats r.portStats
  stepBack := by
    have hprinted := printed_printFields app message r
    have hfits := body_fits app r
    have hsize : LOG_MQTT_BUFFER_SIZE - 1 = 4095 := rfl
    have hp := hprinted.p
    have hbytes := hprinted.bytes
    rw [Nat.min_eq_left (by omega), Nat.zero_add] at hp
    rw [Nat.min_eq_left (by omega), List.take_of_length_le (by omega)] at hbytes
    show slice _ 0 (printFields app message r).p = _
    rw [hp, ← hname, ← hitems]
    exact hbytes

end complete

/-- **Statistics of RATT.** -/
theorem ratt_stats_complete (message : Mem UInt8) (r : MqttStatistics Ratt.Stats) :
    Complete Ratt.app (lit "rtdk-stats") Ratt.items message r :=
  stats_complete Ratt.app rfl message r rfl

/-- **Statistics of LTTT.** -/
theorem lttt_stats_published (message : Mem UInt8) (r : MqttStatistics Lttt.Stats) :
    Complete Lttt.app (lit "lttt-stats") Lttt.items message r :=
  stats_complete Lttt.app rfl message r rfl

end Rtdk.StatsMessage
