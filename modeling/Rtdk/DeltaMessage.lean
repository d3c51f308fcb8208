import Rtdk.MqttMessage

/-! Messages with time differences (`mqtt_add_deltas` in `ratt/mqtt.c`).

A burst of the ring becomes one JSON text in the message buffer. The buffer holds 4094
characters, and 256 differences of 64 bits can need more than 6700; the rest of the text is
cut off, and what is left is no JSON any more (`deltas_complete_iff`). -/

namespace Rtdk.DeltaMessage
open Rtdk.Memory Rtdk.CString Rtdk.Snprintf Rtdk.Json Rtdk.MqttMessage
open Rtdk.LogRecord (Cursor)

def MQTT_MEASURE_NAME_DELTAS : CStr := lit "rtdk-deltas"

/-! ## The four formats -/

def headText (timestamp : UInt64) : CStr :=
  lit "\x7b\n\t\"" ++ lit "reference" ++ lit "\": \x7b\n" ++
    lit "\t\t\"Timestamp\": " ++ decimal timestamp.toNat ++ lit ",\n" ++
    lit "\t\t\"MeasurementName\": \"" ++ MQTT_MEASURE_NAME_DELTAS ++ lit "\",\n"

def statsText : CStr :=
  lit "\t\t\"" ++ lit "stats" ++ lit "\": \x7b\n\t\t\"info\": \"dtag\",\n\t\t\t\"" ++ lit "deltas" ++
    lit "\": [\n"

/-- `more` says whether another one comes. -/
def deltaText (deltaNs : UInt64) (more : Bool) : CStr :=
  lit "\t\t\t\t" ++ decimal deltaNs.toNat ++ (if more then lit ",\n" else lit "\n")

def endText : CStr := lit "\t\t\t]\n\t\t\x7d\n\t\x7d\n\x7d\n"

theorem headText_length (timestamp : UInt64) :
    (headText timestamp).length = (decimal timestamp.toNat).length + 71 := by
  simp only [headText, List.append_assoc, List.length_append]
  rw [Nat.add_comm]
  have hfront : (lit "\x7b\n\t\"").length + ((lit "reference").length + ((lit "\": \x7b\n").length +
    (lit "\t\t\"Timestamp\": ").length)) = 33 := by decide
  have hback : (lit ",\n").length + ((lit "\t\t\"MeasurementName\": \"").length +
    (MQTT_MEASURE_NAME_DELTAS.length + (lit "\",\n").length)) = 38 := by decide
  omega

theorem statsText_length : statsText.length = 46 := by decide

theorem deltaText_length (deltaNs : UInt64) (more : Bool) :
    (deltaText deltaNs more).length =
      (decimal deltaNs.toNat).length + if more then 6 else 5 := by
  have htabs : (lit "\t\t\t\t").length = 4 := by decide
  have hcomma : (lit ",\n").length = 2 := by decide
  have hline : (lit "\n").length = 1 := by decide
  rw [deltaText, List.length_append, List.length_append, htabs]
  split <;> omega

theorem endText_length : endText.length = 14 := by decide

theorem headText_fits (timestamp : UInt64) : (headText timestamp).length < 2 ^ 31 := by
  have hdigits := decimal_length_le timestamp
  rw [headText_length]
  omega

theorem statsText_fits : statsText.length < 2 ^ 31 := by decide

theorem deltaText_fits (deltaNs : UInt64) (more : Bool) :
    (deltaText deltaNs more).length < 2 ^ 31 := by
  have hdigits := decimal_length_le deltaNs
  rw [deltaText_length]
  split <;> omega

theorem endText_fits : endText.length < 2 ^ 31 := by decide

/-! ## The messages -/

/-- The loop over a burst. -/
def printDeltas (b : Cursor) : List UInt64 → Cursor
  | [] => b
  | d :: ds =>
    printDeltas (printClamped b (.text (deltaText d (!ds.isEmpty)) (deltaText_fits _ _))) ds

/-- The message buffer after a burst. -/
def deltasMessage (message : Mem UInt8) (timestamp : UInt64) (deltas : List UInt64) : Mem UInt8 :=
  let b := startMessage message
  let b := printClamped b (.text (headText timestamp) (headText_fits timestamp))
  let b := printClamped b (.text statsText statsText_fits)
  let b := printDeltas b deltas
  (printClamped b (.text endText endText_fits)).data

/-- What is dequeued, the time then, and what is published for it. -/
structure Message where
  timestamp : UInt64
  deltas : List UInt64
  text : CStr

/-- The loop of `mqtt_add_deltas`, from its `pass`-th reading of the clock on. -/
def addDeltas (clock : Nat → UInt64) (pass : Nat) (message : Mem UInt8) (deltaRing : List UInt64) :
    List Message :=
  if h : deltaRing = [] then []
  else
    let buffs := deltaRing.take LOG_MQTT_BUFFER_COUNT
    let message := deltasMessage message (clock pass) buffs
    ⟨clock pass, buffs, published message⟩ ::
      addDeltas clock (pass + 1) message (deltaRing.drop LOG_MQTT_BUFFER_COUNT)
termination_by deltaRing.length
decreasing_by
  have hpos := List.length_pos_iff.mpr h
  rw [List.length_drop]
  exact Nat.sub_lt hpos (by decide)

def mqttAddDeltas (deltasEnabled : Bool) (clock : Nat → UInt64) (message : Mem UInt8)
    (deltaRing : List UInt64) : List Message :=
  if deltasEnabled then addDeltas clock 0 message deltaRing else []

/-! ## What is wanted -/

/-- All that the formats say. -/
def itemsText : List UInt64 → CStr
  | [] => []
  | d :: ds => deltaText d (!ds.isEmpty) ++ itemsText ds

def deltasText (timestamp : UInt64) (deltas : List UInt64) : CStr :=
  headText timestamp ++ statsText ++ itemsText deltas ++ endText

def deltasValue (timestamp : UInt64) (deltas : List UInt64) : Value :=
  .object [(lit "reference", .object [
    (lit "Timestamp", .number timestamp.toNat),
    (lit "MeasurementName", .string MQTT_MEASURE_NAME_DELTAS),
    (lit "stats", .object [
      (lit "info", .string (lit "dtag")),
      (lit "deltas", .array (deltas.map fun d => .number d.toNat))])])]

/-- The text is a JSON object with these deltas, and nothing has been cut off. -/
structure Message.Complete (m : Message) : Prop where
  json : Document m.text (deltasValue m.timestamp m.deltas)
  whole : m.text = deltasText m.timestamp m.deltas

/-- The characters of a message: 131, the digits of the time stamp, and for each delta its
digits and six more, but for the comma behind the last one. -/
def messageLength (timestamp : UInt64) (deltas : List UInt64) : Nat :=
  131 + (decimal timestamp.toNat).length +
    (deltas.map fun d => (decimal d.toNat).length + 6).sum - if deltas = [] then 0 else 1

/-! ## Length -/

theorem itemsText_length (deltas : List UInt64) :
    (itemsText deltas).length + (if deltas = [] then 0 else 1) =
      (deltas.map fun d => (decimal d.toNat).length + 6).sum := by
  induction deltas with
  | nil => rfl
  | cons d ds ih =>
    rw [itemsText, List.length_append, deltaText_length, List.map_cons, List.sum_cons, ← ih]
    cases ds with
    | nil => rfl
    | cons e es =>
      simp only [List.isEmpty_cons, Bool.not_false, reduceCtorEq, if_true, if_false]
      omega

theorem deltasText_length (timestamp : UInt64) (deltas : List UInt64) :
    (deltasText timestamp deltas).length = messageLength timestamp deltas := by
  have hitems := itemsText_length deltas
  rw [deltasText, List.length_append, List.length_append, List.length_append, headText_length,
    statsText_length, endText_length, messageLength]
  omega

/-! ## What is published -/

theorem printed_deltas {text : CStr} {b : Cursor} (h : Printed text b) (deltas : List UInt64) :
    Printed (text ++ itemsText deltas) (printDeltas b deltas) := by
  induction deltas generalizing text b with
  | nil =>
    rw [itemsText, List.append_nil]
    exact h
  | cons d ds ih =>
    rw [itemsText, printDeltas, ← List.append_assoc]
    exact ih (h.print (deltaText_fits _ _))

theorem headText_noNul (timestamp : UInt64) : 0 ∉ headText timestamp := by
  have hdigits := decimal_noNul timestamp.toNat
  have hfront : 0 ∉ lit "\x7b\n\t\"" ++ lit "reference" ++ lit "\": \x7b\n" ++ lit "\t\t\"Timestamp\": " := by
    decide
  have hback : 0 ∉ lit ",\n" ++ lit "\t\t\"MeasurementName\": \"" ++ MQTT_MEASURE_NAME_DELTAS ++
      lit "\",\n" := by decide
  simp only [headText, List.mem_append, not_or] at hfront hback ⊢
  exact ⟨⟨⟨⟨⟨hfront, hdigits⟩, hback.1.1.1⟩, hback.1.1.2⟩, hback.1.2⟩, hback.2⟩

theorem itemsText_noNul (deltas : List UInt64) : 0 ∉ itemsText deltas := by
  induction deltas with
  | nil => exact List.not_mem_nil
  | cons d ds ih =>
    have hdigits := decimal_noNul d.toNat
    rw [itemsText, List.mem_append, not_or]
    refine ⟨?_, ih⟩
    rw [deltaText, List.mem_append, List.mem_append, not_or, not_or]
    refine ⟨⟨by decide, hdigits⟩, ?_⟩
    split <;> decide

theorem deltasText_noNul (timestamp : UInt64) (deltas : List UInt64) :
    0 ∉ deltasText timestamp deltas := by
  simp only [deltasText, List.mem_append, not_or]
  exact ⟨⟨⟨headText_noNul timestamp, by decide⟩, itemsText_noNul deltas⟩, by decide⟩

/-- **The message.**  As much of the text as fits. -/
theorem published_deltas (message : Mem UInt8) (timestamp : UInt64) (deltas : List UInt64) :
    published (deltasMessage message timestamp deltas) =
      (deltasText timestamp deltas).take maxText := by
  have hhead := (printed_start message).print (headText_fits timestamp)
  have hstats := hhead.print statsText_fits
  have hend := (printed_deltas hstats deltas).print endText_fits
  refine published_of_printed hend ?_ (deltasText_noNul timestamp deltas)
  exact List.append_ne_nil_of_right_ne_nil _ (by decide)

/-! ## The text is JSON -/

/-- The last format without its line feed. -/
def closing : CStr := lit "\t\t\t]\n\t\t\x7d\n\t\x7d\n\x7d"

def deltasBody (timestamp : UInt64) (deltas : List UInt64) : CStr :=
  headText timestamp ++ statsText ++ itemsText deltas ++ closing

theorem deltasText_eq (timestamp : UInt64) (deltas : List UInt64) :
    deltasText timestamp deltas = deltasBody timestamp deltas ++ lit "\n" := by
  have hend : endText = closing ++ lit "\n" := by decide
  rw [deltasText, deltasBody, hend, List.append_assoc _ closing]

theorem reads_items (deltas : List UInt64) (hne : deltas ≠ []) (w : CStr)
    (hw : ∀ c ∈ w, isWhite c = true) :
    Elements (w ++ (itemsText deltas ++ closing)) (deltas.map fun d => .number d.toNat)
      (lit "\n\t\t\x7d\n\t\x7d\n\x7d") := by
  induction deltas generalizing w with
  | nil => exact absurd rfl hne
  | cons d ds ih =>
    have hwhite : ∀ c ∈ w ++ lit "\t\t\t\t", isWhite c = true := by
      intro c hc
      rcases List.mem_append.mp hc with hc | hc
      · exact hw c hc
      · exact List.all_eq_true.mp (show (lit "\t\t\t\t").all isWhite = true by decide) c hc
    cases ds with
    | nil =>
      have htext : w ++ (itemsText [d] ++ closing) =
          (w ++ lit "\t\t\t\t") ++ (decimal d.toNat ++ (lit "\n" ++ closing)) := by
        simp [itemsText, deltaText, List.append_assoc]
      rw [htext]
      exact .last_at hwhite (reads_decimal _ (noDigit_of_skipWhite (c := 93) rfl rfl)) rfl
    | cons e es =>
      have htext : w ++ (itemsText (d :: e :: es) ++ closing) =
          (w ++ lit "\t\t\t\t") ++
            (decimal d.toNat ++ (lit "," ++ (lit "\n" ++ (itemsText (e :: es) ++ closing)))) := by
        have hcomma : lit ",\n" = lit "," ++ lit "\n" := by decide
        simp [itemsText, deltaText, List.append_assoc, hcomma]
      rw [htext]
      refine .next_at hwhite (reads_decimal _ ?_) rfl (ih (List.cons_ne_nil e es) (lit "\n") ?_)
      · exact noDigit_of_skipWhite (c := 44) rfl rfl
      · exact all_white (by decide)

theorem reads_deltas (deltas : List UInt64) :
    Reads (91 :: (lit "\n" ++ (itemsText deltas ++ closing)))
      (.array (deltas.map fun d => .number d.toNat)) (lit "\n\t\t\x7d\n\t\x7d\n\x7d") := by
  cases deltas with
  | nil => exact .noElements rfl
  | cons d ds => exact .array (reads_items (d :: ds) (List.cons_ne_nil d ds) _ (all_white (by decide)))

/-- **The text.** -/
theorem reads_deltasBody (timestamp : UInt64) (deltas : List UInt64) :
    Reads (deltasBody timestamp deltas) (deltasValue timestamp deltas) [] := by
  have htext : deltasBody timestamp deltas =
      123 :: named (lit "\n\t") (lit "reference") (lit ": ") (123 ::
        named (lit "\n\t\t") (lit "Timestamp") (lit ": ") (decimal timestamp.toNat ++ 44 ::
        named (lit "\n\t\t") (lit "MeasurementName") (lit ": ")
          (34 :: (MQTT_MEASURE_NAME_DELTAS ++ 34 :: 44 ::
        named (lit "\n\t\t") (lit "stats") (lit ": ") (123 ::
          named (lit "\n\t\t") (lit "info") (lit ": ") (34 :: (lit "dtag" ++ 34 :: 44 ::
          named (lit "\n\t\t\t") (lit "deltas") (lit ": ")
            (91 :: (lit "\n" ++ (itemsText deltas ++ closing)))))))))) := by
    simp only [deltasBody, headText, statsText, List.append_assoc]
    rfl
  rw [htext]
  refine .object (.last_at (t := lit "\n\x7d") (all_white (by decide)) (all_plain (by decide))
    isColon_blank ?_ rfl)
  refine .object (.next_at (all_white (by decide)) (all_plain (by decide)) isColon_blank
    (reads_decimal _ ?_) rfl ?_)
  · exact noDigit_of_skipWhite (c := 44) rfl rfl
  refine .next_at (all_white (by decide)) (all_plain (by decide)) isColon_blank
    (.string (all_plain (by decide))) rfl ?_
  refine .last_at (t := lit "\n\t\x7d\n\x7d") (all_white (by decide)) (all_plain (by decide))
    isColon_blank ?_ rfl
  refine .object (.next_at (all_white (by decide)) (all_plain (by decide)) isColon_blank
    (.string (all_plain (by decide))) rfl ?_)
  exact .last_at (all_white (by decide)) (all_plain (by decide)) isColon_blank (reads_deltas deltas) rfl

/-- What is left of a text that has lost more than its last line feed is no JSON. -/
theorem document_deltas_iff (timestamp : UInt64) (deltas : List UInt64) :
    (∃ v, Document ((deltasText timestamp deltas).take maxText) v) ↔
      messageLength timestamp deltas ≤ maxText + 1 := by
  have hreads := reads_deltasBody timestamp deltas
  have hlen := deltasText_length timestamp deltas
  obtain ⟨s, hs⟩ : ∃ s, deltasBody timestamp deltas = 123 :: s := ⟨_, rfl⟩
  have hline : (lit "\n").length = 1 := rfl
  rw [deltasText_eq, hs, List.length_append, hline] at hlen
  rw [hs] at hreads
  rw [deltasText_eq, hs, document_take_iff hreads (all_white (by decide)) (by decide)]
  omega

theorem document_deltasText (timestamp : UInt64) (deltas : List UInt64) :
    Document (deltasText timestamp deltas) (deltasValue timestamp deltas) := by
  rw [deltasText_eq]
  exact (reads_deltasBody timestamp deltas).document nofun (all_white (by decide))

/-! ## The bursts -/

/-- What is promised of a message. -/
structure Message.Judged (m : Message) : Prop where
  burst : 0 < m.deltas.length ∧ m.deltas.length ≤ LOG_MQTT_BUFFER_COUNT
  complete : m.Complete ↔ messageLength m.timestamp m.deltas ≤ maxText
  json : (∃ v, Document m.text v) ↔ messageLength m.timestamp m.deltas ≤ maxText + 1

theorem judged_deltas (message : Mem UInt8) (timestamp : UInt64) {deltas : List UInt64}
    (hpos : 0 < deltas.length) (hcount : deltas.length ≤ LOG_MQTT_BUFFER_COUNT) :
    Message.Judged ⟨timestamp, deltas, published (deltasMessage message timestamp deltas)⟩ := by
  have hlen := deltasText_length timestamp deltas
  rw [published_deltas]
  refine ⟨⟨hpos, hcount⟩, ⟨fun h => ?_, fun h => ?_⟩, document_deltas_iff timestamp deltas⟩
  · rw [← hlen, ← List.take_eq_self_iff]
    exact h.whole
  · have hall : (deltasText timestamp deltas).take maxText = deltasText timestamp deltas := by
      rw [List.take_eq_self_iff, hlen]
      exact h
    rw [hall]
    exact ⟨document_deltasText timestamp deltas, rfl⟩

theorem addDeltas_spec (clock : Nat → UInt64) (pass : Nat) (message : Mem UInt8)
    (deltaRing : List UInt64) :
    ((addDeltas clock pass message deltaRing).map Message.deltas).flatten = deltaRing ∧
      (∀ m ∈ addDeltas clock pass message deltaRing, m.Judged) ∧
      (addDeltas clock pass message deltaRing).map Message.timestamp =
        (List.range' pass (addDeltas clock pass message deltaRing).length).map clock := by
  fun_induction addDeltas clock pass message deltaRing with
  | case1 => exact ⟨rfl, by simp, rfl⟩
  | case2 pass message deltaRing hne buffs message' ih =>
    obtain ⟨hflat, hjudged, htime⟩ := ih
    refine ⟨?_, ?_, ?_⟩
    · rw [List.map_cons, List.flatten_cons, hflat]
      exact List.take_append_drop _ _
    · intro m hm
      rcases List.mem_cons.mp hm with rfl | hm
      · refine judged_deltas message (clock pass) ?_ ?_
        · rw [List.length_take]
          exact Nat.lt_min.mpr ⟨by decide, List.length_pos_iff.mpr hne⟩
        · rw [List.length_take]
          exact Nat.min_le_left _ _
      · exact hjudged m hm
    · rw [List.map_cons, htime, List.length_cons, List.range'_succ, List.map_cons]

/-- **Time differences.**  Whatever is in the ring is published once, in order and in bursts;
a message is complete just if its text fits the buffer. -/
theorem deltas_complete_iff (clock : Nat → UInt64) (message : Mem UInt8)
    (deltaRing : List UInt64) :
    let ms := mqttAddDeltas true clock message deltaRing
    (ms.map Message.deltas).flatten = deltaRing ∧
      ms.map Message.timestamp = (List.range ms.length).map clock ∧ ∀ m ∈ ms, m.Judged := by
  obtain ⟨hflat, hjudged, htime⟩ := addDeltas_spec clock 0 message deltaRing
  rw [mqttAddDeltas, if_pos rfl]
  refine ⟨hflat, ?_, hjudged⟩
  rw [htime, List.range_eq_range']

/-! A full burst of the largest differences. -/

def largeDeltas : List UInt64 := List.replicate LOG_MQTT_BUFFER_COUNT 18446744073709551615

theorem largeDeltas_length : messageLength 1746903329812009200 largeDeltas = 6805 := by
  have hdelta : (decimal (18446744073709551615 : UInt64).toNat).length = 20 := by decide +kernel
  have htime : (decimal (1746903329812009200 : UInt64).toNat).length = 19 := by decide +kernel
  have hne : largeDeltas ≠ [] := nofun
  rw [messageLength, htime, if_neg hne, largeDeltas, List.map_replicate, hdelta,
    List.sum_replicate_nat]
  rfl

theorem large_deltas_cut :
    let ms := mqttAddDeltas true (fun _ => 1746903329812009200) (fun _ => 0) largeDeltas
    ∃ m ∈ ms, m.deltas = largeDeltas ∧ ¬ m.Complete ∧ ¬ ∃ v, Document m.text v := by
  have hlen : largeDeltas.length = LOG_MQTT_BUFFER_COUNT := List.length_replicate
  have hne : largeDeltas ≠ [] := nofun
  have hjudged : Message.Judged ⟨1746903329812009200, largeDeltas,
      published (deltasMessage (fun _ => 0) 1746903329812009200 largeDeltas)⟩ :=
    judged_deltas _ _ (List.length_pos_iff.mpr hne) (Nat.le_of_eq hlen)
  obtain ⟨-, hcomplete, hjson⟩ := hjudged
  rw [largeDeltas_length] at hcomplete hjson
  refine ⟨_, ?_, rfl, mt hcomplete.mp (by decide), mt hjson.mp (by decide)⟩
  rw [mqttAddDeltas, if_pos rfl, addDeltas, dif_neg hne, List.take_of_length_le (Nat.le_of_eq hlen)]
  exact List.mem_cons_self

end Rtdk.DeltaMessage
