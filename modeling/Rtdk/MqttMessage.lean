import Rtdk.Json
import Rtdk.LogRecord

/-! The message buffer of the MQTT threads of RATT and LTTT (`mqtt.c`).

A message is printed piece by piece into a buffer of `LOG_MQTT_BUFFER_SIZE` bytes, and
what has been printed up to the first NUL is published. Every piece is cut to what is
left of the buffer; so the message is the first part of the text that was meant
(`published_of_holds`). -/

namespace Rtdk.MqttMessage
open Rtdk.Memory Rtdk.CString Rtdk.Snprintf Rtdk.Json
open Rtdk.LogRecord (Cursor Holds holds_nil)

def LOG_MQTT_BUFFER_COUNT : Nat := 256
def LOG_MQTT_BUFFER_SIZE : Nat := 4096

/-- The characters a message can have: the last byte of the buffer is never used, and
the last printed one is a NUL. -/
def maxText : Nat := LOG_MQTT_BUFFER_SIZE - 2

def clampWritten (written : Int32) (avail : Nat) : Int32 :=
  if written < 0 then 0
  else if sizeT written > avail then Int32.ofNat avail else written

/-- `snprintf`, `clamp_written`, and the step forward. -/
def printClamped (b : Cursor) (f : Formatted) : Cursor :=
  let data := snprintf b.data b.p b.length f
  let written := sizeT (clampWritten f.ret b.length)
  { data := data, p := b.p + written, length := b.length - written }

/-- The buffer before the first piece. -/
def startMessage (message : Mem UInt8) : Cursor :=
  ⟨write message 0 [0], 0, LOG_MQTT_BUFFER_SIZE - 1⟩

/-- What `mosquitto_publish` is given. -/
def published (message : Mem UInt8) : CStr := ofBytes (slice message 0 LOG_MQTT_BUFFER_SIZE)

theorem sizeT_ofNat {n : Nat} (h : n < 2 ^ 31) : sizeT (Int32.ofNat n) = n :=
  sizeT_of_nonneg (Int32.toInt_ofNat_of_lt h)

/-- A text is printed here as it is into the buffers of the log. -/
theorem printClamped_text (b : Cursor) {bs : List UInt8} (h : bs.length < 2 ^ 31)
    (hb : b.length < 2 ^ 31) : printClamped b (.text bs h) = b.print (.text bs h) := by
  have hret := Formatted.ret_text h
  have hpos : ¬ (Formatted.text bs h).ret < 0 := by
    rw [Int32.lt_iff_toInt_lt, hret, Int32.toInt_zero]
    omega
  have hclamp : sizeT (clampWritten (Formatted.text bs h).ret b.length) =
      if bs.length ≥ b.length then b.length else bs.length := by
    rw [clampWritten, if_neg hpos, sizeT_of_nonneg hret]
    split
    · rw [sizeT_ofNat hb, if_pos (by omega)]
    · rw [sizeT_of_nonneg hret]
      split <;> omega
  rw [printClamped, hclamp, Cursor.print, LogRecord.logAdvanceBuffer, if_neg hpos,
    sizeT_of_nonneg hret]

theorem decimal_length_le (v : UInt64) : (decimal v.toNat).length ≤ 20 := by
  have hv := v.toNat_lt
  exact decimal_length (by decide) (by omega)

theorem isColon_blank : IsColon (lit ": ") := ⟨lit " ", rfl, all_white (by decide)⟩

/-! ## What has been printed -/

/-- The buffer has been given a text. -/
def Printed (text : CStr) (b : Cursor) : Prop := Holds 0 (LOG_MQTT_BUFFER_SIZE - 1) text b

theorem printed_start (message : Mem UInt8) : Printed [] (startMessage message) := holds_nil _ _ _

section printed
variable {text bs : CStr} {b : Cursor}

theorem Printed.length_lt (h : Printed text b) : b.length < 2 ^ 31 := by
  have hlen := h.length
  have hsize : LOG_MQTT_BUFFER_SIZE - 1 = 4095 := rfl
  omega

theorem Printed.print (h : Printed text b) (hbs : bs.length < 2 ^ 31) :
    Printed (text ++ bs) (printClamped b (.text bs hbs)) := by
  rw [printClamped_text b hbs h.length_lt]
  exact Holds.print h (by decide) hbs

/-- **The message.** -/
theorem published_of_printed (h : Printed text b) (hne : text ≠ []) (hno : 0 ∉ text) :
    published b.data = text.take maxText := by
  have hlen : (text.take maxText).length = min text.length maxText := by
    rw [List.length_take, Nat.min_comm]
  have hbytes := h.bytes
  have hnul := h.nul hne
  rw [Nat.zero_add] at hnul
  have hcap : LOG_MQTT_BUFFER_SIZE - 1 - 1 = maxText := rfl
  rw [hcap] at hbytes hnul
  refine ofBytes_slice ?_ ?_ (fun hmem => hno (List.mem_of_mem_take hmem)) ?_
  · rw [hlen, hbytes]
  · rw [hlen, Nat.zero_add, hnul]
  · rw [hlen]
    exact Nat.lt_of_le_of_lt (Nat.min_le_right _ _) (by decide)

/-- A piece is printed over whatever stands at the cursor. -/
theorem printClamped_write (data : Mem UInt8) (p : Nat) {length : Nat} (x : UInt8)
    (hbs : bs.length < 2 ^ 31) (hlen : 0 < length) :
    printClamped ⟨write data p [x], p, length⟩ (.text bs hbs) =
      printClamped ⟨data, p, length⟩ (.text bs hbs) := by
  have hone : [x].length ≤ (bs.take (length - 1) ++ [0]).length := by
    rw [List.length_append]
    exact Nat.le_add_left _ _
  have hsame : snprintf (write data p [x]) p length (.text bs hbs) =
      snprintf data p length (.text bs hbs) := by
    rw [snprintf, snprintf, if_neg (Nat.ne_of_gt hlen), if_neg (Nat.ne_of_gt hlen),
      write_write data p hone]
  simp only [printClamped, hsame]

/-- **Stepping back.**  If nothing has been cut, the cursor can be taken back over the end
of the text, and the next piece replaces just that. -/
theorem Printed.reprint {gone : CStr} (h : Printed (text ++ gone) b)
    (hfits : (text ++ gone).length ≤ maxText) (hbs : bs.length < 2 ^ 31) :
    Printed (text ++ bs) (printClamped
      { b with p := b.p - gone.length, length := b.length + gone.length } (.text bs hbs)) := by
  have hmax : maxText = 4094 := rfl
  have hsize : LOG_MQTT_BUFFER_SIZE - 1 = 4095 := rfl
  have hp := h.p
  have hlen := h.length
  have hbytes := h.bytes
  rw [Nat.min_eq_left (by omega), List.length_append] at hp hlen
  rw [Nat.min_eq_left (by omega), List.take_of_length_le (by omega), List.length_append,
    slice_add] at hbytes
  obtain ⟨htext, -⟩ := List.append_inj hbytes (slice_length b.data 0 text.length)
  rw [List.length_append] at hfits
  have hback : Printed text ⟨write b.data text.length [0], text.length,
      LOG_MQTT_BUFFER_SIZE - 1 - text.length⟩ := by
    refine ⟨?_, ?_, ?_, fun _ => ?_⟩
    · rw [Nat.min_eq_left (by omega), Nat.zero_add]
    · rw [Nat.min_eq_left (by omega)]
    · rw [Nat.min_eq_left (by omega), List.take_of_length_le (by omega),
        slice_write_disjoint _ _ _ _ _ (by omega), htext]
    · rw [Nat.min_eq_left (by omega), Nat.zero_add]
      exact write_inside b.data text.length [0] 0 (by decide)
  have hprint := hback.print hbs
  rw [printClamped_write _ _ _ _ (by omega)] at hprint
  have hcursor : (⟨b.data, text.length, LOG_MQTT_BUFFER_SIZE - 1 - text.length⟩ : Cursor) =
      { b with p := b.p - gone.length, length := b.length + gone.length } := by
    rw [Cursor.mk.injEq]
    refine ⟨rfl, ?_, ?_⟩ <;> omega
  rwa [hcursor] at hprint

end printed

end Rtdk.MqttMessage
