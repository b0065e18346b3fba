import Cosimulation.Frame.Basic
import Cosimulation.Channel
/-!
# Reading frames

A frame is read section by section.  The end of the stream is clean only in front of a frame; inside
one it leaves the frame truncated.  The version is judged before the length is read and the length
before the payload, so that nothing is taken from the channel behind the first thing that is wrong.
Interrupted reads are repeated; any other fault ends the reading.
-/

namespace Cosimulation.Frame

set_option autoImplicit false

/-- Reads the version of the next frame, if there is a next frame. -/
def readVersion (channel : Channel) : Except Error (Option UInt8) × Channel :=
  match h : channel.read 1 with
  | (.ok [], after) => (.ok none, after)
  | (.ok (byte :: _), after) => (.ok (some byte), after)
  | (.error fault, after) =>
    if fault.kind = .interrupted then
      have := Channel.remaining_read_lt h (by simp)
      readVersion after
    else (.error (.connection (.readFailed fault.message)), after)
termination_by channel.remaining

/-- Reads the `count` bytes that a section still lacks, behind the bytes already read, which are
kept last one first. -/
def readSection (inside : Section) (count : Nat) (reversed : List UInt8) (channel : Channel) :
    Except Error (List UInt8) × Channel :=
  if count = 0 then (.ok reversed.reverse, channel)
  else
    match h : channel.read count with
    | (.ok [], after) => (.error (.protocol (.truncated inside.name)), after)
    | (.ok (byte :: bytes), after) =>
      have := Channel.remaining_read_lt h (by simp)
      readSection inside (count - (bytes.length + 1)) ((byte :: bytes).reverseAux reversed) after
    | (.error fault, after) =>
      if fault.kind = .interrupted then
        have := Channel.remaining_read_lt h (by simp)
        readSection inside count reversed after
      else if fault.kind = .unexpectedEnd then (.error (.protocol (.truncated inside.name)), after)
      else (.error (.connection (.readFailed fault.message)), after)
termination_by channel.remaining

/-- Reads the checksum behind a payload and compares. -/
def readChecksum (payload : List UInt8) (channel : Channel) : Except Error (List UInt8) × Channel :=
  match readSection .checksum 4 [] channel with
  | (.error error, after) => (.error error, after)
  | (.ok bytes, after) =>
    let stored := ofLittleEndian bytes
    let computed := Checksum.ofBytes payload
    if stored = computed then (.ok payload, after)
    else (.error (.protocol (.checksumMismatch stored computed)), after)

/-- Reads what follows the version of a frame. -/
def readBody (limit : Nat) (channel : Channel) : Except Error (List UInt8) × Channel :=
  match readSection .length 4 [] channel with
  | (.error error, after) => (.error error, after)
  | (.ok bytes, after) =>
    let length := (ofLittleEndian bytes).toNat
    if limit < length then (.error (.protocol (.frameTooLarge length limit)), after)
    else
      match readSection .payload length [] after with
      | (.error error, after) => (.error error, after)
      | (.ok payload, after) => readChecksum payload after

/-- Reads the payload of the next frame, if there is a next frame. -/
def read (limit : Nat) (channel : Channel) : Except Error (Option (List UInt8)) × Channel :=
  match readVersion channel with
  | (.error error, after) => (.error error, after)
  | (.ok none, after) => (.ok none, after)
  | (.ok (some found), after) =>
    if found = version then
      match readBody limit after with
      | (.error error, after) => (.error error, after)
      | (.ok payload, after) => (.ok (some payload), after)
    else (.error (.protocol (.unsupportedVersion found version)), after)

/-! ## Reading uses the channel up -/

/-- Looking for a version never makes more remain, and finding one makes less remain. -/
theorem remaining_readVersion (channel : Channel) :
    (readVersion channel).2.remaining ≤ channel.remaining ∧
      ∀ byte, (readVersion channel).1 = .ok (some byte) →
        (readVersion channel).2.remaining < channel.remaining := by
  fun_induction readVersion channel with
  | case1 channel after h =>
    have := Channel.remaining_read_le channel 1
    rw [h] at this
    exact ⟨this, by simp⟩
  | case2 channel byte bytes after h =>
    have := Channel.remaining_read_lt h (by simp)
    exact ⟨Nat.le_of_lt this, fun _ _ => this⟩
  | case3 channel fault after h kind this ih =>
    exact ⟨by omega, fun byte found => by have := ih.2 byte found; omega⟩
  | case4 channel fault after h kind =>
    have := Channel.remaining_read_le channel 1
    rw [h] at this
    exact ⟨this, by simp⟩

/-- Reading a section never makes more remain. -/
theorem remaining_readSection (inside : Section) (count : Nat) (reversed : List UInt8)
    (channel : Channel) :
    (readSection inside count reversed channel).2.remaining ≤ channel.remaining := by
  fun_induction readSection inside count reversed channel with
  | case1 => exact Nat.le_refl _
  | case2 count reversed channel _ after h =>
    have := Channel.remaining_read_le channel count
    rwa [h] at this
  | case3 count reversed channel _ byte bytes after h this ih => omega
  | case4 count reversed channel _ fault after h kind this ih => omega
  | case5 count reversed channel _ fault after h kind kind' =>
    have := Channel.remaining_read_le channel count
    rwa [h] at this
  | case6 count reversed channel _ fault after h kind kind' =>
    have := Channel.remaining_read_le channel count
    rwa [h] at this

/-- Reading a checksum never makes more remain. -/
theorem remaining_readChecksum (payload : List UInt8) (channel : Channel) :
    (readChecksum payload channel).2.remaining ≤ channel.remaining := by
  have bound := remaining_readSection .checksum 4 [] channel
  unfold readChecksum
  split
  · simp_all
  · rename_i found
    rw [found] at bound
    dsimp only
    split <;> exact bound

/-- Reading a body never makes more remain. -/
theorem remaining_readBody (limit : Nat) (channel : Channel) :
    (readBody limit channel).2.remaining ≤ channel.remaining := by
  have lengthBound := remaining_readSection .length 4 [] channel
  unfold readBody
  split
  · rename_i found
    rwa [found] at lengthBound
  · rename_i bytes after found
    rw [found] at lengthBound
    dsimp only
    split
    · exact lengthBound
    · have payloadBound := remaining_readSection .payload (ofLittleEndian bytes).toNat [] after
      split
      · rename_i found
        rw [found] at payloadBound
        exact Nat.le_trans payloadBound lengthBound
      · rename_i payload last found
        rw [found] at payloadBound
        have := remaining_readChecksum payload last
        dsimp only at lengthBound payloadBound
        omega

/-- A frame that was read makes less remain. -/
theorem remaining_read_lt {limit : Nat} {channel after : Channel} {payload : List UInt8}
    (h : read limit channel = (.ok (some payload), after)) : after.remaining < channel.remaining := by
  have versionBound := remaining_readVersion channel
  unfold read at h
  split at h
  · cases h
  · cases h
  · rename_i found last versionRead
    rw [versionRead] at versionBound
    have front := versionBound.2 found rfl
    split at h
    · have bodyBound := remaining_readBody limit last
      split at h
      · cases h
      · rename_i bodyRead
        rw [bodyRead] at bodyBound
        cases h
        dsimp only at front bodyBound
        omega
    · cases h

end Cosimulation.Frame
