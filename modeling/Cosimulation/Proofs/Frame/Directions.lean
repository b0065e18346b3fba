import Cosimulation.Frame.Reading
import Cosimulation.Frame.Writing
/-!
# The two directions of a channel

Whoever writes does not notice what arrives meanwhile, and whoever reads does not notice that the peer
has gone.  So it makes no difference whether bytes arrive before a frame is written or after it
(`Frame.write_deliver`), nor whether the peer goes before a frame is read or after it
(`Frame.read_hangUp`).  Both hold of single calls of the channel, and of the rows of calls in which a
frame is written and read by induction on these.
-/

namespace Cosimulation

set_option autoImplicit false

/-! ## Single calls -/

namespace Channel

/-- A write call does not notice what arrives. -/
theorem write_deliver (channel : Channel) (arrivals : List Arrival) (bytes : List UInt8) :
    (channel.deliver arrivals).write bytes =
      Prod.map id (·.deliver arrivals) (channel.write bytes) := by
  unfold write deliver
  dsimp only
  split
  · rfl
  · rfl
  · split <;> rfl

/-- A flush does not notice what arrives. -/
theorem flush_deliver (channel : Channel) (arrivals : List Arrival) :
    (channel.deliver arrivals).flush = Prod.map id (·.deliver arrivals) channel.flush := by
  unfold flush deliver
  dsimp only
  split <;> rfl

/-- A read does not notice that the peer has gone. -/
theorem read_hangUp (channel : Channel) (count : Nat) :
    channel.hangUp.read count = Prod.map id hangUp (channel.read count) := by
  unfold read hangUp
  dsimp only
  split
  · rfl
  · split <;> rfl

end Channel

/-! ## Frames -/

namespace Frame

/-- One call of the row in which bytes are written. -/
theorem writeAll_eq {bytes : List UInt8} (nonempty : bytes ≠ []) (channel : Channel) :
    writeAll bytes channel =
      match channel.write bytes with
      | (.ok 0, after) => (.error Fault.nothingWritten, after)
      | (.ok (count + 1), after) => writeAll (bytes.drop (count + 1)) after
      | (.error fault, after) =>
        if fault.kind = .interrupted then writeAll bytes after else (.error fault, after) := by
  rw [writeAll, if_neg nonempty]
  split <;> rename_i h <;> simp only [h, dite_eq_ite]

/-- Whoever writes bytes does not notice what arrives. -/
theorem writeAll_deliver (bytes : List UInt8) (channel : Channel) (arrivals : List Arrival) :
    writeAll bytes (channel.deliver arrivals) =
      Prod.map id (·.deliver arrivals) (writeAll bytes channel) := by
  fun_induction writeAll bytes channel with
  | case1 channel => rw [writeAll, if_pos rfl]; rfl
  | case2 bytes channel nonempty after h =>
    rw [writeAll_eq nonempty, Channel.write_deliver, h]
    rfl
  | case3 bytes channel nonempty count after h _ ih =>
    rw [writeAll_eq nonempty, Channel.write_deliver, h]
    exact ih
  | case4 bytes channel nonempty fault after h interrupted _ ih =>
    rw [writeAll_eq nonempty, Channel.write_deliver, h]
    exact (if_pos interrupted).trans ih
  | case5 bytes channel nonempty fault after h other =>
    rw [writeAll_eq nonempty, Channel.write_deliver, h]
    exact if_neg other

/-- Whoever writes a frame does not notice what arrives. -/
theorem write_deliver (frame : List UInt8) (channel : Channel) (arrivals : List Arrival) :
    write frame (channel.deliver arrivals) =
      Prod.map id (·.deliver arrivals) (write frame channel) := by
  unfold write
  rw [writeAll_deliver]
  generalize writeAll frame channel = written
  obtain ⟨_ | _, after⟩ := written
  · rfl
  · dsimp only [Prod.map, id]
    rw [Channel.flush_deliver]
    generalize after.flush = flushed
    obtain ⟨_ | _, _⟩ := flushed <;> rfl

/-- One call in search of a version. -/
theorem readVersion_eq (channel : Channel) :
    readVersion channel =
      match channel.read 1 with
      | (.ok [], after) => (.ok none, after)
      | (.ok (byte :: _), after) => (.ok (some byte), after)
      | (.error fault, after) =>
        if fault.kind = .interrupted then readVersion after
        else (.error (.connection (.readFailed fault.message)), after) := by
  rw [readVersion]
  split <;> rename_i h <;> simp only [h]

/-- Whoever looks for a version does not notice that the peer has gone. -/
theorem readVersion_hangUp (channel : Channel) :
    readVersion channel.hangUp = Prod.map id Channel.hangUp (readVersion channel) := by
  fun_induction readVersion channel with
  | case1 channel after h =>
    rw [readVersion_eq, Channel.read_hangUp, h]
    rfl
  | case2 channel byte bytes after h =>
    rw [readVersion_eq, Channel.read_hangUp, h]
    rfl
  | case3 channel fault after h interrupted _ ih =>
    rw [readVersion_eq, Channel.read_hangUp, h]
    exact (if_pos interrupted).trans ih
  | case4 channel fault after h other =>
    rw [readVersion_eq, Channel.read_hangUp, h]
    exact if_neg other

/-- One call of the row in which a section is read. -/
theorem readSection_eq (inside : Section) {count : Nat} (lacking : count ≠ 0)
    (reversed : List UInt8) (channel : Channel) :
    readSection inside count reversed channel =
      match channel.read count with
      | (.ok [], after) => (.error (.protocol (.truncated inside.name)), after)
      | (.ok (byte :: bytes), after) =>
        readSection inside (count - (bytes.length + 1)) ((byte :: bytes).reverseAux reversed) after
      | (.error fault, after) =>
        if fault.kind = .interrupted then readSection inside count reversed after
        else if fault.kind = .unexpectedEnd then
          (.error (.protocol (.truncated inside.name)), after)
        else (.error (.connection (.readFailed fault.message)), after) := by
  rw [readSection, if_neg lacking]
  split <;> rename_i h <;> simp only [h]

/-- Whoever reads a section does not notice that the peer has gone. -/
theorem readSection_hangUp (inside : Section) (count : Nat) (reversed : List UInt8)
    (channel : Channel) :
    readSection inside count reversed channel.hangUp =
      Prod.map id Channel.hangUp (readSection inside count reversed channel) := by
  fun_induction readSection inside count reversed channel with
  | case1 reversed channel => rw [readSection, if_pos rfl]; rfl
  | case2 count reversed channel lacking after h =>
    rw [readSection_eq inside lacking, Channel.read_hangUp, h]
    rfl
  | case3 count reversed channel lacking byte bytes after h _ ih =>
    rw [readSection_eq inside lacking, Channel.read_hangUp, h]
    exact ih
  | case4 count reversed channel lacking fault after h interrupted _ ih =>
    rw [readSection_eq inside lacking, Channel.read_hangUp, h]
    exact (if_pos interrupted).trans ih
  | case5 count reversed channel lacking fault after h other cut =>
    rw [readSection_eq inside lacking, Channel.read_hangUp, h]
    exact (if_neg other).trans (if_pos cut)
  | case6 count reversed channel lacking fault after h other uncut =>
    rw [readSection_eq inside lacking, Channel.read_hangUp, h]
    exact (if_neg other).trans (if_neg uncut)

/-- Whoever reads a checksum does not notice that the peer has gone. -/
theorem readChecksum_hangUp (payload : List UInt8) (channel : Channel) :
    readChecksum payload channel.hangUp =
      Prod.map id Channel.hangUp (readChecksum payload channel) := by
  unfold readChecksum
  rw [readSection_hangUp]
  generalize readSection .checksum 4 [] channel = stored
  obtain ⟨_ | _, _⟩ := stored
  · rfl
  · dsimp only [Prod.map, id]
    split <;> rfl

/-- Whoever reads what follows a version does not notice that the peer has gone. -/
theorem readBody_hangUp (limit : Nat) (channel : Channel) :
    readBody limit channel.hangUp = Prod.map id Channel.hangUp (readBody limit channel) := by
  unfold readBody
  rw [readSection_hangUp]
  generalize readSection .length 4 [] channel = length
  obtain ⟨_ | bytes, after⟩ := length
  · rfl
  · dsimp only [Prod.map, id]
    split
    · rfl
    · rw [readSection_hangUp]
      generalize readSection .payload (ofLittleEndian bytes).toNat [] after = payload
      obtain ⟨_ | _, _⟩ := payload
      · rfl
      · exact readChecksum_hangUp _ _

/-- Whoever reads a frame does not notice that the peer has gone. -/
theorem read_hangUp (limit : Nat) (channel : Channel) :
    read limit channel.hangUp = Prod.map id Channel.hangUp (read limit channel) := by
  unfold read
  rw [readVersion_hangUp]
  generalize readVersion channel = found
  obtain ⟨_ | _ | byte, after⟩ := found
  · rfl
  · rfl
  · dsimp only [Prod.map, id]
    split
    · rw [readBody_hangUp]
      generalize readBody limit after = body
      obtain ⟨_ | _, _⟩ := body <;> rfl
    · rfl

end Frame

end Cosimulation
