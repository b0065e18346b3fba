import Cosimulation.Channel
import Cosimulation.Error
/-!
# Writing frames

A frame is written in as many calls as the channel needs to take all of it, and then flushed once.
Interrupted writes are repeated; a call that takes no byte, any other fault, and a flush that fails
all make the writing fail.
-/

namespace Cosimulation.Frame

set_option autoImplicit false

/-- Writes all of the bytes. -/
def writeAll (bytes : List UInt8) (channel : Channel) : Except Fault Unit × Channel :=
  if bytes = [] then (.ok (), channel)
  else
    match h : channel.write bytes with
    | (.ok 0, after) => (.error Fault.nothingWritten, after)
    | (.ok (count + 1), after) =>
      have : after.acceptances.length ≤ channel.acceptances.length := by
        have := Channel.acceptances_write_le channel bytes
        rwa [h] at this
      writeAll (bytes.drop (count + 1)) after
    | (.error fault, after) =>
      if interrupted : fault.kind = .interrupted then
        have := Channel.acceptances_write_interrupted h interrupted
        writeAll bytes after
      else (.error fault, after)
termination_by bytes.length + channel.acceptances.length
decreasing_by
  · have : bytes.length ≠ 0 := fun empty => ‹¬bytes = []› (List.length_eq_zero_iff.1 empty)
    simp only [List.length_drop]
    omega
  · omega

/-- Writes a frame and flushes the channel. -/
def write (frame : List UInt8) (channel : Channel) : Except ConnectionError Unit × Channel :=
  match writeAll frame channel with
  | (.error fault, after) => (.error (.writeFailed fault.message), after)
  | (.ok (), after) =>
    match after.flush with
    | (.error fault, after) => (.error (.writeFailed fault.message), after)
    | (.ok (), after) => (.ok (), after)

/-! ## Writing leaves the other direction alone -/

/-- Writing leaves alone what is still to arrive. -/
theorem arrivals_writeAll (bytes : List UInt8) (channel : Channel) :
    (writeAll bytes channel).2.arrivals = channel.arrivals := by
  fun_induction writeAll bytes channel with
  | case1 => rfl
  | case2 bytes channel _ after h =>
    have := Channel.arrivals_write channel bytes
    rwa [h] at this
  | case3 bytes channel _ count after h _ ih =>
    have := Channel.arrivals_write channel bytes
    rw [h] at this
    rw [ih, this]
  | case4 bytes channel _ fault after h _ _ ih =>
    have := Channel.arrivals_write channel bytes
    rw [h] at this
    rw [ih, this]
  | case5 bytes channel _ fault after h _ =>
    have := Channel.arrivals_write channel bytes
    rwa [h] at this

/-- Writing a frame leaves alone what is still to arrive. -/
@[simp] theorem arrivals_write (frame : List UInt8) (channel : Channel) :
    (write frame channel).2.arrivals = channel.arrivals := by
  have all := arrivals_writeAll frame channel
  unfold write
  split
  · rename_i found
    rwa [found] at all
  · rename_i after found
    rw [found] at all
    have := Channel.arrivals_flush after
    split
    · rename_i flushed
      rw [flushed] at this
      exact this.trans all
    · rename_i flushed
      rw [flushed] at this
      exact this.trans all

end Cosimulation.Frame
