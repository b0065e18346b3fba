import Cosimulation.Frame.Reading
import Cosimulation.Frame.Writing
/-!
# Connections

A connection owns the channel to the other end and carries whole frames over it.  It is open until
it is closed; closing it shuts the channel down, once, and from then on nothing touches the channel
any more: reading and writing fail at once.
-/

namespace Cosimulation

set_option autoImplicit false

/-- One end of the channel between controller and bridge. -/
structure Connection where
  channel : Channel
  isOpen : Bool
  /-- How the other end is called. -/
  peer : String
  /-- The largest payload that is read. -/
  limit : Nat
  deriving DecidableEq, Repr

namespace Connection

/-- The open connection over a channel. -/
def ofChannel (channel : Channel) (peer : String) (limit : Nat) : Connection :=
  ⟨channel, true, peer, limit⟩

/-- Reads the payload of the next frame, if the other end has not closed between two frames. -/
def readFrame (connection : Connection) : Except Error (Option (List UInt8)) × Connection :=
  if connection.isOpen then
    match Frame.read connection.limit connection.channel with
    | (result, channel) => (result, { connection with channel })
  else (.error (.connection .closed), connection)

/-- Writes the bytes of a frame. -/
def writeFrame (connection : Connection) (frame : List UInt8) :
    Except ConnectionError Unit × Connection :=
  if connection.isOpen then
    match Frame.write frame connection.channel with
    | (result, channel) => (result, { connection with channel })
  else (.error .closed, connection)

/-- Closes the connection; closing it again does nothing. -/
def close (connection : Connection) : Connection :=
  if connection.isOpen then
    { connection with isOpen := false, channel := connection.channel.shutdown }
  else connection

/-- How much can still arrive. -/
def remaining (connection : Connection) : Nat :=
  connection.channel.remaining

/-- A frame that was read makes less remain. -/
theorem remaining_readFrame_lt {connection after : Connection} {payload : List UInt8}
    (h : connection.readFrame = (.ok (some payload), after)) :
    after.remaining < connection.remaining := by
  unfold readFrame at h
  split at h
  · split at h
    rename_i channel found
    cases h
    exact Frame.remaining_read_lt found
  · cases h

/-- Writing leaves alone what is still to arrive. -/
@[simp] theorem remaining_writeFrame (connection : Connection) (frame : List UInt8) :
    (connection.writeFrame frame).2.remaining = connection.remaining := by
  unfold writeFrame
  split
  · simp only [remaining, Channel.remaining, Frame.arrivals_write]
  · rfl

end Connection

end Cosimulation
