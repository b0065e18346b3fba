import Cosimulation.Fault
/-!
# Channels

A channel is a byte stream in both directions, given as everything that will happen on it: what
arrives and in which pieces, how much each write takes, which calls fail.  It also keeps what has
happened so far: the bytes taken from it, the bytes written to it, and how often it was flushed and
shut down.  Reading and writing are therefore plain functions from one channel to the next, and a
statement about every channel is a statement about every way in which a stream can behave.

`remaining` measures what can still arrive.  Every read that brings bytes or fails makes it smaller,
so a reader that goes on only after such reads comes to an end.
-/

namespace Cosimulation

set_option autoImplicit false

/-- One thing that arrives on a channel. -/
inductive Arrival where
  /-- Bytes become available. -/
  | data (bytes : List UInt8)
  /-- One read finds the end of the stream. -/
  | endOfStream
  /-- One read fails. -/
  | fault (fault : Fault)
  deriving DecidableEq, Repr

namespace Arrival

/-- Whether nothing arrives. -/
def isEmpty : Arrival → Bool
  | .data [] => true
  | _ => false

/-- One for the arrival itself and one for each of its bytes. -/
def weight : Arrival → Nat
  | .data bytes => bytes.length + 1
  | _ => 1

/-- The weight of a row of arrivals. -/
def total : List Arrival → Nat
  | [] => 0
  | arrival :: rest => arrival.weight + total rest

end Arrival

/-- What happens to one write call. -/
inductive Acceptance where
  /-- The call takes no more than that many bytes. -/
  | atMost (count : Nat)
  /-- The call fails. -/
  | fault (fault : Fault)
  deriving DecidableEq, Repr

/-- A byte stream in both directions. -/
structure Channel where
  /-- What is still to arrive; behind it every read finds the end of the stream. -/
  arrivals : List Arrival
  /-- The most bytes that one read returns. -/
  chunk : Option Nat
  /-- What happens to the coming write calls. -/
  acceptances : List Acceptance
  /-- The faults of the coming flush calls, behind which every flush succeeds. -/
  flushes : List (Option Fault)
  /-- Whether the peer has gone, so that nothing more can be written to it. -/
  hungUp : Bool
  /-- The number of bytes read so far. -/
  taken : Nat
  /-- The bytes written so far. -/
  written : List UInt8
  /-- The number of flush calls so far. -/
  flushCount : Nat
  /-- How often the channel was shut down. -/
  shutdowns : Nat
  deriving DecidableEq, Repr

namespace Channel

/-- A channel on which the given things arrive, and which takes whatever is written to it. -/
def ofArrivals (arrivals : List Arrival) : Channel where
  arrivals
  chunk := none
  acceptances := []
  flushes := []
  hungUp := false
  taken := 0
  written := []
  flushCount := 0
  shutdowns := 0

/-- How much can still arrive. -/
def remaining (channel : Channel) : Nat :=
  Arrival.total channel.arrivals

/-! ## The four calls -/

/-- One read of at most `count` bytes, which never takes from two arrivals.  No byte at all is the
end of the stream. -/
def read (channel : Channel) (count : Nat) : Except Fault (List UInt8) × Channel :=
  if count = 0 then (.ok [], channel)
  else
    match channel.arrivals.dropWhile Arrival.isEmpty with
    | [] => (.ok [], { channel with arrivals := [] })
    | .endOfStream :: rest => (.ok [], { channel with arrivals := rest })
    | .fault fault :: rest => (.error fault, { channel with arrivals := rest })
    | .data bytes :: rest =>
      let size := min count (channel.chunk.getD count)
      (.ok (bytes.take size),
        { channel with
          arrivals := .data (bytes.drop size) :: rest
          taken := channel.taken + (bytes.take size).length })

/-- One write call, which answers how many of the bytes it took. -/
def write (channel : Channel) (bytes : List UInt8) : Except Fault Nat × Channel :=
  match channel.acceptances with
  | .atMost count :: rest =>
    (.ok (bytes.take count).length,
      { channel with acceptances := rest, written := channel.written ++ bytes.take count })
  | .fault fault :: rest => (.error fault, { channel with acceptances := rest })
  | [] =>
    if channel.hungUp then (.error Fault.brokenPipe, channel)
    else (.ok bytes.length, { channel with written := channel.written ++ bytes })

/-- One flush call. -/
def flush (channel : Channel) : Except Fault Unit × Channel :=
  let flushed := { channel with
    flushes := channel.flushes.tail, flushCount := channel.flushCount + 1 }
  match channel.flushes with
  | some fault :: _ => (.error fault, flushed)
  | _ => (.ok (), flushed)

/-- Shuts the channel down in both directions. -/
def shutdown (channel : Channel) : Channel :=
  { channel with shutdowns := channel.shutdowns + 1 }

/-! ## What the peer does -/

/-- More things arrive. -/
def deliver (channel : Channel) (arrivals : List Arrival) : Channel :=
  { channel with arrivals := channel.arrivals ++ arrivals }

/-- The peer goes: what is on its way still arrives, but nothing can be written any more. -/
def hangUp (channel : Channel) : Channel :=
  { channel with hungUp := true }

/-! ## Reading uses the channel up -/

theorem total_dropWhile (arrivals : List Arrival) :
    Arrival.total (arrivals.dropWhile Arrival.isEmpty) ≤ Arrival.total arrivals := by
  induction arrivals with
  | nil => simp
  | cons arrival rest ih =>
    simp only [List.dropWhile_cons]
    split
    · rw [Arrival.total]
      omega
    · exact Nat.le_refl _

/-- A read that brings bytes or fails makes less remain. -/
theorem remaining_read_lt {channel after : Channel} {count : Nat}
    {result : Except Fault (List UInt8)} (h : channel.read count = (result, after))
    (progress : result ≠ .ok []) : after.remaining < channel.remaining := by
  have bound := total_dropWhile channel.arrivals
  unfold read at h
  split at h
  · cases h
    exact absurd rfl progress
  · split at h
    · cases h
      exact absurd rfl progress
    · cases h
      exact absurd rfl progress
    · rename_i fault rest found
      cases h
      rw [found] at bound
      simp only [Arrival.total, Arrival.weight] at bound
      simp only [remaining]
      omega
    · rename_i bytes rest found
      simp only [Prod.mk.injEq] at h
      obtain ⟨same, rfl⟩ := h
      subst same
      rw [found] at bound
      simp only [Arrival.total, Arrival.weight] at bound
      have : (bytes.take (min count (channel.chunk.getD count))).length ≠ 0 := fun empty =>
        progress (by rw [List.length_eq_zero_iff.1 empty])
      simp only [List.length_take] at this
      simp only [remaining, Arrival.total, Arrival.weight, List.length_drop]
      omega

/-- No read makes more remain. -/
theorem remaining_read_le (channel : Channel) (count : Nat) :
    (channel.read count).2.remaining ≤ channel.remaining := by
  have bound := total_dropWhile channel.arrivals
  unfold read
  split
  · exact Nat.le_refl _
  · split
    · exact Nat.zero_le _
    · rename_i rest found
      rw [found] at bound
      simp only [Arrival.total, Arrival.weight] at bound
      simp only [remaining]
      omega
    · rename_i fault rest found
      rw [found] at bound
      simp only [Arrival.total, Arrival.weight] at bound
      simp only [remaining]
      omega
    · rename_i bytes rest found
      rw [found] at bound
      simp only [Arrival.total, Arrival.weight] at bound
      simp only [remaining, Arrival.total, Arrival.weight, List.length_drop]
      omega

/-- A write leaves alone what is still to arrive. -/
@[simp] theorem arrivals_write (channel : Channel) (bytes : List UInt8) :
    (channel.write bytes).2.arrivals = channel.arrivals := by
  unfold write
  split
  · rfl
  · rfl
  · split <;> rfl

/-- A flush leaves alone what is still to arrive. -/
@[simp] theorem arrivals_flush (channel : Channel) :
    channel.flush.2.arrivals = channel.arrivals := by
  unfold flush
  split <;> rfl

/-- An interrupted write uses up one of the acceptances. -/
theorem acceptances_write_interrupted {channel after : Channel} {bytes : List UInt8} {fault : Fault}
    (h : channel.write bytes = (.error fault, after)) (kind : fault.kind = .interrupted) :
    after.acceptances.length < channel.acceptances.length := by
  unfold write at h
  split at h
  · cases h
  · rename_i found
    cases h
    simp [found]
  · split at h
    · cases h
      exact absurd kind (by decide)
    · cases h

/-- No write adds to the acceptances. -/
theorem acceptances_write_le (channel : Channel) (bytes : List UInt8) :
    (channel.write bytes).2.acceptances.length ≤ channel.acceptances.length := by
  unfold write
  split
  · rename_i found
    simp [found]
  · rename_i found
    simp [found]
  · split <;> exact Nat.le_refl _

end Channel

end Cosimulation
