import Cosimulation.Frame.Splitting
import Cosimulation.Proofs.Frame.Parsing
import Cosimulation.Proofs.Frame.Writing
/-!
# The frames of a byte string

The frame at the front of a byte string is the one that a reader takes from it (`front?_eq_some_iff`),
so that splitting a byte string is taking the frames one by one, in so many steps as there are frames
(`split_enclose`, `split_of_none`).  What a channel delivers is split likewise: with every frame that is
read there is one frame less to be read (`frames_of_read`).
-/

namespace Cosimulation

set_option autoImplicit false

namespace Frame

/-- **The frame at the front** of a byte string. -/
theorem front?_eq_some_iff {bytes payload rest : List UInt8} :
    front? bytes = some (payload, rest) ↔
      bytes = enclose payload ++ rest ∧ payload.length ≤ maximalLength := by
  have chunk : (Channel.ofArrivals [.data bytes]).chunk ≠ some 0 := nofun
  have delivered : (Channel.ofArrivals [.data bytes]).delivered = bytes := List.append_nil bytes
  constructor
  · intro front
    unfold front? at front
    split at front
    · rename_i found channel readOff
      cases front
      obtain ⟨_, expressible, gives⟩ := gives_of_read chunk readOff
      have split := gives.delivered
      have taken : channel.taken = (enclose payload).length := by
        rw [gives.same]
        exact Nat.zero_add _
      rw [delivered] at split
      refine ⟨?_, expressible⟩
      rw [taken, split, List.drop_left]
    · cases front
  · rintro ⟨split, expressible⟩
    obtain ⟨channel, readOff, gives⟩ :=
      read_enclose chunk (delivered.trans split) expressible expressible
    have taken : channel.taken = (enclose payload).length := by
      rw [gives.same]
      exact Nat.zero_add _
    unfold front?
    rw [readOff]
    dsimp only
    rw [taken, split, List.drop_left]

/-- Behind a frame there are fewer bytes. -/
theorem length_of_front? {bytes payload rest : List UInt8} (front : front? bytes = some (payload, rest)) :
    rest.length < bytes.length := by
  rw [(front?_eq_some_iff.1 front).1, List.length_append, length_enclose]
  omega

theorem front?_nil : front? [] = none :=
  Option.eq_none_iff_forall_ne_some.2 fun _ front => Nat.not_lt_zero _ (length_of_front? front)

/-- There are no more frames than bytes, so it does not matter how many more are looked for. -/
theorem splitFirst_eq_splitFirst {first second : Nat} {bytes : List UInt8}
    (enough : bytes.length ≤ first) (alsoEnough : bytes.length ≤ second) :
    splitFirst first bytes = splitFirst second bytes := by
  induction first generalizing second bytes with
  | zero =>
    rw [List.length_eq_zero_iff.1 (Nat.le_zero.1 enough)]
    cases second with
    | zero => rfl
    | succ second => simp only [splitFirst, front?_nil]
  | succ first ih =>
    cases second with
    | zero =>
      rw [List.length_eq_zero_iff.1 (Nat.le_zero.1 alsoEnough)]
      simp only [splitFirst, front?_nil]
    | succ second =>
      cases front : front? bytes with
      | none => simp only [splitFirst, front]
      | some found =>
        have shorter := length_of_front? front
        have same := @ih second found.2 (by omega) (by omega)
        simp only [splitFirst, front, same]

/-- Bytes that begin with no frame are no frames. -/
theorem split_of_none {bytes : List UInt8} (frameless : front? bytes = none) : split bytes = ([], bytes) := by
  unfold split
  cases bytes.length with
  | zero => rfl
  | succ count => simp only [splitFirst, frameless]

/-- **A frame at the front is the first of the frames.** -/
theorem split_enclose {payload : List UInt8} (expressible : payload.length ≤ maximalLength)
    (rest : List UInt8) :
    split (enclose payload ++ rest) = (payload :: (split rest).1, (split rest).2) := by
  have front : front? (enclose payload ++ rest) = some (payload, rest) :=
    front?_eq_some_iff.2 ⟨rfl, expressible⟩
  have shorter := length_of_front? front
  obtain ⟨count, more⟩ := Nat.exists_eq_succ_of_ne_zero (Nat.ne_zero_of_lt shorter)
  unfold split
  rw [more, splitFirst, front]
  dsimp only
  rw [splitFirst_eq_splitFirst (by omega) (Nat.le_refl rest.length)]

/-- So are the frames of several payloads. -/
theorem split_flatMap {payloads : List (List UInt8)}
    (expressible : ∀ payload ∈ payloads, payload.length ≤ maximalLength) (rest : List UInt8) :
    split (payloads.flatMap enclose ++ rest) = (payloads ++ (split rest).1, (split rest).2) := by
  induction payloads with
  | nil => rfl
  | cons payload payloads ih =>
    rw [List.flatMap_cons, List.append_assoc, split_enclose (expressible payload List.mem_cons_self),
      ih fun other member => expressible other (List.mem_cons_of_mem _ member)]
    rfl

end Frame

/-! ## The frames that are still to be read -/

/-- The payloads of the complete frames that a channel still delivers. -/
def Channel.frames (channel : Channel) : List (List UInt8) :=
  (Frame.split channel.delivered).1

/-- Writing takes no frame. -/
theorem Channel.Wrote.frames {before after : Channel} {bytes : List UInt8}
    (wrote : before.Wrote bytes after) : after.frames = before.frames := by
  unfold Channel.frames Channel.delivered
  rw [wrote.arrivals]

namespace Frame

section Delivered

variable {limit : Nat} {channel after : Channel}

/-- A channel of which no read returns a byte gives no byte. -/
theorem chunk_of_byte {count : Nat} {byte : UInt8} {bytes : List UInt8}
    (found : channel.read count = (.ok (byte :: bytes), after)) : channel.chunk ≠ some 0 := by
  intro nothing
  unfold Channel.read at found
  rw [nothing] at found
  split at found
  · cases found
  · split at found
    · cases found
    · cases found
    · cases found
    · simp only [Option.getD_some, Nat.min_zero, List.take_zero, Prod.mk.injEq] at found
      cases found.1

/-- Nor does it give a version. -/
theorem chunk_of_readVersion {byte : UInt8}
    (found : readVersion channel = (.ok (some byte), after)) : channel.chunk ≠ some 0 := by
  fun_induction readVersion channel with
  | case1 channel after h => cases found
  | case2 channel first bytes after h => exact chunk_of_byte h
  | case3 channel fault after h interrupted _ ih =>
    obtain ⟨taken, arrivals, same⟩ := Channel.onlyRead_read h
    have kept : after.chunk = channel.chunk := by rw [same, Channel.chunk_gave]
    exact kept ▸ ih found
  | case4 channel fault after h other => cases found

/-- A frame is read only from a channel of which reads return bytes. -/
theorem chunk_of_read {payload : List UInt8}
    (found : read limit channel = (.ok (some payload), after)) : channel.chunk ≠ some 0 := by
  unfold read at found
  split at found
  · cases found
  · cases found
  · rename_i versionRead
    exact chunk_of_readVersion versionRead

/-- **A frame that is read was the first of those still to be read.** -/
theorem frames_of_read {payload : List UInt8}
    (found : read limit channel = (.ok (some payload), after)) :
    channel.frames = payload :: after.frames := by
  obtain ⟨_, expressible, gives⟩ := gives_of_read (chunk_of_read found) found
  unfold Channel.frames
  rw [gives.delivered, split_enclose expressible]

end Delivered

end Frame

end Cosimulation
