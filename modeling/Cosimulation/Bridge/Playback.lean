import Cosimulation.Bridge.Basic
/-!
# Playing the host

A plain way for a host in memory to call the bridge: it starts the simulation, then fires the delays
that were asked for as soon as there are any, and otherwise asks for service as long as a session is
live; at last it ends the simulation.

Every round takes something from the connection or ends the session, so there are no more rounds
than things that can still arrive, and one.
-/

namespace Cosimulation

set_option autoImplicit false

namespace Run

/-- The entry points called, each with the status that it answered. -/
abbrev Calls := List (EntryPoint × HostStatus)

/-- Calls an entry point and notes the status. -/
def noted (entry : EntryPoint) (run : Run MemoryHost) : Calls × Run MemoryHost :=
  match run.invoke entry with
  | (status, run) => ([(entry, status)], run)

/-- Lets the time of each delay pass and calls its entry point. -/
def fire : List (UInt64 × EntryPoint) → Run MemoryHost → Calls × Run MemoryHost
  | [], run => ([], run)
  | (ticks, entry) :: rest, run =>
    let run := { run with host.simulator := run.host.simulator.advance ticks }
    match run.noted entry with
    | (first, run) =>
      match fire rest run with
      | (others, run) => (first ++ others, run)

/-- Plays up to so many rounds between the start and the end of the simulation. -/
def rounds : Nat → Run MemoryHost → Calls × Run MemoryHost
  | 0, run => ([], run)
  | count + 1, run =>
    match run.host.recorder.takeDelays with
    | ([], _) =>
      if run.bridge.session?.isSome then
        match run.noted .service with
        | (first, run) =>
          match rounds count run with
          | (others, run) => (first ++ others, run)
      else ([], run)
    | (delays, recorder) =>
      match fire delays { run with host.recorder := recorder } with
      | (first, run) =>
        match rounds count run with
        | (others, run) => (first ++ others, run)

/-- How much can still arrive on the connection, if there is one. -/
def remaining (run : Run MemoryHost) : Nat :=
  match run.bridge.link.connection? with
  | some connection => connection.remaining
  | none => 0

/-- Plays a whole simulation. -/
def play (run : Run MemoryHost) : Calls × Run MemoryHost :=
  match run.noted .startup with
  | (first, run) =>
    match run.rounds (run.remaining + 1) with
    | (between, run) =>
      match run.noted .shutdown with
      | (last, run) => (first ++ between ++ last, run)

end Run

end Cosimulation
