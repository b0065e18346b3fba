import Cosimulation.Proofs.Vpi.Steps
/-!
# Handles are looked up once

A simulator is asked for the object of a path, and may come to answer differently later.  The first
handle that it gives for a path is kept for the whole run and it is not asked for that path again,
whereas a path that it does not know may become known.

What was asked and what the host answered make up the history of a run (`VpiSimulator.history`), read
off the record of the host.  The handles found so far are those of the history and nothing else
(`Sound`, `Sound.run`), so that a path is asked for only as long as its history has no handle
(`inquiries_lookup`).
-/

namespace Cosimulation

set_option autoImplicit false

/-- The name that a call asks an object for. -/
def VpiCall.name? : VpiCall → Option String
  | .handleByName name _ => some name
  | _ => none

theorem VpiCall.name?_eq_none {call : VpiCall} (untraced : call.isTraced = false) :
    call.name? = none := by
  cases call with
  | handleByName => cases untraced
  | _ => rfl

namespace VpiHost

/-- The names that objects were asked for so far. -/
def names (host : VpiHost) : List String := host.calls.filterMap VpiCall.name?

variable (host : VpiHost)

/-- Which handle is answered depends on the paths of the objects alone. -/
theorem answer_eq (name : String) : (host.handleByName name).1 =
    (host.paths.findIdx? fun path => path = name).map (· + 1) := by
  rw [paths, List.findIdx?_map]
  rfl

/-- No object is known by the null handle. -/
theorem answer_ne_zero (name : String) : (host.handleByName name).1 ≠ some 0 := by
  rw [answer_eq]
  cases host.paths.findIdx? fun path => path = name <;> simp

end VpiHost

namespace VpiSimulator

/-! ## Steps that ask for nothing -/

/-- What looking up depends on stays as it is, and no object is asked for. -/
structure Ignores (before after : VpiSimulator) : Prop where
  handles : after.handles = before.handles
  paths : after.host.paths = before.host.paths
  names : after.host.names = before.host.names

theorem Ignores.of_makes {before after : VpiSimulator} {calls : List VpiCall}
    (makes : Makes before calls after) (nothing : calls.filterMap VpiCall.name? = []) :
    Ignores before after where
  handles := makes.handles
  paths := makes.paths
  names := by
    have named := makes.filterMap_calls fun _ => VpiCall.name?_eq_none
    rwa [nothing, List.append_nil] at named

variable (simulator : VpiSimulator)

theorem ignores_register (registration : Registration) :
    Ignores simulator (simulator.register registration).2 := by
  obtain ⟨trigger, entry⟩ := registration
  have takes := simulator.takes_register ⟨trigger, entry⟩
  generalize simulator.register ⟨trigger, entry⟩ = registered at takes
  cases takes with
  | accepted | refused | declared | undeclared =>
    exact ⟨rfl, rfl, by simp [VpiHost.accept, VpiHost.freeObject, VpiHost.names, VpiHost.note,
      VpiCall.name?]⟩
  | torn => exact ⟨rfl, rfl, rfl⟩

/-- Only looking up asks for an object, and only a host that changes of its own accord comes to
answer differently. -/
theorem ignores_after {step : Step} (finds : ∀ path, step ≠ .lookup path)
    (keeps : ∀ change, step ≠ .rescript change) : Ignores simulator (simulator.after step) := by
  rcases simulator.after_cases step with
    ⟨path, rfl⟩ | ⟨registration, rfl⟩ | ⟨change, rfl⟩ | makes
  · exact absurd rfl (finds path)
  · exact simulator.ignores_register registration
  · exact absurd rfl (keeps change)
  · refine .of_makes makes (List.filterMap_eq_nil_iff.2 fun call member => ?_)
    obtain ⟨handle, digits, flag, rfl⟩ := Step.mem_assignments member
    rfl

/-! ## The history of a run -/

/-- What a step asks objects for, each with what the host answers. -/
def inquiries (step : Step) : List (String × Option Handle) :=
  ((simulator.after step).host.names.drop simulator.host.names.length).map fun name =>
    (name, (simulator.host.handleByName name).1)

/-- What the steps of a run ask objects for, in their order. -/
def history (simulator : VpiSimulator) : List Step → List (String × Option Handle)
  | [] => []
  | step :: steps => simulator.inquiries step ++ (simulator.after step).history steps

theorem names_lookup (path : String) : (simulator.lookup path).2.host.names =
    simulator.host.names ++
      if simulator.handles.lookup path = none ∧ VpiHost.isPassable path then [path] else [] := by
  have named : (simulator.host.note (.handleByName path true)).names =
      simulator.host.names ++ [path] := List.filterMap_append
  have looks := simulator.looks_lookup path
  generalize simulator.lookup path = looked at looks
  cases looks with
  | known found => simp [found]
  | torn unknown torn => simp [torn]
  | found unknown passable | missing unknown passable =>
    rw [if_pos ⟨unknown, passable⟩]
    exact named

/-- **What looking up a path asks for**: that path, unless it is known already or cannot be handed
over. -/
theorem inquiries_lookup (path : String) :
    simulator.inquiries (.lookup path) =
      if simulator.handles.lookup path = none ∧ VpiHost.isPassable path then
        [(path, (simulator.host.handleByName path).1)]
      else [] := by
  have named : (simulator.after (.lookup path)).host.names = _ := simulator.names_lookup path
  rw [inquiries, named, List.drop_left]
  split <;> rfl

/-- What a step other than looking up leaves alone. -/
theorem keeps_after {step : Step} (finds : ∀ path, step ≠ .lookup path) :
    (simulator.after step).handles = simulator.handles ∧
      (simulator.after step).host.names = simulator.host.names := by
  by_cases changes : ∃ change, step = .rescript change
  · obtain ⟨change, rfl⟩ := changes
    exact ⟨rfl, rfl⟩
  · have ignores := simulator.ignores_after finds (not_exists.1 changes)
    exact ⟨ignores.handles, ignores.names⟩

theorem inquiries_of_other {step : Step} (finds : ∀ path, step ≠ .lookup path) :
    simulator.inquiries step = [] := by
  rw [inquiries, (simulator.keeps_after finds).2, List.drop_length, List.map_nil]

/-- The record names what the steps ask for. -/
theorem names_after (step : Step) : (simulator.after step).host.names =
    simulator.host.names ++ (simulator.inquiries step).map Prod.fst := by
  by_cases finds : ∃ path, step = .lookup path
  · obtain ⟨path, rfl⟩ := finds
    refine (simulator.names_lookup path).trans (congrArg _ ?_)
    rw [inquiries_lookup]
    split <;> rfl
  · rw [simulator.inquiries_of_other (not_exists.1 finds),
      (simulator.keeps_after (not_exists.1 finds)).2, List.map_nil, List.append_nil]

theorem names_run (steps : List Step) : (simulator.run steps).host.names =
    simulator.host.names ++ (simulator.history steps).map Prod.fst := by
  induction steps generalizing simulator with
  | nil => exact (List.append_nil _).symm
  | cons step steps ih =>
    rw [history, List.map_append, ← List.append_assoc, ← names_after]
    exact ih (simulator.after step)

/-! ## The handles found so far -/

/-- The handles found so far are those of a history. -/
structure Sound (history : List (String × Option Handle)) (simulator : VpiSimulator) : Prop where
  known : ∀ path handle, simulator.handles.lookup path = some handle ↔
    (path, some handle) ∈ history
  kept : ∀ path handle, (path, handle) ∈ simulator.handles ↔ (path, some handle) ∈ history
  whole : ∀ path answer, (path, answer) ∈ history → answer ≠ some 0 ∧ VpiHost.isPassable path

namespace Sound

variable {simulator : VpiSimulator} {history : List (String × Option Handle)}

theorem fresh (host : VpiHost) : Sound [] ⟨[], host⟩ where
  known _ _ := by simp
  kept _ _ := by simp
  whole _ _ := nofun

/-- A path is not known as long as its history has no handle. -/
theorem lookup_eq_none_iff (sound : Sound history simulator) (path : String) :
    simulator.handles.lookup path = none ↔ ∀ handle, (path, some handle) ∉ history := by
  rw [Option.eq_none_iff_forall_ne_some]
  exact forall_congr' fun handle => not_congr (sound.known path handle)

/-- A step that asks for nothing keeps what was found. -/
theorem of_handles_eq {next : VpiSimulator} (sound : Sound history simulator)
    (same : next.handles = simulator.handles) : Sound history next where
  known := same ▸ sound.known
  kept := same ▸ sound.kept
  whole := sound.whole

/-- Looking up a path keeps the handle that it finds, and forgets that it found none. -/
theorem lookup (sound : Sound history simulator) (path : String) :
    Sound (history ++ simulator.inquiries (.lookup path)) (simulator.lookup path).2 := by
  rw [inquiries_lookup]
  have looks := simulator.looks_lookup path
  generalize simulator.lookup path = looked at looks
  cases looks with
  | known found => simpa [found] using sound
  | torn unknown torn => simpa [torn] using sound
  | missing unknown passable unanswered =>
    rw [if_pos ⟨unknown, passable⟩, unanswered]
    refine ⟨fun other handle => ?_, fun other handle => ?_, fun other answer member => ?_⟩
    · simpa using sound.known other handle
    · simpa using sound.kept other handle
    · rcases List.mem_append.1 member with before | now
      · exact sound.whole other answer before
      · cases List.mem_singleton.1 now
        exact ⟨nofun, passable⟩
  | @found found unknown passable answered =>
    have never := (sound.lookup_eq_none_iff path).1 unknown
    rw [if_pos ⟨unknown, passable⟩, answered]
    refine ⟨fun other handle => ?_, fun other handle => ?_, fun other answer member => ?_⟩
    · rw [List.lookup_cons, List.mem_append, List.mem_singleton, Prod.mk.injEq]
      by_cases same : other = path
      · subst same
        simp [never, eq_comm]
      · rw [beq_eq_false_iff_ne.2 same]
        simpa [same] using sound.known other handle
    · simp [← sound.kept other handle, or_comm]
    · rcases List.mem_append.1 member with before | now
      · exact sound.whole other answer before
      · cases List.mem_singleton.1 now
        exact ⟨answered ▸ simulator.host.answer_ne_zero path, passable⟩

theorem after (sound : Sound history simulator) (step : Step) :
    Sound (history ++ simulator.inquiries step) (simulator.after step) := by
  by_cases finds : ∃ path, step = .lookup path
  · obtain ⟨path, rfl⟩ := finds
    exact sound.lookup path
  · rw [simulator.inquiries_of_other (not_exists.1 finds), List.append_nil]
    exact sound.of_handles_eq (simulator.keeps_after (not_exists.1 finds)).1

/-- **The handles found in a run are those of its history.** -/
theorem run (sound : Sound history simulator) (steps : List Step) :
    Sound (history ++ simulator.history steps) (simulator.run steps) := by
  induction steps generalizing simulator history with
  | nil => rwa [VpiSimulator.history, List.append_nil]
  | cons step steps ih =>
    have later := ih (sound.after step)
    rwa [List.append_assoc] at later

end Sound

/-! ## What looking up returns -/

variable (simulator : VpiSimulator)

/-- The handle that looking up a path finds: the one found before, or else the one that the host
finds. -/
def found? (path : String) : Option Handle :=
  (simulator.handles.lookup path).or
    (if VpiHost.isPassable path then (simulator.host.handleByName path).1 else none)

theorem lookup_fst (path : String) : (simulator.lookup path).1 =
    (simulator.found? path).elim (.error (.unknownObject path)) .ok := by
  have looks := simulator.looks_lookup path
  generalize simulator.lookup path = looked at looks
  cases looks with
  | known found => rw [found?, found]; rfl
  | torn unknown torn => rw [found?, unknown, torn]; rfl
  | found unknown passable answered | missing unknown passable answered =>
    rw [found?, unknown, if_pos passable, answered]
    rfl

/-- Looking up one path leaves alone what is known of another. -/
theorem known_lookup {path other : String} (differs : path ≠ other) :
    (simulator.lookup other).2.handles.lookup path = simulator.handles.lookup path := by
  have looks := simulator.looks_lookup other
  generalize simulator.lookup other = looked at looks
  cases looks with
  | known | torn | missing => rfl
  | found => exact List.lookup_cons.trans (by rw [beq_eq_false_iff_ne.2 differs])

/-- Looking up a path leaves alone what any look-up finds. -/
theorem found?_lookup (path other : String) :
    (simulator.lookup other).2.found? path = simulator.found? path := by
  have looks := simulator.looks_lookup other
  generalize simulator.lookup other = looked at looks
  cases looks with
  | known | torn | missing => rfl
  | @found handle unknown passable answered =>
    unfold found?
    rw [List.lookup_cons]
    by_cases same : path = other
    · subst same
      rw [beq_self_eq_true, unknown, if_pos passable, if_pos passable, answered]
      rfl
    · rw [beq_eq_false_iff_ne.2 same]
      rfl

/-- **No step changes what looking up finds**, unless the host comes to answer differently. -/
theorem found?_after {step : Step} (keeps : ∀ change, step ≠ .rescript change) (path : String) :
    (simulator.after step).found? path = simulator.found? path := by
  by_cases finds : ∃ other, step = .lookup other
  · obtain ⟨other, rfl⟩ := finds
    exact simulator.found?_lookup path other
  · have ignores := simulator.ignores_after (not_exists.1 finds) keeps
    rw [found?, found?, VpiHost.answer_eq, VpiHost.answer_eq, ignores.handles, ignores.paths]

/-- What is known of a path changes only when that path is looked up. -/
theorem known_after {step : Step} {path : String} (differs : step ≠ .lookup path) :
    (simulator.after step).handles.lookup path = simulator.handles.lookup path := by
  by_cases finds : ∃ other, step = .lookup other
  · obtain ⟨other, rfl⟩ := finds
    exact simulator.known_lookup fun same => differs (congrArg Step.lookup same.symm)
  · rw [(simulator.keeps_after (not_exists.1 finds)).1]

namespace Sound

variable {simulator : VpiSimulator} {history : List (String × Option Handle)}

/-- A path whose handle was found is looked up without the host. -/
theorem lookup_of_mem (sound : Sound history simulator) {path : String} {handle : Handle}
    (found : (path, some handle) ∈ history) : simulator.lookup path = (.ok handle, simulator) := by
  have known := (sound.known path handle).2 found
  have looks := simulator.looks_lookup path
  generalize simulator.lookup path = looked at looks
  cases looks with
  | known also =>
    cases known.symm.trans also
    rfl
  | torn unknown | found unknown | missing unknown => cases known.symm.trans unknown

/-- A path that cannot be handed over is not known, and is not asked for either. -/
theorem lookup_of_not_passable (sound : Sound history simulator) {path : String}
    (torn : VpiHost.isPassable path = false) :
    simulator.lookup path = (.error (.unknownObject path), simulator) := by
  have looks := simulator.looks_lookup path
  generalize simulator.lookup path = looked at looks
  cases looks with
  | @known handle known =>
    have whole := sound.whole path (some handle) ((sound.known path handle).1 known)
    cases whole.2.symm.trans torn
  | torn => rfl
  | found _ passable | missing _ passable => cases passable.symm.trans torn

/-- A handle that looking up has returned is in the history from then on. -/
theorem mem_of_lookup (sound : Sound history simulator) {path : String} {handle : Handle}
    (found : (simulator.lookup path).1 = .ok handle) :
    (path, some handle) ∈ history ++ simulator.inquiries (.lookup path) := by
  rw [inquiries_lookup]
  have looks := simulator.looks_lookup path
  generalize simulator.lookup path = looked at looks found
  cases looks with
  | known known =>
    cases found
    exact List.mem_append_left _ ((sound.known path handle).1 known)
  | found unknown passable answered =>
    cases found
    rw [if_pos ⟨unknown, passable⟩, answered]
    exact List.mem_append_right _ (List.mem_singleton_self _)
  | torn | missing => cases found

/-- A look-up that fails is not kept. -/
theorem of_lookup_error (sound : Sound history simulator) {path : String} {error : ApplyError}
    (failed : (simulator.lookup path).1 = .error error) :
    error = .unknownObject path ∧ (simulator.lookup path).2.handles = simulator.handles ∧
      ∀ handle, (path, handle) ∉ simulator.handles := by
  have looks := simulator.looks_lookup path
  generalize simulator.lookup path = looked at looks failed
  cases looks with
  | known | found => cases failed
  | torn unknown | missing unknown =>
    cases failed
    refine ⟨rfl, rfl, fun handle member => ?_⟩
    exact (sound.lookup_eq_none_iff path).1 unknown handle ((sound.kept path handle).1 member)

end Sound

/-- **The handles found in a run are sound.**  However a bridge uses a simulator that may come to
answer differently at any time, the handles kept are those that the host gave, and a path is asked
for, by exactly its name, only as long as the host gave none for it.  What looking up has returned
once it returns from then on, and without asking.  A look-up that fails leaves nothing behind, and a
path that cannot be handed over is unknown without being asked for.  What is done with one path does
not change what looking up another returns. -/
theorem handles_stay_sound (host : VpiHost) (steps : List Step) :
    let fresh := VpiSimulator.mk [] host
    let reached := fresh.run steps
    let history := fresh.history steps
    reached.host.names = host.names ++ history.map Prod.fst ∧
      (∀ path handle, (path, handle) ∈ reached.handles ↔ (path, some handle) ∈ history) ∧
      (∀ path answer, (path, answer) ∈ history → answer ≠ some 0 ∧ VpiHost.isPassable path) ∧
      (∀ step, (∀ path, step ≠ .lookup path) → reached.inquiries step = []) ∧
      ∀ path,
        (∀ handle, (path, some handle) ∈ history →
          reached.lookup path = (.ok handle, reached)) ∧
        ((∀ handle, (path, some handle) ∉ history) → VpiHost.isPassable path →
          reached.inquiries (.lookup path) = [(path, (reached.host.handleByName path).1)]) ∧
        (VpiHost.isPassable path = false →
          reached.lookup path = (.error (.unknownObject path), reached)) ∧
        (∀ handle, (reached.lookup path).1 = .ok handle → ∀ later,
          let next := (reached.after (.lookup path)).run later
          next.lookup path = (.ok handle, next)) ∧
        (∀ error, (reached.lookup path).1 = .error error →
          error = .unknownObject path ∧ (reached.lookup path).2.handles = reached.handles ∧
            ∀ handle, (path, handle) ∉ reached.handles) ∧
        (∀ step, (∀ change, step ≠ .rescript change) →
          ((reached.after step).lookup path).1 = (reached.lookup path).1) ∧
        ∀ step, step ≠ .lookup path →
          (reached.after step).handles.lookup path = reached.handles.lookup path := by
  intro fresh reached history
  have sound : Sound history reached := (Sound.fresh host).run steps
  refine ⟨fresh.names_run steps, sound.kept, sound.whole, fun _ => reached.inquiries_of_other,
    fun path => ⟨fun _ => sound.lookup_of_mem, fun never passable => ?_,
      sound.lookup_of_not_passable, fun handle found later => ?_, fun _ => sound.of_lookup_error,
      fun step keeps => ?_, fun _ => reached.known_after⟩⟩
  · rw [inquiries_lookup, if_pos ⟨(sound.lookup_eq_none_iff path).2 never, passable⟩]
  · refine ((sound.lookup path).run later).lookup_of_mem ?_
    exact List.mem_append_left _ (sound.mem_of_lookup found)
  · rw [lookup_fst, lookup_fst, reached.found?_after keeps]

end VpiSimulator

end Cosimulation
