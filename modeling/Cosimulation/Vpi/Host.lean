import Cosimulation.Socket.Directory
import Cosimulation.Text.Utf8
/-!
# A simulator behind the procedural interface

VPI is the interface through which a library talks to the Verilog simulator that loaded it.  A
`VpiHost` is such a simulator, given as everything it will answer: its command line, its objects and
their values, its clock, the error levels it will report and the callbacks it will refuse.  It keeps
the list of the calls made to it.

A simulator may call into the library again before a call of its own has returned.  What it will
call while it prints and while it ends the run is part of the host too; what becomes of such calls
is not for the host to say.
-/

namespace Cosimulation

set_option autoImplicit false

/-! ## Numbers of the interface -/

namespace Vpi

/-- The callback reasons for a delay, the start and the end of the simulation. -/
def afterDelay : Nat := 9
def startOfSimulation : Nat := 11
def endOfSimulation : Nat := 12

/-- Simulation time, as the kind of a time. -/
def simulationTime : Nat := 2

/-- A row of binary digits, as the format of a value. -/
def binaryString : Nat := 1

/-- The ways of putting a value: at once, as a force, as the end of a force. -/
def noDelay : Nat := 1
def forceFlag : Nat := 5
def releaseFlag : Nat := 6

/-- A task, as the kind of a system task or function. -/
def systemTask : Nat := 1

/-- The operation that ends the run. -/
def finish : Nat := 67

end Vpi

/-- What an object is known by; zero stands for no object. -/
abbrev Handle := Nat

/-- A time in two words. -/
structure VpiTime where
  kind : Nat
  high : UInt32
  low : UInt32
  deriving DecidableEq, Repr

namespace VpiTime

/-- A number of ticks in two words. -/
def ofTicks (ticks : UInt64) : VpiTime :=
  ⟨Vpi.simulationTime, (ticks >>> 32).toUInt32, ticks.toUInt32⟩

/-- The number of ticks in two words. -/
def ticks (time : VpiTime) : UInt64 :=
  (time.high.toUInt64 <<< 32) ||| time.low.toUInt64

end VpiTime

/-- A value as it crosses the interface: a format, and the bytes of a string if there is one. -/
structure VpiValue where
  format : Nat
  string : Option (List UInt8)
  deriving DecidableEq, Repr

/-- The text of a string whose end is marked by a NUL. -/
def terminatedText (bytes : List UInt8) : String :=
  String.ofList (Utf8.decodeLossy (bytes.takeWhile (· ≠ 0)))

namespace VpiValue

/-- A value that is still to be filled in. -/
def blank : VpiValue := ⟨Vpi.binaryString, none⟩

/-- The digits of a value that is a row of binary digits. -/
def digits? (value : VpiValue) : Option String :=
  if value.format = Vpi.binaryString then
    value.string.map terminatedText
  else none

end VpiValue

/-- A call into the library from within a call of the host. -/
inductive Reentry where
  /-- The service task is called. -/
  | service
  /-- A callback arrives, with the number that it was registered with. -/
  | callback (code : Nat)
  deriving DecidableEq, Repr

/-- A call made to the simulator. -/
inductive VpiCall where
  | getVlogInfo
  | handleByName (name : String) (fromTop : Bool)
  | getValue (handle : Handle) (format : Nat)
  | putValue (handle : Handle) (value : VpiValue) (delay : Option VpiTime) (flag : Nat)
  | checkError (withoutInfo : Bool) (level : Int)
  | getTime (ofNothing : Bool) (kind : Nat)
  | printf (format text : String)
  | control (operation argument : Nat)
  | registerCallback (reason : Nat) (delay : Option VpiTime) (code : Nat)
  | freeObject (handle : Handle)
  | registerTask (kind functionKind : Nat) (name : String)
  /-- A call into the library returned with a status. -/
  | reentered (status : Nat)
  deriving DecidableEq, Repr

/-- An object of the simulation. -/
structure VpiObject where
  path : String
  driven : Option (List UInt8)
  forced : Option (List UInt8)
  /-- The format in which the object gives its value. -/
  format : Nat
  /-- Whether the end of a force gives the value that the object settles to. -/
  releaseFills : Bool
  deriving DecidableEq, Repr

namespace VpiObject

/-- The value that the object gives. -/
def value (object : VpiObject) : VpiValue :=
  ⟨object.format, object.forced.or object.driven⟩

end VpiObject

/-- A simulator behind the procedural interface. -/
structure VpiHost where
  /-- Whether the simulator tells its command line at all. -/
  tellsInvocation : Bool
  /-- The command line, unless the simulator has none; any element of it may be missing. -/
  arguments : Option (List (Option (List UInt8)))
  /-- The number of elements that the simulator says its command line has. -/
  argumentCount : Option Int
  /-- The objects, known by one more than their positions. -/
  objects : List VpiObject
  time : UInt64
  /-- The error levels that the coming checks will find. -/
  errors : List Int
  /-- The callback reasons that are refused. -/
  refused : List Nat
  /-- Whether system tasks are refused. -/
  refusesTasks : Bool
  /-- What is called into the library during the next print. -/
  duringPrint : List Reentry
  /-- What is called into the library while the run is being ended. -/
  duringFinish : List Reentry
  /-- The codes of the callbacks accepted so far. -/
  callbacks : List Nat
  /-- The system tasks accepted so far. -/
  tasks : List String
  /-- The sockets that the simulator's process can reach. -/
  directory : Directory
  /-- The calls made so far. -/
  calls : List VpiCall
  deriving DecidableEq, Repr

namespace VpiHost

/-- A simulator without objects, started with an empty command line. -/
def idle : VpiHost where
  tellsInvocation := true
  arguments := some []
  argumentCount := none
  objects := []
  time := 0
  errors := []
  refused := []
  refusesTasks := false
  duringPrint := []
  duringFinish := []
  callbacks := []
  tasks := []
  directory := .empty
  calls := []

/-- The simulator after one more call. -/
def note (host : VpiHost) (call : VpiCall) : VpiHost :=
  { host with calls := host.calls ++ [call] }

/-! ## Calls that ask -/

/-- The command line, unless the simulator does not tell it. -/
def vlogInfo (host : VpiHost) : Option (List (Option (List UInt8))) × VpiHost :=
  (if host.tellsInvocation then
      host.arguments.map fun elements =>
        elements.take (host.argumentCount.getD elements.length).toNat
    else none,
    host.note .getVlogInfo)

/-- The handle of the object of a name, searched from the top. -/
def handleByName (host : VpiHost) (name : String) : Option Handle × VpiHost :=
  ((host.objects.findIdx? fun object => object.path = name).map (· + 1),
    host.note (.handleByName name true))

/-- The object of a handle. -/
def object? (host : VpiHost) (handle : Handle) : Option VpiObject :=
  if handle = 0 then none else host.objects[handle - 1]?

/-- The simulator with the object of a handle changed. -/
def changeObject (host : VpiHost) (handle : Handle) (change : VpiObject → VpiObject) : VpiHost :=
  if handle = 0 then host else { host with objects := host.objects.modify (handle - 1) change }

/-- The value of an object, asked for as a row of binary digits. -/
def getValue (host : VpiHost) (handle : Handle) : VpiValue × VpiHost :=
  (((host.object? handle).map VpiObject.value).getD .blank,
    host.note (.getValue handle Vpi.binaryString))

/-- The level of the error that the last call left behind; zero if there is none. -/
def checkError (host : VpiHost) : Int × VpiHost :=
  let level := host.errors.head?.getD 0
  (level, { host with errors := host.errors.tail }.note (.checkError true level))

/-- The current simulation time. -/
def getTime (host : VpiHost) : VpiTime × VpiHost :=
  (.ofTicks host.time, host.note (.getTime true Vpi.simulationTime))

/-! ## Calls that act -/

/-- Puts digits on an object, at once or as a force. -/
def putDigits (host : VpiHost) (handle : Handle) (digits : List UInt8) (flag : Nat) : VpiHost :=
  let called := host.note
    (.putValue handle ⟨Vpi.binaryString, some digits⟩ (some (.ofTicks 0)) flag)
  called.changeObject handle fun object =>
    if flag = Vpi.forceFlag then { object with forced := some digits }
    else { object with driven := some digits }

/-- Ends the force on an object.  The value comes back as it was passed unless the object fills it
in. -/
def putRelease (host : VpiHost) (handle : Handle) : VpiValue × VpiHost :=
  let called := (host.note (.putValue handle .blank none Vpi.releaseFlag)).changeObject handle
    fun object => { object with forced := none }
  match called.object? handle with
  | some object => (if object.releaseFills then object.value else .blank, called)
  | none => (.blank, called)

/-- Prints a text. -/
def printf (host : VpiHost) (text : String) : VpiHost :=
  host.note (.printf "%s" text)

/-- Ends the run. -/
def control (host : VpiHost) : VpiHost :=
  host.note (.control Vpi.finish 1)

/-- Registers a callback; it is refused for some reasons. -/
def registerCallback (host : VpiHost) (reason : Nat) (delay : Option VpiTime) (code : Nat) :
    Option Handle × VpiHost :=
  let called := host.note (.registerCallback reason delay code)
  if reason ∈ host.refused then (none, called)
  else
    (some (1001 + host.callbacks.length), { called with callbacks := host.callbacks ++ [code] })

/-- Registers a system task, unless tasks are refused. -/
def registerTask (host : VpiHost) (name : String) : Option Handle × VpiHost :=
  let called := host.note (.registerTask Vpi.systemTask 0 name)
  if host.refusesTasks then (none, called)
  else (some (2001 + host.tasks.length), { called with tasks := host.tasks ++ [name] })

/-- Lets go of a handle. -/
def freeObject (host : VpiHost) (handle : Handle) : VpiHost :=
  host.note (.freeObject handle)

end VpiHost

end Cosimulation
