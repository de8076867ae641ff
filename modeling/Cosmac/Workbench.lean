/-
**The workbench: a machine with what is plugged into it, and the machines put by.**

Requests to the workbench fall into classes by the part that they are for: memory, the controls
(keypad and scripted input), the video (framebuffer and frame counter) and the machine's other
numbers. Loading into the machine from a source or from a path is for memory, too. A few join parts:
fetching, drawing a glyph, switching on, putting the machine by, fetching it back, comparing and
describing.

* `Workbench.Request`, `Workbench.serve` — what can be asked as data, and the answer. A fault
  changes nothing.
* `Workbench.serveAll` — the answers to a run of requests, in order, and the workbench at the end.
-/

import Cosmac.Framebuffer.Video
import Cosmac.Keypad.Controls
import Cosmac.Loading.Request
import Cosmac.Machine.Outline

namespace Cosmac

/-- A machine, what is plugged into it, and the machines put by, the oldest first. -/
structure Workbench where
  machine : Machine
  input : ScriptedInput
  counter : FrameCounter
  saved : List Machine

namespace Workbench

/-- A machine just switched on, with an empty script, nothing drawn and nothing put by. -/
def fresh : Workbench := ⟨.powerOn, ⟨[]⟩, .fresh, []⟩

/-- A part of the machine that can be described. -/
inductive Part where
  | machine
  | memory
  | keypad
  | framebuffer
deriving DecidableEq

/-- What can be asked of the workbench. -/
inductive Request where
  | memory (request : Memory.Request)
  /-- Load a program into the machine from a source. -/
  | loadSource (source : Source)
  /-- Load a program into the machine from the file at a path of a disk. -/
  | loadPath (disk : Disk) (path : String)
  | controls (request : Controls.Request)
  | video (request : Video.Request)
  | assign (assignment : Machine.Assignment)
  /-- Fetch the instruction at the program counter. -/
  | fetch
  /-- Put the glyph of a digit on the framebuffer. -/
  | drawGlyph (x y : Nat) (digit : UInt8)
  /-- Switch the machine on anew. -/
  | powerOn
  /-- Put a copy of the machine by. -/
  | save
  /-- Go on with a copy of a machine put by. -/
  | restore (slot : Nat)
  /-- Compare the machine with one put by. -/
  | compare (slot : Nat)
  /-- Describe a part of the machine on one line. -/
  | describe (part : Part)
  /-- Describe the machine with a line for each part. -/
  | describeAtLength

/-- In which parts two machines are equal. -/
structure Comparison where
  machine : Bool
  memory : Bool
  keypad : Bool
  framebuffer : Bool
deriving DecidableEq

/-- What the workbench answers. -/
inductive Reply where
  | done
  | memory (reply : Memory.Reply)
  /-- How a load into the machine went and how many bytes it took from its source. -/
  | loaded (outcome : Except LoadError Nat) (taken : Nat)
  | controls (reply : Controls.Reply)
  | video (reply : Video.Reply)
  /-- The instruction fetched. -/
  | fetched (opcode : UInt16)
  /-- The slot of a machine put by. -/
  | saved (slot : Nat)
  | compared (comparison : Comparison)
  | text (text : String)
  | fault

/-- In which parts two machines are equal. -/
def compareMachines (first second : Machine) : Comparison where
  machine := first = second
  memory := first.memory = second.memory
  keypad := first.keypad = second.keypad
  framebuffer := first.framebuffer = second.framebuffer

/-- What a part of a machine shows of itself. -/
def outlineOf (machine : Machine) : Part → Text.Outline
  | .machine => machine.outline
  | .memory => machine.memory.outline
  | .keypad => machine.keypad.outline
  | .framebuffer => machine.framebuffer.outline

/-- The workbench after a load into the machine, and how the load went. -/
def finish (bench : Workbench) (report : LoadReport Machine) : Reply × Workbench :=
  (.loaded report.outcome report.taken, { bench with machine := report.target })

/-- The answer to a request, and the workbench after it. -/
def serve (bench : Workbench) : Request → Reply × Workbench
  | .memory request =>
    let (reply, memory) := bench.machine.memory.serve request
    (.memory reply, { bench with machine := { bench.machine with memory } })
  | .loadSource source => bench.finish (bench.machine.loadSource source)
  | .loadPath disk path => bench.finish (bench.machine.loadPath disk path)
  | .controls request =>
    let (reply, controls) := Controls.serve ⟨bench.machine.keypad, bench.input⟩ request
    (.controls reply,
      { bench with
        machine := { bench.machine with keypad := controls.keypad }, input := controls.input })
  | .video request =>
    let (reply, video) := Video.serve ⟨bench.machine.framebuffer, bench.counter⟩ request
    (.video reply,
      { bench with
        machine := { bench.machine with framebuffer := video.framebuffer }
        counter := video.counter })
  | .assign assignment =>
    match bench.machine.assign? assignment with
    | some machine => (.done, { bench with machine })
    | none => (.fault, bench)
  | .fetch =>
    match bench.machine.fetch? with
    | some machine => (.fetched machine.opcode, { bench with machine })
    | none => (.fault, bench)
  | .drawGlyph x y digit =>
    match bench.machine.drawGlyph? x y digit with
    | some machine => (.done, { bench with machine })
    | none => (.fault, bench)
  | .powerOn => (.done, { bench with machine := .powerOn })
  | .save =>
    (.saved bench.saved.length, { bench with saved := bench.saved ++ [bench.machine] })
  | .restore slot =>
    match bench.saved[slot]? with
    | some machine => (.done, { bench with machine })
    | none => (.fault, bench)
  | .compare slot =>
    match bench.saved[slot]? with
    | some saved => (.compared (compareMachines bench.machine saved), bench)
    | none => (.fault, bench)
  | .describe part => (.text (outlineOf bench.machine part).onOneLine, bench)
  | .describeAtLength => (.text bench.machine.outline.indented, bench)

/-- The answers to a run of requests, in order, and the workbench after all of them. -/
def serveAll (bench : Workbench) : List Request → List Reply × Workbench
  | [] => ([], bench)
  | request :: later =>
    let (reply, next) := bench.serve request
    let (replies, final) := next.serveAll later
    (reply :: replies, final)

end Workbench

end Cosmac
