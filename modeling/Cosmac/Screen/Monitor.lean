/-
**The monitor: a framebuffer, and the terminal that shows it.**

A frame is the picture of the framebuffer, drawn through the terminal library. A picture that the
library cannot draw is a fault.

* `Monitor.take`, `Monitor.takeAll` — runs of changes to the framebuffer, new terminal sizes and
  frames.
-/

import Cosmac.Screen.Library
import Cosmac.Screen.Picture

namespace Cosmac

/-- A framebuffer, the size of the terminal that it is shown on, and what the library keeps. -/
structure Monitor (library : TerminalLibrary) where
  terminal : Size
  framebuffer : Framebuffer
  kept : library.Kept

namespace Monitor

/-- A monitor with nothing lit and nothing drawn. -/
def fresh (library : TerminalLibrary) (terminal : Size) : Monitor library :=
  ⟨terminal, .blank, library.start terminal⟩

/-- What can happen to a framebuffer and its terminal. -/
inductive Step where
  /-- Write dots in order. -/
  | plot (dots : List Dot)
  | clear
  /-- The terminal gets another size. -/
  | resize (terminal : Size)
  /-- Draw a frame. -/
  | draw
deriving DecidableEq

/-- What a step shows. -/
inductive Reply (library : TerminalLibrary) where
  | done
  | shown (terminal : Size) (screen : Screen (library.covered terminal))
  /-- The picture cannot be drawn on the terminal. -/
  | fault

variable {library : TerminalLibrary}

/-- Draw a frame. -/
def drawFrame (monitor : Monitor library) : Reply library × Monitor library :=
  match library.draw monitor.kept monitor.terminal (Picture.panel monitor.framebuffer) with
  | (some screen, kept) => (.shown monitor.terminal screen, { monitor with kept })
  | (none, kept) => (.fault, { monitor with kept })

/-- What a step shows, and what is there after it. -/
def take (monitor : Monitor library) : Step → Reply library × Monitor library
  | .plot dots => (.done, { monitor with framebuffer := monitor.framebuffer.plot dots })
  | .clear => (.done, { monitor with framebuffer := monitor.framebuffer.clear })
  | .resize terminal => (.done, { monitor with terminal })
  | .draw => monitor.drawFrame

/-- What each step of a run shows, and what is there after the run. -/
def takeAll (monitor : Monitor library) : List Step → List (Reply library) × Monitor library
  | [] => ([], monitor)
  | step :: later =>
    let (reply, next) := monitor.take step
    let (replies, final) := next.takeAll later
    (reply :: replies, final)

end Monitor

end Cosmac
