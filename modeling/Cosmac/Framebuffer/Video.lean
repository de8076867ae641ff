/-
**Video: a framebuffer and a display that counts.**

A `FrameCounter` is a display that shows nothing: it counts the frames drawn on it and remembers
how many pixels were lit in the last one.

* `FrameCounter.draw` — one frame.
* `Video.Request`, `Video.serve` — what can be asked of the two as data, and the answer.
-/

import Cosmac.Framebuffer

namespace Cosmac

/-- The frames drawn so far, and how many pixels were lit in the last of them. -/
structure FrameCounter where
  frames : Nat
  litInLast : Nat
deriving DecidableEq

namespace FrameCounter

/-- Nothing drawn yet. -/
def fresh : FrameCounter := ⟨0, 0⟩

/-- The counter after one more frame. -/
def draw (counter : FrameCounter) (framebuffer : Framebuffer) : FrameCounter :=
  ⟨counter.frames + 1, framebuffer.lit.length⟩

end FrameCounter

/-- A framebuffer and the display that its frames are drawn on. -/
structure Video where
  framebuffer : Framebuffer
  counter : FrameCounter
deriving DecidableEq

namespace Video

/-- What can be asked of the video. -/
inductive Request where
  | get (x y : Nat)
  | set (x y : Nat) (on : Bool)
  /-- Write dots in order. -/
  | plot (dots : List Dot)
  | clear
  | lit
  /-- All pixels, row by row. -/
  | pixels
  | draw
  /-- Start counting anew. -/
  | recount
deriving DecidableEq

/-- What the video answers. -/
inductive Reply where
  | done
  | flag (value : Bool)
  | points (found : List (Nat × Nat))
  | pixels (all : Framebuffer)
  | drawn (counter : FrameCounter)
deriving DecidableEq

/-- The answer to a request, and the video after it. -/
def serve (video : Video) : Request → Reply × Video
  | .get x y => (.flag (video.framebuffer.get x y), video)
  | .set x y on => (.done, { video with framebuffer := video.framebuffer.set x y on })
  | .plot dots => (.done, { video with framebuffer := video.framebuffer.plot dots })
  | .clear => (.done, { video with framebuffer := video.framebuffer.clear })
  | .lit => (.points video.framebuffer.lit, video)
  | .pixels => (.pixels video.framebuffer, video)
  | .draw =>
    let counter := video.counter.draw video.framebuffer
    (.drawn counter, { video with counter })
  | .recount => (.done, { video with counter := .fresh })

end Video

end Cosmac
