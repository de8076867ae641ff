/-
**Requests to memory: accesses, and loads of bytes at hand.**

* `Memory.Request`, `Memory.serve` — what can be asked of memory as data, and the answer. A load
  that fails leaves memory as it was.
-/

import Cosmac.Loading.Program

namespace Cosmac.Memory

/-- What can be asked of memory. -/
inductive Request where
  | access (access : Access)
  /-- Load a program from bytes at hand. -/
  | loadBytes (program : List UInt8)

/-- What memory answers. -/
inductive Reply where
  | access (reply : Access.Reply)
  /-- The bytes at hand are loaded, or not. -/
  | stored (failure : Option LoadError)

/-- The answer to a request, and memory after it. -/
def serve (memory : Memory) : Request → Reply × Memory
  | .access access =>
    let (reply, next) := memory.perform access
    (.access reply, next)
  | .loadBytes program =>
    match memory.loadBytes program with
    | .ok loaded => (.stored none, loaded)
    | .error error => (.stored (some error), memory)

end Cosmac.Memory
