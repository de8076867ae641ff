/-
**Disks: what opening a path gives.**

* `Handle` — an open file: what is known of it before reading, or the error of asking, and its
  contents as a source. The two need not agree about the size.
* `Disk` — for each path, a handle or the error that opening it meets.
-/

import Cosmac.Loading.Source

namespace Cosmac

/-- What is known of an open file before it is read. -/
structure Metadata where
  isRegular : Bool
  size : Nat
deriving DecidableEq

/-- An open file. -/
structure Handle where
  metadata : Except IoError Metadata
  contents : Source

/-- What opening each path gives. -/
abbrev Disk := String → Except IoError Handle

end Cosmac
