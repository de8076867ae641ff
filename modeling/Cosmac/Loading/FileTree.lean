/-
**File trees: directories, files and links, and what opening a path in them gives.**

A `FileTree` lists what stands at which place, and the place where relative paths begin. A path is
walked name by name from there or from the root. To go through a directory it must be one and must
not be forbidden; a link is followed from the directory that holds it, or from the root, and at most
forty links are followed for one path.

* `FileTree.resolve` — the place that a list of names leads to, with links followed.
* `FileTree.disk` — the tree as a disk. What is wrong with the path itself comes first: a NUL, then
  its length, then that it is empty. What the path leads to is refused last, if it is forbidden.
* `FileTree.ofListing` — a tree that holds listed entries and the devices of every tree.
-/

import Cosmac.Loading.Disk

namespace Cosmac

/-- The place of an entry: the names that lead to it from the root, the last one first. -/
abbrev Place := List String

/-- What an entry is. -/
inductive Content where
  | directory
  | file (data : List UInt8)
  /-- A link to a path. -/
  | link (target : String)
  /-- A device that gives the bytes of a source. -/
  | device (source : Source)
  /-- The memory of the process itself: a file by its looks, of no size, that cannot be read. -/
  | ownMemory

/-- The handle that opening something gives. -/
def Content.opened : Content → Handle
  | .file data => ⟨.ok ⟨true, data.length⟩, .ofBytes data⟩
  | .ownMemory => ⟨.ok ⟨true, 0⟩, ⟨[.failure (.system .inputOutput)], none⟩⟩
  | .device source => ⟨.ok ⟨false, 0⟩, source⟩
  | .directory | .link _ => ⟨.ok ⟨false, 0⟩, ⟨[], none⟩⟩

/-- Something at a place. -/
structure Entry where
  place : Place
  content : Content
  /-- Whether it may not be opened, nor gone through. -/
  forbidden : Bool

/-- What stands where, and the place where relative paths begin. -/
structure FileTree where
  entries : List Entry
  home : Place

namespace FileTree

/-! ### Paths -/

/-- The parts of a text between marks. -/
def splitAtMark (mark : Char) : List Char → List (List Char)
  | [] => [[]]
  | character :: later =>
    let parts := splitAtMark mark later
    if character = mark then [] :: parts
    else (character :: parts.headD []) :: parts.tail

/-- The names in a path. Slashes in a row count as one; one at the end asks for a directory, as the
name `.` would. -/
def names (path : String) : List String :=
  let parts := splitAtMark '/' path.toList
  let named := (parts.filter (· ≠ [])).map String.ofList
  if parts.getLast? = some [] then named ++ ["."] else named

/-- Where a path begins: at the root if it starts with a slash, else at the place given. -/
def beginning (place : Place) (path : String) : Place :=
  if path.toList.head? = some '/' then [] else place

/-! ### Places -/

/-- What stands at a place. The entry listed last counts, and whatever leads to an entry is a
directory. -/
def entryAt (tree : FileTree) (place : Place) : Option Entry :=
  match tree.entries.reverse.find? (·.place = place) with
  | some entry => some entry
  | none =>
    if tree.entries.any (place.isSuffixOf ·.place) ∨ place.isSuffixOf tree.home then
      some ⟨place, .directory, false⟩
    else none

/-- The most bytes in one name. -/
def longestName : Nat := 255

/-- The most bytes in a path, and one. -/
def pathLimit : Nat := 4096

/-- The most links followed for one path. -/
def linkLimit : Nat := 40

/-- Walk from a place along names; `follow` goes on from a directory at the target of a link in it
and the names after that. -/
def walk (tree : FileTree) (follow : Place → String → List String → Except SystemError Place)
    (here : Place) : List String → Except SystemError Place
  | [] => .ok here
  | name :: later =>
    match tree.entryAt here with
    | some ⟨_, .directory, forbidden⟩ =>
      if forbidden then .error .accessDenied
      else if name = "." then walk tree follow here later
      else if name = ".." then walk tree follow here.tail later
      else if name.utf8ByteSize > longestName then .error .nameTooLong
      else
        match tree.entryAt (name :: here) with
        | none => .error .noEntry
        | some ⟨_, .link target, _⟩ => follow here target later
        | some _ => walk tree follow (name :: here) later
    | some _ => .error .notADirectory
    | none => .error .noEntry

/-- The place that names lead to from a place, when at most `links` links are followed. -/
def resolve (tree : FileTree) : (links : Nat) → Place → List String → Except SystemError Place
  | 0 => walk tree fun _ _ _ => .error .tooManyLinks
  | links + 1 => walk tree fun here target later =>
    resolve tree links (beginning here target) (names target ++ later)

/-- The place that a path leads to. -/
def placeOf (tree : FileTree) (path : String) : Except SystemError Place :=
  tree.resolve linkLimit (beginning tree.home path) (names path)

/-! ### Opening -/

/-- The tree as a disk. -/
def disk (tree : FileTree) : Disk := fun path =>
  if path.toList.contains '\x00' then .error .nulInPath
  else if path.utf8ByteSize ≥ pathLimit then .error (.system .nameTooLong)
  else if path = "" then .error (.system .noEntry)
  else
    match tree.placeOf path with
    | .error error => .error (.system error)
    | .ok place =>
      match tree.entryAt place with
      | none => .error (.system .noEntry)
      | some entry =>
        if entry.forbidden then .error (.system .accessDenied) else .ok entry.content.opened

/-! ### Building a tree -/

/-- The entries of every tree. -/
def devices : List Entry :=
  [⟨["null", "dev"], .device ⟨[], none⟩, false⟩,
    ⟨["zero", "dev"], .device ⟨[], some 0⟩, false⟩,
    ⟨["mem", "self", "proc"], .ownMemory, false⟩]

/-- A tree with the devices alone, and a directory to put entries in. -/
def bare : FileTree := ⟨devices, ["operator", "home"]⟩

/-- The place that a name leads to from a place on the way to an entry: a link is followed if it
leads anywhere. -/
def enter (tree : FileTree) (here : Place) (name : String) : Place :=
  if name = "." then here
  else if name = ".." then here.tail
  else
    match tree.entryAt (name :: here) with
    | some ⟨_, .link target, _⟩ =>
      (tree.resolve linkLimit (beginning here target) (names target)).toOption.getD (name :: here)
    | _ => name :: here

/-- The place that an entry at a path is put at. The last name is its own, so a link of that name is
not followed. -/
def placeFor (tree : FileTree) (path : String) : Place :=
  let here := (names path).dropLast.foldl tree.enter tree.home
  match (names path).getLast? with
  | none | some "." => here
  | some ".." => here.tail
  | some name => name :: here

/-- What is to stand at a path in the directory where relative paths begin. -/
structure Listed where
  path : String
  content : Content
  /-- Whether it is to be forbidden; to forbid a link is to forbid what it leads to. -/
  forbidden : Bool

/-- The tree with one entry more. -/
def add (tree : FileTree) (listed : Listed) : FileTree :=
  { tree with
    entries := tree.entries ++ [⟨tree.placeFor listed.path, listed.content, false⟩] }

/-- The tree with what stands at a place forbidden. -/
def forbid (tree : FileTree) (place : Place) : FileTree :=
  match tree.entryAt place with
  | some entry => { tree with entries := tree.entries ++ [{ entry with forbidden := true }] }
  | none => tree

/-- A tree that holds the devices and listed entries, put in place in order and forbidden last. -/
def ofListing (listing : List Listed) : FileTree :=
  let tree := listing.foldl add bare
  let forbidden := listing.filterMap fun listed =>
    if listed.forbidden then (tree.placeOf listed.path).toOption else none
  forbidden.foldl forbid tree

end FileTree

end Cosmac
