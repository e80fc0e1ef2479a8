/-
  SlabWaste.Files
  ───────────────
  **THE FILES THAT A RUN SEES.**

  A run asks three things of the files around it: the bytes of a file, whether a
  file of a given name can be written, and whether it is the standard output under
  another name.  Everything else about a file system stays outside.

      FileSystem             the three answers, for every path
      Place                  where a path leads, in the directory or out of it
      Directory.fileSystem   the answers of a directory that is held in memory
      Directory.made         the files that a run adds to it
-/

namespace SlabWaste

/-! ## §1. Answers. -/

/-- Why a file cannot be opened. -/
inductive FileFault where
  | notFound
  | isDirectory
  | notDirectory
  | nameTooLong
  /-- The path holds the character that ends a path. -/
  | nulInPath
  | other (text : String)
  deriving DecidableEq, Repr

/-- The wording of a fault. -/
def FileFault.message : FileFault → String
  | .notFound => "No such file or directory"
  | .isDirectory => "Is a directory"
  | .notDirectory => "Not a directory"
  | .nameTooLong => "File name too long"
  | .nulInPath => "embedded null byte"
  | .other text => text

/-- What a file system answers. -/
structure FileSystem where
  /-- The bytes of a file. -/
  read : String → Except FileFault (List UInt8)
  /-- Why a file cannot be written, if it cannot. -/
  refusal? : String → Option FileFault
  /-- What is written to the file comes out on the standard output. -/
  isOutput : String → Bool := fun _ => false

/-! ## §2. A directory in memory. -/

/-- What a name in a directory stands for. -/
inductive Entry where
  | file (bytes : List UInt8)
  | directory
  deriving DecidableEq, Repr

/-- A directory, as its entries by name. -/
structure Directory where
  entries : List (String × Entry) := []

/-- What the names of a path are counted from. -/
inductive Base where
  /-- The directory, or so many steps above it. -/
  | above (steps : Nat)
  /-- The root of the whole tree. -/
  | root
  deriving DecidableEq, Repr

/-- Where a path leads: down from a base by names. -/
structure Place where
  base : Base := .above 0
  names : List String := []
  deriving DecidableEq, Repr

namespace Place

/-- One step up.  Above the directory there are others; above the root there is nothing. -/
def parent (p : Place) : Place :=
  if p.names.isEmpty then
    match p.base with
    | .above steps => { p with base := .above (steps + 1) }
    | .root => p
  else { p with names := p.names.dropLast }

/-- One step down. -/
def child (p : Place) (name : String) : Place :=
  { p with names := p.names ++ [name] }

/-- The name of a place that lies directly in the directory. -/
def ownName? (p : Place) : Option String :=
  match p.base, p.names with
  | .above 0, [name] => some name
  | _, _ => none

/-- Where a path with the given components starts: with nothing before its first slash, at
the root. -/
def start (components : List String) : Place :=
  if components.head? = some "" then { base := .root } else {}

end Place

/-- The directories that are at the root of any system. -/
def standardDirectories : List String :=
  ["bin", "dev", "etc", "home", "lib", "proc", "tmp", "usr", "var"]

/-- What is known to be at the root: the standard directories, and the empty device, which
reads as an empty file and takes whatever is written. -/
def rootEntry? : List String → Option Entry
  | [name] => if standardDirectories.contains name then some .directory else none
  | ["dev", "null"] => some (.file [])
  | _ => none

namespace Directory

/-- The most bytes in one component of a path. -/
def componentLimit : Nat := 255

/-- The most bytes in a path. -/
def pathLimit : Nat := 4095

/-- The entry that names within the directory stand for. -/
def ownEntry? (d : Directory) (names : List String) : Option Entry :=
  let name := "/".intercalate names
  match d.entries.lookup name with
  | some e => some e
  | none =>
      let below := (name ++ "/").toList
      if d.entries.any fun e => below.isPrefixOf e.1.toList then some .directory else none

/-- The entry at a place.  The directories above are there, and hold nothing that is known. -/
def entry? (d : Directory) (place : Place) : Option Entry :=
  if place.names.isEmpty then some .directory
  else
    match place.base with
    | .above 0 => d.ownEntry? place.names
    | .above _ => none
    | .root => rootEntry? place.names

/-- The place that a path leads to; every component but the last has to be a directory. -/
def walk (d : Directory) (place : Place) : List String → Except FileFault Place
  | [] => .ok place
  | c :: rest =>
      match d.entry? place with
      | none => .error .notFound
      | some (.file _) => .error .notDirectory
      | some .directory =>
          if c = "" ∨ c = "." then walk d place rest
          else if c = ".." then walk d place.parent rest
          else if componentLimit < c.utf8ByteSize then .error .nameTooLong
          else walk d (place.child c) rest

/-- The components of a path, unless no path can be like that. -/
def components (path : String) : Except FileFault (List String) :=
  if path.toList.contains (Char.ofNat 0) then .error .nulInPath
  else if path = "" then .error .notFound
  else if pathLimit < path.utf8ByteSize then .error .nameTooLong
  else .ok (path.splitOn "/")

/-- The place that a path stands for. -/
def resolve (d : Directory) (path : String) : Except FileFault Place := do
  let parts ← components path
  d.walk (.start parts) parts

/-- The name in the directory that a path stands for, if it leads to no other place. -/
def ownName? (d : Directory) (path : String) : Option String :=
  match d.resolve path with
  | .ok place => place.ownName?
  | .error _ => none

/-- The bytes of a file. -/
def read (d : Directory) (path : String) : Except FileFault (List UInt8) := do
  match d.entry? (← d.resolve path) with
  | none => .error .notFound
  | some .directory => .error .isDirectory
  | some (.file bytes) => .ok bytes

/-- The components of a path without the name at its end, and without the slashes there. -/
def leading (parts : List String) : List String :=
  (parts.reverse.dropWhile (· = "")).reverse.dropLast

/-- Whether a file can be written.  A path that ends in a slash names a directory, whatever
is there: only what leads up to its last name has to be right. -/
def create (d : Directory) (path : String) : Except FileFault Unit := do
  let parts ← components path
  if parts.getLast? = some "" then
    let _ ← d.walk (.start parts) (leading parts ++ ["."])
    .error .isDirectory
  else
    let place ← d.walk (.start parts) parts
    if d.entry? place = some .directory then .error .isDirectory else .ok ()

/-- The files that a run makes directly in the directory, of those it writes. -/
def made (d : Directory) (written : List (String × String)) : List (String × String) :=
  written.filterMap fun f =>
    match d.ownName? f.1 with
    | some name => if (d.entries.lookup name).isSome then none else some (name, f.2)
    | none => none

/-- Where the standard output stands in the tree. -/
def outputPlace : Place := { base := .root, names := ["dev", "stdout"] }

/-- The answers of a directory. -/
def fileSystem (d : Directory) : FileSystem where
  read := d.read
  refusal? path :=
    match d.create path with
    | .ok () => none
    | .error why => some why
  isOutput path :=
    match d.resolve path with
    | .ok place => decide (place = outputPlace)
    | .error _ => false

end Directory

end SlabWaste
