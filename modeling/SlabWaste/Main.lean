/-
  SlabWaste.Main
  ──────────────
  **THE PROGRAM.**

  The files that a run may read are read first; then the run is computed, and
  what it writes is written.
-/
import SlabWaste.Command
import SlabWaste.Ring.Listing

namespace SlabWaste.Main

open SlabWaste.Command
open SlabWaste.CommandLine

/-- Why the system could not open a file. -/
def faultOf : IO.Error → FileFault
  | .noFileOrDirectory .. => .notFound
  | .inappropriateType .. => .isDirectory
  | e => .other e.toString

/-- The bytes of a file, or why there are none. -/
def observe (path : String) : IO (Except FileFault (List UInt8)) := do
  if path.toList.contains (Char.ofNat 0) then return .error .nulInPath
  try
    return .ok (← IO.FS.readBinFile path).toList
  catch e => return .error (faultOf e)

/-- The name of the standard output among the files. -/
def outputPath : String := "/dev/stdout"

/-- The files that a command line lets a run read, as they are now. -/
def visibleFiles (argv : List String) : IO FileSystem := do
  match parse argv with
  | .error _ => return { read := fun _ => .error .notFound, refusal? := fun _ => none }
  | .ok options =>
      let map ← observe options.mapFile
      let trace ← observe options.inputFile
      return {
        read := fun path => if path = options.inputFile then trace else map
        refusal? := fun _ => none
        isOutput := fun path => path = outputPath }

end SlabWaste.Main

open SlabWaste.Main in
/-- Run the command on the files around it. -/
def main (argv : List String) : IO UInt32 := do
  let outcome := SlabWaste.Command.run (← visibleFiles argv) argv
  IO.print outcome.output
  IO.eprint outcome.errorOutput
  for (path, text) in outcome.files do
    IO.FS.writeFile path text
  for plot in outcome.plots do
    if let some path := plot.saved then IO.FS.writeFile path plot.listing
  match outcome.ending with
  | .exit code => return code.toUInt32
  | .fault why =>
      IO.eprintln why.message
      return 1
