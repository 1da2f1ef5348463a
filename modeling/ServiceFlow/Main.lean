import ServiceFlow.CommandLine

/-!
# The program

Reads the graph file, hands its content to the pure part, writes the workflow file and prints what
the pure part says. A file that cannot be reached is reported as the system words it.
-/

namespace ServiceFlow.CommandLine

/-- Prints a fault and gives the exit code of a failed run. -/
def reportFault (message : String) : IO UInt32 := do
  IO.eprintln message
  return 1

/-- Exports the content of a graph file to a path. -/
def exportTo (a : Arguments) (bytes : List UInt8) : IO UInt32 := do
  match Catalog.default.exportBytes bytes with
  | .ok w =>
    let output := (Path.ofString a.output).render
    IO.FS.writeFile output w.fileText
    let (stdout, stderr) := success a (exportLog output)
    IO.eprint stderr
    IO.print stdout
    return 0
  | .error fault => match fault with
    | .blocked .. =>
      IO.print (findingLines fault.findings)
      return 1
    | .yaml .malformed => reportFault "not a YAML text"
    | _ => reportFault fault.message

end ServiceFlow.CommandLine

open ServiceFlow in
def main (args : List String) : IO UInt32 := do
  let a := CommandLine.Arguments.ofList args
  try
    let content ← IO.FS.readBinFile (Path.ofString a.input).render
    CommandLine.exportTo a content.toList
  catch e => CommandLine.reportFault (toString e)
