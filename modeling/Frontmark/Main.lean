import Frontmark.CommandLine.Run

/-! The program. It reads the files that a call may need, and then does what is decided. -/

set_option autoImplicit false

namespace Frontmark

/-- Whether a code is the number of an error, which can be negated in it. -/
def isNumber (code number : UInt32) : Bool :=
  code = number || code = 0 - number

def fileError (e : IO.Error) : FileError :=
  match e with
  | .noFileOrDirectory .. => .notFound
  | .inappropriateType _ code _ => if isNumber code 20 then .notFolder else .isFolder
  | .invalidArgument _ code _ => if isNumber code 36 then .nameTooLong else .other (toString e)
  | e => .other (toString e)

def readFile (path : String) : IO (Except FileError (List UInt8)) := do
  try return .ok (← IO.FS.readBinFile path).toList
  catch e => return .error (fileError e)

def writeFile (path text : String) : IO (Except FileError Unit) := do
  try return .ok (← IO.FS.writeFile path text)
  catch e => return .error (fileError e)

/-- The files that are read, as a function of their paths. -/
def readAll (paths : List String) : IO FileReader := do
  let contents ← paths.mapM fun path => do return (path, ← readFile path)
  return fun path => (contents.lookup path).getD (.error .notFound)

end Frontmark

open Frontmark

def main (arguments : List String) : IO UInt32 := do
  let sources :=
    match CommandLine.Invocation.read arguments with
    | .ok i => i.sources
    | .error _ => []
  let outcome ←
    match CommandLine.decide (← readAll sources) arguments with
    | .finish o => pure o
    | .write path text => do pure (CommandLine.written path (← writeFile path text))
  IO.print outcome.output
  IO.eprint outcome.errors
  return outcome.status.toUInt32
