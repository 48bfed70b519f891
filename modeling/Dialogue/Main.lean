import Dialogue.Console.Program

/-!
# The command line

The program on a real console: files, lines as they are typed, and the status
that the program leaves.
-/

namespace Dialogue.Console

def faultOf (error : IO.Error) : FileFault :=
  match error with
  | .noFileOrDirectory .. => .notFound
  | .invalidArgument _ code _ =>
      if code = 36 ∨ code = -36 then .nameTooLong else .other (toString error)
  | .inappropriateType _ code _ =>
      if code = 20 ∨ code = -20 then .notDirectory
      else if code = 21 ∨ code = -21 then .isDirectory
      else .other (toString error)
  | _ => .other (toString error)

def readFile (path : String) : IO (Except FileFault String) := do
  try
    let bytes ← IO.FS.readBinFile path
    match String.fromUTF8? bytes with
    | some text => return .ok text
    | none => return .error .notText
  catch error =>
    return .error (faultOf error)

def readLine (input : IO.FS.Stream) : IO ByteArray := do
  let mut line := ByteArray.empty
  repeat
    let next ← input.read 1
    line := line ++ next
    if next.isEmpty || next.toList == [10] then
      return line
  return line

/-- The lines of a stream, each of them read when it is asked for. -/
structure StreamLines where
  stream : IO.FS.Stream

instance : ForIn IO StreamLines (List UInt8) where
  forIn lines start body := do
    let mut state := start
    repeat
      let line ← readLine lines.stream
      if line.isEmpty then
        return state
      match ← body line.toList state with
      | .done last => return last
      | .yield next => state := next
    return state

end Dialogue.Console

open Dialogue.Console in
def main (arguments : List String) : IO UInt32 := do
  let output ← IO.getStdout
  let print := fun text => do
    output.putStr text
    output.flush
  let host : Host IO StreamLines := ⟨readFile, print, IO.eprint, ⟨← IO.getStdin⟩⟩
  return (← use host arguments).toUInt32
