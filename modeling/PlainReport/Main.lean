import PlainReport.Command.Run

/-!
# The command line program

The program carries out its command line on the files of the system.  Reports go
to files, and the log and the last words to the error stream.
-/

namespace PlainReport

/-- The fault in an error of the system. -/
def FileFault.ofError : IO.Error → FileFault
  | .noFileOrDirectory .. => .notFound
  | .noSuchThing .. => .notFound
  | .inappropriateType _ code _ => if code = 21 then .isDirectory else .notDirectory
  | error => .other (toString error)

/-- The files of the system. -/
def systemFiles : FileAccess IO where
  read path := do
    try return .ok (← IO.FS.readBinFile (String.ofList path)).toList
    catch error => return .error (.ofError error)
  write path bytes := do
    try return .ok (← IO.FS.writeBinFile (String.ofList path) ⟨bytes.toArray⟩)
    catch error => return .error (.ofError error)

end PlainReport

open PlainReport in
/-- Carries out the command line. -/
def main (args : List String) : IO UInt32 := do
  let environment ← IO.getEnv "TABULA_DEFAULT_WIDTH"
  let exit ← Command.run systemFiles (environment.map String.toList) (args.map String.toList)
  for event in exit.events do
    IO.eprintln (String.ofList (event.level.name ++ ' ' :: event.message))
  if let some complaint := exit.complaint then
    IO.eprintln (String.ofList complaint)
  IO.print (String.ofList exit.output)
  return exit.code.toUInt32
