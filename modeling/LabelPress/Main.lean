import LabelPress.CommandLine.Run

/-!
# The program

The command line on the disk: files are those of the system, and documents are printed. Delivery
over the network is left to other programs, so a target that is given is refused.
-/

namespace LabelPress.CommandLine

/-- The number of an error of the system. -/
def errorNumber : IO.Error → Nat
  | .alreadyExists _ code _ | .inappropriateType _ code _ | .noFileOrDirectory _ code _
  | .invalidArgument _ code _ | .resourceExhausted _ code _ | .noSuchThing _ code _
  | .otherError code _ =>
    -- Some errors carry their number with the opposite sign.
    if code < 0x80000000 then code.toNat else (0 - code).toNat
  | _ => 0

/-- The fault that an error of the system reports. -/
def faultOf (e : IO.Error) : FileFault :=
  match errorNumber e with
  | 2 => .notFound
  | 17 => .exists
  | 20 => .notDirectory
  | 21 => .isDirectory
  | 36 => .nameTooLong
  | _ => .other (toString e)

/-- An action on files with its fault as a result. -/
def attempt {α : Type} (action : IO α) : IO (Except FileFault α) := do
  match ← action.toBaseIO with
  | .ok a => return .ok a
  | .error e => return .error (faultOf e)

/-- Creates a directory. One that exists is fine, and so is one whose parents are missing. -/
def makeDirectory (path : String) : IO (Except FileFault Unit) := do
  match ← attempt (IO.FS.createDir path) with
  | .error .notFound | .error .exists => attempt (IO.FS.createDirAll path)
  | result => return result

def Shell.disk : Shell IO where
  readFile path := return (← attempt (IO.FS.readBinFile path)).map ByteArray.toList
  writeFile path bytes := attempt (IO.FS.writeBinFile path ⟨bytes.toArray⟩)
  createDirectory := makeDirectory
  deliver address _ :=
    return .error ("Failed to connect to " ++ address.host ++ ":" ++ toString address.port)
  print text := IO.print text
  report line := IO.eprintln line

end LabelPress.CommandLine

/-- Runs the program; the result is the exit code. -/
def main (arguments : List String) : IO UInt32 :=
  LabelPress.CommandLine.execute .disk arguments
