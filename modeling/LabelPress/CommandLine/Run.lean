import LabelPress.CommandLine.Arguments
import LabelPress.Delivery
import LabelPress.Image.Source
import LabelPress.Printer
import LabelPress.Template.Json
import LabelPress.Template.Variables
import LabelPress.Text.CharClass

/-!
# Running a command

A command reads files, prints documents and reports what it wrote. What it needs from outside is a
`Shell`, so that it runs on a disk as well as in memory.

## Main definitions

* `Shell` - files, output and delivery.
* `run` - carries out an invocation.
* `execute` - the same from arguments, with an exit code.
-/

namespace LabelPress.CommandLine

open LabelPress.Text LabelPress.Zpl

/-- What a command needs from outside. -/
structure Shell (m : Type → Type) where
  readFile : (path : String) → m (Except FileFault (List UInt8))
  writeFile : (path : String) → (bytes : List UInt8) → m (Except FileFault Unit)
  /-- Creates a directory and those above it that are missing. -/
  createDirectory : (path : String) → m (Except FileFault Unit)
  /-- Delivers a document to a printer, or says why not. -/
  deliver : Address → (document : String) → m (Except String Unit)
  print : (text : String) → m Unit
  /-- Reports a line beside the output. -/
  report : (line : String) → m Unit

def programName : String := "labelzpl"

def versionText : String := programName ++ " 0.1.0"

/-- What is reported for arguments that are not understood. -/
def usage : String :=
  "Usage: " ++ programName ++ " [-v] compile | variables | batch | rfid-write [options]"

/-! ## Settings -/

/-- The column and the variable of a mapping, on both sides of the first equals sign. -/
def mapping? (text : String) : Option (String × String) := do
  let (column, variableName) ← splitAt? '=' text.toList
  return (String.ofList (trimChars column), String.ofList (trimChars variableName))

/-- The column map of mappings; of several for one column the last stays. -/
def columnMap (mappings : List String) : Except LabelError ColumnMap :=
  mappings.foldlM
    (fun map text =>
      match mapping? text with
      | some (column, variableName) => .ok (map.insert column variableName)
      | none => .error (.template (.badMapping text))) {}

/-- The template at the resolution of a printer, if one is named. -/
def onPrinter (template : Template) : Option String → Except LabelError Template
  | none => .ok template
  | some key =>
    match Printer.ofKey? key with
    | some printer => .ok { template with canvas.dpi := printer.dpi }
    | none => .error (.template (.unknownPrinter key (Printer.presets.map Printer.key)))

/-- A character of the name of a preview: letters, digits, hyphens and underscores stay. -/
def previewChar (c : Char) : Char :=
  if isAlphanumeric c || c = '-' || c = '_' then c else '_'

/-- The name of the preview for the image of an element. -/
def previewName (id : String) : String :=
  onChars (·.map previewChar) id ++ ".png"

/-- The path of a file in a directory. -/
def joinPath (directory name : String) : String :=
  if directory.endsWith "/" then directory ++ name else directory ++ "/" ++ name

/-- The lines for a tag with the values that are given, the product code first. -/
def tagBlock (epc userData : Option String) : String :=
  let write := fun bank value => ({ bank, value } : TagWrite)
  writeBlock .standard ((epc.map (write .epc)).toList ++ (userData.map (write .userData)).toList)

/-- A line for a variable: its name, the name that people see, and a mark for a bank of the tag. -/
def variableLine (field display : String) : String :=
  field ++ "\t" ++ display ++ (if (MemoryBank.ofName? field).isSome then " (rfid)" else "")

/-! ## Steps -/

section Steps

variable {m : Type → Type} [Monad m] (shell : Shell m)

/-- A result as a step. -/
def ofResult {α : Type} (result : Except LabelError α) : ExceptT LabelError m α :=
  ExceptT.mk (pure result)

/-- The text of a file. -/
def readText (path : String) : ExceptT LabelError m String := do
  match ← shell.readFile path with
  | .error fault => throw (.file (some path) fault)
  | .ok bytes =>
    match String.fromUTF8? ⟨bytes.toArray⟩ with
    | some text => return text
    | none => throw (.file (some path) .notText)

/-- The template of a file, at the resolution of a printer if one is named. -/
def loadTemplate (path : String) (printer : Option String) : ExceptT LabelError m Template := do
  let template ← ofResult (Template.parse (← readText shell path))
  ofResult (onPrinter template printer)

/-- The bitmaps of a template. Without an image that has a source there is nothing to ask for. -/
def bitmapsOf (template : Template) : m (Std.TreeMap String Bitmap) :=
  if template.images = [] then pure {}
  else rasterizeImages (renderSource shell.readFile) template.elements template.canvas.dpi

/-- Writes the preview of a bitmap. A name that is all suffix says nothing about its format. -/
def savePreview (directory id : String) (bitmap : Bitmap) : ExceptT LabelError m Unit := do
  let name := previewName id
  let path := joinPath directory name
  let bytes := Png.encodeGray bitmap.width bitmap.height bitmap.gray.toList
  if name = ".png" then
    throw (.image (.unsaved (.other "The image format could not be determined")))
  match ← shell.writeFile path bytes with
  | .ok () => shell.report ("Saved preview " ++ path)
  | .error fault => throw (.image (.unsaved fault))

/-- Writes the previews of all bitmaps to a directory. -/
def savePreviews (directory : String) (bitmaps : Std.TreeMap String Bitmap) :
    ExceptT LabelError m Unit := do
  match ← shell.createDirectory directory with
  | .error fault => throw (.file none fault)
  | .ok () => bitmaps.toList.forM fun (id, bitmap) => savePreview shell directory id bitmap

/-- Writes text to a file, or prints it as a line. -/
def writeOutput (output : Option String) (text : String) : ExceptT LabelError m Unit := do
  match output with
  | none => shell.print (text ++ "\n")
  | some path =>
    match ← shell.writeFile path (utf8Bytes text) with
    | .ok () => shell.report ("Wrote " ++ path)
    | .error fault => throw (.file none fault)

/-- Delivers documents one after another until one fails. -/
def deliverAll (address : Address) (documents : List String) : ExceptT LabelError m Unit :=
  documents.forM fun document => do
    match ← shell.deliver address document with
    | .ok () => return ()
    | .error reason => throw (.transport reason)

/-! ## Commands -/

/-- Compiles a template. -/
def runCompile (settings : CompileSettings) : ExceptT LabelError m Unit := do
  let template ← loadTemplate shell settings.template settings.printer
  let bitmaps ← liftM (bitmapsOf shell template)
  if let some directory := settings.previews then savePreviews shell directory bitmaps
  let document := template.compile
    { placeholders := !settings.literal, imageCache := imageCache bitmaps }
  writeOutput shell settings.destination.output document
  if let some target := settings.destination.send then
    deliverAll shell (.ofTarget target) [document]
    shell.report ("Sent to " ++ target)

/-- Lists the variables of a template. -/
def runVariables (path : String) : ExceptT LabelError m Unit := do
  let template ← loadTemplate shell path none
  (displayNames template.elements).forM fun (field, display) =>
    shell.print (variableLine field display ++ "\n")

/-- The map of columns that was given, or that of the columns that are named like variables. -/
def chooseMap (mappings : List String) (rows : List Row) (template : Template) :
    Except LabelError ColumnMap :=
  if mappings = [] then
    .ok (autoColumnMap (rowColumns rows) (fillableVariables template.elements))
  else columnMap mappings

/-- Fills a template from rows. -/
def runBatch (settings : BatchSettings) : ExceptT LabelError m Unit := do
  let template ← loadTemplate shell settings.template settings.printer
  let text ← readText shell settings.rows
  let rows ← ofResult ((parseRows text).mapError .json)
  let map ← ofResult (chooseMap settings.mappings rows template)
  let bitmaps ← liftM (bitmapsOf shell template)
  let document := template.compile { imageCache := imageCache bitmaps }
  let documents := expandRows document rows map settings.columns .standard
  writeOutput shell settings.destination.output (joinLines documents)
  if let some target := settings.destination.send then
    deliverAll shell (.ofTarget target) documents
    shell.report ("Sent " ++ toString documents.length ++ " labels to " ++ target)

/-- Carries out an invocation. -/
def run : Invocation → ExceptT LabelError m Unit
  | .version => shell.print (versionText ++ "\n")
  | .compile settings => runCompile shell settings
  | .variables path => runVariables shell path
  | .batch settings => runBatch shell settings
  | .tagWrite epc userData => shell.print (tagBlock epc userData ++ "\n")

/-- Carries out what arguments ask for. The exit code is 2 for arguments that are not understood and
1 for an error, which is reported. -/
def execute (arguments : List String) : m UInt32 := do
  match Invocation.ofArguments? arguments with
  | none =>
    shell.report usage
    return 2
  | some invocation =>
    match ← (run shell invocation).run with
    | .ok () => return 0
    | .error e =>
      shell.report ("Error: " ++ e.message)
      return 1

end Steps

end LabelPress.CommandLine
