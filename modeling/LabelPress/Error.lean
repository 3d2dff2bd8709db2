import LabelPress.Json.Fault
import LabelPress.Template.Basic

/-!
# Errors

Compiling never fails. Errors come from what is read: templates, rows, images and files.

## Main definitions

* `LabelError` - the causes, by the part of the program that meets them.
* `LabelError.message` - their wording.
-/

namespace LabelPress

/-- What the system reports about a file. -/
inductive FileFault where
  | notFound
  | exists
  /-- A part of the path is no directory. -/
  | notDirectory
  | isDirectory
  /-- A name or the whole path is too long. -/
  | nameTooLong
  | notText
  | other (text : String)
deriving DecidableEq, Repr

/-- The wording of a report. -/
def FileFault.message : FileFault → String
  | notFound => "No such file or directory (os error 2)"
  | .exists => "File exists (os error 17)"
  | notDirectory => "Not a directory (os error 20)"
  | isDirectory => "Is a directory (os error 21)"
  | nameTooLong => "File name too long (os error 36)"
  | notText => "stream did not contain valid UTF-8"
  | other text => text

/-- What is wrong with text in base 64. -/
inductive Base64Fault where
  /-- A byte that is no digit. -/
  | invalidByte (offset : Nat) (byte : UInt8)
  /-- The last digit has bits that belong to no byte. -/
  | invalidLastSymbol (offset : Nat) (byte : UInt8)
  /-- No text has this many digits. -/
  | invalidLength (digits : Nat)
  | invalidPadding
deriving DecidableEq, Repr

/-- The wording of a fault. -/
def Base64Fault.message : Base64Fault → String
  | invalidByte offset byte =>
    "Invalid symbol " ++ toString byte.toNat ++ ", offset " ++ toString offset ++ "."
  | invalidLastSymbol offset byte =>
    "Invalid last symbol " ++ toString byte.toNat ++ ", offset " ++ toString offset ++ "."
  | invalidLength digits => "Invalid input length: " ++ toString digits
  | invalidPadding => "Invalid padding"

/-- What is wrong with an image. -/
inductive ImageFault where
  /-- An address that starts like one with data, but has none. -/
  | noPayload
  /-- The data are not in base 64. -/
  | base64 (fault : Base64Fault)
  /-- A file could not be read. -/
  | unreadable (src : String) (fault : FileFault)
  /-- The bytes are no image of a known format. -/
  | undecodable
  /-- A preview could not be saved. -/
  | unsaved (fault : FileFault)
  | other (text : String)
deriving DecidableEq, Repr

/-- The wording of a fault. -/
def ImageFault.message : ImageFault → String
  | noPayload => "Invalid data URL format"
  | base64 fault => "Base64 decode error: " ++ fault.message
  | unreadable src fault => "Failed to read " ++ src ++ ": " ++ fault.message
  | undecodable => "Failed to decode image"
  | unsaved fault => "Failed to save PNG: " ++ fault.message
  | other text => text

/-- What is wrong with a template or with what accompanies it. -/
inductive TemplateFault where
  | canvas (fault : CanvasFault)
  /-- A printer that is not known. -/
  | unknownPrinter (key : String) (known : List String)
  /-- A mapping without an equals sign. -/
  | badMapping (text : String)
deriving DecidableEq, Repr

/-- The wording of a fault. -/
def TemplateFault.message : TemplateFault → String
  | canvas fault => fault.message
  | unknownPrinter key known =>
    "Unknown printer '" ++ key ++ "'. Available: " ++ ", ".intercalate known
  | badMapping text => "Invalid --map '" ++ text ++ "', expected COL=VAR"

/-- Why something could not be done. -/
inductive LabelError where
  /-- A template or a setting is not valid. -/
  | template (fault : TemplateFault)
  /-- An image could not be used. -/
  | image (fault : ImageFault)
  /-- A document could not be delivered. -/
  | transport (text : String)
  /-- A text is not the JSON that it should be. -/
  | json (fault : Json.Fault)
  /-- A file could not be read or written; the path stands in front where it is known. -/
  | file (path : Option String) (fault : FileFault)
deriving Repr

/-- The wording of an error. -/
def LabelError.message : LabelError → String
  | template fault => "Invalid template: " ++ fault.message
  | image fault => "Image error: " ++ fault.message
  | transport text => "Transport error: " ++ text
  | json fault => "JSON error: " ++ fault.message
  | file none fault => "I/O error: " ++ fault.message
  | file (some path) fault => "I/O error: " ++ path ++ ": " ++ fault.message

end LabelPress
