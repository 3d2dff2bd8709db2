import LabelPress.Image.Base64
import LabelPress.Text.Blank

/-!
# Data in an address

An address of the form `data:type,payload` holds its data itself, in base 64 if the part before the
comma says so.

## Main definitions

* `decodeDataUrl` - the bytes that an address holds.
-/

namespace LabelPress

open LabelPress.Text

/-- The UTF-8 bytes of a text. -/
def utf8Bytes (s : String) : List UInt8 :=
  s.toUTF8.toList

/-- What the part before the comma ends with if the payload is in base 64. -/
def base64Mark : List Char := ";base64".toList

/-- The bytes that an address holds: what follows its first comma. -/
def decodeDataUrl (src : String) : Except ImageFault (List UInt8) :=
  match splitAt? ',' src.toList with
  | none => .error .noPayload
  | some (header, payload) =>
    if (dropTextEnd? base64Mark header).isSome then
      match Base64.decode (utf8Bytes (String.ofList (trimChars payload))) with
      | .ok bytes => .ok bytes
      | .error fault => .error (.base64 fault)
    else .ok (utf8Bytes (String.ofList payload))

end LabelPress
