/-!
# Tags

A printer reads and writes the tag inside a label while it prints. A tag has three banks of
memory; a scheme says how each is addressed.

## Main definitions

* `MemoryBank` - the three banks and their reserved names.
* `RfidScheme` - field numbers and parameters for every bank; `RfidScheme.standard` is in use
  unless another one is given.
* `WriteLength.forValue` - the number of words that a write covers.
* `readTag`, `writeTag` - the commands.
-/

namespace LabelPress.Zpl

/-- A memory bank of a tag. -/
inductive MemoryBank where
  | epc
  | tid
  | userData
deriving DecidableEq, Repr

namespace MemoryBank

/-- The name by which a designer refers to the bank. -/
def name : MemoryBank → String
  | epc => "EPC"
  | tid => "TID"
  | userData => "User Data"

/-- The bank with exactly this name. -/
def ofName? (name : String) : Option MemoryBank :=
  if name = "EPC" then some epc
  else if name = "TID" then some tid
  else if name = "User Data" then some userData
  else none

@[simp] theorem ofName?_name (bank : MemoryBank) : ofName? bank.name = some bank := by
  cases bank <;> decide

end MemoryBank

/-! ## Parameters -/

/-- How a bank is read. -/
structure ReadParameters where
  /-- The letter of the data format. -/
  format : Char
  start : UInt16
  length : UInt16
  bank : UInt8
deriving DecidableEq, Repr

/-- The parameters in the order of the command. -/
def ReadParameters.render (p : ReadParameters) : String :=
  p.format.toString ++ "," ++ toString p.start.toNat ++ "," ++ toString p.length.toNat ++ ","
    ++ toString p.bank.toNat

/-- How many words of sixteen bits a write covers. -/
inductive WriteLength where
  /-- The same number for every value. -/
  | fixed (words : UInt16)
  /-- As many as the value has, four digits each, up to a bound. -/
  | digits (max : UInt16)
deriving DecidableEq, Repr

/-- The number of words for a value, never zero where the value decides. -/
def WriteLength.forValue (length : WriteLength) (value : String) : UInt16 :=
  match length with
  | .fixed words => words
  | .digits bound =>
    let words := (value.length + 3) / 4
    max (UInt16.ofNat (min words bound.toNat)) 1

/-- How a bank is written. -/
structure WriteParameters where
  /-- The letter of the data format. -/
  format : Char
  start : UInt16
  length : WriteLength
  /-- The number of the bank, where the command names it. -/
  bank : Option UInt8
deriving DecidableEq, Repr

/-- The parameters for a value, in the order of the command. -/
def WriteParameters.render (p : WriteParameters) (value : String) : String :=
  p.format.toString ++ "," ++ toString p.start.toNat ++ ","
    ++ toString (p.length.forValue value).toNat
    ++ match p.bank with
      | some bank => "," ++ toString bank.toNat
      | none => ""

/-! ## Schemes -/

/-- How the fields of a label refer to a bank. -/
structure BankAccess where
  /-- The field number that receives the content. -/
  fieldNumber : UInt8
  read : ReadParameters
  /-- How the bank is written, unless it is read only. -/
  write : Option WriteParameters
deriving DecidableEq, Repr

/-- The addressing of a kind of tag. -/
structure RfidScheme where
  /-- The number of the tag type. -/
  tagType : UInt8
  tid : BankAccess
  epc : BankAccess
  userData : BankAccess
deriving DecidableEq, Repr

namespace RfidScheme

def access (scheme : RfidScheme) : MemoryBank → BankAccess
  | .epc => scheme.epc
  | .tid => scheme.tid
  | .userData => scheme.userData

/-- Field numbers 1, 2 and 3; the identifier is read only, a product code is always written with
twelve words, and user data with at most 64. -/
def standard : RfidScheme where
  tagType := 8
  tid := { fieldNumber := 1, read := ⟨'H', 0, 12, 2⟩, write := none }
  epc := { fieldNumber := 2, read := ⟨'H', 2, 16, 1⟩, write := some ⟨'H', 1, .fixed 12, none⟩ }
  userData :=
    { fieldNumber := 3, read := ⟨'U', 0, 32, 1⟩, write := some ⟨'U', 0, .digits 64, some 1⟩ }

end RfidScheme

/-! ## Commands -/

/-- Enables tags of a type for the label. -/
def rfidSetup (tagType : UInt8) : String :=
  "^RS" ++ toString tagType.toNat

/-- Reads a bank into its field number. -/
def readTag (access : BankAccess) : String :=
  "^FN" ++ toString access.fieldNumber.toNat ++ "^RFR," ++ access.read.render ++ "^FS"

/-- Writes hexadecimal digits to a bank. -/
def writeTag (p : WriteParameters) (value : String) : String :=
  "^RFW," ++ p.render value ++ "^FD" ++ value ++ "^FS"

example : (RfidScheme.standard.epc.write.map (writeTag · "AB12")) = some "^RFW,H,1,12^FDAB12^FS" := by
  decide +kernel

end LabelPress.Zpl
