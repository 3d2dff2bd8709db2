import LabelPress.Colour
import LabelPress.CommandLine.Arguments
import LabelPress.CommandLine.FileTree
import LabelPress.CommandLine.Memory
import LabelPress.CommandLine.Run
import LabelPress.Delivery
import LabelPress.Element.Json
import LabelPress.Element.Order
import LabelPress.Font
import LabelPress.Image.Bitmap
import LabelPress.Image.DataUrl
import LabelPress.Image.Resample
import LabelPress.Image.Source
import LabelPress.Json.Fault
import LabelPress.Json.Skip
import LabelPress.Main
import LabelPress.Number.Format
import LabelPress.Number.Hex
import LabelPress.Number.Parse
import LabelPress.Orientation
import LabelPress.Placeholder
import LabelPress.Printer
import LabelPress.Proofs.Emission
import LabelPress.Proofs.Filling
import LabelPress.Proofs.Recognition
import LabelPress.Proofs.Scanning
import LabelPress.Proofs.Spans
import LabelPress.Proofs.TagReads
import LabelPress.Proofs.Variables
import LabelPress.Row.Batch
import LabelPress.TagWrite
import LabelPress.Template.Compile
import LabelPress.Template.Json
import LabelPress.Template.Variables
import LabelPress.Text.Blank
import LabelPress.Text.CharClass
import LabelPress.Text.Chars
import LabelPress.Text.UpperCase
import LabelPress.Units
import LabelPress.Zpl.Barcode
import LabelPress.Zpl.Command
import LabelPress.Zpl.Field
import LabelPress.Zpl.Graphic
import LabelPress.Zpl.Rfid
import LabelPress.Proofs.Verbatim
import LabelPress.Proofs.Carets
import LabelPress.Proofs.RowData
import LabelPress.Proofs.Unescaped
import LabelPress.Proofs.PrintOrder
import LabelPress.Proofs.Images
import LabelPress.Proofs.JsonText
import LabelPress.Proofs.Modes
import LabelPress.Proofs.ElementFields
import LabelPress.Proofs.RoundTrip
import LabelPress.Proofs.InkMap
import LabelPress.Proofs.Occurrences
import LabelPress.Proofs.BatchTags
import LabelPress.Proofs.PrinterLimits
import LabelPress.Proofs.ColumnMaps
import LabelPress.Proofs.TagDigits
import LabelPress.Proofs.WriteBlocks
import LabelPress.Proofs.IntegerCells
import LabelPress.Proofs.OwnColumns
import LabelPress.Proofs.HexColours
import LabelPress.Proofs.FrameFields
import LabelPress.Proofs.ElementLists
import LabelPress.Proofs.QuarterTurns
import LabelPress.Proofs.LineShapes
import LabelPress.Proofs.Quadrants
import LabelPress.Proofs.EscapedText
import LabelPress.Proofs.DataUrls
import LabelPress.Proofs.Targets
import LabelPress.Proofs.Deliveries
import LabelPress.Proofs.FilePaths
import LabelPress.Proofs.Previews
