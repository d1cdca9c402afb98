import ArchivalBag.Config.File
import ArchivalBag.Json.ConfigForm
import ArchivalBag.Json.Reader
import ArchivalBag.Log.Logger
import ArchivalBag.Proofs.Reading.DraftLimits
import ArchivalBag.Proofs.Reading.EntryPaths
import ArchivalBag.Proofs.Reading.Failures
import ArchivalBag.Proofs.Reading.FetchRows
import ArchivalBag.Proofs.Reading.FirstError
import ArchivalBag.Proofs.Reading.WholeBag
import ArchivalBag.Proofs.FileTree.Finding
import ArchivalBag.Proofs.Reading.ControlTexts
import ArchivalBag.Proofs.Reading.ControlFiles
import ArchivalBag.Proofs.Reading.LineLayout
import ArchivalBag.Proofs.Encoding.Marks
import ArchivalBag.Proofs.Reading.MarkedFiles
import ArchivalBag.Proofs.Reading.StepOrder
import ArchivalBag.Proofs.Json.BagForm
import ArchivalBag.Proofs.Reading.WrittenFields
import ArchivalBag.Proofs.Reading.Parts
import ArchivalBag.Proofs.Log.LineRecords
import ArchivalBag.Proofs.Log.FileRecords
import ArchivalBag.Proofs.Log.ReadLog
import ArchivalBag.Proofs.Encoding.Utf16
import ArchivalBag.Proofs.Version
import ArchivalBag.Proofs.Encoding.Utf8.WellFormed
import ArchivalBag.Proofs.Reading.LosslessText
import ArchivalBag.Proofs.Metadata.History
import ArchivalBag.Proofs.Fetch.Totals
import ArchivalBag.Proofs.Reading.PassedOver
import ArchivalBag.Proofs.Reading.NameJudgement
import ArchivalBag.Proofs.Config.RoundTrip
import ArchivalBag.Proofs.Log.Installing
