import Tethered.Adb.Forward
import Tethered.Adb.SlotTable
import Tethered.Mux.Roster
import Tethered.Proofs.Adb.Schedule
import Tethered.Proofs.Adb.ModelQueries
import Tethered.Proofs.Mux.FrameStream
import Tethered.Proofs.Adb.DeviceLines
import Tethered.Proofs.Mux.Pipe
import Tethered.Proofs.Mux.RosterRun
import Tethered.Proofs.Mux.ListCustody
import Tethered.Proofs.Mux.Positions
import Tethered.Proofs.Mux.TagMatching
import Tethered.Proofs.Text.Encoding
import Tethered.Proofs.Plist.WrittenLexemes
import Tethered.Proofs.Plist.WrittenEvents
import Tethered.Proofs.Plist.WrittenValues
import Tethered.Proofs.Plist.RecordFields
import Tethered.Proofs.Mux.ListReplies
import Tethered.Proofs.Plist.ValueDecoding
import Tethered.Proofs.Adb.CutListing
import Tethered.Proofs.Mux.RequestWire
import Tethered.Proofs.Adb.ForwardList
import Tethered.Proofs.Adb.ForwardLedger
import Tethered.Proofs.Drain
import Tethered.Proofs.Adb.RepeatedSerials
import Tethered.Proofs.Adb.LineByLine
import Tethered.Proofs.Mux.AnyStream
import Tethered.Proofs.Text.Fields
import Tethered.Proofs.Adb.FieldForms
import Tethered.Proofs.Adb.FailureRecords
import Tethered.Proofs.Adb.FailedReloads
import Tethered.Proofs.Adb.ForwardLines
import Tethered.Proofs.Text.Decoding
import Tethered.Proofs.Mux.AddressGrammar
import Tethered.Proofs.Mux.ResultReplies
import Tethered.Proofs.Tool.Rendering
