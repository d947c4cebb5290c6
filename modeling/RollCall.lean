import RollCall.Json.Reader
import RollCall.Main
import RollCall.Proofs.Documentation.Signatures
import RollCall.Proofs.Example.Derivation
import RollCall.Proofs.Example.Termination
import RollCall.Proofs.Project
import RollCall.Proofs.Source.InterfaceReading
import RollCall.Proofs.Documentation.FileOrder
import RollCall.Proofs.GoType.Json
import RollCall.Proofs.GoType.Spelling
import RollCall.Proofs.Package.Comments
import RollCall.Proofs.Comment.Owners
import RollCall.Proofs.Comment.Runs
import RollCall.Proofs.Source.InnerRemarks
import RollCall.Proofs.Report.Grouping
import RollCall.Proofs.Comment.LastEntry
import RollCall.Proofs.Comment.Layout
import RollCall.Proofs.Comment.Recommented
import RollCall.Proofs.Example.Run
import RollCall.Proofs.Example.Registration
import RollCall.Proofs.Documentation.Registration
import RollCall.Proofs.Example.Pointer
import RollCall.Proofs.Example.Failure
import RollCall.Proofs.Example.Frame
import RollCall.Proofs.Json.RoundTrip
import RollCall.Proofs.Example.MethodTexts
import RollCall.Proofs.Report.Manifest
import RollCall.Proofs.Report.Headings
import RollCall.Proofs.MethodSet.Warnings
import RollCall.Proofs.Settings.Loading
import RollCall.Proofs.Example.Sufficiency
