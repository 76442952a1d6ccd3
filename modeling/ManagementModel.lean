import ManagementModel.Main
import ManagementModel.Node.Equality
import ManagementModel.Proofs.Dispatch.Classification
import ManagementModel.Proofs.Dispatch.Delivery
import ManagementModel.Proofs.Dispatch.Result
import ManagementModel.Proofs.Request.Addressing
import ManagementModel.Proofs.Request.Body
import ManagementModel.Proofs.Request.Upload
import ManagementModel.Proofs.Template.Wildcards
import ManagementModel.Proofs.Url.Endpoints
import ManagementModel.Proofs.Wire.Reencoding
import ManagementModel.Proofs.Wire.RoundTrip
import ManagementModel.Proofs.Wire.Extension
import ManagementModel.Proofs.Node.Paths
import ManagementModel.Proofs.ProcessState
import ManagementModel.Proofs.Template.Session
import ManagementModel.Proofs.Template.Editing
import ManagementModel.Proofs.CommandLine.Operation
import ManagementModel.Proofs.Wire.Layout
import ManagementModel.Proofs.Dispatch.Undecided
import ManagementModel.Proofs.CommandLine.Value
import ManagementModel.Proofs.Json.Record
import ManagementModel.Proofs.Settings.Layers
import ManagementModel.Proofs.Text.Misspelling
import ManagementModel.Proofs.Wire.Text
import ManagementModel.Proofs.Node.Equivalence
import ManagementModel.Proofs.Node.Rearrangement
import ManagementModel.Proofs.Files.Tree
import ManagementModel.Proofs.Json.Typed
import ManagementModel.Proofs.Settings.RoundTrip
