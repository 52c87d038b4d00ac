import PageImages.Command.Run
import PageImages.Encoding.Quantisation
import PageImages.Engine.Scripted
import PageImages.Image.Fingerprint
import PageImages.Main
import PageImages.Storage.Listing
import PageImages.Proofs.Path
import PageImages.Proofs.Utf8
import PageImages.Proofs.Naming
import PageImages.Proofs.Descend
import PageImages.Proofs.Seat
import PageImages.Proofs.Effects
import PageImages.Proofs.Save
import PageImages.Proofs.Task
import PageImages.Proofs.Page
import PageImages.Proofs.Document
import PageImages.Proofs.Directories
import PageImages.Proofs.Batch
import PageImages.Proofs.Isolation
import PageImages.Proofs.Resume
import PageImages.Proofs.SecondRun
import PageImages.Proofs.Runs
import PageImages.Proofs.FailFast
import PageImages.Proofs.Calls
import PageImages.Proofs.Sharing
import PageImages.Proofs.Follow
import PageImages.Proofs.Changes
import PageImages.Proofs.Frame
import PageImages.Proofs.Selection
import PageImages.Proofs.Containment
import PageImages.Proofs.Events
import PageImages.Proofs.Arguments
import PageImages.Proofs.Binary
import PageImages.Proofs.Settings
import PageImages.Proofs.Json.Grammar
import PageImages.Proofs.Json.Tokens
import PageImages.Proofs.Json.Skip
import PageImages.Proofs.Json.Readers
import PageImages.Proofs.Json.Pretty
import PageImages.Proofs.ReportText
import PageImages.Proofs.SettingsText
import PageImages.Proofs.Atomic
import PageImages.Proofs.Crop
import PageImages.Proofs.Percentages
import PageImages.Proofs.Accounting
import PageImages.Proofs.Tally
import PageImages.Proofs.Flags
import PageImages.Proofs.Presentation
import PageImages.Proofs.Widening
import PageImages.Proofs.Flatten
