import LivePreview.Main
import LivePreview.Reload.Inbox
import LivePreview.Reload.Message
import LivePreview.Server.Response
import LivePreview.Surface.Served
import LivePreview.Watch.Scripted
import LivePreview.Sandbox
import LivePreview.Proofs.Preview.Recorded
import LivePreview.Proofs.Preview.Ownership
import LivePreview.Proofs.Preview.UpToDate
import LivePreview.Proofs.Guard.Nest
import LivePreview.Proofs.Guard.Rewriting
import LivePreview.Proofs.Guard.Visit
import LivePreview.Proofs.Document.Channels
import LivePreview.Proofs.Text.Template
import LivePreview.Proofs.Text.Entity
import LivePreview.Proofs.Page
import LivePreview.Proofs.Rendering
import LivePreview.Proofs.Surface.Blobs
import LivePreview.Proofs.Preview.Alike
import LivePreview.Proofs.Preview.Served
import LivePreview.Proofs.Guard.Weaving
import LivePreview.Proofs.Reload.Delivery
import LivePreview.Proofs.Reload.Message
import LivePreview.Proofs.Settings.InForce
import LivePreview.Proofs.Watch.Runs
import LivePreview.Proofs.Console.Screen
import LivePreview.Proofs.Server.Stored
import LivePreview.Proofs.Watch.Targets
import LivePreview.Proofs.Files.Path
import LivePreview.Proofs.Files.Tree
import LivePreview.Proofs.Surface.Directory
import LivePreview.Proofs.Document.Written
import LivePreview.Proofs.Guard.Splicing
import LivePreview.Proofs.Guard.Registry
import LivePreview.Proofs.Preview.Process
import LivePreview.Proofs.Script.Row
import LivePreview.Proofs.Guard.Scopes
import LivePreview.Proofs.Document.Growth
import LivePreview.Proofs.Text.Replacing
import LivePreview.Proofs.Page.Shell
import LivePreview.Proofs.Settings.Validated
import LivePreview.Proofs.Server.Routes
import LivePreview.Proofs.Server.Head
