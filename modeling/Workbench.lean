import Workbench.Account.Run
import Workbench.Main
import Workbench.Session.Scene
import Workbench.Workflow.Run
import Workbench.Proofs.Workflow.History
import Workbench.Proofs.Workflow.Agreement
import Workbench.Proofs.Workflow.Ownership
import Workbench.Proofs.Workflow.Admission
import Workbench.Proofs.Workflow.Registration
import Workbench.Proofs.Workflow.Chronicle
import Workbench.Proofs.Markup.Escaping
import Workbench.Proofs.Markup.Structure
import Workbench.Proofs.Display.Template
import Workbench.Proofs.Display.PlainText
import Workbench.Proofs.Account.SessionWrites
import Workbench.Proofs.Json.Texts
import Workbench.Proofs.Disk.Folder
import Workbench.Proofs.Session.FileStore
import Workbench.Proofs.Workflow.Policies
import Workbench.Proofs.Workflow.Separation
import Workbench.Proofs.Json.Acceptance
import Workbench.Proofs.Json.Records
import Workbench.Proofs.Gateway.Verdicts
import Workbench.Proofs.Session.Atomicity
import Workbench.Proofs.Workflow.Bookkeeping
import Workbench.Proofs.Account.Navigation
import Workbench.Proofs.Gateway.Failures
import Workbench.Proofs.Account.StatusLine
import Workbench.Proofs.Account.Secrets
import Workbench.Proofs.CommandLine.SignedIn
import Workbench.Proofs.Json.Filling
import Workbench.Proofs.Json.Completeness
import Workbench.Proofs.Gateway.Leniency
import Workbench.Proofs.Json.TextObjects
import Workbench.Proofs.Json.Compact
import Workbench.Proofs.Gateway.Requests
import Workbench.Proofs.Session.Records
import Workbench.Proofs.Url.Paths
import Workbench.Proofs.Gateway.Endpoints
import Workbench.Proofs.CommandLine.Operations
import Workbench.Proofs.Text.Blank
import Workbench.Proofs.Account.Forms
import Workbench.Proofs.Gateway.Reasons
import Workbench.Proofs.Workflow.Tickets
import Workbench.Proofs.Text.Faults
import Workbench.Proofs.Text.Words
import Workbench.Proofs.Gateway.Preview
import Workbench.Proofs.Gateway.Redirects
import Workbench.Proofs.Workflow.Rehearsal
