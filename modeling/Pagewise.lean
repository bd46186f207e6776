import Pagewise.Main
import Pagewise.Paging.Run
import Pagewise.Proofs.Paging.Outcomes
import Pagewise.Proofs.Steps
import Pagewise.Proofs.Paging.Pull
import Pagewise.Proofs.Paging.IteratorRun
import Pagewise.Proofs.Paging.Poll
import Pagewise.Proofs.Paging.StreamRun
import Pagewise.Proofs.Paging.Refinement
import Pagewise.Proofs.Paging.StreamInvariant
import Pagewise.Proofs.Http.Call
import Pagewise.Proofs.Http.PageGroups
import Pagewise.Proofs.Document.Access
import Pagewise.Proofs.Model.Resolution
import Pagewise.Proofs.Model.Conformance
import Pagewise.Proofs.Operation.Documents
import Pagewise.Proofs.Operation.Frame
import Pagewise.Proofs.Paging.Resumption
import Pagewise.Proofs.Operation.Resumption
import Pagewise.Proofs.Paging.Items
import Pagewise.Proofs.Paging.ItemStream
import Pagewise.Proofs.Paging.Flattening
import Pagewise.Proofs.Operation.Policy
import Pagewise.Proofs.Command.Runs
import Pagewise.Proofs.Command.PageLimit
import Pagewise.Proofs.Command.Setup
import Pagewise.Proofs.Command.Validation
import Pagewise.Proofs.Paging.UntilError
import Pagewise.Proofs.Http.Calls
import Pagewise.Proofs.Model.Listing
import Pagewise.Proofs.Model.Isolation
import Pagewise.Proofs.Model.Acceptance
import Pagewise.Proofs.Document.Lens
import Pagewise.Proofs.Model.Finding
import Pagewise.Proofs.Http.Course
import Pagewise.Proofs.Text.Blank
import Pagewise.Proofs.Document.Spelling
import Pagewise.Proofs.Paging.Ends
import Pagewise.Proofs.Operation.Items
import Pagewise.Proofs.Retry.Delays
import Pagewise.Proofs.Retry.Warnings
import Pagewise.Proofs.Cursor.History
import Pagewise.Proofs.Http.Transience
import Pagewise.Proofs.Config.Orders
