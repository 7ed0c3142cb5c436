import StackPlaybook.Main
import StackPlaybook.Json.Pointer
import StackPlaybook.Proofs.Play.Trail
import StackPlaybook.Proofs.Scene.Once
import StackPlaybook.Proofs.Scene.Patience
import StackPlaybook.Proofs.Scene.Timing
import StackPlaybook.Proofs.Run.Report
import StackPlaybook.Proofs.Template.Writing
import StackPlaybook.Proofs.Stack.Order
import StackPlaybook.Proofs.Run.Resolution
import StackPlaybook.Proofs.Run.Verbosity
import StackPlaybook.Proofs.Stack.ReadBack
import StackPlaybook.Proofs.Scene.Fetching
import StackPlaybook.Proofs.Stack.Naming
import StackPlaybook.Proofs.Backoff.Schedule
import StackPlaybook.Proofs.Stack.Retarget
import StackPlaybook.Proofs.Scene.Lookback
import StackPlaybook.Proofs.Stack.Lookup
import StackPlaybook.Proofs.Stack.Ownership
import StackPlaybook.Proofs.Stack.Constructs
import StackPlaybook.Proofs.Scene.Polling
import StackPlaybook.Proofs.Run.Listing
import StackPlaybook.Proofs.Stack.Segments
