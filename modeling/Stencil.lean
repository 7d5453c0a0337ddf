import Stencil.Cache
import Stencil.Main
import Stencil.Proofs.Attempt
import Stencil.Proofs.Disk
import Stencil.Proofs.ReadBack
import Stencil.Proofs.Reopen
import Stencil.Proofs.Sink.Files
import Stencil.Proofs.Sink.Streams
import Stencil.Session.Run
import Stencil.Proofs.Sink.Utf8
import Stencil.Proofs.Target.Source
import Stencil.Proofs.Target.SourceFile
import Stencil.Proofs.Pass.Operations
import Stencil.Proofs.Target.ServiceFile
import Stencil.Proofs.Target.Service
import Stencil.Proofs.Pass.Finalize
import Stencil.Proofs.Pass.Move
import Stencil.Proofs.Script.Interpret
import Stencil.Proofs.Script.Moves
import Stencil.Proofs.Pass.Settled
import Stencil.Proofs.FirstBody
import Stencil.Proofs.Pass.Delivered
import Stencil.Proofs.Pass.Promised
import Stencil.Proofs.Success
import Stencil.Proofs.Pass.Rerun
import Stencil.Proofs.Rerun
import Stencil.Proofs.Incremental
import Stencil.Proofs.Accumulation
import Stencil.Proofs.Independence
import Stencil.Proofs.Books
import Stencil.Proofs.Spelled
import Stencil.Proofs.Script.Alike
import Stencil.Proofs.Commits
import Stencil.Proofs.Generation.Aborted
import Stencil.Proofs.Generation.Failures
import Stencil.Proofs.Closed
import Stencil.Proofs.Outcome
import Stencil.Proofs.Leftover
import Stencil.Proofs.Rerendering
import Stencil.Proofs.Orders
import Stencil.Proofs.Apart
import Stencil.Proofs.RoundTrip
import Stencil.Proofs.Merging
import Stencil.Proofs.Layout.Form
import Stencil.Proofs.Shaping
import Stencil.Proofs.Cache
import Stencil.Proofs.Entries
import Stencil.Proofs.Context
import Stencil.Proofs.Catalog
