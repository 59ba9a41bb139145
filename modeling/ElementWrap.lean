import ElementWrap.Main
import ElementWrap.Naming.Pool
import ElementWrap.Proofs.Work.Failure
import ElementWrap.Proofs.Work.Rebuild
import ElementWrap.Proofs.Layout.Agreement
import ElementWrap.Proofs.Layout.Independence
import ElementWrap.Proofs.Work.DebugFile
import ElementWrap.Proofs.Work.OwnLogger
import ElementWrap.Proofs.Analysis.Traversal
import ElementWrap.Proofs.Analysis.Selection
import ElementWrap.Proofs.Wrapper.HiddenMembers
import ElementWrap.Proofs.Naming.RoundTrip
import ElementWrap.Proofs.Naming.Transparency
import ElementWrap.Proofs.Naming.Sharing
import ElementWrap.Proofs.Work.SeparateFiles
import ElementWrap.Proofs.Work.Progress
import ElementWrap.Proofs.Work.Answering
import ElementWrap.Proofs.Work.Readability
import ElementWrap.Proofs.Work.Containment
import ElementWrap.Proofs.Analysis.Collecting
import ElementWrap.Proofs.Options.Validation
import ElementWrap.Proofs.Wrapper.Handlers
import ElementWrap.Proofs.Work.Stopping
import ElementWrap.Proofs.Options.Nulls
import ElementWrap.Proofs.Options.Precedence
import ElementWrap.Proofs.Component.Forms
import ElementWrap.Proofs.Work.Faults
import ElementWrap.Proofs.Command.Exit
import ElementWrap.Proofs.Wrapper.Sectionwise
import ElementWrap.Proofs.Wrapper.Lossless
import ElementWrap.Proofs.Naming.Identifiers
import ElementWrap.Proofs.Options.Fields
import ElementWrap.Proofs.Template.Requests
