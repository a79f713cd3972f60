import RouteSync.Exchange.Session
import RouteSync.Render.Scripted
import RouteSync.RouteTree.Walk
import RouteSync.Proofs.Places
import RouteSync.Proofs.Sameness
import RouteSync.Proofs.Replacement
import RouteSync.Proofs.Patching
import RouteSync.Proofs.Merging
import RouteSync.Proofs.AnyOrder
import RouteSync.Proofs.Bounds
import RouteSync.Proofs.Reading
import RouteSync.Proofs.Filtering
import RouteSync.Proofs.Grammar
import RouteSync.Proofs.Faithful
import RouteSync.Proofs.Ambiguity
import RouteSync.Proofs.Envelopes
import RouteSync.Proofs.Changes
import RouteSync.Proofs.Topmost
import RouteSync.Proofs.OnePlace
import RouteSync.Proofs.Refetching
import RouteSync.Proofs.ClientDepth
import RouteSync.Proofs.ClientNodes
import RouteSync.Proofs.Conversation
import RouteSync.Proofs.FirstFault
import RouteSync.Proofs.SlotOrder
import RouteSync.Proofs.Recovery
import RouteSync.Proofs.Printed
import RouteSync.Proofs.Nesting
import RouteSync.Proofs.Transport
import RouteSync.Proofs.Prefixes
import RouteSync.Proofs.Searching
import RouteSync.Proofs.Marks
import RouteSync.Proofs.FlatForm
import RouteSync.Proofs.Calls
import RouteSync.Proofs.Alternation
import RouteSync.Proofs.Positions
import RouteSync.Proofs.DepthCut
import RouteSync.Proofs.Shapes
import RouteSync.Proofs.TreeText
import RouteSync.Proofs.OptionsText
