import StoryGraph.Document
import StoryGraph.Graph.Compile
import StoryGraph.Logging
import StoryGraph.Play.Stage
import StoryGraph.Proofs.IdSupply
import StoryGraph.Proofs.Play.Session
import StoryGraph.Proofs.Play.Ended
import StoryGraph.Proofs.Graph.Canonical
import StoryGraph.Proofs.Graph.Soundness
import StoryGraph.Proofs.Graph.Accepted
import StoryGraph.Proofs.Graph.Editing
import StoryGraph.Proofs.Play.Solo
import StoryGraph.Proofs.Play.Postponed
import StoryGraph.Proofs.Graph.Faults
import StoryGraph.Proofs.Graph.Compiled
import StoryGraph.Proofs.Graph.Complete
import StoryGraph.Proofs.Play.Walk
import StoryGraph.Proofs.Play.Hosted
import StoryGraph.Proofs.Play.Meaning
import StoryGraph.Proofs.Play.Route
import StoryGraph.Proofs.Play.Loopless
import StoryGraph.Proofs.Play.Whole
import StoryGraph.Proofs.Play.Exchange
import StoryGraph.Proofs.Graph.Reach
import StoryGraph.Proofs.Graph.Alike
import StoryGraph.Proofs.Graph.Rearranged
import StoryGraph.Proofs.Graph.Signature
import StoryGraph.Proofs.Node.Recorded
import StoryGraph.Proofs.Shape
import StoryGraph.Proofs.Document.Recorded
import StoryGraph.Proofs.Document.RoundTrip
import StoryGraph.Proofs.Document.Compiling
import StoryGraph.Proofs.Json.Characters
import StoryGraph.Proofs.Timestamp
import StoryGraph.Proofs.Play.Outline
import StoryGraph.Proofs.Play.Replayed
import StoryGraph.Proofs.Number.Rounding
import StoryGraph.Proofs.Number.Digits
import StoryGraph.Proofs.Number.Decimal
import StoryGraph.Proofs.Json.Numbers
import StoryGraph.Proofs.Json.Reading
import StoryGraph.Proofs.Document.Stored
import StoryGraph.Proofs.Document.Reloaded
import StoryGraph.Proofs.Play.Effect
import StoryGraph.Proofs.Play.Chronicle
import StoryGraph.Proofs.Play.Cancelled
import StoryGraph.Proofs.Play.Counters
import StoryGraph.Proofs.Play.Truncated
import StoryGraph.Proofs.Play.Confined
import StoryGraph.Proofs.Play.Footprint
import StoryGraph.Proofs.Play.Independent
import StoryGraph.Proofs.Play.Unreached
import StoryGraph.Proofs.Shape.Accepted
import StoryGraph.Proofs.Document.Derived
import StoryGraph.Proofs.Document.Format
import StoryGraph.Proofs.Document.Restored
import StoryGraph.Proofs.Trigger
import StoryGraph.Proofs.Play.Cause
import StoryGraph.Proofs.Play.Path
import StoryGraph.Proofs.Play.Blame
import StoryGraph.Proofs.Play.Fired
import StoryGraph.Proofs.Comparison
import StoryGraph.Proofs.Graph.Deleted
import StoryGraph.Proofs.Trigger.Grammar
import StoryGraph.Proofs.Node.Updated
import StoryGraph.Proofs.Graph.Updated
import StoryGraph.Proofs.Graph.Mutation
import StoryGraph.Proofs.Graph.Stepwise
import StoryGraph.Proofs.Document.Slots
import StoryGraph.Proofs.Graph.Normal
import StoryGraph.Proofs.Play.EntryMode
import StoryGraph.Proofs.Version.Spelling
import StoryGraph.Proofs.Version.Caret
