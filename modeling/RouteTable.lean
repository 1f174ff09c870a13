import RouteTable.Registry
import RouteTable.Proofs.Compiler.Blame
import RouteTable.Proofs.Registry.Moments
import RouteTable.Proofs.Registry.Invalidation
import RouteTable.Proofs.Registry.Snapshots
import RouteTable.Proofs.Registry.Publication
import RouteTable.Proofs.Registry.Answers
import RouteTable.Proofs.Pattern.Items
import RouteTable.Proofs.Compiler.Matcher
import RouteTable.Proofs.Compiler.Language
import RouteTable.Proofs.Pattern.Locality
import RouteTable.Proofs.Pattern.Embedding
import RouteTable.Proofs.Compiler.Slots
import RouteTable.Proofs.Compiler.Remedy
import RouteTable.Proofs.Collection.Removal
import RouteTable.Proofs.StringMap.Search
import RouteTable.Proofs.StringMap.Canonical
import RouteTable.Proofs.Compiler.Result
import RouteTable.Proofs.Collection.Convergence
import RouteTable.Proofs.Pattern.Faults
import RouteTable.Proofs.Pattern.Names
import RouteTable.Proofs.Compiler.Template
import RouteTable.Proofs.Compiler.Batch
import RouteTable.Proofs.Registry.Failure
import RouteTable.Proofs.Registry.Provenance
import RouteTable.Proofs.Descriptor.Calls
import RouteTable.Proofs.Registry.Log
import RouteTable.Proofs.Collection.Difference
import RouteTable.Proofs.Method.Verbs
import RouteTable.Proofs.Metadata.Containment
import RouteTable.Proofs.Collection.Lookup
import RouteTable.Proofs.Compiler.Fallback
import RouteTable.Proofs.Collection.Precedence
import RouteTable.Proofs.Compiler.Relabel
import RouteTable.Proofs.Descriptor.Segments
import RouteTable.Proofs.Descriptor.Renaming
import RouteTable.Proofs.Compiler.Reports
import RouteTable.Proofs.StringMap.Halving
import RouteTable.Proofs.Text.Quoted
import RouteTable.Proofs.Compiler.Messages
import RouteTable.Proofs.Pattern.Anchors
import RouteTable.Proofs.Pattern.Stops
import RouteTable.Proofs.Pattern.Ends
import RouteTable.Proofs.Compiler.Warnings
import RouteTable.Proofs.Pattern.Steps
