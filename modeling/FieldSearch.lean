import FieldSearch.Engine.Faulty
import FieldSearch.Engine.Memory
import FieldSearch.Index
import FieldSearch.Mapping.Persistent
import FieldSearch.Query.Persistent
import FieldSearch.Proofs.Engine.Order
import FieldSearch.Proofs.Engine.Ranking
import FieldSearch.Proofs.Search.Draining
import FieldSearch.Proofs.Search.Window
import FieldSearch.Proofs.Mapping.Walk
import FieldSearch.Proofs.Mapping.Flattening
import FieldSearch.Proofs.Engine.Matching
import FieldSearch.Proofs.Mapping.Envelope
import FieldSearch.Proofs.Query.Translation
import FieldSearch.Proofs.Query.Meaning
import FieldSearch.Proofs.Engine.Slots
import FieldSearch.Proofs.Index.Calls
import FieldSearch.Proofs.Search.Counting
import FieldSearch.Proofs.Search.Objects
import FieldSearch.Proofs.Mapping.Nesting
import FieldSearch.Proofs.Mapping.Recorded
import FieldSearch.Proofs.Index.Isolation
import FieldSearch.Proofs.Json.Numerals
import FieldSearch.Proofs.Json.RoundTrip
import FieldSearch.Proofs.Object.Described
import FieldSearch.Proofs.Mapping.Payload
import FieldSearch.Proofs.Index.RoundTrip
import FieldSearch.Proofs.Number.Rounding
import FieldSearch.Proofs.Number.Scaled
import FieldSearch.Proofs.Number.Shortest
import FieldSearch.Proofs.Index.Accounts
import FieldSearch.Proofs.Engine.Writing
import FieldSearch.Proofs.Engine.Refinement
import FieldSearch.Proofs.Mapping.Written
import FieldSearch.Proofs.Index.Failures
import FieldSearch.Proofs.Index.Keys
import FieldSearch.Proofs.Search.Interleaving
import FieldSearch.Proofs.Search.Survivors
import FieldSearch.Proofs.Search.Ending
import FieldSearch.Proofs.Mapping.Integrity
import FieldSearch.Proofs.Object.Alike
import FieldSearch.Proofs.Object.Holds
import FieldSearch.Proofs.Object.Hollow
import FieldSearch.Proofs.Mapping.Reconstruction
import FieldSearch.Proofs.Query.Conjunction
import FieldSearch.Proofs.Query.Paths
import FieldSearch.Proofs.Time.Ticks
import FieldSearch.Proofs.Query.Grammar
import FieldSearch.Proofs.Query.Classification
import FieldSearch.Proofs.Mapping.Trees
import FieldSearch.Proofs.Mapping.Reparsing
import FieldSearch.Proofs.Mapping.Depth
import FieldSearch.Proofs.Mapping.Names
import FieldSearch.Proofs.Mapping.Refusals
import FieldSearch.Proofs.Time.Order
import FieldSearch.Proofs.Time.RoundTrip
import FieldSearch.Proofs.Query.Reads
import FieldSearch.Proofs.Query.Recording
import FieldSearch.Proofs.Engine.Indexed
import FieldSearch.Proofs.Mapping.Identities
import FieldSearch.Proofs.Search.First
import FieldSearch.Proofs.Engine.Replacing
import FieldSearch.Proofs.Engine.Reading
import FieldSearch.Proofs.Number.Value
import FieldSearch.Proofs.Number.Words
import FieldSearch.Proofs.Query.Floats
import FieldSearch.Proofs.Index.Stamps
