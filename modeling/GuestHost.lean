import GuestHost.Dict
import GuestHost.Text.Scalars
import GuestHost.Text.Letters
import GuestHost.Decimal.Shortest
import GuestHost.Decimal.Reading
import GuestHost.Value.Conversion
import GuestHost.Value.Word
import GuestHost.Signature
import GuestHost.Heap
import GuestHost.Registry.Ancestry
import GuestHost.Linkage
import GuestHost.Files.Table
import GuestHost.Module
import GuestHost.Config
import GuestHost.Config.Reading
import GuestHost.Files.Outside
import GuestHost.Host
import GuestHost.Host.Startup
import GuestHost.Script
import GuestHost.Main
import GuestHost.Proofs.Files.Operations
import GuestHost.Proofs.Actions
import GuestHost.Proofs.Files.Isolation
import GuestHost.Proofs.Stores
import GuestHost.Proofs.Streams.Descriptors
import GuestHost.Proofs.Streams.Failure
import GuestHost.Proofs.Streams.Natives
import GuestHost.Proofs.Streams.Ownership
import GuestHost.Proofs.Modes.Links
import GuestHost.Proofs.Modes.Simulation
import GuestHost.Proofs.Modes.Access
import GuestHost.Proofs.Modes.Natives
import GuestHost.Proofs.Modes.Calls
import GuestHost.Proofs.Modes.Equivalence
import GuestHost.Proofs.Text.Utf8
import GuestHost.Proofs.Text.Words
import GuestHost.Proofs.Http.Reply
import GuestHost.Proofs.Http.Head
import GuestHost.Proofs.Http.Body
import GuestHost.Proofs.Http.RoundTrip
import GuestHost.Proofs.Http.Truncation
import GuestHost.Proofs.Registry.Ancestry
import GuestHost.Proofs.Registry.Answers
import GuestHost.Proofs.Registry.Growth
import GuestHost.Proofs.Registry.Subtyping
import GuestHost.Proofs.Linkage.Evolution
import GuestHost.Proofs.Linkage.Calls
import GuestHost.Proofs.Linkage.CallSites
import GuestHost.Proofs.Registry.WellFormed
import GuestHost.Proofs.Dispatch.Kinds
import GuestHost.Proofs.Linkage.AdapterNames
import GuestHost.Proofs.Linkage.Metafactory
import GuestHost.Proofs.Linkage.Atomicity
import GuestHost.Proofs.Effects.Actions
import GuestHost.Proofs.Effects.Natives
import GuestHost.Proofs.Effects.Calls
import GuestHost.Proofs.Effects.Heap
import GuestHost.Proofs.Effects.Allocation
import GuestHost.Proofs.Effects.Stability
import GuestHost.Proofs.Registry.Descriptors
import GuestHost.Proofs.Effects.Instances
import GuestHost.Proofs.Files.Console
import GuestHost.Proofs.Streams.Console
import GuestHost.Proofs.Signature.Keys
import GuestHost.Proofs.Effects.Mirrors
import GuestHost.Proofs.Files.Closed
import GuestHost.Proofs.Effects.Moments
import GuestHost.Proofs.Startup.Sequence
import GuestHost.Proofs.Arguments
import GuestHost.Proofs.TextObjects.Stores
import GuestHost.Proofs.TextObjects.Access
import GuestHost.Proofs.TextObjects.Refinement
import GuestHost.Proofs.Files.Reading
import GuestHost.Proofs.Files.Sequential
import GuestHost.Proofs.Boundary.Words
import GuestHost.Proofs.Boundary.Transparency
import GuestHost.Proofs.Streams.Windows
import GuestHost.Proofs.Dispatch.Depth
import GuestHost.Proofs.Linkage.Routes
import GuestHost.Proofs.Arrays.Filling
import GuestHost.Proofs.Dispatch.Listings
import GuestHost.Proofs.Numbers.Digits
import GuestHost.Proofs.Numbers.Reading
import GuestHost.Proofs.Numbers.Writing
import GuestHost.Proofs.Text.Search
import GuestHost.Proofs.Dispatch.Initializers
import GuestHost.Proofs.TextObjects.Arrays
import GuestHost.Proofs.TextObjects.Characters
import GuestHost.Proofs.Text.Transcoding
import GuestHost.Proofs.TextObjects.Charsets
import GuestHost.Proofs.Files.Directory
import GuestHost.Proofs.TextObjects.Rejection
import GuestHost.Proofs.Effects.Histories
import GuestHost.Proofs.Registry.Adapters
import GuestHost.Proofs.Effects.Wrappers
import GuestHost.Proofs.Effects.Ways
import GuestHost.Proofs.Linkage.Constructors
import GuestHost.Proofs.Registry.Order
import GuestHost.Proofs.Registry.Search
import GuestHost.Proofs.Boundary.Fetching
import GuestHost.Proofs.Boundary.Entries
