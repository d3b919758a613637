import NodeApi.CommandLine.Run
import NodeApi.Main
import NodeApi.Proofs.Document.References
import NodeApi.Proofs.Json.Scalar
import NodeApi.Proofs.Json.RoundTrip
import NodeApi.Proofs.Document.Text
import NodeApi.Proofs.Document.FirstMention
import NodeApi.Proofs.Document.Order
import NodeApi.Proofs.Document.Memory
import NodeApi.Proofs.Schema.ArrayNames
import NodeApi.Proofs.Schema.History
import NodeApi.Proofs.Document.Interference
import NodeApi.Proofs.Sorting
import NodeApi.Proofs.Schema.Listing
import NodeApi.Proofs.Document.Notices
import NodeApi.Proofs.Rpc.Methods
import NodeApi.Proofs.TypeName.Tuple
import NodeApi.Proofs.Schema.Sites
import NodeApi.Proofs.Document.Rendering
