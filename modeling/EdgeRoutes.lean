import EdgeRoutes.Main
import EdgeRoutes.Proofs.Number.Whole
import EdgeRoutes.Proofs.Routing.Hosts
import EdgeRoutes.Proofs.Routing.Name
import EdgeRoutes.Proofs.Routing.RouteSet
import EdgeRoutes.Proofs.Routing.Translation
import EdgeRoutes.Proofs.Routing.View
import EdgeRoutes.Json.Pointer
import EdgeRoutes.Json.Reader
import EdgeRoutes.Proofs.Duration.Clock
import EdgeRoutes.Proofs.Codec.Wire
import EdgeRoutes.Proofs.Table
import EdgeRoutes.Proofs.Resource.LastTimeout
import EdgeRoutes.Proofs.Routing.Timeout
import EdgeRoutes.Proofs.Duration.RoundTrip
import EdgeRoutes.Proofs.Timestamp.Calendar
import EdgeRoutes.Proofs.Timestamp.RoundTrip
import EdgeRoutes.Proofs.Codec.Restore
import EdgeRoutes.Proofs.Resource.Restore
import EdgeRoutes.Proofs.Yaml.Lines
import EdgeRoutes.Proofs.Yaml.Stream
import EdgeRoutes.Proofs.CommandLine.Run
import EdgeRoutes.Proofs.Codec.Outline
import EdgeRoutes.Proofs.Json.Text
import EdgeRoutes.Proofs.Codec.Faithful
import EdgeRoutes.Proofs.Resource.Faithful
import EdgeRoutes.Proofs.Resource.Outline
import EdgeRoutes.Proofs.Codec.Conforms
import EdgeRoutes.Proofs.Resource.Conforms
import EdgeRoutes.Proofs.Routing.Backend
import EdgeRoutes.Proofs.Routing.Frame
import EdgeRoutes.Proofs.Routing.Conflict
import EdgeRoutes.Proofs.Routing.Log
import EdgeRoutes.Proofs.Routing.Domain
import EdgeRoutes.Proofs.Routing.Key
import EdgeRoutes.Proofs.Number.Interval
import EdgeRoutes.Proofs.Number.Shortest
import EdgeRoutes.Proofs.Number.Layout
import EdgeRoutes.Proofs.Duration.Seconds
import EdgeRoutes.Proofs.Duration.Order
import EdgeRoutes.Proofs.Routing.Annotation
import EdgeRoutes.Proofs.Routing.Order
