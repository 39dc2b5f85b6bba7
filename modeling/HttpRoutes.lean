import HttpRoutes.Handler.Samples
import HttpRoutes.Main
import HttpRoutes.Proofs.Expression.Locality
import HttpRoutes.Proofs.Expression.ClassLocality
import HttpRoutes.Proofs.Expression.GroupLocality
import HttpRoutes.Proofs.Route.Growth
import HttpRoutes.Proofs.Route.Independence
import HttpRoutes.Proofs.Route.AsciiPaths
import HttpRoutes.Proofs.Route.AsciiValues
import HttpRoutes.Proofs.Route.Offsets
import HttpRoutes.Proofs.Route.Ranges
import HttpRoutes.Proofs.Handler.DefaultMethod
import HttpRoutes.Proofs.Handler.Echo
import HttpRoutes.Proofs.Faults
import HttpRoutes.Proofs.Answers
import HttpRoutes.Proofs.Failure
import HttpRoutes.Proofs.Server
import HttpRoutes.Proofs.Config.Watching
import HttpRoutes.Proofs.Shutdown
