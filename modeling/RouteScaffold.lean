import RouteScaffold.Main
import RouteScaffold.Proofs.Authorization.Identifiers
import RouteScaffold.Proofs.Authorization.PolicyTable
import RouteScaffold.Proofs.Generation.Run
import RouteScaffold.Proofs.Ledger.Accounts
import RouteScaffold.Proofs.Plan.Emission
import RouteScaffold.Proofs.Plan.Targets
import RouteScaffold.Proofs.Path.Resolve
import RouteScaffold.Proofs.Plan.Realisation
import RouteScaffold.Proofs.Files.Follow
import RouteScaffold.Proofs.Files.Write
import RouteScaffold.Proofs.Generation.Disk
import RouteScaffold.Proofs.Files.Steady
import RouteScaffold.Proofs.Generation.Obstruction
import RouteScaffold.Proofs.Reading.Plan
import RouteScaffold.Proofs.Catalog.Growth
import RouteScaffold.Proofs.Plan.Thinning
import RouteScaffold.Proofs.Authorization.Subsumption
import RouteScaffold.Proofs.Template.Files
import RouteScaffold.Proofs.Plan.Inspection
import RouteScaffold.Proofs.Plan.Attribution
import RouteScaffold.Proofs.Naming.Grammar
import RouteScaffold.Proofs.Plan.Imports
import RouteScaffold.Proofs.Document.Json
import RouteScaffold.Proofs.Document.RoundTrip
import RouteScaffold.Proofs.Document.Defaults
import RouteScaffold.Proofs.Files.Readable
import RouteScaffold.Proofs.Plan.Format
import RouteScaffold.Proofs.Project.Options
import RouteScaffold.Proofs.Naming.FileStem
import RouteScaffold.Proofs.Naming.SnakeKey
import RouteScaffold.Proofs.Naming.CamelWords
import RouteScaffold.Proofs.Naming.Plural
import RouteScaffold.Proofs.Naming.HandlerSuffix
import RouteScaffold.Proofs.Authorization.Actions
import RouteScaffold.Proofs.Plan.Layout
import RouteScaffold.Proofs.Authorization.Subjects
import RouteScaffold.Proofs.Ledger.Reservation
import RouteScaffold.Proofs.Generation.Store
import RouteScaffold.Proofs.Plan.Documentation
import RouteScaffold.Proofs.Plan.Packages
