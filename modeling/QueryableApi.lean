import QueryableApi.Client
import QueryableApi.CommandLine
import QueryableApi.CommandLine.Usage
import QueryableApi.DataSource
import QueryableApi.DataSource.Json
import QueryableApi.Decimal.Layout
import QueryableApi.Decimal.Reading
import QueryableApi.Decimal.Shortest
import QueryableApi.Double
import QueryableApi.Entries
import QueryableApi.Failure
import QueryableApi.File
import QueryableApi.Filter
import QueryableApi.HomePath
import QueryableApi.Http
import QueryableApi.Json.Basic
import QueryableApi.Json.Cursor
import QueryableApi.Json.Fault
import QueryableApi.Json.Raw
import QueryableApi.Json.Reader
import QueryableApi.Json.Record
import QueryableApi.Json.Writer
import QueryableApi.Kind
import QueryableApi.Listing
import QueryableApi.Main
import QueryableApi.OpenApi.Catalog
import QueryableApi.OpenApi.Discovery
import QueryableApi.OpenApi.Frame
import QueryableApi.OpenApi.ItemSchema
import QueryableApi.OpenApi.PathName
import QueryableApi.OpenApi.Preflight
import QueryableApi.OpenApi.Reference
import QueryableApi.PathTemplate
import QueryableApi.Percent
import QueryableApi.Program
import QueryableApi.Projection
import QueryableApi.Proofs.Checks
import QueryableApi.Proofs.Entries
import QueryableApi.Proofs.Read.Stages
import QueryableApi.Property
import QueryableApi.Property.Json
import QueryableApi.Queryable
import QueryableApi.Queryable.Json
import QueryableApi.Redaction
import QueryableApi.Resource
import QueryableApi.Settings
import QueryableApi.Telemetry
import QueryableApi.Text.Blank
import QueryableApi.Text.Character
import QueryableApi.Text.Hexadecimal
import QueryableApi.Text.Normalization
import QueryableApi.Text.Quoted
import QueryableApi.Text.SnakeCase
import QueryableApi.Text.Table.Alphanumeric
import QueryableApi.Text.Table.Basic
import QueryableApi.Text.Table.Cased
import QueryableApi.Text.Table.CombiningClass
import QueryableApi.Text.Table.Decomposition
import QueryableApi.Text.Table.Unseen
import QueryableApi.Text.Table.Word
import QueryableApi.Text.Terminal
import QueryableApi.Text.Utf8
import QueryableApi.Url
import QueryableApi.Url.Domain
import QueryableApi.Url.Host
import QueryableApi.Url.Punycode
import QueryableApi.Url.Table.Direction
import QueryableApi.Url.Table.Joining
import QueryableApi.Url.Table.Name
import QueryableApi.Value
import QueryableApi.Yaml.Cursor
import QueryableApi.Yaml.Layout
import QueryableApi.Yaml.Node
import QueryableApi.Yaml.Property
import QueryableApi.Yaml.Reader
import QueryableApi.Yaml.Resolution
import QueryableApi.Yaml.Scalar.Block
import QueryableApi.Yaml.Scalar.Gap
import QueryableApi.Yaml.Scalar.Plain
import QueryableApi.Yaml.Scalar.Quoted
import QueryableApi.Yaml.Token
import QueryableApi.Proofs.Read.Outcome
import QueryableApi.Proofs.Projection
import QueryableApi.Proofs.Read.Inputs
import QueryableApi.Proofs.Listing.Items
import QueryableApi.Proofs.OpenApi.ItemsPath
import QueryableApi.Proofs.Filter
import QueryableApi.Proofs.Schema
import QueryableApi.Proofs.Value
import QueryableApi.Proofs.Read.Reselection
import QueryableApi.Proofs.Filter.Reflexive
import QueryableApi.Proofs.Queryable
import QueryableApi.Proofs.Queryable.Filters
import QueryableApi.Proofs.OpenApi.ItemNames
import QueryableApi.Proofs.OpenApi.RequiredFields
import QueryableApi.Proofs.Read.Session
import QueryableApi.Proofs.Read.Satisfaction
import QueryableApi.Proofs.Read.Repetition
import QueryableApi.Proofs.Filter.Block
import QueryableApi.Proofs.Read.Conjunction
import QueryableApi.Proofs.PathTemplate
import QueryableApi.Proofs.OpenApi.PathName
import QueryableApi.Proofs.OpenApi.Reachability
import QueryableApi.Proofs.OpenApi.Listable
import QueryableApi.Proofs.OpenApi.Catalog
import QueryableApi.Proofs.OpenApi.Lookup
import QueryableApi.Proofs.Schema.Nesting
import QueryableApi.Proofs.Queryable.Conformance
import QueryableApi.Proofs.Url.DotSegments
import QueryableApi.Proofs.Url.Origin
import QueryableApi.Proofs.Client
import QueryableApi.Proofs.CommandLine
import QueryableApi.Proofs.Program.Headers
import QueryableApi.Proofs.Redaction.Secrets
import QueryableApi.Proofs.Value.Numbers
import QueryableApi.Proofs.Filter.Projected
import QueryableApi.Proofs.Filter.Validation
import QueryableApi.Proofs.Queryable.Unsupported
import QueryableApi.Proofs.Projection.Paths
import QueryableApi.Proofs.Text.Utf8
import QueryableApi.Proofs.PathTemplate.Outcome
import QueryableApi.Proofs.OpenApi.Composition
import QueryableApi.Proofs.OpenApi.ObjectWalk
import QueryableApi.Proofs.OpenApi.ItemLevels
import QueryableApi.Proofs.OpenApi.ItemSchema
import QueryableApi.Proofs.OpenApi.Expansion
import QueryableApi.Proofs.OpenApi.Flattening
import QueryableApi.Proofs.Json
import QueryableApi.Proofs.Value.Json
import QueryableApi.Proofs.Listing.Reordering
import QueryableApi.Proofs.OpenApi.Frame
import QueryableApi.Proofs.OpenApi.TypeWalk
import QueryableApi.Proofs.OpenApi.Rearrangement
import QueryableApi.Proofs.OpenApi.Chain
import QueryableApi.Proofs.OpenApi.Dereference
