import BareMetal.Action.Form
import BareMetal.Action.Run
import BareMetal.Client
import BareMetal.Error
import BareMetal.Inventory.Interface
import BareMetal.Inventory.Mac
import BareMetal.Inventory.Machine
import BareMetal.Inventory.Network
import BareMetal.Inventory.OfWire
import BareMetal.Inventory.Reading
import BareMetal.Inventory.Storage
import BareMetal.Inventory.Zone
import BareMetal.Json.Basic
import BareMetal.Json.Printer
import BareMetal.Json.Reader
import BareMetal.Json.Whole
import BareMetal.Keyed
import BareMetal.Number.Binary64
import BareMetal.Number.Notation
import BareMetal.Number.Scaled
import BareMetal.Number.Shortest
import BareMetal.Proofs.Action.History
import BareMetal.Proofs.Except
import BareMetal.Proofs.Inventory.ListReading
import BareMetal.Schema.Api20
import BareMetal.Schema.Checker
import BareMetal.Settings.Certificate
import BareMetal.Settings.Environment
import BareMetal.Settings.Fault
import BareMetal.Settings.Layer
import BareMetal.Settings.Load
import BareMetal.Settings.LoadFault
import BareMetal.Settings.Location
import BareMetal.Settings.OfLayer
import BareMetal.Settings.Profile
import BareMetal.Settings.Save
import BareMetal.Settings.Spelling
import BareMetal.Status
import BareMetal.Text.Base64
import BareMetal.Text.Blank
import BareMetal.Text.CharTable
import BareMetal.Text.CombiningClass
import BareMetal.Text.Composition
import BareMetal.Text.Hex
import BareMetal.Text.Hidden
import BareMetal.Text.Quoted
import BareMetal.Text.Utf8
import BareMetal.Toml.Document
import BareMetal.Toml.Printer
import BareMetal.Toml.Reader
import BareMetal.Toml.Scalar
import BareMetal.Toml.Text
import BareMetal.Toml.Value
import BareMetal.Url.Basic
import BareMetal.Url.Fault
import BareMetal.Url.Host
import BareMetal.Url.Name
import BareMetal.Url.Name.Admitted
import BareMetal.Url.Name.Direction
import BareMetal.Url.Name.Joiner
import BareMetal.Url.Name.Mapping
import BareMetal.Url.Parser
import BareMetal.Url.Percent
import BareMetal.Url.Punycode
import BareMetal.Version.Basic
import BareMetal.Version.Table
import BareMetal.Wire.Decode
import BareMetal.Wire.Encode
import BareMetal.Wire.Records
import BareMetal.Wire.Shape
import BareMetal.Proofs.Json.Tree
import BareMetal.Proofs.Json.Whole
import BareMetal.Proofs.Schema.Spelling
import BareMetal.Proofs.Inventory.Kind
import BareMetal.Proofs.Inventory.NumberSpelling
import BareMetal.Proofs.Wire.Integers
import BareMetal.Proofs.Inventory.Guarded
import BareMetal.Proofs.Inventory.Stages
import BareMetal.Proofs.Action.Precedence
import BareMetal.Proofs.Wire.Form
import BareMetal.Proofs.Keyed
import BareMetal.Proofs.Number.Nearest
import BareMetal.Proofs.Wire.Rereading
import BareMetal.Proofs.Inventory.Lenient
import BareMetal.Proofs.Inventory.Reencoding
import BareMetal.Proofs.Toml.Text
import BareMetal.Proofs.Toml.Scalar
import BareMetal.Proofs.Toml.Lines
import BareMetal.Proofs.Toml.Document
import BareMetal.Proofs.Settings.Layer
import BareMetal.Proofs.Settings.Reloading
import BareMetal.Proofs.Wire.Known
import BareMetal.Proofs.Inventory.UnknownEntries
import BareMetal.Proofs.Wire.Place
import BareMetal.Proofs.Inventory.Absence
import BareMetal.Proofs.Wire.Completion
import BareMetal.Proofs.Settings.Path
import BareMetal.Proofs.Settings.Variables
import BareMetal.Proofs.Settings.Sorted
import BareMetal.Proofs.Settings.Sources
import BareMetal.Proofs.Version.Table
import BareMetal.Proofs.Action.Requests
import BareMetal.Proofs.Schema.Verdict
import BareMetal.Proofs.Settings.Insertion
import BareMetal.Proofs.Settings.ApiVersion
import BareMetal.Proofs.Version.Decimal
import BareMetal.Proofs.Url.Escaping
import BareMetal.Proofs.Url.Segments
import BareMetal.Proofs.Url.Resolving
import BareMetal.Proofs.Url.Settled
import BareMetal.Proofs.Client.Resources
import BareMetal.Proofs.Settings.BaseUrl
import BareMetal.Proofs.Text.Composites
import BareMetal.Proofs.Text.Composition
import BareMetal.Proofs.Url.Naming
import BareMetal.Proofs.Url.Address
import BareMetal.Proofs.Url.Rereading
import BareMetal.Proofs.Settings.Resolution
import BareMetal.Proofs.Url.LongName
import BareMetal.Proofs.Version.Spelling
import BareMetal.Proofs.Action.Arguments
import BareMetal.Proofs.Inventory.Mac
import BareMetal.Proofs.Inventory.Sameness
import BareMetal.Proofs.Schema.Pinpointing
import BareMetal.Proofs.Inventory.NaturalKey
import BareMetal.Proofs.Error
