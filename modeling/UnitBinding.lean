import UnitBinding.AccessorCache
import UnitBinding.Ambient
import UnitBinding.Bundle
import UnitBinding.Config.Basic
import UnitBinding.Config.Environment
import UnitBinding.Config.Layers
import UnitBinding.Config.Loader
import UnitBinding.Config.Printer
import UnitBinding.Config.Value
import UnitBinding.Context
import UnitBinding.Contribution
import UnitBinding.Decimal.Binary64
import UnitBinding.Decimal.Layout
import UnitBinding.Decimal.Shortest
import UnitBinding.Error
import UnitBinding.ErrorContext
import UnitBinding.Hosting
import UnitBinding.Json.Basic
import UnitBinding.Json.Decode
import UnitBinding.Json.Parser
import UnitBinding.Json.Printer
import UnitBinding.Logging.Directive
import UnitBinding.Logging.Filter
import UnitBinding.Logging.Level
import UnitBinding.Logging.Output
import UnitBinding.Lookup
import UnitBinding.Metadata
import UnitBinding.OwnerType
import UnitBinding.Property
import UnitBinding.Provider
import UnitBinding.Sample.Record
import UnitBinding.ServiceRegistry
import UnitBinding.Session.Run
import UnitBinding.Session.State
import UnitBinding.Session.Step
import UnitBinding.Settings
import UnitBinding.Shared
import UnitBinding.Storage.Disk
import UnitBinding.Storage.Path
import UnitBinding.Table
import UnitBinding.Text.Blank
import UnitBinding.Text.Cut
import UnitBinding.Text.Hex
import UnitBinding.Text.Pattern
import UnitBinding.Text.Printable
import UnitBinding.Text.Quoted
import UnitBinding.Text.Raw
import UnitBinding.Text.Word
import UnitBinding.Toml.Basic
import UnitBinding.Toml.Document
import UnitBinding.Toml.Number
import UnitBinding.Toml.Parser
import UnitBinding.Toml.Quoted
import UnitBinding.Toml.Style
import UnitBinding.Proofs.Cache.Lookup
import UnitBinding.Proofs.Cache.Run
import UnitBinding.Proofs.Ambient.Operation
import UnitBinding.Proofs.Ambient.Scoping
import UnitBinding.Proofs.Cache.Transparency
import UnitBinding.Proofs.Startup
import UnitBinding.Proofs.Services.Registration
import UnitBinding.Proofs.Services.Discovery
import UnitBinding.Proofs.Services.Handles
import UnitBinding.Proofs.Builds.Request
import UnitBinding.Proofs.Builds.Recording
import UnitBinding.Proofs.Builds.Run
import UnitBinding.Proofs.Config.Setting
import UnitBinding.Proofs.Config.Layering
import UnitBinding.Proofs.Config.Naming
import UnitBinding.Proofs.Config.Reading
import UnitBinding.Proofs.Storage.Finding
import UnitBinding.Proofs.Config.Loading
import UnitBinding.Proofs.Metadata.Declarations
import UnitBinding.Proofs.Metadata.Run
import UnitBinding.Proofs.Cache.Keeping
import UnitBinding.Proofs.Process.Run
import UnitBinding.Proofs.Settings.Composition
import UnitBinding.Proofs.Process.Installation
import UnitBinding.Proofs.Toml.Text
import UnitBinding.Proofs.Toml.Word
import UnitBinding.Proofs.Config.Printing
import UnitBinding.Proofs.Config.Saving
import UnitBinding.Proofs.Metadata.Codecs
import UnitBinding.Proofs.Metadata.Collecting
import UnitBinding.Proofs.Metadata.Writing
import UnitBinding.Proofs.Logging
import UnitBinding.Proofs.TypeLoading
import UnitBinding.Proofs.TypeNames
import UnitBinding.Proofs.ByteOrder
import UnitBinding.Proofs.Scanning
import UnitBinding.Proofs.DataForms
import UnitBinding.Proofs.ErrorContext
import UnitBinding.Proofs.Json.Edit
import UnitBinding.Proofs.Settings.Program
import UnitBinding.Proofs.Settings.Comparison
import UnitBinding.Proofs.Config.Sections
import UnitBinding.Proofs.Config.Variables
import UnitBinding.Proofs.Config.FurtherKeys
import UnitBinding.Proofs.Config.Influence
