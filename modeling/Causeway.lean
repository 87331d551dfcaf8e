import Causeway.Capability
import Causeway.CommandLine.Arguments
import Causeway.CommandLine.Basic
import Causeway.CommandLine.Parameter
import Causeway.CommandLine.Runner
import Causeway.CommandLine.Verb
import Causeway.DataSource
import Causeway.Descriptor
import Causeway.Direction
import Causeway.Document.Json
import Causeway.Document.Reading
import Causeway.Document.Yaml
import Causeway.ElementId
import Causeway.Error
import Causeway.File.Path
import Causeway.File.Tree
import Causeway.Graph.Assembly
import Causeway.Graph.Basic
import Causeway.Graph.Element
import Causeway.Graph.Json
import Causeway.Graph.Request
import Causeway.Json.Basic
import Causeway.Json.Content
import Causeway.Json.Reader
import Causeway.Json.Text
import Causeway.Main
import Causeway.Memory.Dataset
import Causeway.Memory.Expansion
import Causeway.Memory.Factory
import Causeway.Memory.Provider
import Causeway.Memory.Query
import Causeway.Metadata
import Causeway.NameMap
import Causeway.Number.Binary
import Causeway.Number.Decimal
import Causeway.Number.Double
import Causeway.Number.Layout
import Causeway.Number.Power
import Causeway.Number.Shortest
import Causeway.Number.Stepwise
import Causeway.Pattern.Basic
import Causeway.Pattern.Reader
import Causeway.Plugin.Basic
import Causeway.Plugin.Catalog
import Causeway.Plugin.Manifest
import Causeway.Plugin.Recorder
import Causeway.Plugin.Registry
import Causeway.Plugin.Summary
import Causeway.Proofs.ElementId
import Causeway.Proofs.Error
import Causeway.Proofs.Graph.Assembly
import Causeway.Proofs.Memory.Handles
import Causeway.Proofs.Memory.Neighbourhood
import Causeway.Proofs.Plugin.Discovery
import Causeway.Proofs.Tunnel.Interleaving
import Causeway.Provider.Run
import Causeway.Provider.Service
import Causeway.Relational.Cell
import Causeway.Relational.Connection
import Causeway.Relational.Engine
import Causeway.Relational.Evaluation
import Causeway.Relational.Provider
import Causeway.Relational.Statement
import Causeway.Relational.Store
import Causeway.Relational.TableInfo
import Causeway.SemanticType
import Causeway.Sprite.Basic
import Causeway.Sprite.Mutation
import Causeway.Sprite.Player
import Causeway.Sprite.Reader
import Causeway.Sprite.Script
import Causeway.Ssh.Client
import Causeway.Ssh.Config
import Causeway.Table
import Causeway.Text.Blank
import Causeway.Text.Bytes
import Causeway.Text.Case
import Causeway.Text.CaseRange
import Causeway.Text.CaseTable
import Causeway.Text.Fold
import Causeway.Text.Quoted
import Causeway.Text.Search
import Causeway.Text.Unprintable
import Causeway.Time.Calendar
import Causeway.Time.Instant
import Causeway.Tunnel.Call
import Causeway.Tunnel.Rehearsed
import Causeway.Tunnel.Traffic
import Causeway.Value.Basic
import Causeway.Value.Extract
import Causeway.Value.Hash
import Causeway.Value.Reader
import Causeway.Yaml.Cursor
import Causeway.Yaml.Plain
import Causeway.Yaml.Scalar
import Causeway.Yaml.Setting
import Causeway.Yaml.Token
import Causeway.Yaml.Tree
import Causeway.Proofs.Graph.ClassTypes
import Causeway.Proofs.Graph.Merge
import Causeway.Proofs.Graph.Limit
import Causeway.Proofs.Graph.Repeats
import Causeway.Proofs.Memory.Limit
import Causeway.Proofs.Graph.WellFormed
import Causeway.Proofs.Memory.Answers
import Causeway.Proofs.Memory.Index
import Causeway.Proofs.Value.Reading
import Causeway.Proofs.Value.Hashing
import Causeway.Proofs.Tunnel.Nesting
import Causeway.Proofs.Relational.Tokens
import Causeway.Proofs.Relational.PageQuery
import Causeway.Proofs.Relational.Paging
import Causeway.Proofs.Relational.Stored
import Causeway.Proofs.Relational.Index
import Causeway.Proofs.Value.Conversion
import Causeway.Proofs.Sprite.Clean
import Causeway.Proofs.Sprite.Decoded
import Causeway.Proofs.Memory.Foreign
import Causeway.Proofs.Memory.Schema
import Causeway.Proofs.Relational.ConnectionString
import Causeway.Proofs.Relational.TableNames
import Causeway.Proofs.Relational.Classes
import Causeway.Proofs.SemanticType
import Causeway.Proofs.Memory.Partition
import Causeway.Proofs.Memory.Written
import Causeway.Proofs.Sprite.Lines
import Causeway.Proofs.Graph.Budget
import Causeway.Proofs.Graph.Consumed
import Causeway.Proofs.Graph.FirstWins
import Causeway.Proofs.Ssh.Arguments
import Causeway.Proofs.Ssh.Forward
import Causeway.Proofs.Ssh.Leftovers
import Causeway.Proofs.Memory.OneHop
import Causeway.Proofs.Memory.Degrees
import Causeway.Proofs.Graph.FirstSeen
import Causeway.Proofs.Memory.ClassQueries
import Causeway.Proofs.Sprite.Renaming
import Causeway.Proofs.Sprite.RenamedAtOnce
import Causeway.Proofs.Sprite.SplitJoin
import Causeway.Proofs.Sprite.Insertion
import Causeway.Proofs.Relational.Limit
import Causeway.Proofs.Relational.WholeTable
import Causeway.Proofs.Sprite.Filtering
import Causeway.Proofs.Relational.Cells
import Causeway.Proofs.Number.Rational
import Causeway.Proofs.Value.Whole
import Causeway.Proofs.Graph.ElementIndex
