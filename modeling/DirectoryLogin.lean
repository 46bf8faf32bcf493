import DirectoryLogin.Act
import DirectoryLogin.CommandLine.Arguments
import DirectoryLogin.CommandLine.Commands
import DirectoryLogin.CommandLine.Help
import DirectoryLogin.CommandLine.Json
import DirectoryLogin.CommandLine.Level
import DirectoryLogin.CommandLine.Program
import DirectoryLogin.Decimal.Binary64
import DirectoryLogin.Decimal.Reader
import DirectoryLogin.Dictionary
import DirectoryLogin.Directory.HostLookup
import DirectoryLogin.Directory.Memory
import DirectoryLogin.Directory.Offline
import DirectoryLogin.Directory.Scripted
import DirectoryLogin.Directory.Wire
import DirectoryLogin.Discovery
import DirectoryLogin.Entry
import DirectoryLogin.Environment
import DirectoryLogin.Error
import DirectoryLogin.Event
import DirectoryLogin.Factory
import DirectoryLogin.Filter
import DirectoryLogin.Find
import DirectoryLogin.Kerberos.StandIn
import DirectoryLogin.Kerberos.TicketProgram
import DirectoryLogin.LineSearch.Expression
import DirectoryLogin.LineSearch.Reader
import DirectoryLogin.Machine
import DirectoryLogin.Main
import DirectoryLogin.Mapping.Group
import DirectoryLogin.Mapping.User
import DirectoryLogin.Markers
import DirectoryLogin.Mechanism
import DirectoryLogin.Pattern.Basic
import DirectoryLogin.Pattern.BracketClass
import DirectoryLogin.Pattern.ByteRanges
import DirectoryLogin.Pattern.Class
import DirectoryLogin.Pattern.ClassLayout
import DirectoryLogin.Pattern.Escape
import DirectoryLogin.Pattern.Flags
import DirectoryLogin.Pattern.Look
import DirectoryLogin.Pattern.Normal
import DirectoryLogin.Pattern.Places
import DirectoryLogin.Pattern.Property
import DirectoryLogin.Pattern.Reader
import DirectoryLogin.Pattern.Room
import DirectoryLogin.Pool
import DirectoryLogin.Realm
import DirectoryLogin.ReferralPolicy
import DirectoryLogin.Registry
import DirectoryLogin.Request
import DirectoryLogin.Resolver
import DirectoryLogin.Scope
import DirectoryLogin.Server
import DirectoryLogin.Service
import DirectoryLogin.Settings.Basic
import DirectoryLogin.Settings.File
import DirectoryLogin.Settings.Properties
import DirectoryLogin.Settings.Toml
import DirectoryLogin.Surroundings
import DirectoryLogin.Proofs.Text.Cutting
import DirectoryLogin.Proofs.Settings.Lines
import DirectoryLogin.Proofs.Settings.Flattening
import DirectoryLogin.Template
import DirectoryLogin.Text.Ascii
import DirectoryLogin.Text.AsciiClass
import DirectoryLogin.Text.Blank
import DirectoryLogin.Text.Duration
import DirectoryLogin.Text.Numeral
import DirectoryLogin.Text.Quoted
import DirectoryLogin.Text.Reader
import DirectoryLogin.Text.Split
import DirectoryLogin.Text.Utf8
import DirectoryLogin.Toml.Document
import DirectoryLogin.Toml.Printer
import DirectoryLogin.Toml.Scalar
import DirectoryLogin.Toml.Value
import DirectoryLogin.Unicode.Age
import DirectoryLogin.Unicode.Case
import DirectoryLogin.Unicode.Category
import DirectoryLogin.Unicode.CharSet
import DirectoryLogin.Unicode.Direction
import DirectoryLogin.Unicode.Joining
import DirectoryLogin.Unicode.NamedSet
import DirectoryLogin.Unicode.Normalization
import DirectoryLogin.Unicode.Property
import DirectoryLogin.Unicode.Script
import DirectoryLogin.Unicode.ScriptExtension
import DirectoryLogin.Unicode.Table
import DirectoryLogin.Url.Address
import DirectoryLogin.Url.Basic
import DirectoryLogin.Url.Domain
import DirectoryLogin.Url.DomainMapping
import DirectoryLogin.Url.Host
import DirectoryLogin.Url.Path
import DirectoryLogin.Url.Percent
import DirectoryLogin.Url.Punycode
import DirectoryLogin.Proofs.FilterForm
import DirectoryLogin.Proofs.FilterLanguage
import DirectoryLogin.Proofs.FilterText
import DirectoryLogin.Proofs.Promise
import DirectoryLogin.Proofs.Witnessed
import DirectoryLogin.Proofs.Search.Course
import DirectoryLogin.Proofs.Search.Legs
import DirectoryLogin.Proofs.Search.BreadthFirst
import DirectoryLogin.Proofs.Search.Failures
import DirectoryLogin.Proofs.NotFound
import DirectoryLogin.Proofs.Search.Contexts
import DirectoryLogin.Proofs.Search.Modes
import DirectoryLogin.Proofs.Pool.Moves
import DirectoryLogin.Proofs.Pool.Traffic
import DirectoryLogin.Proofs.Calls
import DirectoryLogin.Proofs.Search.Guests
import DirectoryLogin.Proofs.Pool.Upkeep
import DirectoryLogin.Proofs.Sweep
import DirectoryLogin.Proofs.Kept
import DirectoryLogin.Proofs.Directory.Tallies
import DirectoryLogin.Proofs.Leaks
import DirectoryLogin.Proofs.Authentication
import DirectoryLogin.Proofs.Requested
import DirectoryLogin.Proofs.Replies
import DirectoryLogin.Proofs.Profile
import DirectoryLogin.Proofs.Groups
import DirectoryLogin.Proofs.Abreast
import DirectoryLogin.Proofs.Search.Abreast
import DirectoryLogin.Proofs.Alike
import DirectoryLogin.Proofs.Distinct
import DirectoryLogin.Proofs.Attributes
import DirectoryLogin.Proofs.Directory.Abreast
import DirectoryLogin.Proofs.History
import DirectoryLogin.Proofs.Substitution
import DirectoryLogin.Proofs.Directory.Lookups
import DirectoryLogin.Proofs.Owner
import DirectoryLogin.Proofs.Membership
import DirectoryLogin.Proofs.Resolution
import DirectoryLogin.Proofs.Shapes
import DirectoryLogin.Proofs.FilterLayout
import DirectoryLogin.Proofs.Registered
import DirectoryLogin.Proofs.Namespaces
import DirectoryLogin.Proofs.Secrecy
import DirectoryLogin.Proofs.Isolation
import DirectoryLogin.Proofs.Search.Determined
import DirectoryLogin.Proofs.Search.Tidy
import DirectoryLogin.Proofs.StartUp
import DirectoryLogin.Proofs.Overheard
import DirectoryLogin.Proofs.InStep
import DirectoryLogin.Proofs.Search.InStep
import DirectoryLogin.Proofs.Passwords
import DirectoryLogin.Proofs.Migration
import DirectoryLogin.Proofs.Numbering
import DirectoryLogin.Proofs.Directory.Readings
import DirectoryLogin.Proofs.Directory.Reports
import DirectoryLogin.Proofs.Pattern.Meaning
import DirectoryLogin.Proofs.Pattern.Locality
import DirectoryLogin.Proofs.Pattern.ClassLocality
import DirectoryLogin.Proofs.Pattern.CountLocality
import DirectoryLogin.Proofs.Pattern.Anchored
import DirectoryLogin.Proofs.Referrals
import DirectoryLogin.Proofs.ReferralBase
import DirectoryLogin.Proofs.Settings.Credentials
import DirectoryLogin.Proofs.Recasing
