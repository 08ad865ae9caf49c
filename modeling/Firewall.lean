import Firewall.Address.Basic
import Firewall.Address.Endpoint
import Firewall.Address.Family
import Firewall.Address.Printer
import Firewall.Address.Reader
import Firewall.Cache.Basic
import Firewall.Cache.NamedSet
import Firewall.Cache.Registry
import Firewall.Cache.Tables
import Firewall.CommandLine.Arguments
import Firewall.CommandLine.Run
import Firewall.Dns.Message
import Firewall.Dns.Observation
import Firewall.Dns.Proxy
import Firewall.Dns.Wire
import Firewall.Dns.Wire.Basic
import Firewall.Dns.Wire.Data
import Firewall.Error
import Firewall.Json.Reader
import Firewall.Json.Value
import Firewall.Machine.Basic
import Firewall.Machine.Disk
import Firewall.Machine.World
import Firewall.Main
import Firewall.Name.Basic
import Firewall.Name.Glob
import Firewall.Name.International
import Firewall.Name.International.Mapping
import Firewall.Name.Punycode
import Firewall.Name.Selector
import Firewall.Order.Ascending
import Firewall.Order.Dictionary
import Firewall.Policy.Basic
import Firewall.Policy.Compile
import Firewall.Policy.Snapshot
import Firewall.Prefix.Basic
import Firewall.Prefix.Cover
import Firewall.Prefix.Set
import Firewall.Prefix.Targets
import Firewall.Prefix.Text
import Firewall.Proofs.Address.Text
import Firewall.Proofs.Attempt
import Firewall.Proofs.Cache.Agreement
import Firewall.Proofs.Cache.Allocation
import Firewall.Proofs.Cache.Answers
import Firewall.Proofs.Cache.Candidates
import Firewall.Proofs.Cache.Consistent
import Firewall.Proofs.Cache.Direct
import Firewall.Proofs.Cache.History
import Firewall.Proofs.Cache.Idle
import Firewall.Proofs.Cache.Independent
import Firewall.Proofs.Cache.Log
import Firewall.Proofs.Cache.Lookup
import Firewall.Proofs.Cache.Memory
import Firewall.Proofs.Cache.NameTables
import Firewall.Proofs.Cache.Pinned
import Firewall.Proofs.Cache.Pins
import Firewall.Proofs.Cache.Purge
import Firewall.Proofs.Cache.Refreshed
import Firewall.Proofs.Cache.Registry
import Firewall.Proofs.Cache.Response
import Firewall.Proofs.Cache.Restore
import Firewall.Proofs.Cache.Retention
import Firewall.Proofs.Cache.Run
import Firewall.Proofs.Cache.Spelling
import Firewall.Proofs.Cache.Stable
import Firewall.Proofs.Cache.Tables
import Firewall.Proofs.Cache.Unchanged
import Firewall.Proofs.Dns.Message
import Firewall.Proofs.Json.Text
import Firewall.Proofs.Machine.Disk
import Firewall.Proofs.Machine.Spared
import Firewall.Proofs.Machine.Work
import Firewall.Proofs.Name.Expression
import Firewall.Proofs.Name.Filled
import Firewall.Proofs.Name.Language
import Firewall.Proofs.Name.Qualified
import Firewall.Proofs.Name.Spelling
import Firewall.Proofs.Name.Starless
import Firewall.Proofs.Order.Dictionary
import Firewall.Proofs.Order.Rearranged
import Firewall.Proofs.Policy.Allowed
import Firewall.Proofs.Policy.Arrangement
import Firewall.Proofs.Policy.Comments
import Firewall.Proofs.Policy.Composition
import Firewall.Proofs.Policy.Declared
import Firewall.Proofs.Policy.Destinations
import Firewall.Proofs.Policy.Exceptions
import Firewall.Proofs.Policy.Exposure
import Firewall.Proofs.Policy.Lines
import Firewall.Proofs.Policy.Meaning
import Firewall.Proofs.Policy.Names
import Firewall.Proofs.Policy.Origins
import Firewall.Proofs.Policy.Peers
import Firewall.Proofs.Policy.Services
import Firewall.Proofs.Prefix.Canonical
import Firewall.Proofs.Prefix.Entry
import Firewall.Proofs.Prefix.Reduced
import Firewall.Proofs.Prefix.Set
import Firewall.Proofs.Prefix.Text
import Firewall.Proofs.Reconcile.Cycle
import Firewall.Proofs.Reconcile.Ends
import Firewall.Proofs.Reconcile.Repeat
import Firewall.Proofs.Reconcile.Run
import Firewall.Proofs.Reconcile.Undated
import Firewall.Proofs.Rule.Comment
import Firewall.Proofs.Rule.Packet
import Firewall.Proofs.Rule.PortText
import Firewall.Proofs.Rule.Ports
import Firewall.Proofs.Rule.Reading
import Firewall.Proofs.Rule.Text
import Firewall.Proofs.Ruleset.Activation
import Firewall.Proofs.Ruleset.Comments
import Firewall.Proofs.Ruleset.Content
import Firewall.Proofs.Ruleset.Lines
import Firewall.Proofs.Ruleset.Loader
import Firewall.Proofs.Ruleset.NatEntries
import Firewall.Proofs.Ruleset.NatLine
import Firewall.Proofs.Ruleset.Replacement
import Firewall.Proofs.Shutdown.Delivered
import Firewall.Proofs.Shutdown.Step
import Firewall.Proofs.State.Listed
import Firewall.Proofs.State.Recorded
import Firewall.Proofs.State.Restart
import Firewall.Proofs.State.Store
import Firewall.Proofs.State.Text
import Firewall.Proofs.Text.Blank
import Firewall.Proofs.Text.Numeral
import Firewall.Proofs.Text.Pieces
import Firewall.Proofs.Text.Quoted
import Firewall.Proofs.Time.Calendar
import Firewall.Proofs.Time.Text
import Firewall.Reconcile.Cycle
import Firewall.Reconcile.Daemon
import Firewall.Reconcile.Sources
import Firewall.Resolver.Configuration
import Firewall.Rule.Clause
import Firewall.Rule.Line
import Firewall.Rule.Ports
import Firewall.Ruleset.Activation
import Firewall.Ruleset.Basic
import Firewall.Ruleset.Loader
import Firewall.Ruleset.Render
import Firewall.Settings.Basic
import Firewall.Settings.Reader
import Firewall.Shutdown.Signal
import Firewall.State.Saved
import Firewall.State.Store
import Firewall.Text.Blank
import Firewall.Text.Digest
import Firewall.Text.Numeral
import Firewall.Text.Split
import Firewall.Time.Calendar
import Firewall.Time.Instant
import Firewall.Time.Text
import Firewall.Toml.Decode
import Firewall.Toml.Document
import Firewall.Toml.Scalar
import Firewall.Toml.Text
import Firewall.Toml.Value
import Firewall.Unicode.Composition
import Firewall.Unicode.Direction
import Firewall.Unicode.Joining
import Firewall.Unicode.Letter
import Firewall.Unicode.Mark
import Firewall.Unicode.Table
