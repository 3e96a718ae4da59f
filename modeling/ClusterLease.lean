import ClusterLease.Cluster
import ClusterLease.Config
import ClusterLease.Config.Load
import ClusterLease.Container
import ClusterLease.Daemon
import ClusterLease.Demand
import ClusterLease.Digest.Sha1
import ClusterLease.Disk
import ClusterLease.Dns
import ClusterLease.Engine.Addresses
import ClusterLease.Engine.Runtime
import ClusterLease.Fault
import ClusterLease.Http.Route
import ClusterLease.Http.Service
import ClusterLease.Http.Target
import ClusterLease.Http.Wire
import ClusterLease.Json.Body
import ClusterLease.Json.Document
import ClusterLease.Json.Plain
import ClusterLease.Json.Token
import ClusterLease.Json.Writer
import ClusterLease.Lease
import ClusterLease.Lease.Store
import ClusterLease.Log
import ClusterLease.Main
import ClusterLease.Manager
import ClusterLease.Manager.FanOut
import ClusterLease.Manager.Interface
import ClusterLease.Net.Ip
import ClusterLease.Number.Double
import ClusterLease.Number.Numeral
import ClusterLease.Number.Shortest
import ClusterLease.Pod.Manifest
import ClusterLease.Pod.Name
import ClusterLease.Pod.NetworkStatus
import ClusterLease.Pod.Runtime
import ClusterLease.Program
import ClusterLease.Proofs.Cluster.Groups
import ClusterLease.Proofs.Cluster.Outline
import ClusterLease.Proofs.Cluster.Partition
import ClusterLease.Proofs.Config.Load
import ClusterLease.Proofs.Config.Update
import ClusterLease.Proofs.Container.Agreement
import ClusterLease.Proofs.Demand
import ClusterLease.Proofs.Demand.Legal
import ClusterLease.Proofs.Disk
import ClusterLease.Proofs.Http.Refusal
import ClusterLease.Proofs.Http.Submission
import ClusterLease.Proofs.Json.Plain
import ClusterLease.Proofs.Lease.Agreement
import ClusterLease.Proofs.Lease.Entry
import ClusterLease.Proofs.Lease.Extended
import ClusterLease.Proofs.Lease.Failing
import ClusterLease.Proofs.Lease.File
import ClusterLease.Proofs.Lease.Guarded
import ClusterLease.Proofs.Lease.Keeping
import ClusterLease.Proofs.Lease.Rewriting
import ClusterLease.Proofs.Manager.Authorization
import ClusterLease.Proofs.Manager.FanOut
import ClusterLease.Proofs.Manager.InTurn
import ClusterLease.Proofs.Manager.Operation
import ClusterLease.Proofs.Manager.Refusal
import ClusterLease.Proofs.Manager.Registration
import ClusterLease.Proofs.Manager.Reliable
import ClusterLease.Proofs.Manager.Renewal
import ClusterLease.Proofs.Manager.Sight
import ClusterLease.Proofs.Manager.Takeover
import ClusterLease.Proofs.Number.Double
import ClusterLease.Proofs.Number.Integer
import ClusterLease.Proofs.Number.Numeral
import ClusterLease.Proofs.Pod.Api
import ClusterLease.Proofs.Pod.Clusters
import ClusterLease.Proofs.Pod.Label
import ClusterLease.Proofs.Pod.Listing
import ClusterLease.Proofs.Pod.Manifest
import ClusterLease.Proofs.Pod.Name
import ClusterLease.Proofs.Pod.NetworkStatus
import ClusterLease.Proofs.Pod.Wait
import ClusterLease.Proofs.Program.Conduct
import ClusterLease.Proofs.Program.Lawful
import ClusterLease.Proofs.Program.Pool
import ClusterLease.Proofs.Program.Refusal
import ClusterLease.Proofs.Program.Trace
import ClusterLease.Proofs.Table
import ClusterLease.Proofs.Text.Bytes
import ClusterLease.Proofs.Text.HostName
import ClusterLease.Proofs.Text.Trim
import ClusterLease.Proofs.Time.Iso
import ClusterLease.Proofs.Time.Parts
import ClusterLease.Proofs.Time.Requested
import ClusterLease.Proofs.Time.Seconds
import ClusterLease.Proofs.Value.Equality
import ClusterLease.Proofs.Version
import ClusterLease.Proofs.World.Allocating
import ClusterLease.Proofs.World.Apart
import ClusterLease.Proofs.World.Courses
import ClusterLease.Proofs.World.Damaged
import ClusterLease.Proofs.World.Delivered
import ClusterLease.Proofs.World.Growing
import ClusterLease.Proofs.World.History
import ClusterLease.Proofs.World.Initial
import ClusterLease.Proofs.World.Killing
import ClusterLease.Proofs.World.Orderly
import ClusterLease.Proofs.World.Partition
import ClusterLease.Proofs.World.Quiet
import ClusterLease.Proofs.World.Reading
import ClusterLease.Proofs.World.Records
import ClusterLease.Proofs.World.Refreshing
import ClusterLease.Proofs.World.Refusal
import ClusterLease.Proofs.World.Reliable
import ClusterLease.Proofs.World.Rollback
import ClusterLease.Proofs.World.SideBySide
import ClusterLease.Proofs.World.Stopping
import ClusterLease.Proofs.World.TakenOver
import ClusterLease.Proofs.World.Telling
import ClusterLease.Proofs.World.Tidy
import ClusterLease.Proofs.Yaml.Keyed
import ClusterLease.Table
import ClusterLease.Text.Base64
import ClusterLease.Text.Blank
import ClusterLease.Text.Digit
import ClusterLease.Text.Encoding
import ClusterLease.Text.Hex
import ClusterLease.Text.HostName
import ClusterLease.Text.LetterCase
import ClusterLease.Text.Padded
import ClusterLease.Text.Printable
import ClusterLease.Text.Quoted
import ClusterLease.Text.WordEnd
import ClusterLease.Time.Date
import ClusterLease.Time.Duration
import ClusterLease.Time.Http
import ClusterLease.Time.Iso
import ClusterLease.Time.Moment
import ClusterLease.Time.Requested
import ClusterLease.Value
import ClusterLease.Value.Access
import ClusterLease.Value.Order
import ClusterLease.Version
import ClusterLease.Workers
import ClusterLease.World
import ClusterLease.Yaml.Analysis
import ClusterLease.Yaml.Cursor
import ClusterLease.Yaml.Document
import ClusterLease.Yaml.Lexeme
import ClusterLease.Yaml.Node
import ClusterLease.Yaml.Page
import ClusterLease.Yaml.Scalar
import ClusterLease.Yaml.Tag
import ClusterLease.Yaml.Token
import ClusterLease.Yaml.Writer
