import TurboLaser.Proto.OutputSafety
import TurboLaser.Proto.RemapTopology
import TurboLaser.Proto.NetPacking
import TurboLaser.Proto.Settled
import TurboLaser.Proto.Folding
import TurboLaser.Scenario.Spill
import TurboLaser.Ledger
import TurboLaser.Simulate.Bom
import TurboLaser.Simulate.Profiles
import TurboLaser.Simulate.Zones
import TurboLaser.Simulate.Roles
import TurboLaser.Simulate.Devices
import TurboLaser.Simulate.DevicesFacts
import TurboLaser.Simulate.Growth
import TurboLaser.Simulate.Register
import TurboLaser.Simulate.Identity
import TurboLaser.Simulate.ReservedSlots
import TurboLaser.Simulate.StableIdentity
import TurboLaser.Simulate.HostMacs
import TurboLaser.Simulate.Engine
import TurboLaser.Simulate.EngineFacts
import TurboLaser.Simulate.AssetCap
import TurboLaser.Simulate.RemapCache
import TurboLaser.Synth.Eth
import TurboLaser.Synth.Session
import TurboLaser.Text
import TurboLaser.Synth.S7
import TurboLaser.Lib.Chunks
import TurboLaser.Synth.Telecontrol
import TurboLaser.Synth.Fieldbus
import TurboLaser.Synth.Ioc
import TurboLaser.Scenario.Playbook
import TurboLaser.Scenario.Render
import TurboLaser.Scenario.Emissions
import TurboLaser.Scenario.Connections
import TurboLaser.Scenario.Plant
import TurboLaser.Simulate.EmbeddedProfiles
import TurboLaser.Scenario.Preflight
import TurboLaser.Lib.Mixing
import TurboLaser.Proto.MacRange
import TurboLaser.Scenario.PreflightFacts
import TurboLaser.Scenario.SeedIndependence
import TurboLaser.Scenario.Accepted
import TurboLaser.Scenario.DeclaredProfiles
import TurboLaser.Scenario.Skeleton
import TurboLaser.Synth.Reference
import TurboLaser.Synth.Sizes
import TurboLaser.Scenario.Parameters
import TurboLaser.Scenario.FullPass
import TurboLaser.Scenario.Places
import TurboLaser.Scenario.FrameSizes
import TurboLaser.Scenario.Fidelity
import TurboLaser.Scenario.Lockstep
import TurboLaser.Scenario.Standin
import TurboLaser.Lib.Parted
import TurboLaser.Simulate.Hostnames
import TurboLaser.Simulate.CoreNames
import TurboLaser.Simulate.Cast
import TurboLaser.Simulate.UniqueNames
import TurboLaser.Simulate.ArpGraph
import TurboLaser.Simulate.ArpOwners
import TurboLaser.Synth.Arp
import TurboLaser.Synth.Oid
import TurboLaser.Synth.Dns
import TurboLaser.Synth.Snmp
import TurboLaser.Synth.Builders
import TurboLaser.Synth.Reassembly
import TurboLaser.Simulate.Crossings
import TurboLaser.Synth.Announcements
import TurboLaser.Simulate.Assertions
import TurboLaser.Simulate.FreshFlows
import TurboLaser.Validate.ArpProfile
import TurboLaser.Validate.ArpUnion
import TurboLaser.Threat.Moves
import TurboLaser.Threat.Promote
import TurboLaser.Proto.FailsClosed
import TurboLaser.Threat.Scheduler
import TurboLaser.Simulate.Daemon
import TurboLaser.Simulate.DaemonFacts
import TurboLaser.Threat.Floor
import TurboLaser.Simulate.NewerLedger
import TurboLaser.Simulate.Ties
import TurboLaser.Simulate.ZonesApart
import TurboLaser.Run.Watchdog
import TurboLaser.Proto.Mutation
import TurboLaser.Proto.Mutators.Dnp3
import TurboLaser.Proto.Mutators.Modbus
import TurboLaser.Proto.Mutators.S7
import TurboLaser.Lib.Fields
import TurboLaser.Lib.Remember
import TurboLaser.Lib.Scan
import TurboLaser.Proto.Mapper
import TurboLaser.Proto.MapperRuns
import TurboLaser.Proto.Mutators.Enip
import TurboLaser.Proto.Mutators.EnipItems
import TurboLaser.Lib.LastResort
import TurboLaser.Simulate.FabricateRuns
import TurboLaser.Simulate.SaltLoops
import TurboLaser.Simulate.FabricateReturns
import TurboLaser.Simulate.Rebatch
import TurboLaser.Simulate.Batches
import TurboLaser.Simulate.CappedRuns
import TurboLaser.Simulate.Preview
import TurboLaser.Simulate.PreviewApart
import TurboLaser.Scenario.Sites
import TurboLaser.Scenario.SealedNames
import TurboLaser.Scenario.DistinctNames
import TurboLaser.Scenario.Coherent
import TurboLaser.Lib.OnesComplement
import TurboLaser.Proto.Checksums
import TurboLaser.Proto.Declared
import TurboLaser.Proto.FrameCondition
import TurboLaser.Proto.LeakFilter
import TurboLaser.Reload.Pipeline
import TurboLaser.Reload.Untouched
import TurboLaser.Lib.Panics
import TurboLaser.Checked.Frame
import TurboLaser.Checked.Rewrite
import TurboLaser.Checked.Mutators
import TurboLaser.Checked.Captures
import TurboLaser.Lib.Eviction
import TurboLaser.Simulate.CacheEviction
import TurboLaser.Synth.TriStation
import TurboLaser.Validate.SensorCsv
import TurboLaser.Config.Overlay
import TurboLaser.Synth.Identities
import TurboLaser.Simulate.IdentityFrames
import TurboLaser.Lib.Lines
import TurboLaser.Run.Replay
import TurboLaser.Run.Loop
import TurboLaser.Run.LoopFacts
import TurboLaser.Proto.WithinPlan
import TurboLaser.Simulate.Planned
import TurboLaser.Run.PlannedWire
import TurboLaser.Lib.Traces
import TurboLaser.Run.Heartbeat
import TurboLaser.Run.Census
import TurboLaser.Lib.Numerals
import TurboLaser.Reload.Family
import TurboLaser.Reload.FamilyFacts
import TurboLaser.Run.BurstRuns
import TurboLaser.Run.Campaign
import TurboLaser.Simulate.Durable
import TurboLaser.Validate.UnionReport
import TurboLaser.Simulate.Operator
import TurboLaser.Validate.Verify
import TurboLaser.Scenario.SlotLint
import TurboLaser.Simulate.Fire
import TurboLaser.Lib.Paths
import TurboLaser.Lib.Patches
import TurboLaser.Proto.PlannedFrame
import TurboLaser.Config.Pack
