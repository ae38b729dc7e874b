import OtaCompile.Device.Scripted
import OtaCompile.Host.Scripted
import OtaCompile.Invocation.Json
import OtaCompile.Invocation.Reader
import OtaCompile.Json.Reader
import OtaCompile.Main
import OtaCompile.Proofs.Fallible
import OtaCompile.Proofs.Dialogue
import OtaCompile.Proofs.Session.History
import OtaCompile.Proofs.Session.Conservation
import OtaCompile.Proofs.Session.Progress
import OtaCompile.Proofs.Session.Stream
import OtaCompile.Proofs.Device
import OtaCompile.Proofs.Policy
import OtaCompile.Proofs.Coordinator.Drain
import OtaCompile.Proofs.Coordinator.Agreement
import OtaCompile.Proofs.Coordinator.Step
import OtaCompile.Proofs.Coordinator.Trace
import OtaCompile.Proofs.Coordinator.Protocol
import OtaCompile.Proofs.Coordinator.Exhaustion
import OtaCompile.Proofs.Coordinator.Export
import OtaCompile.Proofs.Coordinator.Assembly
import OtaCompile.Proofs.Translation
import OtaCompile.Proofs.Relocation
import OtaCompile.Proofs.ArtifactName
import OtaCompile.Proofs.Text
import OtaCompile.Proofs.Command
import OtaCompile.Proofs.Helper
import OtaCompile.Proofs.Coordinator.Sentinel
import OtaCompile.Proofs.Coordinator.InstallLock
import OtaCompile.Proofs.FileTree
import OtaCompile.Proofs.FileView
import OtaCompile.Proofs.Staging
import OtaCompile.Proofs.StandardPolicy
import OtaCompile.Proofs.Coordinator.Run
import OtaCompile.Proofs.StagedPath
import OtaCompile.Proofs.Space
import OtaCompile.Proofs.Registry
import OtaCompile.Proofs.Coordinator.Limit
import OtaCompile.Proofs.Json.Compact
import OtaCompile.Proofs.Json.Written
import OtaCompile.Proofs.Json.Data
import OtaCompile.Proofs.Json.Faults
import OtaCompile.Proofs.Settings
import OtaCompile.Proofs.Configuration
