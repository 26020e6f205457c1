import PrismInfer.Lib.Run
import PrismInfer.Lib.Tally
import PrismInfer.Lib.TextStream
import PrismInfer.Lib.Delimited
import PrismInfer.Lib.TextSearch
import PrismInfer.Lib.Blocks
import PrismInfer.Lib.JsonWrite
import PrismInfer.Lib.Staging
import PrismInfer.Lib.Argv
import PrismInfer.Governor.WatchdogAgreement
import PrismInfer.Governor.LeaseConcurrency
import PrismInfer.Governor.TokenOneShot
import PrismInfer.Governor.CancellationDeadlines
import PrismInfer.Governor.WatchdogRuns
import PrismInfer.Governor.ThermalAgreement
import PrismInfer.Governor.MemoryCap
import PrismInfer.Governor.HostAdmissionExact
import PrismInfer.Runtime.CommandLine
import PrismInfer.Runtime.ProtocolAgreement
import PrismInfer.Validation.EvidenceTexts
import PrismInfer.Validation.SupervisedReceipt
import PrismInfer.Validation.ContainedWorker
import PrismInfer.Telemetry.Jsonl
import PrismInfer.Probe.KvPhase
import PrismInfer.Probe.Main
import PrismInfer.Benchmark.AtomicRecovery
import PrismInfer.Benchmark.ManifestRoundTrip
import PrismInfer.Benchmark.TransferMetrics
import PrismInfer.Evidence.Published
import PrismInfer.Evidence.AcceptedLog
import PrismInfer.Gguf.Inventory
import PrismInfer.Kv.CacheLedger
import PrismInfer.Kv.CompressionPolicy
import PrismInfer.Backend.LlamaProfile
