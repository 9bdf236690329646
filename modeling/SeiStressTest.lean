import SeiStressTest.Python
import SeiStressTest.Load.Transaction
import SeiStressTest.Load.Nonce
import SeiStressTest.Load.Outcome
import SeiStressTest.Load.EventLoop
import SeiStressTest.Load.Iteration
import SeiStressTest.Load.Phase
import SeiStressTest.Load.NonceSafety
import SeiStressTest.Load.Counting
import SeiStressTest.Load.Throughput
import SeiStressTest.Load.ReadLoad
import SeiStressTest.Monitor.PerfCounter
import SeiStressTest.Monitor.Timestamp
import SeiStressTest.Stats.Percentile
import SeiStressTest.Stats.Analysis
import SeiStressTest.Monitor.Resolution
import SeiStressTest.Funding.Batch
import SeiStressTest.Funding.Sequential
import SeiStressTest.RunFullTest
import SeiStressTest.MonitorUnderLoad
