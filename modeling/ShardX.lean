import ShardX.Python.Binary64
import ShardX.Python.Runtime
import ShardX.Python.Float
import ShardX.Analyzer.Model
import ShardX.Analyzer.Analyze
import ShardX.Analyzer.Charts
import ShardX.Python.Str
import ShardX.Python.Re
import ShardX.Analyzer.Profile
import ShardX.Analyzer.Detect
import ShardX.Analyzer.Report
import ShardX.Analyzer.TextReport
import ShardX.Benchmark.Batches
import ShardX.Python.Codecs
import ShardX.Python.Json
import ShardX.Python.Time
import ShardX.Sdk.Wallet
import ShardX.Sdk.Address
import ShardX.Sdk.Client
import ShardX.Sdk.Ai
import ShardX.Sdk.Confirmation
import ShardX.Sdk.Display
import ShardX.Sdk.Models
import ShardX.Sdk.Multisig
import ShardX.Sdk.PriceHistory
import ShardX.Sdk.Request
import ShardX.Sdk.Transaction
import ShardX.Sdk.Utils
import ShardX.Web.SampleData
