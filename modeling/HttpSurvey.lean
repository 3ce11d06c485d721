import HttpSurvey.Lib.Clock
import HttpSurvey.Lib.Machine
import HttpSurvey.Lib.Meter
import HttpSurvey.Lib.Numerals
import HttpSurvey.Lib.Tally
import HttpSurvey.Lib.Word
import HttpSurvey.Lib.Async
import HttpSurvey.Lib.DoUntil
import HttpSurvey.Lib.Framing
import HttpSurvey.Lib.TextHead
import HttpSurvey.Lib.Threads
import HttpSurvey.Lib.Snapshot
import HttpSurvey.Drogon.RegularClient
import HttpSurvey.Drogon.Report
import HttpSurvey.Drogon.Server
import HttpSurvey.Drogon.ConcurrentClient
import HttpSurvey.Drogon.Arguments
import HttpSurvey.Drogon.Completion
import HttpSurvey.Drogon.FrameLifetime
import HttpSurvey.Httplib.Client
import HttpSurvey.Httplib.Server
import HttpSurvey.Httplib.Handlers
import HttpSurvey.Httplib.RequestLog
import HttpSurvey.Httplib.Upload
import HttpSurvey.Httplib.Accounts
import HttpSurvey.Seastar.Server
import HttpSurvey.Seastar.Transfer
import HttpSurvey.Seastar.ServiceLoop
import HttpSurvey.Seastar.Client
import HttpSurvey.Seastar.Closing
import HttpSurvey.Beast.Message
import HttpSurvey.Beast.Session
import HttpSurvey.Beast.Lifecycle
import HttpSurvey.Beast.Wire
import HttpSurvey.Beast.Pipeline
import HttpSurvey.Beast.ResponseFraming
import HttpSurvey.Beast.Arguments
import HttpSurvey.Beast.Client
import HttpSurvey.Beast.ConcurrentClient
import HttpSurvey.Beast.Summary
import HttpSurvey.Beast.TimedRegularClient
import HttpSurvey.Beast.TimedClient
import HttpSurvey.Beast.TimedWatch
import HttpSurvey.Beast.TimedReport
import HttpSurvey.Beast.ThreadFailure
import HttpSurvey.Httplib.Report
import HttpSurvey.Beast.ClientRefinement
import HttpSurvey.Compare.Statistics
import HttpSurvey.Compare.Accounting
import HttpSurvey.Compare.Divisors
