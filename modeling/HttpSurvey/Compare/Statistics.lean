/-
What a response to `/request_stats` says, for `concurrent_httplib_server` and `regular_drogon_server`.
A POST raises `request_count` and later `total_received_bytes`, and the statistics load each of them
once, so the count and the total of a response belong to two sets of POSTs: those counted at the one
load and those added at the other. They are one set, and the response a consistent snapshot, when no
POST overlaps the loads.
-/
import HttpSurvey.Drogon.Server
import HttpSurvey.Httplib.Handlers

namespace HttpSurvey.Compare

open HttpSurvey.Lib

section Statistics

variable {n : Nat}

end Statistics

/-! ## A response in the middle of an upload -/

end HttpSurvey.Compare
