import RequestDispatch.Http.Response

/-!
# Metrics

Counts of the events that were delivered to a listener, and of the responses among them by the
class of their status. A count is a word of 64 bits, and the largest one is followed by zero.
-/

namespace RequestDispatch

/-- Counts of events. -/
structure Metrics where
  /-- Requests that came in. -/
  requests : UInt64 := 0
  /-- Controllers that were built. -/
  controllers : UInt64 := 0
  /-- Outcomes that were no responses. -/
  results : UInt64 := 0
  /-- Responses. -/
  responses : UInt64 := 0
  /-- Responses with a status from 100 to 199. -/
  informational : UInt64 := 0
  /-- Responses with a status from 200 to 299. -/
  successful : UInt64 := 0
  /-- Responses with a status from 300 to 399. -/
  redirections : UInt64 := 0
  /-- Responses with a status from 400 to 499. -/
  clientErrors : UInt64 := 0
  /-- Responses with a status from 500 to 599. -/
  serverErrors : UInt64 := 0
deriving DecidableEq, Repr

namespace Metrics

/-- Requests that were answered, or failed, before there was a controller. If fewer requests than
controllers are counted, there are none. -/
def shortCircuits (metrics : Metrics) : UInt64 :=
  if metrics.controllers ≤ metrics.requests then metrics.requests - metrics.controllers else 0

/-- The responses whose status divided by one hundred is `digit`, for digits from one to five. -/
def statusCount (metrics : Metrics) : (digit : Nat) → UInt64
  | 1 => metrics.informational
  | 2 => metrics.successful
  | 3 => metrics.redirections
  | 4 => metrics.clientErrors
  | 5 => metrics.serverErrors
  | _ => 0

/-- Count a response by its status. -/
def countStatus (metrics : Metrics) (status : Nat) : Metrics :=
  match status / 100 with
  | 1 => { metrics with informational := metrics.informational + 1 }
  | 2 => { metrics with successful := metrics.successful + 1 }
  | 3 => { metrics with redirections := metrics.redirections + 1 }
  | 4 => { metrics with clientErrors := metrics.clientErrors + 1 }
  | 5 => { metrics with serverErrors := metrics.serverErrors + 1 }
  | _ => metrics

/-- Count a request. -/
def countRequest (metrics : Metrics) : Metrics := { metrics with requests := metrics.requests + 1 }

/-- Count a controller. -/
def countController (metrics : Metrics) : Metrics :=
  { metrics with controllers := metrics.controllers + 1 }

/-- Count an outcome. -/
def countResult (metrics : Metrics) : Metrics := { metrics with results := metrics.results + 1 }

/-- Count a response. -/
def countResponse (metrics : Metrics) (response : Response) : Metrics :=
  { metrics with responses := metrics.responses + 1 }.countStatus response.status

end Metrics

end RequestDispatch
