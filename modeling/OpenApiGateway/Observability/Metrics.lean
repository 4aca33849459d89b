import OpenApiGateway.Lib.Counters

/-!
# The metrics registry

The counters and gauges of `controlplane/src/observability/metrics.rs` that a check writes. A
counter belongs to a series: a metric with the values of its labels, in the order in which the
metric declares them. The histograms only take durations and are not modelled.
-/

namespace OpenApiGateway
namespace Observability

open Lib.Counters

/-- The counters that the check service writes. -/
inductive Metric where
  | httpRequestsTotal
  | authFailuresTotal
  | rateLimitAllowedTotal
  | rateLimitDeniedTotal
  | rateLimitDegradedTotal
  | pluginErrorsTotal
  | pluginShortCircuitsTotal
deriving DecidableEq

/-- A metric with the values of its labels. -/
abbrev Series := Metric × List String

/-- Convert HTTP status code to class string. -/
def statusClass (status : ℕ) : String :=
  if 100 ≤ status ∧ status ≤ 199 then "1xx"
  else if 200 ≤ status ∧ status ≤ 299 then "2xx"
  else if 300 ≤ status ∧ status ≤ 399 then "3xx"
  else if 400 ≤ status ∧ status ≤ 499 then "4xx"
  else "5xx"

/-- The class of the successes. -/
theorem statusClass_eq_success_iff {status : ℕ} :
    statusClass status = "2xx" ↔ 200 ≤ status ∧ status ≤ 299 := by
  unfold statusClass
  split_ifs with h₁ h₂ h₃ h₄
  · simp only [String.reduceEq, false_iff]
    omega
  · exact iff_of_true rfl h₂
  · exact iff_of_false (by decide) h₂
  · exact iff_of_false (by decide) h₂
  · exact iff_of_false (by decide) h₂

/-- The counters by series, the gauge `inflight_requests` and the counter `overload_total`. -/
structure MetricsRegistry where
  counters : CounterVec Series := ∅
  inflightRequests : ℤ := 0
  overloadTotal : ℕ := 0

namespace MetricsRegistry

/-- `metric.with_label_values(labels).inc()`. -/
def count (m : MetricsRegistry) (metric : Metric) (labels : List String) : MetricsRegistry :=
  { m with counters := m.counters.inc (metric, labels) }

/-- One request of a route, by method and class of its status. -/
def recordRequest (m : MetricsRegistry) (route method : String) (status : ℕ) : MetricsRegistry :=
  m.count .httpRequestsTotal [route, method, statusClass status]

/-- One failed authentication, by reason. -/
def recordAuthFailure (m : MetricsRegistry) (route reason : String) : MetricsRegistry :=
  m.count .authFailuresTotal [route, reason]

/-- One decision of the limiter; the next two are the denied and the degraded ones. -/
def recordRateLimitAllowed (m : MetricsRegistry) (route : String) : MetricsRegistry :=
  m.count .rateLimitAllowedTotal [route]

def recordRateLimitDenied (m : MetricsRegistry) (route : String) : MetricsRegistry :=
  m.count .rateLimitDeniedTotal [route]

def recordRateLimitDegraded (m : MetricsRegistry) (route : String) : MetricsRegistry :=
  m.count .rateLimitDegradedTotal [route]

/-- One failed plugin, by the type of its error. -/
def recordPluginError (m : MetricsRegistry) (plugin route errorType : String) : MetricsRegistry :=
  m.count .pluginErrorsTotal [plugin, route, errorType]

/-- One request that a plugin answered itself. -/
def recordPluginShortCircuit (m : MetricsRegistry) (plugin route : String) (status : ℕ) :
    MetricsRegistry :=
  m.count .pluginShortCircuitsTotal [plugin, route, toString status]

def incInflight (m : MetricsRegistry) : MetricsRegistry :=
  { m with inflightRequests := m.inflightRequests + 1 }

def decInflight (m : MetricsRegistry) : MetricsRegistry :=
  { m with inflightRequests := m.inflightRequests - 1 }

/-- The counter is a `u64`. -/
def recordOverload (m : MetricsRegistry) : MetricsRegistry :=
  { m with overloadTotal := (m.overloadTotal + 1) % 2 ^ 64 }

end MetricsRegistry

/-! ## What the series say of a route -/

namespace Series

/-- The route a finished request was counted for. -/
def requestOn : Series → Option String
  | (.httpRequestsTotal, [route, _, _]) => some route
  | _ => none

/-- The route for which the plugins, the auth step or the limiter decided a request. -/
def decisionOn : Series → Option String
  | (.authFailuresTotal, [route, _]) => some route
  | (.rateLimitAllowedTotal, [route]) => some route
  | (.rateLimitDeniedTotal, [route]) => some route
  | (.rateLimitDegradedTotal, [route]) => some route
  | (.pluginErrorsTotal, [_, route, _]) => some route
  | (.pluginShortCircuitsTotal, [_, route, _]) => some route
  | _ => none

/-- A finished request with a status of the class `2xx`. -/
def succeeded : Series → Bool
  | (.httpRequestsTotal, [_, _, statusClass]) => statusClass == "2xx"
  | _ => false

/-- A decision for a success: the limiter lets the request pass, or a plugin exits with a status
from 200 to 299. -/
def letsPass : Series → Bool
  | (.rateLimitAllowedTotal, _) => true
  | (.rateLimitDegradedTotal, _) => true
  | (.pluginShortCircuitsTotal, [_, _, status]) =>
    (List.range 100).any fun d => status == toString (200 + d)
  | _ => false

/-- `gateway_http_requests_total{route=...}`. -/
def isRequest (route : String) (series : Series) : Bool := series.requestOn == some route

def isDecision (route : String) (series : Series) : Bool := series.decisionOn == some route

/-- `gateway_http_requests_total{route=...,status_class="2xx"}`. -/
def isSuccess (route : String) (series : Series) : Bool :=
  series.succeeded && series.requestOn == some route

/-- The decisions that let a request pass. -/
def isPass (route : String) (series : Series) : Bool :=
  series.letsPass && series.decisionOn == some route

theorem requestOn_of_decisionOn {series : Series} {route : String}
    (h : series.decisionOn = some route) : series.requestOn = none := by
  unfold decisionOn at h
  split at h
  all_goals first | rfl | cases h

theorem succeeded_of_decisionOn {series : Series} {route : String}
    (h : series.decisionOn = some route) : series.succeeded = false := by
  unfold decisionOn at h
  split at h
  all_goals first | rfl | cases h

end Series

end Observability
end OpenApiGateway
