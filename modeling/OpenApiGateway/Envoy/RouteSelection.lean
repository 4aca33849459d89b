import OpenApiGateway.Lib.Text

/-!
# How Envoy chooses a route entry

The proxy's side of routing, as far as the gateway relies on it. A virtual host is chosen
by its domains: an exact domain before a suffix wildcard (`*.example.com`), that before a
prefix wildcard (`example.*`), and `*` last; among wildcards of one kind the longest wins.
Host and domain are compared without regard to ASCII case, and a wildcard stands for at
least one character. Inside the virtual host the first entry whose prefix starts the path
is taken.

Envoy refuses a configuration that lists a domain twice. The choice is therefore stated as
a relation, `Selects`: any virtual host holding a best domain may be the one that serves.
-/

namespace OpenApiGateway
namespace Envoy

open Lib.Text

/-- A virtual host: a named set of domains with an ordered list of entries. -/
structure VirtualHost (ε : Type) where
  name : String
  domains : List String
  routes : List ε
deriving DecidableEq

/-- A configured domain, read as a pattern. -/
inductive DomainPattern where
  | exact (text : String)
  | suffixWildcard (suffix : String)
  | prefixWildcard (start : String)
  | any
deriving DecidableEq

/-- Read a configured domain; letter case is dropped. -/
def parseDomain (domain : String) : DomainPattern :=
  let text := toAsciiLowercase domain
  if text = "*" then .any
  else if startsWith text "*" then .suffixWildcard (String.ofList text.toList.tail)
  else if endsWith text "*" then .prefixWildcard (String.ofList text.toList.dropLast)
  else .exact text

namespace DomainPattern

/-- The pattern covers the host, given in lower case. -/
def covers (host : String) : DomainPattern → Bool
  | exact text => text == host
  | suffixWildcard suffix => endsWith host suffix && decide (suffix.length < host.length)
  | prefixWildcard start => startsWith host start && decide (start.length < host.length)
  | any => true

/-- The kind of a pattern, higher first, and for wildcards the length of their text. -/
def rank : DomainPattern → ℕ × ℕ
  | exact _ => (3, 0)
  | suffixWildcard suffix => (2, suffix.length)
  | prefixWildcard start => (1, start.length)
  | any => (0, 0)

end DomainPattern

/-- The domain covers the host. -/
def domainMatches (host domain : String) : Bool :=
  (parseDomain domain).covers (toAsciiLowercase host)

/-- `domain` is preferred to `other`, or as good: first by kind, then by length. -/
def domainAtLeast (other domain : String) : Bool :=
  let a := (parseDomain other).rank
  let b := (parseDomain domain).rank
  decide (a.1 < b.1) || (decide (a.1 = b.1) && decide (a.2 ≤ b.2))

/-- `domain` covers the host and none of `domains` that covers it is preferred. -/
def isBest (domains : List String) (host domain : String) : Bool :=
  domainMatches host domain &&
    domains.all fun other => !domainMatches host other || domainAtLeast other domain

section Selection
variable {ε : Type}

/-- The virtual hosts that may serve the host: those holding a best domain. -/
def servedBy (vhosts : List (VirtualHost ε)) (host : String) : List (VirtualHost ε) :=
  vhosts.filter fun vhost =>
    vhost.domains.any (isBest (vhosts.flatMap VirtualHost.domains) host)

/-- The first entry whose prefix starts the path. -/
def firstMatch (pathOf : ε → String) (entries : List ε) (path : String) : Option ε :=
  entries.find? fun e => startsWith path (pathOf e)

/-- Envoy, serving `host` and `path` from `vhosts`, may take entry `e`. -/
def Selects (pathOf : ε → String) (vhosts : List (VirtualHost ε)) (host path : String)
    (e : ε) : Prop :=
  ∃ vhost ∈ servedBy vhosts host, firstMatch pathOf vhost.routes path = some e

instance [DecidableEq ε] (pathOf : ε → String) (vhosts : List (VirtualHost ε))
    (host path : String) (e : ε) : Decidable (Selects pathOf vhosts host path e) :=
  inferInstanceAs (Decidable (∃ vhost ∈ servedBy vhosts host, _))

theorem isBest_iff {domains : List String} {host domain : String} :
    isBest domains host domain = true ↔
      domainMatches host domain = true ∧
        ∀ other ∈ domains, domainMatches host other = true → domainAtLeast other domain = true := by
  unfold isBest
  rw [Bool.and_eq_true, List.all_eq_true]
  refine and_congr_right fun _ => forall₂_congr fun other _ => ?_
  cases domainMatches host other <;> simp

/-- Best among two lists with the same domains is the same. -/
theorem isBest_congr {domains domains' : List String} (h : ∀ d, d ∈ domains ↔ d ∈ domains')
    (host domain : String) : isBest domains host domain = isBest domains' host domain := by
  rw [Bool.eq_iff_iff, isBest_iff, isBest_iff]
  refine and_congr_right fun _ => forall_congr' fun other => ?_
  rw [h]

theorem mem_servedBy {vhosts : List (VirtualHost ε)} {host : String} {vhost : VirtualHost ε} :
    vhost ∈ servedBy vhosts host ↔
      vhost ∈ vhosts ∧
        ∃ d ∈ vhost.domains, isBest (vhosts.flatMap VirtualHost.domains) host d = true := by
  rw [servedBy, List.mem_filter, List.any_eq_true]

end Selection

end Envoy
end OpenApiGateway
