import Mathlib.Data.List.Nodup
import OpenApiGateway.Config.Validation
import OpenApiGateway.Lib.Delimited
import OpenApiGateway.RateLimit.Types

/-!
# The space of bucket keys

`build_key` of `controlplane/src/ratelimit/bucket.rs` joins its parts with `:` and escapes
nothing. A value cannot be mistaken for another value of its own route; but the name of one route
may go on where the name and the dimension of another end, and then a value of the other route
makes the same key. `bucket_keys_separate_iff` says for which routes this does not happen.
-/

namespace OpenApiGateway
namespace RateLimit

open Lib.Text Lib.Delimited Validation

/-- Equal keys are made only by one route and one value. -/
def KeysSeparate (keyPrefix : String) (routes : List RouteConfig) : Prop :=
  ∀ r₁ ∈ routes, ∀ r₂ ∈ routes, ∀ v₁ v₂,
    buildKey keyPrefix r₁.name r₁.rateLimit.keyBy v₁ =
      buildKey keyPrefix r₂.name r₂.rateLimit.keyBy v₂ → r₁ = r₂ ∧ v₁ = v₂

/-- What precedes the value in a route's keys, after the prefix. -/
def keyHead (r : RouteConfig) : String := r.name ++ ":" ++ r.rateLimit.keyBy ++ ":"

/-- No route's name goes on from the name and the dimension of another. -/
def NamesSeparate (routes : List RouteConfig) : Prop :=
  ∀ r₁ ∈ routes, ∀ r₂ ∈ routes, startsWith (r₂.name ++ ":") (keyHead r₁) = false

instance (routes : List RouteConfig) : Decidable (NamesSeparate routes) :=
  inferInstanceAs (Decidable (∀ r₁ ∈ routes, ∀ r₂ ∈ routes, _))

/-! ## Keys as lists of characters -/

theorem toList_keyHead (r : RouteConfig) :
    (keyHead r).toList = r.name.toList ++ ':' :: (r.rateLimit.keyBy.toList ++ [':']) := by
  simp [keyHead]

theorem toList_buildKey (keyPrefix : String) (r : RouteConfig) (v : String) :
    (buildKey keyPrefix r.name r.rateLimit.keyBy v).toList =
      keyPrefix.toList ++ ':' :: ((keyHead r).toList ++ v.toList) := by
  show (keyPrefix ++ ":" ++ r.name ++ ":" ++ r.rateLimit.keyBy ++ ":" ++ v).toList = _
  simp [toList_keyHead]

theorem buildKey_eq_iff {keyPrefix : String} {r₁ r₂ : RouteConfig} {v₁ v₂ : String} :
    buildKey keyPrefix r₁.name r₁.rateLimit.keyBy v₁ =
        buildKey keyPrefix r₂.name r₂.rateLimit.keyBy v₂ ↔
      (keyHead r₁).toList ++ v₁.toList = (keyHead r₂).toList ++ v₂.toList := by
  rw [← String.toList_inj, toList_buildKey, toList_buildKey, List.append_cancel_left_eq,
    List.cons_inj_right]

/-- Two routes make a common key exactly when the head of one goes on from that of the other. -/
theorem exists_buildKey_eq_iff (keyPrefix : String) (r₁ r₂ : RouteConfig) :
    (∃ v₁ v₂, buildKey keyPrefix r₁.name r₁.rateLimit.keyBy v₁ =
        buildKey keyPrefix r₂.name r₂.rateLimit.keyBy v₂) ↔
      (keyHead r₁).toList <+: (keyHead r₂).toList ∨
        (keyHead r₂).toList <+: (keyHead r₁).toList := by
  constructor
  · rintro ⟨v₁, v₂, h⟩
    rw [buildKey_eq_iff] at h
    have hfirst : (keyHead r₁).toList <+: (keyHead r₂).toList ++ v₂.toList :=
      ⟨v₁.toList, h⟩
    exact List.prefix_or_prefix_of_prefix hfirst (List.prefix_append _ _)
  · rintro (⟨rest, h⟩ | ⟨rest, h⟩)
    · refine ⟨String.ofList rest, "", buildKey_eq_iff.mpr ?_⟩
      simp [h]
    · refine ⟨"", String.ofList rest, buildKey_eq_iff.mpr ?_⟩
      simp [h]

/-! ## Routes of a validated config -/

theorem colon_notMem_keyBy {r : RouteConfig} (h : r.rateLimit.keyBy ∈ validKeyBy) :
    ':' ∉ r.rateLimit.keyBy.toList := by
  have hall : ∀ keyBy ∈ validKeyBy, ':' ∉ keyBy.toList := by decide
  exact hall _ h

/-- The head of a route goes on from that of another route only within its name. -/
theorem keyHead_prefix_iff {r₁ r₂ : RouteConfig} (h₁ : r₁.rateLimit.keyBy ∈ validKeyBy)
    (h₂ : r₂.rateLimit.keyBy ∈ validKeyBy) (hne : r₁.name ≠ r₂.name) :
    (keyHead r₁).toList <+: (keyHead r₂).toList ↔
      startsWith (r₂.name ++ ":") (keyHead r₁) = true := by
  have hname : (r₂.name ++ ":").toList = r₂.name.toList ++ [':'] := by simp
  rw [startsWith_iff, hname, toList_keyHead, toList_keyHead,
    prefix_record_iff (colon_notMem_keyBy h₁) (colon_notMem_keyBy h₂)]
  refine or_iff_right ?_
  rintro ⟨hsame, -⟩
  exact hne (String.toList_inj.mp hsame)

theorem name_ne_of_startsWith {r₁ r₂ : RouteConfig}
    (h : startsWith (r₂.name ++ ":") (keyHead r₁) = true) : r₁.name ≠ r₂.name := by
  intro hname
  have hlength := (startsWith_iff.mp h).length_le
  rw [toList_keyHead, hname] at hlength
  simp at hlength

/-- The keys of a validated config separate routes and values if and only if no route's name goes
on from the name and the dimension of another. -/
theorem bucket_keys_separate_iff (urlOk : String → Bool) (cfg : GatewayConfig)
    (hvalid : validate urlOk cfg = .ok ()) (keyPrefix : String) :
    KeysSeparate keyPrefix cfg.routes ↔ NamesSeparate cfg.routes := by
  have haccepted := validate_ok_iff.mp hvalid
  have hkeyBy : ∀ r ∈ cfg.routes, r.rateLimit.keyBy ∈ validKeyBy :=
    fun r hr => (haccepted.routes r hr).keyBy_valid
  constructor
  · intro h r₁ hr₁ r₂ hr₂
    by_contra hstarts
    rw [Bool.not_eq_false] at hstarts
    have hne := name_ne_of_startsWith hstarts
    have hprefix := (keyHead_prefix_iff (hkeyBy r₁ hr₁) (hkeyBy r₂ hr₂) hne).mpr hstarts
    obtain ⟨v₁, v₂, hkey⟩ := (exists_buildKey_eq_iff keyPrefix r₁ r₂).mpr (Or.inl hprefix)
    exact hne (congrArg RouteConfig.name (h r₁ hr₁ r₂ hr₂ v₁ v₂ hkey).1)
  · intro h r₁ hr₁ r₂ hr₂ v₁ v₂ hkey
    by_cases hname : r₁.name = r₂.name
    · -- one name, one route, and the value is what follows the head
      have hroute : r₁ = r₂ := List.inj_on_of_nodup_map haccepted.routes_nodup hr₁ hr₂ hname
      rw [buildKey_eq_iff, hroute] at hkey
      exact ⟨hroute, String.toList_inj.mp (List.append_cancel_left hkey)⟩
    · rcases (exists_buildKey_eq_iff keyPrefix r₁ r₂).mp ⟨v₁, v₂, hkey⟩ with hprefix | hprefix
      · rw [keyHead_prefix_iff (hkeyBy r₁ hr₁) (hkeyBy r₂ hr₂) hname, h r₁ hr₁ r₂ hr₂] at hprefix
        exact absurd hprefix (by simp)
      · rw [keyHead_prefix_iff (hkeyBy r₂ hr₂) (hkeyBy r₁ hr₁) (Ne.symm hname),
          h r₂ hr₂ r₁ hr₁] at hprefix
        exact absurd hprefix (by simp)

theorem bucket_keys_separate_iff_minimal :
    let cfg := minimalConfig [minimalRoute "api" ["*"] "/api", minimalRoute "web" ["*"] "/"]
    validate (fun _ => true) cfg = .ok () ∧ NamesSeparate cfg.routes ∧
      (KeysSeparate "rl" cfg.routes ↔ NamesSeparate cfg.routes) := by
  intro cfg
  have hvalid : validate (fun _ => true) cfg = .ok () := by decide
  exact ⟨hvalid, by decide, bucket_keys_separate_iff (fun _ => true) cfg hvalid "rl"⟩

/-- A client of the route `api` and a client of the route `api:ip` share a bucket. -/
theorem bucket_keys_collide :
    let outer := minimalRoute "api" ["*"] "/api"
    let inner := minimalRoute "api:ip" ["*"] "/"
    validate (fun _ => true) (minimalConfig [outer, inner]) = .ok () ∧
      buildKey "rl" outer.name outer.rateLimit.keyBy "ip:10.0.0.1" =
        buildKey "rl" inner.name inner.rateLimit.keyBy "10.0.0.1" ∧
      ¬ KeysSeparate "rl" (minimalConfig [outer, inner]).routes := by
  intro outer inner
  have hkey : buildKey "rl" outer.name outer.rateLimit.keyBy "ip:10.0.0.1" =
      buildKey "rl" inner.name inner.rateLimit.keyBy "10.0.0.1" := by decide
  refine ⟨by decide, hkey, ?_⟩
  intro h
  have hsame := (h outer (by simp [minimalConfig]) inner (by simp [minimalConfig]) _ _ hkey).1
  exact absurd (congrArg RouteConfig.name hsame) (by decide)

end RateLimit
end OpenApiGateway
