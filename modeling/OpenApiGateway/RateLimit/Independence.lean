import OpenApiGateway.Lib.KeyedState
import OpenApiGateway.RateLimit.Admission

/-!
# Buckets do not touch each other

The calls on one key, among calls on any others. What a call meets is part of it: the clocks,
how the invocation of the script goes, whether there is a connection, and whether Redis has
dropped the key since. A call then depends on what is kept for its own key alone, in Redis and
in the local buckets, and changes nothing else (`attempt_local`).
`buckets_independent` draws the conclusion for every interleaving.
-/

namespace OpenApiGateway
namespace RateLimit

open Lib.KeyedState

/-- A call of `check`, with what it meets. -/
structure Attempt where
  bucketKey : String
  capacity : ℕ
  refillRate : F64
  /-- There is a connection. -/
  connected : Bool
  /-- The key has expired in Redis. -/
  expired : Bool
  call : Call
deriving DecidableEq

namespace System

/-- The state as a call finds it. -/
def meet (s : System) (attempt : Attempt) : System where
  limiter := { s.limiter with connected := attempt.connected }
  redis := if attempt.expired then s.redis.erase attempt.bucketKey else s.redis

/-- A call from the state it finds. -/
def attempt [Arithmetic] (s : System) (attempt : Attempt) :
    Except RateLimitError RateDecision × System :=
  (s.meet attempt).check attempt.bucketKey attempt.capacity attempt.refillRate attempt.call

end System

/-! ## A call goes by its own key -/

section OwnKey
variable {s t : System} {key bucketKey : String} {capacity : ℕ} {refillRate : F64} {call : Call}

theorem view_store_congr (h : s.view key = t.view key) (run : ScriptRun) :
    (s.store key run).view key = (t.store key run).view key := by
  obtain ⟨hconfig, -, hbucket⟩ := KeyView.mk.inj h
  simp only [System.view, hash_store_self]
  rw [KeyView.mk.injEq]
  exact ⟨hconfig, rfl, hbucket⟩

/-- What a call finds of its key is what was kept of it, unless the key has expired. -/
theorem view_meet_congr (a : Attempt) (h : s.view a.bucketKey = t.view a.bucketKey) :
    (s.meet a).view a.bucketKey = (t.meet a).view a.bucketKey := by
  obtain ⟨hconfig, hhash, hbucket⟩ := KeyView.mk.inj h
  rw [System.view, System.view, KeyView.mk.injEq]
  refine ⟨hconfig, ?_, hbucket⟩
  cases hexpired : a.expired with
  | true => simp [System.meet, hexpired, Redis.hash]
  | false => simpa [System.meet, hexpired] using hhash

theorem view_meet_of_ne (a : Attempt) (hkey : key ≠ a.bucketKey) :
    (s.meet a).view key = s.view key := by
  rw [System.view, System.view, KeyView.mk.injEq]
  refine ⟨rfl, ?_, rfl⟩
  cases hexpired : a.expired with
  | true => simp [System.meet, hexpired, Redis.hash, AList.lookup_erase_ne hkey]
  | false => simp [System.meet, hexpired]

variable [Arithmetic]

theorem scriptRun_congr (h : s.view key = t.view key) :
    s.scriptRun key capacity refillRate call = t.scriptRun key capacity refillRate call := by
  obtain ⟨-, hhash, -⟩ := KeyView.mk.inj h
  rw [System.scriptRun, System.scriptRun, hhash]

/-- In degraded mode a call goes by the local bucket of its key. -/
theorem enterDegraded_congr (h : s.view key = t.view key) :
    (s.enterDegraded key capacity call).1 = (t.enterDegraded key capacity call).1 ∧
      (s.enterDegraded key capacity call).2.view key =
        (t.enterDegraded key capacity call).2.view key := by
  obtain ⟨hconfig, hhash, hbucket⟩ := KeyView.mk.inj h
  cases henabled : s.limiter.config.survivabilityMode.enabled with
  | true =>
    have hfallback : s.fallbackBucket key call = t.fallbackBucket key call := by
      rw [System.fallbackBucket, System.fallbackBucket, hbucket, hconfig]
    rw [enterDegraded_of_enabled henabled, enterDegraded_of_enabled (hconfig ▸ henabled), hfallback,
      hconfig]
    refine ⟨rfl, ?_⟩
    simp only [System.view, setFallback_redis, setFallback_fallback, AList.lookup_insert, hhash]
    rw [KeyView.mk.injEq]
    exact ⟨hconfig, rfl, rfl⟩
  | false =>
    rw [enterDegraded_of_disabled henabled, enterDegraded_of_disabled (hconfig ▸ henabled), hconfig]
    exact ⟨rfl, h⟩

/-- With the same connection and the same view of its key, a call has the same result and leaves
the same view. -/
theorem check_congr (hconnected : s.limiter.connected = t.limiter.connected)
    (h : s.view key = t.view key) :
    (s.check key capacity refillRate call).1 = (t.check key capacity refillRate call).1 ∧
      (s.check key capacity refillRate call).2.view key =
        (t.check key capacity refillRate call).2.view key := by
  have hrun : s.scriptRun key capacity refillRate call = t.scriptRun key capacity refillRate call :=
    scriptRun_congr h
  have hran : s.ranScript call = t.ranScript call := by
    rw [System.ranScript, System.ranScript, hconnected]
  rcases check_cases s key capacity refillRate call with
    ⟨hs, hreplied, resp, hresp, hcheck⟩ | ⟨hnot, s', hredis, hconfig, hfallback, -, hcheck⟩
  · rcases check_cases t key capacity refillRate call with
      ⟨-, -, resp', hresp', hcheck'⟩ | ⟨hnot', -⟩
    · have hsame : resp = resp' := by
        rw [hrun, hresp', Option.some.injEq] at hresp
        exact hresp.symm
      rw [hcheck, hcheck', hsame, hrun]
      exact ⟨rfl, view_store_congr h _⟩
    · refine absurd ⟨hconnected ▸ hs, hreplied, ?_⟩ hnot'
      rw [← hrun, hresp]
      rfl
  · rcases check_cases t key capacity refillRate call with
      ⟨ht, hreplied', resp', hresp', -⟩ | ⟨-, t', hredis', hconfig', hfallback', -, hcheck'⟩
    · refine absurd ⟨hconnected.trans ht, hreplied', ?_⟩ hnot
      rw [hrun, hresp']
      rfl
    · rw [hcheck, hcheck']
      apply enterDegraded_congr
      obtain ⟨hviewConfig, hviewHash, hviewBucket⟩ := KeyView.mk.inj h
      have hstored := (KeyView.mk.inj
        (view_store_congr h (t.scriptRun key capacity refillRate call))).2.1
      rw [System.view, System.view, KeyView.mk.injEq, hredis, hredis', hconfig, hconfig', hfallback,
        hfallback', hran, hrun]
      refine ⟨hviewConfig, ?_, hviewBucket⟩
      split
      · exact hstored
      · exact hviewHash

end OwnKey

theorem attempt_local [Arithmetic] : Local System.attempt Attempt.bucketKey System.view where
  frame := by
    intro s a key hkey
    exact (check_view_of_ne hkey).trans (view_meet_of_ne a hkey)
  own := by
    intro s t a h
    exact check_congr rfl (view_meet_congr a h)

/-! ## Runs of the limiter -/

/-- A check with the connection it finds; a ping is no call on a key. -/
def Op.met (connected : Bool) : Op → Option Attempt
  | .check bucketKey capacity refillRate call =>
    some ⟨bucketKey, capacity, refillRate, connected, false, call⟩
  | .ping _ => none

/-- The calls of a run, each with the connection it finds. -/
def metBy : Bool → List Op → List Attempt
  | _, [] => []
  | connected, op :: ops => (op.met connected).toList ++ metBy (op.connection connected) ops

/-- The calls on one key. -/
def onKey (key : String) (attempts : List Attempt) : List Attempt :=
  attempts.filter fun a => decide (a.bucketKey = key)

theorem view_ping (s : System) (outcome : PingOutcome) (key : String) :
    (s.ping outcome).2.view key = s.view key := by
  obtain ⟨hconfig, hredis, hfallback⟩ := ping_frame s outcome
  rw [System.view, System.view, hconfig, hredis, hfallback]

section Runs
variable [Arithmetic]

/-- A check is an attempt that meets the connection of the limiter. -/
theorem attempt_met (s : System) (bucketKey : String) (capacity : ℕ) (refillRate : F64)
    (call : Call) :
    s.attempt ⟨bucketKey, capacity, refillRate, s.limiter.connected, false, call⟩ =
      s.check bucketKey capacity refillRate call :=
  rfl

/-- In a run the checks on a key have the results of these calls alone, each with the connection
it found in the run. -/
theorem records_eq_answers {key : String} {s t : System} (h : s.view key = t.view key)
    (ops : List Op) :
    (s.records key ops).map CallRecord.result =
      answers System.attempt t (onKey key (metBy s.limiter.connected ops)) := by
  induction ops generalizing s t with
  | nil => rfl
  | cons op ops ih =>
    rw [System.records, List.map_append, metBy, onKey, List.filter_append]
    cases op with
    | ping outcome =>
      have hview : (s.apply (.ping outcome)).view key = t.view key :=
        (view_ping s outcome key).trans h
      have hrest := ih hview
      rw [System.apply, ping_connected] at hrest
      exact hrest
    | check bucketKey capacity refillRate call =>
      have hconnected : (s.apply (.check bucketKey capacity refillRate call)).limiter.connected =
          Op.connection s.limiter.connected (.check bucketKey capacity refillRate call) :=
        check_connected
      rw [← hconnected]
      by_cases hkey : bucketKey = key
      · subst hkey
        -- the call is answered alike in both states, and leaves them alike
        obtain ⟨hanswer, hafter⟩ := attempt_local.own s t
          ⟨bucketKey, capacity, refillRate, s.limiter.connected, false, call⟩ h
        rw [attempt_met] at hanswer hafter
        rw [System.record, if_pos rfl]
        simp only [Op.met, Option.toList_some, List.map_cons, List.map_nil, List.filter_cons,
          List.filter_nil, decide_true, if_true, List.singleton_append, answers]
        rw [← hanswer]
        exact congrArg _ (ih hafter)
      · have hframe : (s.apply (.check bucketKey capacity refillRate call)).view key =
            s.view key := check_view_of_ne (Ne.symm hkey)
        rw [System.record, if_neg hkey]
        simp only [Op.met, Option.toList_none, Option.toList_some, List.map_nil, List.filter_cons,
          List.filter_nil, hkey, decide_false, Bool.false_eq_true, if_false, List.nil_append]
        exact ih (hframe.trans h)

/-- The calls on a key are decided as if there were no others: in every interleaving of calls
with any outcomes, and in every run of checks and pings. Calls on different keys commute. -/
theorem buckets_independent (s : System) (key : String) :
    (∀ attempts : List Attempt, answersFor System.attempt Attempt.bucketKey key s attempts =
      answers System.attempt s (onKey key attempts)) ∧
    (∀ ops : List Op, (s.records key ops).map CallRecord.result =
      answers System.attempt s (onKey key (metBy s.limiter.connected ops))) ∧
    ∀ a b : Attempt, a.bucketKey ≠ b.bucketKey →
      ((s.attempt a).2.attempt b).1 = (s.attempt b).1 ∧
      ((s.attempt b).2.attempt a).1 = (s.attempt a).1 ∧
      ∀ k, ((s.attempt a).2.attempt b).2.view k = ((s.attempt b).2.attempt a).2.view k := by
  refine ⟨?_, ?_, ?_⟩
  · intro attempts
    exact attempt_local.answersFor_eq rfl attempts
  · intro ops
    exact records_eq_answers rfl ops
  · intro a b hkey
    exact attempt_local.commute hkey s

end Runs

open scoped Binary64 in
/-- One key takes the last token of its bucket; a call on the other is still allowed. -/
theorem buckets_independent_exhausted :
    let s : System := ⟨.fromConfig failOpenLimits true, ∅⟩
    let a : Attempt := ⟨"rl:api:ip:10.0.0.1", 1, .finite 1, true, false, callAt 0 .replied⟩
    let b : Attempt := ⟨"rl:api:ip:10.0.0.2", 1, .finite 1, true, false, callAt 0 .replied⟩
    ((s.attempt a).2.attempt a).1 = .ok ⟨false, 1, 0, 1000, .redis⟩ ∧
      ((s.attempt a).2.attempt b).1 = .ok ⟨true, 1, 0, 0, .redis⟩ := by
  intro s a b
  refine ⟨by decide +kernel, ?_⟩
  rw [((buckets_independent s "").2.2 a b (by decide)).1]
  decide +kernel

end RateLimit
end OpenApiGateway
