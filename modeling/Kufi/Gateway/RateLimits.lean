import Kufi.Gateway.Requests
import Kufi.Shared.SlidingWindow
import Kufi.Shared.Time
import Mathlib.Algebra.Order.Group.Int
import Mathlib.Data.List.Induction

set_option autoImplicit false

/-!
# Rate limits

The limiter keeps a list of times for every client address and holds a lock
while it decides, so requests are decided one after another.
-/

namespace Kufi.Gateway

open Shared SlidingWindow

structure RateLimiter where
  requests : Dict String (List Time)
  limit : Int
  window : Duration

def newRateLimiter (limit : Int) (window : Duration) : RateLimiter := ⟨∅, limit, window⟩

/-- A request, with the clock at the decision and at the reply to it. -/
structure Arrival where
  clientIP : String
  now : Time
  repliedAt : Time

def rateLimited (repliedAt : Time) : Reply :=
  .failure 429 ⟨"RATE_LIMITED", "Too many requests", ""⟩ repliedAt.unixMilli

namespace RateLimiter

def times (rl : RateLimiter) (clientIP : String) : List Time :=
  (rl.requests.get clientIP).getD []

/-- `RateLimitMiddleware`: a request that gets no reply is handed on. -/
def handle (rl : RateLimiter) (arrival : Arrival) : Option Reply × RateLimiter :=
  let cutoff := arrival.now - rl.window
  let validRequests := (rl.times arrival.clientIP).filter fun t => cutoff < t
  if rl.limit ≤ validRequests.length then (some (rateLimited arrival.repliedAt), rl)
  else
    (none, { rl with
      requests := rl.requests.set arrival.clientIP (validRequests ++ [arrival.now]) })

end RateLimiter

structure Verdict where
  arrival : Arrival
  reply : Option Reply

def Verdict.admitted (verdict : Verdict) : Bool := verdict.reply.isNone

namespace RateLimiter

def verdicts (rl : RateLimiter) : List Arrival → List Verdict
  | [] => []
  | arrival :: rest =>
    ⟨arrival, (rl.handle arrival).1⟩ :: (rl.handle arrival).2.verdicts rest

def after (rl : RateLimiter) (arrivals : List Arrival) : RateLimiter :=
  arrivals.foldl (fun rl arrival => (rl.handle arrival).2) rl

end RateLimiter

def admittedTimes (clientIP : String) (verdicts : List Verdict) : List Time :=
  (verdicts.filter fun verdict => verdict.admitted ∧ verdict.arrival.clientIP = clientIP).map
    fun verdict => verdict.arrival.now

/-- The limit of a sliding window, met by every address on its own. -/
structure LimitsExactly (limit : Int) (window : Duration) (arrivals : List Arrival)
    (verdicts : List Verdict) : Prop where
  bounded : ∀ clientIP last,
    ((SlidingWindow.inWindow window last (admittedTimes clientIP verdicts)).length : Int) ≤ limit
  rejected : ∀ before verdict rest, verdicts = before ++ verdict :: rest →
    verdict.admitted = false →
      ((SlidingWindow.inWindow window verdict.arrival.now
        (admittedTimes verdict.arrival.clientIP before)).length : Int) = limit
  apart : ∀ clientIP, (newRateLimiter limit window).verdicts
      (arrivals.filter fun arrival => arrival.clientIP = clientIP) =
    verdicts.filter fun verdict => verdict.arrival.clientIP = clientIP

/-! ## One request -/

section

variable {rl : RateLimiter} {arrival : Arrival}

theorem handle_full (full : rl.limit ≤
      (recent rl.window arrival.now (rl.times arrival.clientIP)).length) :
    rl.handle arrival = (some (rateLimited arrival.repliedAt), rl) :=
  if_pos full

theorem handle_room (room : ((recent rl.window arrival.now
      (rl.times arrival.clientIP)).length : Int) < rl.limit) :
    rl.handle arrival = (none, { rl with
      requests := rl.requests.set arrival.clientIP
        (recent rl.window arrival.now (rl.times arrival.clientIP) ++ [arrival.now]) }) :=
  if_neg (Int.not_le.mpr room)

theorem handle_limit : (rl.handle arrival).2.limit = rl.limit := by
  unfold RateLimiter.handle
  dsimp only
  split <;> rfl

theorem handle_window : (rl.handle arrival).2.window = rl.window := by
  unfold RateLimiter.handle
  dsimp only
  split <;> rfl

theorem times_set (rl : RateLimiter) (clientIP other : String) (times : List Time) :
    RateLimiter.times { rl with requests := rl.requests.set clientIP times } other =
      if other = clientIP then times else rl.times other := by
  unfold RateLimiter.times
  rw [Dict.get_set]
  split <;> rfl

/-- The decision is made with the times of the address alone. -/
theorem handle_congr {other : RateLimiter} (sameLimit : other.limit = rl.limit)
    (sameWindow : other.window = rl.window)
    (sameTimes : other.times arrival.clientIP = rl.times arrival.clientIP) :
    (other.handle arrival).1 = (rl.handle arrival).1 ∧
      (other.handle arrival).2.times arrival.clientIP =
        (rl.handle arrival).2.times arrival.clientIP := by
  by_cases full : rl.limit ≤ (recent rl.window arrival.now (rl.times arrival.clientIP)).length
  · have full' : other.limit ≤
        (recent other.window arrival.now (other.times arrival.clientIP)).length := by
      rwa [sameLimit, sameWindow, sameTimes]
    rw [handle_full full, handle_full full']
    exact ⟨rfl, sameTimes⟩
  · have room := Int.not_le.mp full
    have room' : ((recent other.window arrival.now
        (other.times arrival.clientIP)).length : Int) < other.limit := by
      rwa [sameLimit, sameWindow, sameTimes]
    rw [handle_room room, handle_room room', times_set, times_set, if_pos rfl, if_pos rfl,
      sameWindow, sameTimes]
    exact ⟨rfl, rfl⟩

/-- A request of another address leaves the times of an address. -/
theorem handle_times_other {clientIP : String} (other : clientIP ≠ arrival.clientIP) :
    (rl.handle arrival).2.times clientIP = rl.times clientIP := by
  by_cases full : rl.limit ≤ (recent rl.window arrival.now (rl.times arrival.clientIP)).length
  · rw [handle_full full]
  · rw [handle_room (Int.not_le.mp full), times_set, if_neg other]

end

/-! ## All requests -/

theorem admittedTimes_snoc (clientIP : String) (verdicts : List Verdict) (verdict : Verdict) :
    admittedTimes clientIP (verdicts ++ [verdict]) = admittedTimes clientIP verdicts ++
      if verdict.admitted ∧ verdict.arrival.clientIP = clientIP then [verdict.arrival.now]
      else [] := by
  unfold admittedTimes
  rw [List.filter_append, List.map_append, List.filter_singleton]
  split_ifs with own <;> simp [own]

/-- What the limiter keeps, against all its verdicts up to `now`. -/
structure Follows (limit : Int) (window : Duration) (now : Time) (rl : RateLimiter)
    (verdicts : List Verdict) : Prop where
  sameLimit : rl.limit = limit
  sameWindow : rl.window = window
  tracks : ∀ clientIP, Tracks limit window now (rl.times clientIP) (admittedTimes clientIP verdicts)

section

variable {limit : Int} {window : Duration} {now : Time} {rl : RateLimiter}
  {verdicts : List Verdict} {arrival : Arrival}

theorem Follows.handle (follows : Follows limit window now rl verdicts)
    (order : now ≤ arrival.now) :
    Follows limit window arrival.now (rl.handle arrival).2
      (verdicts ++ [⟨arrival, (rl.handle arrival).1⟩]) := by
  obtain ⟨rfl, rfl, tracks⟩ := follows
  refine ⟨handle_limit, handle_window, fun clientIP => ?_⟩
  have before := (tracks clientIP).advance order
  rw [admittedTimes_snoc]
  by_cases full : rl.limit ≤ (recent rl.window arrival.now (rl.times arrival.clientIP)).length
  · rw [handle_full full]
    simpa [Verdict.admitted] using before
  · have room := Int.not_le.mp full
    rw [handle_room room, times_set]
    by_cases own : clientIP = arrival.clientIP
    · subst own
      simpa [Verdict.admitted] using before.admit room
    · simpa [Verdict.admitted, own, Ne.symm own] using before

/-- A request is rejected when its address has used up its window. -/
theorem Follows.rejected (follows : Follows limit window now rl verdicts)
    (order : now ≤ arrival.now) (refused : (rl.handle arrival).1.isNone = false) :
    ((SlidingWindow.inWindow window arrival.now
      (admittedTimes arrival.clientIP verdicts)).length : Int) = limit := by
  obtain ⟨rfl, rfl, tracks⟩ := follows
  refine ((tracks arrival.clientIP).advance order).full ?_
  by_contra room
  rw [handle_room (Int.not_le.mp room)] at refused
  cases refused

end

section

variable {limit : Int} {window : Duration} {rl : RateLimiter} {arrivals : List Arrival}

theorem after_snoc (rl : RateLimiter) (arrivals : List Arrival) (arrival : Arrival) :
    rl.after (arrivals ++ [arrival]) = ((rl.after arrivals).handle arrival).2 := by
  simp [RateLimiter.after]

theorem verdicts_append (rl : RateLimiter) (first rest : List Arrival) :
    rl.verdicts (first ++ rest) = rl.verdicts first ++ (rl.after first).verdicts rest := by
  induction first generalizing rl with
  | nil => rfl
  | cons arrival first ih =>
    simp only [List.cons_append, RateLimiter.verdicts, ih]
    rfl

/-- A verdict is the one on the request at its place. -/
theorem verdicts_split {before rest : List Verdict} {verdict : Verdict}
    (parts : rl.verdicts arrivals = before ++ verdict :: rest) :
    ∃ first arrival later, arrivals = first ++ arrival :: later ∧ before = rl.verdicts first ∧
      verdict = ⟨arrival, ((rl.after first).handle arrival).1⟩ := by
  induction before generalizing rl arrivals with
  | nil =>
    cases arrivals with
    | nil => cases parts
    | cons arrival later =>
      obtain ⟨rfl, -⟩ := List.cons.inj parts
      exact ⟨[], arrival, later, rfl, rfl, rfl⟩
  | cons verdict' before ih =>
    cases arrivals with
    | nil => cases parts
    | cons arrival later =>
      obtain ⟨rfl, tail⟩ := List.cons.inj parts
      obtain ⟨first, arrival', later', rfl, rfl, rfl⟩ := ih tail
      exact ⟨arrival :: first, arrival', later', rfl, rfl, rfl⟩

theorem exists_latest
    (ordered : arrivals.Pairwise fun first second => first.now ≤ second.now) :
    ∃ now : Time, ∀ arrival ∈ arrivals, arrival.now ≤ now := by
  rcases List.eq_nil_or_concat arrivals with rfl | ⟨init, last, rfl⟩
  · exact ⟨0, fun _ listed => absurd listed List.not_mem_nil⟩
  · rw [List.concat_eq_append] at ordered ⊢
    refine ⟨last.now, fun arrival listed => ?_⟩
    rcases List.mem_append.mp listed with before | own
    · exact (List.pairwise_append.mp ordered).2.2 arrival before last (by simp)
    · rw [List.mem_singleton.mp own]

/-- The times kept follow the verdicts over requests that come in the order of time. -/
theorem follows_verdicts (least : 0 ≤ limit)
    (ordered : arrivals.Pairwise fun first second => first.now ≤ second.now) {now : Time}
    (past : ∀ arrival ∈ arrivals, arrival.now ≤ now) :
    Follows limit window now ((newRateLimiter limit window).after arrivals)
      ((newRateLimiter limit window).verdicts arrivals) := by
  induction arrivals using List.reverseRecOn generalizing now with
  | nil => exact ⟨rfl, rfl, fun _ => .initial least⟩
  | append_singleton arrivals arrival ih =>
    obtain ⟨ordered', -, last⟩ := List.pairwise_append.mp ordered
    have before := ih ordered' fun other listed => last other listed arrival (by simp)
    obtain ⟨limit', window', tracks⟩ := before.handle (le_refl arrival.now)
    rw [after_snoc, verdicts_append]
    exact ⟨limit', window', fun clientIP => (tracks clientIP).advance (past arrival (by simp))⟩

/-- The requests of one address get the verdicts that they get without the others. -/
theorem verdicts_filter {other : RateLimiter} {clientIP : String}
    (sameLimit : other.limit = rl.limit) (sameWindow : other.window = rl.window)
    (sameTimes : other.times clientIP = rl.times clientIP) :
    other.verdicts (arrivals.filter fun arrival => arrival.clientIP = clientIP) =
      (rl.verdicts arrivals).filter fun verdict => verdict.arrival.clientIP = clientIP := by
  induction arrivals generalizing rl other with
  | nil => rfl
  | cons arrival rest ih =>
    by_cases own : arrival.clientIP = clientIP
    · subst own
      obtain ⟨reply, times⟩ := handle_congr sameLimit sameWindow sameTimes
      have later := ih (handle_limit.trans (sameLimit.trans handle_limit.symm))
        (handle_window.trans (sameWindow.trans handle_window.symm)) times
      rw [List.filter_cons_of_pos (by simp)]
      simp only [RateLimiter.verdicts]
      rw [List.filter_cons_of_pos (by simp), reply, later]
    · rw [List.filter_cons_of_neg (by simpa using own)]
      simp only [RateLimiter.verdicts]
      rw [List.filter_cons_of_neg (by simpa using own)]
      refine ih (sameLimit.trans handle_limit.symm) (sameWindow.trans handle_window.symm) ?_
      rw [handle_times_other (Ne.symm own), sameTimes]

end

/-- Whatever the requests, in the order of time: every window holds `limit` admitted requests of
an address at most, a request is rejected only over a full window of its address, and the
addresses do not meet. -/
theorem limits_exactly {limit : Int} (window : Duration) (least : 0 ≤ limit)
    {arrivals : List Arrival}
    (ordered : arrivals.Pairwise fun first second => first.now ≤ second.now) :
    LimitsExactly limit window arrivals ((newRateLimiter limit window).verdicts arrivals) where
  bounded clientIP last := by
    obtain ⟨now, past⟩ := exists_latest ordered
    exact ((follows_verdicts least ordered past).tracks clientIP).bounded last
  rejected before verdict rest parts refused := by
    obtain ⟨first, arrival, later, rfl, rfl, rfl⟩ := verdicts_split parts
    obtain ⟨ordered', -, last⟩ := List.pairwise_append.mp ordered
    have before : Follows limit window arrival.now ((newRateLimiter limit window).after first)
        ((newRateLimiter limit window).verdicts first) :=
      follows_verdicts least ordered' fun other listed =>
        last other listed arrival List.mem_cons_self
    exact before.rejected le_rfl refused
  apart clientIP := verdicts_filter rfl rfl rfl

-- The third request of one address waits for the first to fall out; the other address does not.
theorem limits_exactly_minute :
    LimitsExactly 2 60 [⟨"a", 0, 0⟩, ⟨"a", 30, 30⟩, ⟨"b", 30, 30⟩, ⟨"a", 59, 59⟩, ⟨"a", 60, 60⟩]
      ((newRateLimiter 2 60).verdicts
        [⟨"a", 0, 0⟩, ⟨"a", 30, 30⟩, ⟨"b", 30, 30⟩, ⟨"a", 59, 59⟩, ⟨"a", 60, 60⟩]) :=
  limits_exactly 60 (by decide) (by simp)

example : ((newRateLimiter 2 60).verdicts
    [⟨"a", 0, 0⟩, ⟨"a", 30, 30⟩, ⟨"b", 30, 30⟩, ⟨"a", 59, 59⟩, ⟨"a", 60, 60⟩]).map
      Verdict.admitted = [true, true, true, false, true] := by
  decide

end Kufi.Gateway
