import EgressWatch.Proofs.Net.Chase
import Mathlib.Algebra.GroupWithZero.Nat

/-!
# Final responses

A fetch comes to a page if each of its requests is responded to, all headers have arrived before the
limit is reached, and the last response points nowhere else. `Arrives` says this of the requests and
of what the network gives for them (`replies`); it does not say how a fetch goes on from one request
to another.

> `Order.fetch_eq_ok_iff`: a fetch gives a page exactly if the requests that it sends arrive at it
> (`Order.ComesTo`).

The proof takes requests from the front, as they are sent: a single one arrives at its own response
(`arrives_singleton_iff`), and of several the first takes its time, and the others arrive or do not
(`arrives_cons_iff`). Following a redirect is the second case, and anything else that a response may
say is the first (`exists_follow_iff`, by induction on the redirects that may still be followed).

Nothing is said about the body, which begins when the headers have arrived.
-/

namespace EgressWatch.Net

/-- What the network gives for requests that are sent one after the other, after those in `sent`. -/
def replies (env : Environment) (sent : List Request) : List Request → List Reply
  | [] => []
  | q :: requests => env.network (q :: sent) :: replies env (q :: sent) requests

/-- Requests arrive at a page, when some time has passed before the first of them is sent. -/
structure Arrives (env : Environment) (sent : List Request) (passed limit : Time.Span)
    (requests : List Request) (page : Page) : Prop where
  last : requests.getLast?.map (·.url) = some page.url
  responses : ∃ rs : List Response, replies env sent requests = rs.map .response ∧
    rs.getLast? = some page.response ∧
    page.waited.nanoseconds = passed.nanoseconds + (rs.map (·.wait.nanoseconds)).sum
  inTime : page.waited.nanoseconds < limit.nanoseconds
  stays : redirect? page.url page.response = none

/-- An order comes to a page: the requests that are sent for it arrive there. -/
def Order.ComesTo (o : Order) (env : Environment) (trail : Trail) (page : Page) : Prop :=
  ∃ requests, (o.fetch env trail).2 = trail.sending requests ∧
    Arrives env trail.requests 0 o.limit requests page

section Arriving

variable {env : Environment} {sent requests : List Request} {passed limit : Time.Span}
  {page : Page} {q : Request}

theorem not_arrives_nil : ¬ Arrives env sent passed limit [] page := by
  intro h
  exact absurd h.last (by simp)

/-- A request that is not responded to arrives nowhere. -/
theorem Arrives.responded (h : Arrives env sent passed limit (q :: requests) page) :
    ∃ r, env.network (q :: sent) = .response r := by
  obtain ⟨rs, hreplies, -, -⟩ := h.responses
  cases rs with
  | nil => exact absurd hreplies (by simp [replies])
  | cons r rs => exact ⟨r, (List.cons.inj hreplies).1⟩

/-- A single request arrives at its own response, if that is in time and points nowhere else. -/
theorem arrives_singleton_iff {r : Response} (hreply : env.network (q :: sent) = .response r) :
    Arrives env sent passed limit [q] page ↔
      page = { url := q.url, response := r, waited := passed + r.wait } ∧
        ¬ limit ≤ passed + r.wait ∧ redirect? q.url r = none := by
  have hlate : ¬ limit ≤ passed + r.wait ↔
      passed.nanoseconds + r.wait.nanoseconds < limit.nanoseconds := Nat.not_le
  have hreplies : replies env sent [q] = [r].map .response := by simp [replies, hreply]
  constructor
  · intro h
    obtain ⟨rs, hrs, hlast, hwaited⟩ := h.responses
    obtain rfl : rs = [r] :=
      List.map_injective_iff.mpr (fun _ _ => Reply.response.inj) (hrs.symm.trans hreplies)
    have hurl : q.url = page.url := by simpa using h.last
    have hresponse : r = page.response := by simpa using hlast
    have hspan : page.waited = passed + r.wait := by
      have hsum : page.waited.nanoseconds = passed.nanoseconds + r.wait.nanoseconds := by
        simpa using hwaited
      exact congrArg Time.Span.mk hsum
    refine ⟨?_, ?_, ?_⟩
    · rw [← hspan, hurl, hresponse]
    · rw [← hspan]
      exact Nat.not_le.mpr h.inTime
    · rw [hurl, hresponse]
      exact h.stays
  · rintro ⟨rfl, htime, hstays⟩
    exact ⟨rfl, ⟨[r], hreplies, rfl, by simp; rfl⟩, hlate.mp htime, hstays⟩

/-- Of several requests the first takes its time, and the others arrive or do not. -/
theorem arrives_cons_iff {r : Response} {q' : Request}
    (hreply : env.network (q :: sent) = .response r) :
    Arrives env sent passed limit (q :: q' :: requests) page ↔
      Arrives env (q :: sent) (passed + r.wait) limit (q' :: requests) page := by
  have hpassed : (passed + r.wait).nanoseconds = passed.nanoseconds + r.wait.nanoseconds := rfl
  constructor
  · intro h
    obtain ⟨rs, hrs, hlast, hwaited⟩ := h.responses
    obtain ⟨r', rs, rfl⟩ : ∃ r' rest, rs = r' :: rest := by
      cases rs with
      | nil => exact absurd hrs (by simp [replies])
      | cons r' rest => exact ⟨r', rest, rfl⟩
    obtain ⟨hfirst, hrest⟩ := List.cons.inj hrs
    obtain rfl : r = r' := Reply.response.inj (hreply.symm.trans hfirst)
    have hne : rs ≠ [] := by
      rintro rfl
      exact absurd hrest (by simp [replies])
    refine ⟨by simpa using h.last, ⟨rs, hrest, ?_, ?_⟩, h.inTime, h.stays⟩
    · rw [← hlast, List.getLast?_cons_of_ne_nil hne]
    · rw [hwaited, hpassed, List.map_cons, List.sum_cons, Nat.add_assoc]
  · intro h
    obtain ⟨rs, hrs, hlast, hwaited⟩ := h.responses
    have hne : rs ≠ [] := by
      rintro rfl
      exact absurd hlast (by simp)
    refine ⟨by simpa using h.last, ⟨r :: rs, ?_, ?_, ?_⟩, h.inTime, h.stays⟩
    · rw [replies, hreply, hrs, List.map_cons]
    · rw [← hlast, List.getLast?_cons_of_ne_nil hne]
    · rw [hwaited, hpassed, List.map_cons, List.sum_cons, Nat.add_assoc]

end Arriving

/-! ## Fetches -/

section Fetching

variable (env : Environment)

theorem exists_follow_iff (route : Route) (limit : Time.Span) (left hops : Nat) (url : Url)
    (authorization : List String) (waited : Time.Span) (trail : Trail) :
    let first : Request := { route, url, authorization, hops }
    ∃ rest, (follow route limit left hops url authorization waited env trail).2 =
        trail.sending (first :: rest) ∧
      ∀ page, (follow route limit left hops url authorization waited env trail).1 = .ok page ↔
        Arrives env trail.requests waited limit (first :: rest) page := by
  intro first
  -- on how many redirects are left, whatever has led here
  induction left using Nat.strongRecOn generalizing hops url authorization waited trail with
  | ind left ih =>
    unfold follow
    rw [Action.run_bind]
    cases hreply : env.network (first :: trail.requests) with
    | lost wait =>
      refine ⟨[], by simp [exchange, hreply, first, Trail.sending], fun page => ?_⟩
      constructor
      · intro h
        exact absurd h (by simp [exchange, hreply, first])
      · intro h
        obtain ⟨r, hr⟩ := h.responded
        exact absurd (hreply.symm.trans hr) (by simp)
    | response r =>
      simp only [exchange, hreply, first]
      -- the response ends the fetch with a fault
      have hends : ∀ fault : FetchFault, ¬ (¬ limit ≤ waited + r.wait ∧ redirect? url r = none) →
          ∃ rest, ({ trail with requests := first :: trail.requests } : Trail) =
              trail.sending (first :: rest) ∧
            ∀ page, Except.error fault = Except.ok page ↔
              Arrives env trail.requests waited limit (first :: rest) page := by
        intro fault hnot
        refine ⟨[], rfl, fun page => ⟨fun h => absurd h (by simp), fun h => ?_⟩⟩
        exact absurd ((arrives_singleton_iff hreply).mp h).2 hnot
      split
      next hlate => exact hends _ fun h => h.1 hlate
      next hlate =>
        cases hnext : redirect? url r with
        | none =>
          refine ⟨[], rfl, fun page => ?_⟩
          rw [arrives_singleton_iff hreply]
          constructor
          · intro h
            exact ⟨(Except.ok.inj h).symm, hlate, hnext⟩
          · rintro ⟨rfl, -, -⟩
            rfl
        | some target =>
          have hpoints : redirect? url r ≠ none := by simp [hnext]
          cases left with
          | zero => exact hends _ fun h => hpoints h.2
          | succ left =>
            dsimp only
            split
            next => exact hends _ fun h => hpoints h.2
            next =>
              obtain ⟨rest, htrail, hiff⟩ := ih left (Nat.lt_succ_self left) (hops + 1)
                target (if url.samePlace target then authorization else []) (waited + r.wait)
                { trail with requests := first :: trail.requests }
              refine ⟨_ :: rest, htrail.trans (Trail.sending_cons trail _ _).symm, fun page => ?_⟩
              exact (hiff page).trans (arrives_cons_iff hreply).symm

theorem Trail.sending_inj {trail : Trail} {requests requests' : List Request}
    (h : trail.sending requests = trail.sending requests') : requests = requests' := by
  have hsent : requests.reverse ++ trail.requests = requests'.reverse ++ trail.requests :=
    congrArg Trail.requests h
  exact List.reverse_inj.mp (List.append_cancel_right hsent)

/-- A fetch gives a page exactly if its requests arrive at it. -/
theorem Order.fetch_eq_ok_iff (o : Order) (trail : Trail) (page : Page) :
    (o.fetch env trail).1 = .ok page ↔ o.ComesTo env trail page := by
  have hsent : ∃ requests, (o.fetch env trail).2 = trail.sending requests ∧
      ((o.fetch env trail).1 = .ok page ↔
        Arrives env trail.requests 0 o.limit requests page) := by
    unfold Order.fetch Net.fetch
    cases prepare o.address o.token with
    | error fault => exact ⟨[], rfl, nofun, fun h => absurd h not_arrives_nil⟩
    | ok prepared =>
      obtain ⟨rest, htrail, hiff⟩ := exists_follow_iff env o.route o.limit maxRedirects 0
        prepared.1 prepared.2 0 trail
      exact ⟨_ :: rest, htrail, hiff page⟩
  obtain ⟨requests, htrail, hiff⟩ := hsent
  rw [hiff]
  constructor
  · intro h
    exact ⟨requests, htrail, h⟩
  · rintro ⟨requests', htrail', h⟩
    obtain rfl := Trail.sending_inj (htrail.symm.trans htrail')
    exact h

/-- The headers of a page arrive before the limit is reached. -/
theorem Order.ComesTo.inTime {env : Environment} {o : Order} {trail : Trail} {page : Page}
    (h : o.ComesTo env trail page) : page.waited.nanoseconds < o.limit.nanoseconds := by
  obtain ⟨requests, -, harrives⟩ := h
  exact harrives.inTime

end Fetching

end EgressWatch.Net
