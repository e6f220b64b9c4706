import EgressWatch.Proofs.Net.Action
import Mathlib.Data.List.Chain

/-!
# The requests of a fetch

A fetch sends one request for the address that it was given and one more for each redirect that it
follows, each where the response to the one before it has pointed. An `Order` is all that a fetch is
told, and `IsChase` says which requests it sends for it:

> `Order.isChase_fetch`: the first request is what the address and the token make, if they can be
> used, and each further one follows up the one before it (`FollowsUp`).

The induction is on the redirects that may still be followed (`exists_chain_follow`). Nothing is
said there of what a fetch gives, which is for the module on final responses.

A chain is enough to know what all requests have in common: they take the route of the first, and
the credentials that one of them shows are those of the first or none, as what has been left out on
the way to another place does not come back (`of_chain`). The first shows those that its address is
written with, and the token (`authorization_prepare`); `IsChase.route_authorization` has it for all.
-/

namespace EgressWatch.Net

/-- What is to be fetched. -/
structure Order where
  route : Route
  address : String
  token : Option String := none
  limit : Time.Span

/-- Fetches it. -/
def Order.fetch (o : Order) : Action (Except FetchFault Page) :=
  Net.fetch o.route o.address o.token o.limit

/-- One request follows up another, whose response has redirected it. -/
structure FollowsUp (env : Environment) (q q' : Request) : Prop where
  route : q'.route = q.route
  hops : q'.hops = q.hops + 1
  redirected : ∃ r, Gives env (.response r) ∧ redirect? q.url r = some q'.url
  authorization : q'.authorization = if q.url.samePlace q'.url then q.authorization else []

/-- The requests of a fetch, in order. There are none if the address or the token cannot be used. -/
structure IsChase (env : Environment) (o : Order) (requests : List Request) : Prop where
  first : requests.head? = (prepare o.address o.token).toOption.map fun prepared =>
    { route := o.route, url := prepared.1, authorization := prepared.2 }
  next : requests.IsChain (FollowsUp env)

/-- The trail after some more requests. -/
def Trail.sending (trail : Trail) (requests : List Request) : Trail :=
  { trail with requests := requests.reverse ++ trail.requests }

theorem Trail.sending_cons (trail : Trail) (q : Request) (requests : List Request) :
    trail.sending (q :: requests) =
      ({ trail with requests := q :: trail.requests } : Trail).sending requests := by
  simp [sending]

section Fetching

variable (env : Environment)

theorem exists_chain_follow (route : Route) (limit : Time.Span) (left hops : Nat) (url : Url)
    (authorization : List String) (waited : Time.Span) (trail : Trail) :
    let first : Request := { route, url, authorization, hops }
    ∃ rest, (follow route limit left hops url authorization waited env trail).2 =
      trail.sending (first :: rest) ∧ (first :: rest).IsChain (FollowsUp env) := by
  intro first
  -- on how many redirects are left, whatever has led here
  induction left using Nat.strongRecOn generalizing hops url authorization waited trail with
  | ind left ih =>
    have hends : ∃ rest, ({ trail with requests := first :: trail.requests } : Trail) =
        trail.sending (first :: rest) ∧ (first :: rest).IsChain (FollowsUp env) :=
      ⟨[], rfl, .singleton _⟩
    unfold follow
    rw [Action.run_bind]
    cases hreply : env.network (first :: trail.requests) with
    | lost wait => simpa [exchange, hreply, first] using hends
    | response r =>
      simp only [exchange, hreply, first]
      split
      next => exact hends
      next =>
        cases hnext : redirect? url r with
        | none => exact hends
        | some target =>
          cases left with
          | zero => exact hends
          | succ left =>
            dsimp only
            split
            next => exact hends
            next =>
              obtain ⟨rest, htrail, hchain⟩ := ih left (Nat.lt_succ_self left) (hops + 1)
                target (if url.samePlace target then authorization else []) (waited + r.wait)
                { trail with requests := first :: trail.requests }
              refine ⟨_ :: rest, ?_, List.isChain_cons_cons.mpr ⟨?_, hchain⟩⟩
              · rw [htrail, ← Trail.sending_cons]
              · exact ⟨rfl, rfl, ⟨r, ⟨_, hreply⟩, hnext⟩, rfl⟩

/-- A fetch sends its requests and does nothing else. -/
theorem Order.isChase_fetch (o : Order) (trail : Trail) :
    ∃ requests, (o.fetch env trail).2 = trail.sending requests ∧ IsChase env o requests := by
  unfold Order.fetch Net.fetch
  cases hprepare : prepare o.address o.token with
  | error fault => exact ⟨[], rfl, by rw [hprepare]; rfl, .nil⟩
  | ok prepared =>
    obtain ⟨rest, htrail, hchain⟩ := exists_chain_follow env o.route o.limit maxRedirects
      0 prepared.1 prepared.2 0 trail
    exact ⟨_ :: rest, htrail, by rw [hprepare]; rfl, hchain⟩

end Fetching

/-! ## Routes and credentials -/

/-- The credentials that an address is written with. -/
def ownCredentials (address : String) : List String :=
  (((Url.read address).toOption.bind Url.user?).map basicCredentials).toList

/-- A request shows the credentials that its address is written with, and the token. -/
theorem authorization_prepare {address : String} {token : Option String} {url : Url}
    {authorization : List String} (h : prepare address token = .ok (url, authorization)) :
    authorization = ownCredentials address ++ (token.map bearerCredentials).toList := by
  unfold prepare at h
  cases hread : Url.read address with
  | error fault => simp [hread] at h
  | ok given =>
    simp only [hread] at h
    split at h
    next => exact absurd h nofun
    next =>
      split at h
      next => exact absurd h nofun
      next =>
        have hshown : ownCredentials address = (given.user?.map basicCredentials).toList := by
          rw [ownCredentials, hread]
          rfl
        rw [hshown]
        generalize (if given.user?.isSome then given.withoutUser else given) = asked at h
        split at h
        next => exact (Prod.mk.inj (Except.ok.inj h)).2.symm
        next => exact absurd h nofun

namespace IsChase

variable {env : Environment} {o : Order} {requests : List Request}

/-- What a redirect does not change, and what it may change only by leaving it out. -/
theorem of_chain {q : Request} {rest : List Request}
    (h : (q :: rest).IsChain (FollowsUp env)) : ∀ q' ∈ q :: rest,
      q'.route = q.route ∧ (q'.authorization = q.authorization ∨ q'.authorization = []) := by
  -- on the redirects, from whichever request the rest of them starts
  induction rest generalizing q with
  | nil => simp
  | cons next rest ih =>
    obtain ⟨hnext, hrest⟩ := List.isChain_cons_cons.mp h
    intro q' hq'
    rcases List.mem_cons.mp hq' with rfl | hq'
    · exact ⟨rfl, .inl rfl⟩
    · obtain ⟨hroute, hauthorization⟩ := ih hrest q' hq'
      refine ⟨hroute.trans hnext.route, ?_⟩
      rcases hauthorization with hsame | hnone
      · rw [hsame, hnext.authorization]
        split
        next => exact .inl rfl
        next => exact .inr rfl
      · exact .inr hnone

/-- All requests of a fetch take its route, and each shows the credentials that the address is
written with and the token, or none. -/
theorem route_authorization (h : IsChase env o requests) : ∀ q ∈ requests, q.route = o.route ∧
    (q.authorization = ownCredentials o.address ++ (o.token.map bearerCredentials).toList ∨
      q.authorization = []) := by
  cases hprepare : prepare o.address o.token with
  | error fault =>
    have hnone : requests.head? = none := by
      rw [h.first, hprepare]
      rfl
    rw [List.head?_eq_none_iff.mp hnone]
    simp
  | ok prepared =>
    have hsome : requests.head? =
        some { route := o.route, url := prepared.1, authorization := prepared.2 } := by
      rw [h.first, hprepare]
      rfl
    obtain ⟨rest, rfl⟩ := List.head?_eq_some_iff.mp hsome
    have hshown : prepared.2 = _ := authorization_prepare hprepare
    intro q hq
    obtain ⟨hroute, hauthorization⟩ := of_chain h.next q hq
    exact ⟨hroute, hshown ▸ hauthorization⟩

end IsChase

end EgressWatch.Net
