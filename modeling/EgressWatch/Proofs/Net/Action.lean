import EgressWatch.Net.Fetch

/-!
# What actions give and leave behind

One action after another starts from the trail that the first has left (`run_bind`). An action that
sends requests and looks at no clock leaves the readings of the clock alone, and so do all that are
made of such (`Timeless.bind`); among them is every fetch, however many redirects it follows
(`timeless_fetch`). That is why a probe bears one reading of the clock, however long its network
takes.

`Sends` says the same of an action and adds a property of what it gives, which may not depend on
what was sent before. The property that matters is where a page comes from: what is fetched is a
response that the network gives (`IsGiven`, `sends_fetch`), through all redirects by induction on
those that are left (`sends_follow`).

A body that can be read as text is all of it, since it is read to its end before it is looked at
(`chunks_of_whole`, `Page.text_eq_ok`).
-/

namespace EgressWatch

/-- An outcome that gives something is good. -/
theorem eq_ok_of_toOption {ε α : Type} {x : Except ε α} {a : α} (h : x.toOption = some a) :
    x = .ok a := by
  cases x with
  | error e => exact absurd h (by simp [Except.toOption])
  | ok b => rw [Option.some.inj h]

end EgressWatch

namespace EgressWatch.Net

variable {α β : Type}

namespace Action

@[simp] theorem run_pure (a : α) (env : Environment) (trail : Trail) :
    (pure a : Action α) env trail = (a, trail) := rfl

@[simp] theorem run_bind (x : Action α) (f : α → Action β) (env : Environment) (trail : Trail) :
    (x >>= f) env trail = f (x env trail).1 env (x env trail).2 := rfl

end Action

/-- The action does not read the clock. -/
def Timeless (x : Action α) : Prop :=
  ∀ env trail, (x env trail).2.readings = trail.readings

theorem Timeless.pure (a : α) : Timeless (Pure.pure a : Action α) := fun _ _ => rfl

theorem Timeless.bind {x : Action α} {f : α → Action β} (hx : Timeless x)
    (hf : ∀ a, Timeless (f a)) : Timeless (x >>= f) := by
  intro env trail
  rw [Action.run_bind, hf, hx]

/-! ## Fetches -/

section Sends

variable {env : Environment} {P : α → Prop} {Q : β → Prop}

/-- The action does not read the clock, and whatever was done before, what it gives has a
property. -/
def Sends (env : Environment) (x : Action α) (P : α → Prop) : Prop :=
  ∀ trail, (x env trail).2.readings = trail.readings ∧ P (x env trail).1

theorem Sends.pure {a : α} (h : P a) : Sends env (Pure.pure a : Action α) P :=
  fun _ => ⟨rfl, h⟩

theorem Sends.bind {x : Action α} {f : α → Action β} (hx : Sends env x P)
    (hf : ∀ a, P a → Sends env (f a) Q) : Sends env (x >>= f) Q := by
  intro trail
  obtain ⟨htime, hgives⟩ := hx trail
  rw [Action.run_bind, ← htime]
  exact hf _ hgives _

/-- The network gives a reply to some of the requests that may be sent to it. -/
def Gives (env : Environment) (reply : Reply) : Prop := ∃ requests, env.network requests = reply

/-- A page, if there is one, has a response that the network gives. -/
def IsGiven (env : Environment) (outcome : Except FetchFault Page) : Prop :=
  ∀ page, outcome = .ok page → Gives env (.response page.response)

theorem isGiven_error (fault : FetchFault) : IsGiven env (.error fault) := by
  rintro page ⟨⟩

theorem sends_exchange (r : Request) : Sends env (exchange r) (Gives env) :=
  fun _ => ⟨rfl, _, rfl⟩

theorem sends_follow (route : Route) (limit : Time.Span) (left hops : Nat) (url : Url)
    (authorization : List String) (waited : Time.Span) :
    Sends env (follow route limit left hops url authorization waited) (IsGiven env) := by
  -- on how many redirects are left, whatever has led here
  induction left using Nat.strongRecOn generalizing hops url authorization waited with
  | ind left ih =>
    unfold follow
    refine .bind (sends_exchange _) fun reply hreply => ?_
    cases reply with
    | lost wait => exact .pure (isGiven_error _)
    | response r =>
      dsimp only
      split
      next => exact .pure (isGiven_error _)
      next =>
        split
        next => exact .pure (by rintro page ⟨⟩; exact hreply)
        next =>
          cases left with
          | zero => exact .pure (isGiven_error _)
          | succ left =>
            dsimp only
            split
            next => exact .pure (isGiven_error _)
            next => exact ih left (Nat.lt_succ_self left) _ _ _ _

theorem sends_fetch (route : Route) (address : String) (token : Option String)
    (limit : Time.Span) : Sends env (fetch route address token limit) (IsGiven env) := by
  unfold fetch
  split
  next => exact .pure (isGiven_error _)
  next => exact sends_follow _ _ _ _ _ _ _

end Sends

/-- A fetch takes as long as it takes, but nobody looks at the clock. -/
theorem timeless_fetch (route : Route) (address : String) (token : Option String)
    (limit : Time.Span) : Timeless (fetch route address token limit) :=
  fun _ trail => (sends_fetch route address token limit trail).1

/-! ## Bodies -/

/-- A body that arrives as a whole is all that was sent. -/
theorem chunks_of_whole {left elapsed : Time.Span} {complete : Bool} {cs : List Chunk}
    (h : (arriving left elapsed complete cs).whole = true) :
    (arriving left elapsed complete cs).chunks = cs.map (·.bytes) := by
  induction cs generalizing elapsed with
  | nil => rfl
  | cons c cs ih =>
    unfold arriving at h ⊢
    dsimp only at h ⊢
    split at h
    next => exact absurd h (by simp)
    next hlate =>
      rw [if_neg hlate]
      exact congrArg (c.bytes :: ·) (ih h)

/-- The text of a response whose body arrives in time. -/
def Response.text (r : Response) : String :=
  bodyText (r.header? "content-type") (r.chunks.map (·.bytes)).flatten

theorem Page.text_eq_ok {p : Page} {limit : Time.Span} {text : String}
    (h : p.text limit = .ok text) : text = p.response.text := by
  unfold Page.text Page.bytes at h
  dsimp only at h
  cases hwhole : (p.body limit).whole with
  | false => simp [hwhole, Except.map] at h
  | true =>
    have hchunks : (p.body limit).chunks = p.response.chunks.map (·.bytes) := chunks_of_whole hwhole
    rw [Response.text, ← hchunks]
    simpa [hwhole, Except.map] using h.symm

end EgressWatch.Net
