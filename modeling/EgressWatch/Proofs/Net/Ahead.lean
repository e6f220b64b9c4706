import EgressWatch.Proofs.Net.Chase

/-!
# What lies ahead

How a network replies may depend on all that was sent to it before. Two networks that have seen
different requests may still reply alike from now on (`SameAhead`). An action that neither reads the
clock nor keeps anything cannot tell them apart:

> `Memoryless x`: wherever the same lies ahead, `x` gives the same outcome and sends the same
> requests.

Sending one request is such an action (`memoryless_exchange`), and so is one after another
(`Memoryless.bind`), since after the same requests the same lies ahead still (`SameAhead.sending`).
All fetches are among them (`memoryless_fetch`), so what one of them gives depends on nothing but
the replies that it gets itself.
-/

namespace EgressWatch.Net

variable {α β : Type}

theorem Trail.sending_append (trail : Trail) (requests requests' : List Request) :
    trail.sending (requests ++ requests') = (trail.sending requests).sending requests' := by
  simp [sending]

/-- From here on the two networks reply alike, whatever they have replied to before. -/
def SameAhead (env : Environment) (trail : Trail) (env' : Environment) (trail' : Trail) : Prop :=
  ∀ later : List Request,
    env.network (later ++ trail.requests) = env'.network (later ++ trail'.requests)

theorem SameAhead.sending {env env' : Environment} {trail trail' : Trail}
    (h : SameAhead env trail env' trail') (requests : List Request) :
    SameAhead env (trail.sending requests) env' (trail'.sending requests) := by
  intro later
  have hsame := h (later ++ requests.reverse)
  rw [List.append_assoc, List.append_assoc] at hsame
  exact hsame

/-- The action gives the same outcome and sends the same requests wherever the same lies ahead, and
does nothing else. -/
def Memoryless (x : Action α) : Prop :=
  ∀ env trail env' trail', SameAhead env trail env' trail' →
    (x env trail).1 = (x env' trail').1 ∧
      ∃ sent, (x env trail).2 = trail.sending sent ∧ (x env' trail').2 = trail'.sending sent

theorem Memoryless.pure (a : α) : Memoryless (Pure.pure a : Action α) :=
  fun _ _ _ _ _ => ⟨rfl, [], rfl, rfl⟩

theorem Memoryless.bind {x : Action α} {f : α → Action β} (hx : Memoryless x)
    (hf : ∀ a, Memoryless (f a)) : Memoryless (x >>= f) := by
  intro env trail env' trail' hahead
  obtain ⟨hsame, sent, htrail, htrail'⟩ := hx env trail env' trail' hahead
  obtain ⟨hsame₂, sent₂, htrail₂, htrail₂'⟩ := hf (x env trail).1 _ _ _ _ (hahead.sending sent)
  rw [Action.run_bind, Action.run_bind, ← hsame, htrail, htrail']
  refine ⟨hsame₂, sent ++ sent₂, ?_, ?_⟩
  · rw [htrail₂, Trail.sending_append]
  · rw [htrail₂', Trail.sending_append]

theorem memoryless_exchange (r : Request) : Memoryless (exchange r) :=
  fun _ _ _ _ hahead => ⟨hahead [r], [r], rfl, rfl⟩

theorem memoryless_follow (route : Route) (limit : Time.Span) (left hops : Nat) (url : Url)
    (authorization : List String) (waited : Time.Span) :
    Memoryless (follow route limit left hops url authorization waited) := by
  -- on how many redirects are left, whatever has led here
  induction left using Nat.strongRecOn generalizing hops url authorization waited with
  | ind left ih =>
    unfold follow
    refine .bind (memoryless_exchange _) fun reply => ?_
    cases reply with
    | lost wait => exact .pure _
    | response r =>
      dsimp only
      split
      next => exact .pure _
      next =>
        split
        next => exact .pure _
        next =>
          cases left with
          | zero => exact .pure _
          | succ left =>
            dsimp only
            split
            next => exact .pure _
            next => exact ih left (Nat.lt_succ_self left) _ _ _ _

theorem memoryless_fetch (route : Route) (address : String) (token : Option String)
    (limit : Time.Span) : Memoryless (fetch route address token limit) := by
  unfold fetch
  split
  next => exact .pure _
  next => exact memoryless_follow _ _ _ _ _ _ _

end EgressWatch.Net
