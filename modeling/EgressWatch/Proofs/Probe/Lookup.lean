import EgressWatch.Probe.Health
import EgressWatch.Proofs.Net.Action

/-!
# Looking addresses up

What an echo service tells is an address or nothing, so it is never the empty text
(`ne_empty_of_askEcho`), and it stands in a response that the network gives
(`exists_response_of_askEcho`). A resolver that asks one has found the machine's address before,
finds it out now and keeps it, or finds nothing and keeps nothing:

> `Resolver.machineIp_cases`: what asking for the machine's address gives and leaves behind, in
> three cases.

A check asks for the machine's address first and for the tunnel's after it; whatever it asks for
then makes no difference to these two, and leaves the resolver alone. None of its lookups reads the
clock (`timeless_askEcho` to `timeless_ask`), so that the one reading it makes, when all else is
done, is the next there is (`check_eq`).
-/

namespace EgressWatch.Probe

open Net

/-! ## Echo services -/

/-- What an answer is taken for: the text between the blanks around it, if it is an address. -/
theorem addressIn_eq_ok {answer ip : String} (h : addressIn answer = .ok ip) :
    ip = String.ofList (Text.trim answer.toList) ∧ ∃ a, Address.read? ip = some a := by
  unfold addressIn at h
  simp only at h
  split at h
  next hread =>
    obtain rfl : String.ofList (Text.trim answer.toList) = ip := by simpa using h
    exact ⟨rfl, Option.isSome_iff_exists.mp hread⟩
  next => exact absurd h (by simp)

theorem ne_empty_of_addressIn {answer ip : String} (h : addressIn answer = .ok ip) : ip ≠ "" := by
  obtain ⟨-, a, ha⟩ := addressIn_eq_ok h
  rintro rfl
  have hnone : Address.read? "" = none := by decide
  rw [hnone] at ha
  exact absurd ha (by simp)

theorem mapError_ok_bind {ε ε' α β : Type} (f : ε → ε') (a : α) (k : α → Except ε' β) :
    ((Except.ok a : Except ε α).mapError f >>= k) = k a := rfl

section Asking

variable {route : Route} {address ip : String} {env : Environment} {trail : Trail}

/-- What an echo service tells stands in a response that the network gives. -/
theorem exists_response_of_askEcho (h : (askEcho route address env trail).1 = .ok ip) :
    ∃ r : Response, Gives env (.response r) ∧ addressIn r.text = .ok ip := by
  unfold askEcho at h
  rw [Action.run_bind] at h
  cases hfetch : (fetch route address none echoLimit env trail).1 with
  | error fault => simp [hfetch] at h
  | ok page =>
    have hgives := (sends_fetch route address none echoLimit trail).2 page hfetch
    have hpage : Echo.ofPage page = .ok ip := by simpa [hfetch] using h
    refine ⟨page.response, hgives, ?_⟩
    unfold Echo.ofPage Page.accepted at hpage
    split at hpage
    next => exact absurd hpage nofun
    next =>
      change ((page.text echoLimit).mapError EchoFault.fetch >>= addressIn) = .ok ip at hpage
      cases htext : page.text echoLimit with
      | error fault =>
        rw [htext] at hpage
        change Except.error (EchoFault.fetch fault) = .ok ip at hpage
        exact absurd hpage nofun
      | ok answer =>
        rw [htext, mapError_ok_bind] at hpage
        rw [← Page.text_eq_ok htext, hpage]

theorem ne_empty_of_askEcho (h : (askEcho route address env trail).1 = .ok ip) : ip ≠ "" := by
  obtain ⟨r, -, hanswer⟩ := exists_response_of_askEcho h
  exact ne_empty_of_addressIn hanswer

end Asking

theorem timeless_askEcho (route : Route) (address : String) : Timeless (askEcho route address) := by
  unfold askEcho
  refine .bind (timeless_fetch _ _ _ _) fun page => ?_
  split
  next => exact .pure _
  next => exact .pure _

/-! ## Resolvers -/

namespace Resolver

variable {r : Resolver} {address : String} {route : Route}

/-- The machine's address has been found before, is found out now and kept, or is not found out and
stays to be asked for. -/
theorem machineIp_cases (h : r.source = .echo address route) (env : Environment) (trail : Trail) :
    (∃ ip, r.machine = some ip ∧ r.machineIp env trail = ((ip, r), trail)) ∨
    (r.machine = none ∧ ∃ ip, (askEcho .direct address env trail).1 = .ok ip ∧
      r.machineIp env trail =
        ((ip, { r with machine := some ip }), (askEcho .direct address env trail).2)) ∨
    (r.machine = none ∧ ∃ fault, (askEcho .direct address env trail).1 = .error fault ∧
      r.machineIp env trail = (("", r), (askEcho .direct address env trail).2)) := by
  unfold machineIp
  simp only [h]
  cases hm : r.machine with
  | some ip => exact .inl ⟨ip, rfl, rfl⟩
  | none =>
    refine .inr ?_
    simp only [Action.run_bind]
    cases hask : (askEcho .direct address env trail).1 with
    | ok ip => exact .inl ⟨trivial, ip, rfl, rfl⟩
    | error fault => exact .inr ⟨trivial, fault, rfl, rfl⟩

theorem tunnelIp_echo (h : r.source = .echo address route) :
    r.tunnelIp = askEcho route address := by
  rw [tunnelIp, h]

theorem timeless_machineIp (r : Resolver) : Timeless r.machineIp := by
  unfold machineIp
  split
  next => exact .pure _
  next =>
    split
    next => exact .pure _
    next =>
      refine .bind (timeless_askEcho _ _) fun ip => ?_
      split
      next => exact .pure _
      next => exact .pure _

theorem timeless_tunnelIp (r : Resolver) : Timeless r.tunnelIp := by
  unfold tunnelIp
  split
  next => exact .pure _
  next => exact timeless_askEcho _ _

end Resolver

/-! ## Checks -/

theorem HolderSource.timeless_lookup (s : HolderSource) (ip : String) : Timeless (s.lookup ip) := by
  unfold lookup
  split
  next => exact .pure _
  next =>
    unfold askRegister
    refine .bind (timeless_fetch _ _ _ _) fun page => ?_
    split
    next => exact .pure _
    next => exact .pure _

namespace Checker

variable (c : Checker) (r : Resolver) (env : Environment) (trail : Trail)

theorem timeless_askHolder (ip : Except EchoFault String) : Timeless (c.askHolder ip) := by
  unfold askHolder
  split
  next => exact .pure _
  next =>
    split
    next => exact .pure _
    next => exact HolderSource.timeless_lookup _ _

theorem timeless_ask : Timeless (c.ask r) := by
  unfold ask
  refine .bind r.timeless_machineIp fun found => ?_
  refine .bind found.2.timeless_tunnelIp fun tunnelIp => ?_
  refine .bind (c.timeless_askHolder tunnelIp) fun holder => ?_
  refine .bind (timeless_askEcho _ _) fun seenIp => ?_
  exact .bind (timeless_fetch _ _ _ _) fun page => .pure _

/-- A check looks at the clock once, when all else is done. -/
theorem check_eq : c.check r env trail =
    (((c.ask r env trail).1.1.status c.provider.name (env.clock trail.readings),
      (r.machineIp env trail).1.2),
    { (c.ask r env trail).2 with readings := trail.readings + 1 }) := by
  have htime := c.timeless_ask r env trail
  rw [← htime]
  rfl

end Checker

end EgressWatch.Probe
