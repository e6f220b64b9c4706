import EgressWatch.Proofs.Net.Ahead
import EgressWatch.Proofs.Probe.Lookup

/-!
# One question after another

A resolver is asked for the two addresses again and again, while the network may change between any
two questions. For the machine's address it asks directly until it is told one, and keeps that one
for good; a lookup that fails leaves nothing behind. For the tunnel's address it asks every time,
and neither what was asked before nor what it keeps makes a difference to the answer.

A `Call` is one question with the network of its moment, the trail before and after, and the answer;
`Resolver.calls` answers a list of questions, each while the network behaves in its own way. What is
claimed of one call depends on what is known by then (`Call.Answered`), and that is told by the
calls before it (`firstFound`):

> `calls_answered`: every call is answered by the address kept at first or else the first that an
> earlier call has found.

The step is `answer_step`: the question is answered by what is known, and the address is known
afterwards exactly if it was before or is found now. The induction is on the questions, for all
resolvers with one source, as each call leaves another one behind. That answers about the tunnel do
not depend on the past is a property of lookups (`Call.LooksUp.congr`), by what is true of all
fetches on networks that lie ahead alike. `machine_once_tunnel_always` is all of this about one run.
-/

namespace EgressWatch.Probe

open Net

/-! ## Lookups -/

/-- What is fetched to look an address up. -/
def echoOrder (route : Route) (address : String) : Order := { route, address, limit := echoLimit }

theorem memoryless_askEcho (route : Route) (address : String) :
    Memoryless (askEcho route address) := by
  unfold askEcho
  refine .bind (memoryless_fetch _ _ _ _) fun page => ?_
  split
  next => exact .pure _
  next => exact .pure _

/-- A lookup sends the requests of one fetch and does nothing else. -/
theorem isChase_askEcho (route : Route) (address : String) (env : Environment) (trail : Trail) :
    ∃ sent, (askEcho route address env trail).2 = trail.sending sent ∧
      IsChase env (echoOrder route address) sent := by
  obtain ⟨sent, htrail, hchase⟩ := (echoOrder route address).isChase_fetch env trail
  refine ⟨sent, ?_, hchase⟩
  rw [← htrail]
  show _ = (fetch route address none echoLimit env trail).2
  unfold askEcho
  rw [Action.run_bind]
  cases (fetch route address none echoLimit env trail).1 with
  | error fault => rfl
  | ok page => rfl

/-! ## Calls -/

/-- What a resolver is asked for. -/
inductive Question where
  | machineIp
  | tunnelIp
  deriving DecidableEq

/-- A question, how the network behaved while it was answered, what had been done before and was
done after it, and the answer. Asked for the machine's address, a resolver has one in any case. -/
structure Call where
  question : Question
  env : Environment
  before : Trail
  answer : Except EchoFault String
  after : Trail

namespace Resolver

/-- Answers a question. -/
def answer (r : Resolver) : Question → Action (Except EchoFault String × Resolver)
  | .machineIp => do
    let (ip, r) ← r.machineIp
    return (.ok ip, r)
  | .tunnelIp => do
    let ip ← r.tunnelIp
    return (ip, r)

theorem run_answer_machineIp (r : Resolver) (env : Environment) (trail : Trail) :
    r.answer .machineIp env trail = ((.ok (r.machineIp env trail).1.1, (r.machineIp env trail).1.2),
      (r.machineIp env trail).2) := rfl

theorem run_answer_tunnelIp (r : Resolver) (env : Environment) (trail : Trail) :
    r.answer .tunnelIp env trail = (((r.tunnelIp env trail).1, r), (r.tunnelIp env trail).2) := rfl

/-- Answers one question after another, each while the network behaves in its own way. -/
def calls (r : Resolver) (trail : Trail) : List (Question × Environment) → List Call
  | [] => []
  | (question, env) :: asked =>
    let told := r.answer question env trail
    ⟨question, env, trail, told.1.1, told.2⟩ :: told.1.2.calls told.2 asked

end Resolver

namespace Call

/-- The call looks the address up, once: it sends the requests of a fetch of it and nothing else. -/
structure LooksUp (c : Call) (route : Route) (address : String) : Prop where
  after : c.after = (askEcho route address c.env c.before).2
  chase : ∃ sent, c.after = c.before.sending sent ∧ IsChase c.env (echoOrder route address) sent

theorem looksUp_of_after {c : Call} {route : Route} {address : String}
    (h : c.after = (askEcho route address c.env c.before).2) : c.LooksUp route address := by
  refine ⟨h, ?_⟩
  rw [h]
  exact isChase_askEcho route address c.env c.before

/-- The machine's address, if the call asks for it and the echo service tells it there and then. -/
def found? (address : String) (c : Call) : Option String :=
  match c.question with
  | .machineIp => (askEcho .direct address c.env c.before).1.toOption
  | .tunnelIp => none

/-- The call is answered as it should be if the machine's address is known already, or not. -/
structure Answered (address : String) (route : Route) (known : Option String) (c : Call) :
    Prop where
  /-- Nothing is sent for what is known. -/
  kept : c.question = .machineIp → ∀ ip, known = some ip → c.answer = .ok ip ∧ c.after = c.before
  /-- What is not known is looked up directly; if that fails the answer is empty. -/
  sought : c.question = .machineIp → known = none →
    c.LooksUp .direct address ∧ c.answer = .ok ((c.found? address).getD "")
  /-- The tunnel's address is looked up on its route. -/
  tunnel : c.question = .tunnelIp →
    c.LooksUp route address ∧ c.answer = (askEcho route address c.env c.before).1

end Call

/-- The machine's address as the first of some calls finds it. -/
def firstFound (address : String) (cs : List Call) : Option String :=
  cs.findSome? (Call.found? address)

theorem firstFound_cons (address : String) (c : Call) (cs : List Call) :
    firstFound address (c :: cs) = (c.found? address).or (firstFound address cs) := by
  unfold firstFound
  rw [List.findSome?_cons]
  cases c.found? address with
  | none => rfl
  | some ip => rfl

section Calls

variable {r : Resolver} {address : String} {route : Route}

theorem machineIp_known (h : r.source = .echo address route) {ip : String}
    (hknown : r.machine = some ip) (env : Environment) (trail : Trail) :
    r.machineIp env trail = ((ip, r), trail) := by
  rcases Resolver.machineIp_cases h env trail with
    ⟨ip', hknown', heq⟩ | ⟨hnone, -⟩ | ⟨hnone, -⟩
  · obtain rfl := Option.some.inj (hknown.symm.trans hknown')
    exact heq
  · exact absurd (hknown.symm.trans hnone) nofun
  · exact absurd (hknown.symm.trans hnone) nofun

/-- Of a lookup the address is kept, or nothing. -/
theorem machineIp_unknown (h : r.source = .echo address route) (hnone : r.machine = none)
    (env : Environment) (trail : Trail) :
    let told := askEcho .direct address env trail
    r.machineIp env trail =
      ((told.1.toOption.getD "", { r with machine := told.1.toOption }), told.2) := by
  intro told
  rcases Resolver.machineIp_cases h env trail with
    ⟨ip, hknown, -⟩ | ⟨-, ip, hask, heq⟩ | ⟨-, fault, hask, heq⟩
  · exact absurd (hknown.symm.trans hnone) nofun
  · rw [heq, show told.1 = .ok ip from hask]
    rfl
  · have hself : r = { r with machine := none } := by rw [← hnone]
    rw [heq, show told.1 = .error fault from hask]
    exact congrArg (fun r' : Resolver => (("", r'), told.2)) hself

/-- One step: the question is answered by what is known, and the address is known afterwards if it
was known before or is found now. -/
theorem answer_step (h : r.source = .echo address route) (question : Question) (env : Environment)
    (trail : Trail) :
    let told := r.answer question env trail
    let c : Call := ⟨question, env, trail, told.1.1, told.2⟩
    c.Answered address route r.machine ∧ told.1.2.source = r.source ∧
      told.1.2.machine = r.machine.or (c.found? address) := by
  intro told c
  cases question with
  | machineIp =>
    have htold : told = ((.ok (r.machineIp env trail).1.1, (r.machineIp env trail).1.2),
        (r.machineIp env trail).2) := r.run_answer_machineIp env trail
    cases hmachine : r.machine with
    | some ip =>
      rw [machineIp_known h hmachine] at htold
      refine ⟨⟨?_, nofun, nofun⟩, ?_, ?_⟩
      · intro _ ip' hip'
        obtain rfl := Option.some.inj hip'
        exact ⟨congrArg (·.1.1) htold, congrArg Prod.snd htold⟩
      · rw [htold]
      · rw [htold, Option.some_or, ← hmachine]
    | none =>
      rw [machineIp_unknown h hmachine] at htold
      refine ⟨⟨nofun, ?_, nofun⟩, ?_, ?_⟩
      · intro _ _
        exact ⟨Call.looksUp_of_after (congrArg Prod.snd htold), congrArg (·.1.1) htold⟩
      · rw [htold]
      · rw [htold, Option.none_or]
        rfl
  | tunnelIp =>
    have htold : told = (((askEcho route address env trail).1, r),
        (askEcho route address env trail).2) := by
      rw [← Resolver.tunnelIp_echo h]
      exact r.run_answer_tunnelIp env trail
    have hfound : c.found? address = none := rfl
    refine ⟨⟨nofun, nofun, ?_⟩, ?_, ?_⟩
    · intro _
      exact ⟨Call.looksUp_of_after (congrArg Prod.snd htold), congrArg (·.1.1) htold⟩
    · rw [htold]
    · rw [htold, hfound, Option.or_none]

/-- A run: every call is answered by what the calls before it have found. -/
theorem calls_answered (h : r.source = .echo address route) (trail : Trail)
    (asked : List (Question × Environment)) {early late : List Call} {c : Call}
    (hcalls : r.calls trail asked = early ++ c :: late) :
    c.Answered address route (r.machine.or (firstFound address early)) := by
  -- on the questions, for every resolver that the first answers may have left
  induction asked generalizing r trail early with
  | nil => exact absurd hcalls (by simp [Resolver.calls])
  | cons first asked ih =>
    obtain ⟨question, env⟩ := first
    obtain ⟨hfirst, hsource, hmachine⟩ := answer_step h question env trail
    cases early with
    | nil =>
      obtain ⟨rfl, -⟩ := List.cons.inj hcalls
      rw [firstFound, List.findSome?_nil, Option.or_none]
      exact hfirst
    | cons c₀ early =>
      obtain ⟨rfl, hrest⟩ := List.cons.inj hcalls
      have hlater := ih (hsource.trans h) _ hrest
      rw [hmachine, Option.or_assoc] at hlater
      rw [firstFound_cons]
      exact hlater

/-- Every question is answered, in order, and each call starts where the one before it has ended. -/
theorem calls_chain (r : Resolver) (trail : Trail) (asked : List (Question × Environment)) :
    (r.calls trail asked).map (fun c => (c.question, c.env)) = asked ∧
      (∀ c, (r.calls trail asked).head? = some c → c.before = trail) ∧
      (r.calls trail asked).IsChain fun c c' => c'.before = c.after := by
  induction asked generalizing r trail with
  | nil => exact ⟨rfl, fun c hc => absurd hc (by simp [Resolver.calls]), .nil⟩
  | cons first asked ih =>
    obtain ⟨question, env⟩ := first
    obtain ⟨hasked, hhead, hchain⟩ := ih (r.answer question env trail).1.2
      (r.answer question env trail).2
    refine ⟨congrArg (_ :: ·) hasked, ?_, List.isChain_cons.mpr ⟨?_, hchain⟩⟩
    · intro c hc
      rw [← Option.some.inj hc]
    · intro c hc
      exact hhead c hc

/-- A call that looks something up comes out alike wherever the network ahead is alike. -/
theorem Call.LooksUp.congr {c c' : Call} (h : c.LooksUp route address)
    (h' : c'.LooksUp route address) (hahead : SameAhead c.env c.before c'.env c'.before) :
    (askEcho route address c.env c.before).1 = (askEcho route address c'.env c'.before).1 ∧
      ∃ sent, c.after = c.before.sending sent ∧ c'.after = c'.before.sending sent := by
  rw [h.after, h'.after]
  exact memoryless_askEcho route address _ _ _ _ hahead

end Calls

/-- Whatever a resolver is asked and however the network changes meanwhile: the machine's address is
looked up directly by the calls that ask for it, up to the first that finds it and no further. Until
then the answer is empty, and from then on it is what that call has found. The tunnel's address is
looked up by each call that asks for it, and how that comes out depends on the network ahead of it
alone: it is the same for all calls of all resolvers with that source for which that is the same,
whatever they were asked before and whatever they have kept. -/
theorem machine_once_tunnel_always {r : Resolver} {address : String} {route : Route}
    (h : r.source = .echo address route) (trail : Trail) (asked : List (Question × Environment)) :
    (r.calls trail asked).map (fun c => (c.question, c.env)) = asked ∧
    ((r.calls trail asked).IsChain fun c c' => c'.before = c.after) ∧
    ∀ early c late, r.calls trail asked = early ++ c :: late →
      c.Answered address route (r.machine.or (firstFound address early)) ∧
      (c.question = .tunnelIp → ∀ (r' : Resolver) (trail' : Trail) asked',
        r'.source = r.source → ∀ c' ∈ r'.calls trail' asked', c'.question = .tunnelIp →
          SameAhead c.env c.before c'.env c'.before →
          c.answer = c'.answer ∧
            ∃ sent, c.after = c.before.sending sent ∧ c'.after = c'.before.sending sent) := by
  obtain ⟨hasked, -, hchain⟩ := calls_chain r trail asked
  refine ⟨hasked, hchain, ?_⟩
  intro early c late hcalls
  have hanswered := calls_answered h trail asked hcalls
  refine ⟨hanswered, ?_⟩
  intro htunnel r' trail' asked' hsource c' hmem htunnel' hahead
  obtain ⟨early', late', hcalls'⟩ := List.append_of_mem hmem
  have hanswered' := calls_answered (hsource.trans h) trail' asked' hcalls'
  obtain ⟨hlook, hanswer⟩ := hanswered.tunnel htunnel
  obtain ⟨hlook', hanswer'⟩ := hanswered'.tunnel htunnel'
  rw [hanswer, hanswer']
  exact hlook.congr hlook' hahead

/-- An echo service that cannot be reached at first, then tells an address, and another one later
on: the one that was told first is kept, while the tunnel's, asked for at the same place, is not. -/
theorem machine_once_tunnel_always_changing_network :
    let telling (body : String) : Environment := {
      network := fun _ => .response { wait := 0, status := 200, phrase := "OK",
                                      chunks := [⟨0, Text.Utf8.encode body.toList⟩] }
      clock := fun _ => .epoch }
    let r : Resolver := { source := .echo "http://a/" .direct }
    let asked := [(Question.machineIp, { network := .unreachable, clock := fun _ => .epoch }),
      (.tunnelIp, telling "198.51.100.7"), (.machineIp, telling " 192.0.2.1\n"),
      (.machineIp, telling "203.0.113.9"), (.tunnelIp, telling "203.0.113.9")]
    let cs := r.calls {} asked
    r.source = .echo "http://a/" .direct ∧ firstFound "http://a/" (cs.take 3) = some "192.0.2.1" ∧
      cs.map (·.answer.toOption) = [some "", some "198.51.100.7", some "192.0.2.1",
        some "192.0.2.1", some "203.0.113.9"] ∧
      ∃ c, cs[3]? = some c ∧ c.answer = .ok "192.0.2.1" ∧ c.after = c.before := by
  intro telling r asked cs
  have hfound : firstFound "http://a/" (cs.take 3) = some "192.0.2.1" := by decide +kernel
  obtain ⟨-, -, hanswered⟩ := machine_once_tunnel_always (r := r) rfl {} asked
  obtain ⟨hfourth, -⟩ := hanswered (cs.take 3) _ _ rfl
  have hkept := hfourth.kept rfl "192.0.2.1" hfound
  refine ⟨rfl, hfound, by decide +kernel, _, rfl, hkept⟩

end EgressWatch.Probe
