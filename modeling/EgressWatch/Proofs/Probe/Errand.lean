import EgressWatch.Proofs.Net.Chase
import EgressWatch.Proofs.Probe.Speed

/-!
# What probes fetch

Every fetch of a probe is an errand: it is made for some purpose, and the purpose decides what is
fetched and on which route (`Services.order`). So what a run has fetched is known when the purposes
of its errands are.

> `Runs env s trail log after`: all that was done between the two trails is the errands of `log`,
> one after the other, and looks at the clock.

`Makes` says so of an action, with a property of the log and of what the action gives. Actions one
after another make one log after the other (`Makes.bind`), and a single fetch is a log of one errand
(`makes_fetch`), so the log of a probe is put together as the probe is. No request is sent but those
of the errands (`Runs.requests_eq`).

Which errands a probe makes depends on what it finds, so the log of each is described by its
findings: a holder is looked up if the tunnel's address was found (`holderLookups`), addresses are
looked up for a segment that was measured (`Tester.egressLookups`), and the machine's address only
while it is not known (`machineLookups`). For the latter one has to follow what a resolver keeps.
`Settles` says that once the machine's address was told no errand asks for it any more, and `Learns`
that it is known afterwards exactly if it was before or is told now; both go on from one part of a
probe to the next (`Settles.trans`, `Learns.append`).

`Checker.makes_check` and `Tester.makes_run` are the two probes; the former has its health page
apart, since that is what a status tells of the provider.
-/

namespace EgressWatch.Probe

open Net Time

/-! ## Errands -/

/-- What something is fetched for. -/
inductive Purpose where
  | machineIp
  | tunnelIp
  | holder (ip : String)
  | seenIp
  | health
  | egress
  | upstream (token : String)
  deriving DecidableEq

/-- The address whose holder is looked up. -/
def Purpose.holder? : Purpose → Option String
  | .holder ip => some ip
  | _ => none

/-- The token that is shown. -/
def Purpose.token? : Purpose → Option String
  | .upstream token => some token
  | _ => none

/-- Where probes ask, and the route for what is meant for the tunnel. -/
structure Services where
  tunnel : Route
  echo : String
  register : String
  seenIp : String
  health : String
  egress : String
  upstream : String

/-- What is fetched for a purpose. -/
def Services.order (s : Services) : Purpose → Order
  | .machineIp => { route := .direct, address := s.echo, limit := echoLimit }
  | .tunnelIp => { route := s.tunnel, address := s.echo, limit := echoLimit }
  | .holder ip => { route := .direct, address := registerAddress s.register ip,
                    limit := registerLimit }
  | .seenIp => { route := s.tunnel, address := s.seenIp, limit := echoLimit }
  | .health => { route := s.tunnel, address := s.health, limit := healthLimit }
  | .egress => { route := s.tunnel, address := s.egress, limit := egressLimit }
  | .upstream token => { route := s.tunnel, address := s.upstream, token := some token,
                         limit := upstreamLimit }

/-- A fetch that was made, with its requests in order and what came of it. -/
structure Errand where
  purpose : Purpose
  requests : List Request
  outcome : Except FetchFault Page

/-- What the errands of a log are made for. -/
def purposes (log : List Errand) : List Purpose := log.map (·.purpose)

@[simp] theorem purposes_nil : purposes [] = [] := rfl

@[simp] theorem purposes_cons (e : Errand) (log : List Errand) :
    purposes (e :: log) = e.purpose :: purposes log := rfl

@[simp] theorem purposes_append (log log' : List Errand) :
    purposes (log ++ log') = purposes log ++ purposes log' := List.map_append

/-- The tokens that errands show. -/
def tokens (log : List Errand) : List String := (purposes log).filterMap Purpose.token?

@[simp] theorem tokens_append (log log' : List Errand) :
    tokens (log ++ log') = tokens log ++ tokens log' := by
  rw [tokens, purposes_append, List.filterMap_append]
  rfl

/-- What an errand to an echo service has told. -/
def Errand.answer (e : Errand) : Except EchoFault String :=
  match e.outcome with
  | .error fault => .error (.fetch fault)
  | .ok page => Echo.ofPage page

/-- The errand carries out an order. -/
structure Errand.Fulfils (e : Errand) (env : Environment) (o : Order) (trail : Trail) : Prop where
  fetched : o.fetch env trail = (e.outcome, trail.sending e.requests)
  chase : IsChase env o e.requests

/-- All that was done between two trails is these errands, one after the other, and looks at the
clock in between. -/
inductive Runs (env : Environment) (s : Services) : Trail → List Errand → Trail → Prop where
  | done (trail : Trail) : Runs env s trail [] trail
  | look {trail after : Trail} {log : List Errand}
    (h : Runs env s { trail with readings := trail.readings + 1 } log after) :
    Runs env s trail log after
  | fetch {trail after : Trail} {e : Errand} {log : List Errand}
    (he : e.Fulfils env (s.order e.purpose) trail)
    (h : Runs env s (trail.sending e.requests) log after) : Runs env s trail (e :: log) after

namespace Runs

variable {env : Environment} {s : Services} {trail middle after : Trail} {log log' : List Errand}

theorem append (h : Runs env s trail log middle) (h' : Runs env s middle log' after) :
    Runs env s trail (log ++ log') after := by
  induction h with
  | done => exact h'
  | look _ ih => exact .look (ih h')
  | fetch he _ ih => exact .fetch he (ih h')

/-- No request was sent but those of the errands. -/
theorem requests_eq (h : Runs env s trail log after) :
    after.requests = (log.flatMap (·.requests)).reverse ++ trail.requests := by
  induction h with
  | done => rfl
  | look _ ih => exact ih
  | fetch _ _ ih => simp [ih, Trail.sending]

theorem isChase (h : Runs env s trail log after) :
    ∀ e ∈ log, IsChase env (s.order e.purpose) e.requests := by
  induction h with
  | done => simp
  | look _ ih => exact ih
  | fetch he _ ih => exact List.forall_mem_cons.mpr ⟨he.chase, ih⟩

/-- The last errand is made from where the others have led. -/
theorem last {e : Errand} (h : Runs env s trail (log ++ [e]) after) :
    ∃ middle, Runs env s trail log middle ∧ e.Fulfils env (s.order e.purpose) middle := by
  generalize hlog : log ++ [e] = all at h
  induction h generalizing log with
  | done => exact absurd hlog (by simp)
  | look _ ih =>
    obtain ⟨middle, hruns, he⟩ := ih hlog
    exact ⟨middle, .look hruns, he⟩
  | @fetch trail _ e' _ he' _ ih =>
    cases log with
    | nil =>
      obtain ⟨rfl, -⟩ := List.cons.inj hlog
      exact ⟨trail, .done trail, he'⟩
    | cons first log =>
      obtain ⟨rfl, hrest⟩ := List.cons.inj hlog
      obtain ⟨middle, hruns, he⟩ := ih hrest
      exact ⟨middle, .fetch he' hruns, he⟩

end Runs

/-! ## Actions that make errands -/

section Makes

variable {α β : Type} {env : Environment} {s : Services} {P : α → List Errand → Prop}
  {Q : β → List Errand → Prop}

/-- Whatever was done before, all that the action does is errands of which this is true, and looks
at the clock. -/
def Makes (env : Environment) (s : Services) (x : Action α) (P : α → List Errand → Prop) : Prop :=
  ∀ trail, ∃ log, Runs env s trail log (x env trail).2 ∧ P (x env trail).1 log

theorem Makes.pure {a : α} (h : P a []) : Makes env s (Pure.pure a : Action α) P :=
  fun trail => ⟨[], .done trail, h⟩

theorem Makes.bind {x : Action α} {f : α → Action β} (hx : Makes env s x P)
    (hf : ∀ a log, P a log → Makes env s (f a) fun b log' => Q b (log ++ log')) :
    Makes env s (x >>= f) Q := by
  intro trail
  obtain ⟨log, hruns, ha⟩ := hx trail
  obtain ⟨log', hruns', hb⟩ := hf _ log ha (x env trail).2
  exact ⟨log ++ log', hruns.append hruns', hb⟩

theorem Makes.imp {x : Action α} {P' : α → List Errand → Prop} (hx : Makes env s x P)
    (h : ∀ a log, P a log → P' a log) : Makes env s x P' := by
  intro trail
  obtain ⟨log, hruns, ha⟩ := hx trail
  exact ⟨log, hruns, h _ log ha⟩

/-- What makes no errands may come first. -/
theorem Makes.quietly {x : Action α} {f : α → Action β} (hx : Makes env s x fun _ log => log = [])
    (hf : ∀ a, Makes env s (f a) Q) : Makes env s (x >>= f) Q :=
  hx.bind fun a log hlog => by simpa [hlog] using hf a

theorem makes_readClock : Makes env s readClock fun _ log => log = [] :=
  fun _ => ⟨[], .look (.done _), rfl⟩

theorem makes_readDraws : Makes env s readDraws fun _ log => log = [] :=
  fun _ => ⟨[], .done _, rfl⟩

theorem makes_fetch (p : Purpose) : Makes env s (s.order p).fetch fun outcome log =>
    ∃ e, log = [e] ∧ e.purpose = p ∧ e.outcome = outcome := by
  intro trail
  obtain ⟨requests, htrail, hchase⟩ := (s.order p).isChase_fetch env trail
  refine ⟨[⟨p, requests, ((s.order p).fetch env trail).1⟩], ?_, _, rfl, rfl, rfl⟩
  refine .fetch ⟨Prod.ext rfl htrail, hchase⟩ ?_
  rw [htrail]
  exact .done _

end Makes

/-! ## Lookups -/

section Lookups

variable {env : Environment} {s : Services}

theorem makes_askEcho (p : Purpose) (route : Route) (address : String)
    (horder : s.order p = { route, address, limit := echoLimit }) :
    Makes env s (askEcho route address) fun answer log =>
      ∃ e, log = [e] ∧ e.purpose = p ∧ e.answer = answer := by
  have hfetch : Net.fetch route address none echoLimit = (s.order p).fetch := by
    rw [horder]
    rfl
  unfold askEcho
  rw [hfetch]
  refine (makes_fetch p).bind ?_
  rintro outcome log ⟨e, rfl, hp, rfl⟩
  cases houtcome : e.outcome with
  | error fault =>
    refine .pure ⟨e, rfl, hp, ?_⟩
    rw [Errand.answer, houtcome]
  | ok page =>
    refine .pure ⟨e, rfl, hp, ?_⟩
    rw [Errand.answer, houtcome]

/-- The lookups of the machine's address, given whether it is known. -/
def machineLookups (known : Bool) : List Purpose := if known then [] else [.machineIp]

@[simp] theorem machineLookups_false : machineLookups false = [.machineIp] := rfl

/-- The lookups of the holder of the tunnel's address. -/
def holderLookups (tunnelIp : String) : List Purpose :=
  if tunnelIp = "" then [] else [.holder tunnelIp]

theorem eq_holder_of_mem {tunnelIp : String} {p : Purpose} (h : p ∈ holderLookups tunnelIp) :
    p = .holder tunnelIp := by
  unfold holderLookups at h
  split at h
  next => exact absurd h List.not_mem_nil
  next => exact List.mem_singleton.mp h

/-- What errands make of a resolver: it asks what it asked before and forgets nothing, and from the
errand on that has found the machine's address no errand asks for it any more. -/
structure Settles (r r' : Resolver) (log : List Errand) : Prop where
  source : r'.source = r.source
  keeps : r.machine.isSome → r'.machine.isSome
  spares : r.machine.isSome → ∀ e ∈ log, e.purpose ≠ .machineIp
  found : ∀ e ∈ log, e.purpose = .machineIp → e.answer.isOk → r'.machine.isSome
  settled : log.Pairwise fun e later =>
    e.purpose = .machineIp → e.answer.isOk → later.purpose ≠ .machineIp

namespace Settles

variable {r r' r'' : Resolver} {log log' : List Errand}

/-- Errands for other purposes change nothing. -/
theorem others (r : Resolver) (h : .machineIp ∉ purposes log) : Settles r r log := by
  have hother : ∀ e ∈ log, e.purpose ≠ .machineIp :=
    fun e he hp => h (hp ▸ List.mem_map_of_mem he)
  exact ⟨rfl, id, fun _ => hother, fun e he hp => absurd hp (hother e he),
    List.pairwise_of_forall_mem_list fun e _ later hlater _ _ => hother later hlater⟩

theorem trans (h : Settles r r' log) (h' : Settles r' r'' log') : Settles r r'' (log ++ log') := by
  refine ⟨h'.source.trans h.source, fun hr => h'.keeps (h.keeps hr), fun hr e he => ?_,
    fun e he hp hok => ?_, List.pairwise_append.mpr ⟨h.settled, h'.settled, ?_⟩⟩
  · rcases List.mem_append.mp he with he | he
    · exact h.spares hr e he
    · exact h'.spares (h.keeps hr) e he
  · rcases List.mem_append.mp he with he | he
    · exact h'.keeps (h.found e he hp hok)
    · exact h'.found e he hp hok
  -- an errand of the first log that has found the address spares all of the second
  · exact fun e he later hlater hp hok => h'.spares (h.found e he hp hok) later hlater

end Settles

/-- What errands make of a resolver while this address of the machine is told, the empty one if none
is told: the address is known if it was before or is told now. -/
structure Learns (r : Resolver) (told : String) (r' : Resolver) (log : List Errand) : Prop
    extends Settles r r' log where
  known : r'.machine.isSome = (r.machine.isSome || told != "")

namespace Learns

variable {r r' : Resolver} {told : String} {log log' : List Errand}

theorem nothing (r : Resolver) (h : .machineIp ∉ purposes log) : Learns r "" r log :=
  ⟨.others r h, by simp⟩

theorem append (h : Learns r told r' log) (hmore : .machineIp ∉ purposes log') :
    Learns r told r' (log ++ log') :=
  ⟨h.toSettles.trans (.others r' hmore), h.known⟩

theorem cons {e : Errand} (hp : e.purpose ≠ .machineIp) (h : Learns r told r' log) :
    Learns r told r' (e :: log) :=
  ⟨(Settles.others r (by simpa using hp.symm) : Settles r r [e]).trans h.toSettles, h.known⟩

end Learns

namespace Resolver

variable {r : Resolver}

theorem makes_machineIp (h : r.source = .echo s.echo s.tunnel) :
    Makes env s r.machineIp fun found log => Learns r found.1 found.2 log ∧
      purposes log = machineLookups r.machine.isSome := by
  unfold machineIp
  simp only [h]
  -- an address that is known is told again; only an answer makes it known
  cases hm : r.machine with
  | some ip => exact .pure ⟨⟨.others r (by simp), by simp [hm]⟩, rfl⟩
  | none =>
    intro trail
    have hasked : Makes env s (askEcho .direct s.echo) _ :=
      makes_askEcho .machineIp .direct s.echo rfl
    obtain ⟨log, hruns, e, rfl, hp, hanswer⟩ := hasked trail
    refine ⟨[e], ?_⟩
    simp only [Action.run_bind]
    cases hask : (askEcho .direct s.echo env trail).1 with
    | ok ip =>
      have hne : ip ≠ "" := ne_empty_of_askEcho hask
      exact ⟨hruns, ⟨⟨h.symm, by simp, by simp [hm], by simp, List.pairwise_singleton _ _⟩,
        by simp [hne]⟩, by simp [hp]⟩
    | error fault =>
      refine ⟨hruns, ⟨⟨rfl, id, by simp [hm], ?_, List.pairwise_singleton _ _⟩, by simp⟩,
        by simp [hp]⟩
      intro e' he' _ hok
      rw [List.mem_singleton.mp he', hanswer, hask] at hok
      exact absurd hok Bool.false_ne_true

theorem makes_tunnelIp (h : r.source = .echo s.echo s.tunnel) :
    Makes env s r.tunnelIp fun _ log => purposes log = [.tunnelIp] := by
  rw [tunnelIp_echo h]
  refine (makes_askEcho .tunnelIp s.tunnel s.echo rfl).imp ?_
  rintro answer log ⟨e, rfl, hp, -⟩
  simp [hp]

end Resolver

end Lookups

/-! ## Status checks -/

namespace Checker

/-- The check asks these services. -/
structure Asks (c : Checker) (s : Services) : Prop where
  holders : c.holders = .register s.register
  tunnel : c.tunnel = s.tunnel
  healthUrl : c.provider.healthUrl = s.health
  seenIpUrl : c.seenIpUrl = s.seenIp

variable {env : Environment} {s : Services} {c : Checker} {r : Resolver}

theorem makes_askHolder (h : c.Asks s) (ip : Except EchoFault String) :
    Makes env s (c.askHolder ip) fun _ log =>
      purposes log = holderLookups (ip.toOption.getD "") := by
  cases ip with
  | error fault => exact .pure rfl
  | ok ip =>
    unfold askHolder
    dsimp only
    split
    next hempty =>
      refine .pure ?_
      rw [hempty]
      rfl
    next hne =>
      have hlookup : holderLookups ((Except.ok ip : Except EchoFault String).toOption.getD "") =
          [.holder ip] := if_neg hne
      rw [h.holders, HolderSource.lookup, askRegister, hlookup]
      refine (makes_fetch (.holder ip)).bind ?_
      rintro outcome log ⟨e, rfl, hp, rfl⟩
      cases e.outcome with
      | error fault => exact .pure (by simp [hp])
      | ok page => exact .pure (by simp [hp])

/-- The health that a status tells is what came of an errand. -/
structure TellsHealth (status : Status) (e : Errand) : Prop where
  purpose : e.purpose = .health
  ok : status.upstreamOk = (Health.ofFetch e.outcome).ok
  latency : status.upstreamLatency = (Health.ofFetch e.outcome).latency

/-- A check asks for the machine's address unless that is known, for the tunnel's, for its holder if
there is one, for the address that is seen behind the tunnel, and at last for the health page. -/
theorem makes_check_health (h : c.Asks s) (hr : r.source = .echo s.echo s.tunnel) :
    Makes env s (c.check r) fun found log => Learns r found.1.machineIp found.2 log ∧
      ∃ first e, log = first ++ [e] ∧ TellsHealth found.1 e ∧
        purposes first = machineLookups r.machine.isSome ++
          (.tunnelIp :: holderLookups found.1.tunnelIp ++ [.seenIp]) := by
  unfold check ask
  rw [bind_assoc]
  refine (r.makes_machineIp hr).bind ?_
  rintro ⟨machineIp, r'⟩ log ⟨hlearns, hmachine⟩
  have hr' : r'.source = .echo s.echo s.tunnel := hlearns.source.trans hr
  simp only [bind_assoc]
  refine (r'.makes_tunnelIp hr').bind fun tunnelIp log₁ htunnel => ?_
  refine (makes_askHolder h tunnelIp).bind fun holder log₂ hholder => ?_
  have hseen : s.order .seenIp =
      { route := c.tunnel, address := c.seenIpUrl, limit := echoLimit } := by
    rw [h.tunnel, h.seenIpUrl]
    rfl
  refine (makes_askEcho .seenIp c.tunnel c.seenIpUrl hseen).bind ?_
  rintro seenIp log₃ ⟨e₃, rfl, hp₃, -⟩
  have hhealth : Net.fetch c.tunnel c.provider.healthUrl none healthLimit =
      (s.order .health).fetch := by
    rw [h.tunnel, h.healthUrl]
    rfl
  rw [hhealth]
  refine (makes_fetch .health).bind ?_
  rintro outcome log₄ ⟨e₄, rfl, hp₄, rfl⟩
  rw [pure_bind]
  refine makes_readClock.bind ?_
  rintro now log₅ rfl
  refine .pure ?_
  have hfirst : purposes (log₁ ++ (log₂ ++ [e₃])) =
      .tunnelIp :: holderLookups (tunnelIp.toOption.getD "") ++ [.seenIp] := by
    simp [htunnel, hholder, hp₃]
  change Learns r machineIp r' (log ++ (log₁ ++ (log₂ ++ [e₃, e₄]))) ∧ _
  refine ⟨hlearns.append ?_, log ++ (log₁ ++ (log₂ ++ [e₃])), e₄, by simp, ⟨hp₄, rfl, rfl⟩, ?_⟩
  -- of all these errands only those of the first lookup can be for the machine's address
  · intro hmem
    have hrest : purposes (log₁ ++ (log₂ ++ [e₃, e₄])) =
        purposes (log₁ ++ (log₂ ++ [e₃])) ++ [.health] := by simp [hp₄]
    rw [hrest, hfirst] at hmem
    simp only [List.cons_append, List.mem_cons, List.mem_append, reduceCtorEq, false_or,
      List.not_mem_nil, or_false] at hmem
    exact absurd (eq_holder_of_mem hmem) nofun
  · rw [purposes_append, hmachine, hfirst]
    rfl

theorem makes_check (h : c.Asks s) (hr : r.source = .echo s.echo s.tunnel) :
    Makes env s (c.check r) fun found log => Learns r found.1.machineIp found.2 log ∧
      purposes log = machineLookups r.machine.isSome ++
        (.tunnelIp :: holderLookups found.1.tunnelIp ++ [.seenIp, .health]) := by
  refine (makes_check_health h hr).imp ?_
  rintro found log ⟨hlearns, first, e, rfl, hhealth, hfirst⟩
  refine ⟨hlearns, ?_⟩
  simp [hfirst, hhealth.purpose]

end Checker

/-! ## Speed tests -/

namespace Tester

/-- The test asks these services. -/
structure Asks (t : Tester) (s : Services) : Prop where
  tunnel : t.tunnel = s.tunnel
  egressUrl : t.egressUrl = s.egress
  speedUrl : t.provider.speedUrl = s.upstream

variable {env : Environment} {s : Services} {t : Tester} {r : Resolver} {counters : Counters}

/-- The address of the machine that a segment tells, empty if there is no segment. -/
def sourceOf (segment : Option Segment) : String := (segment.map (·.sourceIp)).getD ""

/-- The lookups for the first segment, if there is one, given whether the machine's address is
known. -/
def egressLookups (known : Bool) (segment : Option Segment) : List Purpose :=
  if segment.isSome then machineLookups known ++ [.tunnelIp] else []

/-- The errands for the second segment, which is tried only with a token. -/
def upstreamErrands (token : Option String) (segment : Option Segment) : List Purpose :=
  match token with
  | none => []
  | some token => .upstream token :: if segment.isSome then [.tunnelIp] else []

theorem makes_download (p : Purpose) : Makes env s
    (download (s.order p).route (s.order p).address (s.order p).token (s.order p).limit)
    fun _ log => ∃ e, log = [e] ∧ e.purpose = p := by
  unfold download
  refine (makes_fetch p).bind ?_
  rintro outcome log ⟨e, rfl, hp, rfl⟩
  cases e.outcome with
  | error fault => exact .pure ⟨e, rfl, hp⟩
  | ok page => exact .pure ⟨e, rfl, hp⟩

theorem makes_runEgress (h : t.Asks s) (hr : r.source = .echo s.echo s.tunnel) :
    Makes env s (t.runEgress r counters) fun run log =>
      Learns r (sourceOf run.result.toOption) run.resolver log ∧
        purposes log = .egress :: egressLookups r.machine.isSome run.result.toOption := by
  have hdownload : download t.tunnel t.egressUrl none egressLimit =
      download (s.order .egress).route (s.order .egress).address (s.order .egress).token
        (s.order .egress).limit := by
    rw [h.tunnel, h.egressUrl]
    rfl
  unfold runEgress
  rw [hdownload]
  refine (makes_download .egress).bind ?_
  rintro d log ⟨e, rfl, hp⟩
  cases d.result with
  | error fault =>
    exact .pure ⟨.nothing r (by simp [hp]), by simp [hp, egressLookups, Except.toOption]⟩
  | ok transfer =>
    refine (r.makes_machineIp hr).bind ?_
    rintro ⟨machineIp, r'⟩ log₁ ⟨hlearns, hmachine⟩
    refine (r'.makes_tunnelIp (hlearns.source.trans hr)).bind fun tunnelIp log₂ htunnel => ?_
    refine .pure ⟨?_, by simp [hp, hmachine, htunnel, egressLookups, Except.toOption]⟩
    rw [List.append_nil]
    exact .cons (by simp [hp]) (hlearns.append (by simp [htunnel]))

theorem makes_runUpstream (h : t.Asks s) (hr : r.source = .echo s.echo s.tunnel) (token : String) :
    Makes env s (t.runUpstream token r counters) fun run log =>
      run.resolver = r ∧ purposes log = upstreamErrands (some token) run.result.toOption := by
  have hdownload : download t.tunnel t.provider.speedUrl (some token) upstreamLimit =
      download (s.order (.upstream token)).route (s.order (.upstream token)).address
        (s.order (.upstream token)).token (s.order (.upstream token)).limit := by
    rw [h.tunnel, h.speedUrl]
    rfl
  unfold runUpstream
  rw [hdownload]
  refine (makes_download (.upstream token)).bind ?_
  rintro d log ⟨e, rfl, hp⟩
  cases d.result with
  | error fault => exact .pure ⟨rfl, by simp [hp, upstreamErrands, Except.toOption]⟩
  | ok transfer =>
    refine (r.makes_tunnelIp hr).bind fun tunnelIp log₁ htunnel => ?_
    exact .pure ⟨rfl, by simp [hp, htunnel, upstreamErrands, Except.toOption]⟩

@[simp] theorem localEgress_summary (now : Instant) (egress : Except FetchFault Segment)
    (upstream : Option (Except FetchFault Segment)) :
    (t.summary now egress upstream).localEgress = egress.toOption := rfl

/-- A speed test makes the errands for its first segment, then those for its second. -/
theorem makes_run (h : t.Asks s) (hr : r.source = .echo s.echo s.tunnel) (token : Option String) :
    Makes env s (t.run token r counters) fun found log =>
      Learns r (sourceOf found.1.localEgress) found.2.1 log ∧
        purposes log = .egress :: egressLookups r.machine.isSome found.1.localEgress ++
          upstreamErrands (usableToken token) found.1.upstream := by
  unfold run
  refine makes_readClock.quietly fun now => ?_
  refine (makes_runEgress h hr).bind fun egress log₁ ⟨hlearns, hegress⟩ => ?_
  cases usableToken token with
  | none => exact .pure ⟨by simpa using hlearns, by simpa [upstreamErrands] using hegress⟩
  | some token =>
    refine (makes_runUpstream h (hlearns.source.trans hr) token).bind ?_
    rintro upstream log₂ ⟨hresolver, hupstream⟩
    refine .pure ⟨?_, ?_⟩
    -- the second segment leaves the resolver as the first one left it
    · have hother : .machineIp ∉ purposes log₂ := by
        rw [hupstream, upstreamErrands]
        split <;> simp
      rw [hresolver]
      simpa using hlearns.append hother
    · rw [List.append_nil, purposes_append, hegress, hupstream]
      rfl

end Tester

end EgressWatch.Probe
