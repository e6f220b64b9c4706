import EgressWatch.Probe.Speed
import EgressWatch.Proofs.Probe.Lookup

/-!
# What a speed test leaves behind

A speed test looks at the clock once, before it starts, and that is the instant that it bears
(`testedAt_run`, `readings_run`). The resolver comes out of it as it went in or as asking for the
machine's address leaves it, and in that case the address is told in the first segment
(`run_cases`): that of the tunnel, which is asked for as well, is never kept. What it downloads is
counted in one place (`counters_run`), be it all of a download or not.

Each is shown of the two segments first (`runEgress_cases`, `counters_runUpstream` and others) and
then of the whole, with a token and without one. What exactly is counted is a longer story, and told
in the module on downloads.
-/

namespace EgressWatch.Probe

open Net Time

theorem timeless_download (route : Route) (address : String) (token : Option String)
    (limit : Span) : Timeless (download route address token limit) := by
  unfold download
  refine .bind (timeless_fetch _ _ _ _) fun page => ?_
  split
  next => exact .pure _
  next => exact .pure _

namespace Tester

variable (t : Tester) (r : Resolver) (counters : Counters)

theorem timeless_runEgress : Timeless (t.runEgress r counters) := by
  unfold runEgress
  refine .bind (timeless_download _ _ _ _) fun d => ?_
  dsimp only
  split
  next => exact .pure _
  next =>
    refine .bind r.timeless_machineIp fun found => ?_
    exact .bind found.2.timeless_tunnelIp fun tunnelIp => .pure _

theorem timeless_runUpstream (token : String) : Timeless (t.runUpstream token r counters) := by
  unfold runUpstream
  refine .bind (timeless_download _ _ _ _) fun d => ?_
  dsimp only
  split
  next => exact .pure _
  next => exact .bind r.timeless_tunnelIp fun tunnelIp => .pure _

/-- The first segment is measured from the machine's address, and only if it is measured that is
asked for. -/
theorem runEgress_cases (env : Environment) (trail : Trail) :
    ((t.runEgress r counters env trail).1.resolver = r ∧
      ∃ fault, (t.runEgress r counters env trail).1.result = .error fault) ∨
    ∃ trail' segment,
      (t.runEgress r counters env trail).1.resolver = (r.machineIp env trail').1.2 ∧
      (t.runEgress r counters env trail).1.result = .ok segment ∧
      segment.sourceIp = (r.machineIp env trail').1.1 := by
  unfold runEgress
  rw [Action.run_bind]
  cases (download t.tunnel t.egressUrl none egressLimit env trail).1.result with
  | error fault => exact .inl ⟨rfl, fault, rfl⟩
  | ok transfer => exact .inr ⟨_, _, rfl, rfl, rfl⟩

theorem resolver_runUpstream (token : String) (env : Environment) (trail : Trail) :
    (t.runUpstream token r counters env trail).1.resolver = r := by
  unfold runUpstream
  rw [Action.run_bind]
  cases (download t.tunnel t.provider.speedUrl (some token) upstreamLimit env trail).1.result with
  | error fault => rfl
  | ok transfer => rfl

/-- What has arrived of a download is counted, be it all or not. -/
theorem counters_runEgress (env : Environment) (trail : Trail) : ∃ arrived,
    (t.runEgress r counters env trail).1.counters = counters.addSpeedTest arrived := by
  unfold runEgress
  rw [Action.run_bind]
  generalize download t.tunnel t.egressUrl none egressLimit env trail = d
  refine ⟨d.1.arrived, ?_⟩
  cases d.1.result with
  | error fault => rfl
  | ok transfer => rfl

theorem counters_runUpstream (token : String) (env : Environment) (trail : Trail) : ∃ arrived,
    (t.runUpstream token r counters env trail).1.counters = counters.addSpeedTest arrived := by
  unfold runUpstream
  rw [Action.run_bind]
  generalize download t.tunnel t.provider.speedUrl (some token) upstreamLimit env trail = d
  refine ⟨d.1.arrived, ?_⟩
  cases d.1.result with
  | error fault => rfl
  | ok transfer => rfl

variable (token : Option String) (env : Environment) (trail : Trail)

/-- A speed test does no more to the resolver than asking for the machine's address, and tells the
address in its first segment. -/
theorem run_cases :
    ((t.run token r counters env trail).1.2.1 = r ∧
      (t.run token r counters env trail).1.1.localEgress = none) ∨
    ∃ trail' segment, (t.run token r counters env trail).1.2.1 = (r.machineIp env trail').1.2 ∧
      (t.run token r counters env trail).1.1.localEgress = some segment ∧
      segment.sourceIp = (r.machineIp env trail').1.1 := by
  have hegress := t.runEgress_cases r counters env { trail with readings := trail.readings + 1 }
  have hrun : (t.run token r counters env trail).1.2.1 =
        (t.runEgress r counters env { trail with readings := trail.readings + 1 }).1.resolver ∧
      (t.run token r counters env trail).1.1.localEgress =
        (t.runEgress r counters env
          { trail with readings := trail.readings + 1 }).1.result.toOption := by
    unfold run
    rw [Action.run_bind, Action.run_bind]
    cases usableToken token with
    | none => exact ⟨rfl, rfl⟩
    | some token =>
      dsimp only
      rw [Action.run_bind, Action.run_pure, resolver_runUpstream]
      exact ⟨rfl, rfl⟩
  rw [hrun.1, hrun.2]
  rcases hegress with ⟨hresolver, fault, hresult⟩ | ⟨trail', segment, hresolver, hresult, hsource⟩
  · exact .inl ⟨hresolver, by rw [hresult]; rfl⟩
  · exact .inr ⟨trail', segment, hresolver, by rw [hresult]; rfl, hsource⟩

theorem testedAt_run :
    (t.run token r counters env trail).1.1.testedAt = env.clock trail.readings := by
  unfold run
  rw [Action.run_bind, Action.run_bind]
  cases usableToken token with
  | none => rfl
  | some token => rfl

theorem readings_run : (t.run token r counters env trail).2.readings = trail.readings + 1 := by
  unfold run
  rw [Action.run_bind, Action.run_bind]
  have hegress := t.timeless_runEgress r counters env
    { trail with readings := trail.readings + 1 }
  cases usableToken token with
  | none => exact hegress
  | some token =>
    dsimp only
    rw [Action.run_bind, Action.run_pure, timeless_runUpstream]
    exact hegress

/-- A speed test counts what it downloads and nothing else. -/
theorem counters_run : ∃ arrived,
    (t.run token r counters env trail).1.2.2 = counters.addSpeedTest arrived := by
  unfold run
  rw [Action.run_bind, Action.run_bind]
  obtain ⟨arrived, hegress⟩ := t.counters_runEgress r counters env
    { trail with readings := trail.readings + 1 }
  cases usableToken token with
  | none => exact ⟨arrived, hegress⟩
  | some token =>
    dsimp only
    rw [Action.run_bind, Action.run_pure]
    obtain ⟨more, hupstream⟩ := t.counters_runUpstream _ _ token env _
    refine ⟨arrived + more, hupstream.trans ?_⟩
    have hsum : (counters.addSpeedTest arrived).addSpeedTest more =
        counters.addSpeedTest (arrived + more) := by
      simp only [Counters.addSpeedTest, UInt64.add_assoc]
    rw [← hsum, ← hegress]
    rfl

end Tester

end EgressWatch.Probe
