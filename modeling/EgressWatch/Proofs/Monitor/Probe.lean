import EgressWatch.Monitor
import EgressWatch.Proofs.Probe.Speed

/-!
# Probes of a monitor

What each probe makes of a monitor, field by field. A status check and a speed test leave the
resolver as looking addresses up leaves it (`resolver_probeStatus`, `probeSpeedTest_cases`), put
what they found into their own place and no other (`lastStatus_probeStatus`,
`lastSpeedTest_probeSpeedTest`), and look at the clock once, which is the time that their snapshot
bears (`checkedAt_probeStatus`, `testedAt_probeSpeedTest`); asking for the machine's address leaves
both places alone.

Most of these lemmas hold by definition and are used for rewriting, so that what is said of runs
later does not open the probes again. A speed test is told in two cases: without a first segment it
has asked nobody for an address, and with one it has, some time after it began.
-/

namespace EgressWatch.Monitor

open Net Probe Time

/-- A configuration whose proxy can be used makes a monitor. -/
theorem ofConfig_eq {config : Config} {proxy : Option Url}
    (h : tunnelProxy config.tunnel.proxyUrl = .ok proxy) (now : Instant) :
    ofConfig config now = .ok (withSources config (tunnelRoute proxy)
      (.echo config.probe.ipCheckUrl (tunnelRoute proxy))
      (.register config.probe.asnLookupUrl) now) := by
  rw [ofConfig, h]
  rfl

variable (m : Monitor) (token : Option String) (env : Environment) (trail : Trail)

/-! ## Status checks -/

@[simp] theorem resolver_probeStatus : (m.probeStatus env trail).1.2.resolver =
    (m.resolver.machineIp env trail).1.2 := rfl

@[simp] theorem lastStatus_probeStatus :
    (m.probeStatus env trail).1.2.lastStatus = some (m.probeStatus env trail).1.1 := rfl

@[simp] theorem lastSpeedTest_probeStatus :
    (m.probeStatus env trail).1.2.lastSpeedTest = m.lastSpeedTest := rfl

@[simp] theorem machineIp_probeStatus :
    (m.probeStatus env trail).1.1.machineIp = (m.resolver.machineIp env trail).1.1 := rfl

theorem tunnelIp_probeStatus : (m.probeStatus env trail).1.1.tunnelIp =
    ((m.resolver.machineIp env trail).1.2.tunnelIp env
      (m.resolver.machineIp env trail).2).1.toOption.getD "" := rfl

/-- The status that a check finds goes by the two addresses that it looks up. -/
theorem tunnelActive_probeStatus : (m.probeStatus env trail).1.1.tunnelActive =
    tunnelIsActive (m.probeStatus env trail).1.1.machineIp
      (m.probeStatus env trail).1.1.tunnelIp := rfl

theorem checkedAt_probeStatus :
    (m.probeStatus env trail).1.1.checkedAt = env.clock trail.readings := by
  unfold probeStatus
  rw [Action.run_bind, Checker.check_eq]
  rfl

theorem readings_probeStatus :
    (m.probeStatus env trail).2.readings = trail.readings + 1 := by
  unfold probeStatus
  rw [Action.run_bind, Checker.check_eq]
  rfl

/-! ## Speed tests -/

@[simp] theorem lastStatus_probeSpeedTest :
    (m.probeSpeedTest token env trail).1.2.lastStatus = m.lastStatus := rfl

@[simp] theorem lastSpeedTest_probeSpeedTest :
    (m.probeSpeedTest token env trail).1.2.lastSpeedTest =
      some (m.probeSpeedTest token env trail).1.1 := rfl

theorem probeSpeedTest_cases :
    ((m.probeSpeedTest token env trail).1.2.resolver = m.resolver ∧
      (m.probeSpeedTest token env trail).1.1.localEgress = none) ∨
    ∃ trail' segment,
      (m.probeSpeedTest token env trail).1.2.resolver = (m.resolver.machineIp env trail').1.2 ∧
      (m.probeSpeedTest token env trail).1.1.localEgress = some segment ∧
      segment.sourceIp = (m.resolver.machineIp env trail').1.1 :=
  m.tester.run_cases m.resolver m.counters token env trail

theorem testedAt_probeSpeedTest :
    (m.probeSpeedTest token env trail).1.1.testedAt = env.clock trail.readings :=
  m.tester.testedAt_run m.resolver m.counters token env trail

theorem readings_probeSpeedTest :
    (m.probeSpeedTest token env trail).2.readings = trail.readings + 1 :=
  m.tester.readings_run m.resolver m.counters token env trail

theorem counters_probeSpeedTest : ∃ arrived,
    (m.probeSpeedTest token env trail).1.2.counters = m.counters.addSpeedTest arrived :=
  m.tester.counters_run m.resolver m.counters token env trail

/-! ## The machine's address -/

@[simp] theorem resolver_machineIp : (m.machineIp env trail).1.2.resolver =
    (m.resolver.machineIp env trail).1.2 := rfl

@[simp] theorem lastStatus_machineIp :
    (m.machineIp env trail).1.2.lastStatus = m.lastStatus := rfl

@[simp] theorem lastSpeedTest_machineIp :
    (m.machineIp env trail).1.2.lastSpeedTest = m.lastSpeedTest := rfl

theorem timeless_machineIp : Timeless m.machineIp :=
  .bind m.resolver.timeless_machineIp fun _ => .pure _

end EgressWatch.Monitor
