import EgressWatch.Proofs.Monitor.Probe
import EgressWatch.Proofs.Net.Address

/-!
# Which answers make the tunnel active

The tunnel counts as active when the texts of the two addresses differ. Different addresses have
different texts, so no active tunnel is missed; but one address of version 6 has many texts, and two
of them make the tunnel active although it presents the very address that is presented without it
(`spellings_activate_tunnel`). Those of version 4 have one text each, so the verdict is right
wherever one of the addresses is of that version:

> `activity_by_spelling`: the tunnel is active exactly if the two texts differ, always if the
> addresses do, and only then if one of them is of version 4.

A check goes by two answers of echo services (`GoesBy`). What an answer is taken for is its text
without the blanks around it (`spelling`), which is never read as an address and written again;
`tunnelActive_iff` brings the verdict of a check down to that, and from there it is a matter of how
addresses are spelled.

The monitors and networks that runs are shown on here and later stand at the end of this file: one
with everything asked of one server (`oneServerMonitor`), one whose configuration has a proxy
(`proxied`), and networks that show one text directly and another through the tunnel (`twoFaced`).
-/

namespace EgressWatch.Monitor

open Net Probe Time

/-- The text in an answer of an echo service that is taken for an address. -/
def spelling (answer : String) : String := String.ofList (Text.trim answer.toList)

/-- A check goes by two answers of echo services that hold an address: the machine's address is that
in the first, be it kept from before or asked for now, and the tunnel's is that in the second. -/
structure GoesBy (r : Resolver) (env : Environment) (trail : Trail)
    (first second : String) : Prop where
  machine : addressIn first = .ok (r.machineIp env trail).1.1
  tunnel : ∃ ip, addressIn second = .ok ip ∧
    ((r.machineIp env trail).1.2.tunnelIp env (r.machineIp env trail).2).1 = .ok ip

theorem tunnelIsActive_iff (machineIp tunnelIp : String) :
    tunnelIsActive machineIp tunnelIp = true ↔ tunnelIp ≠ "" ∧ tunnelIp ≠ machineIp := by
  simp [tunnelIsActive]

section Check

variable {m : Monitor} {env : Environment} {trail : Trail} {first second : String}

theorem tunnelActive_iff (h : GoesBy m.resolver env trail first second) :
    (m.probeStatus env trail).1.1.tunnelActive = true ↔ spelling first ≠ spelling second := by
  obtain ⟨ip, hip, htunnel⟩ := h.tunnel
  have hfirst := (addressIn_eq_ok h.machine).1
  have hsecond := (addressIn_eq_ok hip).1
  have hne : ip ≠ "" := ne_empty_of_addressIn hip
  rw [tunnelActive_probeStatus, tunnelIsActive_iff, tunnelIp_probeStatus, htunnel,
    machineIp_probeStatus]
  simp only [Except.toOption, Option.getD_some]
  rw [hfirst, hsecond] at *
  exact ⟨fun h => h.2.symm, fun h => ⟨hne, h.symm⟩⟩

/-- The tunnel is active exactly if its address and the machine's are spelled differently. It always
is if the addresses differ, and only then if one of them is of version 4; what remains are two
spellings of one address of version 6. -/
theorem activity_by_spelling (h : GoesBy m.resolver env trail first second) :
    let active := (m.probeStatus env trail).1.1.tunnelActive = true
    ∃ a b, Address.read? (spelling first) = some a ∧ Address.read? (spelling second) = some b ∧
      (active ↔ spelling first ≠ spelling second) ∧ (a ≠ b → active) ∧
      ((∃ n, a = .v4 n) ∨ (∃ n, b = .v4 n) → (active ↔ a ≠ b)) := by
  intro active
  obtain ⟨ip, hip, -⟩ := h.tunnel
  obtain ⟨hfirst, a, ha⟩ := addressIn_eq_ok h.machine
  obtain ⟨hsecond, b, hb⟩ := addressIn_eq_ok hip
  rw [hfirst] at ha
  rw [hsecond] at hb
  have hactive : active ↔ spelling first ≠ spelling second := tunnelActive_iff h
  have hmust : a ≠ b → active := by
    intro hab
    refine hactive.mpr fun hspell => hab (Option.some.inj ?_)
    rw [← ha, ← hb]
    exact congrArg Address.read? hspell
  refine ⟨a, b, ha, hb, hactive, hmust, fun hv4 => ⟨fun hact hab => ?_, hmust⟩⟩
  subst hab
  obtain ⟨n, rfl⟩ : ∃ n, a = .v4 n := hv4.elim id id
  exact hactive.mp hact (Address.eq_of_read?_v4 ha hb)

end Check

/-! ## Two networks -/

/-- A page with a text, at once. -/
def pageOf (body : String) : Reply :=
  .response { wait := 0, status := 200, phrase := "OK",
              chunks := [⟨0, Text.Utf8.encode body.toList⟩] }

/-- A network that shows one text directly and another through the tunnel, at an instant at which
time stands still. -/
def twoFaced (direct tunnel : String) : Environment where
  network requests := pageOf (if requests.head?.any (·.route == .direct) then direct else tunnel)
  clock _ := .epoch

/-- A configuration with a proxy. -/
def proxied : Config := { tunnel := { proxyUrl := some "http://192.0.2.9:3128" } }

theorem ofConfig_proxied : ofConfig proxied .epoch = .ok (withSources proxied .tunnel
    (.echo proxied.probe.ipCheckUrl .tunnel) (.register proxied.probe.asnLookupUrl) .epoch) := by
  have hproxy : (tunnelProxy proxied.tunnel.proxyUrl).toOption.map tunnelRoute = some .tunnel := by
    decide +kernel
  obtain ⟨proxy, hread, hroute⟩ := Option.map_eq_some_iff.mp hproxy
  rw [ofConfig_eq (eq_ok_of_toOption hread), hroute]

/-- A configuration that has one server asked for everything. -/
def oneServer (proxyUrl : Option String) : Config where
  tunnel := { proxyUrl }
  probe := { ipCheckUrl := "http://a/", seenIpUrl := "http://a/", asnLookupUrl := "http://a/",
             egressSpeedUrl := "http://a/" }
  upstream := { healthUrl := "http://a/", speedUrl := "http://a/" }

/-- A monitor that asks one server for everything, and takes this way for the tunnel. -/
def oneServerMonitor (route : Route) : Monitor :=
  withSources (oneServer none) route (.echo "http://a/" route) (.register "http://a/") .epoch

theorem ofConfig_oneServer :
    ofConfig (oneServer (some "http://b/")) .epoch = .ok (oneServerMonitor .tunnel) := by
  have hproxy : (tunnelProxy (some "http://b/")).toOption.map tunnelRoute = some .tunnel := by
    decide +kernel
  obtain ⟨proxy, hread, hroute⟩ := Option.map_eq_some_iff.mp hproxy
  have hset : tunnelProxy (oneServer (some "http://b/")).tunnel.proxyUrl = .ok proxy :=
    eq_ok_of_toOption hread
  rw [ofConfig_eq hset, hroute]
  rfl

/-- An address of version 6 without the tunnel and one of version 4 behind it, with blanks around
them. -/
theorem activity_by_spelling_two_versions :
    let env := twoFaced "\n2001:db8::1" " 198.51.100.7\n"
    ∃ m, ofConfig proxied .epoch = .ok m ∧
      GoesBy m.resolver env {} "\n2001:db8::1" " 198.51.100.7\n" ∧
      (m.probeStatus env {}).1.1.tunnelActive = true := by
  intro env
  refine ⟨_, ofConfig_proxied, ?_⟩
  have hgoes : GoesBy (withSources proxied .tunnel (.echo proxied.probe.ipCheckUrl .tunnel)
      (.register proxied.probe.asnLookupUrl) .epoch).resolver env {} "\n2001:db8::1"
      " 198.51.100.7\n" :=
    ⟨eq_ok_of_toOption (by decide +kernel), "198.51.100.7", eq_ok_of_toOption (by decide +kernel),
      eq_ok_of_toOption (by decide +kernel)⟩
  obtain ⟨a, b, -, -, hactive, -⟩ := activity_by_spelling hgoes
  exact ⟨hgoes, hactive.mpr (by decide +kernel)⟩

/-- Two spellings of one address make the tunnel active. -/
theorem spellings_activate_tunnel :
    let env := twoFaced "2001:db8::1\n" "2001:DB8::1\n"
    ∃ m, ofConfig proxied .epoch = .ok m ∧
      GoesBy m.resolver env {} "2001:db8::1\n" "2001:DB8::1\n" ∧
      Address.read? (spelling "2001:db8::1\n") = Address.read? (spelling "2001:DB8::1\n") ∧
      (m.probeStatus env {}).1.1.tunnelActive = true := by
  intro env
  refine ⟨_, ofConfig_proxied, ⟨?_, "2001:DB8::1", ?_, ?_⟩, ?_, ?_⟩
  · exact eq_ok_of_toOption (by decide +kernel)
  · exact eq_ok_of_toOption (by decide +kernel)
  · exact eq_ok_of_toOption (by decide +kernel)
  · decide +kernel
  · decide +kernel

end EgressWatch.Monitor
