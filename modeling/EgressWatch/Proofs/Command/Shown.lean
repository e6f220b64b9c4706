import EgressWatch.Proofs.Api.Run
import EgressWatch.Proofs.Command.History
import EgressWatch.Proofs.Snapshot.Rearranged

/-!
# Snapshots as they are shown

A snapshot is kept as the text of its members in the order of its fields, and shown among others
with its members sorted. Both forms have the same members, so whoever reads the one reads the other:

> `forms_alike`: what is read depends on neither the order of members nor on members that are not
> known, only no declared key may stand twice.

That texts which list the members of a snapshot read as the snapshot is proved with snapshots; here
it is carried to where they are shown. Two places sort what they show, and in both the sorting goes
through a list or an optional value to each snapshot by itself: what was found last
(`cachedJson_eq`) and history (`historyJson_eq`). The service answers with the first when asked for
it (`Service.answer_cached`), and with the second, which the command prints as well.

`forms_alike_reversed` is a text far from what is written: a stranger first, all members from the
last to the first, and the members of the segment as well.
-/

namespace EgressWatch

open Json

namespace Api

/-- What was found last is shown with the members of each snapshot sorted. -/
theorem cachedJson_eq (status : Option Status) (test : Option SpeedTest) :
    cachedJson status test = .object [("speed_test", .optional (·.toJson.sorted) test),
      ("status", .optional (·.toJson.sorted) status)] := by
  have hle : ¬ "status" ≤ "speed_test" := by decide +kernel
  simp [cachedJson, sorted, sortedMembers, sorted_optional, List.mergeSort, hle]

/-- History is shown with the members of each record sorted. -/
theorem historyJson_eq (statuses : List Status) (tests : List SpeedTest) :
    historyJson statuses tests = .object [("speed_tests", .list (tests.map (·.toJson.sorted))),
      ("statuses", .list (statuses.map (·.toJson.sorted)))] := by
  have hle : ¬ "statuses" ≤ "speed_tests" := by decide +kernel
  simp [historyJson, sorted, sortedMembers, sortedItems_eq, List.mergeSort, hle]

theorem Service.answer_cached (s : Service) (r : Request) (env : Net.Environment)
    (trail : Net.Trail) (hr : r.handler? = some .cached) : (s.answer r env trail).1.1 =
      sent r (.json (cachedJson s.monitor.lastStatus s.monitor.lastSpeedTest)) := by
  rw [s.answer_handled trail hr]
  rfl

end Api

open Command Net Time

/-- A text that lists the members of a snapshot in any order, those of its segments too, among
others whose keys are not declared, reads as the snapshot; with a second member of a declared key,
be it in a segment, it does not read. So the members may be rearranged, and the value be written
without space or in lines. Sorted at every depth they are the same members, and so they stand in
what the service shows of the last snapshots, and in the history that it shows and the command
prints. -/
theorem Snapshot.forms_alike :
    let history (statuses : List Status) (tests : List SpeedTest) : Json :=
      .object [("speed_tests", .list (tests.map (·.toJson.sorted))),
        ("statuses", .list (statuses.map (·.toJson.sorted)))]
    (∀ s : Snapshot, s.Faithful →
      (∀ entries text, s.Listed entries → Spaced (ObjectText entries) text.toList →
        decode s.kind text = .ok s) ∧
      (∀ entries entries' k v text, s.Listed entries → k ∈ s.kind.declared →
        k ∈ entries.map Prod.fst → Valid .element v → entries'.Perm ((k, v) :: entries) →
        Spaced (ObjectText entries') text.toList → ∃ fault, decode s.kind text = .error fault) ∧
      (∀ v text, Rearranged s.toJson v → Spaced (Written v) text.toList →
        decode s.kind text = .ok s) ∧
      Rearranged s.toJson s.toJson.sorted ∧ s.toJson.sorted.InOrder) ∧
    (∀ kind entries text, Kind.Doubled kind entries → (∀ e ∈ entries, Valid .element e.2) →
      Spaced (ObjectText entries) text.toList → ∃ fault, decode kind text = .error fault) ∧
    (∀ (service : Api.Service) request env trail, request.handler? = some .cached →
      (service.answer request env trail).1.1 = Api.Service.sent request (.json (.object [
        ("speed_test", .optional (·.toJson.sorted) service.monitor.lastSpeedTest),
        ("status", .optional (·.toJson.sorted) service.monitor.lastStatus)]))) ∧
    (∀ (service : Api.Service) t request window env trail, service.database = ⟨some t⟩ →
      request.handler? = some .history →
      Api.queryWindow (request.values Api.rangeName) = .ok window →
      (service.answer request env trail).1.1 = Api.Service.sent request (.json (history
        (t.recentStatuses (env.clock trail.readings) window)
        (t.recentSpeedTests (env.clock (trail.readings + 1)) window)))) ∧
    ∀ host disk arguments range config t window env trail,
      AsksToPrint host disk arguments range config t → window? range = some window →
      let left := (t.pruneOlderThan (env.clock trail.readings) config.retention.maxAge).2
      (runLine host disk arguments env trail).1.1 = { code := 0, out := (history
        (left.recentStatuses (env.clock (trail.readings + 1)) window)
        (left.recentSpeedTests (env.clock (trail.readings + 2)) window)).pretty ++ "\n" } := by
  intro history
  refine ⟨fun s hs => ⟨?_, ?_, ?_, rearranged_sorted _, inOrder_sorted _⟩, ?_, ?_, ?_, ?_⟩
  · intro entries text hl htext
    exact decode_listed hs hl htext
  · intro entries entries' k v text hl hk hmem hv hp htext
    have hvalid : ∀ e ∈ entries', Valid .element e.2 := by
      intro e he
      rcases List.mem_cons.mp (hp.mem_iff.mp he) with rfl | he
      · exact hv
      · exact hl.valid e he
    exact decode_doubled (.of_twice (twice_of_perm hk hmem hp)) hvalid htext
  · intro v text hv htext
    exact decode_rearranged hs hv htext
  · intro kind entries text hd hvalid htext
    exact decode_doubled hd hvalid htext
  · intro service request env trail hr
    rw [service.answer_cached request env trail hr, Api.cachedJson_eq]
  · intro service t request window env trail ht hr hwindow
    rw [service.answer_history trail hr hwindow ht, Api.historyJson_eq]
  · intro host disk arguments range config t window env trail hprint hwindow left
    rw [hprint.printed hwindow, Api.historyJson_eq]

/-- A member that is not known stands before those of a speed test, which are there from the last to
the first, and so in its segment. The service has found nothing else, and its table is empty. -/
theorem Snapshot.forms_alike_reversed :
    let noon : Instant := { day := 19730, second := 43200, nano := 0 }
    let t : SpeedTest := ⟨none, some ⟨93.5, 12, 125000000, "10.0.0.2", none⟩, 12, noon, none⟩
    let measured : List (String × Json) := [("speed_mbps", .real 93.5), ("latency_ms", .word 12),
      ("bytes_transferred", .word 125000000), ("source_ip", .text "10.0.0.2")]
    let upstream := ("hops", .list [.object [("", .null)]]) :: measured.reverse
    let twice := ("latency_ms", .word 0) :: measured
    let found : List (String × Json) := [("upstream", .object upstream),
      ("total_latency_ms", .word 12), ("tested_at", .instant noon)]
    let listing := ("Upstream", .list [.list []]) :: found.reverse
    let text := "\x7b\"Upstream\":[[]],\"tested_at\":\"2024-01-08T12:00:00Z\"," ++
      "\"total_latency_ms\":12,\"upstream\":\x7b\"hops\":[\x7b\"\":null\x7d]," ++
      "\"source_ip\":\"10.0.0.2\",\"bytes_transferred\":125000000,\"latency_ms\":12," ++
      "\"speed_mbps\":93.5\x7d\x7d"
    let host : Command.Host := { configVariable := none, refusal := fun _ => none }
    let disk : Store.Disk := { entries := [(["data", "tunnelmon.db"], .database ⟨some {}⟩)] }
    let monitor : Monitor :=
      { Monitor.withSources {} .direct (.echo "" .direct) (.register "") noon with
        lastSpeedTest := some t }
    let service : Api.Service := ⟨monitor, ⟨some {}⟩, {}⟩
    let cached : Api.Request := { method := "GET", target := "/status/api/cached" }
    let history : Api.Request := { method := "GET", target := "/status/api/history?range=7d" }
    let env : Environment := { network := .unreachable, clock := fun _ => noon }
    let arguments := ["history", "--range", "7d"]
    (speedTest t).Faithful ∧
      decode .speedTest text = .ok (speedTest t) ∧
      (∃ fault, decode .speedTest (Json.object (("upstream", .null) :: listing)).compact =
        .error fault) ∧
      (∃ fault, decode .speedTest (Json.object
        (("upstream", .object twice) :: found.tail)).compact = .error fault) ∧
      decode .speedTest t.toJson.sorted.compact = .ok (speedTest t) ∧
      (service.answer cached env {}).1.1.body =
        (Json.object [("speed_test", t.toJson.sorted), ("status", .null)]).compact ∧
      (service.answer history env {}).1.1.body = "\x7b\"speed_tests\":[],\"statuses\":[]\x7d" ∧
      AsksToPrint host disk arguments "7d" {} {} ∧
      (runLine host disk arguments env {}).1.1 =
        { code := 0, out := "\x7b\n  \"speed_tests\": [],\n  \"statuses\": []\n\x7d\n" } := by
  intro noon t measured upstream twice found listing text host disk monitor service cached history
    env arguments
  have hfaithful : (speedTest t).Faithful := by
    intro s hs
    rw [show s = _ from by simpa [t, SpeedTest.segments] using hs]
    decide +kernel
  have htext : text = (Json.object listing).compact := by decide +kernel
  have hperm (m : String × Json) (ms : List (String × Json)) :
      (m :: ms.reverse).Perm (ms ++ [m]) :=
    ((List.reverse_perm ms).cons m).trans (List.perm_append_singleton m ms).symm
  have hsegment : Segment.Spelled (.object measured) (compactText (.object upstream)) := by
    refine ⟨_, _, rfl, lists_compact measured [_] (hperm _ _) ?_ ?_, objectText_compact upstream⟩
    · exact .cons ⟨rfl, .written _⟩ (.cons ⟨rfl, .written _⟩
        (.cons ⟨rfl, .written _⟩ (.cons ⟨rfl, .written _⟩ .nil)))
    · exact List.forall_mem_singleton.mpr (by decide)
  have hlisted : (speedTest t).Listed (listing.map fun m => (m.1, compactText m.2)) := by
    refine ⟨_, rfl, lists_compact found [_] (hperm _ _) ?_ ?_⟩
    · exact .cons ⟨rfl, .inr hsegment⟩ (.cons ⟨rfl, .inl (.written _)⟩
        (.cons ⟨rfl, .inl (.written _)⟩ .nil))
    · exact List.forall_mem_singleton.mpr (by decide)
  have hprint : AsksToPrint host disk arguments "7d" {} {} := by
    refine ⟨⟨none, rfl, ?_⟩, ?_⟩
    · exact congrArg Except.ok (by decide +kernel)
    · exact eq_ok_of_toOption (by decide +kernel)
  have hvalid (ms : List (String × Json)) :
      ∀ e ∈ ms.map fun m => (m.1, compactText m.2), Valid .element e.2 :=
    List.forall_mem_map.mpr fun m _ => (valid_compactText m.2).bare
  obtain ⟨hforms, hdoubled, hcached, hhistory, hprinted⟩ := forms_alike
  obtain ⟨hlists, hsecond, hanyhow, hsame, -⟩ := hforms (speedTest t) hfaithful
  refine ⟨hfaithful, ?_, ?_, ?_, ?_, ?_, ?_, hprint, ?_⟩
  · exact hlists _ text hlisted (htext ▸ spaced_compact listing)
  · exact hsecond _ _ "upstream" (compactText .null) _ hlisted (by decide) (by decide)
      (valid_compactText _).bare (.refl _) (spaced_compact (("upstream", .null) :: listing))
  · refine hdoubled .speedTest _ _ ?_ (hvalid (("upstream", .object twice) :: found.tail))
      (spaced_compact _)
    exact .inr ⟨_, List.mem_cons_self, .inr rfl, _, hvalid twice, .self (objectText_compact twice),
      "latency_ms", by decide, by decide⟩
  · refine hanyhow _ _ hsame (.self ?_)
    rw [compact, String.toList_ofList]
    exact .compact
  · rw [hcached service cached env {} (by decide +kernel)]
    rfl
  · rw [hhistory service {} history (.ofHours 168) env {} rfl (by decide +kernel)
      (by decide +kernel)]
    decide +kernel
  · rw [hprinted host disk arguments "7d" {} {} (.ofHours 168) env {} hprint (by decide +kernel)]
    decide +kernel

end EgressWatch
