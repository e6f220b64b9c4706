import EgressWatch.Toml.Tree
import Mathlib.Data.List.Nodup

/-!
# Tables have each key once

Every step in the construction of a document keeps its tables well formed: integers are of 64 bits,
and no key stands twice in a table, at whatever depth (`Toml.WellFormed`). In a well-formed table
what is found under a key is all that stands under it (`find?_eq_some_iff`), so that a lookup can be
read as membership from here on.

A table under construction knows of its entries where they come from, which a finished one does not.
It counts as well formed if it would be as a finished one (`Entries.WellFormed`), and the three
things that are ever done to its entries keep it so: something is added under a key that is missing
(`Entries.WellFormed.add`), is put in the place of what stands under the same key
(`Entries.WellFormed.replace`), or is taken away (`Entries.WellFormed.without`).

Changes deeper down go through `Entries.update`, which walks a path through tables and the last
elements of arrays. There is one induction on the path, for all changes at once:

> `Entries.WellFormed.update`: a change of the innermost table that keeps it well formed keeps the
> whole well formed.

A draft has two such tables, what is settled and the table that is being filled
(`Draft.WellFormed`). Each of its operations is an update or two, so what is true of the draft at
first (`wellFormed_empty`) stays true up to the finished document (`Draft.WellFormed.finish`).
-/

namespace EgressWatch.Toml

/-- An integer of 64 bits. -/
def IsWord (n : Int) : Prop := -9223372036854775808 ≤ n ∧ n ≤ 9223372036854775807

/-- A value as documents hold it: integers are of 64 bits, and no table has a key twice. -/
inductive WellFormed : Toml → Prop
  | text (s : String) : WellFormed (.text s)
  | integer {n : Int} (h : IsWord n) : WellFormed (.integer n)
  | real (x : Float) : WellFormed (.real x)
  | flag (b : Bool) : WellFormed (.flag b)
  | moment (s : String) : WellFormed (.moment s)
  | list {items : List Toml} (h : ∀ v ∈ items, WellFormed v) : WellFormed (.list items)
  | table {entries : List (String × Toml)} (hkeys : (entries.map Prod.fst).Nodup)
      (h : ∀ e ∈ entries, WellFormed e.2) : WellFormed (.table entries)

/-! ## What stands under a key -/

section Keys

variable {α : Type} {es : List (String × α)} {key : String}

theorem mem_of_found {a : α} (h : (es.find? fun e => e.1 == key).map (·.2) = some a) :
    (key, a) ∈ es := by
  obtain ⟨⟨k, b⟩, hfind, rfl⟩ := Option.map_eq_some_iff.mp h
  have hkey := List.find?_some hfind
  obtain rfl : k = key := eq_of_beq hkey
  exact List.mem_of_find?_eq_some hfind

theorem not_mem_keys_of_not_found (h : (es.find? fun e => e.1 == key).map (·.2) = none) :
    key ∉ es.map Prod.fst := by
  rw [Option.map_eq_none_iff, List.find?_eq_none] at h
  intro hmem
  obtain ⟨e, he, hkey⟩ := List.mem_map.mp hmem
  exact h e he (beq_iff_eq.mpr hkey)

namespace WellFormed

variable {es : List (String × Toml)} {v : Toml}

theorem of_mem (h : WellFormed (.table es)) (hv : (key, v) ∈ es) : v.WellFormed := by
  cases h with
  | table hkeys hvalues => exact hvalues _ hv

/-- What is found under a key is all that stands under it. -/
theorem find?_eq_some_iff (h : WellFormed (.table es)) :
    find? key es = some v ↔ (key, v) ∈ es := by
  cases h with
  | table hkeys =>
    refine ⟨mem_of_found, fun hmem => ?_⟩
    cases hfind : find? key es with
    | none =>
      exact absurd (List.mem_map_of_mem (f := Prod.fst) hmem) (not_mem_keys_of_not_found hfind)
    | some w =>
      have heq := List.inj_on_of_nodup_map hkeys (mem_of_found hfind) hmem rfl
      rw [(Prod.mk.inj heq).2]

end WellFormed

end Keys

/-! ## Finished tables -/

theorem tomlEntries_eq_map (es : List (String × Node)) :
    tomlEntries es = es.map fun e => (e.1, e.2.toToml) := by
  induction es with
  | nil => rfl
  | cons e es ih => rw [tomlEntries, ih, List.map_cons]

theorem tomlTables_eq_map (elements : List (List (String × Node))) :
    tomlTables elements = elements.map fun es => .table (tomlEntries es) := by
  induction elements with
  | nil => rfl
  | cons es elements ih => rw [tomlTables, ih, List.map_cons]

namespace Entries

/-- A table under construction is well formed if it would be as a finished one. -/
def WellFormed (es : Entries) : Prop := Toml.WellFormed (.table (tomlEntries es))

theorem wellFormed_iff {es : Entries} :
    es.WellFormed ↔ (es.map Prod.fst).Nodup ∧ ∀ e ∈ es, e.2.toToml.WellFormed := by
  have hkeys : (tomlEntries es).map Prod.fst = es.map Prod.fst := by
    rw [tomlEntries_eq_map, List.map_map]
    rfl
  have hvalues : (∀ e ∈ tomlEntries es, e.2.WellFormed) ↔ ∀ e ∈ es, e.2.toToml.WellFormed := by
    rw [tomlEntries_eq_map, List.forall_mem_map]
  rw [← hkeys, ← hvalues]
  constructor
  · rintro (_ | _ | _ | _ | _ | _ | ⟨hkeys, hvalues⟩)
    exact ⟨hkeys, hvalues⟩
  · rintro ⟨hkeys, hvalues⟩
    exact .table hkeys hvalues

theorem wellFormed_nil : WellFormed [] :=
  wellFormed_iff.mpr ⟨List.nodup_nil, List.forall_mem_nil _⟩

/-- What stands in the place of something else stands under its key. -/
theorem map_fst_replace (es : Entries) (key : String) (n : Node) :
    (replace es key n).map Prod.fst = es.map Prod.fst := by
  rw [replace, List.map_map]
  refine List.map_congr_left fun e _ => ?_
  by_cases hkey : e.1 = key
  · simp [hkey]
  · simp [hkey]

namespace WellFormed

variable {es : Entries} {key : String} {n : Node}

theorem of_find? (h : es.WellFormed) (hfind : find? es key = some n) : n.toToml.WellFormed :=
  (wellFormed_iff.mp h).2 _ (mem_of_found hfind)

/-- Something is added under a key that is missing. -/
theorem add (h : es.WellFormed) (hfind : find? es key = none) (hn : n.toToml.WellFormed) :
    WellFormed (es ++ [(key, n)]) := by
  obtain ⟨hkeys, hvalues⟩ := wellFormed_iff.mp h
  refine wellFormed_iff.mpr ⟨?_, ?_⟩
  · rw [List.map_append]
    exact hkeys.append (List.nodup_singleton key)
      (List.disjoint_singleton.mpr (not_mem_keys_of_not_found hfind))
  · rw [List.forall_mem_append, List.forall_mem_singleton]
    exact ⟨hvalues, hn⟩

theorem replace (h : es.WellFormed) (hn : n.toToml.WellFormed) :
    WellFormed (es.replace key n) := by
  obtain ⟨hkeys, hvalues⟩ := wellFormed_iff.mp h
  refine wellFormed_iff.mpr ⟨?_, ?_⟩
  · rw [map_fst_replace]
    exact hkeys
  · refine List.forall_mem_map.mpr fun e he => ?_
    split
    next => exact hn
    next => exact hvalues e he

theorem without (h : es.WellFormed) : WellFormed (es.without key) := by
  obtain ⟨hkeys, hvalues⟩ := wellFormed_iff.mp h
  refine wellFormed_iff.mpr ⟨hkeys.sublist (List.filter_sublist.map _), fun e he => ?_⟩
  exact hvalues e (List.mem_filter.mp he).1

/-- The elements of an array of tables are well formed one by one. -/
theorem tables_iff {elements : List Entries} :
    (Node.tables elements).toToml.WellFormed ↔ ∀ es ∈ elements, WellFormed es := by
  rw [Node.toToml, tomlTables_eq_map]
  constructor
  · rintro (_ | _ | _ | _ | _ | h)
    exact fun es hes => h _ (List.mem_map_of_mem hes)
  · intro h
    exact .list (List.forall_mem_map.mpr h)

/-- A change of the table at the end of a path that keeps well formed what it is made to keeps the
whole well formed. The induction is on the path. -/
theorem update {α : Type} {P : α → Prop} {byKey : Bool}
    {change : Origin → Entries → Option (α × Entries)}
    (hchange : ∀ origin inner a inner', WellFormed inner →
      change origin inner = some (a, inner') → P a ∧ WellFormed inner')
    {path : List String} {origin : Origin} {es' : Entries} {a : α} (h : es.WellFormed)
    (hu : es.update byKey change path origin = some (a, es')) : P a ∧ es'.WellFormed := by
  induction path generalizing origin es es' with
  | nil => exact hchange origin es a es' h hu
  | cons key path ih =>
    unfold Entries.update at hu
    split at hu
    next hfind =>
      obtain ⟨⟨b, inner⟩, hinner, heq⟩ := Option.map_eq_some_iff.mp hu
      obtain ⟨rfl, rfl⟩ := Prod.mk.inj heq
      obtain ⟨ha, hinner⟩ := ih wellFormed_nil hinner
      exact ⟨ha, h.add hfind hinner⟩
    next => exact absurd hu nofun
    next hfind =>
      split at hu
      next => exact absurd hu nofun
      next =>
        obtain ⟨⟨b, inner⟩, hinner, heq⟩ := Option.map_eq_some_iff.mp hu
        obtain ⟨rfl, rfl⟩ := Prod.mk.inj heq
        obtain ⟨ha, hinner⟩ := ih (h.of_find? hfind) hinner
        exact ⟨ha, h.replace hinner⟩
    next elements hfind =>
      have helements := tables_iff.mp (h.of_find? hfind)
      split at hu
      next => exact absurd hu nofun
      next last hlast =>
        obtain ⟨⟨b, inner⟩, hinner, heq⟩ := Option.map_eq_some_iff.mp hu
        obtain ⟨rfl, rfl⟩ := Prod.mk.inj heq
        obtain ⟨ha, hinner⟩ := ih (helements last (List.mem_of_getLast? hlast)) hinner
        refine ⟨ha, h.replace (tables_iff.mpr ?_)⟩
        rw [List.forall_mem_append, List.forall_mem_singleton]
        exact ⟨fun es hes => helements es (List.dropLast_subset _ hes), hinner⟩

theorem put {path : List String} {v : Toml} {es' : Entries} (h : es.WellFormed)
    (hv : v.WellFormed) (hput : es.put path key v = some es') : es'.WellFormed := by
  obtain ⟨⟨u, es'⟩, hu, rfl⟩ := Option.map_eq_some_iff.mp hput
  refine (h.update (P := fun _ => True) ?_ hu).2
  intro origin inner u inner' hinner hadd
  split at hadd
  next => exact absurd hadd nofun
  next hfree =>
    obtain ⟨-, rfl⟩ := Prod.mk.inj (Option.some.inj hadd)
    rw [Bool.or_eq_true, not_or, Option.not_isSome_iff_eq_none] at hfree
    exact ⟨trivial, hinner.add hfree.2 hv⟩

end WellFormed

end Entries

/-! ## Documents under construction -/

namespace Draft

/-- What is there of a document is well formed. -/
structure WellFormed (d : Draft) : Prop where
  root : d.root.WellFormed
  current : d.current.WellFormed

theorem wellFormed_empty : WellFormed {} := ⟨Entries.wellFormed_nil, Entries.wellFormed_nil⟩

namespace WellFormed

variable {d d' : Draft} {path : List String} {key : String}

theorem settled {es : Entries} (h : d.WellFormed) (hs : d.settled = some es) : es.WellFormed := by
  unfold Draft.settled at hs
  split at hs
  next =>
    rw [← Option.some.inj hs]
    exact h.current
  next path key =>
    obtain ⟨⟨u, es⟩, hu, rfl⟩ := Option.map_eq_some_iff.mp hs
    refine (h.root.update (P := fun _ => True) ?_ hu).2
    intro origin inner u inner' hinner hadd
    split at hadd
    next => exact absurd hadd nofun
    next hfree =>
      obtain ⟨-, rfl⟩ := Prod.mk.inj (Option.some.inj hadd)
      exact ⟨trivial, hinner.add (Option.not_isSome_iff_eq_none.mp hfree) h.current⟩
  next path key =>
    obtain ⟨⟨u, es⟩, hu, rfl⟩ := Option.map_eq_some_iff.mp hs
    refine (h.root.update (P := fun _ => True) ?_ hu).2
    intro origin inner u inner' hinner hadd
    split at hadd
    next hfind =>
      obtain ⟨-, rfl⟩ := Prod.mk.inj (Option.some.inj hadd)
      refine ⟨trivial, hinner.add hfind (Entries.WellFormed.tables_iff.mpr ?_)⟩
      exact List.forall_mem_singleton.mpr h.current
    next elements hfind =>
      obtain ⟨-, rfl⟩ := Prod.mk.inj (Option.some.inj hadd)
      have helements := Entries.WellFormed.tables_iff.mp (hinner.of_find? hfind)
      refine ⟨trivial, hinner.replace (Entries.WellFormed.tables_iff.mpr ?_)⟩
      exact List.forall_mem_append.mpr ⟨helements, List.forall_mem_singleton.mpr h.current⟩
    next => exact absurd hadd nofun

/-- The table of a header starts as what is implied of it, which leaves the place where it was. -/
theorem startTable (h : d.WellFormed) (hd : d.startTable path key = some d') : d'.WellFormed := by
  obtain ⟨root, hroot, hd⟩ := Option.bind_eq_some_iff.mp hd
  obtain ⟨⟨current, root'⟩, hu, hd⟩ := Option.bind_eq_some_iff.mp hd
  rw [← Option.some.inj hd]
  have hstart := (h.settled hroot).update (P := Entries.WellFormed) ?_ hu
  · exact ⟨hstart.2, hstart.1⟩
  intro origin inner a inner' hinner htake
  split at htake
  next =>
    obtain ⟨rfl, rfl⟩ := Prod.mk.inj (Option.some.inj htake)
    exact ⟨Entries.wellFormed_nil, hinner⟩
  next hfind =>
    obtain ⟨rfl, rfl⟩ := Prod.mk.inj (Option.some.inj htake)
    exact ⟨hinner.of_find? hfind, hinner.without⟩
  next => exact absurd htake nofun

theorem startElement (h : d.WellFormed) (hd : d.startElement path key = some d') :
    d'.WellFormed := by
  obtain ⟨root, hroot, hd⟩ := Option.bind_eq_some_iff.mp hd
  rw [← Option.some.inj hd]
  exact ⟨h.settled hroot, Entries.wellFormed_nil⟩

theorem put {v : Toml} (h : d.WellFormed) (hv : v.WellFormed) (hd : d.put path key v = some d') :
    d'.WellFormed := by
  obtain ⟨current, hcurrent, hd⟩ := Option.bind_eq_some_iff.mp hd
  rw [← Option.some.inj hd]
  exact ⟨h.root, h.current.put hv hcurrent⟩

theorem finish {doc : List (String × Toml)} (h : d.WellFormed) (hd : d.finish = some doc) :
    Toml.WellFormed (.table doc) := by
  obtain ⟨es, hes, rfl⟩ := Option.map_eq_some_iff.mp hd
  exact h.settled hes

end WellFormed

end Draft

end EgressWatch.Toml
