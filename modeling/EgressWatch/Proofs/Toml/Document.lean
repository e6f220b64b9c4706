import EgressWatch.Proofs.Toml.Tree
import EgressWatch.Toml.Document

/-!
# What documents say is well formed

A document that is read at all is well formed:

> `wellFormed_of_read?`: its integers are of 64 bits, and a key stands at most once in each of its
> tables, so that a table has one value, or none, under a key.

The reader keeps this up value by value and line by line. Single values come first: only integers
have something to prove, and each of the ways to write one ends in the same check of its size
(`isWord_of_fitting?`). Values with others in them are read by three functions that call each other
with less fuel each time. What is claimed of the three for one amount of fuel is `ReadsWell`; each
has a lemma that goes from one amount to the next (`ReadsWell.takeValue`, `ReadsWell.takeItems`,
`ReadsWell.takeMembers`), and `readsWell` is the one induction that ties them together.

A line puts a value into the draft or starts a table, which keeps the draft well formed as the
module on tables has it (`Draft.WellFormed.takeLine`), and a document is its lines, one after
another (`Draft.WellFormed.takeLines`).
-/

namespace EgressWatch.Toml

/-! ## Simple values -/

theorem isWord_of_fitting? {m n : Int} (h : fitting? m = some n) : IsWord n := by
  unfold fitting? at h
  split at h
  next hm => exact Option.some.inj h ▸ hm
  next => exact absurd h nofun

theorem isWord_of_based? {base : Nat} {cs : List Char} {n : Int} (h : based? base cs = some n) :
    IsWord n := by
  obtain ⟨ds, -, hn⟩ := Option.bind_eq_some_iff.mp h
  exact isWord_of_fitting? hn

theorem isWord_of_integer? {cs : List Char} {n : Int} (h : integer? cs = some n) : IsWord n := by
  unfold integer? at h
  split at h
  next => exact isWord_of_based? h
  next => exact isWord_of_based? h
  next => exact isWord_of_based? h
  next =>
    obtain ⟨ds, -, hn⟩ := Option.bind_eq_some_iff.mp h
    exact isWord_of_fitting? hn

theorem wellFormed_of_scalar? {cs : List Char} {v : Toml} (h : scalar? cs = some v) :
    v.WellFormed := by
  unfold scalar? at h
  split at h
  next => exact Option.some.inj h ▸ .flag true
  next =>
    split at h
    next => exact Option.some.inj h ▸ .flag false
    next =>
      split at h
      next m _ => exact Option.some.inj h ▸ .moment _
      next =>
        split at h
        next n hn => exact Option.some.inj h ▸ .integer (isWord_of_integer? hn)
        next =>
          obtain ⟨x, -, rfl⟩ := Option.map_eq_some_iff.mp h
          exact .real x

theorem wellFormed_of_takeSpacedMoment {date cs rest : List Char} {v : Toml}
    (h : takeSpacedMoment date cs = some (v, rest)) : v.WellFormed := by
  unfold takeSpacedMoment at h
  split at h
  next =>
    dsimp only at h
    split at h
    next =>
      obtain ⟨m, -, heq⟩ := Option.map_eq_some_iff.mp h
      exact (Prod.mk.inj heq).1 ▸ .moment _
    next => exact absurd h nofun
  next => exact absurd h nofun

theorem wellFormed_of_takeScalar {cs rest : List Char} {v : Toml}
    (h : takeScalar cs = some (v, rest)) : v.WellFormed := by
  unfold takeScalar at h
  dsimp only at h
  split at h
  next w hspaced => exact wellFormed_of_takeSpacedMoment (Option.some.inj h ▸ hspaced)
  next =>
    obtain ⟨w, hw, heq⟩ := Option.map_eq_some_iff.mp h
    exact (Prod.mk.inj heq).1 ▸ wellFormed_of_scalar? hw

theorem wellFormed_of_quoted {read : Option (List Char × List Char)} {v : Toml} {rest : List Char}
    (h : read.map (fun (s, rest) => (Toml.text (String.ofList s), rest)) = some (v, rest)) :
    v.WellFormed := by
  obtain ⟨⟨s, rest'⟩, -, heq⟩ := Option.map_eq_some_iff.mp h
  exact (Prod.mk.inj heq).1 ▸ .text _

/-! ## Values within values -/

/-- What is read in so many steps is well formed. -/
structure ReadsWell (fuel : Nat) : Prop where
  value {depth : Nat} {cs rest : List Char} {v : Toml} :
    takeValue fuel depth cs = some (v, rest) → v.WellFormed
  items {depth : Nat} {cs rest : List Char} {vs : List Toml} :
    takeItems fuel depth cs = some (vs, rest) → ∀ v ∈ vs, v.WellFormed
  members {depth : Nat} {es es' : Entries} {cs rest : List Char} :
    es.WellFormed → takeMembers fuel depth es cs = some (es', rest) → es'.WellFormed

namespace ReadsWell

variable {fuel depth : Nat} {cs rest : List Char}

theorem takeValue {v : Toml} (ih : ReadsWell fuel)
    (h : Toml.takeValue (fuel + 1) depth cs = some (v, rest)) : v.WellFormed := by
  unfold Toml.takeValue at h
  split at h
  next =>
    split at h
    next => exact absurd h nofun
    next =>
      obtain ⟨cs', -, h⟩ := Option.bind_eq_some_iff.mp h
      obtain ⟨⟨vs, rest'⟩, hitems, h⟩ := Option.bind_eq_some_iff.mp h
      exact (Prod.mk.inj (Option.some.inj h)).1 ▸ .list (ih.items hitems)
  next =>
    split at h
    next => exact absurd h nofun
    next =>
      split at h
      next => exact (Prod.mk.inj (Option.some.inj h)).1 ▸ .table List.nodup_nil nofun
      next =>
        obtain ⟨⟨es, rest'⟩, hmembers, h⟩ := Option.bind_eq_some_iff.mp h
        exact (Prod.mk.inj (Option.some.inj h)).1 ▸ ih.members Entries.wellFormed_nil hmembers
  next => exact wellFormed_of_quoted h
  next => exact wellFormed_of_quoted h
  next => exact wellFormed_of_takeScalar h

theorem takeItems {vs : List Toml} (ih : ReadsWell fuel)
    (h : Toml.takeItems (fuel + 1) depth cs = some (vs, rest)) : ∀ v ∈ vs, v.WellFormed := by
  unfold Toml.takeItems at h
  split at h
  next => exact (Prod.mk.inj (Option.some.inj h)).1 ▸ List.forall_mem_nil _
  next =>
    obtain ⟨⟨v, rest'⟩, hv, h⟩ := Option.bind_eq_some_iff.mp h
    obtain ⟨cs', -, h⟩ := Option.bind_eq_some_iff.mp h
    split at h
    next => exact (Prod.mk.inj (Option.some.inj h)).1 ▸ List.forall_mem_singleton.mpr (ih.value hv)
    next =>
      obtain ⟨cs', -, h⟩ := Option.bind_eq_some_iff.mp h
      obtain ⟨⟨ws, rest'⟩, hws, h⟩ := Option.bind_eq_some_iff.mp h
      exact (Prod.mk.inj (Option.some.inj h)).1 ▸
        List.forall_mem_cons.mpr ⟨ih.value hv, ih.items hws⟩
    next => exact absurd h nofun

theorem takeMembers {es es' : Entries} (ih : ReadsWell fuel) (hes : es.WellFormed)
    (h : Toml.takeMembers (fuel + 1) depth es cs = some (es', rest)) : es'.WellFormed := by
  unfold Toml.takeMembers at h
  obtain ⟨⟨path, key, rest'⟩, -, h⟩ := Option.bind_eq_some_iff.mp h
  dsimp only at h
  split at h
  next =>
    obtain ⟨⟨v, rest'⟩, hv, h⟩ := Option.bind_eq_some_iff.mp h
    obtain ⟨more, hput, h⟩ := Option.bind_eq_some_iff.mp h
    have hmore : more.WellFormed := hes.put (ih.value hv) hput
    split at h
    next => exact (Prod.mk.inj (Option.some.inj h)).1 ▸ hmore
    next => exact ih.members hmore h
    next => exact absurd h nofun
  next => exact absurd h nofun

end ReadsWell

/-- However deep values are nested, they are well formed. -/
theorem readsWell (fuel : Nat) : ReadsWell fuel := by
  induction fuel with
  | zero => exact ⟨fun h => absurd h nofun, fun h => absurd h nofun, fun _ h => absurd h nofun⟩
  | succ fuel ih => exact ⟨ih.takeValue, ih.takeItems, ih.takeMembers⟩

/-! ## Lines -/

theorem Draft.WellFormed.takeLine {d d' : Draft} {cs rest : List Char} (hd : d.WellFormed)
    (h : Toml.takeLine d cs = some (d', rest)) : d'.WellFormed := by
  unfold Toml.takeLine at h
  split at h
  next =>
    obtain ⟨⟨path, key, cs'⟩, -, h⟩ := Option.bind_eq_some_iff.mp h
    dsimp only at h
    split at h
    next =>
      obtain ⟨d'', hstart, h⟩ := Option.bind_eq_some_iff.mp h
      obtain ⟨cs', -, h⟩ := Option.bind_eq_some_iff.mp h
      exact (Prod.mk.inj (Option.some.inj h)).1 ▸ hd.startElement hstart
    next => exact absurd h nofun
  next =>
    obtain ⟨⟨path, key, cs'⟩, -, h⟩ := Option.bind_eq_some_iff.mp h
    dsimp only at h
    split at h
    next =>
      obtain ⟨d'', hstart, h⟩ := Option.bind_eq_some_iff.mp h
      obtain ⟨cs', -, h⟩ := Option.bind_eq_some_iff.mp h
      exact (Prod.mk.inj (Option.some.inj h)).1 ▸ hd.startTable hstart
    next => exact absurd h nofun
  next =>
    split at h
    next =>
      obtain ⟨cs', -, h⟩ := Option.map_eq_some_iff.mp h
      exact (Prod.mk.inj h).1 ▸ hd
    next =>
      obtain ⟨⟨path, key, cs'⟩, -, h⟩ := Option.bind_eq_some_iff.mp h
      dsimp only at h
      split at h
      next =>
        obtain ⟨⟨v, cs'⟩, hv, h⟩ := Option.bind_eq_some_iff.mp h
        obtain ⟨d'', hput, h⟩ := Option.bind_eq_some_iff.mp h
        obtain ⟨cs', -, h⟩ := Option.bind_eq_some_iff.mp h
        exact (Prod.mk.inj (Option.some.inj h)).1 ▸ hd.put ((readsWell _).value hv) hput
      next => exact absurd h nofun
  next => exact (Prod.mk.inj (Option.some.inj h)).1 ▸ hd

theorem Draft.WellFormed.takeLines {fuel : Nat} {d d' : Draft} {cs : List Char} (hd : d.WellFormed)
    (h : Toml.takeLines fuel d cs = some d') : d'.WellFormed := by
  induction fuel generalizing d cs with
  | zero =>
    cases cs with
    | nil => exact Option.some.inj h ▸ hd
    | cons c cs => exact absurd h nofun
  | succ fuel ih =>
    cases cs with
    | nil => exact Option.some.inj h ▸ hd
    | cons c cs =>
      obtain ⟨⟨d'', rest⟩, hline, h⟩ := Option.bind_eq_some_iff.mp h
      exact ih (hd.takeLine hline) h

/-- A document that is read is well formed. -/
theorem wellFormed_of_read? {text : String} {doc : List (String × Toml)}
    (h : read? text = some doc) : WellFormed (.table doc) := by
  obtain ⟨d, hlines, hfinish⟩ := Option.bind_eq_some_iff.mp h
  exact (Draft.wellFormed_empty.takeLines hlines).finish hfinish

end EgressWatch.Toml
