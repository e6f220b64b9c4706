import EgressWatch.Proofs.Json.Exact
import EgressWatch.Proofs.Json.Record
import Mathlib.Data.List.Perm.Basic

/-!
# Members in any order

A text lists the members of an object if it has them in any order, with space anywhere and strings
spelled in any way, among further members whose keys are not declared:

> `Lists declared Spelled ms entries`: the entries are a spelling of `ms` and some others, in any
> order.

Such a text makes of a record what the written object does (`Reads.readsEntries`). Two things have
to be known of the fields for that. Each has a key of its own and sets itself and no other, so that
two of them may be put into a record in either order (`Orderly`, `ReadsEntries.swap`, and from there
`ReadsEntries.perm`); and its reader does not mind how the value is spelled (`Respells`).

A text in which a declared key stands twice does not read at all, be the values what they may
(`Readable.not_twice`). This is shown from the other end. If the text reads, then its entries
satisfy `Readable`: no declared key stands twice, and none whose field is set already. The reader
fails at the second of two entries, but where that is depends on the values before it; that each
reader takes whole values is what keeps the entries of the text and the steps of the reader together
(`readable_of_takeMembers`).
-/

namespace EgressWatch.Json

variable {σ : Type} {fields : List (Member σ)}

/-! ## Fields that do not get in each other's way -/

/-- The field may do this to a record. -/
def Member.Puts (f : Member σ) (put : σ → σ) : Prop := ∃ cs rest, f.take cs = .ok (put, rest)

theorem Member.puts_of {α : Type} {key : String} {required : Bool} {isSet : σ → Bool}
    {take : List Char → Except Fault (α × List Char)} {put : α → σ → σ} {p : σ → σ}
    (h : (Member.of key required isSet take put).Puts p) : ∃ a, p = put a := by
  obtain ⟨cs, rest, h⟩ := h
  obtain ⟨taken, -, htaken⟩ := map_eq_ok h
  exact ⟨taken.1, (Prod.mk.inj htaken).1.symm⟩

/-- Each field has a key of its own, reads whole values, and sets itself and no other. -/
structure Orderly (fields : List (Member σ)) : Prop where
  found : ∀ f ∈ fields, fields.find? (·.key == f.key) = some f
  exact : ∀ f ∈ fields, Exact f.take
  sets : ∀ f ∈ fields, ∀ put, f.Puts put → ∀ s, f.isSet (put s) = true
  apart : ∀ f ∈ fields, ∀ g ∈ fields, f.key ≠ g.key → ∀ put, f.Puts put →
    (∀ s, g.isSet (put s) = g.isSet s) ∧
      ∀ put', g.Puts put' → ∀ s, put (put' s) = put' (put s)

/-- The keys of the fields. -/
def declared (fields : List (Member σ)) : List String := fields.map (·.key)

/-- A field is found under its key. -/
theorem mem_of_find? {f : Member σ} {k : String} (h : fields.find? (·.key == k) = some f) :
    f ∈ fields ∧ f.key = k := by
  have hkey := List.find?_some h
  exact ⟨List.mem_of_find?_eq_some h, eq_of_beq hkey⟩

/-! ## Entries in any order -/

theorem ReadsText.puts {f : Member σ} {v : List Char} {put : σ → σ} (h : ReadsText f.take v put) :
    f.Puts put := by
  obtain ⟨t, -, hread⟩ := h
  exact ⟨_, _, hread [] numberEnd_nil⟩

/-- Two entries may change places: if both are known they are of different fields, or the second
would find its field set. -/
theorem ReadsEntries.swap (ho : Orderly fields) {e e' : Entry} {es : List Entry} {s s' : σ}
    (h : ReadsEntries fields (e :: e' :: es) s s') :
    ReadsEntries fields (e' :: e :: es) s s' := by
  cases h with
  | unknown hf hv h =>
    cases h with
    | unknown hf' hv' h => exact .unknown hf' hv' (.unknown hf hv h)
    | known hf' hset' hv' h => exact .known hf' hset' hv' (.unknown hf hv h)
  | known hf hset hv h =>
    cases h with
    | unknown hf' hv' h => exact .unknown hf' hv' (.known hf hset hv h)
    | @known f' k' v' _ put' _ _ hf' hset' hv' h =>
      rename_i f k v put
      obtain ⟨hmem, hkey⟩ := mem_of_find? hf
      obtain ⟨hmem', hkey'⟩ := mem_of_find? hf'
      have hne : f.key ≠ f'.key := by
        intro heq
        have hk : k = k' := by rw [← hkey, ← hkey', heq]
        subst hk
        cases hf.symm.trans hf'
        exact absurd ((ho.sets f hmem put hv.puts s).symm.trans hset') (by simp)
      obtain ⟨hkeeps, hcommute⟩ := ho.apart f hmem f' hmem' hne put hv.puts
      rw [hkeeps] at hset'
      refine .known hf' hset' hv' (.known hf ?_ hv ?_)
      · rw [(ho.apart f' hmem' f hmem (Ne.symm hne) put' hv'.puts).1, hset]
      · rw [hcommute put' hv'.puts]
        exact h

/-- The order of the entries does not matter. -/
theorem ReadsEntries.perm (ho : Orderly fields) {es es' : List Entry} (hp : es.Perm es') {s s' : σ}
    (h : ReadsEntries fields es s s') : ReadsEntries fields es' s s' := by
  induction hp generalizing s with
  | nil => exact h
  | cons e _ ih =>
    cases h with
    | known hf hset hv h => exact .known hf hset hv (ih h)
    | unknown hf hv h => exact .unknown hf hv (ih h)
  | swap e e' es => exact h.swap ho
  | trans _ _ ih ih' => exact ih' (ih h)

/-! ## Listing the members of an object -/

/-- However the value is spelled, the reader does as with the value as it is written. -/
def Respells {α : Type} (Spelled : Json → List Char → Prop)
    (take : List Char → Except Fault (α × List Char)) (v : Json) : Prop :=
  ∀ cs, Spelled v cs → ∀ rest, NumberEnd rest → take (cs ++ rest) = take (compactText v ++ rest)

/-- The entries are the members of an object, spelled somehow and in any order, among others whose
keys are not declared and whose values are any JSON. -/
def Lists (declared : List String) (Spelled : Json → List Char → Prop)
    (ms : List (String × Json)) (entries : List Entry) : Prop :=
  ∃ known extras : List Entry, entries.Perm (known ++ extras) ∧
    List.Forall₂ (fun m e => e.1 = m.1 ∧ Spaced (Spelled m.2) e.2) ms known ∧
    ∀ e ∈ extras, e.1 ∉ declared ∧ Valid .element e.2

/-- The member is known, and read alike however its value is spelled. -/
def RespelledMember (Spelled : Json → List Char → Prop) (fields : List (Member σ)) :
    String × Json → Prop :=
  KnownAs (fun f v => Respells Spelled f.take v) fields

theorem Respells.relates {Spelled : Json → List Char → Prop} {α : Type}
    {take : List Char → Except Fault (α × List Char)} {v : Json} (h : Respells Spelled take v) :
    Relates (fun (f : Member σ) v => Respells Spelled f.take v) take v := by
  intro key required isSet put cs hcs rest hr
  show (take _).map _ = (take _).map _
  rw [h cs hcs rest hr]

theorem Lists.valid {declared : List String} {Spelled : Json → List Char → Prop}
    {ms : List (String × Json)} {entries : List Entry} (h : Lists declared Spelled ms entries)
    (hv : ∀ v cs, Spelled v cs → Valid .value cs) : ∀ e ∈ entries, Valid .element e.2 := by
  obtain ⟨known, extras, hperm, hknown, hextras⟩ := h
  have hfirst : ∀ e ∈ known, Valid .element e.2 := by
    clear hperm
    induction hknown with
    | nil => exact fun e he => absurd he List.not_mem_nil
    | cons hm _ ih => exact List.forall_mem_cons.mpr ⟨hm.2.valid (hv _), ih⟩
  intro e he
  rcases List.mem_append.mp (hperm.mem_iff.mp he) with he | he
  · exact hfirst e he
  · exact (hextras e he).2

theorem ReadsAs.readsText {α : Type} {take : List Char → Except Fault (α × List Char)} {v : Json}
    {a : α} {Spelled : Json → List Char → Prop} (h : ReadsAs take v a)
    (hspace : ∀ cs, take (skipSpace cs) = take cs) (hre : Respells Spelled take v)
    {text : List Char} (htext : Spaced (Spelled v) text) : ReadsText take text a := by
  obtain ⟨s, cs, t, hs, hcs, ht, rfl⟩ := htext
  refine ⟨t, ht, fun rest hr => ?_⟩
  rw [List.append_assoc, List.append_assoc, ← hspace, skipSpace_append hs, hspace,
    hre cs hcs _ (hr.blank ht), h _ (hr.blank ht)]

theorem find?_eq_none_of_not_mem {k : String} (h : k ∉ declared fields) :
    fields.find? (·.key == k) = none := by
  rw [List.find?_eq_none]
  intro f hf hk
  exact h (List.mem_map.mpr ⟨f, hf, eq_of_beq hk⟩)

/-- Entries that list the members of an object make of a record what the members do. -/
theorem Reads.readsEntries (ho : Orderly fields) {ms : List (String × Json)} {s s' : σ}
    (h : Reads fields ms s s') {Spelled : Json → List Char → Prop}
    (hre : ∀ m ∈ ms, RespelledMember Spelled fields m) {entries : List Entry}
    (hl : Lists (declared fields) Spelled ms entries) : ReadsEntries fields entries s s' := by
  obtain ⟨known, extras, hperm, hknown, hextras⟩ := hl
  have hfirst : ReadsEntries fields known s s' := by
    clear hperm
    induction h generalizing known with
    | nil =>
      cases hknown
      exact .nil
    | @known f k v ms put s s' hf hset hv _ ih =>
      obtain ⟨⟨f', hf', hsame⟩, hrest⟩ := List.forall_mem_cons.mp hre
      cases hf.symm.trans hf'
      cases hknown with
      | @cons _ e _ es he hes =>
        obtain ⟨key, text⟩ := e
        obtain ⟨rfl, htext⟩ := he
        exact .known hf hset
          (hv.readsText (ho.exact f (mem_of_find? hf).1).space hsame htext) (ih hrest es hes)
    | unknown hf _ _ =>
      obtain ⟨⟨f', hf', -⟩, -⟩ := List.forall_mem_cons.mp hre
      exact absurd (hf.symm.trans hf') (by simp)
  have hsecond : ReadsEntries fields extras s' s' := by
    clear hperm
    induction extras with
    | nil => exact .nil
    | cons e es ih =>
      obtain ⟨⟨hkey, hvalue⟩, hes⟩ := List.forall_mem_cons.mp hextras
      exact .unknown (find?_eq_none_of_not_mem hkey) hvalue (ih hes)
  exact (hfirst.append hsecond).perm ho hperm.symm

/-! ## Keys that stand twice -/

/-- A declared key stands in more than one entry. -/
def Twice (declared : List String) (entries : List Entry) : Prop :=
  ∃ k ∈ declared, 2 ≤ (entries.map Prod.fst).count k

/-- A second entry of a key that is declared makes it stand twice. -/
theorem twice_of_perm {declared : List String} {entries entries' : List Entry} {k : String}
    {v : List Char} (hk : k ∈ declared) (hmem : k ∈ entries.map Prod.fst)
    (hp : entries'.Perm ((k, v) :: entries)) : Twice declared entries' := by
  refine ⟨k, hk, ?_⟩
  have hpos := List.count_pos_iff.mpr hmem
  rw [(hp.map Prod.fst).count_eq k, List.map_cons, List.count_cons_self]
  omega

/-- What must hold of the entries for them to be read, into a record in which some fields are
set. -/
structure Readable (fields : List (Member σ)) (s : σ) (entries : List Entry) : Prop where
  once : ∀ f ∈ fields, (entries.map Prod.fst).count f.key ≤ 1
  fresh : ∀ f ∈ fields, f.isSet s = true → (entries.map Prod.fst).count f.key = 0
  taken : ∀ e ∈ entries, ∀ f, fields.find? (·.key == e.1) = some f →
    ∃ rest taken, f.take (e.2 ++ rest) = .ok taken

theorem readable_of_takeMembers (ho : Orderly fields) (rest : List Char) {first : Bool}
    {entries : List Entry} {cs : List Char} (htext : EntriesText first entries cs)
    (hvalid : ∀ e ∈ entries, Valid .element e.2) :
    ∀ (fuel : Nat) (s s' : σ) (r : List Char),
      takeMembers fields fuel first s (cs ++ '\x7d' :: rest) = .ok (s', r) →
        Readable fields s entries := by
  -- on the entries: a value that is read is read whole, so the next entry is found where it is
  induction htext with
  | nil => exact fun _ _ _ _ _ => ⟨by simp, by simp, by simp⟩
  | @cons first sep s k t v cs key entries hsep hs hk ht htext ih =>
    intro fuel state state' r h
    obtain ⟨hvalue, hrest⟩ := List.forall_mem_cons.mp hvalid
    cases fuel with
    | zero => exact absurd h (by simp [takeMembers])
    | succ fuel =>
      simp only [List.append_assoc, List.cons_append, takeMembers, takeKey_denotes hsep hs hk,
        takeColon_blank ht, bind, Except.bind] at h
      cases hf : fields.find? (·.key == key) with
      | none =>
        obtain ⟨t', ht', hskip⟩ := skip_valid hvalue
        have hvalue : skipValue _ = .ok _ := hskip [] _ (htext.numberEnd rest)
        simp only [hf, hvalue, takeMembers_blank ht'] at h
        have hread := ih hrest fuel state state' r h
        have hne : ∀ f ∈ fields, key ≠ f.key := by
          rintro f hmem rfl
          exact absurd (hf.symm.trans (ho.found f hmem)) (by simp)
        refine ⟨fun f hmem => ?_, fun f hmem hset => ?_, fun e he f' hf' => ?_⟩
        · rw [List.map_cons, List.count_cons_of_ne (hne f hmem)]
          exact hread.once f hmem
        · rw [List.map_cons, List.count_cons_of_ne (hne f hmem)]
          exact hread.fresh f hmem hset
        · rcases List.mem_cons.mp he with rfl | he
          · exact absurd (hf.symm.trans hf') (by simp)
          · exact hread.taken e he f' hf'
      | some f =>
        obtain ⟨hmem, rfl⟩ := mem_of_find? hf
        simp only [hf] at h
        split at h
        next => exact absurd h (by simp)
        next hset =>
          rw [Bool.not_eq_true] at hset
          cases htake : f.take (v ++ (cs ++ '\x7d' :: rest)) with
          | error fault => exact absurd h (by simp [htake])
          | ok taken =>
            obtain ⟨put, r'⟩ := taken
            have hputs : f.Puts put := ⟨_, _, htake⟩
            obtain ⟨t', ht', hexact⟩ := (ho.exact f hmem).rest_eq hvalue
            have hr := hexact _ (htext.numberEnd rest) _ _ htake
            subst hr
            simp only [htake, takeMembers_blank ht'] at h
            have hread := ih hrest fuel (put state) state' r h
            have hdone := hread.fresh f hmem (ho.sets f hmem put hputs state)
            refine ⟨fun g hg => ?_, fun g hg hgset => ?_, fun e he f' hf' => ?_⟩
            · by_cases hne : f.key = g.key
              · rw [← hne, List.map_cons, List.count_cons_self]
                exact Nat.succ_le_succ (Nat.le_of_eq hdone)
              · rw [List.map_cons, List.count_cons_of_ne hne]
                exact hread.once g hg
            · by_cases hne : f.key = g.key
              · cases (ho.found f hmem).symm.trans (hne ▸ ho.found g hg)
                exact absurd (hset.symm.trans hgset) (by simp)
              · rw [List.map_cons, List.count_cons_of_ne hne]
                exact hread.fresh g hg (((ho.apart f hmem g hg hne put hputs).1 state).trans hgset)
            · rcases List.mem_cons.mp he with rfl | he
              · cases hf.symm.trans hf'
                exact ⟨_, _, htake⟩
              · exact hread.taken e he f' hf'

theorem readable_of_takeRecord (ho : Orderly fields) {entries : List Entry} {cs : List Char}
    (htext : ObjectText entries cs) (hvalid : ∀ e ∈ entries, Valid .element e.2)
    {rest r : List Char} {empty s : σ} (h : takeRecord fields empty (cs ++ rest) = .ok (s, r)) :
    Readable fields empty entries := by
  obtain ⟨inner, hinner, rfl⟩ := htext
  rw [List.cons_append, List.append_assoc] at h
  unfold takeRecord at h
  rw [skipSpace_cons (by decide)] at h
  exact readable_of_takeMembers ho rest hinner hvalid _ _ _ _ h

theorem Readable.not_twice {entries : List Entry} {s : σ} (h : Readable fields s entries) :
    ¬ Twice (declared fields) entries := by
  rintro ⟨k, hk, htwice⟩
  obtain ⟨f, hf, rfl⟩ := List.mem_map.mp hk
  exact absurd (h.once f hf) (by omega)

end EgressWatch.Json
