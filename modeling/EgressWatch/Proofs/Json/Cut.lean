import EgressWatch.Proofs.Json.CutNumber
import EgressWatch.Proofs.Json.Record

/-!
# Texts that are cut short

A text that ends before its value does is never read as a record:

> `takeRecord_cut`: an object whose text is cut short, wherever that is, is missing the rest.

That is not true of every value. A number that lost its last digits is another number, and a reader
of numbers takes it; but it leaves nothing, and an object around it is not closed. So what is
claimed of the readers of values is the weaker `Torn`: on a text that is cut the reader finds that
the text is over, or takes something and leaves nothing. It is proved kind by kind (`torn_flag`,
`torn_word`, `torn_real`, `torn_text`), for strings by following what was escaped
(`takeQuoted_cut`), for numbers by what the module on numbers that are cut has found, and it goes on
to values that may be missing (`Torn.optional`).

Records are read member by member, and a cut is in some member, in its key or in its value, or
behind the last (`takeMembers_cut`, by induction on the members). Before the cut the members are
read as written ones are, which is what `Reads` says; the member with the cut is known, so its
reader is one that is torn (`TornMember`); and behind the last one the end of the object is missing.
A record in a record is a value of its own here, so the claim goes inward as well.
-/

namespace EgressWatch.Json

open EgressWatch.Text

/-- Where the text of a value is cut short, a reader misses the rest or leaves nothing. -/
def Torn {α : Type} (take : List Char → Except Fault (α × List Char)) (v : Json) : Prop :=
  ∀ q r, compactText v = q ++ r → r ≠ [] →
    take q = .error .truncated ∨ ∃ a, take q = .ok (a, [])

/-! ## Words and numbers -/

theorem takeWord_cut {w q r : List Char} (h : w = q ++ r) (hr : r ≠ []) :
    takeWord w q = .error .truncated := by
  induction w generalizing q with
  | nil => exact absurd (List.append_eq_nil_iff.mp h.symm).2 hr
  | cons c w ih =>
    cases q with
    | nil => rfl
    | cons x q =>
      obtain ⟨rfl, hw⟩ := cut_cons h
      rw [takeWord, if_pos rfl]
      exact ih hw

theorem torn_flag (b : Bool) : Torn takeFlag (.flag b) := by
  intro q r h hr
  left
  cases q with
  | nil => rfl
  | cons c q =>
    cases b with
    | true =>
      obtain ⟨rfl, hq⟩ := cut_cons (show 't' :: ['r', 'u', 'e'] = c :: q ++ r from h)
      rw [takeFlag, skipSpace_cons (by decide)]
      show (takeWord ['r', 'u', 'e'] q).map _ = _
      rw [takeWord_cut hq hr]
      rfl
    | false =>
      obtain ⟨rfl, hq⟩ := cut_cons (show 'f' :: ['a', 'l', 's', 'e'] = c :: q ++ r from h)
      rw [takeFlag, skipSpace_cons (by decide)]
      show (takeWord ['a', 'l', 's', 'e'] q).map _ = _
      rw [takeWord_cut hq hr]
      rfl

/-- The beginning of a number is read as a number. -/
theorem takeNumber_cut {l : Literal} {q r : List Char} (hl : l.WellFormed) (h : l.text = q ++ r) :
    takeNumber q = Number.take q := by
  cases q with
  | nil => rfl
  | cons c q =>
    obtain ⟨x, cs, heq, hx⟩ := text_start hl []
    rw [List.append_nil, h] at heq
    rw [← (List.cons.inj heq).1] at hx
    rw [takeNumber, skipSpace_cons (numberStart_ne hx).1]
    exact if_pos hx

/-- A short number with a value that is cut is missing a digit, or read with fewer digits. -/
theorem number_cut {l : Literal} {n : Number} {q r : List Char} (hl : l.WellFormed) (hs : l.Short)
    (hv : l.value = .ok n) (h : l.text = q ++ r) (hr : r ≠ []) :
    takeNumber q = .error .truncated ∨
      ∃ l' n', Literal.CutTo l' l ∧ l'.value = .ok n' ∧ takeNumber q = .ok (n', []) := by
  rw [takeNumber_cut hl h]
  rcases Literal.ends_of_cut hl h hr with hq | ⟨l', hcut, rfl⟩
  · left
    rw [Number.take, hq]
    rfl
  · obtain ⟨n', hn'⟩ := hcut.value_isOk hl hs hv
    refine .inr ⟨l', n', hcut, hn', ?_⟩
    have htake : Literal.take .truncated (l'.text ++ []) = .ok (l', []) :=
      Literal.take_text (hcut.wellFormed hl) numberEnd_nil
    rw [List.append_nil] at htake
    simp only [Number.take, htake, hn', bind, Except.bind]

theorem torn_word (n : UInt64) : Torn takeUInt64 (.word n) := by
  intro q r h hr
  have htext : compactText (.word n) = Literal.text ⟨false, digits n.toNat, none, none⟩ := by
    show intText n.toNat = _
    simp [intText, Literal.text]
  have hmax : n.toNat ≤ maxWord := Nat.le_of_lt_succ n.toNat_lt
  have hle : natural (digits n.toNat) ≤ maxWord := by
    rw [natural_digits]
    exact hmax
  rw [htext] at h
  rcases number_cut (wellFormed_digits false n.toNat) ⟨hle, fun he => absurd rfl he⟩
    (value_digits hmax) h hr with hq | ⟨l', n', hcut, hv, hq⟩
  · left
    rw [takeUInt64, hq]
    rfl
  · right
    -- nothing but digits can be left of a word
    cases hcut with
    | whole hne hcut =>
      obtain ⟨n'', hn'', hnat⟩ :=
        Literal.value_whole (m := false) (Nat.le_trans (Literal.natural_le_of_front hcut) hle)
      obtain ⟨k, rfl⟩ := hnat rfl
      cases hv.symm.trans hn''
      exact ⟨k, by rw [takeUInt64, hq]; rfl⟩

theorem torn_real {x : Float} (h : Faithful x) : Torn takeFloat (.real x) := by
  intro q r hcut hr
  obtain ⟨l, hl, hs, ht⟩ := floatText_eq_text x
  have htext : compactText (.real x) = l.text := by
    show realText x = _
    rw [realText, if_pos h.1, ht]
  have hread := takeFloat_floatText h numberEnd_nil
  rw [ht, takeFloat, takeNumber_text hl numberEnd_nil] at hread
  rw [htext] at hcut
  cases hv : l.value with
  | error fault =>
    rw [hv] at hread
    exact absurd hread (by simp [bind, Except.bind, Except.map])
  | ok n =>
    rcases number_cut hl hs hv hcut hr with hq | ⟨l', n', -, -, hq⟩
    · left
      rw [takeFloat, hq]
      rfl
    · exact .inr ⟨_, by rw [takeFloat, hq]; rfl⟩

/-! ## Strings -/

theorem hexDigit_utf8Size : ∀ n < 16, (hexDigit n).utf8Size = 1 := by decide

theorem byteLength_eq_length {cs : List Char} (h : ∀ c ∈ cs, c.utf8Size = 1) :
    byteLength cs = cs.length := by
  induction cs with
  | nil => rfl
  | cons c cs ih =>
    obtain ⟨hc, hcs⟩ := List.forall_mem_cons.mp h
    rw [byteLength, hc, ih hcs, List.length_cons, Nat.add_comm]

theorem takeHex_cut {q r : List Char} (hone : ∀ c ∈ q ++ r, c.utf8Size = 1)
    (hlen : (q ++ r).length = 4) (hr : r ≠ []) : takeHex q = .error .truncated := by
  have hpos := List.length_pos_iff.mpr hr
  rw [List.length_append] at hlen
  unfold takeHex
  rw [if_pos]
  rw [List.take_of_length_le (by omega),
    byteLength_eq_length fun c hc => hone c (List.mem_append_left _ hc)]
  omega

theorem takeEscape_cut {c : Char} {e q r : List Char} (he : escape? c = some e) (h : e = q ++ r)
    (hr : r ≠ []) : takeEscape q = .error .truncated := by
  cases q with
  | nil => rfl
  | cons x q =>
    rcases escape?_cases he with ⟨y, rfl, -, -⟩ | ⟨hc, rfl⟩
    · have hnil := (cut_cons h).2.symm
      exact absurd (List.append_eq_nil_iff.mp hnil).2 hr
    · obtain ⟨rfl, hq⟩ := cut_cons h
      have hone : ∀ x ∈ q ++ r, x.utf8Size = 1 := by
        rw [← hq]
        simp only [List.forall_mem_cons, List.not_mem_nil, false_implies, implies_true, and_true]
        exact ⟨by decide, by decide, hexDigit_utf8Size _ (by omega),
          hexDigit_utf8Size _ (by omega)⟩
      have hhex := takeHex_cut hone (by rw [← hq]; rfl) hr
      rw [takeEscape, if_pos rfl, takeUnits, hhex]
      rfl

/-- A string that is cut before or at its closing quote is not read. -/
theorem takeQuoted_cut {cs q r : List Char} (h : escaped cs ++ ['"'] = q ++ r) (hr : r ≠ [])
    (done : List Char) : takeQuoted done q = .error .truncated := by
  -- on the characters of the string, for every place of the cut; an escape may be cut within
  induction cs generalizing q done with
  | nil =>
    cases q with
    | nil => rw [takeQuoted]
    | cons x q => exact absurd (List.append_eq_nil_iff.mp (cut_cons h).2.symm).2 hr
  | cons c cs ih =>
    cases q with
    | nil => rw [takeQuoted]
    | cons x q =>
      cases he : escape? c with
      | none =>
        rw [escaped_cons_plain he] at h
        obtain ⟨rfl, hq⟩ := cut_cons h
        obtain ⟨hquote, hb, hl⟩ := escape?_eq_none he
        rw [takeQuoted, if_neg hquote, if_neg hb, if_neg hl]
        exact ih hq _
      | some e =>
        rw [escaped_cons_escape he] at h
        obtain ⟨rfl, hq⟩ := cut_cons h
        rw [takeQuoted, if_neg (by decide), if_pos rfl]
        rcases cut_append hq with ⟨t, ht, hcut⟩ | ⟨q', rfl, hq'⟩
        · have hescape := takeEscape_cut he hcut ht
          split
          next hf =>
            cases hf.symm.trans hescape
            rfl
          next hf => exact absurd (hf.symm.trans hescape) (by simp)
        · have hescape := takeEscape_escape he q'
          split
          next hf => exact absurd (hf.symm.trans hescape) (by simp)
          next hf =>
            cases hf.symm.trans hescape
            exact ih hq' _

theorem takeString_cut {s : String} {q r : List Char} (h : quoted s.toList = q ++ r)
    (hr : r ≠ []) : takeString q = .error .truncated := by
  cases q with
  | nil => rfl
  | cons c q =>
    obtain ⟨rfl, hq⟩ := cut_cons h
    rw [takeString, skipSpace_cons (by decide)]
    simp only [takeQuoted_cut hq hr, bind, Except.bind]

theorem torn_text (s : String) : Torn takeString (.text s) :=
  fun _ _ h hr => .inl (takeString_cut h hr)

/-! ## Values that may be `null` -/

theorem Torn.optional {α : Type} {take : List Char → Except Fault (α × List Char)} {v : Json}
    (h : Torn take v) (hn : (compactText v).head? ≠ some 'n') : Torn (takeOptional take) v := by
  intro q r hcut hr
  -- what is left starts like the value, so it is not taken for `null`
  have hsame : takeOptional take q = (take q).map fun taken => (some taken.1, taken.2) := by
    cases q with
    | nil => rfl
    | cons c q =>
      obtain ⟨x, cs, hx, hs, -⟩ := compactText_start v
      obtain ⟨rfl, -⟩ := cut_cons (hx.symm.trans hcut)
      refine takeOptional_cons hs fun hc => hn ?_
      rw [hx, hc]
      rfl
  rw [hsame]
  rcases h q r hcut hr with hq | ⟨a, hq⟩
  · exact .inl (by rw [hq]; rfl)
  · exact .inr ⟨some a, by rw [hq]; rfl⟩

/-! ## Records -/

section

variable {σ : Type} {fields : List (Member σ)}

theorem Torn.relates {α : Type} {take : List Char → Except Fault (α × List Char)} {v : Json}
    (h : Torn take v) : Relates (fun (f : Member σ) v => Torn f.take v) take v := by
  intro key required isSet put q r hcut hr
  show (take q).map _ = _ ∨ ∃ a, (take q).map _ = _
  rcases h q r hcut hr with hq | ⟨a, hq⟩
  · exact .inl (by rw [hq]; rfl)
  · exact .inr ⟨put a, by rw [hq]; rfl⟩

/-- The member is known, and its value may be cut anywhere. -/
def TornMember (fields : List (Member σ)) : String × Json → Prop :=
  KnownAs (fun f v => Torn f.take v) fields

theorem takeKey_nil (first : Bool) : takeKey first [] = .error .truncated := rfl

theorem takeKey_cut {first : Bool} {k : String} {q r : List Char}
    (h : (if first then [] else [',']) ++ quoted k.toList = q ++ r) (hr : r ≠ []) :
    takeKey first q = .error .truncated := by
  have hkey : ∀ {q}, quoted k.toList = q ++ r → q ≠ [] → ∃ q', q = '"' :: q' ∧
      (takeQuoted [] q').map (fun taken => (some (String.ofList taken.1), taken.2)) =
        .error .truncated := by
    intro q hq hne
    cases q with
    | nil => exact absurd rfl hne
    | cons c q =>
      obtain ⟨rfl, hq'⟩ := cut_cons hq
      exact ⟨q, rfl, by rw [takeQuoted_cut hq' hr]; rfl⟩
  cases q with
  | nil => exact takeKey_nil first
  | cons c q =>
    cases first with
    | true =>
      obtain ⟨q', hq', htake⟩ := hkey h (by simp)
      rw [hq', takeKey, skipSpace_cons (by decide)]
      exact htake
    | false =>
      obtain ⟨rfl, hq⟩ := cut_cons (show ',' :: quoted k.toList = c :: q ++ r from h)
      rw [takeKey, skipSpace_cons (by decide)]
      show (if ',' = '\x7d' then _ else if false = true then _ else if ',' = ',' then _ else _) = _
      rw [if_neg (by decide), if_neg (by decide), if_pos rfl]
      by_cases hne : q = []
      · rw [hne]
        rfl
      · obtain ⟨q', hq', htake⟩ := hkey hq hne
        rw [hq', skipSpace_cons (by decide)]
        exact htake

theorem takeMembers_nil (fields : List (Member σ)) (fuel : Nat) (first : Bool) (s : σ) :
    takeMembers fields fuel first s [] = .error .truncated := by
  cases fuel <;> rfl

theorem numberEnd_of_cut {ms : List (String × Json)} {q r : List Char}
    (h : membersAfter ms ++ ['\x7d'] = q ++ r) : NumberEnd q := by
  cases q with
  | nil => exact numberEnd_nil
  | cons c q =>
    have hend := numberEnd_membersAfter ms []
    rw [h] at hend
    exact fun x hx => hend x hx

/-- Members whose text is cut short, or is not closed, make no record. -/
theorem takeMembers_cut {ms : List (String × Json)} {s s' : σ} (h : Reads fields ms s s')
    (htorn : ∀ m ∈ ms, TornMember fields m) :
    ∀ (fuel : Nat) (first : Bool) {q r : List Char},
      membersText first ms ++ ['\x7d'] = q ++ r → r ≠ [] →
        takeMembers fields fuel first s q = .error .truncated := by
  -- on the members: those before the cut are read, and the one that is cut stops the reading
  induction h with
  | nil =>
    intro fuel first q r hcut hr
    have hq : q = [] := by
      cases q with
      | nil => rfl
      | cons c q =>
        have : ['\x7d'] = c :: q ++ r := by cases first <;> exact hcut
        exact absurd (List.append_eq_nil_iff.mp (cut_cons this).2.symm).2 hr
    rw [hq]
    exact takeMembers_nil ..
  | unknown hf _ _ =>
    obtain ⟨f, hsome, -⟩ := htorn _ (List.mem_cons_self ..)
    exact absurd (hf.symm.trans hsome) (by simp)
  | @known f k v ms put s s' hf hset hv _ ih =>
    intro fuel first q r hcut hr
    obtain ⟨⟨f', hsome, htake⟩, hrest⟩ := List.forall_mem_cons.mp htorn
    cases hf.symm.trans hsome
    cases fuel with
    | zero => rfl
    | succ fuel =>
      have htext : membersText first ((k, v) :: ms) ++ ['\x7d'] =
          ((if first then [] else [',']) ++ quoted k.toList) ++
            ([':'] ++ (compactText v ++ (membersAfter ms ++ ['\x7d']))) := by
        cases first <;> simp [membersText, membersAfter, compactMembers_cons]
      rw [htext] at hcut
      rcases cut_append hcut with ⟨t, ht, hkey⟩ | ⟨q₁, rfl, hcolon⟩
      · -- before the end of the key
        simp only [takeMembers, takeKey_cut hkey ht, bind, Except.bind]
      simp only [takeMembers, List.append_assoc, takeKey_quoted, hf, hset, bind, Except.bind]
      rcases cut_append hcolon with ⟨t, ht, hcut⟩ | ⟨q₂, rfl, hvalue⟩
      · -- before the colon
        have hq : q₁ = [] := by
          cases q₁ with
          | nil => rfl
          | cons c q => exact absurd (List.append_eq_nil_iff.mp (cut_cons hcut).2.symm).2 ht
        rw [hq]
        rfl
      rw [show [':'] ++ q₂ = ':' :: q₂ from rfl, takeColon_colon]
      simp only [Bool.false_eq_true, ↓reduceIte]
      rcases cut_append hvalue with ⟨t, ht, hcut⟩ | ⟨q₃, rfl, hafter⟩
      · -- within the value
        rcases htake q₂ t hcut ht with hq | ⟨put', hq⟩
        · rw [hq]
        · rw [hq]
          exact takeMembers_nil ..
      · -- behind the value
        rw [hv _ (numberEnd_of_cut hafter)]
        exact ih hrest fuel false hafter hr

/-- An object whose text is cut short is no record. -/
theorem takeRecord_cut {ms : List (String × Json)} {empty s : σ} (h : Reads fields ms empty s)
    (htorn : ∀ m ∈ ms, TornMember fields m)
    {q r : List Char} (hcut : compactText (.object ms) = q ++ r) (hr : r ≠ []) :
    takeRecord fields empty q = .error .truncated := by
  cases q with
  | nil => rfl
  | cons c q =>
    rw [compactText] at hcut
    obtain ⟨rfl, hq⟩ := cut_cons hcut
    unfold takeRecord
    rw [skipSpace_cons (by decide)]
    exact takeMembers_cut h htorn _ true hq hr

end

end EgressWatch.Json
