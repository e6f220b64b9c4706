import EgressWatch.Json.Number
import EgressWatch.Json.Quoted

/-!
# Passing over JSON values

What follows an unknown key is passed over: it has to be JSON, of any depth, but its strings may
hold halves of pairs and its numbers may be of any size. The lists and objects that are open are
kept on a stack of `Frame`s, so depth costs no nesting of calls, and what may come next is a
`Place`: a value, the first item or member of what was just opened, or what separates or ends them.

`skip` is one loop over the text. Each step consumes a character or comes to a place from which the
next one will (`Place.rank`), so it ends; that scalars and keys consume something is shown beside
their readers. `skipValue` starts the loop with nothing open.
-/

namespace EgressWatch.Json

/-- What is open around the place that is looked at. -/
inductive Frame where
  | list
  | object
  deriving DecidableEq, Repr

/-- What may come next. -/
inductive Place where
  /-- A value. -/
  | value
  /-- The first item or member of what was just opened, or its end. -/
  | first
  /-- A comma or the end of what is open. -/
  | next
  deriving DecidableEq, Repr

/-- Passes over a value that is neither a list nor an object. -/
def skipScalar : List Char → Except Fault (List Char)
  | [] => .error .truncated
  | c :: cs =>
    if c = '"' then skipQuoted cs
    else if c = 'n' then takeWord ['u', 'l', 'l'] cs
    else if c = 't' then takeWord ['r', 'u', 'e'] cs
    else if c = 'f' then takeWord ['a', 'l', 's', 'e'] cs
    else if c = '-' ∨ c.isDigit then (Literal.take .malformed (c :: cs)).map (·.2)
    else .error .malformed

/-- Passes over the key of a member and the colon after it. -/
def skipKey (cs : List Char) : Except Fault (List Char) :=
  match skipSpace cs with
  | [] => .error .truncated
  | c :: cs =>
    if c = '"' then do
      let cs ← skipQuoted cs
      match skipSpace cs with
      | [] => .error .truncated
      | c :: cs => if c = ':' then .ok cs else .error .malformed
    else .error .malformed

/-! ## Progress -/

theorem skipSpace_length (cs : List Char) : (skipSpace cs).length ≤ cs.length :=
  (List.dropWhile_sublist _).length_le

namespace Literal

theorem takeSomeDigits_length {early : Fault} {cs ds rest : List Char}
    (h : takeSomeDigits early cs = .ok (ds, rest)) : rest.length < cs.length := by
  unfold takeSomeDigits at h
  cases cs with
  | nil => simp at h
  | cons c cs =>
    simp only at h
    split at h
    · next hc =>
      simp only [Except.ok.injEq, Text.spanDigits, Prod.mk.injEq] at h
      rw [← h.2, List.dropWhile_cons_of_pos hc]
      exact Nat.lt_succ_of_le (List.dropWhile_sublist _).length_le
    · simp at h

theorem takeWhole_length {early : Fault} {cs ds rest : List Char}
    (h : takeWhole early cs = .ok (ds, rest)) : rest.length < cs.length := by
  unfold takeWhole at h
  split at h
  · simp at h
  · split at h
    · split at h
      · simp at h
      · simp only [Except.ok.injEq, Prod.mk.injEq] at h; simp [← h.2]
    · simp only [Except.ok.injEq, Prod.mk.injEq] at h; simp [← h.2]
  · next c rest' _ =>
    split at h
    · next hc =>
      simp only [Except.ok.injEq, Text.spanDigits, Prod.mk.injEq] at h
      rw [← h.2, List.dropWhile_cons_of_pos hc]
      exact Nat.lt_succ_of_le (List.dropWhile_sublist _).length_le
    · simp at h

theorem takeFraction_length {early : Fault} {cs rest : List Char} {ds : Option (List Char)}
    (h : takeFraction early cs = .ok (ds, rest)) : rest.length ≤ cs.length := by
  unfold takeFraction at h
  split at h
  · next cs =>
    cases h1 : takeSomeDigits early cs with
    | error f => simp [h1, bind, Except.bind] at h
    | ok p =>
      have := takeSomeDigits_length h1
      simp only [h1, bind, Except.bind, Except.ok.injEq, Prod.mk.injEq] at h
      simp only [← h.2, List.length_cons]; omega
  · simp only [Except.ok.injEq, Prod.mk.injEq] at h
    exact Nat.le_of_eq (congrArg List.length h.2.symm)

theorem takeSign_length (cs : List Char) : (takeSign cs).2.length ≤ cs.length := by
  unfold takeSign
  split <;> simp

theorem takeMinus_length (cs : List Char) : (takeMinus cs).2.length ≤ cs.length := by
  unfold takeMinus
  split <;> simp

theorem takeExponent_length {early : Fault} {cs rest : List Char}
    {e : Option (Bool × List Char)} (h : takeExponent early cs = .ok (e, rest)) :
    rest.length ≤ cs.length := by
  unfold takeExponent at h
  split at h
  · simp only [Except.ok.injEq, Prod.mk.injEq] at h
    exact Nat.le_of_eq (congrArg List.length h.2.symm)
  · next c cs =>
    split at h
    · have l1 := takeSign_length cs
      cases h1 : takeSomeDigits early (takeSign cs).2 with
      | error f => simp [h1, bind, Except.bind] at h
      | ok p =>
        have l2 := takeSomeDigits_length h1
        simp only [h1, bind, Except.bind, Except.ok.injEq, Prod.mk.injEq] at h
        simp only [← h.2, List.length_cons]; omega
    · simp only [Except.ok.injEq, Prod.mk.injEq] at h
      exact Nat.le_of_eq (congrArg List.length h.2.symm)

/-- A literal has at least one character. -/
theorem take_length {early : Fault} {cs rest : List Char} {l : Literal}
    (h : take early cs = .ok (l, rest)) : rest.length < cs.length := by
  unfold take at h
  have l0 := takeMinus_length cs
  cases h1 : takeWhole early (takeMinus cs).2 with
  | error f => simp [h1, bind, Except.bind] at h
  | ok p =>
    have l1 := takeWhole_length h1
    simp only [h1, bind, Except.bind] at h
    cases h2 : takeFraction early p.2 with
    | error f => simp [h2] at h
    | ok p2 =>
      have l2 := takeFraction_length h2
      simp only [h2] at h
      cases h3 : takeExponent early p2.2 with
      | error f => simp [h3] at h
      | ok p3 =>
        have l3 := takeExponent_length h3
        simp only [h3, Except.ok.injEq, Prod.mk.injEq] at h
        rw [← h.2]; omega

end Literal

theorem skipScalar_length {cs rest : List Char} (h : skipScalar cs = .ok rest) :
    rest.length < cs.length := by
  unfold skipScalar at h
  split at h
  · simp at h
  · next c cs =>
    simp only [List.length_cons]
    split at h
    · have := skipQuoted_length h; omega
    · split at h
      · have := takeWord_length h; omega
      · split at h
        · have := takeWord_length h; omega
        · split at h
          · have := takeWord_length h; omega
          · split at h
            · cases h1 : Literal.take .malformed (c :: cs) with
              | error f => simp [h1, Except.map] at h
              | ok p =>
                have := Literal.take_length h1
                simp only [h1, Except.map, Except.ok.injEq] at h
                rw [← h]; exact this
            · simp at h

theorem skipKey_length {cs rest : List Char} (h : skipKey cs = .ok rest) :
    rest.length < cs.length := by
  unfold skipKey at h
  have l0 := skipSpace_length cs
  split at h
  · simp at h
  · next c cs' heq =>
    rw [heq] at l0
    simp only [List.length_cons] at l0
    split at h
    · cases h1 : skipQuoted cs' with
      | error f => simp [h1, bind, Except.bind] at h
      | ok r =>
        have l1 := skipQuoted_length h1
        have l2 := skipSpace_length r
        simp only [h1, bind, Except.bind] at h
        split at h
        · simp at h
        · next c2 cs2 heq2 =>
          rw [heq2] at l2
          simp only [List.length_cons] at l2
          split at h
          · simp only [Except.ok.injEq] at h; rw [← h]; omega
          · simp at h
    · simp at h

/-! ## Whole values -/

/-- How far a place is from consuming a character: the first item of a list is looked for where its
end was not found. -/
def Place.rank : Place → Nat
  | .value => 0
  | .first => 1
  | .next => 1

/-- Passes over what is left of a value of which the lists and objects on the stack, the innermost
first, are open. -/
def skip (place : Place) (stack : List Frame) (cs : List Char) : Except Fault (List Char) :=
  match _hs : skipSpace cs with
  | [] => .error .truncated
  | c :: rest =>
    match place, stack with
    | .value, stack =>
      if c = '[' then skip .first (.list :: stack) rest
      else if c = '\x7b' then skip .first (.object :: stack) rest
      else match _h : skipScalar (c :: rest) with
        | .error fault => .error fault
        | .ok rest => if stack.isEmpty then .ok rest else skip .next stack rest
    | .first, [] => .error .malformed
    | .first, .list :: outer =>
      if c = ']' then if outer.isEmpty then .ok rest else skip .next outer rest
      else skip .value (.list :: outer) (c :: rest)
    | .first, .object :: outer =>
      if c = '\x7d' then if outer.isEmpty then .ok rest else skip .next outer rest
      else match _h : skipKey (c :: rest) with
        | .error fault => .error fault
        | .ok rest => skip .value (.object :: outer) rest
    | .next, [] => .error .malformed
    | .next, .list :: outer =>
      if c = ',' then skip .value (.list :: outer) rest
      else if c = ']' then if outer.isEmpty then .ok rest else skip .next outer rest
      else .error .malformed
    | .next, .object :: outer =>
      if c = ',' then
        match _h : skipKey rest with
        | .error fault => .error fault
        | .ok rest => skip .value (.object :: outer) rest
      else if c = '\x7d' then if outer.isEmpty then .ok rest else skip .next outer rest
      else .error .malformed
termination_by (cs.length, place.rank)
decreasing_by
  all_goals
    have l0 := skipSpace_length cs
    rw [_hs] at l0
    simp only [List.length_cons] at l0
    first
    | (apply Prod.Lex.left; omega)
    | (have l1 := skipScalar_length _h
       simp only [List.length_cons] at l1
       apply Prod.Lex.left; omega)
    | (have l1 := skipKey_length _h
       try simp only [List.length_cons] at l1
       apply Prod.Lex.left; omega)
    | (rcases Nat.lt_or_eq_of_le l0 with l | l
       · exact Prod.Lex.left _ _ l
       · simp only [List.length_cons, l]
         exact Prod.Lex.right _ (by decide))

/-- Passes over a value. -/
def skipValue (cs : List Char) : Except Fault (List Char) := skip .value [] cs

end EgressWatch.Json
