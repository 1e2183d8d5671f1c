import Coordination.Json.Number
import Coordination.Proofs.Event.Canonical

/-!
# Numbers in front of other text

A number ends at the first character that cannot belong to it. So a text that is read as a number
to its end is read as the same number in front of every text that begins with none of these
characters, and this text is left (`readNumber_append`). What is written for an integer of 64 bits
is read as this integer (`readNumber_toString`).
-/

namespace Coordination.Json

/-! ## Where a number ends -/

/-- The text does not go on with a character of a number. -/
def EndsNumber (rest : List Char) : Prop :=
  ∀ c ∈ rest.head?, c.isDigit = false ∧ c ≠ '.' ∧ c ≠ 'e' ∧ c ≠ 'E'

theorem EndsNumber.nil : EndsNumber [] := nofun

theorem EndsNumber.cons {c : Char} (h : c.isDigit = false ∧ c ≠ '.' ∧ c ≠ 'e' ∧ c ≠ 'E')
    (rest : List Char) : EndsNumber (c :: rest) := by
  intro d hd
  rwa [← Option.some_inj.1 hd]

section

variable {negative down : Bool} {s t : Significand} {x : Number} {cs r rest : List Char}

theorem dropWhile_of_endsNumber (h : EndsNumber rest) : rest.dropWhile Char.isDigit = rest := by
  cases rest with
  | nil => rfl
  | cons c rest => exact List.dropWhile_cons_of_neg (by simp [(h c rfl).1])

theorem dropWhile_append (h : EndsNumber rest) (cs : List Char) :
    (cs ++ rest).dropWhile Char.isDigit = cs.dropWhile Char.isDigit ++ rest := by
  rw [List.dropWhile_append]
  split
  · rename_i hempty
    rw [dropWhile_of_endsNumber h, List.isEmpty_iff.1 hempty, List.nil_append]
  · rfl

theorem takeWhile_append (h : EndsNumber rest) (cs : List Char) :
    (cs ++ rest).takeWhile Char.isDigit = cs.takeWhile Char.isDigit := by
  have hdrop := dropWhile_append h cs
  rw [← List.takeWhile_append_dropWhile (p := Char.isDigit) (l := cs)] at hdrop
  have happend := List.takeWhile_append_dropWhile (p := Char.isDigit) (l := cs ++ rest)
  rw [dropWhile_append h, ← List.append_assoc, List.append_left_inj] at happend
  exact List.append_cancel_right (happend.trans List.takeWhile_append_dropWhile.symm)

/-! ## The parts of a number -/

theorem floatOf_append (h : floatOf negative s cs = .ok (x, r)) (rest : List Char) :
    floatOf negative s (cs ++ rest) = .ok (x, r ++ rest) := by
  unfold floatOf at h ⊢
  split at h
  · obtain ⟨rfl, rfl⟩ := Prod.mk.inj (Except.ok.inj h)
    rfl
  · cases h

theorem wholeNumber_append (h : wholeNumber negative s cs = .ok (x, r)) (rest : List Char) :
    wholeNumber negative s (cs ++ rest) = .ok (x, r ++ rest) := by
  unfold wholeNumber at h ⊢
  by_cases hexponent : s.exponent ≠ 0
  · rw [if_pos hexponent] at h ⊢
    exact floatOf_append h rest
  rw [if_neg hexponent] at h ⊢
  cases negative with
  | false =>
    obtain ⟨rfl, rfl⟩ := Prod.mk.inj (Except.ok.inj h)
    rfl
  | true =>
    by_cases hdigits : s.digits ≠ 0 ∧ s.digits ≤ Int64.minValue.toInt.natAbs
    · rw [if_neg (by decide), if_pos hdigits] at h ⊢
      obtain ⟨rfl, rfl⟩ := Prod.mk.inj (Except.ok.inj h)
      rfl
    · rw [if_neg (by decide), if_neg hdigits] at h ⊢
      exact floatOf_append h rest

-- The equations are stated by hand: to derive them the largest number of 64 bits is counted out.
theorem takeWhole_nil (digits : Nat) : takeWhole digits [] = (⟨digits, 0⟩, []) := (rfl)

theorem takeWhole_cons (digits : Nat) (c : Char) (cs : List Char) :
    takeWhole digits (c :: cs) =
      if c.isDigit then
        match push? digits c with
        | some digits => takeWhole digits cs
        | none =>
          (⟨digits, 1 + ((cs.takeWhile Char.isDigit).length : Int)⟩, cs.dropWhile Char.isDigit)
      else (⟨digits, 0⟩, c :: cs) := (rfl)

theorem takeFraction_nil (s : Significand) : takeFraction s [] = (s, []) := (rfl)

theorem takeFraction_cons (s : Significand) (c : Char) (cs : List Char) :
    takeFraction s (c :: cs) =
      if c.isDigit then
        match push? s.digits c with
        | some digits => takeFraction ⟨digits, s.exponent - 1⟩ cs
        | none => (s, cs.dropWhile Char.isDigit)
      else (s, c :: cs) := (rfl)

theorem takeWhole_append (hrest : EndsNumber rest) (digits : Nat) (cs : List Char) :
    takeWhole digits (cs ++ rest) =
      ((takeWhole digits cs).1, (takeWhole digits cs).2 ++ rest) := by
  induction cs generalizing digits with
  | nil =>
    rw [List.nil_append, takeWhole_nil]
    cases rest with
    | nil => rw [takeWhole_nil, List.nil_append]
    | cons c rest =>
      rw [takeWhole_cons, (hrest c rfl).1, if_neg (by decide), List.nil_append]
  | cons c cs ih =>
    rw [List.cons_append, takeWhole_cons, takeWhole_cons, takeWhile_append hrest,
      dropWhile_append hrest]
    cases c.isDigit with
    | false => rfl
    | true =>
      cases push? digits c with
      | none => rfl
      | some n => exact ih n

theorem takeFraction_append (hrest : EndsNumber rest) (s : Significand) (cs : List Char) :
    takeFraction s (cs ++ rest) = ((takeFraction s cs).1, (takeFraction s cs).2 ++ rest) := by
  induction cs generalizing s with
  | nil =>
    rw [List.nil_append, takeFraction_nil]
    cases rest with
    | nil => rw [takeFraction_nil, List.nil_append]
    | cons c rest =>
      rw [takeFraction_cons, (hrest c rfl).1, if_neg (by decide), List.nil_append]
  | cons c cs ih =>
    rw [List.cons_append, takeFraction_cons, takeFraction_cons, dropWhile_append hrest]
    cases c.isDigit with
    | false => rfl
    | true =>
      cases push? s.digits c with
      | none => rfl
      | some n => exact ih ⟨n, s.exponent - 1⟩

/-- What follows the sign of an exponent. -/
def readPower (negative down : Bool) (s : Significand) (cs : List Char) :
    Except Fault (Number × List Char) :=
  match cs with
  | [] => .error .truncated
  | c :: _ =>
    if !c.isDigit then .error .malformed
    else
      match exponentValue? (cs.takeWhile Char.isDigit) with
      | some n =>
        floatOf negative { s with exponent := s.exponent + if down then -(n : Int) else n }
          (cs.dropWhile Char.isDigit)
      | none =>
        if s.digits ≠ 0 ∧ !down then .error .malformed
        else .ok (.float (if negative then -0.0 else 0.0), cs.dropWhile Char.isDigit)

theorem readExponent_cons (negative : Bool) (s : Significand) (c : Char) (cs : List Char) :
    readExponent negative s (c :: cs) =
      if c = '+' then readPower negative false s cs
      else if c = '-' then readPower negative true s cs
      else readPower negative false s (c :: cs) := by
  by_cases hplus : c = '+'
  · subst hplus
    rfl
  by_cases hminus : c = '-'
  · subst hminus
    rfl
  rw [if_neg hplus, if_neg hminus]
  unfold readExponent
  split
  rename_i heq
  split at heq
  · rename_i h
    exact absurd (List.cons.inj h).1 hplus
  · rename_i h
    exact absurd (List.cons.inj h).1 hminus
  · obtain ⟨rfl, rfl⟩ := Prod.mk.inj heq
    rfl

theorem readPower_append (hrest : EndsNumber rest) (h : readPower negative down s cs = .ok (x, r)) :
    readPower negative down s (cs ++ rest) = .ok (x, r ++ rest) := by
  cases cs with
  | nil => cases h
  | cons c cs =>
    rw [List.cons_append, readPower, ← List.cons_append, takeWhile_append hrest,
      dropWhile_append hrest]
    rw [readPower] at h
    cases hdigit : c.isDigit with
    | false =>
      rw [hdigit] at h
      cases h
    | true =>
      rw [hdigit, if_neg (by decide)] at h
      rw [if_neg (by decide)]
      cases hvalue : exponentValue? ((c :: cs).takeWhile Char.isDigit) with
      | some n =>
        rw [hvalue] at h
        exact floatOf_append h rest
      | none =>
        rw [hvalue] at h
        by_cases hlarge : s.digits ≠ 0 ∧ !down
        · rw [if_pos hlarge] at h
          cases h
        · rw [if_neg hlarge] at h ⊢
          obtain ⟨rfl, rfl⟩ := Prod.mk.inj (Except.ok.inj h)
          rfl

theorem readExponent_append (hrest : EndsNumber rest)
    (h : readExponent negative s cs = .ok (x, r)) :
    readExponent negative s (cs ++ rest) = .ok (x, r ++ rest) := by
  cases cs with
  | nil => cases h
  | cons c cs =>
    rw [readExponent_cons] at h
    rw [List.cons_append, readExponent_cons]
    by_cases hplus : c = '+'
    · rw [if_pos hplus] at h ⊢
      exact readPower_append hrest h
    rw [if_neg hplus] at h ⊢
    by_cases hminus : c = '-'
    · rw [if_pos hminus] at h ⊢
      exact readPower_append hrest h
    · rw [if_neg hminus] at h ⊢
      exact readPower_append hrest h

/-- A character that would be read as part of a number does not come from the text behind it. -/
theorem append_ne_cons (hrest : EndsNumber rest) {c : Char} (hc : c = '.' ∨ c = 'e' ∨ c = 'E')
    (h : ∀ tail, cs = c :: tail → False) (tail : List Char) (heq : cs ++ rest = c :: tail) :
    False := by
  cases cs with
  | nil =>
    obtain ⟨-, hpoint, he, hE⟩ := hrest c (by rw [← List.nil_append rest, heq]; rfl)
    exact hc.elim hpoint fun hc => hc.elim he hE
  | cons d cs => exact h cs (by rw [(List.cons.inj heq).1])

theorem readScale_append (hrest : EndsNumber rest) (h : readScale negative s cs = .ok (x, r)) :
    readScale negative s (cs ++ rest) = .ok (x, r ++ rest) := by
  unfold readScale at h
  split at h
  · exact readExponent_append hrest h
  · exact readExponent_append hrest h
  · rename_i he hE
    rw [readScale]
    · exact floatOf_append h rest
    · exact append_ne_cons hrest (.inr (.inl rfl)) he
    · exact append_ne_cons hrest (.inr (.inr rfl)) hE

theorem readFraction_append (hrest : EndsNumber rest)
    (h : readFraction negative s cs = .ok (x, r)) :
    readFraction negative s (cs ++ rest) = .ok (x, r ++ rest) := by
  cases cs with
  | nil => cases h
  | cons c cs =>
    rw [readFraction] at h
    rw [List.cons_append, readFraction, ← List.cons_append]
    cases hdigit : c.isDigit with
    | false =>
      rw [hdigit] at h
      cases h
    | true =>
      rw [hdigit, if_neg (by decide)] at h
      rw [if_neg (by decide), takeFraction_append hrest]
      exact readScale_append hrest h

theorem continueWith_append (hrest : EndsNumber rest)
    (h : readMagnitude.continueWith negative s cs = .ok (x, r)) :
    readMagnitude.continueWith negative s (cs ++ rest) = .ok (x, r ++ rest) := by
  unfold readMagnitude.continueWith at h
  split at h
  · exact readFraction_append hrest h
  · exact readExponent_append hrest h
  · exact readExponent_append hrest h
  · rename_i hpoint he hE
    rw [readMagnitude.continueWith]
    · exact wholeNumber_append h rest
    · exact append_ne_cons hrest (.inl rfl) hpoint
    · exact append_ne_cons hrest (.inr (.inl rfl)) he
    · exact append_ne_cons hrest (.inr (.inr rfl)) hE

/-! ## Whole numbers -/

/-- A number that does not begin with a zero in front of other characters. -/
theorem readMagnitude_cons {c : Char} (h : c = '0' → cs = []) :
    readMagnitude negative (c :: cs) =
      if !c.isDigit then .error .malformed
      else readMagnitude.continueWith negative (takeWhole 0 (c :: cs)).1
        (takeWhole 0 (c :: cs)).2 := by
  rw [readMagnitude]
  rintro d tail rfl rfl
  cases h rfl

/-- A zero in front of other characters is the whole number before them. -/
theorem readMagnitude_zero_cons (negative : Bool) (c : Char) (cs : List Char) :
    readMagnitude negative ('0' :: c :: cs) =
      if c.isDigit then .error .malformed
      else readMagnitude.continueWith negative ⟨0, 0⟩ (c :: cs) := (rfl)

/-- A number that begins with a zero may end right behind it. -/
theorem readMagnitude_zero_append (hrest : EndsNumber rest)
    (h : readMagnitude negative ('0' :: cs) = .ok (x, r)) :
    readMagnitude negative ('0' :: (cs ++ rest)) = .ok (x, r ++ rest) := by
  cases cs with
  | nil =>
    rw [readMagnitude_cons fun _ => rfl, if_neg (by decide)] at h
    have happend : readMagnitude.continueWith negative ⟨0, 0⟩ ([] ++ rest) = .ok (x, r ++ rest) :=
      continueWith_append hrest h
    rw [List.nil_append] at happend ⊢
    cases rest with
    | nil =>
      rw [readMagnitude_cons fun _ => rfl, if_neg (by decide)]
      exact happend
    | cons d rest =>
      rw [readMagnitude_zero_cons, (hrest d rfl).1, if_neg (by decide)]
      exact happend
  | cons d cs =>
    rw [readMagnitude_zero_cons] at h
    rw [List.cons_append, readMagnitude_zero_cons, ← List.cons_append]
    cases hdigit : d.isDigit with
    | false =>
      rw [hdigit, if_neg (by decide)] at h
      rw [if_neg (by decide)]
      exact continueWith_append hrest h
    | true =>
      rw [hdigit] at h
      cases h

theorem readMagnitude_append (hrest : EndsNumber rest)
    (h : readMagnitude negative cs = .ok (x, r)) :
    readMagnitude negative (cs ++ rest) = .ok (x, r ++ rest) := by
  cases cs with
  | nil => cases h
  | cons c cs =>
    by_cases hzero : c = '0'
    · subst hzero
      exact readMagnitude_zero_append hrest h
    · rw [readMagnitude_cons fun h => absurd h hzero] at h
      rw [List.cons_append, readMagnitude_cons fun h => absurd h hzero, ← List.cons_append]
      cases hdigit : c.isDigit with
      | false =>
        rw [hdigit] at h
        cases h
      | true =>
        rw [hdigit, if_neg (by decide)] at h
        rw [if_neg (by decide), takeWhole_append hrest]
        exact continueWith_append hrest h

theorem readNumber_append (hrest : EndsNumber rest) (h : readNumber cs = .ok (x, r)) :
    readNumber (cs ++ rest) = .ok (x, r ++ rest) := by
  unfold readNumber at h
  split at h
  · exact readMagnitude_append hrest h
  · rename_i hminus
    rw [readNumber]
    · exact readMagnitude_append hrest h
    · cases cs with
      | nil => cases h
      | cons c cs => exact fun tail heq => hminus cs (by rw [(List.cons.inj heq).1])

/-- A number begins with a minus sign or a digit. -/
theorem exists_isNumeral_of_readNumber (h : readNumber cs = .ok (x, r)) :
    ∃ c tail, cs = c :: tail ∧ Text.isNumeral c := by
  unfold readNumber at h
  split at h
  · exact ⟨_, _, rfl, rfl⟩
  · cases cs with
    | nil => cases h
    | cons c cs =>
      refine ⟨c, cs, rfl, ?_⟩
      by_cases hzero : c = '0'
      · subst hzero
        rfl
      · rw [readMagnitude_cons fun h => absurd h hzero] at h
        cases hdigit : c.isDigit with
        | false =>
          rw [hdigit] at h
          cases h
        | true => rw [Text.isNumeral, hdigit, Bool.true_or]

end

/-! ## Integers -/

theorem le_ofDigitChars (cs : List Char) (n : Nat) : n ≤ Nat.ofDigitChars 10 cs n := by
  induction cs generalizing n with
  | nil => exact Nat.le_of_eq Nat.ofDigitChars_nil.symm
  | cons c cs ih =>
    rw [Nat.ofDigitChars_cons]
    have := ih (10 * n + (c.toNat - '0'.toNat))
    omega

/-- As long as 64 bits hold their number, digits are taken to the end. -/
theorem takeWhole_of_isDigit {cs : List Char} {n : Nat} (h : ∀ c ∈ cs, c.isDigit = true)
    (hlt : Nat.ofDigitChars 10 cs n < UInt64.size) :
    takeWhole n cs = (⟨Nat.ofDigitChars 10 cs n, 0⟩, []) := by
  induction cs generalizing n with
  | nil => rw [takeWhole_nil, Nat.ofDigitChars_nil]
  | cons c cs ih =>
    rw [Nat.ofDigitChars_cons, Nat.mul_comm 10 n] at hlt ⊢
    have hle := le_ofDigitChars cs (n * 10 + (c.toNat - '0'.toNat))
    have hpush : push? n c = some (n * 10 + (c.toNat - '0'.toNat)) :=
      if_pos (Nat.lt_of_le_of_lt hle hlt)
    rw [takeWhole_cons, h c List.mem_cons_self, if_pos rfl, hpush]
    exact ih (fun d hd => h d (List.mem_cons_of_mem c hd)) hlt

theorem readMagnitude_toDigits (negative : Bool) {n : Nat} (h : n < UInt64.size) :
    readMagnitude negative (Nat.toDigits 10 n) = wholeNumber negative ⟨n, 0⟩ [] := by
  have hdigits : ∀ c ∈ Nat.toDigits 10 n, c.isDigit = true := fun c hc =>
    Nat.isDigit_of_mem_toDigits (by decide) (by decide) hc
  have hvalue : Nat.ofDigitChars 10 (Nat.toDigits 10 n) 0 = n :=
    Nat.ofDigitChars_toDigits (by decide) (by decide)
  have htake := takeWhole_of_isDigit (n := 0) hdigits (by rwa [hvalue])
  rw [hvalue] at htake
  cases hchars : Nat.toDigits 10 n with
  | nil => exact absurd hchars Nat.toDigits_ne_nil
  | cons c cs =>
    rw [hchars] at hdigits htake
    have hfront : c = '0' → cs = [] := by
      intro hzero
      have hplain := Text.isPlainDigits_toDigits n
      rw [hchars, hzero] at hplain
      obtain ⟨-, hnil⟩ : (∀ d ∈ cs, d.isDigit = true) ∧ cs = [] := by
        simpa [Text.isPlainDigits] using hplain
      exact hnil
    rw [readMagnitude_cons hfront, hdigits c List.mem_cons_self, if_neg (by decide), htake]
    rfl

/-- What is written for an integer of 64 bits, signed or not, is read as this integer. -/
theorem readNumber_toString {n : Int} (hlow : Int64.minValue.toInt ≤ n)
    (hhigh : n < (UInt64.size : Int)) :
    readNumber (toString n).toList = .ok (.integer n, []) := by
  cases n with
  | ofNat m =>
    rw [Text.toList_toString_ofNat, readNumber]
    · exact readMagnitude_toDigits false (Int.ofNat_lt.1 hhigh)
    · intro tail heq
      have hdigit := Nat.isDigit_of_mem_toDigits (b := 10) (n := m) (c := '-') (by decide)
        (by decide) (by rw [heq]; exact List.mem_cons_self)
      exact absurd hdigit (by decide)
  | negSucc m =>
    have hsize : Int64.minValue.toInt.natAbs < UInt64.size := by decide
    have hbound : m + 1 ≤ Int64.minValue.toInt.natAbs := by
      have := Int.negSucc_eq m
      omega
    rw [Text.toList_toString_negSucc]
    show readMagnitude true (Nat.toDigits 10 (m + 1)) = _
    rw [readMagnitude_toDigits true (by omega), wholeNumber, if_neg (not_not_intro rfl),
      if_neg (by decide), if_pos ⟨Nat.succ_ne_zero m, hbound⟩]
    rfl

end Coordination.Json
