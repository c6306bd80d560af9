import NetworkRollout.Json.Printer
import NetworkRollout.Json.Reader

/-!
# Literals in JSON text

A printed string literal reads back as the code points of its characters, whatever follows it. A
printed whole number reads back as itself when what follows cannot prolong it.

* `escapeChar_cases`: the three ways to write a character.
* `units?_quote`, `textOfUnits?_toNat`: a string literal reads back.
* `EndsNumber`: what cannot prolong a number.
* `number?_intText`: a whole number in the range of 64 bits reads back.
-/

namespace NetworkRollout.Json

/-! ## String literals -/

/-- A character is written behind a backslash, by its number, or as it is. -/
theorem escapeChar_cases (c : Char) :
    (∃ d, d ≠ 'u' ∧ escape? d = some c ∧ escapeChar c = ['\\', d]) ∨
      (c.toNat < 0x20 ∧ escapeChar c =
        ['\\', 'u', '0', '0', hexDigit (c.toNat / 16), hexDigit (c.toNat % 16)]) ∨
      (¬ c.toNat < 0x20 ∧ c ≠ '"' ∧ c ≠ '\\' ∧ escapeChar c = [c]) := by
  unfold escapeChar
  split
  case isTrue h => exact Or.inl ⟨'"', by decide, by rw [h]; rfl, rfl⟩
  split
  case isTrue h => exact Or.inl ⟨'\\', by decide, by rw [h]; rfl, rfl⟩
  split
  case isTrue h => exact Or.inl ⟨'b', by decide, by rw [h]; rfl, rfl⟩
  split
  case isTrue h => exact Or.inl ⟨'f', by decide, by rw [h]; rfl, rfl⟩
  split
  case isTrue h => exact Or.inl ⟨'n', by decide, by rw [h]; rfl, rfl⟩
  split
  case isTrue h => exact Or.inl ⟨'r', by decide, by rw [h]; rfl, rfl⟩
  split
  case isTrue h => exact Or.inl ⟨'t', by decide, by rw [h]; rfl, rfl⟩
  split
  case isTrue h => exact Or.inr (Or.inl ⟨h, rfl⟩)
  case isFalse hquote hbackslash _ _ _ _ _ hcontrol =>
    exact Or.inr (Or.inr ⟨hcontrol, hquote, hbackslash, rfl⟩)

/-- The four digits of a control character name its number. -/
theorem hexNumber?_control : ∀ n < 0x20,
    Text.hexNumber? ['0', '0', hexDigit (n / 16), hexDigit (n % 16)] = some n := by
  decide

theorem units?_backslash {c d : Char} (hd : d ≠ 'u') (h : escape? d = some c) (s : List Char) :
    units? ('\\' :: d :: s) = (units? s).map fun p => (c.toNat :: p.1, p.2) := by
  rw [units?.eq_def]
  split
  case h_3 =>
    rename_i heq
    injection heq with _ heq
    injection heq with heq
    exact absurd heq hd
  case h_4 =>
    rename_i heq
    injection heq with _ heq
    injection heq with hchar hrest
    subst hchar hrest
    rw [h]
    cases units? s <;> rfl
  case h_5 =>
    rename_i hother heq
    injection heq with hchar hrest
    exact absurd hrest.symm (hother d s hchar.symm)
  all_goals simp_all

/-- Reading what is written for a character gives its code point. -/
theorem units?_escapeChar (c : Char) (s : List Char) :
    units? (escapeChar c ++ s) = (units? s).map fun p => (c.toNat :: p.1, p.2) := by
  rcases escapeChar_cases c with
    ⟨d, hd, hescape, hc⟩ | ⟨hcontrol, hc⟩ | ⟨hplain, hquote, hslash, hc⟩
  · rw [hc]
    exact units?_backslash hd hescape s
  · rw [hc]
    simp only [List.cons_append, List.nil_append, units?, hexNumber?_control _ hcontrol]
    cases units? s <;> rfl
  · rw [hc, List.singleton_append, units?.eq_def]
    split
    case h_5 =>
      rename_i heq
      injection heq with hchar hrest
      subst hchar hrest
      rw [if_neg hplain]
      cases units? s <;> rfl
    all_goals simp_all

/-- A string literal reads back as the code points of its characters. -/
theorem units?_quote (cs s : List Char) :
    units? (cs.flatMap escapeChar ++ '"' :: s) = some (cs.map Char.toNat, s) := by
  induction cs with
  | nil => rfl
  | cons c cs ih =>
    rw [List.flatMap_cons, List.append_assoc, units?_escapeChar, ih]
    rfl

/-- No character is half of a surrogate pair. -/
theorem not_surrogate (c : Char) :
    Text.isHighSurrogate c.toNat = false ∧ Text.isLowSurrogate c.toNat = false := by
  have hvalid : c.toNat < 0xD800 ∨ 0xDFFF < c.toNat ∧ c.toNat < 0x110000 := c.valid
  simp only [Text.isHighSurrogate, Text.isLowSurrogate, Bool.and_eq_false_iff,
    decide_eq_false_iff_not]
  omega

/-- The code points of characters make those characters. -/
theorem textOfUnits?_toNat (cs : List Char) : Text.textOfUnits? (cs.map Char.toNat) = some cs := by
  have hchars : ∀ n ∈ cs.map Char.toNat,
      Text.isHighSurrogate n = false ∧ Text.isLowSurrogate n = false := by
    intro n hn
    obtain ⟨c, -, rfl⟩ := List.mem_map.mp hn
    exact not_surrogate c
  rw [Text.textOfUnits?_of_noSurrogate hchars, List.map_map]
  exact congrArg some (List.map_id'' (fun c => Char.ofNat_toNat c) cs)

theorem textValue_toNat (t : String) : textValue (t.toList.map Char.toNat) = .text t := by
  unfold textValue
  rw [textOfUnits?_toNat]
  exact congrArg Json.text String.ofList_toList

/-! ## Number literals -/

/-- What follows a number without prolonging it: it starts with no digit, point or exponent. -/
def EndsNumber (s : List Char) : Prop :=
  ∀ c rest, s = c :: rest → c.isDigit = false ∧ c ≠ '.' ∧ c ≠ 'e' ∧ c ≠ 'E'

theorem endsNumber_nil : EndsNumber [] := by
  intro c rest h
  cases h

theorem endsNumber_cons {c : Char} (s : List Char)
    (h : c.isDigit = false ∧ c ≠ '.' ∧ c ≠ 'e' ∧ c ≠ 'E') : EndsNumber (c :: s) := by
  intro d rest heq
  cases heq
  exact h

/-- The digits in front of a text are all of its leading digits. -/
theorem takeDigits_append {ds s : List Char} (hds : ∀ c ∈ ds, c.isDigit = true)
    (hs : EndsNumber s) : takeDigits (ds ++ s) = (ds, s) := by
  have hnone : s.takeWhile Char.isDigit = [] ∧ s.dropWhile Char.isDigit = s := by
    cases s with
    | nil => exact ⟨rfl, rfl⟩
    | cons c s => simp [(hs c s rfl).1]
  unfold takeDigits
  rw [List.takeWhile_append_of_pos hds, List.dropWhile_append_of_pos hds, hnone.1, hnone.2,
    List.append_nil]

/-- The digits of a positive number start with no zero. -/
theorem head_toDigits_ne_zero {n : Nat} (h : 0 < n) : (Nat.toDigits 10 n).head? ≠ some '0' := by
  induction n using Nat.strongRecOn with
  | ind n ih =>
    by_cases hsmall : n < 10
    · rw [Nat.toDigits_of_lt_base hsmall]
      have hdigit : ∀ m < 10, 0 < m → [m.digitChar].head? ≠ some '0' := by decide
      exact hdigit n hsmall h
    · rw [Nat.toDigits_of_base_le (by decide) (by omega), List.head?_append]
      cases hfront : (Nat.toDigits 10 (n / 10)).head? with
      | none => exact absurd (List.head?_eq_none_iff.mp hfront) Nat.toDigits_ne_nil
      | some c =>
        rw [Option.some_or, ← hfront]
        exact ih (n / 10) (by omega) (by omega)

/-- The digits of a number have no superfluous zero in front. -/
theorem wholePart?_toDigits (n : Nat) {s : List Char} (hs : EndsNumber s) :
    wholePart? (Nat.toDigits 10 n ++ s) = some (Nat.toDigits 10 n, s) := by
  have hdigits : ∀ c ∈ Nat.toDigits 10 n, c.isDigit = true := fun c hc =>
    Nat.isDigit_of_mem_toDigits (by decide) (by decide) hc
  unfold wholePart?
  rw [takeDigits_append hdigits hs]
  split
  case h_1 heq =>
    injection heq with heq
    exact absurd heq Nat.toDigits_ne_nil
  case h_2 second rest heq =>
    injection heq with heq
    have hpos : 0 < n := by
      refine Nat.pos_of_ne_zero ?_
      rintro rfl
      rw [Nat.toDigits_zero] at heq
      cases heq
    exact absurd (congrArg List.head? heq) (head_toDigits_ne_zero hpos)
  case h_3 => simp_all

theorem fraction?_of_endsNumber {s : List Char} (hs : EndsNumber s) :
    fraction? s = some ([], s) := by
  unfold fraction?
  split
  case h_1 rest => exact absurd rfl (hs '.' rest rfl).2.1
  case h_2 => rfl

theorem exponent?_of_endsNumber {s : List Char} (hs : EndsNumber s) :
    exponent? s = some (none, s) := by
  cases s with
  | nil => rfl
  | cons c s =>
    obtain ⟨-, -, he, hE⟩ := hs c s rfl
    simp [exponent?, he, hE]

/-- A row of digits is read as its number. -/
theorem unsignedNumber?_toDigits (negative : Bool) (n : Nat) {s : List Char} (hs : EndsNumber s) :
    unsignedNumber? negative (Nat.toDigits 10 n ++ s) =
      some (numberValue negative (Nat.toDigits 10 n) [] none, s) := by
  unfold unsignedNumber?
  rw [wholePart?_toDigits n hs]
  simp only [Option.bind_eq_bind, Option.bind_some, fraction?_of_endsNumber hs,
    exponent?_of_endsNumber hs, Option.pure_def]

theorem numberValue_of_nonneg {n : Nat} (h : n < UInt64.size) :
    numberValue false (Nat.toDigits 10 n) [] none = .int n := by
  simp [numberValue, h]

theorem numberValue_of_neg {n : Nat} (hpos : 0 < n) (h : n ≤ twoTo 63) :
    numberValue true (Nat.toDigits 10 n) [] none = .int (-n) := by
  simp [numberValue, hpos, h]

/-- A whole number in the range of 64 bits, with or without a sign. -/
def IsWord (n : Int) : Prop := -(twoTo 63 : Nat) ≤ n ∧ n < UInt64.size

/-- A whole number in the range of 64 bits reads back. -/
theorem number?_intText {n : Int} (h : IsWord n) {s : List Char} (hs : EndsNumber s) :
    number? (intText n ++ s) = some (.int n, s) := by
  unfold intText
  obtain ⟨hlow, hhigh⟩ := h
  split
  case isTrue hneg =>
    have habs : n.natAbs ≤ twoTo 63 := by omega
    have hpos : 0 < n.natAbs := by omega
    have hvalue : -(n.natAbs : Int) = n := by omega
    rw [List.cons_append, number?, unsignedNumber?_toDigits true _ hs,
      numberValue_of_neg hpos habs, hvalue]
  case isFalse hneg =>
    have habs : n.natAbs < UInt64.size := by omega
    have hvalue : (n.natAbs : Int) = n := by omega
    have hsign : ∀ rest, Nat.toDigits 10 n.natAbs ++ s ≠ '-' :: rest := by
      intro rest heq
      cases hdigits : Nat.toDigits 10 n.natAbs with
      | nil => exact absurd hdigits Nat.toDigits_ne_nil
      | cons c cs =>
        have hc : c.isDigit = true :=
          Nat.isDigit_of_mem_toDigits (by decide) (by decide)
            (hdigits ▸ List.mem_cons_self)
        rw [hdigits] at heq
        injection heq with heq
        rw [heq] at hc
        exact absurd hc (by decide)
    unfold number?
    split
    case h_1 rest heq => exact absurd heq (hsign rest)
    case h_2 =>
      rw [unsignedNumber?_toDigits false _ hs, numberValue_of_nonneg habs, hvalue]

end NetworkRollout.Json
