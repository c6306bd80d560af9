import NetworkRollout.Proofs.Json.Literal

/-!
# JSON values read back from their text

The compact text of a value without doubles denotes that value: reading it gives the value back,
with every member in its place, repeated names included.

* `Exact`: the values without doubles, with whole numbers in the range of 64 bits.
* `Reads`: a printed value is read whatever follows it, as long as no number is prolonged.
* `Exact.reads`: all exact values are.
* `ofString?_render`: the text of an exact value reads back as the value.
-/

namespace NetworkRollout.Json

/-- The values whose text denotes them: no doubles, and whole numbers in the range of 64 bits. -/
inductive Exact : Json → Prop
  | null : Exact .null
  | bool (b : Bool) : Exact (.bool b)
  | int {n : Int} : IsWord n → Exact (.int n)
  | text (t : String) : Exact (.text t)
  | array {items : List Json} : (∀ j ∈ items, Exact j) → Exact (.array items)
  | object {ms : Members} : (∀ m ∈ ms, Exact m.2) → Exact (.object ms)

/-- A printed value is read with enough fuel, whatever follows it. The number of its characters is
enough, since every call of a reader stands for a character. -/
def Reads (j : Json) : Prop :=
  ∀ fuel s, j.print.length ≤ fuel → EndsNumber s → value? fuel (j.print ++ s) = some (j, s)

/-! ## First characters -/

theorem intText_cons (n : Int) :
    ∃ c cs, intText n = c :: cs ∧ (c = '-' ∨ c.isDigit = true) := by
  unfold intText
  split
  · exact ⟨_, _, rfl, Or.inl rfl⟩
  · cases hdigits : Nat.toDigits 10 n.natAbs with
    | nil => exact absurd hdigits Nat.toDigits_ne_nil
    | cons c cs =>
      refine ⟨c, cs, rfl, Or.inr ?_⟩
      exact Nat.isDigit_of_mem_toDigits (by decide) (by decide) (hdigits ▸ List.mem_cons_self)

/-- Neither a blank nor a closing bracket is a sign or a digit. -/
theorem not_gap_of_number {c : Char} (h : c = '-' ∨ c.isDigit = true) :
    isGap c = false ∧ c ≠ ']' := by
  rcases h with rfl | h
  · decide
  · refine ⟨?_, ?_⟩
    · simp only [isGap, Bool.or_eq_false_iff, decide_eq_false_iff_not]
      refine ⟨⟨⟨?_, ?_⟩, ?_⟩, ?_⟩ <;> (rintro rfl; revert h; decide)
    · rintro rfl
      revert h
      decide

/-- The text of an exact value starts with neither a blank nor a closing bracket. -/
theorem Exact.print_cons {j : Json} (h : Exact j) :
    ∃ c cs, j.print = c :: cs ∧ isGap c = false ∧ c ≠ ']' := by
  cases h with
  | null => exact ⟨_, _, rfl, by decide, by decide⟩
  | bool b => cases b <;> exact ⟨_, _, rfl, by decide, by decide⟩
  | @int n _ =>
    obtain ⟨c, cs, heq, hc⟩ := intText_cons n
    exact ⟨c, cs, heq, not_gap_of_number hc⟩
  | text t => exact ⟨_, _, rfl, by decide, by decide⟩
  | array _ => exact ⟨_, _, rfl, by decide, by decide⟩
  | object _ => exact ⟨_, _, rfl, by decide, by decide⟩

theorem skipGap_cons {c : Char} (h : isGap c = false) (s : List Char) :
    skipGap (c :: s) = c :: s := by
  simp [skipGap, h]

theorem Exact.skipGap_print {j : Json} (h : Exact j) (s : List Char) :
    skipGap (j.print ++ s) = j.print ++ s := by
  obtain ⟨c, cs, heq, hc, -⟩ := h.print_cons
  rw [heq]
  exact skipGap_cons hc (cs ++ s)

theorem printItems_cons (item : Json) (rest : List Json) :
    ∃ tail, printItems (item :: rest) = item.print ++ tail := by
  cases rest with
  | nil => exact ⟨_, rfl⟩
  | cons _ _ => exact ⟨_, rfl⟩

theorem printMembers_cons (m : String × Json) (rest : Members) :
    ∃ tail, printMembers (m :: rest) = '"' :: tail := by
  cases rest with
  | nil => exact ⟨_, rfl⟩
  | cons _ _ => exact ⟨_, rfl⟩

theorem Exact.skipGap_printItems {item : Json} (h : Exact item) (rest : List Json)
    (s : List Char) :
    skipGap (printItems (item :: rest) ++ s) = printItems (item :: rest) ++ s := by
  obtain ⟨tail, htail⟩ := printItems_cons item rest
  rw [htail, List.append_assoc]
  exact h.skipGap_print (tail ++ s)

theorem skipGap_printMembers (m : String × Json) (rest : Members) (s : List Char) :
    skipGap (printMembers (m :: rest) ++ s) = printMembers (m :: rest) ++ s := by
  obtain ⟨tail, htail⟩ := printMembers_cons m rest
  rw [htail]
  exact skipGap_cons (by decide) (tail ++ s)

/-! ## Single values -/

/-- A whole number is read. -/
theorem reads_int {n : Int} (h : IsWord n) : Reads (.int n) := by
  intro fuel s hfuel hs
  change value? fuel (intText n ++ s) = _
  obtain ⟨c, cs, heq, hc⟩ := intText_cons n
  have hne : ∀ d, d ∈ ['"', '[', '\x7b', 'n', 't', 'f'] → c ≠ d := by
    rcases hc with rfl | hc
    · simp
    · intro d hd hcd
      subst hcd
      have hnot : ∀ d ∈ ['"', '[', '\x7b', 'n', 't', 'f'], d.isDigit = false := by simp
      rw [hnot c hd] at hc
      cases hc
  cases fuel with
  | zero =>
    change (intText n).length ≤ 0 at hfuel
    rw [heq] at hfuel
    cases hfuel
  | succ fuel =>
    rw [← number?_intText h hs, heq, List.cons_append]
    unfold value?
    -- a sign or a digit opens no other kind of value
    split
    case h_7 => rfl
    all_goals
      rename_i hopen
      injection hopen with hopen
      exact absurd hopen (hne _ (by decide))

/-- A text is read. -/
theorem reads_text (t : String) : Reads (.text t) := by
  intro fuel s hfuel _
  cases fuel with
  | zero => cases hfuel
  | succ fuel =>
    change value? (fuel + 1) ('"' :: (t.toList.flatMap escapeChar ++ ['"']) ++ s) = _
    rw [List.cons_append, List.append_assoc, value?, List.singleton_append, units?_quote]
    simp only [Option.map_some, textValue_toNat]

/-! ## Items and members -/

theorem endsNumber_bracket (s : List Char) : EndsNumber (']' :: s) :=
  endsNumber_cons s (by decide)

theorem endsNumber_comma (s : List Char) : EndsNumber (',' :: s) :=
  endsNumber_cons s (by decide)

theorem endsNumber_brace (s : List Char) : EndsNumber ('\x7d' :: s) :=
  endsNumber_cons s (by decide)

/-- Printed items are read up to the closing bracket. -/
theorem items?_printItems {items : List Json} (hne : items ≠ [])
    (hexact : ∀ j ∈ items, Exact j) (hreads : ∀ j ∈ items, Reads j) (s : List Char)
    {fuel : Nat} (hfuel : (printItems items).length ≤ fuel) :
    items? fuel (printItems items ++ s) = some (items, s) := by
  induction items generalizing fuel with
  | nil => exact absurd rfl hne
  | cons item rest ih =>
    have hitem := hreads item List.mem_cons_self
    cases fuel with
    | zero =>
      obtain ⟨c, cs, heq, -⟩ := (hexact item List.mem_cons_self).print_cons
      cases rest <;> simp [printItems, heq] at hfuel
    | succ fuel =>
      cases rest with
      | nil =>
        simp only [printItems, List.length_append, List.length_singleton] at hfuel
        rw [printItems, List.append_assoc, List.singleton_append, items?,
          hitem fuel _ (by omega) (endsNumber_bracket s)]
        rfl
      | cons next rest =>
        simp only [printItems, List.length_append, List.length_cons] at hfuel
        have hnext := (hexact next (List.mem_cons_of_mem _ List.mem_cons_self)).skipGap_printItems
          rest s
        have hbound : (printItems (next :: rest)).length ≤ fuel := by omega
        have hrest := ih (List.cons_ne_nil next rest)
          (fun j hj => hexact j (List.mem_cons_of_mem _ hj))
          (fun j hj => hreads j (List.mem_cons_of_mem _ hj)) hbound
        rw [printItems, List.append_assoc, List.cons_append, items?,
          hitem fuel _ (by omega) (endsNumber_comma _)]
        · simp only [Option.bind_eq_bind, Option.bind_some,
            skipGap_cons (show isGap ',' = false by rfl), hnext, hrest, Option.pure_def]
        · simp

/-- Printed members are read up to the closing brace. -/
theorem members?_printMembers {ms : Members} (hne : ms ≠ []) (hexact : ∀ m ∈ ms, Exact m.2)
    (hreads : ∀ m ∈ ms, Reads m.2) (s : List Char) {fuel : Nat}
    (hfuel : (printMembers ms).length ≤ fuel) :
    members? fuel (printMembers ms ++ s) = some (some ms, s) := by
  induction ms generalizing fuel with
  | nil => exact absurd rfl hne
  | cons m rest ih =>
    obtain ⟨name, value⟩ := m
    have hexactValue : Exact value := hexact (name, value) List.mem_cons_self
    have hvalue : Reads value := hreads (name, value) List.mem_cons_self
    cases fuel with
    | zero => cases rest <;> simp [printMembers, quote] at hfuel
    | succ fuel =>
      cases rest with
      | nil =>
        simp only [printMembers, List.length_append, List.length_cons, List.length_nil] at hfuel
        simp only [printMembers, quote, List.cons_append, List.append_assoc, List.nil_append,
          members?, units?_quote, Option.bind_eq_bind, Option.bind_some,
          skipGap_cons (show isGap ':' = false by rfl), hexactValue.skipGap_print]
        rw [hvalue fuel _ (by omega) (endsNumber_brace s)]
        simp only [Option.bind_some, skipGap_cons (show isGap '\x7d' = false by rfl),
          textOfUnits?_toNat, Option.map_some, String.ofList_toList, Option.pure_def]
      | cons next rest =>
        simp only [printMembers, quote, List.length_append, List.length_cons] at hfuel
        have hnext := skipGap_printMembers next rest s
        have hbound : (printMembers (next :: rest)).length ≤ fuel := by omega
        have hrest := ih (List.cons_ne_nil next rest)
          (fun m hm => hexact m (List.mem_cons_of_mem _ hm))
          (fun m hm => hreads m (List.mem_cons_of_mem _ hm)) hbound
        simp only [printMembers, quote, List.cons_append, List.append_assoc, List.nil_append,
          members?, units?_quote, Option.bind_eq_bind, Option.bind_some,
          skipGap_cons (show isGap ':' = false by rfl), hexactValue.skipGap_print]
        rw [hvalue fuel _ (by omega) (endsNumber_comma _)]
        simp only [Option.bind_some, skipGap_cons (show isGap ',' = false by rfl), hnext, hrest,
          textOfUnits?_toNat, Option.map_some, String.ofList_toList, Option.pure_def]

/-! ## All values -/

theorem reads_array {items : List Json} (hexact : ∀ j ∈ items, Exact j)
    (hreads : ∀ j ∈ items, Reads j) : Reads (.array items) := by
  intro fuel s hfuel _
  cases fuel with
  | zero => cases hfuel
  | succ fuel =>
    have hlength : (printItems items).length ≤ fuel := Nat.le_of_succ_le_succ hfuel
    change value? (fuel + 1) ('[' :: printItems items ++ s) = _
    rw [List.cons_append, value?]
    cases items with
    | nil => rfl
    | cons item rest =>
      have hread := items?_printItems (List.cons_ne_nil item rest) hexact hreads s hlength
      obtain ⟨c, cs, heq, -, hbracket⟩ := (hexact item List.mem_cons_self).print_cons
      obtain ⟨tail, htail⟩ := printItems_cons item rest
      rw [(hexact item List.mem_cons_self).skipGap_printItems rest s]
      split
      case h_1 hclose =>
        rw [htail, heq] at hclose
        injection hclose with hclose
        exact absurd hclose hbracket
      case h_2 =>
        rw [hread]
        rfl

theorem reads_object {ms : Members} (hexact : ∀ m ∈ ms, Exact m.2)
    (hreads : ∀ m ∈ ms, Reads m.2) : Reads (.object ms) := by
  intro fuel s hfuel _
  cases fuel with
  | zero => cases hfuel
  | succ fuel =>
    have hlength : (printMembers ms).length ≤ fuel := Nat.le_of_succ_le_succ hfuel
    change value? (fuel + 1) ('\x7b' :: printMembers ms ++ s) = _
    rw [List.cons_append, value?]
    cases ms with
    | nil => rfl
    | cons m rest =>
      have hread := members?_printMembers (List.cons_ne_nil m rest) hexact hreads s hlength
      obtain ⟨tail, htail⟩ := printMembers_cons m rest
      rw [skipGap_printMembers m rest s]
      split
      case h_1 hclose =>
        rw [htail] at hclose
        injection hclose with hclose
        exact absurd hclose (by decide)
      case h_2 =>
        rw [hread]
        rfl

/-- Every exact value is read. The induction is on its structure: the text of an array or object is
that of its parts between marks that prolong no number. -/
theorem Exact.reads {j : Json} (h : Exact j) : Reads j := by
  induction h with
  | null =>
    intro fuel s hfuel _
    cases fuel with
    | zero => cases hfuel
    | succ fuel => rfl
  | bool b =>
    intro fuel s hfuel _
    cases fuel with
    | zero => cases b <;> cases hfuel
    | succ fuel => cases b <;> rfl
  | int h => exact reads_int h
  | text t => exact reads_text t
  | array hexact ih => exact reads_array hexact ih
  | object hexact ih => exact reads_object hexact ih

/-- The text of an exact value reads back as the value. -/
theorem ofString?_render {j : Json} (h : Exact j) : ofString? j.render = some j := by
  have hread := h.reads (2 * j.print.length + 1) [] (by omega) endsNumber_nil
  have hgap := h.skipGap_print []
  rw [List.append_nil] at hread hgap
  unfold ofString? render parse?
  rw [String.toList_ofList, hgap, hread]
  rfl

end NetworkRollout.Json
