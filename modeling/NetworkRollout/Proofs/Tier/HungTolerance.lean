import Mathlib.Tactic.Positivity
import Mathlib.Tactic.Ring
import NetworkRollout.Server.Cluster
import NetworkRollout.Tier.Progressing

/-!
# The tenth of a hung rollout

How many replicas of a hung rollout may be behind is computed in double precision, and the double of
one tenth is a little more than a tenth. Up to `2 ^ 50` replicas the excess and the rounding stay
below the tenth that separates a multiple of ten from the number in front of it, so the tolerance is
that of whole numbers.

* `le_roundQuotient`, `roundQuotient_lt`: bounds of a rounded quotient.
* `significand_of_lt`: a whole number that fits into a significand is a double.
* `doubleTenth_eq_div`: the tenth of a whole number.
* `Tier.progressLaws`: when a tier is progressing, in whole numbers, and what can settle it.
-/

namespace NetworkRollout

/-! ## Rounded quotients -/

section Rounding

variable {num den q : Nat}

/-- Rounding does not pass a whole number on the way down. -/
theorem le_roundQuotient (hden : 0 < den) (h : q * den ≤ num) : q ≤ roundQuotient num den := by
  have hq : q ≤ num / den := (Nat.le_div_iff_mul_le hden).mpr h
  unfold roundQuotient
  dsimp only
  split_ifs <;> omega

/-- What lies more than half a unit below a whole number is rounded to a smaller one. -/
theorem roundQuotient_lt (h : 2 * num + den < 2 * (q * den)) : roundQuotient num den < q := by
  have hsplit : den * (num / den) + num % den = num := Nat.div_add_mod num den
  have hdown : num / den < q := by
    by_contra hq
    have hmul : q * den ≤ den * (num / den) := by
      rw [Nat.mul_comm q]
      exact Nat.mul_le_mul_left den (by omega)
    omega
  have hup : den ≤ 2 * (num % den) → num / den + 1 < q := by
    intro hhalf
    by_contra hq
    have hmul : q * den ≤ den * (num / den) + den := by
      rw [Nat.mul_comm q, ← Nat.mul_succ]
      exact Nat.mul_le_mul_left den (by omega)
    omega
  unfold roundQuotient
  dsimp only
  split_ifs <;> omega

theorem roundQuotient_one (n : Nat) : roundQuotient n 1 = n := by
  unfold roundQuotient
  simp [Nat.mod_one]

/-- The last bit of a significand stands 52 places behind the first one, or a place further. -/
theorem unitExponent_le (num den : Nat) (h : -1074 ≤ (Nat.log2 num : Int) - Nat.log2 den - 52) :
    unitExponent num den ≤ (Nat.log2 num : Int) - Nat.log2 den - 52 := by
  unfold unitExponent
  dsimp only
  split_ifs <;> omega

theorem scaleQuotient_natCast (num den k : Nat) :
    scaleQuotient num den k = (num, den * 2 ^ k) := by
  unfold scaleQuotient
  rw [if_pos (Int.natCast_nonneg k)]
  rfl

theorem scaleQuotient_neg (num den k : Nat) :
    scaleQuotient num den (-(k : Int)) = (num * 2 ^ k, den) := by
  unfold scaleQuotient
  split_ifs with hk
  · obtain rfl : k = 0 := by omega
    exact Prod.ext (Nat.mul_one num).symm (Nat.mul_one den)
  · rw [neg_neg]
    rfl

theorem floorScaled_neg (m k : Nat) : floorScaled m (-(k : Int)) = m / 2 ^ k := by
  unfold floorScaled
  split_ifs with hk
  · obtain rfl : k = 0 := by omega
    exact (Nat.mul_one m).trans (Nat.div_one m).symm
  · rw [neg_neg]
    rfl

theorem significand_of_unitExponent {k : Nat} (h : unitExponent num den = -(k : Int)) :
    significand num den = (roundQuotient (num * 2 ^ k) den, -(k : Int)) := by
  unfold significand
  rw [h]
  dsimp only
  rw [scaleQuotient_neg]

/-- A whole number of at most 53 bits is the double nearest to it. -/
theorem significand_of_lt {n : Nat} (h : n < 2 ^ 53) :
    ∃ k : Nat, significand n 1 = (n * 2 ^ k, -(k : Int)) := by
  have hlog : Nat.log2 n ≤ 52 := by
    by_cases hn : n = 0
    · subst hn
      decide
    · exact Nat.le_of_lt_succ ((Nat.log2_lt hn).mpr h)
  have hone : Nat.log2 1 = 0 := by decide
  have hexponent : unitExponent n 1 ≤ 0 := by
    refine (unitExponent_le n 1 ?_).trans ?_ <;> omega
  obtain ⟨k, hk⟩ := Int.exists_eq_neg_ofNat hexponent
  exact ⟨k, by rw [significand_of_unitExponent hk, roundQuotient_one]⟩

end Rounding

/-! ## The tenth of a whole number -/

-- one tenth is no double, and the nearest one is a little more
example : significand 1 10 = (2 * tenthSignificand, -56) ∧ 2 ^ 55 < 10 * tenthSignificand := by
  decide +kernel

/-- The product with the double of one tenth is at least the whole tenth, and stays well below the
next whole number. -/
theorem tenth_bounds {n : Nat} (h : n ≤ 2 ^ 50) :
    n / 10 * 2 ^ 55 ≤ n * tenthSignificand ∧
      n * tenthSignificand + 2 ^ 51 ≤ (n / 10 + 1) * 2 ^ 55 := by
  unfold tenthSignificand
  omega

/-- The exponent of the product: between a thirty-second and the smallest double there are enough
places for what is behind the point. -/
theorem unitExponent_tenth {n k : Nat} (hpos : 0 < n) (h : n ≤ 2 ^ 50) :
    ∃ j : Nat, 5 ≤ j ∧
      unitExponent (n * tenthSignificand * 2 ^ k) (2 ^ 55 * 2 ^ k) = -(j : Int) := by
  have hden : Nat.log2 (2 ^ 55 * 2 ^ k) = 55 + k := by rw [← Nat.pow_add, Nat.log2_two_pow]
  have hproduct : 2 ^ 51 ≤ n * tenthSignificand ∧ n * tenthSignificand < 2 ^ 103 := by
    unfold tenthSignificand
    omega
  have hne : n * tenthSignificand * 2 ^ k ≠ 0 :=
    Nat.mul_ne_zero (by omega) (Nat.two_pow_pos k).ne'
  have hleast : 51 + k ≤ Nat.log2 (n * tenthSignificand * 2 ^ k) := by
    rw [Nat.le_log2 hne, Nat.pow_add]
    exact Nat.mul_le_mul_right _ hproduct.1
  have hmost : Nat.log2 (n * tenthSignificand * 2 ^ k) < 103 + k := by
    rw [Nat.log2_lt hne, Nat.pow_add]
    exact Nat.mul_lt_mul_of_pos_right hproduct.2 (Nat.two_pow_pos k)
  have hexponent :=
    unitExponent_le (n * tenthSignificand * 2 ^ k) (2 ^ 55 * 2 ^ k) (by omega)
  obtain ⟨j, hj⟩ := Int.exists_eq_neg_ofNat
    (a := unitExponent (n * tenthSignificand * 2 ^ k) (2 ^ 55 * 2 ^ k)) (by omega)
  exact ⟨j, by omega, hj⟩

theorem doubleTenth_eq_div {n : Nat} (h : n ≤ 2 ^ 50) : doubleTenth n = n / 10 := by
  unfold doubleTenth
  split
  case isTrue hn => rw [hn]
  case isFalse hn =>
    obtain ⟨k, hk⟩ := significand_of_lt (n := n) (by omega)
    obtain ⟨j, hj, hexponent⟩ := unitExponent_tenth (k := k) (Nat.pos_of_ne_zero hn) h
    obtain ⟨hleast, hmost⟩ := tenth_bounds h
    have hproduct : n * 2 ^ k * tenthSignificand = n * tenthSignificand * 2 ^ k := by ring
    rw [hk]
    dsimp only
    rw [neg_neg, scaleQuotient_natCast, hproduct]
    dsimp only [twoTo, Nat.pow_eq]
    rw [significand_of_unitExponent hexponent]
    dsimp only
    rw [floorScaled_neg]
    refine Nat.div_eq_of_lt_le (le_roundQuotient (by positivity) ?_) (roundQuotient_lt ?_)
    · calc n / 10 * 2 ^ j * (2 ^ 55 * 2 ^ k)
          = n / 10 * 2 ^ 55 * (2 ^ k * 2 ^ j) := by ring
        _ ≤ n * tenthSignificand * (2 ^ k * 2 ^ j) := Nat.mul_le_mul_right _ hleast
        _ = n * tenthSignificand * 2 ^ k * 2 ^ j := by ring
    · have hhalf : 2 ^ 55 < 2 ^ 52 * 2 ^ j := by
        rw [← Nat.pow_add]
        exact Nat.pow_lt_pow_right (by decide) (by omega)
      calc 2 * (n * tenthSignificand * 2 ^ k * 2 ^ j) + 2 ^ 55 * 2 ^ k
          < 2 * (n * tenthSignificand * 2 ^ k * 2 ^ j) + 2 ^ 52 * 2 ^ j * 2 ^ k :=
            Nat.add_lt_add_left (Nat.mul_lt_mul_of_pos_right hhalf (Nat.two_pow_pos k)) _
        _ = 2 * (n * tenthSignificand + 2 ^ 51) * (2 ^ k * 2 ^ j) := by ring
        _ ≤ 2 * ((n / 10 + 1) * 2 ^ 55) * (2 ^ k * 2 ^ j) :=
            Nat.mul_le_mul_right _ (Nat.mul_le_mul_left 2 hmost)
        _ = 2 * ((n / 10 + 1) * 2 ^ j * (2 ^ 55 * 2 ^ k)) := by ring

/-- The tolerance in whole numbers; a negative count tolerates as little as zero. -/
theorem hungTolerance_eq {desired : Int} (h : |desired| ≤ 2 ^ 50) :
    hungTolerance desired = max 1 (desired / 10) := by
  obtain ⟨-, hmost⟩ := abs_le.mp h
  unfold hungTolerance
  split
  case isTrue hnonneg =>
    have htenth : doubleTenth desired.toNat = desired.toNat / 10 := doubleTenth_eq_div (by omega)
    rw [htenth]
    omega
  case isFalse hneg => omega

/-! ## Progress of a tier -/

namespace Progress

theorem incomplete_iff {p : Progress} :
    p.incomplete = true ↔ p.updated < p.desired ∨ 0 < p.unavailable ∨ p.available = 0 ∨
      p.observedGeneration < p.generation := by
  simp [incomplete, or_assoc]

end Progress

namespace Tier

variable {t : Tier}

theorem counter?_inRange {status : Members} {name : String} {n : Int}
    (h : counter? status name = some n) : |n| ≤ 2 ^ 31 := by
  unfold counter? Json.Fields.optional at h
  split at h
  case h_1 | h_2 =>
    cases h
    decide
  case h_3 j _ _ =>
    rw [Option.map_map] at h
    obtain ⟨m, hm, rfl⟩ := Option.map_eq_some_iff.mp h
    unfold Json.i32? at hm
    split at hm
    case h_1 =>
      split at hm
      case isTrue hrange =>
        cases hm
        exact abs_le.mpr ⟨hrange.1, hrange.2.trans (by decide)⟩
      case isFalse => cases hm
    case h_2 => cases hm

/-- A workload counts its replicas in 32 bits. -/
theorem desired_inRange {workload : Json} (h : ofWorkload? workload = some t) :
    |t.progress.desired| ≤ 2 ^ 31 := by
  unfold ofWorkload? at h
  simp only [Option.bind_eq_bind, Option.bind_eq_some_iff] at h
  obtain ⟨_, -, _, -, _, -, progress, hprogress, h⟩ := h
  split at h
  case isTrue =>
    cases h
    unfold progress? at hprogress
    simp only [Option.bind_eq_bind, Option.bind_eq_some_iff] at hprogress
    obtain ⟨_, -, desired, hdesired, _, -, _, -, _, -, _, -, heq⟩ := hprogress
    cases heq
    exact counter?_inRange hdesired
  case isFalse => cases h

theorem progressing_iff (h : |t.progress.desired| ≤ 2 ^ 50) (forgiveHung : Bool) :
    t.progressing forgiveHung = true ↔ t.progress.incomplete = true ∧
      ¬ (forgiveHung = true ∧ t.hung = true ∧
        t.progress.desired - t.progress.updated ≤ max 1 (t.progress.desired / 10)) := by
  unfold progressing
  rw [hungTolerance_eq h, Bool.and_eq_true, Bool.not_eq_true', ← Bool.not_eq_true,
    Bool.and_eq_true, Bool.and_eq_true, decide_eq_true_eq, and_assoc]

/-- When a tier is progressing, in whole numbers, and what can only settle it. -/
structure ProgressLaws (t : Tier) : Prop where
  progressing_iff : ∀ forgiveHung : Bool, t.progressing forgiveHung = true ↔
    (t.progress.updated < t.progress.desired ∨ 0 < t.progress.unavailable ∨
        t.progress.available = 0 ∨ t.progress.observedGeneration < t.progress.generation) ∧
      ¬ (forgiveHung = true ∧ t.hung = true ∧
        t.progress.desired - t.progress.updated ≤ max 1 (t.progress.desired / 10))
  forgiven : t.progressing true = true → t.progressing false = true
  marked : ∀ forgiveHung : Bool, Tier.progressing { t with hung := true } forgiveHung = true →
    Tier.progressing { t with hung := false } forgiveHung = true
  updated : ∀ (forgiveHung : Bool) (updated : Int), t.progress.updated ≤ updated →
    Tier.progressing { t with progress.updated := updated } forgiveHung = true →
      t.progressing forgiveHung = true

/-- The laws hold of every tier of at most `2 ^ 50` desired replicas, and so of every tier that is
read from a workload. -/
theorem progressLaws
    (h : |t.progress.desired| ≤ 2 ^ 50 ∨ ∃ workload, ofWorkload? workload = some t) :
    t.ProgressLaws := by
  have hdesired : |t.progress.desired| ≤ 2 ^ 50 := by
    rcases h with hrange | ⟨workload, hread⟩
    · exact hrange
    · exact (desired_inRange hread).trans (by decide)
  refine ⟨?_, ?_, ?_, ?_⟩
  · intro forgiveHung
    rw [progressing_iff hdesired, Progress.incomplete_iff]
  · rw [progressing_iff hdesired, progressing_iff hdesired]
    rintro ⟨hincomplete, -⟩
    exact ⟨hincomplete, fun hforgiven => Bool.false_ne_true hforgiven.1⟩
  · intro forgiveHung hmarked
    obtain ⟨hincomplete, -⟩ :=
      (progressing_iff (t := { t with hung := true }) hdesired _).mp hmarked
    refine (progressing_iff (t := { t with hung := false }) hdesired _).mpr ⟨hincomplete, ?_⟩
    exact fun hforgiven => Bool.false_ne_true hforgiven.2.1
  · intro forgiveHung updated hle hraised
    obtain ⟨hincomplete, hnot⟩ :=
      (progressing_iff (t := { t with progress.updated := updated }) hdesired _).mp hraised
    refine (progressing_iff hdesired _).mpr ⟨?_, ?_⟩
    · -- with fewer updated replicas, the same counter tells that the rollout is not complete
      rw [Progress.incomplete_iff] at hincomplete ⊢
      rcases hincomplete with hbehind | hother
      · exact Or.inl (lt_of_le_of_lt hle hbehind)
      · exact Or.inr hother
    · rintro ⟨hforgive, hhung, hbehind⟩
      exact hnot ⟨hforgive, hhung, (Int.sub_le_sub_left hle _).trans hbehind⟩

/-- At the largest count, a tenth of the replicas may be behind and not one more. -/
theorem progressLaws_largest :
    let tier (behind : Int) : Tier :=
      { hung := true
        progress := { desired := 2 ^ 50, updated := 2 ^ 50 - behind, available := 1 } }
    (tier 112589990684262).progressing true = false ∧
      (tier 112589990684263).progressing true = true := by
  intro tier
  have hlaws : ∀ behind, (tier behind).ProgressLaws := by
    intro behind
    have hdesired : |(2 : Int) ^ 50| ≤ 2 ^ 50 := by decide
    exact progressLaws (Or.inl hdesired)
  rw [← Bool.not_eq_true, (hlaws _).progressing_iff, (hlaws _).progressing_iff]
  decide

end Tier

end NetworkRollout
