import Mathlib.Data.Int.Defs
import Mathlib.Algebra.Group.Nat.Basic
import Mathlib.Tactic.Ring

/-!
# The `f64` arithmetic of frequency scaling

`scale_frequency_intelligent` converts loads and frequencies to `f64`, divides, multiplies, adds and subtracts, and
truncates a distance back to `u64`. Every finite binary64 value is a whole number of units of `2^-1074`, so a value
is that number (`F64.units`), and each operation rounds its exact result, a fraction `a / d` of units, to the
nearest binary64 value with ties to even (`roundMag`): 53 significant bits in the binade of `a / d`, and a spacing of
one unit below `2^-1022`. The values of frequency scaling stay below `2^90`, far below the overflow threshold `2^1024`,
so no infinity or NaN arises, and `log2Search` finds the binade of every magnitude below `2^4096` units.

* `roundMag_mono`: rounding is monotone;
* `roundMag_exact`: whole numbers below `2^53` are exact;
* `roundMag_add_unit`: below `2^52` the spacing is at most a half, so a value larger by `1.0` rounds and truncates
  to a larger whole number.
-/

namespace LightKernel.Binary64

/-- `Nat.log2 n` for `n < 2 ^ 2 ^ k`, halving in steps of `2 ^ 2 ^ j` bits for `j < k`. -/
def log2Search : Nat → Nat → Nat
  | 0, _ => 0
  | k + 1, n => if 2 ^ 2 ^ k ≤ n then 2 ^ k + log2Search k (n / 2 ^ 2 ^ k) else log2Search k n

/-- The nearest integer to `a / d`, ties to even. -/
def rne (a d : Nat) : Nat :=
  if 2 * (a % d) < d then a / d
  else if d < 2 * (a % d) then a / d + 1
  else if a / d % 2 = 0 then a / d else a / d + 1

/-- The exponent of the spacing of binary64 around `a / d` units: `2 ^ (e - 52)` units in the binade
`[2 ^ e, 2 ^ (e + 1))`, and one unit below `2 ^ 52` units. -/
def ulpExp (a d : Nat) : Nat := log2Search 12 (a / d) - 52

/-- `a / d` units rounded to the nearest binary64 value, ties to even. -/
def roundMag (a d : Nat) : Nat := rne a (d * 2 ^ ulpExp a d) * 2 ^ ulpExp a d

/-- The units of `1.0`. -/
def unit : Nat := 2 ^ 1074

theorem unit_pos : 0 < unit := Nat.pos_of_ne_zero (pow_ne_zero _ (by decide))

/-- `1.0` in units of the spacing `2 ^ p`. -/
theorem unit_split {p : Nat} (hp : p ≤ 1074) : unit = 2 ^ (1074 - p) * 2 ^ p := by
  rw [unit, ← Nat.pow_add, Nat.sub_add_cancel hp]

theorem two_pow_mul_unit (k : Nat) : 2 ^ k * unit = 2 ^ (k + 1074) := by rw [unit, ← Nat.pow_add]

/-- The magnitudes `log2Search 12` covers. -/
theorem two_pow_lt_bound {k : Nat} (hk : k < 2 ^ 12) : 2 ^ k < 2 ^ 2 ^ 12 := Nat.pow_lt_pow_right (by decide) hk

/-! ## The binade -/

@[simp] theorem log2Search_zero : ∀ k, log2Search k 0 = 0
  | 0 => rfl
  | k + 1 => by rw [log2Search, if_neg (Nat.not_le.mpr (Nat.two_pow_pos _)), log2Search_zero k]

theorem log2Search_spec : ∀ {k n : Nat}, 0 < n → n < 2 ^ 2 ^ k →
    2 ^ log2Search k n ≤ n ∧ n < 2 ^ (log2Search k n + 1)
  | 0, n, hn, h => by simp only [log2Search, Nat.pow_zero, Nat.pow_one] at *; omega
  | k + 1, n, hn, h => by
    have hN : 2 ^ 2 ^ (k + 1) = 2 ^ 2 ^ k * 2 ^ 2 ^ k := by rw [Nat.pow_succ, Nat.pow_mul, Nat.pow_two]
    have hpos : 0 < 2 ^ 2 ^ k := Nat.two_pow_pos _
    unfold log2Search
    split
    · next hk =>
      have hq : n / 2 ^ 2 ^ k < 2 ^ 2 ^ k := (Nat.div_lt_iff_lt_mul hpos).mpr (hN ▸ h)
      obtain ⟨h1, h2⟩ := log2Search_spec (Nat.div_pos hk hpos) hq
      generalize log2Search k (n / 2 ^ 2 ^ k) = L at h1 h2
      refine ⟨?_, ?_⟩
      · calc 2 ^ (2 ^ k + L) = 2 ^ 2 ^ k * 2 ^ L := Nat.pow_add _ _ _
          _ ≤ 2 ^ 2 ^ k * (n / 2 ^ 2 ^ k) := Nat.mul_le_mul_left _ h1
          _ ≤ n := Nat.mul_div_le n _
      · calc n < 2 ^ 2 ^ k * (n / 2 ^ 2 ^ k + 1) := Nat.lt_mul_div_succ n hpos
          _ ≤ 2 ^ 2 ^ k * 2 ^ (L + 1) := Nat.mul_le_mul_left _ h2
          _ = 2 ^ (2 ^ k + L + 1) := by rw [← Nat.pow_add, Nat.add_assoc]
    · next hk => exact log2Search_spec hn (Nat.lt_of_not_le hk)

/-- `p` is the spacing exponent of the binade of `a / d` units: below `2 ^ (p + 53)`, and at least `2 ^ (p + 52)`
unless the spacing is one unit. -/
def UlpSpec (a d p : Nat) : Prop := a < d * 2 ^ (p + 53) ∧ (p = 0 ∨ d * 2 ^ (p + 52) ≤ a)

theorem ulpExp_spec {a d : Nat} (hd : 0 < d) (hb : a < d * 2 ^ 2 ^ 12) : UlpSpec a d (ulpExp a d) := by
  unfold ulpExp UlpSpec
  rcases Nat.eq_zero_or_pos (a / d) with hq | hq
  · rw [hq, log2Search_zero]
    refine ⟨?_, .inl rfl⟩
    have := Nat.lt_mul_div_succ a hd
    rw [hq] at this
    calc a < d * (0 + 1) := this
      _ ≤ d * 2 ^ (0 - 52 + 53) := Nat.mul_le_mul_left _ Nat.one_le_two_pow
  · have hlt : a / d < 2 ^ 2 ^ 12 := (Nat.div_lt_iff_lt_mul hd).mpr (by rw [Nat.mul_comm]; exact hb)
    obtain ⟨h1, h2⟩ := log2Search_spec hq hlt
    generalize log2Search 12 (a / d) = L at h1 h2
    refine ⟨?_, ?_⟩
    · calc a < d * (a / d + 1) := Nat.lt_mul_div_succ a hd
        _ ≤ d * 2 ^ (L + 1) := Nat.mul_le_mul_left _ h2
        _ ≤ d * 2 ^ (L - 52 + 53) := Nat.mul_le_mul_left _ (Nat.pow_le_pow_right (by decide) (by omega))
    · by_cases hL : L ≤ 52
      · exact .inl (by omega)
      · refine .inr ?_
        calc d * 2 ^ (L - 52 + 52) = d * 2 ^ L := by rw [Nat.sub_add_cancel (by omega)]
          _ ≤ d * (a / d) := Nat.mul_le_mul_left _ h1
          _ ≤ a := Nat.mul_div_le a d

/-- The spacing does not shrink as the value grows. -/
theorem UlpSpec.le {a a' d p q : Nat} (hp : UlpSpec a d p) (hq : UlpSpec a' d q) (h : a ≤ a') : p ≤ q := by
  rcases hp.2 with rfl | hp2
  · exact Nat.zero_le _
  · have : d * 2 ^ (p + 52) < d * 2 ^ (q + 53) := by have := hq.1; omega
    have := (Nat.pow_lt_pow_iff_right (by decide : 1 < 2)).mp (Nat.lt_of_mul_lt_mul_left this)
    omega

/-! ## Nearest integer, ties to even -/

theorem rne_cases (a d : Nat) :
    (rne a d = a / d ∧ 2 * (a % d) ≤ d) ∨ (rne a d = a / d + 1 ∧ d ≤ 2 * (a % d)) := by
  unfold rne
  split_ifs <;> first | exact .inl ⟨rfl, by omega⟩ | exact .inr ⟨rfl, by omega⟩

theorem rne_mono {a a' d : Nat} (h : a ≤ a') : rne a d ≤ rne a' d := by
  have hq : a / d ≤ a' / d := Nat.div_le_div_right h
  rcases Nat.lt_or_eq_of_le hq with hlt | heq
  · rcases rne_cases a d with ⟨e, -⟩ | ⟨e, -⟩ <;> rcases rne_cases a' d with ⟨e', -⟩ | ⟨e', -⟩ <;> omega
  · have h1 := Nat.div_add_mod a d
    have h2 := Nat.div_add_mod a' d
    rw [heq] at h1
    have hr : a % d ≤ a' % d := by omega
    unfold rne
    rw [heq]
    split_ifs <;> omega

/-- An exact multiple rounds to itself. -/
theorem rne_mul (k : Nat) {d : Nat} (hd : 0 < d) : rne (k * d) d = k := by
  unfold rne
  rw [Nat.mul_mod_left, Nat.mul_div_cancel _ hd]
  simp [hd]

/-- Below the multiple `k * d`, rounding gives at most `k`. -/
theorem rne_le_of_lt {a d k : Nat} (hd : 0 < d) (h : a < k * d) : rne a d ≤ k := by
  have : a / d < k := (Nat.div_lt_iff_lt_mul hd).mpr h
  rcases rne_cases a d with ⟨e, -⟩ | ⟨e, -⟩ <;> omega

/-- From the multiple `k * d` on, rounding gives at least `k`. -/
theorem le_rne_of_le {a d k : Nat} (hd : 0 < d) (h : k * d ≤ a) : k ≤ rne a d := by
  have : k ≤ a / d := (Nat.le_div_iff_mul_le hd).mpr h
  rcases rne_cases a d with ⟨e, -⟩ | ⟨e, -⟩ <;> omega

/-- Rounding to `k` or more means `a / d` is at least `k - 1/2`. -/
theorem sub_half_le_of_le_rne {a d k : Nat} (h : k ≤ rne a d) : (2 * k - 1) * d ≤ 2 * a := by
  have hdm := Nat.div_add_mod a d
  rcases rne_cases a d with ⟨e, -⟩ | ⟨e, hr⟩
  · have : k * d ≤ a / d * d := Nat.mul_le_mul_right _ (e ▸ h)
    have : (2 * k - 1) * d ≤ 2 * (k * d) := by
      rw [Nat.sub_mul, Nat.mul_assoc]; exact Nat.sub_le _ _
    rw [Nat.mul_comm d] at hdm
    omega
  · have hk : 2 * k - 1 ≤ 2 * (a / d) + 1 := by omega
    have : (2 * k - 1) * d ≤ (2 * (a / d) + 1) * d := Nat.mul_le_mul_right _ hk
    rw [Nat.add_mul, Nat.mul_assoc, Nat.one_mul, Nat.mul_comm (a / d)] at this
    omega

/-- Above `k - 1/2`, rounding gives at least `k`. -/
theorem le_rne_of_sub_half_lt {a d k : Nat} (hd : 0 < d) (h : (2 * k - 1) * d < 2 * a) : k ≤ rne a d := by
  have hdm := Nat.div_add_mod a d
  have hr := Nat.mod_lt a hd
  rw [Nat.mul_comm d] at hdm
  by_cases hk : k ≤ a / d
  · rcases rne_cases a d with ⟨e, -⟩ | ⟨e, -⟩ <;> omega
  · have h1 : (2 * (a / d) + 1) * d ≤ (2 * k - 1) * d := Nat.mul_le_mul_right _ (by omega)
    have h2 : (2 * k - 1) * d < (2 * (a / d) + 2) * d := by
      calc (2 * k - 1) * d < 2 * a := h
        _ < (2 * (a / d) + 2) * d := by rw [Nat.add_mul, Nat.mul_assoc]; omega
    have h3 : 2 * k - 1 < 2 * (a / d) + 2 := Nat.lt_of_mul_lt_mul_right h2
    rw [Nat.add_mul, Nat.mul_assoc, Nat.one_mul] at h1
    rcases rne_cases a d with ⟨e, hr'⟩ | ⟨e, -⟩ <;> omega

/-- Adding an even number of `d`s adds as many to the rounding. -/
theorem rne_add_mul {a m d : Nat} (hd : 0 < d) (hm : m % 2 = 0) : rne (a + m * d) d = rne a d + m := by
  unfold rne
  rw [Nat.add_mul_mod_self_right, Nat.add_mul_div_right _ _ hd]
  split_ifs <;> omega

/-! ## Rounding -/

section Round

variable {a a' d n : Nat}

theorem mul_two_pow_pos (hd : 0 < d) (p : Nat) : 0 < d * 2 ^ p := Nat.mul_pos hd (Nat.two_pow_pos p)

theorem rne_zero (d : Nat) : rne 0 d = 0 := by simp [rne]

theorem roundMag_zero (d : Nat) : roundMag 0 d = 0 := by rw [roundMag, rne_zero, Nat.zero_mul]

/-- **Rounding is monotone** in the exact value. -/
theorem roundMag_mono (hd : 0 < d) (hb : a' < d * 2 ^ 2 ^ 12) (h : a ≤ a') : roundMag a d ≤ roundMag a' d := by
  have hs := ulpExp_spec hd (Nat.lt_of_le_of_lt h hb)
  have hs' := ulpExp_spec hd hb
  have hpq := hs.le hs' h
  unfold roundMag
  generalize ulpExp a d = p at *
  generalize ulpExp a' d = q at *
  rcases Nat.lt_or_eq_of_le hpq with hlt | rfl
  · have hq : d * 2 ^ (q + 52) ≤ a' := hs'.2.resolve_left (by omega)
    calc rne a (d * 2 ^ p) * 2 ^ p ≤ 2 ^ 53 * 2 ^ p :=
          Nat.mul_le_mul_right _ (rne_le_of_lt (mul_two_pow_pos hd p)
            (by rw [show 2 ^ 53 * (d * 2 ^ p) = d * 2 ^ (p + 53) by rw [Nat.pow_add]; ring]; exact hs.1))
      _ = 2 ^ (p + 53) := by rw [← Nat.pow_add, Nat.add_comm]
      _ ≤ 2 ^ (q + 52) := Nat.pow_le_pow_right (by decide) (by omega)
      _ = 2 ^ 52 * 2 ^ q := by rw [← Nat.pow_add, Nat.add_comm]
      _ ≤ rne a' (d * 2 ^ q) * 2 ^ q :=
          Nat.mul_le_mul_right _ (le_rne_of_le (mul_two_pow_pos hd q)
            (by rw [show 2 ^ 52 * (d * 2 ^ q) = d * 2 ^ (q + 52) by rw [Nat.pow_add]; ring]; exact hq))
  · exact Nat.mul_le_mul_right _ (rne_mono h)

/-- **A whole number below `2 ^ 53` is exact**: `n` ones, divided exactly by `d`, round to themselves. -/
theorem roundMag_exact (hd : 0 < d) (hn : n < 2 ^ 53) : roundMag (n * unit * d) d = n * unit := by
  rcases Nat.eq_zero_or_pos n with rfl | hn0
  · rw [Nat.zero_mul, Nat.zero_mul, roundMag_zero]
  have hlt : n * unit * d < d * 2 ^ (53 + 1074) := by
    have : n * unit < 2 ^ (53 + 1074) := by
      rw [← two_pow_mul_unit]; exact Nat.mul_lt_mul_of_pos_right hn unit_pos
    rw [Nat.mul_comm d]; exact Nat.mul_lt_mul_of_pos_right this hd
  have hs := ulpExp_spec hd (Nat.lt_trans hlt (Nat.mul_lt_mul_of_pos_left
    (two_pow_lt_bound (by decide)) hd))
  unfold roundMag
  generalize ulpExp (n * unit * d) d = p at *
  have hp : p ≤ 1074 := by
    rcases hs.2 with rfl | h
    · omega
    · have := (Nat.pow_lt_pow_iff_right (by decide : 1 < 2)).mp
        (Nat.lt_of_mul_lt_mul_left (Nat.lt_of_le_of_lt h hlt))
      omega
  have e : n * unit * d = n * 2 ^ (1074 - p) * (d * 2 ^ p) := by rw [unit_split hp]; ring
  rw [e, rne_mul _ (mul_two_pow_pos hd p), Nat.mul_assoc, ← unit_split hp]

theorem roundMag_exact_one (hn : n < 2 ^ 53) : roundMag (n * unit) 1 = n * unit := by
  simpa using @roundMag_exact 1 n Nat.one_pos hn

theorem two_pow_52_mul_unit_lt : 2 ^ 52 * unit < 1 * 2 ^ 2 ^ 12 := by
  rw [two_pow_mul_unit, Nat.one_mul]; exact two_pow_lt_bound (by decide)

/-- `(2 * x - 1) * y`, distributed. -/
theorem two_mul_sub_one_mul (x y : Nat) : (2 * x - 1) * y = 2 * (x * y) - y := by
  rw [Nat.sub_mul, Nat.one_mul, Nat.mul_assoc]

/-- **Coarsening keeps a multiple**: if rounding `A` at spacing `2 ^ p` reaches `k` steps of a coarser spacing
`2 ^ q`, so does rounding at `2 ^ q`: `A` is within half a fine step of that multiple. -/
theorem le_rne_coarsen {A k p q : Nat} (hpq : p ≤ q) (hk : 1 ≤ k) (h : k * 2 ^ q ≤ rne A (2 ^ p) * 2 ^ p) :
    k ≤ rne A (2 ^ q) := by
  rcases Nat.lt_or_eq_of_le hpq with hlt | rfl
  · have hsplit : k * 2 ^ q = k * 2 ^ (q - p) * 2 ^ p := by rw [Nat.mul_assoc, ← Nat.pow_add, Nat.sub_add_cancel hpq]
    have h1 := sub_half_le_of_le_rne (Nat.le_of_mul_le_mul_right (hsplit ▸ h) (Nat.two_pow_pos p))
    rw [two_mul_sub_one_mul, ← hsplit] at h1
    apply le_rne_of_sub_half_lt (Nat.two_pow_pos q)
    rw [two_mul_sub_one_mul]
    have hpq' : 2 ^ p < 2 ^ q := Nat.pow_lt_pow_right (by decide) hlt
    have hqk : 2 ^ q ≤ k * 2 ^ q := Nat.le_mul_of_pos_left _ hk
    omega
  · exact Nat.le_of_mul_le_mul_right h (Nat.two_pow_pos p)

/-- Below the spacing `1.0`, adding `1.0` adds `1.0` to the rounding: it is an even number of steps. -/
theorem rne_add_unit {A q : Nat} (hq : q < 1074) : rne (A + unit) (2 ^ q) = rne A (2 ^ q) + 2 ^ (1074 - q) := by
  have heven : 2 ^ (1074 - q) % 2 = 0 := by
    rw [show 1074 - q = (1073 - q) + 1 by omega, Nat.pow_succ, Nat.mul_mod_left]
  rw [unit_split (Nat.le_of_lt hq), rne_add_mul (Nat.two_pow_pos q) heven]

/-- **A distance one larger rounds to at least one more whole number**, below `2 ^ 52`. When `A` rounds up to
`n`, the spacing `2 ^ q` of `A + 1.0` is at most a half; at that spacing `A` still rounds to `n` (`le_rne_coarsen`)
and `1.0` is an even number of steps (`rne_add_unit`). -/
theorem roundMag_add_unit {A : Nat} (h : A + unit ≤ 2 ^ 52 * unit) :
    roundMag A 1 / unit + 1 ≤ roundMag (A + unit) 1 / unit := by
  have hb : A + unit < 1 * 2 ^ 2 ^ 12 := Nat.lt_of_le_of_lt h two_pow_52_mul_unit_lt
  generalize hn : roundMag A 1 / unit = n
  have hnR : n * unit ≤ roundMag A 1 := hn ▸ Nat.div_mul_le_self _ _
  have hRmax : n * unit ≤ (2 ^ 52 - 1) * unit := by
    rw [← roundMag_exact_one (by decide : 2 ^ 52 - 1 < 2 ^ 53)]
    exact Nat.le_trans hnR (roundMag_mono Nat.one_pos (Nat.lt_of_le_of_lt (by rw [Nat.sub_mul]; omega)
      two_pow_52_mul_unit_lt) (by rw [Nat.sub_mul]; omega))
  have hn52 : n + 1 ≤ 2 ^ 52 := by
    have := Nat.le_of_mul_le_mul_right hRmax unit_pos
    have : 1 ≤ 2 ^ 52 := Nat.one_le_two_pow
    omega
  rw [Nat.le_div_iff_mul_le unit_pos]
  by_cases hA : n * unit ≤ A
  · -- the exact value already reaches `n`, so `A + 1.0` reaches `n + 1`
    rw [← roundMag_exact_one (by omega : n + 1 < 2 ^ 53)]
    exact roundMag_mono Nat.one_pos hb (by rw [Nat.succ_mul]; omega)
  · -- `A` was rounded up to `n`
    have hn1 : 1 ≤ n := Nat.pos_of_ne_zero fun h0 => hA (by rw [h0, Nat.zero_mul]; exact Nat.zero_le A)
    have hAu : A + unit < 2 ^ (52 + 1074) := by
      have : (n + 1) * unit ≤ 2 ^ 52 * unit := Nat.mul_le_mul_right _ hn52
      rw [Nat.succ_mul] at this
      rw [← two_pow_mul_unit]
      omega
    have hs' := ulpExp_spec Nat.one_pos hb
    have hpq := (ulpExp_spec Nat.one_pos (Nat.lt_of_le_of_lt (Nat.le_add_right A unit) hb)).le hs'
      (Nat.le_add_right A unit)
    unfold roundMag at hnR ⊢
    generalize ulpExp A 1 = p at *
    generalize ulpExp (A + unit) 1 = q at *
    simp only [Nat.one_mul] at hnR ⊢
    have hq : q < 1074 := by
      rcases hs'.2 with rfl | h2
      · decide
      · have := (Nat.pow_lt_pow_iff_right (by decide : 1 < 2)).mp (Nat.lt_of_le_of_lt (by simpa using h2) hAu)
        omega
    have huq : unit = 2 ^ (1074 - q) * 2 ^ q := unit_split (Nat.le_of_lt hq)
    have hk : n * 2 ^ (1074 - q) ≤ rne A (2 ^ q) :=
      le_rne_coarsen hpq (Nat.le_trans hn1 (Nat.le_mul_of_pos_right _ (Nat.two_pow_pos _)))
        (by rw [Nat.mul_assoc, ← huq]; exact hnR)
    calc (n + 1) * unit = (n * 2 ^ (1074 - q) + 2 ^ (1074 - q)) * 2 ^ q := by rw [huq]; ring
      _ ≤ (rne A (2 ^ q) + 2 ^ (1074 - q)) * 2 ^ q := Nat.mul_le_mul_right _ (Nat.add_le_add_right hk _)
      _ = rne (A + unit) (2 ^ q) * 2 ^ q := by rw [rne_add_unit hq]

/-- Truncating a rounding to whole units is monotone. -/
theorem roundMag_div_mono {x y : Nat} (hy : y ≤ 2 ^ 52 * unit) (h : x ≤ y) :
    roundMag x 1 / unit ≤ roundMag y 1 / unit :=
  Nat.div_le_div_right (roundMag_mono Nat.one_pos (Nat.lt_of_le_of_lt hy two_pow_52_mul_unit_lt) h)

/-- A value at least `1.0` larger truncates to a larger whole number. -/
theorem roundMag_div_lt {x y : Nat} (hy : y ≤ 2 ^ 52 * unit) (h : x + unit ≤ y) :
    roundMag x 1 / unit < roundMag y 1 / unit :=
  calc roundMag x 1 / unit < roundMag x 1 / unit + 1 := Nat.lt_succ_self _
    _ ≤ roundMag (x + unit) 1 / unit := roundMag_add_unit (Nat.le_trans h hy)
    _ ≤ roundMag y 1 / unit := roundMag_div_mono hy h

end Round

end Binary64

/-- A finite `f64`, as a signed number of units of `2^-1074`. -/
structure F64 where
  units : Int
  deriving DecidableEq, Repr

namespace F64

open Binary64

/-- The exact value `a / d` units, `d > 0`, rounded; rounding is symmetric in the sign. -/
def round (a : Int) (d : Nat) : F64 :=
  ⟨if a < 0 then -(roundMag a.natAbs d : Int) else roundMag a.natAbs d⟩

/-- `n as f64`. -/
def ofNat (n : Nat) : F64 := round (n * unit) 1

/-- `x + y`. -/
def add (x y : F64) : F64 := round (x.units + y.units) 1

/-- `x - y`. -/
def sub (x y : F64) : F64 := round (x.units - y.units) 1

/-- `x * y`. -/
def mul (x y : F64) : F64 := round (x.units * y.units) unit

/-- `x / y` for a positive `y` (the code divides only by `100.0`). -/
def div (x y : F64) : F64 := round (x.units * unit) y.units.toNat

/-- `x.abs()`. -/
def abs (x : F64) : F64 := ⟨x.units.natAbs⟩

/-- `x as u64`: toward zero, saturating at `0` and `u64::MAX`. -/
def toU64 (x : F64) : UInt64 := UInt64.ofNat (min (x.units.toNat / unit) (2 ^ 64 - 1))

theorem round_natCast (a d : Nat) : round a d = ⟨roundMag a d⟩ := by
  rw [round, if_neg (Int.not_lt.mpr (Int.natCast_nonneg a)), Int.natAbs_ofNat]

/-- Whole numbers below `2 ^ 53` convert exactly. -/
theorem ofNat_eq {n : Nat} (hn : n < 2 ^ 53) : ofNat n = ⟨n * unit⟩ := by
  rw [ofNat, ← Int.ofNat_mul, round_natCast, roundMag_exact_one hn]

theorem abs_round (a : Int) (d : Nat) : (round a d).abs = ⟨roundMag a.natAbs d⟩ := by
  unfold abs round
  split <;> simp

/-- Below the saturation bound, `as u64` truncates. -/
theorem toU64_toNat {x : Nat} (h : x / unit < 2 ^ 64) : (toU64 ⟨x⟩).toNat = x / unit := by
  simp only [toU64, Int.toNat_ofNat]
  rw [Nat.min_eq_left (by omega), UInt64.toNat_ofNat_of_lt h]

end F64

end LightKernel
