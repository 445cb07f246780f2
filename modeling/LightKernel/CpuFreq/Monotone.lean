import LightKernel.CpuFreq.Scaling

/-!
# Scaling is monotone in the load, below `2^52` Hz

Whole numbers below `2^53` are exact in `f64` and every rounding is monotone, so the proportional target of
`scale_frequency_intelligent` is monotone in the load and lies between the least and the greatest available
frequency (`targetUnits_mono`, `targetUnits_mem`). Below `2^52` the spacing of `f64` is at most a half, so a distance
larger by `1.0` truncates to a larger key (`roundMag_div_lt`): of two frequencies on the same side of the target the
farther has the larger key, and between them raising the target brings the higher one closer and takes the lower
one away (`truncDistance_ties`). The first-minimum rule of `min_by_key` then breaks a tie the same way at both loads
(`FirstMin.eq_of_ties`).

* `targetFrequency_mono`: across the three load bands, a higher load never targets a lower frequency;
* `selection_monotone_in_load`: the selection is an available frequency, monotone in the load.

From `2^52` Hz on the spacing reaches `1.0`, distances one apart can truncate alike, and monotonicity fails
(`scaling_not_monotone`).
-/

namespace LightKernel.CpuFreq

open Binary64

theorem uint32_le_iff {a b : UInt32} : a ≤ b ↔ a.toNat ≤ b.toNat := UInt32.le_def.trans BitVec.le_def

theorem uint32_lt_iff {a b : UInt32} : a < b ↔ a.toNat < b.toNat := UInt32.lt_def.trans BitVec.lt_def

/-- The units of `scale_factor = cpu_load as f64 / 100.0`. -/
def scaleUnits (cpuLoad : Nat) : Nat := roundMag (cpuLoad * unit * unit) (100 * unit)

/-- The units of the proportional target, from whole-number `min_freq`, `max_freq` and `cpu_load`. -/
def targetUnits (minFreq maxFreq cpuLoad : Nat) : Nat :=
  roundMag (minFreq * unit + roundMag ((maxFreq - minFreq) * unit * scaleUnits cpuLoad) unit) 1

theorem hundred_mul_unit_pos : 0 < 100 * unit := Nat.mul_pos (by decide) unit_pos

theorem unit_lt_bound : unit < 2 ^ 2 ^ 12 := two_pow_lt_bound (by decide)

section Target

variable {minFreq maxFreq cpuLoad cpuLoad' : Nat}

theorem scaleUnits_mono (h : cpuLoad ≤ cpuLoad') (hl : cpuLoad' ≤ 100) : scaleUnits cpuLoad ≤ scaleUnits cpuLoad' :=
  roundMag_mono hundred_mul_unit_pos
    (calc cpuLoad' * unit * unit ≤ 100 * unit * unit := Nat.mul_le_mul_right _ (Nat.mul_le_mul_right _ hl)
      _ < 100 * unit * 2 ^ 2 ^ 12 := Nat.mul_lt_mul_of_pos_left unit_lt_bound hundred_mul_unit_pos)
    (Nat.mul_le_mul_right _ (Nat.mul_le_mul_right _ h))

/-- A load of at most 100 scales by at most `1.0`. -/
theorem scaleUnits_le (hl : cpuLoad ≤ 100) : scaleUnits cpuLoad ≤ unit :=
  calc scaleUnits cpuLoad ≤ scaleUnits 100 := scaleUnits_mono hl le_rfl
    _ = 1 * unit := by
      rw [scaleUnits, show 100 * unit * unit = 1 * unit * (100 * unit) by ring]
      exact roundMag_exact hundred_mul_unit_pos (by decide)
    _ = unit := Nat.one_mul _

/-- The scaled span `(max_freq - min_freq) as f64 * scale_factor`, monotone in the factor. -/
theorem span_mono {w s s' : Nat} (hw : w < 2 ^ 52) (h : s ≤ s') (hs : s' ≤ unit) :
    roundMag (w * unit * s) unit ≤ roundMag (w * unit * s') unit :=
  roundMag_mono unit_pos
    (calc w * unit * s' ≤ 2 ^ 52 * unit * unit := Nat.mul_le_mul (Nat.mul_le_mul_right _ (Nat.le_of_lt hw)) hs
      _ < 1 * 2 ^ 2 ^ 12 * unit := Nat.mul_lt_mul_of_pos_right two_pow_52_mul_unit_lt unit_pos
      _ = unit * 2 ^ 2 ^ 12 := by ring)
    (Nat.mul_le_mul_left _ h)

theorem span_le {w s : Nat} (hw : w < 2 ^ 52) (hs : s ≤ unit) : roundMag (w * unit * s) unit ≤ w * unit :=
  calc roundMag (w * unit * s) unit ≤ roundMag (w * unit * unit) unit := span_mono hw hs le_rfl
    _ = w * unit := roundMag_exact unit_pos (Nat.lt_trans hw (by decide))

/-- `min_freq as f64 + span` stays at most `max_freq`. -/
theorem add_span_le {s : Nat} (hmM : minFreq ≤ maxFreq) (hM : maxFreq < 2 ^ 52) (hs : s ≤ unit) :
    minFreq * unit + roundMag ((maxFreq - minFreq) * unit * s) unit ≤ maxFreq * unit := by
  have hspan := span_le (Nat.lt_of_le_of_lt (Nat.sub_le maxFreq minFreq) hM) hs
  have hsub : (maxFreq - minFreq) * unit = maxFreq * unit - minFreq * unit := Nat.sub_mul _ _ _
  have := Nat.mul_le_mul_right unit hmM
  omega

theorem mul_unit_lt_bound {f : Nat} (hf : f < 2 ^ 52) : f * unit < 1 * 2 ^ 2 ^ 12 :=
  Nat.lt_of_le_of_lt (Nat.mul_le_mul_right _ (Nat.le_of_lt hf)) two_pow_52_mul_unit_lt

/-- The proportional target lies between the least and the greatest frequency. -/
theorem targetUnits_mem (hmM : minFreq ≤ maxFreq) (hM : maxFreq < 2 ^ 52) (hl : cpuLoad ≤ 100) :
    minFreq * unit ≤ targetUnits minFreq maxFreq cpuLoad ∧ targetUnits minFreq maxFreq cpuLoad ≤ maxFreq * unit := by
  have hsum := add_span_le hmM hM (scaleUnits_le hl)
  have hb := Nat.lt_of_le_of_lt hsum (mul_unit_lt_bound hM)
  constructor
  · rw [← roundMag_exact_one (Nat.lt_of_le_of_lt hmM (Nat.lt_trans hM (by decide)))]
    exact roundMag_mono Nat.one_pos hb (Nat.le_add_right _ _)
  · rw [← roundMag_exact_one (Nat.lt_trans hM (by decide) : maxFreq < 2 ^ 53)]
    exact roundMag_mono Nat.one_pos (mul_unit_lt_bound hM) hsum

/-- **The proportional target is monotone in the load.** -/
theorem targetUnits_mono (hmM : minFreq ≤ maxFreq) (hM : maxFreq < 2 ^ 52) (h : cpuLoad ≤ cpuLoad')
    (hl : cpuLoad' ≤ 100) : targetUnits minFreq maxFreq cpuLoad ≤ targetUnits minFreq maxFreq cpuLoad' :=
  roundMag_mono Nat.one_pos (Nat.lt_of_le_of_lt (add_span_le hmM hM (scaleUnits_le hl)) (mul_unit_lt_bound hM))
    (Nat.add_le_add_left (span_mono (Nat.lt_of_le_of_lt (Nat.sub_le _ _) hM) (scaleUnits_mono h hl)
      (scaleUnits_le hl)) _)

end Target

/-- Below `2 ^ 52`, the `f64` target is `targetUnits` of the whole numbers. -/
theorem proportionalTarget_eq {minFreq maxFreq : UInt64} {cpuLoad : UInt32} (hmM : minFreq ≤ maxFreq)
    (hM : maxFreq.toNat < 2 ^ 52) (hl : cpuLoad.toNat ≤ 100) :
    proportionalTarget minFreq maxFreq cpuLoad = ⟨targetUnits minFreq.toNat maxFreq.toNat cpuLoad.toNat⟩ := by
  have hmM' := uint64_le_iff.mp hmM
  unfold proportionalTarget targetUnits scaleUnits
  rw [UInt64.toNat_sub_of_le _ _ hmM, F64.ofNat_eq (by omega : cpuLoad.toNat < 2 ^ 53),
    F64.ofNat_eq (by decide : 100 < 2 ^ 53), F64.ofNat_eq (by omega : minFreq.toNat < 2 ^ 53),
    F64.ofNat_eq (by omega : maxFreq.toNat - minFreq.toNat < 2 ^ 53)]
  simp only [F64.div, F64.mul, F64.add, ← Int.ofNat_mul, ← Int.ofNat_add, Int.toNat_ofNat, F64.round_natCast]

/-- The key of `min_by_key` in whole numbers: the distance from `freq` to a target of `t` units, rounded to
`f64` and truncated. -/
def truncDistance (freq t : Nat) : Nat :=
  roundMag (if t ≤ freq * unit then freq * unit - t else t - freq * unit) 1 / unit

/-- Below `2 ^ 52`, the `u64` key of a frequency is `truncDistance`. -/
theorem distanceKey_toNat {freq : UInt64} {t : Nat} (hf : freq.toNat < 2 ^ 52) (ht : t ≤ 2 ^ 52 * unit) :
    (distanceKey ⟨t⟩ freq).toNat = truncDistance freq.toNat t := by
  have hfu : freq.toNat * unit ≤ 2 ^ 52 * unit := Nat.mul_le_mul_right _ (Nat.le_of_lt hf)
  have habs : ((freq.toNat * unit : Nat) - t : Int).natAbs =
      if t ≤ freq.toNat * unit then freq.toNat * unit - t else t - freq.toNat * unit := by
    split <;> omega
  unfold distanceKey truncDistance
  rw [F64.ofNat_eq (by omega), F64.sub, ← Int.ofNat_mul, F64.abs_round, habs]
  refine F64.toU64_toNat (Nat.lt_of_le_of_lt (roundMag_div_mono le_rfl (by split <;> omega)) ?_)
  rw [roundMag_exact_one (by decide), Nat.mul_div_cancel _ unit_pos]
  decide

/-- Below `2 ^ 52`, keys compare as the truncated distances. -/
theorem distanceKey_le_iff {f g : UInt64} {t : Nat} (hf : f.toNat < 2 ^ 52) (hg : g.toNat < 2 ^ 52)
    (ht : t ≤ 2 ^ 52 * unit) :
    distanceKey ⟨t⟩ f ≤ distanceKey ⟨t⟩ g ↔ truncDistance f.toNat t ≤ truncDistance g.toNat t := by
  rw [uint64_le_iff, distanceKey_toNat hf ht, distanceKey_toNat hg ht]

theorem truncDistance_of_le {f t : Nat} (h : t ≤ f * unit) : truncDistance f t = roundMag (f * unit - t) 1 / unit := by
  rw [truncDistance, if_pos h]

theorem truncDistance_of_ge {f t : Nat} (h : f * unit ≤ t) : truncDistance f t = roundMag (t - f * unit) 1 / unit := by
  unfold truncDistance
  split
  · rw [show f * unit - t = t - f * unit by omega]
  · rfl

/-- **Distances cross**: for frequencies `b < a` below `2 ^ 52` and targets `t₁ ≤ t₂`, if `a` is no farther than
`b` from `t₁` and `b` no farther than `a` from `t₂`, both are ties. Outside `(b, a)` the distance to the farther
frequency exceeds the other by `1.0` at least, which survives truncation below `2 ^ 52`; inside, moving the target
up brings `a` closer and takes `b` away. -/
theorem truncDistance_ties {a b t₁ t₂ : Nat} (hba : b < a) (ha : a < 2 ^ 52) (ht : t₁ ≤ t₂)
    (ht₂ : t₂ ≤ 2 ^ 52 * unit) (h₁ : truncDistance a t₁ ≤ truncDistance b t₁)
    (h₂ : truncDistance b t₂ ≤ truncDistance a t₂) :
    truncDistance b t₁ ≤ truncDistance a t₁ ∧ truncDistance a t₂ ≤ truncDistance b t₂ := by
  have hau : a * unit ≤ 2 ^ 52 * unit := Nat.mul_le_mul_right _ (Nat.le_of_lt ha)
  have hbu : b * unit + unit ≤ a * unit := by rw [← Nat.succ_mul]; exact Nat.mul_le_mul_right _ hba
  by_cases c₁ : t₁ ≤ b * unit
  · rw [truncDistance_of_le c₁, truncDistance_of_le (by omega : t₁ ≤ a * unit)] at h₁
    exact absurd h₁ (Nat.not_le.mpr (roundMag_div_lt (by omega) (by omega)))
  by_cases c₂ : a * unit ≤ t₂
  · rw [truncDistance_of_ge c₂, truncDistance_of_ge (by omega : b * unit ≤ t₂)] at h₂
    exact absurd h₂ (Nat.not_le.mpr (roundMag_div_lt (by omega) (by omega)))
  rw [truncDistance_of_ge (by omega : b * unit ≤ t₁), truncDistance_of_le (by omega : t₁ ≤ a * unit)] at h₁ ⊢
  rw [truncDistance_of_ge (by omega : b * unit ≤ t₂), truncDistance_of_le (by omega : t₂ ≤ a * unit)] at h₂ ⊢
  have hb := @roundMag_div_mono (t₁ - b * unit) (t₂ - b * unit) (by omega) (by omega)
  have ha := @roundMag_div_mono (a * unit - t₂) (a * unit - t₁) (by omega) (by omega)
  omega

/-- In the medium band, below `2 ^ 52` Hz, the choice of `min_by_key` does not go down as the load goes up. -/
theorem minByKey_proportional_mono {available : List UInt64} {minFreq maxFreq a b : UInt64}
    {cpuLoad₁ cpuLoad₂ : UInt32} (hsmall : ∀ f ∈ available, f.toNat < 2 ^ 52) (hmM : minFreq ≤ maxFreq)
    (hM : maxFreq ∈ available) (h : cpuLoad₁.toNat ≤ cpuLoad₂.toNat) (hl : cpuLoad₂.toNat ≤ 100)
    (ha : minByKey (distanceKey (proportionalTarget minFreq maxFreq cpuLoad₁)) available = some a)
    (hb : minByKey (distanceKey (proportionalTarget minFreq maxFreq cpuLoad₂)) available = some b) : a ≤ b := by
  have hMs := hsmall maxFreq hM
  have hmM' := uint64_le_iff.mp hmM
  have hbound : targetUnits minFreq.toNat maxFreq.toNat cpuLoad₂.toNat ≤ 2 ^ 52 * unit :=
    Nat.le_trans (targetUnits_mem hmM' hMs hl).2 (Nat.mul_le_mul_right _ (Nat.le_of_lt hMs))
  have hmono := targetUnits_mono hmM' hMs h hl
  rw [proportionalTarget_eq hmM hMs (Nat.le_trans h hl)] at ha
  rw [proportionalTarget_eq hmM hMs hl] at hb
  generalize targetUnits minFreq.toNat maxFreq.toNat cpuLoad₁.toNat = t₁ at ha hmono
  generalize targetUnits minFreq.toNat maxFreq.toNat cpuLoad₂.toNat = t₂ at hb hmono hbound
  have fa := minByKey_firstMin ha
  have fb := minByKey_firstMin hb
  have ha' := hsmall a fa.mem
  have hb' := hsmall b fb.mem
  have ht₁ := Nat.le_trans hmono hbound
  rw [uint64_le_iff]
  refine Nat.le_of_not_lt fun hba => Nat.lt_irrefl b.toNat ?_
  have ties := truncDistance_ties hba ha' hmono hbound ((distanceKey_le_iff ha' hb' ht₁).mp (fa.le b fb.mem))
    ((distanceKey_le_iff hb' ha' hbound).mp (fb.le a fa.mem))
  have hab := fa.eq_of_ties fb ((distanceKey_le_iff hb' ha' ht₁).mpr ties.1)
    ((distanceKey_le_iff ha' hb' hbound).mpr ties.2)
  exact hab ▸ hba

/-- The target does not go down as the load goes up, below `2 ^ 52` Hz. -/
theorem targetFrequency_mono {available : List UInt64} {cpuLoad₁ cpuLoad₂ : UInt32} {f₁ f₂ : UInt64}
    (hsmall : ∀ f ∈ available, f.toNat < 2 ^ 52) (h : cpuLoad₁ ≤ cpuLoad₂) (hl : cpuLoad₂ ≤ 100)
    (h₁ : targetFrequency available cpuLoad₁ = some f₁) (h₂ : targetFrequency available cpuLoad₂ = some f₂) :
    f₁ ≤ f₂ := by
  have hf₁ := targetFrequency_mem h₁
  have hf₂ := targetFrequency_mem h₂
  have h' := uint32_le_iff.mp h
  have hl' : cpuLoad₂.toNat ≤ 100 := uint32_le_iff.mp hl
  have gt80 : ∀ c : UInt32, c > 80 ↔ 80 < c.toNat := fun _ => uint32_lt_iff
  have lt20 : ∀ c : UInt32, c < 20 ↔ c.toNat < 20 := fun _ => uint32_lt_iff
  by_cases c₂ : 80 < cpuLoad₂.toNat
  · rw [targetFrequency, if_pos ((gt80 _).mpr c₂)] at h₂
    exact (List.max?_le_iff uint64_max_le_iff h₂).mp (UInt64.le_refl f₂) f₁ hf₁
  by_cases c₁ : cpuLoad₁.toNat < 20
  · rw [targetFrequency, if_neg (mt (gt80 _).mp (by omega)), if_pos ((lt20 _).mpr c₁)] at h₁
    exact (List.le_min?_iff uint64_le_min_iff h₁).mp (UInt64.le_refl f₁) f₂ hf₂
  obtain ⟨m, hm⟩ := Option.ne_none_iff_exists'.mp (mt List.min?_eq_none_iff.mp (List.ne_nil_of_mem hf₁))
  obtain ⟨M, hM⟩ := Option.ne_none_iff_exists'.mp (mt List.max?_eq_none_iff.mp (List.ne_nil_of_mem hf₁))
  rw [targetFrequency_medium (mt (gt80 _).mp (by omega)) (mt (lt20 _).mp c₁) hm hM] at h₁
  rw [targetFrequency_medium (mt (gt80 _).mp c₂) (mt (lt20 _).mp (by omega)) hm hM] at h₂
  have hMmem := List.max?_mem uint64_max_eq_or hM
  have hmM := (List.le_min?_iff uint64_le_min_iff hm).mp (UInt64.le_refl m) M hMmem
  exact minByKey_proportional_mono hsmall hmM hMmem h' hl' h₁ h₂

/-- **Scaling is monotone in the load below `2 ^ 52` Hz**: for every non-empty list of available frequencies below
`2 ^ 52` Hz, in any order and with repeats, and every target latency, the frequency selected at each load up to 100
is one of the list, and a higher load never selects a lower frequency. -/
theorem selection_monotone_in_load (available : List UInt64) (targetLatency : UInt64) (cpuLoad₁ cpuLoad₂ : UInt32)
    (hne : available ≠ []) (hsmall : ∀ f ∈ available, f.toNat < 2 ^ 52) (h : cpuLoad₁ ≤ cpuLoad₂)
    (hl : cpuLoad₂ ≤ 100) :
    ∃ f₁ f₂, selectedFrequency available cpuLoad₁ targetLatency = some f₁ ∧
      selectedFrequency available cpuLoad₂ targetLatency = some f₂ ∧ f₁ ∈ available ∧ f₂ ∈ available ∧ f₁ ≤ f₂ := by
  obtain ⟨f₁, h₁⟩ := Option.ne_none_iff_exists'.mp (mt targetFrequency_eq_none_iff.mp hne)
  obtain ⟨f₂, h₂⟩ := Option.ne_none_iff_exists'.mp (mt targetFrequency_eq_none_iff.mp hne)
  rw [selectedFrequency_eq, selectedFrequency_eq]
  exact ⟨f₁, f₂, h₁, h₂, targetFrequency_mem h₁, targetFrequency_mem h₂, targetFrequency_mono hsmall h hl h₁ h₂⟩

/-- Four frequencies out of order, at 30 % and 60 % load. -/
theorem selection_monotone_sample :
    [1200000000, 800000000, 2000000000, 1600000000] ≠ ([] : List UInt64) ∧
    (∀ f ∈ ([1200000000, 800000000, 2000000000, 1600000000] : List UInt64), f.toNat < 2 ^ 52) ∧
    (30 : UInt32) ≤ 60 ∧ (60 : UInt32) ≤ 100 ∧
    ∃ f₁ f₂, selectedFrequency [1200000000, 800000000, 2000000000, 1600000000] 30 5000 = some f₁ ∧
      selectedFrequency [1200000000, 800000000, 2000000000, 1600000000] 60 5000 = some f₂ ∧
      f₁ ∈ ([1200000000, 800000000, 2000000000, 1600000000] : List UInt64) ∧
      f₂ ∈ ([1200000000, 800000000, 2000000000, 1600000000] : List UInt64) ∧ f₁ ≤ f₂ :=
  ⟨by decide, by decide, by decide, by decide,
    selection_monotone_in_load _ _ _ _ (by decide) (by decide) (by decide) (by decide)⟩

end LightKernel.CpuFreq
