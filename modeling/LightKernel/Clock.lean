import Mathlib.Data.List.Chain
import Mathlib.Algebra.Group.Nat.Basic

/-!
# Wrapping `u64` clocks and counters

`load_balance` and `set_frequency` both refuse to act while `current_time - last < interval`, with `u64`
arithmetic that wraps, and store their clock sample after acting. When the sample is no older than the stamp,
passing the gate means the interval has elapsed; when it is older, the subtraction wraps to a value near `2^64`
and passes every interval below that. The statistics counters (`AtomicU64::fetch_add(1)`, a `u64 += 1` in a
release build) wrap the same way: a counter holds its count modulo `2^64`.

* `elapsed_of_gate`: a sample no older than the stamp passes only once the interval has elapsed;
* `gate_passes_of_stale`: a sample older than the stamp passes every interval that fits below the wrap;
* `spaced_append_of_gate`: a log of stamps stays spaced by the interval when a passing sample is appended;
* `uint64_ofNat_add_one`: counting one more is adding one to the counter, modulo `2^64`.
-/

namespace LightKernel

theorem uint64_le_iff {a b : UInt64} : a ≤ b ↔ a.toNat ≤ b.toNat := UInt64.le_def.trans BitVec.le_def

theorem uint64_lt_iff {a b : UInt64} : a < b ↔ a.toNat < b.toNat := UInt64.lt_def.trans BitVec.lt_def

/-- The clock of the interleaved models moves to `max clock t`, never back. -/
theorem uint64_le_max_left (a b : UInt64) : a ≤ max a b := by
  show a ≤ if a ≤ b then b else a
  split <;> simp_all

/-- **A sample no older than the stamp passes only after the interval.** -/
theorem elapsed_of_gate {now last interval : UInt64} (hle : last ≤ now) (h : ¬ now - last < interval) :
    last.toNat + interval.toNat ≤ now.toNat := by
  rw [uint64_lt_iff, UInt64.toNat_sub_of_le _ _ hle] at h
  have := uint64_le_iff.mp hle
  omega

/-- The wrapped difference of a sample older than the stamp. -/
theorem uint64_toNat_sub_of_lt {now last : UInt64} (h : now < last) :
    (now - last).toNat = 2 ^ 64 - last.toNat + now.toNat := by
  have h1 : last.toBitVec.toNat < 2 ^ 64 := last.toBitVec.isLt
  have h2 : now.toBitVec.toNat < last.toBitVec.toNat := uint64_lt_iff.mp h
  rw [UInt64.sub_def]
  simp only [UInt64.toNat, BitVec.toNat_sub]
  exact Nat.mod_eq_of_lt (by omega)

/-- **A stale sample wraps**: `now - last` is then `2^64 - (last - now)`, which passes every interval up to it. -/
theorem gate_passes_of_stale {now last interval : UInt64} (h : now < last)
    (hi : interval.toNat + (last.toNat - now.toNat) ≤ 2 ^ 64) : ¬ now - last < interval := by
  have := uint64_lt_iff.mp h
  rw [uint64_lt_iff, uint64_toNat_sub_of_lt h]
  omega

/-- Successive stamps at least `gap` apart. -/
def Spaced (gap : Nat) (l : List UInt64) : Prop := l.Chain' fun a b => a.toNat + gap ≤ b.toNat

/-- Appending a sample that passed the gate against the last stamp keeps the log spaced by the interval. -/
theorem spaced_append_of_gate {l : List UInt64} {now last interval : UInt64} (hs : Spaced interval.toNat l)
    (hl : ∀ t ∈ l.getLast?, t = last) (hle : last ≤ now) (h : ¬ now - last < interval) :
    Spaced interval.toNat (l ++ [now]) := by
  unfold Spaced at hs ⊢
  rw [List.chain'_append]
  refine ⟨hs, List.chain'_singleton _, fun x hx y hy => ?_⟩
  cases hl x hx
  cases List.mem_singleton.mp (by simpa using hy)
  exact elapsed_of_gate hle h

/-! ## Wrapping counters -/

/-- A counter that counted `n + 1` holds one more than one that counted `n`, both modulo `2^64`. -/
theorem uint64_ofNat_add_one (n : Nat) : UInt64.ofNat (n + 1) = UInt64.ofNat n + 1 :=
  UInt64.eq_of_toBitVec_eq (BitVec.ofNat_add n 1)

theorem uint64_toNat_add_one (a : UInt64) : (a + 1).toNat = (a.toNat + 1) % 2 ^ 64 := rfl

/-- Below the wrap, counting one more adds one. -/
theorem uint64_toNat_add_one_of_lt {a : UInt64} (h : a.toNat + 1 < 2 ^ 64) : (a + 1).toNat = a.toNat + 1 := by
  rw [uint64_toNat_add_one, Nat.mod_eq_of_lt h]

end LightKernel
