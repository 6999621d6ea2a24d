/-
How long runs sleep.

Every delay but the first is the lesser of a computed number and the greatest
delay, so it is held below the latter whatever the computation comes to: powers
that overflow, multipliers that are negative or no numbers (`RetryPolicy.delay_le`).
The first delay is not computed. It is the initial delay as it is, so a run sleeps
longer than the greatest delay exactly when it sleeps at all and the initial delay
is the greater one.
-/
import SqlAdapter.Proofs.Binary.Order
import SqlAdapter.Proofs.Connection.Retries

namespace SqlAdapter

namespace RetryPolicy

variable {ε α : Type} {p : RetryPolicy}

theorem delay_zero (p : RetryPolicy) : p.delay 0 = p.initialDelay.toNat := rfl

/-- Whatever a delay is computed to, it is held below the greatest one. -/
theorem delay_le (hcap : p.maxDelay.toNat ≤ 2 ^ 53) {n : Nat} (hn : n ≠ 0) : p.delay n ≤ p.maxDelay.toNat := by
  obtain ⟨hfinite, -, -⟩ := Binary.ofNat_exact hcap
  rw [delay, if_neg hn]
  obtain ⟨hnumber, hleast⟩ := Binary.place_least_le
    ((Binary.ofNat p.initialDelay.toNat).mul (p.multiplier.pow (min n maxExponent)))
    (Binary.not_isNaN_of_isFinite hfinite)
  refine Binary.toNatWithin_le hcap (Binary.place_greatest_le hnumber hleast ?_) _
  rw [Binary.place_ofNat hcap]
  exact Int.natCast_nonneg _

/-- The delays of a timeline are capped when there are none or when the first is. -/
theorem delays_le_iff (hcap : p.maxDelay.toNat ≤ 2 ^ 53) (count : Nat) :
    (∀ n < count, p.delay n ≤ p.maxDelay.toNat) ↔ count = 0 ∨ p.initialDelay ≤ p.maxDelay := by
  rw [UInt64.le_iff_toNat_le, ← delay_zero]
  constructor
  · intro h
    rcases Nat.eq_zero_or_pos count with hzero | hpos
    · exact .inl hzero
    · exact .inr (h 0 hpos)
  · rintro (rfl | hfirst) n hn
    · exact absurd hn (Nat.not_lt_zero n)
    · by_cases hzero : n = 0
      · rwa [hzero]
      · exact delay_le hcap hzero

/-- With a greatest delay of at most 2 ^ 53 milliseconds, all delays but the first are held below it, whatever the
multiplier is. So all delays that the policy allows are, exactly when there are none or the initial delay is no greater
than the greatest; and so are those of a run, exactly when it makes one call or the initial delay is no greater. -/
theorem delays_capped_iff (p : RetryPolicy) (hcap : p.maxDelay.toNat ≤ 2 ^ 53) :
    (∀ n, n ≠ 0 → p.delay n ≤ p.maxDelay.toNat) ∧
    ((∀ n < p.maxRetries.toNat, p.delay n ≤ p.maxDelay.toNat) ↔
      p.maxRetries.toNat = 0 ∨ p.initialDelay ≤ p.maxDelay) ∧
    ∀ (describe : ε → String) (attempt : Nat → Except ε α),
      (∀ delay ∈ (p.run describe attempt).delays, delay ≤ p.maxDelay.toNat) ↔
        (p.run describe attempt).calls = 1 ∨ p.initialDelay ≤ p.maxDelay := by
  refine ⟨fun n hn => delay_le hcap hn, delays_le_iff hcap _, fun describe attempt => ?_⟩
  obtain ⟨first, hfirst⟩ := exists_firstSuccess attempt
  obtain ⟨last, -, -, htimeline, -⟩ := hfirst.run_last p describe
  rw [delays_of_timeline htimeline, calls_of_timeline htimeline, ← Nat.zero_add 1, Nat.add_right_cancel_iff,
    ← delays_le_iff hcap]
  simp

/-- Three retries, without a delay after the first. -/
def hasty : RetryPolicy := { standard with maxDelay := 0 }

theorem delays_capped_iff_hasty : hasty.maxDelay.toNat ≤ 2 ^ 53 ∧ hasty.multiplier.isFinite = true ∧
    (∀ n, n ≠ 0 → hasty.delay n = 0) ∧ ¬ (∀ n < hasty.maxRetries.toNat, hasty.delay n ≤ hasty.maxDelay.toNat) ∧
    ∃ delay ∈ (hasty.run id fun _ => (.error "refused" : Except String Nat)).delays, hasty.maxDelay.toNat < delay := by
  have hcap : hasty.maxDelay.toNat ≤ 2 ^ 53 := by decide
  have hfinite : hasty.multiplier.isFinite = true := by decide +kernel
  have hgreater : ¬ hasty.initialDelay ≤ hasty.maxDelay := by decide
  obtain ⟨hlater, hall, hrun⟩ : _ ∧ _ ∧ ∀ (describe : String → String) (attempt : Nat → Except String Nat), _ :=
    delays_capped_iff hasty hcap
  have hcalls : (hasty.run id fun _ => (.error "refused" : Except String Nat)).calls ≠ 1 := by decide +kernel
  refine ⟨hcap, hfinite, fun n hn => Nat.le_zero.mp (hlater n hn), fun h => ?_, ?_⟩
  · exact (hall.mp h).elim (by decide) hgreater
  · by_contra hnone
    exact ((hrun _ _).mp fun delay hdelay => Nat.not_lt.mp fun hlt => hnone ⟨delay, hdelay, hlt⟩).elim hcalls hgreater

example : (List.range 8).map standard.delay = [100, 200, 400, 800, 1600, 3200, 5000, 5000] := by decide +kernel

end RetryPolicy

end SqlAdapter
