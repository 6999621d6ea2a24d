/-
Runs of attempts, whatever the attempts come to.

A run goes on only where an attempt fails and retries are left
(`RetryPolicy.runFrom_retried`); `RetryPolicy.runFrom_failing` follows it over any
number of failures. So a run ends with the first attempt that succeeds or with the
last one that the policy allows, whichever comes first, and the number of that
attempt says all that was done before it.
-/
import SqlAdapter.Retry
import Mathlib.Data.ENat.Lattice
import Mathlib.Data.List.Basic

namespace SqlAdapter

namespace RetryPolicy

variable {ε α : Type} {p : RetryPolicy} {describe : ε → String} {attempt : Nat → Except ε α} {tries left : Nat}

/-! ## Sequences of outcomes -/

/-- The number of the first attempt that succeeds; infinity where none does. -/
inductive FirstSuccess (attempt : Nat → Except ε α) : ℕ∞ → Prop where
  | reached {number : Nat} {value : α} (success : attempt number = .ok value)
      (failures : ∀ n < number, ∃ e, attempt n = .error e) : FirstSuccess attempt number
  | never (failures : ∀ n, ∃ e, attempt n = .error e) : FirstSuccess attempt ⊤

theorem exists_firstSuccess (attempt : Nat → Except ε α) : ∃ first, FirstSuccess attempt first := by
  by_cases h : ∃ n value, attempt n = .ok value
  · classical
    obtain ⟨value, hvalue⟩ := Nat.find_spec h
    refine ⟨_, .reached hvalue fun n hn => ?_⟩
    cases hattempt : attempt n with
    | ok value => exact absurd ⟨value, hattempt⟩ (Nat.find_min h hn)
    | error e => exact ⟨e, rfl⟩
  · refine ⟨⊤, .never fun n => ?_⟩
    cases hattempt : attempt n with
    | ok value => exact absurd ⟨n, value, hattempt⟩ h
    | error e => exact ⟨e, rfl⟩

/-- An attempt fails if it is before the first one that succeeds. -/
theorem FirstSuccess.fails {first : ℕ∞} (h : FirstSuccess attempt first) {n : Nat} (hn : (n : ℕ∞) < first) :
    ∃ e, attempt n = .error e := by
  cases h with
  | reached success failures => exact failures n (Nat.cast_lt.mp hn)
  | never failures => exact failures n

/-- A run goes on to the first attempt that succeeds or to the last one allowed. -/
theorem FirstSuccess.exists_last {first : ℕ∞} (h : FirstSuccess attempt first) (most : Nat) :
    ∃ last : ℕ, (last : ℕ∞) = min first most ∧ (∀ n < last, ∃ e, attempt n = .error e) ∧
      ((first ≤ most ∧ ∃ value, attempt last = .ok value) ∨
        (most < first ∧ last = most ∧ ∃ e, attempt last = .error e)) := by
  by_cases hreached : first ≤ most
  · cases h with
    | @reached number value success failures =>
      exact ⟨number, (min_eq_left hreached).symm, failures, .inl ⟨hreached, value, success⟩⟩
    | never => simp at hreached
  · have hlt : (most : ℕ∞) < first := not_le.mp hreached
    refine ⟨most, (min_eq_right hlt.le).symm, fun n hn => h.fails ?_, .inr ⟨hlt, rfl, h.fails hlt⟩⟩
    exact lt_trans (Nat.cast_lt.mpr hn) hlt

/-! ## One attempt -/

theorem runFrom_ok {value : α} (h : attempt tries = .ok value) : p.runFrom describe attempt tries left =
    ⟨.ok value, .attempted tries :: (succeeded tries).map .logged⟩ := by
  rw [runFrom.eq_def, h]

theorem runFrom_error {e : ε} (h : attempt tries = .error e) :
    p.runFrom describe attempt tries 0 = ⟨.error e, [.attempted tries]⟩ := by
  rw [runFrom.eq_def, h]

theorem runFrom_retried {e : ε} (h : attempt tries = .error e) : p.runFrom describe attempt tries (left + 1) =
    (p.runFrom describe attempt (tries + 1) left).behind (p.retried tries (describe e)) := by
  rw [runFrom.eq_def, h]

/-! ## Failures in a row -/

/-- What an attempt does, if it fails, that another will follow. -/
def retry (p : RetryPolicy) (describe : ε → String) (attempt : Nat → Except ε α) (number : Nat) : List Step :=
  match attempt number with
  | .ok _ => []
  | .error e => p.retried number (describe e)

theorem runFrom_failing (p : RetryPolicy) (describe : ε → String) (tries count left : Nat)
    (h : ∀ n, tries ≤ n → n < tries + count → ∃ e, attempt n = .error e) :
    p.runFrom describe attempt tries (count + left) =
      (p.runFrom describe attempt (tries + count) left).behind
        ((List.range' tries count).flatMap (p.retry describe attempt)) := by
  induction count generalizing tries with
  | zero => simp [Run.behind]
  | succ count ih =>
    obtain ⟨e, he⟩ := h tries (Nat.le_refl tries) (by omega)
    have hrest := ih (tries + 1) fun n hlow hhigh => h n (by omega) (by omega)
    have hcount : count + 1 + left = (count + left) + 1 := by omega
    have htries : tries + 1 + count = tries + (count + 1) := by omega
    rw [hcount, runFrom_retried he, hrest, htries]
    simp [Run.behind, List.range'_succ, retry, he]

/-! ## Whole runs -/

/-- What a run does, its log aside. -/
def Run.timeline (run : Run ε α) : List Step := run.steps.filter (·.event?.isNone)

/-- Attempts one after another, with the delay of each between it and the next. -/
def timelineTo (p : RetryPolicy) (last : Nat) : List Step :=
  (List.range last).flatMap (fun n => [.attempted n, .slept (p.delay n)]) ++ [.attempted last]

theorem Run.timeline_behind (steps : List Step) (run : Run ε α) :
    (run.behind steps).timeline = steps.filter (·.event?.isNone) ++ run.timeline :=
  List.filter_append steps run.steps

/-- The log of an attempt is not in the timeline. -/
theorem Run.timeline_attempted (result : Except ε α) (number : Nat) (events : List Event) :
    (Run.mk result (.attempted number :: events.map .logged)).timeline = [.attempted number] := by
  have hlog : (events.map Step.logged).filter (·.event?.isNone) = [] := by
    rw [List.filter_eq_nil_iff]
    intro step hstep
    obtain ⟨event, -, rfl⟩ := List.mem_map.mp hstep
    exact Bool.false_ne_true
  rw [timeline, List.filter_cons_of_pos rfl, hlog]

/-- A view that passes over the log sees the timeline. -/
theorem Run.filterMap_timeline {β : Type} {view : Step → Option β} (h : ∀ event, view (.logged event) = none)
    (run : Run ε α) : run.timeline.filterMap view = run.steps.filterMap view := by
  rw [timeline, List.filterMap_filter]
  refine List.filterMap_congr fun step _ => ?_
  cases step with
  | logged event => simp [Step.event?, h]
  | attempted | slept => rfl

theorem calls_of_timeline {run : Run ε α} {last : Nat} (h : run.timeline = p.timelineTo last) :
    run.calls = last + 1 := by
  rw [Run.calls, ← run.filterMap_timeline (fun _ => rfl), h, timelineTo]
  simp [List.filterMap_flatMap, List.filterMap_cons, Step.attempt?]

theorem delays_of_timeline {run : Run ε α} {last : Nat} (h : run.timeline = p.timelineTo last) :
    run.delays = (List.range last).map p.delay := by
  rw [Run.delays, ← run.filterMap_timeline (fun _ => rfl), h, timelineTo]
  simp [List.filterMap_flatMap, List.filterMap_cons, Step.delay?, List.map_eq_flatMap]

/-- What failures do, their log aside. -/
theorem filter_retries {last : Nat} (failures : ∀ n < last, ∃ e, attempt n = .error e) :
    ((List.range last).flatMap (p.retry describe attempt)).filter (·.event?.isNone) =
      (List.range last).flatMap fun n => [.attempted n, .slept (p.delay n)] := by
  rw [List.filter_flatMap]
  refine List.flatMap_congr fun n hn => ?_
  obtain ⟨e, he⟩ := failures n (List.mem_range.mp hn)
  rw [retry, he]
  rfl

/-- A run over failures ends with the attempt behind them, if that one succeeds or is the last one allowed. -/
theorem run_ends (p : RetryPolicy) (describe : ε → String) {last : Nat}
    (failures : ∀ n < last, ∃ e, attempt n = .error e) (hlast : last ≤ p.maxRetries.toNat)
    (hend : (∃ value, attempt last = .ok value) ∨ last = p.maxRetries.toNat) :
    (p.run describe attempt).result = attempt last ∧ (p.run describe attempt).timeline = p.timelineTo last := by
  have hfailing := runFrom_failing p describe 0 last (p.maxRetries.toNat - last)
    fun n _ hn => failures n (by omega)
  rw [Nat.add_sub_cancel' hlast, Nat.zero_add, ← List.range_eq_range'] at hfailing
  rw [run, hfailing, Run.timeline_behind, filter_retries failures, timelineTo]
  cases hattempt : attempt last with
  | ok value =>
    rw [runFrom_ok hattempt, Run.timeline_attempted]
    exact ⟨rfl, rfl⟩
  | error e =>
    obtain ⟨value, hvalue⟩ | rfl := hend
    · cases hattempt.symm.trans hvalue
    · rw [Nat.sub_self, runFrom_error hattempt]
      exact ⟨rfl, congrArg _ (Run.timeline_attempted (.error e) p.maxRetries.toNat [])⟩

/-- Every run has a last attempt, after which it has the result of that attempt and a timeline up to it. -/
theorem FirstSuccess.run_last {first : ℕ∞} (h : FirstSuccess attempt first) (p : RetryPolicy) (describe : ε → String) :
    ∃ last : ℕ, (last : ℕ∞) = min first p.maxRetries.toNat ∧
      (p.run describe attempt).result = attempt last ∧ (p.run describe attempt).timeline = p.timelineTo last ∧
      ((first ≤ p.maxRetries.toNat ∧ ∃ value, attempt last = .ok value) ∨
        (p.maxRetries.toNat < first ∧ ∃ e, attempt last = .error e)) := by
  obtain ⟨last, hmin, failures, hend⟩ := h.exists_last p.maxRetries.toNat
  have hlast : last ≤ p.maxRetries.toNat := Nat.cast_le.mp (hmin.trans_le (min_le_right _ _))
  obtain ⟨hresult, htimeline⟩ := run_ends p describe failures hlast
    (hend.imp (fun h => h.2) (fun h => h.2.1))
  exact ⟨last, hmin, hresult, htimeline, hend.imp_right fun h => ⟨h.1, h.2.2⟩⟩

/-- With `first` the number of the first attempt that succeeds, infinity where none does, a run makes one attempt more
than the lesser of it and the retries that are allowed. It returns the success where `first` is among these and the
failure of the last attempt where it is not. Between an attempt and the next it sleeps once, for the delay of the
attempt, and not before the first or after the last. -/
theorem run_exact (p : RetryPolicy) (describe : ε → String) (attempt : Nat → Except ε α) :
    ∃ (first : ℕ∞) (last : ℕ), FirstSuccess attempt first ∧ (last : ℕ∞) = min first p.maxRetries.toNat ∧
      (p.run describe attempt).calls = last + 1 ∧
      (first ≤ p.maxRetries.toNat → ∃ value, attempt last = .ok value ∧
        (p.run describe attempt).result = .ok value) ∧
      (p.maxRetries.toNat < first → ∃ e, attempt last = .error e ∧ (p.run describe attempt).result = .error e) ∧
      (p.run describe attempt).timeline = p.timelineTo last ∧
      (p.run describe attempt).delays = (List.range last).map p.delay := by
  obtain ⟨first, hfirst⟩ := exists_firstSuccess attempt
  obtain ⟨last, hmin, hresult, htimeline, hend⟩ := hfirst.run_last p describe
  refine ⟨first, last, hfirst, hmin, calls_of_timeline htimeline, fun hle => ?_, fun hlt => ?_, htimeline,
    delays_of_timeline htimeline⟩
  · obtain ⟨-, value, hvalue⟩ | ⟨hlt, -⟩ := hend
    · exact ⟨value, hvalue, hresult.trans hvalue⟩
    · exact absurd hle (not_le_of_gt hlt)
  · obtain ⟨hle, -⟩ | ⟨-, e, he⟩ := hend
    · exact absurd hle (not_le_of_gt hlt)
    · exact ⟨e, he, hresult.trans he⟩

end RetryPolicy

end SqlAdapter
