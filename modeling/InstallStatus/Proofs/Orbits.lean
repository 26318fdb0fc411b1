import Mathlib

/-!
How far a point is from the cycle that it ends up on, for a map that takes all points into a finite
set.
-/

namespace InstallStatus.Orbit

open Function

variable {α : Type} {f : α → α} {x : α}

/-- The number of steps after which a point is on a cycle. -/
noncomputable def depth (f : α → α) (x : α) : Nat := sInf {n | f^[n] x ∈ periodicPts f}

/-- With finitely many values an iteration cannot avoid all cycles for ever. -/
theorem exists_iterate_mem_periodicPts (finite : (Set.range f).Finite) (x : α) :
    ∃ n, f^[n] x ∈ periodicPts f := by
  have inRange : ∀ n, f^[n + 1] x ∈ Set.range f := by
    intro n
    rw [iterate_succ_apply']
    exact Set.mem_range_self _
  obtain ⟨m, n, less, same⟩ := finite.exists_lt_map_eq_of_forall_mem inRange
  refine ⟨m + 1, n - m, Nat.sub_pos_of_lt less, ?_⟩
  have steps : n - m + (m + 1) = n + 1 := by omega
  rw [IsPeriodicPt, IsFixedPt, ← iterate_add_apply, steps]
  exact same.symm

theorem depth_of_mem (periodic : x ∈ periodicPts f) : depth f x = 0 :=
  Nat.sInf_eq_zero.mpr (.inl periodic)

/-- Off the cycles, each step leads one step closer to one. -/
theorem depth_of_notMem (finite : (Set.range f).Finite) (off : x ∉ periodicPts f) :
    depth f x = depth f (f x) + 1 := by
  have later := exists_iterate_mem_periodicPts finite (f x)
  have reached : f^[depth f (f x)] (f x) ∈ periodicPts f := Nat.sInf_mem later
  apply le_antisymm
  · refine Nat.sInf_le ?_
    show f^[depth f (f x) + 1] x ∈ periodicPts f
    rw [iterate_succ_apply]
    exact reached
  · have arrives : f^[depth f x] x ∈ periodicPts f :=
      Nat.sInf_mem (exists_iterate_mem_periodicPts finite x)
    cases count : depth f x with
    | zero =>
      rw [count] at arrives
      exact absurd arrives off
    | succ n =>
      rw [count, iterate_succ_apply] at arrives
      exact Nat.succ_le_succ (Nat.sInf_le arrives)

theorem apply_mem_periodicPts (periodic : x ∈ periodicPts f) : f x ∈ periodicPts f := by
  obtain ⟨n, positive, returns⟩ := periodic
  exact ⟨n, positive, returns.apply⟩

/-- No two points of the cycles go to the same point. -/
theorem eq_of_apply_eq {y : α} (xPeriodic : x ∈ periodicPts f) (yPeriodic : y ∈ periodicPts f)
    (same : f x = f y) : x = y := by
  obtain ⟨m, mPositive, xReturns⟩ := xPeriodic
  obtain ⟨n, nPositive, yReturns⟩ := yPeriodic
  exact xReturns.eq_of_apply_eq yReturns mPositive nPositive same

end InstallStatus.Orbit
