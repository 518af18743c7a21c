import Mathlib.Data.List.Basic
import Mathlib.Order.Nat

set_option autoImplicit false

/-!
# Maximal runs of a predicate below a bound
-/
namespace SteeringDisplay.MaximalRuns

variable (p : ℕ → Bool) (n : ℕ)

/-- From `a` to `b` the predicate holds, and at neither neighbour below the bound. -/
structure IsRun (a b : ℕ) : Prop where
  le : a ≤ b
  lt : b < n
  holds : ∀ i, a ≤ i → i ≤ b → p i = true
  before : ∀ i, i + 1 = a → p i = false
  after : b + 1 < n → p (b + 1) = false

def runEnd (i : ℕ) : ℕ :=
  if i < n ∧ p i = true then runEnd (i + 1) else i
termination_by n - i

variable {p n}

theorem le_runEnd (i : ℕ) : i ≤ runEnd p n i := by
  fun_induction runEnd p n i with
  | case1 i _ ih => omega
  | case2 i _ => omega

theorem lt_runEnd {i : ℕ} (hi : i < n) (hp : p i = true) : i < runEnd p n i := by
  rw [runEnd, if_pos ⟨hi, hp⟩]
  exact le_runEnd (i + 1)

theorem runEnd_le {i : ℕ} (hi : i ≤ n) : runEnd p n i ≤ n := by
  fun_induction runEnd p n i with
  | case1 i h ih => exact ih h.1
  | case2 i _ => exact hi

theorem runEnd_holds {i j : ℕ} (hi : i ≤ j) (hj : j < runEnd p n i) : p j = true := by
  fun_induction runEnd p n i with
  | case1 i h ih =>
    rcases hi.eq_or_lt with rfl | hlt
    · exact h.2
    · exact ih hlt hj
  | case2 i _ => omega

theorem runEnd_fails {i : ℕ} (hi : runEnd p n i < n) : p (runEnd p n i) = false := by
  fun_induction runEnd p n i with
  | case1 i h ih => exact ih hi
  | case2 i h =>
    by_contra htrue
    exact h ⟨hi, by simpa using htrue⟩

variable (p n) in
def runsFrom (i : ℕ) : List (ℕ × ℕ) :=
  if _h : i < n then
    if hp : p i = true then (i, runEnd p n i - 1) :: runsFrom (runEnd p n i)
    else runsFrom (i + 1)
  else []
termination_by n - i
decreasing_by
  · have := lt_runEnd _h hp
    omega
  · omega

/-- No run comes from below `i` and goes on at `i`. -/
def Fresh (p : ℕ → Bool) (n i : ℕ) : Prop :=
  ∀ j, j + 1 = i → p j = true → i < n → p i = false

theorem fresh_zero : Fresh p n 0 := fun _ hj => absurd hj (Nat.succ_ne_zero _)

theorem isRun_runEnd {i : ℕ} (hfresh : Fresh p n i) (hi : i < n) (hp : p i = true) :
    IsRun p n i (runEnd p n i - 1) := by
  have hstart := lt_runEnd hi hp
  have hstop : runEnd p n i ≤ n := runEnd_le hi.le
  have hinside : ∀ j, j ≤ runEnd p n i - 1 → j < runEnd p n i := fun j hj => by omega
  refine ⟨by omega, by omega, fun j hj hj' => runEnd_holds hj (hinside j hj'), fun j hj => ?_, ?_⟩
  · by_contra htrue
    have hfails := hfresh j hj (by simpa using htrue) hi
    rw [hp] at hfails
    exact Bool.noConfusion hfails
  · have hnext : runEnd p n i - 1 + 1 = runEnd p n i := by omega
    rw [hnext]
    exact runEnd_fails

theorem IsRun.end_eq {i b : ℕ} (h : IsRun p n i b) : b = runEnd p n i - 1 := by
  have hstart := lt_runEnd (h.le.trans_lt h.lt) (h.holds i (Nat.le_refl i) h.le)
  have hstop : runEnd p n i ≤ n := runEnd_le (h.le.trans_lt h.lt).le
  rcases Nat.lt_trichotomy b (runEnd p n i - 1) with hlt | heq | hgt
  · have hnext : b + 1 < runEnd p n i := by omega
    have hfails := h.after (by omega)
    rw [runEnd_holds (Nat.le_succ_of_le h.le) hnext] at hfails
    exact Bool.noConfusion hfails
  · exact heq
  · have hle : runEnd p n i ≤ b := by omega
    have hfails : p (runEnd p n i) = false := runEnd_fails (hle.trans_lt h.lt)
    rw [h.holds _ (le_runEnd i) hle] at hfails
    exact Bool.noConfusion hfails

theorem mem_runsFrom {i a b : ℕ} (hfresh : Fresh p n i) :
    (a, b) ∈ runsFrom p n i ↔ i ≤ a ∧ IsRun p n a b := by
  fun_induction runsFrom p n i with
  | case1 i hi hp ih =>
    have hstart := lt_runEnd hi hp
    have hrest := ih (fun _ _ _ => runEnd_fails)
    rw [List.mem_cons, hrest]
    constructor
    · rintro (heq | ⟨hle, hrun⟩)
      · obtain ⟨rfl, rfl⟩ := Prod.mk.inj heq
        exact ⟨Nat.le_refl a, isRun_runEnd hfresh hi hp⟩
      · exact ⟨by omega, hrun⟩
    · rintro ⟨hle, hrun⟩
      rcases hle.eq_or_lt with rfl | hlt
      · exact Or.inl (Prod.ext rfl hrun.end_eq)
      · refine Or.inr ⟨?_, hrun⟩
        by_contra hinside
        have hbefore := hrun.before (a - 1) (by omega)
        have hlast : i ≤ a - 1 ∧ a - 1 < runEnd p n i := by omega
        rw [runEnd_holds hlast.1 hlast.2] at hbefore
        exact Bool.noConfusion hbefore
  | case2 i hi hp ih =>
    have hfalse : p i = false := by simpa using hp
    have hnext : Fresh p n (i + 1) := by
      intro j hj htrue _
      obtain rfl : j = i := by omega
      exact absurd htrue hp
    rw [ih hnext]
    refine ⟨fun h => ⟨by omega, h.2⟩, fun ⟨hle, hrun⟩ => ⟨?_, hrun⟩⟩
    rcases hle.eq_or_lt with rfl | hlt
    · exact absurd (hrun.holds i (Nat.le_refl i) hrun.le) hp
    · exact hlt
  | case3 i hi =>
    refine ⟨fun h => absurd h List.not_mem_nil, fun ⟨hle, hrun⟩ => ?_⟩
    have hlt := hrun.le.trans_lt hrun.lt
    omega

theorem runsFrom_ge {i : ℕ} : ∀ r ∈ runsFrom p n i, i ≤ r.1 := by
  fun_induction runsFrom p n i with
  | case1 i hi hp ih =>
    have hstart := lt_runEnd hi hp
    intro r hr
    rcases List.mem_cons.mp hr with rfl | hr
    · exact Nat.le_refl i
    · exact hstart.le.trans (ih r hr)
  | case2 i hi hp ih => exact fun r hr => (Nat.le_succ i).trans (ih r hr)
  | case3 i hi => exact fun r hr => absurd hr List.not_mem_nil

theorem runsFrom_pairwise {i : ℕ} : (runsFrom p n i).Pairwise fun r r' => r.2 < r'.1 := by
  fun_induction runsFrom p n i with
  | case1 i hi hp ih =>
    have hstart := lt_runEnd hi hp
    refine List.pairwise_cons.mpr ⟨fun r hr => ?_, ih⟩
    have hge := runsFrom_ge r hr
    change runEnd p n i - 1 < r.1
    omega
  | case2 i hi hp ih => exact ih
  | case3 i hi => exact List.Pairwise.nil

theorem runsFrom_cover {i j : ℕ} :
    (∃ r ∈ runsFrom p n i, r.1 ≤ j ∧ j ≤ r.2) ↔ i ≤ j ∧ j < n ∧ p j = true := by
  fun_induction runsFrom p n i with
  | case1 i hi hp ih =>
    have hstart := lt_runEnd hi hp
    have hstop : runEnd p n i ≤ n := runEnd_le hi.le
    rw [List.exists_mem_cons_iff, ih]
    constructor
    · rintro (⟨hlow, hhigh⟩ | ⟨hle, hlt, hj⟩)
      · have hlow' : i ≤ j := hlow
        have hhigh' : j ≤ runEnd p n i - 1 := hhigh
        have hinside : j < runEnd p n i := by omega
        exact ⟨hlow', by omega, runEnd_holds hlow' hinside⟩
      · exact ⟨by omega, hlt, hj⟩
    · rintro ⟨hle, hlt, hj⟩
      rcases Nat.lt_or_ge j (runEnd p n i) with hinside | hbeyond
      · refine Or.inl ⟨hle, ?_⟩
        change j ≤ runEnd p n i - 1
        omega
      · exact Or.inr ⟨hbeyond, hlt, hj⟩
  | case2 i hi hp ih =>
    rw [ih]
    refine ⟨fun h => ⟨by omega, h.2⟩, fun ⟨hle, hlt, hj⟩ => ⟨?_, hlt, hj⟩⟩
    rcases hle.eq_or_lt with rfl | hlt'
    · exact absurd hj hp
    · exact hlt'
  | case3 i hi =>
    refine ⟨?_, fun ⟨hle, hlt, _⟩ => by omega⟩
    rintro ⟨r, hr, _⟩
    exact absurd hr List.not_mem_nil

end SteeringDisplay.MaximalRuns
