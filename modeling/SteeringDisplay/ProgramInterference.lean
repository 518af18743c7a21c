import SteeringDisplay.ProgramTree
import Mathlib.Logic.Relation

set_option autoImplicit false

/-!
# Programs under interference

One task runs a program tree while handlers of its environment may run between
any two of its operations. The rules below are those of pre- and postconditions
for such a task: every assertion must be stable under the environment.
-/
namespace SteeringDisplay.ProgramInterference
open ProgramTree Relation

/-- What the environment may do at any moment, and what each operation of the
    task may answer and do. Both may be nondeterministic. -/
structure System (S : Signature) (σ : Type) where
  env : σ → σ → Prop
  act : (o : S.Op) → σ → S.Res o → σ → Prop

variable {S : Signature} {α β σ : Type} (M : System S σ)

def Stable (P : σ → Prop) : Prop := ∀ s t, P s → M.env s t → P t

variable {M}

theorem Stable.and {P Q : σ → Prop} (hP : Stable M P) (hQ : Stable M Q) :
    Stable M (fun s => P s ∧ Q s) :=
  fun s t h e => ⟨hP s t h.1 e, hQ s t h.2 e⟩

theorem Stable.const (c : Prop) : Stable M (fun _ => c) := fun _ _ h _ => h

theorem Stable.imp {c : Prop} {P : σ → Prop} (hP : Stable M P) : Stable M (fun s => c → P s) :=
  fun s t h e hc => hP s t (h hc) e

theorem Stable.trans {P : σ → Prop} (hP : Stable M P) {s t : σ} (hs : P s)
    (h : ReflTransGen M.env s t) : P t := by
  induction h with
  | refl => exact hs
  | tail _ e ih => exact hP _ _ ih e

/-- Along every interleaving `G` holds of each operation when it is asked for,
    and `Q` holds of the result for as long as the environment alone runs. -/
def Safe (M : System S σ) (G : S.Op → σ → Prop) (Q : α → σ → Prop) : Prog S α → σ → Prop
  | .ret a, s => ∀ t, ReflTransGen M.env s t → Q a t
  | .op o k, s => ∀ t, ReflTransGen M.env s t →
      G o t ∧ ∀ r u, M.act o t r u → Safe M G Q (k r) u

section SafeRules
variable {G : S.Op → σ → Prop} {Q : α → σ → Prop} {R : β → σ → Prop}

theorem Safe.env {p : Prog S α} {s t : σ} (hp : Safe M G Q p s) (e : M.env s t) :
    Safe M G Q p t := by
  cases p with
  | ret a => exact fun u hu => hp u (ReflTransGen.head e hu)
  | op o k => exact fun u hu => hp u (ReflTransGen.head e hu)

theorem Safe.bind {p : Prog S α} {f : α → Prog S β} {s : σ} (hp : Safe M G Q p s)
    (hf : ∀ a t, Q a t → Safe M G R (f a) t) : Safe M G R (p >>= f) s := by
  induction p generalizing s with
  | ret a => exact hf a s (hp s .refl)
  | op o k ih =>
    intro t ht
    exact ⟨(hp t ht).1, fun r u hu => ih r ((hp t ht).2 r u hu)⟩

/-- A run by a handler whose steps the system allows at once ends as every run does; the
    handler may keep more in its state than the system looks at. -/
theorem Safe.run {τ : Type} {p : Prog S α} {s : τ} {h : Handler S τ} (view : τ → σ)
    (hp : Safe M G Q p (view s)) (hact : ∀ o s, M.act o (view s) (h o s).1 (view (h o s).2)) :
    Q (run h p s).1 (view (run h p s).2) := by
  induction p generalizing s with
  | ret a => exact hp (view s) .refl
  | op o k ih => exact ih _ ((hp (view s) .refl).2 _ _ (hact o s))

theorem Safe.conseq {Q' : α → σ → Prop} {p : Prog S α} {s : σ} (hp : Safe M G Q p s)
    (hQ : ∀ a t, Q a t → Q' a t) : Safe M G Q' p s := by
  induction p generalizing s with
  | ret a => exact fun t ht => hQ a t (hp t ht)
  | op o k ih =>
    intro t ht
    exact ⟨(hp t ht).1, fun r u hu => ih r ((hp t ht).2 r u hu)⟩

end SafeRules

def Triple (M : System S σ) (G : S.Op → σ → Prop) (P : σ → Prop) (p : Prog S α)
    (Q : α → σ → Prop) : Prop :=
  ∀ s, P s → Safe M G Q p s

section TripleRules
variable {G : S.Op → σ → Prop} {P P' : σ → Prop} {Q Q' : α → σ → Prop} {R : β → σ → Prop}

theorem Triple.pure {a : α} (hP : Stable M P) (hQ : ∀ s, P s → Q a s) :
    Triple M G P (pure a) Q :=
  fun _ hs t ht => hQ t (hP.trans hs ht)

theorem Triple.perform {o : S.Op} {Q : S.Res o → σ → Prop} (hP : Stable M P)
    (hQ : ∀ r, Stable M (Q r)) (hG : ∀ s, P s → G o s)
    (ho : ∀ s r u, P s → M.act o s r u → Q r u) : Triple M G P (perform o) Q := by
  intro s hs t ht
  have hPt := hP.trans hs ht
  exact ⟨hG t hPt, fun r u hu v hv => (hQ r).trans (ho t r u hPt hu) hv⟩

theorem Triple.bind {p : Prog S α} {f : α → Prog S β} (hp : Triple M G P p Q)
    (hf : ∀ a, Triple M G (Q a) (f a) R) : Triple M G P (p >>= f) R :=
  fun s hs => (hp s hs).bind (fun a t ht => hf a t ht)

theorem Triple.seq {p : Prog S α} {q : Prog S β} (hp : Triple M G P p (fun _ => P'))
    (hq : Triple M G P' q R) : Triple M G P (p >>= fun _ => q) R :=
  hp.bind (fun _ => hq)

theorem Triple.conseq {p : Prog S α} (hp : Triple M G P p Q) (hP : ∀ s, P' s → P s)
    (hQ : ∀ a s, Q a s → Q' a s) : Triple M G P' p Q' :=
  fun s hs => (hp s (hP s hs)).conseq hQ

theorem Triple.of_only {D : S.Op → Prop} {p : Prog S α} (hp : Only D p) (hP : Stable M P)
    (hG : ∀ o s, D o → P s → G o s) (hD : ∀ o s r u, D o → P s → M.act o s r u → P u) :
    Triple M G P p (fun _ => P) := by
  induction p with
  | ret a => exact fun _ hs t ht => hP.trans hs ht
  | op o k ih =>
    intro s hs t ht
    have hPt := hP.trans hs ht
    exact ⟨hG o t hp.1 hPt, fun r u hu => ih r (hp.2 r) u (hD o t r u hp.1 hPt hu)⟩

theorem Triple.forM (xs : List α) (f : α → Prog S PUnit) (hP : Stable M P)
    (hf : ∀ x ∈ xs, Triple M G P (f x) (fun _ => P)) :
    Triple M G P (xs.forM f) (fun _ => P) := by
  induction xs with
  | nil => exact Triple.pure hP (fun _ hs => hs)
  | cons x xs ih =>
    exact (hf x (by simp)).seq (ih (fun y hy => hf y (by simp [hy])))

/-- The frame rule: what the footprint of a program keeps may stand beside its triple. -/
theorem Triple.frame {D : S.Op → Prop} {F : σ → Prop} {p : Prog S α} (hp : Triple M G P p Q)
    (hD : Only D p) (hF : Stable M F)
    (hkeep : ∀ o s r u, D o → F s → M.act o s r u → F u) :
    Triple M G (fun s => P s ∧ F s) p (fun a s => Q a s ∧ F s) := by
  have hsafe : ∀ s, Safe M G Q p s → F s → Safe M G (fun a t => Q a t ∧ F t) p s := by
    clear hp
    induction p with
    | ret a => exact fun s hs hFs t ht => ⟨hs t ht, hF.trans hFs ht⟩
    | op o k ih =>
      intro s hs hFs t ht
      refine ⟨(hs t ht).1, fun r u hu => ih r (hD.2 r) u ((hs t ht).2 r u hu) ?_⟩
      exact hkeep o t r u hD.1 (hF.trans hFs ht) hu
  exact fun s hs => hsafe s (hp s hs.1) hs.2

/-- Where a view of the state is out of reach for the environment, and the operations of
    the footprint do to it what a handler does, a program ends as that handler ends. -/
theorem Triple.of_hoare {τ : Type} {h : Handler S τ} {view : σ → τ} {D : S.Op → Prop}
    (henv : ∀ s t, M.env s t → view t = view s)
    (hact : ∀ o s r u, D o → M.act o s r u → r = (h o (view s)).1 ∧ view u = (h o (view s)).2)
    (hG : ∀ o s, D o → G o s) {p : Prog S α} (hp : Only D p) {P : τ → Prop} {Q : α → τ → Prop}
    (hpq : Hoare h P p Q) : Triple M G (fun s => P (view s)) p (fun a s => Q a (view s)) := by
  have henvs : ∀ s t, ReflTransGen M.env s t → view t = view s := by
    intro s t ht
    induction ht with
    | refl => rfl
    | tail _ e ih => exact (henv _ _ e).trans ih
  have hsafe : ∀ s, Safe M G (fun a t => run h p (view s) = (a, view t)) p s := by
    clear hpq
    induction p with
    | ret a =>
      intro s t ht
      rw [henvs s t ht]
      rfl
    | op o k ih =>
      intro s t ht
      refine ⟨hG o t hp.1, fun r u hu => ?_⟩
      obtain ⟨hr, hview⟩ := hact o t r u hp.1 hu
      rw [henvs s t ht] at hr hview
      refine (ih r (hp.2 r) u).conseq fun a v hv => ?_
      rw [hview, hr] at hv
      exact hv
  refine fun s hs => (hsafe s).conseq fun a t ht => ?_
  have hend := hpq (view s) hs
  rw [ht] at hend
  exact hend

def System.alone (h : Handler S σ) : System S σ where
  env _ _ := False
  act o s r u := r = (h o s).1 ∧ u = (h o s).2

theorem Triple.hoare {h : Handler S σ} {p : Prog S α} (hp : Triple (System.alone h) G P p Q) :
    Hoare h P p Q :=
  fun s hs => Safe.run id (hp s hs) fun _ _ => ⟨rfl, rfl⟩

theorem Triple.alone {h : Handler S σ} {p : Prog S α} (hp : Hoare h P p Q) :
    Triple (System.alone h) (fun _ _ => True) P p Q :=
  fun s hs => Triple.of_hoare (M := System.alone h) (G := fun _ _ => True) (fun _ _ e => False.elim e)
    (fun _ _ _ _ _ ha => ha) (fun _ _ _ => trivial) (Only.of_forall fun _ => trivial) hp s hs

end TripleRules

/-- The rest of the task's program and the state, at every moment of a run of
    `boot; while (true) body`. A program that returns `false` never goes on.
    The task is at the head of its loop when the rest is `ret true`. -/
inductive Reach (M : System S σ) (boot body : Prog S Bool) (s₀ : σ) : Prog S Bool → σ → Prop
  | start : Reach M boot body s₀ boot s₀
  | env {p s t} : Reach M boot body s₀ p s → M.env s t → Reach M boot body s₀ p t
  | act {o k s r u} : Reach M boot body s₀ (.op o k) s → M.act o s r u →
      Reach M boot body s₀ (k r) u
  | again {s} : Reach M boot body s₀ (.ret true) s → Reach M boot body s₀ body s

section Loop
variable {boot body p : Prog S Bool} {s₀ s : σ} {G : S.Op → σ → Prop} {P : σ → Prop}

theorem Reach.safe {Q : Bool → σ → Prop} (hboot : Safe M G Q boot s₀)
    (hbody : Triple M G (Q true) body Q) (h : Reach M boot body s₀ p s) : Safe M G Q p s := by
  induction h with
  | start => exact hboot
  | env _ e ih => exact ih.env e
  | act _ ha ih => exact (ih _ .refl).2 _ _ ha
  | again _ ih => exact hbody _ (ih _ .refl)

def AtHead (P : σ → Prop) (b : Bool) (s : σ) : Prop := b = true → P s

/-- The loop rule: what the boot establishes and one pass keeps holds at every head. -/
theorem Reach.head (hboot : Safe M G (AtHead P) boot s₀) (hbody : Triple M G P body (AtHead P))
    (h : Reach M boot body s₀ (.ret true) s) : P s :=
  Reach.safe hboot (hbody.conseq (fun _ hs => hs rfl) (fun _ _ hs => hs)) h s .refl rfl

theorem Reach.guard {o : S.Op} {k : S.Res o → Prog S Bool}
    (hboot : Safe M G (AtHead P) boot s₀) (hbody : Triple M G P body (AtHead P))
    (h : Reach M boot body s₀ (.op o k) s) : G o s :=
  (Reach.safe hboot (hbody.conseq (fun _ hs => hs rfl) (fun _ _ hs => hs)) h s .refl).1

theorem Reach.invariant_of_guard {I : σ → Prop} (hI : I s₀) (henv : Stable M I)
    (hguard : ∀ o k s, Reach M boot body s₀ (.op o k) s → G o s)
    (hact : ∀ o s r u, G o s → I s → M.act o s r u → I u) (h : Reach M boot body s₀ p s) :
    I s := by
  induction h with
  | start => exact hI
  | env _ e ih => exact henv _ _ ih e
  | act hr ha ih => exact hact _ _ _ _ (hguard _ _ _ hr) ih ha
  | again _ ih => exact ih

theorem Reach.invariant {I : σ → Prop} (hI : I s₀) (henv : Stable M I)
    (hact : ∀ o s r u, I s → M.act o s r u → I u) (h : Reach M boot body s₀ p s) : I s :=
  Reach.invariant_of_guard (G := fun _ _ => True) hI henv (fun _ _ _ _ => trivial)
    (fun o s r u _ => hact o s r u) h

theorem Reach.envs {t : σ} (h : Reach M boot body s₀ p s) (e : ReflTransGen M.env s t) :
    Reach M boot body s₀ p t := by
  induction e with
  | refl => exact h
  | tail _ e ih => exact ih.env e

/-- What is reached is reached in every system that allows the same steps to a view of the state. -/
theorem Reach.map {τ : Type} {N : System S τ} (view : σ → τ)
    (henv : ∀ s t, M.env s t → N.env (view s) (view t))
    (hact : ∀ o s r u, M.act o s r u → N.act o (view s) r (view u))
    (h : Reach M boot body s₀ p s) : Reach N boot body (view s₀) p (view s) := by
  induction h with
  | start => exact Reach.start
  | env _ e ih => exact ih.env (henv _ _ e)
  | act _ ha ih => exact ih.act (hact _ _ _ _ ha)
  | again _ ih => exact ih.again

/-- Each step of the handler is one that the system allows, after a while perhaps. -/
def Conforms (M : System S σ) (h : Handler S σ) : Prop :=
  ∀ o s, ∃ t, ReflTransGen M.env s t ∧ M.act o t (h o s).1 (h o s).2

theorem Reach.run {h : Handler S σ} {q : Prog S α} {f : α → Prog S Bool} (hh : Conforms M h)
    (hr : Reach M boot body s₀ (q >>= f) s) :
    Reach M boot body s₀ (f (run h q s).1) (run h q s).2 := by
  induction q generalizing s with
  | ret a => exact hr
  | op o k ih =>
    obtain ⟨t, henv, hact⟩ := hh o s
    exact ih _ (Reach.act (hr.envs henv) hact)

theorem Reach.asks {h : Handler S σ} {q : Prog S α} {f : α → Prog S Bool} {o : S.Op}
    (hh : Conforms M h) (hr : Reach M boot body s₀ (q >>= f) s) (ho : o ∈ trace h q s) :
    ∃ k t, Reach M boot body s₀ (.op o k) t := by
  induction q generalizing s with
  | ret a => exact absurd ho List.not_mem_nil
  | op o' k ih =>
    rcases List.mem_cons.mp ho with rfl | ho
    · exact ⟨_, s, hr⟩
    · obtain ⟨t, henv, hact⟩ := hh o' s
      exact ih _ (Reach.act (hr.envs henv) hact) ho

theorem Reach.split {h : Handler S σ} {step : σ → S.Op → σ} {q : Prog S α}
    {f : α → Prog S Bool} {before after : List S.Op} {o : S.Op} (hh : Conforms M h)
    (hstep : ∀ o s, (h o s).2 = step s o) (hr : Reach M boot body s₀ (q >>= f) s)
    (ht : trace h q s = before ++ o :: after) :
    ∃ k, Reach M boot body s₀ (.op o k) (before.foldl step s) := by
  induction q generalizing s before with
  | ret a => exact absurd ht (by simp [trace])
  | op o' k ih =>
    cases before with
    | nil =>
      obtain ⟨rfl, _⟩ := List.cons_eq_cons.mp ht
      exact ⟨_, hr⟩
    | cons o'' before =>
      obtain ⟨rfl, ht'⟩ := List.cons_eq_cons.mp ht
      obtain ⟨t, henv, hact⟩ := hh o' s
      have hnext := ih _ (Reach.act (hr.envs henv) hact) ht'
      rwa [hstep] at hnext

end Loop

/-- The system with a note beside its state: `note` keeps of each step what a property
    needs to know later, and no step depends on it. -/
def System.noting {μ : Type} (M : System S σ) (note : σ → σ → μ → μ) : System S (σ × μ) where
  env s t := ∃ u, M.env s.1 u ∧ t = (u, note s.1 u s.2)
  act o s r t := ∃ u, M.act o s.1 r u ∧ t = (u, note s.1 u s.2)

section Noting
variable {μ : Type} {note : σ → σ → μ → μ} {boot body p : Prog S Bool} {s₀ s : σ}

theorem Reach.noted (m₀ : μ) (h : Reach M boot body s₀ p s) :
    ∃ m, Reach (M.noting note) boot body (s₀, m₀) p (s, m) := by
  induction h with
  | start => exact ⟨m₀, Reach.start⟩
  | @env p s t _ e ih =>
    obtain ⟨m, hm⟩ := ih
    exact ⟨note s t m, hm.env ⟨t, e, rfl⟩⟩
  | @act o k s r u _ ha ih =>
    obtain ⟨m, hm⟩ := ih
    exact ⟨note s u m, hm.act ⟨u, ha, rfl⟩⟩
  | again _ ih =>
    obtain ⟨m, hm⟩ := ih
    exact ⟨m, hm.again⟩

end Noting

end SteeringDisplay.ProgramInterference
