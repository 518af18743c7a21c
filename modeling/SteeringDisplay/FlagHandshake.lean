import SteeringDisplay.LoopRuns
import Mathlib.Data.List.TakeWhile

set_option autoImplicit false

/-!
# The handshake between the handlers and the loop

A flag is raised by its handler and lowered by the loop, without a lock. The
results hold at every point of every interleaving.
-/
namespace SteeringDisplay.FlagHandshake
open ProgramTree ProgramInterference FirmwareInterface PanelDriver DisplayScreens ButtonLoop
open Footprints LoopWorld LoopPasses LoopRuns

variable {allow : Button → World → Prop}

/-- A press of `b` has been accepted since the last clear of its flag. -/
def Pending (b : Button) (log : List Event) : Prop :=
  ∃ pre post, log = pre ++ .accepted b :: post ∧ .cleared b ∉ post

theorem not_pending_nil (b : Button) : ¬ Pending b [] := by
  rintro ⟨pre, post, hnil, _⟩
  have hlength := congrArg List.length hnil
  simp at hlength

theorem pending_append_singleton (b : Button) (log : List Event) (e : Event) :
    Pending b (log ++ [e]) ↔ e = .accepted b ∨ (Pending b log ∧ e ≠ .cleared b) := by
  constructor
  · rintro ⟨pre, post, hsplit, hclear⟩
    rcases List.eq_nil_or_concat post with rfl | ⟨post, e', rfl⟩
    · obtain ⟨_, hlast⟩ := List.append_inj' hsplit rfl
      exact Or.inl (List.singleton_inj.mp hlast)
    · have hsplit' : log ++ [e] = (pre ++ .accepted b :: post) ++ [e'] := by simpa using hsplit
      obtain ⟨hlog, hlast⟩ := List.append_inj' hsplit' rfl
      obtain rfl := List.singleton_inj.mp hlast
      refine Or.inr ⟨⟨pre, post, hlog, fun h => hclear (by simp [h])⟩, ?_⟩
      rintro rfl
      exact hclear (by simp)
  · rintro (rfl | ⟨⟨pre, post, rfl, hclear⟩, hne⟩)
    · exact ⟨log, [], rfl, List.not_mem_nil⟩
    · refine ⟨pre, post ++ [e], by simp, ?_⟩
      rw [List.mem_append, List.mem_singleton]
      rintro (h | h)
      · exact hclear h
      · exact hne h.symm

theorem pressed_controllerIsr (b b' : Button) (now : ℤ) (s : Buttons) :
    (controllerIsr b' now s b).pressed = true ↔
      (s b).pressed = true ∨ (b' = b ∧ Accepts now (s b')) := by
  unfold controllerIsr
  by_cases hb : b = b'
  · subst hb
    rw [Function.update_self]
    unfold debounce
    split_ifs with hnow
    · simp [hnow]
    · simp [hnow]
  · rw [Function.update_of_ne hb]
    simp [Ne.symm hb]

theorem pressed_lower (b : Button) (e : Event) (s : Buttons) :
    (lower s e b).pressed = true ↔ (s b).pressed = true ∧ e ≠ .cleared b := by
  cases e with
  | cleared b' =>
    change (Function.update s b' { s b' with pressed := false } b).pressed = true ↔ _
    by_cases hb : b = b'
    · subst hb
      rw [Function.update_self]
      simp
    · rw [Function.update_of_ne hb]
      simp [Ne.symm hb]
  | accepted b' | tested b' | called r | entered s' | slept ms => simp [lower]

theorem eventOf_ne_accepted {o : Op} {e : Event} (h : eventOf o = some e) (b : Button) :
    e ≠ .accepted b := by
  rintro rfl
  have hop := opOf_eventOf h
  simp [opOf] at hop

def FlagsPending (w : World) : Prop := ∀ b, (w.buttons b).pressed = true ↔ Pending b w.log

theorem stable_flagsPending : Stable (loopSystem allow) FlagsPending := by
  rintro w _ hw ⟨b', now, _, _⟩ b
  change (controllerIsr b' now w.buttons b).pressed = true ↔ Pending b (w.log ++ ite _ _ _)
  rw [pressed_controllerIsr, hw b]
  split_ifs with hnow
  · rw [pending_append_singleton]
    simp [hnow, or_comm]
  · simp [hnow]

theorem flagsPending_perform {w : World} (hw : FlagsPending w) (o : Op) :
    FlagsPending (w.perform o) := by
  intro b
  change (clearFlag w.buttons o b).pressed = true ↔ Pending b (w.log ++ (eventOf o).toList)
  rw [clearFlag_eq]
  cases he : eventOf o with
  | none => simpa using hw b
  | some e =>
    change (lower w.buttons e b).pressed = true ↔ Pending b (w.log ++ [e])
    rw [pressed_lower, pending_append_singleton, hw b]
    simp [eventOf_ne_accepted he b]

theorem flagsPending_initial : FlagsPending .initial :=
  fun b => iff_of_false Bool.false_ne_true (not_pending_nil b)

theorem app_pending {tries : ℕ} {p : Firmware Bool} {w : World} (h : AppReach allow tries p w) :
    FlagsPending w := by
  refine Reach.invariant flagsPending_initial stable_flagsPending ?_ h
  rintro o w r _ hw ⟨_, rfl⟩
  exact flagsPending_perform hw o

def Raised (o : firmware.Op) (w : World) : Prop :=
  ∀ b, o = .clearPressed b → (w.buttons b).pressed = true

def NoClear (o : firmware.Op) : Prop := ∀ b, o ≠ .clearPressed b

theorem noClear_of_toggling {o : firmware.Op} (h : Toggling o) : NoClear o := by
  rintro b rfl
  exact h

theorem noClear_of_booting {o : firmware.Op} (h : Booting o) : NoClear o := by
  rintro b rfl
  exact h

theorem toggleWhetherDrive_noClear : Only NoClear toggleWhetherDrive :=
  toggleWhetherDrive_switching.mono fun _ h => noClear_of_toggling (toggling_of_switching h)

theorem guardedToggle_noClear : Only NoClear (loadCurrentScreen >>= fun s =>
    if s = .debugNoRtd then pure () else toggleDuringDrive) := by
  refine ⟨by simp [NoClear], fun (S : Screen) => ?_⟩
  change Only NoClear (if S = .debugNoRtd then pure () else toggleDuringDrive)
  split_ifs
  · exact only_pure ()
  · exact toggleDuringDrive_toggling.mono fun _ => noClear_of_toggling

theorem delay_noClear : Only NoClear (vTaskDelay .main 100 >>= fun _ => pure true) :=
  ⟨by simp [NoClear], fun _ => trivial⟩

theorem stable_true : Stable (loopSystem allow) (fun _ => True) := Stable.const True

theorem stable_pressed (b : Button) :
    Stable (loopSystem allow) (fun w => (w.buttons b).pressed = true) := by
  rintro w _ hw ⟨b', now, _, _⟩
  exact (pressed_controllerIsr b b' now w.buttons).mpr (Or.inl hw)

theorem triple_of_noClear {α : Type} {G : firmware.Op → World → Prop} {P : World → Prop}
    {p : Firmware α} (hp : Only NoClear p) (hP : Stable (loopSystem allow) P)
    (hG : ∀ o w, NoClear o → G o w) (hkeep : ∀ o w, P w → P (w.perform o)) :
    Triple (loopSystem allow) G P p (fun _ => P) := by
  refine Triple.of_only hp hP (fun o w ho _ => hG o w ho) ?_
  rintro o w r _ _ hw ⟨_, rfl⟩
  exact hkeep o w hw

theorem raised_of_noClear {α : Type} {p : Firmware α} (hp : Only NoClear p) :
    Triple (loopSystem allow) Raised (fun _ => True) p (fun _ _ => True) :=
  triple_of_noClear hp stable_true (fun _ _ ho b hb => absurd hb (ho b)) (fun _ _ _ => trivial)

theorem raised_clear (b : Button) :
    Triple (loopSystem allow) Raised (fun w => (w.buttons b).pressed = true) (clearPressed b)
      (fun _ _ => True) := by
  refine Triple.perform (stable_pressed b) (fun _ => stable_true) ?_ (fun _ _ _ _ _ => trivial)
  intro w hw b' hb'
  obtain rfl : b = b' := by simpa using hb'
  exact hw

theorem raised_test (b : Button) :
    Triple (loopSystem allow) Raised (fun _ => True) (togglePressed b)
      (fun (pressed : Bool) w => pressed = true → (w.buttons b).pressed = true) := by
  refine Triple.perform stable_true (fun _ => (stable_pressed b).imp) (fun w _ b' hb' => ?_) ?_
  · simp at hb'
  · rintro w r _ _ ⟨hr, rfl⟩ hpressed
    exact hr.symm.trans hpressed

theorem loopBody_raised :
    Triple (loopSystem allow) Raised (fun _ => True) loopBody (AtHead fun _ => True) := by
  have hpoll : Triple (loopSystem allow) Raised (fun _ => True) pollButtons
      (fun _ _ => True) := by
    refine (raised_test .mode).bind (fun (pressed : Bool) => ?_)
    cases pressed with
    | true =>
      refine ((raised_clear .mode).conseq (fun _ h => h rfl) (fun _ _ h => h)).seq ?_
      exact raised_of_noClear toggleWhetherDrive_noClear
    | false =>
      refine ((raised_test .submode).conseq (fun _ _ => trivial) (fun _ _ h => h)).bind
        (fun (pressed : Bool) => ?_)
      cases pressed with
      | true =>
        refine ((raised_clear .submode).conseq (fun _ h => h rfl) (fun _ _ h => h)).seq ?_
        exact raised_of_noClear guardedToggle_noClear
      | false => exact fun _ _ _ _ => trivial
  exact hpoll.seq ((raised_of_noClear delay_noClear).conseq (fun _ h => h) (fun _ _ h _ => h))

theorem app_raised {tries : ℕ} {o : Op} {k : o.Res → Firmware Bool} {w : World}
    (h : AppReach allow tries (.op o k) w) : Raised o w := by
  have hboot : Safe (loopSystem allow) Raised (AtHead fun _ => True) (appInit tries) .initial :=
    Safe.conseq (raised_of_noClear ((appInit_booting tries).mono fun _ => noClear_of_booting) _ trivial)
      (fun _ _ h _ => h)
  exact Reach.guard hboot loopBody_raised h

def ClearsBounded (w : World) : Prop :=
  ∀ b, w.log.count (.cleared b) + (w.buttons b).pressed.toNat ≤ w.log.count (.accepted b)

theorem clearsBounded_press {w : World} (hw : ClearsBounded w) (b : Button) (now : ℤ) :
    ClearsBounded (w.press b now) := by
  intro b'
  have hle := hw b'
  unfold World.press
  by_cases hnow : Accepts now (w.buttons b)
  · simp only [if_pos hnow, List.count_append]
    by_cases hb : b' = b
    · subst hb
      have hup : (controllerIsr b' now w.buttons b').pressed = true :=
        (pressed_controllerIsr b' b' now w.buttons).mpr (Or.inr ⟨rfl, hnow⟩)
      rw [hup]
      simp only [List.count_singleton_self, Bool.toNat_true]
      have hcleared : List.count (Event.cleared b') [Event.accepted b'] = 0 := rfl
      omega
    · have hsame : controllerIsr b now w.buttons b' = w.buttons b' := Function.update_of_ne hb _ _
      rw [hsame]
      have hcleared : List.count (Event.cleared b') [Event.accepted b] = 0 := rfl
      omega
  · have hsame : controllerIsr b now w.buttons = w.buttons := by
      unfold controllerIsr debounce
      rw [if_neg hnow, Function.update_eq_self]
    simp only [if_neg hnow, List.append_nil, hsame]
    exact hle

theorem clearsBounded_perform {w : World} (hw : ClearsBounded w) {o : Op} (ho : Raised o w) :
    ClearsBounded (w.perform o) := by
  intro b
  have hle := hw b
  change (w.log ++ (eventOf o).toList).count (.cleared b) + (clearFlag w.buttons o b).pressed.toNat
    ≤ (w.log ++ (eventOf o).toList).count (.accepted b)
  rw [clearFlag_eq, List.count_append, List.count_append]
  cases he : eventOf o with
  | none => simpa using hle
  | some e =>
    change _ + [e].count (.cleared b) + (lower w.buttons e b).pressed.toNat ≤
      _ + [e].count (.accepted b)
    by_cases hclear : e = .cleared b
    · subst hclear
      have hup := ho b (Option.some.inj (opOf_eventOf he)).symm
      rw [hup] at hle
      have hdown : (lower w.buttons (.cleared b) b).pressed = false := by
        simp [← Bool.not_eq_true, pressed_lower]
      rw [hdown, List.count_singleton_self]
      simp only [Bool.toNat_true, Bool.toNat_false] at hle ⊢
      omega
    · have hsame : (lower w.buttons e b).pressed = (w.buttons b).pressed := by
        rw [Bool.eq_iff_iff, pressed_lower]
        simp [hclear]
      have hcount : [e].count (.cleared b) = 0 := List.count_eq_zero.mpr (by simp [Ne.symm hclear])
      rw [hsame, hcount]
      omega

theorem app_clearsBounded {tries : ℕ} {p : Firmware Bool} {w : World}
    (h : AppReach allow tries p w) : ClearsBounded w := by
  refine Reach.invariant_of_guard (G := Raised) (fun b => ?_) ?_ (fun _ _ _ => app_raised) ?_ h
  · exact Nat.le_refl 0
  · rintro w _ hw ⟨b, now, _, _⟩
    exact clearsBounded_press hw b now
  · rintro o w r _ ho hw ⟨_, rfl⟩
    exact clearsBounded_perform hw ho

def untested : Event → Bool
  | .tested _ => false
  | _ => true

def reactions (es : List Event) : List Event :=
  es.filter fun e => match e with
    | .called .toggleWhetherDrive | .called .toggleDuringDrive | .cleared _ => true
    | _ => false

def expected (S : Screen) : Button → List Event
  | .mode => [.called .toggleWhetherDrive]
  | .submode => if S = .debugNoRtd then [] else [.called .toggleDuringDrive]

/-- From each clear to the next test the loop does what the flag asks for, and no more. -/
def Served : Screen → List Event → Prop
  | _, [] => True
  | S, .cleared b :: es => reactions (es.takeWhile untested) = expected S b ∧ Served S es
  | S, e :: es => Served (screenAfter S e) es

theorem takeWhile_append_of_nil {es fs : List Event} (hfs : fs.takeWhile untested = []) :
    (es ++ fs).takeWhile untested = es.takeWhile untested := by
  induction es with
  | nil => exact hfs
  | cons e es ih =>
    rw [List.cons_append, List.takeWhile_cons, List.takeWhile_cons, ih]

theorem served_append {S : Screen} {es fs : List Event} (hes : Served S es)
    (hfs : Served (after S es) fs) (hstop : fs.takeWhile untested = []) :
    Served S (es ++ fs) := by
  induction es generalizing S with
  | nil => exact hfs
  | cons e es ih =>
    cases e with
    | cleared b =>
      obtain ⟨hnow, hrest⟩ := hes
      refine ⟨?_, ih hrest hfs⟩
      change reactions ((es ++ fs).takeWhile untested) = expected S b
      rw [takeWhile_append_of_nil hstop]
      exact hnow
    | accepted b | tested b | called r | entered s | slept ms => exact ih hes hfs

theorem served_guardedDuringDrive (S : Screen) :
    reactions ((guardedDuringDrive S ++ [Event.slept 100]).takeWhile untested) =
        expected S .submode ∧
      ∀ S', Served S' (guardedDuringDrive S ++ [.slept 100]) := by
  cases S <;> exact ⟨rfl, fun _ => trivial⟩

theorem served_pass (S : Screen) :
    ∀ es ∈ passes S, Served S es ∧ es.takeWhile untested = [] := by
  intro es hes
  obtain ⟨poll, hpoll, rfl⟩ := List.mem_map.mp hes
  simp only [polls, List.mem_cons, List.not_mem_nil, or_false] at hpoll
  rcases hpoll with rfl | rfl | rfl
  · exact ⟨⟨rfl, trivial⟩, rfl⟩
  · obtain ⟨hnow, hrest⟩ := served_guardedDuringDrive S
    exact ⟨⟨hnow, hrest S⟩, rfl⟩
  · exact ⟨trivial, rfl⟩

def InService (S : Screen) (l : List Event) : Prop := S = after .mainNoLaps l ∧ Served .mainNoLaps l

def servedAtTest : Event → Screen → List Event → Prop
  | .tested _, _, l => Served .mainNoLaps l
  | _, _, _ => True

theorem walk_untested {S : Screen} {l es : List Event} (h : ∀ e ∈ es, untested e = true) :
    Walk servedAtTest S l es := by
  induction es generalizing S l with
  | nil => exact trivial
  | cons e es ih =>
    refine ⟨?_, ih (fun e' he' => h e' (List.mem_cons_of_mem _ he'))⟩
    have he := h e (List.mem_cons_self ..)
    cases e with
    | tested b => exact absurd he (by simp [untested])
    | accepted b | cleared b | called r | entered s | slept ms => exact trivial

theorem inService_pass {S : Screen} {l : List Event} (h : InService S l) :
    ∀ es ∈ passes S, Walk servedAtTest S l es ∧ InService (after S es) (l ++ es) := by
  intro es hes
  obtain ⟨hS, hl⟩ := h
  obtain ⟨hserved, hstop⟩ := served_pass S es hes
  have hafter : after S es = after .mainNoLaps (l ++ es) := by rw [after_append, ← hS]
  refine ⟨?_, hafter, served_append hl (by rwa [← hS]) hstop⟩
  have hsecond : Served .mainNoLaps (l ++ [.tested .mode]) := served_append hl trivial rfl
  obtain ⟨poll, hpoll, rfl⟩ := List.mem_map.mp hes
  simp only [polls, List.mem_cons, List.not_mem_nil, or_false] at hpoll
  rcases hpoll with rfl | rfl | rfl
  · refine ⟨hl, walk_untested ?_⟩
    change ∀ e ∈ .cleared .mode :: (whetherDrive S ++ [.slept 100]), untested e = true
    unfold whetherDrive switched
    simp [untested]
  · refine ⟨hl, hsecond, walk_untested ?_⟩
    change ∀ e ∈ .cleared .submode :: (guardedDuringDrive S ++ [.slept 100]), untested e = true
    cases S <;> simp [guardedDuringDrive, duringDrive, switched, untested]
  · exact ⟨hl, hsecond, trivial, trivial⟩

theorem app_inService {tries : ℕ} {w : World} (h : AppReach allow tries (.ret true) w) :
    InService w.statics.currentScreen (ownEvents w.log) :=
  (app_loop ⟨trivial, trivial, trivial⟩ ⟨rfl, trivial⟩ (fun _ _ h => inService_pass h)).1 w h

theorem app_servedAtTest {tries : ℕ} {b : Button} {k : Bool → Firmware Bool} {w : World}
    (h : AppReach allow tries (.op (.togglePressed b) k) w) :
    Served .mainNoLaps (ownEvents w.log) :=
  (app_loop (γ := servedAtTest) (φ := InService) ⟨trivial, trivial, trivial⟩ ⟨rfl, trivial⟩
    (fun _ _ h => inService_pass h)).2 (.togglePressed b) k w h _ rfl

theorem after_ownEvents (S : Screen) (l : List Event) : after S (ownEvents l) = after S l := by
  induction l generalizing S with
  | nil => rfl
  | cons e l ih => cases e <;> exact ih _

theorem reactions_ownEvents (l : List Event) :
    reactions ((ownEvents l).takeWhile untested) = reactions (l.takeWhile untested) := by
  induction l with
  | nil => rfl
  | cons e l ih =>
    cases e with
    | accepted b => exact ih
    | tested b => rfl
    | cleared b => exact congrArg (Event.cleared b :: ·) ih
    | called r => cases r <;> first | exact congrArg (_ :: ·) ih | exact ih
    | entered s | slept ms => exact ih

theorem served_split {S : Screen} {pre post : List Event} {b : Button}
    (h : Served S (ownEvents (pre ++ .cleared b :: post))) :
    reactions (post.takeWhile untested) = expected (after S pre) b := by
  induction pre generalizing S with
  | nil =>
    rw [← reactions_ownEvents]
    exact h.1
  | cons e pre ih =>
    cases e with
    | cleared b' => exact ih h.2
    | accepted b' | tested b' | called r | entered s | slept ms => exact ih h

theorem app_screen {tries : ℕ} {p : Firmware Bool} {w : World} (h : AppReach allow tries p w) :
    w.statics.currentScreen = after .mainNoLaps w.log := by
  refine Reach.invariant (I := fun w => w.statics.currentScreen = after .mainNoLaps w.log)
    rfl ?_ ?_ h
  · rintro w _ hw ⟨b, now, _, _⟩
    change w.statics.currentScreen = after .mainNoLaps (w.press b now).log
    rw [← after_ownEvents, ownEvents_press, after_ownEvents, hw]
  · rintro o w r _ hw ⟨_, rfl⟩
    change (w.statics.store o).currentScreen = after .mainNoLaps (w.log ++ (eventOf o).toList)
    rw [currentScreen_store, after_append, hw]

theorem served_of_split {w : World} {pre post : List Event} {b : Button}
    (h : Served .mainNoLaps (ownEvents w.log)) (hsplit : w.log = pre ++ .cleared b :: post) :
    reactions (post.takeWhile untested) = expected (after .mainNoLaps pre) b := by
  rw [hsplit] at h
  exact served_split h

theorem cleared_not_mem_expected (S : Screen) (b b' : Button) : .cleared b' ∉ expected S b := by
  cases b with
  | mode => simp [expected]
  | submode =>
    unfold expected
    split_ifs <;> simp

theorem pending_after_clear {log pre post : List Event} {b b' : Button}
    (h : Served .mainNoLaps (ownEvents log)) (hsplit : log = pre ++ .cleared b :: post)
    (huntested : ∀ c, .tested c ∉ post) (hpost : .accepted b' ∈ post) : Pending b' log := by
  have hall : post.takeWhile untested = post := by
    refine List.takeWhile_eq_self_iff.mpr (fun e he => ?_)
    cases e with
    | tested c => exact absurd he (huntested c)
    | accepted c | cleared c | called r | entered s | slept ms => rfl
  have hserved := h
  rw [hsplit] at hserved
  have hreact := served_split hserved
  rw [hall] at hreact
  have hclear : .cleared b' ∉ post := by
    intro hmem
    have hin : .cleared b' ∈ reactions post := List.mem_filter.mpr ⟨hmem, rfl⟩
    rw [hreact] at hin
    exact cleared_not_mem_expected _ _ _ hin
  obtain ⟨before, rest, rfl⟩ := List.append_of_mem hpost
  refine ⟨pre ++ .cleared b :: before, rest, by rw [hsplit]; simp, fun hrest => hclear ?_⟩
  exact List.mem_append_right _ (List.mem_cons_of_mem _ hrest)

theorem flag_handshake (tries : ℕ) :
    (∀ p w, AppReach anyPress tries p w →
      w.statics.currentScreen = after .mainNoLaps w.log ∧
      ∀ b, ((w.buttons b).pressed = true ↔ Pending b w.log) ∧
        w.log.count (.cleared b) ≤ w.log.count (.accepted b)) ∧
    (∀ b k w, AppReach anyPress tries (.op (.clearPressed b) k) w → Pending b w.log) ∧
    (∀ p w, AppReach anyPress tries p w → p = .ret true ∨ (∃ b k, p = .op (.togglePressed b) k) →
      ∀ pre b post, w.log = pre ++ .cleared b :: post →
        reactions (post.takeWhile untested) = expected (after .mainNoLaps pre) b) ∧
    (∀ w, AppReach anyPress tries (.ret true) w →
      ∀ pre b post, w.log = pre ++ .cleared b :: post → (∀ c, .tested c ∉ post) →
        ∀ b', .accepted b' ∈ post → (w.buttons b').pressed = true) := by
  refine ⟨fun p w h => ⟨app_screen h, fun b => ⟨app_pending h b, ?_⟩⟩, ?_, ?_, ?_⟩
  · exact (Nat.le_add_right _ _).trans (app_clearsBounded h b)
  · intro b k w h
    exact (app_pending h b).mp (app_raised h b rfl)
  · intro p w h hp pre b post hsplit
    rcases hp with rfl | ⟨c, k, rfl⟩
    · exact served_of_split (app_inService h).2 hsplit
    · exact served_of_split (app_servedAtTest h) hsplit
  · intro w h pre b post hsplit huntested b' hpost
    exact (app_pending h b').mpr (pending_after_clear (app_inService h).2 hsplit huntested hpost)

/-- A mode press is served, and a submode press that comes after its clear waits for the next pass. -/
theorem flag_handshake_run :
    (∃ k w, AppReach anyPress 1 (.op (.clearPressed .mode) k) w ∧ Pending .mode w.log ∧
      w.log.count (.cleared .mode) ≤ w.log.count (.accepted .mode)) ∧
    (∃ w, AppReach anyPress 1 (.ret true) w ∧
      w.log.drop 5 = whetherDrive .debugNoRtd ++ [.slept 100, .accepted .submode] ∧
      reactions ((w.log.drop 5).takeWhile untested) = expected .debugNoRtd .mode ∧
      (w.buttons .submode).pressed = true) := by
  have hmode := (headAt_boot : HeadAt anyPress _ _ _).press .mode 200001 (by decide)
    (by simp [anyPress])
  have hsub := hmode.pass.press .submode 200001 (by decide) (by simp [anyPress])
  obtain ⟨hevery, hclear, hserved, hwaits⟩ := flag_handshake 1
  refine ⟨?_, ?_⟩
  · obtain ⟨k, w, hw⟩ := hmode.asks (e := .cleared .mode) rfl (by decide)
    exact ⟨k, w, hw, hclear .mode k w hw, ((hevery _ w hw).2 .mode).2⟩
  · obtain ⟨w, hw, _, _, _, hlog⟩ := hsub
    have hsplit : w.log = (switched .debugNoRtd ++ [.accepted .mode, .tested .mode]) ++
        .cleared .mode :: (whetherDrive .debugNoRtd ++ [.slept 100, .accepted .submode]) := hlog
    have hdrop : w.log.drop 5 =
        whetherDrive .debugNoRtd ++ [.slept 100, .accepted .submode] := by rw [hsplit]; rfl
    refine ⟨w, hw, hdrop, ?_, hwaits w hw _ _ _ hsplit (fun c => ?_) .submode (by simp)⟩
    · rw [hdrop]
      exact hserved _ w hw (Or.inl rfl) _ _ _ hsplit
    · cases c <;> decide

end SteeringDisplay.FlagHandshake
