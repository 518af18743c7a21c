import SteeringDisplay.Footprints
import SteeringDisplay.ProgramInterference

set_option autoImplicit false

/-!
# Invariants of the renderers

What every renderer keeps, and what `app_main` and its toggles keep between the
renderers, holds in every run.
-/
namespace SteeringDisplay.MainRuns
open ProgramTree ProgramInterference FirmwareInterface PanelDriver DisplayScreens ButtonLoop Footprints

/-- What `app_main`, its toggles and `Display_SwitchScreen` perform themselves, apart from
    the assignment of `CURRENT_SCREEN`. -/
def Steering : firmware.Op → Prop
  | .currentScreen | .gpioIsrHandlerAdd _ | .togglePressed _ | .clearPressed _ | .call _ => True
  | .vTaskDelay file _ => file = .main
  | _ => False

/-- The switches of the screen and what happens between them keep `P`. -/
structure Carried {σ : Type} (M : System firmware σ) (G : firmware.Op → σ → Prop) (P : σ → Prop) :
    Prop where
  stable : Stable M P
  steering : ∀ o : Op, Steering o → Triple M G P (ask o) fun _ => P
  switches : ∀ next, Triple M G P (displaySwitchScreen next) fun _ => P

section Carried
variable {σ : Type} {M : System firmware σ} {G : firmware.Op → σ → Prop} {P : σ → Prop}

theorem carried_of_renderers (hstable : Stable M P)
    (hsteering : ∀ o : Op, Steering o → Triple M G P (ask o) fun _ => P)
    (hassign : ∀ screen, Triple M G P (setCurrentScreen screen) fun _ => P)
    (hrender : ∀ screen draw, render screen = some draw → Triple M G P draw fun _ => P) :
    Carried M G P where
  stable := hstable
  steering := hsteering
  switches next := by
    have hidle : Triple M G P (pure () : Firmware Unit) fun _ => P :=
      Triple.pure hstable fun _ hs => hs
    refine (hsteering (.call (.switchScreen next)) trivial).seq ?_
    refine (hsteering .currentScreen trivial).bind fun (S : Screen) => ?_
    change Triple M G P (if S = next then pure () else _) _
    split_ifs
    · exact hidle
    · cases hdraw : render next with
      | none => exact hidle
      | some draw => exact (hrender next draw hdraw).seq (hassign next)

variable (hP : Carried M G P)
include hP

theorem Carried.done {α : Type} (a : α) : Triple M G P (pure a : Firmware α) fun _ => P :=
  Triple.pure hP.stable fun _ hs => hs

theorem Carried.toggleWhetherDrive : Triple M G P toggleWhetherDrive fun _ => P := by
  refine (hP.steering (.call .toggleWhetherDrive) trivial).seq ?_
  refine (hP.steering .currentScreen trivial).bind fun (S : Screen) => ?_
  change Triple M G P (if S = .debugNoRtd then _ else _) _
  split_ifs
  · exact hP.switches _
  · exact hP.switches _

theorem Carried.toggleDuringDrive : Triple M G P toggleDuringDrive fun _ => P := by
  refine (hP.steering (.call .toggleDuringDrive) trivial).seq ?_
  refine (hP.steering .currentScreen trivial).bind fun (S : Screen) => ?_
  cases S with
  | mainNoLaps => exact hP.switches .mainLaps
  | mainLaps =>
    exact (hP.switches .warn).seq ((hP.steering (.vTaskDelay .main 500) rfl).seq
      (hP.switches .debugRtd))
  | debugRtd => exact hP.switches .mainNoLaps
  | debugNoRtd | warn | other value outside => exact hP.done ()

theorem Carried.pollButtons : Triple M G P pollButtons fun _ => P := by
  refine (hP.steering (.togglePressed .mode) trivial).bind fun (mode : Bool) => ?_
  cases mode with
  | true => exact (hP.steering (.clearPressed .mode) trivial).seq hP.toggleWhetherDrive
  | false =>
    refine (hP.steering (.togglePressed .submode) trivial).bind fun (submode : Bool) => ?_
    cases submode with
    | false => exact hP.done ()
    | true =>
      refine (hP.steering (.clearPressed .submode) trivial).seq ?_
      refine (hP.steering .currentScreen trivial).bind fun (S : Screen) => ?_
      change Triple M G P (if S = .debugNoRtd then pure () else _) _
      split_ifs
      · exact hP.done ()
      · exact hP.toggleDuringDrive

theorem Carried.loopBody : Triple M G P loopBody fun _ => P :=
  hP.pollButtons.seq ((hP.steering (.vTaskDelay .main 100) rfl).seq (hP.done true))

theorem Carried.loopPasses (passes : ℕ) : Triple M G P (loopPasses passes) fun _ => P := by
  induction passes with
  | zero => exact hP.done ()
  | succ passes ih => exact hP.loopBody.bind fun _ => ih

theorem Carried.controllerInit : Triple M G P controllerInit fun _ => P :=
  (hP.steering (.gpioIsrHandlerAdd .mode) trivial).seq
    (hP.steering (.gpioIsrHandlerAdd .submode) trivial)

theorem Carried.appInit {P₀ Q : σ → Prop} {tries : ℕ} (hQ : Stable M Q)
    (hinit : Triple M G P₀ (displayInit tries) fun ready s => if ready then P s else Q s) :
    Triple M G P₀ (appInit tries) fun ready s => if ready then P s else Q s := by
  refine hinit.bind fun ready => ?_
  cases ready with
  | false => exact Triple.pure hQ fun _ hs => hs
  | true => exact hP.controllerInit.seq (Triple.pure hP.stable fun _ hs => hs)

end Carried

structure Kept {σ : Type} (h : Handler firmware σ) (P : σ → Prop) : Prop where
  steering : ∀ o s, Steering o → P s → P (h o s).2
  assigns : ∀ screen s, P s → P (h (.setCurrentScreen screen) s).2
  renderers : ∀ screen draw, render screen = some draw → Hoare h P draw fun _ => P

section Kept
variable {σ : Type} {h : Handler firmware σ} {P : σ → Prop} (hP : Kept h P)
include hP

theorem Kept.carried : Carried (System.alone h) (fun _ _ => True) P :=
  carried_of_renderers (fun _ _ _ e => e.elim)
    (fun o ho => Triple.alone (Hoare.perform fun s hs => hP.steering o s ho hs))
    (fun screen => Triple.alone (Hoare.perform fun s hs => hP.assigns screen s hs))
    fun screen draw hdraw => Triple.alone (hP.renderers screen draw hdraw)

theorem Kept.switchScreen (next : Screen) : Hoare h P (displaySwitchScreen next) fun _ => P :=
  (hP.carried.switches next).hoare

/-- A run of `app_main` keeps what its renderers keep, once `Display_Init` is done; before
    that it keeps what `Display_Init` leaves while the panel does not answer. -/
theorem Kept.appMain {P₀ Q : σ → Prop} (tries passes : ℕ)
    (hinit : Hoare h P₀ (displayInit tries) fun ready s => if ready then P s else Q s)
    (hPQ : ∀ s, P s → Q s) : Hoare h P₀ (appMain tries passes) fun _ => Q := by
  refine (hP.carried.appInit (fun _ _ _ e => e.elim) (Triple.alone hinit)).hoare.bind fun ready => ?_
  cases ready with
  | false => exact Hoare.pure fun _ hs => hs
  | true => exact (hP.carried.loopPasses passes).hoare.conseq (fun _ hs => hs) fun _ s hs => hPQ s hs

end Kept

end SteeringDisplay.MainRuns
