import SteeringDisplay.DisplayScreens

set_option autoImplicit false

/-! # controller.c and main.c -/
namespace SteeringDisplay.ButtonLoop
open ProgramTree FirmwareInterface PanelDriver DisplayScreens

/-! ## controller.c -/

structure ButtonState where
  pressed : Bool
  lastPressTimeUs : ℤ

abbrev Buttons := Button → ButtonState

def Buttons.initial : Buttons := fun _ => ⟨false, 0⟩

def debounceTimeUs : ℤ := 200 * 1000

/-- The test of both interrupt handlers. -/
def Accepts (now : ℤ) (s : ButtonState) : Prop := now - s.lastPressTimeUs > debounceTimeUs

instance (now : ℤ) (s : ButtonState) : Decidable (Accepts now s) :=
  inferInstanceAs (Decidable (_ > _))

/-- The body of both interrupt handlers, at the time `now` they read. -/
def debounce (now : ℤ) (s : ButtonState) : ButtonState :=
  if Accepts now s then ⟨true, now⟩ else s

def controllerIsr (b : Button) (now : ℤ) (s : Buttons) : Buttons :=
  Function.update s b (debounce now (s b))

def controllerIsrMode : ℤ → Buttons → Buttons := controllerIsr .mode

def controllerIsrSubmode : ℤ → Buttons → Buttons := controllerIsr .submode

/-- `Controller_Init`: from here on the falling edges of a button run its handler. -/
def controllerInit : Firmware Unit := do
  ask (.gpioIsrHandlerAdd .mode)
  ask (.gpioIsrHandlerAdd .submode)

/-! ## main.c -/

abbrev togglePressed (b : Button) : Firmware Bool := ask (.togglePressed b)
abbrev clearPressed (b : Button) : Firmware Unit := ask (.clearPressed b)

def toggleWhetherDrive : Firmware Unit := do
  called .toggleWhetherDrive
  if (← loadCurrentScreen) = .debugNoRtd then displaySwitchScreen .mainNoLaps
  else displaySwitchScreen .debugNoRtd

def toggleDuringDrive : Firmware Unit := do
  called .toggleDuringDrive
  match ← loadCurrentScreen with
  | .mainNoLaps => displaySwitchScreen .mainLaps
  | .mainLaps =>
    displaySwitchScreen .warn
    vTaskDelay .main 500
    displaySwitchScreen .debugRtd
  | .debugRtd => displaySwitchScreen .mainNoLaps
  | _ => pure ()

/-- The part of `app_main` before its loop; `false` says that the panel has not answered. -/
def appInit (tries : ℕ) : Firmware Bool := do
  if ← displayInit tries then
    controllerInit
    pure true
  else pure false

/-- The `if` of the loop of `app_main`. -/
def pollButtons : Firmware Unit := do
  if ← togglePressed .mode then
    clearPressed .mode
    toggleWhetherDrive
  else if ← togglePressed .submode then
    clearPressed .submode
    if (← loadCurrentScreen) = .debugNoRtd then pure ()
    else toggleDuringDrive
  else pure ()

def loopBody : Firmware Bool := do
  pollButtons
  vTaskDelay .main 100
  pure true

def loopPasses : ℕ → Firmware Unit
  | 0 => pure ()
  | passes + 1 => do
    let _ ← loopBody
    loopPasses passes

/-- `app_main` up to the end of a pass; it goes no further than `appInit` while that waits. -/
def appMain (tries passes : ℕ) : Firmware Unit := do
  if ← appInit tries then loopPasses passes
  else pure ()

/-- What `app_main` does between the return of `RA8875_init` and its loop. -/
def setUp : Option Bool → Firmware Bool
  | none => pure false
  | some _ => do
    displaySetup
    controllerInit
    pure true

theorem appInit_eq (tries : ℕ) : appInit tries = (ra8875Init tries >>= setUp) := by
  unfold appInit displayInit
  rw [bind_assoc]
  refine congrArg (ra8875Init tries >>= ·) (funext fun result => ?_)
  cases result with
  | none => rfl
  | some _ => simp only [setUp, bind_assoc, pure_bind, if_true]

def afterInit (passes : ℕ) : Option Bool → Firmware Unit
  | none => pure ()
  | some _ => do
    displaySetup
    controllerInit
    loopPasses passes

theorem appMain_eq (tries passes : ℕ) :
    appMain tries passes = (ra8875Init tries >>= afterInit passes) := by
  unfold appMain
  rw [appInit_eq, bind_assoc]
  refine congrArg (ra8875Init tries >>= ·) (funext fun result => ?_)
  cases result with
  | none => rfl
  | some _ => simp only [setUp, afterInit, bind_assoc, pure_bind, if_true]

end SteeringDisplay.ButtonLoop
