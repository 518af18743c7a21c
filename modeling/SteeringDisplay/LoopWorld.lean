import SteeringDisplay.ProgramInterference
import SteeringDisplay.Footprints

set_option autoImplicit false

/-!
# The loop of `app_main` and the two interrupt handlers

The state of a run, with a log of what was done so far. A handler call is one
step, which may fall between any two operations of the task. What the panel
answers is left open, so that the results hold for every panel.
-/
namespace SteeringDisplay.LoopWorld
open ProgramTree ProgramInterference FirmwareInterface ButtonLoop Footprints

inductive Event where
  | accepted (b : Button)
  | tested (b : Button)
  | cleared (b : Button)
  | called (r : Routine)
  | entered (s : Screen)
  | slept (ms : ℕ)
  deriving DecidableEq

structure World where
  statics : Statics
  buttons : Buttons
  armed : Button → Bool
  log : List Event

def World.initial : World where
  statics := .initial
  buttons := .initial
  armed := fun _ => false
  log := []

/-- The entry that an operation of the task leaves in the log. -/
def eventOf : Op → Option Event
  | .togglePressed b => some (.tested b)
  | .clearPressed b => some (.cleared b)
  | .call r => some (.called r)
  | .setCurrentScreen s => some (.entered s)
  | .vTaskDelay .main ms => some (.slept ms)
  | _ => none

def clearFlag (s : Buttons) : Op → Buttons
  | .clearPressed b => Function.update s b { s b with pressed := false }
  | _ => s

def arm (a : Button → Bool) : Op → Button → Bool
  | .gpioIsrHandlerAdd b => Function.update a b true
  | _ => a

def World.perform (w : World) (o : Op) : World where
  statics := w.statics.store o
  buttons := clearFlag w.buttons o
  armed := arm w.armed o
  log := w.log ++ (eventOf o).toList

/-- The answers an operation can get; those of the panel and of the C library are open. -/
def Answers : (o : Op) → World → o.Res → Prop
  | .togglePressed b, w, r => r = (w.buttons b).pressed
  | .currentFont, w, r => r = w.statics.currentFont
  | .inGraphicMode, w, r => r = w.statics.inGraphicMode
  | .currentScreen, w, r => r = w.statics.currentScreen
  | .glyphCache ch, w, r => r = w.statics.glyphCache ch
  | _, _, _ => True

def World.press (w : World) (b : Button) (now : ℤ) : World :=
  { w with
    buttons := controllerIsr b now w.buttons
    log := w.log ++ if Accepts now (w.buttons b) then [.accepted b] else [] }

/-- The handler of an armed button may run at any time; `allow` restricts the
    presses it accepts. -/
inductive Press (allow : Button → World → Prop) : World → World → Prop
  | mk {w : World} (b : Button) (now : ℤ) (harmed : w.armed b = true)
      (hallow : Accepts now (w.buttons b) → allow b w) : Press allow w (w.press b now)

def loopSystem (allow : Button → World → Prop) : System firmware World where
  env := Press allow
  act o w r u := Answers o w r ∧ u = w.perform o

def anyPress : Button → World → Prop := fun _ _ => True

/-- The rest of the task and the state, at any moment of a run of `app_main`. -/
def AppReach (allow : Button → World → Prop) (tries : ℕ) : Firmware Bool → World → Prop :=
  Reach (loopSystem allow) (appInit tries) loopBody .initial

def ownEvents (log : List Event) : List Event :=
  log.filter fun e => match e with
    | .accepted _ => false
    | _ => true

theorem ownEvents_append (l m : List Event) : ownEvents (l ++ m) = ownEvents l ++ ownEvents m :=
  List.filter_append ..

theorem ownEvents_eventOf (o : Op) : ownEvents (eventOf o).toList = (eventOf o).toList := by
  cases o with
  | vTaskDelay file ms => cases file <;> rfl
  | _ => rfl

theorem ownEvents_perform (w : World) (o : Op) :
    ownEvents (w.perform o).log = ownEvents w.log ++ (eventOf o).toList := by
  change ownEvents (w.log ++ _) = _
  rw [ownEvents_append, ownEvents_eventOf]

theorem ownEvents_press (w : World) (b : Button) (now : ℤ) :
    ownEvents (w.press b now).log = ownEvents w.log := by
  change ownEvents (w.log ++ _) = _
  rw [ownEvents_append]
  split_ifs <;> exact List.append_nil _

theorem silent_eventOf {o : Op} (h : Silent o) : eventOf o = none := by
  cases o with
  | vTaskDelay file ms => cases file <;> first | rfl | exact absurd rfl h
  | _ => first | rfl | exact h.elim

end SteeringDisplay.LoopWorld
