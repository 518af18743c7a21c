import SteeringDisplay.Footprints

set_option autoImplicit false

/-!
# The mode register and its cached copy

`inGraphicMode` stands for the register 0x40, which the program never reads back.
-/
namespace SteeringDisplay.ModeRegister
open ProgramTree FirmwareInterface PanelDriver DisplayScreens Footprints

/-- The statics, the register 0x40, and how many operations there have been. -/
structure Controller where
  statics : Statics
  mode : UInt8
  steps : ℕ

def Controller.powerUp : Controller := ⟨.initial, 0x00, 0⟩

def modeAfter (mode : UInt8) : Op → UInt8
  | .writeRegister reg value => if reg = 0x40 then value else mode
  | _ => mode

section Machine
variable (oracle : ℕ → (o : Op) → o.Res)

/-- The statics answer for themselves; everything else answers as the oracle says. -/
def Controller.answer : (o : Op) → Controller → o.Res
  | .currentFont, s => s.statics.currentFont
  | .inGraphicMode, s => s.statics.inGraphicMode
  | .currentScreen, s => s.statics.currentScreen
  | .glyphCache ch, s => s.statics.glyphCache ch
  | o, s => oracle s.steps o

def controller : Handler firmware Controller := fun o s =>
  (Controller.answer oracle o s, ⟨s.statics.store o, modeAfter s.mode o, s.steps + 1⟩)

end Machine

theorem trace_loadCurrentFont {oracle : ℕ → (o : Op) → o.Res} {α : Type} {font : DisplayFont}
    {k : DisplayFont → Firmware α} {s : Controller} (hs : s.statics.currentFont = font) :
    trace (controller oracle) (loadCurrentFont >>= k) s =
      .currentFont :: trace (controller oracle) (k font) (controller oracle .currentFont s).2 := by
  subst hs
  rfl

inductive Call where
  | enableDrawMode
  | enableTextModeAndFont (font : DisplayFont)
  | drawRect (x1 y1 x2 y2 : UInt16) (color : UInt8) (filled : Bool)
  | writeTextAt (x y : UInt16) (msg : List UInt8)
  | writeNumberAt (x y : UInt16) (isWholeNumber : Bool) (value : CFloat) (hasManyDigits : Bool)
  | switchScreen (next : Screen)

def Call.exec : Call → Firmware Unit
  | .enableDrawMode => displayEnableDrawMode
  | .enableTextModeAndFont font => displayEnableTextModeAndFont font
  | .drawRect x1 y1 x2 y2 color filled => displayDrawRect x1 y1 x2 y2 color filled
  | .writeTextAt x y msg => displayWriteTextAt x y msg
  | .writeNumberAt x y isWholeNumber value hasManyDigits =>
    displayWriteNumberAt x y isWholeNumber value hasManyDigits
  | .switchScreen next => displaySwitchScreen next

/-- The switch renders: the screen is another one than `S`, and the `switch` knows it. -/
def renders (S next : Screen) : Bool := S ≠ next ∧ (render next).isSome

def switchesMode (S : Screen) : Call → Bool
  | .enableDrawMode | .enableTextModeAndFont _ => true
  | .switchScreen next => renders S next
  | _ => false

def selectsInternal (S : Screen) : Call → Bool
  | .enableTextModeAndFont font => font = .internal
  | .switchScreen next => renders S next
  | _ => false

structure ModeView where
  flag : Bool
  register : UInt8
  screen : Screen

def Controller.view (s : Controller) : ModeView :=
  ⟨s.statics.inGraphicMode, s.mode, s.statics.currentScreen⟩

def drawStep (v : ModeView) : ModeView :=
  if v.flag then v else { v with flag := true, register := 0x00 }

def textStep (v : ModeView) : ModeView := if v.flag then { v with register := 0x80 } else v

def modeStep (v : ModeView) : Call → ModeView
  | .enableDrawMode => drawStep v
  | .enableTextModeAndFont .internal => textStep v
  | .enableTextModeAndFont .comicSans => drawStep v
  | .switchScreen next => if renders v.screen next then ⟨true, 0x80, next⟩ else v
  | _ => v

/-- Every run of the program takes the view from `v` to `f v`. -/
def Effect {α : Type} (oracle : ℕ → (o : Op) → o.Res) (f : ModeView → ModeView)
    (p : Firmware α) : Prop :=
  ∀ s, (run (controller oracle) p s).2.view = f s.view

section Effects
variable {oracle : ℕ → (o : Op) → o.Res} {α β : Type} {f g : ModeView → ModeView}

theorem Effect.seq {p : Firmware α} {q : Firmware β} (hp : Effect oracle f p)
    (hq : Effect oracle g q) : Effect oracle (fun v => g (f v)) (p >>= fun _ => q) := by
  intro s
  rw [run_bind, hq, hp]

theorem Effect.congr {p : Firmware α} (hp : Effect oracle f p) (hfg : ∀ v, f v = g v) :
    Effect oracle g p :=
  fun s => (hp s).trans (hfg _)

def KeepsMode : firmware.Op → Prop
  | .writeRegister reg _ => reg ≠ 0x40
  | .setInGraphicMode _ | .setCurrentScreen _ => False
  | _ => True

theorem view_keepsMode {o : firmware.Op} (ho : KeepsMode o) (s : Controller) :
    ((controller oracle) o s).2.view = s.view := by
  cases o with
  | writeRegister reg value =>
    change ModeView.mk _ (if reg = 0x40 then value else s.mode) _ = _
    rw [if_neg ho]
    rfl
  | setInGraphicMode b | setCurrentScreen screen => exact ho.elim
  | _ => rfl

theorem effect_keepsMode {p : Firmware α} (hp : Only KeepsMode p) : Effect oracle id p :=
  run_view_eq Controller.view hp (fun _ s ho => view_keepsMode ho s)

theorem keepsMode_of_painting {o : firmware.Op} (h : Painting o) : KeepsMode o := by
  cases o with
  | writeRegister reg value =>
    have hreg : reg ∈ paintRegisters := h
    rintro rfl
    exact absurd hreg (by decide)
  | setInGraphicMode b | setCurrentScreen screen => exact h.elim
  | _ => trivial

theorem effect_painting {p : Firmware α} (hp : Only Painting p) : Effect oracle id p :=
  effect_keepsMode (hp.mono fun _ => keepsMode_of_painting)

theorem effect_ask (o : Op) (ho : KeepsMode o) : Effect oracle id (ask o) :=
  effect_keepsMode ((only_perform _).mpr ho)

theorem effect_enableDrawMode : Effect oracle drawStep displayEnableDrawMode := by
  intro s
  unfold displayEnableDrawMode
  rw [run_bind]
  change Controller.view (run _ (if s.statics.inGraphicMode then pure () else _) _).2 =
    if s.statics.inGraphicMode then _ else _
  split_ifs
  · rfl
  · rfl

theorem effect_leaveGraphicMode : Effect oracle textStep leaveGraphicMode := by
  intro s
  unfold leaveGraphicMode
  rw [run_bind]
  change Controller.view (run _ (if s.statics.inGraphicMode then _ else pure ()) _).2 =
    if s.statics.inGraphicMode then _ else _
  split_ifs
  · rfl
  · rfl

theorem effect_write {reg : UInt8} (hreg : reg ≠ 0x40) (value : UInt8) :
    Effect oracle id (ra8875WriteRegister reg value) :=
  effect_ask (.writeRegister reg value) hreg

theorem effect_internalFontSize (size : UInt8) :
    Effect oracle id (displayInternalFontSize size) :=
  (effect_write (by decide) _).seq ((effect_write (by decide) _).seq (effect_write (by decide) _))

theorem effect_resetState : Effect oracle id displayResetState :=
  (effect_write (by decide) _).seq ((effect_painting (setTextCursor_painting 0 0)).seq
    (effect_painting foregroundWhite_painting))

theorem effect_enableTextInternal :
    Effect oracle textStep (displayEnableTextModeAndFont .internal) :=
  (effect_ask (.setCurrentFont .internal) trivial).seq (effect_leaveGraphicMode.seq
    ((effect_painting foregroundWhite_painting).seq (effect_internalFontSize _)))

theorem effect_enableTextComicSans :
    Effect oracle drawStep (displayEnableTextModeAndFont .comicSans) :=
  (effect_ask (.setCurrentFont .comicSans) trivial).seq effect_enableDrawMode

theorem effect_pollInterrupt (mask : UInt8) (polls : ℕ) :
    Effect oracle id (pollInterrupt mask polls) := by
  refine effect_keepsMode ?_
  induction polls with
  | zero => exact trivial
  | succ polls ih =>
    refine ⟨trivial, fun (status : UInt8) => ?_⟩
    change Only KeepsMode (if status &&& mask ≠ 0 then _ else _)
    split_ifs
    · exact (only_perform _).mpr (by simp [KeepsMode])
    · exact ⟨trivial, fun _ => ih⟩

theorem effect_bteMove (sx sy : UInt16) (sl : UInt8) (dx dy : UInt16) (dl : UInt8)
    (w h : UInt16) (negative rop : UInt8) :
    Effect oracle id (ra8875BteMove sx sy sl dx dy dl w h negative rop) := by
  have hfour : ∀ {r₁ r₂ r₃ r₄ : UInt8}, (∀ r ∈ [r₁, r₂, r₃, r₄], r ≠ 0x40) →
      ∀ v₁ v₂ v₃ v₄, Effect oracle id (do
        ra8875WriteRegister r₁ v₁
        ra8875WriteRegister r₂ v₂
        ra8875WriteRegister r₃ v₃
        ra8875WriteRegister r₄ v₄) := fun hr v₁ v₂ v₃ v₄ =>
    (effect_write (hr _ (by simp)) v₁).seq ((effect_write (hr _ (by simp)) v₂).seq
      ((effect_write (hr _ (by simp)) v₃).seq (effect_write (hr _ (by simp)) v₄)))
  exact (hfour (by decide) _ _ _ _).seq ((hfour (by decide) _ _ _ _).seq
    ((hfour (by decide) _ _ _ _).seq ((effect_write (by decide) _).seq
      ((effect_write (by decide) _).seq (effect_pollInterrupt _ _)))))

def textLeft (v : ModeView) : ModeView := ⟨true, 0x80, v.screen⟩

theorem textStep_drawStep (v : ModeView) : textStep (drawStep v) = textLeft v := by
  obtain ⟨flag, register, screen⟩ := v
  cases flag <;> rfl

theorem drawStep_drawStep (v : ModeView) : drawStep (drawStep v) = drawStep v := by
  obtain ⟨flag, register, screen⟩ := v
  cases flag <;> rfl

theorem effect_renderMainScreen (isLaps : Bool) :
    Effect oracle textLeft (displayRenderMainScreen isLaps) :=
  (effect_resetState.seq (effect_enableDrawMode.seq ((effect_painting (mainBar_painting isLaps)).seq
    ((effect_painting (drawBorders_painting _)).seq ((effect_ask (.vTaskDelay _ _) trivial).seq
      (effect_enableTextComicSans.seq ((effect_painting (writeTexts_painting _)).seq
        (effect_enableTextInternal.seq
          (effect_painting (writeValues_painting _)))))))))).congr fun v =>
    (congrArg textStep (drawStep_drawStep v)).trans (textStep_drawStep v)

theorem effect_renderStaticDebugScreen :
    Effect oracle textLeft displayRenderStaticDebugScreen :=
  (effect_resetState.seq (effect_enableDrawMode.seq ((effect_painting (drawBorders_painting _)).seq
    (effect_enableTextComicSans.seq ((effect_painting (writeTexts_painting _)).seq
      ((effect_ask (.vTaskDelay _ _) trivial).seq ((effect_painting (writeTexts_painting _)).seq
        (effect_enableTextInternal.seq
          (effect_painting (writeValues_painting _)))))))))).congr fun v =>
    (congrArg textStep (drawStep_drawStep v)).trans (textStep_drawStep v)

theorem effect_usePrerenderedDebugRtd : Effect oracle textLeft displayUsePrerenderedDebugRtd :=
  (effect_resetState.seq ((effect_bteMove _ _ _ _ _ _ _ _ _ _).seq (effect_enableDrawMode.seq
    ((effect_painting (drawBorders_painting _)).seq (effect_enableTextInternal.seq
      (effect_painting (writeValues_painting _))))))).congr textStep_drawStep

theorem effect_warn : Effect oracle textLeft displayWarn :=
  (effect_resetState.seq (effect_enableDrawMode.seq
    ((effect_painting (drawRect_painting _ _ _ _ _ _)).seq ((effect_ask (.vTaskDelay _ _) trivial).seq
      (effect_enableTextInternal.seq ((effect_internalFontSize _).seq
        ((effect_painting foregroundWhite_painting).seq
          (effect_painting (writeTextAt_painting _ _ _ _))))))))).congr textStep_drawStep

theorem effect_render {S : Screen} {draw : Firmware Unit} (h : render S = some draw) :
    Effect oracle textLeft draw := by
  cases S with
  | mainNoLaps | mainLaps =>
    obtain rfl := Option.some.inj h
    exact effect_renderMainScreen _
  | debugNoRtd =>
    obtain rfl := Option.some.inj h
    exact effect_renderStaticDebugScreen
  | debugRtd =>
    obtain rfl := Option.some.inj h
    exact effect_usePrerenderedDebugRtd
  | warn =>
    obtain rfl := Option.some.inj h
    exact effect_warn
  | other value outside => simp [render] at h

theorem effect_prerenderDebugRtdLabels : Effect oracle textLeft displayPrerenderDebugRtdLabels := by
  have hpaint : ∀ {p : Firmware Unit}, Only Painting p → Effect oracle id p := effect_painting
  refine (effect_resetState.seq (effect_enableDrawMode.seq ((hpaint (drawRect_painting _ _ _ _ _ _)).seq
    ((hpaint (drawRect_painting _ _ _ _ _ _)).seq ((effect_ask (.vTaskDelay _ _) trivial).seq
      (effect_enableTextInternal.seq ((effect_internalFontSize _).seq
        ((effect_write (by decide) _).seq ((effect_write (by decide) _).seq
          ((effect_write (by decide) _).seq ((hpaint (writeTextAt_painting _ _ _ _)).seq
            (effect_enableTextComicSans.seq ((hpaint (writeTexts_painting _)).seq
              ((effect_ask (.vTaskDelay _ _) trivial).seq ((hpaint (writeTexts_painting _)).seq
                (effect_bteMove _ _ _ _ _ _ _ _ _ _)))))))))))))))).congr fun v => ?_
  change drawStep (textStep (drawStep v)) = textLeft v
  rw [textStep_drawStep]
  rfl

theorem effect_switch (next : Screen) :
    Effect oracle (fun v => modeStep v (.switchScreen next)) (loadCurrentScreen >>= fun S =>
      if S = next then pure () else match render next with
        | none => pure ()
        | some draw => draw >>= fun _ => setCurrentScreen next) := by
  intro s
  rw [run_bind]
  change Controller.view (run _ (if s.statics.currentScreen = next then pure () else _) _).2 =
    if renders s.statics.currentScreen next then _ else _
  by_cases hsame : s.statics.currentScreen = next
  · have hno : ¬ renders s.statics.currentScreen next = true := by simp [renders, hsame]
    rw [if_pos hsame, if_neg hno]
    rfl
  · rw [if_neg hsame]
    cases hdraw : render next with
    | none =>
      have hno : ¬ renders s.statics.currentScreen next = true := by simp [renders, hdraw]
      rw [if_neg hno]
      rfl
    | some draw =>
      have hyes : renders s.statics.currentScreen next = true := by simp [renders, hsame, hdraw]
      have hset : Effect oracle (fun v => { v with screen := next }) (setCurrentScreen next) :=
        fun _ => rfl
      rw [if_pos hyes]
      exact ((effect_render hdraw).seq hset) _

theorem effect_switchScreen (next : Screen) :
    Effect oracle (fun v => modeStep v (.switchScreen next)) (displaySwitchScreen next) :=
  (effect_ask (.call (.switchScreen next)) trivial).seq (effect_switch next)

theorem effect_displaySetup :
    Effect oracle (fun v => modeStep (textLeft v) (.switchScreen .debugNoRtd)) displaySetup := by
  have hconfigure : Only KeepsMode (ra8875Configure lcdTiming) := by
    have hreg : ∀ w ∈ lcdTiming.registers, w.1 ≠ 0x40 := by decide
    exact Only.forM _ _ (fun w hw => (only_perform _).mpr (hreg w hw))
  have hglyphs : Only KeepsMode displayPrecomputeGlyphs := by
    refine Only.forM _ _ (fun i _ => ?_)
    split
    · exact only_pure ()
    · exact (only_perform _).mpr trivial
  exact (effect_keepsMode hconfigure).seq ((effect_write (by decide) _).seq
    ((effect_write (by decide) _).seq ((effect_painting (setTextCursor_painting 0 0)).seq
      ((effect_keepsMode hglyphs).seq (effect_prerenderDebugRtdLabels.seq
        (effect_switchScreen .debugNoRtd))))))

theorem effect_exec (c : Call) : Effect oracle (fun v => modeStep v c) c.exec := by
  cases c with
  | enableDrawMode => exact effect_enableDrawMode
  | enableTextModeAndFont font =>
    cases font with
    | internal => exact effect_enableTextInternal
    | comicSans => exact effect_enableTextComicSans
  | drawRect x1 y1 x2 y2 color filled => exact effect_painting (drawRect_painting _ _ _ _ _ _)
  | writeTextAt x y msg => exact effect_painting (writeTextAt_painting _ _ _ _)
  | writeNumberAt x y isWholeNumber value hasManyDigits =>
    exact effect_painting (writeNumberAt_painting _ _ _ _ _)
  | switchScreen next => exact effect_switchScreen next

end Effects

def Coherent (v : ModeView) : Prop := v.flag = true ↔ v.register = 0x00

def Returned (v : ModeView) : Call → Prop
  | .enableDrawMode | .enableTextModeAndFont .comicSans => v.register = 0x00
  | .enableTextModeAndFont .internal => v.register = 0x80
  | _ => True

/-- After each of the calls the register is what the call promises, and it agrees with
    the flag from the first call on that asks for a mode. -/
def Tracked (oracle : ℕ → (o : Op) → o.Res) : Bool → List Call → Controller → Prop
  | _, [], _ => True
  | started, c :: calls, s =>
    let s' := (run (controller oracle) c.exec s).2
    let started' := started || switchesMode s.statics.currentScreen c
    (started' = true → Coherent s'.view) ∧ Returned s'.view c ∧ Tracked oracle started' calls s'

theorem switchesMode_of_selectsInternal {S : Screen} {c : Call}
    (h : selectsInternal S c = true) : switchesMode S c = true := by
  cases c with
  | enableDrawMode | enableTextModeAndFont font => rfl
  | switchScreen next => exact h
  | drawRect x1 y1 x2 y2 color filled | writeTextAt x y msg
  | writeNumberAt x y isWholeNumber value hasManyDigits => exact Bool.noConfusion h

theorem incoherent_of_internal {v : ModeView} {c : Call} (hregister : v.register = 0x00)
    (h : selectsInternal v.screen c = true) : ¬ Coherent (modeStep v c) := by
  obtain ⟨flag, register, screen⟩ := v
  obtain rfl := hregister
  cases c with
  | enableTextModeAndFont font =>
    obtain rfl : font = .internal := of_decide_eq_true h
    cases flag <;> simp [Coherent, modeStep, textStep]
  | switchScreen next =>
    have hstep : modeStep ⟨flag, 0x00, screen⟩ (.switchScreen next) = ⟨true, 0x80, next⟩ := if_pos h
    rw [hstep]
    simp [Coherent]
  | enableDrawMode | drawRect x1 y1 x2 y2 color filled | writeTextAt x y msg
  | writeNumberAt x y isWholeNumber value hasManyDigits => exact Bool.noConfusion h

/-- Once the register is in text mode with the flag up, no call brings them together again. -/
theorem modeStep_text (S : Screen) (c : Call) :
    (modeStep ⟨true, 0x80, S⟩ c).flag = true ∧ (modeStep ⟨true, 0x80, S⟩ c).register = 0x80 := by
  cases c with
  | enableTextModeAndFont font => cases font <;> exact ⟨rfl, rfl⟩
  | switchScreen next =>
    unfold modeStep
    dsimp only
    split_ifs <;> exact ⟨rfl, rfl⟩
  | enableDrawMode | drawRect x1 y1 x2 y2 color filled | writeTextAt x y msg
  | writeNumberAt x y isWholeNumber value hasManyDigits => exact ⟨rfl, rfl⟩

theorem modeStep_unswitched {v : ModeView} {c : Call} (h : switchesMode v.screen c = false) :
    modeStep v c = v ∧ Returned v c := by
  cases c with
  | enableDrawMode | enableTextModeAndFont font => exact Bool.noConfusion h
  | switchScreen next => exact ⟨if_neg (by rw [show renders v.screen next = false from h]; decide), trivial⟩
  | drawRect x1 y1 x2 y2 color filled | writeTextAt x y msg
  | writeNumberAt x y isWholeNumber value hasManyDigits => exact ⟨rfl, trivial⟩

theorem modeStep_draw {v : ModeView} {c : Call} (hswitch : switchesMode v.screen c = true)
    (hinternal : selectsInternal v.screen c = false) : modeStep v c = drawStep v := by
  cases c with
  | enableDrawMode => rfl
  | enableTextModeAndFont font =>
    cases font with
    | internal => exact Bool.noConfusion hinternal
    | comicSans => rfl
  | switchScreen next => exact absurd (hswitch.symm.trans hinternal) (by decide)
  | drawRect x1 y1 x2 y2 color filled | writeTextAt x y msg
  | writeNumberAt x y isWholeNumber value hasManyDigits => exact Bool.noConfusion hswitch

theorem returned_graphic {v : ModeView} {c : Call} (hregister : v.register = 0x00)
    (h : selectsInternal v.screen c = false) : Returned v c := by
  cases c with
  | enableDrawMode => exact hregister
  | enableTextModeAndFont font =>
    cases font with
    | internal => exact Bool.noConfusion h
    | comicSans => exact hregister
  | switchScreen next | drawRect x1 y1 x2 y2 color filled | writeTextAt x y msg
  | writeNumberAt x y isWholeNumber value hasManyDigits => exact trivial

section Runs
variable {oracle : ℕ → (o : Op) → o.Res}

theorem view_exec (oracle : ℕ → (o : Op) → o.Res) {c : Call} {s : Controller} {v v' : ModeView}
    (hv : s.view = v) (hstep : modeStep v c = v') :
    (run (controller oracle) c.exec s).2.view = v' := by
  rw [effect_exec c s, hv]
  exact hstep

theorem tracked_cons_iff {started : Bool} {c : Call} {calls : List Call} {s : Controller}
    {v : ModeView} (hv : s.view = v) :
    Tracked oracle started (c :: calls) s ↔
      ((started || switchesMode v.screen c) = true → Coherent (modeStep v c)) ∧
        Returned (modeStep v c) c ∧ Tracked oracle (started || switchesMode v.screen c) calls
          (run (controller oracle) c.exec s).2 := by
  obtain rfl := hv
  have hstep : (run (controller oracle) c.exec s).2.view = modeStep s.view c := effect_exec c s
  rw [← hstep]
  exact Iff.rfl

theorem tracked_graphic (S : Screen) (calls : List Call) {started : Bool} {s : Controller}
    (hv : s.view = ⟨true, 0x00, S⟩) :
    Tracked oracle started calls s ↔ ∀ c ∈ calls, selectsInternal S c = false := by
  induction calls generalizing started s with
  | nil => exact iff_of_true trivial (fun c hc => absurd hc List.not_mem_nil)
  | cons c calls ih =>
    rw [tracked_cons_iff hv]
    cases hinternal : selectsInternal S c with
    | true =>
      have hswitch : switchesMode S c = true := switchesMode_of_selectsInternal hinternal
      refine iff_of_false (fun h => ?_) (fun h => ?_)
      · have hstarted : (started || switchesMode S c) = true := by rw [hswitch, Bool.or_true]
        exact incoherent_of_internal (v := ⟨true, 0x00, S⟩) rfl hinternal (h.1 hstarted)
      · exact absurd (h c (List.mem_cons_self ..)) (by rw [hinternal]; decide)
    | false =>
      have hsame : modeStep ⟨true, 0x00, S⟩ c = ⟨true, 0x00, S⟩ := by
        cases hswitch : switchesMode S c with
        | true => exact modeStep_draw (v := ⟨true, 0x00, S⟩) hswitch hinternal
        | false => exact (modeStep_unswitched (v := ⟨true, 0x00, S⟩) hswitch).1
      have hnext := view_exec oracle hv hsame
      have hreturned := returned_graphic (v := ⟨true, 0x00, S⟩) rfl hinternal
      rw [hsame, List.forall_mem_cons, ih hnext]
      exact ⟨fun h => ⟨hinternal, h.2.2⟩, fun h => ⟨fun _ => iff_of_true rfl rfl, hreturned, h.2⟩⟩

theorem tracked_fresh (S : Screen) (calls : List Call) {s : Controller}
    (hv : s.view = ⟨false, 0x00, S⟩) :
    Tracked oracle false calls s ↔ ∀ c ∈ calls, selectsInternal S c = false := by
  induction calls generalizing s with
  | nil => exact iff_of_true trivial (fun c hc => absurd hc List.not_mem_nil)
  | cons c calls ih =>
    rw [tracked_cons_iff hv, Bool.false_or]
    cases hinternal : selectsInternal S c with
    | true =>
      have hswitch : switchesMode S c = true := switchesMode_of_selectsInternal hinternal
      refine iff_of_false (fun h => ?_) (fun h => ?_)
      · exact incoherent_of_internal (v := ⟨false, 0x00, S⟩) rfl hinternal (h.1 hswitch)
      · exact absurd (h c (List.mem_cons_self ..)) (by rw [hinternal]; decide)
    | false =>
      have hreturned := fun flag => returned_graphic (v := ⟨flag, 0x00, S⟩) rfl hinternal
      cases hswitch : switchesMode S c with
      | true =>
        have hdraw : modeStep ⟨false, 0x00, S⟩ c = ⟨true, 0x00, S⟩ :=
          modeStep_draw (v := ⟨false, 0x00, S⟩) hswitch hinternal
        have hnext := view_exec oracle hv hdraw
        rw [hdraw, List.forall_mem_cons, tracked_graphic S calls hnext]
        exact ⟨fun h => ⟨hinternal, h.2.2⟩,
          fun h => ⟨fun _ => iff_of_true rfl rfl, hreturned true, h.2⟩⟩
      | false =>
        have hsame := (modeStep_unswitched (v := ⟨false, 0x00, S⟩) hswitch).1
        have hnext := view_exec oracle hv hsame
        rw [hsame, List.forall_mem_cons, ih hnext]
        exact ⟨fun h => ⟨hinternal, h.2.2⟩,
          fun h => ⟨fun hstarted => Bool.noConfusion hstarted, hreturned false, h.2⟩⟩

theorem tracked_text (S : Screen) (calls : List Call) {s : Controller}
    (hv : s.view = ⟨true, 0x80, S⟩) :
    Tracked oracle false calls s ↔ ∀ c ∈ calls, switchesMode S c = false := by
  induction calls generalizing s with
  | nil => exact iff_of_true trivial (fun c hc => absurd hc List.not_mem_nil)
  | cons c calls ih =>
    rw [tracked_cons_iff hv, Bool.false_or]
    cases hswitch : switchesMode S c with
    | true =>
      obtain ⟨hflag, hregister⟩ := modeStep_text S c
      refine iff_of_false (fun h => ?_) (fun h => ?_)
      · have hzero := (h.1 rfl).mp hflag
        rw [hregister] at hzero
        exact absurd hzero (by decide)
      · exact absurd (h c (List.mem_cons_self ..)) (by rw [hswitch]; decide)
    | false =>
      obtain ⟨hsame, hreturned⟩ := modeStep_unswitched (v := ⟨true, 0x80, S⟩) hswitch
      have hnext := view_exec oracle hv hsame
      rw [hsame, List.forall_mem_cons, ih hnext]
      exact ⟨fun h => ⟨hswitch, h.2.2⟩,
        fun h => ⟨fun hstarted => Bool.noConfusion hstarted, hreturned, h.2⟩⟩

theorem run_displayInit {tries : ℕ}
    (hready : (run (controller oracle) (displayInit tries) .powerUp).1 = true) :
    (run (controller oracle) (displayInit tries) .powerUp).2.view = ⟨true, 0x80, .debugNoRtd⟩ := by
  have hinit : Effect oracle id (ra8875Init tries) := effect_keepsMode ((ra8875Init_waking tries).mono
    fun o ho => by
      cases o with
      | writeRegister reg value => rcases ho with rfl | rfl <;> simp [KeepsMode]
      | setInGraphicMode b | setCurrentScreen screen => exact ho.elim
      | _ => trivial)
  have hscreen := congrArg ModeView.screen (hinit .powerUp)
  unfold displayInit at hready ⊢
  rw [run_bind] at hready ⊢
  generalize run (controller oracle) (ra8875Init tries) .powerUp = u at hready hscreen ⊢
  obtain ⟨result, s⟩ := u
  cases result with
  | none => exact Bool.noConfusion hready
  | some _ =>
    change (run (controller oracle) (displaySetup >>= fun _ => pure true) s).2.view = _
    have hstart : s.view.screen = .mainNoLaps := hscreen
    rw [run_bind, run_pure, effect_displaySetup s]
    refine if_pos ?_
    change renders s.view.screen .debugNoRtd = true
    rw [hstart]
    rfl

end Runs

/-- From power-up the copy is right exactly as long as no call selects the internal font,
    and after `Display_Init` exactly as long as no call asks for a mode. -/
theorem mode_tracking (oracle : ℕ → (o : Op) → o.Res) (calls : List Call) (tries : ℕ) :
    (Tracked oracle false calls .powerUp ↔
      ∀ c ∈ calls, selectsInternal .mainNoLaps c = false) ∧
    ((run (controller oracle) (displayInit tries) .powerUp).1 = true →
      (Tracked oracle false calls (run (controller oracle) (displayInit tries) .powerUp).2 ↔
        ∀ c ∈ calls, switchesMode .debugNoRtd c = false)) :=
  ⟨tracked_fresh .mainNoLaps calls rfl,
    fun hready => tracked_text .debugNoRtd calls (run_displayInit hready)⟩

def quiet : ℕ → (o : Op) → o.Res := fun _ o => o.quietAnswer .initial

theorem quiet_ready : (run (controller quiet) (displayInit 1) .powerUp).1 = true := by
  have hinit : (run (controller quiet) (ra8875Init 1) .powerUp).1 = some true := rfl
  unfold displayInit
  rw [run_bind, hinit]
  exact congrArg Prod.fst (run_bind _ _ _ _)

theorem mode_tracking_run :
    Tracked quiet false [.enableDrawMode, .drawRect 0 0 10 10 255 true,
      .enableTextModeAndFont .comicSans] .powerUp ∧
    Tracked quiet false [.writeTextAt 0 0 [65]]
      (run (controller quiet) (displayInit 1) .powerUp).2 :=
  ⟨(mode_tracking quiet _ 1).1.mpr (by decide),
    ((mode_tracking quiet _ 1).2 quiet_ready).mpr (by decide)⟩

/-- After `Display_Init` the flag is up although the register is in text mode, so
    `Display_EnableDrawMode` writes nothing. -/
theorem drawMode_stays_text :
    ¬ Tracked quiet false [.enableDrawMode]
      (run (controller quiet) (displayInit 1) .powerUp).2 := by
  rw [tracked_text .debugNoRtd _ (run_displayInit quiet_ready)]
  decide

end SteeringDisplay.ModeRegister
