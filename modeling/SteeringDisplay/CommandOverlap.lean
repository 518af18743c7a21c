import SteeringDisplay.CommandTiming

set_option autoImplicit false

/-!
# No command starts while another is executing
-/
namespace SteeringDisplay.CommandOverlap
open ProgramTree ProgramInterference FirmwareInterface PanelDriver ComicSansFont DisplayScreens
open ButtonLoop Footprints LoopWorld LoopRuns MainRuns CommandPanel CommandTiming

section InTime
variable {pause : SourceFile → ℕ → ℕ} {dur : Command → ℕ → ℕ}
variable (htime : InTime pause dur)
include htime

omit htime in
theorem stable_atRest : Stable (plantSystem pause dur) AtRest := by
  rintro s t ⟨f, hs⟩ henv
  exact ⟨f, stable_stage s t hs henv⟩

omit htime in
theorem rests_perform {o : firmware.Op} (hplain : Ordinary o) (hfont : KeepsFont o) {s : Plant}
    (hs : AtRest s) : AtRest (s.perform pause dur o) := by
  obtain ⟨f, hs⟩ := hs
  exact ⟨f, endWithin_ordinary hplain hs.1, base_kept hfont hs.2⟩

omit htime in
theorem ask_rests {o : Op} (hplain : Ordinary o) (hfont : KeepsFont o) (hneeds : ¬ NeedsIdle o) :
    Timed pause dur AtRest (ask o) fun _ => AtRest := by
  refine Triple.perform stable_atRest (fun _ => stable_atRest)
    (fun s h => ⟨fun hidle => absurd hidle hneeds, fun _ _ => h⟩) ?_
  rintro s r _ hs ⟨-, -, rfl⟩
  exact rests_perform hplain hfont hs

theorem carried_atRest : Carried (plantSystem pause dur) idleGuard AtRest := by
  refine carried_of_renderers stable_atRest (fun o ho => ?_)
    (fun screen => ask_rests trivial trivial id) fun screen draw h => render_rests htime h
  cases o with
  | vTaskDelay file ms =>
    obtain rfl : file = .main := ho
    exact ask_rests (fun h => SourceFile.noConfusion h.1) trivial id
  | currentScreen | gpioIsrHandlerAdd b | togglePressed b | clearPressed b | call r =>
    exact ask_rests trivial trivial id
  | _ => exact ho.elim

omit htime in
/-- The first `Display_EnableDrawMode` writes the mode register, two clears after power-up. -/
theorem firstDrawMode_rests :
    Timed pause dur (fun s => EndWithin 0 0 s ∧ Numbered 2 s) displayEnableDrawMode
      fun _ => AtRest := by
  have hstable : ∀ b, Stable (plantSystem pause dur) fun s =>
      s.world.statics.inGraphicMode = b ∧ EndWithin 0 0 s ∧ Numbered 2 s := by
    rintro b s t ⟨hflag, hend, hcount⟩ henv
    refine ⟨?_, stable_endWithin s t hend henv, stable_numbered s t hcount henv⟩
    rcases henv with ⟨hpress⟩ | ⟨_⟩
    · cases hpress
      exact hflag
    · exact hflag
  have hload : Timed pause dur (fun s => EndWithin 0 0 s ∧ Numbered 2 s) loadInGraphicMode
      fun graphic s => s.world.statics.inGraphicMode = graphic ∧ EndWithin 0 0 s ∧ Numbered 2 s := by
    refine Triple.perform (stable_endWithin.and stable_numbered) hstable
      (fun s _ => guard_of_unstarting (o := .inGraphicMode) trivial s) ?_
    rintro s graphic _ ⟨h, hcount⟩ ⟨hgraphic, -, rfl⟩
    exact ⟨hgraphic.symm, endWithin_ordinary (o := .inGraphicMode) trivial h, hcount⟩
  refine hload.bind fun graphic => ?_
  cases graphic with
  | true =>
    refine Triple.pure (hstable true) fun s h => ⟨_, h.2.1, rfl, h.1, ?_⟩
    exact Nat.le_of_eq h.2.2.symm
  | false =>
    have hwrite : Timed pause dur (fun s => EndWithin 0 0 s ∧ Numbered 2 s)
        (ra8875WriteRegister 0x40 0x00) fun _ s => EndWithin 0 0 s ∧ Numbered 2 s := by
      refine Triple.perform (stable_endWithin.and stable_numbered)
        (fun _ => stable_endWithin.and stable_numbered)
        (fun s h => guard_idle (fun _ => Op.noConfusion) h.1) ?_
      rintro s r _ ⟨h, hcount⟩ ⟨-, -, rfl⟩
      have hplain : Ordinary (.writeRegister 0x40 0x00) := by
        unfold Ordinary
        decide
      exact ⟨endWithin_ordinary hplain h, numbered_ordinary hplain hcount⟩
    have hflag : Timed pause dur (fun s => EndWithin 0 0 s ∧ Numbered 2 s) (setInGraphicMode true)
        fun _ => AtRest := by
      refine Triple.perform (stable_endWithin.and stable_numbered) (fun _ => stable_atRest)
        (fun s _ => guard_of_unstarting (o := .setInGraphicMode true) trivial s) ?_
      rintro s r _ ⟨h, hcount⟩ ⟨-, -, rfl⟩
      exact ⟨_, endWithin_ordinary (o := .setInGraphicMode true) trivial h, rfl, rfl,
        Nat.le_of_eq hcount.symm⟩
    exact (hwrite.seq hflag).conseq (fun _ h => h.2) fun _ _ h => h

theorem prerenderDebugRtdLabels_rests :
    Timed pause dur (fun s => EndWithin 0 0 s ∧ Numbered 1 s) displayPrerenderDebugRtdLabels
      fun _ => AtRest := by
  have hreset : Timed pause dur (fun s => EndWithin 0 0 s ∧ Numbered 1 s) displayResetState
      fun _ s => EndWithin 0 0 s ∧ Numbered 2 s := resetState_timed htime.secondClear
  rw [prerender_eq]
  refine hreset.seq (firstDrawMode_rests.seq ?_)
  rintro s ⟨f, hs⟩
  have hmove := bteMove_stage (f := .comicSans) htime 0 0 layerDisplay 0 0 layerOffscreen 800 400 0 0xC
  have hdraw := (loadingPicture_stage htime (f := f)).seq (hmove.conseq
    (fun _ h => h.mono (Nat.le_refl _) (Nat.zero_le _)) fun _ _ h => h)
  exact (hdraw s hs).conseq fun _ u hu => ⟨_, hu⟩

omit htime in
theorem ra8875Init_unstarting (tries : ℕ) : Only Unstarting (ra8875Init tries) := by
  refine (ra8875Init_waking tries).mono fun o ho => ?_
  cases o with
  | writeRegister reg value => rcases ho with rfl | rfl <;> simp [Unstarting]
  | vTaskDelay file ms =>
    obtain rfl : file = .core := ho
    exact fun h => SourceFile.noConfusion h.1
  | spiBusInitialize | spiBusAddDevice | readRegister reg => exact trivial
  | _ => exact ho.elim

omit htime in
theorem configure_unstarting : Only Unstarting (ra8875Configure lcdTiming) := by
  have hreg : ∀ w ∈ lcdTiming.registers, w.1 ∉ ([0x40, 0x8E, 0x90, 0x50] : List UInt8) := by
    decide
  exact Only.forM _ _ fun w hw => write_unstarting (hreg w hw) _

/-- `Display_Init`, where five accesses follow the first clear. -/
theorem displaySetup_rests :
    Timed pause dur (fun s => EndWithin 0 0 s ∧ Numbered 0 s) displaySetup fun _ => AtRest := by
  have hglyphs : Only Unstarting displayPrecomputeGlyphs := by
    refine (precomputeGlyphs_caching glyphs).mono ?_
    rintro _ ⟨ch, buf, rfl⟩
    exact trivial
  have hbacklight : Timed pause dur (EndWithin 5 5) (ra8875SetBacklightBrightness 0xFF)
      fun _ => EndWithin 4 4 := timed_write (by decide) _
  have hcursor : Timed pause dur (EndWithin 4 4) (displaySetTextCursor 0 0) fun _ => EndWithin 0 0 :=
    setTextCursor_timed 0 0
  exact (numbered (timed_unstarting configure_unstarting) configure_unstarting).seq
    ((clear_timed htime.firstClear).seq
      ((numbered hbacklight (write_unstarting (by decide) _)).seq
        ((numbered hcursor (setTextCursor_unstarting 0 0)).seq
          ((numbered (timed_unstarting hglyphs) hglyphs).seq
            ((prerenderDebugRtdLabels_rests htime).seq
              ((carried_atRest htime).switches .debugNoRtd))))))

theorem appInit_rests (tries : ℕ) :
    Timed pause dur (fun s => EndWithin 0 0 s ∧ Numbered 0 s) (appInit tries)
      fun ready s => if ready then AtRest s else True := by
  refine (carried_atRest htime).appInit (Stable.const True) ?_
  refine (numbered (timed_unstarting (ra8875Init_unstarting tries))
    (ra8875Init_unstarting tries)).bind fun result => ?_
  cases result with
  | none => exact Triple.pure (stable_endWithin.and stable_numbered) fun _ _ => trivial
  | some _ => exact (displaySetup_rests htime).seq (Triple.pure stable_atRest fun _ h => h)

omit htime in
theorem endWithin_initial : EndWithin 0 0 Plant.initial :=
  ⟨rfl, fun _ he => absurd he List.not_mem_nil, fun _ he => absurd he List.not_mem_nil⟩

theorem plant_guarded {tries : ℕ} {o : Op} {k : o.Res → Firmware Bool} {s : Plant}
    (h : PlantReach pause dur tries (.op o k) s) : idleGuard o s := by
  have hboot : Safe (plantSystem pause dur) idleGuard (AtHead AtRest) (appInit tries) .initial :=
    (appInit_rests htime tries _ ⟨endWithin_initial, rfl⟩).conseq fun ready s hs hready => by
      rwa [hready] at hs
  have hbody : Timed pause dur AtRest loopBody (AtHead AtRest) :=
    (carried_atRest htime).loopBody.conseq (fun _ h => h) fun _ _ h _ => h
  exact Reach.guard hboot hbody h

/-- Whenever a command is started, a character sent or the mode changed, and every command
    ends in the time that the code leaves to it, no earlier command is in progress; but a
    rectangle may be where the mode is changed and `DEFAULT_DELAY` was not waited for it. -/
theorem commands_never_overlap {tries : ℕ} {o : Op} {k : o.Res → Firmware Bool} {s : Plant}
    (h : PlantReach pause dur tries (.op o k) s) (ho : NeedsIdle o) :
    ∀ e ∈ (s.panel.elapse 1).executing, (∃ value, o = .writeRegister 0x40 value) ∧
      s.undelayed = true ∧ ∃ r, e.command = .rectangle r :=
  (plant_guarded htime h).1 ho

end InTime

section Steady
variable (pause : SourceFile → ℕ → ℕ) (dur : Command → ℕ → ℕ)

def plantReply : (o : Op) → Plant → o.Res
  | .readRegister reg, s =>
    if reg = 0xF1 then (if (s.panel.elapse 1).completed then (0xFF : UInt8) else (0x00 : UInt8))
    else reply (.readRegister reg) s.world
  | o, s => reply o s.world

/-- No presses, and every command lasts until its deadline. -/
def plantSteady : Handler firmware Plant := fun o s => (plantReply o s, s.perform pause dur o)

theorem plantSteady_act (o : firmware.Op) (s : Plant) : (plantSystem pause dur).act o s
    (plantSteady pause dur o s).1 (plantSteady pause dur o s).2 := by
  refine ⟨?_, ?_, rfl⟩
  · cases o with
    | readRegister reg => trivial
    | _ => exact (steady_act anyPress _ s.world).1
  · cases o with
    | readRegister reg =>
      rintro rfl
      change (if (s.panel.elapse 1).completed then (0xFF : UInt8) else 0x00) &&& intBteCompleted ≠ 0 ↔ _
      split_ifs with hcompleted
      · exact iff_of_true (by decide) hcompleted
      · exact iff_of_false (by decide) hcompleted
    | _ => trivial

theorem plant_drives :
    Drives (plantSystem pause dur) (plantSteady pause dur) Plant.world anyPress where
  answers o s := (plantSteady_act pause dur o s).1
  performs _ _ := rfl
  conforms o s := ⟨s, .refl, plantSteady_act pause dur o s⟩
  presses s b now harmed hallow :=
    ⟨{ s with world := s.world.press b now }, .press (.mk b now harmed hallow), rfl⟩

def upToSecondClear : Firmware Unit := do
  ra8875Configure lcdTiming
  ra8875Clear
  ra8875SetBacklightBrightness 0xFF
  displaySetTextCursor 0 0
  displayPrecomputeGlyphs

variable {pause dur} {left : ℕ} {c : Command}

theorem steady_hoare {α : Type} {P : Plant → Prop} {p : Firmware α} {Q : α → Plant → Prop}
    (hp : Timed pause dur P p Q) : Hoare (plantSteady pause dur) P p Q :=
  fun s hs => Safe.run id (hp s hs) (plantSteady_act pause dur)

theorem steady_access {o : Op} (ho : Ordinary o) (hbus : OnBus o) :
    Hoare (plantSteady pause dur) (fun s => s.panel.executing = [⟨c, left + 1⟩]) (ask o)
      fun _ s => s.panel.executing = [⟨c, left⟩] := by
  refine Hoare.perform fun s hs => ?_
  refine (perform_executing ho hbus s).trans ?_
  unfold Panel.elapse
  rw [hs]
  simp

theorem steady_secondClear (hdur : dur .clear 0 = left + 5) :
    Hoare (plantSteady pause dur) (fun s => EndWithin 0 0 s ∧ Numbered 0 s) upToSecondClear
      fun _ s => s.panel.executing = [⟨.clear, left⟩] := by
  have hclear : Hoare (plantSteady pause dur) (fun s => EndWithin 0 0 s ∧ Numbered 0 s) ra8875Clear
      fun _ s => s.panel.executing = [⟨.clear, left + 5⟩] := by
    refine Hoare.perform fun s hs => ?_
    obtain ⟨h, hcount⟩ := hs
    have hstart : commandOf s.panel.regs 0x8E (0x80 ||| 0x00) = some .clear := rfl
    have hone := (perform_start pause dur hstart h).1
    rw [show s.panel.started = 0 from hcount, hdur] at hone
    exact hone
  have hwrite : ∀ (left : ℕ) (reg value : UInt8), reg ∈ 0x8B :: cursorRegisters →
      Hoare (plantSteady pause dur) (fun s => s.panel.executing = [⟨.clear, left + 1⟩])
        (ra8875WriteRegister reg value) fun _ s => s.panel.executing = [⟨.clear, left⟩] := by
    intro left reg value hreg
    have hplain : ∀ r ∈ (0x8B :: cursorRegisters : List UInt8), r ≠ 0x8E ∧ r ≠ 0x90 ∧ r ≠ 0x50 := by
      decide
    exact steady_access (o := .writeRegister reg value) (hplain reg hreg) trivial
  have hglyphs : Hoare (plantSteady pause dur) (fun s => s.panel.executing = [⟨.clear, left⟩])
      displayPrecomputeGlyphs fun _ s => s.panel.executing = [⟨.clear, left⟩] := by
    refine Hoare.of_only (precomputeGlyphs_caching glyphs) ?_
    rintro _ s ⟨ch, buf, rfl⟩ hs
    exact hs
  have hconfigure : Hoare (plantSteady pause dur) (fun s => EndWithin 0 0 s ∧ Numbered 0 s)
      (ra8875Configure lcdTiming) fun _ s => EndWithin 0 0 s ∧ Numbered 0 s :=
    steady_hoare (numbered (timed_unstarting configure_unstarting) configure_unstarting)
  exact hconfigure.seq (hclear.seq ((hwrite _ _ _ (by decide)).seq ((hwrite _ _ _ (by decide)).seq
    ((hwrite _ _ _ (by decide)).seq ((hwrite _ _ _ (by decide)).seq
      ((hwrite _ _ _ (by decide)).seq hglyphs))))))

theorem reach_secondClear (pause : SourceFile → ℕ → ℕ) (hdur : dur .clear 0 = left + 5) : ∃ f s,
    PlantReach pause dur 1 (displayPrerenderDebugRtdLabels >>= f) s ∧
      s.panel.executing = [⟨.clear, left⟩] := by
  have hconforms := (plant_drives pause dur).conforms
  have hinit : PlantReach pause dur 1 (appInit 1) .initial := Reach.start
  rw [appInit_eq] at hinit
  have hready : (run (plantSteady pause dur) (ra8875Init 1) .initial).1 = some true := rfl
  have hsetup := Reach.run hconforms hinit
  rw [hready] at hsetup
  obtain ⟨f, hf⟩ : ∃ f, setUp (some true) = upToSecondClear >>= fun _ =>
      displayPrerenderDebugRtdLabels >>= f := by
    refine ⟨fun _ => displaySwitchScreen .debugNoRtd >>= fun _ => controllerInit >>= fun _ =>
      pure true, ?_⟩
    simp only [setUp, displaySetup, upToSecondClear, bind_assoc]
  rw [hf] at hsetup
  have hidle : Hoare (plantSteady pause dur) (fun s => EndWithin 0 0 s ∧ Numbered 0 s) (ra8875Init 1)
      fun _ s => EndWithin 0 0 s ∧ Numbered 0 s :=
    steady_hoare (numbered (timed_unstarting (ra8875Init_unstarting 1)) (ra8875Init_unstarting 1))
  exact ⟨f, _, Reach.run hconforms hsetup,
    steady_secondClear hdur _ (hidle .initial ⟨endWithin_initial, rfl⟩)⟩

/-- `Toggle_DuringDrive` goes on like this after its long sleep. -/
theorem reach_rtdSwitch (htime : InTime pause dur) : ∃ f s,
    PlantReach pause dur 1 (displaySwitchScreen .debugRtd >>= f) s ∧ AtRest s ∧
      s.world.statics.currentScreen = .warn := by
  have hd := plant_drives pause dur
  have hready : (run (plantSteady pause dur) (ra8875Init 1) .initial).1 = some true := rfl
  have hmode := (hd.boot rfl hready).press hd .mode 200001 (by decide) (by simp [anyPress])
  have hsub := (hmode.pass hd).press hd .submode 200001 (by decide) (by simp [anyPress])
  have hagain := (hsub.pass hd).press hd .submode 400002 (by decide) (by simp [anyPress])
  obtain ⟨_, _, _, hdrive⟩ := hagain.submode hd (by decide) (by decide) (by decide)
  obtain ⟨_, _, s, hs, -, hwarn, -, -⟩ := hdrive.warned hd
  exact ⟨_, s, hs, (plant_guarded htime hs).2 (.switchScreen .debugRtd) rfl, hwarn⟩

theorem reach_rtd (htime : InTime pause dur) : ∃ f s,
    PlantReach pause dur 1 (displayUsePrerenderedDebugRtd >>= f) s ∧ AtRest s := by
  obtain ⟨f, s, hs, hrest, hwarn⟩ := reach_rtdSwitch htime
  have hsplit : displaySwitchScreen .debugRtd >>= f =
      (called (.switchScreen .debugRtd) >>= fun _ => loadCurrentScreen) >>= fun S =>
        (if S = .debugRtd then pure ()
          else displayUsePrerenderedDebugRtd >>= fun _ => setCurrentScreen .debugRtd) >>= f := by
    simp only [displaySwitchScreen, bind_assoc]
    rfl
  have hcall : Hoare (plantSteady pause dur)
      (fun s => AtRest s ∧ s.world.statics.currentScreen = .warn)
      (called (.switchScreen .debugRtd)) fun _ s => AtRest s ∧ s.world.statics.currentScreen = .warn :=
    Hoare.perform fun s hs =>
      ⟨rests_perform (o := .call (.switchScreen .debugRtd)) trivial trivial hs.1, hs.2⟩
  have hload : Hoare (plantSteady pause dur)
      (fun s => AtRest s ∧ s.world.statics.currentScreen = .warn)
      loadCurrentScreen fun S s => S = .warn ∧ AtRest s :=
    Hoare.perform fun s hs => ⟨hs.2, rests_perform (o := .currentScreen) trivial trivial hs.1⟩
  rw [hsplit] at hs
  have hdraw := Reach.run (plant_drives pause dur).conforms hs
  obtain ⟨hscreen, hrests⟩ := (hcall.seq hload) s ⟨hrest, hwarn⟩
  rw [hscreen, if_neg (by decide), bind_assoc] at hdraw
  exact ⟨_, _, hdraw, hrests⟩

def upToLastBorder : Firmware Unit := do
  displayResetState
  ra8875BteMove 0 0 layerOffscreen 0 0 layerDisplay 800 400 0 0xC
  displayEnableDrawMode
  displayDrawBorders debugBordersRtd.dropLast
  aimRect 700 360 701 480 colorWhite

theorem upToLastBorder_timed {f : DisplayFont} (htime : InTime pause dur) :
    Timed pause dur (Stage f 0 0) upToLastBorder fun _ s =>
      (EndWithin 0 0 s ∧ cornersOf s.panel.regs = ⟨700, 360, 701, 480⟩) ∧ Base f s := by
  have hborders : Timed pause dur (Stage f 0 0) (displayDrawBorders debugBordersRtd.dropLast)
      fun _ => Stage f 11 0 :=
    (borders_stage htime (by decide) (by decide)).conseq
      (fun _ h => h.mono (Nat.zero_le 11) (Nat.le_refl 0)) fun _ _ h => h
  have hpaint : Only Painting (aimRect 700 360 701 480 colorWhite) :=
    (setCorners_painting _ _ _ _).bind fun _ => (write_painting (by decide) _).bind fun _ =>
      (write_painting (by decide) _).bind fun _ => write_painting (by decide) _
  have haim : Timed pause dur (Stage f 11 0) (aimRect 700 360 701 480 colorWhite) _ :=
    based (aimRect_timed _ _ _ _ _) (hpaint.mono fun _ => keepsFont_of_painting)
  exact (resetState_stage htime).seq ((bteMove_stage htime _ _ _ _ _ _ _ _ _ _).seq
    (enableDrawMode_stage.seq (hborders.seq haim)))

theorem usePrerenderedDebugRtd_eq : displayUsePrerenderedDebugRtd =
    upToLastBorder >>= fun _ => ra8875WriteRegister 0x90 0xB0 >>= fun _ =>
      displayEnableTextModeAndFont .internal >>= fun _ => writeValues debugRtdValues := by
  have hborders : displayDrawBorders debugBordersRtd = displayDrawBorders debugBordersRtd.dropLast >>=
      fun _ => displayDrawRect 700 360 701 480 colorWhite true :=
    drawBorders_concat debugBordersRtd.dropLast ⟨700, 360, 701, 480⟩
  unfold displayUsePrerenderedDebugRtd
  rw [hborders]
  simp only [upToLastBorder, displayDrawRect, drawRect_eq, bind_assoc]
  rfl

def LastBorder (left : ℕ) (s : Plant) : Prop :=
  s.panel.executing = [⟨.rectangle ⟨700, 360, 701, 480⟩, left⟩] ∧
    s.world.statics.inGraphicMode = true

theorem steady_lastBorder {f : DisplayFont}
    (hdur : ∀ n, dur (.rectangle ⟨700, 360, 701, 480⟩) n = left) : Hoare (plantSteady pause dur)
      (fun s => (EndWithin 0 0 s ∧ cornersOf s.panel.regs = ⟨700, 360, 701, 480⟩) ∧ Base f s)
      (ra8875WriteRegister 0x90 0xB0) fun _ => LastBorder left := by
  refine Hoare.perform fun s hs => ?_
  obtain ⟨⟨h, hcorners⟩, hbase⟩ := hs
  have hstart : commandOf s.panel.regs 0x90 0xB0 = some (.rectangle ⟨700, 360, 701, 480⟩) := by
    rw [← hcorners]
    rfl
  have hone := (perform_start pause dur hstart h).1
  rw [hdur] at hone
  exact ⟨hone, hbase.2.1⟩

theorem reach_textMode (htime : InTime pause dur)
    (hdur : ∀ n, dur (.rectangle ⟨700, 360, 701, 480⟩) n = left) : ∃ k s,
      PlantReach pause dur 1 (.op (.writeRegister 0x40 0x80) k) s ∧
        s.panel.executing = [⟨.rectangle ⟨700, 360, 701, 480⟩, left⟩] := by
  obtain ⟨f, s, hs, font, hrest⟩ := reach_rtd htime
  have hfont : Hoare (plantSteady pause dur) (LastBorder left) (setCurrentFont .internal)
      fun _ => LastBorder left := Hoare.perform fun s hs => hs
  have hload : Hoare (plantSteady pause dur) (LastBorder left) loadInGraphicMode
      fun graphic s => graphic = true ∧ LastBorder left s := Hoare.perform fun s hs => ⟨hs.2, hs⟩
  have hprefix := (steady_hoare (upToLastBorder_timed (f := font) htime)).seq
    ((steady_lastBorder hdur).seq (hfont.seq hload))
  obtain ⟨g, hg⟩ : ∃ g : Unit → Firmware Bool, displayUsePrerenderedDebugRtd >>= f =
      (upToLastBorder >>= fun _ => ra8875WriteRegister 0x90 0xB0 >>= fun _ =>
        setCurrentFont .internal >>= fun _ => loadInGraphicMode) >>= fun graphic =>
          (if graphic then ra8875WriteRegister 0x40 0x80 else pure ()) >>= g := by
    refine ⟨fun _ => displayForegroundWhite >>= fun _ => displayInternalFontSize fontSizeTriple >>=
      fun _ => writeValues debugRtdValues >>= f, ?_⟩
    rw [usePrerenderedDebugRtd_eq]
    simp only [displayEnableTextModeAndFont, leaveGraphicMode, bind_assoc]
  rw [hg] at hs
  have hwrite := Reach.run (plant_drives pause dur).conforms hs
  obtain ⟨hgraphic, hborder⟩ := hprefix s hrest
  rw [hgraphic, if_pos rfl] at hwrite
  exact ⟨_, _, hwrite, hborder.1⟩

/-- Every command takes all the time that the code leaves to it. -/
def slowest (pause : SourceFile → ℕ → ℕ) : Command → ℕ → ℕ
  | .clear, 0 => 5
  | .clear, 1 => 7
  | .clear, _ + 2 => 18
  | .rectangle r, _ => slack pause r
  | .transfer, _ => (maxPolls - 1) * (1 + pause .bte 1)

theorem slowest_inTime (pause : SourceFile → ℕ → ℕ) : InTime pause (slowest pause) where
  firstClear := Nat.le_refl _
  secondClear := Nat.le_refl _
  clears _ := Nat.le_refl _
  rectangles _ _ := Nat.le_refl _
  transfers _ := Nat.le_refl _

end Steady

theorem commands_never_overlap_run : ∃ k s,
    PlantReach (fun _ ms => ms) (slowest fun _ ms => ms) 1 (.op (.writeRegister 0x8E 0x80) k) s ∧
      s.panel.executing = [⟨.clear, 0⟩] ∧
      ∀ e ∈ (s.panel.elapse 1).executing,
        (∃ value, Op.writeRegister 0x8E 0x80 = .writeRegister 0x40 value) ∧
          s.undelayed = true ∧ ∃ r, e.command = .rectangle r := by
  have htime : InTime (fun _ ms => ms) (slowest fun _ ms => ms) := slowest_inTime _
  have hdur : slowest (fun _ ms => ms) .clear 0 = 0 + 5 := rfl
  obtain ⟨f, s, hs, hone⟩ := reach_secondClear _ hdur
  exact ⟨_, s, hs, hone, commands_never_overlap htime hs (Or.inr ⟨by decide, Or.inl rfl⟩)⟩

def slowClears : Command → ℕ → ℕ
  | .clear, _ => 6
  | .rectangle _, _ | .transfer, _ => 0

/-- The second clear may come while the first one executes. And even where every command ends
    in time, the text mode of `Display_UsePrerenderedDebugRTD`, which has no delay before it,
    comes while a border is drawn. -/
theorem slow_commands_overlap :
    (∃ k s, PlantReach (fun _ ms => ms) slowClears 1
      (.op (.writeRegister 0x8E 0x80) k) s ∧ (s.panel.elapse 1).executing = [⟨.clear, 0⟩]) ∧
    ∃ k s, PlantReach (fun _ ms => ms) (slowest fun _ ms => ms) 1
      (.op (.writeRegister 0x40 0x80) k) s ∧
        (s.panel.elapse 1).executing = [⟨.rectangle ⟨700, 360, 701, 480⟩, 10⟩] := by
  have hlater : ∀ {s : Plant} {c : Command} {left : ℕ}, s.panel.executing = [⟨c, left + 1⟩] →
      (s.panel.elapse 1).executing = [⟨c, left⟩] := by
    intro s c left h
    unfold Panel.elapse
    rw [h]
    simp
  have hdur : slowClears .clear 0 = 1 + 5 := rfl
  obtain ⟨f, s, hs, hclear⟩ := reach_secondClear _ hdur
  have hlast : ∀ n, slowest (fun _ ms => ms) (.rectangle ⟨700, 360, 701, 480⟩) n = 10 + 1 :=
    fun _ => rfl
  obtain ⟨k, u, hu, hborder⟩ := reach_textMode (slowest_inTime fun _ ms => ms) hlast
  exact ⟨⟨_, s, hs, hlater hclear⟩, k, u, hu, hlater hborder⟩

end SteeringDisplay.CommandOverlap
