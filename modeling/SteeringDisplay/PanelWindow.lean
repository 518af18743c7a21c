import SteeringDisplay.GlyphSpans
import SteeringDisplay.MainRuns

set_option autoImplicit false

/-!
# What is drawn, and the active window

`RA8875_configure` sets the active window to 0..799 by 0..479, corners included.
The glyph renderer gives inclusive corners. The tables of borders and bars give the
far corner one past the end.
-/
namespace SteeringDisplay.PanelWindow
open ProgramTree FirmwareInterface PanelDriver ComicSansFont NumberFormat DisplayScreens
open ButtonLoop Footprints ModeRegister WriteLayer PanelRegisters RectanglePlotter GlyphSpans MainRuns

def OnPanel (r : Rectangle) : Prop := r.x1 ≤ r.x2 ∧ r.x2 ≤ 799 ∧ r.y1 ≤ r.y2 ∧ r.y2 ≤ 479

instance (r : Rectangle) : Decidable (OnPanel r) := inferInstanceAs (Decidable (_ ∧ _))

def bar (x1 y1 x2 y2 : ℕ) (color : UInt8) : Rectangle := ⟨x1, y1, x2, y2, pixelOf color, true⟩

def border (l : LineSpec) : Rectangle :=
  bar l.x1.toNat l.y1.toNat l.x2.toNat l.y2.toNat colorWhite

def requested : List Rectangle :=
  [bar 0 90 800 180 colorRed, bar 0 170 800 240 colorRed, bar 200 170 600 240 colorRed,
   bar 0 415 800 480 colorYellow, bar 0 0 800 480 colorRed] ++
  (mainBordersNoLaps ++ mainBordersLaps ++ debugBordersRtd ++ debugBordersNoRtd).map border

/-- The far corner is one past the end of the panel. -/
def pastTheEnd : List Rectangle := requested.filter fun r => r.x2 = 800 ∨ r.y2 = 480

def Allowed (r : Rectangle) : Prop := OnPanel r ∨ r ∈ pastTheEnd

instance (r : Rectangle) : Decidable (Allowed r) := inferInstanceAs (Decidable (_ ∨ _))

theorem allowed_requested : ∀ r ∈ requested, Allowed r := by decide

theorem pastTheEnd_outside : ∀ r ∈ pastTheEnd, r.x1 ≤ r.x2 ∧ r.y1 ≤ r.y2 ∧ ¬ OnPanel r := by
  decide

theorem pastTheEnd_large : ∀ r ∈ pastTheEnd, r.x1 + 1 < r.x2 ∨ r.y1 + 31 < r.y2 := by decide

theorem spansOf_within {lit : ℕ → ℕ → Bool} {X Y : ℕ} : ∀ r ∈ spansOf lit X Y,
    X ≤ r.x1 ∧ r.x2 = r.x1 + 1 ∧ r.x2 ≤ X + 15 ∧ Y ≤ r.y1 ∧ r.y1 ≤ r.y2 ∧ r.y2 ≤ Y + 31 := by
  intro r hr
  obtain ⟨col, hcol, a, b, hrun, rfl⟩ := mem_spansOf.mp hr
  have hle := hrun.le
  have hlt := hrun.lt
  simp only [spanOf, true_and]
  omega

def CellsFit (x y : UInt16) (msg : List UInt8) : Prop :=
  x.toNat + advances (shown glyphs msg) ≤ 1000 ∧ y.toNat + 31 ≤ 479 ∧
    ∀ c ∈ placed x.toNat (shown glyphs msg), c.1 + 15 ≤ 799

instance (x y : UInt16) (msg : List UInt8) : Decidable (CellsFit x y msg) :=
  inferInstanceAs (Decidable (_ ∧ _))

theorem CellsFit.allowed {x y : UInt16} {msg : List UInt8} (h : CellsFit x y msg)
    (cache : UInt8 → GlyphBuffer) :
    ∀ r ∈ textSpans cache x.toNat y.toNat (shown glyphs msg), Allowed r := by
  intro r hr
  obtain ⟨c, hc, hspan⟩ := List.mem_flatMap.mp hr
  have hright := h.2.2 c hc
  have hwithin := spansOf_within r hspan
  refine Or.inl ⟨?_, ?_, ?_, ?_⟩ <;> have := h.2.1 <;> omega

/-- What is drawn so far is allowed, and the font is the one that is said. -/
def Within (font : Option DisplayFont) (s : Controller × Plotter) : Prop :=
  (∀ r ∈ s.2.drawn, Allowed r) ∧ ∀ f ∈ font, s.1.statics.currentFont = f

def Rectless : firmware.Op → Prop
  | .writeRegister reg _ => reg ≠ 0x90
  | .writeData _ | .setCurrentFont _ => False
  | _ => True

section Renderers
variable {oracle : ℕ → (o : Op) → o.Res} {α : Type} {font : Option DisplayFont}

def Keeps (oracle : ℕ → (o : Op) → o.Res) (font : Option DisplayFont) (p : Firmware α) : Prop :=
  Hoare (monitored (controller oracle) Plotter.step) (Within font) p fun _ => Within font

theorem drawn_rectless (o : firmware.Op) (ho : Rectless o) (s : Controller × Plotter) :
    (monitored (controller oracle) Plotter.step o s).2.2.drawn = s.2.drawn := by
  have hstarted : started s.2.registers o = [] := by
    cases o with
    | writeRegister reg value => exact if_neg fun h => ho h.1
    | writeData value => exact ho.elim
    | _ => rfl
  change s.2.drawn ++ started s.2.registers o = s.2.drawn
  rw [hstarted, List.append_nil]

theorem within_rectless (o : firmware.Op) (ho : Rectless o) {s : Controller × Plotter}
    (hs : Within font s) :
    Within font (monitored (controller oracle) Plotter.step o s).2 := by
  have hfont : (s.1.statics.store o).currentFont = s.1.statics.currentFont := by
    cases o with
    | setCurrentFont f => exact ho.elim
    | _ => rfl
  refine ⟨?_, fun f hf => hfont.trans (hs.2 f hf)⟩
  rw [drawn_rectless o ho]
  exact hs.1

theorem keeps_rectless {p : Firmware α} (hp : Only Rectless p) : Keeps oracle font p :=
  Hoare.of_only hp fun o _ ho hs => within_rectless o ho hs

theorem keeps_draws {p : Firmware α} {rs : List Rectangle} {Q : Registers → Prop}
    (hp : Draws oracle (fun _ => True) p rs Q) (hrs : ∀ r ∈ rs, Allowed r) :
    Keeps oracle font p := by
  intro s hs
  obtain ⟨hdrawn, -, hstatics⟩ := hp s trivial
  refine ⟨?_, fun f hf => by rw [hstatics]; exact hs.2 f hf⟩
  rw [hdrawn]
  exact fun r hr => (List.mem_append.mp hr).elim (hs.1 r) (hrs r)

theorem keeps_drawRect {x1 y1 x2 y2 : UInt16} {color : UInt8}
    (hr : bar x1.toNat y1.toNat x2.toNat y2.toNat color ∈ requested) :
    Keeps oracle font (displayDrawRect x1 y1 x2 y2 color true) :=
  keeps_draws (draws_drawRect x1 y1 x2 y2 color true) fun r hmem => by
    obtain rfl := List.mem_singleton.mp hmem
    exact allowed_requested _ hr

theorem keeps_drawBorders {lines : List LineSpec} (hlines : ∀ l ∈ lines, border l ∈ requested) :
    Keeps oracle font (displayDrawBorders lines) :=
  Hoare.forM _ _ fun l hl => keeps_drawRect (hlines l hl)

theorem setFont_within (f : DisplayFont) :
    Hoare (monitored (controller oracle) Plotter.step) (Within font) (setCurrentFont f)
      fun _ => Within (some f) := by
  intro s hs
  refine ⟨?_, fun f' hf => Option.some.inj hf⟩
  change ∀ r ∈ s.2.drawn ++ [], Allowed r
  rw [List.append_nil]
  exact hs.1

theorem keeps_sendCharacters (msg : List UInt8) :
    Hoare (monitored (controller oracle) Plotter.step)
      (fun s => Within font s ∧ s.2.registers.latch = 0x02) (sendCharacters msg)
      fun _ => Within font := by
  induction msg with
  | nil => exact fun s hs => hs.1
  | cons ch msg ih =>
    unfold sendCharacters
    split_ifs
    · exact fun s hs => hs.1
    · refine Hoare.seq (Hoare.perform fun s hboth => ?_) ih
      obtain ⟨hs, hport⟩ := hboth
      have hstarted : startedBy s.2.registers s.2.registers.latch ch = [] := by
        rw [hport]
        exact if_neg fun h => absurd h.1 (by decide)
      have hdata : s.2.registers.data ch = s.2.registers := if_pos hport
      refine ⟨⟨?_, hs.2⟩, ?_⟩
      · change ∀ r ∈ s.2.drawn ++ startedBy s.2.registers s.2.registers.latch ch, Allowed r
        rw [hstarted, List.append_nil]
        exact hs.1
      · change (s.2.registers.data ch).latch = 0x02
        rw [hdata]
        exact hport

theorem write_rectless {reg : UInt8} (hreg : reg ≠ 0x90) (value : UInt8) :
    Only Rectless (ra8875WriteRegister reg value) :=
  (only_perform _).mpr hreg

theorem internalFontSize_rectless (size : UInt8) : Only Rectless (displayInternalFontSize size) :=
  (write_rectless (by decide) _).bind fun _ => (write_rectless (by decide) _).bind fun _ =>
    write_rectless (by decide) _

theorem arranging_rectless {p : Firmware α} (hp : Only Arranging p) : Only Rectless p := by
  refine hp.mono fun o ho => ?_
  cases o with
  | writeRegister reg value =>
    have hreg : reg ∈ arrangeRegisters := ho
    rintro rfl
    exact absurd hreg (by decide)
  | writeData value | setCurrentFont f => exact ho
  | _ => trivial

theorem keeps_arranging {p : Firmware α} (hp : Only Arranging p) : Keeps oracle font p :=
  keeps_rectless (arranging_rectless hp)

theorem delay_rectless (file : SourceFile) (ms : ℕ) : Only Rectless (vTaskDelay file ms) :=
  (only_perform _).mpr trivial

theorem enableText_within (f : DisplayFont) :
    Hoare (monitored (controller oracle) Plotter.step) (Within font)
      (displayEnableTextModeAndFont f) fun _ => Within (some f) := by
  refine (setFont_within f).seq ?_
  cases f with
  | internal =>
    exact (keeps_arranging leaveGraphicMode_arranging).seq
      ((keeps_arranging foregroundWhite_arranging).seq
        (keeps_rectless (internalFontSize_rectless _)))
  | comicSans => exact keeps_arranging enableDrawMode_arranging

theorem keeps_internalText (x y : UInt16) (msg : List UInt8) :
    Keeps oracle (some .internal) (displayWriteTextAt x y msg) := by
  have hload : Hoare (monitored (controller oracle) Plotter.step) (Within (some .internal))
      loadCurrentFont fun f s => f = .internal ∧ Within (some .internal) s :=
    fun s hs => ⟨hs.2 .internal rfl, within_rectless .currentFont trivial hs⟩
  refine hload.bind fun f => ?_
  have hport : Hoare (monitored (controller oracle) Plotter.step) (Within (some .internal))
      (ra8875WriteCommand 0x02)
      fun _ s => Within (some .internal) s ∧ s.2.registers.latch = 0x02 :=
    fun s hs => ⟨within_rectless (.writeCommand 0x02) trivial hs, rfl⟩
  cases f with
  | internal =>
    have hsend := (keeps_arranging (setTextCursor_arranging x y)).seq
      (hport.seq (keeps_sendCharacters msg))
    exact hsend.conseq (fun _ hs => hs.2) fun _ _ hs => hs
  | comicSans => exact fun s hs => DisplayFont.noConfusion hs.1

theorem keeps_comicSansText {x y : UInt16} {msg : List UInt8} (h : CellsFit x y msg) :
    Keeps oracle (some .comicSans) (displayWriteTextAt x y msg) := by
  intro s hs
  have hx := h.1
  have hy := h.2.1
  have hrun : (run (monitored (controller oracle) Plotter.step) (displayWriteTextAt x y msg) s).2.2.drawn =
      _ ∧ _ := run_writeTextAt (hs.2 .comicSans rfl) (by omega) (by omega)
  refine ⟨?_, fun f hf => ?_⟩
  · rw [hrun.1]
    exact fun r hr => (List.mem_append.mp hr).elim (hs.1 r) (h.allowed _ r)
  · exact (congrArg Statics.currentFont hrun.2).trans (hs.2 f hf)

theorem keeps_labels {texts : List TextSpec} (h : ∀ t ∈ texts, CellsFit t.x t.y (cstring t.msg)) :
    Keeps oracle (some .comicSans) (writeTexts texts) :=
  Hoare.forM _ _ fun t ht => keeps_comicSansText (h t ht)

theorem keeps_snprintf (size : ℕ) (format : Format) (value : CFloat) :
    Keeps oracle font (snprintf size format value) := by
  cases format with
  | d => exact keeps_rectless ⟨trivial, fun _ => trivial⟩
  | f precision => exact keeps_rectless (only_pure _)

theorem keeps_number (x y : UInt16) (isWholeNumber : Bool) (value : CFloat)
    (hasManyDigits : Bool) : Keeps oracle (some .internal)
      (displayWriteNumberAt x y isWholeNumber value hasManyDigits) := by
  unfold displayWriteNumberAt
  split_ifs
  · exact (keeps_snprintf _ _ _).bind fun _ => keeps_internalText _ _ _
  · exact (keeps_snprintf _ _ _).bind fun _ => keeps_internalText _ _ _
  · exact (keeps_snprintf _ _ _).bind fun _ => keeps_internalText _ _ _

theorem keeps_values (values : List ValueSpec) :
    Keeps oracle (some .internal) (writeValues values) := by
  refine Hoare.forM _ _ fun v _ => ?_
  cases v with
  | float x y | manyDigits x y | whole x y => exact keeps_number _ _ _ _ _
  | text x y msg => exact keeps_internalText _ _ _

theorem keeps_valuesLast (values : List ValueSpec) :
    Hoare (monitored (controller oracle) Plotter.step) (Within font)
      (displayEnableTextModeAndFont .internal >>= fun _ => writeValues values)
      fun _ => Within none :=
  ((enableText_within .internal).seq (keeps_values values)).conseq (fun _ hs => hs)
    fun _ _ hs => ⟨hs.1, fun _ hf => absurd hf (by simp)⟩

theorem keeps_renderMainScreen (isLaps : Bool) :
    Keeps oracle none (displayRenderMainScreen isLaps) := by
  have hbar : Keeps oracle none (mainBar isLaps) := by
    cases isLaps
    · exact keeps_drawRect (by decide)
    · exact keeps_drawRect (by decide)
  have hborders : Keeps oracle none
      (displayDrawBorders (if isLaps then mainBordersLaps else mainBordersNoLaps)) := by
    cases isLaps
    · exact keeps_drawBorders (by decide)
    · exact keeps_drawBorders (by decide)
  have hlabels : Keeps oracle (some .comicSans) (writeTexts (mainLabels isLaps)) := by
    cases isLaps
    · exact keeps_labels (by decide)
    · exact keeps_labels (by decide)
  exact (keeps_arranging resetState_arranging).seq ((keeps_arranging enableDrawMode_arranging).seq
    (hbar.seq (hborders.seq ((keeps_rectless (delay_rectless _ _)).seq
      ((enableText_within .comicSans).seq (hlabels.seq (keeps_valuesLast _)))))))

theorem keeps_renderStaticDebugScreen : Keeps oracle none displayRenderStaticDebugScreen :=
  (keeps_arranging resetState_arranging).seq ((keeps_arranging enableDrawMode_arranging).seq
    ((keeps_drawBorders (by decide)).seq ((enableText_within .comicSans).seq
      ((keeps_labels (by decide)).seq ((keeps_rectless (delay_rectless _ _)).seq
        ((keeps_labels (by decide)).seq (keeps_valuesLast _)))))))

theorem keeps_usePrerenderedDebugRtd : Keeps oracle none displayUsePrerenderedDebugRtd :=
  (keeps_arranging resetState_arranging).seq ((keeps_arranging (bteMove_arranging _ _ _ _ _ _ _ _ _ _)).seq
    ((keeps_arranging enableDrawMode_arranging).seq ((keeps_drawBorders (by decide)).seq
      (keeps_valuesLast _))))

theorem keeps_warn : Keeps oracle none displayWarn := by
  have hdraw : Hoare (monitored (controller oracle) Plotter.step) (Within none) displayWarn
      fun _ => Within (some .internal) :=
    (keeps_arranging resetState_arranging).seq ((keeps_arranging enableDrawMode_arranging).seq
      ((keeps_drawRect (by decide)).seq ((keeps_rectless (delay_rectless _ _)).seq
        ((enableText_within .internal).seq ((keeps_rectless (internalFontSize_rectless _)).seq
          ((keeps_arranging foregroundWhite_arranging).seq (keeps_internalText _ _ _)))))))
  exact hdraw.conseq (fun _ hs => hs) fun _ _ hs => ⟨hs.1, fun _ hf => absurd hf (by simp)⟩

theorem keeps_prerenderDebugRtdLabels : Keeps oracle none displayPrerenderDebugRtdLabels := by
  have hdraw : Hoare (monitored (controller oracle) Plotter.step) (Within none)
      displayPrerenderDebugRtdLabels fun _ => Within (some .comicSans) :=
    (keeps_arranging resetState_arranging).seq ((keeps_arranging enableDrawMode_arranging).seq
      ((keeps_drawRect (by decide)).seq ((keeps_drawRect (by decide)).seq
        ((keeps_rectless (delay_rectless _ _)).seq ((enableText_within .internal).seq
          ((keeps_rectless (internalFontSize_rectless _)).seq
            ((keeps_rectless (write_rectless (by decide) _)).seq
              ((keeps_rectless (write_rectless (by decide) _)).seq
                ((keeps_rectless (write_rectless (by decide) _)).seq
                  ((keeps_internalText _ _ _).seq ((enableText_within .comicSans).seq
                    ((keeps_labels (by decide)).seq ((keeps_rectless (delay_rectless _ _)).seq
                      ((keeps_labels (by decide)).seq
                        (keeps_arranging (bteMove_arranging _ _ _ _ _ _ _ _ _ _))))))))))))))))
  exact hdraw.conseq (fun _ hs => hs) fun _ _ hs => ⟨hs.1, fun _ hf => absurd hf (by simp)⟩

theorem kept_within :
    Kept (monitored (controller oracle) Plotter.step) (Within none) where
  steering o s ho hs := by
    refine within_rectless o ?_ hs
    cases o with
    | writeRegister reg value | writeData value | setCurrentFont f => exact ho.elim
    | _ => trivial
  assigns screen s hs := within_rectless (.setCurrentScreen screen) trivial hs
  renderers screen draw hdraw := by
    cases screen with
    | mainNoLaps | mainLaps =>
      obtain rfl := Option.some.inj hdraw
      exact keeps_renderMainScreen _
    | debugRtd =>
      obtain rfl := Option.some.inj hdraw
      exact keeps_usePrerenderedDebugRtd
    | debugNoRtd =>
      obtain rfl := Option.some.inj hdraw
      exact keeps_renderStaticDebugScreen
    | warn =>
      obtain rfl := Option.some.inj hdraw
      exact keeps_warn
    | other value outside => simp [render] at hdraw

theorem ra8875Init_rectless (tries : ℕ) : Only Rectless (ra8875Init tries) := by
  refine (ra8875Init_waking tries).mono fun o ho => ?_
  cases o with
  | writeRegister reg value => rcases ho with rfl | rfl <;> simp [Rectless]
  | writeData value | setCurrentFont f => exact ho.elim
  | _ => trivial

theorem keeps_displaySetup : Keeps oracle none displaySetup := by
  have hconfigure : Only Rectless (ra8875Configure lcdTiming) := by
    have hreg : ∀ w ∈ lcdTiming.registers, w.1 ≠ 0x90 := by decide
    exact Only.forM _ _ fun w hw => write_rectless (hreg w hw) _
  have hglyphs : Only Rectless displayPrecomputeGlyphs := by
    refine Only.forM _ _ fun i _ => ?_
    split
    · exact only_pure ()
    · exact (only_perform _).mpr trivial
  exact (keeps_rectless hconfigure).seq ((keeps_rectless (write_rectless (by decide) _)).seq
    ((keeps_rectless (write_rectless (by decide) _)).seq
      ((keeps_arranging (setTextCursor_arranging 0 0)).seq ((keeps_rectless hglyphs).seq
        (keeps_prerenderDebugRtdLabels.seq (kept_within.switchScreen .debugNoRtd))))))

theorem keeps_appMain (tries passes : ℕ) : Keeps oracle none (appMain tries passes) := by
  refine kept_within.appMain tries passes ?_ fun _ hs => hs
  refine Hoare.conseq (Q := fun _ => Within none) ?_ (fun _ hs => hs) fun ready s hs => by
    rw [ite_self]
    exact hs
  refine (keeps_rectless (ra8875Init_rectless tries)).bind fun result => ?_
  cases result with
  | none => exact Hoare.pure fun _ hs => hs
  | some _ => exact keeps_displaySetup.seq (Hoare.pure fun _ hs => hs)

theorem keeps_drawn (r : Rectangle) (p : Firmware α) :
    Hoare (monitored (controller oracle) Plotter.step) (r ∈ ·.2.drawn) p
      fun _ => (r ∈ ·.2.drawn) :=
  Hoare.of_step fun _ _ hs => List.mem_append_left _ hs

theorem hoare_true {σ : Type} {h : Handler firmware σ} (p : Firmware α) :
    Hoare h (fun _ => True) p fun _ _ => True := fun _ _ => trivial

theorem displaySetup_yellow :
    Hoare (monitored (controller oracle) Plotter.step) (fun _ => True) displaySetup
      fun _ => (bar 0 415 800 480 colorYellow ∈ ·.2.drawn) := by
  have hbox : Hoare (monitored (controller oracle) Plotter.step) (fun _ => True)
      (displayDrawRect 0 415 800 480 colorYellow true)
      fun _ => (bar 0 415 800 480 colorYellow ∈ ·.2.drawn) := by
    intro s hs
    have hdraw : Draws oracle (fun _ => True)
        (displayDrawRect 0 415 800 480 colorYellow true) _ _ := draws_drawRect _ _ _ _ _ _
    rw [(hdraw s trivial).1]
    exact List.mem_append_right _ (List.mem_singleton.mpr rfl)
  have hlabels : Hoare (monitored (controller oracle) Plotter.step) (fun _ => True)
      displayPrerenderDebugRtdLabels fun _ => (bar 0 415 800 480 colorYellow ∈ ·.2.drawn) :=
    (hoare_true _).seq ((hoare_true _).seq ((hoare_true _).seq (hbox.seq (keeps_drawn _ _))))
  exact (hoare_true _).seq ((hoare_true _).seq ((hoare_true _).seq ((hoare_true _).seq
    ((hoare_true _).seq (hlabels.seq (keeps_drawn _ _))))))

def drawnBy (oracle : ℕ → (o : Op) → o.Res) (tries passes : ℕ) : List Rectangle :=
  rectangles .powerUp (trace (controller oracle) (appMain tries passes) .powerUp)

theorem drawnBy_eq (tries passes : ℕ) : drawnBy oracle tries passes =
    (run (monitored (controller oracle) Plotter.step) (appMain tries passes)
      (.powerUp, ⟨.powerUp, []⟩)).2.2.drawn :=
  rectangles_trace rfl

theorem allowed_drawnBy (tries passes : ℕ) : ∀ r ∈ drawnBy oracle tries passes, Allowed r := by
  have hkept : Keeps oracle none (appMain tries passes) := keeps_appMain tries passes
  rw [drawnBy_eq]
  exact (hkept (.powerUp, ⟨.powerUp, []⟩)
    ⟨fun r hr => absurd hr List.not_mem_nil, fun _ hf => absurd hf (by simp)⟩).1

theorem drawnBy_unanswered {tries : ℕ} (passes : ℕ)
    (hwait : (run (controller oracle) (ra8875Init tries) .powerUp).1 = none) :
    drawnBy oracle tries passes = [] := by
  have hinit : (run (monitored (controller oracle) Plotter.step) (ra8875Init tries)
      (.powerUp, ⟨.powerUp, []⟩)).1 = none := by
    rw [run_monitored]
    exact hwait
  rw [drawnBy_eq, appMain_eq, run_bind, hinit]
  exact run_view_eq (fun s : Controller × Plotter => s.2.drawn) (ra8875Init_rectless tries)
    (fun o s ho => drawn_rectless o ho s) _

theorem drawnBy_answered {tries : ℕ} (passes : ℕ)
    (hready : (run (controller oracle) (ra8875Init tries) .powerUp).1 ≠ none) :
    bar 0 415 800 480 colorYellow ∈ drawnBy oracle tries passes := by
  obtain ⟨result, hresult⟩ := Option.ne_none_iff_exists'.mp hready
  have hinit : (run (monitored (controller oracle) Plotter.step) (ra8875Init tries)
      (.powerUp, ⟨.powerUp, []⟩)).1 = some result := by
    rw [run_monitored]
    exact hresult
  have hbox : Hoare (monitored (controller oracle) Plotter.step) (fun _ => True)
      (afterInit passes (some result)) fun _ s => bar 0 415 800 480 colorYellow ∈ s.2.drawn :=
    displaySetup_yellow.seq (keeps_drawn _ _)
  rw [drawnBy_eq, appMain_eq, run_bind, hinit]
  exact hbox _ trivial

end Renderers

/-- The rectangles outside the panel are those that give a far corner one past its end. There
    is one as soon as `RA8875_init` has returned. -/
theorem rectangles_on_panel (oracle : ℕ → (o : Op) → o.Res) (tries passes : ℕ) :
    (∀ r ∈ drawnBy oracle tries passes,
      r.x1 ≤ r.x2 ∧ r.y1 ≤ r.y2 ∧ (OnPanel r ↔ r ∉ pastTheEnd)) ∧
    (∀ lit X Y, ∀ r ∈ drawnBy oracle tries passes, r ∈ spansOf lit X Y → OnPanel r) ∧
    ((∀ r ∈ drawnBy oracle tries passes, OnPanel r) ↔
      (run (controller oracle) (ra8875Init tries) .powerUp).1 = none) := by
  have hallowed : ∀ r ∈ drawnBy oracle tries passes, Allowed r := allowed_drawnBy tries passes
  refine ⟨fun r hr => ?_, fun lit X Y r hr hspan => ?_, fun h => ?_, fun h => ?_⟩
  · by_cases hpast : r ∈ pastTheEnd
    · obtain ⟨hx, hy, houtside⟩ := pastTheEnd_outside r hpast
      exact ⟨hx, hy, iff_of_false houtside fun hnot => hnot hpast⟩
    · have hpanel := (hallowed r hr).resolve_right hpast
      exact ⟨hpanel.1, hpanel.2.2.1, iff_of_true hpanel hpast⟩
  · refine (hallowed r hr).resolve_right fun hpast => ?_
    have hlarge := pastTheEnd_large r hpast
    have hsmall := spansOf_within r hspan
    omega
  · by_contra hready
    have houtside := h _ (drawnBy_answered passes hready)
    exact absurd houtside (by decide)
  · rw [drawnBy_unanswered passes h]
    exact fun r hr => absurd hr List.not_mem_nil

theorem loading_box_outside : ¬ ∀ r ∈ drawnBy quiet 1 0, OnPanel r := by
  intro h
  have hready : (run (controller quiet) (ra8875Init 1) .powerUp).1 ≠ none := by
    have hinit : (run (controller quiet) (ra8875Init 1) .powerUp).1 = some true := rfl
    rw [hinit]
    exact Option.some_ne_none true
  exact absurd (h _ (drawnBy_answered 0 hready)) (by decide)

end SteeringDisplay.PanelWindow
