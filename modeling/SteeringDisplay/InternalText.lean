import SteeringDisplay.Histories
import SteeringDisplay.ModeRegister
import SteeringDisplay.MainRuns

set_option autoImplicit false

/-!
# Characters of the internal font

The panel takes a data byte as a character only in text mode, with the size, the
colour and the cursor that were written last.
-/
namespace SteeringDisplay.InternalText
open ProgramTree FirmwareInterface PanelDriver ComicSansFont NumberFormat DisplayScreens
open ButtonLoop Footprints ModeRegister MainRuns Histories

def Breaks : Op → Prop
  | .writeRegister reg value => reg = 0x40 ∨ reg = 0x90 ∧ value &&& 0x80 ≠ 0
  | _ => False

def Writes (reg : UInt8) : Op → Prop
  | .writeRegister r _ => r = reg
  | _ => False

def IsCharacter : Op → Prop
  | .writeData _ => True
  | _ => False

def look : List UInt8 := [0x22, 0x63, 0x64, 0x65]

/-- Size, colour and cursor are written since the last mode change or rectangle, then the
    memory port is opened, and characters are all that follows. -/
def Prepared (hist : List Op) : Prop :=
  ∃ before characters, hist = before ++ .writeCommand 0x02 :: characters ∧
    (∀ o ∈ characters, IsCharacter o) ∧
    ∀ reg ∈ cursorRegisters ++ look, Since (Writes reg) Breaks before

def ReadyToPrint (hist : List Op) : Prop := hist.foldl modeAfter 0x00 = 0x80 ∧ Prepared hist

theorem Prepared.character {hist : List Op} (h : Prepared hist) (ch : UInt8) :
    Prepared (hist ++ [.writeData ch]) := by
  obtain ⟨before, characters, rfl, hcharacters, hsince⟩ := h
  refine ⟨before, characters ++ [.writeData ch], by simp, fun o ho => ?_, hsince⟩
  rcases List.mem_append.mp ho with hmem | hlast
  · exact hcharacters o hmem
  · obtain rfl := List.mem_singleton.mp hlast
    exact trivial

abbrev Observed := Controller × List Op

def observed (oracle : ℕ → (o : Op) → o.Res) : Handler firmware Observed :=
  monitored (controller oracle) fun hist o => hist ++ [o]

def SoundText (s : Observed) : Prop :=
  Whenever IsCharacter ReadyToPrint s.2 ∧ s.2.foldl modeAfter 0x00 = s.1.mode

/-- Between texts: the flag is up, and the font is the one that is said. -/
def Between (font : Option DisplayFont) (s : Observed) : Prop :=
  SoundText s ∧ s.1.statics.inGraphicMode = true ∧ ∀ f ∈ font, s.1.statics.currentFont = f

/-- In text mode, with the registers `regs` written since the mode was chosen. -/
def TextMode (regs : List UInt8) (s : Observed) : Prop :=
  Between (some .internal) s ∧ s.1.mode = 0x80 ∧ ∀ reg ∈ regs, Since (Writes reg) Breaks s.2

theorem Between.forget {font : Option DisplayFont} {s : Observed} (h : Between font s) :
    Between none s :=
  ⟨h.1, h.2.1, fun _ hf => absurd hf (by simp)⟩

theorem TextMode.mono {regs regs' : List UInt8} {s : Observed} (h : TextMode regs s)
    (hsub : ∀ reg ∈ regs', reg ∈ regs) : TextMode regs' s :=
  ⟨h.1, h.2.1, fun reg hreg => h.2.2 reg (hsub reg hreg)⟩

def Wordless : firmware.Op → Prop
  | .writeData _ => False
  | .setInGraphicMode b => b = true
  | _ => True

def Fontless : firmware.Op → Prop
  | .setCurrentFont _ => False
  | o => Wordless o

def Setting : firmware.Op → Prop
  | .writeRegister reg _ => reg ≠ 0x40 ∧ reg ≠ 0x90
  | .writeData _ | .setInGraphicMode _ | .setCurrentFont _ => False
  | _ => True

theorem wordless_of_fontless {o : firmware.Op} (h : Fontless o) : Wordless o := by
  cases o <;> first | exact h | exact h.elim

theorem fontless_of_setting {o : firmware.Op} (h : Setting o) : Fontless o := by
  cases o <;> first | exact h.elim | exact trivial

theorem fontless_of_plotting {o : firmware.Op} (h : Plotting o) : Fontless o := by
  cases o <;> first | exact h.elim | exact trivial

theorem fontless_of_arranging {o : firmware.Op} (h : Arranging o) : Fontless o := by
  cases o <;> first | exact h | exact h.elim | exact trivial

theorem arranging_fontless {α : Type} {p : Firmware α} (hp : Only Arranging p) : Only Fontless p :=
  hp.mono fun _ => fontless_of_arranging

section Steps
variable {oracle : ℕ → (o : Op) → o.Res} {font : Option DisplayFont} {regs : List UInt8}

theorem soundText_step {s : Observed} (o : firmware.Op) (hs : SoundText s)
    (ho : IsCharacter o → ReadyToPrint s.2) : SoundText (observed oracle o s).2 := by
  refine ⟨hs.1.snoc ho, ?_⟩
  change (s.2 ++ [o]).foldl modeAfter 0x00 = modeAfter s.1.mode o
  rw [List.foldl_append, hs.2]
  rfl

theorem soundText_wordless {s : Observed} (o : firmware.Op) (ho : Wordless o) (hs : SoundText s) :
    SoundText (observed oracle o s).2 := by
  refine soundText_step o hs fun hcharacter => ?_
  cases o with
  | writeData value => exact ho.elim
  | _ => exact hcharacter.elim

theorem flag_wordless {s : Observed} (o : firmware.Op) (ho : Wordless o)
    (hs : s.1.statics.inGraphicMode = true) :
    (observed oracle o s).2.1.statics.inGraphicMode = true := by
  cases o with
  | setInGraphicMode b => exact ho
  | _ => exact hs

theorem font_fontless {s : Observed} (o : firmware.Op) (ho : Fontless o) :
    (observed oracle o s).2.1.statics.currentFont = s.1.statics.currentFont := by
  cases o with
  | setCurrentFont f => exact ho.elim
  | _ => rfl

theorem between_fontless {s : Observed} (o : firmware.Op) (ho : Fontless o)
    (hs : Between font s) : Between font (observed oracle o s).2 :=
  ⟨soundText_wordless o (wordless_of_fontless ho) hs.1, flag_wordless o (wordless_of_fontless ho) hs.2.1,
    fun f hf => (font_fontless o ho).trans (hs.2.2 f hf)⟩

theorem not_breaks_of_setting {o : firmware.Op} (ho : Setting o) : ¬ Breaks o := by
  cases o with
  | writeRegister reg value => exact fun h => h.elim ho.1 fun h => ho.2 h.1
  | _ => exact fun h => h

theorem mode_setting {s : Observed} (o : firmware.Op) (ho : Setting o) :
    (observed oracle o s).2.1.mode = s.1.mode := by
  cases o with
  | writeRegister reg value => exact if_neg ho.1
  | _ => rfl

theorem textMode_setting {s : Observed} (o : firmware.Op) (ho : Setting o) (hs : TextMode regs s) :
    TextMode regs (observed oracle o s).2 :=
  ⟨between_fontless o (fontless_of_setting ho) hs.1, (mode_setting o ho).trans hs.2.1,
    fun reg hreg => (hs.2.2 reg hreg).later (not_breaks_of_setting ho)⟩

theorem hoare_fontless {α : Type} {p : Firmware α} (hp : Only Fontless p) :
    Hoare (observed oracle) (Between font) p fun _ => Between font :=
  Hoare.of_only hp fun o _ ho hs => between_fontless o ho hs

theorem hoare_arranging {α : Type} {p : Firmware α} (hp : Only Arranging p) :
    Hoare (observed oracle) (Between font) p fun _ => Between font :=
  hoare_fontless (arranging_fontless hp)

theorem hoare_setting {α : Type} {p : Firmware α} (hp : Only Setting p) :
    Hoare (observed oracle) (TextMode regs) p fun _ => TextMode regs :=
  Hoare.of_only hp fun o _ ho hs => textMode_setting o ho hs

theorem hoare_write {reg : UInt8} (hreg : reg ≠ 0x40 ∧ reg ≠ 0x90) (value : UInt8) :
    Hoare (observed oracle) (TextMode regs) (ra8875WriteRegister reg value)
      fun _ => TextMode (reg :: regs) := by
  intro s hs
  have hkept : TextMode regs (observed oracle (.writeRegister reg value) s).2 :=
    textMode_setting (.writeRegister reg value) hreg hs
  refine ⟨hkept.1, hkept.2.1, fun r hr => ?_⟩
  rcases List.mem_cons.mp hr with rfl | hr
  · have hnow : Writes r (.writeRegister r value) := rfl
    exact Since.now hnow
  · exact hkept.2.2 r hr

theorem hoare_setFont (f : DisplayFont) :
    Hoare (observed oracle) (Between font) (setCurrentFont f) fun _ => Between (some f) := by
  intro s hs
  refine ⟨soundText_wordless (.setCurrentFont f) trivial hs.1, hs.2.1, fun f' hf => ?_⟩
  exact Option.some.inj hf

/-- With the flag up the register does take the text mode. -/
theorem hoare_leaveGraphicMode :
    Hoare (observed oracle) (Between (some .internal)) leaveGraphicMode fun _ => TextMode [] := by
  have hload : Hoare (observed oracle) (Between (some .internal)) loadInGraphicMode
      fun graphic s => graphic = true ∧ Between (some .internal) s :=
    fun s hs => ⟨hs.2.1, between_fontless .inGraphicMode trivial hs⟩
  refine hload.bind fun graphic => ?_
  cases graphic with
  | true =>
    intro s hs
    exact ⟨between_fontless (.writeRegister 0x40 0x80) trivial hs.2, rfl,
      fun _ hreg => absurd hreg List.not_mem_nil⟩
  | false => exact fun s hs => Bool.noConfusion hs.1

theorem hoare_foregroundWhite : Hoare (observed oracle) (TextMode regs) displayForegroundWhite
    fun _ => TextMode (0x65 :: 0x64 :: 0x63 :: regs) :=
  (hoare_write (by decide) _).seq ((hoare_write (by decide) _).seq (hoare_write (by decide) _))

theorem hoare_internalFontSize (size : UInt8) : Hoare (observed oracle) (TextMode regs)
    (displayInternalFontSize size) fun _ => TextMode (0x21 :: 0x41 :: 0x22 :: regs) :=
  (hoare_write (by decide) _).seq ((hoare_write (by decide) _).seq (hoare_write (by decide) _))

theorem hoare_enableInternal : Hoare (observed oracle) (Between font)
    (displayEnableTextModeAndFont .internal) fun _ => TextMode look := by
  have henable : Hoare (observed oracle) (Between font) (displayEnableTextModeAndFont .internal)
      fun _ => TextMode [0x21, 0x41, 0x22, 0x65, 0x64, 0x63] :=
    (hoare_setFont .internal).seq (hoare_leaveGraphicMode.seq
      (hoare_foregroundWhite.seq (hoare_internalFontSize fontSizeTriple)))
  exact henable.conseq (fun _ hs => hs) fun _ _ hs => hs.mono (by decide)

theorem hoare_enableComicSans : Hoare (observed oracle) (Between font)
    (displayEnableTextModeAndFont .comicSans) fun _ => Between (some .comicSans) :=
  (hoare_setFont .comicSans).seq (hoare_arranging enableDrawMode_arranging)

theorem hoare_sendCharacters (msg : List UInt8) :
    Hoare (observed oracle) (fun s => TextMode regs s ∧ Prepared s.2) (sendCharacters msg)
      fun _ => TextMode regs := by
  induction msg with
  | nil => exact fun s hs => hs.1
  | cons ch msg ih =>
    unfold sendCharacters
    split_ifs
    · exact fun s hs => hs.1
    · refine Hoare.seq (Hoare.perform fun s hboth => ?_) ih
      obtain ⟨hs, hprepared⟩ := hboth
      have hready : ReadyToPrint s.2 := ⟨hs.1.1.2.trans hs.2.1, hprepared⟩
      refine ⟨⟨⟨soundText_step (.writeData ch) hs.1.1 fun _ => hready, hs.1.2⟩, hs.2.1,
        fun reg hreg => (hs.2.2 reg hreg).later fun h => h⟩, ?_⟩
      exact hprepared.character ch

theorem hoare_internalText (x y : UInt16) (msg : List UInt8) : Hoare (observed oracle)
    (TextMode look) (displayWriteTextAt x y msg) fun _ => TextMode look := by
  have hload : Hoare (observed oracle) (TextMode look) loadCurrentFont
      fun f s => f = .internal ∧ TextMode look s :=
    fun s hs => ⟨hs.1.2.2 .internal rfl, textMode_setting .currentFont trivial hs⟩
  have hcursor : Hoare (observed oracle) (TextMode look) (displaySetTextCursor x y)
      fun _ => TextMode (cursorRegisters ++ look) :=
    ((hoare_write (by decide) _).seq ((hoare_write (by decide) _).seq
      ((hoare_write (by decide) _).seq (hoare_write (by decide) _)))).conseq (fun _ hs => hs)
        fun _ _ hs => hs.mono (by decide)
  have hport : Hoare (observed oracle) (TextMode (cursorRegisters ++ look)) (ra8875WriteCommand 0x02)
      fun _ s => TextMode look s ∧ Prepared s.2 := by
    intro s hs
    have hkept : TextMode (cursorRegisters ++ look) (observed oracle (.writeCommand 0x02) s).2 :=
      textMode_setting (.writeCommand 0x02) trivial hs
    exact ⟨hkept.mono (by decide), s.2, [], rfl, fun _ ho => absurd ho List.not_mem_nil, hs.2.2⟩
  refine hload.bind fun f => ?_
  cases f with
  | internal =>
    exact (hcursor.seq (hport.seq (hoare_sendCharacters msg))).conseq (fun _ hs => hs.2)
      fun _ _ hs => hs
  | comicSans => exact fun s hs => DisplayFont.noConfusion hs.1

theorem hoare_comicSansText (x y : UInt16) (msg : List UInt8) : Hoare (observed oracle)
    (Between (some .comicSans)) (displayWriteTextAt x y msg)
      fun _ => Between (some .comicSans) := by
  have hload : Hoare (observed oracle) (Between (some .comicSans)) loadCurrentFont
      fun f s => f = .comicSans ∧ Between (some .comicSans) s :=
    fun s hs => ⟨hs.2.2 .comicSans rfl, between_fontless .currentFont trivial hs⟩
  refine hload.bind fun f => ?_
  cases f with
  | internal => exact fun s hs => DisplayFont.noConfusion hs.1
  | comicSans =>
    have hblit := (blitCharacters_plotting glyphs x y msg).mono fun _ => fontless_of_plotting
    exact (hoare_fontless hblit).conseq (fun _ hs => hs.2) fun _ _ hs => hs

theorem hoare_labels (texts : List TextSpec) : Hoare (observed oracle)
    (Between (some .comicSans)) (writeTexts texts) fun _ => Between (some .comicSans) :=
  Hoare.forM _ _ fun _ _ => hoare_comicSansText _ _ _

theorem snprintf_setting (size : ℕ) (format : Format) (value : CFloat) :
    Only Setting (snprintf size format value) := by
  cases format with
  | d => exact ⟨trivial, fun _ => trivial⟩
  | f precision => exact trivial

theorem hoare_number (x y : UInt16) (isWholeNumber : Bool) (value : CFloat)
    (hasManyDigits : Bool) : Hoare (observed oracle) (TextMode look)
      (displayWriteNumberAt x y isWholeNumber value hasManyDigits) fun _ => TextMode look := by
  unfold displayWriteNumberAt
  split_ifs
  · exact (hoare_setting (snprintf_setting _ _ _)).bind fun _ => hoare_internalText _ _ _
  · exact (hoare_setting (snprintf_setting _ _ _)).bind fun _ => hoare_internalText _ _ _
  · exact (hoare_setting (snprintf_setting _ _ _)).bind fun _ => hoare_internalText _ _ _

theorem hoare_values (values : List ValueSpec) : Hoare (observed oracle) (TextMode look)
    (writeValues values) fun _ => TextMode look := by
  refine Hoare.forM _ _ fun v _ => ?_
  cases v with
  | float x y | manyDigits x y | whole x y => exact hoare_number _ _ _ _ _
  | text x y msg => exact hoare_internalText _ _ _

theorem write_fontless (reg value : UInt8) : Only Fontless (ra8875WriteRegister reg value) :=
  (only_perform _).mpr trivial

theorem delay_fontless (file : SourceFile) (ms : ℕ) : Only Fontless (vTaskDelay file ms) :=
  (only_perform _).mpr trivial

theorem plotting_fontless {α : Type} {p : Firmware α} (hp : Only Plotting p) : Only Fontless p :=
  hp.mono fun _ => fontless_of_plotting

theorem hoare_plotting {α : Type} {p : Firmware α} (hp : Only Plotting p) :
    Hoare (observed oracle) (Between font) p fun _ => Between font :=
  hoare_fontless (plotting_fontless hp)

theorem hoare_valuesLast (values : List ValueSpec) : Hoare (observed oracle) (Between font)
    (displayEnableTextModeAndFont .internal >>= fun _ => writeValues values)
    fun _ => Between none :=
  (hoare_enableInternal.seq (hoare_values values)).conseq (fun _ hs => hs)
    fun _ _ hs => hs.1.forget

theorem write_setting {reg : UInt8} (hreg : reg ≠ 0x40 ∧ reg ≠ 0x90) (value : UInt8) :
    Only Setting (ra8875WriteRegister reg value) :=
  (only_perform _).mpr hreg

theorem threeWrites_setting {r₁ r₂ r₃ : UInt8} (hr : ∀ r ∈ [r₁, r₂, r₃], r ≠ 0x40 ∧ r ≠ 0x90)
    (v₁ v₂ v₃ : UInt8) : Only Setting (do
      ra8875WriteRegister r₁ v₁
      ra8875WriteRegister r₂ v₂
      ra8875WriteRegister r₃ v₃) :=
  (write_setting (hr _ (by simp)) _).bind fun _ => (write_setting (hr _ (by simp)) _).bind fun _ =>
    write_setting (hr _ (by simp)) _

theorem hoare_warn : Hoare (observed oracle) (Between none) displayWarn fun _ => Between none := by
  have hsize : Hoare (observed oracle) (TextMode look) (displayInternalFontSize fontSizeQuadruple)
      fun _ => TextMode look := hoare_setting (threeWrites_setting (by decide) _ _ _)
  have hwhite : Hoare (observed oracle) (TextMode look) displayForegroundWhite
      fun _ => TextMode look := hoare_setting (threeWrites_setting (by decide) _ _ _)
  have htext : Hoare (observed oracle) (Between none) displayWarn fun _ => TextMode look :=
    (hoare_arranging resetState_arranging).seq ((hoare_arranging enableDrawMode_arranging).seq
      ((hoare_plotting (drawRect_plotting _ _ _ _ _ _)).seq
        ((hoare_fontless (delay_fontless _ _)).seq (hoare_enableInternal.seq (hsize.seq
          (hwhite.seq (hoare_internalText _ _ _)))))))
  exact htext.conseq (fun _ hs => hs) fun _ _ hs => hs.1.forget

theorem kept_between : Kept (observed oracle) (Between none) where
  steering o s ho hs := by
    refine between_fontless o ?_ hs
    cases o <;> first | exact ho.elim | exact trivial
  assigns screen s hs := between_fontless (.setCurrentScreen screen) trivial hs
  renderers screen draw hdraw := by
    have hmain : ∀ isLaps, Hoare (observed oracle) (Between none) (displayRenderMainScreen isLaps)
        fun _ => Between none := fun isLaps =>
      (hoare_arranging resetState_arranging).seq ((hoare_arranging enableDrawMode_arranging).seq
        ((hoare_plotting (mainBar_plotting isLaps)).seq
          ((hoare_plotting (drawBorders_plotting _)).seq
            ((hoare_fontless (delay_fontless _ _)).seq (hoare_enableComicSans.seq
              ((hoare_labels _).seq (hoare_valuesLast _)))))))
    cases screen with
    | mainNoLaps | mainLaps =>
      obtain rfl := Option.some.inj hdraw
      exact hmain _
    | debugNoRtd =>
      obtain rfl := Option.some.inj hdraw
      exact (hoare_arranging resetState_arranging).seq ((hoare_arranging enableDrawMode_arranging).seq
        ((hoare_plotting (drawBorders_plotting _)).seq
          (hoare_enableComicSans.seq ((hoare_labels _).seq
            ((hoare_fontless (delay_fontless _ _)).seq ((hoare_labels _).seq
              (hoare_valuesLast _)))))))
    | debugRtd =>
      obtain rfl := Option.some.inj hdraw
      exact (hoare_arranging resetState_arranging).seq
        ((hoare_arranging (bteMove_arranging _ _ _ _ _ _ _ _ _ _)).seq
          ((hoare_arranging enableDrawMode_arranging).seq
            ((hoare_plotting (drawBorders_plotting _)).seq
              (hoare_valuesLast _))))
    | warn =>
      obtain rfl := Option.some.inj hdraw
      exact hoare_warn
    | other value outside => simp [render] at hdraw

theorem hoare_soundText {α : Type} {p : Firmware α} (hp : Only Wordless p) :
    Hoare (observed oracle) SoundText p fun _ => SoundText :=
  Hoare.of_only hp fun o _ ho hs => soundText_wordless o ho hs

theorem wordless {α : Type} {p : Firmware α} (hp : Only Fontless p) : Only Wordless p :=
  hp.mono fun _ => wordless_of_fontless

theorem hoare_firstDrawMode :
    Hoare (observed oracle) SoundText displayEnableDrawMode fun _ => Between none := by
  have hload : Hoare (observed oracle) SoundText loadInGraphicMode
      fun graphic s => s.1.statics.inGraphicMode = graphic ∧ SoundText s :=
    fun s hs => ⟨rfl, soundText_wordless .inGraphicMode trivial hs⟩
  refine hload.bind fun graphic => ?_
  cases graphic with
  | true => exact fun s hs => ⟨hs.2, hs.1, fun _ hf => absurd hf (by simp)⟩
  | false =>
    have hwrites : Only Wordless (ra8875WriteRegister 0x40 0x00 >>= fun _ => setInGraphicMode true) :=
      ⟨trivial, fun _ => ⟨rfl, fun _ => trivial⟩⟩
    intro s hs
    exact ⟨hoare_soundText hwrites s hs.2, rfl, fun _ hf => absurd hf (by simp)⟩

theorem hoare_prerender :
    Hoare (observed oracle) SoundText displayPrerenderDebugRtdLabels fun _ => Between none := by
  have hsize : Hoare (observed oracle) (TextMode look) (displayInternalFontSize fontSizeDouble)
      fun _ => TextMode look := hoare_setting (threeWrites_setting (by decide) _ _ _)
  have hcolor : ∀ reg ∈ colorRegisters, ∀ value, Hoare (observed oracle) (TextMode look)
      (ra8875WriteRegister reg value) fun _ => TextMode look := fun reg hreg value =>
    hoare_setting (write_setting (by revert reg; decide) value)
  have hlabels : Hoare (observed oracle) SoundText displayPrerenderDebugRtdLabels
      fun _ => Between (some .comicSans) :=
    (hoare_soundText (wordless (arranging_fontless resetState_arranging))).seq (hoare_firstDrawMode.seq
      ((hoare_plotting (drawRect_plotting _ _ _ _ _ _)).seq
        ((hoare_plotting (drawRect_plotting _ _ _ _ _ _)).seq
          ((hoare_fontless (delay_fontless _ _)).seq (hoare_enableInternal.seq (hsize.seq
            ((hcolor 0x63 (by decide) _).seq ((hcolor 0x64 (by decide) _).seq
              ((hcolor 0x65 (by decide) _).seq ((hoare_internalText _ _ _).conseq
                (fun _ hs => hs) (fun _ _ hs => hs.1.forget)
                |>.seq (hoare_enableComicSans.seq ((hoare_labels _).seq
                  ((hoare_fontless (delay_fontless _ _)).seq ((hoare_labels _).seq
                    (hoare_arranging (bteMove_arranging _ _ _ _ _ _ _ _ _ _))))))))))))))))
  exact hlabels.conseq (fun _ hs => hs) fun _ _ hs => hs.forget

theorem hoare_displaySetup :
    Hoare (observed oracle) SoundText displaySetup fun _ => Between none := by
  have hconfigure : Only Wordless (ra8875Configure lcdTiming) :=
    Only.forM _ _ fun _ _ => wordless (write_fontless _ _)
  have hglyphs : Only Wordless displayPrecomputeGlyphs := by
    refine Only.forM _ _ fun i _ => ?_
    split
    · exact only_pure ()
    · exact (only_perform _).mpr trivial
  exact (hoare_soundText hconfigure).seq ((hoare_soundText (wordless (write_fontless _ _))).seq
    ((hoare_soundText (wordless (write_fontless _ _))).seq
      ((hoare_soundText (wordless (plotting_fontless (setTextCursor_plotting 0 0)))).seq
        ((hoare_soundText hglyphs).seq (hoare_prerender.seq
          (kept_between.switchScreen .debugNoRtd))))))

theorem hoare_appMain (tries passes : ℕ) :
    Hoare (observed oracle) SoundText (appMain tries passes) fun _ => SoundText := by
  refine kept_between.appMain tries passes ?_ fun _ hs => hs.1
  have hinit : Only Wordless (ra8875Init tries) := (ra8875Init_waking tries).mono fun o ho => by
    cases o <;> first | exact ho.elim | exact trivial
  refine (hoare_soundText hinit).bind fun result => ?_
  cases result with
  | none => exact Hoare.pure fun _ hs => hs
  | some _ =>
    intro s hs
    rw [run_bind, run_pure, if_pos rfl]
    dsimp only
    exact hoare_displaySetup s hs

end Steps

/-- In every run each data byte is sent in text mode, after a size, a colour and the cursor
    that are newer than any mode change and any rectangle. -/
theorem internal_text_ready (oracle : ℕ → (o : Op) → o.Res) (tries passes : ℕ) :
    Whenever IsCharacter ReadyToPrint (trace (controller oracle) (appMain tries passes) .powerUp) := by
  have hstart : SoundText ((Controller.powerUp, []) : Observed) := ⟨Whenever.nil, rfl⟩
  have hend : SoundText (run (observed oracle) (appMain tries passes) (.powerUp, [])).2 :=
    hoare_appMain tries passes _ hstart
  unfold observed at hend
  rw [run_monitored, foldl_snoc, List.nil_append] at hend
  exact hend.1

end SteeringDisplay.InternalText
