import SteeringDisplay.PanelMachine

set_option autoImplicit false

/-!
# Two runs of one routine

`Agree` says what two panels must have in common for a routine to do the same on
both: the registers it reads before it writes them, and the pixels it keeps.
-/
namespace SteeringDisplay.PanelAgreement
open ProgramTree FirmwareInterface PanelDriver ComicSansFont NumberFormat DisplayScreens
open Footprints PanelRegisters PanelMachine

/-- The writes that set nothing off: the data goes to a register, and that is all. -/
def Plain (reg : UInt8) : Prop := reg ∉ [0x02, 0x50, 0x8E, 0x90, 0xF1]

instance (reg : UInt8) : Decidable (Plain reg) := inferInstanceAs (Decidable (_ ∉ _))

section Steps
variable {engine : TextEngine}

theorem step_plain {reg : UInt8} (hplain : Plain reg) (value : UInt8) (s : PanelState) :
    s.step engine (.writeRegister reg value) = { s.store reg value with latch := reg } := by
  have hne : reg ≠ 0x02 ∧ reg ≠ 0x50 ∧ reg ≠ 0x8E ∧ reg ≠ 0x90 ∧ reg ≠ 0xF1 := by
    simpa [Plain] using hplain
  obtain ⟨hport, htransfer, hclear, hrect, hstatus⟩ := hne
  change PanelState.data engine _ value = _
  unfold PanelState.data PanelState.command
  rw [if_neg hport, if_neg hstatus, if_neg hclear, if_neg hrect, if_neg htransfer, ite_self]
  rfl

theorem step_clear (s : PanelState) :
    s.step engine (.writeRegister 0x8E (0x80 ||| 0x00)) =
      { s.store 0x8E 0x80 with latch := 0x8E }.paint fun _ _ _ => black := rfl

theorem step_rectangle {value : UInt8} (hstart : value &&& 0x80 ≠ 0) (s : PanelState) :
    s.step engine (.writeRegister 0x90 value) =
      { s.store 0x90 value with latch := 0x90 }.rectangle value := by
  have hne : (0x90 : UInt8) ≠ 0x02 ∧ (0x90 : UInt8) ≠ 0xF1 ∧ (0x90 : UInt8) ≠ 0x8E := by decide
  change PanelState.data engine _ value = _
  unfold PanelState.data PanelState.command
  rw [if_neg hne.1, if_neg hne.2.1, if_neg hstart, if_neg hne.2.2, if_pos rfl]
  rfl

theorem step_character (s : PanelState) (hport : s.latch = 0x02) (ch : UInt8) :
    s.step engine (.writeData ch) = s.character engine ch := if_pos hport

end Steps

/-- What no renderer changes once the panel is set up: the flag, the glyphs, the layer
    to write to, and the layer that is not shown. -/
structure Onscreen (glyphs : UInt8 → GlyphBuffer) (saved : PixelLayer) (s : PanelState) :
    Prop where
  graphic : s.statics.inGraphicMode = true
  glyphs : s.statics.glyphCache = glyphs
  layer : s.regs 0x41 = 0
  completed : s.completed = false
  saved : s.layers 1 = saved

structure Backdrop where
  glyphs : UInt8 → GlyphBuffer
  left : PixelLayer
  right : PixelLayer

/-- The panels have in common the registers of `A`, the rows `D` of what is shown, and
    the font if it is said which one. -/
structure Agree (b : Backdrop) (font : Option DisplayFont) (A : List UInt8) (D : Fin 480 → Prop)
    (s t : PanelState) : Prop where
  left : Onscreen b.glyphs b.left s
  right : Onscreen b.glyphs b.right t
  fonts : ∀ f ∈ font, s.statics.currentFont = f ∧ t.statics.currentFont = f
  regs : ∀ r ∈ A, s.regs r = t.regs r
  pixels : ∀ x y, D y → s.layers 0 x y = t.layers 0 x y

def everywhere (_ : Fin 480) : Prop := True

def nowhere (_ : Fin 480) : Prop := False

section Agreement
variable {b : Backdrop} {font : Option DisplayFont} {A B : List UInt8} {D E : Fin 480 → Prop}
variable {glyphs : UInt8 → GlyphBuffer} {saved : PixelLayer} {s t : PanelState}

theorem Agree.mono (h : Agree b font A D s t) (hB : ∀ r ∈ B, r ∈ A) (hE : ∀ y, E y → D y) :
    Agree b font B E s t :=
  ⟨h.left, h.right, h.fonts, fun r hr => h.regs r (hB r hr), fun x y hy => h.pixels x y (hE y hy)⟩

theorem Agree.forgetFont (h : Agree b font A D s t) : Agree b none A D s t :=
  ⟨h.left, h.right, fun _ hf => absurd hf (by simp), h.regs, h.pixels⟩

theorem store_regs_self (reg value : UInt8) : (s.store reg value).regs reg = value :=
  Function.update_self ..

theorem store_regs_of_ne {reg r : UInt8} (h : r ≠ reg) (value : UInt8) :
    (s.store reg value).regs r = s.regs r := Function.update_of_ne h ..

theorem Onscreen.store (h : Onscreen glyphs saved s) {reg value : UInt8}
    (hlayer : reg = 0x41 → value = 0) : Onscreen glyphs saved (s.store reg value) := by
  refine ⟨h.graphic, h.glyphs, ?_, h.completed, h.saved⟩
  by_cases h41 : reg = 0x41
  · obtain rfl := hlayer h41
    rw [← h41, store_regs_self]
  · rw [store_regs_of_ne (Ne.symm h41)]
    exact h.layer

theorem writeLayer_zero (hs : s.regs 0x41 = 0) : s.writeLayer = 0 := by
  unfold PanelState.writeLayer
  rw [hs]
  rfl

theorem paint_layers (hs : s.regs 0x41 = 0) (f : PixelLayer → PixelLayer) (l : Fin 2) :
    (s.paint f).layers l = if l = 0 then f (s.layers 0) else s.layers l := by
  change Function.update s.layers s.writeLayer (f (s.layers s.writeLayer)) l = _
  rw [writeLayer_zero hs, Function.update_apply]

theorem Onscreen.paint (h : Onscreen glyphs saved s) (f : PixelLayer → PixelLayer) :
    Onscreen glyphs saved (s.paint f) :=
  ⟨h.graphic, h.glyphs, h.layer, h.completed, (paint_layers h.layer f 1).trans h.saved⟩

theorem Agree.latch (h : Agree b font A D s t) (p q : UInt8) :
    Agree b font A D { s with latch := p } { t with latch := q } :=
  ⟨⟨h.left.graphic, h.left.glyphs, h.left.layer, h.left.completed, h.left.saved⟩,
    ⟨h.right.graphic, h.right.glyphs, h.right.layer, h.right.completed, h.right.saved⟩,
    h.fonts, h.regs, h.pixels⟩

theorem Agree.store (h : Agree b font A D s t) {reg value : UInt8}
    (hlayer : reg = 0x41 → value = 0) :
    Agree b font (reg :: A) D (s.store reg value) (t.store reg value) := by
  refine ⟨h.left.store hlayer, h.right.store hlayer, h.fonts, fun r hr => ?_, h.pixels⟩
  by_cases hreg : r = reg
  · rw [hreg, store_regs_self, store_regs_self]
  · rw [store_regs_of_ne hreg, store_regs_of_ne hreg]
    exact h.regs r ((List.mem_cons.mp hr).resolve_left hreg)

theorem Agree.reg16 (h : Agree b font A D s t) {low : UInt8} (hlow : low ∈ A)
    (hhigh : low + 1 ∈ A) : PanelRegisters.reg16 s.regs low = PanelRegisters.reg16 t.regs low := by
  unfold PanelRegisters.reg16
  rw [h.regs low hlow, h.regs (low + 1) hhigh]

theorem Agree.color (h : Agree b font A D s t) (hA : ∀ r ∈ colorRegisters, r ∈ A) :
    colorOf s.regs = colorOf t.regs := by
  unfold colorOf
  rw [h.regs 0x63 (hA _ (by decide)), h.regs 0x64 (hA _ (by decide)), h.regs 0x65 (hA _ (by decide))]

/-- Painting keeps the agreement if what is painted agrees on the rows in question. -/
theorem Agree.paint (h : Agree b font A D s t) {f g : PixelLayer → PixelLayer}
    (hfg : ∀ x y, E y → f (s.layers 0) x y = g (t.layers 0) x y) :
    Agree b font A E (s.paint f) (t.paint g) := by
  refine ⟨h.left.paint f, h.right.paint g, h.fonts, h.regs, fun x y hy => ?_⟩
  rw [paint_layers h.left.layer, paint_layers h.right.layer]
  exact hfg x y hy

end Agreement

section Routines
variable {engine : TextEngine} {undefinedText : Format → CFloat → List UInt8}
variable {b : Backdrop} {font : Option DisplayFont} {A B : List UInt8} {D E : Fin 480 → Prop}

abbrev Agrees {α : Type} (engine : TextEngine) (undefinedText : Format → CFloat → List UInt8)
    (R : PanelState → PanelState → Prop) (p : Firmware α) (R' : PanelState → PanelState → Prop) :
    Prop :=
  Coupled (panel engine undefinedText) R p R'

theorem agrees_perform {R R' : PanelState → PanelState → Prop} {o : firmware.Op}
    (ho : ∀ s t, R s t → PanelState.answer undefinedText o s = PanelState.answer undefinedText o t ∧
      R' (s.step engine o) (t.step engine o)) :
    Agrees engine undefinedText R (perform o) R' := ho

theorem agree_write {reg value : UInt8} (hplain : Plain reg) (hlayer : reg = 0x41 → value = 0) :
    Agrees engine undefinedText (Agree b font A D) (ra8875WriteRegister reg value)
      (Agree b font (reg :: A) D) := by
  refine agrees_perform (fun s t h => ⟨rfl, ?_⟩)
  rw [step_plain hplain, step_plain hplain]
  exact (h.store hlayer).latch reg reg

theorem agree_forget {reg value : UInt8} (hplain : Plain reg) (hlayer : reg = 0x41 → value = 0) :
    Agrees engine undefinedText (Agree b font A D) (ra8875WriteRegister reg value)
      (Agree b font A D) :=
  (agree_write hplain hlayer).conseq (fun _ _ h => h)
    (fun _ _ h => h.mono (fun _ => List.mem_cons_of_mem _) (fun _ hy => hy))

theorem agree_quiet {o : firmware.Op} (hstep : ∀ s : PanelState, s.step engine o = s)
    (hanswer : ∀ s t, Agree b font A D s t →
      PanelState.answer undefinedText o s = PanelState.answer undefinedText o t) :
    Agrees engine undefinedText (Agree b font A D) (perform o) (Agree b font A D) := by
  refine agrees_perform (fun s t h => ⟨hanswer s t h, ?_⟩)
  rw [hstep, hstep]
  exact h

theorem agree_delay (file : SourceFile) (ms : ℕ) :
    Agrees engine undefinedText (Agree b font A D) (vTaskDelay file ms) (Agree b font A D) :=
  agree_quiet (fun _ => rfl) (fun _ _ _ => rfl)

theorem agree_setDoubleRegister {reg : UInt8} (hlow : Plain reg) (hhigh : Plain (reg + 1))
    (hlayer : reg ≠ 0x41 ∧ reg + 1 ≠ 0x41) (value : UInt16) :
    Agrees engine undefinedText (Agree b font A D) (setDoubleRegister reg value)
      (Agree b font ((reg + 1) :: reg :: A) D) :=
  (agree_write hlow (fun h => absurd h hlayer.1)).seq
    (agree_write hhigh (fun h => absurd h hlayer.2))

theorem agree_setCorners (x1 y1 x2 y2 : UInt16) :
    Agrees engine undefinedText (Agree b font A D) (setCorners x1 y1 x2 y2)
      (Agree b font (cornerRegisters ++ A) D) := by
  have hcorners : ∀ r ∈ cornerRegisters ++ A, r ∈ ((0x97 : UInt8) + 1) :: 0x97 :: (0x95 + 1) ::
      0x95 :: (0x93 + 1) :: 0x93 :: (0x91 + 1) :: 0x91 :: A := by
    intro r hr
    rcases List.mem_append.mp hr with hcorner | hA
    · have hmem : ∀ r ∈ cornerRegisters, r ∈ ([(0x97 : UInt8) + 1, 0x97, 0x95 + 1, 0x95, 0x93 + 1,
          0x93, 0x91 + 1, 0x91] : List UInt8) := by decide
      exact List.mem_append_left A (hmem r hcorner)
    · exact List.mem_append_right [(0x97 : UInt8) + 1, 0x97, 0x95 + 1, 0x95, 0x93 + 1, 0x93,
        0x91 + 1, 0x91] hA
  exact ((agree_setDoubleRegister (by decide) (by decide) (by decide) x1).seq
    ((agree_setDoubleRegister (by decide) (by decide) (by decide) y1).seq
      ((agree_setDoubleRegister (by decide) (by decide) (by decide) x2).seq
        (agree_setDoubleRegister (by decide) (by decide) (by decide) y2)))).conseq
    (fun _ _ h => h) (fun _ _ h => h.mono hcorners (fun _ hy => hy))

theorem agree_rectangle {value : UInt8} (hstart : value &&& 0x80 ≠ 0)
    (hcorners : ∀ r ∈ cornerRegisters, r ∈ A) (hcolors : ∀ r ∈ colorRegisters, r ∈ A) :
    Agrees engine undefinedText (Agree b font A D) (ra8875WriteRegister 0x90 value)
      (Agree b font A D) := by
  refine agrees_perform (fun s t h => ⟨rfl, ?_⟩)
  rw [step_rectangle hstart, step_rectangle hstart]
  have hvalue : Agree b font (0x90 :: A) D (s.store 0x90 value) (t.store 0x90 value) :=
    h.store (fun h90 => absurd h90 (by decide))
  have hstored := (hvalue.latch 0x90 0x90).mono (fun _ => List.mem_cons_of_mem _) (fun _ hy => hy)
  unfold PanelState.rectangle rectangleOf
  dsimp only
  rw [hstored.color hcolors, hstored.reg16 (hcorners 0x91 (by decide)) (hcorners _ (by decide)),
    hstored.reg16 (hcorners 0x93 (by decide)) (hcorners _ (by decide)),
    hstored.reg16 (hcorners 0x95 (by decide)) (hcorners _ (by decide)),
    hstored.reg16 (hcorners 0x97 (by decide)) (hcorners _ (by decide))]
  refine hstored.paint (fun x y hy => ?_)
  unfold drawRectOn
  rw [hstored.pixels x y hy]

theorem agree_drawRect (x1 y1 x2 y2 : UInt16) (color : UInt8) (filled : Bool) :
    Agrees engine undefinedText (Agree b font A D) (ra8875DrawRect x1 y1 x2 y2 color filled)
      (Agree b font A D) := by
  have hstart : (if filled then (0xB0 : UInt8) else 0x90) &&& 0x80 ≠ 0 := by
    cases filled <;> decide
  have hlast : Agrees engine undefinedText
      (Agree b font (0x65 :: 0x64 :: 0x63 :: (cornerRegisters ++ A)) D)
      (ra8875WriteRegister 0x90 (if filled then 0xB0 else 0x90)) (Agree b font A D) := by
    refine (agree_rectangle hstart ?_ ?_).conseq (fun _ _ h => h)
      (fun _ _ h => h.mono (fun r hr => ?_) (fun _ hy => hy))
    · exact fun r hr => by simp [hr]
    · exact fun r hr => List.mem_append_left (cornerRegisters ++ A)
        ((by decide : ∀ r ∈ colorRegisters, r ∈ ([0x65, 0x64, 0x63] : List UInt8)) r hr)
    · simp [hr]
  exact (agree_setCorners x1 y1 x2 y2).seq ((agree_write (by decide) (by simp)).seq
    ((agree_write (by decide) (by simp)).seq ((agree_write (by decide) (by simp)).seq hlast)))

theorem agree_drawRectFast (hcolors : ∀ r ∈ colorRegisters, r ∈ A) (x1 y1 x2 y2 : UInt16) :
    Agrees engine undefinedText (Agree b font A D) (ra8875DrawRectFast x1 y1 x2 y2)
      (Agree b font A D) := by
  refine (agree_setCorners x1 y1 x2 y2).seq ((agree_rectangle (by decide) ?_ ?_).conseq
    (fun _ _ h => h) (fun _ _ h => h.mono (fun r hr => ?_) (fun _ hy => hy)))
  · exact fun r hr => List.mem_append_left _ hr
  · exact fun r hr => List.mem_append_right _ (hcolors r hr)
  · exact List.mem_append_right _ hr

theorem agree_foregroundWhite :
    Agrees engine undefinedText (Agree b font A D) displayForegroundWhite
      (Agree b font (colorRegisters ++ A) D) := by
  refine ((agree_write (by decide) (by simp)).seq ((agree_write (by decide) (by simp)).seq
    (agree_write (by decide) (by simp)))).conseq (fun _ _ h => h)
    (fun _ _ h => h.mono (fun r hr => ?_) (fun _ hy => hy))
  rcases List.mem_append.mp hr with hcolor | hA
  · exact List.mem_append_left A
      ((by decide : ∀ r ∈ colorRegisters, r ∈ ([0x65, 0x64, 0x63] : List UInt8)) r hcolor)
  · simp [hA]

theorem agree_setTextCursor (x y : UInt16) :
    Agrees engine undefinedText (Agree b font A D) (displaySetTextCursor x y)
      (Agree b font (cursorRegisters ++ A) D) := by
  refine ((agree_write (by decide) (by simp)).seq ((agree_write (by decide) (by simp)).seq
    ((agree_write (by decide) (by simp)).seq (agree_write (by decide) (by simp))))).conseq
    (fun _ _ h => h) (fun _ _ h => h.mono (fun r hr => ?_) (fun _ hy => hy))
  rcases List.mem_append.mp hr with hcursor | hA
  · exact List.mem_append_left A
      ((by decide : ∀ r ∈ cursorRegisters, r ∈ ([0x2D, 0x2C, 0x2B, 0x2A] : List UInt8)) r hcursor)
  · simp [hA]

theorem agree_blitColumn (hcolors : ∀ r ∈ colorRegisters, r ∈ A) (px1 px2 y : UInt16)
    (buf : GlyphBuffer) (col row : ℕ) :
    Agrees engine undefinedText (Agree b font A D) (blitColumn px1 px2 y buf col row)
      (Agree b font A D) := by
  fun_induction blitColumn px1 px2 y buf col row with
  | case1 row _ _ ih => exact ih
  | case2 row _ _ stop ih => exact (agree_drawRectFast hcolors _ _ _ _).seq ih
  | case3 row _ => exact Coupled.pure ()

theorem agree_blitGlyph (x y : UInt16) (buf : GlyphBuffer) :
    Agrees engine undefinedText (Agree b font A D) (displayBlitGlyph x y buf) (Agree b font A D) := by
  have hcolumns : Agrees engine undefinedText (Agree b font (colorRegisters ++ A) D)
      ((List.range 8).forM fun col => blitColumn (x + UInt16.ofNat (col * glyphScale))
        (x + UInt16.ofNat (col * glyphScale) + UInt16.ofNat glyphScale - 1) y buf col 0)
      (Agree b font (colorRegisters ++ A) D) :=
    Coupled.forM _ _ (fun col _ => agree_blitColumn (fun r hr => List.mem_append_left A hr) _ _ _ _ _ _)
  exact agree_foregroundWhite.seq (hcolumns.conseq (fun _ _ h => h)
    (fun _ _ h => h.mono (fun r hr => List.mem_append_right _ hr) (fun _ hy => hy)))

theorem agree_drawBorders (lines : List LineSpec) :
    Agrees engine undefinedText (Agree b font A D) (displayDrawBorders lines) (Agree b font A D) :=
  Coupled.forM _ _ (fun _ _ => agree_drawRect _ _ _ _ _ _)

theorem agree_loadGlyphCache (ch : UInt8) :
    Agrees engine undefinedText (Agree b font A D) (loadGlyphCache ch) (Agree b font A D) :=
  agree_quiet (fun _ => rfl) (fun _ _ h => congrFun (h.left.glyphs.trans h.right.glyphs.symm) ch)

theorem agree_blitCharacters (table : UInt8 → Option Glyph8x16) (x y : UInt16) (msg : List UInt8) :
    Agrees engine undefinedText (Agree b font A D) (blitCharacters table x y msg)
      (Agree b font A D) := by
  induction msg generalizing x with
  | nil => exact Coupled.pure ()
  | cons ch msg ih =>
    unfold blitCharacters
    split_ifs
    · exact Coupled.pure ()
    · split
      · exact ih x
      · exact (agree_loadGlyphCache ch).bind (fun buf => (agree_blitGlyph x y buf).seq (ih _))

theorem agree_loadFont {α : Type} {f : DisplayFont} {g : DisplayFont → Firmware α}
    {R : PanelState → PanelState → Prop}
    (hg : Agrees engine undefinedText (Agree b (some f) A D) (g f) R) :
    Agrees engine undefinedText (Agree b (some f) A D) (loadCurrentFont >>= g) R := by
  intro s t h
  obtain ⟨hs, ht⟩ := h.fonts f rfl
  have hrun : ∀ u : PanelState, u.statics.currentFont = f →
      run (panel engine undefinedText) (loadCurrentFont >>= g) u =
        run (panel engine undefinedText) (g f) u := by
    rintro u rfl
    exact run_bind ..
  rw [hrun s hs, hrun t ht]
  exact hg s t h

theorem agree_loadGraphic {α : Type} {g : Bool → Firmware α} {R : PanelState → PanelState → Prop}
    (hg : Agrees engine undefinedText (Agree b font A D) (g true) R) :
    Agrees engine undefinedText (Agree b font A D) (loadInGraphicMode >>= g) R := by
  intro s t h
  have hrun : ∀ u : PanelState, u.statics.inGraphicMode = true →
      run (panel engine undefinedText) (loadInGraphicMode >>= g) u =
        run (panel engine undefinedText) (g true) u := by
    intro u hu
    rw [run_bind]
    change run _ (g u.statics.inGraphicMode) u = _
    rw [hu]
  rw [hrun s h.left.graphic, hrun t h.right.graphic]
  exact hg s t h

def styleRegisters : List UInt8 := 0x21 :: 0x22 :: 0x40 :: colorRegisters

def textRegisters : List UInt8 := cursorRegisters ++ styleRegisters

def MidText (b : Backdrop) (font : Option DisplayFont) (A : List UInt8) (s t : PanelState) : Prop :=
  Agree b font A everywhere s t ∧ s.latch = 0x02 ∧ t.latch = 0x02

theorem Agree.textInput {s t : PanelState} (h : Agree b font A D s t)
    (hA : ∀ r ∈ textRegisters, r ∈ A) : s.textInput = t.textInput := by
  unfold PanelState.textInput
  rw [h.reg16 (hA 0x2A (by decide)) (hA _ (by decide)),
    h.reg16 (hA 0x2C (by decide)) (hA _ (by decide)), h.regs 0x40 (hA _ (by decide)),
    h.regs 0x21 (hA _ (by decide)), h.regs 0x22 (hA _ (by decide)), h.left.layer, h.right.layer,
    h.color (fun r hr => hA r ((by decide : ∀ r ∈ colorRegisters, r ∈ textRegisters) r hr))]

theorem Agree.setCursor {s t : PanelState} (h : Agree b font A D s t) (cursor : UInt16 × UInt16) :
    Agree b font A D (s.setCursor cursor) (t.setCursor cursor) := by
  unfold PanelState.setCursor
  refine ((((h.store ?_).store ?_).store ?_).store ?_).mono (fun r hr => ?_) (fun _ hy => hy)
  · simp
  · simp
  · simp
  · simp
  · simp [hr]

theorem agree_character (hA : ∀ r ∈ textRegisters, r ∈ A) (ch : UInt8) :
    Agrees engine undefinedText (MidText b font A) (ra8875WriteData ch) (MidText b font A) := by
  refine agrees_perform (fun s t hboth => ⟨rfl, ?_⟩)
  obtain ⟨h, hs, ht⟩ := hboth
  rw [step_character s hs, step_character t ht]
  refine ⟨?_, hs, ht⟩
  unfold PanelState.character
  rw [h.textInput hA]
  have hlayers : s.layers 0 = t.layers 0 :=
    funext fun x => funext fun y => h.pixels x y trivial
  refine (h.paint (fun x y _ => ?_)).setCursor _
  rw [hlayers]

theorem agree_sendCharacters (hA : ∀ r ∈ textRegisters, r ∈ A) (msg : List UInt8) :
    Agrees engine undefinedText (MidText b font A) (sendCharacters msg) (MidText b font A) := by
  induction msg with
  | nil => exact Coupled.pure ()
  | cons ch msg ih =>
    unfold sendCharacters
    split_ifs
    · exact Coupled.pure ()
    · exact (agree_character hA ch).seq ih

theorem agree_memoryPort :
    Agrees engine undefinedText (Agree b font A everywhere) (ra8875WriteCommand 0x02)
      (MidText b font A) :=
  agrees_perform (fun _ _ h => ⟨rfl, h.latch 0x02 0x02, rfl, rfl⟩)

/-- Comic Sans text is drawn as rectangles, so the rest of the picture does not matter. -/
theorem agree_writeTextAt_comicSans (x y : UInt16) (msg : List UInt8) :
    Agrees engine undefinedText (Agree b (some .comicSans) A D) (displayWriteTextAt x y msg)
      (Agree b (some .comicSans) A D) :=
  agree_loadFont (agree_blitCharacters glyphs x y msg)

theorem agree_writeTextAt_internal (hA : ∀ r ∈ styleRegisters, r ∈ A) (x y : UInt16)
    (msg : List UInt8) :
    Agrees engine undefinedText (Agree b (some .internal) A everywhere) (displayWriteTextAt x y msg)
      (Agree b (some .internal) A everywhere) := by
  refine agree_loadFont ((agree_setTextCursor x y).seq (agree_memoryPort.seq ?_))
  have htext : ∀ r ∈ textRegisters, r ∈ cursorRegisters ++ A := by
    intro r hr
    rcases List.mem_append.mp hr with hcursor | hstyle
    · exact List.mem_append_left A hcursor
    · exact List.mem_append_right _ (hA r hstyle)
  refine (agree_sendCharacters htext msg).conseq (fun _ _ h => h) (fun _ _ h => ?_)
  exact h.1.mono (fun r hr => List.mem_append_right _ hr) (fun _ hy => hy)

theorem agree_snprintf (size : ℕ) (format : Format) (value : CFloat) :
    Agrees engine undefinedText (Agree b font A D) (snprintf size format value)
      (Agree b font A D) := by
  cases format with
  | d =>
    have hopen : Agrees engine undefinedText (Agree b font A D)
        (ask (.undefinedText .d value)) (Agree b font A D) :=
      agree_quiet (fun _ => rfl) (fun _ _ _ => rfl)
    exact hopen.bind (fun _ => Coupled.pure _)
  | f precision => exact Coupled.pure _

theorem agree_writeValue (hA : ∀ r ∈ styleRegisters, r ∈ A) (v : ValueSpec) :
    Agrees engine undefinedText (Agree b (some .internal) A everywhere) (writeValue v)
      (Agree b (some .internal) A everywhere) := by
  have hnumber : ∀ (x y : UInt16) (whole many : Bool),
      Agrees engine undefinedText (Agree b (some .internal) A everywhere)
        (displayWriteNumberAt x y whole defaultValue many)
        (Agree b (some .internal) A everywhere) := by
    intro x y whole many
    unfold displayWriteNumberAt
    split_ifs <;>
      exact (agree_snprintf _ _ _).bind (fun _ => agree_writeTextAt_internal hA _ _ _)
  cases v with
  | float x y | manyDigits x y | whole x y => exact hnumber _ _ _ _
  | text x y msg => exact agree_writeTextAt_internal hA _ _ _

theorem agree_writeValues (hA : ∀ r ∈ styleRegisters, r ∈ A) (values : List ValueSpec) :
    Agrees engine undefinedText (Agree b (some .internal) A everywhere) (writeValues values)
      (Agree b (some .internal) A everywhere) :=
  Coupled.forM _ _ (fun v _ => agree_writeValue hA v)

theorem agree_writeTexts (texts : List TextSpec) :
    Agrees engine undefinedText (Agree b (some .comicSans) A D) (writeTexts texts)
      (Agree b (some .comicSans) A D) :=
  Coupled.forM _ _ (fun _ _ => agree_writeTextAt_comicSans _ _ _)

theorem agree_enableDrawMode :
    Agrees engine undefinedText (Agree b font A D) displayEnableDrawMode (Agree b font A D) :=
  agree_loadGraphic (Coupled.pure ())

theorem agree_setCurrentFont (f : DisplayFont) :
    Agrees engine undefinedText (Agree b font A D) (setCurrentFont f) (Agree b (some f) A D) :=
  agrees_perform fun _ _ h => ⟨rfl,
    ⟨h.left.graphic, h.left.glyphs, h.left.layer, h.left.completed, h.left.saved⟩,
    ⟨h.right.graphic, h.right.glyphs, h.right.layer, h.right.completed, h.right.saved⟩,
    fun g hg => by
    obtain rfl := Option.some.inj hg
    exact ⟨rfl, rfl⟩, h.regs, h.pixels⟩

theorem agree_enableTextComicSans :
    Agrees engine undefinedText (Agree b font A D) (displayEnableTextModeAndFont .comicSans)
      (Agree b (some .comicSans) A D) :=
  (agree_setCurrentFont .comicSans).seq agree_enableDrawMode

theorem agree_enableTextInternal :
    Agrees engine undefinedText (Agree b font A D) (displayEnableTextModeAndFont .internal)
      (Agree b (some .internal) (styleRegisters ++ A) D) := by
  have hmode : Agrees engine undefinedText (Agree b (some .internal) A D) leaveGraphicMode
      (Agree b (some .internal) (0x40 :: A) D) :=
    agree_loadGraphic (agree_write (by decide) (by simp))
  have hsize : Agrees engine undefinedText
      (Agree b (some .internal) (colorRegisters ++ 0x40 :: A) D)
      (displayInternalFontSize fontSizeTriple)
      (Agree b (some .internal) (0x21 :: 0x41 :: 0x22 :: (colorRegisters ++ 0x40 :: A)) D) :=
    (agree_write (by decide) (by simp)).seq ((agree_write (by decide) (fun _ => rfl)).seq
      (agree_write (by decide) (by simp)))
  have hstyle : ∀ r ∈ styleRegisters ++ A,
      r ∈ 0x21 :: 0x41 :: 0x22 :: (colorRegisters ++ 0x40 :: A) := by
    intro r hr
    simp only [styleRegisters, List.cons_append, List.mem_cons, List.mem_append] at hr ⊢
    tauto
  exact (agree_setCurrentFont .internal).seq (hmode.seq (agree_foregroundWhite.seq
    (hsize.conseq (fun _ _ h => h) (fun _ _ h => h.mono hstyle (fun _ hy => hy)))))

theorem agree_internalFontSize (size : UInt8) :
    Agrees engine undefinedText (Agree b font A D) (displayInternalFontSize size)
      (Agree b font A D) :=
  (agree_forget (by decide) (by simp)).seq ((agree_forget (by decide) (fun _ => rfl)).seq
    (agree_forget (by decide) (by simp)))

theorem agree_clear :
    Agrees engine undefinedText (Agree b font A D) ra8875Clear (Agree b font A E) := by
  refine agrees_perform (fun s t h => ⟨rfl, ?_⟩)
  rw [step_clear, step_clear]
  have hvalue : Agree b font (0x8E :: A) D (s.store 0x8E 0x80) (t.store 0x8E 0x80) :=
    h.store (by simp)
  have hstored := (hvalue.latch 0x8E 0x8E).mono (fun _ => List.mem_cons_of_mem _) (fun _ hy => hy)
  exact hstored.paint (fun _ _ _ => rfl)

theorem agree_resetState :
    Agrees engine undefinedText (Agree b font A D) displayResetState (Agree b font A E) :=
  agree_clear.seq ((agree_setTextCursor 0 0).seq (agree_foregroundWhite.conseq
    (fun _ _ h => h) (fun _ _ h => h.mono (fun r hr => by simp [hr]) (fun _ hy => hy))))

end Routines

end SteeringDisplay.PanelAgreement
