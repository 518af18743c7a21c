import SteeringDisplay.ComicSansText
import SteeringDisplay.SparedRows

set_option autoImplicit false

/-!
# Rectangles of the plotter on the layers of the panel

The plotter lists the rectangles that a program starts. The panel paints them one
after the other on the layer to write to.
-/
namespace SteeringDisplay.PlottedText
open ProgramTree FirmwareInterface PanelDriver ComicSansFont DisplayScreens
open Footprints ModeRegister WriteLayer PanelRegisters RectanglePlotter GlyphSpans ComicSansText
open PanelMachine PanelAgreement SparedRows

def paintOn (l : PixelLayer) (r : Rectangle) : PixelLayer :=
  drawRectOn r.x1 r.y1 r.x2 r.y2 r.filled r.color l

theorem paintOn_covered {r : Rectangle} (hr : r.filled = true) (l : PixelLayer) {x : Fin 800}
    {y : Fin 480} (h : r.Covers (x, y)) : paintOn l r x y = r.color :=
  if_pos ⟨h, Or.inl hr⟩

theorem paintOn_uncovered {r : Rectangle} (l : PixelLayer) {x : Fin 800} {y : Fin 480}
    (h : ¬ r.Covers (x, y)) : paintOn l r x y = l x y :=
  if_neg fun hin => h hin.1

theorem foldl_paintOn {c : Pixel} (rs : List Rectangle)
    (hrs : ∀ r ∈ rs, r.color = c ∧ r.filled = true) (l : PixelLayer) (x : Fin 800) (y : Fin 480) :
    ((∃ r ∈ rs, r.Covers (x, y)) → rs.foldl paintOn l x y = c) ∧
      ((∀ r ∈ rs, ¬ r.Covers (x, y)) → rs.foldl paintOn l x y = l x y) := by
  induction rs generalizing l with
  | nil => exact ⟨fun h => absurd h (by simp), fun _ => rfl⟩
  | cons r rs ih =>
    obtain ⟨⟨hcolor, hfilled⟩, hrest⟩ := List.forall_mem_cons.mp hrs
    obtain ⟨hin, hout⟩ := ih hrest (paintOn l r)
    rw [List.foldl_cons]
    refine ⟨fun hcovered => ?_, fun hnone => ?_⟩
    · by_cases hlater : ∃ r ∈ rs, r.Covers (x, y)
      · exact hin hlater
      · obtain ⟨r', hr', hcovers⟩ := hcovered
        have hlast : ∀ r ∈ rs, ¬ r.Covers (x, y) := fun r hr hc => hlater ⟨r, hr, hc⟩
        rcases List.mem_cons.mp hr' with rfl | hmem
        · rw [hout hlast, paintOn_covered hfilled l hcovers, hcolor]
        · exact absurd hcovers (hlast r' hmem)
    · obtain ⟨hfirst, hothers⟩ := List.forall_mem_cons.mp hnone
      rw [hout hothers, paintOn_uncovered l hfirst]

/-- The panel and the plotter have seen the same operations, which painted on the layer `w`. -/
structure FollowsPlotter (w : Fin 2) (base : Fin 2 → PixelLayer) (s : PanelState)
    (t : Controller × Plotter) : Prop where
  statics : s.statics = t.1.statics
  regs : s.regs = t.2.registers.regs
  latch : s.latch = t.2.registers.latch
  target : s.writeLayer = w
  layers : s.layers = Function.update base w (t.2.drawn.foldl paintOn (base w))

section Runs
variable {engine : TextEngine} {undefinedText : Format → CFloat → List UInt8}
variable {oracle : ℕ → (o : Op) → o.Res} {w : Fin 2} {base : Fin 2 → PixelLayer}

theorem FollowsPlotter.rectangle {s : PanelState} {t : Controller × Plotter} (h : FollowsPlotter w base s t)
    (value : UInt8) :
    (s.rectangle value).layers = Function.update base w
      ((t.2.drawn ++ [rectangleOf t.2.registers.regs value]).foldl paintOn (base w)) := by
  have hlayer : s.layers w = t.2.drawn.foldl paintOn (base w) := by
    rw [h.layers, Function.update_self]
  change Function.update s.layers s.writeLayer
    (paintOn (s.layers s.writeLayer) (rectangleOf s.regs value)) = _
  rw [h.target, hlayer, h.layers, Function.update_idem, h.regs, List.foldl_append]
  rfl

theorem plain_paint {reg : UInt8} (hreg : reg ∈ paintRegisters) (hne : reg ≠ 0x90) : Plain reg := by
  revert reg
  decide

theorem step_noStart {value : UInt8} (hbit : value &&& 0x80 = 0) (s : PanelState) :
    s.step engine (.writeRegister 0x90 value) = { s.store 0x90 value with latch := 0x90 } := by
  have hne : (0x90 : UInt8) ≠ 0x02 ∧ (0x90 : UInt8) ≠ 0xF1 := by decide
  change PanelState.data engine _ value = _
  unfold PanelState.data PanelState.command
  rw [if_neg hne.1, if_neg hne.2, if_pos hbit]
  rfl

theorem follows_store {s : PanelState} {t : Controller × Plotter} (h : FollowsPlotter w base s t)
    {reg : UInt8} (hreg : reg ≠ 0x02 ∧ reg ≠ 0x41) (value : UInt8) :
    let m := t.2.registers.step (.writeRegister reg value)
    FollowsPlotter w base { s.store reg value with latch := reg } (t.1, ⟨m, t.2.drawn⟩) := by
  intro m
  have hdata : m = ⟨Function.update t.2.registers.regs reg value, reg⟩ := if_neg hreg.1
  have htarget : (Function.update s.regs reg value) 0x41 = s.regs 0x41 :=
    Function.update_of_ne hreg.2.symm ..
  refine ⟨h.statics, ?_, ?_, ?_, h.layers⟩
  · rw [hdata, ← h.regs]
    rfl
  · rw [hdata]
  · rw [← h.target]
    exact congrArg (fun v : UInt8 => if v &&& 1 = 0 then shownLayer else hiddenLayer) htarget

theorem follows_write {s : PanelState} {t : Controller × Plotter} (h : FollowsPlotter w base s t)
    {reg : UInt8} (hreg : reg ∈ paintRegisters) (value : UInt8) :
    FollowsPlotter w base (s.step engine (.writeRegister reg value))
      (monitored (controller oracle) Plotter.step (.writeRegister reg value) t).2 := by
  have hne : reg ≠ 0x02 ∧ reg ≠ 0x41 := by
    revert reg
    decide
  have hstored := follows_store h hne value
  by_cases hstart : reg = 0x90 ∧ value &&& 0x80 ≠ 0
  · obtain ⟨rfl, hbit⟩ := hstart
    have hstarted : started t.2.registers (.writeRegister 0x90 value) =
        [rectangleOf t.2.registers.regs value] := if_pos ⟨rfl, hbit⟩
    have hdrawn : (monitored (controller oracle) Plotter.step (.writeRegister 0x90 value) t).2.2.drawn =
        t.2.drawn ++ [rectangleOf t.2.registers.regs value] := congrArg (t.2.drawn ++ ·) hstarted
    rw [step_rectangle hbit]
    refine ⟨hstored.statics, hstored.regs, hstored.latch, hstored.target, ?_⟩
    rw [hstored.rectangle, hdrawn]
    rfl
  · have hdrawn : (monitored (controller oracle) Plotter.step (.writeRegister reg value) t).2.2.drawn =
        t.2.drawn := by
      have hstarted : started t.2.registers (.writeRegister reg value) = [] := if_neg hstart
      exact (congrArg (t.2.drawn ++ ·) hstarted).trans (List.append_nil _)
    have hstep : s.step engine (.writeRegister reg value) =
        { s.store reg value with latch := reg } := by
      by_cases hrect : reg = 0x90
      · obtain rfl := hrect
        have hbit : value &&& 0x80 = 0 := not_not.mp fun hbit => hstart ⟨rfl, hbit⟩
        exact step_noStart hbit s
      · exact step_plain (plain_paint hreg hrect) value s
    rw [hstep]
    refine ⟨hstored.statics, hstored.regs, hstored.latch, hstored.target, ?_⟩
    rw [hdrawn]
    exact hstored.layers

theorem follows_read {s : PanelState} {t : Controller × Plotter} (h : FollowsPlotter w base s t)
    (steps : ℕ) :
    FollowsPlotter w base s (⟨t.1.statics, t.1.mode, steps⟩, ⟨t.2.registers, t.2.drawn ++ []⟩) := by
  refine ⟨h.statics, h.regs, h.latch, h.target, ?_⟩
  rw [List.append_nil]
  exact h.layers

theorem follows_plotting {α : Type} {p : Firmware α} (hp : Only Plotting p) {s : PanelState}
    {t : Controller × Plotter} (h : FollowsPlotter w base s t) :
    FollowsPlotter w base (finish (panel engine undefinedText) p s)
      (finish (monitored (controller oracle) Plotter.step) p t) := by
  refine (hp.related (R := FollowsPlotter w base) (fun o s t ho hst => ?_) h).2
  cases o with
  | writeRegister reg value => exact ⟨rfl, follows_write hst ho value⟩
  | currentFont => exact ⟨congrArg Statics.currentFont hst.statics, follows_read hst _⟩
  | glyphCache ch =>
    exact ⟨congrArg (Statics.glyphCache · ch) hst.statics, follows_read hst _⟩
  | _ => exact ho.elim

def plotterOn (s : PanelState) : Controller × Plotter := (⟨s.statics, 0x00, 0⟩, ⟨⟨s.regs, s.latch⟩, []⟩)

theorem follows_plotterOn (s : PanelState) : FollowsPlotter s.writeLayer s.layers s (plotterOn s) :=
  ⟨rfl, rfl, rfl, rfl, (Function.update_eq_self _ _).symm⟩

theorem layers_blitCharacters {table : UInt8 → Option Glyph8x16} {x y : UInt16} {msg : List UInt8}
    {s : PanelState} (hx : x.toNat + advances (shown table msg) + 16 ≤ 65535)
    (hy : y.toNat + 32 ≤ 65535) :
    (finish (panel engine undefinedText) (blitCharacters table x y msg) s).layers =
      Function.update s.layers s.writeLayer
        ((textSpans s.statics.glyphCache x.toNat y.toNat (shown table msg)).foldl paintOn
          (s.layers s.writeLayer)) := by
  have hfollows : FollowsPlotter s.writeLayer s.layers
      (finish (panel engine undefinedText) (blitCharacters table x y msg) s)
      (finish (monitored (controller fun _ => fun o => o.quietAnswer .initial) Plotter.step)
        (blitCharacters table x y msg) (plotterOn s)) :=
    follows_plotting (blitCharacters_plotting table x y msg) (follows_plotterOn s)
  rw [hfollows.layers, blitCharacters_shown, finish_eq,
    (run_blitCharacters hy (shown table msg) x (plotterOn s) (shown_bearing table msg) hx).1]
  rfl

theorem finish_loadFont {α : Type} {f : DisplayFont} {k : DisplayFont → Firmware α} {s : PanelState}
    (hs : s.statics.currentFont = f) :
    finish (panel engine undefinedText) (loadCurrentFont >>= k) s =
      finish (panel engine undefinedText) (k f) s := by
  rw [finish_bind]
  change finish _ (k s.statics.currentFont) s = _
  rw [hs]

theorem layers_writeTextAt {table : UInt8 → Option Glyph8x16} {x y : UInt16} {msg : List UInt8}
    {s : PanelState} (hfont : s.statics.currentFont = .comicSans)
    (hx : x.toNat + advances (shown table msg) + 16 ≤ 65535) (hy : y.toNat + 32 ≤ 65535) :
    (finish (panel engine undefinedText) (writeTextAt table x y msg) s).layers =
      Function.update s.layers s.writeLayer
        ((textSpans s.statics.glyphCache x.toNat y.toNat (shown table msg)).foldl paintOn
          (s.layers s.writeLayer)) := by
  unfold writeTextAt
  rw [finish_loadFont hfont]
  exact layers_blitCharacters hx hy

theorem textSpans_white {cache : UInt8 → GlyphBuffer} {X Y : ℕ} {chs : List UInt8} :
    ∀ r ∈ textSpans cache X Y chs, r.color = white ∧ r.filled = true := by
  intro r hr
  obtain ⟨c, -, hc⟩ := List.mem_flatMap.mp hr
  obtain ⟨col, -, a, b, -, rfl⟩ := mem_spansOf.mp hc
  exact ⟨rfl, rfl⟩

theorem pixels_writeTextAt {table : UInt8 → Option Glyph8x16} {x y : UInt16} {msg : List UInt8}
    {s : PanelState} (hfont : s.statics.currentFont = .comicSans)
    (hload : Loaded table s.statics.glyphCache)
    (hx : x.toNat + advances (shown table msg) + 16 ≤ 65535) (hy : y.toNat + 32 ≤ 65535)
    (px : Fin 800) (py : Fin 480) :
    let drawn := (finish (panel engine undefinedText) (writeTextAt table x y msg) s).layers s.writeLayer
    let lit := textPixels table x.toNat y.toNat (shown table msg)
    (((px : ℕ), (py : ℕ)) ∈ lit → drawn px py = white) ∧
      (((px : ℕ), (py : ℕ)) ∉ lit → drawn px py = s.layers s.writeLayer px py) := by
  intro drawn lit
  have hdrawn : drawn = (textSpans s.statics.glyphCache x.toNat y.toNat
      (shown table msg)).foldl paintOn (s.layers s.writeLayer) := by
    have hlayers : (finish (panel engine undefinedText) (writeTextAt table x y msg) s).layers = _ :=
      layers_writeTextAt hfont hx hy
    exact (congrFun hlayers s.writeLayer).trans (Function.update_self ..)
  have hcovers : (∃ r ∈ textSpans s.statics.glyphCache x.toNat y.toNat (shown table msg),
      r.Covers ((px : ℕ), (py : ℕ))) ↔ ((px : ℕ), (py : ℕ)) ∈ lit :=
    Set.ext_iff.mp (covers_textSpans hload fun ch hch => (shown_bearing table msg ch hch).2) _
  obtain ⟨hin, hout⟩ := foldl_paintOn _ textSpans_white (s.layers s.writeLayer) px py
  rw [hdrawn]
  refine ⟨fun hp => hin (hcovers.mpr hp), fun hp => hout fun r hr hc => ?_⟩
  exact hp (hcovers.mp ⟨r, hr, hc⟩)

end Runs

/-- A text in Comic Sans is white on the layer to write to, and nothing else has changed. -/
theorem comic_sans_pixels (engine : TextEngine) (undefinedText : Format → CFloat → List UInt8)
    (table : UInt8 → Option Glyph8x16) (x y : UInt16) (msg : List UInt8) (s : PanelState)
    (hfont : s.statics.currentFont = .comicSans) (hload : Loaded table s.statics.glyphCache)
    (hx : x.toNat + advances (shown table msg) + 16 ≤ 65535) (hy : y.toNat + 32 ≤ 65535)
    (l : Fin 2) (px : Fin 800) (py : Fin 480) :
    let t := finish (panel engine undefinedText) (writeTextAt table x y msg) s
    let lights := l = s.writeLayer ∧
      ((px : ℕ), (py : ℕ)) ∈ textPixels table x.toNat y.toNat (shown table msg)
    (lights → t.layers l px py = white) ∧ (¬ lights → t.layers l px py = s.layers l px py) := by
  intro t lights
  obtain ⟨hin, hout⟩ : (_ ∈ _ → t.layers s.writeLayer px py = _) ∧ _ :=
    pixels_writeTextAt hfont hload hx hy px py
  have hothers : l ≠ s.writeLayer → t.layers l = s.layers l := by
    intro hl
    have hlayers : t.layers = Function.update s.layers s.writeLayer _ :=
      layers_writeTextAt hfont hx hy
    rw [hlayers, Function.update_of_ne hl]
  constructor
  · rintro ⟨rfl, hp⟩
    exact hin hp
  · intro hnot
    by_cases hl : l = s.writeLayer
    · obtain rfl := hl
      exact hout fun hp => hnot ⟨rfl, hp⟩
    · rw [hothers hl]

def offscreenComicSans : PanelState :=
  finish (panel blockFont fun _ _ => [])
    (displayPrecomputeGlyphs >>= fun _ => displayEnableTextModeAndFont .comicSans >>= fun _ =>
      ra8875SetWritingLayer layerOffscreen)
    (.powerUp fun _ _ _ => black)

theorem offscreenComicSans_ready :
    offscreenComicSans.statics.currentFont = .comicSans ∧
      Loaded glyphs offscreenComicSans.statics.glyphCache ∧ offscreenComicSans.writeLayer = 1 := by
  have hselected : ∀ s : PanelState, (finish (panel blockFont fun _ _ => [])
      (ra8875SetWritingLayer layerOffscreen) s).writeLayer = 1 := by
    intro s
    have hone : ¬ (layerOffscreen &&& 1) &&& 1 = 0 := by decide
    change (s.step blockFont (.writeRegister 0x41 (layerOffscreen &&& 1))).writeLayer = 1
    rw [step_plain (by decide)]
    exact if_neg hone
  have hchoice : ∀ s : PanelState,
      let t := finish (panel blockFont fun _ _ => []) (displayEnableTextModeAndFont .comicSans >>=
        fun _ => ra8875SetWritingLayer layerOffscreen) s
      t.statics.currentFont = .comicSans ∧ t.statics.glyphCache = s.statics.glyphCache ∧
        t.writeLayer = 1 := by
    intro s
    dsimp only
    rw [finish_bind]
    refine ⟨?_, ?_, hselected _⟩
    · obtain ⟨⟨font, graphic, screen, cache⟩, regs, latch, completed, layers⟩ := s
      cases graphic <;> rfl
    · obtain ⟨⟨font, graphic, screen, cache⟩, regs, latch, completed, layers⟩ := s
      cases graphic <;> rfl
  unfold offscreenComicSans displayPrecomputeGlyphs
  rw [finish_bind]
  obtain ⟨hfont, hcache, hlayer⟩ := hchoice
    (finish (panel blockFont fun _ _ => []) (precomputeGlyphs glyphs) (.powerUp fun _ _ _ => black))
  refine ⟨hfont, ?_, hlayer⟩
  rw [hcache]
  exact loaded_of_store (panel blockFont fun _ _ => []) (fun u => u.statics.glyphCache)
    (fun _ _ _ => rfl) _

theorem comic_sans_pixels_offscreen :
    (finish (panel blockFont fun _ _ => [])
      (writeTextAt glyphs 30 11 (cstring "Lap Diff")) offscreenComicSans).layers 1 30 11 = white := by
  obtain ⟨hfont, hload, hlayer⟩ := offscreenComicSans_ready
  have hfits : (30 : UInt16).toNat + advances (shown glyphs (cstring "Lap Diff")) + 16 ≤ 65535 := by
    decide +kernel
  have hletter : (shown glyphs (cstring "Lap Diff"))[0]? = some 76 := by decide +kernel
  obtain ⟨g, hglyph, hcorner⟩ : ∃ g, glyphs 76 = some g ∧ litBit g 0 0 = true := by
    refine ⟨⟨#v[0xC0, 0xC0, 0xC0, 0xC0, 0xC0, 0xC0, 0xC0, 0xC0, 0x80, 0x80, 0x8E, 0xFC, 0, 0, 0, 0]⟩,
      by rfl, by decide⟩
  have hpixels := comic_sans_pixels blockFont (fun _ _ => []) glyphs 30 11 (cstring "Lap Diff")
    offscreenComicSans hfont hload hfits (by decide) 1 30 11
  refine hpixels.1 ⟨hlayer.symm, 0, 76, g, hletter, hglyph, 0, 0, 0, 0, ?_⟩
  exact ⟨by decide, by decide, hcorner, by decide, by decide, rfl⟩

end SteeringDisplay.PlottedText
