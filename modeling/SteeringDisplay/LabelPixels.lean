import SteeringDisplay.PlottedText
import SteeringDisplay.PrerenderedDebug
import SteeringDisplay.PanelLoop

set_option autoImplicit false

/-!
# The labels stay readable

After any switches every pixel of every label of the screen is white: what is drawn
after the labels is white too, or stays out of their rows.
-/
namespace SteeringDisplay.LabelPixels
open ProgramTree FirmwareInterface PanelDriver ComicSansFont NumberFormat DisplayScreens
open RectanglePlotter GlyphSpans ComicSansText PanelMachine PanelAgreement PanelRuns
open PanelHistory SparedRows PrerenderedDebug PlottedText PanelLoop

def labelPixels (t : TextSpec) : Set (ℕ × ℕ) :=
  textPixels glyphs t.x.toNat t.y.toNat (shown glyphs (cstring t.msg))

def labels : Screen → List TextSpec
  | .mainNoLaps => mainLabels false
  | .mainLaps => mainLabels true
  | .debugNoRtd => staticDebugLabels.1 ++ staticDebugLabels.2
  | .debugRtd => debugRtdLabels.1 ++ debugRtdLabels.2
  | .warn | .other _ _ => []

def Lit (texts : List TextSpec) (s : PanelState) : Prop :=
  ∀ t ∈ texts, ∀ (px : Fin 800) (py : Fin 480),
    ((px : ℕ), (py : ℕ)) ∈ labelPixels t → s.layers shownLayer px py = RectanglePlotter.white

theorem Lit.mono {texts texts' : List TextSpec} {s : PanelState} (h : Lit texts s)
    (hsub : ∀ t ∈ texts', t ∈ texts) : Lit texts' s :=
  fun t ht => h t (hsub t ht)

/-- No 16-bit sum wraps while the label is drawn. -/
def Placed (t : TextSpec) : Prop :=
  t.x.toNat + advances (shown glyphs (cstring t.msg)) + 16 ≤ 65535 ∧ t.y.toNat + 32 ≤ 65535

instance (t : TextSpec) : Decidable (Placed t) := inferInstanceAs (Decidable (_ ∧ _))

/-- The labels of `texts` are lit, and no row has to be kept. -/
structure Labelled (b : Frame) (font : Option DisplayFont) (texts : List TextSpec)
    (s : PanelState) : Prop where
  spares : Spares b font [] s
  lit : Lit texts s

section Panel
variable {engine : TextEngine} {undefinedText : Format → CFloat → List UInt8}
variable {b : Frame} {font : Option DisplayFont} {texts done : List TextSpec}

theorem darkFrom_loaded {cache : UInt8 → GlyphBuffer} (hcache : Loaded glyphs cache) {ch : UInt8}
    (hglyph : (glyphs ch).isSome) : DarkFrom 16 (cache ch) := by
  obtain ⟨g, hg⟩ := Option.isSome_iff_exists.mp hglyph
  rw [hcache ch g hg]
  refine darkFrom_precomputeGlyph fun byte hbyte => ?_
  rw [List.drop_eq_nil_of_le (by simp)] at hbyte
  exact absurd hbyte List.not_mem_nil

theorem labelled_nil {s : PanelState} (h : Spares b font [] s) : Labelled b font [] s :=
  ⟨h, fun _ ht => absurd ht List.not_mem_nil⟩

theorem labelled_delay (file : SourceFile) (ms : ℕ) :
    Hoare (panel engine undefinedText) (Labelled b font texts) (vTaskDelay file ms)
      fun _ => Labelled b font texts :=
  fun s h => ⟨spares_delay file ms s h.spares, h.lit⟩

section Drawn
variable (hfree : ∀ y, ¬ b.rows y)
include hfree

theorem spares_resetState :
    Hoare (panel engine undefinedText) (Spares b none []) displayResetState
      fun _ => Spares b none [] := fun _ h =>
  ⟨onscreen_cleared h.onscreen, fun _ hf => absurd hf (by simp), fun _ y hy => absurd hy (hfree y),
    fun _ ha => absurd ha List.not_mem_nil⟩

theorem spares_borders (lines : List LineSpec) :
    Hoare (panel engine undefinedText) (Spares b font []) (displayDrawBorders lines)
      fun _ => Spares b font [] :=
  Hoare.forM _ _ fun _ _ => spares_drawRect (fun y hy => absurd hy (hfree y)) (by simp)

/-- A label is lit once it is drawn, and the ones before it stay lit. -/
theorem labelled_text (hcache : Loaded glyphs b.glyphs) {t : TextSpec} (ht : Placed t) :
    Hoare (panel engine undefinedText) (Labelled b (some .comicSans) done)
      (displayWriteTextAt t.x t.y (cstring t.msg))
      fun _ => Labelled b (some .comicSans) (t :: done) := by
  intro s h
  have hlayer : s.writeLayer = 0 := writeLayer_zero h.spares.onscreen.layer
  have hload : Loaded glyphs s.statics.glyphCache := by
    rw [h.spares.onscreen.glyphs]
    exact hcache
  have hspares : Hoare (panel engine undefinedText) (Spares b (some .comicSans) [])
      (displayWriteTextAt t.x t.y (cstring t.msg)) fun _ => Spares b (some .comicSans) [] :=
    spares_writeTextAt_comicSans (fun ch _ => darkFrom_loaded hcache) ht.2
      (fun r hr => absurd hr (hfree r)) t.x
  refine ⟨hspares s h.spares, fun t' ht' px py hp => ?_⟩
  obtain ⟨hin, hout⟩ : (_ → (finish (panel engine undefinedText)
      (writeTextAt glyphs t.x t.y (cstring t.msg)) s).layers s.writeLayer px py = _) ∧ _ :=
    pixels_writeTextAt (h.spares.fonts _ rfl) hload ht.1 ht.2 px py
  rw [hlayer] at hin hout
  by_cases hnew : ((px : ℕ), (py : ℕ)) ∈ labelPixels t
  · exact hin hnew
  · rcases List.mem_cons.mp ht' with rfl | hdone
    · exact absurd hp hnew
    · exact (hout hnew).trans (h.lit t' hdone px py hp)

theorem labelled_texts (hcache : Loaded glyphs b.glyphs) (hplaced : ∀ t ∈ texts, Placed t) :
    Hoare (panel engine undefinedText) (Labelled b (some .comicSans) done) (writeTexts texts)
      fun _ => Labelled b (some .comicSans) (texts ++ done) := by
  induction texts generalizing done with
  | nil => exact Hoare.pure fun _ h => h
  | cons t texts ih =>
    obtain ⟨ht, hrest⟩ := List.forall_mem_cons.mp hplaced
    refine (labelled_text hfree hcache ht).seq ((ih hrest).conseq (fun _ h => h) fun _ _ h => ?_)
    refine ⟨h.spares, h.lit.mono fun t' ht' => ?_⟩
    simpa [or_left_comm] using ht'

theorem labelled_drawBorders (lines : List LineSpec) :
    Hoare (panel engine undefinedText) (Labelled b font texts) (displayDrawBorders lines)
      fun _ => Labelled b font texts := by
  refine Hoare.forM _ _ fun l _ s h => ?_
  have hspares : Hoare (panel engine undefinedText) (Spares b font [])
      (displayDrawRect l.x1 l.y1 l.x2 l.y2 colorWhite true) fun _ => Spares b font [] :=
    spares_drawRect (fun y hy => absurd hy (hfree y)) (by simp)
  refine ⟨hspares s h.spares, fun t ht px py hp => ?_⟩
  have hpainted : Painted _ _ s (finish (panel engine undefinedText)
      (displayDrawRect l.x1 l.y1 l.x2 l.y2 colorWhite true) s) :=
    run_drawRect l.x1 l.y1 l.x2 l.y2 colorWhite true s
  change (finish (panel engine undefinedText) (displayDrawRect l.x1 l.y1 l.x2 l.y2 colorWhite true)
    s).layers 0 px py = _
  rw [hpainted.layers, paint_layers h.spares.onscreen.layer, if_pos rfl]
  unfold drawRectOn
  split_ifs
  · rfl
  · exact h.lit t ht px py hp

end Drawn

def valueWidth : ValueSpec → ℕ
  | .float _ _ => 4
  | .manyDigits _ _ => 7
  | .whole _ _ => 1
  | .text _ _ msg => (cstring msg).length

def valuePlace : ValueSpec → UInt16 × UInt16
  | .float x y | .manyDigits x y | .whole x y | .text x y _ => (x, y)

/-- The value ends before the panel does, and its cells do not reach the rows of the labels. -/
def OffLabels (texts : List TextSpec) (v : ValueSpec) : Prop :=
  (valuePlace v).1.toNat + cellWidth fontSizeTriple * (valueWidth v + 1) ≤ 800 ∧
    ∀ t ∈ texts, (valuePlace v).2.toNat + cellHeight fontSizeTriple ≤ t.y.toNat ∨
      t.y.toNat + 32 ≤ (valuePlace v).2.toNat

instance (texts : List TextSpec) (v : ValueSpec) : Decidable (OffLabels texts v) :=
  inferInstanceAs (Decidable (_ ∧ _))

theorem fixedText_default : (fixedText 2 defaultValue).length = 4 ∧
    (fixedText 5 defaultValue).length = 7 := by
  decide +kernel

def valueStyle : List (UInt8 × UInt8) := [(0x22, fontSizeTriple), (0x40, 0x80)]

theorem spares_enableValues :
    Hoare (panel engine undefinedText) (Spares b none [])
      (displayEnableTextModeAndFont .internal) fun _ => Spares b (some .internal) valueStyle := by
  have hmode : Hoare (panel engine undefinedText) (Spares b (some .internal) []) leaveGraphicMode
      fun _ => Spares b (some .internal) [(0x40, 0x80)] :=
    spares_loadGraphic (spares_write (by decide) (by simp) (by simp))
  exact (spares_setCurrentFont .internal).seq (hmode.seq
    ((spares_foregroundWhite (by decide)).seq (spares_internalFontSize (by decide) fontSizeTriple)))

theorem spares_writeValue (hcell : CellWriter engine)
    (hwhole : (undefinedText .d defaultValue).length ≤ 1) {v : ValueSpec}
    (hrows : ∀ y, b.rows y → ∃ t ∈ texts, t.y.toNat ≤ (y : ℕ) ∧ (y : ℕ) < t.y.toNat + 32)
    (hv : OffLabels texts v) :
    Hoare (panel engine undefinedText) (Spares b (some .internal) valueStyle) (writeValue v)
      fun _ => Spares b (some .internal) valueStyle := by
  have htext : ∀ msg : List UInt8, msg.length ≤ valueWidth v →
      Hoare (panel engine undefinedText) (Spares b (some .internal) valueStyle)
        (displayWriteTextAt (valuePlace v).1 (valuePlace v).2 msg)
        fun _ => Spares b (some .internal) valueStyle := by
    intro msg hmsg
    have hstyle : ∀ a ∈ valueStyle, a.1 ∉ Footprints.cursorRegisters := by decide
    have hfits := hv.1
    have hmode : (0x40, 0x80) ∈ valueStyle := by decide
    have hsize : (0x22, fontSizeTriple) ∈ valueStyle := by decide
    refine spares_writeTextAt_internal hcell hmode hsize hstyle ?_ ?_
    · have hmul : cellWidth fontSizeTriple * (msg.length + 1) ≤
          cellWidth fontSizeTriple * (valueWidth v + 1) := Nat.mul_le_mul_left _ (by omega)
      omega
    · intro r hr hlow hhigh
      obtain ⟨t, ht, htop, hbottom⟩ := hrows r hr
      have hapart := hv.2 t ht
      omega
  have hdigits : ∀ (text : List UInt8) (n : ℕ), text.length ≤ n → (text.take 7).length ≤ n := by
    intro text n htext
    rw [List.length_take]
    omega
  cases v with
  | float x y =>
    change Hoare _ _ (displayWriteTextAt x y ((fixedText 2 defaultValue).take 7)) _
    exact htext _ (hdigits _ _ fixedText_default.1.le)
  | manyDigits x y =>
    change Hoare _ _ (displayWriteTextAt x y ((fixedText 5 defaultValue).take 10)) _
    refine htext _ ?_
    rw [List.length_take, fixedText_default.2]
    exact Nat.min_le_right _ _
  | whole x y =>
    intro s h
    exact htext ((undefinedText .d defaultValue).take 7) (hdigits _ _ hwhole) s h
  | text x y msg => exact htext (cstring msg) (Nat.le_refl _)

theorem labelPixels_rows {t : TextSpec} {p : ℕ × ℕ} (hp : p ∈ labelPixels t) :
    t.y.toNat ≤ p.2 ∧ p.2 < t.y.toNat + 32 := by
  obtain ⟨k, ch, g, -, -, row, col, dx, dy, hrow, -, -, -, hdy, rfl⟩ := hp
  dsimp only
  omega

theorem lit_values (hcell : CellWriter engine)
    (hwhole : (undefinedText .d defaultValue).length ≤ 1) {values : List ValueSpec}
    (hvalues : ∀ v ∈ values, OffLabels texts v) :
    Hoare (panel engine undefinedText) (Labelled b font texts)
      (displayEnableTextModeAndFont .internal >>= fun _ => writeValues values)
      fun _ => Lit texts := by
  intro s h
  have hkept : Hoare (panel engine undefinedText)
      (Spares ⟨b.glyphs, b.saved, fun y => ∃ t ∈ texts, t.y.toNat ≤ (y : ℕ) ∧
        (y : ℕ) < t.y.toNat + 32, s.layers 0⟩ none [])
      (displayEnableTextModeAndFont .internal >>= fun _ => writeValues values)
      fun _ => Spares _ (some .internal) valueStyle :=
    spares_enableValues.seq (Hoare.forM _ _ fun v hv =>
      spares_writeValue hcell hwhole (fun _ hy => hy) (hvalues v hv))
  have hend := hkept s ⟨h.spares.onscreen, fun _ hf => absurd hf (by simp), fun _ _ _ => rfl,
    fun _ ha => absurd ha List.not_mem_nil⟩
  intro t ht px py hp
  exact (hend.rows px py ⟨t, ht, labelPixels_rows hp⟩).trans (h.lit t ht px py hp)

section Screens
variable (hfree : ∀ y, ¬ b.rows y) (hcache : Loaded glyphs b.glyphs) (hcell : CellWriter engine)
variable (hwhole : (undefinedText .d defaultValue).length ≤ 1)
include hfree hcache hcell hwhole

theorem lit_renderMainScreen (isLaps : Bool) :
    Hoare (panel engine undefinedText) (Spares b none []) (displayRenderMainScreen isLaps)
      fun _ => Lit (mainLabels isLaps) := by
  have hplaced : ∀ t ∈ mainLabels isLaps, Placed t := by
    cases isLaps <;> decide +kernel
  have hvalues : ∀ v ∈ mainValues isLaps, OffLabels (mainLabels isLaps ++ []) v := by
    cases isLaps <;> decide
  have hbar : Hoare (panel engine undefinedText) (Spares b none []) (mainBar isLaps)
      fun _ => Spares b none [] := by
    cases isLaps with
    | true => exact spares_drawRect (fun y hy => absurd hy (hfree y)) (by simp)
    | false => exact spares_drawRect (fun y hy => absurd hy (hfree y)) (by simp)
  have hrest : Hoare (panel engine undefinedText) (Labelled b (some .comicSans) [])
      (writeTexts (mainLabels isLaps) >>= fun _ => displayEnableTextModeAndFont .internal >>=
        fun _ => writeValues (mainValues isLaps)) fun _ => Lit (mainLabels isLaps) :=
    (labelled_texts hfree hcache hplaced).seq ((lit_values hcell hwhole hvalues).conseq
      (fun _ h => h) fun _ _ h => h.mono (by simp))
  exact (spares_resetState hfree).seq (spares_enableDrawMode.seq (hbar.seq
    ((spares_borders hfree _).seq ((spares_delay _ _).seq (spares_enableTextComicSans.seq
      (hrest.conseq (fun _ h => labelled_nil h) fun _ _ h => h))))))

theorem lit_debugLabels {first second : List TextSpec} {values : List ValueSpec}
    (hplaced : ∀ t ∈ first ++ second, Placed t)
    (hvalues : ∀ v ∈ values, OffLabels (second ++ (first ++ [])) v) (lines : List LineSpec) :
    Hoare (panel engine undefinedText) (Labelled b (some .comicSans) [])
      (writeTexts first >>= fun _ => vTaskDelay .display watchdogDelay >>= fun _ =>
        writeTexts second >>= fun _ => displayDrawBorders lines >>= fun _ =>
          displayEnableTextModeAndFont .internal >>= fun _ => writeValues values)
      fun _ => Lit (first ++ second) := by
  refine (labelled_texts hfree hcache fun t ht => hplaced t (List.mem_append_left _ ht)).seq
    ((labelled_delay _ _).seq ((labelled_texts hfree hcache fun t ht =>
      hplaced t (List.mem_append_right _ ht)).seq ((labelled_drawBorders hfree lines).seq
        ((lit_values hcell hwhole hvalues).conseq (fun _ h => h) fun _ _ h => h.mono ?_))))
  intro t ht
  simpa [or_comm] using ht

theorem lit_renderStaticDebugScreen :
    Hoare (panel engine undefinedText) (Spares b none []) displayRenderStaticDebugScreen
      fun _ => Lit (staticDebugLabels.1 ++ staticDebugLabels.2) := by
  have hplaced : ∀ t ∈ staticDebugLabels.1 ++ staticDebugLabels.2, Placed t := by decide +kernel
  have hvalues : ∀ v ∈ staticDebugValues,
      OffLabels (staticDebugLabels.2 ++ (staticDebugLabels.1 ++ [])) v := by decide
  exact (spares_resetState hfree).seq (spares_enableDrawMode.seq ((spares_borders hfree _).seq
    (spares_enableTextComicSans.seq ((lit_debugLabels hfree hcache hcell hwhole hplaced hvalues
      []).conseq (fun _ h => labelled_nil h) fun _ _ h => h))))

theorem lit_plainDebugRtd :
    Hoare (panel engine undefinedText) (Spares b none []) plainDebugRtd
      fun _ => Lit (debugRtdLabels.1 ++ debugRtdLabels.2) := by
  have hplaced : ∀ t ∈ debugRtdLabels.1 ++ debugRtdLabels.2, Placed t := by decide +kernel
  have hvalues : ∀ v ∈ debugRtdValues, OffLabels (debugRtdLabels.2 ++ (debugRtdLabels.1 ++ [])) v := by
    decide
  have hplain : plainDebugRtd = displayResetState >>= fun _ => displayEnableDrawMode >>= fun _ =>
      displayDrawRect 200 170 600 240 colorRed true >>= fun _ =>
        displayEnableTextModeAndFont .comicSans >>= fun _ => writeTexts debugRtdLabels.1 >>=
          fun _ => vTaskDelay .display watchdogDelay >>= fun _ => writeTexts debugRtdLabels.2 >>=
            fun _ => displayDrawBorders debugBordersRtd >>= fun _ =>
              displayEnableTextModeAndFont .internal >>= fun _ => writeValues debugRtdValues := by
    unfold plainDebugRtd debugLabels comicSansLabels debugValues
    simp only [bind_assoc]
  rw [hplain]
  exact (spares_resetState hfree).seq (spares_enableDrawMode.seq
    ((spares_drawRect (fun y hy => absurd hy (hfree y)) (by simp)).seq
      (spares_enableTextComicSans.seq ((lit_debugLabels hfree hcache hcell hwhole hplaced hvalues
        debugBordersRtd).conseq (fun _ h => labelled_nil h) fun _ _ h => h))))

end Screens

variable (engine undefinedText) in
theorem lit_picture (hcell : CellWriter engine)
    (hwhole : (undefinedText .d defaultValue).length ≤ 1) {p c : PanelState} (hp : Starting p)
    (hloaded : Loaded glyphs p.statics.glyphCache) {saved : PixelLayer}
    (hsaved : saved = copiedBlock ((loaded engine undefinedText p).layers 0)
      ((loaded engine undefinedText p).layers 1) 800 400)
    (hc : Onscreen p.statics.glyphCache saved c) (S : Screen) {t : TextSpec} (ht : t ∈ labels S)
    (px : Fin 800) (py : Fin 480) (hpixel : ((px : ℕ), (py : ℕ)) ∈ labelPixels t) :
    picture engine undefinedText c S px py = RectanglePlotter.white := by
  have hfree : ∀ y, ¬ (⟨p.statics.glyphCache, saved, nowhere, fun _ _ => black⟩ : Frame).rows y :=
    fun _ hy => hy
  have hspares : Spares ⟨p.statics.glyphCache, saved, nowhere, fun _ _ => black⟩ none [] c :=
    ⟨hc, fun _ hf => absurd hf (by simp), fun _ y hy => absurd hy (hfree y),
      fun _ ha => absurd ha List.not_mem_nil⟩
  cases S with
  | mainNoLaps => exact lit_renderMainScreen hfree hloaded hcell hwhole false c hspares t ht px py hpixel
  | mainLaps => exact lit_renderMainScreen hfree hloaded hcell hwhole true c hspares t ht px py hpixel
  | debugNoRtd =>
    exact lit_renderStaticDebugScreen hfree hloaded hcell hwhole c hspares t ht px py hpixel
  | debugRtd =>
    have hplain := usePrerendered_plain hcell hp hloaded hsaved hc
    have hlit := lit_plainDebugRtd hfree hloaded hcell hwhole c hspares t ht px py hpixel
    exact (congrFun (congrFun hplain px) py).trans hlit
  | warn | other value outside => exact absurd ht List.not_mem_nil

end Panel

def Readable (s : PanelState) : Prop := Lit (labels s.statics.currentScreen) s

section Readable
variable {engine : TextEngine} (hcell : CellWriter engine)
variable {undefinedText : Format → CFloat → List UInt8}
variable (hwhole : (undefinedText .d defaultValue).length ≤ 1)
variable {layers : Fin 2 → PixelLayer} {tries : ℕ}
include hcell hwhole

theorem readable_of_shows {cache : UInt8 → GlyphBuffer} {saved : PixelLayer} {s : PanelState}
    (hsaved : saved = copiedBlock
      ((loaded engine undefinedText (prepared engine undefinedText layers tries)).layers 0)
      ((loaded engine undefinedText (prepared engine undefinedText layers tries)).layers 1) 800 400)
    (hs : Shows engine undefinedText cache saved (prerendered engine undefinedText layers tries) s) :
    Readable s := by
  intro t ht px py hpixel
  have hc : Onscreen (prepared engine undefinedText layers tries).statics.glyphCache saved
      (prerendered engine undefinedText layers tries) := by
    rw [hsaved]
    exact onscreen_prerendered layers tries
  rw [hs.shown]
  exact lit_picture engine undefinedText hcell hwhole (starting_prepared layers tries)
    (loaded_prepared layers tries) hsaved hc s.statics.currentScreen ht px py hpixel

end Readable

/-- After any switches the labels of the current screen can be read, and so they can at each
    loop head of the program and whenever its task sleeps. -/
theorem labels_readable (engine : TextEngine) (hcell : CellWriter engine)
    (undefinedText : Format → CFloat → List UInt8)
    (hwhole : (undefinedText .d defaultValue).length ≤ 1) (layers : Fin 2 → PixelLayer)
    (tries : ℕ) :
    (∀ xs, Readable (panelAfter engine undefinedText layers tries xs)) ∧
    (∀ s, WheelReach engine undefinedText layers (tries + 1) (.ret true) s → Readable s.panel) ∧
    ∀ ms k s, WheelReach engine undefinedText layers (tries + 1) (.op (.vTaskDelay .main ms) k) s →
      Readable s.panel := by
  have hc : Onscreen _ _ (prerendered engine undefinedText layers tries) :=
    onscreen_prerendered layers tries
  obtain ⟨hhead, hsleep⟩ := panel_invariant (shows_displayInit hc) (hoare_switchScreen hc)
  refine ⟨fun xs => ?_, fun s h => ?_, fun ms k s h => ?_⟩
  · exact readable_of_shows hcell hwhole rfl (shows_after hc xs)
  · exact readable_of_shows hcell hwhole rfl (hhead s h)
  · exact readable_of_shows hcell hwhole rfl (hsleep ms k s h)

theorem labels_readable_laps :
    (panelAfter blockFont (fun _ _ => [48]) (fun _ _ _ => black) 0 [.mainLaps]).layers shownLayer 30 11 =
      RectanglePlotter.white := by
  have hscreen : (panelAfter blockFont (fun _ _ => [48]) (fun _ _ _ => black) 0
      [.mainLaps]).statics.currentScreen = .mainLaps := by
    rw [screen_after]
    rfl
  have hlabel : (⟨30, 0 + labelsYOffset, "Lap Diff"⟩ : TextSpec) ∈ labels .mainLaps :=
    List.mem_cons_self ..
  have hletter : (shown glyphs (cstring "Lap Diff"))[0]? = some 76 := by decide +kernel
  obtain ⟨g, hglyph, hcorner⟩ : ∃ g, glyphs 76 = some g ∧ litBit g 0 0 = true :=
    ⟨⟨#v[0xC0, 0xC0, 0xC0, 0xC0, 0xC0, 0xC0, 0xC0, 0xC0, 0x80, 0x80, 0x8E, 0xFC, 0, 0, 0, 0]⟩,
      rfl, by decide⟩
  rw [← hscreen] at hlabel
  have hpixel : (((30 : Fin 800) : ℕ), ((11 : Fin 480) : ℕ)) ∈
      labelPixels ⟨30, 0 + labelsYOffset, "Lap Diff"⟩ :=
    ⟨0, 76, g, hletter, hglyph, 0, 0, 0, 0, by decide, by decide, hcorner, by decide, by decide, rfl⟩
  have hreadable : Readable (panelAfter blockFont (fun _ _ => [48]) (fun _ _ _ => black) 0 [.mainLaps]) :=
    (labels_readable blockFont blockFont_cellWriter (fun _ _ => [48]) (by decide)
      (fun _ _ _ => black) 0).1 [.mainLaps]
  exact hreadable _ hlabel 30 11 hpixel

end SteeringDisplay.LabelPixels
