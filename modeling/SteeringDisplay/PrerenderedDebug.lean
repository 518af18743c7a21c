import SteeringDisplay.SparedRows

set_option autoImplicit false

/-!
# The prerendered labels

The fast path of the RTD debug screen copies back rows that the loading screen has
drawn. It leaves the picture that drawing the labels in place would leave.
-/
namespace SteeringDisplay.PrerenderedDebug
open ProgramTree FirmwareInterface PanelDriver ComicSansFont DisplayScreens
open Footprints PanelMachine PanelAgreement PanelRuns PanelHistory GlyphSpans SparedRows

def comicSansLabels : Firmware Unit := do
  displayEnableTextModeAndFont .comicSans
  writeTexts debugRtdLabels.1
  vTaskDelay .display watchdogDelay
  writeTexts debugRtdLabels.2

def debugLabels : Firmware Unit := do
  displayDrawRect 200 170 600 240 colorRed true
  comicSansLabels

def debugValues : Firmware Unit := do
  displayDrawBorders debugBordersRtd
  displayEnableTextModeAndFont .internal
  writeValues debugRtdValues

/-- The RTD debug screen drawn in place, without the loading box and its text. -/
def plainDebugRtd : Firmware Unit := do
  displayResetState
  displayEnableDrawMode
  debugLabels
  debugValues

def loadingNotice : Firmware Unit := do
  displayDrawRect 0 415 800 480 colorYellow true
  vTaskDelay .display defaultDelay
  displayEnableTextModeAndFont .internal
  displayInternalFontSize fontSizeDouble
  ra8875WriteRegister 0x63 0x00
  ra8875WriteRegister 0x64 0x00
  ra8875WriteRegister 0x65 0x03
  displayWriteTextAt 40 430 (cstring "<<< PLEASE WAIT >>>     Loading Cumic Sans... ")

theorem loadingPicture_eq : loadingPicture =
    displayDrawRect 200 170 600 240 colorRed true >>= fun _ =>
      loadingNotice >>= fun _ => comicSansLabels := by
  unfold loadingPicture loadingNotice comicSansLabels
  simp only [bind_assoc]

section Panel
variable {engine : TextEngine} {undefinedText : Format → CFloat → List UInt8}

def Still : firmware.Op → Prop
  | .writeRegister reg _ => Plain reg
  | .writeData _ => False
  | _ => True

theorem still_layers {o : firmware.Op} (ho : Still o) (s : PanelState) :
    (s.step engine o).layers = s.layers := by
  cases o with
  | writeRegister reg value =>
    rw [step_plain ho]
    rfl
  | writeData value => exact ho.elim
  | _ => rfl

theorem write_still {reg : UInt8} (hplain : Plain reg) (value : UInt8) :
    Only Still (ra8875WriteRegister reg value) := (only_perform _).mpr hplain

theorem layers_enableDrawMode (s : PanelState) :
    (finish (panel engine undefinedText) displayEnableDrawMode s).layers = s.layers := by
  have hstill : Only Still displayEnableDrawMode := by
    refine ⟨trivial, fun graphic => ?_⟩
    cases graphic with
    | true => exact trivial
    | false => exact (write_still (by decide) _).bind fun _ => ⟨trivial, fun _ => trivial⟩
  exact run_view_eq PanelState.layers hstill (fun _ u ho => still_layers ho u) s

theorem blank_resetState {s : PanelState} (h41 : s.regs 0x41 = 0) :
    (finish (panel engine undefinedText) displayResetState s).layers 0 = fun _ _ => black := by
  have hrest : Only Still (displaySetTextCursor 0 0 >>= fun _ => displayForegroundWhite) := by
    refine Only.bind ?_ fun _ => ?_
    · exact (write_still (by decide) _).bind fun _ => (write_still (by decide) _).bind fun _ =>
        (write_still (by decide) _).bind fun _ => write_still (by decide) _
    · exact (write_still (by decide) _).bind fun _ => (write_still (by decide) _).bind fun _ =>
        write_still (by decide) _
  have hclear : finish (panel engine undefinedText) ra8875Clear s =
      ({ s.store 0x8E 0x80 with latch := 0x8E } : PanelState).paint fun _ _ _ => black := by
    change s.step engine (.writeRegister 0x8E (0x80 ||| 0x00)) = _
    exact step_clear s
  have hstored : (s.store 0x8E 0x80).regs 0x41 = s.regs 0x41 := store_regs_of_ne (by decide) 0x80
  have hlayer : ({ s.store 0x8E 0x80 with latch := 0x8E } : PanelState).regs 0x41 = 0 :=
    hstored.trans h41
  have hkept := run_view_eq (h := panel engine undefinedText) PanelState.layers hrest
    (fun _ u ho => still_layers ho u) (finish (panel engine undefinedText) ra8875Clear s)
  unfold displayResetState
  rw [finish_bind, finish_eq _ (displaySetTextCursor 0 0 >>= fun _ => displayForegroundWhite),
    hkept, hclear, paint_layers hlayer]
  rfl

theorem spares_loadingNotice (hcell : CellWriter engine) {b : Frame}
    (hrows : ∀ y, b.rows y → (y : ℕ) < 400) :
    Hoare (panel engine undefinedText) (Spares b none []) loadingNotice
      fun _ => Spares b (some .internal) [(0x22, fontSizeDouble), (0x40, 0x80)] := by
  have hsize : Hoare (panel engine undefinedText) (Spares b (some .internal) [(0x40, 0x80)])
      (displayInternalFontSize fontSizeDouble)
      fun _ => Spares b (some .internal) [(0x22, fontSizeDouble), (0x40, 0x80)] :=
    spares_internalFontSize (by decide) fontSizeDouble
  have htext : Hoare (panel engine undefinedText)
      (Spares b (some .internal) [(0x22, fontSizeDouble), (0x40, 0x80)])
      (displayWriteTextAt 40 430 (cstring "<<< PLEASE WAIT >>>     Loading Cumic Sans... "))
      fun _ => Spares b (some .internal) [(0x22, fontSizeDouble), (0x40, 0x80)] := by
    have hfits : (40 : UInt16).toNat + cellWidth fontSizeDouble *
        ((cstring "<<< PLEASE WAIT >>>     Loading Cumic Sans... ").length + 1) ≤ 800 := by decide
    refine spares_writeTextAt_internal hcell (by simp) (by simp) (by decide) hfits ?_
    intro r hr hlow _
    have hrow := hrows r hr
    have h430 : (430 : UInt16).toNat = 430 := rfl
    omega
  have hbox : ∀ y : Fin 480, b.rows y → (415 : UInt16).toNat ≤ y →
      (y : ℕ) ≤ (480 : UInt16).toNat → False := by
    intro y hy hlow _
    have hrow := hrows y hy
    have h415 : (415 : UInt16).toNat = 415 := rfl
    omega
  exact (spares_drawRect hbox (by simp)).seq ((spares_delay _ _).seq
    (spares_enableTextInternal.seq (hsize.seq ((spares_forget (by decide) (by simp) (by decide)).seq
      ((spares_forget (by decide) (by simp) (by decide)).seq
        ((spares_forget (by decide) (by simp) (by decide)).seq htext))))))

/-- Above the crop the loading screen shows the bar and the labels alone. -/
theorem agree_loading (hcell : CellWriter engine) {b : Backdrop} {c d : PanelState}
    (hc : Onscreen b.glyphs b.left c) (hd : Onscreen b.glyphs b.right d)
    (hblank : c.layers 0 = d.layers 0) :
    Agree b (some .comicSans) [] (fun y => y.val < 400)
      (finish (panel engine undefinedText) loadingPicture c)
      (finish (panel engine undefinedText) debugLabels d) := by
  have hsame : Agree b none [] everywhere c d :=
    ⟨hc, hd, fun _ hf => absurd hf (by simp), fun _ hr => absurd hr List.not_mem_nil,
      fun x y _ => by rw [hblank]⟩
  have hbar : Agree b none [] everywhere
      (finish (panel engine undefinedText) (displayDrawRect 200 170 600 240 colorRed true) c)
      (finish (panel engine undefinedText) (displayDrawRect 200 170 600 240 colorRed true) d) :=
    (agree_drawRect _ _ _ _ _ _ c d hsame).2
  have hlabels : Agrees engine undefinedText (Agree b none [] fun y => y.val < 400) comicSansLabels
      (Agree b (some .comicSans) [] fun y => y.val < 400) :=
    agree_enableTextComicSans.seq ((agree_writeTexts _).seq ((agree_delay _ _).seq
      (agree_writeTexts _)))
  have hdebug : debugLabels = displayDrawRect 200 170 600 240 colorRed true >>=
      fun _ => comicSansLabels := rfl
  rw [loadingPicture_eq, hdebug, finish_bind, finish_bind, finish_bind]
  generalize finish (panel engine undefinedText) (displayDrawRect 200 170 600 240 colorRed true) c
    = c' at hbar ⊢
  generalize finish (panel engine undefinedText) (displayDrawRect 200 170 600 240 colorRed true) d
    = d' at hbar ⊢
  have hnotice : Spares ⟨b.glyphs, b.left, fun y => y.val < 400, c'.layers 0⟩ (some .internal)
      [(0x22, fontSizeDouble), (0x40, 0x80)]
      (finish (panel engine undefinedText) loadingNotice c') :=
    spares_loadingNotice hcell (fun _ hy => hy) c' ⟨hbar.left, fun _ hf => absurd hf (by simp),
      fun _ _ _ => rfl, fun _ ha => absurd ha List.not_mem_nil⟩
  refine (hlabels _ _ ⟨hnotice.onscreen, hbar.right, fun _ hf => absurd hf (by simp),
    fun _ hr => absurd hr List.not_mem_nil, fun x y hy => ?_⟩).2
  exact (hnotice.rows x y hy).trans (hbar.pixels x y trivial)

def EndsAbove (height : ℕ) (t : TextSpec) : Prop :=
  t.y.toNat + 2 * height ≤ 400 ∧ ∀ ch ∈ cstring t.msg,
    ((glyphs ch).all fun g => (g.bitmap.toList.drop height).all (· = 0)) = true

instance (height : ℕ) (t : TextSpec) : Decidable (EndsAbove height t) :=
  inferInstanceAs (Decidable (_ ∧ _))

theorem labels_endAbove : ∀ t ∈ debugRtdLabels.1 ++ debugRtdLabels.2,
    EndsAbove 16 t ∨ EndsAbove 14 t := by
  decide +kernel

theorem EndsAbove.darkFrom {height : ℕ} {t : TextSpec} (h : EndsAbove height t)
    {cache : UInt8 → GlyphBuffer} (hcache : Loaded glyphs cache) {ch : UInt8}
    (hch : ch ∈ cstring t.msg) (hglyph : (glyphs ch).isSome) : DarkFrom height (cache ch) := by
  obtain ⟨g, hg⟩ := Option.isSome_iff_exists.mp hglyph
  have hall := h.2 ch hch
  rw [hg, Option.all_some, List.all_eq_true] at hall
  rw [hcache ch g hg]
  exact darkFrom_precomputeGlyph fun byte hbyte => of_decide_eq_true (hall byte hbyte)

theorem spares_label {b : Frame} (hrows : ∀ y, b.rows y → 400 ≤ (y : ℕ))
    (hcache : Loaded glyphs b.glyphs) {height : ℕ} {t : TextSpec} (h : EndsAbove height t) :
    Hoare (panel engine undefinedText) (Spares b (some .comicSans) [])
      (displayWriteTextAt t.x t.y (cstring t.msg)) fun _ => Spares b (some .comicSans) [] := by
  have hbottom := h.1
  refine spares_writeTextAt_comicSans (fun ch hch hglyph => h.darkFrom hcache hch hglyph) ?_ ?_ t.x
  · omega
  · intro r hr _ hhigh
    have hrow := hrows r hr
    omega

theorem spares_debugLabels {b : Frame} (hrows : ∀ y, b.rows y → 400 ≤ (y : ℕ))
    (hcache : Loaded glyphs b.glyphs) :
    Hoare (panel engine undefinedText) (Spares b none []) debugLabels
      fun _ => Spares b (some .comicSans) [] := by
  have htexts : ∀ texts : List TextSpec, (∀ t ∈ texts, t ∈ debugRtdLabels.1 ++ debugRtdLabels.2) →
      Hoare (panel engine undefinedText) (Spares b (some .comicSans) []) (writeTexts texts)
        fun _ => Spares b (some .comicSans) [] := by
    intro texts hsub
    refine Hoare.forM _ _ fun t ht => ?_
    rcases labels_endAbove t (hsub t ht) with h | h
    · exact spares_label hrows hcache h
    · exact spares_label hrows hcache h
  have hbar : ∀ y : Fin 480, b.rows y → (170 : UInt16).toNat ≤ y →
      (y : ℕ) ≤ (240 : UInt16).toNat → False := by
    intro y hy _ hhigh
    have hrow := hrows y hy
    have h240 : (240 : UInt16).toNat = 240 := rfl
    omega
  exact (spares_drawRect hbar (by simp)).seq (spares_enableTextComicSans.seq
    ((htexts _ fun _ ht => List.mem_append_left _ ht).seq ((spares_delay _ _).seq
      (htexts _ fun _ ht => List.mem_append_right _ ht))))

/-- A block saved from one picture and restored over another. -/
theorem copiedBlock_restored (picture hidden blank : PixelLayer) (x : Fin 800) (y : Fin 480) :
    copiedBlock (copiedBlock picture hidden 800 400) blank 800 400 x y =
      if y.val < 400 then picture x y else blank x y := by
  unfold copiedBlock
  by_cases hy : y.val < 400
  · rw [if_pos ⟨x.isLt, hy⟩, if_pos ⟨x.isLt, hy⟩, if_pos hy]
  · rw [if_neg fun h => hy h.2, if_neg hy]

theorem onscreen_cleared {glyphs : UInt8 → GlyphBuffer} {saved : PixelLayer} {s : PanelState}
    (hs : Onscreen glyphs saved s) :
    Onscreen glyphs saved (finish (panel engine undefinedText) displayResetState s) := by
  have hreset : Agrees engine undefinedText (Agree ⟨glyphs, saved, saved⟩ none [] nowhere)
      displayResetState (Agree ⟨glyphs, saved, saved⟩ none [] nowhere) := agree_resetState
  exact (hreset s s (agree_pair hs hs)).2.left

theorem finish_enableDrawMode {glyphs : UInt8 → GlyphBuffer} {saved : PixelLayer} {s : PanelState}
    (hs : Onscreen glyphs saved s) :
    finish (panel engine undefinedText) displayEnableDrawMode s = s := by
  unfold displayEnableDrawMode
  rw [finish_bind]
  change finish _ (if s.statics.inGraphicMode then pure () else _) s = s
  rw [if_pos hs.graphic, finish_pure]

variable (engine undefinedText) in
def blankPanel (p : PanelState) : PanelState :=
  finish (panel engine undefinedText) displayEnableDrawMode
    (finish (panel engine undefinedText) displayResetState p)

theorem blankPanel_onscreen {p : PanelState} (hp : Starting p) :
    ∃ hidden, Onscreen p.statics.glyphCache hidden (blankPanel engine undefinedText p) := by
  have hreset : Starting (finish (panel engine undefinedText) displayResetState p) :=
    hoare_preparing resetState_preparing p hp
  have hglyphs : (finish (panel engine undefinedText) displayResetState p).statics.glyphCache =
      p.statics.glyphCache := rfl
  have hmode : Onscreen (finish (panel engine undefinedText) displayResetState p).statics.glyphCache
    _ (blankPanel engine undefinedText p) := onscreen_firstDrawMode hreset
  rw [hglyphs] at hmode
  exact ⟨_, hmode⟩

theorem blankPanel_black {p : PanelState} (hp : Starting p) :
    (blankPanel engine undefinedText p).layers 0 = fun _ _ => black := by
  unfold blankPanel
  rw [layers_enableDrawMode, blank_resetState hp.layer]

theorem loaded_blankPanel (p : PanelState) : loaded engine undefinedText p =
    finish (panel engine undefinedText) loadingPicture (blankPanel engine undefinedText p) := by
  unfold loaded blankPanel
  rw [finish_bind, finish_bind]

theorem agree_restored (hcell : CellWriter engine) {p s : PanelState} (hp : Starting p)
    (hloaded : Loaded glyphs p.statics.glyphCache) {saved : PixelLayer}
    (hsaved : saved = copiedBlock ((loaded engine undefinedText p).layers 0)
      ((loaded engine undefinedText p).layers 1) 800 400)
    (hs : Onscreen p.statics.glyphCache saved s) (hblack : s.layers 0 = fun _ _ => black) :
    Agree ⟨p.statics.glyphCache, saved, saved⟩ none [] everywhere
      (finish (panel engine undefinedText) (ra8875BteMove 0 0 layerOffscreen 0 0 layerDisplay
        800 400 0 0xC) s)
      (finish (panel engine undefinedText) debugLabels s) := by
  obtain ⟨-, -, -, hlayers⟩ :=
    run_bteMove engine undefinedText layerOffscreen layerDisplay 800 400 s
  obtain ⟨hidden, hfirst⟩ : ∃ hidden, Onscreen p.statics.glyphCache hidden
    (blankPanel engine undefinedText p) := blankPanel_onscreen hp
  have hblank : (blankPanel engine undefinedText p).layers 0 = s.layers 0 :=
    (blankPanel_black hp).trans hblack.symm
  have habove : Agree ⟨p.statics.glyphCache, hidden, saved⟩ (some .comicSans) []
      (fun y => y.val < 400)
      (finish (panel engine undefinedText) loadingPicture (blankPanel engine undefinedText p))
      (finish (panel engine undefinedText) debugLabels s) := agree_loading hcell hfirst hs hblank
  have hbelow : Spares ⟨p.statics.glyphCache, saved, fun y => 400 ≤ y.val, fun _ _ => black⟩
      (some .comicSans) [] (finish (panel engine undefinedText) debugLabels s) :=
    spares_debugLabels (fun _ hy => hy) hloaded s ⟨hs, fun _ hf => absurd hf (by simp),
      fun x y _ => by rw [hblack], fun _ ha => absurd ha List.not_mem_nil⟩
  refine ⟨onscreen_restore hs 800 400, hbelow.onscreen, fun _ hf => absurd hf (by simp),
    fun _ hr => absurd hr List.not_mem_nil, fun x y _ => ?_⟩
  have hrestored : (finish (panel engine undefinedText) (ra8875BteMove 0 0 layerOffscreen 0 0
      layerDisplay 800 400 0 0xC) s).layers 0 = copiedBlock (s.layers 1) (s.layers 0) 800 400 := by
    rw [finish_eq, hlayers]
    exact Function.update_self ..
  rw [hrestored, hs.saved, hsaved, copiedBlock_restored]
  by_cases hy : y.val < 400
  · rw [if_pos hy, loaded_blankPanel]
    exact habove.pixels x y hy
  · rw [if_neg hy, hblack]
    exact (hbelow.rows x y (Nat.le_of_not_lt hy)).symm

theorem agree_debugValues {b : Backdrop} : Agrees engine undefinedText (Agree b none [] everywhere)
    debugValues (Agree b none [] everywhere) :=
  (agree_drawBorders _).seq (agree_values _)

/-- From a panel that is set up the fast path leaves what the plain path leaves. -/
theorem usePrerendered_plain (hcell : CellWriter engine) {p s : PanelState} (hp : Starting p)
    (hloaded : Loaded glyphs p.statics.glyphCache) {saved : PixelLayer}
    (hsaved : saved = copiedBlock ((loaded engine undefinedText p).layers 0)
      ((loaded engine undefinedText p).layers 1) 800 400)
    (hs : Onscreen p.statics.glyphCache saved s) :
    (finish (panel engine undefinedText) displayUsePrerenderedDebugRtd s).layers 0 =
      (finish (panel engine undefinedText) plainDebugRtd s).layers 0 := by
  have hfast : displayUsePrerenderedDebugRtd = displayResetState >>= fun _ =>
      ra8875BteMove 0 0 layerOffscreen 0 0 layerDisplay 800 400 0 0xC >>= fun _ =>
        displayEnableDrawMode >>= fun _ => debugValues := rfl
  have hplain : plainDebugRtd = displayResetState >>= fun _ => displayEnableDrawMode >>= fun _ =>
      debugLabels >>= fun _ => debugValues := rfl
  have hreset : Onscreen p.statics.glyphCache saved
      (finish (panel engine undefinedText) displayResetState s) := onscreen_cleared hs
  have hrestored := agree_restored hcell hp hloaded hsaved hreset
    (blank_resetState hs.layer)
  have hmode : finish (panel engine undefinedText) displayEnableDrawMode
      (finish (panel engine undefinedText) displayResetState s) = _ := finish_enableDrawMode hreset
  have hkept : finish (panel engine undefinedText) displayEnableDrawMode (finish
      (panel engine undefinedText) (ra8875BteMove 0 0 layerOffscreen 0 0 layerDisplay 800 400 0 0xC)
        (finish (panel engine undefinedText) displayResetState s)) = _ :=
    finish_enableDrawMode hrestored.left
  have hvalues : Agrees engine undefinedText
      (Agree ⟨p.statics.glyphCache, saved, saved⟩ none [] everywhere) debugValues
      (Agree ⟨p.statics.glyphCache, saved, saved⟩ none [] everywhere) := agree_debugValues
  rw [hfast, hplain, finish_bind, finish_bind, finish_bind, finish_bind, finish_bind, finish_bind,
    hmode, hkept]
  exact funext fun x => funext fun y => (hvalues.finish hrestored).pixels x y trivial

theorem switchScreen_plain (hcell : CellWriter engine) {p s : PanelState} (hp : Starting p)
    (hloaded : Loaded glyphs p.statics.glyphCache) {saved : PixelLayer}
    (hsaved : saved = copiedBlock ((loaded engine undefinedText p).layers 0)
      ((loaded engine undefinedText p).layers 1) 800 400)
    (hs : Onscreen p.statics.glyphCache saved s) (hother : s.statics.currentScreen ≠ .debugRtd) :
    (finish (panel engine undefinedText) (displaySwitchScreen .debugRtd) s).layers 0 =
        (finish (panel engine undefinedText) plainDebugRtd s).layers 0 ∧
      (finish (panel engine undefinedText) (displaySwitchScreen .debugRtd) s).layers 1 = saved := by
  have hrender : render .debugRtd = some displayUsePrerenderedDebugRtd := rfl
  have hdrawn : Onscreen p.statics.glyphCache saved
      (finish (panel engine undefinedText) displayUsePrerenderedDebugRtd s) :=
    (onscreen_render hs hs hrender).1
  rw [finish_switchScreen hother hrender]
  exact ⟨usePrerendered_plain hcell hp hloaded hsaved hs, hdrawn.saved⟩

theorem loaded_prepared (layers : Fin 2 → PixelLayer) (tries : ℕ) :
    Loaded glyphs (prepared engine undefinedText layers tries).statics.glyphCache := by
  have hglyphs : ∀ s : PanelState, Loaded glyphs
      (finish (panel engine undefinedText) (precomputeGlyphs glyphs) s).statics.glyphCache :=
    fun s => loaded_of_store (panel engine undefinedText) (fun u => u.statics.glyphCache)
      (fun _ _ _ => rfl) s
  unfold prepared beforeScreens displayPrecomputeGlyphs
  rw [finish_bind, finish_bind, finish_bind, finish_bind, finish_bind]
  exact hglyphs _

def currentAfter (start : Screen) (xs : List Screen) : Screen :=
  xs.foldl (fun current next => if (render next).isSome then next else current) start

theorem currentScreen_switchScreen (s : PanelState) (next : Screen) :
    (finish (panel engine undefinedText) (displaySwitchScreen next) s).statics.currentScreen =
      if (render next).isSome then next else s.statics.currentScreen := by
  by_cases hidle : s.statics.currentScreen = next ∨ render next = none
  · rw [finish_eq, (run_switchScreen_idle hidle).1]
    rcases hidle with hsame | hnone
    · rw [hsame, ite_self]
    · rw [hnone]
      rfl
  · obtain ⟨hother, hknown⟩ := not_or.mp hidle
    obtain ⟨draw, hdraw⟩ := Option.ne_none_iff_exists'.mp hknown
    rw [finish_switchScreen hother hdraw, hdraw]
    rfl

theorem currentScreen_switches (xs : List Screen) (s : PanelState) :
    (finish (panel engine undefinedText) (xs.forM displaySwitchScreen) s).statics.currentScreen =
      currentAfter s.statics.currentScreen xs := by
  induction xs generalizing s with
  | nil => rfl
  | cons next xs ih =>
    unfold List.forM
    rw [finish_bind, ih, currentScreen_switchScreen]
    rfl

theorem screen_after (layers : Fin 2 → PixelLayer) (tries : ℕ) (xs : List Screen) :
    (panelAfter engine undefinedText layers tries xs).statics.currentScreen =
      currentAfter .debugNoRtd xs := by
  unfold panelAfter
  rw [finish_bind, finish_displayInit, currentScreen_switches, currentScreen_switchScreen]
  rfl

end Panel

/-- Switching to the RTD debug screen shows what drawing it in place would show, and the
    saved labels stay. -/
theorem prerendered_path_plain (engine : TextEngine) (hcell : CellWriter engine)
    (undefinedText : Format → CFloat → List UInt8) (layers : Fin 2 → PixelLayer) (tries : ℕ)
    (xs : List Screen)
    (hother : (panelAfter engine undefinedText layers tries xs).statics.currentScreen ≠ .debugRtd) :
    (finish (panel engine undefinedText) (displaySwitchScreen .debugRtd)
        (panelAfter engine undefinedText layers tries xs)).layers 0 =
      (finish (panel engine undefinedText) plainDebugRtd
        (panelAfter engine undefinedText layers tries xs)).layers 0 ∧
    (finish (panel engine undefinedText) (displaySwitchScreen .debugRtd)
        (panelAfter engine undefinedText layers tries xs)).layers 1 =
      (panelAfter engine undefinedText layers tries []).layers 1 := by
  have hc : Onscreen _ _ (prerendered engine undefinedText layers tries) :=
    onscreen_prerendered layers tries
  have hs := (shows_after hc xs).onscreen
  have hfirst := (shows_after hc []).onscreen
  obtain ⟨hplain, hkept⟩ := switchScreen_plain hcell (starting_prepared layers tries)
    (loaded_prepared layers tries) rfl hs hother
  exact ⟨hplain, hkept.trans hfirst.saved.symm⟩

theorem prerendered_path_plain_afterInit :
    (finish (panel blockFont fun _ _ => []) (displaySwitchScreen .debugRtd)
        (panelAfter blockFont (fun _ _ => []) (fun _ _ _ => black) 0 [])).layers 0 =
      (finish (panel blockFont fun _ _ => []) plainDebugRtd
        (panelAfter blockFont (fun _ _ => []) (fun _ _ _ => black) 0 [])).layers 0 ∧
    (finish (panel blockFont fun _ _ => []) (displaySwitchScreen .debugRtd)
        (panelAfter blockFont (fun _ _ => []) (fun _ _ _ => black) 0 [])).layers 1 =
      (panelAfter blockFont (fun _ _ => []) (fun _ _ _ => black) 0 []).layers 1 := by
  refine prerendered_path_plain blockFont blockFont_cellWriter _ _ 0 [] ?_
  rw [screen_after]
  decide

end SteeringDisplay.PrerenderedDebug
