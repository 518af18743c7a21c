import SteeringDisplay.ModeRegister

set_option autoImplicit false

/-!
# Delays that take no time

A delay is counted in ticks, and the conversion rounds down. Whether a delay lets
the idle task run depends on the tick rate.
-/
namespace SteeringDisplay.WatchdogDelays
open ProgramTree FirmwareInterface PanelDriver ComicSansFont DisplayScreens ButtonLoop
open Footprints ModeRegister

/-- `pdMS_TO_TICKS` at the tick rate `hz`. -/
def msToTicks (hz ms : ℕ) : ℕ := ms * hz / 1000

def Blocks (hz : ℕ) : firmware.Op → Prop
  | .vTaskDelay _ ms => 1 ≤ msToTicks hz ms
  | _ => False

/-- A character is written: sent to the panel, or drawn from its cached glyph. -/
def Spells : firmware.Op → Prop
  | .writeData _ | .glyphCache _ => True
  | _ => False

def clearCommand : firmware.Op := .writeRegister 0x8E (0x80 ||| 0x00)

def DelaysText (hz : ℕ) (ops : List firmware.Op) : Prop :=
  ∃ before o after, ops = before ++ o :: after ∧ Blocks hz o ∧ ∃ c ∈ after, Spells c

/-- Between the clear and the last character there is a delay that blocks. -/
def Yields (hz : ℕ) (ops : List firmware.Op) : Prop :=
  ∃ before o after, ops = before ++ o :: after ∧ clearCommand ∈ before ∧ Blocks hz o ∧
    ∃ c ∈ after, Spells c

def DelaysWithin (ms : ℕ) : firmware.Op → Prop
  | .vTaskDelay _ ms' => ms' ≤ ms
  | _ => True

section Bounds
variable {ms : ℕ} {α β : Type}

theorem within_of_painting {o : firmware.Op} (h : Painting o) : DelaysWithin ms o := by
  cases o with
  | vTaskDelay file ms' => exact h.elim
  | _ => exact trivial

theorem painting_within {p : Firmware α} (hp : Only Painting p) : Only (DelaysWithin ms) p :=
  hp.mono fun _ => within_of_painting

theorem write_within (reg value : UInt8) : Only (DelaysWithin ms) (ra8875WriteRegister reg value) :=
  (only_perform _).mpr trivial

theorem delay_within {file : SourceFile} {ms' : ℕ} (h : ms' ≤ ms) :
    Only (DelaysWithin ms) (vTaskDelay file ms') :=
  (only_perform _).mpr h

theorem internalFontSize_within (size : UInt8) :
    Only (DelaysWithin ms) (displayInternalFontSize size) :=
  (write_within _ _).bind fun _ => (write_within _ _).bind fun _ => write_within _ _

theorem arranging_within (hms : 1 ≤ ms) {p : Firmware α} (hp : Only Arranging p) :
    Only (DelaysWithin ms) p := by
  refine hp.mono fun o ho => ?_
  cases o with
  | vTaskDelay file ms' =>
    obtain ⟨-, rfl⟩ := ho
    exact hms
  | _ => exact trivial

theorem enableText_within (hms : 1 ≤ ms) (font : DisplayFont) :
    Only (DelaysWithin ms) (displayEnableTextModeAndFont font) := by
  refine ⟨trivial, fun _ => ?_⟩
  cases font with
  | internal =>
    exact (arranging_within hms leaveGraphicMode_arranging).bind fun _ =>
      (painting_within foregroundWhite_painting).bind fun _ => internalFontSize_within _
  | comicSans => exact arranging_within hms enableDrawMode_arranging

theorem begin_within (hms : 1 ≤ ms) :
    Only (DelaysWithin ms) (displayResetState >>= fun _ => displayEnableDrawMode) :=
  arranging_within hms (resetState_arranging.bind fun _ => enableDrawMode_arranging)

theorem renderMainScreen_within (isLaps : Bool) :
    Only (DelaysWithin defaultDelay) (displayRenderMainScreen isLaps) :=
  (begin_within (by decide)).bind fun _ =>
    (painting_within (mainBar_painting isLaps)).bind fun _ =>
      (painting_within (drawBorders_painting _)).bind fun _ =>
        (delay_within (Nat.le_refl _)).bind fun _ => (enableText_within (by decide) _).bind fun _ =>
          (painting_within (writeTexts_painting _)).bind fun _ =>
            (enableText_within (by decide) _).bind fun _ => painting_within (writeValues_painting _)

theorem renderStaticDebugScreen_within :
    Only (DelaysWithin watchdogDelay) displayRenderStaticDebugScreen :=
  (begin_within (by decide)).bind fun _ => (painting_within (drawBorders_painting _)).bind fun _ =>
    (enableText_within (by decide) _).bind fun _ =>
      (painting_within (writeTexts_painting _)).bind fun _ =>
        (delay_within (Nat.le_refl _)).bind fun _ =>
          (painting_within (writeTexts_painting _)).bind fun _ =>
            (enableText_within (by decide) _).bind fun _ => painting_within (writeValues_painting _)

theorem prerenderDebugRtdLabels_within :
    Only (DelaysWithin defaultDelay) displayPrerenderDebugRtdLabels :=
  (begin_within (by decide)).bind fun _ =>
    (painting_within (drawRect_painting _ _ _ _ _ _)).bind fun _ =>
      (painting_within (drawRect_painting _ _ _ _ _ _)).bind fun _ =>
        (delay_within (Nat.le_refl _)).bind fun _ => (enableText_within (by decide) _).bind fun _ =>
          (internalFontSize_within _).bind fun _ => (write_within _ _).bind fun _ =>
            (write_within _ _).bind fun _ => (write_within _ _).bind fun _ =>
              (painting_within (writeTextAt_painting _ _ _ _)).bind fun _ =>
                (enableText_within (by decide) _).bind fun _ =>
                  (painting_within (writeTexts_painting _)).bind fun _ =>
                    (delay_within (by decide)).bind fun _ =>
                      (painting_within (writeTexts_painting _)).bind fun _ =>
                        arranging_within (by decide) (bteMove_arranging _ _ _ _ _ _ _ _ _ _)

theorem msToTicks_pos (hz ms : ℕ) : 1 ≤ msToTicks hz ms ↔ 1000 ≤ ms * hz := by
  unfold msToTicks
  omega

theorem not_yields {hz : ℕ} {σ : Type} {h : Handler firmware σ} {p : Firmware α}
    (hp : Only (DelaysWithin ms) p) (s : σ) (hy : Yields hz (trace h p s)) : 1000 ≤ ms * hz := by
  obtain ⟨before, o, after, hops, _, hblocks, _⟩ := hy
  have hmem : o ∈ trace h p s := by
    rw [hops]
    exact List.mem_append_right _ (List.mem_cons_self ..)
  have hwithin := hp.trace h s o hmem
  cases o with
  | vTaskDelay file ms' =>
    have hle : ms' ≤ ms := hwithin
    have hticks : 1000 ≤ ms' * hz := (msToTicks_pos hz ms').mp hblocks
    exact hticks.trans (Nat.mul_le_mul_right hz hle)
  | _ => exact hblocks.elim

end Bounds

section Labels
variable {oracle : ℕ → (o : Op) → o.Res} {hz : ℕ} {α β : Type}

theorem delaysText_later {p : Firmware α} {q : Firmware β} {s : Controller}
    (hq : DelaysText hz (trace (controller oracle) q (run (controller oracle) p s).2)) :
    DelaysText hz (trace (controller oracle) (p >>= fun _ => q) s) := by
  obtain ⟨before, o, after, hops, hblocks, hspells⟩ := hq
  refine ⟨trace (controller oracle) p s ++ before, o, after, ?_, hblocks, hspells⟩
  rw [trace_bind, hops, List.append_assoc]

theorem delaysText_delay {q : Firmware α} {ms : ℕ} {s : Controller} (hms : 1000 ≤ ms * hz)
    (hq : ∃ c ∈ trace (controller oracle) q
      (run (controller oracle) (vTaskDelay .display ms) s).2, Spells c) :
    DelaysText hz (trace (controller oracle) (vTaskDelay .display ms >>= fun _ => q) s) := by
  refine ⟨[], .vTaskDelay .display ms, _, ?_, (msToTicks_pos hz ms).mpr hms, hq⟩
  rw [trace_bind]
  rfl

theorem yields_of_reset {q : Firmware α} {s : Controller}
    (hq : DelaysText hz (trace (controller oracle) q
      (run (controller oracle) displayResetState s).2)) :
    Yields hz (trace (controller oracle) (displayResetState >>= fun _ => q) s) := by
  obtain ⟨before, o, after, hops, hblocks, hspells⟩ := hq
  refine ⟨trace (controller oracle) displayResetState s ++ before, o, after, ?_, ?_, hblocks,
    hspells⟩
  · rw [trace_bind, hops, List.append_assoc]
  · exact List.mem_append_left _ (List.mem_cons_self ..)

theorem spells_later {p : Firmware α} {q : Firmware β} {s : Controller}
    (hq : ∃ c ∈ trace (controller oracle) q (run (controller oracle) p s).2, Spells c) :
    ∃ c ∈ trace (controller oracle) (p >>= fun _ => q) s, Spells c := by
  obtain ⟨c, hc, hspells⟩ := hq
  rw [trace_bind]
  exact ⟨c, List.mem_append_right _ hc, hspells⟩

theorem spells_first {p : Firmware α} {q : Firmware β} {s : Controller}
    (hp : ∃ c ∈ trace (controller oracle) p s, Spells c) :
    ∃ c ∈ trace (controller oracle) (p >>= fun _ => q) s, Spells c := by
  obtain ⟨c, hc, hspells⟩ := hp
  rw [trace_bind]
  exact ⟨c, List.mem_append_left _ hc, hspells⟩

def InComicSans (s : Controller) : Prop := s.statics.currentFont = .comicSans

theorem font_kept {p : Firmware α} (hp : Only KeepsFont p) {s : Controller} (hs : InComicSans s) :
    InComicSans (run (controller oracle) p s).2 := by
  have hview := run_view_eq (fun s : Controller => s.statics.currentFont) hp
    (h := controller oracle) (fun o s ho => by cases o <;> first | rfl | exact ho.elim) s
  exact hview.trans hs

theorem enableText_comicSans (s : Controller) :
    InComicSans (run (controller oracle) (displayEnableTextModeAndFont .comicSans) s).2 := by
  have hdraw : Only KeepsFont displayEnableDrawMode :=
    enableDrawMode_arranging.mono fun _ => keepsFont_of_arranging
  exact font_kept hdraw rfl

def BeginsWithGlyph : List TextSpec → Prop
  | [] => False
  | t :: _ => ∃ ch msg, cstring t.msg = ch :: msg ∧ ch ≠ 0 ∧ (glyphs ch).isSome

theorem spells_writeTexts {texts : List TextSpec} (htexts : BeginsWithGlyph texts) {s : Controller}
    (hs : InComicSans s) : ∃ c ∈ trace (controller oracle) (writeTexts texts) s, Spells c := by
  cases texts with
  | nil => exact htexts.elim
  | cons t ts =>
    obtain ⟨ch, msg, hmsg, hzero, hglyph⟩ := htexts
    obtain ⟨g, hg⟩ := Option.isSome_iff_exists.mp hglyph
    refine spells_first ?_
    refine ⟨.glyphCache ch, ?_, trivial⟩
    change _ ∈ trace _ (displayWriteTextAt t.x t.y (cstring t.msg)) s
    rw [hmsg]
    unfold displayWriteTextAt writeTextAt
    rw [trace_loadCurrentFont hs]
    dsimp only
    unfold blitCharacters
    rw [if_neg hzero, hg]
    exact List.mem_cons_of_mem _ (List.mem_cons_self ..)

theorem mainLabels_begin (isLaps : Bool) : BeginsWithGlyph (mainLabels isLaps) := by
  cases isLaps with
  | true => exact ⟨76, _, rfl, by decide, by decide⟩
  | false => exact ⟨80, _, rfl, by decide, by decide⟩

theorem staticDebugLabels_begin : BeginsWithGlyph staticDebugLabels.2 :=
  ⟨73, _, rfl, by decide, by decide⟩

theorem debugRtdLabels_begin : BeginsWithGlyph debugRtdLabels.1 :=
  ⟨76, _, rfl, by decide, by decide⟩

theorem renderMainScreen_yields (isLaps : Bool) (s : Controller) :
    Yields hz (trace (controller oracle) (displayRenderMainScreen isLaps) s) ↔ 50 ≤ hz := by
  constructor
  · intro hy
    have hticks : 1000 ≤ 20 * hz := not_yields (renderMainScreen_within isLaps) s hy
    omega
  · intro hhz
    have hticks : 1000 ≤ defaultDelay * hz := by
      unfold defaultDelay
      omega
    refine yields_of_reset (delaysText_later (delaysText_later (delaysText_later
      (delaysText_delay hticks ?_))))
    exact spells_later (spells_first (spells_writeTexts (mainLabels_begin isLaps)
      (enableText_comicSans _)))

theorem prerenderDebugRtdLabels_yields (s : Controller) :
    Yields hz (trace (controller oracle) displayPrerenderDebugRtdLabels s) ↔ 50 ≤ hz := by
  constructor
  · intro hy
    have hticks : 1000 ≤ 20 * hz := not_yields prerenderDebugRtdLabels_within s hy
    omega
  · intro hhz
    have hticks : 1000 ≤ defaultDelay * hz := by
      unfold defaultDelay
      omega
    refine yields_of_reset (delaysText_later (delaysText_later (delaysText_later
      (delaysText_delay hticks ?_))))
    iterate 6 refine spells_later ?_
    exact spells_later (spells_first (spells_writeTexts debugRtdLabels_begin (enableText_comicSans _)))

theorem renderStaticDebugScreen_yields (s : Controller) :
    Yields hz (trace (controller oracle) displayRenderStaticDebugScreen s) ↔ 200 ≤ hz := by
  constructor
  · intro hy
    have hticks : 1000 ≤ 5 * hz := not_yields renderStaticDebugScreen_within s hy
    omega
  · intro hhz
    have hticks : 1000 ≤ watchdogDelay * hz := by
      unfold watchdogDelay
      omega
    refine yields_of_reset (delaysText_later (delaysText_later (delaysText_later (delaysText_later
      (delaysText_delay hticks (spells_first (spells_writeTexts staticDebugLabels_begin ?_)))))))
    have hlabels : Only KeepsFont (writeTexts staticDebugLabels.1) :=
      (writeTexts_painting _).mono fun _ => keepsFont_of_painting
    have hdelay : Only KeepsFont (vTaskDelay .display watchdogDelay) := (only_perform _).mpr trivial
    exact font_kept hdelay (font_kept hlabels (enableText_comicSans _))

end Labels

/-- Whatever the buttons, the panel and the C library answer, from any state: each pass
    of the loop blocks, and each render with labels does so between its clear and its
    last character. -/
structure AlwaysYields (hz : ℕ) : Prop where
  iteration : ∀ oracle s, ∃ o ∈ trace (controller oracle) loopBody s, Blocks hz o
  prerender : ∀ oracle s, Yields hz (trace (controller oracle) displayPrerenderDebugRtdLabels s)
  mainScreen : ∀ oracle isLaps s,
    Yields hz (trace (controller oracle) (displayRenderMainScreen isLaps) s)
  staticDebug : ∀ oracle s, Yields hz (trace (controller oracle) displayRenderStaticDebugScreen s)

/-- A pass in which no flag is up makes only the delay at the end of the loop. -/
theorem iterations_block (hz : ℕ) (s : Controller) :
    (∀ oracle, ∃ o ∈ trace (controller oracle) loopBody s, Blocks hz o) ↔ 10 ≤ hz := by
  constructor
  · intro h
    obtain ⟨o, ho, hblocks⟩ := h (fun _ o => o.quietAnswer .initial)
    have hidle : trace (controller fun _ o => o.quietAnswer .initial) loopBody s =
        [.togglePressed .mode, .togglePressed .submode, .vTaskDelay .main 100] := rfl
    rw [hidle] at ho
    simp only [List.mem_cons, List.not_mem_nil, or_false] at ho
    rcases ho with rfl | rfl | rfl
    · exact hblocks.elim
    · exact hblocks.elim
    · have hticks : 1000 ≤ 100 * hz := (msToTicks_pos hz 100).mp hblocks
      omega
  · intro hhz oracle
    refine ⟨.vTaskDelay .main 100, ?_, (msToTicks_pos hz 100).mpr (by omega)⟩
    unfold loopBody
    rw [trace_bind]
    exact List.mem_append_right _ (List.mem_cons_self ..)

theorem always_yields (hz : ℕ) :
    (∀ s, (∀ oracle, ∃ o ∈ trace (controller oracle) loopBody s, Blocks hz o) ↔ 10 ≤ hz) ∧
      (∀ oracle s, Yields hz (trace (controller oracle) displayPrerenderDebugRtdLabels s) ↔
        50 ≤ hz) ∧
      (∀ oracle isLaps s, Yields hz (trace (controller oracle) (displayRenderMainScreen isLaps) s) ↔
        50 ≤ hz) ∧
      (∀ oracle s, Yields hz (trace (controller oracle) displayRenderStaticDebugScreen s) ↔
        200 ≤ hz) ∧
      (AlwaysYields hz ↔ 200 ≤ hz) := by
  refine ⟨iterations_block hz, fun _ s => prerenderDebugRtdLabels_yields s,
    fun _ isLaps s => renderMainScreen_yields isLaps s,
    fun _ s => renderStaticDebugScreen_yields s, fun h => ?_, fun hhz => ?_⟩
  · have hstatic := h.staticDebug (fun _ o => o.quietAnswer .initial) .powerUp
    exact (renderStaticDebugScreen_yields _).mp hstatic
  · exact ⟨fun oracle s => (iterations_block hz s).mpr (by omega) oracle,
      fun _ s => (prerenderDebugRtdLabels_yields s).mpr (by omega),
      fun _ isLaps s => (renderMainScreen_yields isLaps s).mpr (by omega),
      fun _ s => (renderStaticDebugScreen_yields s).mpr hhz⟩

def defaultHz : ℕ := 100

theorem default_rate_never_yields :
    ¬ (∀ hz, 1 ≤ hz → hz ≤ 1000 → AlwaysYields hz) ∧
      ∀ oracle s, ¬ Yields defaultHz (trace (controller oracle) displayRenderStaticDebugScreen s) := by
  have hdefault : ∀ oracle s,
      ¬ Yields defaultHz (trace (controller oracle) displayRenderStaticDebugScreen s) := by
    intro oracle s hy
    have hhz : 200 ≤ 100 := (renderStaticDebugScreen_yields s).mp hy
    exact absurd hhz (by decide)
  refine ⟨fun h => ?_, hdefault⟩
  have hyields := (h defaultHz (by decide) (by decide)).staticDebug
  exact hdefault _ _ (hyields (fun _ o => o.quietAnswer .initial) .powerUp)

end SteeringDisplay.WatchdogDelays
