import SteeringDisplay.GlyphSpans

set_option autoImplicit false

/-!
# A text in Comic Sans, pixel by pixel

What the cached and batched renderer draws, against the bitmaps of the characters.
-/
namespace SteeringDisplay.ComicSansText
open ProgramTree FirmwareInterface PanelDriver ComicSansFont DisplayScreens
open ModeRegister WriteLayer MaximalRuns PanelRegisters RectanglePlotter GlyphSpans

def origin (X : ℕ) (chs : List UInt8) (k : ℕ) : ℕ := X + advances (chs.take k)

/-- The pixels of the panel that a text lights, by the bitmaps of its characters. -/
def textPixels (table : UInt8 → Option Glyph8x16) (X Y : ℕ) (chs : List UInt8) : Set (ℕ × ℕ) :=
  {p | ∃ k ch g, chs[k]? = some ch ∧ table ch = some g ∧
    ∃ row col dx dy, row < 16 ∧ col < 8 ∧ litBit g col row = true ∧ dx ≤ 1 ∧ dy ≤ 1 ∧
      p = (origin X chs k + 2 * col + dx, Y + 2 * row + dy)}

theorem advances_take_le (chs : List UInt8) (k : ℕ) : advances (chs.take k) ≤ advances chs := by
  have hsplit : advances (chs.take k) + advances (chs.drop k) = advances chs := by
    unfold advances
    rw [← List.sum_append, ← List.map_append, List.take_append_drop]
  omega

theorem placed_length (X : ℕ) (chs : List UInt8) : (placed X chs).length = chs.length := by
  induction chs generalizing X with
  | nil => rfl
  | cons ch chs ih => exact congrArg Nat.succ (ih _)

theorem placed_getElem? (X : ℕ) (chs : List UInt8) (k : ℕ) :
    (placed X chs)[k]? = chs[k]?.map fun ch => (origin X chs k, ch) := by
  induction chs generalizing X k with
  | nil => simp [placed]
  | cons ch chs ih =>
    cases k with
    | zero => rfl
    | succ k =>
      have horigin : origin X (ch :: chs) (k + 1) =
          origin (X + (glyphAdvanceComicSans ch).toNat) chs k := by
        simp only [origin, advances, List.take_succ_cons, List.map_cons, List.sum_cons]
        omega
      rw [placed, List.getElem?_cons_succ, List.getElem?_cons_succ, ih, horigin]

def characterSpans (cache : UInt8 → GlyphBuffer) (X Y : ℕ) (chs : List UInt8) :
    List (List Rectangle) :=
  (placed X chs).map fun c => spansOf (litIn (cache c.2)) c.1 Y

section Loaded
variable {table : UInt8 → Option Glyph8x16} {cache : UInt8 → GlyphBuffer}
variable (hload : Loaded table cache) {X Y : ℕ} {chs : List UInt8}
include hload

theorem characterSpans_getElem? {k : ℕ} {ch : UInt8} {g : Glyph8x16} (hch : chs[k]? = some ch)
    (hg : table ch = some g) :
    (characterSpans cache X Y chs)[k]? = some (glyphSpans g (origin X chs k) Y) := by
  unfold characterSpans
  rw [List.getElem?_map, placed_getElem?, hch]
  dsimp only [Option.map_some]
  rw [hload ch g hg, spansOf_precomputeGlyph]

theorem mem_textSpans (hchs : ∀ ch ∈ chs, (table ch).isSome) {r : Rectangle} :
    r ∈ textSpans cache X Y chs ↔ ∃ k ch g, chs[k]? = some ch ∧ table ch = some g ∧
      r ∈ glyphSpans g (origin X chs k) Y := by
  unfold textSpans
  rw [List.mem_flatMap]
  constructor
  · rintro ⟨c, hc, hr⟩
    obtain ⟨k, hk⟩ := List.getElem?_of_mem hc
    rw [placed_getElem?] at hk
    obtain ⟨ch, hch, rfl⟩ := Option.map_eq_some_iff.mp hk
    obtain ⟨g, hg⟩ := Option.isSome_iff_exists.mp (hchs ch (List.mem_of_getElem? hch))
    dsimp only at hr
    rw [hload ch g hg, spansOf_precomputeGlyph] at hr
    exact ⟨k, ch, g, hch, hg, hr⟩
  · rintro ⟨k, ch, g, hch, hg, hr⟩
    have hplace : (placed X chs)[k]? = some (origin X chs k, ch) := by rw [placed_getElem?, hch]; rfl
    refine ⟨(origin X chs k, ch), List.mem_of_getElem? hplace, ?_⟩
    dsimp only
    rw [hload ch g hg, spansOf_precomputeGlyph]
    exact hr

theorem covers_textSpans (hchs : ∀ ch ∈ chs, (table ch).isSome) :
    {p | ∃ r ∈ textSpans cache X Y chs, r.Covers p} = textPixels table X Y chs := by
  ext p
  constructor
  · rintro ⟨r, hr, hp⟩
    obtain ⟨k, ch, g, hch, hg, hr⟩ := (mem_textSpans hload hchs).mp hr
    exact ⟨k, ch, g, hch, hg, covers_spansOf.mp ⟨r, hr, hp⟩⟩
  · rintro ⟨k, ch, g, hch, hg, hp⟩
    obtain ⟨r, hr, hp⟩ := covers_spansOf.mpr hp
    exact ⟨r, (mem_textSpans hload hchs).mpr ⟨k, ch, g, hch, hg, hr⟩, hp⟩

end Loaded

/-- The rectangle is the one that `RA8875_draw_rect` fills with white between its corners. -/
theorem drawn_by_drawRect (oracle : ℕ → (o : Op) → o.Res) {r : Rectangle} {X Y col : ℕ}
    {rows : ℕ × ℕ} (hr : r = spanOf X Y col rows)
    (hx : r.x1 ≤ r.x2 ∧ r.x2 ≤ 65535) (hy : r.y1 ≤ r.y2 ∧ r.y2 ≤ 65535) :
    ∃ x1 y1 x2 y2 : UInt16, ∀ (m : Registers) (s : Controller),
      rectangles m (trace (controller oracle)
        (ra8875DrawRect x1 y1 x2 y2 colorWhite true) s) = [r] := by
  have hnat : ∀ n, n ≤ 65535 → (UInt16.ofNat n).toNat = n := fun n hn => by
    rw [UInt16.toNat_ofNat']
    omega
  refine ⟨UInt16.ofNat r.x1, UInt16.ofNat r.y1, UInt16.ofNat r.x2, UInt16.ofNat r.y2,
    fun m s => rectangles_trace ?_⟩
  have hdraw : Draws oracle (fun _ => True) (ra8875DrawRect (UInt16.ofNat r.x1)
      (UInt16.ofNat r.y1) (UInt16.ofNat r.x2) (UInt16.ofNat r.y2) colorWhite true) _ _ :=
    draws_drawRect _ _ _ _ _ _
  rw [hnat r.x1 (by omega), hnat r.y1 (by omega), hnat r.x2 hx.2, hnat r.y2 hy.2,
    pixelOf_colorWhite] at hdraw
  rw [(hdraw (s, ⟨m, []⟩) trivial).1, hr]
  rfl

/-- The cached, batched renderer draws the pixels of the text, each glyph with one rectangle
    for each maximal run of a column, and takes no notice of bytes without a glyph. -/
theorem comic_sans_text (oracle : ℕ → (o : Op) → o.Res) (table : UInt8 → Option Glyph8x16)
    (x y : UInt16) (msg : List UInt8) (m : Registers) (s s₀ : Controller)
    (hfont : s.statics.currentFont = .comicSans)
    (hload : s.statics.glyphCache =
      (run (controller oracle) (precomputeGlyphs table) s₀).2.statics.glyphCache)
    (hx : x.toNat + advances (shown table msg) + 16 ≤ 65535) (hy : y.toNat + 32 ≤ 65535) :
    let chs := shown table msg
    let ops := trace (controller oracle) (writeTextAt table x y msg) s
    let drawn := rectangles m ops
    {p | ∃ r ∈ drawn, r.Covers p} = textPixels table x.toNat y.toNat chs ∧
    (∀ r ∈ drawn, r.x1 ≤ r.x2 ∧ r.y1 ≤ r.y2) ∧
    (∃ spans : List (List Rectangle), drawn = spans.flatten ∧ spans.length = chs.length ∧
      ∀ k ch g, chs[k]? = some ch → table ch = some g → ∃ glyph, spans[k]? = some glyph ∧
        glyph.Pairwise Rectangle.Disjoint ∧ glyph.Nodup ∧
        ∀ r, r ∈ glyph ↔ ∃ col < 8, ∃ a b, IsRun (litBit g col) 16 a b ∧
          r = spanOf (origin x.toNat chs k) y.toNat col (a, b)) ∧
    ops = trace (controller oracle) (writeTextAt table x y chs) s ∧
    ∀ r ∈ drawn, ∃ x1 y1 x2 y2 : UInt16, ∀ (m' : Registers) (s' : Controller),
      rectangles m' (trace (controller oracle)
        (ra8875DrawRect x1 y1 x2 y2 colorWhite true) s') = [r] := by
  intro chs ops drawn
  have hcache : Loaded table s.statics.glyphCache := by
    rw [hload]
    exact loaded_precomputeGlyphs oracle table s₀
  have hchs : ∀ ch ∈ chs, (table ch).isSome := fun ch hch => (shown_bearing table msg ch hch).2
  have hdrawn : drawn = textSpans s.statics.glyphCache x.toNat y.toNat chs :=
    rectangles_trace (run_writeTextAt (s := (s, ⟨m, []⟩)) hfont hx hy).1
  have hbelongs : ∀ r ∈ drawn, ∃ k ch g, chs[k]? = some ch ∧ table ch = some g ∧
      r ∈ glyphSpans g (origin x.toNat chs k) y.toNat := fun r hr => by
    rw [hdrawn] at hr
    exact (mem_textSpans hcache hchs).mp hr
  have hformed : ∀ r ∈ drawn, r.x1 ≤ r.x2 ∧ r.y1 ≤ r.y2 := fun r hr => by
    obtain ⟨k, ch, g, -, -, hglyph⟩ := hbelongs r hr
    exact spansOf_wellFormed r hglyph
  refine ⟨?_, hformed, ?_, ?_, fun r hr => ?_⟩
  · rw [hdrawn]
    exact covers_textSpans hcache hchs
  · refine ⟨characterSpans s.statics.glyphCache x.toNat y.toNat chs, ?_, ?_, ?_⟩
    · rw [hdrawn]
      exact List.flatMap_def ..
    · exact (List.length_map _).trans (placed_length _ _)
    · intro k ch g hch hg
      exact ⟨_, characterSpans_getElem? hcache hch hg, spansOf_disjoint, spansOf_nodup,
        fun r => mem_spansOf⟩
  · change trace _ (loadCurrentFont >>= _) s = trace _ (loadCurrentFont >>= _) s
    rw [trace_loadCurrentFont hfont, trace_loadCurrentFont hfont]
    dsimp only
    rw [blitCharacters_shown]
  · obtain ⟨k, ch, g, -, -, hglyph⟩ := hbelongs r hr
    obtain ⟨col, hcol, a, b, hrun, hspan⟩ := mem_spansOf.mp hglyph
    obtain ⟨hxs, hys⟩ := hformed r hr
    have hright : advances (chs.take k) ≤ advances (shown table msg) := advances_take_le chs k
    have hlast := hrun.lt
    have hx2 : r.x2 = x.toNat + advances (chs.take k) + 2 * col + 1 := by rw [hspan]; rfl
    have hy2 : r.y2 = y.toNat + 2 * b + 1 := by rw [hspan]; rfl
    exact drawn_by_drawRect oracle hspan ⟨hxs, by omega⟩ ⟨hys, by omega⟩

def twoRuns (ch : UInt8) : Option Glyph8x16 :=
  if ch = 65 then some ⟨#v[0x80, 0x80, 0, 0, 0, 0, 0, 0, 0, 0, 0, 0, 0, 0, 0, 0x80]⟩ else none

def twoRunsLoaded : Controller :=
  let loaded := (run (controller quiet) (precomputeGlyphs twoRuns) .powerUp).2
  { loaded with statics := loaded.statics.store (.setCurrentFont .comicSans) }

theorem comic_sans_text_twoRuns :
    {p | ∃ r ∈ rectangles .powerUp (trace (controller quiet)
        (writeTextAt twoRuns 3 5 [66, 65, 0, 65]) twoRunsLoaded), r.Covers p} =
      textPixels twoRuns 3 5 [65] := by
  have hfont : twoRunsLoaded.statics.currentFont = .comicSans := rfl
  have hstore : ∀ s : Statics, (s.store (.setCurrentFont .comicSans)).glyphCache = s.glyphCache :=
    fun _ => rfl
  have hshown : shown twoRuns [66, 65, 0, 65] = [65] := by decide
  have hadvance : (3 : UInt16).toNat + advances [65] = 19 := by decide
  have hx : (3 : UInt16).toNat + advances (shown twoRuns [66, 65, 0, 65]) + 16 ≤ 65535 := by
    simp only [hshown]
    omega
  have htext := comic_sans_text quiet twoRuns 3 5 [66, 65, 0, 65] .powerUp twoRunsLoaded .powerUp
    hfont (hstore _) hx (by decide)
  rw [hshown] at htext
  exact htext.1

end SteeringDisplay.ComicSansText
