import SteeringDisplay.RectanglePlotter
import Mathlib.Data.List.TakeWhile
import Mathlib.Data.Nat.Bitwise

set_option autoImplicit false

/-!
# Comic Sans text as rectangles

A glyph is drawn column by column, one rectangle for each maximal run of lit
pixels. Coordinates are natural numbers as long as no 16-bit sum wraps.
-/
namespace SteeringDisplay.GlyphSpans
open ProgramTree FirmwareInterface PanelDriver ComicSansFont DisplayScreens
open ModeRegister WriteLayer MaximalRuns PanelRegisters RectanglePlotter

def litIn (buf : GlyphBuffer) (col row : ℕ) : Bool := buf.pixels row col ≠ 0

theorem spanEnd_eq_runEnd (buf : GlyphBuffer) (col row : ℕ) :
    spanEnd buf col row = runEnd (litIn buf col) 16 row := by
  fun_induction spanEnd buf col row with
  | case1 row h ih => rw [runEnd, if_pos ⟨h.1, decide_eq_true h.2⟩, ih]
  | case2 row h =>
    rw [runEnd, if_neg fun hrun => h ⟨hrun.1, of_decide_eq_true hrun.2⟩]

def spanOf (X Y col : ℕ) (rows : ℕ × ℕ) : Rectangle :=
  ⟨X + 2 * col, Y + 2 * rows.1, X + 2 * col + 1, Y + 2 * rows.2 + 1, white, true⟩

def columnSpans (lit : ℕ → Bool) (X Y col row : ℕ) : List Rectangle :=
  (runsFrom lit 16 row).map (spanOf X Y col)

def spansOf (lit : ℕ → ℕ → Bool) (X Y : ℕ) : List Rectangle :=
  (List.range 8).flatMap fun col => columnSpans (lit col) X Y col 0

section Renderers
variable {oracle : ℕ → (o : Op) → o.Res} {P : Registers → Prop}

theorem toNat_add_small (x : UInt16) {n bound : ℕ} (hn : n ≤ bound) (hx : x.toNat + bound ≤ 65535) :
    (x + UInt16.ofNat n).toNat = x.toNat + n := by
  rw [UInt16.toNat_add, UInt16.toNat_ofNat']
  omega

theorem draws_blitColumn {px1 px2 y : UInt16} {X col : ℕ} (buf : GlyphBuffer) (row : ℕ)
    (hx1 : px1.toNat = X + 2 * col) (hx2 : px2.toNat = X + 2 * col + 1)
    (hy : y.toNat + 32 ≤ 65535) :
    Draws oracle White (blitColumn px1 px2 y buf col row)
      (columnSpans (litIn buf col) X y.toNat col row) White := by
  unfold columnSpans
  fun_induction blitColumn px1 px2 y buf col row with
  | case1 row hrow hdark ih =>
    have hnot : ¬ litIn buf col row = true := by simp [litIn, hdark]
    rw [runsFrom, dif_pos hrow, dif_neg hnot]
    exact ih
  | case2 row hrow hlit stop ih =>
    have hyes : litIn buf col row = true := decide_eq_true hlit
    have hstop : stop = runEnd (litIn buf col) 16 row := spanEnd_eq_runEnd buf col row
    have hstart : row < stop := lt_spanEnd hrow hlit
    have hend : stop ≤ 16 := by
      rw [hstop]
      exact runEnd_le hrow.le
    have hy1 : (y + UInt16.ofNat (row * glyphScale)).toNat = y.toNat + 2 * row := by
      rw [toNat_add_small y (show row * glyphScale ≤ 32 by unfold glyphScale; omega) hy]
      unfold glyphScale
      omega
    have hy2 : (y + UInt16.ofNat ((stop - 1) * glyphScale + glyphScale - 1)).toNat =
        y.toNat + 2 * (stop - 1) + 1 := by
      rw [toNat_add_small y
        (show (stop - 1) * glyphScale + glyphScale - 1 ≤ 32 by unfold glyphScale; omega) hy]
      unfold glyphScale
      omega
    have hspan : Draws oracle White (ra8875DrawRectFast px1 (y + UInt16.ofNat (row * glyphScale))
        px2 (y + UInt16.ofNat ((stop - 1) * glyphScale + glyphScale - 1))) _ White :=
      draws_drawRectFast _ _ _ _
    rw [hx1, hx2, hy1, hy2] at hspan
    rw [runsFrom, dif_pos hrow, dif_pos hyes, List.map_cons, ← hstop]
    exact hspan.seq ih
  | case3 row hrow =>
    rw [runsFrom, dif_neg hrow]
    exact Draws.pure ()

theorem draws_blitGlyph {x y : UInt16} (buf : GlyphBuffer) (hx : x.toNat + 16 ≤ 65535)
    (hy : y.toNat + 32 ≤ 65535) :
    Draws oracle P (displayBlitGlyph x y buf) (spansOf (litIn buf) x.toNat y.toNat) White := by
  suffices hcolumns : Draws oracle White ((List.range 8).forM fun col =>
      blitColumn (x + UInt16.ofNat (col * glyphScale))
        (x + UInt16.ofNat (col * glyphScale) + UInt16.ofNat glyphScale - 1) y buf col 0)
      (spansOf (litIn buf) x.toNat y.toNat) White from draws_foregroundWhite.seq hcolumns
  refine Draws.forM (List.range 8) _ (fun col => columnSpans (litIn buf col) _ _ col 0)
    fun col hcol => ?_
  have hlt : col < 8 := List.mem_range.mp hcol
  have hleft : (x + UInt16.ofNat (col * glyphScale)).toNat = x.toNat + 2 * col := by
    rw [toNat_add_small x (show col * glyphScale ≤ 16 by unfold glyphScale; omega) hx]
    unfold glyphScale
    omega
  have hright : (x + UInt16.ofNat (col * glyphScale) + UInt16.ofNat glyphScale - 1).toNat =
      x.toNat + 2 * col + 1 := by
    rw [UInt16.toNat_sub_of_le, UInt16.toNat_add, hleft]
    · change (x.toNat + 2 * col + 2) % 65536 - 1 = _
      omega
    · rw [UInt16.le_iff_toNat_le, UInt16.toNat_add, hleft]
      change 1 ≤ (x.toNat + 2 * col + 2) % 65536
      omega
  exact draws_blitColumn buf 0 hleft hright hy

def shown (table : UInt8 → Option Glyph8x16) (msg : List UInt8) : List UInt8 :=
  (msg.takeWhile (· ≠ 0)).filter fun ch => (table ch).isSome

/-- A byte without a glyph has no effect on what is drawn. -/
theorem blitCharacters_shown (table : UInt8 → Option Glyph8x16) (x y : UInt16) (msg : List UInt8) :
    blitCharacters table x y msg = blitCharacters table x y (shown table msg) := by
  induction msg generalizing x with
  | nil => rfl
  | cons ch msg ih =>
    by_cases hzero : ch = 0
    · have hnone : shown table (ch :: msg) = [] := by simp [shown, hzero]
      rw [hnone]
      exact if_pos hzero
    · cases hglyph : table ch with
      | none =>
        have hrest : shown table (ch :: msg) = shown table msg := by simp [shown, hzero, hglyph]
        rw [hrest, ← ih, blitCharacters, if_neg hzero, hglyph]
      | some g =>
        have hrest : shown table (ch :: msg) = ch :: shown table msg := by
          simp [shown, hzero, hglyph]
        rw [hrest, blitCharacters, blitCharacters, if_neg hzero, if_neg hzero, hglyph]
        exact congrArg (Prog.op (S := firmware) (.glyphCache ch))
          (funext fun buf => congrArg (displayBlitGlyph x y buf >>= ·) (funext fun _ => ih _))

def advances (chs : List UInt8) : ℕ := (chs.map fun ch => (glyphAdvanceComicSans ch).toNat).sum

def placed (X : ℕ) : List UInt8 → List (ℕ × UInt8)
  | [] => []
  | ch :: chs => (X, ch) :: placed (X + (glyphAdvanceComicSans ch).toNat) chs

def textSpans (cache : UInt8 → GlyphBuffer) (X Y : ℕ) (chs : List UInt8) : List Rectangle :=
  (placed X chs).flatMap fun c => spansOf (litIn (cache c.2)) c.1 Y

theorem run_blitCharacters {table : UInt8 → Option Glyph8x16} {y : UInt16}
    (hy : y.toNat + 32 ≤ 65535) (chs : List UInt8) (x : UInt16) (s : Controller × Plotter)
    (hchs : ∀ ch ∈ chs, ch ≠ 0 ∧ (table ch).isSome)
    (hx : x.toNat + advances chs + 16 ≤ 65535) :
    let t := (run (monitored (controller oracle) Plotter.step) (blitCharacters table x y chs) s).2
    t.2.drawn = s.2.drawn ++ textSpans s.1.statics.glyphCache x.toNat y.toNat chs ∧
      t.1.statics = s.1.statics := by
  induction chs generalizing x s with
  | nil => exact ⟨(List.append_nil _).symm, rfl⟩
  | cons ch chs ih =>
    obtain ⟨⟨hzero, hglyph⟩, hrest⟩ := List.forall_mem_cons.mp hchs
    obtain ⟨g, hg⟩ := Option.isSome_iff_exists.mp hglyph
    have hsum : advances (ch :: chs) = (glyphAdvanceComicSans ch).toNat + advances chs := rfl
    have hnext : (x + glyphAdvanceComicSans ch).toNat =
        x.toNat + (glyphAdvanceComicSans ch).toNat := by
      rw [UInt16.toNat_add]
      omega
    have hglyphs : Draws oracle (fun _ => True)
        (displayBlitGlyph x y (s.1.statics.glyphCache ch)) _ White :=
      draws_blitGlyph _ (by omega) hy
    have hload : (monitored (controller oracle) Plotter.step (.glyphCache ch) s).2.2.drawn =
        s.2.drawn := List.append_nil _
    rw [blitCharacters, if_neg hzero, hg]
    dsimp only
    rw [run_bind, run_bind]
    change
      let u := (run _ (displayBlitGlyph x y (s.1.statics.glyphCache ch))
        (monitored (controller oracle) Plotter.step (.glyphCache ch) s).2).2
      let t := (run _ (blitCharacters table (x + glyphAdvanceComicSans ch) y chs) u).2
      t.2.drawn = _ ∧ t.1.statics = _
    intro u t
    obtain ⟨hdrawn, -, hstatics⟩ := hglyphs
      (monitored (controller oracle) Plotter.step (.glyphCache ch) s).2 trivial
    obtain ⟨hdrawn', hstatics'⟩ := ih (x + glyphAdvanceComicSans ch) u hrest (by omega)
    have hsame : u.1.statics = s.1.statics := hstatics
    refine ⟨?_, hstatics'.trans hsame⟩
    rw [hdrawn', hsame, hnext, hdrawn, hload, List.append_assoc]
    rfl

theorem shown_bearing (table : UInt8 → Option Glyph8x16) (msg : List UInt8) :
    ∀ ch ∈ shown table msg, ch ≠ 0 ∧ (table ch).isSome := by
  intro ch hch
  obtain ⟨htaken, hglyph⟩ := List.mem_filter.mp hch
  have hnonzero : decide (ch ≠ 0) = true :=
    List.mem_takeWhile_imp (p := fun c : UInt8 => decide (c ≠ 0)) htaken
  exact ⟨of_decide_eq_true hnonzero, hglyph⟩

theorem run_writeTextAt {table : UInt8 → Option Glyph8x16} {x y : UInt16} {msg : List UInt8}
    {s : Controller × Plotter} (hfont : s.1.statics.currentFont = .comicSans)
    (hx : x.toNat + advances (shown table msg) + 16 ≤ 65535) (hy : y.toNat + 32 ≤ 65535) :
    let t := (run (monitored (controller oracle) Plotter.step) (writeTextAt table x y msg) s).2
    t.2.drawn =
        s.2.drawn ++ textSpans s.1.statics.glyphCache x.toNat y.toNat (shown table msg) ∧
      t.1.statics = s.1.statics := by
  have hload : (monitored (controller oracle) Plotter.step .currentFont s).2.2.drawn =
      s.2.drawn := List.append_nil _
  have hanswer : (run (monitored (controller oracle) Plotter.step) loadCurrentFont s).1 =
      .comicSans := hfont
  unfold writeTextAt
  rw [run_bind, hanswer, ← hload]
  dsimp only
  rw [blitCharacters_shown]
  exact run_blitCharacters hy (shown table msg) x
    (monitored (controller oracle) Plotter.step .currentFont s).2 (shown_bearing table msg) hx

end Renderers

def litBit (g : Glyph8x16) (col row : ℕ) : Bool :=
  (g.bitmap.toList.getD row 0).toNat.testBit (7 - col)

theorem litIn_precomputeGlyph (g : Glyph8x16) {col : ℕ} (hcol : col < 8) :
    litIn (precomputeGlyph g) col = litBit g col := by
  funext row
  have hmask : ((g.bitmap.toList.getD row 0).toNat &&& 1 <<< (7 - col) ≠ 0) ↔
      litBit g col row = true := by
    unfold litBit
    rw [Nat.shiftLeft_eq, Nat.one_mul, Nat.and_two_pow]
    cases (g.bitmap.toList.getD row 0).toNat.testBit (7 - col) <;> simp
  have hbeyond : ¬ row < 16 → litBit g col row = false := by
    intro hrow
    unfold litBit
    rw [List.getD_eq_default _ _ (by simpa using hrow)]
    exact Nat.zero_testBit _
  change decide ((if row < 16 ∧ col < 8 ∧ _ ≠ 0 then (1 : UInt8) else 0) ≠ 0) = _
  by_cases hrow : row < 16
  · cases hlit : litBit g col row with
    | true =>
      rw [if_pos ⟨hrow, hcol, hmask.mpr hlit⟩]
      decide
    | false =>
      rw [if_neg fun h => by rw [hmask.mp h.2.2] at hlit; exact Bool.noConfusion hlit]
      decide
  · rw [if_neg fun h => hrow h.1, hbeyond hrow]
    decide

def glyphSpans (g : Glyph8x16) (X Y : ℕ) : List Rectangle := spansOf (litBit g) X Y

theorem spansOf_precomputeGlyph (g : Glyph8x16) (X Y : ℕ) :
    spansOf (litIn (precomputeGlyph g)) X Y = glyphSpans g X Y := by
  unfold glyphSpans spansOf
  refine List.flatMap_congr fun col hcol => ?_
  rw [litIn_precomputeGlyph g (List.mem_range.mp hcol)]

def Loaded (table : UInt8 → Option Glyph8x16) (cache : UInt8 → GlyphBuffer) : Prop :=
  ∀ ch g, table ch = some g → cache ch = precomputeGlyph g

def loadGlyph (table : UInt8 → Option Glyph8x16) (i : ℕ) : Firmware Unit :=
  match table (UInt8.ofNat i) with
  | none => pure ()
  | some g => setGlyphCache (UInt8.ofNat i) (precomputeGlyph g)

section Loading
variable {σ : Type} {h : Handler firmware σ} {cache : σ → UInt8 → GlyphBuffer}
variable {table : UInt8 → Option Glyph8x16}

theorem cache_loadGlyph (hset : ∀ ch buf s,
    cache (h (.setGlyphCache ch buf) s).2 = Function.update (cache s) ch buf)
    {ch : UInt8} {g : Glyph8x16} (hg : table ch = some g) (i : ℕ) (s : σ) :
    cache (finish h (loadGlyph table i) s) ch =
      if ch = UInt8.ofNat i then precomputeGlyph g else cache s ch := by
  unfold loadGlyph
  by_cases hi : ch = UInt8.ofNat i
  · rw [if_pos hi, ← hi, hg]
    exact (congrFun (hset ch _ s) ch).trans (Function.update_self ..)
  · rw [if_neg hi]
    cases table (UInt8.ofNat i) with
    | none => rfl
    | some g => exact (congrFun (hset _ _ s) ch).trans (Function.update_of_ne hi ..)

variable (h cache) in
theorem loaded_of_store (hset : ∀ ch buf s,
    cache (h (.setGlyphCache ch buf) s).2 = Function.update (cache s) ch buf) (s : σ) :
    Loaded table (cache (finish h (precomputeGlyphs table) s)) := by
  intro ch g hg
  have hloop : ∀ (is : List ℕ) (s : σ),
      ch ∈ is.map UInt8.ofNat ∨ cache s ch = precomputeGlyph g →
      cache (finish h (is.forM (loadGlyph table)) s) ch = precomputeGlyph g := by
    intro is
    induction is with
    | nil => exact fun s hdone => hdone.resolve_left List.not_mem_nil
    | cons i is ih =>
      intro s hdone
      unfold List.forM
      rw [finish_bind]
      refine ih _ ?_
      rw [cache_loadGlyph hset hg]
      rcases hdone with hmem | hdone
      · rcases List.mem_cons.mp hmem with rfl | hmem
        · exact Or.inr (if_pos rfl)
        · exact Or.inl hmem
      · rw [hdone, ite_self]
        exact Or.inr rfl
  have hmem : ch ∈ (List.range 256).map UInt8.ofNat :=
    List.mem_map.mpr ⟨ch.toNat, List.mem_range.mpr ch.toNat_lt, UInt8.ofNat_toNat⟩
  exact hloop (List.range 256) s (Or.inl hmem)

end Loading

theorem loaded_precomputeGlyphs (oracle : ℕ → (o : Op) → o.Res)
    (table : UInt8 → Option Glyph8x16) (s : Controller) :
    Loaded table (run (controller oracle) (precomputeGlyphs table) s).2.statics.glyphCache :=
  loaded_of_store (controller oracle) (fun c => c.statics.glyphCache) (fun _ _ _ => rfl) s

section Pixels
variable {lit : ℕ → ℕ → Bool} {X Y : ℕ}

theorem mem_spansOf {r : Rectangle} : r ∈ spansOf lit X Y ↔
    ∃ col < 8, ∃ a b, IsRun (lit col) 16 a b ∧ r = spanOf X Y col (a, b) := by
  unfold spansOf columnSpans
  simp only [List.mem_flatMap, List.mem_range, List.mem_map, Prod.exists]
  refine exists_congr fun col => and_congr_right fun _ => exists₂_congr fun a b => ?_
  rw [mem_runsFrom fresh_zero]
  constructor
  · rintro ⟨⟨-, hrun⟩, heq⟩
    exact ⟨hrun, heq.symm⟩
  · rintro ⟨hrun, heq⟩
    exact ⟨⟨Nat.zero_le a, hrun⟩, heq.symm⟩

/-- The pixel of the panel lies in the doubled pixel of some row and column that is lit. -/
def Lights (lit : ℕ → ℕ → Bool) (X Y : ℕ) (p : ℕ × ℕ) : Prop :=
  ∃ row col dx dy, row < 16 ∧ col < 8 ∧ lit col row = true ∧ dx ≤ 1 ∧ dy ≤ 1 ∧
    p = (X + 2 * col + dx, Y + 2 * row + dy)

theorem covers_spansOf {p : ℕ × ℕ} : (∃ r ∈ spansOf lit X Y, r.Covers p) ↔ Lights lit X Y p := by
  constructor
  · rintro ⟨r, hr, hx1, hx2, hy1, hy2⟩
    obtain ⟨col, hcol, a, b, hrun, rfl⟩ := mem_spansOf.mp hr
    simp only [spanOf] at hx1 hx2 hy1 hy2
    have hlast := hrun.lt
    have hlit := hrun.holds ((p.2 - Y) / 2) (by omega) (by omega)
    refine ⟨(p.2 - Y) / 2, col, p.1 - (X + 2 * col), (p.2 - Y) % 2, by omega, hcol, hlit,
      by omega, by omega, Prod.ext ?_ ?_⟩
    · dsimp only
      omega
    · dsimp only
      omega
  · rintro ⟨row, col, dx, dy, hrow, hcol, hlit, hdx, hdy, rfl⟩
    obtain ⟨⟨a, b⟩, hmem, hlow, hhigh⟩ :=
      (runsFrom_cover (p := lit col) (n := 16)).mpr ⟨Nat.zero_le row, hrow, hlit⟩
    have hrun := ((mem_runsFrom fresh_zero).mp hmem).2
    dsimp only at hlow hhigh
    refine ⟨_, mem_spansOf.mpr ⟨col, hcol, a, b, hrun, rfl⟩, ?_⟩
    simp only [spanOf, Rectangle.Covers]
    omega

theorem spansOf_disjoint : (spansOf lit X Y).Pairwise Rectangle.Disjoint := by
  refine List.pairwise_flatMap.mpr ⟨fun col _ => ?_, ?_⟩
  · refine List.pairwise_map.mpr (runsFrom_pairwise.imp fun {r r'} hlt p hp => ?_)
    obtain ⟨⟨-, -, -, hhigh⟩, -, -, hlow, -⟩ := hp
    simp only [spanOf] at hhigh hlow
    omega
  · refine List.pairwise_lt_range.imp fun {col col'} hlt r hr r' hr' p hp => ?_
    obtain ⟨rows, -, rfl⟩ := List.mem_map.mp hr
    obtain ⟨rows', -, rfl⟩ := List.mem_map.mp hr'
    obtain ⟨⟨-, hright, -⟩, hleft, -⟩ := hp
    simp only [spanOf] at hright hleft
    omega

theorem spansOf_wellFormed : ∀ r ∈ spansOf lit X Y, r.x1 ≤ r.x2 ∧ r.y1 ≤ r.y2 := by
  intro r hr
  obtain ⟨col, -, a, b, hrun, rfl⟩ := mem_spansOf.mp hr
  have hle := hrun.le
  simp only [spanOf]
  omega

theorem spansOf_nodup : (spansOf lit X Y).Nodup := by
  refine spansOf_disjoint.imp_of_mem fun {r r'} hr _ hdisjoint heq => ?_
  obtain ⟨hx, hy⟩ := spansOf_wellFormed r hr
  refine hdisjoint (r.x1, r.y1) ⟨⟨Nat.le_refl _, hx, Nat.le_refl _, hy⟩, ?_⟩
  rw [← heq]
  exact ⟨Nat.le_refl _, hx, Nat.le_refl _, hy⟩

end Pixels

end SteeringDisplay.GlyphSpans
