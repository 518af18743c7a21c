import SteeringDisplay.PanelHistory
import SteeringDisplay.GlyphSpans

set_option autoImplicit false

/-!
# Rows that a routine does not touch

A character of the internal font stays inside its cell, a rectangle inside its
corners, and a Comic Sans glyph above its last lit row.
-/
namespace SteeringDisplay.SparedRows
open ProgramTree FirmwareInterface PanelDriver ComicSansFont DisplayScreens
open Footprints PanelRegisters PanelMachine PanelAgreement PanelRuns GlyphSpans

def cellWidth (fontSize : UInt8) : ℕ := 8 * (1 + ((fontSize >>> 2) &&& 3).toNat)

def cellHeight (fontSize : UInt8) : ℕ := 16 * (1 + (fontSize &&& 3).toNat)

def InCell (i : TextInput) (x : Fin 800) (y : Fin 480) : Prop :=
  (i.cursorX ≤ x ∧ x < i.cursorX + cellWidth i.fontSize) ∧
    i.cursorY ≤ y ∧ y < i.cursorY + cellHeight i.fontSize

instance (i : TextInput) (x : Fin 800) (y : Fin 480) : Decidable (InCell i x y) :=
  inferInstanceAs (Decidable (_ ∧ _))

/-- In text mode a character changes its cell only, and the cursor goes to the next cell
    as long as there is one in the row. -/
structure CellWriter (engine : TextEngine) : Prop where
  put : ∀ ch i l x y, i.mode = 0x80 → ¬ InCell i x y → engine.put ch i l x y = l x y
  moved : ∀ ch i, i.mode = 0x80 → i.cursorX + 2 * cellWidth i.fontSize ≤ 800 →
    engine.moved ch i = (UInt16.ofNat (i.cursorX + cellWidth i.fontSize), UInt16.ofNat i.cursorY)

def blockFont : TextEngine where
  put ch i l x y := if ch ≠ 32 ∧ InCell i x y then i.color else l x y
  moved _ i := (UInt16.ofNat (i.cursorX + cellWidth i.fontSize), UInt16.ofNat i.cursorY)

theorem blockFont_cellWriter : CellWriter blockFont :=
  ⟨fun _ _ _ _ _ _ hout => if_neg fun hin => hout hin.2, fun _ _ _ _ => rfl⟩

/-- The glyphs, the layer that is not shown, and the rows of the picture that a routine
    has to leave as they are. -/
structure Frame where
  glyphs : UInt8 → GlyphBuffer
  saved : PixelLayer
  rows : Fin 480 → Prop
  picture : PixelLayer

/-- The panel is as the frame says, with the font if it is said which one, and the
    registers of `A` hold what `A` says. -/
structure Spares (b : Frame) (font : Option DisplayFont) (A : List (UInt8 × UInt8))
    (s : PanelState) : Prop where
  onscreen : Onscreen b.glyphs b.saved s
  fonts : ∀ f ∈ font, s.statics.currentFont = f
  rows : ∀ x y, b.rows y → s.layers 0 x y = b.picture x y
  regs : ∀ a ∈ A, s.regs a.1 = a.2

section Rules
variable {engine : TextEngine} {undefinedText : Format → CFloat → List UInt8}
variable {b : Frame} {font : Option DisplayFont} {A B : List (UInt8 × UInt8)}

theorem Spares.mono {s : PanelState} (h : Spares b font A s) (hB : ∀ a ∈ B, a ∈ A) :
    Spares b font B s :=
  ⟨h.onscreen, h.fonts, h.rows, fun a ha => h.regs a (hB a ha)⟩

theorem spares_write {reg value : UInt8} (hplain : Plain reg) (hlayer : reg = 0x41 → value = 0)
    (hnew : reg ∉ A.map Prod.fst) :
    Hoare (panel engine undefinedText) (Spares b font A) (ra8875WriteRegister reg value)
      fun _ => Spares b font ((reg, value) :: A) := by
  refine Hoare.perform fun s h => ?_
  change Spares _ _ _ (s.step engine (.writeRegister reg value))
  rw [step_plain hplain]
  have hstored := h.onscreen.store hlayer
  refine ⟨⟨hstored.graphic, hstored.glyphs, hstored.layer, hstored.completed, hstored.saved⟩,
    h.fonts, h.rows, fun a ha => ?_⟩
  rcases List.mem_cons.mp ha with rfl | hA
  · exact store_regs_self reg value
  · have hne : a.1 ≠ reg := by
      rintro rfl
      exact hnew (List.mem_map_of_mem hA)
    exact (store_regs_of_ne hne value).trans (h.regs a hA)

theorem spares_forget {reg value : UInt8} (hplain : Plain reg) (hlayer : reg = 0x41 → value = 0)
    (hnew : reg ∉ A.map Prod.fst) :
    Hoare (panel engine undefinedText) (Spares b font A) (ra8875WriteRegister reg value)
      fun _ => Spares b font A :=
  (spares_write hplain hlayer hnew).conseq (fun _ h => h) fun _ _ h =>
    h.mono fun _ ha => List.mem_cons_of_mem _ ha

theorem Spares.painted {f : PixelLayer → PixelLayer} {R : List UInt8} {s t : PanelState}
    (h : Spares b font A s) (hpainted : Painted f R s t) (hlayer : 0x41 ∉ R)
    (hR : ∀ a ∈ A, a.1 ∉ R) (hf : ∀ l x y, b.rows y → f l x y = l x y) :
    Spares b font A t := by
  have h41 : s.regs 0x41 = 0 := h.onscreen.layer
  have hlayers : ∀ k, t.layers k = if k = 0 then f (s.layers 0) else s.layers k := by
    intro k
    rw [hpainted.layers, paint_layers h41]
  refine ⟨⟨?_, ?_, ?_, ?_, ?_⟩, ?_, fun x y hy => ?_, fun a ha => ?_⟩
  · rw [hpainted.statics]
    exact h.onscreen.graphic
  · rw [hpainted.statics]
    exact h.onscreen.glyphs
  · rw [hpainted.regs 0x41 hlayer]
    exact h41
  · rw [hpainted.completed]
    exact h.onscreen.completed
  · rw [hlayers]
    exact h.onscreen.saved
  · rw [hpainted.statics]
    exact h.fonts
  · rw [hlayers]
    exact (hf _ x y hy).trans (h.rows x y hy)
  · rw [hpainted.regs a.1 (hR a ha)]
    exact h.regs a ha

theorem drawRectOn_outside {x1 y1 x2 y2 : ℕ} {filled : Bool} {c : Pixel} {k : PixelLayer}
    {x : Fin 800} {y : Fin 480} (h : y1 ≤ y → (y : ℕ) ≤ y2 → False) :
    drawRectOn x1 y1 x2 y2 filled c k x y = k x y :=
  if_neg fun hin => h hin.1.2.2.1 hin.1.2.2.2

theorem spares_drawRect {x1 y1 x2 y2 : UInt16} {color : UInt8} {filled : Bool}
    (hrows : ∀ y : Fin 480, b.rows y → y1.toNat ≤ y → (y : ℕ) ≤ y2.toNat → False)
    (hA : ∀ a ∈ A, a.1 ∉ 0x90 :: (colorRegisters ++ cornerRegisters)) :
    Hoare (panel engine undefinedText) (Spares b font A)
      (ra8875DrawRect x1 y1 x2 y2 color filled) fun _ => Spares b font A :=
  fun s h => h.painted (run_drawRect x1 y1 x2 y2 color filled s) (by decide) hA
    fun _ _ y hy => drawRectOn_outside (hrows y hy)

theorem spares_drawRectFast {x1 y1 x2 y2 : UInt16}
    (hrows : ∀ y : Fin 480, b.rows y → y1.toNat ≤ y → (y : ℕ) ≤ y2.toNat → False)
    (hA : ∀ a ∈ A, a.1 ∉ 0x90 :: cornerRegisters) :
    Hoare (panel engine undefinedText) (Spares b font A)
      (ra8875DrawRectFast x1 y1 x2 y2) fun _ => Spares b font A :=
  fun s h => h.painted (run_drawRectFast x1 y1 x2 y2 s) (by decide) hA
    fun _ _ y hy => drawRectOn_outside (hrows y hy)

theorem spares_delay (file : SourceFile) (ms : ℕ) :
    Hoare (panel engine undefinedText) (Spares b font A) (vTaskDelay file ms)
      fun _ => Spares b font A := fun _ h =>
  ⟨⟨h.onscreen.graphic, h.onscreen.glyphs, h.onscreen.layer, h.onscreen.completed,
    h.onscreen.saved⟩, h.fonts, h.rows, h.regs⟩

theorem spares_loadGraphic {α : Type} {g : Bool → Firmware α} {Q : α → PanelState → Prop}
    (hg : Hoare (panel engine undefinedText) (Spares b font A) (g true) Q) :
    Hoare (panel engine undefinedText) (Spares b font A) (loadInGraphicMode >>= g) Q := by
  intro s h
  rw [run_bind]
  change Q (run _ (g s.statics.inGraphicMode) s).1 (run _ (g s.statics.inGraphicMode) s).2
  rw [h.onscreen.graphic]
  exact hg s h

theorem spares_enableDrawMode :
    Hoare (panel engine undefinedText) (Spares b font A) displayEnableDrawMode
      fun _ => Spares b font A :=
  spares_loadGraphic (Hoare.pure fun _ h => h)

theorem spares_setCurrentFont (f : DisplayFont) :
    Hoare (panel engine undefinedText) (Spares b font A) (setCurrentFont f)
      fun _ => Spares b (some f) A :=
  fun _ h => ⟨⟨h.onscreen.graphic, h.onscreen.glyphs, h.onscreen.layer, h.onscreen.completed,
    h.onscreen.saved⟩, fun _ hf => Option.some.inj hf, h.rows, h.regs⟩

theorem spares_enableTextComicSans :
    Hoare (panel engine undefinedText) (Spares b font A)
      (displayEnableTextModeAndFont .comicSans) fun _ => Spares b (some .comicSans) A :=
  (spares_setCurrentFont .comicSans).seq spares_enableDrawMode

theorem spares_foregroundWhite (hA : ∀ a ∈ A, a.1 ∉ colorRegisters) :
    Hoare (panel engine undefinedText) (Spares b font A) displayForegroundWhite
      fun _ => Spares b font A := by
  have hnew : ∀ reg ∈ colorRegisters, reg ∉ A.map Prod.fst := by
    intro reg hreg hmem
    obtain ⟨a, ha, rfl⟩ := List.mem_map.mp hmem
    exact hA a ha hreg
  exact (spares_forget (by decide) (by simp) (hnew _ (by decide))).seq
    ((spares_forget (by decide) (by simp) (hnew _ (by decide))).seq
      (spares_forget (by decide) (by simp) (hnew _ (by decide))))

theorem spares_internalFontSize (hA : ∀ a ∈ A, a.1 ∉ ([0x22, 0x41, 0x21] : List UInt8))
    (size : UInt8) :
    Hoare (panel engine undefinedText) (Spares b font A) (displayInternalFontSize size)
      fun _ => Spares b font ((0x22, size) :: A) := by
  have hnew : ∀ reg ∈ ([0x22, 0x41, 0x21] : List UInt8), reg ∉ A.map Prod.fst := by
    intro reg hreg hmem
    obtain ⟨a, ha, rfl⟩ := List.mem_map.mp hmem
    exact hA a ha hreg
  have hfresh : ∀ reg ∈ ([0x41, 0x21] : List UInt8),
      reg ∉ ((0x22, size) :: A).map Prod.fst := by
    intro reg hreg hmem
    rcases List.mem_cons.mp hmem with rfl | hmem
    · simp at hreg
    · exact hnew reg (List.mem_cons_of_mem _ hreg) hmem
  exact (spares_write (by decide) (by simp) (hnew _ (by decide))).seq
    ((spares_forget (by decide) (fun _ => rfl) (hfresh _ (by decide))).seq
      (spares_forget (by decide) (by simp) (hfresh _ (by decide))))

theorem spares_enableTextInternal :
    Hoare (panel engine undefinedText) (Spares b font [])
      (displayEnableTextModeAndFont .internal) fun _ => Spares b (some .internal) [(0x40, 0x80)] := by
  have hmode : Hoare (panel engine undefinedText) (Spares b (some .internal) []) leaveGraphicMode
      fun _ => Spares b (some .internal) [(0x40, 0x80)] :=
    spares_loadGraphic (spares_write (by decide) (by simp) (by simp))
  exact (spares_setCurrentFont .internal).seq (hmode.seq
    ((spares_foregroundWhite (by simp [colorRegisters])).seq
      ((spares_internalFontSize (by simp) fontSizeTriple).conseq (fun _ h => h)
        fun _ _ h => h.mono (by simp))))

structure Typed (b : Frame) (A : List (UInt8 × UInt8)) (X Y : ℕ) (s : PanelState) : Prop where
  spares : Spares b (some .internal) A s
  latch : s.latch = 0x02
  cursorX : reg16 s.regs 0x2A = X
  cursorY : reg16 s.regs 0x2C = Y

theorem reg16_setCursor (s : PanelState) (x y : UInt16) :
    reg16 (s.setCursor (x, y)).regs 0x2A = x.toNat ∧ reg16 (s.setCursor (x, y)).regs 0x2C = y.toNat :=
  ⟨bytes_toNat x, bytes_toNat y⟩

theorem setCursor_regs (s : PanelState) (cursor : UInt16 × UInt16) {r : UInt8}
    (hr : r ∉ cursorRegisters) : (s.setCursor cursor).regs r = s.regs r := by
  simp only [cursorRegisters, List.mem_cons, List.not_mem_nil, or_false, not_or] at hr
  unfold PanelState.setCursor
  rw [store_regs_of_ne hr.2.2.2, store_regs_of_ne hr.2.2.1, store_regs_of_ne hr.2.1,
    store_regs_of_ne hr.1]

theorem Spares.setCursor {s : PanelState} (h : Spares b font A s) (cursor : UInt16 × UInt16)
    (hA : ∀ a ∈ A, a.1 ∉ cursorRegisters) : Spares b font A (s.setCursor cursor) := by
  refine ⟨⟨h.onscreen.graphic, h.onscreen.glyphs, ?_, h.onscreen.completed, h.onscreen.saved⟩,
    h.fonts, h.rows, fun a ha => ?_⟩
  · rw [setCursor_regs s cursor (by decide)]
    exact h.onscreen.layer
  · rw [setCursor_regs s cursor (hA a ha)]
    exact h.regs a ha

theorem Spares.paint {s : PanelState} (h : Spares b font A s) {f : PixelLayer → PixelLayer}
    (hf : ∀ x y, b.rows y → f (s.layers 0) x y = s.layers 0 x y) : Spares b font A (s.paint f) := by
  refine ⟨h.onscreen.paint f, h.fonts, fun x y hy => ?_, h.regs⟩
  rw [paint_layers h.onscreen.layer]
  exact (hf x y hy).trans (h.rows x y hy)

theorem typed_character (hcell : CellWriter engine) {size : UInt8} {X Y : ℕ}
    (hmode : (0x40, 0x80) ∈ A) (hsize : (0x22, size) ∈ A) (hA : ∀ a ∈ A, a.1 ∉ cursorRegisters)
    (hX : X + 2 * cellWidth size ≤ 800) (hY : Y < 65536)
    (hrows : ∀ y : Fin 480, b.rows y → Y ≤ y → (y : ℕ) < Y + cellHeight size → False)
    (ch : UInt8) :
    Hoare (panel engine undefinedText) (Typed b A X Y) (ra8875WriteData ch)
      fun _ => Typed b A (X + cellWidth size) Y := by
  refine Hoare.perform fun s h => ?_
  change Typed _ _ _ _ (s.step engine (.writeData ch))
  rw [step_character s h.latch]
  have htext : s.textInput.mode = 0x80 := h.spares.regs _ hmode
  have hfont : s.textInput.fontSize = size := h.spares.regs _ hsize
  have hx : s.textInput.cursorX = X := h.cursorX
  have hy : s.textInput.cursorY = Y := h.cursorY
  have hmoved : engine.moved ch s.textInput =
      (UInt16.ofNat (X + cellWidth size), UInt16.ofNat Y) := by
    have hfits : s.textInput.cursorX + 2 * cellWidth s.textInput.fontSize ≤ 800 := by
      rw [hx, hfont]
      exact hX
    rw [hcell.moved ch s.textInput htext hfits, hx, hy, hfont]
  have hkept : ∀ x y, b.rows y →
      engine.put ch s.textInput (s.layers 0) x y = s.layers 0 x y := by
    intro x y hrow
    refine hcell.put ch s.textInput (s.layers 0) x y htext ?_
    rintro ⟨-, hlow, hhigh⟩
    rw [hy] at hlow
    rw [hy, hfont] at hhigh
    exact hrows y hrow hlow hhigh
  unfold PanelState.character
  rw [hmoved]
  obtain ⟨hcursorX, hcursorY⟩ := reg16_setCursor (s.paint (engine.put ch s.textInput))
    (UInt16.ofNat (X + cellWidth size)) (UInt16.ofNat Y)
  refine ⟨(h.spares.paint hkept).setCursor _ hA, h.latch, hcursorX.trans ?_, hcursorY.trans ?_⟩
  · rw [UInt16.toNat_ofNat']
    omega
  · rw [UInt16.toNat_ofNat']
    omega

theorem typed_sendCharacters (hcell : CellWriter engine) {size : UInt8} {X Y : ℕ}
    (hmode : (0x40, 0x80) ∈ A) (hsize : (0x22, size) ∈ A) (hA : ∀ a ∈ A, a.1 ∉ cursorRegisters)
    (hY : Y < 65536)
    (hrows : ∀ y : Fin 480, b.rows y → Y ≤ y → (y : ℕ) < Y + cellHeight size → False)
    (msg : List UInt8) (hX : X + cellWidth size * (msg.length + 1) ≤ 800) :
    Hoare (panel engine undefinedText) (Typed b A X Y) (sendCharacters msg)
      fun _ => Spares b (some .internal) A := by
  induction msg generalizing X with
  | nil => exact Hoare.pure fun _ h => h.spares
  | cons ch msg ih =>
    rw [List.length_cons, Nat.mul_add, Nat.mul_add] at hX
    unfold sendCharacters
    split_ifs
    · exact Hoare.pure fun _ h => h.spares
    · refine (typed_character hcell hmode hsize hA (by omega) hY hrows ch).seq (ih ?_)
      rw [Nat.mul_add]
      omega

theorem typed_setTextCursor (hA : ∀ a ∈ A, a.1 ∉ cursorRegisters) (x y : UInt16) :
    Hoare (panel engine undefinedText) (Spares b (some .internal) A)
      (displaySetTextCursor x y >>= fun _ => ra8875WriteCommand 0x02)
      fun _ => Typed b A x.toNat y.toNat := by
  have hnew : ∀ reg ∈ cursorRegisters, reg ∉ A.map Prod.fst := by
    intro reg hreg hmem
    obtain ⟨a, ha, rfl⟩ := List.mem_map.mp hmem
    exact hA a ha hreg
  have hcursor : Hoare (panel engine undefinedText) (Spares b (some .internal) A)
      (displaySetTextCursor x y) fun _ => Spares b (some .internal) ((0x2D, highByte y) ::
        (0x2C, (y &&& 0xFF).toUInt8) :: (0x2B, highByte x) :: (0x2A, (x &&& 0xFF).toUInt8) :: A) := by
    refine (spares_write (by decide) (by simp) (hnew _ (by decide))).seq
      ((spares_write (by decide) (by simp) ?_).seq ((spares_write (by decide) (by simp) ?_).seq
        (spares_write (by decide) (by simp) ?_)))
    all_goals
      simp only [List.map_cons, List.mem_cons, not_or]
      simpa using hnew _ (by decide)
  have hlow : ∀ v : UInt16, (v &&& 0xFF).toUInt8 = v.toUInt8 := by
    intro v
    apply UInt8.toNat_inj.mp
    rw [UInt16.toNat_toUInt8, UInt16.toNat_toUInt8, UInt16.toNat_and]
    change (v.toNat &&& (2 ^ 8 - 1)) % 2 ^ 8 = _
    rw [Nat.and_two_pow_sub_one_eq_mod, Nat.mod_mod]
  refine hcursor.seq (Hoare.perform fun s h => ?_)
  change Typed _ _ _ _ ({ s with latch := 0x02 } : PanelState)
  refine ⟨⟨⟨h.onscreen.graphic, h.onscreen.glyphs, h.onscreen.layer, h.onscreen.completed,
    h.onscreen.saved⟩, h.fonts, h.rows, fun a ha => h.regs a (by simp [ha])⟩, rfl, ?_, ?_⟩
  · change (s.regs 0x2A).toNat + 256 * (s.regs 0x2B).toNat = _
    rw [h.regs (0x2A, (x &&& 0xFF).toUInt8) (by simp), h.regs (0x2B, highByte x) (by simp), hlow,
      bytes_toNat]
  · change (s.regs 0x2C).toNat + 256 * (s.regs 0x2D).toNat = _
    rw [h.regs (0x2C, (y &&& 0xFF).toUInt8) (by simp), h.regs (0x2D, highByte y) (by simp), hlow,
      bytes_toNat]

theorem spares_loadFont {α : Type} {f : DisplayFont} {g : DisplayFont → Firmware α}
    {Q : α → PanelState → Prop}
    (hg : Hoare (panel engine undefinedText) (Spares b (some f) A) (g f) Q) :
    Hoare (panel engine undefinedText) (Spares b (some f) A) (loadCurrentFont >>= g) Q := by
  intro s h
  rw [run_bind]
  change Q (run _ (g s.statics.currentFont) s).1 (run _ (g s.statics.currentFont) s).2
  rw [h.fonts f rfl]
  exact hg s h

/-- A text in the internal font that fits in its row stays in the rows of its cells. -/
theorem spares_writeTextAt_internal (hcell : CellWriter engine) {size : UInt8} {x y : UInt16}
    {msg : List UInt8} (hmode : (0x40, 0x80) ∈ A) (hsize : (0x22, size) ∈ A)
    (hA : ∀ a ∈ A, a.1 ∉ cursorRegisters)
    (hx : x.toNat + cellWidth size * (msg.length + 1) ≤ 800)
    (hrows : ∀ r : Fin 480, b.rows r → y.toNat ≤ r → (r : ℕ) < y.toNat + cellHeight size → False) :
    Hoare (panel engine undefinedText) (Spares b (some .internal) A) (displayWriteTextAt x y msg)
      fun _ => Spares b (some .internal) A := by
  refine spares_loadFont ?_
  have htext : Hoare (panel engine undefinedText) (Spares b (some .internal) A)
      ((displaySetTextCursor x y >>= fun _ => ra8875WriteCommand 0x02) >>= fun _ =>
        sendCharacters msg) fun _ => Spares b (some .internal) A :=
    (typed_setTextCursor hA x y).seq
      (typed_sendCharacters hcell hmode hsize hA y.toNat_lt hrows msg hx)
  rw [bind_assoc] at htext
  exact htext

def DarkFrom (height : ℕ) (buf : GlyphBuffer) : Prop :=
  ∀ row col, height ≤ row → buf.pixels row col = 0

theorem darkFrom_precomputeGlyph {height : ℕ} {g : Glyph8x16}
    (hg : ∀ byte ∈ g.bitmap.toList.drop height, byte = 0) :
    DarkFrom height (precomputeGlyph g) := by
  intro row col hrow
  have hbyte : g.bitmap.toList.getD row 0 = 0 := by
    by_cases hlt : row < g.bitmap.toList.length
    · rw [List.getD_eq_getElem _ _ hlt]
      refine hg _ (List.mem_drop_iff_getElem.mpr ⟨row - height, by omega, ?_⟩)
      congr 1
      omega
    · exact List.getD_eq_default _ _ (by omega)
  refine if_neg fun hlit => hlit.2.2 ?_
  rw [hbyte]
  exact Nat.zero_and _

theorem spanEnd_le {height col row : ℕ} {buf : GlyphBuffer} (hdark : DarkFrom height buf)
    (hrow : row ≤ height) : spanEnd buf col row ≤ height := by
  fun_induction spanEnd buf col row with
  | case1 row hlit ih =>
    have hlt : row < height := by
      by_contra hge
      exact hlit.2 (hdark row col (by omega))
    exact ih hlt
  | case2 row _ => exact hrow

variable {height : ℕ} {y : UInt16}

theorem spares_blitColumn {buf : GlyphBuffer} (hdark : DarkFrom height buf)
    (hy : y.toNat + 32 ≤ 65535)
    (hrows : ∀ r : Fin 480, b.rows r → y.toNat ≤ r → (r : ℕ) < y.toNat + 2 * height → False)
    (hA : ∀ a ∈ A, a.1 ∉ 0x90 :: cornerRegisters) (px1 px2 : UInt16) (col row : ℕ) :
    Hoare (panel engine undefinedText) (Spares b font A) (blitColumn px1 px2 y buf col row)
      fun _ => Spares b font A := by
  fun_induction blitColumn px1 px2 y buf col row with
  | case1 row _ _ ih => exact ih
  | case2 row hrow hlit stop ih =>
    have hstart : row < height := by
      by_contra hge
      exact hlit (hdark row col (by omega))
    have hstop : row < stop := lt_spanEnd hrow hlit
    have hend : stop ≤ height := spanEnd_le hdark hstart.le
    have hstop16 : stop ≤ 16 := by
      have hrun : stop = MaximalRuns.runEnd (litIn buf col) 16 row := spanEnd_eq_runEnd buf col row
      rw [hrun]
      exact MaximalRuns.runEnd_le hrow.le
    have hy1 : (y + UInt16.ofNat (row * glyphScale)).toNat = y.toNat + 2 * row := by
      rw [toNat_add_small y (show row * glyphScale ≤ 32 by unfold glyphScale; omega) hy]
      unfold glyphScale
      omega
    have hy2 : (y + UInt16.ofNat ((stop - 1) * glyphScale + glyphScale - 1)).toNat =
        y.toNat + 2 * (stop - 1) + 1 := by
      rw [toNat_add_small y
        (show (stop - 1) * glyphScale + glyphScale - 1 ≤ 32 by unfold glyphScale; omega) hy]
      unfold glyphScale
      omega
    refine (spares_drawRectFast (fun r hr hlow hhigh => hrows r hr ?_ ?_) hA).seq ih
    · omega
    · omega
  | case3 row _ => exact Hoare.pure fun _ hs => hs

theorem spares_blitGlyph {buf : GlyphBuffer} (hdark : DarkFrom height buf)
    (hy : y.toNat + 32 ≤ 65535)
    (hrows : ∀ r : Fin 480, b.rows r → y.toNat ≤ r → (r : ℕ) < y.toNat + 2 * height → False)
    (x : UInt16) :
    Hoare (panel engine undefinedText) (Spares b font []) (displayBlitGlyph x y buf)
      fun _ => Spares b font [] := by
  refine (spares_foregroundWhite (by simp)).seq (Hoare.forM _ _ fun col _ => ?_)
  exact spares_blitColumn hdark hy hrows (by simp) _ _ col 0

theorem spares_loadGlyphCache {α : Type} {ch : UInt8} {g : GlyphBuffer → Firmware α}
    {Q : α → PanelState → Prop}
    (hg : Hoare (panel engine undefinedText) (Spares b font A) (g (b.glyphs ch)) Q) :
    Hoare (panel engine undefinedText) (Spares b font A) (loadGlyphCache ch >>= g) Q := by
  intro s h
  rw [run_bind]
  change Q (run _ (g (s.statics.glyphCache ch)) s).1 (run _ (g (s.statics.glyphCache ch)) s).2
  rw [h.onscreen.glyphs]
  exact hg s h

theorem spares_blitCharacters {table : UInt8 → Option Glyph8x16} {msg : List UInt8}
    (hdark : ∀ ch ∈ msg, (table ch).isSome → DarkFrom height (b.glyphs ch))
    (hy : y.toNat + 32 ≤ 65535)
    (hrows : ∀ r : Fin 480, b.rows r → y.toNat ≤ r → (r : ℕ) < y.toNat + 2 * height → False)
    (x : UInt16) :
    Hoare (panel engine undefinedText) (Spares b font []) (blitCharacters table x y msg)
      fun _ => Spares b font [] := by
  induction msg generalizing x with
  | nil => exact Hoare.pure fun _ hs => hs
  | cons ch msg ih =>
    obtain ⟨hfirst, hrest⟩ := List.forall_mem_cons.mp hdark
    unfold blitCharacters
    split_ifs
    · exact Hoare.pure fun _ hs => hs
    · cases hglyph : table ch with
      | none => exact ih hrest x
      | some g =>
        rw [hglyph] at hfirst
        exact spares_loadGlyphCache
          ((spares_blitGlyph (hfirst rfl) hy hrows x).seq (ih hrest _))

theorem spares_writeTextAt_comicSans {msg : List UInt8}
    (hdark : ∀ ch ∈ msg, (glyphs ch).isSome → DarkFrom height (b.glyphs ch))
    (hy : y.toNat + 32 ≤ 65535)
    (hrows : ∀ r : Fin 480, b.rows r → y.toNat ≤ r → (r : ℕ) < y.toNat + 2 * height → False)
    (x : UInt16) :
    Hoare (panel engine undefinedText) (Spares b (some .comicSans) []) (displayWriteTextAt x y msg)
      fun _ => Spares b (some .comicSans) [] :=
  spares_loadFont (spares_blitCharacters hdark hy hrows x)

end Rules

end SteeringDisplay.SparedRows
