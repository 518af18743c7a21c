import SteeringDisplay.PanelAgreement

set_option autoImplicit false

/-!
# What the drawing routines do to the panel

One specification for each routine: the layers it changes, and the registers it
may change.
-/
namespace SteeringDisplay.PanelRuns
open ProgramTree FirmwareInterface PanelDriver ComicSansFont NumberFormat DisplayScreens
open Footprints PanelRegisters PanelMachine PanelAgreement

section Writes
variable {engine : TextEngine} {undefinedText : Format → CFloat → List UInt8}

/-- Since `s₀` only registers have changed; the values of those that did are `K`. -/
structure Knows (s₀ : PanelState) (K : List (UInt8 × UInt8)) (s : PanelState) : Prop where
  statics : s.statics = s₀.statics
  layers : s.layers = s₀.layers
  completed : s.completed = s₀.completed
  known : ∀ a ∈ K, s.regs a.1 = a.2
  others : ∀ r, r ∉ K.map Prod.fst → s.regs r = s₀.regs r

theorem knows_self (s : PanelState) : Knows s [] s :=
  ⟨rfl, rfl, rfl, fun _ ha => absurd ha List.not_mem_nil, fun _ _ => rfl⟩

theorem Knows.store {s₀ s : PanelState} {K : List (UInt8 × UInt8)} (h : Knows s₀ K s)
    {reg : UInt8} (hnew : reg ∉ K.map Prod.fst) (value latch : UInt8) :
    Knows s₀ ((reg, value) :: K) { s.store reg value with latch := latch } := by
  refine ⟨h.statics, h.layers, h.completed, fun a ha => ?_, fun r hr => ?_⟩
  · rcases List.mem_cons.mp ha with rfl | hK
    · exact store_regs_self reg value
    · have hne : a.1 ≠ reg := by
        rintro rfl
        exact hnew (List.mem_map_of_mem hK)
      exact (store_regs_of_ne hne value).trans (h.known a hK)
  · rw [List.map_cons, List.mem_cons, not_or] at hr
    exact (store_regs_of_ne hr.1 value).trans (h.others r hr.2)

theorem knows_write {s₀ : PanelState} {K : List (UInt8 × UInt8)} {reg : UInt8}
    (hplain : Plain reg) (hnew : reg ∉ K.map Prod.fst) (value : UInt8) :
    Hoare (panel engine undefinedText) (Knows s₀ K) (ra8875WriteRegister reg value)
      (fun _ => Knows s₀ ((reg, value) :: K)) := by
  refine Hoare.perform (fun s h => ?_)
  change Knows _ _ (s.step engine (.writeRegister reg value))
  rw [step_plain hplain]
  exact h.store hnew value reg

def bytesOf (reg : UInt8) (value : UInt16) : List (UInt8 × UInt8) :=
  [(reg + 1, highByte value), (reg, value.toUInt8)]

theorem Knows.reg16 {s₀ s : PanelState} {K : List (UInt8 × UInt8)} (h : Knows s₀ K s)
    {reg : UInt8} {value : UInt16} (hbytes : ∀ a ∈ bytesOf reg value, a ∈ K) :
    PanelRegisters.reg16 s.regs reg = value.toNat := by
  unfold PanelRegisters.reg16
  rw [h.known (reg, value.toUInt8) (hbytes _ (by simp [bytesOf])),
    h.known (reg + 1, highByte value) (hbytes _ (by simp [bytesOf])), bytes_toNat]

def cornerBytes (x1 y1 x2 y2 : UInt16) : List (UInt8 × UInt8) :=
  bytesOf 0x97 y2 ++ bytesOf 0x95 x2 ++ bytesOf 0x93 y1 ++ bytesOf 0x91 x1

theorem knows_setDoubleRegister {s₀ : PanelState} {K : List (UInt8 × UInt8)} {reg : UInt8}
    (hlow : Plain reg) (hhigh : Plain (reg + 1)) (hne : reg + 1 ≠ reg)
    (hnewLow : reg ∉ K.map Prod.fst) (hnewHigh : reg + 1 ∉ K.map Prod.fst) (value : UInt16) :
    Hoare (panel engine undefinedText) (Knows s₀ K) (setDoubleRegister reg value)
      (fun _ => Knows s₀ (bytesOf reg value ++ K)) := by
  refine (knows_write hlow hnewLow _).seq (knows_write hhigh ?_ _)
  rw [List.map_cons, List.mem_cons, not_or]
  exact ⟨hne, hnewHigh⟩

theorem knows_setCorners (s₀ : PanelState) (x1 y1 x2 y2 : UInt16) :
    Hoare (panel engine undefinedText) (Knows s₀ []) (setCorners x1 y1 x2 y2)
      (fun _ => Knows s₀ (cornerBytes x1 y1 x2 y2)) := by
  refine (knows_setDoubleRegister (by decide) (by decide) (by decide) (by simp) (by simp) x1).seq ?_
  refine (knows_setDoubleRegister (by decide) (by decide) (by decide) (by simp [bytesOf])
    (by simp [bytesOf]) y1).seq ?_
  refine (knows_setDoubleRegister (by decide) (by decide) (by decide) (by simp [bytesOf])
    (by simp [bytesOf]) x2).seq ?_
  refine (knows_setDoubleRegister (by decide) (by decide) (by decide) (by simp [bytesOf])
    (by simp [bytesOf]) y2).conseq (fun _ h => h) (fun _ _ h => ?_)
  simpa [cornerBytes, bytesOf] using h

/-- From `s` to `t` the layer to write to was painted by `f`, and only registers of `R` changed. -/
structure Painted (f : PixelLayer → PixelLayer) (R : List UInt8) (s t : PanelState) : Prop where
  statics : t.statics = s.statics
  completed : t.completed = s.completed
  regs : ∀ r, r ∉ R → t.regs r = s.regs r
  layers : t.layers = (s.paint f).layers

def colorBytes (color : UInt8) : List (UInt8 × UInt8) :=
  [(0x65, (color >>> 6) &&& 0b11), (0x64, (color >>> 3) &&& 0b111), (0x63, color &&& 0b111)]

theorem Knows.color {s₀ s : PanelState} {K : List (UInt8 × UInt8)} (h : Knows s₀ K s)
    {color : UInt8} (hK : ∀ a ∈ colorBytes color, a ∈ K) :
    colorOf s.regs = pixelOf color := by
  have hred := h.known _ (hK (0x63, color &&& 0b111) (by simp [colorBytes]))
  have hgreen := h.known _ (hK (0x64, (color >>> 3) &&& 0b111) (by simp [colorBytes]))
  have hblue := h.known _ (hK (0x65, (color >>> 6) &&& 0b11) (by simp [colorBytes]))
  unfold colorOf
  rw [hred, hgreen, hblue]
  exact pixelOf_masked color

theorem painted_rectangle {s₀ : PanelState} {K : List (UInt8 × UInt8)} {x1 y1 x2 y2 : UInt16}
    {c : Pixel} {filled : Bool} (hcorners : ∀ a ∈ cornerBytes x1 y1 x2 y2, a ∈ K)
    (hcolor : ∀ s value, Knows s₀ ((0x90, value) :: K) s → colorOf s.regs = c)
    (hnew : 0x90 ∉ K.map Prod.fst) (h41 : 0x41 ∉ K.map Prod.fst) :
    Hoare (panel engine undefinedText) (Knows s₀ K)
      (ra8875WriteRegister 0x90 (if filled then 0xB0 else 0x90)) (fun _ s =>
        Painted (drawRectOn x1.toNat y1.toNat x2.toNat y2.toNat filled c) (0x90 :: K.map Prod.fst)
          s₀ s) := by
  refine Hoare.perform (fun s h => ?_)
  have hstart : (if filled then (0xB0 : UInt8) else 0x90) &&& 0x80 ≠ 0 := by
    cases filled <;> decide
  have hfill : decide ((if filled then (0xB0 : UInt8) else 0x90) &&& 0x20 ≠ 0) = filled := by
    cases filled <;> rfl
  change Painted _ _ _ (s.step engine (.writeRegister 0x90 (if filled then 0xB0 else 0x90)))
  rw [step_rectangle hstart]
  have hu := h.store hnew (if filled then 0xB0 else 0x90) 0x90
  generalize { s.store 0x90 (if filled then 0xB0 else 0x90) with latch := 0x90 } = u at hu
  have hcorner : ∀ a ∈ cornerBytes x1 y1 x2 y2, a ∈ (0x90, if filled then 0xB0 else 0x90) :: K :=
    fun a ha => List.mem_cons_of_mem _ (hcorners a ha)
  have hx1 : reg16 u.regs 0x91 = x1.toNat :=
    hu.reg16 fun a ha => hcorner a (by simp [cornerBytes, ha])
  have hy1 : reg16 u.regs 0x93 = y1.toNat :=
    hu.reg16 fun a ha => hcorner a (by simp [cornerBytes, ha])
  have hx2 : reg16 u.regs 0x95 = x2.toNat :=
    hu.reg16 fun a ha => hcorner a (by simp [cornerBytes, ha])
  have hy2 : reg16 u.regs 0x97 = y2.toNat :=
    hu.reg16 fun a ha => hcorner a (by simp [cornerBytes, ha])
  have hlayer : u.writeLayer = s₀.writeLayer := by
    unfold PanelState.writeLayer
    rw [hu.others 0x41 (by simpa using h41)]
  refine ⟨hu.statics, hu.completed, hu.others, ?_⟩
  unfold PanelState.rectangle rectangleOf PanelState.paint
  dsimp only
  rw [hfill, hcolor u _ hu, hx1, hy1, hx2, hy2, hlayer, hu.layers]

theorem run_drawRect (x1 y1 x2 y2 : UInt16) (color : UInt8) (filled : Bool) (s : PanelState) :
    Painted (drawRectOn x1.toNat y1.toNat x2.toNat y2.toNat filled (pixelOf color))
      (0x90 :: (colorRegisters ++ cornerRegisters)) s
      (run (panel engine undefinedText) (ra8875DrawRect x1 y1 x2 y2 color filled) s).2 := by
  have hall : Hoare (panel engine undefinedText) (Knows s [])
      (ra8875DrawRect x1 y1 x2 y2 color filled) (fun _ t =>
        Painted (drawRectOn x1.toNat y1.toNat x2.toNat y2.toNat filled (pixelOf color))
          (0x90 :: (colorBytes color ++ cornerBytes x1 y1 x2 y2).map Prod.fst) s t) := by
    refine (knows_setCorners s x1 y1 x2 y2).seq ?_
    refine (knows_write (by decide) (by simp [cornerBytes, bytesOf]) _).seq ?_
    refine (knows_write (by decide) (by simp [cornerBytes, bytesOf]) _).seq ?_
    refine (knows_write (by decide) (by simp [cornerBytes, bytesOf]) _).seq ?_
    refine painted_rectangle (fun a ha => List.mem_append_right (colorBytes color) ha)
      (fun u _ hu => hu.color fun a ha => ?_) ?_ ?_
    · exact List.mem_cons_of_mem _ (List.mem_append_left _ ha)
    · simp [cornerBytes, bytesOf]
    · simp [cornerBytes, bytesOf]
  have hpainted := hall s (knows_self s)
  refine ⟨hpainted.statics, hpainted.completed, fun r hr => hpainted.regs r ?_, hpainted.layers⟩
  have hsame : ∀ r ∈ ([0x90, 0x65, 0x64, 0x63, 0x97 + 1, 0x97, 0x95 + 1, 0x95, 0x93 + 1, 0x93,
      0x91 + 1, 0x91] : List UInt8), r ∈ 0x90 :: (colorRegisters ++ cornerRegisters) := by decide
  exact fun hmem => hr (hsame r hmem)

theorem run_drawRectFast (x1 y1 x2 y2 : UInt16) (s : PanelState) :
    Painted (drawRectOn x1.toNat y1.toNat x2.toNat y2.toNat true (colorOf s.regs))
      (0x90 :: cornerRegisters) s
      (run (panel engine undefinedText) (ra8875DrawRectFast x1 y1 x2 y2) s).2 := by
  have hcolor : ∀ u value, Knows s ((0x90, value) :: cornerBytes x1 y1 x2 y2) u →
      colorOf u.regs = colorOf s.regs := by
    intro u value hu
    unfold colorOf
    rw [hu.others 0x63 (by simp [cornerBytes, bytesOf]),
      hu.others 0x64 (by simp [cornerBytes, bytesOf]),
      hu.others 0x65 (by simp [cornerBytes, bytesOf])]
  have hlast : Hoare (panel engine undefinedText) (Knows s (cornerBytes x1 y1 x2 y2))
      (ra8875WriteRegister 0x90 (if true then 0xB0 else 0x90)) (fun _ t =>
        Painted (drawRectOn x1.toNat y1.toNat x2.toNat y2.toNat true (colorOf s.regs))
          (0x90 :: (cornerBytes x1 y1 x2 y2).map Prod.fst) s t) :=
    painted_rectangle (fun _ ha => ha) hcolor (by simp [cornerBytes, bytesOf])
      (by simp [cornerBytes, bytesOf])
  have hpainted := ((knows_setCorners s x1 y1 x2 y2).seq hlast) s (knows_self s)
  refine ⟨hpainted.statics, hpainted.completed, fun r hr => hpainted.regs r ?_, hpainted.layers⟩
  have hsame : ∀ r ∈ ([0x90, 0x97 + 1, 0x97, 0x95 + 1, 0x95, 0x93 + 1, 0x93,
      0x91 + 1, 0x91] : List UInt8), r ∈ 0x90 :: cornerRegisters := by decide
  exact fun hmem => hr (hsame r hmem)

theorem run_wait {s : PanelState} (hs : s.completed = true) :
    run (panel engine undefinedText) (waitForInterruptPolling intBteCompleted) s =
      ((), (s.step engine (.readRegister 0xF1)).step engine (.writeRegister 0xF1 0x02)) := by
  have hread : ∀ polls, run (panel engine undefinedText)
      (pollInterrupt intBteCompleted (polls + 1)) s =
      run (panel engine undefinedText) (if (if s.completed then (0x02 : UInt8) else 0x00) &&&
        intBteCompleted ≠ 0 then ra8875WriteRegister 0xF1 (if s.completed then 0x02 else 0x00)
        else vTaskDelay .bte 1 >>= fun _ => pollInterrupt intBteCompleted polls)
        (s.step engine (.readRegister 0xF1)) := fun _ => rfl
  unfold waitForInterruptPolling maxPolls
  rw [hread 999, if_pos hs, if_pos (by decide)]
  rfl

def transferBytes (sl dl : UInt8) (w h : UInt16) : List (UInt8 × UInt8) :=
  [(0x51, (0x2 : UInt8) ||| (0xC : UInt8) <<< 4), (0x5F, highByte h), (0x5E, h.toUInt8),
   (0x5D, highByte w), (0x5C, w.toUInt8), (0x5B, dl <<< 7), (0x5A, 0), (0x59, 0), (0x58, 0),
   (0x57, sl <<< 7), (0x56, 0), (0x55, 0), (0x54, 0)]

theorem knows_bteSetup (s : PanelState) (sl dl : UInt8) (w h : UInt16) :
    Hoare (panel engine undefinedText) (Knows s [])
      (setBteSrc 0 0 sl >>= fun _ => setBteDst 0 0 dl >>= fun _ => setBteSize w h >>= fun _ =>
        setBteOpcode 0x2 0xC) (fun _ => Knows s (transferBytes sl dl w h)) := by
  unfold setBteSrc setBteDst setBteSize setBteOpcode
  simp only [bind_assoc]
  iterate 12 refine (knows_write (by decide) (by simp) _).seq ?_
  refine (knows_write (by decide) (by simp) _).conseq (fun _ h => h) (fun _ _ h => ?_)
  simpa [transferBytes, highByte] using h

def copiedBlock (source target : PixelLayer) (w h : ℕ) : PixelLayer := fun x y =>
  if x < w ∧ y < h then source x y else target x y

theorem copied_origin (source target : PixelLayer) (w h : ℕ) :
    copied source target 0 0 0 0 w h = copiedBlock source target w h := by
  funext x y
  unfold copied copiedBlock
  have hblock : (0 ≤ (x : ℕ) ∧ (x : ℕ) < 0 + w ∧ 0 ≤ (y : ℕ) ∧ (y : ℕ) < 0 + h) ↔
      ((x : ℕ) < w ∧ (y : ℕ) < h) := by omega
  have hin : (x : ℕ) - 0 + 0 < 800 ∧ (y : ℕ) - 0 + 0 < 480 := ⟨x.isLt, y.isLt⟩
  rw [dif_pos hin]
  simp only [hblock]
  rfl

def bteRegisters : List UInt8 :=
  [0x50, 0x51, 0x54, 0x55, 0x56, 0x57, 0x58, 0x59, 0x5A, 0x5B, 0x5C, 0x5D, 0x5E, 0x5F, 0xF1]

def layerOf (bit : UInt8) : Fin 2 := if bit <<< 7 &&& 0x80 = 0 then shownLayer else hiddenLayer

theorem transfer_layers {s u : PanelState} {sl dl : UInt8} {w h : UInt16}
    (hu : Knows s ((0x50, 0x80) :: transferBytes sl dl w h) u) :
    u.transfer.layers = Function.update s.layers (layerOf dl)
      (copiedBlock (s.layers (layerOf sl)) (s.layers (layerOf dl)) w.toNat h.toNat) := by
  have hreg : ∀ r v, (r, v) ∈ transferBytes sl dl w h → u.regs r = v :=
    fun r v hrv => hu.known (r, v) (List.mem_cons_of_mem _ hrv)
  have hsource : u.layerBit 0x57 = layerOf sl := by
    unfold PanelState.layerBit layerOf
    rw [hreg 0x57 (sl <<< 7) (by simp [transferBytes])]
  have htarget : u.layerBit 0x5B = layerOf dl := by
    unfold PanelState.layerBit layerOf
    rw [hreg 0x5B (dl <<< 7) (by simp [transferBytes])]
  have hsx : reg16 u.regs 0x54 = 0 := by
    unfold reg16
    rw [hreg 0x54 0 (by simp [transferBytes]), hreg _ 0 (by simp [transferBytes])]
    rfl
  have hdx : reg16 u.regs 0x58 = 0 := by
    unfold reg16
    rw [hreg 0x58 0 (by simp [transferBytes]), hreg _ 0 (by simp [transferBytes])]
    rfl
  have hmask : ∀ bit : UInt8, bit <<< 7 &&& 0x7F = 0 := by
    intro bit
    apply UInt8.toNat_inj.mp
    rw [UInt8.toNat_and, UInt8.toNat_shiftLeft]
    change (bit.toNat <<< 7 % 2 ^ 8) &&& (2 ^ 7 - 1) = 0
    rw [Nat.and_two_pow_sub_one_eq_mod, Nat.shiftLeft_eq]
    omega
  have hsy : u.row 0x56 = 0 := by
    unfold PanelState.row
    rw [hreg 0x56 0 (by simp [transferBytes]), hreg _ (sl <<< 7) (by simp [transferBytes]), hmask]
    rfl
  have hdy : u.row 0x5A = 0 := by
    unfold PanelState.row
    rw [hreg 0x5A 0 (by simp [transferBytes]), hreg _ (dl <<< 7) (by simp [transferBytes]), hmask]
    rfl
  have hwidth : reg16 u.regs 0x5C = w.toNat := hu.reg16 fun a ha => by
    simp only [bytesOf, List.mem_cons, List.not_mem_nil, or_false] at ha
    rcases ha with rfl | rfl <;> simp [transferBytes]
  have hheight : reg16 u.regs 0x5E = h.toNat := hu.reg16 fun a ha => by
    simp only [bytesOf, List.mem_cons, List.not_mem_nil, or_false] at ha
    rcases ha with rfl | rfl <;> simp [transferBytes]
  unfold PanelState.transfer
  dsimp only
  rw [hsource, htarget, hsx, hdx, hsy, hdy, hwidth, hheight, hu.layers, copied_origin]

theorem run_bteMove (engine : TextEngine) (undefinedText : Format → CFloat → List UInt8)
    (sl dl : UInt8) (w h : UInt16) (s : PanelState) :
    let t := (run (panel engine undefinedText) (ra8875BteMove 0 0 sl 0 0 dl w h 0 0xC) s).2
    t.statics = s.statics ∧ t.completed = false ∧
      (∀ r, r ∉ bteRegisters → t.regs r = s.regs r) ∧
      t.layers = Function.update s.layers (layerOf dl)
        (copiedBlock (s.layers (layerOf sl)) (s.layers (layerOf dl)) w.toNat h.toNat) := by
  have hsplit : ra8875BteMove 0 0 sl 0 0 dl w h 0 0xC =
      (setBteSrc 0 0 sl >>= fun _ => setBteDst 0 0 dl >>= fun _ => setBteSize w h >>= fun _ =>
        setBteOpcode 0x2 0xC) >>= fun _ => execBte >>= fun _ =>
          waitForInterruptPolling intBteCompleted := by
    unfold ra8875BteMove
    simp only [bind_assoc]
    rfl
  have hsetup : Knows s (transferBytes sl dl w h) (run (panel engine undefinedText)
      (setBteSrc 0 0 sl >>= fun _ => setBteDst 0 0 dl >>= fun _ => setBteSize w h >>= fun _ =>
        setBteOpcode 0x2 0xC) s).2 := knows_bteSetup s sl dl w h s (knows_self s)
  rw [hsplit, run_bind]
  generalize (run (panel engine undefinedText) (setBteSrc 0 0 sl >>= fun _ => setBteDst 0 0 dl >>=
    fun _ => setBteSize w h >>= fun _ => setBteOpcode 0x2 0xC) s).2 = u at hsetup ⊢
  have hstart : run (panel engine undefinedText) execBte u =
      ((), ({ u.store 0x50 0x80 with latch := 0x50 } : PanelState).transfer) := rfl
  have hnew : (0x50 : UInt8) ∉ (transferBytes sl dl w h).map Prod.fst := by simp [transferBytes]
  have hstored := hsetup.store hnew 0x80 0x50
  rw [run_bind, hstart]
  generalize ({ u.store 0x50 0x80 with latch := 0x50 } : PanelState) = v at hstored
  have hdone : v.transfer.completed = true := rfl
  rw [run_wait hdone]
  refine ⟨hstored.statics, rfl, fun r hr => ?_, transfer_layers hstored⟩
  have hstatus : r ≠ 0xF1 := fun h => hr (by simp [h, bteRegisters])
  refine (Function.update_of_ne hstatus _ _).trans (hstored.others r fun hmem => hr ?_)
  have hsame : ∀ r ∈ ([0x50, 0x51, 0x5F, 0x5E, 0x5D, 0x5C, 0x5B, 0x5A, 0x59, 0x58, 0x57, 0x56,
      0x55, 0x54] : List UInt8), r ∈ bteRegisters := by decide
  exact hsame r hmem

theorem onscreen_restore {glyphs : UInt8 → GlyphBuffer} {saved : PixelLayer} {s : PanelState}
    (hs : Onscreen glyphs saved s) (w h : UInt16) :
    Onscreen glyphs saved (run (panel engine undefinedText)
      (ra8875BteMove 0 0 layerOffscreen 0 0 layerDisplay w h 0 0xC) s).2 := by
  obtain ⟨hstatics, hcompleted, hregs, hlayers⟩ :=
    run_bteMove engine undefinedText layerOffscreen layerDisplay w h s
  refine ⟨?_, ?_, ?_, hcompleted, ?_⟩
  · rw [hstatics]
    exact hs.graphic
  · rw [hstatics]
    exact hs.glyphs
  · rw [hregs 0x41 (by decide)]
    exact hs.layer
  · rw [hlayers]
    exact (Function.update_of_ne (by decide) _ _).trans hs.saved

/-- The restored block comes from the layer that is not shown. -/
theorem agree_restore {b : Backdrop} {font : Option DisplayFont} {A : List UInt8}
    (hb : b.left = b.right) (hA : ∀ r ∈ A, r ∉ bteRegisters) (w h : UInt16) :
    Agrees engine undefinedText (Agree b font A everywhere)
      (ra8875BteMove 0 0 layerOffscreen 0 0 layerDisplay w h 0 0xC)
      (Agree b font A everywhere) := by
  intro s t hst
  obtain ⟨hstaticsS, _, hregsS, hlayersS⟩ :=
    run_bteMove engine undefinedText layerOffscreen layerDisplay w h s
  obtain ⟨hstaticsT, _, hregsT, hlayersT⟩ :=
    run_bteMove engine undefinedText layerOffscreen layerDisplay w h t
  refine ⟨rfl, onscreen_restore hst.left w h, onscreen_restore hst.right w h, ?_, ?_, ?_⟩
  · rw [hstaticsS, hstaticsT]
    exact hst.fonts
  · intro r hr
    rw [hregsS r (hA r hr), hregsT r (hA r hr)]
    exact hst.regs r hr
  · intro x y _
    have hsaved : s.layers 1 = t.layers 1 := by rw [hst.left.saved, hst.right.saved, hb]
    have hshown : s.layers 0 = t.layers 0 :=
      funext fun x => funext fun y => hst.pixels x y trivial
    rw [hlayersS, hlayersT]
    change Function.update s.layers 0 (copiedBlock (s.layers 1) (s.layers 0) _ _) 0 x y =
      Function.update t.layers 0 (copiedBlock (t.layers 1) (t.layers 0) _ _) 0 x y
    rw [Function.update_self, Function.update_self, hsaved, hshown]

end Writes

section Renderers
variable {engine : TextEngine} {undefinedText : Format → CFloat → List UInt8}
variable {b : Backdrop} {font : Option DisplayFont} {A : List UInt8}

theorem agree_values (values : List ValueSpec) :
    Agrees engine undefinedText (Agree b font A everywhere)
      (displayEnableTextModeAndFont .internal >>= fun _ => writeValues values)
      (Agree b none [] everywhere) :=
  agree_enableTextInternal.seq ((agree_writeValues (fun _ hr => List.mem_append_left A hr)
    values).conseq (fun _ _ h => h) (fun _ _ h =>
      h.forgetFont.mono (fun _ hr => absurd hr List.not_mem_nil) (fun _ hy => hy)))

theorem agree_renderMainScreen (isLaps : Bool) :
    Agrees engine undefinedText (Agree b font A nowhere) (displayRenderMainScreen isLaps)
      (Agree b none [] everywhere) := by
  have hbar : Agrees engine undefinedText (Agree b font A everywhere) (mainBar isLaps)
      (Agree b font A everywhere) := by
    unfold mainBar
    split_ifs <;> exact agree_drawRect _ _ _ _ _ _
  exact agree_resetState.seq (agree_enableDrawMode.seq (hbar.seq ((agree_drawBorders _).seq
    ((agree_delay _ _).seq (agree_enableTextComicSans.seq ((agree_writeTexts _).seq
      (agree_values _)))))))

theorem agree_renderStaticDebugScreen :
    Agrees engine undefinedText (Agree b font A nowhere) displayRenderStaticDebugScreen
      (Agree b none [] everywhere) :=
  agree_resetState.seq (agree_enableDrawMode.seq ((agree_drawBorders _).seq
    (agree_enableTextComicSans.seq ((agree_writeTexts _).seq ((agree_delay _ _).seq
      ((agree_writeTexts _).seq (agree_values _)))))))

theorem agree_usePrerenderedDebugRtd (hb : b.left = b.right) (hA : ∀ r ∈ A, r ∉ bteRegisters) :
    Agrees engine undefinedText (Agree b font A nowhere) displayUsePrerenderedDebugRtd
      (Agree b none [] everywhere) :=
  agree_resetState.seq ((agree_restore hb hA 800 400).seq (agree_enableDrawMode.seq
    ((agree_drawBorders _).seq (agree_values _))))

theorem agree_warn :
    Agrees engine undefinedText (Agree b font A nowhere) displayWarn
      (Agree b none [] everywhere) := by
  have htext : Agrees engine undefinedText
      (Agree b (some .internal) (colorRegisters ++ (styleRegisters ++ A)) everywhere)
      (displayWriteTextAt 290 200 (cstring "WARNING")) (Agree b none [] everywhere) :=
    (agree_writeTextAt_internal (fun _ hr => by simp [hr]) _ _ _).conseq (fun _ _ h => h)
      (fun _ _ h => h.forgetFont.mono (fun _ hr => absurd hr List.not_mem_nil) (fun _ hy => hy))
  exact agree_resetState.seq (agree_enableDrawMode.seq ((agree_drawRect _ _ _ _ _ _).seq
    ((agree_delay _ _).seq (agree_enableTextInternal.seq ((agree_internalFontSize _).seq
      (agree_foregroundWhite.seq htext))))))

/-- What a renderer shows depends on the glyphs and on the layer that is not shown alone. -/
theorem agree_render (hb : b.left = b.right) {S : Screen} {draw : Firmware Unit}
    (h : render S = some draw) :
    Agrees engine undefinedText (Agree b none [] nowhere) draw (Agree b none [] everywhere) := by
  cases S with
  | mainNoLaps | mainLaps =>
    obtain rfl := Option.some.inj h
    exact agree_renderMainScreen _
  | debugNoRtd =>
    obtain rfl := Option.some.inj h
    exact agree_renderStaticDebugScreen
  | debugRtd =>
    obtain rfl := Option.some.inj h
    exact agree_usePrerenderedDebugRtd hb (fun r hr => absurd hr List.not_mem_nil)
  | warn =>
    obtain rfl := Option.some.inj h
    exact agree_warn
  | other value outside => simp [render] at h

end Renderers

end SteeringDisplay.PanelRuns
