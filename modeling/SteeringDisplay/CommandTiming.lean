import SteeringDisplay.CommandPanel
import SteeringDisplay.MainRuns

set_option autoImplicit false

/-!
# The time that display.c leaves to its commands

display.c never asks whether a clear or a rectangle has ended. What it relies on is
the number of registers that it writes in between, and its delays.
-/
namespace SteeringDisplay.CommandTiming
open ProgramTree ProgramInterference FirmwareInterface PanelDriver ComicSansFont NumberFormat
open DisplayScreens ButtonLoop Footprints LoopWorld LoopRuns MainRuns PanelRegisters CommandPanel

/-- What is still in progress is a rectangle, and the operation changes the mode without
    the delay that display.c has for that. -/
def Excused (o : firmware.Op) (s : Plant) : Prop :=
  ∀ e ∈ (s.panel.elapse 1).executing,
    (∃ value, o = .writeRegister 0x40 value) ∧ s.undelayed = true ∧ ∃ r, e.command = .rectangle r

def Base (f : DisplayFont) (s : Plant) : Prop :=
  s.world.statics.currentFont = f ∧ s.world.statics.inGraphicMode = true ∧ 2 ≤ s.panel.started

/-- What is pending while the screens are drawn. -/
def Stage (f : DisplayFont) (n m : ℕ) (s : Plant) : Prop := EndWithin n m s ∧ Base f s

def AtRest (s : Plant) : Prop := ∃ f, Stage f 0 0 s

def idleGuard (o : firmware.Op) (s : Plant) : Prop :=
  (NeedsIdle o → Excused o s) ∧ ∀ r, o = .call r → AtRest s

abbrev Timed {α : Type} (pause : SourceFile → ℕ → ℕ) (dur : Command → ℕ → ℕ) (P : Plant → Prop)
    (p : Firmware α) (Q : α → Plant → Prop) : Prop :=
  Triple (plantSystem pause dur) idleGuard P p Q

/-- Neither a start nor a mode, nor the delay that comes before a mode. -/
def Unstarting : firmware.Op → Prop
  | .writeRegister reg _ => reg ∉ ([0x40, 0x8E, 0x90, 0x50] : List UInt8)
  | .vTaskDelay file ms => ¬ (file = .display ∧ ms = defaultDelay)
  | .writeData _ | .call _ => False
  | _ => True

theorem ordinary_of_unstarting {o : firmware.Op} (h : Unstarting o) : Ordinary o := by
  cases o with
  | writeRegister reg value =>
    simp only [Unstarting, List.mem_cons, List.not_mem_nil, or_false, not_or] at h
    exact ⟨h.2.1, h.2.2.1, h.2.2.2⟩
  | vTaskDelay file ms => exact h
  | _ => exact trivial

theorem guard_of_unstarting {o : firmware.Op} (h : Unstarting o) (s : Plant) : idleGuard o s := by
  refine ⟨fun hneeds => ?_, fun r hcall => ?_⟩
  · cases o with
    | writeRegister reg value =>
      simp only [Unstarting, List.mem_cons, List.not_mem_nil, or_false, not_or] at h
      rcases hneeds with hmode | ⟨-, hstart⟩
      · exact absurd hmode h.1
      · exact absurd hstart (by simp [h.2])
    | writeData value => exact h.elim
    | _ => exact hneeds.elim
  · subst hcall
    exact h.elim

section Routines
variable {pause : SourceFile → ℕ → ℕ} {dur : Command → ℕ → ℕ} {n m k d : ℕ} {α : Type}
variable {f : DisplayFont}

theorem guard_idle {o : firmware.Op} (hcall : ∀ r, o ≠ .call r) {s : Plant} (h : EndWithin 0 m s) :
    idleGuard o s := by
  refine ⟨fun _ e he => ?_, fun r ho => absurd ho (hcall r)⟩
  rw [h.none_left (by decide)] at he
  exact absurd he List.not_mem_nil

def Numbered (k : ℕ) (s : Plant) : Prop := s.panel.started = k

theorem stable_numbered : Stable (plantSystem pause dur) (Numbered k) := by
  rintro s _ h (⟨_⟩ | ⟨_⟩) <;> exact h

theorem numbered_ordinary {o : firmware.Op} (ho : Ordinary o) {s : Plant} (h : Numbered k s) :
    Numbered k (s.perform pause dur o) := by
  cases o with
  | writeRegister reg value =>
    have hplain := commandOf_none ho.1 ho.2.1 ho.2.2 s.panel.regs value
    change (s.panel.write dur reg value).started = k
    unfold Panel.write
    rw [hplain]
    dsimp only
    split_ifs <;> exact h
  | _ => exact h

theorem numbered {P : Plant → Prop} {Q : α → Plant → Prop} {p : Firmware α}
    (hp : Timed pause dur P p Q) (hplain : Only Unstarting p) :
    Timed pause dur (fun s => P s ∧ Numbered k s) p (fun a s => Q a s ∧ Numbered k s) := by
  refine hp.frame hplain stable_numbered ?_
  rintro o s r _ ho h ⟨-, -, rfl⟩
  exact numbered_ordinary (ordinary_of_unstarting ho) h

theorem stable_base : Stable (plantSystem pause dur) (Base f) := by
  rintro s _ h (⟨hpress⟩ | ⟨_⟩)
  · cases hpress
    exact h
  · exact h

theorem started_le (s : Plant) (o : firmware.Op) :
    s.panel.started ≤ (s.perform pause dur o).panel.started := by
  cases o with
  | writeRegister reg value =>
    change s.panel.started ≤ (s.panel.write dur reg value).started
    unfold Panel.write
    cases commandOf s.panel.regs reg value with
    | some c => exact Nat.le_succ _
    | none =>
      dsimp only
      split_ifs <;> exact Nat.le_refl _
  | _ => exact Nat.le_refl _

theorem base_kept {o : firmware.Op} (ho : KeepsFont o) {s : Plant} (h : Base f s) :
    Base f (s.perform pause dur o) := by
  refine ⟨?_, ?_, h.2.2.trans (started_le s o)⟩
  · cases o with
    | setCurrentFont font => exact ho.elim
    | _ => exact h.1
  · cases o with
    | setInGraphicMode b => exact ho
    | _ => exact h.2.1

theorem based {P : Plant → Prop} {Q : α → Plant → Prop} {p : Firmware α}
    (hp : Timed pause dur P p Q) (hfont : Only KeepsFont p) :
    Timed pause dur (fun s => P s ∧ Base f s) p (fun a s => Q a s ∧ Base f s) := by
  refine hp.frame hfont stable_base ?_
  rintro o s r _ ho h ⟨-, -, rfl⟩
  exact base_kept ho h

theorem painted {p : Firmware α} {n' m' : ℕ}
    (hp : Timed pause dur (EndWithin n m) p fun _ => EndWithin n' m') (hpaint : Only Painting p) :
    Timed pause dur (Stage f n m) p fun _ => Stage f n' m' :=
  based hp (hpaint.mono fun _ => keepsFont_of_painting)

theorem arranged {p : Firmware α} {n' m' : ℕ}
    (hp : Timed pause dur (EndWithin n m) p fun _ => EndWithin n' m') (harrange : Only Arranging p) :
    Timed pause dur (Stage f n m) p fun _ => Stage f n' m' :=
  based hp (harrange.mono fun _ => keepsFont_of_arranging)

theorem Stage.mono {n' m' : ℕ} {s : Plant} (h : Stage f n m s) (hn : n ≤ n') (hm : m ≤ m') :
    Stage f n' m' s :=
  ⟨h.1.mono hn hm, h.2⟩

theorem stable_stage : Stable (plantSystem pause dur) (Stage f n m) := stable_endWithin.and stable_base

theorem timed_unstarting {p : Firmware α} (hp : Only Unstarting p) :
    Timed pause dur (EndWithin n m) p fun _ => EndWithin n m := by
  refine Triple.of_only hp stable_endWithin (fun o s ho _ => guard_of_unstarting ho s) ?_
  rintro o s r _ ho h ⟨-, -, rfl⟩
  exact endWithin_ordinary (ordinary_of_unstarting ho) h

theorem timed_access {o : Op} (ho : Unstarting o) (hbus : OnBus o) :
    Timed pause dur (EndWithin (n + 1) m) (ask o) fun _ => EndWithin n (m - 1) := by
  refine Triple.perform stable_endWithin (fun _ => stable_endWithin)
    (fun s _ => guard_of_unstarting ho s) ?_
  rintro s r _ h ⟨-, -, rfl⟩
  exact endWithin_access (ordinary_of_unstarting ho) hbus h

theorem timed_write {reg : UInt8} (hreg : reg ∉ ([0x40, 0x8E, 0x90, 0x50] : List UInt8))
    (value : UInt8) :
    Timed pause dur (EndWithin (n + 1) m) (ra8875WriteRegister reg value)
      fun _ => EndWithin n (m - 1) :=
  timed_access hreg trivial

theorem fourWrites_timed {r₁ r₂ r₃ r₄ : UInt8}
    (hr : ∀ r ∈ [r₁, r₂, r₃, r₄], r ∉ ([0x40, 0x8E, 0x90, 0x50] : List UInt8))
    (v₁ v₂ v₃ v₄ : UInt8) : Timed pause dur (EndWithin (n + 4) m) (do
      ra8875WriteRegister r₁ v₁
      ra8875WriteRegister r₂ v₂
      ra8875WriteRegister r₃ v₃
      ra8875WriteRegister r₄ v₄) fun _ => EndWithin n (m - 4) :=
  (timed_write (hr _ (by simp)) _).seq ((timed_write (hr _ (by simp)) _).seq
    ((timed_write (hr _ (by simp)) _).seq (timed_write (hr _ (by simp)) _)))

theorem setTextCursor_timed (x y : UInt16) :
    Timed pause dur (EndWithin (n + 4) m) (displaySetTextCursor x y) fun _ => EndWithin n (m - 4) :=
  fourWrites_timed (by decide) _ _ _ _

theorem foregroundWhite_timed :
    Timed pause dur (EndWithin (n + 3) m) displayForegroundWhite fun _ => EndWithin n (m - 3) :=
  (timed_write (by decide) _).seq ((timed_write (by decide) _).seq (timed_write (by decide) _))

theorem internalFontSize_timed (size : UInt8) :
    Timed pause dur (EndWithin (n + 3) m) (displayInternalFontSize size) fun _ => EndWithin n (m - 3) :=
  (timed_write (by decide) _).seq ((timed_write (by decide) _).seq (timed_write (by decide) _))

theorem write_unstarting {reg : UInt8} (hreg : reg ∉ ([0x40, 0x8E, 0x90, 0x50] : List UInt8))
    (value : UInt8) : Only Unstarting (ra8875WriteRegister reg value) :=
  (only_perform _).mpr hreg

theorem setTextCursor_unstarting (x y : UInt16) : Only Unstarting (displaySetTextCursor x y) :=
  (write_unstarting (by decide) _).bind fun _ => (write_unstarting (by decide) _).bind fun _ =>
    (write_unstarting (by decide) _).bind fun _ => write_unstarting (by decide) _

theorem foregroundWhite_unstarting : Only Unstarting displayForegroundWhite :=
  (write_unstarting (by decide) _).bind fun _ => (write_unstarting (by decide) _).bind fun _ =>
    write_unstarting (by decide) _

theorem clear_timed (hd : dur .clear k ≤ d) :
    Timed pause dur (fun s => EndWithin 0 m s ∧ Numbered k s) ra8875Clear
      fun _ s => EndWithin d d s ∧ Numbered (k + 1) s := by
  have hstart : ∀ regs, commandOf regs 0x8E (0x80 ||| 0x00) = some .clear := fun _ => rfl
  refine Triple.perform (stable_endWithin.and stable_numbered)
    (fun _ => stable_endWithin.and stable_numbered)
    (fun s h => guard_idle (fun _ => Op.noConfusion) h.1) ?_
  rintro s r _ ⟨h, hk⟩ ⟨-, -, rfl⟩
  have hcount : s.panel.started = k := hk
  obtain ⟨-, -, hnext⟩ := perform_start pause dur (hstart _) h
  refine ⟨endWithin_start (hstart _) Command.noConfusion (by rwa [hcount]) h, ?_⟩
  exact hnext.trans (congrArg (· + 1) hcount)

theorem resetState_timed (hd : dur .clear k ≤ d + 7) :
    Timed pause dur (fun s => EndWithin 0 m s ∧ Numbered k s) displayResetState
      fun _ s => EndWithin d d s ∧ Numbered (k + 1) s := by
  have hcursor : Timed pause dur (EndWithin (d + 7) (d + 7)) (displaySetTextCursor 0 0)
      fun _ => EndWithin (d + 3) (d + 3) :=
    setTextCursor_timed 0 0
  have hwhite : Timed pause dur (EndWithin (d + 3) (d + 3)) displayForegroundWhite
      fun _ => EndWithin d d :=
    foregroundWhite_timed
  exact (clear_timed hd).seq ((numbered hcursor (setTextCursor_unstarting 0 0)).seq
    (numbered hwhite foregroundWhite_unstarting))

/-- `RA8875_draw_rect` up to its start. -/
def aimRect (x1 y1 x2 y2 : UInt16) (color : UInt8) : Firmware Unit := do
  setCorners x1 y1 x2 y2
  ra8875WriteRegister 0x63 (color &&& 0b111)
  ra8875WriteRegister 0x64 ((color >>> 3) &&& 0b111)
  ra8875WriteRegister 0x65 ((color >>> 6) &&& 0b11)

theorem drawRect_eq (x1 y1 x2 y2 : UInt16) (color : UInt8) (filled : Bool) :
    ra8875DrawRect x1 y1 x2 y2 color filled = aimRect x1 y1 x2 y2 color >>= fun _ =>
      ra8875WriteRegister 0x90 (if filled then 0xB0 else 0x90) := rfl

theorem timed_store {reg : UInt8} (hreg : reg ∉ ([0x40, 0x8E, 0x90, 0x50] : List UInt8))
    (value : UInt8) (g : UInt8 → UInt8) :
    Timed pause dur (fun s => EndWithin (n + 1) m s ∧ s.panel.regs = g)
      (ra8875WriteRegister reg value)
      fun _ s => EndWithin n (m - 1) s ∧ s.panel.regs = Function.update g reg value := by
  have hstable : ∀ g, Stable (plantSystem pause dur) fun s => s.panel.regs = g := by
    rintro g s _ h (⟨_⟩ | ⟨_⟩) <;> exact h
  refine Triple.perform (stable_endWithin.and (hstable g))
    (fun _ => stable_endWithin.and (hstable _))
    (fun s _ => guard_of_unstarting (o := .writeRegister reg value) hreg s) ?_
  rintro s r _ ⟨h, rfl⟩ ⟨-, -, rfl⟩
  have hplain : Ordinary (.writeRegister reg value) := ordinary_of_unstarting hreg
  refine ⟨endWithin_access hplain trivial h, ?_⟩
  change (s.panel.write dur reg value).regs = _
  unfold Panel.write
  rw [commandOf_none hplain.1 hplain.2.1 hplain.2.2]
  dsimp only
  split_ifs <;> rfl

theorem corners_ext {r r' : Corners} (h1 : r.x1 = r'.x1) (h2 : r.y1 = r'.y1) (h3 : r.x2 = r'.x2)
    (h4 : r.y2 = r'.y2) : r = r' := by
  cases r
  cases r'
  simp only at h1 h2 h3 h4
  rw [h1, h2, h3, h4]

theorem ofNat_reg16 {regs : UInt8 → UInt8} {low : UInt8} {value : UInt16}
    (hlow : regs low = value.toUInt8) (hhigh : regs (low + 1) = highByte value) :
    UInt16.ofNat (reg16 regs low) = value := by
  rw [reg16_eq hlow hhigh, UInt16.ofNat_toNat]

theorem setCorners_timed (x1 y1 x2 y2 : UInt16) :
    Timed pause dur (EndWithin (n + 8) m) (setCorners x1 y1 x2 y2)
      fun _ s => EndWithin n (m - 8) s ∧ cornersOf s.panel.regs = ⟨x1, y1, x2, y2⟩ := by
  intro s h
  have hwrites : Timed pause dur (fun u => EndWithin (n + 8) m u ∧ u.panel.regs = s.panel.regs)
      (setCorners x1 y1 x2 y2) _ :=
    (timed_store (by decide) _ _).seq ((timed_store (by decide) _ _).seq
      ((timed_store (by decide) _ _).seq ((timed_store (by decide) _ _).seq
        ((timed_store (by decide) _ _).seq ((timed_store (by decide) _ _).seq
          ((timed_store (by decide) _ _).seq (timed_store (by decide) _ _)))))))
  refine (hwrites s ⟨h, rfl⟩).conseq fun _ u hu => ⟨hu.1, ?_⟩
  rw [hu.2]
  exact corners_ext (ofNat_reg16 rfl rfl) (ofNat_reg16 rfl rfl) (ofNat_reg16 rfl rfl)
    (ofNat_reg16 rfl rfl)

theorem timed_color {reg : UInt8} (hreg : reg ∈ colorRegisters) (value : UInt8) (c : Corners) :
    Timed pause dur (fun s => EndWithin (n + 1) m s ∧ cornersOf s.panel.regs = c)
      (ra8875WriteRegister reg value)
      fun _ s => EndWithin n (m - 1) s ∧ cornersOf s.panel.regs = c := by
  intro s h
  have hplain : reg ∉ ([0x40, 0x8E, 0x90, 0x50] : List UInt8) := by
    revert reg
    decide
  refine (timed_store hplain value s.panel.regs s ⟨h.1, rfl⟩).conseq fun _ u hu => ⟨hu.1, ?_⟩
  rw [hu.2, ← h.2]
  have hkept : ∀ r ∈ cornerRegisters, Function.update s.panel.regs reg value r = s.panel.regs r := by
    have hapart : ∀ r ∈ cornerRegisters, r ∉ colorRegisters := by decide
    intro r hr
    refine Function.update_of_ne ?_ ..
    rintro rfl
    exact hapart r hr hreg
  unfold cornersOf reg16
  rw [hkept 0x91 (by decide), hkept (0x91 + 1) (by decide), hkept 0x93 (by decide),
    hkept (0x93 + 1) (by decide), hkept 0x95 (by decide), hkept (0x95 + 1) (by decide),
    hkept 0x97 (by decide), hkept (0x97 + 1) (by decide)]

theorem aimRect_timed (x1 y1 x2 y2 : UInt16) (color : UInt8) :
    Timed pause dur (EndWithin (n + 11) m) (aimRect x1 y1 x2 y2 color)
      fun _ s => EndWithin n (m - 11) s ∧ cornersOf s.panel.regs = ⟨x1, y1, x2, y2⟩ :=
  (setCorners_timed x1 y1 x2 y2).seq ((timed_color (by decide) _ _).seq
    ((timed_color (by decide) _ _).seq (timed_color (by decide) _ _)))

theorem startRect_timed {c : Corners} {value : UInt8} (hbit : value &&& 0x80 ≠ 0)
    (hd : ∀ n, dur (.rectangle c) n ≤ d) :
    Timed pause dur (fun s => EndWithin 0 m s ∧ cornersOf s.panel.regs = c)
      (ra8875WriteRegister 0x90 value) fun _ => EndWithin d 0 := by
  have hstable : Stable (plantSystem pause dur) fun s => cornersOf s.panel.regs = c := by
    rintro s _ h (⟨_⟩ | ⟨_⟩) <;> exact h
  refine Triple.perform (stable_endWithin.and hstable) (fun _ => stable_endWithin)
    (fun s h => guard_idle (fun _ => Op.noConfusion) h.1) ?_
  rintro s r _ ⟨h, rfl⟩ ⟨-, -, rfl⟩
  exact endWithin_rectangle hbit (hd _) h

theorem drawRect_timed {x1 y1 x2 y2 : UInt16} (hd : ∀ n, dur (.rectangle ⟨x1, y1, x2, y2⟩) n ≤ d)
    (color : UInt8) (filled : Bool) :
    Timed pause dur (EndWithin 11 m) (ra8875DrawRect x1 y1 x2 y2 color filled)
      fun _ => EndWithin d 0 := by
  rw [drawRect_eq]
  refine (aimRect_timed x1 y1 x2 y2 color).seq (startRect_timed ?_ hd)
  cases filled <;> decide

theorem drawRectFast_timed {x1 y1 x2 y2 : UInt16}
    (hd : ∀ n, dur (.rectangle ⟨x1, y1, x2, y2⟩) n ≤ d) :
    Timed pause dur (EndWithin 8 m) (ra8875DrawRectFast x1 y1 x2 y2) fun _ => EndWithin d 0 :=
  (setCorners_timed x1 y1 x2 y2).seq (startRect_timed (by decide) hd)

end Routines

section InTime
variable {pause : SourceFile → ℕ → ℕ} {dur : Command → ℕ → ℕ} {n m : ℕ} {f : DisplayFont}
variable (htime : InTime pause dur)
include htime

theorem rectangle_le {r : Corners} (hplain : r ∉ lastMainBorder :: textBoxes) (n : ℕ) :
    dur (.rectangle r) n ≤ 11 := by
  refine (htime.rectangles r n).trans ?_
  unfold slack
  rw [if_neg fun hbox => hplain (List.mem_cons_of_mem _ hbox),
    if_neg fun hlast => hplain (List.mem_cons.mpr (Or.inl hlast))]
  split_ifs <;> decide

theorem span_le {r : Corners} (hspan : r.IsSpan) (n : ℕ) : dur (.rectangle r) n ≤ 8 := by
  have hplain : r ∉ lastMainBorder :: textBoxes := by
    have hwaited : ∀ r ∈ lastMainBorder :: textBoxes, ¬ r.IsSpan := by decide
    exact fun h => hwaited r h hspan
  refine (htime.rectangles r n).trans (Nat.le_of_eq ?_)
  unfold slack
  rw [if_neg fun hbox => hplain (List.mem_cons_of_mem _ hbox),
    if_neg fun hlast => hplain (List.mem_cons.mpr (Or.inl hlast)), if_pos hspan]

theorem box_le {r : Corners} (hbox : r ∈ textBoxes) (n : ℕ) :
    dur (.rectangle r) n ≤ pause .display defaultDelay := by
  refine (htime.rectangles r n).trans (Nat.le_of_eq ?_)
  unfold slack
  rw [if_pos hbox]

theorem bar_stage {x1 y1 x2 y2 : UInt16}
    (hplain : (⟨x1, y1, x2, y2⟩ : Corners) ∉ lastMainBorder :: textBoxes) (color : UInt8) :
    Timed pause dur (Stage f 11 m) (displayDrawRect x1 y1 x2 y2 color true)
      fun _ => Stage f 11 0 :=
  painted (drawRect_timed (rectangle_le htime hplain) color true) (drawRect_painting _ _ _ _ _ _)

theorem borders_stage {lines : List LineSpec} (hne : lines ≠ [])
    (hplain : ∀ l ∈ lines, (⟨l.x1, l.y1, l.x2, l.y2⟩ : Corners) ∉ lastMainBorder :: textBoxes) :
    Timed pause dur (Stage f 11 m) (displayDrawBorders lines) fun _ => Stage f 11 0 := by
  cases lines with
  | nil => exact absurd rfl hne
  | cons l lines =>
    refine (bar_stage htime (hplain l (List.mem_cons_self ..)) colorWhite).seq ?_
    exact Triple.forM _ _ stable_stage fun l' hl' =>
      bar_stage htime (hplain l' (List.mem_cons_of_mem _ hl')) colorWhite

omit htime in
theorem drawBorders_concat (lines : List LineSpec) (l : LineSpec) :
    displayDrawBorders (lines ++ [l]) = displayDrawBorders lines >>= fun _ =>
      displayDrawRect l.x1 l.y1 l.x2 l.y2 colorWhite true := by
  unfold displayDrawBorders
  rw [List.forM_eq_forM, List.forM_append]
  rfl

theorem mainBorders_stage (isLaps : Bool) : Timed pause dur (Stage f 11 m)
    (displayDrawBorders (if isLaps then mainBordersLaps else mainBordersNoLaps))
    fun _ => Stage f (pause .display defaultDelay + 11) 0 := by
  have hlast : Timed pause dur (Stage f 11 0) (displayDrawRect 533 360 534 480 colorWhite true)
      fun _ => Stage f (pause .display defaultDelay + 11) 0 :=
    painted (drawRect_timed (htime.rectangles lastMainBorder) _ _) (drawRect_painting _ _ _ _ _ _)
  have hsplit : ∀ lines : List LineSpec, lines ≠ [] →
      (∀ l ∈ lines, (⟨l.x1, l.y1, l.x2, l.y2⟩ : Corners) ∉ lastMainBorder :: textBoxes) →
      Timed pause dur (Stage f 11 m) (displayDrawBorders (lines ++ [⟨533, 360, 534, 480⟩]))
        fun _ => Stage f (pause .display defaultDelay + 11) 0 := by
    intro lines hne hplain
    rw [drawBorders_concat]
    exact (borders_stage htime hne hplain).seq hlast
  cases isLaps with
  | false => exact hsplit mainBordersNoLaps.dropLast (by decide) (by decide)
  | true => exact hsplit mainBordersLaps.dropLast (by decide) (by decide)

omit htime in
theorem spanEnd_le (buf : GlyphBuffer) (col : ℕ) {row : ℕ} (hrow : row ≤ 16) :
    spanEnd buf col row ≤ 16 := by
  fun_induction spanEnd buf col row with
  | case1 row h ih => exact ih (Nat.succ_le_of_lt h.1)
  | case2 row _ => exact hrow

omit htime in
theorem isSpan_of_rows (x y : UInt16) (first last : ℕ) (hle : first ≤ last)
    (hlt : last < first + 32) :
    Corners.IsSpan ⟨x, y + UInt16.ofNat first, x + UInt16.ofNat glyphScale - 1,
      y + UInt16.ofNat last⟩ := by
  refine ⟨add_sub_assoc x 2 1, ?_⟩
  change (y + UInt16.ofNat last - (y + UInt16.ofNat first)).toNat < 32
  rw [add_sub_add_left_eq_sub, ← UInt16.ofNat_sub hle, UInt16.toNat_ofNat']
  omega

theorem blitColumn_timed (x y : UInt16) (buf : GlyphBuffer) (col row : ℕ) :
    Timed pause dur (EndWithin 8 m) (blitColumn x (x + UInt16.ofNat glyphScale - 1) y buf col row)
      fun _ => EndWithin 8 m := by
  generalize hpx2 : x + UInt16.ofNat glyphScale - 1 = px2
  fun_induction blitColumn x px2 y buf col row with
  | case1 row _ _ ih => exact ih
  | case2 row hrow hlit stop ih =>
    subst hpx2
    have hlt : row < stop := lt_spanEnd hrow hlit
    have hstop : stop ≤ 16 := spanEnd_le buf col hrow.le
    have hspan := isSpan_of_rows x y (row * glyphScale)
      ((stop - 1) * glyphScale + glyphScale - 1) (by unfold glyphScale; omega)
      (by unfold glyphScale; omega)
    have hdraw : Timed pause dur (EndWithin 8 m) (ra8875DrawRectFast ..) fun _ => EndWithin 8 m :=
      (drawRectFast_timed (span_le htime hspan)).conseq (fun _ h => h)
        fun _ _ h => h.mono (Nat.le_refl 8) (Nat.zero_le m)
    exact hdraw.seq ih
  | case3 row _ => exact Triple.pure stable_endWithin fun _ h => h

theorem blitGlyph_timed (x y : UInt16) (buf : GlyphBuffer) :
    Timed pause dur (EndWithin 11 m) (displayBlitGlyph x y buf) fun _ => EndWithin 8 (m - 3) :=
  foregroundWhite_timed.seq (Triple.forM _ _ stable_endWithin fun _ _ =>
    blitColumn_timed htime _ _ _ _ _)

def drawnGlyphs (table : UInt8 → Option Glyph8x16) : List UInt8 → ℕ
  | [] => 0
  | ch :: msg =>
    if ch = 0 then 0
    else match table ch with
      | none => drawnGlyphs table msg
      | some _ => drawnGlyphs table msg + 1

/-- Each character that is drawn begins with three colour registers. -/
theorem blitCharacters_timed (table : UInt8 → Option Glyph8x16) (x y : UInt16)
    (msg : List UInt8) : Timed pause dur (EndWithin 11 m) (blitCharacters table x y msg)
      fun _ => EndWithin 11 (m - 3 * drawnGlyphs table msg) := by
  induction msg generalizing x m with
  | nil => exact Triple.pure stable_endWithin fun _ h => h
  | cons ch msg ih =>
    unfold blitCharacters drawnGlyphs
    split_ifs with hend
    · exact Triple.pure stable_endWithin fun _ h => h
    · cases htable : table ch with
      | none => exact ih x
      | some g =>
        have hload : Only Unstarting (loadGlyphCache ch) := (only_perform _).mpr trivial
        refine (timed_unstarting hload).bind fun buf => ?_
        refine (blitGlyph_timed htime x y buf).seq ?_
        refine (ih (m := m - 3) _).conseq (fun _ h => h.mono (by decide) (Nat.le_refl _))
          fun _ _ h => h.mono (Nat.le_refl _) (by dsimp only; omega)

theorem comicSansText_stage (x y : UInt16) (msg : List UInt8) :
    Timed pause dur (Stage .comicSans 11 m) (displayWriteTextAt x y msg)
      fun _ => Stage .comicSans 11 (m - 3 * drawnGlyphs glyphs msg) := by
  have hload : Timed pause dur (Stage .comicSans 11 m) loadCurrentFont
      fun font s => font = .comicSans ∧ Stage .comicSans 11 m s := by
    refine Triple.perform stable_stage (fun _ => (Stable.const _).and stable_stage)
      (fun s _ => guard_of_unstarting (o := .currentFont) trivial s) ?_
    rintro s font _ h ⟨hfont, -, rfl⟩
    exact ⟨hfont.trans h.2.1, endWithin_ordinary (o := .currentFont) trivial h.1,
      base_kept (o := .currentFont) trivial h.2⟩
  refine hload.bind fun font => ?_
  cases font with
  | internal => exact fun s h => DisplayFont.noConfusion h.1
  | comicSans =>
    have hblit : Timed pause dur (Stage .comicSans 11 m) (blitCharacters glyphs x y msg) _ :=
      painted (blitCharacters_timed htime glyphs x y msg)
        ((blitCharacters_plotting glyphs x y msg).mono fun _ => painting_of_plotting)
    exact hblit.conseq (fun _ h => h.2) fun _ _ h => h

theorem labels_stage (texts : List TextSpec) :
    Timed pause dur (Stage .comicSans 11 0) (writeTexts texts) fun _ => Stage .comicSans 11 0 :=
  Triple.forM _ _ stable_stage fun t _ =>
    (comicSansText_stage htime t.x t.y (cstring t.msg)).conseq (fun _ h => h)
      fun _ _ h => h.mono (Nat.le_refl _) (Nat.sub_le ..)

theorem firstLabels_stage {t : TextSpec} {texts : List TextSpec}
    (ht : 4 ≤ drawnGlyphs glyphs (cstring t.msg)) :
    Timed pause dur (Stage .comicSans 11 11) (writeTexts (t :: texts))
      fun _ => Stage .comicSans 11 0 := by
  have hfirst : Timed pause dur (Stage .comicSans 11 11) (displayWriteTextAt t.x t.y (cstring t.msg))
      fun _ => Stage .comicSans 11 0 :=
    (comicSansText_stage htime t.x t.y (cstring t.msg)).conseq (fun _ h => h)
      fun _ _ h => h.mono (Nat.le_refl _) (by omega)
  exact hfirst.seq (labels_stage htime texts)

omit htime

theorem delay_stage : Timed pause dur (Stage f n m) (vTaskDelay .display defaultDelay)
    fun _ => Stage f (n - pause .display defaultDelay) (n - pause .display defaultDelay) := by
  refine Triple.perform stable_stage (fun _ => stable_stage) (fun s _ => ⟨fun h => h.elim, ?_⟩) ?_
  · exact fun r h => Op.noConfusion h
  · rintro s r _ h ⟨-, -, rfl⟩
    exact ⟨endWithin_delay h.1, base_kept (o := .vTaskDelay .display defaultDelay) trivial h.2⟩

theorem watchdogDelay_stage : Timed pause dur (Stage f n m) (vTaskDelay .display watchdogDelay)
    fun _ => Stage f n m := by
  have hother : Unstarting (.vTaskDelay .display watchdogDelay) := fun h => absurd h.2 (by decide)
  exact based (timed_unstarting ((only_perform _).mpr hother)) ((only_perform _).mpr trivial)

theorem loadInGraphicMode_stage : Timed pause dur (Stage f n m) loadInGraphicMode
    fun graphic s => graphic = true ∧ Stage f n m s := by
  refine Triple.perform stable_stage (fun _ => (Stable.const _).and stable_stage)
    (fun s _ => guard_of_unstarting (o := .inGraphicMode) trivial s) ?_
  rintro s graphic _ h ⟨hgraphic, -, rfl⟩
  exact ⟨hgraphic.trans h.2.2.1, endWithin_ordinary (o := .inGraphicMode) trivial h.1,
    base_kept (o := .inGraphicMode) trivial h.2⟩

theorem enableDrawMode_stage :
    Timed pause dur (Stage f n m) displayEnableDrawMode fun _ => Stage f n m := by
  refine loadInGraphicMode_stage.bind fun graphic => ?_
  cases graphic with
  | true => exact Triple.pure ((Stable.const _).and stable_stage) fun _ h => h.2
  | false => exact fun s h => Bool.noConfusion h.1

theorem setCurrentFont_stage (font : DisplayFont) :
    Timed pause dur (Stage f n m) (setCurrentFont font) fun _ => Stage font n m := by
  refine Triple.perform stable_stage (fun _ => stable_stage)
    (fun s _ => guard_of_unstarting (o := .setCurrentFont font) trivial s) ?_
  rintro s r _ h ⟨-, -, rfl⟩
  exact ⟨endWithin_ordinary (o := .setCurrentFont font) trivial h.1, rfl, h.2.2⟩

theorem enableComicSans_stage : Timed pause dur (Stage f n m)
    (displayEnableTextModeAndFont .comicSans) fun _ => Stage .comicSans n m :=
  (setCurrentFont_stage .comicSans).seq enableDrawMode_stage

/-- The mode changes while only rectangles may last, and not after the delay. -/
theorem textMode_timed :
    Timed pause dur (EndWithin (n + 1) 0) (ra8875WriteRegister 0x40 0x80) fun _ => EndWithin n 0 := by
  refine Triple.perform stable_endWithin (fun _ => stable_endWithin) (fun s h => ⟨fun _ e he => ?_, ?_⟩) ?_
  · obtain ⟨e', he', hcommand, hleft⟩ := mem_elapse he
    obtain ⟨hundelayed, r, hr⟩ := h.undelayed e' he' (by omega)
    exact ⟨⟨0x80, rfl⟩, hundelayed, r, hcommand.trans hr⟩
  · exact fun r hcall => Op.noConfusion hcall
  · rintro s r _ h ⟨-, -, rfl⟩
    have hplain : Ordinary (.writeRegister 0x40 0x80) := by
      unfold Ordinary
      decide
    exact endWithin_access hplain trivial h

theorem fontSize_keepsFont (size : UInt8) : Only KeepsFont (displayInternalFontSize size) :=
  ⟨trivial, fun _ => ⟨trivial, fun _ => ⟨trivial, fun _ => trivial⟩⟩⟩

/-- Eleven accesses later the first character may come. -/
theorem enableInternal_stage : Timed pause dur (Stage f 11 0)
    (displayEnableTextModeAndFont .internal) fun _ => Stage .internal 4 0 := by
  have hleave : Timed pause dur (Stage .internal 11 0) leaveGraphicMode
      fun _ => Stage .internal 10 0 := by
    refine loadInGraphicMode_stage.bind fun graphic => ?_
    cases graphic with
    | true =>
      have hmode : Timed pause dur (Stage .internal 11 0) (ra8875WriteRegister 0x40 0x80)
          fun _ => Stage .internal 10 0 := arranged textMode_timed (write_arranging (by decide) _)
      exact hmode.conseq (fun _ h => h.2) fun _ _ h => h
    | false => exact fun s h => Bool.noConfusion h.1
  have hwhite : Timed pause dur (Stage .internal 10 0) displayForegroundWhite
      fun _ => Stage .internal 7 0 := painted foregroundWhite_timed foregroundWhite_painting
  have hsize : Timed pause dur (Stage .internal 7 0) (displayInternalFontSize fontSizeTriple)
      fun _ => Stage .internal 4 0 :=
    based (internalFontSize_timed _) (fontSize_keepsFont _)
  exact (setCurrentFont_stage .internal).seq (hleave.seq (hwhite.seq hsize))

theorem sendCharacters_timed (msg : List UInt8) :
    Timed pause dur (EndWithin 0 0) (sendCharacters msg) fun _ => EndWithin 0 0 := by
  induction msg with
  | nil => exact Triple.pure stable_endWithin fun _ h => h
  | cons ch msg ih =>
    unfold sendCharacters
    split_ifs
    · exact Triple.pure stable_endWithin fun _ h => h
    · refine Triple.seq (Triple.perform stable_endWithin (fun _ => stable_endWithin)
        (fun s h => guard_idle (fun _ => Op.noConfusion) h) ?_) ih
      rintro s r _ h ⟨-, -, rfl⟩
      exact endWithin_ordinary (o := .writeData ch) trivial h

theorem internalText_stage (x y : UInt16) (msg : List UInt8) : Timed pause dur
    (Stage .internal 4 0) (displayWriteTextAt x y msg) fun _ => Stage .internal 0 0 := by
  have hload : Timed pause dur (Stage .internal 4 0) loadCurrentFont
      fun font s => font = .internal ∧ Stage .internal 4 0 s := by
    refine Triple.perform stable_stage (fun _ => (Stable.const _).and stable_stage)
      (fun s _ => guard_of_unstarting (o := .currentFont) trivial s) ?_
    rintro s font _ h ⟨hfont, -, rfl⟩
    exact ⟨hfont.trans h.2.1, endWithin_ordinary (o := .currentFont) trivial h.1,
      base_kept (o := .currentFont) trivial h.2⟩
  have hcursor : Timed pause dur (EndWithin 4 0) (displaySetTextCursor x y) fun _ => EndWithin 0 0 :=
    setTextCursor_timed x y
  have hport : Timed pause dur (EndWithin 0 0) (ra8875WriteCommand 0x02) fun _ => EndWithin 0 0 :=
    timed_unstarting ((only_perform _).mpr trivial)
  have hsend : Timed pause dur (Stage .internal 4 0) (displaySetTextCursor x y >>= fun _ =>
      ra8875WriteCommand 0x02 >>= fun _ => sendCharacters msg) fun _ => Stage .internal 0 0 :=
    painted (hcursor.seq (hport.seq (sendCharacters_timed msg)))
      ((setTextCursor_painting x y).bind fun _ => ⟨rfl, fun _ => sendCharacters_painting msg⟩)
  refine hload.bind fun font => ?_
  cases font with
  | internal => exact hsend.conseq (fun _ h => h.2) fun _ _ h => h
  | comicSans => exact fun s h => DisplayFont.noConfusion h.1

theorem number_stage (x y : UInt16) (isWholeNumber : Bool) (value : CFloat)
    (hasManyDigits : Bool) : Timed pause dur (Stage .internal 4 0)
      (displayWriteNumberAt x y isWholeNumber value hasManyDigits)
      fun _ => Stage .internal 0 0 := by
  have hprint : ∀ size format, Timed pause dur (Stage .internal 4 0) (snprintf size format value)
      fun _ => Stage .internal 4 0 := by
    intro size format
    refine painted (timed_unstarting ?_) (snprintf_painting size format value)
    cases format with
    | d => exact ⟨trivial, fun _ => trivial⟩
    | f precision => exact trivial
  unfold displayWriteNumberAt
  split_ifs
  · exact (hprint _ _).bind fun _ => internalText_stage _ _ _
  · exact (hprint _ _).bind fun _ => internalText_stage _ _ _
  · exact (hprint _ _).bind fun _ => internalText_stage _ _ _

theorem values_stage {values : List ValueSpec} (hne : values ≠ []) : Timed pause dur
    (Stage .internal 4 0) (writeValues values) fun _ => Stage .internal 0 0 := by
  have hvalue : ∀ v, Timed pause dur (Stage .internal 4 0) (writeValue v)
      fun _ => Stage .internal 0 0 := by
    intro v
    cases v with
    | float x y | manyDigits x y | whole x y => exact number_stage _ _ _ _ _
    | text x y msg => exact internalText_stage _ _ _
  cases values with
  | nil => exact absurd rfl hne
  | cons v values =>
    exact (hvalue v).seq (Triple.forM _ _ stable_stage fun v' _ =>
      (hvalue v').conseq (fun _ h => h.mono (Nat.zero_le 4) (Nat.le_refl 0)) fun _ _ h => h)

theorem readStatus_transferring (n : ℕ) :
    Timed pause dur (Transferring n) (ra8875ReadRegister 0xF1)
      (fun (status : UInt8) s => (status &&& intBteCompleted ≠ 0 → Completed s) ∧
        (¬ status &&& intBteCompleted ≠ 0 → 1 ≤ n ∧ Transferring (n - 1) s)) := by
  refine Triple.perform stable_transferring (fun status => ?_)
    (fun s _ => guard_of_unstarting (o := .readRegister 0xF1) trivial s) ?_
  · exact (stable_completed pause dur).imp.and ((Stable.const (1 ≤ n)).and stable_transferring).imp
  · rintro s (status : UInt8) _ h ⟨_, hreport, rfl⟩
    have hbit : status &&& intBteCompleted ≠ 0 ↔ (s.panel.elapse 1).completed = true := hreport rfl
    rw [hbit]
    rcases transferring_elapse 1 h with ⟨hcompleted, hnone⟩ | ⟨hcompleted, hn, left, hleft, hone⟩
    · exact ⟨fun _ => ⟨hcompleted, hnone⟩, fun hno => absurd hcompleted hno⟩
    · exact ⟨fun hyes => absurd hyes (by rw [hcompleted]; decide),
        fun _ => ⟨hn, Or.inr ⟨hcompleted, left, hleft, hone⟩⟩⟩

theorem acknowledge_completed {status : UInt8} (hbit : status &&& intBteCompleted ≠ 0) :
    Timed pause dur Completed (ra8875WriteRegister 0xF1 status) fun _ => EndWithin 0 0 := by
  have hreg : (0xF1 : UInt8) ∉ ([0x40, 0x8E, 0x90, 0x50] : List UInt8) := by decide
  refine Triple.perform (stable_completed pause dur) (fun _ => stable_endWithin)
    (fun s _ => guard_of_unstarting (o := .writeRegister 0xF1 status) hreg s) ?_
  rintro s r _ ⟨hcompleted, hnone⟩ ⟨-, -, rfl⟩
  have hwrite : (s.perform pause dur (.writeRegister 0xF1 status)).panel =
      { s.panel.elapse 1 with
        regs := Function.update s.panel.regs 0xF1 status
        completed := false } := by
    change s.panel.write dur 0xF1 status = _
    unfold Panel.write
    rw [commandOf_none (by decide) (by decide) (by decide)]
    exact if_pos ⟨rfl, hbit⟩
  have hempty : (s.perform pause dur (.writeRegister 0xF1 status)).panel.executing = [] := by
    rw [hwrite]
    unfold Panel.elapse
    rw [hnone]
    rfl
  refine ⟨by rw [hwrite], ?_, ?_⟩
  · rw [hempty]
    exact fun e he => absurd he List.not_mem_nil
  · rw [hempty]
    exact fun e he => absurd he List.not_mem_nil

/-- The wait outlasts every transfer that ends by the last poll. -/
theorem pollInterrupt_timed (polls : ℕ) {n : ℕ} (hn : n ≤ polls * (1 + pause .bte 1)) :
    Timed pause dur (Transferring n) (pollInterrupt intBteCompleted (polls + 1))
      fun _ => EndWithin 0 0 := by
  induction polls generalizing n with
  | zero =>
    refine (readStatus_transferring n).bind fun (status : UInt8) => ?_
    change Timed pause dur _ (if status &&& intBteCompleted ≠ 0 then _ else _) _
    split_ifs with hbit
    · exact (acknowledge_completed hbit).conseq (fun _ h => h.1 hbit) fun _ _ h => h
    · intro s h
      have hpos := (h.2 hbit).1
      omega
  | succ polls ih =>
    refine (readStatus_transferring n).bind fun (status : UInt8) => ?_
    change Timed pause dur _ (if status &&& intBteCompleted ≠ 0 then _ else _) _
    split_ifs with hbit
    · exact (acknowledge_completed hbit).conseq (fun _ h => h.1 hbit) fun _ _ h => h
    · have hdelay : Timed pause dur (Transferring (n - 1)) (vTaskDelay .bte 1)
          fun _ => Transferring (n - 1 - pause .bte 1) := by
        have hquiet : Unstarting (.vTaskDelay .bte 1) := fun h => SourceFile.noConfusion h.1
        refine Triple.perform stable_transferring (fun _ => stable_transferring)
          (fun s _ => guard_of_unstarting hquiet s) ?_
        rintro s r _ h ⟨-, -, rfl⟩
        rcases transferring_elapse (pause .bte 1) h with hdone | ⟨hcompleted, -, hone⟩
        · exact Or.inl hdone
        · exact Or.inr ⟨hcompleted, hone⟩
      have hbudget : n - 1 - pause .bte 1 ≤ polls * (1 + pause .bte 1) := by
        rw [Nat.succ_mul] at hn
        omega
      exact (hdelay.seq (ih hbudget)).conseq (fun _ h => (h.2 hbit).2) fun _ _ h => h

include htime

theorem execBte_timed : Timed pause dur (EndWithin 0 m) execBte
    fun _ => Transferring ((maxPolls - 1) * (1 + pause .bte 1)) := by
  refine Triple.perform stable_endWithin (fun _ => stable_transferring)
    (fun s h => guard_idle (fun _ => Op.noConfusion) h) ?_
  rintro s r _ h ⟨-, -, rfl⟩
  have hstart : commandOf s.panel.regs 0x50 ((1 : UInt8) <<< 7) = some .transfer := rfl
  obtain ⟨hone, hcompleted, -⟩ := perform_start pause dur hstart h
  exact Or.inr ⟨hcompleted, _, htime.transfers _, hone⟩

/-- The thirteen registers of a block move outlast a clear. -/
theorem bteMove_stage (sx sy : UInt16) (sl : UInt8) (dx dy : UInt16) (dl : UInt8) (w h : UInt16)
    (negative rop : UInt8) : Timed pause dur (Stage f 11 11)
      (ra8875BteMove sx sy sl dx dy dl w h negative rop) fun _ => Stage f 0 0 := by
  have hmove : Timed pause dur (EndWithin 13 13)
      (ra8875BteMove sx sy sl dx dy dl w h negative rop) fun _ => EndWithin 0 0 :=
    (fourWrites_timed (by decide) _ _ _ _).seq ((fourWrites_timed (by decide) _ _ _ _).seq
      ((fourWrites_timed (by decide) _ _ _ _).seq ((timed_write (by decide) _).seq
        ((execBte_timed htime).seq (pollInterrupt_timed (maxPolls - 1) (Nat.le_refl _))))))
  exact (arranged hmove (bteMove_arranging _ _ _ _ _ _ _ _ _ _)).conseq
    (fun _ hs => hs.mono (by decide) (by decide)) fun _ _ hs => hs

theorem resetState_stage :
    Timed pause dur (Stage f 0 0) displayResetState fun _ => Stage f 11 11 := by
  rintro s ⟨h, hbase⟩
  have hclear : dur .clear s.panel.started ≤ 11 + 7 := by
    obtain ⟨n, hn⟩ := Nat.exists_eq_add_of_le' hbase.2.2
    rw [hn]
    exact htime.clears n
  have hreset : Timed pause dur (fun u => (EndWithin 0 0 u ∧ Numbered s.panel.started u) ∧ Base f u)
      displayResetState _ :=
    based (resetState_timed hclear) (resetState_arranging.mono fun _ => keepsFont_of_arranging)
  exact (hreset s ⟨⟨h, rfl⟩, hbase⟩).conseq fun _ _ hs => ⟨hs.1.1, hs.2⟩

theorem renderMainScreen_stage (isLaps : Bool) : Timed pause dur (Stage f 0 0)
    (displayRenderMainScreen isLaps) fun _ => Stage .internal 0 0 := by
  have hbar : Timed pause dur (Stage f 11 11) (mainBar isLaps) fun _ => Stage f 11 0 := by
    cases isLaps
    · exact bar_stage htime (by decide) _
    · exact bar_stage htime (by decide) _
  have hdelay : Timed pause dur (Stage f (pause .display defaultDelay + 11) 0)
      (vTaskDelay .display defaultDelay) fun _ => Stage f 11 11 :=
    delay_stage.conseq (fun _ h => h) fun _ _ h => by rwa [Nat.add_sub_cancel_left] at h
  have hlabels : Timed pause dur (Stage .comicSans 11 11) (writeTexts (mainLabels isLaps))
      fun _ => Stage .comicSans 11 0 := by
    cases isLaps
    · exact firstLabels_stage htime (by decide)
    · exact firstLabels_stage htime (by decide)
  have hvalues : Timed pause dur (Stage .internal 4 0) (writeValues (mainValues isLaps))
      fun _ => Stage .internal 0 0 := by
    cases isLaps
    · exact values_stage (List.cons_ne_nil _ _)
    · exact values_stage (List.cons_ne_nil _ _)
  exact (resetState_stage htime).seq (enableDrawMode_stage.seq (hbar.seq
    ((mainBorders_stage htime isLaps).seq (hdelay.seq (enableComicSans_stage.seq (hlabels.seq
      (enableInternal_stage.seq hvalues)))))))

theorem renderStaticDebugScreen_stage : Timed pause dur (Stage f 0 0)
    displayRenderStaticDebugScreen fun _ => Stage .internal 0 0 :=
  (resetState_stage htime).seq (enableDrawMode_stage.seq
    ((borders_stage htime (by decide) (by decide)).seq (enableComicSans_stage.seq
      ((labels_stage htime _).seq (watchdogDelay_stage.seq ((labels_stage htime _).seq
        (enableInternal_stage.seq (values_stage (List.cons_ne_nil _ _)))))))))

theorem usePrerenderedDebugRtd_stage : Timed pause dur (Stage f 0 0)
    displayUsePrerenderedDebugRtd fun _ => Stage .internal 0 0 := by
  have hborders : Timed pause dur (Stage f 0 0) (displayDrawBorders debugBordersRtd)
      fun _ => Stage f 11 0 :=
    (borders_stage htime (by decide) (by decide)).conseq
      (fun _ h => h.mono (Nat.zero_le 11) (Nat.le_refl 0)) fun _ _ h => h
  exact (resetState_stage htime).seq ((bteMove_stage htime _ _ _ _ _ _ _ _ _ _).seq
    (enableDrawMode_stage.seq (hborders.seq (enableInternal_stage.seq
      (values_stage (List.cons_ne_nil _ _))))))

theorem box_stage (x1 y1 x2 y2 : UInt16) (hbox : (⟨x1, y1, x2, y2⟩ : Corners) ∈ textBoxes)
    (color : UInt8) : Timed pause dur (Stage f 11 m) (displayDrawRect x1 y1 x2 y2 color true >>=
      fun _ => vTaskDelay .display defaultDelay) fun _ => Stage f 0 0 := by
  have hdraw : Timed pause dur (Stage f 11 m) (displayDrawRect x1 y1 x2 y2 color true)
      fun _ => Stage f (pause .display defaultDelay) 0 :=
    painted (drawRect_timed (box_le htime hbox) color true) (drawRect_painting _ _ _ _ _ _)
  refine hdraw.seq (delay_stage.conseq (fun _ h => h) fun _ _ h => ?_)
  rwa [Nat.sub_self] at h

theorem warn_stage : Timed pause dur (Stage f 0 0) displayWarn fun _ => Stage .internal 0 0 := by
  have hbox : Timed pause dur (Stage f 11 11) _ fun _ => Stage f 0 0 :=
    box_stage htime 0 0 800 480 (by decide) colorRed
  have htext : Timed pause dur (Stage f 0 0) (displayEnableTextModeAndFont .internal)
      fun _ => Stage .internal 4 0 :=
    enableInternal_stage.conseq (fun _ h => h.mono (Nat.zero_le 11) (Nat.le_refl 0)) fun _ _ h => h
  have hsize : Timed pause dur (Stage .internal 4 0) (displayInternalFontSize fontSizeQuadruple)
      fun _ => Stage .internal 1 0 :=
    based (internalFontSize_timed _) (fontSize_keepsFont _)
  have hwhite : Timed pause dur (Stage .internal 1 0) displayForegroundWhite
      fun _ => Stage .internal 4 0 := by
    have hlater : Timed pause dur (Stage .internal 7 0) displayForegroundWhite
        fun _ => Stage .internal 4 0 := painted foregroundWhite_timed foregroundWhite_painting
    exact hlater.conseq (fun _ h => h.mono (by decide) (Nat.le_refl 0)) fun _ _ h => h
  exact (resetState_stage htime).seq (enableDrawMode_stage.seq (hbox.seq (htext.seq
    (hsize.seq (hwhite.seq (internalText_stage _ _ _))))))

theorem loadingPicture_stage :
    Timed pause dur (Stage f 0 0) loadingPicture fun _ => Stage .comicSans 11 0 := by
  have hbar : Timed pause dur (Stage f 0 0) (displayDrawRect 200 170 600 240 colorRed true)
      fun _ => Stage f 11 0 :=
    (bar_stage htime (by decide) _).conseq (fun _ h => h.mono (Nat.zero_le 11) (Nat.le_refl 0))
      fun _ _ h => h
  have hbox : Timed pause dur (Stage f 11 0) _ fun _ => Stage f 0 0 :=
    box_stage htime 0 415 800 480 (by decide) colorYellow
  have htext : Timed pause dur (Stage f 0 0) (displayEnableTextModeAndFont .internal)
      fun _ => Stage .internal 4 0 :=
    enableInternal_stage.conseq (fun _ h => h.mono (Nat.zero_le 11) (Nat.le_refl 0)) fun _ _ h => h
  have hsize : Timed pause dur (Stage .internal 4 0) (displayInternalFontSize fontSizeDouble)
      fun _ => Stage .internal 1 0 :=
    based (internalFontSize_timed _) (fontSize_keepsFont _)
  have hblue : ∀ reg ∈ colorRegisters, ∀ value, Timed pause dur (Stage .internal 4 0)
      (ra8875WriteRegister reg value) fun _ => Stage .internal 4 0 := by
    intro reg hreg value
    have hplain : reg ∉ ([0x40, 0x8E, 0x90, 0x50] : List UInt8) := by
      revert reg
      decide
    exact based (timed_unstarting (write_unstarting hplain value)) ((only_perform _).mpr trivial)
  have hlabels : Timed pause dur (Stage .internal 0 0) (displayEnableTextModeAndFont .comicSans)
      fun _ => Stage .comicSans 11 0 :=
    enableComicSans_stage.conseq (fun _ h => h) fun _ _ h => h.mono (Nat.zero_le 11) (Nat.le_refl 0)
  exact hbar.seq (hbox.seq (htext.seq ((hsize.conseq (fun _ h => h) fun _ _ h =>
    h.mono (by decide) (Nat.le_refl 0)).seq ((hblue 0x63 (by decide) _).seq
      ((hblue 0x64 (by decide) _).seq ((hblue 0x65 (by decide) _).seq
        ((internalText_stage _ _ _).seq (hlabels.seq ((labels_stage htime _).seq
          (watchdogDelay_stage.seq (labels_stage htime _)))))))))))

theorem render_rests {S : Screen} {draw : Firmware Unit} (h : render S = some draw) :
    Timed pause dur AtRest draw fun _ => AtRest := by
  have hrest : ∀ {p : Firmware Unit}, (∀ f, Timed pause dur (Stage f 0 0) p
      fun _ => Stage .internal 0 0) → Timed pause dur AtRest p fun _ => AtRest := by
    rintro p hp s ⟨f, hs⟩
    exact (hp f s hs).conseq fun _ u hu => ⟨.internal, hu⟩
  cases S with
  | mainNoLaps | mainLaps =>
    obtain rfl := Option.some.inj h
    exact hrest fun _ => renderMainScreen_stage htime _
  | debugNoRtd =>
    obtain rfl := Option.some.inj h
    exact hrest fun _ => renderStaticDebugScreen_stage htime
  | debugRtd =>
    obtain rfl := Option.some.inj h
    exact hrest fun _ => usePrerenderedDebugRtd_stage htime
  | warn =>
    obtain rfl := Option.some.inj h
    exact hrest fun _ => warn_stage htime
  | other value outside => simp [render] at h

end InTime

end SteeringDisplay.CommandTiming
