import SteeringDisplay.ModeRegister

set_option autoImplicit false

/-!
# The layer to write to

The driver selects the layer with bit 0 of the register 0x41. display.c writes the
same register as a font source.
-/
namespace SteeringDisplay.WriteLayer
open ProgramTree FirmwareInterface PanelDriver ComicSansFont NumberFormat DisplayScreens
open Footprints ModeRegister

/-- The register file, and the register that the next data byte goes to. -/
structure Registers where
  regs : UInt8 → UInt8
  latch : UInt8

namespace Registers

/-- Data for the memory port 0x02 goes to the display memory. -/
def data (m : Registers) (value : UInt8) : Registers :=
  if m.latch = 0x02 then m else { m with regs := Function.update m.regs m.latch value }

def step (m : Registers) : Op → Registers
  | .writeCommand reg | .readRegister reg => { m with latch := reg }
  | .writeData value => m.data value
  | .writeRegister reg value => { m with latch := reg }.data value
  | _ => m

def powerUp : Registers := ⟨fun _ => 0, 0⟩

def layer (m : Registers) : UInt8 := m.regs 0x41 &&& 1

end Registers

inductive LayerCall where
  | setWritingLayer (layer : UInt8)
  | enableDrawMode
  | enableTextModeAndFont (font : DisplayFont)
  | drawRect (x1 y1 x2 y2 : UInt16) (color : UInt8) (filled : Bool)
  | writeTextAt (x y : UInt16) (msg : List UInt8)
  | writeNumberAt (x y : UInt16) (isWholeNumber : Bool) (value : CFloat) (hasManyDigits : Bool)
  | bteMove (srcX srcY : UInt16) (srcLayer : UInt8) (dstX dstY : UInt16) (dstLayer : UInt8)
      (width height : UInt16) (negative rop : UInt8)

def LayerCall.exec : LayerCall → Firmware Unit
  | .setWritingLayer layer => ra8875SetWritingLayer layer
  | .enableDrawMode => displayEnableDrawMode
  | .enableTextModeAndFont font => displayEnableTextModeAndFont font
  | .drawRect x1 y1 x2 y2 color filled => displayDrawRect x1 y1 x2 y2 color filled
  | .writeTextAt x y msg => displayWriteTextAt x y msg
  | .writeNumberAt x y isWholeNumber value hasManyDigits =>
    displayWriteNumberAt x y isWholeNumber value hasManyDigits
  | .bteMove srcX srcY srcLayer dstX dstY dstLayer width height negative rop =>
    ra8875BteMove srcX srcY srcLayer dstX dstY dstLayer width height negative rop

/-- The layer that the latest call of `RA8875_set_writing_layer` asked for. -/
def selectStep (selected : UInt8) : LayerCall → UInt8
  | .setWritingLayer layer => layer &&& 1
  | _ => selected

def selected (calls : List LayerCall) : UInt8 := calls.foldl selectStep 0

def layerStep (layer : UInt8) : LayerCall → UInt8
  | .setWritingLayer layer => layer &&& 1
  | .enableTextModeAndFont .internal => 0
  | _ => layer

section Machine
variable (oracle : ℕ → (o : Op) → o.Res)

def registersAfter (s : Controller) (m : Registers) (calls : List LayerCall) : Registers :=
  (trace (controller oracle) (calls.forM LayerCall.exec) s).foldl Registers.step m

end Machine

/-- Whatever is answered, the program takes the layer `l` to `f l`. -/
def LayerEffect {α : Type} (oracle : ℕ → (o : Op) → o.Res) (f : UInt8 → UInt8) (p : Firmware α) :
    Prop :=
  ∀ s, (run (monitored (controller oracle) Registers.step) p s).2.2.layer = f s.2.layer

def OtherRegister : firmware.Op → Prop
  | .writeRegister reg _ => reg ≠ 0x41
  | .writeData _ => False
  | _ => True

section Effects
variable {oracle : ℕ → (o : Op) → o.Res} {α β : Type} {f g : UInt8 → UInt8}

theorem LayerEffect.seq {p : Firmware α} {q : Firmware β} (hp : LayerEffect oracle f p)
    (hq : LayerEffect oracle g q) : LayerEffect oracle (fun l => g (f l)) (p >>= fun _ => q) := by
  intro s
  rw [run_bind, hq, hp]

theorem LayerEffect.bind_id {p : Firmware α} {q : α → Firmware β} (hp : LayerEffect oracle id p)
    (hq : ∀ a, LayerEffect oracle id (q a)) : LayerEffect oracle id (p >>= q) := by
  intro s
  rw [run_bind, hq, hp]
  rfl

theorem layer_write {reg : UInt8} (hreg : reg ≠ 0x41) (value : UInt8) (m : Registers) :
    (m.step (.writeRegister reg value)).layer = m.layer := by
  change (Registers.data { m with latch := reg } value).layer = _
  unfold Registers.data Registers.layer
  dsimp only
  split_ifs
  · rfl
  · dsimp only
    rw [Function.update_of_ne hreg.symm]

theorem layer_write_self (value : UInt8) (m : Registers) :
    (m.step (.writeRegister 0x41 value)).layer = value &&& 1 := by
  change (Function.update m.regs 0x41 value 0x41) &&& 1 = _
  rw [Function.update_self]

theorem effect_other {p : Firmware α} (hp : Only OtherRegister p) : LayerEffect oracle id p := by
  refine run_view_eq (fun s : Controller × Registers => s.2.layer) hp (fun o s ho => ?_)
  cases o with
  | writeRegister reg value => exact layer_write ho value s.2
  | writeData value => exact ho.elim
  | _ => rfl

theorem other_of_plotting {o : firmware.Op} (h : Plotting o) : OtherRegister o := by
  cases o with
  | writeRegister reg value =>
    have hreg : reg ∈ paintRegisters := h
    rintro rfl
    exact absurd hreg (by decide)
  | writeData value => exact h
  | _ => trivial

theorem effect_plotting {p : Firmware α} (hp : Only Plotting p) : LayerEffect oracle id p :=
  effect_other (hp.mono fun _ => other_of_plotting)

theorem effect_arranging {p : Firmware α} (hp : Only Arranging p) : LayerEffect oracle id p := by
  refine effect_other (hp.mono fun o ho => ?_)
  cases o with
  | writeRegister reg value =>
    have hreg : reg ∈ arrangeRegisters := ho
    rintro rfl
    exact absurd hreg (by decide)
  | writeData value => exact ho
  | _ => trivial

theorem effect_writeFontSource : LayerEffect oracle (fun _ => 0) (ra8875WriteRegister 0x41 0x00) :=
  fun s => layer_write_self 0x00 s.2

theorem effect_enableText (font : DisplayFont) :
    LayerEffect oracle (fun l => layerStep l (.enableTextModeAndFont font))
      (displayEnableTextModeAndFont font) := by
  have hfont : LayerEffect oracle id (setCurrentFont font) :=
    effect_other ((only_perform _).mpr trivial)
  cases font with
  | internal =>
    have hsize : LayerEffect oracle id (ra8875WriteRegister 0x22 fontSizeTriple) :=
      effect_other ((only_perform _).mpr (by simp [OtherRegister]))
    have hselect : LayerEffect oracle id (ra8875WriteRegister 0x21 0x00) :=
      effect_other ((only_perform _).mpr (by simp [OtherRegister]))
    exact hfont.seq ((effect_arranging leaveGraphicMode_arranging).seq
      ((effect_plotting foregroundWhite_plotting).seq
        (hsize.seq (effect_writeFontSource.seq hselect))))
  | comicSans => exact hfont.seq (effect_arranging enableDrawMode_arranging)

theorem layer_sendCharacters (msg : List UInt8) (s : Controller × Registers)
    (hport : s.2.latch = 0x02) :
    (run (monitored (controller oracle) Registers.step) (sendCharacters msg) s).2.2 = s.2 := by
  induction msg generalizing s with
  | nil => rfl
  | cons ch msg ih =>
    unfold sendCharacters
    split_ifs
    · rfl
    · have hdata : (monitored (controller oracle) Registers.step (.writeData ch) s).2.2 = s.2 :=
        if_pos hport
      rw [run_bind]
      change (run _ (sendCharacters msg)
        (monitored (controller oracle) Registers.step (.writeData ch) s).2).2.2 = s.2
      rw [ih _ (by rw [hdata, hport]), hdata]

theorem effect_writeTextAt (x y : UInt16) (msg : List UInt8) :
    LayerEffect oracle id (displayWriteTextAt x y msg) := by
  have hload : LayerEffect oracle id (ask .currentFont) :=
    effect_other ((only_perform _).mpr trivial)
  have hsend : LayerEffect oracle id (ra8875WriteCommand 0x02 >>= fun _ => sendCharacters msg) := by
    intro s
    have hport : (run (monitored (controller oracle) Registers.step) (sendCharacters msg)
        (run (monitored (controller oracle) Registers.step) (ra8875WriteCommand 0x02) s).2).2.2 =
        _ := layer_sendCharacters msg _ rfl
    rw [run_bind, hport]
    rfl
  refine hload.bind_id fun font => ?_
  cases font with
  | internal => exact (effect_plotting (setTextCursor_plotting x y)).seq hsend
  | comicSans => exact effect_plotting (blitCharacters_plotting glyphs x y msg)

theorem effect_snprintf (size : ℕ) (format : Format) (value : CFloat) :
    LayerEffect oracle id (snprintf size format value) := by
  cases format with
  | d => exact effect_other ⟨trivial, fun _ => trivial⟩
  | f precision => exact effect_other trivial

theorem effect_writeNumberAt (x y : UInt16) (isWholeNumber : Bool) (value : CFloat)
    (hasManyDigits : Bool) :
    LayerEffect oracle id (displayWriteNumberAt x y isWholeNumber value hasManyDigits) := by
  unfold displayWriteNumberAt
  split_ifs
  · exact (effect_snprintf _ _ _).bind_id fun _ => effect_writeTextAt _ _ _
  · exact (effect_snprintf _ _ _).bind_id fun _ => effect_writeTextAt _ _ _
  · exact (effect_snprintf _ _ _).bind_id fun _ => effect_writeTextAt _ _ _

theorem effect_exec (call : LayerCall) :
    LayerEffect oracle (fun l => layerStep l call) call.exec := by
  cases call with
  | setWritingLayer layer =>
    intro s
    have hwrite := layer_write_self (layer &&& 1) s.2
    rw [UInt8.and_assoc] at hwrite
    exact hwrite
  | enableDrawMode => exact effect_arranging enableDrawMode_arranging
  | enableTextModeAndFont font => exact effect_enableText font
  | drawRect x1 y1 x2 y2 color filled =>
    exact effect_plotting (drawRect_plotting x1 y1 x2 y2 color filled)
  | writeTextAt x y msg => exact effect_writeTextAt x y msg
  | writeNumberAt x y isWholeNumber value hasManyDigits =>
    exact effect_writeNumberAt x y isWholeNumber value hasManyDigits
  | bteMove sx sy sl dx dy dl w h negative rop =>
    exact effect_arranging (bteMove_arranging sx sy sl dx dy dl w h negative rop)

theorem layer_registersAfter (s : Controller) (m : Registers) (calls : List LayerCall) :
    (registersAfter oracle s m calls).layer = calls.foldl layerStep m.layer := by
  have heffect : LayerEffect oracle (fun l => calls.foldl layerStep l)
      (calls.forM LayerCall.exec) := by
    induction calls with
    | nil => exact fun _ => rfl
    | cons call calls ih => exact (effect_exec call).seq ih
  have hrun := heffect (s, m)
  rw [run_monitored] at hrun
  exact hrun

end Effects

/-- The call selects the internal font while the layer `l` is selected. -/
def FontOn (l : UInt8) (call : LayerCall) : Prop := call = .enableTextModeAndFont .internal ∧ l ≠ 0

theorem layerStep_eq_iff (l : UInt8) (call : LayerCall) :
    layerStep l call = selectStep l call ↔ ¬ FontOn l call := by
  unfold FontOn
  cases call with
  | enableTextModeAndFont font =>
    cases font with
    | internal =>
      change 0 = l ↔ _
      constructor
      · rintro rfl h
        exact h.2 rfl
      · intro h
        by_contra hne
        exact h ⟨rfl, Ne.symm hne⟩
    | comicSans => exact iff_of_true rfl (by simp)
  | _ => exact iff_of_true rfl (by simp)

/-- The register and the selection part where the internal font is chosen off-screen. -/
theorem layers_agree_iff (calls : List LayerCall) (l : UInt8) :
    (∀ before, before <+: calls → before.foldl layerStep l = before.foldl selectStep l) ↔
      ∀ before call rest, calls = before ++ call :: rest →
        ¬ FontOn (before.foldl selectStep l) call := by
  induction calls generalizing l with
  | nil =>
    constructor
    · intro _ before call rest h
      exact absurd h (by simp)
    · intro _ before h
      rw [List.prefix_nil.mp h]
      rfl
  | cons call calls ih =>
    constructor
    · intro h before call' rest hsplit
      have hfirst : layerStep l call = selectStep l call :=
        h [call] (List.cons_prefix_cons.mpr ⟨rfl, List.nil_prefix⟩)
      have hrest := (ih (selectStep l call)).mp fun after hafter => by
        have hall := h (call :: after) (List.cons_prefix_cons.mpr ⟨rfl, hafter⟩)
        rw [List.foldl_cons, List.foldl_cons, hfirst] at hall
        exact hall
      cases before with
      | nil =>
        obtain ⟨rfl, _⟩ := List.cons_eq_cons.mp hsplit
        exact (layerStep_eq_iff l call).mp hfirst
      | cons first before =>
        obtain ⟨rfl, htail⟩ := List.cons_eq_cons.mp hsplit
        exact hrest before call' rest htail
    · intro h before hbefore
      cases before with
      | nil => rfl
      | cons first before =>
        obtain ⟨rfl, hafter⟩ := List.cons_prefix_cons.mp hbefore
        have hfirst := (layerStep_eq_iff l first).mpr (h [] first calls rfl)
        rw [List.foldl_cons, List.foldl_cons, hfirst]
        refine (ih (selectStep l first)).mpr (fun after call rest hsplit => ?_) before hafter
        exact h (first :: after) call rest (congrArg (first :: ·) hsplit)

theorem write_layer_kept (oracle : ℕ → (o : Op) → o.Res) (s : Controller) (m : Registers)
    (hm : m.layer = 0) (calls : List LayerCall) :
    (∀ before, before <+: calls → (registersAfter oracle s m before).layer = selected before) ↔
      ∀ before call rest, calls = before ++ call :: rest → ¬ FontOn (selected before) call := by
  have hagree := layers_agree_iff calls 0
  unfold selected
  rw [← hagree]
  refine forall₂_congr fun before _ => ?_
  rw [layer_registersAfter, hm]

def offscreenLabel : List LayerCall :=
  [.setWritingLayer 1, .enableTextModeAndFont .comicSans, .writeTextAt 10 10 (cstring "Lap"),
   .setWritingLayer 0, .enableTextModeAndFont .internal]

theorem write_layer_kept_offscreen : Registers.powerUp.layer = 0 ∧
    ∀ before, before <+: offscreenLabel →
      (registersAfter (fun _ o => o.quietAnswer .initial) .powerUp .powerUp before).layer =
        selected before := by
  refine ⟨by decide, ?_⟩
  refine (write_layer_kept _ .powerUp .powerUp (by decide) offscreenLabel).mpr ?_
  rintro before call rest hsplit ⟨rfl, hlayer⟩
  unfold offscreenLabel at hsplit
  rcases before with _ | ⟨_, _ | ⟨_, _ | ⟨_, _ | ⟨_, before⟩⟩⟩⟩
  · simp at hsplit
  · simp at hsplit
  · simp at hsplit
  · simp at hsplit
  · simp only [List.cons_append, List.cons.injEq] at hsplit
    obtain ⟨rfl, rfl, rfl, rfl, hlast⟩ := hsplit
    cases before with
    | nil => exact hlayer rfl
    | cons first before => simp at hlast

theorem font_leaves_offscreen :
    (registersAfter (fun _ o => o.quietAnswer .initial) .powerUp .powerUp
      [.setWritingLayer 1, .enableTextModeAndFont .internal]).layer ≠
        selected [.setWritingLayer 1, .enableTextModeAndFont .internal] := by
  decide

end SteeringDisplay.WriteLayer
