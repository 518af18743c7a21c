import SteeringDisplay.ModeRegister

set_option autoImplicit false

/-!
# A start-up that fails

`RA8875_init` reports a failure of the SPI bus or of its device, and `Display_Init`
does not look at the report.
-/
namespace SteeringDisplay.FailedStartup
open ProgramTree FirmwareInterface PanelDriver DisplayScreens ButtonLoop ModeRegister

/-- The bus and the device handle, and what was done without the handle. -/
structure Startup where
  controller : Controller
  bus : Bool
  device : Bool
  blind : List Op
  unrendered : List Screen

def Startup.powerUp : Startup := ⟨.powerUp, false, false, [], []⟩

def Startup.step (s : Startup) : (o : Op) → o.Res → Startup
  | .spiBusInitialize, (ok : Bool) => { s with bus := s.bus || ok }
  | .spiBusAddDevice, (ok : Bool) => { s with device := s.device || ok }
  | .setCurrentScreen screen, _ =>
    if s.device then s else { s with unrendered := s.unrendered ++ [screen] }
  | o, _ => if o.transacts ∧ s.device = false then { s with blind := s.blind ++ [o] } else s

def startup (oracle : ℕ → (o : Op) → o.Res) : Handler firmware Startup := fun o s =>
  let r := controller oracle o s.controller
  (r.1, { s.step o r.1 with controller := r.2 })

/-- No transaction without a device, no screen that was not drawn, and no bus that is left
    initialised without a device, which would make the next attempt fail. -/
structure SoundStartup (s : Startup) : Prop where
  transactions : s.blind = []
  screens : s.unrendered = []
  retry : s.bus = true → s.device = true

def busStarts (oracle : ℕ → (o : Op) → o.Res) : Bool := oracle 0 .spiBusInitialize

def deviceStarts (oracle : ℕ → (o : Op) → o.Res) : Bool := oracle 1 .spiBusAddDevice

variable {oracle : ℕ → (o : Op) → o.Res} {α : Type}

def Started (s : Startup) : Prop := s.device = true ∧ s.blind = [] ∧ s.unrendered = []

theorem started_step (o : firmware.Op) (s : Startup) (hs : Started s) : Started (startup oracle o s).2 := by
  obtain ⟨hdevice, hblind, hscreens⟩ := hs
  cases o with
  | spiBusInitialize => exact ⟨hdevice, hblind, hscreens⟩
  | spiBusAddDevice =>
    refine ⟨?_, hblind, hscreens⟩
    have hor : ∀ ok : Bool, (s.device || ok) = true := by
      intro ok
      rw [hdevice, Bool.true_or]
    exact hor _
  | setCurrentScreen screen =>
    change Started { (if s.device then s else _) with controller := _ }
    rw [if_pos hdevice]
    exact ⟨hdevice, hblind, hscreens⟩
  | _ =>
    change Started { (if _ ∧ s.device = false then _ else s) with controller := _ }
    rw [if_neg (by simp [hdevice])]
    exact ⟨hdevice, hblind, hscreens⟩

theorem started_run (p : Firmware α) {s : Startup} (hs : Started s) :
    Started (run (startup oracle) p s).2 :=
  Hoare.of_step started_step s hs

def Blind (s : Startup) : Prop := s.blind ≠ []

theorem blind_step (o : firmware.Op) (s : Startup) (hs : Blind s) : Blind (startup oracle o s).2 := by
  cases o with
  | setCurrentScreen screen =>
    change Blind { (if s.device then s else _) with controller := _ }
    split_ifs <;> exact hs
  | spiBusInitialize | spiBusAddDevice => exact hs
  | _ =>
    change Blind { (if _ ∧ s.device = false then _ else s) with controller := _ }
    split_ifs
    · exact fun h => hs (List.append_eq_nil_iff.mp h).1
    · exact hs

/-- The first register write of `RA8875_configure` already goes through the missing device. -/
theorem blind_displaySetup {s : Startup} (hs : s.device = false) :
    Blind (run (startup oracle) displaySetup s).2 := by
  have hfirst : Blind (startup oracle (.writeRegister 0x01 (0x00 ||| 0x80)) s).2 := by
    change Blind { (if _ ∧ s.device = false then _ else s) with controller := _ }
    rw [if_pos ⟨rfl, hs⟩]
    exact fun h => List.cons_ne_nil _ _ (List.append_eq_nil_iff.mp h).2
  obtain ⟨rest, hrest⟩ : ∃ rest : Firmware Unit, displaySetup =
      (ra8875WriteRegister 0x01 (0x00 ||| 0x80) >>= fun _ => rest) := ⟨_, rfl⟩
  rw [hrest, run_bind]
  exact Hoare.of_step blind_step _ hfirst

def busAsked (oracle : ℕ → (o : Op) → o.Res) : Startup :=
  (startup oracle .spiBusInitialize .powerUp).2

def deviceAsked (oracle : ℕ → (o : Op) → o.Res) : Startup :=
  (startup oracle .spiBusAddDevice (busAsked oracle)).2

theorem deviceAsked_device (oracle : ℕ → (o : Op) → o.Res) :
    (deviceAsked oracle).device = deviceStarts oracle := Bool.false_or _

theorem run_ra8875Init (oracle : ℕ → (o : Op) → o.Res) (tries : ℕ) :
    run (startup oracle) (ra8875Init tries) .powerUp =
      if busStarts oracle then
        if deviceStarts oracle then
          run (startup oracle) (awaitPanel tries >>= fun ready =>
            if ready then
              ra8875WriteRegister 0xF0 0b11 >>= fun _ => ra8875WriteRegister 0xF1 0xFF >>= fun _ =>
                pure (some true)
            else pure none) (deviceAsked oracle)
        else (some false, deviceAsked oracle)
      else (some false, busAsked oracle) := by
  change run (startup oracle) (if busStarts oracle then _ else _) (busAsked oracle) = _
  split_ifs with hbus hdevice
  · change run (startup oracle) (if deviceStarts oracle then _ else _) (deviceAsked oracle) = _
    rw [if_pos hdevice]
  · change run (startup oracle) (if deviceStarts oracle then _ else _) (deviceAsked oracle) = _
    rw [if_neg hdevice]
    rfl
  · rfl

theorem started_appMain (hbus : busStarts oracle = true) (hdevice : deviceStarts oracle = true)
    (tries passes : ℕ) : Started (run (startup oracle) (appMain tries passes) .powerUp).2 := by
  have hstarted : Started (deviceAsked oracle) :=
    ⟨(deviceAsked_device oracle).trans hdevice, rfl, rfl⟩
  rw [appMain_eq, run_bind, run_ra8875Init, if_pos hbus, if_pos hdevice]
  exact started_run _ (started_run _ hstarted)

theorem blind_appMain (hfail : ¬ (busStarts oracle = true ∧ deviceStarts oracle = true))
    (tries passes : ℕ) : Blind (run (startup oracle) (appMain tries passes) .powerUp).2 := by
  have hsetup : ∀ s : Startup, s.device = false →
      Blind (run (startup oracle) (afterInit passes (some false)) s).2 := by
    intro s hs
    change Blind (run (startup oracle) (displaySetup >>= fun _ => _) s).2
    rw [run_bind]
    exact Hoare.of_step blind_step _ (blind_displaySetup hs)
  rw [appMain_eq, run_bind, run_ra8875Init]
  split_ifs with hbus hdevice
  · exact absurd ⟨hbus, hdevice⟩ hfail
  · have hmissing : (deviceAsked oracle).device = false := by
      rw [deviceAsked_device]
      exact Bool.eq_false_iff.mpr hdevice
    exact hsetup _ hmissing
  · exact hsetup _ rfl

theorem startup_sound_iff (oracle : ℕ → (o : Op) → o.Res) (tries passes : ℕ) :
    (SoundStartup (run (startup oracle) (appMain tries passes) .powerUp).2 ↔
        busStarts oracle = true ∧ deviceStarts oracle = true) ∧
      ((run (startup oracle) (appMain tries passes) .powerUp).2.blind = [] ↔
        busStarts oracle = true ∧ deviceStarts oracle = true) := by
  refine ⟨⟨fun h => ?_, fun h => ?_⟩, ⟨fun h => ?_, fun h => ?_⟩⟩
  · by_contra hfail
    exact blind_appMain hfail tries passes h.transactions
  · obtain ⟨hdevice, hnone, hscreens⟩ := started_appMain h.1 h.2 tries passes
    exact ⟨hnone, hscreens, fun _ => hdevice⟩
  · by_contra hfail
    exact blind_appMain hfail tries passes h
  · exact (started_appMain h.1 h.2 tries passes).2.1

def deviceFails : ℕ → (o : Op) → o.Res
  | _, .spiBusAddDevice => false
  | _, o => o.quietAnswer .initial

theorem failed_device_drawn_on :
    ¬ SoundStartup (run (startup deviceFails) (appMain 1 0) .powerUp).2 ∧
      (run (startup deviceFails) (ra8875Init 1) .powerUp).1 = some false ∧
      (run (startup deviceFails) (ra8875Init 1) .powerUp).2.bus = true ∧
      (run (startup deviceFails) (ra8875Init 1) .powerUp).2.device = false :=
  ⟨fun h => blind_appMain (by decide) 1 0 h.transactions, rfl, rfl, rfl⟩

end SteeringDisplay.FailedStartup
