import SteeringDisplay.LoopRuns

set_option autoImplicit false

/-!
# The drive automaton

The screen as a function of how often the two toggles have run.
-/
namespace SteeringDisplay.DriveAutomaton
open ProgramTree ProgramInterference FirmwareInterface DisplayScreens ButtonLoop
open LoopWorld LoopPasses LoopRuns

/-- The mode toggles so far, and the submode toggles since the last of them. -/
def countToggle : ℕ × ℕ → Event → ℕ × ℕ
  | (mode, _), .called .toggleWhetherDrive => (mode + 1, 0)
  | (mode, submode), .called .toggleDuringDrive => (mode, submode + 1)
  | counts, _ => counts

def toggleCounts (log : List Event) : ℕ × ℕ := log.foldl countToggle (0, 0)

def driveScreen (mode submode : ℕ) : Screen :=
  if mode % 2 = 0 then .debugNoRtd
  else if submode % 3 = 0 then .mainNoLaps
  else if submode % 3 = 1 then .mainLaps
  else .debugRtd

def Rendered : List Event → Prop
  | [] => True
  | .called (.switchScreen next) :: es => es.head? = some (.entered next) ∧ Rendered es
  | _ :: es => Rendered es

def WarnedFor500 (log : List Event) : Prop :=
  ∃ pre post, log = pre ++ .entered .warn :: post ∧ .slept 500 ∈ post ∧
    ∀ s, .entered s ∉ post

/-- What the automaton demands of the task before each of its events. -/
def demanded : Event → Screen → List Event → Prop
  | .called (.switchScreen next), S, _ => S ≠ next ∧ (render next).isSome
  | .entered .debugRtd, S, l => S = .warn ∧ WarnedFor500 l
  | .entered .warn, S, _ => S = .mainLaps
  | _, _, _ => True

def OnTrack (S : Screen) (l : List Event) : Prop :=
  S = driveScreen (toggleCounts l).1 (toggleCounts l).2 ∧ Rendered l

theorem rendered_append {l m : List Event} (hl : Rendered l) (hm : Rendered m) :
    Rendered (l ++ m) := by
  induction l with
  | nil => exact hm
  | cons e l ih =>
    have hrest : Rendered l → Rendered (l ++ m) := ih
    cases e with
    | called r =>
      cases r with
      | switchScreen next =>
        obtain ⟨hhead, htail⟩ := hl
        refine ⟨?_, hrest htail⟩
        cases l with
        | nil => exact absurd hhead (by simp)
        | cons e' l => exact hhead
      | toggleWhetherDrive | toggleDuringDrive => exact hrest hl
    | accepted b | tested b | cleared b | entered s | slept ms => exact hrest hl

theorem toggleCounts_append (l m : List Event) :
    toggleCounts (l ++ m) = m.foldl countToggle (toggleCounts l) := List.foldl_append ..

theorem toggleCounts_ownEvents (l : List Event) : toggleCounts (ownEvents l) = toggleCounts l := by
  unfold toggleCounts ownEvents
  induction l using List.reverseRecOn with
  | nil => rfl
  | append_singleton l e ih =>
    rw [List.filter_append, List.foldl_append, List.foldl_append, ih]
    cases e <;> rfl

theorem driveScreen_mode (mode submode : ℕ) :
    driveScreen (mode + 1) 0 = modeNext (driveScreen mode submode) := by
  unfold modeNext driveScreen
  by_cases heven : mode % 2 = 0
  · have hodd : (mode + 1) % 2 ≠ 0 := by omega
    rw [if_neg hodd, if_pos heven]
    rfl
  · have hnext : (mode + 1) % 2 = 0 := by omega
    rw [if_pos hnext, if_neg heven]
    split_ifs <;> first | rfl | contradiction

theorem driveScreen_submode {mode submode : ℕ} (hdrive : driveScreen mode submode ≠ .debugNoRtd) :
    driveScreen mode (submode + 1) =
      after (driveScreen mode submode) (duringDrive (driveScreen mode submode)) := by
  unfold driveScreen at hdrive ⊢
  by_cases heven : mode % 2 = 0
  · rw [if_pos heven] at hdrive
    exact absurd rfl hdrive
  · have hlt : submode % 3 < 3 := Nat.mod_lt _ (by omega)
    rw [if_neg heven, if_neg heven]
    by_cases h0 : submode % 3 = 0
    · have h1 : (submode + 1) % 3 = 1 := by omega
      rw [if_pos h0, if_neg (by omega), if_pos h1]
      rfl
    · by_cases h1 : submode % 3 = 1
      · have h2 : (submode + 1) % 3 = 2 := by omega
        rw [if_neg h0, if_pos h1, if_neg (by omega), if_neg (by omega)]
        rfl
      · have h3 : (submode + 1) % 3 = 0 := by omega
        rw [if_neg h0, if_neg h1, if_pos h3]
        rfl

theorem driveScreen_ne_warn (mode submode : ℕ) : driveScreen mode submode ≠ .warn := by
  unfold driveScreen
  split_ifs <;> decide

theorem driveScreen_eq_debugNoRtd (mode submode : ℕ) :
    driveScreen mode submode = .debugNoRtd ↔ mode % 2 = 0 := by
  unfold driveScreen
  split_ifs with heven h0 h1 <;> simp [heven]

theorem counts_duringDrive (S : Screen) (counts : ℕ × ℕ) :
    (duringDrive S).foldl countToggle counts = (counts.1, counts.2 + 1) := by
  obtain ⟨mode, submode⟩ := counts
  cases S <;> rfl

theorem rendered_duringDrive (S : Screen) : Rendered (duringDrive S) := by
  cases S with
  | mainLaps => exact ⟨rfl, rfl, trivial⟩
  | mainNoLaps | debugRtd => exact ⟨rfl, trivial⟩
  | debugNoRtd | warn | other value outside => exact trivial

theorem walk_whetherDrive (S : Screen) (l : List Event) : Walk demanded S l (whetherDrive S) := by
  obtain ⟨hne, draw, hdraw⟩ := modeNext_render S
  refine ⟨trivial, ⟨hne, by rw [hdraw]; rfl⟩, ?_, trivial⟩
  unfold modeNext
  split_ifs <;> exact trivial

theorem walk_duringDrive (S : Screen) (l : List Event) : Walk demanded S l (duringDrive S) := by
  cases S with
  | mainNoLaps => exact ⟨trivial, ⟨by decide, rfl⟩, trivial, trivial⟩
  | debugRtd => exact ⟨trivial, ⟨by decide, rfl⟩, trivial, trivial⟩
  | mainLaps =>
    refine ⟨trivial, ⟨by decide, rfl⟩, rfl, trivial, ⟨by decide, rfl⟩, ⟨rfl, ?_⟩, trivial⟩
    exact ⟨l ++ [.called .toggleDuringDrive, .called (.switchScreen .warn)],
      [.slept 500, .called (.switchScreen .debugRtd)], by simp, by simp, by simp⟩
  | debugNoRtd | warn | other value outside => exact ⟨trivial, trivial⟩

theorem onTrack_append {S : Screen} {l es : List Event} (h : OnTrack S l) (hes : Rendered es)
    (hcount : after S es = driveScreen (es.foldl countToggle (toggleCounts l)).1
      (es.foldl countToggle (toggleCounts l)).2) : OnTrack (after S es) (l ++ es) := by
  refine ⟨?_, rendered_append h.2 hes⟩
  rw [toggleCounts_append]
  exact hcount

theorem onTrack_pass {S : Screen} {l : List Event} (h : OnTrack S l) :
    ∀ es ∈ passes S, Walk demanded S l es ∧ OnTrack (after S es) (l ++ es) := by
  intro es hes
  have hS := h.1
  obtain ⟨poll, hpoll, rfl⟩ := List.mem_map.mp hes
  simp only [polls, List.mem_cons, List.not_mem_nil, or_false] at hpoll
  rcases hpoll with rfl | rfl | rfl
  · refine ⟨?_, onTrack_append h ⟨rfl, trivial⟩ ?_⟩
    · rw [walk_append]
      exact ⟨⟨trivial, trivial, walk_whetherDrive S _⟩, trivial, trivial⟩
    · change modeNext S = driveScreen ((toggleCounts l).1 + 1) 0
      rw [driveScreen_mode _ (toggleCounts l).2, ← hS]
  · unfold guardedDuringDrive
    by_cases hno : S = .debugNoRtd
    · rw [if_pos hno]
      exact ⟨⟨trivial, trivial, trivial, trivial, trivial⟩, onTrack_append h trivial hS⟩
    · rw [if_neg hno]
      refine ⟨?_, onTrack_append h ?_ ?_⟩
      · rw [walk_append]
        exact ⟨⟨trivial, trivial, trivial, walk_duringDrive S _⟩, trivial, trivial⟩
      · exact rendered_append (l := _ :: _ :: _ :: _) (rendered_duringDrive S) trivial
      · have hcounts := counts_duringDrive S (toggleCounts l)
        have hscreen : driveScreen (toggleCounts l).1 ((toggleCounts l).2 + 1) =
            after S (duringDrive S) := by
          rw [driveScreen_submode (by rwa [← hS]), ← hS]
        rw [List.foldl_append, after_append]
        change after S (duringDrive S) = driveScreen
          ((duringDrive S).foldl countToggle (toggleCounts l)).1
          ((duringDrive S).foldl countToggle (toggleCounts l)).2
        rw [hcounts, ← hscreen]
  · exact ⟨⟨trivial, trivial, trivial, trivial⟩, onTrack_append h trivial hS⟩

theorem onTrack_boot : OnTrack .debugNoRtd (switched .debugNoRtd) := ⟨rfl, rfl, trivial⟩

theorem walk_boot : Walk demanded .mainNoLaps [] (switched .debugNoRtd) :=
  ⟨⟨by decide, rfl⟩, trivial, trivial⟩

theorem app_onTrack {allow : Button → World → Prop} {tries : ℕ} {w : World}
    (h : AppReach allow tries (.ret true) w) :
    OnTrack w.statics.currentScreen (ownEvents w.log) :=
  (app_loop walk_boot onTrack_boot (fun _ _ h => onTrack_pass h)).1 w h

theorem app_demanded {allow : Button → World → Prop} {tries : ℕ} {w : World} {o : Op}
    {k : o.Res → Firmware Bool} (h : AppReach allow tries (.op o k) w) : guardOf demanded o w :=
  (app_loop walk_boot onTrack_boot (fun _ _ h => onTrack_pass h)).2 o k w h

theorem warnedFor500_of_ownEvents {log : List Event} (h : WarnedFor500 (ownEvents log)) :
    WarnedFor500 log := by
  obtain ⟨pre, post, hsplit, hslept, hnone⟩ := h
  obtain ⟨pre', rest, rfl, _, hrest⟩ := List.filter_eq_append_iff.mp hsplit
  obtain ⟨skipped, post', rfl, _, _, rfl⟩ := List.filter_eq_cons_iff.mp hrest
  refine ⟨pre' ++ skipped, post', by simp, List.mem_of_mem_filter hslept, fun s hs => ?_⟩
  exact hnone s (List.mem_filter.mpr ⟨hs, rfl⟩)

theorem drive_automaton (tries : ℕ) :
    (∀ w, AppReach anyPress tries (.ret true) w →
      (w.statics.currentScreen = .debugNoRtd ↔ Even (toggleCounts w.log).1) ∧
      (Odd (toggleCounts w.log).1 →
        ((toggleCounts w.log).2 % 3 = 0 → w.statics.currentScreen = .mainNoLaps) ∧
        ((toggleCounts w.log).2 % 3 = 1 → w.statics.currentScreen = .mainLaps) ∧
        ((toggleCounts w.log).2 % 3 = 2 → w.statics.currentScreen = .debugRtd)) ∧
      w.statics.currentScreen ≠ .warn ∧ Rendered (ownEvents w.log)) ∧
    (∀ next k w, AppReach anyPress tries (.op (.call (.switchScreen next)) k) w →
      w.statics.currentScreen ≠ next ∧ (render next).isSome) ∧
    (∀ k w, AppReach anyPress tries (.op (.setCurrentScreen .debugRtd) k) w →
      w.statics.currentScreen = .warn ∧ WarnedFor500 w.log) ∧
    (∀ k w, AppReach anyPress tries (.op (.setCurrentScreen .warn) k) w →
      w.statics.currentScreen = .mainLaps) := by
  refine ⟨fun w h => ?_, fun next k w h => ?_, fun k w h => ?_, fun k w h => ?_⟩
  · obtain ⟨hscreen, hrendered⟩ := app_onTrack h
    rw [toggleCounts_ownEvents] at hscreen
    refine ⟨?_, fun hodd => ⟨fun hs => ?_, fun hs => ?_, fun hs => ?_⟩, ?_, hrendered⟩
    · rw [hscreen, driveScreen_eq_debugNoRtd, Nat.even_iff]
    · rw [hscreen, driveScreen, if_neg (by rw [Nat.odd_iff.mp hodd]; decide), if_pos hs]
    · rw [hscreen, driveScreen, if_neg (by rw [Nat.odd_iff.mp hodd]; decide), if_neg (by omega),
        if_pos hs]
    · rw [hscreen, driveScreen, if_neg (by rw [Nat.odd_iff.mp hodd]; decide), if_neg (by omega),
        if_neg (by omega)]
    · rw [hscreen]
      exact driveScreen_ne_warn _ _
  · exact app_demanded h _ rfl
  · obtain ⟨hwarn, hslept⟩ := app_demanded h _ rfl
    exact ⟨hwarn, warnedFor500_of_ownEvents hslept⟩
  · exact app_demanded h _ rfl

theorem drive_automaton_run :
    (∃ w, AppReach anyPress 1 (.ret true) w ∧ toggleCounts w.log = (1, 0) ∧
      w.statics.currentScreen = .mainNoLaps) ∧
    (∃ k w, AppReach anyPress 1 (.op (.call (.switchScreen .mainNoLaps)) k) w ∧
      w.statics.currentScreen ≠ .mainNoLaps) ∧
    (∃ k w, AppReach anyPress 1 (.op (.setCurrentScreen .debugRtd) k) w ∧
      w.statics.currentScreen = .warn ∧ WarnedFor500 w.log) ∧
    (∃ k w, AppReach anyPress 1 (.op (.setCurrentScreen .warn) k) w ∧
      w.statics.currentScreen = .mainLaps) := by
  have hmode := (headAt_boot : HeadAt anyPress _ _ _).press .mode 200001 (by decide) (by simp [anyPress])
  have hsub := hmode.pass.press .submode 200001 (by decide) (by simp [anyPress])
  have hagain := hsub.pass.press .submode 400002 (by decide) (by simp [anyPress])
  refine ⟨?_, ?_, ?_, ?_⟩
  · obtain ⟨w, hw, _, hscreen, _, hlog⟩ := hmode.pass
    obtain ⟨_, hodd, _, _⟩ := (drive_automaton 1).1 w hw
    have hcounts : toggleCounts w.log = (1, 0) := by rw [hlog]; rfl
    rw [hcounts] at hodd
    exact ⟨w, hw, hcounts, (hodd odd_one).1 rfl⟩
  · obtain ⟨k, w, hw⟩ := hmode.asks (e := .called (.switchScreen .mainNoLaps)) rfl (by decide)
    exact ⟨k, w, hw, ((drive_automaton 1).2.1 _ k w hw).1⟩
  · obtain ⟨k, w, hw⟩ := hagain.asks (e := .entered .debugRtd) rfl (by decide)
    exact ⟨k, w, hw, (drive_automaton 1).2.2.1 k w hw⟩
  · obtain ⟨k, w, hw⟩ := hagain.asks (e := .entered .warn) rfl (by decide)
    exact ⟨k, w, hw, (drive_automaton 1).2.2.2 k w hw⟩

end SteeringDisplay.DriveAutomaton
