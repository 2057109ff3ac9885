import WatchTrial.Proofs.Frame.Files
import WatchTrial.Proofs.Frame.Trial
import WatchTrial.Proofs.Steps
/-!
# The files of a display trial

A display trial writes a screenshot file for each of its phases. Everything else that it does leaves the files
as they are, but for the scratch file that screenshots are pulled into. What is relied on is that commands
and dialling write no other file.
-/
namespace WatchTrial

open Files

/-- Commands write to the scratch file only. -/
def World.WritesScratchOnly (w : World) : Prop :=
  ∀ past argv content, (w.run past argv).file = some content → argv.getLast? = some w.scratch

namespace Bench

/-- The files changed at the places `T` only, and directories were made at the places `D` only. -/
def FilesKept (T D : Place → Prop) (before after : Bench) : Prop := Kept T D before.files after.files

instance (T D : Place → Prop) : IsPreorder Bench (FilesKept T D) where
  refl b := refl_of (Kept T D) b.files
  trans _ _ _ h h' := trans_of (Kept T D) h h'

private theorem FilesKept.of_eq {T D : Place → Prop} {b b' : Bench} (h : b'.files = b.files) : FilesKept T D b b' := by
  unfold FilesKept
  rw [h]
  exact refl_of _ _

abbrev ScratchOnly (w : World) : Bench → Bench → Prop := FilesKept (· = placeOf w.scratch) fun _ => False

private theorem run_scratchOnly {w : World} (hw : w.WritesScratchOnly) (argv : List String) (b : Bench) :
    ScratchOnly w b (b.run w argv).2 := by
  unfold ScratchOnly FilesKept run
  simp only
  split
  next content path hfile hpath =>
    obtain rfl : w.scratch = path := Option.some.inj ((hw _ _ _ hfile).symm.trans hpath)
    cases hwrite : b.files.write w.scratch content with
    | error why => exact refl_of _ _
    | ok files => exact (write_ok hwrite).1
  · exact refl_of _ _

theorem save_error {path : String} {content : ByteArray} {b b' : Bench} {fault : Fault}
    (h : save path content b = (.error fault, b')) : FilesKept (fun _ => False) (Above path) b b' := by
  have hmade := makeEach_kept b.files (directoriesTo (Path.dir path))
  unfold save at h
  split at h
  next files why heq =>
    cases h
    rw [heq] at hmade
    exact hmade
  next files heq =>
    split at h <;> cases h
    rw [heq] at hmade
    exact hmade

theorem save_ok {path : String} {content : ByteArray} {b b' : Bench} {x : Unit}
    (h : save path content b = (.ok x, b')) : FilesKept (· = placeOf path) (Above path) b b' ∧
      b'.files.read path = .ok content ∧ b'.files.at? (placeOf path) = some (.file content) := by
  have hmade := makeEach_kept b.files (directoriesTo (Path.dir path))
  unfold save at h
  split at h
  · cases h
  next files heq =>
    rw [heq] at hmade
    split at h <;> cases h
    next hwritten =>
      obtain ⟨hkept, hread, hat⟩ := write_ok hwritten
      have hdirectories : Kept (· = placeOf path) (Above path) b.files files :=
        Kept.mono hmade (fun _ => False.elim) fun _ h => h
      exact ⟨trans_of _ hdirectories (hkept.mono (fun _ h => h) fun _ => False.elim), hread, hat⟩

private theorem save_filesKept (path : String) (content : ByteArray) :
    (save path content).Within (FilesKept (· = placeOf path) (Above path)) := by
  intro b
  rcases hrun : save path content b with ⟨fault | x, b'⟩
  · exact (save_error hrun).mono (fun _ => False.elim) fun _ h => h
  · exact (save_ok hrun).1

end Bench

open Bench

/-- Dialling leaves all files but the scratch file alone. -/
def Connector.SparesFiles (w : World) (c : Connector) : Prop := ∀ device, (c.dial device).Within (ScratchOnly w)

private theorem Connector.dial_sparesFiles (w : World) (doing : String) (adb : Adb) (delay : Int64) :
    SparesFiles w ⟨adb, Bench.dial w doing, delay⟩ := by
  intro device b
  simp only [Bench.dial]
  cases w.dial b.past device <;> exact .of_eq rfl

theorem Connector.dialServer_sparesFiles {w : World} (hw : w.WritesScratchOnly) (adb : Adb) (port delay : Int64) :
    SparesFiles w ⟨adb, adb.dialServer w port, delay⟩ := by
  intro device
  refine Adb.dialServer_within w adb (fun _ _ => .of_eq rfl) (run_scratchOnly hw) fun doing => ?_
  exact dial_sparesFiles w doing adb delay device

namespace Rig

variable {w : World} (hw : w.WritesScratchOnly) {c : Connector} (hdial : c.SparesFiles w)
include hw hdial

private theorem benchActs_scratchOnly : BenchActs w (ScratchOnly w) c where
  connector :=
    { connect := fun _ => run_scratchOnly hw _
      displaySize := fun _ => run_scratchOnly hw _
      dial := hdial
      attach := fun _ _ => .of_eq rfl
      exchange := fun _ _ _ => .of_eq rfl
      close := fun _ _ => .of_eq rfl
      slept := fun _ _ => .of_eq rfl
      use := fun _ _ => .of_eq rfl }
  clearLog _ := run_scratchOnly hw _
  packages _ := run_scratchOnly hw _
  install _ _ := run_scratchOnly hw _
  uninstall _ _ := run_scratchOnly hw _
  key _ _ := run_scratchOnly hw _
  launch _ _ := run_scratchOnly hw _
  request _ _ := .of_eq rfl
  hold _ _ := .of_eq rfl

variable (settings : Settings) (labels : Labels) (session : Session)

omit hw hdial in
theorem atBench_save : (Rig.atBench w c settings labels session).save = Bench.save := by
  simp only [Rig.atBench]

private theorem atBench_scratchOnly : { Rig.atBench w c settings labels session with
    save := fun _ _ => pure () }.Within (ScratchOnly w) := by
  refine (benchActs_scratchOnly hw hdial).atBench settings labels session ?_ fun _ _ => .pure _
  exact Adb.screenshot_within (run_scratchOnly hw _) (run_scratchOnly hw _) fun b => remove_kept _ _

private theorem take_scratchOnly (pkg : String) (d : Draft) {step : Step} (hstep : step ∈ displaySteps)
    (hsave : ∀ phase, step ≠ .saveScreenshot phase) :
    Act.Within (Scene.Via (ScratchOnly w)) ((Rig.atBench w c settings labels session).take pkg d step) := by
  have hbefore : step ≠ .readSensorsBefore := by
    rintro rfl
    simp [displaySteps, activationSteps] at hstep
  have hafter : step ≠ .readSensorsAfter := by
    rintro rfl
    simp [displaySteps, activationSteps] at hstep
  rw [← take_save _ pkg (fun _ _ => pure ()) d hsave]
  exact (atBench_scratchOnly hw hdial settings labels session).take pkg d hbefore hafter

theorem cleanUp_scratchOnly (pkg : String) (b : Bench) :
    ScratchOnly w b ((Rig.atBench w c settings labels session).cleanUp pkg b).2 := by
  rw [← cleanUp_save _ pkg fun _ _ => pure ()]
  exact (atBench_scratchOnly hw hdial settings labels session).cleanUp pkg b

/-- A step of a display trial that saves a screenshot changes its file, and makes directories above it. -/
theorem take_filesKept (pkg : String) (d : Draft) {step : Step} (hstep : step ∈ displaySteps)
    {T D : Place → Prop} (hscratch : T (placeOf w.scratch))
    (hfile : ∀ phase, step = .saveScreenshot phase → T (placeOf (settings.screenshotPath pkg phase)))
    (habove : ∀ phase, step = .saveScreenshot phase → ∀ p, Above (settings.screenshotPath pkg phase) p → D p) :
    Act.Within (Scene.Via (FilesKept T D)) ((Rig.atBench w c settings labels session).take pkg d step) := by
  by_cases hsave : ∃ phase, step = .saveScreenshot phase
  · obtain ⟨phase, rfl⟩ := hsave
    refine take_saveScreenshot_within (Rig.atBench w c settings labels session) fun b => ?_
    rw [atBench_save]
    exact (save_filesKept _ d.shot b).mono (fun p hp => hp ▸ hfile phase rfl) (habove phase rfl)
  · intro scene
    have hkept := take_scratchOnly hw hdial settings labels session pkg d hstep
      (fun phase h => hsave ⟨phase, h⟩) scene
    exact hkept.mono (fun p hp => hp ▸ hscratch) fun _ => False.elim

/-- Steps of a display trial change the files of the screenshots that they save, and make directories above
them. -/
theorem takeAll_filesKept (pkg : String) {steps : List Step} (hsteps : steps ⊆ displaySteps) (d : Draft)
    (scene : Scene Bench) :
    FilesKept
      (fun p => p = placeOf w.scratch ∨
        ∃ phase, .saveScreenshot phase ∈ steps ∧ p = placeOf (settings.screenshotPath pkg phase))
      (fun p => ∃ phase, .saveScreenshot phase ∈ steps ∧ Above (settings.screenshotPath pkg phase) p)
      scene.outside ((Rig.atBench w c settings labels session).takeAll pkg steps d scene).2.outside := by
  refine takeAll_within (fun step hstep d => ?_) d scene
  refine take_filesKept hw hdial settings labels session pkg d (hsteps hstep) (.inl rfl) ?_ ?_
  · rintro phase rfl
    exact .inr ⟨phase, hstep, rfl⟩
  · rintro phase rfl p hp
    exact ⟨phase, hstep, hp⟩

end Rig

end WatchTrial
