import WatchTrial.Proofs.ByteOrder
import WatchTrial.Proofs.Completed
import WatchTrial.Proofs.DisplayTrial
/-!
# Campaigns of display trials

A campaign is a sequence of display trials. A trial names the files that it writes by filling in a stencil,
the queue finds the completed packages by a pattern, and both mean the same file: a package is completed after
a trial just when it was before, or the trial captured both of its screenshots. So a captured package never
comes back to the queue, and an aborted one never leaves it.
-/
namespace WatchTrial

open Files Bench

namespace Text

namespace Stencil

variable {value : List Char → List Char} {before name : List Char}

private theorem fillChars_plain (h : '{' ∉ before) : fillChars value before = before := by
  rw [fillChars]
  split
  next heq =>
    cases (cut_of_not_mem h).symm.trans heq
    rfl
  next heq => cases (cut_of_not_mem h).symm.trans heq

private theorem fillChars_name (hbefore : '{' ∉ before) (hname : '}' ∉ name) (after : List Char) :
    fillChars value (before ++ '{' :: (name ++ '}' :: after)) = before ++ value name ++ fillChars value after := by
  rw [fillChars]
  split
  next heq => cases (cut_append hbefore _).symm.trans heq
  next heq =>
    cases (cut_append hbefore _).symm.trans heq
    split
    next heq' => cases (cut_append hname after).symm.trans heq'
    next heq' =>
      cases (cut_append hname after).symm.trans heq'
      rfl

end Stencil

end Text

def Phase.ending (phase : Phase) : String := "." ++ phase.name ++ ".png"

private theorem Phase.ending_ambient : ambient.ending = ".ambient.png" := by decide

private theorem Phase.ambient_ne_interactive {q pkg : String} : q ++ ambient.ending ≠ pkg ++ interactive.ending := by
  intro heq
  have hchars := congrArg (fun text : String => text.toList.reverse.take 12) heq
  simp only [String.toList_append, List.reverse_append] at hchars
  rw [List.take_append_of_le_length (by decide), List.take_append_of_le_length (by decide)] at hchars
  exact absurd hchars (by decide)

/-- The usual names of screenshot files, in a directory that has a clean path without pattern characters. -/
structure Settings.Usual (s : Settings) : Prop where
  pattern : s.screenshotPattern = "\x7bdir\x7d/\x7bpkg\x7d.\x7bphase\x7d.png"
  ending : s.completedSuffix = ".ambient.png"
  clean : Path.cleanChars s.screenshotDir.toList = s.screenshotDir.toList
  root : s.screenshotDir ≠ "/"
  plain : Glob.hasMeta s.screenshotDir.toList = false

namespace Settings

/-- A package is among the completed ones. -/
def Completed (s : Settings) (files : Files) (pkg : String) : Prop :=
  ∃ done, Progress.completed files s.screenshotDir s.completedSuffix = .ok done ∧ pkg ∈ done

private theorem completed_iff_mem {s : Settings} {files : Files} {done : List String} {pkg : String}
    (h : Progress.completed files s.screenshotDir s.completedSuffix = .ok done) :
    s.Completed files pkg ↔ pkg ∈ done := by
  constructor
  · rintro ⟨done', hdone, hmem⟩
    cases h.symm.trans hdone
    exact hmem
  · exact fun hmem => ⟨done, h, hmem⟩

/-- The names on the way to the screenshot directory are not too long. -/
def Reachable (s : Settings) : Prop :=
  Acceptable s.screenshotDir ∧ ∀ name ∈ namesOf s.screenshotDir, name.utf8ByteSize ≤ nameLimit

namespace Usual

variable {s : Settings} (h : s.Usual) {files : Files} {pkg q : String} {phase : Phase}
include h

private theorem screenshotPath_eq (pkg : String) (phase : Phase) :
    s.screenshotPath pkg phase = s.screenshotDir ++ "/" ++ (pkg ++ phase.ending) := by
  have hpattern : "\x7bdir\x7d/\x7bpkg\x7d.\x7bphase\x7d.png".toList =
      [] ++ '{' :: ("dir".toList ++ '}' :: (['/'] ++ '{' :: ("pkg".toList ++ '}' ::
        (['.'] ++ '{' :: ("phase".toList ++ '}' :: ".png".toList))))) := by decide
  have hpkg : ("pkg" == "dir") = false := by decide
  have hphase : ("phase" == "dir") = false ∧ ("phase" == "pkg") = false := by decide
  rw [← String.toList_inj, Settings.screenshotPath, h.pattern, Text.Stencil.fill, String.toList_ofList, hpattern,
    Text.Stencil.fillChars_name (by decide) (by decide), Text.Stencil.fillChars_name (by decide) (by decide),
    Text.Stencil.fillChars_name (by decide) (by decide), Text.Stencil.fillChars_plain (by decide)]
  simp only [String.ofList_toList, List.lookup_cons, beq_self_eq_true, hpkg, hphase, Option.getD_some, Phase.ending,
    String.toList_append, List.nil_append, List.append_assoc]
  rfl

omit h in
theorem isName (hq : '/' ∉ q.toList) (phase : Phase) : Path.IsName (q ++ phase.ending).toList := by
  have hending : 2 < phase.ending.toList.length ∧ '/' ∉ phase.ending.toList := by cases phase <;> decide
  rw [String.toList_append]
  have hlength : 2 < (q.toList ++ phase.ending.toList).length := by
    rw [List.length_append]
    omega
  exact Path.isName_of_length hlength (by simpa using ⟨hq, hending.2⟩)

private theorem dir_ne_empty : s.screenshotDir ≠ "" := by
  intro heq
  have hclean := h.clean
  rw [heq] at hclean
  exact Path.cleanChars_ne_nil _ hclean

private theorem placeOf_screenshotPath (hq : '/' ∉ q.toList) (phase : Phase) :
    placeOf (s.screenshotPath q phase) = placeOf s.screenshotDir ++ [q ++ phase.ending] := by
  rw [h.screenshotPath_eq, placeOf_name h.dir_ne_empty (isName hq phase)]

private theorem not_above (hpkg : '/' ∉ pkg.toList) (name : String) :
    ¬ Above (s.screenshotPath pkg phase) (placeOf s.screenshotDir ++ [name]) := by
  have hdir : Path.dir (s.screenshotPath pkg phase) = s.screenshotDir := by
    have hchars : (s.screenshotPath pkg phase).toList =
        s.screenshotDir.toList ++ '/' :: (pkg ++ phase.ending).toList := by
      rw [h.screenshotPath_eq]
      simp
    rw [Path.dir, hchars, Path.dirChars_name h.clean (isName hpkg phase).2.2.2, String.ofList_toList]
  rintro ⟨directory, hmem, heq⟩
  rw [hdir] at hmem
  have hle := length_le_of_directoriesTo h.clean hmem
  rw [← heq, List.length_append, List.length_singleton] at hle
  omega

private theorem reachable_of_read (hpkg : '/' ∉ pkg.toList) {content : ByteArray}
    (hread : files.read (s.screenshotPath pkg phase) = .ok content) : s.Reachable := by
  obtain ⟨place, hfind⟩ := read_ok_iff.mp hread
  obtain ⟨⟨hnull, -, hsize⟩, hwalk⟩ := resolve_ok_iff.mp (find_ok_iff.mp hfind).1
  have hshort := (walk_ok_iff.mp hwalk).2.1
  rw [h.screenshotPath_eq] at hnull hsize hshort
  rw [namesOf_name _ (isName hpkg phase).2.2.2] at hshort
  refine ⟨⟨fun hmem => hnull ?_, h.dir_ne_empty, ?_⟩, fun name hname => ?_⟩
  · rw [String.append_assoc, String.toList_append]
    exact List.mem_append_left _ hmem
  · rw [String.append_assoc, String.utf8ByteSize_append] at hsize
    omega
  · exact hshort name (List.mem_append_left _ hname)

private theorem completed_ok (files : Files) : ∃ done,
    Progress.completed files s.screenshotDir s.completedSuffix = .ok done ∧
    ∀ q, s.Completed files q ↔ (q ≠ "" ∧ '/' ∉ q.toList) ∧
      ∃ place, files.find s.screenshotDir = .ok (place, .directory) ∧
        q ++ Phase.ambient.ending ∈ files.namesIn place := by
  have hending : Glob.hasMeta s.completedSuffix.toList = false ∧ 2 < s.completedSuffix.toList.length ∧
      '/' ∉ s.completedSuffix.toList := by
    rw [h.ending]
    decide
  obtain ⟨done, hdone, -, hmem⟩ := Progress.mem_completed files h.clean h.plain hending.1 hending.2.2
    fun _ before _ hbefore _ => Path.isName_of_length (by rw [List.length_append]; omega)
      (by simpa using ⟨hbefore, hending.2.2⟩)
  rw [h.ending, ← Phase.ending_ambient] at hmem
  exact ⟨done, hdone, fun q => (completed_iff_mem hdone).trans (hmem q)⟩

private theorem completed_iff (hsound : files.Sound) : s.Completed files q ↔
    (q ≠ "" ∧ '/' ∉ q.toList) ∧ s.Reachable ∧ files.at? (placeOf (s.screenshotPath q .ambient)) ≠ none := by
  obtain ⟨-, -, hmem⟩ := h.completed_ok files
  rw [hmem]
  refine and_congr_right fun hq => ?_
  have hanchor : isAnchor (placeOf s.screenshotDir ++ [q ++ Phase.ambient.ending]) = false := by
    obtain ⟨-, -, hup, hslash⟩ := isName hq.2 .ambient
    refine isAnchor_concat (fun heq => hup (by rw [heq]; rfl)) fun heq => hslash ?_
    rw [heq]
    decide
  rw [h.placeOf_screenshotPath hq.2]
  -- a file in the screenshot directory shows that the directory is there, since files are sound
  constructor
  · rintro ⟨place, hfind, hin⟩
    obtain ⟨hreachable, rfl, -⟩ := (find_directory_iff h.clean hsound).mp hfind
    exact ⟨hreachable, (mem_namesIn hanchor).mp hin⟩
  · rintro ⟨hreachable, hat⟩
    have hdirectory := hsound _ hat
    rw [parent_concat hanchor] at hdirectory
    exact ⟨_, (find_directory_iff h.clean hsound).mpr ⟨hreachable, rfl, hdirectory⟩, (mem_namesIn hanchor).mpr hat⟩

end Usual

end Settings

namespace Rig

private theorem takeAll_displaySteps_failed {ω : Type} {rig : Rig ω} {pkg : String} {scene : Scene ω}
    (h : (rig.takeAll pkg displaySteps {} scene).1.2 ≠ none) :
    rig.takeAll pkg displaySteps {} scene = rig.takeAll pkg (displaySteps.take 13) {} scene ∨
    ∃ d reached fault, rig.takeAll pkg (displaySteps.take 13) {} scene = ((d, none), reached) ∧
      rig.save (rig.settings.screenshotPath pkg .ambient) d.shot reached.outside =
        (.error fault, (rig.takeAll pkg displaySteps {} scene).2.outside) := by
  have hsteps : rig.takeAll pkg displaySteps {} scene =
      rig.takeAll pkg (displaySteps.take 13 ++ [.saveScreenshot .ambient]) {} scene := rfl
  rw [hsteps] at h ⊢
  rcases hfirst : rig.takeAll pkg (displaySteps.take 13) {} scene with ⟨⟨d, failure⟩, reached⟩
  cases failure with
  | some failure => exact .inl ((takeAll_append_of_failed (by simp [hfirst]) _).trans hfirst)
  | none =>
    refine .inr ⟨d, reached, ?_⟩
    rw [takeAll_append_of_ok hfirst, takeAll] at h ⊢
    rcases hsave : rig.take pkg d (.saveScreenshot .ambient) reached with ⟨fault | d', scene'⟩
    · exact ⟨fault, rfl, take_saveScreenshot_error hsave⟩
    · rw [hsave] at h
      exact absurd rfl h

section Files

variable {w : World} (hw : w.WritesScratchOnly) {c : Connector} (hdial : c.SparesFiles w) (settings : Settings)
  (labels : Labels) (session : Session) {pkg : String} {scene : Scene Bench}
include hw hdial

private theorem takeAll_failed_filesKept
    (hfailed : ((Rig.atBench w c settings labels session).takeAll pkg displaySteps {} scene).1.2 ≠ none) :
    FilesKept (fun p => p = placeOf w.scratch ∨ p = placeOf (settings.screenshotPath pkg .interactive))
      (fun p => ∃ phase, Above (settings.screenshotPath pkg phase) p) scene.outside
      ((Rig.atBench w c settings labels session).takeAll pkg displaySteps {} scene).2.outside := by
  have hfirst : FilesKept
      (fun p => p = placeOf w.scratch ∨ p = placeOf (settings.screenshotPath pkg .interactive))
      (fun p => ∃ phase, Above (settings.screenshotPath pkg phase) p) scene.outside
      ((Rig.atBench w c settings labels session).takeAll pkg (displaySteps.take 13) {} scene).2.outside := by
    refine Kept.mono (takeAll_filesKept hw hdial settings labels session pkg
      (List.take_subset 13 displaySteps) {} scene) ?_ fun p ⟨phase, _, hp⟩ => ⟨phase, hp⟩
    rintro p (hp | ⟨phase, hphase, hp⟩)
    · exact .inl hp
    · obtain rfl : phase = .interactive := by simpa [displaySteps, activationSteps] using hphase
      exact .inr hp
  rcases takeAll_displaySteps_failed hfailed with hsame | ⟨d, reached, fault, hrun, hsave⟩
  · rw [hsame]
    exact hfirst
  · rw [hrun] at hfirst
    rw [atBench_save] at hsave
    refine trans_of (FilesKept _ _) hfirst ?_
    exact (save_error hsave).mono (fun _ => False.elim) fun p hp => ⟨.ambient, hp⟩

end Files

end Rig

/-- One display trial of a campaign: what it works with, and the scene that it starts from. -/
structure DisplayRun where
  world : World
  connector : Connector
  labels : Labels
  session : Session
  pkg : String
  scene : Scene Bench

namespace DisplayRun

variable (r : DisplayRun) (s : Settings)

def rig : Rig Bench := Rig.atBench r.world r.connector s r.labels r.session

def result : (DisplayReport × Except Fault Unit) × Scene Bench := (r.rig s).runDisplay r.pkg r.scene

def before : Files := r.scene.outside.files

def after : Files := (r.result s).2.outside.files

/-- The trial captured both screenshots. -/
def Captured : Prop := (r.result s).1.1.verdict = some .captured

/-- What is relied on: the package has a name without a slash, commands and dialling write to the scratch file
only, and that is not named like the second screenshot of a package. -/
structure Regular : Prop where
  named : r.pkg ≠ "" ∧ '/' ∉ r.pkg.toList
  writes : r.world.WritesScratchOnly
  spares : r.connector.SparesFiles r.world
  scratch : ∀ q, '/' ∉ q.toList → placeOf (s.screenshotPath q .ambient) ≠ placeOf r.world.scratch

private theorem captured_iff : r.Captured s ↔ ((r.rig s).takeAll r.pkg displaySteps {} r.scene).1.2 = none := by
  have hverdict : (r.result s).1.1.verdict = some ((r.rig s).run displaySteps r.pkg r.scene).1.displayVerdict := rfl
  rw [Captured, hverdict, Option.some.injEq, Course.displayVerdict_eq_captured_iff]
  rfl

section Step

variable {r s} (h : s.Usual) (hr : r.Regular s) {q : String}
include hr

private theorem at?_after {T D : Place → Prop} {p : Place}
    (hkept : FilesKept T D r.scene.outside ((r.rig s).takeAll r.pkg displaySteps {} r.scene).2.outside)
    (hT : ¬ T p) (hD : ¬ D p) (hscratch : p ≠ placeOf r.world.scratch) :
    (r.after s).at? p = r.before.at? p := by
  have hcleaned := Rig.cleanUp_scratchOnly hr.writes hr.spares s r.labels r.session r.pkg
    ((r.rig s).takeAll r.pkg displaySteps {} r.scene).2.outside
  exact (Kept.at?_eq hcleaned hscratch id).trans (Kept.at?_eq hkept hT hD)

private theorem sound_after (hsound : r.before.Sound) : (r.after s).Sound := by
  have hsteps := Rig.takeAll_filesKept hr.writes hr.spares s r.labels r.session r.pkg
    (List.Subset.refl displaySteps) {} r.scene
  have hcleaned := Rig.cleanUp_scratchOnly hr.writes hr.spares s r.labels r.session r.pkg
    ((r.rig s).takeAll r.pkg displaySteps {} r.scene).2.outside
  exact Kept.sound hcleaned (Kept.sound hsteps hsound)

include h

private theorem at?_after_of_ne (hq : '/' ∉ q.toList) (hne : q ≠ r.pkg) :
    (r.after s).at? (placeOf (s.screenshotPath q .ambient)) =
      r.before.at? (placeOf (s.screenshotPath q .ambient)) := by
  have hsteps := Rig.takeAll_filesKept hr.writes hr.spares s r.labels r.session r.pkg
    (List.Subset.refl displaySteps) {} r.scene
  refine at?_after hr hsteps ?_ ?_ (hr.scratch q hq)
  · rintro (heq | ⟨phase, -, heq⟩)
    · exact hr.scratch q hq heq
    · rw [h.placeOf_screenshotPath hq, h.placeOf_screenshotPath hr.named.2] at heq
      have hname := List.singleton_inj.mp (List.append_cancel_left heq)
      cases phase with
      | interactive => exact Phase.ambient_ne_interactive hname
      | ambient => exact hne ((String.append_left_inj _).mp hname)
  · rintro ⟨phase, -, habove⟩
    rw [h.placeOf_screenshotPath hq] at habove
    exact h.not_above hr.named.2 _ habove

private theorem at?_after_aborted (hq : '/' ∉ q.toList) (haborted : ¬ r.Captured s) :
    (r.after s).at? (placeOf (s.screenshotPath q .ambient)) =
      r.before.at? (placeOf (s.screenshotPath q .ambient)) := by
  have hsteps := Rig.takeAll_failed_filesKept hr.writes hr.spares s r.labels r.session
    (mt (r.captured_iff s).mpr haborted)
  refine at?_after hr hsteps ?_ ?_ (hr.scratch q hq)
  · rintro (heq | heq)
    · exact hr.scratch q hq heq
    · rw [h.placeOf_screenshotPath hq, h.placeOf_screenshotPath hr.named.2] at heq
      exact Phase.ambient_ne_interactive (List.singleton_inj.mp (List.append_cancel_left heq))
  · rintro ⟨phase, habove⟩
    rw [h.placeOf_screenshotPath hq] at habove
    exact h.not_above hr.named.2 _ habove

private theorem at?_after_captured (hcaptured : r.Captured s) :
    s.Reachable ∧ (r.after s).at? (placeOf (s.screenshotPath r.pkg .ambient)) ≠ none := by
  rcases hrun : (r.rig s).takeAll r.pkg displaySteps {} r.scene with ⟨⟨d, failure⟩, reached⟩
  obtain rfl : failure = none := by
    have hnone := (r.captured_iff s).mp hcaptured
    rwa [hrun] at hnone
  have hlast : displaySteps.take (Phase.ambient.place + 2) = displaySteps := rfl
  obtain ⟨shot, between, -, hsave⟩ := Rig.takeAll_saves (hlast ▸ hrun)
  rw [rig, Rig.atBench_save] at hsave
  obtain ⟨-, hread, hat⟩ := save_ok hsave
  have hat' : reached.outside.files.at? (placeOf (s.screenshotPath r.pkg .ambient)) = some (.file shot.data) := hat
  have hcleaned := Rig.cleanUp_scratchOnly hr.writes hr.spares s r.labels r.session r.pkg reached.outside
  have hafter : r.after s = ((r.rig s).cleanUp r.pkg
      ((r.rig s).takeAll r.pkg displaySteps {} r.scene).2.outside).2.files := rfl
  rw [hrun] at hafter
  -- cleaning up does not write where the screenshot is
  have hafter' : (r.after s).at? (placeOf (s.screenshotPath r.pkg .ambient)) = some (.file shot.data) := by
    rw [hafter]
    exact (Kept.entry hcleaned _ (hr.scratch r.pkg hr.named.2) (by rw [hat']; simp)).trans hat'
  exact ⟨h.reachable_of_read hr.named.2 hread, by simp [hafter']⟩

private theorem completed_after (hsound : r.before.Sound) :
    s.Completed (r.after s) q ↔ s.Completed r.before q ∨ r.pkg = q ∧ r.Captured s := by
  have hnamed := hr.named
  rw [h.completed_iff (sound_after hr hsound), h.completed_iff hsound]
  by_cases hcaptured : r.Captured s
  · obtain ⟨hreachable, hat⟩ := at?_after_captured h hr hcaptured
    by_cases hq : r.pkg = q
    · subst hq
      exact iff_of_true ⟨hnamed, hreachable, hat⟩ (.inr ⟨rfl, hcaptured⟩)
    · simp only [hq, false_and, or_false]
      refine and_congr_right fun hslash => ?_
      rw [at?_after_of_ne h hr hslash.2 (Ne.symm hq)]
  · simp only [hcaptured, and_false, or_false]
    refine and_congr_right fun hslash => ?_
    rw [at?_after_aborted h hr hslash.2 hcaptured]

end Step

end DisplayRun

/-- Display trials one after the other: each starts from the files that the one before it left. -/
inductive Campaign (s : Settings) : Files → List DisplayRun → Files → Prop
  | done (files : Files) : Campaign s files [] files
  | run {r : DisplayRun} {rest : List DisplayRun} {files : Files} (h : Campaign s (r.after s) rest files) :
      Campaign s r.before (r :: rest) files

/-- A package is completed after a campaign just when it was before, or one of the trials captured it. -/
theorem Campaign.completed_iff {s : Settings} (h : s.Usual) {files files' : Files} {runs : List DisplayRun}
    (hcampaign : Campaign s files runs files') (hruns : ∀ r ∈ runs, r.Regular s) (hsound : files.Sound)
    (q : String) :
    s.Completed files' q ↔ s.Completed files q ∨ ∃ r ∈ runs, r.pkg = q ∧ r.Captured s := by
  induction hcampaign with
  | done files => simp
  | @run r rest files' hrest ih =>
    obtain ⟨hr, hruns⟩ := List.forall_mem_cons.mp hruns
    rw [ih hruns (DisplayRun.sound_after hr hsound), DisplayRun.completed_after h hr hsound, or_assoc]
    simp only [List.mem_cons, exists_eq_or_imp]

private theorem ApkList.load_pairwise {files : Files} {path : String} {pkgs : List String}
    (h : load files path = .ok pkgs) : pkgs.Pairwise (· < ·) := by
  unfold load at h
  split at h
  · cases h
  · cases h
  · unfold read at h
    dsimp only at h
    split at h <;> cases h
    exact Text.pairwise_ascending _

private theorem Settings.Usual.mem_displayQueue {s : Settings} (h : s.Usual) {files : Files} {pkgs : List String}
    (hlist : ApkList.load files s.apkListFile = .ok pkgs) :
    ∃ queue, s.displayQueue files = .ok queue ∧
      queue.Pairwise (fun a b => Text.bytes a < Text.bytes b) ∧
      ∀ q, q ∈ queue ↔ q ∈ pkgs ∧ ¬ s.Completed files q := by
  obtain ⟨done, hdone, -⟩ := h.completed_ok files
  refine ⟨Progress.pending pkgs done, ?_, ?_, fun q => ?_⟩
  · unfold Settings.displayQueue
    rw [hlist, hdone]
    rfl
  · refine List.Pairwise.imp ?_ ((ApkList.load_pairwise hlist).filter _)
    exact fun hlt => Text.lt_iff_bytes_lt.mp hlt
  · rw [Settings.completed_iff_mem hdone, Progress.pending, List.mem_filter]
    simp

/-- After a display trial of a package whose second screenshot did not exist, the package is completed just when
the trial captured both screenshots, and all others are completed that were before. The queue has the packages
of the list that are not completed. So a captured package is not in the queue after any trials that follow, and
one that is on the list stays in the queue as long as all its trials are aborted. -/
theorem Settings.display_campaign (s : Settings) (h : s.Usual) :
    (∀ r : DisplayRun, r.Regular s → r.before.Sound →
      (r.before.at? (placeOf (s.screenshotPath r.pkg .ambient)) = none →
        (s.Completed (r.after s) r.pkg ↔ (r.result s).1.1.verdict = some .captured)) ∧
      ∀ other ≠ r.pkg, s.Completed (r.after s) other ↔ s.Completed r.before other) ∧
    (∀ files pkgs, ApkList.load files s.apkListFile = .ok pkgs →
      ∃ queue, s.displayQueue files = .ok queue ∧
        queue.Pairwise (fun a b => Text.bytes a < Text.bytes b) ∧
        ∀ pkg, pkg ∈ queue ↔ pkg ∈ pkgs ∧ ¬ s.Completed files pkg) ∧
    (∀ files runs files', Campaign s files runs files' → (∀ r ∈ runs, r.Regular s) → files.Sound →
      ∀ pkgs, ApkList.load files' s.apkListFile = .ok pkgs → ∃ queue, s.displayQueue files' = .ok queue ∧
        (∀ r ∈ runs, (r.result s).1.1.verdict = some .captured → r.pkg ∉ queue) ∧
        ∀ pkg ∈ pkgs, files.at? (placeOf (s.screenshotPath pkg .ambient)) = none →
          (∀ r ∈ runs, r.pkg = pkg → (r.result s).1.1.verdict ≠ some .captured) → pkg ∈ queue) := by
  have hmissing {files : Files} {pkg : String} (hsound : files.Sound)
      (hnone : files.at? (placeOf (s.screenshotPath pkg .ambient)) = none) : ¬ s.Completed files pkg :=
    fun hcompleted => ((h.completed_iff hsound).mp hcompleted).2.2 hnone
  refine ⟨fun r hr hsound => ⟨fun hnone => ?_, fun other hother => ?_⟩,
    fun files pkgs hlist => h.mem_displayQueue hlist, fun files runs files' hcampaign hruns hsound pkgs hlist => ?_⟩
  · rw [DisplayRun.completed_after h hr hsound, or_iff_right (hmissing hsound hnone)]
    exact and_iff_right rfl
  · rw [DisplayRun.completed_after h hr hsound]
    exact or_iff_left fun hpkg => hother hpkg.1.symm
  · obtain ⟨queue, hqueue, -, hmem⟩ := h.mem_displayQueue hlist
    have hcompleted := hcampaign.completed_iff h hruns hsound
    refine ⟨queue, hqueue, fun r hr hcaptured hin => ?_, fun pkg hpkg hnone haborted => ?_⟩
    · exact ((hmem r.pkg).mp hin).2 ((hcompleted r.pkg).mpr (.inr ⟨r, hr, rfl, hcaptured⟩))
    · refine (hmem pkg).mpr ⟨hpkg, fun hdone => ?_⟩
      rcases (hcompleted pkg).mp hdone with hbefore | ⟨r, hr, heq, hcaptured⟩
      · exact hmissing hsound hnone hbefore
      · exact haborted r hr heq hcaptured

/-! Two packages on a list. The first is captured, and the trial of the second is given up while it waits for the
watch to dim, after its first screenshot was saved. -/
namespace TwoPackages

def settings : Settings := { TwoPictures.settings with apkListFile := "list" }

def files : Files := Files.empty.put ["list"] (.file "q.apk\np.apk\n".toUTF8)

def run (pkg : String) (left : Nat) (files : Files) : DisplayRun where
  world := TwoPictures.world
  connector := TwoPictures.connector
  labels := ⟨[("p", "L"), ("q", "M")]⟩
  session := GyroLeak.session
  pkg := pkg
  scene := { left, outside := { session := some GyroLeak.session, files } }

private theorem before_run (pkg : String) (left : Nat) (files : Files) : (run pkg left files).before = files := rfl

def first : DisplayRun := run "p" 20 files

def second : DisplayRun := run "q" 3 (first.after settings)

private theorem usual : settings.Usual where
  pattern := rfl
  ending := rfl
  clean := by decide +kernel
  root := by decide
  plain := by decide

private theorem regular {pkg : String} (hpkg : pkg ≠ "" ∧ '/' ∉ pkg.toList) (left : Nat) (files : Files) :
    (run pkg left files).Regular settings where
  named := hpkg
  writes := TwoPictures.world_writesScratchOnly
  spares := Connector.dialServer_sparesFiles TwoPictures.world_writesScratchOnly {} 1080 7
  scratch q hq heq := by
    have hlength : (placeOf (settings.screenshotPath q .ambient)).length = (placeOf "shot.tmp").length :=
      congrArg List.length heq
    rw [usual.placeOf_screenshotPath hq, List.length_append] at hlength
    have hplaces : (placeOf settings.screenshotDir).length = 1 ∧ (placeOf "shot.tmp").length = 1 := by
      decide +kernel
    simp only [hplaces, List.length_singleton] at hlength
    omega

theorem sound : files.Sound := sound_empty.put (by decide) rfl nofun

end TwoPackages

open TwoPackages in
theorem Settings.display_campaign_two :
    (second.result TwoPackages.settings).1.1.interactive = "shots/q.interactive.png" ∧
    ∃ queue, TwoPackages.settings.displayQueue (second.after TwoPackages.settings) = .ok queue ∧
      "p" ∉ queue ∧ "q" ∈ queue := by
  have heval : (first.result TwoPackages.settings).1.1.verdict = some .captured ∧
      (second.result TwoPackages.settings).1.1.verdict = some .setupFailed ∧
      (second.result TwoPackages.settings).1.1.interactive = "shots/q.interactive.png" ∧
      (ApkList.load (second.after TwoPackages.settings) "list").toOption = some ["p", "q"] := by
    decide +kernel
  obtain ⟨hcaptured, haborted, hsaved, hlist⟩ := heval
  have hcampaign : Campaign TwoPackages.settings files [first, second] (second.after TwoPackages.settings) := by
    have hrest : Campaign TwoPackages.settings second.before [second] (second.after TwoPackages.settings) :=
      .run (.done _)
    have hstart : second.before = first.after TwoPackages.settings := before_run "q" 3 _
    rw [hstart] at hrest
    exact .run hrest
  have hregular : ∀ r ∈ [first, second], r.Regular TwoPackages.settings := by
    simp only [List.mem_cons, List.not_mem_nil, or_false, forall_eq_or_imp, forall_eq]
    exact ⟨regular (by decide) 20 _, regular (by decide) 3 _⟩
  obtain ⟨-, -, hcampaigns⟩ := Settings.display_campaign TwoPackages.settings usual
  obtain ⟨queue, hqueue, hout, hin⟩ := hcampaigns _ _ _ hcampaign hregular sound _ (Act.eq_ok_of_toOption hlist)
  refine ⟨hsaved, queue, hqueue, hout first (by simp) hcaptured, hin "q" (by simp) (by decide +kernel) ?_⟩
  simp only [List.mem_cons, List.not_mem_nil, or_false, forall_eq_or_imp, forall_eq]
  refine ⟨fun heq => absurd heq (by decide), fun _ => ?_⟩
  rw [haborted]
  simp

end WatchTrial
