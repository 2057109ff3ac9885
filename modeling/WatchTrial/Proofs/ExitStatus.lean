import Mathlib.Data.Finset.Dedup
import WatchTrial.CommandLine.Program
import WatchTrial.Proofs.Leaks
import WatchTrial.Proofs.WrittenReports
/-!
# The exit status of a series of trials

A run that is not interrupted makes one trial for each package of its list, in order and whatever became of
those before, and prints one report for each. Its status is told by the set of the verdicts alone: two with a
leak among them, else one with a failure among them, else zero.
-/
namespace WatchTrial

namespace Rig

variable {ω : Type} (rig : Rig ω) (steps : List Step)

/-- Makes a trial of each package, in the scene that the one before it left. -/
def runEach : List String → Scene ω → List Course × Scene ω
  | [], scene => ([], scene)
  | pkg :: rest, scene =>
    let first := rig.run steps pkg scene
    let later := runEach rest first.2
    (first.1 :: later.1, later.2)

/-- Whenever one of the trials is to begin, the run has not been cancelled. -/
def uninterrupted [Sleeper ω] : List String → Scene ω → Bool
  | [], _ => true
  | pkg :: rest, scene => ! scene.interrupted && uninterrupted rest (rig.run steps pkg scene).2

private theorem runEach_pkgs (pkgs : List String) (scene : Scene ω) :
    (rig.runEach steps pkgs scene).1.map Course.pkg = pkgs := by
  induction pkgs generalizing scene with
  | nil => rfl
  | cons pkg rest ih => exact congrArg (pkg :: ·) (ih _)

end Rig

namespace CommandLine

def stepsOf (test : String) : List Step := if test = "display" then displaySteps else leakSteps

/-- The verdict of a trial of a test. -/
def verdictOf (test : String) (c : Course) : Verdict :=
  if test = "display" then c.displayVerdict else c.leakVerdict

/-- The report of a trial of a test as it is printed. A report that cannot be written leaves its line empty. -/
def reportOf (test : String) (stamp : Stamp) (c : Course) : String :=
  let report :=
    if test = "display" then
      { c.displayReport with
        runId := stamp.runId, startedAt := stamp.startedAt, elapsed := stamp.elapsed }.toJson?
    else
      { c.leakReport with runId := stamp.runId, startedAt := stamp.startedAt, elapsed := stamp.elapsed }.toJson?
  (report.map Json.indented).getD ""

private theorem reportOf_named (test : String) (stamp : Stamp) (c : Course) :
    summaryOf? (reportOf test stamp c) = stamp.startedAt.text?.map fun _ => (c.pkg, (verdictOf test c).name) := by
  unfold reportOf verdictOf
  split
  · exact DisplayReport.summaryOf?_written _
  · exact LeakReport.summaryOf?_written _

/-- The reports of trials on lines of their own, the first with the stamp of some number. -/
def printedReports (inv : Invocation) (test : String) (number : Nat) (courses : List Course) : String :=
  .join ((courses.zipIdx number).map fun entry => reportOf test (inv.stamp entry.2) entry.1 ++ "\n")

private theorem printedReports_cons (inv : Invocation) (test : String) (number : Nat) (c : Course)
    (rest : List Course) :
    printedReports inv test number (c :: rest) =
      reportOf test (inv.stamp number) c ++ "\n" ++ printedReports inv test (number + 1) rest := by
  rw [printedReports, List.zipIdx_cons, List.map_cons, String.join_cons]
  rfl

/-- The status for a set of verdicts. -/
def exitStatus (verdicts : Finset Verdict) : Nat :=
  if .leak ∈ verdicts then 2 else if .setupFailed ∈ verdicts then 1 else 0

private theorem exitStatus_iff (verdicts : Finset Verdict) :
    (exitStatus verdicts = 2 ↔ .leak ∈ verdicts) ∧
    (exitStatus verdicts = 1 ↔ .leak ∉ verdicts ∧ .setupFailed ∈ verdicts) ∧
    (exitStatus verdicts = 0 ↔ .leak ∉ verdicts ∧ .setupFailed ∉ verdicts) := by
  unfold exitStatus
  split_ifs <;> simp_all

section Status

variable {test : String} {c : Course}

private theorem verdictOf_setupFailed_iff : verdictOf test c = .setupFailed ↔ c.outcome.isOk = false := by
  have hok : c.outcome.isOk = false ↔ c.failure.isSome = true := by
    unfold Course.outcome
    cases c.failure <;> simp [Except.isOk, Except.toBool]
  rw [hok]
  unfold verdictOf Course.displayVerdict Course.leakVerdict
  cases c.failure with
  | some failure => simp
  | none =>
    simp only [Option.isSome_none, Bool.false_eq_true, if_false, iff_false]
    split
    · nofun
    · split <;> nofun

private theorem trial_eq (rig : Rig Bench) (test pkg : String) (stamp : Stamp) (scene : Scene Bench) :
    trial rig test pkg stamp scene =
      let run := rig.run (stepsOf test) pkg scene
      ((reportOf test stamp run.1, some (verdictOf test run.1), ! run.1.outcome.isOk), run.2) := by
  unfold trial stepsOf reportOf verdictOf
  split <;> rfl

/-- The status after a course, from its verdict and from whether it failed. -/
def statusOnward (test : String) (status : Nat) (c : Course) : Nat :=
  statusAfter status (some (verdictOf test c)) (! c.outcome.isOk)

private theorem statusOnward_eq (test : String) (status : Nat) (c : Course) : statusOnward test status c =
    if verdictOf test c = .leak then 2 else if verdictOf test c = .setupFailed ∧ status = 0 then 1 else status := by
  unfold statusOnward statusAfter
  simp only [verdictOf_setupFailed_iff, Option.some.injEq, Bool.and_eq_true, Bool.not_eq_true', beq_iff_eq]

/-- A leak decides the status wherever it stands, and a failure does only as long as the status is zero. -/
theorem foldl_statusOnward (test : String) (courses : List Course) (status : Nat) :
    courses.foldl (statusOnward test) status =
      if .leak ∈ courses.map (verdictOf test) then 2
      else if .setupFailed ∈ courses.map (verdictOf test) ∧ status = 0 then 1 else status := by
  induction courses generalizing status with
  | nil => simp
  | cons c rest ih =>
    rw [List.foldl_cons, ih, statusOnward_eq, List.map_cons]
    simp only [List.mem_cons]
    grind

end Status

private theorem trials_cons (rig : Rig Bench) (inv : Invocation) (test : String) (number status : Nat) (pkg : String)
    (rest : List String) {t : Terminal} (hgoing : t.scene.interrupted = false) :
    let run := rig.run (stepsOf test) pkg t.scene
    ∃ logs, trials rig inv test number status (pkg :: rest) t =
      trials rig inv test (number + 1) (statusOnward test status run.1) rest
        { t with
          scene := run.2, printed := t.printed ++ (reportOf test (inv.stamp number) run.1 ++ "\n"), logs } := by
  intro run
  rw [trials]
  have htrial : trial rig test pkg (inv.stamp number) = _ := funext fun scene => trial_eq ..
  rw [htrial]
  -- what a trial logs is whatever the definition says, so the witness is left to unification
  change ∃ logs, (if t.scene.interrupted = true then _ else _ : Run Nat) t = _
  rw [if_neg (by simp [hgoing])]
  exact ⟨_, rfl⟩

/-- Trials that are not interrupted are those of the rig, one after the other. -/
theorem trials_run (rig : Rig Bench) (inv : Invocation) (test : String) (number status : Nat) (pkgs : List String)
    {t : Terminal} (hgoing : rig.uninterrupted (stepsOf test) pkgs t.scene = true) :
    let series := rig.runEach (stepsOf test) pkgs t.scene
    ∃ logs, trials rig inv test number status pkgs t =
      (series.1.foldl (statusOnward test) status,
        { t with scene := series.2, printed := t.printed ++ printedReports inv test number series.1, logs }) := by
  -- each trial hands on its scene, the number of the next stamp and the status so far
  induction pkgs generalizing number status t with
  | nil =>
    have hprinted : t.printed ++ printedReports inv test number [] = t.printed := String.append_empty
    refine ⟨t.logs, ?_⟩
    rw [Rig.runEach, hprinted]
    rfl
  | cons pkg rest ih =>
    rw [Rig.uninterrupted, Bool.and_eq_true, Bool.not_eq_true'] at hgoing
    obtain ⟨logs, hfirst⟩ := trials_cons rig inv test number status pkg rest hgoing.1
    let run := rig.run (stepsOf test) pkg t.scene
    let next : Terminal :=
      { t with scene := run.2, printed := t.printed ++ (reportOf test (inv.stamp number) run.1 ++ "\n"), logs }
    obtain ⟨logs', hlater⟩ := ih (number + 1) (statusOnward test status run.1) (t := next) hgoing.2
    have hprinted (later : List Course) : next.printed ++ printedReports inv test (number + 1) later =
        t.printed ++ printedReports inv test number (run.1 :: later) := by
      rw [printedReports_cons, ← String.append_assoc]
    rw [hprinted] at hlater
    exact ⟨logs', hfirst.trans hlater⟩

theorem Run.bind_apply {α β : Type} (x : Run α) (f : α → Run β) (t : Terminal) :
    (x >>= f) t = f (x t).1 (x t).2 := rfl

private theorem Run.inScene_run {α : Type} {f : Scene Bench → α × Scene Bench} {t : Terminal} {a : α}
    {scene : Scene Bench} (h : f t.scene = (a, scene)) :
    ∃ logs, Run.inScene f t = (a, { t with scene, logs }) := by
  have hrun : ∃ logs, Run.inScene f t = ((f t.scene).1, { t with scene := (f t.scene).2, logs }) := ⟨_, rfl⟩
  rwa [h] at hrun

private theorem hangUp_run (w : World) (t : Terminal) : ∃ logs, hangUp w t =
    ((), { t with
      scene.outside := (Session.close (Bench.closeAutomators w t.scene.outside).2).2, logs }) := by
  unfold hangUp
  rw [Run.bind_apply]
  have hclosed : (Run.atBench (Bench.closeAutomators w) t).1 = (Bench.closeAutomators w t.scene.outside).1 := rfl
  rw [hclosed]
  cases (Bench.closeAutomators w t.scene.outside).1 with
  | error fault => exact ⟨_, rfl⟩
  | ok _ => exact ⟨_, rfl⟩

private theorem runTrials_eq (w : World) (c : Connector) (inv : Invocation) (labels : Labels) (session : Session)
    (t : Terminal) {s : Settings} {test : String} {named pkgs : List String}
    (hpkgs : packagesToTest s test named t.scene.outside.files = .ok pkgs) (hsome : pkgs ≠ []) :
    runTrials w c inv s labels test named session t =
      trials (Rig.atBench w c s labels session) inv test 0 0 pkgs t := by
  have hget : (get : Run Terminal) t = (t, t) := rfl
  rw [runTrials, Run.bind_apply, hget, hpkgs]
  cases pkgs with
  | nil => exact absurd rfl hsome
  | cons pkg rest => rfl

def connectorFor (w : World) (adb : Adb) (s : Settings) : Connector :=
  ⟨adb, adb.dialServer w s.monkeyPort, s.timeouts.reconnectDelay⟩

private theorem connectAndRun_run {w : World} {adb : Adb} (inv : Invocation) {s : Settings} {test : String}
    {named : List String} {t : Terminal} {labels : Labels} {session : Session} {connected : Scene Bench}
    {pkgs : List String} (hlabels : Labels.load t.scene.outside.files s.labelsFile = .ok labels)
    (hconnect : (connectorFor w adb s).connect w s.wearSerial t.scene = (.ok session, connected))
    (hpkgs : packagesToTest s test named connected.outside.files = .ok pkgs) (hsome : pkgs ≠ []) :
    ∃ logs,
      let made := trials (Rig.atBench w (connectorFor w adb s) s labels session) inv test 0 0 pkgs
        { t with scene := (session.use connected).2, logs }
      connectAndRun w adb inv s test named t = (made.1, (hangUp w made.2).2) := by
  have hget : (get : Run Terminal) t = (t, t) := rfl
  have huse : session.use connected = (.ok (), (session.use connected).2) := rfl
  obtain ⟨logs, hconnected⟩ := Run.inScene_run hconnect
  obtain ⟨logs', hused⟩ := Run.inScene_run (t := { t with scene := connected, logs }) huse
  have htrials := runTrials_eq w (connectorFor w adb s) inv labels session
    { t with scene := (session.use connected).2, logs := logs' } hpkgs hsome
  refine ⟨logs', ?_⟩
  rw [connectorFor] at hconnected
  rw [connectAndRun, Run.bind_apply, hget, hlabels]
  dsimp only
  rw [Run.bind_apply, hconnected]
  dsimp only
  rw [Run.bind_apply, hused]
  exact congrArg (fun made : Nat × Terminal => (made.1, (hangUp w made.2).2)) htrials

/-- A run that is not interrupted, whose labels can be read and whose watch connects, makes one trial for each
package of its list in order, whatever became of those before, prints one report for each in that order, and ends
the sessions. Its status is two just when some verdict is `leak`, one just when none is and some trial failed, and
zero otherwise; it is told by the set of verdicts alone. From the text of a report that can be written its package
and its verdict can be read. -/
theorem exit_status_of_verdicts (w : World) (adb : Adb) (inv : Invocation) (s : Settings) (test : String)
    (named : List String) (t : Terminal) {labels : Labels} {session : Session} {connected : Scene Bench}
    {pkgs : List String} (hlabels : Labels.load t.scene.outside.files s.labelsFile = .ok labels)
    (hconnect : (connectorFor w adb s).connect w s.wearSerial t.scene = (.ok session, connected))
    (hpkgs : packagesToTest s test named connected.outside.files = .ok pkgs) (hsome : pkgs ≠ [])
    (hgoing : (Rig.atBench w (connectorFor w adb s) s labels session).uninterrupted (stepsOf test) pkgs
      (session.use connected).2 = true) :
    let series := (Rig.atBench w (connectorFor w adb s) s labels session).runEach (stepsOf test) pkgs
      (session.use connected).2
    let verdicts := series.1.map (verdictOf test)
    let run := connectAndRun w adb inv s test named t
    series.1.map Course.pkg = pkgs ∧
    run.2.printed = t.printed ++ printedReports inv test 0 series.1 ∧
    run.2.scene = { series.2 with
      outside := (Session.close (Bench.closeAutomators w series.2.outside).2).2 } ∧
    run.1 = exitStatus verdicts.toFinset ∧
    (run.1 = 2 ↔ .leak ∈ verdicts) ∧
    (run.1 = 1 ↔ .leak ∉ verdicts ∧ ∃ c ∈ series.1, c.outcome.isOk = false) ∧
    (run.1 = 0 ↔ .leak ∉ verdicts ∧ ∀ c ∈ series.1, c.outcome.isOk = true) ∧
    ∀ entry ∈ series.1.zipIdx, summaryOf? (reportOf test (inv.stamp entry.2) entry.1) =
      (inv.stamp entry.2).startedAt.text?.map fun _ => (entry.1.pkg, (verdictOf test entry.1).name) := by
  intro series verdicts run
  obtain ⟨logs, hrun⟩ := connectAndRun_run inv hlabels hconnect hpkgs hsome
  obtain ⟨logs', htrials⟩ := trials_run (Rig.atBench w (connectorFor w adb s) s labels session) inv test 0 0 pkgs
    (t := { t with scene := (session.use connected).2, logs }) hgoing
  obtain ⟨logs'', hhung⟩ := hangUp_run w
    { t with scene := series.2, printed := t.printed ++ printedReports inv test 0 series.1, logs := logs' }
  rw [htrials] at hrun
  dsimp only at hrun
  rw [hhung] at hrun
  have hstatus : run.1 = exitStatus verdicts.toFinset := by
    have hfold := (congrArg Prod.fst hrun).trans (foldl_statusOnward test series.1 0)
    simpa only [exitStatus, List.mem_toFinset, and_true] using hfold
  have hfailed : .setupFailed ∈ verdicts ↔ ∃ c ∈ series.1, c.outcome.isOk = false := by
    simp only [verdicts, List.mem_map, verdictOf_setupFailed_iff]
  have hpassed : .setupFailed ∉ verdicts ↔ ∀ c ∈ series.1, c.outcome.isOk = true := by
    simp [hfailed]
  obtain ⟨htwo, hone, hzero⟩ := exitStatus_iff verdicts.toFinset
  simp only [← hstatus, List.mem_toFinset] at htwo hone hzero
  rw [hfailed] at hone
  rw [hpassed] at hzero
  exact ⟨Rig.runEach_pkgs .., congrArg (fun r => r.2.printed) hrun, congrArg (fun r => r.2.scene) hrun, hstatus,
    htwo, hone, hzero, fun entry _ => reportOf_named test (inv.stamp entry.2) entry.1⟩

/-! A package that leaks, and after it one without a label, twice. -/
namespace LeakThenFailure

def world : World :=
  { GyroLeak.world with
    run := fun past argv =>
      if argv.getLast? = some "size" then { stdout := "Physical size: 320x290" }
      else GyroLeak.world.run past argv }

def settings : Settings := { wearSerial := "w", handheldSerial := "h", labelsFile := "labels" }

def start : Terminal :=
  { scene := { left := 60, outside := { files := Files.empty.put ["labels"] (.file "p,service,L\n".toUTF8) } } }

def connected : Except Fault Session × Scene Bench :=
  (connectorFor world {} settings).connect world "w" start.scene

def session : Session := ⟨"w", ⟨320, 290⟩, some 0, true⟩

def rig : Rig Bench := Rig.atBench world (connectorFor world {} settings) settings ⟨[("p", "L")]⟩ session

def series : List Course × Scene Bench :=
  rig.runEach (stepsOf "sensor") ["p", "q", "q"] (session.use connected.2).2

end LeakThenFailure

open LeakThenFailure in
theorem exit_status_of_verdicts_masked :
    let inv : Invocation := ⟨[], [], fun _ => ⟨"run", .yearOne, 0⟩⟩
    series.1.map Course.pkg = ["p", "q", "q"] ∧
    series.1.map (verdictOf "sensor") = [.leak, .setupFailed, .setupFailed] ∧
    (connectAndRun world {} inv LeakThenFailure.settings "sensor" ["p", "q", "q"] start).1 = 2 := by
  intro inv
  have heval : (Labels.load start.scene.outside.files "labels").toOption = some ⟨[("p", "L")]⟩ ∧
      connected.1.toOption = some LeakThenFailure.session ∧
      rig.uninterrupted (stepsOf "sensor") ["p", "q", "q"] (LeakThenFailure.session.use connected.2).2 = true ∧
      series.1.map (verdictOf "sensor") = [.leak, .setupFailed, .setupFailed] := by
    decide +kernel
  obtain ⟨hlabels, hconnected, hgoing, hverdicts⟩ := heval
  have hconnect : connected = (.ok LeakThenFailure.session, connected.2) :=
    Prod.ext (Act.eq_ok_of_toOption hconnected) rfl
  have hpkgs : packagesToTest LeakThenFailure.settings "sensor" ["p", "q", "q"] connected.2.outside.files =
      .ok ["p", "q", "q"] := if_neg (by decide)
  have hleak : .leak ∈ series.1.map (verdictOf "sensor") := by
    rw [hverdicts]
    decide
  obtain ⟨hmade, -, -, -, htwo, -⟩ := exit_status_of_verdicts world {} inv LeakThenFailure.settings "sensor"
    ["p", "q", "q"] start (Act.eq_ok_of_toOption hlabels) hconnect hpkgs nofun hgoing
  exact ⟨hmade, hverdicts, htwo.mpr hleak⟩

end CommandLine

end WatchTrial
