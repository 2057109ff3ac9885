import WatchTrial.Proofs.Journal
import WatchTrial.Proofs.Snapshots
import WatchTrial.Proofs.Steps
/-!
# What a completed leak trial reports

A leak trial that passes every stage has read the sensors of the watch twice, and nothing else that it did
ran that command. Its report compares the two readings as sets: what is listed as leaked is what the second
has and the first has not.
-/
namespace WatchTrial

theorem Adb.readSensors_ok {w : World} {adb : Adb} {device : String} {b b' : Bench} {s : Snapshot}
    (h : adb.readSensors w device b = (.ok s, b')) :
    ∃ answer, b'.past = b.past ++ [.ran (adb.command device sensorDump) answer] ∧
      s = (Dump.read adb.filter answer.stdout).1 := by
  obtain ⟨output, hrun, rfl⟩ := Act.bind_pure_ok h
  obtain ⟨answer, hpast, hstdout, -⟩ := runChecked_ok w hrun
  exact ⟨answer, hpast, by rw [hstdout]⟩

private theorem Connector.DialsOneLink.noDump {c : Connector} (hdial : c.DialsOneLink) (w : World) (device : String) :
    Rig.BenchWithin w (Bench.Grew fun e =>
      e.answerTo? (c.adb.command device Adb.sensorDump) = none) c := by
  refine hdial.grew w (fun device' args answer hroutine => ?_) fun e he => ?_
  · refine if_neg fun heq => hroutine.ne_sensorDump ?_
    exact (Adb.command_inj hroutine.head_ne (by decide) heq).2
  · cases e with
    | ran argv answer => exact absurd rfl (he argv answer)
    | _ => rfl

/-- The report compares two readings of the sensors as sets, an earlier `B` and a later `A`. Registrations
that were released in between and rows that a reading repeats make no difference. -/
structure LeakReport.Compares (report : LeakReport) (B A : List Registration) : Prop where
  leak_iff : report.verdict = some .leak ↔ ∃ r ∈ A, r ∉ B
  clean_iff : report.verdict = some .clean ↔ ∀ r ∈ A, r ∈ B
  mem_leaks : ∀ r, r ∈ report.leaks ↔ r ∈ A ∧ r ∉ B
  ascending : report.leaks.Pairwise fun r r' =>
    Text.bytes r.listener < Text.bytes r'.listener ∨
      r.listener = r'.listener ∧ Text.bytes r.sensorType < Text.bytes r'.sensorType
  beforeCount : report.beforeCount = Int64.ofNat B.toFinset.card
  afterCount : report.afterCount = Int64.ofNat A.toFinset.card
  same : ∀ rows rows' : List Registration, (∀ r, r ∈ rows' ↔ r ∈ A) → (∀ r ∈ A, r ∈ rows ↔ r ∈ B) →
    report.leaks = ((Snapshot.ofList rows').difference (Snapshot.ofList rows)).elements ∧
    (report.verdict = some .leak ↔ ∃ r ∈ rows', r ∉ rows)

namespace Course

private theorem leaks_size_eq_zero_iff {c : Course} :
    c.leaks.size = 0 ↔ ∀ r ∈ c.draft.after.elements, r ∈ c.draft.before.elements := by
  rw [Snapshot.size_eq_zero_iff]
  simp only [leaks, Snapshot.mem_difference, not_and, not_not]

private theorem leakReport_leaks {c : Course} (h : c.failure = none) :
    c.leakReport.leaks = (c.draft.after.difference c.draft.before).elements := by
  simp [leakReport, h, leaks]

private theorem leak_iff {c : Course} (h : c.failure = none) : c.leakReport.verdict = some .leak ↔
    ∃ r ∈ c.draft.after.elements, r ∉ c.draft.before.elements := by
  have hverdict : c.leakReport.verdict = some .leak ↔ c.leaks.size ≠ 0 := by
    simp only [leakReport, leakVerdict, h]
    split <;> simp_all
  rw [hverdict, ne_eq, leaks_size_eq_zero_iff]
  push Not
  rfl

private theorem clean_iff {c : Course} (h : c.failure = none) : c.leakReport.verdict = some .clean ↔
    ∀ r ∈ c.draft.after.elements, r ∈ c.draft.before.elements := by
  rw [← leaks_size_eq_zero_iff]
  simp only [leakReport, leakVerdict, h]
  split <;> simp_all

private theorem leakReport_compares {c : Course} (h : c.failure = none) :
    c.leakReport.Compares c.draft.before.elements c.draft.after.elements where
  leak_iff := leak_iff h
  clean_iff := clean_iff h
  mem_leaks r := by
    rw [leakReport_leaks h]
    exact Snapshot.mem_difference
  ascending := by
    rw [leakReport_leaks h]
    exact (Snapshot.ascending _).imp Registration.before_iff_bytes.mp
  beforeCount := by simp only [leakReport, Snapshot.size_eq_card]
  afterCount := by simp only [leakReport, Snapshot.size_eq_card]
  same rows rows' hrows' hrows := by
    have hnew (r : Registration) : r ∈ c.draft.after.elements ∧ r ∉ c.draft.before.elements ↔
        r ∈ rows' ∧ r ∉ rows := by
      rw [hrows' r]
      exact and_congr_right fun hr => not_congr (hrows r hr).symm
    constructor
    · rw [leakReport_leaks h]
      refine Snapshot.elements_eq_of_mem_iff fun r => ?_
      rw [Snapshot.mem_difference, Snapshot.mem_difference, Snapshot.mem_ofList, Snapshot.mem_ofList]
      exact hnew r
    · rw [leak_iff h]
      exact exists_congr hnew

end Course

namespace Rig

/-- Steps that do not read the sensors stay within the relation and keep what was read. -/
theorem Within.takeAll {ω : Type} {R : ω → ω → Prop} [IsPreorder ω R] {rig : Rig ω} (hrig : rig.Within R)
    {pkg : String} {steps : List Step} {d d' : Draft} {scene scene' : Scene ω}
    (hsteps : ∀ step ∈ steps, step ≠ .readSensorsBefore ∧ step ≠ .readSensorsAfter)
    (h : rig.takeAll pkg steps d scene = ((d', none), scene')) :
    R scene.outside scene'.outside ∧ d'.before = d.before ∧ d'.after = d.after := by
  induction steps generalizing d scene with
  | nil =>
    cases h
    exact ⟨refl_of R _, rfl, rfl⟩
  | cons step rest ih =>
    obtain ⟨d₁, scene₁, htake, hrest⟩ := takeAll_cons_ok h
    obtain ⟨hbefore, hafter⟩ := hsteps step List.mem_cons_self
    obtain ⟨hR, hkeptBefore, hkeptAfter⟩ := ih (fun s hs => hsteps s (List.mem_cons_of_mem _ hs)) hrest
    have hstep := (hrig.take pkg d hbefore hafter).of_run htake
    have hkept := take_keeps htake hbefore hafter
    exact ⟨trans_of R hstep hR, hkeptBefore.trans hkept.1, hkeptAfter.trans hkept.2⟩

/-- The steps of a leak trial that ended well read the sensors exactly twice, into the two snapshots of the
draft. -/
theorem leakSteps_readings {w : World} {c : Connector} (hdial : c.DialsOneLink) {settings : Settings}
    {labels : Labels} {session : Session} {pkg : String} {scene scene' : Scene Bench} {d : Draft}
    (h : (Rig.atBench w c settings labels session).takeAll pkg leakSteps {} scene = ((d, none), scene')) :
    ∃ events first second, scene'.outside.past = scene.outside.past ++ events ∧
      events.filterMap (Event.answerTo? (c.adb.command settings.wearSerial Adb.sensorDump)) =
        [first, second] ∧
      d.before = (Dump.read c.adb.filter first.stdout).1 ∧
      d.after = (Dump.read c.adb.filter second.stdout).1 := by
  have hrig := (hdial.noDump w settings.wearSerial).atBench settings labels session
  have hsplit : leakSteps = [.checkScript, .clearLog] ++ (.readSensorsBefore ::
      (activationSteps ++ [.playScript, .deselect, .settleDeselection] ++ [.readSensorsAfter])) := rfl
  rw [hsplit] at h
  obtain ⟨d₁, scene₁, hprepare, h⟩ := takeAll_append_ok h
  obtain ⟨d₂, scene₂, hread, h⟩ := takeAll_cons_ok h
  obtain ⟨d₃, scene₃, hact, h⟩ := takeAll_append_ok h
  obtain ⟨d₄, scene₄, hreadAgain, h⟩ := takeAll_cons_ok h
  cases h
  obtain ⟨⟨es₁, hes₁, hno₁⟩, _, _⟩ := hrig.takeAll (by decide) hprepare
  obtain ⟨⟨es₂, hes₂, hno₂⟩, hbefore, _⟩ := hrig.takeAll (by decide) hact
  obtain ⟨s, hfirst, rfl⟩ := Act.bind_pure_ok hread
  obtain ⟨s', hsecond, rfl⟩ := Act.bind_pure_ok hreadAgain
  obtain ⟨first, hpast₂, rfl⟩ := Adb.readSensors_ok (Act.task_run hfirst)
  obtain ⟨second, hpast₄, rfl⟩ := Adb.readSensors_ok (Act.task_run hsecond)
  let dump := Event.ran (c.adb.command settings.wearSerial Adb.sensorDump)
  refine ⟨es₁ ++ [dump first] ++ es₂ ++ [dump second], first, second, ?_, ?_, hbefore, rfl⟩
  · rw [hpast₄, hes₂, hpast₂, hes₁]
    simp only [List.append_assoc, dump]
  · have hanswer (answer : Answer) :
        (dump answer).answerTo? (c.adb.command settings.wearSerial Adb.sensorDump) = some answer :=
      if_pos rfl
    simp only [List.filterMap_append, List.filterMap_eq_nil_iff.mpr hno₁,
      List.filterMap_eq_nil_iff.mpr hno₂, List.filterMap_cons, List.filterMap_nil, hanswer, List.nil_append,
      List.append_nil, List.cons_append]

/-- A leak trial at the bench that passes every stage has read the sensors of the watch exactly twice, and
its report compares the two readings. -/
theorem completed_leak_report (w : World) (c : Connector) (hdial : c.DialsOneLink) (settings : Settings)
    (labels : Labels) (session : Session) (pkg : String) (scene : Scene Bench)
    (hdone : ((Rig.atBench w c settings labels session).runLeak pkg scene).1.2 = .ok ()) :
    let run := (Rig.atBench w c settings labels session).runLeak pkg scene
    ∃ events first second, run.2.outside.past = scene.outside.past ++ events ∧
      events.filterMap (Event.answerTo? (c.adb.command settings.wearSerial Adb.sensorDump)) =
        [first, second] ∧
      run.1.1.Compares (Dump.read c.adb.filter first.stdout).1.elements
        (Dump.read c.adb.filter second.stdout).1.elements := by
  let rig := Rig.atBench w c settings labels session
  let taken := rig.takeAll pkg leakSteps {} scene
  let cleaned := rig.cleanUp pkg taken.2.outside
  let course : Course := ⟨pkg, taken.1.1, taken.1.2, cleaned.1⟩
  have hrun : rig.runLeak pkg scene =
      ((course.leakReport, course.outcome), { taken.2 with outside := cleaned.2 }) := rfl
  have hnone : course.failure = none := Course.outcome_ok_iff.mp (by rw [← hdone, hrun])
  have htaken : rig.takeAll pkg leakSteps {} scene = ((taken.1.1, none), taken.2) :=
    Prod.ext (Prod.ext rfl hnone) rfl
  obtain ⟨events, first, second, hpast, hdumps, hbefore, hafter⟩ := leakSteps_readings hdial htaken
  obtain ⟨rest, hrest, hno⟩ :=
    ((hdial.noDump w settings.wearSerial).atBench settings labels session).cleanUp pkg taken.2.outside
  refine ⟨events ++ rest, first, second, ?_, ?_, ?_⟩
  · rw [hrun]
    change cleaned.2.past = _
    rw [hrest, hpast, List.append_assoc]
  · rw [List.filterMap_append, hdumps, List.filterMap_eq_nil_iff.mpr hno, List.append_nil]
  · rw [← hbefore, ← hafter]
    exact Course.leakReport_compares hnone

end Rig

/-! A watch face that leaves the gyroscope registered, while an older listener lets go of its sensor. -/
namespace GyroLeak

def sensorDump : List String := ["adb", "-s", "w", "shell", "dumpsys", "sensorservice"]

def dumpText (earlier : Nat) : String :=
  "Connection Number: 1\n Operating Mode: NORMAL\n com.x | a\n acc | b\n acc | b\n" ++
    (if earlier = 0 then "old | x\n" else "gyro | b\n")

def world : World where
  finds _ := true
  run past argv :=
    if argv = sensorDump then
      { stdout := dumpText (past.filterMap (Event.answerTo? sensorDump)).length }
    else if argv.getLast? = some "packages" then { stdout := "package:p" }
    else {}
  start _ _ := none
  dial _ _ := none
  write _ _ _ := .arrived "OK\n" "end of file"
  request _ r :=
    if r.path = "/session" then .complete 200 "\x7b\"value\":\x7b\"sessionId\":\"s\"\x7d\x7d"
    else if r.path = "/session/s/elements" then
      .complete 200 "\x7b\"value\":[\x7b\"ELEMENT\":\"e\"\x7d]\x7d"
    else .complete 200 "\x7b\"value\":false\x7d"
  scratch := ""

def session : Session := ⟨"w", ⟨1, 1⟩, some 0, true⟩

def connector : Connector := ⟨{}, Bench.dial world "dial", 1⟩

def rig : Rig Bench :=
  Rig.atBench world connector { wearSerial := "w", handheldSerial := "h" } ⟨[("p", "L")]⟩ session

def scene : Scene Bench := { left := 20, outside := { session := some session } }

end GyroLeak

theorem Rig.completed_leak_report_gyro :
    let run := GyroLeak.rig.runLeak "p" GyroLeak.scene
    (run.1.2 = .ok () ∧ run.1.1.leaks = [⟨"gyro", "com.x"⟩]) ∧
    ∃ events first second, run.2.outside.past = events ∧
      events.filterMap (Event.answerTo? GyroLeak.sensorDump) = [first, second] ∧
      run.1.1.Compares (Dump.read GyroLeak.connector.adb.filter first.stdout).1.elements
        (Dump.read GyroLeak.connector.adb.filter second.stdout).1.elements := by
  intro run
  have heval : run.1.2.toOption = some () ∧ run.1.1.leaks = [⟨"gyro", "com.x"⟩] := by decide +kernel
  have hdone := Act.eq_ok_of_toOption heval.1
  refine ⟨⟨hdone, heval.2⟩, ?_⟩
  exact Rig.completed_leak_report GyroLeak.world GyroLeak.connector (Bench.dial_opensOneLink _ _ _)
    _ _ _ _ _
    hdone

end WatchTrial
