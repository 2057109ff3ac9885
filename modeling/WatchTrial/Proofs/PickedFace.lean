import Mathlib
import WatchTrial.Proofs.AutomationRequests
import WatchTrial.Proofs.Leaks
import WatchTrial.Proofs.Verdicts
/-!
# The element that a leak trial clicks

A leak trial with a verdict has clicked the first element that was found for the label of the package. What
is searched for is a text that starts with the label, without its backslashes. When nothing is left of the
label then, the search is for any element at all.
-/
namespace WatchTrial

private theorem plainLabel_eq_empty_iff {label : String} : plainLabel label = "" ↔ ∀ c ∈ label.toList, c = '\\' := by
  rw [plainLabel, String.ofList_eq_empty_iff, List.filter_eq_nil_iff]
  simp

private theorem Selector.call_empty (method : String) : call method "" = "" := if_pos rfl

private theorem watchFaceTarget_expression (label : String) : (watchFaceTarget label).expression =
    if label = "" then "new UiSelector()"
    else "new UiSelector().textStartsWith(" ++ Text.quote label ++ ")" := by
  have hjoin : "new UiSelector()" ++ "." ++ "textStartsWith" ++ "(" = "new UiSelector().textStartsWith(" := by
    decide +kernel
  unfold watchFaceTarget Selector.expression
  dsimp only
  rw [Selector.call_empty, Selector.call_empty, Selector.call_empty, Selector.call_empty, if_neg nofun]
  rw [String.append_empty, String.append_empty, String.append_empty, String.append_empty, String.append_empty]
  rw [Selector.call]
  split
  · exact String.append_empty
  · rw [← hjoin, ← String.append_assoc, ← String.append_assoc, ← String.append_assoc, ← String.append_assoc]

/-- The events are a search of an automator for what a selector means, and a click on the first element that
was found. -/
def Automator.ClicksFirst (a : Automator) (s : Selector) (events : List Event) : Prop :=
  ∃ search status found element rest click response,
    events = [.requested search (.complete status found), .requested click response] ∧
    search.Asks a.server "POST" (a.path "/elements")
      (some (.object [("using", .string "-android uiautomator"), ("value", .string s.expression)])) ∧
    Reply.elements? found = some (element :: rest) ∧
    click.Asks a.server "POST" (a.path ("/element/" ++ element ++ "/click")) (some (.object []))

private theorem Automator.click_ok {w : World} {a : Automator} {s : Selector} {b b' : Bench} {x : Unit}
    (h : a.click w s b = (.ok x, b')) : ∃ events, b'.past = b.past ++ events ∧ a.ClicksFirst s events := by
  obtain ⟨element, b₁, hfirst, hclick⟩ := Act.of_bind_ok h
  obtain ⟨elements, b₂, hfind, hhead⟩ := Act.of_bind_ok hfirst
  obtain ⟨search, status, found, hsearch, -, hfound, rfl⟩ := query_ok hfind
  obtain ⟨text, b₃, hask, hrest⟩ := Act.of_bind_ok hclick
  obtain ⟨click, status', hasks, -, rfl⟩ := ask_ok hask
  cases elements with
  | nil => cases hhead
  | cons first rest =>
    cases hhead
    cases hrest
    have hpast : ((b.note (.requested search (.complete status found))).note
        (.requested click (.complete status' text))).past =
        b.past ++ [.requested search (.complete status found), .requested click (.complete status' text)] := by
      simp [Bench.note]
    exact ⟨_, hpast, search, status, found, element, rest, click, _, rfl, hsearch, hfound, hasks⟩

namespace Handheld

section Succeeded

variable {ω α β : Type} {R : ω → ω → Prop} [IsPreorder ω R] {h : Handheld ω α}
  (hh : h.MadeOf fun _ a => a.Within R)
include hh

/-- What was done with an automator in the end was done with one of them. -/
theorem automate_ok {device doing : String} {f : α → Act ω β} (hf : ∀ a, (f a).Within R) {o o' : ω} {x : β}
    (hrun : h.automate device doing f o = (.ok x, o')) : ∃ a o₁, R o o₁ ∧ f a o₁ = (.ok x, o') := by
  have hattempt : (h.automator device >>= fun a => h.orDrop device (f a)).Within R :=
    .bind (hh.automator .within device) fun a => hh.orDrop device (hf a)
  obtain ⟨o₁, hfirst, hsecond⟩ := hattempt.retryOnce_ok hrun
  obtain ⟨a, o₂, hautomator, hused⟩ := Act.of_bind_ok hsecond
  refine ⟨a, o₂, trans_of R hfirst ((hh.automator .within device).of_run hautomator), ?_⟩
  unfold orDrop at hused
  split at hused
  next hdone => exact hdone.trans hused
  next => cases hused

private theorem pick_ok {device label : String} {o o' : ω} {x : Unit} (hrun : h.pick device label o = (.ok x, o')) :
    ∃ a o₁, R o o₁ ∧ h.click a (watchFaceTarget label) o₁ = (.ok x, o') := by
  have htried := hh.tried .within
  obtain ⟨_, o₁, hend, hrun⟩ := Act.of_bind_ok hrun
  obtain ⟨_, o₂, hscroll, hrun⟩ := Act.of_bind_ok hrun
  obtain ⟨a, o₃, hbefore, hclick⟩ := automate_ok hh (fun a => hh.click a _) hrun
  have hscrolled : R o o₂ :=
    trans_of R ((htried.scrollToEnd device _ _).of_run hend) ((htried.scrollTo device _ _ _).of_run hscroll)
  exact ⟨a, o₃, trans_of R hscrolled hbefore, hclick⟩

private theorem select_ok [Sleeper ω] (hslept : ∀ d o, R o (Sleeper.slept d o)) {timeouts : Timeouts}
    {device label : String} {scene scene' : Scene ω} {x : Unit}
    (hrun : h.select timeouts device label scene = (.ok x, scene')) :
    ∃ a o, R scene.outside o ∧ h.click a (watchFaceTarget (plainLabel label)) o = (.ok x, scene'.outside) := by
  obtain ⟨_, scene₁, hwake, hrun⟩ := Act.of_bind_ok hrun
  obtain ⟨_, scene₂, hlook, hrun⟩ := Act.of_bind_ok hrun
  obtain ⟨a, o, hbefore, hclick⟩ := pick_ok hh (Act.task_run hrun)
  have hwoken : Scene.Via R scene scene₁ :=
    (Act.Within.task (.retryOnce _ (hh.pressKey device _))).of_run hwake
  have hlooked : Scene.Via R scene₁ scene₂ :=
    (Act.Within.poll hslept (fun _ => hh.lookForList .within device) _).of_run hlook
  exact ⟨a, o, trans_of R (trans_of (Scene.Via R) hwoken hlooked) hbefore, hclick⟩

end Succeeded

end Handheld

namespace Rig

/-- A leak trial with a verdict took all its steps and cleaned up. -/
theorem runLeak_verdict {ω : Type} {rig : Rig ω} {pkg : String} {scene : Scene ω}
    (h : (rig.runLeak pkg scene).1.1.verdict ∈ [some .clean, some .leak]) :
    ∃ d scene', rig.takeAll pkg leakSteps {} scene = ((d, none), scene') ∧
      (rig.runLeak pkg scene).2.outside = (rig.cleanUp pkg scene'.outside).2 := by
  rcases htaken : rig.takeAll pkg leakSteps {} scene with ⟨⟨d, failure⟩, scene'⟩
  have hrun : rig.runLeak pkg scene =
      (((⟨pkg, d, failure, (rig.cleanUp pkg scene'.outside).1⟩ : Course).leakReport,
        (⟨pkg, d, failure, (rig.cleanUp pkg scene'.outside).1⟩ : Course).outcome),
        { scene' with outside := (rig.cleanUp pkg scene'.outside).2 }) := by
    unfold runLeak run
    rw [htaken]
  rw [hrun] at h ⊢
  have hnone : failure = none := by
    by_contra hfailed
    rw [(Course.setupFailed_iff _).mpr hfailed] at h
    simp at h
  exact ⟨d, scene', by rw [hnone], rfl⟩

variable {w : World} {c : Connector} (hdial : c.DialsOneLink) {settings : Settings} {labels : Labels}
  {session : Session} {pkg : String} {scene scene' : Scene Bench} {d d' : Draft}
include hdial

omit hdial in
private theorem take_findLabel_ok
    (h : (Rig.atBench w c settings labels session).take pkg d .findLabel scene = (.ok d', scene')) :
    labels.find? pkg = some d'.label := by
  obtain ⟨label, hfound, rfl⟩ := Act.bind_pure_ok h
  have hlookup : labels.lookup pkg = .ok label := congrArg Prod.fst (Act.task_run hfound)
  unfold Labels.lookup at hlookup
  split at hlookup
  next hfind => exact hfind.trans (congrArg some (Except.ok.inj hlookup))
  next => cases hlookup

private theorem take_select_ok
    (h : (Rig.atBench w c settings labels session).take pkg d .select scene = (.ok d', scene')) :
    ∃ earlier a clicked, scene'.outside.past = scene.outside.past ++ earlier ++ clicked ∧
      Automator.ClicksFirst a (watchFaceTarget (plainLabel d.label)) clicked := by
  obtain ⟨_, hselect, -⟩ := Act.bind_pure_ok h
  have hbench : BenchWithin w (Bench.Grew fun _ => True) c :=
    hdial.grew w (fun _ _ _ _ => trivial) fun _ _ => trivial
  have hhandheld := Handheld.atBench_within c.adb hbench.key hbench.launch hbench.request hbench.hold
    settings.appiumUrl (Player.perform ⟨session.watch w c, settings.timeouts⟩ .swipeLeft)
  obtain ⟨a, b, ⟨earlier, hearlier, -⟩, hclick⟩ :=
    Handheld.select_ok hhandheld hbench.connector.slept hselect
  obtain ⟨clicked, hpast, hclicks⟩ := Automator.click_ok hclick
  exact ⟨earlier, a, clicked, by rw [hpast, hearlier], hclicks⟩

private theorem takeAll_wakes_ok (h : (Rig.atBench w c settings labels session).takeAll pkg
      [.wake, .settleSelection, .wakeAgain] d scene = ((d', none), scene')) :
    Bench.Grew (fun e => e.isRequest = false) scene.outside scene'.outside := by
  have hc : c.Within w (Bench.Grew fun e => e.isRequest = false) := by
    refine hdial.connector_grew w (fun _ _ _ _ => rfl) fun e _ hne => ?_
    cases e with
    | requested request response => exact absurd rfl (hne request response)
    | _ => rfl
  have hwake : Act.Within (Scene.Via (Bench.Grew fun e => e.isRequest = false))
      (Rig.atBench w c settings labels session).wake := hc.send .wake
  obtain ⟨d₁, scene₁, htake₁, h⟩ := takeAll_cons_ok h
  obtain ⟨d₂, scene₂, htake₂, h⟩ := takeAll_cons_ok h
  obtain ⟨d₃, scene₃, htake₃, h⟩ := takeAll_cons_ok h
  cases h
  obtain ⟨_, hwoken, -⟩ := Act.bind_pure_ok htake₁
  obtain ⟨_, hpaused, -⟩ := Act.bind_pure_ok htake₂
  obtain ⟨_, hwokenAgain, -⟩ := Act.bind_pure_ok htake₃
  have hsettled : Scene.Via (Bench.Grew fun e => e.isRequest = false) scene scene₂ :=
    trans_of _ (hwake.of_run hwoken) ((Act.Within.pause hc.slept _).of_run hpaused)
  exact trans_of _ hsettled (hwake.of_run hwokenAgain)

/-- After the watch face is selected, a leak trial only adds to the past. -/
theorem takeAll_afterwards_ok (h : (Rig.atBench w c settings labels session).takeAll pkg
      ([.playScript, .deselect, .settleDeselection] ++ [.readSensorsAfter]) d scene = ((d', none), scene')) :
    scene.outside.past <+: scene'.outside.past := by
  have hrig := (hdial.grew w (P := fun _ => True) (fun _ _ _ _ => trivial) fun _ _ => trivial).atBench
    settings labels session
  obtain ⟨d₁, scene₁, hact, h⟩ := takeAll_append_ok h
  obtain ⟨d₂, scene₂, hread, h⟩ := takeAll_cons_ok h
  cases h
  obtain ⟨⟨events, hevents, -⟩, -, -⟩ := hrig.takeAll (by decide) hact
  obtain ⟨_, hreading, -⟩ := Act.bind_pure_ok hread
  obtain ⟨answer, hpast, -⟩ := Adb.readSensors_ok (Act.task_run hreading)
  rw [hpast, hevents, List.append_assoc]
  exact List.prefix_append _ _

end Rig

/-- A leak trial that ends with a verdict has looked up the label of the package. The last request of its
selecting stage is a click on the first element that the search before it found, and what that search asked
for is a text that starts with the label, without its backslashes. Only if the label has nothing but
backslashes, it asked for any element at all. -/
theorem Rig.leak_trial_clicks_label (w : World) (c : Connector) (hdial : c.DialsOneLink) (settings : Settings)
    (labels : Labels) (session : Session) (pkg : String) (scene : Scene Bench)
    (hverdict : ((Rig.atBench w c settings labels session).runLeak pkg scene).1.1.verdict ∈
      [some .clean, some .leak]) :
    let rig := Rig.atBench w c settings labels session
    ∃ label selecting activated, labels.find? pkg = some label ∧
      -- the scenes before the watch face is selected, and at the end of the selecting stage
      (∃ d, rig.takeAll pkg (leakSteps.take 8) {} scene = ((d, none), selecting)) ∧
      (∃ d, rig.takeAll pkg (leakSteps.take 12) {} scene = ((d, none), activated)) ∧
      activated.outside.past <+: (rig.runLeak pkg scene).2.outside.past ∧
      (∃ earlier a clicked later, activated.outside.past = selecting.outside.past ++ earlier ++ clicked ++ later ∧
        Automator.ClicksFirst a (watchFaceTarget (plainLabel label)) clicked ∧
        ∀ e ∈ later, e.isRequest = false) ∧
      (watchFaceTarget (plainLabel label)).expression =
        if ∀ ch ∈ label.toList, ch = '\\' then "new UiSelector()"
        else "new UiSelector().textStartsWith(" ++ Text.quote (plainLabel label) ++ ")" := by
  intro rig
  obtain ⟨d, done, htaken, hcleaned⟩ := runLeak_verdict hverdict
  have hsplit : leakSteps = leakSteps.take 12 ++
      ([.playScript, .deselect, .settleDeselection] ++ [.readSensorsAfter]) := rfl
  have hselection : leakSteps.take 12 = leakSteps.take 8 ++ (.select :: [.wake, .settleSelection, .wakeAgain]) := rfl
  have hfinding : leakSteps.take 8 = leakSteps.take 7 ++ [.findLabel] := rfl
  rw [hsplit] at htaken
  obtain ⟨d₄, activated, hactivated, hlater⟩ := takeAll_append_ok htaken
  have hstage := hactivated
  rw [hselection] at hstage
  obtain ⟨d₂, selecting, hselecting, hstage⟩ := takeAll_append_ok hstage
  obtain ⟨d₃, selected, hselect, hwakes⟩ := takeAll_cons_ok hstage
  have hprepared := hselecting
  rw [hfinding] at hprepared
  obtain ⟨d₁, prepared, -, hfind⟩ := takeAll_append_ok hprepared
  obtain ⟨_, _, hfind, hend⟩ := takeAll_cons_ok hfind
  cases hend
  refine ⟨d₂.label, selecting, activated, take_findLabel_ok hfind, ⟨d₂, hselecting⟩, ⟨d₄, hactivated⟩,
    ?_, ?_, ?_⟩
  · obtain ⟨rest, hrest, -⟩ := ((hdial.grew w (P := fun _ => True) (fun _ _ _ _ => trivial)
      fun _ _ => trivial).atBench settings labels session).cleanUp pkg done.outside
    rw [hcleaned]
    exact (takeAll_afterwards_ok hdial hlater).trans ⟨rest, hrest.symm⟩
  · obtain ⟨earlier, a, clicked, hpast, hclicks⟩ := take_select_ok hdial hselect
    obtain ⟨later, hpast', hquiet⟩ := takeAll_wakes_ok hdial hwakes
    exact ⟨earlier, a, clicked, later, by rw [hpast', hpast], hclicks, hquiet⟩
  · rw [watchFaceTarget_expression]
    simp only [plainLabel_eq_empty_iff]

theorem Rig.leak_trial_clicks_label_gyro :
    ∃ selecting activated, (∃ d, GyroLeak.rig.takeAll "p" (leakSteps.take 8) {} GyroLeak.scene =
        ((d, none), selecting)) ∧
      ∃ earlier a clicked later, activated = selecting.outside.past ++ earlier ++ clicked ++ later ∧
        Automator.ClicksFirst a (watchFaceTarget "L") clicked ∧ ∀ e ∈ later, e.isRequest = false := by
  have hverdict : (GyroLeak.rig.runLeak "p" GyroLeak.scene).1.1.verdict ∈ [some .clean, some .leak] := by
    decide +kernel
  have hplain : plainLabel "L" = "L" := by decide +kernel
  obtain ⟨label, selecting, activated, hlabel, hselecting, -, -, hclicked, -⟩ :=
    Rig.leak_trial_clicks_label GyroLeak.world GyroLeak.connector (Bench.dial_opensOneLink _ _ _)
      { wearSerial := "w", handheldSerial := "h" } ⟨[("p", "L")]⟩ GyroLeak.session "p" GyroLeak.scene hverdict
  obtain rfl : "L" = label := Option.some.inj hlabel
  rw [hplain] at hclicked
  exact ⟨selecting, activated.outside.past, hselecting, hclicked⟩

/-! A label table that gives one package an empty label and another one a backslash. -/
namespace BlankLabel

def rig : Rig Bench :=
  Rig.atBench GyroLeak.world GyroLeak.connector { wearSerial := "w", handheldSerial := "h" }
    (Labels.read "p,service,\nq,service,\\\n") GyroLeak.session

def asked? : Event → Option (String × Option String)
  | .requested ⟨_, _, path, some (.object [_, (_, .string expression)])⟩ _ => some (path, some expression)
  | .requested ⟨_, _, path, _⟩ _ => some (path, none)
  | _ => none

def lastAsked (pkg : String) : List (String × Option String) :=
  let asked := (rig.takeAll pkg (leakSteps.take 12) {} GyroLeak.scene).2.outside.past.filterMap asked?
  asked.drop (asked.length - 2)

end BlankLabel

theorem Rig.leak_trial_clicks_anything :
    ((BlankLabel.rig.runLeak "p" GyroLeak.scene).1.1.verdict = some .leak ∧
      BlankLabel.lastAsked "p" =
        [("/session/s/elements", some "new UiSelector()"), ("/session/s/element/e/click", none)]) ∧
    (BlankLabel.rig.runLeak "q" GyroLeak.scene).1.1.verdict = some .leak ∧
      BlankLabel.lastAsked "q" =
        [("/session/s/elements", some "new UiSelector()"), ("/session/s/element/e/click", none)] := by
  decide +kernel

end WatchTrial
