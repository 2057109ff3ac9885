import WatchTrial.Proofs.Retrying
/-!
# The installation of a package

A package is installed unless the device lists it. Whether it is listed, and whether the installation printed a
failure, is read line by line from what the device answered. The listing is asked for once, the installation at most
twice, and only the status of a run makes for another one.
-/
namespace WatchTrial

namespace Answer

/-- A line of the answer names the package, and nothing else but blanks. -/
def Lists (answer : Answer) (pkg : String) : Prop :=
  ∃ line ∈ Text.lines answer.stdout.toList, Text.trimChars line = ("package:" ++ pkg).toList

/-- Every line of the answer is blank or names a package of which this one is a proper part at the start, or the
other way round. -/
def ListsLonger (answer : Answer) (pkg : String) : Prop :=
  ∀ line ∈ Text.lines answer.stdout.toList, Text.trimChars line = [] ∨ ∃ other more : String, more ≠ "" ∧
    (other = pkg ++ more ∨ pkg = other ++ more) ∧ Text.trimChars line = ("package:" ++ other).toList

/-- A line of the answer starts by saying that there was a failure, on either stream. -/
def PrintsFailure (answer : Answer) : Prop :=
  ∃ line ∈ Text.lines answer.stdout.toList ++ Text.lines answer.stderr.toList,
    "Failure".toList <+: Text.trimChars line

private theorem ListsLonger.not_lists {answer : Answer} {pkg : String} (h : answer.ListsLonger pkg) :
    ¬ answer.Lists pkg := by
  rintro ⟨line, hline, hnamed⟩
  rcases h line hline with hblank | ⟨other, more, hmore, hpart, hother⟩
  · simp [hblank] at hnamed
  · have hsame : other = pkg := by
      have hlist := hother.symm.trans hnamed
      rw [String.toList_append, String.toList_append] at hlist
      exact String.toList_inj.mp (List.append_cancel_left hlist)
    have hlonger : pkg = pkg ++ more := by
      rw [hsame] at hpart
      exact hpart.elim id id
    have hnothing := congrArg String.toList hlonger
    rw [String.toList_append, List.self_eq_append_right] at hnothing
    exact hmore (String.toList_inj.mp hnothing)

end Answer

private theorem packageListed_iff (answer : Answer) (pkg : String) :
    packageListed answer.stdout pkg = true ↔ answer.Lists pkg := by
  simp [packageListed, Answer.Lists]

private theorem installFailure?_eq_none_iff (answer : Answer) :
    installFailure? (answer.stdout ++ "\n" ++ answer.stderr) = none ↔ ¬ answer.PrintsFailure := by
  have hlines : Text.lines (answer.stdout ++ "\n" ++ answer.stderr).toList =
      Text.lines answer.stdout.toList ++ Text.lines answer.stderr.toList := by
    rw [← Text.lines_append]
    simp
  rw [installFailure?, hlines, Option.map_eq_none_iff, List.find?_eq_none, Answer.PrintsFailure]
  simp only [List.forall_mem_map, List.isPrefixOf_iff_prefix, not_exists, not_and]

namespace Adb

variable {w : World} {adb : Adb} {device : String} {b b' : Bench}

theorem runChecked_succeeded {args : List String} (h : (w.run b.past (adb.command device args)).Succeeded) :
    (adb.runChecked w device args).output b =
      (.ok (outputOf (adb.command device args) (w.run b.past (adb.command device args))),
        (b.run w (adb.command device args)).2) := by
  rw [Ran.output, runChecked, check_succeeded w h]
  rfl

theorem runChecked_failed {args : List String} (h : ¬ (w.run b.past (adb.command device args)).Succeeded) :
    ∃ fault, (adb.runChecked w device args).output b = (.error fault, (b.run w (adb.command device args)).2) := by
  obtain ⟨fault, hrun⟩ := check_failed w h
  refine ⟨fault, ?_⟩
  rw [Ran.output, runChecked, hrun]
  rfl

private theorem isInstalled_cases (w : World) (adb : Adb) (device pkg : String) (b : Bench) :
    let list := adb.command device ["shell", "pm", "list", "packages"]
    let listing := w.run b.past list
    let asked := adb.isInstalled w device pkg b
    ¬ listing.Succeeded ∧ (∃ fault, asked = (.error fault, (b.run w list).2)) ∨
      listing.Succeeded ∧ listing.Lists pkg ∧ asked = (.ok true, (b.run w list).2) ∨
      listing.Succeeded ∧ ¬ listing.Lists pkg ∧ asked = (.ok false, (b.run w list).2) := by
  intro list listing asked
  by_cases hlisting : listing.Succeeded
  · have hasked : asked = (.ok (packageListed listing.stdout pkg), (b.run w list).2) :=
      Act.bind_ok (runChecked_succeeded hlisting) _
    cases hlisted : packageListed listing.stdout pkg with
    | true => exact .inr (.inl ⟨hlisting, (packageListed_iff listing pkg).mp hlisted, hlisted ▸ hasked⟩)
    | false =>
      refine .inr (.inr ⟨hlisting, fun hlists => ?_, hlisted ▸ hasked⟩)
      rw [(packageListed_iff listing pkg).mpr hlists] at hlisted
      cases hlisted
  · obtain ⟨fault, hfailed⟩ := runChecked_failed hlisting
    exact .inl ⟨hlisting, fault, Act.bind_error hfailed _⟩

/-- A package that is not listed is installed when the last run of the command counts as done and prints no
failure. -/
theorem install_unlisted {pkg : String} (h : adb.isInstalled w device pkg b = (.ok false, b')) (path : String) :
    let argv := adb.command device ["install", path]
    let run := adb.install w device pkg path b
    run.2 = (retry w argv b').2 ∧
    ∃ last ∈ (tries w argv b'.past).getLast?, (run.1 = .ok () ↔ last.Succeeded ∧ ¬ last.PrintsFailure) := by
  intro argv run
  have hretried : run = _ := Act.bind_ok h _
  simp only [Bool.false_eq_true, if_false] at hretried
  rw [hretried]
  obtain ⟨-, last, hlast, houtput, hok⟩ := retry_tries w argv b'
  rcases hrun : retry w argv b' with ⟨⟨output, fault | _⟩, b''⟩ <;> rw [hrun] at houtput hok
  · have herror : (retry w argv).output b' = (.error fault, b'') := by
      rw [Ran.output, hrun]
      rfl
    rw [Act.bind_error herror]
    have hundone : ¬ last.Succeeded := by simpa using hok
    exact ⟨rfl, last, hlast, by simp [hundone]⟩
  · have hdone : (retry w argv).output b' = (.ok output, b'') := by
      rw [Ran.output, hrun]
      rfl
    obtain rfl : output = outputOf argv last := houtput
    have hsucceeded : last.Succeeded := hok.mp rfl
    have hprinted := installFailure?_eq_none_iff last
    rw [Act.bind_ok hdone]
    dsimp only [outputOf]
    cases hfailure : installFailure? (last.stdout ++ "\n" ++ last.stderr) with
    | some line =>
      have hprints : last.PrintsFailure := by simpa [hfailure] using hprinted
      exact ⟨rfl, last, hlast, by simp [hprints]⟩
    | none => exact ⟨rfl, last, hlast, by simp [hsucceeded, hprinted.mp hfailure]⟩

/-- A device is asked for its packages, and then runs at most two installations. Which of them it runs and how the
installation ends hang on the status of each run, the packages that are listed, and the lines of the last run. -/
theorem installed_by_at_most_two_runs (w : World) (adb : Adb) (device pkg path : String) (b : Bench) :
    let list := adb.command device ["shell", "pm", "list", "packages"]
    let install := adb.command device ["install", path]
    let listing := w.run b.past list
    let first := w.run (b.past ++ [.ran list listing]) install
    let second := w.run (b.past ++ [.ran list listing, .ran install first]) install
    let run := adb.install w device pkg path b
    ∃ installs, installs <+: [first, second] ∧
      run.2.past = b.past ++ .ran list listing :: installs.map (.ran install) ∧
      (installs.length = 0 ↔ ¬ listing.Succeeded ∨ listing.Lists pkg) ∧
      (installs.length = 2 ↔ ∃ answer ∈ installs.head?, ¬ answer.Succeeded) ∧
      (run.1 = .ok () ↔ listing.Succeeded ∧ listing.Lists pkg ∨
        ∃ last ∈ installs.getLast?, last.Succeeded ∧ ¬ last.PrintsFailure) ∧
      (∀ fault, run.1 = .error fault → fault.carries .commandFailed = true) ∧
      (listing.Succeeded → listing.ListsLonger pkg → installs ≠ []) ∧
      (installs ≠ [] → first.Succeeded → first.PrintsFailure →
        installs = [first] ∧ ∃ fault, run.1 = .error fault) := by
  intro list install listing first second run
  have hfaults (fault : Fault) (hfault : run.1 = .error fault) : fault.carries .commandFailed = true :=
    (install_raises pkg path b fault hfault).carries
  obtain ⟨hlisting, fault, hasked⟩ | ⟨hlisting, hlists, hasked⟩ | ⟨hlisting, hlists, hasked⟩ :
    ¬ listing.Succeeded ∧ _ ∨ listing.Succeeded ∧ listing.Lists pkg ∧ _ ∨
      listing.Succeeded ∧ ¬ listing.Lists pkg ∧ _ := isInstalled_cases w adb device pkg b
  · have hrun : run = (.error fault, (b.run w list).2) := Act.bind_error hasked _
    refine ⟨[], List.nil_prefix, by rw [hrun]; rfl, ?_, ?_, ?_, hfaults, ?_, ?_⟩ <;> simp [hrun, hlisting]
  · have hrun : run = (.ok (), (b.run w list).2) := Act.bind_ok hasked _
    exact ⟨[], List.nil_prefix, by rw [hrun]; rfl, by simp [hlists], by simp, by simp [hrun, hlisting, hlists],
      hfaults, fun _ hlonger => absurd hlists hlonger.not_lists, by simp⟩
  · obtain ⟨hbench, last, hlast, hok⟩ : run.2 = _ ∧ ∃ last ∈ _, (run.1 = .ok () ↔ _) := install_unlisted hasked path
    obtain ⟨hpast, -⟩ := retry_tries w install (b.run w list).2
    rw [← hbench] at hpast
    obtain ⟨hfirst, htries⟩ | ⟨hfirst, htries⟩ : first.Succeeded ∧ _ = [first] ∨ ¬ first.Succeeded ∧ _ :=
      tries_cases w install (b.run w list).2.past
    · rw [htries] at hlast hpast
      obtain rfl : first = last := Option.some.inj hlast
      refine ⟨[first], ⟨[second], rfl⟩, hpast.trans (List.append_assoc ..), by simp [hlisting, hlists],
        by simp [hfirst], by simp [hlists, hok], hfaults, by simp, fun _ _ hprints => ⟨rfl, ?_⟩⟩
      cases hrun : run.1 with
      | error fault => exact ⟨fault, rfl⟩
      | ok => exact absurd hprints (hok.mp hrun).2
    · have hsecond : w.run ((b.run w list).2.past ++ [.ran install first]) install = second :=
        congrArg (w.run · install) (List.append_assoc b.past [_] [_])
      have htries : _ = [first, second] := htries.trans (congrArg ([first, ·]) hsecond)
      rw [htries] at hlast hpast
      obtain rfl : second = last := Option.some.inj hlast
      exact ⟨[first, second], List.prefix_rfl, hpast.trans (List.append_assoc ..), by simp [hlisting, hlists],
        by simp [hfirst], by simp [hlists, hok], hfaults, by simp, fun _ hsucceeded => absurd hsucceeded hfirst⟩

end Adb

end WatchTrial
