import Mathlib.Data.List.Induction
import WatchTrial.CommandLine.Program
import WatchTrial.Proofs.GivenFlags
/-!
# The settings that a run has in the end

Six settings can be given in four places: by a flag, by a variable, in the settings file, or not at all. A flag counts
more than a variable, and a variable more than the file. All other settings are those that were loaded. The port is the
one exception: a variable for it that is set takes the loaded port away even when it holds no number.
-/
namespace WatchTrial.CommandLine

open WatchTrial.CommandLine.Flag (giveAll valuesOf Gives readAll)

namespace Options

variable {value : String → String} {f : Flag Options} {v : String} {o o' : Options} {c : Command}
  {givings : List (Giving Options)}

def number? (v : String) : Option Int64 := (Text.Literal.read v.toList).toOption

def items (v : String) : List String := (itemsOf v).toOption.getD []

/-- What a flag of this name and value does to the options that settings have too, and to the place of the settings
file. Any other flag leaves them as they are. -/
inductive Sets (v : String) (o : Options) : String → Options → Prop
  | configFile : Sets v o "config" { o with configFile := v }
  | adbPath : Sets v o "adb" { o with adbPath := v }
  | wearSerial : Sets v o "wear-serial" { o with wearSerial := v }
  | handheldSerial : Sets v o "handheld-serial" { o with handheldSerial := v }
  | appiumUrl : Sets v o "appium-url" { o with appiumUrl := v }
  | monkeyPort {n : Int64} (h : number? v = some n) : Sets v o "monkey-port" { o with monkeyPort := n }
  | script : Sets v o "script"
      { o with script := some (if o.scriptGiven then o.script.getD [] ++ items v else items v), scriptGiven := true }
  | other {name : String} {o' : Options}
      (hname : name ∉ ["config", "adb", "wear-serial", "handheld-serial", "appium-url", "monkey-port", "script"])
      (h : o' = { o with
        test := o'.test, connect := o'.connect, disconnect := o'.disconnect, listDevices := o'.listDevices,
        listEvents := o'.listEvents, quiet := o'.quiet, debug := o'.debug, help := o'.help }) : Sets v o name o'

private theorem eq_of_setText {put : String → Options → Options} (h : setText put v o = .ok o') : o' = put v o :=
  (Except.ok.inj h).symm

private theorem eq_of_setNumber {put : Int64 → Options → Options} (h : setNumber put v o = .ok o') :
    ∃ n, number? v = some n ∧ o' = put n o := by
  unfold setNumber at h
  split at h
  next n hread => exact ⟨n, by rw [number?, hread]; rfl, (Except.ok.inj h).symm⟩
  next => cases h

private theorem eq_of_setSwitch {put : Bool → Options → Options} (h : setSwitch put v o = .ok o') :
    ∃ b, o' = put b o := by
  unfold setSwitch at h
  split at h
  next b hread => exact ⟨b, (Except.ok.inj h).symm⟩
  next => cases h

private theorem eq_of_setScript (h : setScript v o = .ok o') : o' = { o with
    script := some (if o.scriptGiven then o.script.getD [] ++ items v else items v), scriptGiven := true } := by
  unfold setScript at h
  cases hitems : itemsOf v with
  | ok found =>
    rw [hitems] at h
    rw [items, hitems]
    exact (Except.ok.inj h).symm
  | error why =>
    rw [hitems] at h
    cases h

private theorem mem_flags (h : f ∈ c.flags value) : f ∈ commonFlags value ∨ f ∈ c.ownFlags := by
  unfold Command.flags at h
  split at h
  next =>
    rcases Flag.mem_insert.mp h with rfl | h
    · exact .inr List.mem_cons_self
    · exact .inl h
  next => exact List.mem_append.mp h

private theorem sets_of_text {put : String → Options → Options} {name : String} (hset : Sets v o name (put v o))
    (h : setText put v o = .ok o') : Sets v o name o' := by
  rwa [eq_of_setText h]

private theorem sets_of_switch {put : Bool → Options → Options} {name : String} (hset : ∀ b, Sets v o name (put b o))
    (h : setSwitch put v o = .ok o') : Sets v o name o' := by
  obtain ⟨b, rfl⟩ := eq_of_setSwitch h
  exact hset b

private theorem sets_of_commonFlag (hf : f ∈ commonFlags value) (h : f.set v o = .ok o') : Sets v o f.name o' := by
  simp only [commonFlags, List.mem_cons, List.not_mem_nil, or_false] at hf
  rcases hf with rfl | rfl | rfl | rfl | rfl | rfl | rfl | rfl | rfl | rfl | rfl | rfl | rfl | rfl
  all_goals dsimp only at h ⊢
  · exact sets_of_text .adbPath h
  · exact sets_of_text .appiumUrl h
  · exact sets_of_text .configFile h
  · exact sets_of_text (.other (by decide) rfl) h
  · exact sets_of_switch (fun b => .other (by decide) rfl) h
  · exact sets_of_text (.other (by decide) rfl) h
  · exact sets_of_text .handheldSerial h
  · exact sets_of_switch (fun b => .other (by decide) rfl) h
  · exact sets_of_switch (fun b => .other (by decide) rfl) h
  · obtain ⟨n, hn, rfl⟩ := eq_of_setNumber h
    exact .monkeyPort hn
  · exact sets_of_switch (fun b => .other (by decide) rfl) h
  · exact eq_of_setScript h ▸ .script
  · exact sets_of_text (.other (by decide) rfl) h
  · exact sets_of_text .wearSerial h

/-- The flags of every command do what their names say, and nothing else. -/
theorem sets_of_flag (hf : f ∈ c.flags value) (h : f.set v o = .ok o') : Sets v o f.name o' := by
  rcases mem_flags hf with hf | hf
  · exact sets_of_commonFlag hf h
  · rcases List.mem_cons.mp hf with rfl | hf
    · dsimp only [helpFlag] at h ⊢
      exact sets_of_switch (fun b => .other (by decide) rfl) h
    · cases c with
      | script shell =>
        obtain rfl := List.mem_singleton.mp hf
        dsimp only at h ⊢
        exact sets_of_switch (fun b => .other (by decide) rfl) h
      | main | suggest | completion => cases hf

/-- What the options hold after flags were given: of a text or a number the last value, and of the script all items. -/
structure Holds (start : Options) (givings : List (Giving Options)) (o : Options) : Prop where
  configFile : o.configFile = (valuesOf givings "config").getLast?.getD start.configFile
  adbPath : o.adbPath = (valuesOf givings "adb").getLast?.getD start.adbPath
  wearSerial : o.wearSerial = (valuesOf givings "wear-serial").getLast?.getD start.wearSerial
  handheldSerial : o.handheldSerial = (valuesOf givings "handheld-serial").getLast?.getD start.handheldSerial
  appiumUrl : o.appiumUrl = (valuesOf givings "appium-url").getLast?.getD start.appiumUrl
  monkeyPort : (valuesOf givings "monkey-port").getLast?.elim (some start.monkeyPort) number? = some o.monkeyPort
  script : o.script = if valuesOf givings "script" = [] then start.script
    else some ((valuesOf givings "script").flatMap items)
  scriptGiven : o.scriptGiven = ! (valuesOf givings "script").isEmpty

private theorem valuesOf_concat (givings : List (Giving Options)) (f : Flag Options) (v name : String) :
    valuesOf (givings ++ [⟨f, v⟩]) name = valuesOf givings name ++ if f.name = name then [v] else [] := by
  by_cases hname : f.name = name <;> simp [valuesOf, hname]

theorem Holds.step {start : Options} (h : Holds start givings o) (hset : Sets v o f.name o') :
    Holds start (givings ++ [⟨f, v⟩]) o' := by
  have hvalues := valuesOf_concat givings f v
  obtain ⟨hconfigFile, hadbPath, hwearSerial, hhandheldSerial, happiumUrl, hmonkeyPort, hscript, hgiven⟩ := h
  generalize hname : f.name = name at hset
  cases hset with
  | script =>
    constructor
    case script => by_cases hnone : valuesOf givings "script" = [] <;> simp [*]
    all_goals simp [*]
  | other hother hsame =>
    simp only [List.mem_cons, List.not_mem_nil, or_false, not_or] at hother
    rw [hsame]
    constructor <;> simp [*]
  | _ => constructor <;> simp [*]

private theorem holds_of_giveAll {start : Options} (hstart : start.scriptGiven = false)
    (hknown : ∀ g ∈ givings, g.flag ∈ c.flags value) (h : giveAll givings start = .ok o) : Holds start givings o := by
  -- the last flag changes what the ones before have set
  induction givings using List.reverseRecOn generalizing o with
  | nil =>
    obtain rfl := Except.ok.inj h
    constructor <;> simp [valuesOf, hstart]
  | append_singleton givings g ih =>
    obtain ⟨middle, hmiddle⟩ := Flag.exists_of_giveAll_append h
    rw [Flag.giveAll_append hmiddle] at h
    obtain ⟨last, hset, hlast⟩ := Flag.exists_of_giveAll_cons h
    obtain rfl := Except.ok.inj hlast
    have hbefore := ih (fun g hg => hknown g (List.mem_append_left _ hg)) hmiddle
    exact hbefore.step (sets_of_flag (hknown g (by simp)) hset)

end Options

section Layers

open Options (Holds number? items itemsIn initial variableOr overrides)

variable {value : String → String} {givings : List (Giving Options)} {r : Reading Options}

def usable? (v : String) : Option String := if v = "" then none else some v

def decimal? (v : String) : Option Int64 := (Text.readInt64 v.toList).toOption

/-- The items given to the flag for the script, if it was given. -/
def scriptItems? (givings : List (Giving Options)) : Option (List String) :=
  if valuesOf givings "script" = [] then none else some ((valuesOf givings "script").flatMap items)

/-- Settings that were loaded, under the variables, and these under the flags. -/
def layered (value : String → String) (givings : List (Giving Options)) (s : Settings) : Settings :=
  let text (flag variableName loaded : String) : String :=
    ((valuesOf givings flag).getLast?.or (usable? (value variableName))).getD loaded
  { s with
    adbPath := text "adb" "WEARPROBE_ADB" s.adbPath
    wearSerial := text "wear-serial" "WEARPROBE_WEAR_SERIAL" s.wearSerial
    handheldSerial := text "handheld-serial" "WEARPROBE_HANDHELD_SERIAL" s.handheldSerial
    monkeyPort := (((valuesOf givings "monkey-port").getLast?.bind number?).or
      (decimal? (value "WEARPROBE_MONKEY_PORT"))).getD s.monkeyPort
    appiumUrl := text "appium-url" "WEARPROBE_APPIUM_URL" s.appiumUrl
    script := ((scriptItems? givings).or (itemsIn value "WEARPROBE_SCRIPT")).or s.script }

/-- The settings of a run with these flags. A variable for the port that is set puts the usual port in the place of the
loaded one. -/
def effective (files : Files) (value : String → String) (givings : List (Giving Options)) : Except Fault Settings :=
  (Settings.load files value ((valuesOf givings "config").getLast?.getD (value "WEARPROBE_CONFIG"))).map fun s =>
    layered value givings (if value "WEARPROBE_MONKEY_PORT" = "" then s else { s with monkeyPort := 12345 })

private theorem initial_handheldSerial (value : String → String) :
    (initial value).handheldSerial = variableOr value "WEARPROBE_HANDHELD_SERIAL" "" := by
  unfold variableOr
  split
  next h => exact h
  next => rfl

private theorem overrides_iff {flag : String} (hgiven : flag ∈ r.given ↔ valuesOf givings flag ≠ []) (name : String) :
    overrides value r.given flag name = true ↔ valuesOf givings flag ≠ [] ∨ value name ≠ "" := by
  simp [overrides, hgiven]

private theorem lay_text {flag name default held : String} (hgiven : flag ∈ r.given ↔ valuesOf givings flag ≠ [])
    (hheld : held = (valuesOf givings flag).getLast?.getD (variableOr value name default)) (loaded : String) :
    (if overrides value r.given flag name then held else loaded) =
      ((valuesOf givings flag).getLast?.or (usable? (value name))).getD loaded := by
  subst hheld
  simp only [overrides_iff hgiven]
  cases hlast : (valuesOf givings flag).getLast? with
  | none =>
    have hnone : valuesOf givings flag = [] := List.getLast?_eq_none_iff.mp hlast
    by_cases hvalue : value name = "" <;> simp [hnone, hvalue, usable?, variableOr]
  | some v =>
    have hsome : valuesOf givings flag ≠ [] := by
      intro hnone
      simp [hnone] at hlast
    simp [hsome]

private theorem numberOr_eq (value : String → String) (name : String) (default : Int64) :
    Options.numberOr value name default = (decimal? (value name)).getD default := by
  unfold Options.numberOr decimal?
  split
  next hread => rw [hread]; rfl
  next hread => rw [hread]; rfl

private theorem lay_port (h : Holds (initial value) givings r.options)
    (hgiven : "monkey-port" ∈ r.given ↔ valuesOf givings "monkey-port" ≠ []) (loaded : Int64) :
    (if overrides value r.given "monkey-port" "WEARPROBE_MONKEY_PORT" then r.options.monkeyPort else loaded) =
      (((valuesOf givings "monkey-port").getLast?.bind number?).or (decimal? (value "WEARPROBE_MONKEY_PORT"))).getD
        (if value "WEARPROBE_MONKEY_PORT" = "" then loaded else 12345) := by
  have hport := h.monkeyPort
  have hstart : (initial value).monkeyPort = (decimal? (value "WEARPROBE_MONKEY_PORT")).getD 12345 :=
    numberOr_eq value "WEARPROBE_MONKEY_PORT" 12345
  simp only [overrides_iff hgiven]
  cases hlast : (valuesOf givings "monkey-port").getLast? with
  | none =>
    have hnone : valuesOf givings "monkey-port" = [] := List.getLast?_eq_none_iff.mp hlast
    rw [hlast] at hport
    have hkept := (Option.some.inj hport).symm
    by_cases hvalue : value "WEARPROBE_MONKEY_PORT" = ""
    · have hempty : decimal? "" = none := by decide
      simp [hnone, hvalue, hempty]
    · simp [hnone, hvalue, hkept, hstart]
  | some v =>
    rw [hlast] at hport
    have hnumber : number? v = some r.options.monkeyPort := hport
    have hsome : valuesOf givings "monkey-port" ≠ [] := by
      intro hnone
      simp [hnone] at hlast
    simp [hsome, hnumber]

private theorem lay_script (h : Holds (initial value) givings r.options)
    (hgiven : "script" ∈ r.given ↔ valuesOf givings "script" ≠ []) (loaded : Option (List String)) :
    (if overrides value r.given "script" "WEARPROBE_SCRIPT" then r.options.script else loaded) =
      ((scriptItems? givings).or (itemsIn value "WEARPROBE_SCRIPT")).or loaded := by
  have hstart : (initial value).script = itemsIn value "WEARPROBE_SCRIPT" := rfl
  simp only [overrides_iff hgiven, h.script, hstart, scriptItems?]
  by_cases hnone : valuesOf givings "script" = []
  · by_cases hvalue : value "WEARPROBE_SCRIPT" = "" <;> simp [hnone, hvalue, itemsIn]
  · simp [hnone]

private theorem lay_eq (h : Holds (initial value) givings r.options)
    (hgiven : ∀ name, name ∈ r.given ↔ valuesOf givings name ≠ []) (s : Settings) :
    r.options.lay value r.given s =
      layered value givings (if value "WEARPROBE_MONKEY_PORT" = "" then s else { s with monkeyPort := 12345 }) := by
  have hhandheld := h.handheldSerial
  rw [initial_handheldSerial] at hhandheld
  unfold Options.lay layered
  dsimp only
  rw [lay_text (hgiven "adb") h.adbPath, lay_text (hgiven "wear-serial") h.wearSerial,
    lay_text (hgiven "handheld-serial") hhandheld, lay_port h (hgiven "monkey-port"),
    lay_text (hgiven "appium-url") h.appiumUrl, lay_script h (hgiven "script")]
  split <;> rfl

theorem mem_names_iff (givings : List (Giving Options)) (name : String) :
    name ∈ (givings.map (·.flag.name)).reverse ↔ valuesOf givings name ≠ [] := by
  simp [valuesOf]

/-- The settings follow from the flags that were given, in whatever way a line gave them. -/
theorem settings_eq_effective {c : Command} (hknown : ∀ g ∈ givings, g.flag ∈ c.flags value)
    (hoptions : giveAll givings (initial value) = .ok r.options)
    (hgiven : r.given = (givings.map (·.flag.name)).reverse) (files : Files) :
    r.settings files value = effective files value givings := by
  have hholds := Options.holds_of_giveAll rfl hknown hoptions
  have hnames (name : String) : name ∈ r.given ↔ valuesOf givings name ≠ [] := by
    rw [hgiven, mem_names_iff]
  have hconfig : (initial value).configFile = value "WEARPROBE_CONFIG" := rfl
  unfold Reading.settings effective
  rw [hholds.configFile, hconfig]
  simp only [lay_eq hholds hnames]

private theorem gave_suggestion (value : String → String) (line : List String) : ∃ c : Command,
    Flag.Gave (c.flags value) { options := initial value }
      (Suggestion.ofLine value line { options := initial value }).2 :=
  ⟨_, (Flag.gave_readOn _ _ _).trans (Flag.gave_readOn _ _ _)⟩

/-- On every command line, each of the six settings is the last value of its flag, or all items for the script; without
the flag it is what the variable holds, and without that what was loaded. All other settings are the loaded ones. Only
the port is not: a variable that is set and holds no number puts the usual port in the place of the loaded one. -/
theorem flags_over_variables_over_file (value : String → String) :
    (∀ (c : Command) (line : List String),
      let r := readAll (c.flags value) (initial value) line
      (r.fault = none → ∃ givings words, Gives (c.flags value) none line givings words ∧
        ∃ o, giveAll givings (initial value) = .ok o) ∧
      ∀ givings words o, Gives (c.flags value) none line givings words → giveAll givings (initial value) = .ok o →
        r.fault = none ∧ r.words = words ∧ ∀ files, r.settings files value = effective files value givings) ∧
    ∀ line, let r := (Suggestion.ofLine value line { options := initial value }).2
      ∃ givings, giveAll givings (initial value) = .ok r.options ∧
        (∀ name, name ∈ r.given ↔ valuesOf givings name ≠ []) ∧
        ∀ files, r.settings files value = effective files value givings := by
  constructor
  · intro c line r
    refine ⟨Flag.exists_gives_of_readAll, ?_⟩
    intro givings words o hgives ho
    obtain ⟨hfault, hwords, hoptions, hgiven⟩ := hgives.readAll ho
    exact ⟨hfault, hwords, settings_eq_effective (hgives.known (by simp)) hoptions hgiven⟩
  · intro line r
    obtain ⟨c, givings, hknown, hoptions, hgiven⟩ := gave_suggestion value line
    rw [List.append_nil] at hgiven
    refine ⟨givings, hoptions, fun name => ?_, settings_eq_effective hknown hoptions hgiven⟩
    rw [hgiven, mem_names_iff]

def twoVariables (name : String) : String :=
  if name = "WEARPROBE_ADB" then "/opt/adb" else if name = "WEARPROBE_MONKEY_PORT" then "7" else ""

/-- A settings file with another port than the usual one. -/
def portFile : Files := Files.empty.put ["c.yaml"] (.file "adb_path: a\nmonkey_port: 5\nwear_serial: b\n".toUTF8)

/-- A line that gives flags in several ways, and the one for the script twice. -/
def mixedLine : List String :=
  ["--config", "c.yaml", "-qwA1", "wear.face", "--script=tap", "--script", "wake,swipe_left", "--", "-x"]

theorem flags_over_variables_over_file_mixed :
    let r := readAll (Command.main.flags twoVariables) (initial twoVariables) mixedLine
    (∃ givings, Gives (Command.main.flags twoVariables) none mixedLine givings ["wear.face", "-x"] ∧
      ∀ files, r.settings files twoVariables = effective files twoVariables givings) ∧
    (r.settings portFile twoVariables).toOption.map
        (fun s => (s.adbPath, s.wearSerial, s.monkeyPort, s.handheldSerial, s.script)) =
      some ("/opt/adb", "A1", 7, "", some ["tap", "wake", "swipe_left"]) := by
  intro r
  obtain ⟨hsome, hall⟩ := (flags_over_variables_over_file twoVariables).1 .main mixedLine
  obtain ⟨givings, words, hgives, o, ho⟩ := hsome (by decide +kernel)
  obtain ⟨-, hwords, heffective⟩ := hall givings words o hgives ho
  have hrest : r.words = ["wear.face", "-x"] := by decide +kernel
  rw [← hwords, hrest] at hgives
  exact ⟨⟨givings, hgives, heffective⟩, by decide +kernel⟩

def unusablePort (name : String) : String := if name = "WEARPROBE_MONKEY_PORT" then "junk" else ""

theorem loaded_port_discarded :
    let r := readAll (Command.main.flags unusablePort) (initial unusablePort) ["--config", "c.yaml"]
    r.fault = none ∧ "monkey-port" ∉ r.given ∧ decimal? (unusablePort "WEARPROBE_MONKEY_PORT") = none ∧
      (Settings.load portFile unusablePort "c.yaml").toOption.map (·.monkeyPort) = some 5 ∧
      (r.settings portFile unusablePort).toOption.map (·.monkeyPort) = some 12345 := by
  decide +kernel

end Layers

end WatchTrial.CommandLine
