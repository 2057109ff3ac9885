import WatchTrial.Proofs.Patches
import WatchTrial.Proofs.Snapshots
import WatchTrial.Sensor.Changes
/-!
# The changes that are shown between snapshots

Snapshots are compared as lists of lines. Both lists ascend in the order of the registrations, so the patch between
them takes no registration for changed that both have. What it shows with a sign is then what the two differences
hold, for snapshots of any size.
-/
namespace WatchTrial

/-- A registration that fits on one line. -/
def Registration.OnOneLine (r : Registration) : Prop := '\n' ∉ r.sensorType.toList ∧ '\n' ∉ r.listener.toList

instance : DecidablePred Registration.OnOneLine := fun r =>
  inferInstanceAs (Decidable ('\n' ∉ r.sensorType.toList ∧ '\n' ∉ r.listener.toList))

private theorem Registration.OnOneLine.isLine {r : Registration} (h : r.OnOneLine) :
    Text.IsLine (r.describe ++ "\n") := by
  refine ⟨r.describe.toList, ?_, by simp⟩
  simp [describe, h.1, h.2]

namespace Snapshot

open Text (Side)

variable {s t before after : Snapshot}

private theorem prefix_of_mem_showLines {line : String} (h : line ∈ s.showLines) :
    "Sensor: ".toList <+: line.toList := by
  obtain ⟨r, -, rfl⟩ := List.mem_map.mp h
  simp [Registration.describe]

private theorem nodup_showLines
    (h : ∀ r ∈ s.elements, ∀ r' ∈ s.elements, r.describe = r'.describe → r = r') : s.showLines.Nodup := by
  refine s.nodup.map_on fun r hr r' hr' heq => h r hr r' hr' ?_
  simpa using heq

private theorem filter_showLines (h : ∀ r ∈ s.elements, ∀ r' ∈ t.elements, r.describe = r'.describe → r = r') :
    s.showLines.filter (! t.showLines.contains ·) = (s.difference t).showLines := by
  have hcontains : ∀ r ∈ s.elements, t.showLines.contains (r.describe ++ "\n") = t.contains r := by
    intro r hr
    rw [Bool.eq_iff_iff, contains_iff, List.contains_iff_mem, showLines, List.mem_map]
    refine ⟨?_, fun hmem => ⟨r, hmem, rfl⟩⟩
    rintro ⟨r', hr', heq⟩
    obtain rfl := h r hr r' hr' (by simpa using heq.symm)
    exact hr'
  have hfilter : s.showLines.filter (! t.showLines.contains ·) =
      (s.elements.filter fun r => ! t.showLines.contains (r.describe ++ "\n")).map (·.describe ++ "\n") :=
    List.filter_map ..
  rw [hfilter, List.filter_congr fun r hr => by rw [hcontains r hr]]
  rfl

/-- The script between two snapshots has on each side the lines of what only that side holds. -/
theorem script_showLines (h : ∀ r ∈ before.elements ++ after.elements, ∀ r' ∈ before.elements ++ after.elements,
      r.describe = r'.describe → r = r') (side : Side) :
    (Text.Edit.script before.showLines after.showLines).filterMap (Text.Edit.lone? side) =
      ((side.pick before after).difference (side.pick after before)).showLines := by
  have hbefore : ∀ r ∈ before.elements, ∀ r' ∈ before.elements, r.describe = r'.describe → r = r' :=
    fun r hr r' hr' => h r (List.mem_append_left _ hr) r' (List.mem_append_left _ hr')
  have hafter : ∀ r ∈ after.elements, ∀ r' ∈ after.elements, r.describe = r'.describe → r = r' :=
    fun r hr r' hr' => h r (List.mem_append_right _ hr) r' (List.mem_append_right _ hr')
  have hacross : ∀ r ∈ before.elements, ∀ r' ∈ after.elements, r.describe = r'.describe → r = r' :=
    fun r hr r' hr' => h r (List.mem_append_left _ hr) r' (List.mem_append_right _ hr')
  have horder : Text.Edit.Concordant before.showLines after.showLines := by
    refine .map (fun _ _ hlt hgt => (hlt.trans hgt).irrefl _) (fun r hr r' hr' heq => ?_) before.ascending
      after.ascending
    exact hacross r hr r' hr' (by simpa using heq)
  rw [Text.Edit.script_lone (nodup_showLines hbefore) (nodup_showLines hafter) horder]
  cases side with
  | before => exact filter_showLines hacross
  | after => exact filter_showLines fun r hr r' hr' heq => (hacross r' hr' r hr heq.symm).symm

private theorem showLines_eq_nil_iff : s.showLines = [] ↔ ∀ r, r ∉ s.elements := by
  rw [showLines, List.map_eq_nil_iff, List.eq_nil_iff_forall_not_mem]

/-- The changes between two snapshots whose registrations fit on lines of their own show what each side holds
beyond the other, in ascending order, and are empty just when the snapshots are found equal. -/
theorem changes_show_differences (before after : Snapshot)
    (hlines : ∀ r ∈ before.elements ++ after.elements, r.OnOneLine)
    (hdistinct : ∀ r ∈ before.elements ++ after.elements, ∀ r' ∈ before.elements ++ after.elements,
      r.describe = r'.describe → r = r') :
    let shown := Text.lines (before.changes after).toList
    shown.filter ("+Sensor: ".toList.isPrefixOf ·) =
      (after.difference before).elements.map (fun r => ("+" ++ r.describe).toList) ∧
    shown.filter ("-Sensor: ".toList.isPrefixOf ·) =
      (before.difference after).elements.map (fun r => ("-" ++ r.describe).toList) ∧
    (before.changes after = "" ↔ before.same after = true) := by
  intro shown
  have hshown (side : Side) : shown.filter ((side.sign :: "Sensor: ".toList).isPrefixOf ·) =
      ((side.pick before after).difference (side.pick after before)).elements.map
        fun r => side.sign :: r.describe.toList := by
    have hline : ∀ line ∈ before.showLines ++ after.showLines,
        Text.IsLine line ∧ "Sensor: ".toList <+: line.toList := by
      intro line hline
      refine ⟨?_, ?_⟩
      · rw [showLines, showLines, ← List.map_append] at hline
        obtain ⟨r, hr, rfl⟩ := List.mem_map.mp hline
        exact (hlines r hr).isLine
      · rcases List.mem_append.mp hline with hline | hline <;> exact prefix_of_mem_showLines hline
    have hpatch := Text.Patch.filter_lines_render 1 (by decide : '\n' ∉ "before".toList)
      (by decide : '\n' ∉ "after".toList) ⟨'S', by decide⟩ (by decide) hline side
    rw [script_showLines hdistinct] at hpatch
    refine hpatch.trans ((List.map_map ..).trans (List.map_congr_left fun r _ => ?_))
    have hended : side.sign :: (r.describe ++ "\n").toList = (side.sign :: r.describe.toList) ++ ['\n'] := by simp
    rw [Function.comp_apply, hended, List.dropLast_concat]
  have hplus : "+Sensor: ".toList = Side.after.sign :: "Sensor: ".toList := by decide
  have hminus : "-Sensor: ".toList = Side.before.sign :: "Sensor: ".toList := by decide
  have hmarked (side : Side) (r : Registration) :
      side.sign :: r.describe.toList = (String.ofList [side.sign] ++ r.describe).toList := by simp
  refine ⟨?_, ?_, ?_⟩
  · rw [hplus, hshown]
    exact List.map_congr_left fun r _ => hmarked .after r
  · rw [hminus, hshown]
    exact List.map_congr_left fun r _ => hmarked .before r
  · have hnone : (∀ side : Side, ((side.pick before after).difference (side.pick after before)).showLines = []) ↔
        before.same after = true := by
      simp only [showLines_eq_nil_iff, mem_difference, not_and, not_not, same_iff_mem_iff]
      refine ⟨fun h r => ⟨h .before r, h .after r⟩, fun h side => ?_⟩
      cases side with
      | before => exact fun r => (h r).mp
      | after => exact fun r => (h r).mpr
    rw [← hnone, changes, Text.Patch.render_eq_empty_iff]
    simp only [script_showLines hdistinct]

/-- One listener gives up a sensor and takes another, while what it shares with the start stays unsigned. -/
theorem changes_show_differences_swapped_sensor :
    let before := ofList [⟨"steps", "com.app"⟩, ⟨"light", "com.app"⟩, ⟨"heart", "com.face"⟩]
    let after := ofList [⟨"heart", "com.face"⟩, ⟨"gyro", "com.app"⟩, ⟨"light", "com.app"⟩]
    (∀ r ∈ before.elements ++ after.elements, r.OnOneLine) ∧
    (∀ r ∈ before.elements ++ after.elements, ∀ r' ∈ before.elements ++ after.elements,
      r.describe = r'.describe → r = r') ∧
    (Text.lines (before.changes after).toList).filter ("+Sensor: ".toList.isPrefixOf ·) =
      ["+Sensor: gyro, Listener: com.app.".toList] ∧
    (Text.lines (before.changes after).toList).filter ("-Sensor: ".toList.isPrefixOf ·) =
      ["-Sensor: steps, Listener: com.app.".toList] ∧
    before.changes after ≠ "" := by
  intro before after
  have hlines : ∀ r ∈ before.elements ++ after.elements, r.OnOneLine := by decide +kernel
  have hdistinct : ∀ r ∈ before.elements ++ after.elements, ∀ r' ∈ before.elements ++ after.elements,
      r.describe = r'.describe → r = r' := by decide +kernel
  obtain ⟨hadded, hremoved, hempty⟩ := changes_show_differences before after hlines hdistinct
  refine ⟨hlines, hdistinct, hadded.trans ?_, hremoved.trans ?_, mt hempty.mp ?_⟩ <;> decide +kernel

end Snapshot

end WatchTrial
