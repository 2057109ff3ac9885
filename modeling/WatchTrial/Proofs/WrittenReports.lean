import WatchTrial.Proofs.WrittenJson
import WatchTrial.Trial.Report
/-!
# What a written report names

From the text of a report its package and its verdict can be read, whatever else the report says. A report has no text
only when there is none for the instant at which its trial started.
-/
namespace WatchTrial

open Json (Nested Shape)

def summaryFields : List (String × Shape (String × String)) :=
  [("package", .text fun s r => (s, r.2)), ("verdict", .text fun s r => (r.1, s))]

/-- The package and the verdict that the text of a report names. -/
def summaryOf? (text : String) : Option (String × String) :=
  (Shape.group summaryFields).read? ("", "") text

section Summary

variable {record record' : String × String} {name pkg verdict : String}

private def besideNames : List String :=
  ["run_id", "label", "leaks", "before_count", "after_count", "interactive", "ambient", "failed_stage", "error",
    "cleanup_error", "started_at", "elapsed"]

private theorem lays_beside (hname : name ∈ besideNames) {value : Json} (hvalue : Nested 2 value)
    {rest : List (String × Json)} (hrest : Shape.Lays summaryFields rest record record') :
    Shape.Lays summaryFields ((name, value) :: rest) record record' := by
  have hother : ∀ name ∈ besideNames, summaryFields.find? (Json.sameName ·.1 name) = none := by decide
  exact .other (hother name hname) hvalue (by decide) hrest

private theorem lays_optional (hname : name ∈ besideNames) (text : String) :
    Shape.Lays summaryFields (Json.optional name text) record record := by
  unfold Json.optional
  split
  · exact .nil record
  · exact lays_beside hname (.string text) (.nil record)

private theorem lays_leaks (leaks : List Registration) :
    Shape.Lays summaryFields
      (if leaks.isEmpty then [] else [("leaks", .array (leaks.map Registration.toJson))]) record record := by
  split
  · exact .nil record
  · refine lays_beside (by decide) (.array fun item hitem => ?_) (.nil record)
    obtain ⟨r, -, rfl⟩ := List.mem_map.mp hitem
    refine .object ?_
    simp only [List.forall_mem_cons]
    exact ⟨.string _, .string _, by simp⟩

private theorem lays_head (runId pkg label verdict : String) :
    Shape.Lays summaryFields [("run_id", .string runId), ("package", .string pkg), ("label", .string label),
      ("verdict", .string verdict)] ("", "") (pkg, verdict) := by
  refine lays_beside (by decide) (.string runId) (.text rfl ?_)
  exact lays_beside (by decide) (.string label) (.text rfl (.nil _))

/-- A report gives back its package and its verdict, when it can be written. -/
private theorem summaryOf?_timed {members : List (String × Json)}
    (h : Shape.Lays summaryFields members ("", "") (pkg, verdict)) (startedAt : Instant) (elapsed : Int64) :
    summaryOf? (((Json.timed members startedAt elapsed).map Json.indented).getD "") =
      startedAt.text?.map fun _ => (pkg, verdict) := by
  cases hstarted : startedAt.text? with
  | none =>
    rw [Json.timed, hstarted]
    rfl
  | some text =>
    rw [Json.timed, hstarted]
    refine Shape.read?_written (h.append ?_) (by simp)
    exact lays_beside (by decide) (.string text) (lays_beside (by decide) (.whole elapsed.toInt) (.nil _))

theorem LeakReport.summaryOf?_written (r : LeakReport) :
    summaryOf? ((r.toJson?.map Json.indented).getD "") =
      r.startedAt.text?.map fun _ => (r.pkg, (r.verdict.map Verdict.name).getD "") := by
  have hmembers : Shape.Lays summaryFields r.members ("", "") (r.pkg, (r.verdict.map Verdict.name).getD "") := by
    rw [LeakReport.members]
    repeat refine .append ?_ (lays_optional (by decide) _)
    refine .append (.append (lays_head ..) (lays_leaks r.leaks)) ?_
    exact lays_beside (by decide) (.whole r.beforeCount.toInt)
      (lays_beside (by decide) (.whole r.afterCount.toInt) (.nil _))
  exact summaryOf?_timed hmembers r.startedAt r.elapsed

theorem DisplayReport.summaryOf?_written (r : DisplayReport) :
    summaryOf? ((r.toJson?.map Json.indented).getD "") =
      r.startedAt.text?.map fun _ => (r.pkg, (r.verdict.map Verdict.name).getD "") := by
  have hmembers : Shape.Lays summaryFields r.members ("", "") (r.pkg, (r.verdict.map Verdict.name).getD "") := by
    rw [DisplayReport.members]
    repeat refine .append ?_ (lays_optional (by decide) _)
    exact lays_head ..
  exact summaryOf?_timed hmembers r.startedAt r.elapsed

end Summary

end WatchTrial
