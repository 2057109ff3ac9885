import Mathlib.Data.List.Forall2
import Mathlib.Data.List.TakeWhile
import WatchTrial.Device.Operations
import WatchTrial.Proofs.Installing
import WatchTrial.Proofs.TrimmedLines
import WatchTrial.Rehearsal.Script
/-!
# Device listings as they are read

A line of a listing is the entry of a device when it has at least two words and is neither the heading nor a notice.
Each line is looked at on its own, so the devices of a listing are those of its lines, in their order. The lines are
those of a stream: from a line on that is too long for the buffer, nothing is read, and nothing tells that it was not.
-/
namespace WatchTrial

open Rehearsal (Script)

namespace Text

/-- The words of a text, with blanks between any two of them. -/
inductive Words : List Char → List (List Char) → Prop
  | none {gap : List Char} (hgap : ∀ c ∈ gap, isBlank c = true) : Words gap []
  | cons {gap word rest : List Char} {words : List (List Char)} (hgap : ∀ c ∈ gap, isBlank c = true)
      (hne : word ≠ []) (hword : ∀ c ∈ word, isBlank c = false) (hrest : ∀ c ∈ rest.head?, isBlank c = true)
      (hwords : Words rest words) : Words (gap ++ (word ++ rest)) (word :: words)

section Fields

variable {c : Char} {cs gap word rest : List Char} {words : List (List Char)}

private theorem fieldsOf_blank_cons (h : isBlank c = true) (cs : List Char) : fieldsOf (c :: cs) = fieldsOf cs := by
  have hsplit := List.splitOnP_append_cons [] cs h
  rw [List.nil_append] at hsplit
  simp [fieldsOf, hsplit]

private theorem fieldsOf_blanks_append (h : ∀ c ∈ gap, isBlank c = true) (cs : List Char) :
    fieldsOf (gap ++ cs) = fieldsOf cs := by
  induction gap with
  | nil => rfl
  | cons c gap ih =>
    rw [List.cons_append, fieldsOf_blank_cons (h c List.mem_cons_self)]
    exact ih fun d hd => h d (List.mem_cons_of_mem c hd)

private theorem fieldsOf_word_append (hne : word ≠ []) (hword : ∀ c ∈ word, isBlank c = false)
    (hrest : ∀ c ∈ rest.head?, isBlank c = true) : fieldsOf (word ++ rest) = word :: fieldsOf rest := by
  have halone : List.splitOnP isBlank word = [word] := List.splitOnP_eq_singleton hword
  cases rest with
  | nil => simp [fieldsOf, halone, hne]
  | cons c rest =>
    have hc : isBlank c = true := hrest c rfl
    rw [fieldsOf_blank_cons hc]
    simp [fieldsOf, List.splitOnP_append_cons word rest hc, halone, hne]

private theorem Words.eq_fieldsOf (h : Words cs words) : words = fieldsOf cs := by
  induction h with
  | @none gap hgap =>
    have hnil := fieldsOf_blanks_append hgap []
    rw [List.append_nil] at hnil
    rw [hnil]
    rfl
  | cons hgap hne hword hrest hwords ih => rw [fieldsOf_blanks_append hgap, fieldsOf_word_append hne hword hrest, ih]

private theorem exists_words (cs : List Char) : ∃ words, Words cs words := by
  induction cs with
  | nil => exact ⟨[], .none (by simp)⟩
  | cons c cs ih =>
    obtain ⟨words, hwords⟩ := ih
    by_cases hc : isBlank c = true
    · -- the blank belongs to the gap before the first word
      cases hwords with
      | none hgap => exact ⟨[], .none (List.forall_mem_cons.mpr ⟨hc, hgap⟩)⟩
      | cons hgap hne hword hrest hwords =>
        exact ⟨_, .cons (List.forall_mem_cons.mpr ⟨hc, hgap⟩) hne hword hrest hwords⟩
    · have hletter : isBlank c = false := Bool.eq_false_iff.mpr hc
      have hstart {rest : List Char} (hrest : ∀ d ∈ rest.head?, isBlank d = true) {words : List (List Char)}
          (hwords : Words rest words) : Words (c :: rest) ([c] :: words) :=
        @Words.cons [] [c] rest words (by simp) (List.cons_ne_nil c []) (by simpa using hletter) hrest hwords
      have hwhole := hwords
      cases hwords with
      | none hgap => exact ⟨_, hstart (fun d hd => hgap d (List.mem_of_mem_head? hd)) hwhole⟩
      | @cons gap word rest later hgap hne hword hrest hlater =>
        cases gap with
        | nil =>
          have hlonger : ∀ d ∈ c :: word, isBlank d = false := List.forall_mem_cons.mpr ⟨hletter, hword⟩
          exact ⟨_, @Words.cons [] _ _ _ (by simp) (List.cons_ne_nil c word) hlonger hrest hlater⟩
        | cons d gap => exact ⟨_, hstart (fun e he => hgap e (by simp_all)) hwhole⟩

private theorem fieldsOf_eq_iff : fieldsOf cs = words ↔ Words cs words := by
  constructor
  · rintro rfl
    obtain ⟨words, hwords⟩ := exists_words cs
    rwa [← hwords.eq_fieldsOf]
  · intro h
    exact h.eq_fieldsOf.symm

end Fields

end Text

namespace ListedDevice

/-- The first of the words that starts with `model:` goes on with the model; there is no model without such a word. -/
def NamesModel (words : List (List Char)) (model : String) : Prop :=
  (∃ before after, words = before ++ ("model:".toList ++ model.toList) :: after ∧
    ∀ word ∈ before, ¬ "model:".toList <+: word) ∨
  model = "" ∧ ∀ word ∈ words, ¬ "model:".toList <+: word

/-- The line is neither the heading nor a notice of the daemon, and has at least two words. -/
def Lists (line : List Char) : Prop :=
  ¬ "List of devices".toList <+: Text.trimChars line ∧ ¬ "*".toList <+: Text.trimChars line ∧
    ∃ first second later, Text.Words (Text.trimChars line) (first :: second :: later)

/-- What the words of a line say about a device. -/
structure IsEntry (line : List Char) (d : ListedDevice) : Prop where
  lists : Lists line
  words : ∃ later, Text.Words (Text.trimChars line) (d.id.toList :: d.status.toList :: later) ∧
    NamesModel later d.model
  attachment : d.attachment = if ':' ∈ d.id.toList then .remote else .usb

section Entries

variable {line : List Char} {d : ListedDevice}

private theorem afterStart_eq_none_iff {start cs : List Char} : Text.afterStart start cs = none ↔ ¬ start <+: cs := by
  simp [Text.afterStart]

private theorem namesModel_iff {words : List (List Char)} {model : String} :
    NamesModel words model ↔ model.toList = modelOf words := by
  have hmisses {words : List (List Char)} : words.findSome? (Text.afterStart "model:".toList) = none ↔
      ∀ word ∈ words, ¬ "model:".toList <+: word := by
    simp only [List.findSome?_eq_none_iff, afterStart_eq_none_iff]
  unfold modelOf
  constructor
  · rintro (⟨before, after, rfl, hbefore⟩ | ⟨rfl, hwords⟩)
    · rw [List.findSome?_append, hmisses.mpr hbefore, Option.none_or, List.findSome?_cons, Text.afterStart_append]
      rfl
    · rw [hmisses.mpr hwords]
      rfl
  · intro hmodel
    cases hfirst : words.findSome? (Text.afterStart "model:".toList) with
    | none =>
      rw [hfirst] at hmodel
      exact .inr ⟨String.toList_inj.mp hmodel, hmisses.mp hfirst⟩
    | some model' =>
      rw [hfirst] at hmodel
      obtain ⟨before, word, after, rfl, hword, hbefore⟩ := List.findSome?_eq_some_iff.mp hfirst
      refine .inl ⟨before, after, ?_, fun earlier hearlier => afterStart_eq_none_iff.mp (hbefore earlier hearlier)⟩
      rw [Text.eq_append_of_afterStart hword, hmodel]
      rfl

private theorem ofLine?_of_words {id status : List Char} {later : List (List Char)}
    (hheading : ¬ "List of devices".toList <+: Text.trimChars line) (hnotice : ¬ "*".toList <+: Text.trimChars line)
    (hwords : Text.Words (Text.trimChars line) (id :: status :: later)) :
    ofLine? line = some ⟨String.ofList id, String.ofList status, if ':' ∈ id then .remote else .usb,
      String.ofList (modelOf later)⟩ := by
  have hunmarked : ¬ (("List of devices".toList.isPrefixOf (Text.trimChars line) ||
      "*".toList.isPrefixOf (Text.trimChars line)) = true) := by
    rw [Bool.or_eq_true, List.isPrefixOf_iff_prefix, List.isPrefixOf_iff_prefix]
    exact not_or.mpr ⟨hheading, hnotice⟩
  rw [ofLine?, if_neg hunmarked, Text.fieldsOf_eq_iff.mpr hwords]
  simp only [List.contains_iff_mem]

theorem Lists.ofLine? (h : Lists line) : ∃ d, ListedDevice.ofLine? line = some d := by
  obtain ⟨hheading, hnotice, id, status, later, hwords⟩ := h
  exact ⟨_, ofLine?_of_words hheading hnotice hwords⟩

private theorem lists_of_ofLine? (h : ofLine? line = some d) : Lists line := by
  unfold ListedDevice.ofLine? at h
  dsimp only at h
  split at h
  next => cases h
  next hunmarked =>
    rw [Bool.or_eq_true, List.isPrefixOf_iff_prefix, List.isPrefixOf_iff_prefix] at hunmarked
    obtain ⟨hheading, hnotice⟩ := not_or.mp hunmarked
    split at h
    next id status later hfields => exact ⟨hheading, hnotice, id, status, later, Text.fieldsOf_eq_iff.mp hfields⟩
    next => cases h

private theorem isSome_ofLine?_iff : (ofLine? line).isSome = true ↔ Lists line := by
  rw [Option.isSome_iff_exists]
  exact ⟨fun ⟨d, hd⟩ => lists_of_ofLine? hd, Lists.ofLine?⟩

private theorem ofLine?_eq_some_iff : ofLine? line = some d ↔ IsEntry line d := by
  constructor
  · intro h
    have hlists := lists_of_ofLine? h
    have ⟨hheading, hnotice, id, status, later, hwords⟩ := hlists
    rw [ofLine?_of_words hheading hnotice hwords, Option.some.injEq] at h
    subst h
    refine ⟨hlists, ⟨later, by simpa only [String.toList_ofList] using hwords, namesModel_iff.mpr ?_⟩, ?_⟩
    · simp only [String.toList_ofList]
    · simp only [String.toList_ofList]
  · intro h
    obtain ⟨later, hwords, hmodel⟩ := h.words
    rw [ofLine?_of_words h.lists.1 h.lists.2.1 hwords, ← namesModel_iff.mp hmodel, ← h.attachment]
    simp only [String.ofList_toList]

instance : DecidablePred Lists := fun _ => decidable_of_iff _ isSome_ofLine?_iff

private theorem ofLine?_dropReturn (line : List Char) : ofLine? (Text.dropReturn line) = ofLine? line := by
  rw [ofLine?, Text.trimChars_dropReturn, ofLine?]

/-- The lines of a listing above the first one that is longer than the buffer. -/
def readable (listing : String) : List (List Char) :=
  (Text.lines listing.toList).takeWhile fun line => (String.ofList line).utf8ByteSize ≤ 65535

private theorem readAll_eq (listing : String) : readAll listing = (readable listing).filterMap ofLine? := by
  rw [readAll, Text.scanLines, Text.filterMap_scanPieces rfl ofLine?_dropReturn, readable]
  simp only [Text.fits_iff]

private theorem readable_eq_lines {listing : String}
    (h : ∀ line ∈ Text.lines listing.toList, (String.ofList line).utf8ByteSize ≤ 65535) :
    readable listing = Text.lines listing.toList :=
  List.takeWhile_eq_self_iff.mpr (by simpa using h)

private theorem forall₂_entries (lines : List (List Char)) :
    List.Forall₂ IsEntry (lines.filter (Lists ·)) (lines.filterMap ofLine?) := by
  induction lines with
  | nil => exact .nil
  | cons line rest ih =>
    by_cases hlists : Lists line
    · obtain ⟨d, hd⟩ := hlists.ofLine?
      rw [List.filter_cons_of_pos (by simpa using hlists), List.filterMap_cons_some hd]
      exact .cons (ofLine?_eq_some_iff.mp hd) ih
    · have hnone : ofLine? line = none := by simpa using mt isSome_ofLine?_iff.mp hlists
      rw [List.filter_cons_of_neg (by simpa using hlists), List.filterMap_cons_none hnone]
      exact ih

private theorem ready_iff (devices : List ListedDevice) (id : String) :
    ready devices id = true ↔ ∃ d, devices.find? (·.id == id) = some d ∧ d.status = "device" := by
  unfold ready
  cases devices.find? (·.id == id) <;> simp

private theorem ready_filterMap_iff (lines : List (List Char)) (id : String) :
    ready (lines.filterMap ofLine?) id = true ↔
      ∃ before line after d, lines = before ++ line :: after ∧ IsEntry line d ∧ d.id = id ∧ d.status = "device" ∧
        ∀ earlier ∈ before, ∀ e, IsEntry earlier e → e.id ≠ id := by
  rw [ready_iff]
  simp only [List.find?_filterMap, Option.bind_eq_some_iff, List.find?_eq_some_iff_append,
    ← ofLine?_eq_some_iff]
  constructor
  · rintro ⟨d, ⟨line, ⟨hid, before, after, hlines, hbefore⟩, hd⟩, hstatus⟩
    rw [hd] at hid
    refine ⟨before, line, after, d, hlines, hd, by simpa using hid, hstatus, ?_⟩
    intro earlier hearlier e he
    simpa [he] using hbefore earlier hearlier
  · rintro ⟨before, line, after, d, hlines, hd, hid, hstatus, hbefore⟩
    refine ⟨d, ⟨line, ⟨by simp [hd, hid], before, after, hlines, ?_⟩, hd⟩, hstatus⟩
    intro earlier hearlier
    cases he : ofLine? earlier with
    | none => rfl
    | some e => simpa using hbefore earlier hearlier e he

end Entries

end ListedDevice

namespace Adb

variable {w : World} {adb : Adb} {b : Bench}

private theorem listDevices_succeeded (h : (w.run b.past (adb.command "" ["devices", "-l"])).Succeeded) :
    (adb.listDevices w b).1 = .ok (ListedDevice.readAll (w.run b.past (adb.command "" ["devices", "-l"])).stdout) :=
  congrArg Prod.fst (Act.bind_ok (runChecked_succeeded h) _)

private theorem isConnected_iff (device : String) :
    (adb.isConnected w device b).1 = true ↔ ∃ devices, (adb.listDevices w b).1 = .ok devices ∧
      ListedDevice.ready devices device = true := by
  unfold isConnected
  rcases adb.listDevices w b with ⟨listed | devices, b'⟩
  · simp
  · simp

private theorem isConnected_iff_ready (device : String) :
    let answer := w.run b.past (adb.command "" ["devices", "-l"])
    (adb.isConnected w device b).1 = true ↔ answer.Succeeded ∧
      ListedDevice.ready (ListedDevice.readAll answer.stdout) device = true := by
  intro answer
  rw [isConnected_iff]
  by_cases hanswer : answer.Succeeded
  · rw [listDevices_succeeded hanswer]
    simp [hanswer, answer]
  · obtain ⟨fault, hfailed⟩ := runChecked_failed hanswer
    have hlisted : adb.listDevices w b = _ := Act.bind_error hfailed _
    simp [hanswer, hlisted]

end Adb

namespace ListedDevice

/-- Each line above the first one of more than 65535 bytes is an entry or not by itself, and the entries are in the
order of the lines. So a device is connected when the first line for it, among those, says that it is ready. Where no
line is longer, these are all the lines; the listing succeeds either way. -/
theorem each_line_read_alone (listing : String) (w : World) (adb : Adb) (b : Bench) :
    List.Forall₂ IsEntry ((readable listing).filter (Lists ·)) (readAll listing) ∧
    ((∀ line ∈ Text.lines listing.toList, (String.ofList line).utf8ByteSize ≤ 65535) →
      readable listing = Text.lines listing.toList) ∧
    let answer := w.run b.past (adb.command "" ["devices", "-l"])
    (answer.Succeeded → (adb.listDevices w b).1 = .ok (readAll answer.stdout)) ∧
      ∀ id, (adb.isConnected w id b).1 = true ↔ answer.Succeeded ∧ ∃ before line after d,
        readable answer.stdout = before ++ line :: after ∧ IsEntry line d ∧ d.id = id ∧ d.status = "device" ∧
          ∀ earlier ∈ before, ∀ e, IsEntry earlier e → e.id ≠ id := by
  refine ⟨?_, readable_eq_lines, ?_⟩
  · rw [readAll_eq]
    exact forall₂_entries (readable listing)
  · intro answer
    refine ⟨Adb.listDevices_succeeded, fun id => ?_⟩
    have hready : _ ↔ answer.Succeeded ∧ ready (readAll answer.stdout) id = true := Adb.isConnected_iff_ready id
    rwa [readAll_eq, ready_filterMap_iff] at hready

/-- A listing with the heading, a notice, a watch that is listed twice, and a line that is no entry. -/
def attached : String :=
  "List of devices attached\n* daemon started *\n10.0.0.7:5555\toffline product:x model:Wren\r\nnoise\n" ++
    "10.0.0.7:5555 device\nA1  device model:Moth model:Owl\n"

def attachedWorld : World := { ({} : Script).world "" with run := fun _ _ => { stdout := attached } }

theorem each_line_read_alone_attached :
    let devices : List ListedDevice := [⟨"10.0.0.7:5555", "offline", .remote, "Wren"⟩,
      ⟨"10.0.0.7:5555", "device", .remote, ""⟩, ⟨"A1", "device", .usb, "Moth"⟩]
    List.Forall₂ IsEntry ((Text.lines attached.toList).filter (Lists ·)) devices ∧
      (({} : Adb).listDevices attachedWorld {}).1 = .ok devices := by
  intro devices
  have hread : readAll attached = devices := by decide +kernel
  obtain ⟨hentries, hall, hlisted, -⟩ := each_line_read_alone attached attachedWorld {} {}
  rw [hall (by decide +kernel), hread] at hentries
  exact ⟨hentries, (hlisted ⟨rfl, rfl⟩).trans (congrArg Except.ok hread)⟩

private theorem utf8ByteSize_replicate (n : Nat) : (String.ofList (List.replicate n 'x')).utf8ByteSize = n := by
  rw [← Text.byteLength_eq_utf8ByteSize]
  induction n with
  | zero => rfl
  | succ n ih =>
    have hsize : 'x'.utf8Size = 1 := rfl
    rw [List.replicate_succ, Text.byteLength_cons, ih, hsize, Nat.add_comm]

def buried (n : Nat) : String := String.ofList (List.replicate n 'x' ++ '\n' :: "watch device\n".toList)

private theorem lines_buried (n : Nat) :
    Text.lines (buried n).toList = List.replicate n 'x' :: Text.lines "watch device\n".toList := by
  have hfeed : '\n' ∉ List.replicate n 'x' := fun h => absurd (List.eq_of_mem_replicate h) (by decide)
  rw [buried, String.toList_ofList, Text.lines_cons hfeed]

private theorem readAll_buried {n : Nat} (h : 65535 < n) : readAll (buried n) = [] := by
  have hlong : ¬ (String.ofList (List.replicate n 'x')).utf8ByteSize ≤ 65535 := by
    rw [utf8ByteSize_replicate]
    omega
  rw [readAll_eq, readable, lines_buried, List.takeWhile_cons_of_neg (by simpa using hlong)]
  rfl

theorem entry_below_overlong_lost :
    (∃ line ∈ Text.lines (buried 65536).toList, IsEntry line ⟨"watch", "device", .usb, ""⟩) ∧
      readAll (buried 65536) = [] ∧ ready (readAll (buried 65536)) "watch" = false := by
  have hnone : readAll (buried 65536) = [] := readAll_buried (by omega)
  refine ⟨⟨"watch device".toList, ?_, ofLine?_eq_some_iff.mp (by decide)⟩, hnone, ?_⟩
  · rw [lines_buried]
    exact List.mem_cons_of_mem _ (by decide)
  · rw [hnone]
    rfl

end ListedDevice

end WatchTrial
