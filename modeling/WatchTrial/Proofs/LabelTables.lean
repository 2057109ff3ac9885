import WatchTrial.Face.Labels
/-!
# Label tables

A table written with every field between quotes is read back field by field, whatever commas, quotes
and line feeds its fields hold, and a package has the label of its last row. A lenient reading refuses
no text, so every text is some label table.
-/
namespace WatchTrial

namespace Text.Record

namespace Reading

/-- What a reading has gathered, wherever in the text it is. -/
structure Has (r : Reading) (phase : Phase) (field : List Char) (fields : List (List Char))
    (records : List (List (List Char))) : Prop where
  phase : r.phase = phase
  field : r.field = field
  fields : r.fields = fields
  records : r.records = records
  refusal : r.refusal = none

variable {r : Reading} {phase next : Phase} {field field' : List Char} {fields fields' : List (List Char)}
  {records records' : List (List (List Char))}

private theorem plainChar_refusal (r : Reading) (c : Char) : (r.plainChar true c).refusal = r.refusal := by
  unfold plainChar
  split
  · rfl
  · split
    · rfl
    · rw [if_neg (by simp)]
      rfl

private theorem firstChar_refusal (r : Reading) (c : Char) : (r.firstChar true c).refusal = r.refusal := by
  unfold firstChar
  split
  · rfl
  · exact plainChar_refusal r c

private theorem char_refusal (r : Reading) (c : Char) : (r.char true c).refusal = r.refusal := by
  unfold char
  cases r.phase with
  | recordStart =>
    by_cases hc : c = '\n'
    · simp [hc]
    · simp [hc, firstChar_refusal]
  | fieldStart => exact firstChar_refusal r c
  | plain => exact plainChar_refusal r c
  | quoted =>
    by_cases hc : c = '"'
    · simp [hc]
    · simp [hc, extend]
  | closing =>
    by_cases hquote : c = '"'
    · simp [hquote, extend]
    · by_cases hcomma : c = ','
      · simp [hcomma, endField]
      · by_cases hfeed : c = '\n'
        · simp [hfeed, endRecord]
        · simp [hquote, hcomma, hfeed, extend]

private theorem step_has (h : r.refusal = none) (c : Char) :
    ∃ moved : Reading, moved.Has r.phase r.field r.fields r.records ∧
      (r.step true c).Has (moved.char true c).phase (moved.char true c).field (moved.char true c).fields
        (moved.char true c).records := by
  refine ⟨if r.freshLine then { r with line := r.line + 1, column := 1, freshLine := false } else r, ?_, ?_⟩
  · split <;> exact ⟨rfl, rfl, rfl, rfl, h⟩
  · unfold step
    rw [if_neg (by simp [h])]
    dsimp only
    split <;>
      · rw [if_neg (by simp [char_refusal, h])]
        exact ⟨rfl, rfl, rfl, rfl, by simp [char_refusal, h]⟩

theorem Has.step (h : r.Has phase field fields records) (c : Char)
    (hchar : ∀ moved : Reading, moved.Has phase field fields records →
      (moved.char true c).Has next field' fields' records') :
    (r.step true c).Has next field' fields' records' := by
  obtain ⟨moved, hmoved, hstep⟩ := step_has h.refusal c
  rw [h.phase, h.field, h.fields, h.records] at hmoved
  have hread := hchar moved hmoved
  rwa [hread.phase, hread.field, hread.fields, hread.records] at hstep

private theorem foldl_step_refusal (h : r.refusal = none) (cs : List Char) :
    (cs.foldl (Reading.step true) r).refusal = none := by
  induction cs generalizing r with
  | nil => exact h
  | cons c cs ih =>
    obtain ⟨_, _, hstep⟩ := step_has h c
    exact ih hstep.refusal

private theorem finish_refusal (h : r.refusal = none) : (r.finish true).refusal = none := by
  unfold finish
  rw [if_neg (by simp [h])]
  cases r.phase <;> simp [endRecord, h]

theorem Has.opened (h : r.Has phase field fields records)
    (hphase : phase = .recordStart ∨ phase = .fieldStart) :
    (r.step true '"').Has .quoted field fields records := by
  refine h.step '"' fun moved hmoved => ?_
  obtain rfl | rfl := hphase <;>
    · simp only [char, hmoved.phase, firstChar]
      exact ⟨rfl, hmoved.field, hmoved.fields, hmoved.records, hmoved.refusal⟩

theorem Has.inside (h : r.Has .quoted field fields records) {c : Char} (hc : c ≠ '"') :
    (r.step true c).Has .quoted (c :: field) fields records := by
  refine h.step c fun moved hmoved => ?_
  simp only [char, hmoved.phase, if_neg hc, extend]
  exact ⟨rfl, by rw [hmoved.field], hmoved.fields, hmoved.records, hmoved.refusal⟩

theorem Has.quote (h : r.Has .quoted field fields records) :
    (r.step true '"').Has .closing field fields records := by
  refine h.step '"' fun moved hmoved => ?_
  simp only [char, hmoved.phase]
  exact ⟨rfl, hmoved.field, hmoved.fields, hmoved.records, hmoved.refusal⟩

private theorem Has.secondQuote (h : r.Has .closing field fields records) :
    (r.step true '"').Has .quoted ('"' :: field) fields records := by
  refine h.step '"' fun moved hmoved => ?_
  simp only [char, hmoved.phase, extend]
  exact ⟨rfl, by simp [hmoved.field], hmoved.fields, hmoved.records, hmoved.refusal⟩

theorem Has.comma (h : r.Has .closing field fields records) :
    (r.step true ',').Has .fieldStart [] (field.reverse :: fields) records := by
  refine h.step ',' fun moved hmoved => ?_
  simp only [char, hmoved.phase]
  exact ⟨rfl, rfl, by simp [endField, hmoved.field, hmoved.fields], hmoved.records, hmoved.refusal⟩

private theorem Has.lineFeed (h : r.Has .closing field fields records) :
    (r.step true '\n').Has .recordStart [] [] ((field.reverse :: fields).reverse :: records) := by
  refine h.step '\n' fun moved hmoved => ?_
  simp only [char, hmoved.phase]
  exact ⟨rfl, rfl, rfl, by simp [endRecord, hmoved.field, hmoved.fields, hmoved.records], hmoved.refusal⟩

theorem Has.finish (h : r.Has .closing field fields records) :
    (r.finish true).records = (field.reverse :: fields).reverse :: records := by
  unfold Reading.finish
  rw [if_neg (by simp [h.refusal]), h.phase]
  simp [endRecord, h.field, h.fields, h.records]

private theorem Has.quotedChars (h : r.Has .quoted field fields records) (cs : List Char) :
    ((cs.flatMap fun c => if c = '"' then ['"', '"'] else [c]).foldl (Reading.step true) r).Has .quoted
      (cs.reverse ++ field) fields records := by
  induction cs generalizing r field with
  | nil => exact h
  | cons c cs ih =>
    rw [List.flatMap_cons, List.foldl_append, List.reverse_cons, List.append_assoc]
    by_cases hc : c = '"'
    · subst hc
      exact ih h.quote.secondQuote
    · rw [if_neg hc]
      exact ih (h.inside hc)

theorem Has.quotedField (h : r.Has phase [] fields records)
    (hphase : phase = .recordStart ∨ phase = .fieldStart) (s : String) :
    ((quotedField s).toList.foldl (Reading.step true) r).Has .closing s.toList.reverse fields records := by
  have hopened := h.opened hphase
  have hread := hopened.quotedChars s.toList
  rw [List.append_nil] at hread
  have hclosed := hread.quote
  simpa [Record.quotedField] using hclosed

end Reading

def line (fields : List String) : String :=
  ",".intercalate (fields.map quotedField)

def written (records : List (List String)) : String :=
  String.join (records.map fun fields => line fields ++ "\n")

theorem Reading.Has.line {r : Reading} {phase : Phase} {before : List (List Char)}
    {records : List (List (List Char))} (h : r.Has phase [] before records)
    (hphase : phase = .recordStart ∨ phase = .fieldStart) {fields : List String} (hfields : fields ≠ []) :
    ∃ last earlier,
      ((Record.line fields).toList.foldl (Reading.step true) r).Has .closing last earlier records ∧
      (last.reverse :: earlier).reverse = before.reverse ++ fields.map String.toList := by
  induction fields generalizing r phase before with
  | nil => exact absurd rfl hfields
  | cons first rest ih =>
    have hfirst := h.quotedField hphase first
    cases rest with
    | nil =>
      refine ⟨first.toList.reverse, before, ?_, ?_⟩
      · simpa [Record.line] using hfirst
      · simp
    | cons second rest =>
      obtain ⟨last, earlier, hread, heq⟩ := ih hfirst.comma (.inr rfl) (List.cons_ne_nil _ _)
      refine ⟨last, earlier, ?_, ?_⟩
      · simpa [Record.line] using hread
      · simpa using heq

theorem Reading.Has.written {r : Reading} {read : List (List (List Char))}
    (h : r.Has .recordStart [] [] read) {records : List (List String)} (hrecords : ∀ fields ∈ records, fields ≠ []) :
    ((Record.written records).toList.foldl (Reading.step true) r).Has .recordStart [] []
      ((records.map (·.map String.toList)).reverse ++ read) := by
  induction records generalizing r read with
  | nil => simpa [Record.written] using h
  | cons fields rest ih =>
    obtain ⟨last, earlier, hread, heq⟩ := h.line (.inl rfl) (hrecords fields (by simp))
    have hended := hread.lineFeed
    rw [heq] at hended
    have hrest := ih hended fun fields hfields => hrecords fields (by simp [hfields])
    simpa [Record.written] using hrest

private theorem plainLineEnds_of_not_mem {cs : List Char} (h : '\r' ∉ cs) : plainLineEnds cs = cs := by
  fun_induction plainLineEnds cs with
  | case1 => rfl
  | case2 => simp at h
  | case3 => simp at h
  | case4 c rest _ _ ih => rw [ih fun hrest => h (List.mem_cons_of_mem c hrest)]

private theorem not_mem_quotedField {c : Char} (hquote : c ≠ '"') {s : String} (h : c ∉ s.toList) :
    c ∉ (quotedField s).toList := by
  have hchars (d : Char) (hd : d ∈ s.toList) : c ∉ if d = '"' then ['"', '"'] else [d] := by
    split
    · simp [hquote]
    · intro hc
      exact h (List.mem_singleton.1 hc ▸ hd)
  intro hc
  simp only [quotedField, String.toList_append, String.toList_ofList, List.mem_append,
    List.mem_flatMap] at hc
  obtain (hc | ⟨d, hd, hc⟩) | hc := hc
  · exact hquote (by simpa using hc)
  · exact hchars d hd hc
  · exact hquote (by simpa using hc)

private theorem not_mem_line {c : Char} (hquote : c ≠ '"') (hcomma : c ≠ ',') {fields : List String}
    (h : ∀ s ∈ fields, c ∉ s.toList) : c ∉ (line fields).toList := by
  induction fields with
  | nil => simp [line]
  | cons first rest ih =>
    have hfirst := not_mem_quotedField hquote (h first (by simp))
    have hrest := ih fun s hs => h s (by simp [hs])
    cases rest with
    | nil => simpa [line] using hfirst
    | cons second rest =>
      simp only [line, List.map_cons, String.intercalate_cons_cons, String.toList_append,
        List.mem_append, not_or] at hrest ⊢
      exact ⟨⟨hfirst, by simp [hcomma]⟩, hrest⟩

private theorem not_mem_written {c : Char} (hquote : c ≠ '"') (hcomma : c ≠ ',') (hfeed : c ≠ '\n')
    {records : List (List String)} (h : ∀ fields ∈ records, ∀ s ∈ fields, c ∉ s.toList) :
    c ∉ (written records).toList := by
  intro hc
  simp only [written, String.toList_join, List.mem_flatMap, List.mem_map] at hc
  obtain ⟨_, ⟨fields, hfields, rfl⟩, hc⟩ := hc
  rw [String.toList_append, List.mem_append] at hc
  obtain hc | hc := hc
  · exact not_mem_line hquote hcomma (h fields hfields) hc
  · exact hfeed (by simpa using hc)

/-- The last line feed may be missing: the end of the text ends the last record as well. -/
theorem readAll_written {records : List (List String)} (hrecords : ∀ fields ∈ records, fields ≠ [])
    (hreturn : ∀ fields ∈ records, ∀ s ∈ fields, '\r' ∉ s.toList) {text : String}
    (htext : text = written records ∨ text ++ "\n" = written records) :
    (readAll true text.toList).records = (records.map (·.map String.toList)).reverse := by
  have hwritten : '\r' ∉ (written records).toList :=
    not_mem_written (by decide) (by decide) (by decide) hreturn
  have hplain : plainLineEnds text.toList = text.toList := by
    refine plainLineEnds_of_not_mem ?_
    obtain rfl | heq := htext
    · exact hwritten
    · rw [← heq, String.toList_append] at hwritten
      exact fun h => hwritten (List.mem_append_left _ h)
  have hstart : ({} : Reading).Has .recordStart [] [] [] := ⟨rfl, rfl, rfl, rfl, rfl⟩
  unfold readAll
  rw [hplain]
  obtain rfl | heq := htext
  · have hread := hstart.written hrecords
    rw [List.append_nil] at hread
    unfold Reading.finish
    rw [if_neg (by simp [hread.refusal]), hread.phase]
    exact hread.records
  · -- Without its line feed the text is all but the last record and the line of that one.
    obtain rfl | ⟨earlier, fields, hconcat⟩ := List.eq_nil_or_concat records
    · simp [written, String.append_eq_empty_iff] at heq
    · rw [List.concat_eq_append] at hconcat
      subst hconcat
      have hsplit : written (earlier ++ [fields]) = written earlier ++ line fields ++ "\n" := by
        simp [written, String.append_assoc]
      rw [hsplit, String.append_left_inj] at heq
      have hne : ∀ fields ∈ earlier, fields ≠ [] := fun _ h => hrecords _ (List.mem_append_left _ h)
      obtain ⟨last, before, hread, hlast⟩ :=
        (hstart.written hne).line (.inl rfl) (hrecords fields (by simp))
      rw [heq, String.toList_append, List.foldl_append, hread.finish, hlast]
      simp

private theorem lenientRecords_written {records : List (List String)} (hrecords : ∀ fields ∈ records, fields ≠ [])
    (hreturn : ∀ fields ∈ records, ∀ s ∈ fields, '\r' ∉ s.toList) {text : String}
    (htext : text = written records ∨ text ++ "\n" = written records) :
    lenientRecords text = records := by
  rw [lenientRecords, readAll_written hrecords hreturn htext, List.reverse_reverse, List.map_map]
  have hfields (fields : List String) : (fields.map String.toList).map String.ofList = fields := by
    simp
  simp [Function.comp_def, hfields]

private theorem readAll_refusal (cs : List Char) : (readAll true cs).refusal = none :=
  Reading.finish_refusal (Reading.foldl_step_refusal rfl _)

end Text.Record

namespace Labels

private theorem parse_eq (text : String) : parse text = .ok (read text) := by
  simp only [parse, Text.Record.readAll_refusal]

structure Row where
  pkg : String
  internalName : String
  label : String

namespace Row

def fields (row : Row) : List String :=
  [row.pkg, row.internalName, row.label]

/-- The row is the last one of a package. -/
def LastOf (row : Row) (rows : List Row) (pkg : String) : Prop :=
  ∃ before after, rows = before ++ row :: after ∧ Text.trim row.pkg = pkg ∧
    ∀ later ∈ after, Text.trim later.pkg ≠ pkg

end Row

def written (rows : List Row) : String :=
  Text.Record.written (rows.map Row.fields)

private theorem lookup_rows {pkg : String} (hpkg : pkg ≠ "") (rows : List Row) :
    (rows.filterMap fun row => row? row.fields).lookup pkg =
      (rows.find? fun row => Text.trim row.pkg == pkg).map Row.label := by
  induction rows with
  | nil => rfl
  | cons row rows ih =>
    by_cases hrow : Text.trim row.pkg = pkg
    · have hsome : row? row.fields = some (pkg, row.label) := by
        simp [row?, Row.fields, hrow, hpkg]
      simp [hsome, hrow]
    · rw [List.find?_cons_of_neg (by simpa using hrow), ← ih, List.filterMap_cons]
      by_cases hempty : Text.trim row.pkg = ""
      · simp [row?, Row.fields, hempty]
      · have hother : (pkg == Text.trim row.pkg) = false := by
          simpa using fun h => hrow h.symm
        simp [row?, Row.fields, hempty, List.lookup_cons, hother]

private theorem find?_last_iff {rows : List Row} {pkg : String} {row : Row} :
    (rows.reverse.find? fun row => Text.trim row.pkg == pkg) = some row ↔ row.LastOf rows pkg := by
  rw [List.find?_eq_some_iff_append]
  constructor
  · rintro ⟨hrow, after, before, heq, hafter⟩
    refine ⟨before.reverse, after.reverse, ?_, by simpa using hrow, ?_⟩
    · have hrows := congrArg List.reverse heq
      simpa using hrows
    · intro later hlater
      simpa using hafter later (List.mem_reverse.1 hlater)
  · rintro ⟨before, after, rfl, hrow, hafter⟩
    refine ⟨by simpa using hrow, after.reverse, before.reverse, by simp, ?_⟩
    intro later hlater
    simpa using hafter later (List.mem_reverse.1 hlater)

private theorem find?_written {rows : List Row} (hreturn : ∀ row ∈ rows, ∀ field ∈ row.fields, '\r' ∉ field.toList)
    {text : String} (htext : text = written rows ∨ text ++ "\n" = written rows) {pkg : String} (hpkg : pkg ≠ "") :
    (read text).find? pkg = (rows.reverse.find? fun row => Text.trim row.pkg == pkg).map Row.label := by
  have hrecords : Text.Record.lenientRecords text = rows.map Row.fields := by
    refine Text.Record.lenientRecords_written ?_ ?_ htext
    · simp [Row.fields]
    · simpa using hreturn
  rw [← lookup_rows hpkg, List.filterMap_reverse, find?, read, hrecords, List.filterMap_map]
  rfl

private theorem lookup_ok_iff {labels : Labels} {pkg label : String} :
    labels.lookup pkg = .ok label ↔ labels.find? pkg = some label := by
  unfold lookup
  cases labels.find? pkg <;> simp

private theorem lookup_error_iff {labels : Labels} {pkg : String} :
    (∃ fault, labels.lookup pkg = .error fault) ↔ labels.find? pkg = none := by
  unfold lookup
  cases labels.find? pkg <;> simp

/-- A table written with every field between quotes, with or without a line feed after its last row, gives each
package the label of its last row, character by character, and no label to any other package. No text at all is
refused as a label table. -/
theorem quoted_table_read_back :
    (∀ rows : List Row, (∀ row ∈ rows, ∀ field ∈ row.fields, '\r' ∉ field.toList) →
      ∀ text : String, text = written rows ∨ text ++ "\n" = written rows →
      ∃ labels, parse text = .ok labels ∧ ∀ pkg, pkg ≠ "" →
        (∀ label, labels.lookup pkg = .ok label ↔ ∃ row : Row, row.LastOf rows pkg ∧ row.label = label) ∧
        ((∃ fault, labels.lookup pkg = .error fault) ↔ ∀ row ∈ rows, Text.trim row.pkg ≠ pkg)) ∧
    ∀ text : String, ∃ labels, parse text = .ok labels := by
  refine ⟨fun rows hreturn text htext => ⟨read text, parse_eq text, fun pkg hpkg => ?_⟩,
    fun text => ⟨read text, parse_eq text⟩⟩
  have hfound := find?_written hreturn htext hpkg
  constructor
  · intro label
    simp only [lookup_ok_iff, hfound, Option.map_eq_some_iff, find?_last_iff]
  · rw [lookup_error_iff, hfound, Option.map_eq_none_iff, List.find?_eq_none]
    simp

/-- A table whose package has two rows, the later one with blanks around it, and a row without package. -/
def repeatedRow : List Row :=
  [⟨"face.one", "First", "Old"⟩, ⟨" face.one\n", "Second, third", " Say \"hi\",\nall "⟩, ⟨" ", "", "Lost"⟩]

theorem quoted_table_read_back_repeated :
    ∃ labels, parse (written repeatedRow) = .ok labels ∧
      labels.lookup "face.one" = .ok " Say \"hi\",\nall " ∧
      ∃ fault, labels.lookup "Lost" = .error fault := by
  obtain ⟨labels, hread, hlookup⟩ := quoted_table_read_back.1 repeatedRow (by decide) _ (.inl rfl)
  refine ⟨labels, hread, ?_, ?_⟩
  · refine ((hlookup "face.one" (by decide)).1 _).2 ⟨⟨" face.one\n", "Second, third", _⟩, ?_, rfl⟩
    exact ⟨[⟨"face.one", "First", "Old"⟩], [⟨" ", "", "Lost"⟩], rfl, by decide, by decide⟩
  · exact (hlookup "Lost" (by decide)).2.2 (by decide)

end Labels
end WatchTrial
