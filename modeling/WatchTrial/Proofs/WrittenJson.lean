import Mathlib.Data.List.DropRight
import WatchTrial.Json.Record
import WatchTrial.Json.Writer
/-!
# Reading back what was written

A value that is written on indented lines is passed over by a reader to just where it ends. So a record that is
filled from a written object gets the texts that it names, whatever else the object has.
-/
namespace WatchTrial.Json

section Strings

private theorem escapeChar_cases (c : Char) :
    (∃ letter, escapeChar c = ['\\', letter] ∧ letter ≠ 'u' ∧ escaped? letter = some c) ∨
      (escapeChar c = '\\' :: 'u' :: Text.hexDigits 4 c.toNat ∧ c.toNat < 0x20) ∨
      escapeChar c = [c] ∧ c ≠ '"' ∧ c ≠ '\\' := by
  by_cases hnamed : c ∈ ['"', '\\', '\t', '\n', '\r']
  · refine .inl ?_
    simp only [List.mem_cons, List.not_mem_nil, or_false] at hnamed
    rcases hnamed with rfl | rfl | rfl | rfl | rfl <;> exact ⟨_, rfl, by decide, rfl⟩
  · simp only [List.mem_cons, List.not_mem_nil, or_false, not_or] at hnamed
    obtain ⟨hquote, hslash, htab, hfeed, hreturn⟩ := hnamed
    simp only [escapeChar, hquote, hslash, htab, hfeed, hreturn, if_false]
    split
    next hcontrol => exact .inr (.inl ⟨rfl, hcontrol⟩)
    next => exact .inr (.inr ⟨rfl, hquote, hslash⟩)

private theorem hexDigit_read {d : Nat} (h : d < 16) :
    hexValue? (Text.hexDigit d) = some d ∧ Text.hexDigit d ≠ '"' ∧ Text.hexDigit d ≠ '\\' := by
  revert d
  decide

private theorem hex4?_hexDigits {n : Nat} (h : n < 0x20) :
    ∃ a b c d, Text.hexDigits 4 n = [a, b, c, d] ∧ hex4? a b c d = some n := by
  refine ⟨_, _, _, _, rfl, ?_⟩
  have hdigit (k : Nat) := (hexDigit_read (Nat.mod_lt k (by decide : 16 > 0))).1
  simp only [hex4?, hdigit, Option.bind_eq_bind, Option.bind_some]
  simp only [Nat.pow_eq, Option.pure_def, Option.some.injEq]
  omega

private theorem readString_escapeChar (read : List Char) (c : Char) (rest : List Char) :
    readString none read (escapeChar c ++ rest) = readString none (c :: read) rest := by
  rcases escapeChar_cases c with ⟨letter, hescape, hletter, hmeans⟩ | ⟨hescape, hcontrol⟩ |
    ⟨hescape, hquote, hslash⟩
  · rw [hescape, List.cons_append, List.singleton_append, readString.eq_4, hmeans]
    · rfl
    · intro _ _ _ _ _ hu
      exact absurd hu hletter
  · obtain ⟨x, y, z, u, hdigits, hvalue⟩ := hex4?_hexDigits hcontrol
    have hhigh : ¬ (0xd800 ≤ c.toNat ∧ c.toNat < 0xdc00) := by omega
    have hlow : ¬ (0xdc00 ≤ c.toNat ∧ c.toNat < 0xe000) := by omega
    rw [hescape, hdigits]
    simp only [List.cons_append, List.nil_append]
    rw [readString.eq_3 _ _ _ _ _ _ _ _ hvalue (by simp)]
    simp [hhigh, hlow]
  · rw [hescape, List.singleton_append, readString.eq_def]
    split <;> simp_all

private theorem readString_written (s : String) (rest : List Char) :
    readString none [] (s.toList.flatMap escapeChar ++ '"' :: rest) = some (s, rest) := by
  have hread (cs read : List Char) : readString none read (cs.flatMap escapeChar ++ '"' :: rest) =
      some (String.ofList (read.reverse ++ cs), rest) := by
    induction cs generalizing read with
    | nil => simp [readString]
    | cons c cs ih =>
      rw [List.flatMap_cons, List.append_assoc, readString_escapeChar, ih, List.reverse_cons, List.append_assoc,
        List.singleton_append]
  rw [hread, List.reverse_nil, List.nil_append, String.ofList_toList]

private theorem skipString_escapeChar (c : Char) (rest : List Char) :
    skipString (escapeChar c ++ rest) = skipString rest := by
  have hplain {d : Char} (hquote : d ≠ '"') (hslash : d ≠ '\\') (rest : List Char) :
      skipString (d :: rest) = skipString rest :=
    skipString.eq_3 d rest hquote fun _ _ h => absurd h hslash
  rcases escapeChar_cases c with ⟨letter, hescape, -⟩ | ⟨hescape, -⟩ | ⟨hescape, hquote, hslash⟩
  · rw [hescape, List.cons_append, List.singleton_append, skipString.eq_2]
  · have hdigit (k : Nat) := (hexDigit_read (Nat.mod_lt k (by decide : 16 > 0))).2
    rw [hescape]
    simp only [Text.hexDigits, List.cons_append, List.nil_append]
    rw [skipString.eq_2, hplain (hdigit _).1 (hdigit _).2, hplain (hdigit _).1 (hdigit _).2,
      hplain (hdigit _).1 (hdigit _).2, hplain (hdigit _).1 (hdigit _).2]
  · rw [hescape, List.singleton_append, hplain hquote hslash]

private theorem skipString_written (s : String) (rest : List Char) :
    skipString (s.toList.flatMap escapeChar ++ '"' :: rest) = some rest := by
  induction s.toList with
  | nil => rfl
  | cons c cs ih => rw [List.flatMap_cons, List.append_assoc, skipString_escapeChar, ih]

private theorem writeString_append (s : String) (rest : List Char) :
    (writeString s).toList ++ rest = '"' :: (s.toList.flatMap escapeChar ++ '"' :: rest) := by
  simp [writeString]

end Strings

section Blanks

variable {cs : List Char}

private theorem skipBlanks_cons (c : Char) (cs : List Char) :
    skipBlanks (c :: cs) = if c == ' ' || c == '\t' || c == '\n' || c == '\r' then skipBlanks cs else c :: cs :=
  List.dropWhile_cons

private theorem skipBlanks_newline (depth : Nat) (cs : List Char) :
    skipBlanks ((newline depth).toList ++ cs) = skipBlanks cs := by
  refine List.dropWhile_append_of_pos fun c hc => ?_
  have hc : c = '\n' ∨ c = ' ' := by
    simp only [newline, String.toList_append, String.toList_ofList, List.mem_append, List.mem_replicate] at hc
    exact hc.imp (by simp) (·.2)
  rcases hc with rfl | rfl <;> rfl

private theorem length_newline (d : Nat) : (newline d).toList.length = 2 * d + 1 := by
  simp [newline]

private theorem skipBlanks_closing (d : Nat) {closing : Char} (h : closing = ']' ∨ closing = '}') (rest : List Char) :
    skipBlanks ((newline d).toList ++ closing :: rest) = closing :: rest := by
  rw [skipBlanks_newline]
  rcases h with rfl | rfl <;> rfl

private theorem skipBlanks_comma (cs : List Char) : skipBlanks (',' :: cs) = ',' :: cs := rfl

private theorem skipBlanks_colon (cs : List Char) : skipBlanks (':' :: cs) = ':' :: cs := rfl

private theorem skipBlanks_space (cs : List Char) : skipBlanks (' ' :: cs) = skipBlanks cs := rfl

private theorem skipBlanks_skipBlanks (cs : List Char) : skipBlanks (skipBlanks cs) = skipBlanks cs :=
  List.dropWhile_idempotent _ _

/-- Blanks before a value make no difference. -/
private theorem skipValue_congr {cs' : List Char} (h : skipBlanks cs = skipBlanks cs') (depth fuel : Nat) :
    skipValue depth fuel cs = skipValue depth fuel cs' := by
  cases fuel with
  | zero => rfl
  | succ fuel => rw [skipValue, skipValue, h]

end Blanks

/-- What may follow a value in an indented text. -/
def Stops (rest : List Char) : Prop := ∀ c ∈ rest.head?, c = ',' ∨ c = '\n'

section Numbers

private theorem toDigits_head (n : Nat) (h : 0 < n) : ∃ c cs, Nat.toDigits 10 n = c :: cs ∧ c ≠ '0' := by
  induction n using Nat.strongRecOn with
  | ind n ih =>
    by_cases hsmall : n < 10
    · have hdigit : ∀ k < 10, 0 < k → k.digitChar ≠ '0' := by decide
      exact ⟨n.digitChar, [], Nat.toDigits_of_lt_base hsmall, hdigit n hsmall h⟩
    · obtain ⟨c, cs, hdigits, hc⟩ := ih (n / 10) (by omega) (by omega)
      exact ⟨c, _, by rw [Nat.toDigits_of_base_le (by decide) (by omega), hdigits]; rfl, hc⟩

private theorem digits_numeral {ds rest : List Char} (hds : ∀ c ∈ ds, c.isDigit = true) (hrest : Stops rest) :
    digits (ds ++ rest) = (ds, rest) := by
  have hend : rest.takeWhile Char.isDigit = [] ∧ rest.dropWhile Char.isDigit = rest := by
    cases rest with
    | nil => exact ⟨rfl, rfl⟩
    | cons c cs =>
      have hc : c.isDigit = false := by rcases hrest c rfl with rfl | rfl <;> rfl
      simp [hc]
  rw [digits, List.takeWhile_append_of_pos hds, List.dropWhile_append_of_pos hds, hend.1, hend.2, List.append_nil]

private theorem no_fraction {rest : List Char} (hrest : Stops rest) :
    readFraction rest = some ([], rest) ∧ readExponent rest = some ([], rest) := by
  cases rest with
  | nil => exact ⟨rfl, rfl⟩
  | cons c cs => rcases hrest c rfl with rfl | rfl <;> exact ⟨rfl, rfl⟩

private theorem takeWhole_toDigits (n : Nat) {rest : List Char} (hrest : Stops rest) :
    takeWhole (Nat.toDigits 10 n ++ rest) = some (Nat.toDigits 10 n, rest) := by
  by_cases hzero : n = 0
  · rw [hzero]
    rfl
  · obtain ⟨c, cs, hdigits, hc⟩ := toDigits_head n (by omega)
    have hall : ∀ d ∈ c :: cs, d.isDigit = true :=
      hdigits ▸ fun d hd => Nat.isDigit_of_mem_toDigits (by decide) (by decide) hd
    have hread := digits_numeral hall hrest
    rw [hdigits]
    rw [List.cons_append] at hread ⊢
    rw [takeWhole.eq_2 _ fun _ heq => hc (List.cons.inj heq).1, hread]
    rfl

/-- The text of a whole number, with its sign and its first digit. -/
private theorem toString_whole (i : Int) : ∃ sign n c cs, (toString i).toList = sign ++ Nat.toDigits 10 n ∧
    (sign = [] ∨ sign = ['-']) ∧ Nat.toDigits 10 n = c :: cs ∧ c.isDigit = true := by
  have hshown (n : Nat) : (toString n).toList = Nat.toDigits 10 n := by simp
  have hfirst (n : Nat) : ∃ c cs, Nat.toDigits 10 n = c :: cs ∧ c.isDigit = true := by
    obtain ⟨c, cs, hdigits⟩ := List.exists_cons_of_ne_nil (Nat.toDigits_ne_nil (b := 10) (n := n))
    exact ⟨c, cs, hdigits, Nat.isDigit_of_mem_toDigits (by decide) (by decide) (hdigits ▸ List.mem_cons_self)⟩
  cases i with
  | ofNat n =>
    obtain ⟨c, cs, hdigits, hc⟩ := hfirst n
    exact ⟨[], n, c, cs, hshown n, .inl rfl, hdigits, hc⟩
  | negSucc n =>
    obtain ⟨c, cs, hdigits, hc⟩ := hfirst (n + 1)
    refine ⟨['-'], n + 1, c, cs, ?_, .inr rfl, hdigits, hc⟩
    rw [← hshown]
    exact String.toList_append

private theorem takeNumber_whole (i : Int) {rest : List Char} (hrest : Stops rest) :
    takeNumber ((toString i).toList ++ rest) = some ((toString i).toList, rest) := by
  obtain ⟨sign, n, c, cs, hshown, hsign, hdigits, hc⟩ := toString_whole i
  have hminus : takeMinus (sign ++ Nat.toDigits 10 n ++ rest) = (sign, Nat.toDigits 10 n ++ rest) := by
    rcases hsign with rfl | rfl
    · refine takeMinus.eq_2 _ fun tail heq => ?_
      rw [hdigits] at heq
      rw [(List.cons.inj heq).1] at hc
      cases hc
    · rfl
  rw [hshown, takeNumber, hminus]
  simp [takeWhole_toDigits n hrest, no_fraction hrest]

/-- A number is passed over to its end. -/
private theorem skipValue_whole (depth fuel : Nat) (i : Int) {rest : List Char} (hrest : Stops rest) :
    skipValue depth (fuel + 1) ((toString i).toList ++ rest) = some rest := by
  obtain ⟨sign, n, c, cs, hshown, hsign, hdigits, hc⟩ := toString_whole i
  have hfirst : ∃ d ds, (toString i).toList ++ rest = d :: ds ∧ (d.isDigit = true ∨ d = '-') := by
    rw [hshown, hdigits]
    rcases hsign with rfl | rfl
    · exact ⟨c, _, rfl, .inl hc⟩
    · exact ⟨'-', _, rfl, .inr rfl⟩
  have htake := takeNumber_whole i hrest
  obtain ⟨d, ds, heq, hd⟩ := hfirst
  rw [heq] at htake ⊢
  have hblank : skipBlanks (d :: ds) = d :: ds := by
    rw [skipBlanks_cons, if_neg]
    intro h
    simp only [Bool.or_eq_true, beq_iff_eq] at h
    rcases h with ((rfl | rfl) | rfl) | rfl <;> simp at hd
  rw [skipValue, hblank]
  split
  all_goals first
    | rw [htake]; rfl
    | (rename_i h; obtain ⟨rfl, -⟩ := List.cons.inj h; simp at hd)

end Numbers

/-- A value in which arrays and objects are nested at most this deep and every number is whole. -/
inductive Nested : Nat → Json → Prop
  | null {n : Nat} : Nested n null
  | bool {n : Nat} (b : Bool) : Nested n (bool b)
  | whole {n : Nat} (i : Int) : Nested n (int i)
  | string {n : Nat} (s : String) : Nested n (string s)
  | array {n : Nat} {items : List Json} (h : ∀ item ∈ items, Nested n item) : Nested (n + 1) (array items)
  | object {n : Nat} {members : List (String × Json)} (h : ∀ member ∈ members, Nested n member.2) :
      Nested (n + 1) (object members)

/-- The text of a value, written this far in, is passed over at this depth. -/
def PassedOver (d depth : Nat) (value : Json) : Prop :=
  ∀ fuel rest, (value.indentAt d).toList.length < fuel → Stops rest →
    skipValue depth fuel ((value.indentAt d).toList ++ rest) = some rest

private theorem indentItems_eq (d : Nat) (items : List Json) : indentItems d items = items.map (indentAt d) := by
  induction items with
  | nil => rfl
  | cons item rest ih => rw [indentItems, ih, List.map_cons]

private def memberText (d : Nat) (member : String × Json) : String :=
  writeString member.1 ++ ": " ++ member.2.indentAt d

private theorem indentMembers_eq (d : Nat) (members : List (String × Json)) :
    indentMembers d members = members.map (memberText d) := by
  induction members with
  | nil => rfl
  | cons member rest ih => rw [indentMembers, ih, List.map_cons, memberText]

private def linesText (d : Nat) (closing : Char) (parts : List String) (rest : List Char) : List Char :=
  (newline (d + 1)).toList ++ (("," ++ newline (d + 1)).intercalate parts).toList ++ (newline d).toList ++
    closing :: rest

private theorem linesText_singleton (d : Nat) (closing : Char) (part : String) (rest : List Char) :
    linesText d closing [part] rest =
      (newline (d + 1)).toList ++ (part.toList ++ ((newline d).toList ++ closing :: rest)) := by
  simp [linesText]

private theorem linesText_cons (d : Nat) (closing : Char) (part next : String) (parts : List String)
    (rest : List Char) :
    linesText d closing (part :: next :: parts) rest =
      (newline (d + 1)).toList ++ (part.toList ++ (',' :: linesText d closing (next :: parts) rest)) := by
  simp [linesText, String.intercalate_cons_cons]

private theorem block_nil (opening closing : Char) (d : Nat) (rest : List Char) :
    (block (String.singleton opening) (String.singleton closing) d []).toList ++ rest =
      opening :: closing :: rest := by
  simp [block]

private theorem block_cons (opening closing : Char) (d : Nat) (part : String) (parts : List String)
    (rest : List Char) :
    (block (String.singleton opening) (String.singleton closing) d (part :: parts)).toList ++ rest =
      opening :: linesText d closing (part :: parts) rest := by
  simp [block, linesText]

private theorem length_linesText (opening closing : Char) {d fuel : Nat} {part : String} {parts : List String}
    (rest : List Char)
    (h : (block (String.singleton opening) (String.singleton closing) d (part :: parts)).toList.length < fuel + 1) :
    (linesText d closing (part :: parts) rest).length < fuel + rest.length := by
  have hlength := congrArg List.length (block_cons opening closing d part parts rest)
  rw [List.length_append, List.length_cons] at hlength
  omega

private theorem stops_newline (d : Nat) (cs : List Char) : Stops ((newline d).toList ++ cs) := by
  intro c hc
  refine .inr ?_
  simpa [newline, eq_comm] using hc

private theorem stops_comma (cs : List Char) : Stops (',' :: cs) := by
  intro c hc
  exact .inl (Option.some.inj hc).symm

/-- The fuel that is left for a part and for those after it. -/
private theorem fuel_linesText {d fuel : Nat} {closing : Char} {part : String} {parts : List String} {rest : List Char}
    (h : (linesText d closing (part :: parts) rest).length < fuel + rest.length) :
    ∃ left, fuel = left + 1 ∧ part.toList.length < left ∧
      (parts ≠ [] → (linesText d closing parts rest).length < left + rest.length) := by
  cases parts with
  | nil =>
    rw [linesText_singleton] at h
    simp only [List.length_append, List.length_cons, length_newline] at h
    exact ⟨fuel - 1, by omega, by omega, fun hne => absurd rfl hne⟩
  | cons next parts =>
    rw [linesText_cons] at h
    simp only [List.length_append, List.length_cons, length_newline] at h
    have hrest : rest.length < (linesText d closing (next :: parts) rest).length := by
      simp only [linesText, List.length_append, List.length_cons, length_newline]
      omega
    exact ⟨fuel - 1, by omega, by omega, fun _ => by omega⟩

private theorem skipItems_written {d depth : Nat} {items : List Json}
    (hitems : ∀ item ∈ items, PassedOver (d + 1) depth item) (hne : items ≠ []) (hdepth : depth < depthLimit)
    {fuel : Nat} {rest : List Char}
    (hfuel : (linesText d ']' (items.map (indentAt (d + 1))) rest).length < fuel + rest.length) :
    skipItems depth fuel (linesText d ']' (items.map (indentAt (d + 1))) rest) = some rest := by
  induction items generalizing fuel with
  | nil => exact absurd rfl hne
  | cons item items ih =>
    obtain ⟨fuel, rfl, hpart, hparts⟩ := fuel_linesText hfuel
    have hvalue {after : List Char} (hafter : Stops after) :
        skipValue depth fuel ((newline (d + 1)).toList ++ ((item.indentAt (d + 1)).toList ++ after)) =
          some after := by
      rw [skipValue_congr (skipBlanks_newline _ _)]
      exact hitems item List.mem_cons_self fuel after hpart hafter
    cases items with
    | nil =>
      rw [List.map_singleton, linesText_singleton, skipItems, hvalue (stops_newline _ _)]
      simp only [skipBlanks_closing d (.inl rfl)]
    | cons next items =>
      rw [List.map_cons, List.map_cons, linesText_cons, skipItems, hvalue (stops_comma _)]
      simp only [skipBlanks_comma, if_neg (Nat.not_le.mpr hdepth)]
      exact ih (fun item hitem => hitems item (List.mem_cons_of_mem _ hitem)) (by simp) (hparts (by simp))

private theorem memberText_append (d : Nat) (member : String × Json) (rest : List Char) :
    (memberText d member).toList ++ rest = '"' :: (member.1.toList.flatMap escapeChar ++
      '"' :: ':' :: ' ' :: ((member.2.indentAt d).toList ++ rest)) := by
  simp [memberText, writeString]

private theorem length_memberText (d : Nat) (member : String × Json) :
    (member.2.indentAt d).toList.length < (memberText d member).toList.length := by
  simp only [memberText, String.toList_append, List.length_append]
  have hcolon : 0 < ": ".toList.length := by decide
  omega

private theorem skipBlanks_member (d : Nat) (member : String × Json) (rest : List Char) :
    skipBlanks ((newline d).toList ++ ((memberText d member).toList ++ rest)) =
      (memberText d member).toList ++ rest := by
  rw [skipBlanks_newline, memberText_append]
  rfl

/-- The name of a member is read up to its value. -/
private theorem memberName_written (d : Nat) (member : String × Json) (rest : List Char) :
    memberName ((newline d).toList ++ ((memberText d member).toList ++ rest)) =
      some (member.1, ' ' :: ((member.2.indentAt d).toList ++ rest)) := by
  rw [memberName, skipBlanks_member, memberText_append]
  simp only [readString_written]
  rfl

private theorem skipValue_member {d depth fuel : Nat} {member : String × Json} (h : PassedOver d depth member.2)
    (hfuel : (memberText d member).toList.length < fuel) {after : List Char} (hafter : Stops after) :
    skipValue depth fuel (' ' :: ((member.2.indentAt d).toList ++ after)) = some after := by
  have hlength := length_memberText d member
  refine (skipValue_congr (skipBlanks_space _) _ _).trans ?_
  exact h fuel after (by omega) hafter

private theorem skipMembers_written {d depth : Nat} {members : List (String × Json)}
    (hmembers : ∀ member ∈ members, PassedOver (d + 1) depth member.2) (hne : members ≠ [])
    {fuel : Nat} {rest : List Char}
    (hfuel : (linesText d '}' (members.map (memberText (d + 1))) rest).length < fuel + rest.length) :
    skipMembers depth fuel (linesText d '}' (members.map (memberText (d + 1))) rest) = some rest := by
  induction members generalizing fuel with
  | nil => exact absurd rfl hne
  | cons member members ih =>
    obtain ⟨fuel, rfl, hpart, hparts⟩ := fuel_linesText hfuel
    have hvalue {after : List Char} (hafter : Stops after) :=
      skipValue_member (hmembers member List.mem_cons_self) hpart hafter
    cases members with
    | nil =>
      rw [List.map_singleton, linesText_singleton, skipMembers, skipBlanks_member, memberText_append]
      simp only [skipString_written, Option.map_some, skipBlanks_colon, hvalue (stops_newline _ _),
        skipBlanks_closing d (.inr rfl)]
    | cons next members =>
      rw [List.map_cons, List.map_cons, linesText_cons, skipMembers, skipBlanks_member, memberText_append]
      simp only [skipString_written, Option.map_some, skipBlanks_colon, hvalue (stops_comma _), skipBlanks_comma]
      exact ih (fun member hmember => hmembers member (List.mem_cons_of_mem _ hmember)) (by simp) (hparts (by simp))

section Brackets

variable {depth fuel : Nat} (hdepth : ¬ depthLimit ≤ depth) {cs rest : List Char}
include hdepth

private theorem skipValue_array (h : skipItems (depth + 1) fuel cs = some rest) :
    skipValue depth (fuel + 1) ('[' :: cs) = some rest := by
  have hopen : skipBlanks ('[' :: cs) = '[' :: cs := rfl
  rw [skipValue, hopen]
  simp only [if_neg hdepth]
  cases fuel with
  | zero => cases h
  | succ fuel =>
    rw [skipItems] at h
    split
    next after hclosing =>
      -- no value starts with a closing bracket
      have hnone : skipValue (depth + 1) fuel cs = none := by
        cases fuel with
        | zero => rfl
        | succ fuel =>
          rw [skipValue, hclosing]
          rfl
      rw [hnone] at h
      cases h
    next =>
      rw [skipItems, skipValue_congr (skipBlanks_skipBlanks cs)]
      exact h

private theorem skipValue_object (hdeeper : ¬ depthLimit ≤ depth + 1)
    (h : skipMembers (depth + 1) fuel cs = some rest) : skipValue depth (fuel + 1) ('{' :: cs) = some rest := by
  have hopen : skipBlanks ('{' :: cs) = '{' :: cs := rfl
  rw [skipValue, hopen]
  simp only [if_neg hdepth, if_neg hdeeper]
  cases fuel with
  | zero => cases h
  | succ fuel =>
    rw [skipMembers] at h
    split
    next after hclosing =>
      rw [hclosing] at h
      cases h
    next =>
      rw [skipMembers, skipBlanks_skipBlanks]
      exact h

end Brackets

/-- Whatever is written is passed over, as long as it is not nested too deep. -/
theorem skipValue_indentAt {n : Nat} {value : Json} (h : Nested n value) (d depth : Nat)
    (hdepth : depth + n < depthLimit) : PassedOver d depth value := by
  induction h generalizing d depth with
  | null =>
    rintro (_ | fuel) rest hfuel -
    · cases hfuel
    · rw [indentAt, skipValue]
      rfl
  | bool b =>
    rintro (_ | fuel) rest hfuel -
    · cases hfuel
    · rw [indentAt, skipValue]
      cases b <;> rfl
  | whole i =>
    rintro (_ | fuel) rest hfuel hrest
    · cases hfuel
    · exact skipValue_whole depth fuel i hrest
  | string s =>
    rintro (_ | fuel) rest hfuel -
    · cases hfuel
    · have hwritten := writeString_append s rest
      rw [indentAt, hwritten, skipValue]
      exact skipString_written s rest
  | @array n items h ih =>
    rintro (_ | fuel) rest hfuel -
    · cases hfuel
    have hnot : ¬ depthLimit ≤ depth := by omega
    rw [indentAt, indentItems_eq] at hfuel ⊢
    cases items with
    | nil =>
      refine (congrArg _ (block_nil '[' ']' d rest)).trans ?_
      rw [skipValue]
      exact if_neg hnot
    | cons item items =>
      refine (congrArg _ (block_cons '[' ']' d _ _ rest)).trans (skipValue_array hnot ?_)
      exact skipItems_written (fun item hitem => ih item hitem _ _ (by omega)) (List.cons_ne_nil item items)
        (by omega) (length_linesText '[' ']' rest hfuel)
  | @object n members h ih =>
    rintro (_ | fuel) rest hfuel -
    · cases hfuel
    have hnot : ¬ depthLimit ≤ depth := by omega
    rw [indentAt, indentMembers_eq] at hfuel ⊢
    cases members with
    | nil =>
      refine (congrArg _ (block_nil '{' '}' d rest)).trans ?_
      rw [skipValue]
      exact if_neg hnot
    | cons member members =>
      refine (congrArg _ (block_cons '{' '}' d _ _ rest)).trans (skipValue_object hnot (by omega) ?_)
      exact skipMembers_written (fun member hmember => ih member hmember _ _ (by omega))
        (List.cons_ne_nil member members) (length_linesText '{' '}' rest hfuel)

namespace Shape

variable {σ : Type} {fields : List (String × Shape σ)} {record record' : σ}

/-- What laying members over a record leaves of it, when it names none of them or names it as a text. -/
inductive Lays (fields : List (String × Shape σ)) : List (String × Json) → σ → σ → Prop
  | nil (record : σ) : Lays fields [] record record
  | other {n : Nat} {name : String} {value : Json} {rest : List (String × Json)} {record record' : σ}
      (hother : fields.find? (sameName ·.1 name) = none) (hvalue : Nested n value) (hn : n < depthLimit)
      (hrest : Lays fields rest record record') : Lays fields ((name, value) :: rest) record record'
  | text {name s : String} {field : String} {set : String → σ → σ} {rest : List (String × Json)}
      {record record' : σ} (hfield : fields.find? (sameName ·.1 name) = some (field, .text set))
      (hrest : Lays fields rest (set s record) record') : Lays fields ((name, .string s) :: rest) record record'

theorem Lays.append {members later : List (String × Json)} {record'' : σ} (h : Lays fields members record record')
    (hlater : Lays fields later record' record'') : Lays fields (members ++ later) record record'' := by
  induction h with
  | nil => exact hlater
  | other hother hvalue hn _ ih => exact .other hother hvalue hn (ih hlater)
  | text hfield _ ih => exact .text hfield (ih hlater)

private theorem fill_text (set : String → σ → σ) (record : σ) (s : String) {d fuel : Nat} (hfuel : 0 < fuel)
    (after : List Char) :
    (Shape.text set).fill fuel record (' ' :: ((indentAt d (.string s)).toList ++ after)) =
      some (set s record, after) := by
  obtain ⟨fuel, rfl⟩ := Nat.exists_eq_succ_of_ne_zero (Nat.ne_of_gt hfuel)
  rw [fill, skipBlanks_space, indentAt, writeString_append]
  change (readString none [] _).map _ = _
  rw [readString_written]
  rfl

private theorem fillMembers_written {d : Nat} {members : List (String × Json)} (h : Lays fields members record record')
    (hne : members ≠ []) {fuel : Nat} {rest : List Char}
    (hfuel : (linesText d '}' (members.map (memberText (d + 1))) rest).length < fuel + rest.length) :
    fillMembers fields fuel record (linesText d '}' (members.map (memberText (d + 1))) rest) =
      some (record', rest) := by
  induction h generalizing fuel with
  | nil => exact absurd rfl hne
  | @other n name value members record record' hother hvalue hn hrest ih =>
    obtain ⟨fuel, rfl, hpart, hparts⟩ := fuel_linesText hfuel
    have hpassed : PassedOver (d + 1) 0 value := skipValue_indentAt hvalue (d + 1) 0 (by omega)
    have hskip {after : List Char} (hafter : Stops after) := skipValue_member hpassed hpart hafter
    cases hrest with
    | nil =>
      rw [List.map_singleton, linesText_singleton, fillMembers, memberName_written]
      simp only [hother, hskip (stops_newline _ _), Option.map_some, skipBlanks_closing d (.inr rfl)]
    | _ =>
      rw [List.map_cons, List.map_cons, linesText_cons, fillMembers, memberName_written]
      simp only [hother, hskip (stops_comma _), Option.map_some, skipBlanks_comma]
      exact ih (by simp) (hparts (by simp))
  | @text name s field set members record record' hfield hrest ih =>
    obtain ⟨fuel, rfl, hpart, hparts⟩ := fuel_linesText hfuel
    have hfill (after : List Char) :=
      fill_text set record s (d := d + 1) (Nat.zero_lt_of_lt hpart) after
    cases hrest with
    | nil =>
      rw [List.map_singleton, linesText_singleton, fillMembers, memberName_written]
      simp only [hfield, hfill, skipBlanks_closing d (.inr rfl)]
    | _ =>
      rw [List.map_cons, List.map_cons, linesText_cons, fillMembers, memberName_written]
      simp only [hfield, hfill, skipBlanks_comma]
      exact ih (by simp) (hparts (by simp))

private theorem fill_group {fuel : Nat} {cs rest : List Char}
    (h : fillMembers fields fuel record cs = some (record', rest)) :
    (Shape.group fields).fill (fuel + 1) record ('{' :: cs) = some (record', rest) := by
  have hopen : skipBlanks ('{' :: cs) = '{' :: cs := rfl
  rw [fill, hopen]
  simp only
  cases fuel with
  | zero => cases h
  | succ fuel =>
    rw [fillMembers, memberName] at h
    split
    next after hclosing =>
      rw [hclosing] at h
      cases h
    next =>
      rw [fillMembers, memberName, skipBlanks_skipBlanks]
      exact h

/-- An object gives back to a record the texts that the record names. -/
theorem read?_written {members : List (String × Json)} (h : Lays fields members record record')
    (hne : members ≠ []) : (Shape.group fields).read? record (indented (.object members)) = some record' := by
  let lines := linesText 0 '}' (members.map (memberText 1)) []
  have htext : (indented (.object members)).toList = '{' :: lines := by
    obtain ⟨member, rest, rfl⟩ := List.exists_cons_of_ne_nil hne
    rw [indented, indentAt, indentMembers_eq]
    exact (List.append_nil _).symm.trans (block_cons '{' '}' 0 _ _ [])
  have hmembers : fillMembers fields (lines.length + 1) record lines = some (record', []) :=
    fillMembers_written h hne (Nat.lt_succ_self _)
  rw [read?, htext, List.length_cons]
  simp only [Option.bind_eq_bind]
  rw [fill_group hmembers]
  rfl

end Shape

end WatchTrial.Json
