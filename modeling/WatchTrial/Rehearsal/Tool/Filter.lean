import WatchTrial.Rehearsal.Tool.Options
/-!
# Tools that pass text on

These tools read files, or their input where no file is named, and pass on some of it.
-/
namespace WatchTrial.Rehearsal

def fileComplaint : FileFault → String
  | .missing => "No such file or directory"
  | .notDirectory => "Not a directory"
  | .isDirectory => "Is a directory"
  | .tooLong => "File name too long"
  | .invalid => "Invalid argument"

/-- The file that holds nothing and keeps nothing. -/
def nullFile : String := "/dev/null"

/-- The content of a file; a hyphen stands for the input. -/
def Call.content (call : Call) (path : Bytes) : Except FileFault Bytes :=
  if path = ['-'] then .ok call.input
  else if textOf path = nullFile then .ok []
  else
    match call.files.find (textOf path) with
    | .error fault => .error fault
    | .ok (_, .directory) => .error .isDirectory
    | .ok (_, .file content) => .ok (content.toList.map fun b => Char.ofNat b.toNat)

/-- Passes on each of some files, or the input. What cannot be read is complained about, with words around
the path. -/
def Call.passOn (call : Call) (paths : List Bytes) (around : Bytes → Bytes) (f : Bytes → Bytes) : Yield :=
  (if paths.isEmpty then [['-']] else paths).foldl (fun y path =>
    match call.content path with
    | .ok bytes => { y with out := y.out ++ f bytes }
    | .error fault =>
      { y with
        err := y.err ++ call.name ++ bytesOf ": " ++ around path ++ bytesOf (": " ++ fileComplaint fault ++ "\n")
        status := 1 }) {}

/-- A path alone, in quotes where it needs them. -/
def pathAlone (path : Bytes) : Bytes := quotedIfNeeded [':'] path

def cannotOpen (path : Bytes) : Bytes := bytesOf "cannot open " ++ inQuotes path ++ bytesOf " for reading"

/-- The lines of bytes, each with its end. -/
def linesWithEnds (bytes : Bytes) : List Bytes :=
  let (open_, done) := bytes.foldl (fun (line, lines) c =>
    if c = '\n' then (([] : Bytes), (c :: line).reverse :: lines) else (c :: line, lines)) ([], [])
  (if open_.isEmpty then done else open_.reverse :: done).reverse

def numberedLine (n : Nat) (line : Bytes) : Bytes :=
  let digits := Nat.toDigits 10 n
  List.replicate (6 - digits.length) ' ' ++ digits ++ '\t' :: line

def Tool.cat : Tool := fun call =>
  Parsed.forCall call "nuE" "" fun p =>
    let y := call.passOn p.operands pathAlone id
    let lines := (linesWithEnds y.out).map fun line =>
      if p.has 'E' ∧ line.getLast? = some '\n' then line.dropLast ++ ['$', '\n'] else line
    if p.has 'n' then { y with out := (lines.zipIdx.map fun (line, i) => numberedLine (i + 1) line).flatten }
    else { y with out := lines.flatten }

/-- The count of lines in options such as `-3`, written as a value of `-n`. -/
def plainCount : List Bytes → List Bytes
  | ('-' :: c :: rest) :: more => if c.isDigit then ['-', 'n'] :: (c :: rest) :: more else ('-' :: c :: rest) :: more
  | args => args

/-- Passes on a part of each file, counted in lines or bytes. -/
def part (call : Call) (ofLines : Nat → List Bytes → List Bytes) (ofBytes : Nat → Bytes → Bytes) : Yield :=
  Parsed.forCall { call with args := plainCount call.args } "q" "nc" fun p =>
    let count (value : Bytes) (unit : String) (go : Nat → Yield) : Yield :=
      match takeDigits 10 value with
      | (n, []) => if value.isEmpty then wrong value unit else go n
      | _ => wrong value unit
    match p.value? 'c', p.value? 'n' with
    | some value, _ => count value "bytes" fun n => call.passOn p.operands cannotOpen (ofBytes n)
    | none, value => count (value.getD ['1', '0']) "lines" fun n =>
      call.passOn p.operands cannotOpen fun bytes => (ofLines n (linesWithEnds bytes)).flatten
where
  /-- The complaint about a count. -/
  wrong (value : Bytes) (unit : String) : Yield :=
    { err := call.name ++ bytesOf (": invalid number of " ++ unit ++ ": ") ++ inQuotes value ++ ['\n'], status := 1 }

def Tool.head : Tool := fun call => part call List.take List.take

/-- The tool that passes on the end of files. -/
def Tool.tail : Tool := fun call =>
  part call (fun n lines => lines.drop (lines.length - n)) (fun n bytes => bytes.drop (bytes.length - n))

/-- The number of words in bytes. -/
def countWords (bytes : Bytes) : Nat :=
  ((bytes.splitOnP isBlankByte).filter (! ·.isEmpty)).length

def padCount (width n : Nat) : Bytes :=
  let digits := Nat.toDigits 10 n
  List.replicate (width - digits.length) ' ' ++ digits

/-- The tool that counts lines, words and bytes of files or of its input. -/
def Tool.wc : Tool := fun call =>
  Parsed.forCall call "lwcm" "" fun p =>
    let wanted (c : Char) : Bool := p.has c || p.options.isEmpty
    let counts (bytes : Bytes) : List Nat :=
      (if wanted 'l' then [bytes.count '\n'] else []) ++ (if wanted 'w' then [countWords bytes] else []) ++
        (if wanted 'c' ∨ p.has 'm' then [bytes.length] else [])
    let all := call.passOn p.operands pathAlone id
    let width :=
      if p.operands.length ≤ 1 ∧ (counts []).length = 1 then 1
      else if p.operands.isEmpty ∨ p.operands.contains ['-'] then 7
      else (Nat.toDigits 10 all.out.length).length
    let line (bytes : Bytes) (name : Bytes) : Bytes :=
      [' '].intercalate ((counts bytes).map (padCount width)) ++ name ++ ['\n']
    if p.operands.isEmpty then { out := line call.input [] }
    else
      { all with
        out := p.operands.flatMap (fun path =>
          match call.content path with
          | .ok bytes => line bytes (' ' :: pathAlone path)
          | .error _ => []) ++
          if p.operands.length = 1 then [] else line all.out " total".toList }

/-- The bytes that a set stands for. -/
def byteSet : (fuel : Nat) → Bytes → Bytes
  | 0, _ => []
  | _ + 1, [] => []
  | fuel + 1, a :: '-' :: b :: rest =>
    (List.range (b.toNat + 1 - a.toNat)).map (fun i => Char.ofNat (a.toNat + i)) ++ byteSet fuel rest
  | fuel + 1, '\\' :: 'n' :: rest => '\n' :: byteSet fuel rest
  | fuel + 1, '\\' :: 't' :: rest => '\t' :: byteSet fuel rest
  | fuel + 1, '\\' :: '\\' :: rest => '\\' :: byteSet fuel rest
  | fuel + 1, c :: rest => c :: byteSet fuel rest

/-- The tool that exchanges or deletes bytes of its input. -/
def Tool.tr : Tool := fun call =>
  Parsed.forCall call "d" "" fun p =>
    match p.has 'd', p.operands with
    | true, [set] =>
      let set := byteSet (set.length + 1) set
      { out := call.input.filter (! set.contains ·) }
    | false, [source, target] =>
      let source := byteSet (source.length + 1) source
      let target := byteSet (target.length + 1) target
      { out := call.input.map fun c =>
          match source.reverse.zipIdx.find? (·.1 == c) with
          | some (_, i) => (target[source.length - 1 - i]?.or target.getLast?).getD c
          | none => c }
    | _, [] => .misuse call (bytesOf "missing operand")
    | true, _ :: extra :: _ => .misuse call (bytesOf "extra operand " ++ inQuotes extra)
    | false, [arg] =>
      .misuse call (bytesOf "missing operand after " ++ inQuotes arg ++
        bytesOf "\nTwo strings must be given when translating.")
    | false, _ :: _ :: extra :: _ => .misuse call (bytesOf "extra operand " ++ inQuotes extra)

/-- Whether bytes come before others, or are the same. -/
def bytesLe : Bytes → Bytes → Bool
  | [], _ => true
  | _ :: _, [] => false
  | a :: as, b :: bs => a < b || (a == b && bytesLe as bs)

def Tool.sort : Tool := fun call =>
  Parsed.forCall call "rnu" "" fun p =>
    let y := call.passOn p.operands (fun path => bytesOf "cannot read: " ++ pathAlone path) id
    let lines := (linesWithEnds y.out).map fun line => if line.getLast? = some '\n' then line.dropLast else line
    let value (line : Bytes) : Int :=
      let (negative, digits) := Text.splitSign (line.dropWhile isBlankByte)
      let n := (takeDigits 10 digits).1
      if negative then -(n : Int) else n
    let le (a b : Bytes) : Bool :=
      if p.has 'n' then value a < value b || (value a == value b && bytesLe a b) else bytesLe a b
    let sorted := lines.mergeSort fun a b => if p.has 'r' then le b a else le a b
    let kept := if p.has 'u' then sorted.eraseReps else sorted
    if y.status = 0 then { y with out := kept.flatMap (· ++ ['\n']) } else { y with out := [], status := 2 }

/-- The last name of a path. -/
def baseName (path : Bytes) : Bytes :=
  match path.reverse.dropWhile (· == '/') with
  | [] => path.take 1
  | rest => (rest.takeWhile (· != '/')).reverse

/-- The tool that shows the last name of a path. -/
def Tool.basename : Tool := fun call =>
  Parsed.forCall call "" "" fun p =>
    match p.operands with
    | [] => .misuse call (bytesOf "missing operand")
    | [path] => { out := baseName path ++ ['\n'] }
    | [path, suffix] =>
      let name := baseName path
      let cut := name.take (name.length - suffix.length)
      { out := (if suffix.isSuffixOf name ∧ cut ≠ [] then cut else name) ++ ['\n'] }
    | _ :: _ :: extra :: _ => .misuse call (bytesOf "extra operand " ++ inQuotes extra)

/-- A path without its last name. -/
def dirName (path : Bytes) : Bytes :=
  let before := (path.reverse.dropWhile (· == '/')).dropWhile (· != '/')
  match before.dropWhile (· == '/') with
  | [] => if path.head? = some '/' then ['/'] else ['.']
  | rest => rest.reverse

/-- The tool that shows paths without their last names. -/
def Tool.dirname : Tool := fun call =>
  Parsed.forCall call "" "" fun p =>
    if p.operands.isEmpty then .misuse call (bytesOf "missing operand")
    else { out := p.operands.flatMap fun path => dirName path ++ ['\n'] }

end WatchTrial.Rehearsal
