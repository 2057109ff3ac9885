import WatchTrial.CommandLine.Options
/-!
# Commands beside the main one

Two more commands help a shell to complete command lines: one suggests how a command line may go on, and
one explains the completion scripts. Which command is called is decided by the first word that is neither
a flag nor the value of a flag.
-/
namespace WatchTrial.CommandLine

inductive CompletingShell where
  | bash
  | fish
  | powershell
  | zsh
deriving Repr, DecidableEq, Inhabited

namespace CompletingShell

/-- All of them, in ascending order. -/
def all : List CompletingShell := [bash, fish, powershell, zsh]

def name : CompletingShell → String
  | bash => "bash"
  | fish => "fish"
  | powershell => "powershell"
  | zsh => "zsh"

def ofName? (name : String) : Option CompletingShell := all.find? (·.name == name)

def summary (s : CompletingShell) : String := "Generate the autocompletion script for " ++ s.name

/-- How the script of a shell is loaded. -/
def about : CompletingShell → List String
  | bash =>
    ["Generate the autocompletion script for the bash shell.",
      "",
      "This script depends on the 'bash-completion' package.",
      "If it is not installed already, you can install it via your OS's package manager.",
      "",
      "To load completions in your current shell session:",
      "",
      "\tsource <(wearprobe completion bash)",
      "",
      "To load completions for every new session, execute once:",
      "",
      "#### Linux:",
      "",
      "\twearprobe completion bash > /etc/bash_completion.d/wearprobe",
      "",
      "#### macOS:",
      "",
      "\twearprobe completion bash > $(brew --prefix)/etc/bash_completion.d/wearprobe",
      "",
      "You will need to start a new shell for this setup to take effect."]
  | fish =>
    ["Generate the autocompletion script for the fish shell.",
      "",
      "To load completions in your current shell session:",
      "",
      "\twearprobe completion fish | source",
      "",
      "To load completions for every new session, execute once:",
      "",
      "\twearprobe completion fish > ~/.config/fish/completions/wearprobe.fish",
      "",
      "You will need to start a new shell for this setup to take effect."]
  | powershell =>
    ["Generate the autocompletion script for powershell.",
      "",
      "To load completions in your current shell session:",
      "",
      "\twearprobe completion powershell | Out-String | Invoke-Expression",
      "",
      "To load completions for every new session, add the output of the above command",
      "to your powershell profile."]
  | zsh =>
    ["Generate the autocompletion script for the zsh shell.",
      "",
      "If shell completion is not already enabled in your environment you will need",
      "to enable it.  You can execute the following once:",
      "",
      "\techo \"autoload -U compinit; compinit\" >> ~/.zshrc",
      "",
      "To load completions in your current shell session:",
      "",
      "\tsource <(wearprobe completion zsh)",
      "",
      "To load completions for every new session, execute once:",
      "",
      "#### Linux:",
      "",
      "\twearprobe completion zsh > \"$\x7bfpath[1]\x7d/_wearprobe\"",
      "",
      "#### macOS:",
      "",
      "\twearprobe completion zsh > $(brew --prefix)/share/zsh/site-functions/_wearprobe",
      "",
      "You will need to start a new shell for this setup to take effect."]

end CompletingShell

inductive Command where
  | main
  /-- Suggests how a command line may go on, with a description of each suggestion or without. -/
  | suggest (described : Bool)
  | completion
  | script (shell : CompletingShell)
deriving Repr, DecidableEq, Inhabited

section Words

variable {σ : Type} (flags : List (Flag σ))

/-- Whether a word is a flag whose value is the next word. An unknown flag counts as one. -/
def takesNext (word : String) : Bool :=
  match word.toList with
  | '-' :: '-' :: name => ! name.contains '=' && ! flags.any fun f => f.isSwitch && f.name.toList == name
  | ['-', c] => c.toNat < 0x80 && c != '=' && ! flags.any fun f => f.isSwitch && f.letter == some c
  | _ => false

/-- The first word that is neither a flag nor the value of a flag. The value of a flag ends the search if
nothing follows it. -/
def commandWord? : List String → Option String
  | [] => none
  | [w] => if w = "--" ∨ takesNext flags w ∨ w = "" ∨ w.startsWith "-" then none else some w
  | w :: v :: rest =>
    if w = "--" then none
    else if takesNext flags w then if rest.isEmpty then none else commandWord? rest
    else if w ≠ "" ∧ ¬ w.startsWith "-" then some w
    else commandWord? (v :: rest)

/-- Words without the first one that is a given word and neither a flag nor the value of a flag. -/
def dropCommandWord (word : String) : List String → List String
  | [] => []
  | [w] => if w = word ∧ ¬ w.startsWith "-" then [] else [w]
  | w :: v :: rest =>
    if w = "--" then w :: v :: rest
    else if takesNext flags w then w :: v :: dropCommandWord word rest
    else if w = word ∧ ¬ w.startsWith "-" then v :: rest
    else w :: dropCommandWord word (v :: rest)

end Words

namespace Command

/-- The command that words call after the word for completion, and what is left of them. -/
def afterCompletion (flags : List (Flag Options)) (words : List String) : Command × List String :=
  match (commandWord? flags words).bind CompletingShell.ofName? with
  | some shell => (script shell, dropCommandWord flags shell.name words)
  | none => (completion, words)

/-- The command that a command line calls, and what is left of the line. -/
def called (flags : List (Flag Options)) (line : List String) : Command × List String :=
  match commandWord? flags line with
  | some "__complete" => (suggest true, dropCommandWord flags "__complete" line)
  | some "__completeNoDesc" => (suggest false, dropCommandWord flags "__completeNoDesc" line)
  | some "completion" => afterCompletion flags (dropCommandWord flags "completion" line)
  | _ => (main, line)

/-- The last word of a command's name. -/
def name : Command → String
  | main => "wearprobe"
  | suggest _ => "__complete"
  | completion => "completion"
  | script shell => shell.name

/-- The flags that only one command has, in ascending order. -/
def ownFlags (c : Command) : List (Flag Options) :=
  Options.helpFlag c.name ::
    match c with
    | script _ =>
      [{ name := "no-descriptions", usage := "disable completion descriptions",
         set := Options.setSwitch fun _ o => o }]
    | _ => []

def flags (value : String → String) (c : Command) : List (Flag Options) :=
  match c with
  | main => Options.flags value
  | c => Options.commonFlags value ++ c.ownFlags

def aboutCompletion : List String :=
  ["Generate the autocompletion script for wearprobe for the specified shell.",
    "See each sub-command's help for details on how to use the generated script."]

def helpText (value : String → String) (c : Command) : String :=
  let flagLines := ["", "Flags:", Flag.help c.ownFlags, "", "Global Flags:", Flag.help (Options.commonFlags value)]
  "\n".intercalate <|
    match c with
    | completion =>
      aboutCompletion ++ ["", "Usage:", "  wearprobe completion [command]", "", "Available Commands:"] ++
        CompletingShell.all.map (fun s =>
          "  " ++ s.name ++ String.ofList (List.replicate (12 - s.name.length) ' ') ++ s.summary) ++
        flagLines ++
        ["", "Use \"wearprobe completion [command] --help\" for more information about a command.", ""]
    | script shell =>
      shell.about ++
        ["", "Usage:",
          "  wearprobe completion " ++ shell.name ++ (if shell = .bash then "" else " [flags]")] ++
        flagLines ++ [""]
    | _ => [Options.helpText value]

end Command

/-- What a suggestion is asked for: a flag whose value is being written, if there is one, the words before,
and the word that is being written. -/
structure Request where
  flag : Option (Flag Options) := none
  words : List String
  last : String
  /-- Whether the flag whose value is being written is unknown. -/
  unknown : Bool := false

namespace Request

/-- The flag of a name; a single letter names a flag by its letter. -/
def flagOf? (flags : List (Flag Options)) (name : List Char) : Option (Flag Options) :=
  match name with
  | [c] => flags.find? (·.letter == some c)
  | name => flags.find? (·.name.toList == name)

/-- The name of the flag that a word gives: the whole name, or the last of its letters. -/
def nameIn (word : List Char) : List Char :=
  match word with
  | '-' :: '-' :: name => name
  | letters => letters.drop (letters.length - 1)

/-- The name of the flag in the last word, whose value comes next. -/
def openFlag (words : List String) : List Char :=
  match (words.getLast?.getD "").toList with
  | '-' :: c :: rest =>
    if (c = '-' ∧ rest = []) ∨ ('-' :: c :: rest).contains '=' then [] else nameIn ('-' :: c :: rest)
  | _ => []

/-- Finds what is being written from the words before and the last word. -/
def ofWords (flags : List (Flag Options)) (words : List String) (last : String) : Request :=
  let word := last.toList
  let isFlag := word.head? == some '-'
  if isFlag && ! word.contains '=' then { words, last }
  else
    let ownName := if isFlag then nameIn (word.takeWhile (· != '=')) else []
    let rest := if isFlag then String.ofList ((word.dropWhile (· != '=')).drop 1) else last
    let (name, before) :=
      if ownName.isEmpty then
        match openFlag words with
        | [] => ([], words)
        | name => (name, words.dropLast)
      else (ownName, words)
    if name.isEmpty then { words := before, last := rest }
    else
      match flagOf? flags name with
      | none => { words, last, unknown := true }
      | some f =>
        if ! isFlag && f.isSwitch then { words, last := rest }
        else { flag := some f, words := before, last := rest }

end Request

/-- What a shell does after a suggestion: anything it likes, or nothing but take what is suggested. -/
inductive Guidance where
  | free
  | noFiles
deriving Repr, DecidableEq, Inhabited

def Guidance.code : Guidance → Nat
  | free => 0
  | noFiles => 4

/-- A suggestion: words with their descriptions, and what the shell may do with them. -/
structure Suggestion where
  words : List (String × String) := []
  guidance : Guidance := .free
deriving Repr, DecidableEq, Inhabited

namespace Suggestion

/-- The ways to write a flag that go on from a word. -/
def ofFlag (start : String) (f : Flag Options) : List (String × String) :=
  (("--" ++ f.name) :: (f.letter.map fun c => "-" ++ String.singleton c).toList).filterMap fun word =>
    if start.toList.isPrefixOf word.toList then some (word, f.usage) else none

/-- Whether a flag may be suggested: it was not given, or takes a list. -/
def mayFollow (given : List String) (f : Flag Options) : Bool := ! given.contains f.name || f.takes == "strings"

/-- The suggestion for a request, given what was read from the words before it. -/
def ofReading (c : Command) (flags : List (Flag Options)) (q : Request) (flagsOpen : Bool)
    (r : Reading Options) : Suggestion :=
  if r.fault.isSome ∨ (q.unknown ∧ flagsOpen) then {}
  else if r.given.contains "help" then { guidance := .noFiles }
  else if q.flag.isNone ∧ q.last.startsWith "-" ∧ ¬ q.last.contains '=' ∧ flagsOpen then
    { words := (flags.filter (mayFollow r.given)).flatMap (ofFlag q.last), guidance := .noFiles }
  else
    { words :=
        if q.flag.isNone ∧ c = .completion ∧ r.words.isEmpty then
          (CompletingShell.all.filter fun s => q.last.toList.isPrefixOf s.name.toList).map fun s =>
            (s.name, s.summary)
        else []
      guidance := if c = .main ∨ (q.flag.isSome ∧ flagsOpen) then .free else .noFiles }

/-- Suggests how a line goes on whose last word is being written. What the line sets is set: its words are
read once with the end of the flags after them, which shows whether a flag may follow, and once as they are. -/
def ofLine (value : String → String) (line : List String) (r : Reading Options) : Suggestion × Reading Options :=
  let common := Options.commonFlags value
  let (c, words) :=
    match line.dropLast with
    | "completion" :: words => Command.afterCompletion common words
    | words => (.main, words)
  let flags := c.flags value
  let q := Request.ofWords flags words (line.getLast?.getD "")
  let ended := Flag.readOn flags r (q.words ++ ["--"])
  let r := Flag.readOn flags ended q.words
  (ofReading c flags q (ended.words.length ≤ r.words.length) r, r)

def text (s : Suggestion) (described : Bool) : String :=
  String.join (s.words.map fun (word, description) =>
    word ++ (if described then "\t" ++ description else "") ++ "\n") ++
    ":" ++ toString s.guidance.code ++ "\n"

end Suggestion
end WatchTrial.CommandLine
