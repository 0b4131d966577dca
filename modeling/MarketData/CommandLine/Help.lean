import MarketData.CommandLine.Usage

/-! Help texts, as they are written to a terminal. The short form puts an option and what it does on
one line, as long as there is room; the long form puts the explanation below, and explains the
choices of a value one by one. -/

namespace MarketData.CommandLine.Help

open Terminal (heading literal)

def spaces (n : Nat) : String := "".pushn ' ' n

def padTo (width : Nat) (s : String) : String := s ++ spaces (width - Terminal.width s)

/-- Lines are this long. -/
def lineWidth : Nat := 100

/-- Explanations on a line of their own start here. -/
def indent : Nat := 10

/-- An option or positional argument as it is shown. -/
structure Item where
  /-- The spelling, with its indentation. -/
  label : String
  /-- The part of the spelling that the explanations are aligned to. -/
  name : String
  /-- Columns before the name. -/
  margin : Nat
  about : String
  notes : List String := []
  choices : List (String × String) := []

/-- What is known of the value of an option, apart from its choices. -/
def valueNotes (a : Argument) : List String :=
  (a.envName.elim [] fun name => ["[env: " ++ name ++ "]"]) ++
    (a.default.elim [] fun value => ["[default: " ++ value ++ "]"])

def aboutOf (long : Bool) (a : Argument) : String :=
  match a.action with
  | .help =>
    if long then "Print help (see a summary with '-h')"
    else "Print help (see more with '--help')"
  | _ => a.about

def Item.ofArgument (long : Bool) (a : Argument) : Item :=
  let short := a.short.elim "    " fun c => literal ("-" ++ String.singleton c) ++ ", "
  let names := ", ".intercalate (a.choices.map (·.1))
  let choiceNote := if long || a.choices.isEmpty then [] else ["[possible values: " ++ names ++ "]"]
  { label := "  " ++ short ++ literal ("--" ++ a.long) ++ a.suffix, name := a.name, margin := 6
    about := aboutOf long a, notes := valueNotes a ++ choiceNote
    choices := if long then a.choices else [] }

/-- The text of an item that stands on the line of its label. -/
def Item.explanation (item : Item) : String := " ".intercalate (item.about :: item.notes)

/-- The explanation does not fit beside labels of the given width, which take up much of a line. -/
def Item.overflows (longest : Nat) (item : Item) : Bool :=
  let taken := longest + item.margin + 2
  let needed := item.about.length + (" ".intercalate item.notes).length
  40 * lineWidth < 100 * taken && lineWidth - taken < needed

/-- The explanation below the label, in paragraphs. -/
def Item.below (item : Item) : String :=
  let margin := spaces indent
  let width := (item.choices.map (·.1.length)).foldl max 0
  let choices := item.choices.map fun (name, about) =>
    "\n" ++ margin ++ "- " ++ padTo (width + 2) (literal name ++ ":") ++ about
  let choicePart :=
    if choices.isEmpty then "" else "\n\n" ++ margin ++ "Possible values:" ++ String.join choices
  let notePart :=
    if item.notes.isEmpty then ""
    else "\n" ++ margin ++ "\n" ++ String.join ((item.notes.map (margin ++ ·)).intersperse "\n")
  item.label ++ "\n" ++ margin ++ item.about ++ choicePart ++ notePart

/-- All items of a section, one form for all of them. -/
def itemLines (long : Bool) (items : List Item) : String :=
  let longest := (items.map (·.name.length)).foldl max 2
  let beside (item : Item) : String :=
    padTo (longest + item.margin + 2) item.label ++ item.explanation
  if long then "\n\n".intercalate (items.map Item.below)
  else if items.any (Item.overflows longest) then
    "\n".intercalate (items.map fun item =>
      item.label ++ "\n" ++ spaces indent ++ item.explanation)
  else "\n".intercalate (items.map beside)

/-- The place of an option in a section: by order, then by its short or long name. -/
def sortKey (a : Argument) : Nat × String :=
  let name :=
    match a.short with
    | some c => String.ofList [c.toLower, if c.isLower then '0' else '1']
    | none => a.long
  (a.order, name)

def precedes (a b : Argument) : Bool :=
  let (m, s) := sortKey a
  let (n, t) := sortKey b
  m < n || m == n && compare s t != .gt

def optionSection (long : Bool) (arguments : List Argument) : String :=
  let shown := (arguments.filter (!·.hidden)).mergeSort precedes
  heading "Options:" ++ "\n" ++ itemLines long (shown.map (Item.ofArgument long))

def positionalItem (name about : String) : Item where
  label := "  " ++ name
  name := name
  margin := 2
  about := about

def argumentSection (long : Bool) (item : Item) : String :=
  heading "Arguments:" ++ "\n" ++ itemLines long [item]

def commandSection : String :=
  let rows :=
    CommandName.all.map (fun c => (c.text, c.about)) ++ [(helpCommandText, helpCommandAbout)]
  let width := (rows.map (·.1.length)).foldl max 0
  heading "Commands:" ++ "\n" ++
    "\n".intercalate (rows.map fun (name, about) =>
      "  " ++ padTo (width + 2) (literal name) ++ about)

/-- A positional argument as it stands in the usage line. -/
def positionalName? : Positional → Option (String × String)
  | .takesNone => none
  | .takesOne name about => some ("<" ++ name ++ ">", about)
  | .takesMany name about => some ("<" ++ name ++ ">...", about)

/-- A page on `words`, which are followed by `operands` on the command line. -/
def page (about : String) (words operands : List String) (sections : List String) : String :=
  let usage := " ".intercalate ([heading "Usage:", literal (" ".intercalate words)] ++ operands)
  "\n\n".intercalate ([about, usage] ++ sections) ++ "\n"

def text (long : Bool) : HelpTopic → String
  | .program =>
    page programAbout [programName] ["[OPTIONS]", "[COMMAND]"]
      [commandSection, optionSection long rootArguments]
  | .command name =>
    let options := optionSection long name.arguments
    match positionalName? name.positional with
    | none => page name.about [programName, name.text] ["[OPTIONS]"] [options]
    | some (shown, about) =>
      page name.about [programName, name.text] ["[OPTIONS]", shown]
        [argumentSection long (positionalItem shown about), options]
  | .helpCommand =>
    page helpCommandAbout [programName, helpCommandText] ["[COMMAND]..."]
      [argumentSection false (positionalItem "[COMMAND]..." "Print help for the subcommand(s)")]

def versionText : String := programName ++ " " ++ programVersion ++ "\n"

end MarketData.CommandLine.Help
