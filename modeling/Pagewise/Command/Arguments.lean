import Pagewise.Command.Basic

/-!
Reading arguments. Options of the program may stand before the task or after it, and count there;
those of a task stand after it. An option's value is attached, or it is the next argument that is no
option. A value that stands apart is looked at only when the next option comes or the arguments end,
and for the options before a task that is after the whole task has been read: of two faults, the one
looked at first is reported.
-/
namespace Pagewise.Command

inductive TaskName where
  | operations
  | validate
  | pages
  | items
  deriving DecidableEq, Repr

namespace TaskName

def ofName? : String → Option TaskName
  | "operations" => some .operations
  | "validate" => some .validate
  | "pages" => some .pages
  | "items" => some .items
  | _ => none

def isRun : TaskName → Bool
  | .pages | .items => true
  | _ => false

end TaskName

def helpWord : String := "help"

def isTaskWord (word : String) : Bool := word == helpWord || (TaskName.ofName? word).isSome

inductive Key where
  | model
  | config
  | format
  | operation
  | input
  | pageSize
  | maxPages
  deriving DecidableEq, Repr

inductive Switch where
  | verbose
  | help
  | version
  deriving DecidableEq, Repr

inductive Choice where
  | value (key : Key)
  | switch (s : Switch)
  deriving DecidableEq, Repr

abbrev Place := Option TaskName

def commonChoices : List (Char × String × Choice) :=
  [('m', "model", .value .model), ('C', "config", .value .config), ('f', "format", .value .format),
    ('v', "verbose", .switch .verbose), ('h', "help", .switch .help)]

def ofLetter? (place : Place) (letter : Char) : Option Choice :=
  (commonChoices.find? fun c => c.1 == letter).map (·.2.2) <|>
    match place, letter with
    | none, 'V' => some (.switch .version)
    | some task, 'o' => if task.isRun then some (.value .operation) else none
    | _, _ => none

def ofName? (place : Place) (name : String) : Option Choice :=
  (commonChoices.find? fun c => c.2.1 == name).map (·.2.2) <|>
    match place with
    | none => if name == "version" then some (.switch .version) else none
    | some task =>
      if task.isRun then
        match name with
        | "operation" => some (.value .operation)
        | "input-json" => some (.value .input)
        | "page-size" => some (.value .pageSize)
        | "max-pages" => some (.value .maxPages)
        | _ => none
      else none

/-! ### Values -/

structure Settings where
  model : Option String
  config : Option String
  format : Option OutputFormat
  verbose : Bool
  operation : Option String
  input : Option String
  pageSize : Option Nat
  maxPages : Option Nat
  deriving DecidableEq, Repr

namespace Settings

def empty : Settings := ⟨none, none, none, false, none, none, none, none⟩

def isEmpty (s : Settings) : Bool := s == empty

def orElse (s t : Settings) : Settings where
  model := s.model <|> t.model
  config := s.config <|> t.config
  format := s.format <|> t.format
  verbose := s.verbose || t.verbose
  operation := s.operation <|> t.operation
  input := s.input <|> t.input
  pageSize := s.pageSize <|> t.pageSize
  maxPages := s.maxPages <|> t.maxPages

def path? (text : String) : Option String := if text.isEmpty then none else some text

/-- A page size has 32 bits; zero may be negative. -/
def pageSize? (text : String) : Option Nat :=
  match text.toList with
  | '-' :: digits => (Number.natural? 1 digits).filter fun _ => digits.head? != some '+'
  | cs => Number.natural? UInt32.size cs

def maxPages? (text : String) : Option Nat := Number.natural? UInt64.size text.toList

def fill {α : Type} (old : Option α) (new : Option α) (fault : Usage) : Except Usage (Option α) :=
  match old, new with
  | some _, _ => .error .repeatedOption
  | none, some a => .ok (some a)
  | none, none => .error fault

def set (s : Settings) (key : Key) (text : String) : Except Usage Settings :=
  match key with
  | .model => (fill s.model (path? text) .badValue).map fun v => { s with model := v }
  | .config => (fill s.config (path? text) .badValue).map fun v => { s with config := v }
  | .format =>
    (fill s.format (OutputFormat.ofName? text) .badValue).map fun v => { s with format := v }
  | .operation => (fill s.operation (some text) .badValue).map fun v => { s with operation := v }
  | .input => (fill s.input (some text) .badValue).map fun v => { s with input := v }
  | .pageSize =>
    (fill s.pageSize (pageSize? text) .badNumber).map fun v => { s with pageSize := v }
  | .maxPages =>
    (fill s.maxPages (maxPages? text) .badNumber).map fun v => { s with maxPages := v }

end Settings

/-! ### Options -/

/-- Settings, and the option whose value stands apart and has not been looked at. -/
structure Reading where
  settings : Settings
  waiting : Option (Key × Option String)

namespace Reading

def start : Reading := ⟨.empty, none⟩

def wantsValue (r : Reading) : Bool :=
  match r.waiting with
  | some (_, none) => true
  | _ => false

def settle (r : Reading) : Except Usage Settings :=
  match r.waiting with
  | none => .ok r.settings
  | some (_, none) => .error .badValue
  | some (key, some text) => r.settings.set key text

def option (r : Reading) (key : Key) (attached : Option String) : Except Usage Reading := do
  let s ← r.settle
  match attached with
  | some text => return ⟨← s.set key text, none⟩
  | none => return ⟨s, some (key, none)⟩

def switch (r : Reading) (choice : Switch) : Except Usage Reading := do
  let s ← r.settle
  match choice with
  | .help => .error .help
  | .version => .error .version
  | .verbose => if s.verbose then .error .repeatedOption else return ⟨{ s with verbose := true }, none⟩

def long (place : Place) (r : Reading) (name : String) (attached : Option String) :
    Except Usage Reading :=
  match ofName? place name, attached with
  | none, _ => .error .unknownArgument
  | some (.value key), _ => r.option key attached
  | some (.switch _), some _ => .error .valueNotTaken
  | some (.switch choice), none => r.switch choice

def attached? : List Char → Option String
  | [] => none
  | '=' :: rest => some (String.ofList rest)
  | rest => some (String.ofList rest)

/-- Options by letter; one that takes a value takes all the rest. -/
def letters (place : Place) (r : Reading) : List Char → Except Usage Reading
  | [] => .ok r
  | c :: rest =>
    match ofLetter? place c with
    | none => .error .unknownArgument
    | some (.value key) => r.option key (attached? rest)
    | some (.switch choice) => do
      let r ← r.switch choice
      r.letters place rest

def argument (place : Place) (r : Reading) (text : String) : Except Usage Reading :=
  match text.toList with
  | '-' :: '-' :: rest =>
    let name := rest.takeWhile (· != '=')
    r.long place (String.ofList name) (attached? (rest.drop name.length))
  | '-' :: c :: rest => r.letters place (c :: rest)
  | _ =>
    match r.waiting, place with
    | some (key, none), _ => .ok ⟨r.settings, some (key, some text)⟩
    | _, none => .error .unknownTask
    | _, some _ => .error .unknownArgument

end Reading

/-! ### Tasks -/

def endMark : String := "--"

def taskSettings (task : TaskName) (r : Reading) : List String → Except Usage Settings
  | [] => do
    let s ← r.settle
    if task.isRun && s.operation.isNone then .error .optionRequired else return s
  | text :: rest =>
    if text == endMark then
      if rest.isEmpty then taskSettings task r rest else .error .unknownArgument
    else do
      let r ← r.argument (some task) text
      taskSettings task r rest

def Settings.runArguments (s : Settings) : RunArguments :=
  ⟨s.operation.getD "", s.input, s.pageSize, s.maxPages⟩

def Settings.toTask (s : Settings) : TaskName → Task
  | .operations => .operations
  | .validate => .validate
  | .pages => .pages s.runArguments
  | .items => .items s.runArguments

def helpWith : List String → Usage
  | [] => .help
  | [word] => if isTaskWord word then .help else .unknownTask
  | _ => .unknownTask

def commandLine (r : Reading) : List String → Except Usage CommandLine
  | [] => do
    let s ← r.settle
    .error (if s.isEmpty then .nothingAsked else .noTask)
  | text :: rest =>
    if text == endMark then
      match rest with
      | [] => commandLine r rest
      | word :: _ => .error (if isTaskWord word then .unknownArgument else .unknownTask)
    else if !r.wantsValue && text == helpWord then .error (helpWith rest)
    else
      match if r.wantsValue then none else TaskName.ofName? text with
      | some task => do
        let own ← taskSettings task .start rest
        let outer ← r.settle
        let s := own.orElse outer
        return ⟨s.model, s.config, s.format.getD default, s.verbose, s.toTask task⟩
      | none => do
        let r ← r.argument none text
        commandLine r rest

end Command

/-- The command line that arguments, less the program's own name, amount to. -/
def CommandLine.ofArguments (arguments : List String) : Except Usage CommandLine :=
  Command.commandLine .start arguments

end Pagewise
