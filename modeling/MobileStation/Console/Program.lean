import MobileStation.Config.Document
import MobileStation.Console.Session
import MobileStation.Text.Terminal

/-!
# The program

A station run from a terminal: its start from a configuration file, the answer to every line that
the user types, and its end. `Program.run` is a whole run without the passing of time.
-/

namespace MobileStation.Console

/-! ## Start -/

/-- Why a file cannot be read. -/
inductive FileError where
  | notFound
  | permissionDenied
  | isDirectory
  /-- The file holds no text. -/
  | notText
  | other (text : String)
  deriving DecidableEq

/-- Wording of the error. -/
def FileError.message : FileError → String
  | notFound => "No such file or directory (os error 2)"
  | permissionDenied => "Permission denied (os error 13)"
  | isDirectory => "Is a directory (os error 21)"
  | notText => "stream did not contain valid UTF-8"
  | other text => text

/-- Why the program does not start. -/
inductive StartError where
  | unreadable (path : String) (error : FileError)
  | malformed (path : String) (error : Yaml.DecodeError)
  | invalid (error : ConfigError)
  deriving DecidableEq

/-- The name under which the program reports errors. -/
def programName : String := "gsm-ms"

/-- A failure to load a file, with what failed and once more the bare reason. -/
def loadFailure (path activity reason : String) : String :=
  "Failed to load configuration from " ++ path ++ ": " ++ activity ++ ": " ++ reason ++ ": " ++
    reason

/-- Wording of the error. -/
def StartError.message (e : StartError) : String :=
  programName ++ ": " ++ match e with
    | unreadable path error => loadFailure path "I/O error" error.message
    | malformed path error => loadFailure path "YAML parse error" error.message
    | invalid error => "Invalid configuration: " ++ error.message

/-- The configuration in a file, checked. -/
def loadConfig (path : String) (contents : Except FileError String) : Except StartError Config :=
  match contents with
  | .error e => .error (.unreadable path e)
  | .ok text =>
    match Config.ofText text with
    | .error e => .error (.malformed path e)
    | .ok config =>
      match config.validate with
      | .error e => .error (.invalid e)
      | .ok () => .ok config

/-! ## Reports -/

/-- What the program writes. -/
inductive Report where
  | log (level : LogLevel) (text : String)
  /-- What the station sent. It is logged. -/
  | output (output : Output)
  /-- The state that the user asked for. -/
  | state (snapshot : Snapshot)
  deriving DecidableEq

namespace Report

/-- The report is written at this level. -/
def isShown (level : LogLevel) : Report → Bool
  | log line _ => level.shows line
  | output _ => level.shows .info
  | state _ => true

/-- The numbers of a state as a document. -/
def stateText (s : Snapshot) : String :=
  Yaml.Printer.document
    [("state", .number s.state), ("substate", s.substate.elim .null fun n => .number n)]

/-- A line of the log. -/
def logLine (level : LogLevel) (text : String) : String :=
  level.capitalName ++ " " ++ Text.forTerminal text

/-- The report as text. -/
def text : Report → String
  | log level text => logLine level text
  | output o => logLine .info o.text
  | state s => stateText s

end Report

/-! ## Running -/

/-- The running program. -/
structure Program where
  mailbox : Mailbox
  session : Session := .start
  /-- The user has ended the program. -/
  isOver : Bool := false
  deriving DecidableEq

namespace Program

/-- Who the station is. -/
def identityText (config : Config) : String :=
  match config.sim with
  | some sim => "IMSI " ++ sim.imsi ++ ", IMEI " ++ config.imei
  | none => "No SIM, IMEI " ++ config.imei

/-- The program at its start. -/
def start (config : Config) : List Report × Program :=
  ( [.log .info "gsmsim MS - GSM Mobility Management", .log .info (identityText config),
      .log .info help],
    { mailbox := { station := .ofConfig config } } )

/-- What is logged of a delivery: the opening of a connection. -/
def announcement : Delivery → List Report
  | .input (.cm p) =>
    if p.type = .establishRequest then
      [.log .info
        s!"{p.protocol.text} connection ref={p.reference.toNat} ti={p.transaction.toNat}"]
    else []
  | _ => []

/-- Carries out a command. -/
def execute (p : Program) (now chance : Nat) : Command → List Report × Program
  | .quit => ([], { p with isOver := true })
  | .status => (p.mailbox.snapshot?.toList.map .state, p)
  | command =>
    match p.session.deliver chance command with
    | .error e => ([.log .warn e.message], p)
    | .ok (delivery, session) =>
      let (outputs, mailbox) := p.mailbox.deliver now delivery
      (announcement delivery ++ outputs.map .output,
        { p with mailbox := mailbox, session := session })

/-- Answers a line. -/
def readLine (p : Program) (now chance : Nat) (line : String) : List Report × Program :=
  match Command.ofLine line with
  | .ok none => ([], p)
  | .ok (some command) => p.execute now chance command
  | .error e => ([.log .warn e.message], p)

/-- Lets time pass. -/
def tick (p : Program) (now : Nat) : List Report × Program :=
  let (outputs, mailbox) := p.mailbox.tick now
  (outputs.map .output, { p with mailbox := mailbox })

/-- Ends the program. -/
def finish (p : Program) : List Report × Program :=
  ([.log .info "MS exited successfully"], { p with mailbox := p.mailbox.close })

/-- Answers lines until the user ends the program or there are no more. -/
def readLines (p : Program) : List String → List Report × Program
  | [] => ([], p)
  | line :: rest =>
    let (reports, p) := p.readLine 0 0 line
    if p.isOver then (reports, p)
    else
      let (more, p) := p.readLines rest
      (reports ++ more, p)

/-- What a whole run reports at a level, if no time passes. -/
def run (config : Config) (level : Option LogLevel) (lines : List String) : List Report :=
  let (first, p) := start config
  let (reports, p) := p.readLines lines
  let (last, _) := p.finish
  (first ++ reports ++ last).filter (Report.isShown (level.getD config.logLevel))

end Program

end MobileStation.Console
