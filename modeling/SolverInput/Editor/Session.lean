import SolverInput.Editor.Command
import SolverInput.Editor.Dictionary
import SolverInput.Editor.Documents
import SolverInput.Editor.Position
import SolverInput.Editor.Semantic
import SolverInput.Editor.Settings

/-!
# Sessions

A session is what the server remembers between the calls of an editor: the open documents, the
settings and the dictionary. Each call gives a reply, messages for the user, and the session and
files after it.
-/

namespace SolverInput.Editor

/-- How urgent a message is. -/
inductive Level where
  | error
  | warning
  | info
  deriving DecidableEq

/-- The number of a level on the wire. -/
def Level.code : Level → Nat
  | error => 1
  | warning => 2
  | info => 3

/-- Where a message goes: to the log, or to the user. -/
inductive Channel where
  | log
  | user
  deriving DecidableEq

/-- A message to the editor. -/
structure Notice where
  channel : Channel
  level : Level
  text : String
  deriving DecidableEq

/-- A message for the log, written when the editor is ready. -/
structure StartupLine where
  level : Level
  text : String
  deriving DecidableEq

/-- What the server remembers. -/
structure Session where
  defaults : Settings
  settings : Settings
  dictionary : Dictionary := {}
  startup : List StartupLine := []
  documents : Documents := {}
  deriving DecidableEq

/-- A call of an editor. -/
inductive Call where
  /-- Opens the session, with options that are applied like settings. -/
  | handshake (options : Option Json)
  /-- The editor is ready to receive messages. -/
  | ready
  | shutdown
  | opened (uri text : String)
  /-- The document changed; each change is the whole new text. -/
  | changed (uri : String) (texts : List String)
  | closed (uri : String)
  | configured (payload : Json)
  | semanticTokens (uri : String)
  | completion (uri : String) (position : Position)
  | resolve (item : Json)
  | execute (command : String) (arguments : List Json)

/-- The answer to a call. -/
inductive Reply where
  /-- The call is a notification, which has no answer. -/
  | none
  | capabilities
  | null
  | tokens (deltas : List TokenDelta)
  | candidates (labels : List String)
  | item (item : Json)
  | path (path : Path)
  | failure (error : CommandError)

/-- What a call leads to. -/
structure Outcome where
  session : Session
  files : FileTree
  reply : Reply := .none
  notices : List Notice := []

namespace Session

/-- A session with these settings, before any call. -/
def start (settings : Settings) (dictionary : Dictionary) (startup : List StartupLine) : Session :=
  { defaults := settings, settings, dictionary, startup }

/-- The session that a configuration and a loaded dictionary start. -/
def ofConfig (config : Config) (loaded : Dictionary.Loaded) : Session :=
  start (.ofConfig config) loaded.dictionary
    [⟨if loaded.failed then .warning else .info, loaded.message⟩]

/-- Applies a settings payload; a malformed one only leaves a line in the log. -/
def applySettings (s : Session) (payload : Json) : Session × List Notice :=
  let (settings, wellFormed) := Settings.apply s.defaults s.settings payload
  ({ s with settings },
    if wellFormed then [] else [⟨.log, .warning, "Ignoring malformed MInDesServer settings"⟩])

/-- The log lines that greet a ready editor. -/
def greeting (s : Session) : List Notice :=
  s.startup.map (fun line => ⟨.log, line.level, line.text⟩) ++ [⟨.log, .info, "Server initialized"⟩]

/-- The semantic tokens of a document: none while highlighting is off. -/
def tokensOf (s : Session) (text : String) : List TokenDelta :=
  if s.settings.semanticHighlighting then SemanticToken.encode (SemanticToken.ofText text.toList)
  else []

/-- The candidates at a position of a document. -/
def candidatesAt (s : Session) (text : String) (position : Position) : List String :=
  s.dictionary.completions (textBefore text.toList position)

/-- What the user is told about a finished extraction. -/
def extractedNotices (outcome : ExtractOutcome) : List Notice :=
  let skipped := outcome.malformed.length
  (if skipped = 0 then []
    else [⟨.user, .warning, "Skipped " ++ Nat.repr skipped ++ " malformed row(s)"⟩]) ++
  [⟨.user, .info, "Extracted contents written to: " ++ outcome.output.text⟩]

/-- What the user is told about a failed command. An unknown command is not shown. -/
def failedNotices : CommandError → List Notice
  | .unknown _ => []
  | .missingInput => [⟨.user, .warning, CommandError.missingInput.message⟩]
  | .extract error => [⟨.user, .error, error.message⟩]

/-- Answers a call. -/
def handle (s : Session) (files : FileTree) : Call → Outcome
  | .handshake options =>
    let (session, notices) := match options with
      | some payload => s.applySettings payload
      | none => (s, [])
    { session, files, reply := .capabilities, notices }
  | .ready => { session := s, files, notices := s.greeting }
  | .shutdown => { session := s, files, reply := .null }
  | .opened uri text => { session := { s with documents := s.documents.put uri text }, files }
  | .changed uri texts =>
    match texts.getLast? with
    | some text => { session := { s with documents := s.documents.put uri text }, files }
    | none => { session := s, files }
  | .closed uri => { session := { s with documents := s.documents.erase uri }, files }
  | .configured payload =>
    let (session, notices) := s.applySettings payload
    { session, files, notices }
  | .semanticTokens uri =>
    match s.documents.get? uri with
    | some text => { session := s, files, reply := .tokens (s.tokensOf text) }
    | none => { session := s, files, reply := .null }
  | .completion uri position =>
    match s.documents.get? uri with
    | some text => { session := s, files, reply := .candidates (s.candidatesAt text position) }
    | none => { session := s, files, reply := .null }
  | .resolve item => { session := s, files, reply := .item item }
  | .execute command arguments =>
    match Command.run command arguments s.settings.outputExtension files with
    | .ok outcome written =>
      { session := s, files := written, reply := .path outcome.output,
        notices := extractedNotices outcome }
    | .error error left =>
      { session := s, files := left, reply := .failure error, notices := failedNotices error }

end Session

end SolverInput.Editor
