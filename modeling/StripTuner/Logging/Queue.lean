import StripTuner.Lib.Loop
import StripTuner.Lib.Threads

/-!
# Logging

`logging.c`: any number of tasks write records to one queue, and the log writer task sends them to
the UART. A full queue gives up its oldest record.
-/

namespace StripTuner.Logging

open DeviceCalls DeviceCalls.Prog

/-! ## Records -/

/-- `LOG_QUEUE_DEPTH`. -/
abbrev logQueueDepth : Nat := 16

/-- `LOG_MODULE_NAME_MAX_LEN`. -/
abbrev logModuleNameMaxLen : Nat := 15

/-- `LOG_MESSAGE_MAX_LEN`, with the terminator. -/
abbrev logMessageMaxLen : Nat := 128

/-- `LOG_LINE_MAX_LEN`, with the terminator. -/
abbrev logLineMaxLen : Nat := logMessageMaxLen + 48

/-- `log_level_t`. -/
inductive LogLevel where
  | debug
  | info
  | warning
  | error
deriving DecidableEq

/-- `s_level_name`. -/
def levelName : LogLevel → String
  | .debug => "DEBUG"
  | .info => "INFO"
  | .warning => "WARNING"
  | .error => "ERROR"

/-- `log_record_t`: the characters before the terminators. -/
structure LogRecord where
  level : LogLevel
  moduleName : List UInt8
  message : List UInt8
deriving DecidableEq

/-- The record that `LogWrite()` builds from the module name and the formatted text. -/
def buildRecord (level : LogLevel) (moduleName text : List UInt8) : LogRecord where
  level := level
  moduleName := moduleName.take logModuleNameMaxLen
  message := text.take (logMessageMaxLen - 1)

/-- The bytes of a text. -/
def textBytes (text : String) : List UInt8 := text.toUTF8.toList

/-- `FormatRecord()`; the uptime is left out without `CONFIG_LOG_TIMESTAMP_ENABLE`. -/
def formatRecord (uptimeMs : Option Int) (record : LogRecord) : List UInt8 :=
  let stamp := uptimeMs.elim [] fun ms => textBytes "[" ++ textBytes (toString ms) ++ textBytes "]"
  let line := stamp ++ textBytes "[" ++ textBytes (levelName record.level) ++ textBytes "][" ++
    record.moduleName ++ textBytes "] " ++ record.message ++ textBytes "\n"
  line.take (logLineMaxLen - 1)

/-- A record, and the number of the `LogWrite()` call that writes it. -/
structure LogEntry where
  number : Nat
  record : LogRecord
deriving DecidableEq

/-! ## Tasks -/

/-- The steps of the tasks. `LogWrite()` sends a record with `send`; when that fails, it makes room
with `discard` and sends again with `sendAgain`. -/
inductive LogCall where
  | isInitialized
  | send (entry : LogEntry)
  | discard
  | sendAgain (entry : LogEntry)
  | receive
  | uptime
  | uartWrite (line : List UInt8)
deriving DecidableEq

abbrev LogCall.Answer : LogCall → Type
  | .isInitialized | .send _ | .sendAgain _ => Bool
  | .discard => Option LogEntry
  | .receive => LogEntry
  | .uptime => Int
  | .uartWrite _ => Unit

abbrev LogTask : Type → Type := Prog LogCall LogCall.Answer

/-- The queue operations of `LogWrite()`. -/
def queueRecord (entry : LogEntry) : LogTask Unit := do
  let isSent ← (perform (LogCall.send entry) : LogTask Bool)
  if isSent then
    return ()
  else do
    let _ ← (perform LogCall.discard : LogTask (Option LogEntry))
    let _ ← (perform (LogCall.sendAgain entry) : LogTask Bool)
    return ()

/-- `LogWrite()`. -/
def logWrite (entry : LogEntry) : LogTask Unit := do
  let isInitialized ← (perform LogCall.isInitialized : LogTask Bool)
  if isInitialized then queueRecord entry else return ()

/-- An iteration of `LogWriterTask()`. -/
def writeRecord (hasTimestamp : Bool) : LogTask Unit := do
  let entry ← (perform LogCall.receive : LogTask LogEntry)
  let uptimeMs ← (if hasTimestamp then some <$> (perform LogCall.uptime : LogTask Int)
    else pure none)
  perform (LogCall.uartWrite (formatRecord uptimeMs entry.record))

/-! ## The system -/

/-- The queue, the number of calls, and what has happened to the records: those placed in the queue,
those that the log writer task has taken, the queues from which the oldest one was discarded, and
the lines. -/
structure LogState where
  isInitialized : Bool
  queue : List LogEntry
  calls : Nat
  placed : List LogEntry
  received : List LogEntry
  discards : List (List LogEntry)
  lines : List (List UInt8)

namespace LogState

def isFull (s : LogState) : Bool := decide (logQueueDepth ≤ s.queue.length)

def place (s : LogState) (entry : LogEntry) : LogState :=
  { s with queue := s.queue ++ [entry], placed := s.placed ++ [entry] }

/-- After `LogInit()`. -/
def start : LogState := ⟨true, [], 0, [], [], [], []⟩

end LogState

/-- `xQueueSend()` without waiting. -/
def sendEntry (s : LogState) (entry : LogEntry) : Bool × LogState :=
  if s.isFull then (false, s) else (true, s.place entry)

def logDevice : Device LogCall LogCall.Answer LogState
  | .isInitialized, s, r, t => r = s.isInitialized ∧ t = s
  | .send entry, s, r, t | .sendAgain entry, s, r, t => (r, t) = sendEntry s entry
  | .discard, s, r, t =>
    match s.queue with
    | [] => r = none ∧ t = s
    | oldest :: rest =>
      r = some oldest ∧ t = { s with queue := rest, discards := s.discards ++ [s.queue] }
  | .receive, s, r, t =>
    ∃ rest, s.queue = r :: rest ∧ t = { s with queue := rest, received := s.received ++ [r] }
  | .uptime, s, _, t => t = s
  | .uartWrite line, s, _, t => t = { s with lines := s.lines ++ [line] }

/-- A task is one of any number that write, or the log writer task. -/
abbrev LogTasks (τ : Type) : Type :=
  Threads (Option τ) LogCall LogCall.Answer (Option LogEntry) LogState

/-- A task calls `LogWrite()`, which returns with its entry; the log writer task starts over. -/
inductive LogNext {τ : Type} (hasTimestamp : Bool) : Option τ → Option LogEntry → LogState →
    LogTask (Option LogEntry) → LogState → Prop where
  | write (t : τ) (a : Option LogEntry) (s : LogState) (level : LogLevel)
      (moduleName text : List UInt8) :
      LogNext hasTimestamp (some t) a s
        (logWrite ⟨s.calls, buildRecord level moduleName text⟩ >>= fun _ =>
          pure (some ⟨s.calls, buildRecord level moduleName text⟩))
        { s with calls := s.calls + 1 }
  | loop (a : Option LogEntry) (s : LogState) :
      LogNext hasTimestamp none a s (writeRecord hasTimestamp >>= fun _ => pure none) s

def LogTasks.start (τ : Type) : LogTasks τ := ⟨fun _ => .ret none, .start⟩

end StripTuner.Logging
