import SqlGateway.Config.Basic
import SqlGateway.Driver.Session

/-!
# Statement options

Settings of one execution. The driver is told of them before the statement runs; a setting that it
does not have is passed over with a note in the log.
-/

namespace SqlGateway

structure Options where
  timeout : Option Duration := none
  poolable : Bool := false
  escapeProcessing : Bool := true
  /-- Whether row counts are asked for in 64 bits. -/
  large : Bool := false
  /-- Whether rows are sent as a batch where the driver can. -/
  batch : Bool := false
  /-- The isolation level of the transaction around several rows. -/
  isolation : Option IsolationLevel := none
  fetchSize : Option UInt32 := none
  maxRows : Option UInt64 := none
  deriving DecidableEq, Repr

/-- Settings that a caller makes for one execution; those left out stay as they are. -/
structure Settings where
  timeout : Option Duration := none
  poolable : Option Bool := none
  escapeProcessing : Option Bool := none
  large : Option Bool := none
  batch : Option Bool := none
  isolation : Option IsolationLevel := none
  fetchSize : Option UInt32 := none
  maxRows : Option UInt64 := none
  deriving DecidableEq, Repr

namespace Options

def forStatement (o : Options) (s : Settings) : Options :=
  { o with
    timeout := s.timeout <|> o.timeout
    poolable := s.poolable.getD o.poolable
    escapeProcessing := s.escapeProcessing.getD o.escapeProcessing }

def forQuery (o : Options) (s : Settings) : Options :=
  { o.forStatement s with
    fetchSize := s.fetchSize <|> o.fetchSize
    maxRows := s.maxRows <|> o.maxRows }

def forUpdate (o : Options) (s : Settings) : Options :=
  { o.forStatement s with
    large := s.large.getD o.large
    batch := s.batch.getD o.batch
    isolation := s.isolation <|> o.isolation }

end Options

def Config.options (c : Config) : Options where
  timeout := if 0 < c.timeoutSeconds then some ⟨c.timeoutSeconds.toNat, 0⟩ else none
  poolable := c.poolable
  escapeProcessing := c.escapeProcessing
  large := c.large
  batch := c.batch
  isolation := c.isolation
  fetchSize := if 0 < c.fetchSize then some c.fetchSize else none
  maxRows := if 0 < c.maxRows then some c.maxRows else none

variable {σ : Type}

/-- Makes a setting; that the driver does not have it is no failure. -/
def tolerating (setting : String) (act : Act σ Failure Unit) : Act σ Error Unit := do
  match ← ExceptT.lift act.run with
  | .ok () => return ()
  | .error f =>
    if f.isUnsupported then ExceptT.lift (Session.debug s!"Ignoring {setting}: {f.message}")
    else throw (.ofFailure f)

def Driver.applyOptions (d : Driver σ) (i : StatementId) (options : Options) :
    Act σ Error Unit := do
  if let some timeout := options.timeout then
    tolerating "statement timeout" (d.perform (.setTimeout i timeout))
  tolerating "poolable hint" (d.perform (.setPoolable i options.poolable))
  tolerating "escape processing" (d.perform (.setEscapeProcessing i options.escapeProcessing))
  if let some rows := options.fetchSize then
    tolerating "fetch size" (d.perform (.setFetchSize i rows))
  if let some rows := options.maxRows then
    tolerating "max rows" (d.perform (.setMaxRows i rows))

end SqlGateway
