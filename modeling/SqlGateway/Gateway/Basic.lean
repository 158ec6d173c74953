import SqlGateway.Cursor.Out
import SqlGateway.Execution.Options
import SqlGateway.Sql.Classification
import SqlGateway.Sql.Normal
import SqlGateway.Sql.Resolution

/-!
# Gateways

A gateway turns SQL text and parameters into queries, updates and procedure calls. All that is wrong
with the text or the parameters is found here, before a connection is asked for.
-/

namespace SqlGateway

/-- Where a connection comes from: there is one, or one is asked for each time. -/
inductive Provider where
  | shared
  | onDemand
  deriving DecidableEq, Repr

structure Gateway where
  provider : Provider := .shared
  config : Config := {}

inductive Params where
  | none
  | positional (values : List Value)
  | named (bindings : Bindings Value)

structure Select where
  provider : Provider
  query : Sql.Resolved Value
  options : Options

structure Update where
  provider : Provider
  sql : String
  rows : List (List Value)
  options : Options

structure ProcedureCall (τ : Type) where
  provider : Provider
  sql : String
  params : List Parameter
  options : Options
  handler : Option (OutMapper τ) := none

namespace Gateway

open Sql

variable (g : Gateway)

def options : Options :=
  g.config.options

def build (sql : String) (params : Params) : Except Error (Resolved Value) := do
  let clean ← normalize sql
  match params with
  | .none => return ⟨clean, []⟩
  | .positional values =>
    checkPositional clean values.length
    return ⟨clean, values⟩
  | .named bindings => resolve clean bindings

def expectKind (sql : String) (kind : StatementKind) : Except Error Unit :=
  if classify sql = kind then .ok () else .error (.misuse (.notOfKind sql kind))

def select (sql : String) (params : Params) : Except Error Select := do
  let query ← build sql params
  expectKind query.sql .select
  return ⟨g.provider, query, g.options⟩

def update (sql : String) (params : Params) : Except Error Update := do
  let query ← build sql params
  expectKind query.sql .dml
  return ⟨g.provider, query.sql, [query.values], g.options⟩

def updateBatch (sql : String) (rows : List (List Value)) : Except Error Update := do
  let clean ← normalize sql
  let width := (rows.head?.map List.length).getD 0
  if rows.any (·.length != width) then throw (.misuse .unevenRows)
  checkPositional clean width
  expectKind clean .dml
  return ⟨g.provider, clean, rows, g.options⟩

/-- Resolves a text for rows of bindings. Each has to give the same text as the first. -/
def resolveRows (clean : String) (first : Option String) :
    List (Bindings Value) → Except Error (Option String × List (List Value))
  | [] => return (first, [])
  | bindings :: rest => do
    let row ← resolve clean bindings
    match first with
    | some sql =>
      if sql = row.sql then
        let (sql, rows) ← resolveRows clean (some sql) rest
        return (sql, row.values :: rows)
      else throw (.misuse (.unequalTexts clean sql row.sql))
    | none =>
      let (sql, rows) ← resolveRows clean (some row.sql) rest
      return (sql, row.values :: rows)

def updateNamedBatch (sql : String) (rows : List (Bindings Value)) : Except Error Update := do
  let clean ← normalize sql
  let (resolved, rows) ← resolveRows clean none rows
  let sql := resolved.getD clean
  expectKind sql .dml
  return ⟨g.provider, sql, rows, g.options⟩

def call {τ : Type} (sql : String) (params : List Parameter) : Except Error (ProcedureCall τ) := do
  let clean ← normalize sql
  if params.all (!·.isNamed) then checkPositional clean params.length
  let ⟨sql, params⟩ ← resolveCall clean params
  if isProcedureCall sql then return { provider := g.provider, sql, params, options := g.options }
  else throw (.misuse (.notCall sql))

end Gateway

end SqlGateway
