import SqlGateway.Config.Format

/-!
# Configuration files

A configuration is loaded from a file and saved to one. Where no file can be read, or it holds no
configuration, the defaults are used.
-/

namespace SqlGateway

inductive FileContent where
  | absent
  | directory
  | bytes (content : ByteArray)

/-- A path: what is found there, and whether the directories above it exist or can be made. -/
structure Place where
  content : FileContent
  reachable : Bool := true

namespace Config

/-- The path of the user's file, below the directory for configuration files. -/
def userPath : String := "query_flow/config.json"

def load (place : Place) : Config :=
  match place.content with
  | .bytes content => ((String.fromUTF8? content).bind read?).getD {}
  | .absent | .directory => {}

def save? (c : Config) (place : Place) : Option Place :=
  match place.content with
  | .directory => none
  | .absent | .bytes _ =>
    if place.reachable then some { place with content := .bytes c.text.toUTF8 } else none

end Config

end SqlGateway
