import FaultDrill.Yaml.Node.Parser
import FaultDrill.Yaml.Token.Lexer

/-!
YAML text with at most one document. The document may follow directives, which
say for which version of the notation it is written and what its tags abbreviate.
-/

namespace FaultDrill.Yaml

/-- What directives have said. -/
structure Directives where
  hasVersion : Bool
  handles : Handles

/-- Reads directives, none of which may come twice. Versions 1.1 and 1.2 are
known. -/
def readDirectives (directives : Directives) : List Token → Option (Directives × List Token)
  | .versionDirective major minor :: rest =>
      if directives.hasVersion || major ≠ 1 || !(minor = 1 || minor = 2) then none
      else readDirectives { directives with hasVersion := true } rest
  | .tagDirective handle target :: rest =>
      if (directives.handles.lookup handle).isSome then none
      else readDirectives
        { directives with handles := directives.handles ++ [(handle, target)] } rest
  | rest => some (directives, rest)

/-- The root of a document behind its start. -/
def readContent (handles : Handles) (tokens : List Token) : Option (Node × List Token) := do
  let (root, progress) ←
    NodeReader.readNode handles (4 * tokens.length + 4) .block ⟨tokens, []⟩
  some (root, progress.tokens)

/-- The root of the first document, and the tokens behind it. A document that is
marked as started may be empty, and so may the whole text. -/
def readDocument (tokens : List Token) : Option (Node × List Token) :=
  match tokens with
  | [] => some (.empty, [])
  | .versionDirective _ _ :: _ | .tagDirective _ _ :: _ | .documentStart :: _ => do
      let (directives, rest) ← readDirectives ⟨false, []⟩ tokens
      match rest with
      | .documentStart :: rest =>
          match rest with
          | [] | .versionDirective _ _ :: _ | .tagDirective _ _ :: _ | .documentStart :: _
          | .documentEnd :: _ => some (.empty, rest)
          | _ => readContent (directives.handles ++ Handles.standard) rest
      | _ => none
  | _ => readContent Handles.standard tokens

/-- The root of the only document of a text. Nothing but ends of documents may
follow it. -/
def root? (text : String) : Option Node := do
  let (root, rest) ← readDocument (← tokens? text)
  if rest.all (· = .documentEnd) then some root else none

end FaultDrill.Yaml
