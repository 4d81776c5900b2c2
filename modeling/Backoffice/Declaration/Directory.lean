import Backoffice.Catalog.Backend
import Backoffice.Declaration.Application
import Backoffice.Json.Reader

/-!
Declarations and catalogs from texts, and from the files of a directory.
-/

namespace Backoffice

structure DeclaredConfig where
  app : AppDeclaration
  backends : Backends

namespace DeclaredConfig

def appFile : String := "app.json"

def schemasFile : String := "schemas.json"

def actionsFile : String := "actions.json"

def load {Value : Type} (read? : Document → Option Value) (text : String) : Except Error Value :=
  match (Document.ofText? text).bind read? with
  | some value => .ok value
  | none => .error .load

def loadOptional {Value : Type} (read? : Document → Option Value) (text : Option String) :
    Except Error (Option Value) :=
  match text with
  | some text => (load read? text).map some
  | none => .ok none

/-- What the files of a directory declare. There must be an application and a catalog. -/
def ofFiles (files : Table String) : Except Error DeclaredConfig := do
  let app ← match files.get? appFile with
    | some text => load AppDeclaration.ofDocument? text
    | none => .error .load
  let simple ← loadOptional SchemaCatalog.ofDocument? (files.get? schemasFile)
  let declarative ← loadOptional ActionCatalog.ofDocument? (files.get? actionsFile)
  if simple.isNone && declarative.isNone then .error .load
  else .ok { app, backends := { simple, declarative } }

end DeclaredConfig

end Backoffice
