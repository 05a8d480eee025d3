import LSystemExplorer.Catalog.Basic
import LSystemExplorer.Catalog.Builtin

/-!
# Loading catalogs

A catalog is loaded all or nothing: if any record makes no model, the first such
record is the outcome.  A text without records is no catalog either.  Before any
of this a file has to be read, and its octets have to be text.
-/

set_option autoImplicit false

namespace LSystemExplorer

/-- Why a file cannot be read or made. -/
inductive FileFault
  | notFound
  | notDirectory
  | isDirectory
  | nameTooLong
  | noDevice
  /-- The path holds a character that ends names for the system. -/
  | zeroInName
  | notText
  | other (message : String)
  deriving Repr, DecidableEq

/-- The system's number for a fault, its kind, and its wording. -/
def FileFault.details? : FileFault → Option (Nat × String × String)
  | .notFound => some (2, "NotFound", "No such file or directory")
  | .noDevice => some (6, "Uncategorized", "No such device or address")
  | .notDirectory => some (20, "NotADirectory", "Not a directory")
  | .isDirectory => some (21, "IsADirectory", "Is a directory")
  | .nameTooLong => some (36, "InvalidFilename", "File name too long")
  | .zeroInName | .notText | .other _ => none

/-- The wording of a fault: that of the operating system with its number, where there is one. -/
def FileFault.message (fault : FileFault) : String :=
  match fault.details? with
  | some (number, _, wording) => s!"{wording} (os error {number})"
  | none =>
    match fault with
    | .zeroInName => "file name contained an unexpected NUL byte"
    | .other message => message
    | _ => "stream did not contain valid UTF-8"

/-- The wording of a fault that ends the program by itself. -/
def FileFault.report (fault : FileFault) : String :=
  match fault.details? with
  | some (number, kind, wording) =>
    s!"Os \x7b code: {number}, kind: {kind}, message: " ++ Text.quoted wording.toList ++ " \x7d"
  | none =>
    match fault with
    | .zeroInName =>
      "Error \x7b kind: InvalidInput, message: " ++ Text.quoted fault.message.toList ++ " \x7d"
    | _ => fault.message

/-- Why there is no catalog. -/
inductive CatalogError (α : Type)
  | unreadable (path : String) (fault : FileFault)
  | malformed (error : Yaml.DecodeError)
  | invalid (refusal : InvalidModel α)
  | empty
  deriving DecidableEq

/-- The wording of the refusal of a catalog.  Of a text that is not a document only
so much is said. -/
def CatalogError.message : CatalogError Float → String
  | .unreadable path fault => s!"Failed to read catalog '{path}': {fault.message}"
  | .malformed (.mismatched problem) => s!"Malformed catalog: {problem.message}"
  | .malformed (.malformed _) => "Malformed catalog"
  | .invalid refusal => refusal.message
  | .empty => "Catalog contains no models"

namespace Catalog

variable {α : Type}

/-- The catalog of some models, of which there has to be one at least. -/
def ofModels (models : List (Model α)) : Except (CatalogError α) (Catalog α) :=
  match ofModels? models with
  | some catalog => .ok catalog
  | none => .error .empty

/-- The catalog of the models of some records.  The first record that makes no model decides. -/
def ofRecords [Scalar α] (records : List (Record α)) : Except (CatalogError α) (Catalog α) :=
  match records.mapM Record.toModel with
  | .error refusal => .error (.invalid refusal)
  | .ok models => ofModels models

/-- The catalog that is always there. -/
def builtin [Scalar α] : Except (CatalogError α) (Catalog α) :=
  ofRecords Builtin.records

/-- The catalog that is written down in a text. -/
def ofText (text : String) : Except (CatalogError Float) (Catalog Float) :=
  match Record.listOfText text.toList with
  | .error error => .error (.malformed error)
  | .ok records => ofRecords records

/-- The catalog in a file, given what reading the file led to. -/
def ofFile (path : String) (content : Except FileFault ByteArray) :
    Except (CatalogError Float) (Catalog Float) :=
  match content with
  | .error fault => .error (.unreadable path fault)
  | .ok octets =>
    match String.fromUTF8? octets with
    | none => .error (.unreadable path .notText)
    | some text => ofText text

end Catalog

end LSystemExplorer
