import TemplateIR.Emit.OptionsScan

/-!
Naming options from a file.
-/
namespace TemplateIR

inductive FileContent where
  | absent
  | directory
  | bytes (content : ByteArray)

inductive UnreadableFile where
  | notFound
  | isDirectory
  /-- The bytes are no UTF-8. -/
  | notText
deriving DecidableEq, Repr

def UnreadableFile.name : UnreadableFile → String
  | .notFound => "NotFound"
  | .isDirectory => "IsADirectory"
  | .notText => "InvalidData"

inductive OptionsFileError where
  | unreadable (cause : UnreadableFile)
  | invalid (error : OptionsError)
deriving DecidableEq, Repr

def OptionsFileError.message (path : String) : OptionsFileError → String
  | .unreadable _ => "failed to read " ++ path
  | .invalid error => "invalid naming options in " ++ path ++ ": " ++ error.message

def FileContent.text : FileContent → Except UnreadableFile String
  | .absent => .error .notFound
  | .directory => .error .isDirectory
  | .bytes content =>
    match String.fromUTF8? content with
    | some text => .ok text
    | none => .error .notText

def OptionsReader.ofFile (reader : OptionsReader) (content : FileContent) :
    Except OptionsFileError NamingOptions :=
  match content.text with
  | .error cause => .error (.unreadable cause)
  | .ok text =>
    match reader.ofText text with
    | .error error => .error (.invalid error)
    | .ok options => .ok options

def NamingOptions.ofFile (content : FileContent) : Except OptionsFileError NamingOptions :=
  OptionsReader.scanning.ofFile content

end TemplateIR
