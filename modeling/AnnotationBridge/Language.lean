import AnnotationBridge.Path
import AnnotationBridge.Text.Case

/-!
# Languages

A language is named by an identifier such as `java`. `languageOf` tells it from a file name: some
names of server configuration files stand for a language of their own, and else the extension
decides.
-/

namespace AnnotationBridge

/-- The files that are recognised by their whole name. -/
def namedFiles : List (String × String) :=
  [("server.env", "serverenv"), ("bootstrap.properties", "bootstrap"),
    ("microprofile-config.properties", "microprofile-properties")]

/-- The extensions whose language has another name. -/
def namedExtensions : List (String × String) :=
  [("yml", "yaml"), ("env", "serverenv")]

/-- The language of files with an extension in lower case. -/
def languageOfExtension (ext : String) : String :=
  (namedExtensions.lookup ext).getD ext

/-- The language of a file with the given name, if its name or extension tells. -/
def languageOf (name : String) : Option String :=
  (namedFiles.lookup name).or do
    let last ← (Path.ofString name).fileName
    let text ← Text.Utf8.decode? last
    let ext ← extension text.toList
    some (languageOfExtension (String.ofList (Text.lowercase ext)))

end AnnotationBridge
