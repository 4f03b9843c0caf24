import HostedFs.Data.Json
import HostedFs.Data.Toml.Parse
import HostedFs.Data.Toml.Render

/-! # Formats of documents

    A program leaves the writing and reading of documents to a library for their
    format. Here the library is a parameter: whatever concerns documents takes
    a `Codec`, which has its writer and its reader.

    * `Codec`: a writer and a reader;
    * `Toml.codec`, `Json.codec`: those of this project.
-/

namespace HostedFs

/-- The writer and the reader of a format. `α` is what a document is written
    from: the entries of a table in a format whose documents are tables, and a
    `Tree` where any value is a document. -/
structure Codec (α : Type) where
  /-- The text of a document. -/
  render : α → String
  /-- The tree of a document, unless the text is not well formed. -/
  parse? : String → Option Tree

/-- `Toml.render` with `Toml.parse?`. -/
def Toml.codec : Codec (List (String × Tree)) :=
  ⟨render, parse?⟩

/-- `Json.render` with `Json.parse?`. -/
def Json.codec : Codec Tree :=
  ⟨render, parse?⟩

end HostedFs
