-- SUMMARY: Names of templates and the spellings that mean the same.
import GenreProse.Text.CaseMap

/-!
# Template names

A name may have blanks around it and the namespace before it, spaces stand for underscores, and
capitals for small letters. The canonical name is the same for all of these spellings.
-/

namespace GenreProse

/-- The namespace of templates, which a name may be written with. -/
def templateNamespace : Chars :=
  "template:".toList

/-- A name without the namespace and the blanks after it. The case of ASCII letters in the
    namespace does not matter. -/
def dropNamespace (name : Chars) : Chars :=
  if sameIgnoringAsciiCase (name.take templateNamespace.length) templateNamespace then
    Chars.trimStart (name.drop templateNamespace.length)
  else name

/-- The canonical form of a template name. -/
def canonicalName (name : String) : String :=
  Text.lower (Text.replace (Text.onChars (fun s => dropNamespace (Chars.trim s)) name) " " "_")

end GenreProse
