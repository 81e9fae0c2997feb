-- SUMMARY: The index from page titles to genres.
import GenreProse.Json.Reader
import GenreProse.Text.CaseFold

/-!
# Genre index

The index knows the pages that are about a genre. Titles that have the same case folding are the
same title; adding such a title again replaces its genre and keeps its place.

A file is read into a hash map first, and the entries of the map are added in the order that it
gives them. This order may be another one in every run, so it is taken as given. It matters for
titles that differ in case only.
-/

namespace GenreProse

/-- Page titles with the identifiers of their genres, at most one for each folded title. -/
structure GenreIndex where
  /-- Folded titles with the genres. -/
  entries : List (String × String)
  deriving Repr

namespace GenreIndex

def empty : GenreIndex :=
  ⟨[]⟩

/-- Puts an entry in the place of the one with the same key, or at the end. -/
def put (key genre : String) : List (String × String) → List (String × String)
  | [] => [(key, genre)]
  | entry :: entries =>
    if entry.1 = key then (key, genre) :: entries else entry :: put key genre entries

/-- Adds a title. -/
def insert (index : GenreIndex) (title genre : String) : GenreIndex :=
  ⟨put (Text.fold title) genre index.entries⟩

def insertAll (index : GenreIndex) (titles : List (String × String)) : GenreIndex :=
  titles.foldl (fun index (title, genre) => index.insert title genre) index

def lookup? (index : GenreIndex) (title : String) : Option String :=
  index.entries.lookup (Text.fold title)

def size (index : GenreIndex) : Nat :=
  index.entries.length

def isEmpty (index : GenreIndex) : Bool :=
  index.entries.isEmpty

end GenreIndex

/-- The order in which a hash map gives its entries. -/
structure EntryOrder where
  arrange : List (String × String) → List (String × String)
  /-- Each entry is given once. -/
  perm : ∀ entries, (arrange entries).Perm entries

/-- The order in which the entries were put into the map. -/
def EntryOrder.asRead : EntryOrder :=
  ⟨id, List.Perm.refl⟩

namespace GenreIndex

/-- The entries of a hash map for the members of an object whose keys are titles and whose values
    are genres. The last of the members with one key counts. -/
def entriesOf? (value : Json) : Option (List (String × String)) := do
  let members ← value.object?
  let titles ← members.mapM fun (title, genre) => do return (title, ← genre.string?)
  return titles.foldl (fun entries (title, genre) => put title genre entries) []

/-- The entries that the text of a file has. -/
def readEntries? (text : String) : Option (List (String × String)) :=
  (Json.read? text).bind entriesOf?

/-- The index of the entries, as a hash map gives them. -/
def ofEntries (order : EntryOrder) (entries : List (String × String)) : GenreIndex :=
  empty.insertAll (order.arrange entries)

/-- Reads an index from the text of a file. -/
def read? (order : EntryOrder) (text : String) : Option GenreIndex :=
  (readEntries? text).map (ofEntries order)

end GenreIndex

end GenreProse
