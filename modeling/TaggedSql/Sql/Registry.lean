/-
  The registry of dialects.

  A registry maps names to entries; an entry is a dialect under a title of its own.  Registering a
  name again replaces its entry.  `Registry.standard` holds the five dialects under their
  canonical names.
-/
import TaggedSql.Sql.Dialect

namespace TaggedSql.Sql

/-- A registered dialect; its title is what it is displayed by. -/
structure DialectEntry where
  title : String
  dialect : Dialect
  deriving DecidableEq, Repr, Inhabited

/-- An entry as it is displayed. -/
def DialectEntry.display (e : DialectEntry) : String := e.title ++ "()"

/-- The entry of a dialect that nothing was derived from. -/
def Dialect.entry : Dialect → DialectEntry
  | .ansi => ⟨"Grammar", .ansi⟩
  | .sqlite => ⟨"SQLiteGrammar", .sqlite⟩
  | .postgres => ⟨"PostgresGrammar", .postgres⟩
  | .mysql => ⟨"MySQLGrammar", .mysql⟩
  | .sqlServer => ⟨"SQLServerGrammar", .sqlServer⟩

/-- Entries under names, in the order of their first registration. -/
structure Registry where
  entries : List (String × DialectEntry)
  deriving Repr

namespace Registry

/-- The registry of the five dialects. -/
def standard : Registry :=
  ⟨[Dialect.ansi, .sqlite, .postgres, .mysql, .sqlServer].map fun d => (d.name, d.entry)⟩

/-- The entry under a name. -/
def find? (r : Registry) (name : String) : Option DialectEntry := r.entries.lookup name

/-- Puts an entry under a name, in place of the one that was there. -/
def register (r : Registry) (name : String) (e : DialectEntry) : Registry :=
  if (r.find? name).isSome then
    ⟨r.entries.map fun p => if p.1 = name then (name, e) else p⟩
  else ⟨r.entries ++ [(name, e)]⟩

/-- Puts a name into a sorted list of names. -/
def insertName (name : String) : List String → List String
  | [] => [name]
  | n :: ns => if name < n then name :: n :: ns else n :: insertName name ns

/-- The registered names, sorted by code points. -/
def names (r : Registry) : List String := (r.entries.map Prod.fst).foldr insertName []

end Registry

end TaggedSql.Sql
