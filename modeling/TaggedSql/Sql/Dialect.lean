/-
  The five dialects, and where they differ outside paging.

  A dialect decides which characters quote an identifier, how its text is lexed, and how a
  timestamp or a time is written when it is bound.  `Dialect.quotePart` doubles the closing quote
  inside a name, so that the name ends where it is meant to.

  Timestamps are written without an offset, so aware ones are moved to UTC first; PostgreSQL alone
  keeps the offset and writes the value in full.
-/
import TaggedSql.Calendar.Timestamp
import TaggedSql.Placeholder.Lexeme

namespace TaggedSql.Sql

open TaggedSql.Calendar TaggedSql.Placeholder

/-- A dialect of SQL. -/
inductive Dialect where
  | ansi
  | sqlite
  | postgres
  | mysql
  | sqlServer
  deriving DecidableEq, Repr, Inhabited

namespace Dialect

/-- The canonical name of the dialect. -/
def name : Dialect → String
  | ansi => "ansi"
  | sqlite => "sqlite"
  | postgres => "postgres"
  | mysql => "mysql"
  | sqlServer => "sqlserver"

/-- The characters that open and close a quoted identifier. -/
def quotes : Dialect → Char × Char
  | mysql => ('\x60', '\x60')
  | sqlServer => ('[', ']')
  | ansi | sqlite | postgres => ('"', '"')

/-- How the dialect's text is lexed: MySQL escapes with backslashes, SQL Server quotes with
    brackets. -/
def lexing (d : Dialect) : LexOptions := ⟨d == mysql, d == sqlServer⟩

/-- The format of timestamps without a fraction, by the usual conversion letters. -/
def timestampFormat : String := "%Y-%m-%d %H:%M:%S"

/-- The format of times without a fraction, by the usual conversion letters. -/
def timeFormat : String := "%H:%M:%S"

/-- A name in quotes, its closing quotes doubled. -/
def quotePart (d : Dialect) (part : String) : String :=
  let close := d.quotes.2
  String.ofList (d.quotes.1 ::
    part.toList.flatMap (fun c => if c = close then [c, c] else [c]) ++ [close])

/-- A day and a time of day with the year as short as it is. -/
def wallClock (t : Timestamp) : String :=
  Number.ofInt t.date.year ++ "-" ++ Number.padded 2 t.date.month ++ "-" ++
    Number.padded 2 t.date.day ++ " " ++ t.clock.hms

/-- A timestamp as it is bound; none when UTC takes it out of the calendar. -/
def timestampText? (d : Dialect) (t : Timestamp) : Option String :=
  match d with
  | postgres => some t.text
  | mysql => t.toUtc?.map fun u => wallClock u ++ u.clock.fraction
  | ansi | sqlite | sqlServer => t.toUtc?.map wallClock

/-- A time of day as it is bound. -/
def timeText (d : Dialect) (t : Clock) : String :=
  match d with
  | postgres => t.text
  | ansi | sqlite | mysql | sqlServer => t.hms

end Dialect

end TaggedSql.Sql
