import PlainReport.Pattern.TablePattern
import PlainReport.Table.Sheet
import PlainReport.Table.Typed

/-!
# From raw rows to a sheet

Raw rows are cast, grouped if the pattern asks for it, selected and fitted, and
then printed on a sheet.
-/

namespace PlainReport.TablePattern

/-- The typed rows that the pattern shows. -/
def select (p : TablePattern) (rows : List Row) : Logged CastNotice (List Row) :=
  let cast := Row.castAll p.schema rows
  let grouped := match p.grouping with
    | some g => g.apply p.schema cast.result
    | none => cast.result
  ⟨Condition.select p.conditions grouped, cast.notices⟩

/-- The sheet of raw rows. -/
def sheet (p : TablePattern) (defaultWidth : Nat) (rows : List Row) : Logged CastNotice Sheet :=
  let selected := p.select rows
  ⟨Sheet.ofRows p.schema defaultWidth p.title (selected.result.map (Row.fit p.schema)),
    selected.notices⟩

end PlainReport.TablePattern
