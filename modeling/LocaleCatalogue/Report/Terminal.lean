import LocaleCatalogue.Report.Table

/-!
# Terminals

A console that is a number of cells wide. Tags in brackets set a style and are not shown, and lines
that are too long are broken, unless they are printed for other programs.
-/

namespace LocaleCatalogue

namespace Terminal

/-- Lines with a line end after each. -/
def endLines (lines : List Text) : Text := lines.flatMap (· ++ [0x0A])

/-- What is shown of a text in lines that are too long for the width. -/
def unbroken (width : Nat) (t : Text) : Text :=
  endLines ((Text.splitOn 0x0A t).map fun line => Wrap.withoutExcess width (Wrap.expandTabs line))

end Terminal

/-- The console that is a number of cells wide. -/
def terminal (width : Nat) : Console where
  print t := (Markup.render t).map fun shown => Terminal.endLines (Wrap.wrap .fold width shown)
  printUnbroken t := (Markup.render t).map (Terminal.unbroken width)
  printTable columns rows :=
    (rows.mapM (List.mapM Markup.render)).map (Table.draw width columns)

end LocaleCatalogue
