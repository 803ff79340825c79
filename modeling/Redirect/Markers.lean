/-
# Markers of protected lines

A line that holds a marker is left alone: by default a declaration, which may define the
very name that is being redirected, or a comment.
-/

import Redirect.Text.Substring

namespace Redirect

/-- Texts that protect every line which holds one of them. -/
structure Markers where
  texts : List String
  deriving DecidableEq, Repr

namespace Markers

/-- The markers in a list. An empty text marks nothing. -/
def ofList (texts : List String) : Markers :=
  ⟨texts.filter fun text => !text.isEmpty⟩

/-- A line is protected when it holds a marker. -/
def protects (markers : Markers) (line : String) : Bool :=
  markers.texts.any fun text => Text.occurs text.toList line.toList

end Markers

end Redirect
