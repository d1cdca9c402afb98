import ArchivalBag.Reading
import ArchivalBag.Text.Lines

/-!
# Lines of a fetch list

The items of a fetch list are those of its lines, in order.

* `parseFetchList`: the items of the lines of a file.
-/

namespace ArchivalBag

open Text

/-- The items of some lines. -/
def parseFetchLines (source : Path) : List Line → Reading (List FetchItem)
  | [] => pure []
  | l :: ls =>
    match FetchItem.parse l.text with
    | .error f => .fail (.malformedFetchLine ⟨source, l.number, String.ofList l.text⟩ f)
    | .ok item => do
      .note (.urlRead item source)
      let items ← parseFetchLines source ls
      pure (item :: items)

/-- The items of the lines of a file. -/
def parseFetchList (source : Path) (lines : List String) : Reading (List FetchItem) :=
  parseFetchLines source (contentLines lines)

end ArchivalBag
