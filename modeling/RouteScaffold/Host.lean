import RouteScaffold.Files.Tree
import RouteScaffold.Log.Event

/-!
What a run asks of the machine that it runs on, and a machine that is a value.

A run is written once for every host. On a `Desk`, which holds a file system, the printed text and
the events so far, its outcome is a function of that value.
-/

namespace RouteScaffold

class Host (m : Type → Type) where
  holds : Path → m Bool
  hasFile : Path → m Bool
  readText : Path → ExceptT IoFault m String
  /-- Makes a directory and those above it that are missing. -/
  makeDirs : Path → ExceptT IoFault m Unit
  writeText : Path → String → ExceptT IoFault m Unit
  printLine : String → m Unit
  log : LogEvent → m Unit

structure Desk where
  files : FileTree := .fresh
  printed : String := ""
  /-- The events so far, in order. -/
  events : List LogEvent := []

namespace Desk

/-- Lets an action on the file system change the files of a desk. -/
def onFiles {α : Type} (action : DiskM α) : ExceptT IoFault (StateM Desk) α :=
  ExceptT.mk fun desk =>
    let (result, files) := action.run desk.files
    (result, { desk with files })

instance : Host (StateM Desk) where
  holds path := do pure ((← get).files.holds path)
  hasFile path := do pure ((← get).files.hasFile path)
  readText path := ExceptT.mk do pure ((← get).files.readText path)
  makeDirs path := onFiles (FileTree.makeDirs path)
  writeText path contents := onFiles (FileTree.write path (.text contents))
  printLine line := modify fun desk => { desk with printed := desk.printed ++ line ++ "\n" }
  log event := modify fun desk => { desk with events := desk.events ++ [event] }

end Desk

end RouteScaffold
