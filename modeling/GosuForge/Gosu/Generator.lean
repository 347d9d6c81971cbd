import GosuForge.Generation.Plan
import GosuForge.Gosu.Settings

/-!
# Making Gosu generators

A Gosu generator is made from settings or from options on top of the Gosu defaults.
-/

namespace GosuForge

namespace Generator

def gosu (settings : GosuSettings) (header : Option Template) : Generator :=
  ⟨"gosu", settings, header⟩

def ofSettings (settings : Settings) (header : Option Template) : Except Fault Generator := do
  let accepted ← GosuSettings.accept settings
  .ok (gosu accepted header)

/-- Options are overrides of the Gosu defaults. -/
def ofOptions (options : Value) (header : Option Template) : Except Fault Generator := do
  let settings ← Settings.combine (.str "gosu") options []
  ofSettings settings header

/-- The options that are given where the caller gives none. -/
def standardOptions : Entries :=
  [("doc_comments", .bool true), ("use_tabs", .bool false), ("indent_size", .int 4)]

/-- A generator with the shipped header and the options on top of the standard ones. -/
def ofStandardOptions (options : Value) : Except Fault Generator := do
  let given ← if options.truthy then options.asEntries else .ok []
  ofOptions (.obj (Entries.update standardOptions given)) (some SourceFile.header)

end Generator

end GosuForge
