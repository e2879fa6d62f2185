import RouteScaffold.Template.Render

/-!
Template languages, as far as the generator can tell: a source is read once and the result is written
out for given data, as often as it is asked for.

The generator works with any language. `Engine.standard` covers the part that the built-in templates need
and not much more:

* texts, comments, raw parts and outputs, with the blanks around tags;
* `if` with `elif` and `else`, and `for` over a single name with `else`; `loop` shows the position, the
  ends and the length;
* in expressions names, constants, fields, indices, comparisons, `not`, `and`, `or` and conditionals.

A source with anything else has no template: `set`, `with`, macros, blocks, inclusion, calls, tests with
`is`, `in`, arithmetic, `~`, lists, maps, slices, loops over several names and loops with a condition.
Filters are read, and every one of them fails as unknown.
-/

namespace RouteScaffold.Template

/-- A template language. Each of its errors is told as the `TemplateFault` that comes closest. -/
structure Engine where
  /-- A template that was read. -/
  Compiled : Type
  /-- Reads the source of a template with the given name. -/
  read (name source : String) : Except TemplateFault Compiled
  /-- Writes out a template for the given data; all templates of the run are at hand by their names. -/
  write (templates : List (String × Compiled)) (template : Compiled) (data : Scope) : Outcome String

namespace Engine

abbrev standard : Engine where
  Compiled := List Node
  read _ source :=
    match Node.parse? source with
    | some nodes => .ok nodes
    | none => .error .badSyntax
  write _ nodes data := Node.renderAll data nodes

end Engine

end RouteScaffold.Template
