import RouteScaffold.Document.Json
import RouteScaffold.Log.Settings

/-!
Log events in their written forms.
-/

namespace RouteScaffold

namespace LogEvent

/-- The message and the fields behind it, as in `loaded path=x groups=2`. -/
def text (event : LogEvent) : String :=
  event.message ++ String.join (event.fields.map fun f => " " ++ f.1 ++ "=" ++ f.2.print)

end LogEvent

def LogValue.datum : LogValue → Datum
  | .text s | .quoted s => .text s
  | .nat n => .number (toString n)
  | .bool b => .bool b

namespace LogEvent

/-- The message and the fields as a record. -/
def fieldsDatum (event : LogEvent) : Datum :=
  .record
    ((.text "message", .text event.message) ::
      event.fields.map fun f => (.text f.1, f.2.datum))

/-- An event as a line, with the time at which it happened. -/
def line (event : LogEvent) (settings : LogSettings) (time : String) : String :=
  match settings.format with
  | .pretty =>
    let place := if settings.includeLocation then event.target ++ ": " else ""
    time ++ " " ++ event.level.text ++ " " ++ place ++ event.text
  | .json =>
    let place : List (Datum × Datum) :=
      if settings.includeLocation then [(.text "filename", .text event.target)] else []
    Json.write
      (.record
        ([(.text "timestamp", .text time),
          (.text "level", .text event.level.text),
          (.text "fields", event.fieldsDatum),
          (.text "target", .text event.target)] ++ place))

end LogEvent

end RouteScaffold
