import HttpRoutes.Handler.Controller

/-!
# Sample handlers

Controllers and functions for trying out routes: one that greets, one that tells everything a
handler is given, and functions that answer with fixed texts.
-/

namespace HttpRoutes

open HttpRoutes.Text

/-- Greets the parameter `name`, or the world. -/
def greeter : Controller where
  invoke method i :=
    let name := (i.params.get? "name").getD "world"
    match method with
    | "run" => some (.plain 200 s!"hello {name}")
    | "shout" => some (.plain 200 s!"HELLO {name.toUpper}")
    | _ => none

/-- The longest body, in bytes, that an inspection shows if it is a text. -/
def inspectedBodyLimit : Nat := 200

/-- Headers in ascending order of names and values. -/
def sortHeaders (h : Http.Headers) : Http.Headers :=
  h.mergeSort fun a b => a.1 < b.1 || (a.1 = b.1 && a.2 ≤ b.2)

/-- A pair of texts as a list. -/
def pairJson (p : String × String) : Json := .list [.text p.1, .text p.2]

/-- Everything that a handler is given. -/
def inspection (method : Option String) (i : Invocation) : Json :=
  let size := i.body.size
  let body := if size ≤ inspectedBodyLimit then String.fromUTF8? i.body else none
  let headers := i.headers.filter (·.1 != Http.requestIdHeader)
  .sorted [("body", body.elim .null .text),
    ("body_len", .number size), ("headers", .list ((sortHeaders headers).map pairJson)),
    ("method", match method with
      | some m => .text m
      | none => .null),
    ("params", .list (i.params.pairs.map pairJson)), ("path", .text i.path),
    ("request_id", .text i.requestId), ("verb", .text i.verb.token)]

/-- Has every method, and tells everything it is given. -/
def inspector : Controller where
  invoke method i := some (.plain 200 (inspection (some method) i).render)

/-- Tells everything it is given. -/
def inspectFunction : Handler := .function fun i => .plain 200 (inspection none i).render

/-- Tells the path. -/
def textFunction : Handler := .function fun i => .plain 200 s!"text {i.path}"

/-- Refuses to brew coffee. -/
def teapotFunction : Handler := .function fun _ =>
  let answer := Http.Response.plain 418 "short and stout"
  { answer with headers := answer.headers ++ [("x-kind", "teapot")] }

/-- The sample controller of a name. -/
def sampleController? : String → Option Controller
  | "echo" => some echo
  | "greeter" => some greeter
  | "inspector" => some inspector
  | _ => none

/-- The sample function of a name. -/
def sampleFunction? : String → Option Handler
  | "text" => some textFunction
  | "teapot" => some teapotFunction
  | "inspect" => some inspectFunction
  | _ => none

end HttpRoutes
